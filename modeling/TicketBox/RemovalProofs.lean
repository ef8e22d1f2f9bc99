import TicketBox.RemovalService

/-! # When a removal goes through

    `ConcertService.remove` deletes by hand what refers to a concert, but neither the
    payments of its orders nor the counters of its ticket types, and a foreign key
    refuses the transaction where there are any (`removeAll_eq`); nor does the check of
    `TicketTypeService.remove` see the items of orders that are over.  `Coherent` is
    what the writes of the system keep, and what the order of the deletions needs. -/

namespace TicketRemoval

open ForeignKeys
open TicketStore (UserId ConcertId TicketTypeId OrderId Role OrderStatus ApiError)

/-! ## What every write keeps -/

/-- References are sound, keys unique, and every row is as its service has checked it. -/
structure Coherent (db : Tables Row) : Prop where
  sound : Sound schema db
  keyed : Keyed schema db
  checked : ∀ t, ∀ r ∈ db t, Checked db t r

/-- A `NOT NULL` column of a row that came from another is that of the other. -/
theorem column_came {t target : Table} (column : Row t → Nat) {rule : OnDelete (Row t)}
    {r r' : Row t} (h : Came schema r r') (hfk : refers target column rule ∈ foreignKeys t) :
    column r' = column r := by
  rcases h.column _ hfk with hsame | hnone
  · exact Option.some.inj hsame
  · cases hnone

/-- Where every row comes from a row, what the services checked stays true. -/
theorem checked_of_came {db db' : Tables Row}
    (hcame : ∀ t, ∀ r' ∈ db' t, ∃ r ∈ db t, Came schema r r')
    (h : ∀ t, ∀ r ∈ db t, Checked db t r) : ∀ t, ∀ r ∈ db' t, Checked db' t r := by
  -- rows that came over have the columns they had
  have horder : ∀ o' ∈ db' .order, ∃ o ∈ db .order, o'.id = o.id ∧ o'.concertId = o.concertId := by
    intro o' ho'
    obtain ⟨o, ho, hsame⟩ := hcame .order o' ho'
    exact ⟨o, ho, hsame.id, column_came Order.concertId hsame
      (List.mem_cons_of_mem _ List.mem_cons_self)⟩
  have hitem : ∀ i' ∈ db' .orderItem, ∃ i ∈ db .orderItem, i'.id = i.id ∧ i'.orderId = i.orderId ∧
      i'.ticketTypeId = i.ticketTypeId := by
    intro i' hi'
    obtain ⟨i, hi, hsame⟩ := hcame .orderItem i' hi'
    refine ⟨i, hi, hsame.id, ?_, ?_⟩
    · exact column_came OrderItem.orderId hsame List.mem_cons_self
    · exact column_came OrderItem.ticketTypeId hsame
        (List.mem_cons_of_mem _ List.mem_cons_self)
  have htype : ∀ tt' ∈ db' .ticketType, ∃ tt ∈ db .ticketType, tt'.id = tt.id ∧
      tt'.concertId = tt.concertId := by
    intro tt' htt'
    obtain ⟨tt, htt, hsame⟩ := hcame .ticketType tt' htt'
    exact ⟨tt, htt, hsame.id,
      column_came TicketType.concertId hsame List.mem_cons_self⟩
  have hticket : ∀ k' ∈ db' .ticket, ∃ k ∈ db .ticket, k'.id = k.id ∧ k'.orderId = k.orderId ∧
      k'.orderItemId = k.orderItemId ∧ k'.concertId = k.concertId ∧
      k'.ticketTypeId = k.ticketTypeId := by
    intro k' hk'
    obtain ⟨k, hk, hsame⟩ := hcame .ticket k' hk'
    refine ⟨k, hk, hsame.id, ?_, ?_, ?_, ?_⟩
    · exact column_came Ticket.orderId hsame List.mem_cons_self
    · exact column_came Ticket.orderItemId hsame
        (List.mem_cons_of_mem _ List.mem_cons_self)
    · exact column_came Ticket.concertId hsame
        (List.mem_cons_of_mem _ (List.mem_cons_of_mem _ List.mem_cons_self))
    · exact column_came Ticket.ticketTypeId hsame
        (List.mem_cons_of_mem _ (List.mem_cons_of_mem _ (List.mem_cons_of_mem _ List.mem_cons_self)))
  -- so what the keys were checked for holds of them still
  intro t r' hr'
  cases t with
  | orderItem =>
      intro o' ho' hoid tt' htt' httid
      obtain ⟨i, hi, -, horderId, htypeId⟩ := hitem r' hr'
      obtain ⟨o, ho, hoid', hoc⟩ := horder o' ho'
      obtain ⟨tt, htt, httid', httc⟩ := htype tt' htt'
      rw [httc, hoc]
      refine h .orderItem i hi o ho ?_ tt htt ?_
      · rw [← hoid', hoid, horderId]
      · rw [← httid', httid, htypeId]
  | ticket =>
      obtain ⟨k, hk, -, horderId, hitemId, hconcert, htypeId⟩ := hticket r' hr'
      obtain ⟨hkorder, hkitem⟩ := h .ticket k hk
      constructor
      · intro o' ho' hoid
        obtain ⟨o, ho, hoid', hoc⟩ := horder o' ho'
        rw [hoc, hconcert]
        exact hkorder o ho (by rw [← hoid', hoid, horderId])
      · intro i' hi' hiid
        obtain ⟨i, hi, hiid', hiorder, hitype⟩ := hitem i' hi'
        rw [hiorder, hitype, horderId, htypeId]
        exact hkitem i hi (by rw [← hiid', hiid, hitemId])
  | checkinLog =>
      intro c hc k' hk' hkid
      obtain ⟨l, hl, hsame⟩ := hcame .checkinLog r' hr'
      obtain ⟨k, hk, hkid', -, -, hkc, -⟩ := hticket k' hk'
      have hlc : c ∈ l.concertId := by
        rcases hsame.column { target := .concert, column := CheckinLog.concertId, onDelete := _ }
          (List.mem_cons_of_mem _ (List.mem_cons_of_mem _ List.mem_cons_self)) with hkept | hnone
        · have hkept : r'.concertId = l.concertId := hkept
          rw [← hkept]
          exact hc
        · have hnone : r'.concertId = none := hnone
          rw [hnone] at hc
          cases hc
      have hlk : some k.id = l.ticketId := by
        rcases hsame.column { target := .ticket, column := CheckinLog.ticketId, onDelete := _ }
          List.mem_cons_self with hkept | hnone
        · have hkept : r'.ticketId = l.ticketId := hkept
          rw [← hkept, ← hkid, hkid']
        · have hnone : r'.ticketId = none := hnone
          rw [hnone] at hkid
          cases hkid
      rw [hkc]
      exact h .checkinLog l hl c hlc k hk hlk
  | _ => trivial

/-- No table refers to itself. -/
theorem target_ne : ∀ t, ∀ fk ∈ foreignKeys t, fk.target ≠ t := by
  intro t
  cases t <;> simp [foreignKeys, refers]

/-- An insertion that its service has checked. -/
theorem Coherent.insert {db db' : Tables Row} (h : Coherent db) {t : Table} {row : Row t}
    (hrow : Checked db t row) (hi : ForeignKeys.insert schema t row db = some db') :
    Coherent db' := by
  -- whatever a row refers to was there before
  have hold : ∀ {t' : Table} {r : Row t'}, r ∈ db' t' → ∀ fk ∈ foreignKeys t', ∀ k ∈ fk.column r,
      ∀ x ∈ db' fk.target, primaryKey fk.target x = k → x ∈ db fk.target := by
    intro t' r hr fk hfk k hk x hx hid
    rcases mem_insert hi hr with hr | ⟨ht, -⟩
    · exact old_of_referred h.sound h.keyed hi hfk hr hk hx hid
    · rcases mem_insert hi hx with hx | ⟨htarget, -⟩
      · exact hx
      · exact absurd (htarget.trans ht.symm) (target_ne t' fk hfk)
  have hchecked : ∀ t' : Table, ∀ r ∈ db' t', Checked db t' r := by
    intro t' r hr
    rcases mem_insert hi hr with hr | ⟨ht, hnew⟩
    · exact h.checked t' r hr
    · subst ht
      have hr : r = row := hnew
      rw [hr]
      exact hrow
  refine ⟨h.sound.insert hi, h.keyed.insert hi, ?_⟩
  intro t' r hr
  have hc := hchecked t' r hr
  cases t' with
  | orderItem =>
      intro o ho hoid tt htt httid
      refine hc o ?_ hoid tt ?_ httid
      · exact hold hr _ List.mem_cons_self r.orderId rfl o ho hoid
      · exact hold hr _ (List.mem_cons_of_mem _ List.mem_cons_self) r.ticketTypeId rfl tt htt httid
  | ticket =>
      constructor
      · intro o ho hoid
        exact hc.1 o (hold hr _ List.mem_cons_self r.orderId rfl o ho hoid) hoid
      · intro i hii hiid
        refine hc.2 i ?_ hiid
        exact hold hr _ (List.mem_cons_of_mem _ List.mem_cons_self) r.orderItemId rfl i hii hiid
  | checkinLog =>
      intro c hlc k hk hkid
      exact hc c hlc k (hold hr _ List.mem_cons_self k.id hkid.symm k hk rfl) hkid
  | _ => trivial

/-- What a removal leaves is coherent. -/
theorem Coherent.dropRows {db : Tables Row} (h : Coherent db) {t : Table} {gone : Nat → Bool}
    (hallowed : ¬ Refused schema t gone db) : Coherent (dropRows schema t gone db) where
  sound := h.sound.dropRows hallowed
  keyed := h.keyed.dropRows
  checked := checked_of_came (fun _ _ => came_dropRows) h.checked

/-- So is what `DELETE` leaves. -/
theorem Coherent.deleteWhere {db db' : Tables Row} (h : Coherent db) {t : Table} {p : Row t → Bool}
    (hd : deleteWhere schema t p db = some db') : Coherent db' := by
  rw [deleteWhere_eq] at hd
  split at hd
  · cases hd
  · next hallowed =>
    cases hd
    exact h.dropRows hallowed

/-- So is what an update leaves. -/
theorem Coherent.update {db : Tables Row} (h : Coherent db) {t : Table} {f : Row t → Row t}
    (hf : KeepsKeys schema t f) : Coherent (update t f db) where
  sound := h.sound.update hf
  keyed := h.keyed.update hf
  checked := checked_of_came (fun _ _ => came_update hf) h.checked

/-! ## What refuses a deletion -/

@[simp] theorem schema_keys (t : Table) : schema.keys t = foreignKeys t := rfl
@[simp] theorem schema_id (t : Table) : schema.id t = primaryKey t := rfl
@[simp] theorem schema_tables : schema.tables = tables := rfl

section

variable {gone : Nat → Bool} {db : Tables Row}

/-- What keeps an item. -/
theorem refused_orderItem : Refused schema .orderItem gone db ↔
    ∃ k ∈ db .ticket, gone k.orderItemId = true := by
  simp [Refused, tables, foreignKeys, refers, OnDelete.isRestrict, ForeignKey.hits]

/-- What keeps an order. -/
theorem refused_order : Refused schema .order gone db ↔
    (∃ i ∈ db .orderItem, gone i.orderId = true) ∨
      (∃ p ∈ db .paymentTransaction, gone p.orderId = true) ∨
      ∃ k ∈ db .ticket, gone k.orderId = true := by
  simp [Refused, tables, foreignKeys, refers, OnDelete.isRestrict, ForeignKey.hits]

/-- What keeps a type. -/
theorem refused_ticketType : Refused schema .ticketType gone db ↔
    (∃ i ∈ db .orderItem, gone i.ticketTypeId = true) ∨
      (∃ k ∈ db .ticket, gone k.ticketTypeId = true) ∨
      ∃ k ∈ db .userTicketCounter, gone k.ticketTypeId = true := by
  simp [Refused, tables, foreignKeys, refers, OnDelete.isRestrict, ForeignKey.hits]

/-- What keeps a concert. -/
theorem refused_concert : Refused schema .concert gone db ↔
    (∃ tt ∈ db .ticketType, gone tt.concertId = true) ∨
      (∃ o ∈ db .order, gone o.concertId = true) ∨
      (∃ k ∈ db .ticket, gone k.concertId = true) ∨
      ∃ g ∈ db .guestListEntry, gone g.concertId = true := by
  simp [Refused, tables, foreignKeys, refers, OnDelete.isRestrict, ForeignKey.hits]

/-- Nothing keeps a ticket. -/
theorem refused_ticket : ¬ Refused schema .ticket gone db := by
  simp [Refused, tables, foreignKeys, refers, OnDelete.isRestrict, ForeignKey.hits]

end

/-! ## What a deletion leaves -/

section

variable {db : Tables Row}

/-- A removal that nothing follows. -/
theorem dropRows_only {t : Table} {p : Row t → Bool} (h : Keyed schema db)
    (hrestrict : ∀ t', ∀ fk ∈ foreignKeys t', fk.target = t → fk.onDelete.isRestrict = true) :
    dropRows schema t (keysWhere schema t p db) db
      = Function.update db t ((db t).filter fun r => !p r) := by
  funext t'
  exact dropRows_restrict h t' (hrestrict t')

/-- The tables without the tickets that meet `p`. -/
def dropTickets (p : Ticket → Bool) (db : Tables Row) : Tables Row
  | .ticket => (db .ticket).filter fun k => !p k
  | .checkinLog => (db .checkinLog).map fun l =>
      if l.ticketId.any (keysWhere schema .ticket p db) then { l with ticketId := none } else l
  | t => db t

/-- The tables without the orders that meet `p`. -/
def dropOrders (p : Order → Bool) (db : Tables Row) : Tables Row
  | .order => (db .order).filter fun o => !p o
  | .idempotencyKey => (db .idempotencyKey).map fun k =>
      if k.orderId.any (keysWhere schema .order p db) then { k with orderId := none } else k
  | t => db t

/-- The tables without the concerts that meet `p`. -/
def dropConcerts (p : Concert → Bool) (db : Tables Row) : Tables Row
  | .concert => (db .concert).filter fun c => !p c
  | .gate => (db .gate).filter fun g => !keysWhere schema .concert p db g.concertId
  | .checkinLog => (db .checkinLog).map fun l =>
      if l.concertId.any (keysWhere schema .concert p db) then { l with concertId := none } else l
  | .uploadedFile => (db .uploadedFile).map fun f =>
      if f.concertId.any (keysWhere schema .concert p db) then { f with concertId := none } else f
  | t => db t

/-- The removal of tickets. -/
theorem dropRows_ticket (h : Keyed schema db) (p : Ticket → Bool) :
    dropRows schema .ticket (keysWhere schema .ticket p db) db = dropTickets p db := by
  funext t'
  cases t' with
  | checkinLog =>
    rw [dropRows_nulls (by decide) (by simp [foreignKeys, refers, OnDelete.isCascade])]
    refine List.map_congr_left ?_
    intro l _
    simp [nulled, nullKey, foreignKeys, refers, ForeignKey.hits]
  | _ =>
    rw [dropRows_restrict h]
    · simp [dropTickets]
    · simp [foreignKeys, refers, OnDelete.isRestrict]

/-- The removal of orders. -/
theorem dropRows_order (h : Keyed schema db) (p : Order → Bool) :
    dropRows schema .order (keysWhere schema .order p db) db = dropOrders p db := by
  funext t'
  cases t' with
  | idempotencyKey =>
    rw [dropRows_nulls (by decide) (by simp [foreignKeys, refers, OnDelete.isCascade])]
    refine List.map_congr_left ?_
    intro l _
    simp [nulled, nullKey, foreignKeys, refers, ForeignKey.hits]
  | _ =>
    rw [dropRows_restrict h]
    · simp [dropOrders]
    · simp [foreignKeys, refers, OnDelete.isRestrict]

/-- The removal of a concert. -/
theorem dropRows_concert (h : Keyed schema db) (p : Concert → Bool) :
    dropRows schema .concert (keysWhere schema .concert p db) db = dropConcerts p db := by
  funext t'
  cases t' with
  | gate =>
    have hkept : kept schema .concert (keysWhere schema .concert p db) .gate
        = fun g => !keysWhere schema .concert p db g.concertId := by
      funext g
      simp [kept, foreignKeys, refers, OnDelete.isCascade, ForeignKey.hits]
    have hnulled : nulled schema .concert (keysWhere schema .concert p db) .gate = id := by
      funext g
      simp [nulled, nullKey, foreignKeys, refers]
    rw [dropRows, hkept, hnulled, List.map_id]
    rfl
  | checkinLog =>
    rw [dropRows_nulls (by decide) (by simp [foreignKeys, refers, OnDelete.isCascade])]
    refine List.map_congr_left ?_
    intro l _
    simp [nulled, nullKey, foreignKeys, refers, ForeignKey.hits]
  | uploadedFile =>
    rw [dropRows_nulls (by decide) (by simp [foreignKeys, OnDelete.isCascade])]
    refine List.map_congr_left ?_
    intro l _
    simp [nulled, nullKey, foreignKeys, ForeignKey.hits]
  | _ =>
    rw [dropRows_restrict h]
    · simp [dropConcerts]
    · simp [foreignKeys, refers, OnDelete.isRestrict]

end

/-! ## The transaction, statement by statement -/

/-- The ticket type is one of the concert. -/
def typeOf (c : ConcertId) (db : Tables Row) (t : TicketTypeId) : Bool :=
  (db .ticketType).any fun tt => decide (tt.id = t ∧ tt.concertId = c)

/-- The ticket is one of the concert. -/
def ticketOf (c : ConcertId) (db : Tables Row) (k : Nat) : Bool :=
  (db .ticket).any fun ticket => decide (ticket.id = k ∧ ticket.concertId = c)

/-- An order of the concert has a payment. -/
def HasPayment (c : ConcertId) (db : Tables Row) : Prop :=
  ∃ p ∈ db .paymentTransaction, ofConcert c db p.orderId = true

/-- A ticket type of the concert has a counter. -/
def HasCounter (c : ConcertId) (db : Tables Row) : Prop :=
  ∃ k ∈ db .userTicketCounter, typeOf c db k.ticketTypeId = true

/-- The payments are searched. -/
instance (c : ConcertId) (db : Tables Row) : Decidable (HasPayment c db) :=
  inferInstanceAs (Decidable (∃ p ∈ db .paymentTransaction, _))

/-- The counters are searched. -/
instance (c : ConcertId) (db : Tables Row) : Decidable (HasCounter c db) :=
  inferInstanceAs (Decidable (∃ k ∈ db .userTicketCounter, _))

section

variable (c : ConcertId) (db : Tables Row)

/-- The tables after each statement of the transaction. -/
def noLogs : Tables Row :=
  Function.update db .checkinLog ((db .checkinLog).filter fun l => !decide (l.concertId = some c))

/-- The tables when the tickets are gone. -/
def noTickets : Tables Row := dropTickets (fun k => decide (k.concertId = c)) (noLogs c db)

/-- The tables when the order items are gone too. -/
def noItems : Tables Row :=
  Function.update (noTickets c db) .orderItem
    ((db .orderItem).filter fun i => !ofConcert c db i.orderId)

/-- The tables when the orders are gone too. -/
def noOrders : Tables Row := dropOrders (fun o => decide (o.concertId = c)) (noItems c db)

/-- The tables when the ticket types are gone too. -/
def noTypes : Tables Row :=
  Function.update (noOrders c db) .ticketType
    ((db .ticketType).filter fun tt => !decide (tt.concertId = c))

/-- The tables when the guest list is gone too. -/
def noGuests : Tables Row :=
  Function.update (noTypes c db) .guestListEntry
    ((db .guestListEntry).filter fun g => !decide (g.concertId = c))

/-- The tables when the uploaded files are gone too. -/
def noFiles : Tables Row :=
  Function.update (noGuests c db) .uploadedFile
    ((db .uploadedFile).filter fun f => !decide (f.concertId = some c))

/-- The tables when the concert is gone too. -/
def noConcert : Tables Row := dropConcerts (fun r => decide (r.id = c)) (noFiles c db)

end

variable {c : ConcertId} {db : Tables Row}

/-- The orders of the concert. -/
theorem keysWhere_order (db : Tables Row) (o : OrderId) :
    keysWhere schema .order (fun r => decide (r.concertId = c)) db o = ofConcert c db o := by
  simp only [keysWhere, ofConcert, Bool.decide_and]
  rfl

/-- The types of the concert. -/
theorem keysWhere_ticketType (db : Tables Row) (t : TicketTypeId) :
    keysWhere schema .ticketType (fun r => decide (r.concertId = c)) db t = typeOf c db t := by
  simp only [keysWhere, typeOf, Bool.decide_and]
  rfl

/-- The tickets of the concert. -/
theorem keysWhere_ticket (db : Tables Row) (k : Nat) :
    keysWhere schema .ticket (fun r => decide (r.concertId = c)) db k = ticketOf c db k := by
  simp only [keysWhere, ticketOf, Bool.decide_and]
  rfl

/-- An order of the concert. -/
theorem ofConcert_iff {o : OrderId} :
    ofConcert c db o = true ↔ ∃ order ∈ db .order, order.id = o ∧ order.concertId = c := by
  simp [ofConcert]

/-- A type of the concert. -/
theorem typeOf_iff {t : TicketTypeId} :
    typeOf c db t = true ↔ ∃ tt ∈ db .ticketType, tt.id = t ∧ tt.concertId = c := by
  simp [typeOf]

/-- A ticket of the concert. -/
theorem ticketOf_iff {k : Nat} :
    ticketOf c db k = true ↔ ∃ ticket ∈ db .ticket, ticket.id = k ∧ ticket.concertId = c := by
  simp [ticketOf]

/-- A ticket of an order of the concert is one of the concert. -/
theorem ticket_concert (h : Coherent db) {k : Ticket} (hk : k ∈ db .ticket)
    (hof : ofConcert c db k.orderId = true) : k.concertId = c := by
  obtain ⟨o, ho, hoid, hoc⟩ := ofConcert_iff.mp hof
  rw [← hoc]
  exact ((h.checked .ticket k hk).1 o ho hoid).symm

/-- An item with a type of the concert is of an order of the concert. -/
theorem item_concert (h : Coherent db) {i : OrderItem} (hi : i ∈ db .orderItem)
    (hof : typeOf c db i.ticketTypeId = true) : ofConcert c db i.orderId = true := by
  obtain ⟨tt, htt, httid, httc⟩ := typeOf_iff.mp hof
  obtain ⟨o, ho, hoid⟩ := h.sound .orderItem _ List.mem_cons_self i hi i.orderId rfl
  refine ofConcert_iff.mpr ⟨o, ho, hoid, ?_⟩
  rw [← httc]
  exact (h.checked .orderItem i hi o ho hoid tt htt httid).symm

/-- A ticket has an item, of the same order and the same type. -/
theorem ticket_item (h : Coherent db) {k : Ticket} (hk : k ∈ db .ticket) :
    ∃ i ∈ db .orderItem, i.id = k.orderItemId ∧ i.orderId = k.orderId ∧
      i.ticketTypeId = k.ticketTypeId := by
  obtain ⟨i, hi, hiid⟩ := h.sound .ticket _ (List.mem_cons_of_mem _ List.mem_cons_self) k hk
    k.orderItemId rfl
  obtain ⟨horder, htype⟩ := (h.checked .ticket k hk).2 i hi hiid
  exact ⟨i, hi, hiid, horder, htype⟩

/-- The tickets of other concerts. -/
theorem mem_noTickets {k : Ticket} :
    k ∈ noTickets c db .ticket ↔ k ∈ db .ticket ∧ k.concertId ≠ c := by
  show k ∈ (db .ticket).filter _ ↔ _
  simp

/-- The log rows go. -/
theorem step_logs (h : Coherent db) :
    deleteWhere schema .checkinLog (fun l => decide (l.concertId = some c)) db
      = some (noLogs c db) := by
  rw [deleteWhere_eq, dropRows_only h.keyed, if_neg]
  · rfl
  · simp [Refused, tables, foreignKeys, refers, ForeignKey.hits]
  · intro t'
    cases t' <;> simp [foreignKeys, refers]

/-- Then the tickets go. -/
theorem step_tickets (h : Coherent (noLogs c db)) :
    deleteWhere schema .ticket (fun k => decide (k.concertId = c)) (noLogs c db)
      = some (noTickets c db) := by
  rw [deleteWhere_eq, dropRows_ticket h.keyed, if_neg refused_ticket]
  rfl

/-- Then the items go. -/
theorem step_items (h : Coherent db) (hkeyed : Keyed schema (noTickets c db)) :
    deleteWhere schema .orderItem (fun i => ofConcert c (noTickets c db) i.orderId) (noTickets c db)
      = some (noItems c db) := by
  rw [deleteWhere_eq, dropRows_only hkeyed, if_neg]
  · rfl
  · -- the tickets that are left have items of other orders
    rw [refused_orderItem]
    rintro ⟨k, hk, hgone⟩
    obtain ⟨hk, hother⟩ := mem_noTickets.mp hk
    obtain ⟨i, hi, hiid, hof⟩ := keysWhere_iff.mp hgone
    obtain ⟨horder, -⟩ := (h.checked .ticket k hk).2 i hi hiid
    refine hother (ticket_concert h hk ?_)
    rw [← horder]
    exact hof
  · intro t'
    cases t' <;> simp [foreignKeys, refers, OnDelete.isRestrict]

/-- Then the orders go, unless one has a payment. -/
theorem step_orders (h : Coherent db) (hkeyed : Keyed schema (noItems c db)) :
    deleteWhere schema .order (fun o => decide (o.concertId = c)) (noItems c db)
      = if HasPayment c db then none else some (noOrders c db) := by
  have hof : ∀ o, keysWhere schema .order (fun r => decide (r.concertId = c)) (noItems c db) o
      = ofConcert c db o := keysWhere_order _
  have hrefused : Refused schema .order
      (keysWhere schema .order (fun r => decide (r.concertId = c)) (noItems c db)) (noItems c db) ↔
        HasPayment c db := by
    rw [refused_order]
    simp only [hof]
    constructor
    · rintro (⟨i, hi, hgone⟩ | hpaid | ⟨k, hk, hgone⟩)
      · -- the items of these orders are gone
        have hi : i ∈ (db .orderItem).filter fun i => !ofConcert c db i.orderId := hi
        have hleft := (List.mem_filter.mp hi).2
        rw [hgone] at hleft
        cases hleft
      · exact hpaid
      · obtain ⟨hk, hother⟩ := mem_noTickets.mp hk
        exact absurd (ticket_concert h hk hgone) hother
    · intro hpaid
      exact .inr (.inl hpaid)
  rw [deleteWhere_eq, dropRows_order hkeyed]
  exact if_congr hrefused rfl rfl

/-- Then the types go, unless one has a counter. -/
theorem step_types (h : Coherent db) (hkeyed : Keyed schema (noOrders c db)) :
    deleteWhere schema .ticketType (fun tt => decide (tt.concertId = c)) (noOrders c db)
      = if HasCounter c db then none else some (noTypes c db) := by
  have hof : ∀ t, keysWhere schema .ticketType (fun r => decide (r.concertId = c)) (noOrders c db) t
      = typeOf c db t := keysWhere_ticketType _
  have hrefused : Refused schema .ticketType
      (keysWhere schema .ticketType (fun r => decide (r.concertId = c)) (noOrders c db))
      (noOrders c db) ↔ HasCounter c db := by
    rw [refused_ticketType]
    simp only [hof]
    constructor
    · rintro (⟨i, hi, hgone⟩ | ⟨k, hk, hgone⟩ | hcounted)
      · -- the items of these types were of orders of the concert
        have hi : i ∈ (db .orderItem).filter fun i => !ofConcert c db i.orderId := hi
        obtain ⟨hi, hleft⟩ := List.mem_filter.mp hi
        rw [item_concert h hi hgone] at hleft
        cases hleft
      · -- and so were the tickets
        obtain ⟨hk, hother⟩ := mem_noTickets.mp hk
        obtain ⟨i, hi, -, horder, htype⟩ := ticket_item h hk
        rw [← htype] at hgone
        have hconcert := item_concert h hi hgone
        rw [horder] at hconcert
        exact absurd (ticket_concert h hk hconcert) hother
      · exact hcounted
    · intro hcounted
      exact .inr (.inr hcounted)
  rw [deleteWhere_eq, dropRows_only hkeyed]
  · exact if_congr hrefused rfl rfl
  · intro t'
    cases t' <;> simp [foreignKeys, refers, OnDelete.isRestrict]

/-- Then the guest list goes. -/
theorem step_guests (hkeyed : Keyed schema (noTypes c db)) :
    deleteWhere schema .guestListEntry (fun g => decide (g.concertId = c)) (noTypes c db)
      = some (noGuests c db) := by
  rw [deleteWhere_eq, dropRows_only hkeyed, if_neg]
  · rfl
  · simp [Refused, tables, foreignKeys, refers, ForeignKey.hits]
  · intro t'
    cases t' <;> simp [foreignKeys, refers]

/-- Then the files go. -/
theorem step_files (hkeyed : Keyed schema (noGuests c db)) :
    deleteWhere schema .uploadedFile (fun f => decide (f.concertId = some c)) (noGuests c db)
      = some (noFiles c db) := by
  rw [deleteWhere_eq, dropRows_only hkeyed, if_neg]
  · rfl
  · simp [Refused, tables, foreignKeys, refers, ForeignKey.hits]
  · intro t'
    cases t' <;> simp [foreignKeys, refers]

/-- The key of the concert is its id. -/
theorem keysWhere_concert {db : Tables Row} {k : Nat}
    (h : keysWhere schema .concert (fun r => decide (r.id = c)) db k = true) : k = c := by
  obtain ⟨r, -, hid, hc⟩ := keysWhere_iff.mp h
  have hid : r.id = k := hid
  rw [← hid]
  exact of_decide_eq_true hc

/-- The concert goes last. -/
theorem step_concert (hkeyed : Keyed schema (noFiles c db)) :
    deleteWhere schema .concert (fun r => decide (r.id = c)) (noFiles c db)
      = some (noConcert c db) := by
  rw [deleteWhere_eq, dropRows_concert hkeyed, if_neg]
  · rfl
  · rw [refused_concert]
    have hleft : ∀ {R : Type} {rows : List R} {concertId : R → Nat} {r : R},
        r ∈ rows.filter (fun r => !decide (concertId r = c)) → concertId r ≠ c := by
      intro R rows concertId r hr
      have := (List.mem_filter.mp hr).2
      simpa using this
    rintro (⟨r, hr, hgone⟩ | ⟨r, hr, hgone⟩ | ⟨r, hr, hgone⟩ | ⟨r, hr, hgone⟩)
    all_goals exact hleft hr (keysWhere_concert hgone)

/-- **The transaction.**  It goes through exactly if no order of the concert has a payment
    and no ticket type of it a counter. -/
theorem removeAll_eq (h : Coherent db) :
    removeAll c db = if HasPayment c db ∨ HasCounter c db then none else some (noConcert c db) := by
  have hlogs := step_logs (c := c) h
  have h₁ := h.deleteWhere hlogs
  have htickets := step_tickets h₁
  have h₂ := h₁.deleteWhere htickets
  have hitems := step_items h h₂.keyed
  have h₃ := h₂.deleteWhere hitems
  have horders := step_orders h h₃.keyed
  rw [removeAll, hlogs]
  simp only [Option.bind_eq_bind, Option.bind_some]
  rw [htickets, Option.bind_some, hitems, Option.bind_some, horders]
  by_cases hpaid : HasPayment c db
  · rw [if_pos hpaid, if_pos (.inl hpaid)]
    rfl
  rw [if_neg hpaid] at horders ⊢
  have h₄ := h₃.deleteWhere horders
  have htypes := step_types h h₄.keyed
  rw [Option.bind_some, htypes]
  by_cases hcounted : HasCounter c db
  · rw [if_pos hcounted, if_pos (.inr hcounted)]
    rfl
  rw [if_neg hcounted] at htypes ⊢
  have h₅ := h₄.deleteWhere htypes
  have hguests := step_guests h₅.keyed
  have h₆ := h₅.deleteWhere hguests
  have hfiles := step_files h₆.keyed
  have h₇ := h₆.deleteWhere hfiles
  rw [Option.bind_some, hguests, Option.bind_some, hfiles, Option.bind_some, step_concert h₇.keyed,
    if_neg (not_or.mpr ⟨hpaid, hcounted⟩)]

/-- What the whole removal leaves is coherent. -/
theorem Coherent.removeAll {db' : Tables Row} (h : Coherent db)
    (hd : removeAll c db = some db') : Coherent db' := by
  simp only [TicketRemoval.removeAll, Option.bind_eq_bind, Option.bind_eq_some_iff] at hd
  obtain ⟨db₁, h₁, db₂, h₂, db₃, h₃, db₄, h₄, db₅, h₅, db₆, h₆, db₇, h₇, h₈⟩ := hd
  exact (((((((h.deleteWhere h₁).deleteWhere h₂).deleteWhere h₃).deleteWhere h₄).deleteWhere
    h₅).deleteWhere h₆).deleteWhere h₇).deleteWhere h₈

/-! ## Reachable states -/

/-- Every write keeps the tables coherent. -/
theorem Coherent.next {db' : Tables Row} {w : Write} (h : Coherent db) (hw : Admitted db w)
    (hn : next db w = some db') : Coherent db' := by
  cases w with
  | insert t row => exact h.insert hw hn
  | update t f keeps =>
      cases hn
      exact h.update keeps
  | deleteOrder o => exact h.deleteWhere hn
  | deleteGate g => exact h.deleteWhere hn
  | removeConcert id =>
      simp only [TicketRemoval.next, TicketRemoval.removeConcert, Option.some.injEq] at hn
      repeat' split at hn
      all_goals subst hn
      · exact h
      · exact h
      · exact h
      · next hall => exact h.removeAll hall
  | removeTicketType id user redisFails =>
      simp only [TicketRemoval.next, TicketRemoval.removeTicketType, Option.some.injEq] at hn
      repeat' split at hn
      all_goals subst hn
      · exact h
      · exact h
      · exact h
      · exact h
      · next hd _ => exact h.deleteWhere hd
      · next hd _ => exact h.deleteWhere hd

/-- Empty tables are coherent. -/
theorem coherent_noRows : Coherent noRows where
  sound _ _ _ _ hr := nomatch hr
  keyed _ := List.nodup_nil
  checked _ _ hr := nomatch hr

/-- So does a whole run. -/
theorem Reachable.coherent (h : Reachable db) : Coherent db := by
  refine Machine.RunIf.inv (I := Coherent) ?_ h coherent_noRows
  intro s w s' hs hw hn
  exact hs.next hw hn

end TicketRemoval
