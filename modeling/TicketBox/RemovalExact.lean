import TicketBox.RemovalProofs

/-! # Removals, exactly

    What is left after a removal (`withoutConcert`, `withoutType`), and when a removal
    that passes its checks goes through: no payment of an order of the concert and no
    counter of a type of it (`concertRemoval_iff`), no item and no counter of the type
    (`typeRemoval_iff`).  A cancelled order leaves all of these behind. -/

namespace TicketRemoval

open ForeignKeys
open TicketStore (UserId ConcertId TicketTypeId OrderId Role OrderStatus ApiError)

variable {c : ConcertId} {db : Tables Row}

/-! ## What the transaction leaves -/

/-- The row is of the concert: by its `concertId`, or its order's, its type's or its ticket's. -/
def BelongsTo (c : ConcertId) (db : Tables Row) : (t : Table) → Row t → Prop
  | .user, _ => False
  | .concert, r => r.id = c
  | .gate, g => g.concertId = c
  | .ticketType, tt => tt.concertId = c
  | .order, o => o.concertId = c
  | .orderItem, i => ofConcert c db i.orderId = true
  | .paymentTransaction, p => ofConcert c db p.orderId = true
  | .ticket, k => k.concertId = c
  | .idempotencyKey, k => ∃ o ∈ k.orderId, ofConcert c db o = true
  | .userTicketCounter, k => typeOf c db k.ticketTypeId = true
  | .checkinLog, l => l.concertId = some c ∨ ∃ k ∈ l.ticketId, ticketOf c db k = true
  | .guestListEntry, g => g.concertId = c
  | .uploadedFile, f => f.concertId = some c

/-- Another concert's key is kept. -/
theorem keysWhere_concert_of_ne {db : Tables Row} {k : Option Nat} (h : k ≠ some c) :
    k.any (keysWhere schema .concert (fun r => decide (r.id = c)) db) = false := by
  cases k with
  | none => rfl
  | some x =>
      rw [Option.any_some, Bool.eq_false_iff]
      intro hgone
      rw [keysWhere_concert hgone] at h
      exact h rfl

/-- The log without its reference to a ticket of the concert. -/
def unlinked (c : ConcertId) (db : Tables Row) (l : CheckinLog) : CheckinLog :=
  if l.ticketId.any (ticketOf c db) then { l with ticketId := none } else l

/-- The key without its reference to an order of the concert. -/
def unbound (c : ConcertId) (db : Tables Row) (k : IdempotencyKey) : IdempotencyKey :=
  if k.orderId.any (ofConcert c db) then { k with orderId := none } else k

/-- The tables without the concert and what was deleted with it. -/
def withoutConcert (c : ConcertId) (db : Tables Row) : Tables Row
  | .user => db .user
  | .concert => (db .concert).filter fun r => !decide (r.id = c)
  | .gate => (db .gate).filter fun g => !decide (g.concertId = c)
  | .ticketType => (db .ticketType).filter fun tt => !decide (tt.concertId = c)
  | .order => (db .order).filter fun o => !decide (o.concertId = c)
  | .orderItem => (db .orderItem).filter fun i => !ofConcert c db i.orderId
  | .paymentTransaction => db .paymentTransaction
  | .ticket => (db .ticket).filter fun k => !decide (k.concertId = c)
  | .idempotencyKey => (db .idempotencyKey).map (unbound c db)
  | .userTicketCounter => db .userTicketCounter
  | .checkinLog =>
      ((db .checkinLog).filter fun l => !decide (l.concertId = some c)).map (unlinked c db)
  | .guestListEntry => (db .guestListEntry).filter fun g => !decide (g.concertId = c)
  | .uploadedFile => (db .uploadedFile).filter fun f => !decide (f.concertId = some c)

/-- The gates that are left. -/
theorem noConcert_gate (h : Coherent db) :
    noConcert c db .gate = (db .gate).filter fun g => !decide (g.concertId = c) := by
  show (db .gate).filter (fun g => !keysWhere schema .concert (fun r => decide (r.id = c))
    (noFiles c db) g.concertId) = _
  refine List.filter_congr ?_
  intro g hg
  congr 1
  rw [Bool.eq_iff_iff, decide_eq_true_iff]
  constructor
  · exact keysWhere_concert
  · intro hc
    obtain ⟨r, hr, hid⟩ := h.sound .gate _ List.mem_cons_self g hg g.concertId rfl
    have hid : r.id = g.concertId := hid
    exact keysWhere_iff.mpr ⟨r, hr, hid, decide_eq_true (hid.trans hc)⟩

/-- The files that are left. -/
theorem noConcert_uploadedFile :
    noConcert c db .uploadedFile
      = (db .uploadedFile).filter fun f => !decide (f.concertId = some c) := by
  show ((db .uploadedFile).filter fun f => !decide (f.concertId = some c)).map _ = _
  refine (List.map_congr_left ?_).trans (List.map_id _)
  intro f hf
  have hother : f.concertId ≠ some c := by simpa using (List.mem_filter.mp hf).2
  rw [keysWhere_concert_of_ne hother]
  rfl

/-- The log rows that are left, without the concert's tickets. -/
theorem noConcert_checkinLog :
    noConcert c db .checkinLog
      = ((db .checkinLog).filter fun l => !decide (l.concertId = some c)).map (unlinked c db) := by
  have htickets : ∀ k, keysWhere schema .ticket (fun r => decide (r.concertId = c)) (noLogs c db) k
      = ticketOf c db k := keysWhere_ticket _
  show (((db .checkinLog).filter fun l => !decide (l.concertId = some c)).map _).map _ = _
  rw [List.map_map]
  refine List.map_congr_left ?_
  intro l hl
  have hother : l.concertId ≠ some c := by simpa using (List.mem_filter.mp hl).2
  have hsame : (unlinked c db l).concertId = l.concertId := by
    rw [unlinked]
    split <;> rfl
  rw [Function.comp_apply, funext htickets]
  show (if (unlinked c db l).concertId.any _ then _ else unlinked c db l) = _
  rw [hsame, keysWhere_concert_of_ne hother]
  rfl

/-- The keys, without the concert's orders. -/
theorem noConcert_idempotencyKey :
    noConcert c db .idempotencyKey = (db .idempotencyKey).map (unbound c db) := by
  have horders : ∀ o, keysWhere schema .order (fun r => decide (r.concertId = c)) (noItems c db) o
      = ofConcert c db o := keysWhere_order _
  show (db .idempotencyKey).map _ = _
  rw [funext horders]
  rfl

/-- What the removal leaves is the database without the concert. -/
theorem noConcert_eq (h : Coherent db) : noConcert c db = withoutConcert c db := by
  funext t
  cases t with
  | gate => exact noConcert_gate h
  | uploadedFile => exact noConcert_uploadedFile
  | checkinLog => exact noConcert_checkinLog
  | idempotencyKey => exact noConcert_idempotencyKey
  | _ => rfl

/-- The rows that are left. -/
theorem mem_left {R : Type} {rows : List R} {P : R → Prop} [DecidablePred P] {r : R} :
    r ∈ rows.filter (fun r => !decide (P r)) ↔ r ∈ rows ∧ ¬ P r := by
  simp

/-- A reference that is left is not to what is gone. -/
theorem any_left {k : Option Nat} {p : Nat → Bool} (h : ¬ k.any p = true) {x : Nat} (hx : x ∈ k) :
    p x = false := by
  rw [Option.mem_def.mp hx] at h
  exact Bool.eq_false_iff.mpr h

/-- No row of the concert is left. -/
theorem withoutConcert_gone (hpaid : ¬ HasPayment c db) (hcounted : ¬ HasCounter c db)
    (t : Table) (r : Row t) (hr : r ∈ withoutConcert c db t) : ¬ BelongsTo c db t r := by
  cases t with
  | user => exact id
  | orderItem =>
      have hleft := (List.mem_filter.mp hr).2
      intro hof
      have hof : ofConcert c db r.orderId = true := hof
      rw [hof] at hleft
      cases hleft
  | paymentTransaction => exact fun hof => hpaid ⟨r, hr, hof⟩
  | idempotencyKey =>
      obtain ⟨k, -, rfl⟩ := List.mem_map.mp hr
      rintro ⟨o, ho, hof⟩
      rw [unbound] at ho
      split at ho
      · cases ho
      · next hfree =>
        rw [any_left hfree ho] at hof
        cases hof
  | userTicketCounter => exact fun hof => hcounted ⟨r, hr, hof⟩
  | checkinLog =>
      obtain ⟨l, hl, rfl⟩ := List.mem_map.mp hr
      obtain ⟨-, hother⟩ := mem_left.mp hl
      rw [unlinked]
      rintro (hconcert | ⟨k, hk, hof⟩)
      · split at hconcert <;> exact hother hconcert
      · split at hk
        · cases hk
        · next hfree =>
          rw [any_left hfree hk] at hof
          cases hof
  | _ => exact (mem_left.mp hr).2

/-- The order, the type or the ticket of a row has one concert. -/
theorem ofConcert_unique (h : Coherent db) {c' : ConcertId} {o : OrderId}
    (ho : ofConcert c db o = true) (ho' : ofConcert c' db o = true) : c' = c := by
  obtain ⟨r, hr, hid, hc⟩ := ofConcert_iff.mp ho
  obtain ⟨r', hr', hid', hc'⟩ := ofConcert_iff.mp ho'
  have heq : r' = r := RowTable.eq_of_key (h.keyed .order) hr' hr (hid'.trans hid.symm)
  rw [← hc, ← hc', heq]

/-- A ticket is of one concert. -/
theorem ticketOf_unique (h : Coherent db) {c' : ConcertId} {k : Nat}
    (hk : ticketOf c db k = true) (hk' : ticketOf c' db k = true) : c' = c := by
  obtain ⟨r, hr, hid, hc⟩ := ticketOf_iff.mp hk
  obtain ⟨r', hr', hid', hc'⟩ := ticketOf_iff.mp hk'
  have heq : r' = r := RowTable.eq_of_key (h.keyed .ticket) hr' hr (hid'.trans hid.symm)
  rw [← hc, ← hc', heq]

/-- A log of another concert is not of the concert, neither by its `concertId` nor by its ticket. -/
theorem log_other (h : Coherent db) {c' : ConcertId} (hne : c' ≠ c) {l : CheckinLog}
    (hl : l ∈ db .checkinLog) (hof : BelongsTo c' db .checkinLog l) :
    l.concertId ≠ some c ∧ l.ticketId.any (ticketOf c db) = false := by
  -- whichever of the two it is by, the other agrees
  have hagree : ∀ {a b : ConcertId}, l.concertId = some a →
      (∃ k ∈ l.ticketId, ticketOf b db k = true) →
      a = b := by
    rintro a b ha ⟨k, hk, hkb⟩
    obtain ⟨ticket, hticket, hid, hb⟩ := ticketOf_iff.mp hkb
    rw [← hb]
    refine (h.checked .checkinLog l hl a ha ticket hticket ?_).symm
    rw [hid]
    exact (Option.mem_def.mp hk).symm
  constructor
  · intro hc
    rcases hof with hc' | hticket
    · have hc' : l.concertId = some c' := hc'
      rw [hc] at hc'
      exact hne (Option.some.inj hc').symm
    · exact hne (hagree hc hticket).symm
  · rw [Bool.eq_false_iff]
    intro hany
    obtain ⟨k, hk, hkc⟩ := (Option.any_eq_true (ticketOf c db) l.ticketId).mp hany
    rcases hof with hc' | ⟨k', hk', hkc'⟩
    · exact hne (hagree hc' ⟨k, hk, hkc⟩)
    · have hsame : k' = k := Option.mem_unique hk' hk
      rw [hsame] at hkc'
      exact hne (ticketOf_unique h hkc hkc')

/-- The rows of other concerts are left as they were. -/
theorem withoutConcert_others (h : Coherent db) {c' : ConcertId} (hne : c' ≠ c) (t : Table)
    (r : Row t) (hof : BelongsTo c' db t r) : r ∈ withoutConcert c db t ↔ r ∈ db t := by
  have hkeep : ∀ {R : Type} {rows : List R} {P : R → Prop} [DecidablePred P] {r : R}, ¬ P r →
      (r ∈ rows.filter (fun r => !decide (P r)) ↔ r ∈ rows) := by
    intro R rows P _ r hr
    rw [mem_left, and_iff_left hr]
  have hne' : ∀ {x : ConcertId}, x = c' → x ≠ c := by
    rintro x rfl
    exact hne
  cases t with
  | user => exact hof.elim
  | concert => exact hkeep (hne' hof)
  | gate => exact hkeep (hne' hof)
  | ticketType => exact hkeep (hne' hof)
  | order => exact hkeep (hne' hof)
  | orderItem =>
      have hfree : ofConcert c db r.orderId = false := by
        rw [Bool.eq_false_iff]
        intro hc
        exact hne (ofConcert_unique h hc hof)
      show r ∈ (db .orderItem).filter (fun i => !ofConcert c db i.orderId) ↔ _
      rw [List.mem_filter, hfree]
      exact and_iff_left rfl
  | paymentTransaction => exact Iff.rfl
  | ticket => exact hkeep (hne' hof)
  | idempotencyKey =>
      obtain ⟨o, ho, hoc⟩ := hof
      have hfree : ∀ k : IdempotencyKey, k.orderId = some o → unbound c db k = k := by
        intro k hk
        rw [unbound, hk, Option.any_some, if_neg]
        intro hc
        exact hne (ofConcert_unique h hc hoc)
      constructor
      · intro hr
        obtain ⟨k, hk, hkr⟩ := List.mem_map.mp hr
        have hko : k.orderId = some o := by
          rw [← hkr, unbound] at ho
          split at ho
          · cases ho
          · exact ho
        rw [hfree k hko] at hkr
        rw [← hkr]
        exact hk
      · intro hr
        exact List.mem_map.mpr ⟨r, hr, hfree r ho⟩
  | userTicketCounter => exact Iff.rfl
  | checkinLog =>
      constructor
      · intro hr
        obtain ⟨l, hl, hlr⟩ := List.mem_map.mp hr
        obtain ⟨hl, -⟩ := mem_left.mp hl
        have hofl : BelongsTo c' db .checkinLog l := by
          rw [← hlr, unlinked] at hof
          rcases hof with hc | ⟨k, hk, hkc⟩
          · left
            split at hc <;> exact hc
          · right
            split at hk
            · cases hk
            · exact ⟨k, hk, hkc⟩
        rw [unlinked, (log_other h hne hl hofl).2] at hlr
        have hlr : l = r := hlr
        rw [← hlr]
        exact hl
      · intro hr
        obtain ⟨hother, hfree⟩ := log_other h hne hr hof
        refine List.mem_map.mpr ⟨r, mem_left.mpr ⟨hr, hother⟩, ?_⟩
        rw [unlinked, hfree]
        rfl
  | guestListEntry => exact hkeep (hne' hof)
  | uploadedFile =>
      refine hkeep ?_
      have hof : r.concertId = some c' := hof
      rw [hof]
      intro hc
      exact hne (Option.some.inj hc)


/-! ## Removing a concert -/

/-- The checks of `ConcertService.remove` pass. -/
def ConcertChecked (id : ConcertId) (db : Tables Row) : Prop :=
  (RowTable.lookup Concert.id id (db .concert)).isSome ∧ activeOrders id db = []

/-- The concert is gone with all that was of it, and the rest is as it was. -/
structure Removed (id : ConcertId) (db db' : Tables Row) : Prop where
  gone : ∀ t, ∀ r ∈ db' t, ¬ BelongsTo id db t r
  others : ∀ id', id' ≠ id → ∀ t r, BelongsTo id' db t r → (r ∈ db' t ↔ r ∈ db t)

/-- The removal succeeds if its checks pass, exactly, and has deleted nothing if it fails. -/
def ConcertRemovalExact (id : ConcertId) (db : Tables Row) : Prop :=
  (ConcertChecked id db → ∃ message, (removeConcert id db).2 = .ok message ∧
    Removed id db (removeConcert id db).1) ∧
  ∀ e, (removeConcert id db).2 = .error e → (removeConcert id db).1 = db

/-- What the removal does once its checks have passed. -/
theorem removeConcert_checked (h : Coherent db) (hc : ConcertChecked c db) :
    ((HasPayment c db ∨ HasCounter c db) ∧ removeConcert c db = (db, .error .foreignKey)) ∨
      ¬ (HasPayment c db ∨ HasCounter c db) ∧
        ∃ message, removeConcert c db = (withoutConcert c db, .ok message) := by
  obtain ⟨hsome, hnone⟩ := hc
  obtain ⟨concert, hconcert⟩ := Option.isSome_iff_exists.mp hsome
  have hpass : ¬ 0 < (activeOrders c db).length := by
    rw [hnone]
    exact Nat.lt_irrefl 0
  rw [removeConcert, hconcert]
  simp only [if_neg hpass, removeAll_eq h]
  by_cases hblocked : HasPayment c db ∨ HasCounter c db
  · left
    refine ⟨hblocked, ?_⟩
    rw [if_pos hblocked]
  · right
    refine ⟨hblocked, s!"Concert \"{concert.title}\" deleted successfully", ?_⟩
    rw [if_neg hblocked, noConcert_eq h]

/-- A removal that throws has changed nothing. -/
theorem removeConcert_failed {e : ApiError} (h : (removeConcert c db).2 = .error e) :
    (removeConcert c db).1 = db := by
  rw [removeConcert] at h ⊢
  split at h
  · rfl
  · split at h
    · next hactive => rw [if_pos hactive]
    · next hactive =>
      rw [if_neg hactive]
      split at h
      · rfl
      · cases h

/-- A removal is exact unless a payment or a counter is in its way. -/
theorem concertRemoval_iff (h : Coherent db) :
    ConcertRemovalExact c db ↔
      (ConcertChecked c db → ¬ HasPayment c db ∧ ¬ HasCounter c db) := by
  constructor
  · rintro ⟨hexact, -⟩ hc
    rcases removeConcert_checked h hc with ⟨-, hrefused⟩ | ⟨hfree, -⟩
    · obtain ⟨message, hok, -⟩ := hexact hc
      rw [hrefused] at hok
      cases hok
    · exact not_or.mp hfree
  · intro hfree
    refine ⟨?_, fun e => removeConcert_failed⟩
    intro hc
    obtain ⟨hpaid, hcounted⟩ := hfree hc
    rcases removeConcert_checked h hc with ⟨hblocked, -⟩ | ⟨-, message, hok⟩
    · exact absurd hblocked (not_or.mpr ⟨hpaid, hcounted⟩)
    · refine ⟨message, by rw [hok], ?_⟩
      rw [hok]
      exact ⟨withoutConcert_gone hpaid hcounted, fun id' hne => withoutConcert_others h hne⟩

/-! ## Removing a ticket type -/

/-- The type is there and the caller may manage it. -/
def TypePasses (id : TicketTypeId) (user : AuthUser) (p : TicketType → Prop) (db : Tables Row) :
    Prop :=
  ∃ tt ∈ RowTable.lookup TicketType.id id (db .ticketType),
    checkConcertOwnership tt.concertId user db = none ∧ p tt

/-- An item or a counter refers to the type. -/
def TypeReferred (id : TicketTypeId) (db : Tables Row) : Prop :=
  (∃ i ∈ db .orderItem, i.ticketTypeId = id) ∨ ∃ k ∈ db .userTicketCounter, k.ticketTypeId = id

/-- Nothing is sold or reserved. -/
def Unsold (tt : TicketType) : Prop := tt.soldQty = 0 ∧ tt.reservedQty = 0

/-- What the check of the service asks. -/
def NotAbove (tt : TicketType) : Prop := ¬ (0 < tt.soldQty ∨ 0 < tt.reservedQty)

/-- A type of which nothing is sold passes the check. -/
theorem Unsold.notAbove {tt : TicketType} (h : Unsold tt) : NotAbove tt := by
  obtain ⟨hsold, hreserved⟩ := h
  rw [NotAbove, hsold, hreserved]
  decide

/-- The removal succeeds if nothing is sold or reserved, and has deleted nothing if it fails. -/
def TypeRemovalExact (id : TicketTypeId) (user : AuthUser) (redisFails : Bool) (db : Tables Row) :
    Prop :=
  (TypePasses id user Unsold db → ∃ message, (removeTicketType id user redisFails db).2 = .ok message) ∧
  ∀ e, (removeTicketType id user redisFails db).2 = .error e →
    (removeTicketType id user redisFails db).1 = db

/-- The tables without the type. -/
def withoutType (id : TicketTypeId) (db : Tables Row) : Tables Row :=
  Function.update db .ticketType ((db .ticketType).filter fun tt => !decide (tt.id = id))

/-- The removal of a type is refused if something refers to it. -/
theorem refused_type_iff (h : Coherent db) (id : TicketTypeId)
    (hsome : (RowTable.lookup TicketType.id id (db .ticketType)).isSome) :
    Refused schema .ticketType (keysWhere schema .ticketType (fun r => decide (r.id = id)) db) db ↔
      TypeReferred id db := by
  have hkeys : ∀ t,
      keysWhere schema .ticketType (fun r => decide (r.id = id)) db t = true ↔ t = id := by
    intro t
    rw [keysWhere_iff]
    constructor
    · rintro ⟨tt, -, hid, hdec⟩
      have hid : tt.id = t := hid
      rw [← hid]
      exact of_decide_eq_true hdec
    · rintro rfl
      obtain ⟨tt, htt⟩ := Option.isSome_iff_exists.mp hsome
      have hid : tt.id = t := RowTable.lookup_key htt
      exact ⟨tt, RowTable.lookup_mem htt, hid, decide_eq_true hid⟩
  rw [refused_ticketType]
  simp only [hkeys]
  constructor
  · rintro (hitem | ⟨k, hk, hkt⟩ | hcounted)
    · exact .inl hitem
    · -- a ticket comes with its item
      obtain ⟨i, hi, -, -, htype⟩ := ticket_item h hk
      exact .inl ⟨i, hi, htype.trans hkt⟩
    · exact .inr hcounted
  · rintro (hitem | hcounted)
    · exact .inl hitem
    · exact .inr (.inr hcounted)

/-- What the removal does once its checks have passed. -/
theorem removeTicketType_passes (h : Coherent db) {id : TicketTypeId} {user : AuthUser}
    (redisFails : Bool) (hp : TypePasses id user NotAbove db) :
    (TypeReferred id db ∧ removeTicketType id user redisFails db = (db, .error .foreignKey)) ∨
      ¬ TypeReferred id db ∧ ∃ message, removeTicketType id user redisFails db
        = (withoutType id db, if redisFails then .error .unavailable else .ok message) := by
  obtain ⟨tt, htt, howned, hpass⟩ := hp
  have hlook := Option.mem_def.mp htt
  have hrefused := refused_type_iff h id (by rw [hlook]; rfl)
  have honly : ∀ t', ∀ fk ∈ foreignKeys t', fk.target = .ticketType →
      fk.onDelete.isRestrict = true := by
    intro t'
    cases t' <;> simp [foreignKeys, refers, OnDelete.isRestrict]
  rw [removeTicketType, hlook]
  simp only [howned, if_neg hpass, deleteWhere_eq, dropRows_only h.keyed honly]
  by_cases href : TypeReferred id db
  · left
    refine ⟨href, ?_⟩
    rw [if_pos (hrefused.mpr href)]
  · right
    refine ⟨href, s!"Ticket type \"{tt.name}\" deleted successfully", ?_⟩
    rw [if_neg (mt hrefused.mp href)]
    cases redisFails <;> rfl

/-- A removal that throws before the row is deleted has changed nothing. -/
theorem removeTicketType_failed {id : TicketTypeId} {user : AuthUser} {redisFails : Bool}
    (hp : ¬ TypePasses id user NotAbove db) :
    (removeTicketType id user redisFails db).1 = db := by
  rw [removeTicketType]
  split
  · rfl
  · next tt htt =>
    split
    · rfl
    · next howned =>
      rw [if_pos]
      by_contra hpass
      exact hp ⟨tt, htt, howned, hpass⟩

/-- When the removal of a type is exact. -/
theorem typeRemoval_iff (h : Coherent db) {id : TicketTypeId} {user : AuthUser}
    {redisFails : Bool} :
    TypeRemovalExact id user redisFails db ↔
      (TypePasses id user Unsold db → ¬ TypeReferred id db) ∧
        (TypePasses id user NotAbove db → ¬ TypeReferred id db → redisFails = false) := by
  have hweaken : TypePasses id user Unsold db → TypePasses id user NotAbove db := by
    rintro ⟨tt, htt, howned, hunsold⟩
    exact ⟨tt, htt, howned, hunsold.notAbove⟩
  constructor
  · rintro ⟨hok, hfail⟩
    constructor
    · intro hp href
      rcases removeTicketType_passes h redisFails (hweaken hp)
        with ⟨-, hrefused⟩ | ⟨hfree, -⟩
      · obtain ⟨message, hok⟩ := hok hp
        rw [hrefused] at hok
        cases hok
      · exact hfree href
    · intro hp hfree
      rcases removeTicketType_passes h redisFails hp
        with ⟨href, -⟩ | ⟨-, message, hdone⟩
      · exact absurd href hfree
      · cases hredis : redisFails with
        | false => rfl
        | true =>
            -- the row is deleted and the call throws
            rw [hdone, hredis] at hfail
            have hsame : withoutType id db = db := hfail .unavailable rfl
            obtain ⟨tt, htt, -⟩ := hp
            have hmem : tt ∈ withoutType id db .ticketType := by
              rw [hsame]
              exact RowTable.lookup_mem htt
            have hmem : tt ∈ (db .ticketType).filter fun tt => !decide (tt.id = id) := hmem
            exact absurd (RowTable.lookup_key htt) (mem_left.mp hmem).2
  · rintro ⟨hfree, hredis⟩
    constructor
    · intro hp
      rcases removeTicketType_passes h redisFails (hweaken hp)
        with ⟨href, -⟩ | ⟨hfree, message, hdone⟩
      · exact absurd href (hfree hp)
      · refine ⟨message, ?_⟩
        rw [hdone, hredis (hweaken hp) hfree]
        rfl
    · intro e he
      by_cases hp : TypePasses id user NotAbove db
      · rcases removeTicketType_passes h redisFails hp
          with ⟨-, hrefused⟩ | ⟨hfree, message, hdone⟩
        · rw [hrefused]
        · rw [hdone, hredis hp hfree] at he
          cases he
      · exact removeTicketType_failed hp

/-- **Removals.**  In every state the system can reach, a concert whose orders are all over is
    removed, exactly, if and only if none of them has a payment and no ticket type of it a
    counter; and a type of which nothing is sold or reserved if and only if no order item and
    no counter refers to it, and Redis answers after the row is deleted. -/
theorem removal_exact (h : Reachable db) :
    (∀ id, ConcertRemovalExact id db ↔
      (ConcertChecked id db → ¬ HasPayment id db ∧ ¬ HasCounter id db)) ∧
    ∀ id user redisFails, TypeRemovalExact id user redisFails db ↔
      (TypePasses id user Unsold db → ¬ TypeReferred id db) ∧
        (TypePasses id user NotAbove db → ¬ TypeReferred id db → redisFails = false) :=
  ⟨fun _ => concertRemoval_iff h.coherent, fun _ _ _ => typeRemoval_iff h.coherent⟩

/-! ### A concert without orders, and one with a cancelled order -/

/-- The service checks this before it removes. -/
instance (id : ConcertId) (db : Tables Row) : Decidable (ConcertChecked id db) :=
  inferInstanceAs (Decidable (_ ∧ _))

/-- Both counts are zero or not. -/
instance : DecidablePred Unsold := fun tt =>
  inferInstanceAs (Decidable (tt.soldQty = 0 ∧ tt.reservedQty = 0))

/-- The service checks this. -/
instance : DecidablePred NotAbove := fun tt =>
  inferInstanceAs (Decidable (¬ (0 < tt.soldQty ∨ 0 < tt.reservedQty)))

instance (id : TicketTypeId) (user : AuthUser) (p : TicketType → Prop) [DecidablePred p]
    (db : Tables Row) : Decidable (TypePasses id user p db) :=
  inferInstanceAs (Decidable (∃ tt ∈ RowTable.lookup TicketType.id id (db .ticketType), _ ∧ p tt))

/-- An organizer's concert with a gate, a guest and a ticket type. -/
def announced : List Write :=
  [.insert .user ⟨1⟩, .insert .concert ⟨1, 1, "Live"⟩, .insert .gate ⟨1, 1, "A"⟩,
    .insert .ticketType ⟨1, 1, "VIP", 0, 0⟩, .insert .guestListEntry ⟨1, 1⟩]

/-- An administrator. -/
def admin : AuthUser := ⟨9, .admin⟩

/-- Nobody has ordered: the type can be removed, and the concert with all that is its. -/
theorem removal_exact_announced :
    ∃ db, Reachable db ∧ ConcertChecked 1 db ∧ ConcertRemovalExact 1 db ∧
      TypePasses 1 admin Unsold db ∧ TypeRemovalExact 1 admin false db := by
  obtain ⟨db, hdb, hchecked, hpaid, hcounted, hpasses, href⟩ : ∃ db, Reachable db ∧
      ConcertChecked 1 db ∧ ¬ HasPayment 1 db ∧ ¬ HasCounter 1 db ∧
        TypePasses 1 admin Unsold db ∧ db .orderItem = [] ∧ db .userTicketCounter = [] :=
    Machine.exists_runIf announced _ (by decide +kernel)
  have hfree : ¬ TypeReferred 1 db := by
    rw [TypeReferred, href.1, href.2]
    rintro (⟨i, hi, -⟩ | ⟨k, hk, -⟩)
    · cases hi
    · cases hk
  refine ⟨db, hdb, hchecked, ?_, hpasses, ?_⟩
  · exact ((removal_exact hdb).1 1).mpr fun _ => ⟨hpaid, hcounted⟩
  · exact ((removal_exact hdb).2 1 admin false).mpr ⟨fun _ => hfree, fun _ _ => rfl⟩

/-- `reservedQty: { increment: q }` -/
def reserve (q : Int) (tt : TicketType) : TicketType := { tt with reservedQty := tt.reservedQty + q }

/-- A reservation keeps the keys. -/
theorem reserve_keeps (q : Int) : KeepsKeys schema .ticketType (reserve q) where
  id _ := rfl
  column := by simp [foreignKeys, refers, reserve]

/-- `order.update({ data: { status } })` -/
def setStatus (o : OrderId) (status : OrderStatus) (r : Order) : Order :=
  if r.id = o then { r with status := status } else r

/-- So does a status. -/
theorem setStatus_keeps (o : OrderId) (status : OrderStatus) :
    KeepsKeys schema .order (setStatus o status) where
  id r := by
    rw [setStatus]
    split <;> rfl
  column := by
    have hsame : ∀ r : Order, (setStatus o status r).userId = r.userId ∧
        (setStatus o status r).concertId = r.concertId := by
      intro r
      rw [setStatus]
      split <;> exact ⟨rfl, rfl⟩
    simp [foreignKeys, refers, hsame]

/-- What createOrder writes, from the order to the payment that waits for the gateway, and
    what cancelOrder writes. -/
def orderedAndCancelled : List Write :=
  announced ++ [.insert .user ⟨5⟩,
    .insert .order ⟨1, 5, 1, .pendingPayment⟩, .insert .orderItem ⟨1, 1, 1⟩,
    .update .ticketType (reserve 1) (reserve_keeps 1), .insert .userTicketCounter ⟨5, 1⟩,
    .insert .paymentTransaction ⟨1, 1⟩,
    .update .ticketType (reserve (-1)) (reserve_keeps (-1)),
    .update .order (setStatus 1 .cancelled) (setStatus_keeps 1 .cancelled)]

/-- The only order is cancelled and nothing is sold or reserved: both removals pass their
    checks and throw the error of a foreign key. -/
theorem removal_refused_cancelled :
    ∃ db, Reachable db ∧ ConcertChecked 1 db ∧ (removeConcert 1 db).2 = .error .foreignKey ∧
      TypePasses 1 admin Unsold db ∧
      (removeTicketType 1 admin false db).2 = .error .foreignKey :=
  Machine.exists_runIf orderedAndCancelled _ (by decide +kernel)

end TicketRemoval
