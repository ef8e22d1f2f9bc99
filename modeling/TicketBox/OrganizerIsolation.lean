import TicketBox.OrganizerAccess

/-! # What an organizer should not reach

    `Db.rowsOf` is the part of the tables that belongs to some of the concerts.  A
    request of an organizer is `Isolated` in a state if it leaves the part of the other
    organizers alone, and is answered alike in every state with the same part of the
    organizer's own.  Then follows what each operation reads and writes in these terms. -/

namespace TicketAccess

open TicketStore (UserId ConcertId TicketTypeId OrderId Role ApiError OrderStatus TicketTypeStatus
  OrderItem PaymentTransaction UpdateTicketTypeDto)
open TicketConcerts (Concert UpdateConcertDto findConcert updateConcert)
open TicketGates (Gate GateId CreateGateDto UpdateGateDto)

/-! ## Whose rows -/

/-- The user organizes the concert. -/
def Db.Owns (u : UserId) (db : Db) (c : ConcertId) : Prop :=
  ∃ concert ∈ db.concerts, concert.id = c ∧ concert.organizerId = u

/-- Somebody else does. -/
def Db.Foreign (u : UserId) (db : Db) (c : ConcertId) : Prop :=
  ∃ concert ∈ db.concerts, concert.id = c ∧ concert.organizerId ≠ u

/-- The row of the concert names its organizer. -/
instance (u : UserId) (db : Db) : DecidablePred (db.Owns u) :=
  fun _ => inferInstanceAs (Decidable (∃ _ ∈ _, _ ∧ _))

/-- It names another one. -/
instance (u : UserId) (db : Db) : DecidablePred (db.Foreign u) :=
  fun _ => inferInstanceAs (Decidable (∃ _ ∈ _, _ ∧ _))

/-- The rows of the concerts with `p`: a payment is of its order's concert, a counter and a
    stock key are of their ticket type's. -/
def Db.rowsOf (p : ConcertId → Prop) [DecidablePred p] (db : Db) : Db where
  concerts := db.concerts.filter fun c => p c.id
  ticketTypes := db.ticketTypes.filter fun tt => p tt.concertId
  gates := db.gates.filter fun g => p g.concertId
  tickets := db.tickets.filter fun t => p t.concertId
  orders := db.orders.filter fun o => p o.concertId
  payments := db.payments.filter fun x => ∃ o ∈ db.orders, o.id = x.orderId ∧ p o.concertId
  counters := db.counters.filter fun k => ∃ tt ∈ db.ticketTypes, tt.id = k.2 ∧ p tt.concertId
  stock := fun id =>
    if ∃ tt ∈ db.ticketTypes, tt.id = id ∧ p tt.concertId then db.stock id else none

/-- What the schema and the services guarantee of the tables. -/
structure Db.Valid (db : Db) : Prop where
  concertIds : RowTable.Keyed (fun c : Concert => c.id) db.concerts
  slugs : RowTable.Keyed (fun c : Concert => c.slug) db.concerts
  typeIds : RowTable.Keyed (fun tt : TicketType => tt.id) db.ticketTypes
  gateIds : RowTable.Keyed Gate.id db.gates
  ticketIds : RowTable.Keyed (fun t : Ticket => t.id) db.tickets
  tokens : RowTable.Keyed (fun t : Ticket => t.qrTokenHash) db.tickets
  orderIds : RowTable.Keyed (fun o : Order => o.id) db.orders
  gateNames : ∀ g ∈ db.gates, ∀ g' ∈ db.gates, g.concertId = g'.concertId → g.name = g'.name →
    g = g'
  typeNames : ∀ tt ∈ db.ticketTypes, ∀ tt' ∈ db.ticketTypes, tt.concertId = tt'.concertId →
    tt.name = tt'.name → tt = tt'
  typeConcert : ∀ tt ∈ db.ticketTypes, ∃ c ∈ db.concerts, c.id = tt.concertId
  gateConcert : ∀ g ∈ db.gates, ∃ c ∈ db.concerts, c.id = g.concertId
  orderConcert : ∀ o ∈ db.orders, ∃ c ∈ db.concerts, c.id = o.concertId
  /-- an order item is of a ticket type of the order's concert -/
  items : ∀ o ∈ db.orders, ∀ i ∈ o.items, i.id.1 = o.id ∧
    ∃ tt ∈ db.ticketTypes, tt.id = i.ticketTypeId ∧ tt.concertId = o.concertId
  /-- a ticket is of an item of its order, and of the order's concert -/
  ticketOrder : ∀ t ∈ db.tickets, ∃ o ∈ db.orders, o.id = t.orderId ∧ o.concertId = t.concertId ∧
    ∃ i ∈ o.items, i.id = t.orderItemId
  paymentOrder : ∀ x ∈ db.payments, ∃ o ∈ db.orders, o.id = x.orderId
  counterType : ∀ k ∈ db.counters, ∃ tt ∈ db.ticketTypes, tt.id = k.2

/-! ## Isolation -/

/-- The id drawn for a row is not in use. -/
def Env.Fresh (e : Env) (r : Request) (db : Db) : Prop :=
  match r with
  | .createType _ _ => db.findType e.ticketTypeId = none
  | .createGate _ _ => ∀ g ∈ db.gates, g.id ≠ e.gateId
  | _ => True

/-- The states differ only in the rows of concerts that others organize; the concerts
    themselves are fixed, for everybody is shown them. -/
structure Agree (u : UserId) (s t : Db) : Prop where
  concerts : s.concerts = t.concerts
  own : s.rowsOf (s.Owns u) = t.rowsOf (s.Owns u)

/-- The same response, but for being told that something is not accessible. -/
def Alike (a b : Response) : Prop := a = b ∨ a.Inaccessible ∧ b.Inaccessible

/-- The request leaves the rows of the concerts that others organize unchanged. -/
def Unchanged (e : Env) (user : AuthUser) (r : Request) (db : Db) : Prop :=
  (handle e user r db).1.rowsOf (db.Foreign user.sub) = db.rowsOf (db.Foreign user.sub)

/-- And its response is decided by the other rows. -/
structure Isolated (e : Env) (user : AuthUser) (r : Request) (db : Db) : Prop where
  unchanged : Unchanged e user r db
  response : ∀ t, t.Valid → e.Fresh r t → Agree user.sub db t →
    Alike (handle e user r db).2 (handle e user r t).2

/-- Every concert is the user's. -/
def Db.OwnsAll (u : UserId) (db : Db) : Prop := ∀ concert ∈ db.concerts, concert.organizerId = u

/-- Another gate of the same concert. -/
def Db.HasOther (gate : Gate) (db : Db) : Prop :=
  ∃ g ∈ db.gates, g.concertId = gate.concertId ∧ g.id ≠ gate.id

/-- What is deleted does not depend on tickets of other concerts, nor take them along: the
    last gate keeps a ticket of the user's, another one has no others. -/
def Db.Separate (u : UserId) (gate : Gate) (db : Db) : Prop :=
  (¬ db.HasOther gate → ∃ t ∈ db.tickets, t.gateId = some gate.name ∧ db.Owns u t.concertId) ∧
  (db.HasOther gate → ∀ t ∈ db.tickets, t.gateId = some gate.name → db.Owns u t.concertId)

/-- The state does not bring a request to rows of other organizers. -/
def Contained (e : Env) (user : AuthUser) (r : Request) (db : Db) : Prop :=
  match r with
  | .listGates c | .createGate c _ | .rebalance c => ¬ db.Foreign user.sub c
  | .updateGate id dto => db.OwnsAll user.sub ∨ ∃ gate ∈ db.gates, gate.id = id ∧
      db.Owns user.sub gate.concertId ∧ dto.Taken gate (db.gateWorld e)
  | .removeGate id => db.OwnsAll user.sub ∨ ∃ gate ∈ db.gates, gate.id = id ∧
      db.Owns user.sub gate.concertId ∧ db.Separate user.sub gate
  | .getOrderAdmin id => db.OwnsAll user.sub ∨ ∃ o ∈ db.orders, o.id = id ∧
      db.Owns user.sub o.concertId
  | _ => True

/-! ### Two states -/

variable {u : UserId} {s t db : Db} {c : ConcertId} {e : Env} {user : AuthUser}

/-- An own concert is no one else's. -/
theorem Db.Owns.not_foreign (h : db.Valid) (hc : db.Owns u c) : ¬ db.Foreign u c := by
  obtain ⟨concert, hmem, hid, howner⟩ := hc
  rintro ⟨other, hmem', hid', hne⟩
  rw [RowTable.eq_of_key h.concertIds hmem hmem' (hid.trans hid'.symm)] at howner
  exact hne howner

/-- A concert that is there is one's own or another's. -/
theorem owns_or_foreign (h : ∃ concert ∈ db.concerts, concert.id = c) :
    db.Owns u c ∨ db.Foreign u c := by
  obtain ⟨concert, hmem, hid⟩ := h
  by_cases howner : concert.organizerId = u
  · exact .inl ⟨concert, hmem, hid, howner⟩
  · exact .inr ⟨concert, hmem, hid, howner⟩

/-- Alike both ways. -/
theorem Alike.symm {a b : Response} (h : Alike a b) : Alike b a :=
  h.imp Eq.symm And.symm

/-- And along a chain. -/
theorem Alike.trans {a b x : Response} (h : Alike a b) (h' : Alike b x) : Alike a x := by
  rcases h with rfl | ⟨ha, hb⟩
  · exact h'
  · rcases h' with rfl | ⟨-, hx⟩
    · exact .inr ⟨ha, hb⟩
    · exact .inr ⟨ha, hx⟩

/-- Both databases have the same own concerts. -/
theorem Agree.owns_eq (h : Agree u s t) : t.Owns u = s.Owns u := by
  funext c
  rw [Db.Owns, Db.Owns, h.concerts]

/-- The restriction depends on the concerts, not on how they are told. -/
theorem rowsOf_congr {p q : ConcertId → Prop} [DecidablePred p] [DecidablePred q] (h : p = q)
    (db : Db) : db.rowsOf p = db.rowsOf q := by
  subst h
  congr

/-- They agree both ways. -/
theorem Agree.symm (h : Agree u s t) : Agree u t s where
  concerts := h.concerts.symm
  own := by
    rw [rowsOf_congr h.owns_eq t, rowsOf_congr h.owns_eq s]
    exact h.own.symm

/-- A list restricted to the own concerts determines what is at one of them. -/
theorem filter_at {Row : Type} {p : ConcertId → Prop} [DecidablePred p]
    (concertOf : Row → ConcertId) {rows rows' : List Row}
    (h : (rows.filter fun r => p (concertOf r)) = rows'.filter fun r => p (concertOf r))
    (hc : p c) :
    (rows.filter fun r => concertOf r = c) = rows'.filter fun r => concertOf r = c := by
  have hsub : ∀ l : List Row, (l.filter fun r => concertOf r = c)
      = (l.filter fun r => p (concertOf r)).filter fun r => concertOf r = c := by
    intro l
    rw [List.filter_filter]
    refine List.filter_congr fun r _ => ?_
    by_cases hr : concertOf r = c
    · simp [hr, hc]
    · simp [hr]
  rw [hsub rows, hsub rows', h]

/-- An own row is found in either state. -/
theorem lookup_at {Row Key : Type} [DecidableEq Key] {key : Row → Key} {p : Row → Bool}
    {rows rows' : List Row} {k : Key} {r : Row} (h : rows.filter p = rows'.filter p)
    (hk : RowTable.Keyed key rows') (hr : RowTable.lookup key k rows = some r) (hp : p r = true) :
    RowTable.lookup key k rows' = some r := by
  have hmem : r ∈ rows'.filter p := h ▸ List.mem_filter.mpr ⟨RowTable.lookup_mem hr, hp⟩
  rw [← RowTable.lookup_key hr]
  exact RowTable.lookup_of_mem hk (List.mem_of_mem_filter hmem)

section Tables

variable (h : Agree u s t)
include h

/-- They have the same own types. -/
theorem Agree.ticketTypes : (s.ticketTypes.filter fun tt => s.Owns u tt.concertId)
    = t.ticketTypes.filter fun tt => s.Owns u tt.concertId :=
  congrArg Db.ticketTypes h.own

/-- They have the same own gates. -/
theorem Agree.gates : (s.gates.filter fun g => s.Owns u g.concertId)
    = t.gates.filter fun g => s.Owns u g.concertId :=
  congrArg Db.gates h.own

/-- They have the same own tickets. -/
theorem Agree.tickets : (s.tickets.filter fun x => s.Owns u x.concertId)
    = t.tickets.filter fun x => s.Owns u x.concertId :=
  congrArg Db.tickets h.own

/-- They have the same own orders. -/
theorem Agree.orders : (s.orders.filter fun o => s.Owns u o.concertId)
    = t.orders.filter fun o => s.Owns u o.concertId :=
  congrArg Db.orders h.own

/-- An own type is found in both. -/
theorem Agree.findType (ht : t.Valid) {id : TicketTypeId} {tt : TicketType}
    (hfind : s.findType id = some tt) (hown : s.Owns u tt.concertId) : t.findType id = some tt :=
  lookup_at h.ticketTypes ht.typeIds hfind (decide_eq_true hown)

/-- So is an own order. -/
theorem Agree.findOrder (ht : t.Valid) {id : OrderId} {o : Order}
    (hfind : s.findOrder id = some o) (hown : s.Owns u o.concertId) : t.findOrder id = some o :=
  lookup_at h.orders ht.orderIds hfind (decide_eq_true hown)

end Tables

/-- The rows at an own concert are in both. -/
theorem mem_at {Row : Type} {p : ConcertId → Prop} [DecidablePred p]
    (concertOf : Row → ConcertId) {rows rows' : List Row}
    (h : (rows.filter fun r => p (concertOf r)) = rows'.filter fun r => p (concertOf r)) {r : Row}
    (hr : p (concertOf r)) : r ∈ rows ↔ r ∈ rows' := by
  have hmem : ∀ l : List Row, r ∈ l ↔ r ∈ l.filter fun r => p (concertOf r) := by
    intro l
    simp [hr]
  rw [hmem rows, hmem rows', h]

/-- The type that is found is a row. -/
theorem findType_some {id : TicketTypeId} {tt : TicketType} (h : db.findType id = some tt) :
    tt ∈ db.ticketTypes ∧ tt.id = id := by
  have hkey := RowTable.lookup_key h
  exact ⟨RowTable.lookup_mem h, hkey⟩

/-! ## Ownership checks -/

/-- The ownership check reads the concerts only. -/
theorem check_congr (h : s.concerts = t.concerts) :
    checkConcertOwnership c user s = checkConcertOwnership c user t := by
  rw [checkConcertOwnership, checkConcertOwnership, h]

/-- The check passes exactly for the organizer of the concert. -/
theorem check_cases (hvalid : db.Valid) (hrole : user.role = .organizer) :
    (checkConcertOwnership c user db = none ∧ db.Owns user.sub c) ∨
      ∃ err, checkConcertOwnership c user db = some err ∧ (Response.error err).Inaccessible ∧
        ¬ db.Owns user.sub c := by
  have hadmin : user.role ≠ .admin := by
    rw [hrole]
    decide
  rw [checkConcertOwnership]
  cases hfind : findConcert c db.concerts with
  | none =>
      refine .inr ⟨_, rfl, trivial, ?_⟩
      rintro ⟨concert, hmem, rfl, -⟩
      have hfound : findConcert concert.id db.concerts = some concert :=
        RowTable.lookup_of_mem hvalid.concertIds hmem
      rw [hfind] at hfound
      cases hfound
  | some concert =>
      have hmem := TicketConcerts.findConcert_mem hfind
      have hid := TicketConcerts.findConcert_key hfind
      by_cases howner : concert.organizerId = user.sub
      · exact .inl ⟨if_neg fun hno => hno.2 howner, concert, hmem, hid, howner⟩
      · refine .inr ⟨_, if_pos ⟨hadmin, howner⟩, trivial, fun hown => ?_⟩
        exact hown.not_foreign hvalid ⟨concert, hmem, hid, howner⟩

/-- A type is read with its concert, or not at all. -/
theorem readType_cases (hvalid : db.Valid) (hrole : user.role = .organizer) (id : TicketTypeId) :
    (∃ tt, readType id user db = .ok tt ∧ db.findType id = some tt ∧
        db.Owns user.sub tt.concertId) ∨
      ∃ err, readType id user db = .error err ∧ (Response.error err).Inaccessible ∧
        ∀ tt, db.findType id = some tt → ¬ db.Owns user.sub tt.concertId := by
  rw [readType]
  cases hfind : db.findType id with
  | none =>
      refine .inr ⟨_, rfl, trivial, ?_⟩
      intro tt htt
      cases htt
  | some tt =>
      dsimp only
      rcases check_cases (c := tt.concertId) hvalid hrole with
        ⟨hcheck, hown⟩ | ⟨err, hcheck, herr, hno⟩
      · rw [hcheck]
        exact .inl ⟨tt, rfl, rfl, hown⟩
      · rw [hcheck]
        refine .inr ⟨err, rfl, herr, ?_⟩
        rintro tt' htt
        cases htt
        exact hno

/-- The row the operations on a ticket type read, in both states. -/
theorem Agree.readType (h : Agree user.sub s t) (hs : s.Valid) (ht : t.Valid)
    (hrole : user.role = .organizer) (id : TicketTypeId) :
    (∃ tt, readType id user s = .ok tt ∧ readType id user t = .ok tt ∧ tt ∈ s.ticketTypes ∧
        tt.id = id ∧ s.Owns user.sub tt.concertId) ∨
      ∃ err err', readType id user s = .error err ∧ readType id user t = .error err' ∧
        (Response.error err).Inaccessible ∧ (Response.error err').Inaccessible := by
  have hsame : ∀ tt, s.Owns user.sub tt.concertId →
      (s.findType id = some tt ↔ t.findType id = some tt) := by
    intro tt hown
    refine ⟨fun hfind => h.findType ht hfind hown, fun hfind => ?_⟩
    exact h.symm.findType hs hfind (h.owns_eq ▸ hown)
  rcases readType_cases hs hrole id with ⟨tt, hread, hfind, hown⟩ | ⟨err, hread, herr, hno⟩
  · rcases readType_cases ht hrole id with ⟨tt', hread', hfind', -⟩ | ⟨err', -, -, hno'⟩
    · rw [(hsame tt hown).mp hfind] at hfind'
      cases hfind'
      obtain ⟨hmem, hid⟩ := findType_some hfind
      exact .inl ⟨tt, hread, hread', hmem, hid, hown⟩
    · exact absurd (h.owns_eq ▸ hown) (hno' tt ((hsame tt hown).mp hfind))
  · rcases readType_cases ht hrole id with ⟨tt', -, hfind', hown'⟩ | ⟨err', hread', herr', -⟩
    · rw [h.owns_eq] at hown'
      exact absurd hown' (hno tt' ((hsame tt' hown').mpr hfind'))
    · exact .inr ⟨err, err', hread, hread', herr, herr'⟩

/-! ## What is answered -/

section Answers

variable (h : Agree user.sub s t) (hs : s.Valid) (ht : t.Valid) (hrole : user.role = .organizer)
include h

/-- The types of an own concert are the same. -/
theorem Agree.typesOf (hc : s.Owns user.sub c) :
    (s.ticketTypes.filter fun tt => tt.concertId = c)
      = t.ticketTypes.filter fun tt => tt.concertId = c :=
  filter_at (fun tt : TicketType => tt.concertId) h.ticketTypes hc

/-- An update of a concert is answered alike. -/
theorem Agree.updateConcert (hrole : user.role = .organizer) (id : ConcertId)
    (dto : UpdateConcertDto) :
    (updateConcertOf e user id dto s).2 = (updateConcertOf e user id dto t).2 := by
  rw [updateConcertOf, updateConcertOf, h.concerts]
  cases hupdate : TicketConcerts.updateConcert id dto user.sub user.role e.now t.concerts with
  | error err => rfl
  | ok x =>
      obtain ⟨existing, rows⟩ := x
      obtain ⟨hfind, howner, hid, -⟩ := TicketConcerts.updateConcert_ok hupdate
      have hown : s.Owns user.sub id := by
        rw [← h.owns_eq]
        exact ⟨existing, TicketConcerts.findConcert_mem hfind, hid, howner hrole⟩
      dsimp only
      rw [h.typesOf hown]

/-- A name is taken in both or in neither. -/
theorem Agree.hasType (hc : s.Owns user.sub c) (name : String) :
    s.HasType c name ↔ t.HasType c name := by
  refine exists_congr fun tt => and_congr_left ?_
  rintro ⟨rfl, -⟩
  exact mem_at (fun tt : TicketType => tt.concertId) h.ticketTypes hc

/-- The types of an own concert that have `q`. -/
theorem Agree.typesWith (hc : s.Owns user.sub c) (q : TicketType → Prop) [DecidablePred q] :
    (s.ticketTypes.filter fun tt => tt.concertId = c ∧ q tt)
      = t.ticketTypes.filter fun tt => tt.concertId = c ∧ q tt := by
  have hsplit : ∀ l : List TicketType, (l.filter fun tt => tt.concertId = c ∧ q tt)
      = (l.filter fun tt => tt.concertId = c).filter fun tt => q tt := by
    intro l
    rw [List.filter_filter]
    refine List.filter_congr fun tt _ => ?_
    simp [Bool.and_comm]
  rw [hsplit s.ticketTypes, hsplit t.ticketTypes, h.typesOf hc]

include hs hrole

/-- The types are listed alike. -/
theorem Agree.findTypes (c : ConcertId) (status : Option TicketTypeStatus) :
    findTypes c status user s = findTypes c status user t := by
  rw [TicketAccess.findTypes, TicketAccess.findTypes, ← check_congr h.concerts]
  rcases check_cases (c := c) hs hrole with ⟨hcheck, hown⟩ | ⟨err, hcheck, -, -⟩
  · rw [hcheck]
    dsimp only
    rw [h.typesWith hown fun tt => ∀ s ∈ status, tt.status = s]
  · rw [hcheck]

/-- A create of a type is answered alike. -/
theorem Agree.createType (c : ConcertId) (dto : CreateTicketTypeDto)
    (hfresh : e.Fresh (.createType c dto) s) (hfresh' : e.Fresh (.createType c dto) t) :
    (createType e user c dto s).2 = (createType e user c dto t).2 := by
  have hnew : s.findType e.ticketTypeId = none := hfresh
  have hnew' : t.findType e.ticketTypeId = none := hfresh'
  rw [TicketAccess.createType, TicketAccess.createType, ← check_congr h.concerts]
  rcases check_cases (c := c) hs hrole with ⟨hcheck, hown⟩ | ⟨err, hcheck, -, -⟩
  · rw [hcheck]
    dsimp only
    by_cases hname : s.HasType c dto.name
    · rw [if_pos hname, if_pos ((h.hasType hown dto.name).mp hname)]
    · rw [if_neg hname, if_neg fun hname' => hname ((h.hasType hown dto.name).mpr hname'),
        h.concerts, hnew, hnew']
      split
      · rfl
      · rfl
  · rw [hcheck]

include ht

/-- So is a read of one. -/
theorem Agree.findTypeOf (id : TicketTypeId) :
    Alike (findTypeOf id user s) (findTypeOf id user t) := by
  rw [TicketAccess.findTypeOf, TicketAccess.findTypeOf]
  rcases h.readType hs ht hrole id with ⟨tt, hread, hread', -⟩ |
    ⟨err, err', hread, hread', herr, herr'⟩
  · rw [hread, hread']
    exact .inl rfl
  · rw [hread, hread']
    exact .inr ⟨herr, herr'⟩

/-- So is an update of one. -/
theorem Agree.updateType (id : TicketTypeId) (dto : UpdateTicketTypeDto) :
    Alike (updateType e user id dto s).2 (updateType e user id dto t).2 := by
  rw [TicketAccess.updateType, TicketAccess.updateType]
  rcases h.readType hs ht hrole id with ⟨tt, hread, hread', -, -, hown⟩ |
    ⟨err, err', hread, hread', herr, herr'⟩
  · rw [hread, hread']
    dsimp only
    have hduplicate : duplicate tt dto s ↔ duplicate tt dto t := by
      refine exists_congr fun name => and_congr_right fun _ => and_congr_right fun _ => ?_
      exact h.hasType hown name
    have hindex : (∃ tt' ∈ s.ticketTypes, tt'.id ≠ id ∧
          tt'.concertId = (updatedType e tt dto).concertId ∧
          tt'.name = (updatedType e tt dto).name) ↔
        ∃ tt' ∈ t.ticketTypes, tt'.id ≠ id ∧
          tt'.concertId = (updatedType e tt dto).concertId ∧
          tt'.name = (updatedType e tt dto).name := by
      refine exists_congr fun tt' => and_congr_left ?_
      rintro ⟨-, hconcert, -⟩
      refine mem_at (fun tt : TicketType => tt.concertId) h.ticketTypes ?_
      rw [hconcert]
      exact hown
    refine .inl ?_
    simp only [hduplicate, hindex]
    split
    · rfl
    · split
      · rfl
      · split
        · rfl
        · rfl
  · rw [hread, hread']
    exact .inr ⟨herr, herr'⟩

end Answers

/-- What refers to a ticket type is of its concert. -/
theorem references_iff (hvalid : db.Valid) {tt : TicketType} (htt : tt ∈ db.ticketTypes) :
    db.References tt.id ↔
      (∃ o ∈ db.orders, o.concertId = tt.concertId ∧ ∃ i ∈ o.items, i.ticketTypeId = tt.id) ∨
      ∃ k ∈ db.counters, k.2 = tt.id := by
  refine or_congr_left (exists_congr fun o => and_congr_right fun ho => ⟨?_, fun h => h.2⟩)
  rintro ⟨i, hi, hid⟩
  obtain ⟨-, tt', htt', hid', hconcert⟩ := hvalid.items o ho i hi
  rw [RowTable.eq_of_key hvalid.typeIds htt' htt (hid'.trans hid)] at hconcert
  exact ⟨hconcert.symm, i, hi, hid⟩

section References

variable (h : Agree u s t)
include h

/-- The counters of own types are the same. -/
theorem Agree.counters : (s.counters.filter fun k => ∃ tt ∈ s.ticketTypes, tt.id = k.2 ∧
      s.Owns u tt.concertId)
    = t.counters.filter fun k => ∃ tt ∈ t.ticketTypes, tt.id = k.2 ∧ s.Owns u tt.concertId :=
  congrArg Db.counters h.own

/-- So are the payments of own orders. -/
theorem Agree.payments : (s.payments.filter fun x => ∃ o ∈ s.orders, o.id = x.orderId ∧
      s.Owns u o.concertId)
    = t.payments.filter fun x => ∃ o ∈ t.orders, o.id = x.orderId ∧ s.Owns u o.concertId :=
  congrArg Db.payments h.own

/-- An own type is counted in both or in neither. -/
theorem Agree.counted {tt : TicketType} (htt : tt ∈ s.ticketTypes) (hown : s.Owns u tt.concertId) :
    (∃ k ∈ s.counters, k.2 = tt.id) ↔ ∃ k ∈ t.counters, k.2 = tt.id := by
  have htt' : tt ∈ t.ticketTypes :=
    (mem_at (fun tt : TicketType => tt.concertId) h.ticketTypes hown).mp htt
  have hmem : ∀ k : UserId × TicketTypeId, k.2 = tt.id → (k ∈ s.counters ↔ k ∈ t.counters) := by
    intro k hk
    have hs : k ∈ s.counters ↔ k ∈ s.counters.filter fun k =>
        ∃ tt ∈ s.ticketTypes, tt.id = k.2 ∧ s.Owns u tt.concertId := by
      rw [List.mem_filter, decide_eq_true_eq]
      exact ⟨fun hin => ⟨hin, tt, htt, hk.symm, hown⟩, And.left⟩
    have ht : k ∈ t.counters ↔ k ∈ t.counters.filter fun k =>
        ∃ tt ∈ t.ticketTypes, tt.id = k.2 ∧ s.Owns u tt.concertId := by
      rw [List.mem_filter, decide_eq_true_eq]
      exact ⟨fun hin => ⟨hin, tt, htt', hk.symm, hown⟩, And.left⟩
    rw [hs, ht, h.counters]
  exact exists_congr fun k => and_congr_left fun hk => hmem k hk

/-- It is referred to in both or in neither. -/
theorem Agree.references (hs : s.Valid) (ht : t.Valid) {tt : TicketType} (htt : tt ∈ s.ticketTypes)
    (hown : s.Owns u tt.concertId) : s.References tt.id ↔ t.References tt.id := by
  have htt' : tt ∈ t.ticketTypes :=
    (mem_at (fun tt : TicketType => tt.concertId) h.ticketTypes hown).mp htt
  rw [references_iff hs htt, references_iff ht htt']
  refine or_congr (exists_congr fun o => and_congr_left ?_) (h.counted htt hown)
  rintro ⟨hconcert, -⟩
  exact mem_at (fun o : Order => o.concertId) h.orders (by rw [hconcert]; exact hown)

end References

/-- A removal of a type is answered alike. -/
theorem Agree.removeType (h : Agree user.sub s t) (hs : s.Valid) (ht : t.Valid)
    (hrole : user.role = .organizer) (id : TicketTypeId) :
    Alike (removeType user id s).2 (removeType user id t).2 := by
  rw [TicketAccess.removeType, TicketAccess.removeType]
  rcases h.readType hs ht hrole id with ⟨tt, hread, hread', htt, rfl, hown⟩ |
    ⟨err, err', hread, hread', herr, herr'⟩
  · rw [hread, hread']
    dsimp only
    refine .inl ?_
    simp only [h.references hs ht htt hown]
    split
    · rfl
    · split
      · rfl
      · rfl
  · rw [hread, hread']
    exact .inr ⟨herr, herr'⟩

/-! ### Orders -/

/-- The tickets of an order's item are of the order's concert. -/
theorem tickets_of_item (hvalid : db.Valid) {o : Order} (ho : o ∈ db.orders) {i : OrderItem}
    (hi : i ∈ o.items) : (db.tickets.filter fun x => x.orderItemId = i.id)
      = (db.tickets.filter fun x => x.concertId = o.concertId).filter fun x =>
          x.orderItemId = i.id := by
  rw [List.filter_filter]
  refine List.filter_congr fun x hx => ?_
  by_cases hitem : x.orderItemId = i.id
  · obtain ⟨o', ho', -, hconcert, i', hi', hid'⟩ := hvalid.ticketOrder x hx
    have horder : o'.id = o.id := by
      rw [← (hvalid.items o' ho' i' hi').1, ← (hvalid.items o ho i hi).1, hid', hitem]
    rw [RowTable.eq_of_key hvalid.orderIds ho' ho horder] at hconcert
    simp [hitem, hconcert]
  · simp [hitem]

section Orders

variable (h : Agree u s t) (hs : s.Valid) (ht : t.Valid)
include h

/-- The payments of an own order are the same. -/
theorem Agree.paymentsOf {o : Order} (ho : o ∈ s.orders) (hown : s.Owns u o.concertId) :
    s.paymentsOf o.id = t.paymentsOf o.id := by
  have ho' : o ∈ t.orders := (mem_at (fun o : Order => o.concertId) h.orders hown).mp ho
  have hsub : ∀ (l : List PaymentTransaction) (orders : List Order), o ∈ orders →
      (l.filter fun x => x.orderId = o.id) = (l.filter fun x => ∃ o ∈ orders, o.id = x.orderId ∧
        s.Owns u o.concertId).filter fun x => x.orderId = o.id := by
    intro l orders hmem
    rw [List.filter_filter]
    refine List.filter_congr fun x _ => ?_
    by_cases hx : x.orderId = o.id
    · have hin : ∃ o ∈ orders, o.id = x.orderId ∧ s.Owns u o.concertId := ⟨o, hmem, hx.symm, hown⟩
      simp only [hx] at hin
      simp [hx, hin]
    · simp [hx]
  rw [Db.paymentsOf, Db.paymentsOf, hsub s.payments s.orders ho,
    hsub t.payments t.orders ho', h.payments]

include hs ht

/-- Its items are shown alike. -/
theorem Agree.itemResponse {o : Order} (ho : o ∈ s.orders) (hown : s.Owns u o.concertId)
    {i : OrderItem} (hi : i ∈ o.items) : toOrderItemResponse i s = toOrderItemResponse i t := by
  have ho' : o ∈ t.orders := (mem_at (fun o : Order => o.concertId) h.orders hown).mp ho
  obtain ⟨-, tt, htt, hid, hconcert⟩ := hs.items o ho i hi
  have hfind : s.findType i.ticketTypeId = some tt := by
    rw [← hid]
    exact RowTable.lookup_of_mem hs.typeIds htt
  have hname : s.typeName i.ticketTypeId = t.typeName i.ticketTypeId := by
    rw [Db.typeName, Db.typeName, hfind, h.findType ht hfind (hconcert ▸ hown)]
  have htickets : (s.tickets.filter fun x => x.orderItemId = i.id)
      = t.tickets.filter fun x => x.orderItemId = i.id := by
    rw [tickets_of_item hs ho hi, tickets_of_item ht ho' hi,
      filter_at (fun x : Ticket => x.concertId) h.tickets hown]
  rw [toOrderItemResponse, toOrderItemResponse, hname, htickets]

/-- So is the order. -/
theorem Agree.orderResponse {o : Order} (ho : o ∈ s.orders) (hown : s.Owns u o.concertId)
    (paymentUrl : Option String) :
    toOrderResponseMinimal e o paymentUrl s = toOrderResponseMinimal e o paymentUrl t := by
  have hitems : (o.items.map fun i => toOrderItemResponse i s)
      = o.items.map fun i => toOrderItemResponse i t :=
    List.map_congr_left fun i hi => h.itemResponse hs ht ho hown hi
  simp only [toOrderResponseMinimal, hitems, h.concerts]

/-- An own order is answered alike. -/
theorem Agree.getOrderAdmin {o : Order} (ho : o ∈ s.orders) (hown : s.Owns u o.concertId) :
    getOrderAdmin e o.id s = getOrderAdmin e o.id t := by
  have hfind : s.findOrder o.id = some o := RowTable.lookup_of_mem hs.orderIds ho
  rw [TicketAccess.getOrderAdmin, TicketAccess.getOrderAdmin, hfind, h.findOrder ht hfind hown]
  dsimp only
  rw [h.paymentsOf ho hown, h.orderResponse hs ht ho hown]

end Orders

/-- The rows of a page are rows. -/
theorem mem_pageOf {Row : Type} {skip take : Int} {rows page : List Row}
    (h : pageOf skip take rows = some page) {r : Row} (hr : r ∈ page) : r ∈ rows := by
  rw [pageOf] at h
  split at h
  · cases h
  · split at h
    · cases h
      exact List.mem_of_mem_drop (List.mem_of_mem_take hr)
    · cases h
      have hdrop := List.mem_of_mem_take (List.mem_reverse.mp hr)
      exact List.mem_reverse.mp (List.mem_of_mem_drop hdrop)

/-- The list of orders is filtered by the organizer. -/
theorem listed_orders (hrole : user.role = .organizer) (status : Option OrderStatus)
    (concertId : Option ConcertId) :
    (db.orders.filter fun o => (∀ s ∈ status, o.status = s) ∧ (∀ c ∈ concertId, o.concertId = c) ∧
        ∀ u ∈ (if user.role = .organizer then some user.sub else none), db.organizedBy u o = true)
      = (db.orders.filter fun o => db.Owns user.sub o.concertId).filter fun o =>
          (∀ s ∈ status, o.status = s) ∧ ∀ c ∈ concertId, o.concertId = c := by
  rw [List.filter_filter]
  refine List.filter_congr fun o _ => ?_
  have howner : db.organizedBy user.sub o = true ↔ db.Owns user.sub o.concertId := by
    simp [Db.organizedBy, Db.Owns]
  simp only [hrole, if_true, Option.mem_def, Option.some.injEq, forall_eq', howner]
  rw [Bool.eq_iff_iff]
  simp only [Bool.and_eq_true, decide_eq_true_eq, and_assoc]

/-- The own orders are the same. -/
theorem Agree.ownOrders (h : Agree u s t) :
    (s.orders.filter fun o => s.Owns u o.concertId)
      = t.orders.filter fun o => t.Owns u o.concertId := by
  rw [h.orders]
  refine List.filter_congr fun o _ => ?_
  simp only [h.owns_eq]

/-- The orders are listed alike. -/
theorem Agree.getAllOrders (h : Agree user.sub s t) (hs : s.Valid) (ht : t.Valid)
    (hrole : user.role = .organizer) (page limit : Int) (status : Option OrderStatus)
    (concertId : Option ConcertId) :
    getAllOrders e user page limit status concertId s
      = getAllOrders e user page limit status concertId t := by
  simp only [TicketAccess.getAllOrders]
  rw [listed_orders hrole, listed_orders hrole, ← h.ownOrders]
  generalize hrows : (s.orders.filter fun o => s.Owns user.sub o.concertId).filter
    (fun o => (∀ s ∈ status, o.status = s) ∧ ∀ c ∈ concertId, o.concertId = c) = rows
  cases hpage : pageOf ((page - 1) * limit) limit
      (rows.insertionSort fun a b => b.createdAt ≤ a.createdAt) with
  | none => rfl
  | some orders =>
      have hresponses : (orders.map fun o => toOrderResponseMinimal e o none s)
          = orders.map fun o => toOrderResponseMinimal e o none t := by
        refine List.map_congr_left fun o ho => ?_
        have hrow : o ∈ rows := (List.mem_insertionSort _).mp (mem_pageOf hpage ho)
        rw [← hrows] at hrow
        obtain ⟨hmem, hown⟩ := List.mem_filter.mp (List.mem_of_mem_filter hrow)
        exact h.orderResponse hs ht hmem (of_decide_eq_true hown) none
      dsimp only
      rw [hresponses]

/-! ### Gates -/

/-- The gates see tables in order. -/
theorem Db.Valid.tables (h : db.Valid) (e : Env) : TicketGates.Tables (db.gateWorld e) where
  tickets := by
    have hkeys : (db.gateWorld e).tickets.map (fun t => t.id) = db.tickets.map fun t => t.id := by
      rw [Db.gateWorld, List.map_map]
      rfl
    rw [RowTable.Keyed, hkeys]
    exact h.ticketIds
  gates := h.gateIds
  names := h.gateNames

/-- They see the concert's tickets. -/
theorem ticketsOf_gateWorld (e : Env) (db : Db) (c : ConcertId) : (db.gateWorld e).ticketsOf c
    = (db.tickets.filter fun x => x.concertId = c).map Ticket.toGateTicket := by
  rw [TicketGates.World.ticketsOf, Db.gateWorld, List.filter_map]
  rfl

/-- The gate service finds the same at a concert that is nobody else's. -/
theorem Agree.sameAt (h : Agree u s t) (hs : s.Valid) (ht : t.Valid) (hc : ¬ s.Foreign u c) :
    TicketGates.SameAt c (s.gateWorld e) (t.gateWorld e) := by
  have hrows :
      (s.gates.filter fun g => g.concertId = c) = (t.gates.filter fun g => g.concertId = c) ∧
      (s.tickets.filter fun x => x.concertId = c) = t.tickets.filter fun x => x.concertId = c := by
    by_cases hown : s.Owns u c
    · exact ⟨filter_at (fun g : Gate => g.concertId) h.gates hown,
        filter_at (fun x : Ticket => x.concertId) h.tickets hown⟩
    · -- there is no such concert
      have hnone : ¬ ∃ concert ∈ s.concerts, concert.id = c := fun hex =>
        (owns_or_foreign hex).elim hown hc
      have hgates : ∀ db : Db, db.Valid → db.concerts = s.concerts →
          (db.gates.filter fun g => g.concertId = c) = [] ∧
            (db.tickets.filter fun x => x.concertId = c) = [] := by
        intro db hvalid hconcerts
        constructor
        · refine List.filter_eq_nil_iff.mpr fun g hg hin => hnone ?_
          rw [← hconcerts, ← of_decide_eq_true hin]
          exact hvalid.gateConcert g hg
        · refine List.filter_eq_nil_iff.mpr fun x hx hin => hnone ?_
          obtain ⟨o, ho, -, hconcert, -⟩ := hvalid.ticketOrder x hx
          rw [← hconcerts, ← of_decide_eq_true hin, ← hconcert]
          exact hvalid.orderConcert o ho
      obtain ⟨hg, hx⟩ := hgates s hs rfl
      obtain ⟨hg', hx'⟩ := hgates t ht h.concerts.symm
      rw [hg, hg', hx, hx']
      exact ⟨rfl, rfl⟩
  refine ⟨rfl, rfl, ?_, hrows.1, ?_⟩
  · show c ∈ s.concerts.map _ ↔ c ∈ t.concerts.map _
    rw [h.concerts]
  · rw [ticketsOf_gateWorld, ticketsOf_gateWorld, hrows.2]

/-- They find its gates. -/
theorem findGate_gateWorld (hvalid : db.Valid) {gate : Gate} (hgate : gate ∈ db.gates) :
    (db.gateWorld e).findGate gate.id = some gate :=
  RowTable.lookup_of_mem hvalid.gateIds hgate

/-- A gate has tickets for them if it has any. -/
theorem tickets_at {name : String} :
    (∃ x ∈ (db.gateWorld e).tickets, x.gateId = some name)
      ↔ ∃ x ∈ db.tickets, x.gateId = some name := by
  simp [Db.gateWorld]

/-- A name that is taken is refused in both states. -/
theorem Agree.updateTaken (h : Agree u s t) (hs : s.Valid) (ht : t.Valid) {gate : Gate}
    {dto : UpdateGateDto} (hgate : gate ∈ s.gates) (hown : s.Owns u gate.concertId)
    (htaken : dto.Taken gate (s.gateWorld e)) :
    (TicketGates.updateAlone gate.id dto (s.gateWorld e)).2
      = (TicketGates.updateAlone gate.id dto (t.gateWorld e)).2 := by
  have hgate' : gate ∈ t.gates := (mem_at (fun g : Gate => g.concertId) h.gates hown).mp hgate
  have htaken' : dto.Taken gate (t.gateWorld e) := by
    obtain ⟨g, hg, hid, hconcert, hname⟩ := htaken
    refine ⟨g, ?_, hid, hconcert, hname⟩
    exact (mem_at (fun g : Gate => g.concertId) h.gates (by rw [hconcert]; exact hown)).mp hg
  rw [TicketGates.updateAlone_taken (findGate_gateWorld hs hgate) htaken,
    TicketGates.updateAlone_taken (findGate_gateWorld ht hgate') htaken']

/-- They see no other gate if there is none. -/
theorem otherGates_nil (e : Env) (db : Db) (gate : Gate) :
    (db.gateWorld e).otherGates gate = [] ↔ ¬ db.HasOther gate := by
  rw [TicketGates.World.otherGates, List.filter_eq_nil_iff]
  constructor
  · rintro hnone ⟨g, hg, hconcert, hid⟩
    exact hnone g (TicketGates.mem_sortedGates.mpr ⟨hg, hconcert⟩) (decide_eq_true hid)
  · intro hnone g hg hid
    obtain ⟨hmem, hconcert⟩ := TicketGates.mem_sortedGates.mp hg
    exact hnone ⟨g, hmem, hconcert, of_decide_eq_true hid⟩

/-- With another gate in the concert the gate is deleted. -/
theorem removed_of_other (hvalid : db.Valid) {gate : Gate} (hgate : gate ∈ db.gates)
    (hother : db.HasOther gate) :
    (TicketGates.removeAlone gate.id (db.gateWorld e)).2 = .removed := by
  have hfind := findGate_gateWorld (e := e) hvalid hgate
  by_cases hat : ∃ x ∈ (db.gateWorld e).tickets, x.gateId = some gate.name
  · cases hothers : (db.gateWorld e).otherGates gate with
    | nil => exact absurd hother ((otherGates_nil e db gate).mp hothers)
    | cons target others =>
        obtain ⟨tickets, -, heq⟩ := TicketGates.removeAlone_moves hfind hat hothers
        rw [heq]
  · rw [TicketGates.removeAlone_empty hfind hat]

/-- An own gate has another one beside it in both or in neither. -/
theorem Agree.hasOther (h : Agree u s t) {gate : Gate} (hown : s.Owns u gate.concertId) :
    s.HasOther gate ↔ t.HasOther gate := by
  refine exists_congr fun g => and_congr_left ?_
  rintro ⟨hconcert, -⟩
  exact mem_at (fun g : Gate => g.concertId) h.gates (by rw [hconcert]; exact hown)

/-- A removal of a gate is answered alike. -/
theorem Agree.removeSeparate (h : Agree u s t) (hs : s.Valid) (ht : t.Valid) {gate : Gate}
    (hgate : gate ∈ s.gates) (hown : s.Owns u gate.concertId) (hsep : s.Separate u gate) :
    (TicketGates.removeAlone gate.id (s.gateWorld e)).2
      = (TicketGates.removeAlone gate.id (t.gateWorld e)).2 := by
  have hgate' : gate ∈ t.gates := (mem_at (fun g : Gate => g.concertId) h.gates hown).mp hgate
  by_cases hother : s.HasOther gate
  · rw [removed_of_other hs hgate hother, removed_of_other ht hgate' ((h.hasOther hown).mp hother)]
  · obtain ⟨x, hx, hname, hownx⟩ := hsep.1 hother
    have hx' : x ∈ t.tickets := (mem_at (fun x : Ticket => x.concertId) h.tickets hownx).mp hx
    have hlast := (otherGates_nil e s gate).mpr hother
    have hlast' := (otherGates_nil e t gate).mpr fun ho => hother ((h.hasOther hown).mpr ho)
    rw [TicketGates.removeAlone_last (findGate_gateWorld hs hgate) (tickets_at.mpr ⟨x, hx, hname⟩)
        hlast,
      TicketGates.removeAlone_last (findGate_gateWorld ht hgate') (tickets_at.mpr ⟨x, hx', hname⟩)
        hlast']

/-! ### Nobody else's concerts -/

/-- Where all concerts are the user's, every row is. -/
theorem Agree.all (h : Agree u s t) (hs : s.Valid) (ht : t.Valid) (hall : s.OwnsAll u) :
    t = { s with counters := t.counters, stock := t.stock } := by
  have howns : ∀ {c : ConcertId}, (∃ concert ∈ s.concerts, concert.id = c) → s.Owns u c := by
    rintro c ⟨concert, hmem, hid⟩
    exact ⟨concert, hmem, hid, hall concert hmem⟩
  have hself : ∀ {Row : Type} {concertOf : Row → ConcertId} {rows : List Row},
      (∀ r ∈ rows, ∃ concert ∈ s.concerts, concert.id = concertOf r) →
      (rows.filter fun r => s.Owns u (concertOf r)) = rows := fun hrows =>
    List.filter_eq_self.mpr fun r hr => decide_eq_true (howns (hrows r hr))
  have horder : ∀ o ∈ t.orders, ∃ concert ∈ s.concerts, concert.id = o.concertId :=
    h.concerts ▸ ht.orderConcert
  have htickets : ∀ db : Db, db.Valid → db.concerts = s.concerts →
      ∀ x ∈ db.tickets, ∃ concert ∈ s.concerts, concert.id = x.concertId := by
    intro db hvalid hconcerts x hx
    obtain ⟨o, ho, -, hconcert, -⟩ := hvalid.ticketOrder x hx
    rw [← hconcerts, ← hconcert]
    exact hvalid.orderConcert o ho
  have hpayments : ∀ db : Db, db.Valid → db.concerts = s.concerts →
      (db.payments.filter fun x => ∃ o ∈ db.orders, o.id = x.orderId ∧ s.Owns u o.concertId)
        = db.payments := by
    intro db hvalid hconcerts
    refine List.filter_eq_self.mpr fun x hx => ?_
    obtain ⟨o, ho, hid⟩ := hvalid.paymentOrder x hx
    have hconcert := hvalid.orderConcert o ho
    rw [hconcerts] at hconcert
    exact decide_eq_true ⟨o, ho, hid, howns hconcert⟩
  have htypes := h.ticketTypes
  rw [hself hs.typeConcert, hself (h.concerts ▸ ht.typeConcert)] at htypes
  have hgates := h.gates
  rw [hself hs.gateConcert, hself (h.concerts ▸ ht.gateConcert)] at hgates
  have hrows := h.tickets
  rw [hself (htickets s hs rfl), hself (htickets t ht h.concerts.symm)] at hrows
  have horders := h.orders
  rw [hself hs.orderConcert, hself horder] at horders
  have hpaid := h.payments
  rw [hpayments s hs rfl, hpayments t ht h.concerts.symm] at hpaid
  cases s
  cases t
  simp only [Db.mk.injEq] at *
  exact ⟨h.concerts.symm, htypes.symm, hgates.symm, hrows.symm, horders.symm, hpaid.symm, trivial,
    trivial⟩

end TicketAccess
