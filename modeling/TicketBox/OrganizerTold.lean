import TicketBox.OrganizerProofs
import Mathlib.Data.Fintype.EquivFin

/-! # States an organizer tells apart

    Two states with the same rows of the organizer's own: the bare one, which holds no
    other rows, and the same with a gate or a sale of another organizer.  The gate
    operations and the detail of an order answer them differently (`told_*`), as no
    check is made before the rows are read. -/

namespace TicketAccess

open TicketStore (UserId ConcertId TicketTypeId OrderId ApiError OrderItem)
open TicketConcerts (Concert)
open TicketGates (Gate GateId CreateGateDto UpdateGateDto)

variable {u : UserId} {s t db : Db} {c : ConcertId} {e : Env} {user : AuthUser} {r : Request}

/-! ## The bare state -/

/-- The same concerts, with the rows of the user's own. -/
def Db.ownOnly (u : UserId) (db : Db) : Db := { db.rowsOf (db.Owns u) with concerts := db.concerts }

/-- The own rows agree with the whole. -/
theorem ownOnly_agree (u : UserId) (db : Db) : Agree u db (db.ownOnly u) where
  concerts := rfl
  own := by
    have hstock : ∀ id : TicketTypeId,
        (∃ tt ∈ db.ticketTypes, tt.id = id ∧ db.Owns u tt.concertId) ↔
          ∃ tt, (tt ∈ db.ticketTypes ∧ db.Owns u tt.concertId) ∧
            tt.id = id ∧ db.Owns u tt.concertId := by
      intro id
      refine exists_congr fun tt => ?_
      tauto
    have horders : ∀ id : OrderId,
        (∃ o ∈ db.orders, o.id = id ∧ db.Owns u o.concertId) ↔
          ∃ o, (o ∈ db.orders ∧ db.Owns u o.concertId) ∧ o.id = id ∧ db.Owns u o.concertId := by
      intro id
      refine exists_congr fun o => ?_
      tauto
    simp only [Db.rowsOf, Db.ownOnly, List.filter_filter, Bool.and_self, List.mem_filter,
      decide_eq_true_eq, ← hstock, ← horders]
    congr 1
    funext id
    split
    · rfl
    · rfl

section OwnRows

variable {Row : Type} {concertOf : Row → ConcertId} {rows : List Row} {x : Row}

/-- The own rows of a table. -/
theorem mem_own : x ∈ rows.filter (fun r => db.Owns u (concertOf r))
    ↔ x ∈ rows ∧ db.Owns u (concertOf x) := by
  rw [List.mem_filter, decide_eq_true_eq]

end OwnRows

/-- They are a valid database. -/
theorem ownOnly_valid (u : UserId) (h : db.Valid) : (db.ownOnly u).Valid where
  concertIds := h.concertIds
  slugs := h.slugs
  typeIds := h.typeIds.filter
  gateIds := h.gateIds.filter
  ticketIds := h.ticketIds.filter
  tokens := h.tokens.filter
  orderIds := h.orderIds.filter
  gateNames := fun g hg g' hg' =>
    h.gateNames g (List.mem_of_mem_filter hg) g' (List.mem_of_mem_filter hg')
  typeNames := fun tt htt tt' htt' =>
    h.typeNames tt (List.mem_of_mem_filter htt) tt' (List.mem_of_mem_filter htt')
  typeConcert := fun tt htt => h.typeConcert tt (List.mem_of_mem_filter htt)
  gateConcert := fun g hg => h.gateConcert g (List.mem_of_mem_filter hg)
  orderConcert := fun o ho => h.orderConcert o (List.mem_of_mem_filter ho)
  items := by
    intro o ho i hi
    obtain ⟨hmem, hown⟩ := mem_own.mp ho
    obtain ⟨hid, tt, htt, htype, hconcert⟩ := h.items o hmem i hi
    exact ⟨hid, tt, mem_own.mpr ⟨htt, by rw [hconcert]; exact hown⟩, htype, hconcert⟩
  ticketOrder := by
    intro x hx
    obtain ⟨hmem, hown⟩ := mem_own.mp hx
    obtain ⟨o, ho, hid, hconcert, hitem⟩ := h.ticketOrder x hmem
    exact ⟨o, mem_own.mpr ⟨ho, by rw [hconcert]; exact hown⟩, hid, hconcert, hitem⟩
  paymentOrder := by
    intro x hx
    obtain ⟨o, ho, hid, hown⟩ := of_decide_eq_true (List.mem_filter.mp hx).2
    exact ⟨o, mem_own.mpr ⟨ho, hown⟩, hid⟩
  counterType := by
    intro k hk
    obtain ⟨tt, htt, hid, hown⟩ := of_decide_eq_true (List.mem_filter.mp hk).2
    exact ⟨tt, mem_own.mpr ⟨htt, hown⟩, hid⟩

/-! ## A gate of another organizer -/

/-- One more gate. -/
def Db.addGate (g : Gate) (db : Db) : Db := { db with gates := db.gates ++ [g] }

/-- The gate can be added: its id is not in use, and its concert has no gates yet. -/
structure Db.Admits (g : Gate) (db : Db) : Prop where
  concert : ∃ concert ∈ db.concerts, concert.id = g.concertId
  id : ∀ g' ∈ db.gates, g'.id ≠ g.id
  first : ∀ g' ∈ db.gates, g'.concertId ≠ g.concertId

/-- One more gate. -/
theorem mem_addGate {g g' : Gate} : g' ∈ (db.addGate g).gates ↔ g' ∈ db.gates ∨ g' = g := by
  rw [Db.addGate, List.mem_append, List.mem_singleton]

/-- It keeps the database valid. -/
theorem addGate_valid {g : Gate} (h : db.Valid) (hnew : db.Admits g) : (db.addGate g).Valid :=
  { h with
    gateIds := h.gateIds.append (RowTable.lookup_eq_none.mpr hnew.id)
    gateNames := by
      intro g₁ hg₁ g₂ hg₂ hconcert hname
      rcases mem_addGate.mp hg₁ with h₁ | rfl
      · rcases mem_addGate.mp hg₂ with h₂ | rfl
        · exact h.gateNames g₁ h₁ g₂ h₂ hconcert hname
        · exact absurd hconcert (hnew.first g₁ h₁)
      · rcases mem_addGate.mp hg₂ with h₂ | h₂
        · exact absurd hconcert.symm (hnew.first g₂ h₂)
        · exact h₂.symm
    gateConcert := by
      intro g' hg'
      rcases mem_addGate.mp hg' with hg' | rfl
      · exact h.gateConcert g' hg'
      · exact hnew.concert }

/-- A row that is not asked for is not there. -/
theorem filter_append_not {Row : Type} {p : Row → Bool} {rows : List Row} {x : Row}
    (hx : p x = false) : (rows ++ [x]).filter p = rows.filter p := by
  rw [List.filter_append, List.filter_cons_of_neg (by simp [hx]), List.filter_nil, List.append_nil]

/-- A gate of another concert is no difference to the organizer. -/
theorem addGate_agree {g : Gate} (hg : ¬ s.Owns u g.concertId) : Agree u s (s.addGate g) where
  concerts := rfl
  own := by
    have hgates : ((s.gates ++ [g]).filter fun g => s.Owns u g.concertId)
        = s.gates.filter fun g => s.Owns u g.concertId := filter_append_not (decide_eq_false hg)
    simp only [Db.rowsOf, Db.addGate, hgates]
    rfl

/-! ## A sale of another organizer -/

/-- A new ticket type of a concert and an order of one ticket of it, as rows. -/
structure Sale where
  concertId : ConcertId
  ticketTypeId : TicketTypeId
  orderId : OrderId
  ticketId : TicketCheckin.TicketId
  qrTokenHash : String
  /-- the gate the ticket names -/
  gateName : String

/-- The type that was sold. -/
def Sale.ticketType (x : Sale) : TicketType where
  id := x.ticketTypeId
  concertId := x.concertId
  name := "VIP"
  price := 1
  totalQty := 1
  soldQty := 1
  reservedQty := 0
  maxPerUser := 1
  saleStartsAt := 0
  saleEndsAt := none
  status := .active
  createdAt := 0
  updatedAt := 0

/-- The item of the order. -/
def Sale.item (x : Sale) : OrderItem where
  id := (x.orderId, 0)
  ticketTypeId := x.ticketTypeId
  quantity := 1
  quantity_pos := Int.one_pos
  unitPrice := 1
  subtotal := 1

/-- The order, paid. -/
def Sale.order (x : Sale) : Order where
  id := x.orderId
  userId := 0
  concertId := x.concertId
  status := .paid
  totalAmountInVnd := 1
  expiresAt := none
  paidAt := some 0
  cancelledAt := none
  inventoryReleasedAt := none
  releaseReason := none
  items := [x.item]
  currency := "VND"
  createdAt := 0
  updatedAt := 0

/-- The ticket that was issued. -/
def Sale.ticket (x : Sale) : Ticket where
  id := x.ticketId
  concertId := x.concertId
  ticketTypeName := "VIP"
  gateId := some x.gateName
  qrTokenHash := x.qrTokenHash
  qrSignature := none
  status := .issued
  checkedInAt := none
  orderId := x.orderId
  qrRawToken := ""
  orderItemId := (x.orderId, 0)

/-- The tables with the rows of the sale. -/
def Db.addSale (x : Sale) (db : Db) : Db :=
  { db with
    ticketTypes := db.ticketTypes ++ [x.ticketType]
    orders := db.orders ++ [x.order]
    tickets := db.tickets ++ [x.ticket] }

/-- The sale can be added: its ids are not in use, and its concert sold nothing yet. -/
structure Db.Sells (x : Sale) (db : Db) : Prop where
  concert : ∃ concert ∈ db.concerts, concert.id = x.concertId
  type : ∀ tt ∈ db.ticketTypes, tt.id ≠ x.ticketTypeId
  first : ∀ tt ∈ db.ticketTypes, tt.concertId ≠ x.concertId
  order : ∀ o ∈ db.orders, o.id ≠ x.orderId
  ticket : ∀ t ∈ db.tickets, t.id ≠ x.ticketId
  token : ∀ t ∈ db.tickets, t.qrTokenHash ≠ x.qrTokenHash

/-- A sale keeps the database valid. -/
theorem addSale_valid {x : Sale} (h : db.Valid) (hnew : db.Sells x) : (db.addSale x).Valid where
  concertIds := h.concertIds
  slugs := h.slugs
  typeIds := h.typeIds.append (RowTable.lookup_eq_none.mpr hnew.type)
  gateIds := h.gateIds
  ticketIds := h.ticketIds.append (RowTable.lookup_eq_none.mpr hnew.ticket)
  tokens := h.tokens.append (RowTable.lookup_eq_none.mpr hnew.token)
  orderIds := h.orderIds.append (RowTable.lookup_eq_none.mpr hnew.order)
  gateNames := h.gateNames
  -- the sale is of a concert without types
  typeNames := by
    intro tt htt tt' htt' hconcert hname
    rcases List.mem_append.mp htt with htt | htt
    · rcases List.mem_append.mp htt' with htt' | htt'
      · exact h.typeNames tt htt tt' htt' hconcert hname
      · rw [List.mem_singleton] at htt'
        subst htt'
        exact absurd hconcert (hnew.first tt htt)
    · rw [List.mem_singleton] at htt
      subst htt
      rcases List.mem_append.mp htt' with htt' | htt'
      · exact absurd hconcert.symm (hnew.first tt' htt')
      · exact (List.mem_singleton.mp htt').symm
  typeConcert := by
    intro tt htt
    rcases List.mem_append.mp htt with htt | htt
    · exact h.typeConcert tt htt
    · rw [List.mem_singleton] at htt
      subst htt
      exact hnew.concert
  gateConcert := h.gateConcert
  orderConcert := by
    intro o ho
    rcases List.mem_append.mp ho with ho | ho
    · exact h.orderConcert o ho
    · rw [List.mem_singleton] at ho
      subst ho
      exact hnew.concert
  items := by
    intro o ho i hi
    rcases List.mem_append.mp ho with ho | ho
    · obtain ⟨hid, tt, htt, htype⟩ := h.items o ho i hi
      exact ⟨hid, tt, List.mem_append_left _ htt, htype⟩
    · rw [List.mem_singleton] at ho
      subst ho
      obtain rfl := List.mem_singleton.mp hi
      exact ⟨rfl, x.ticketType, List.mem_append_right _ List.mem_cons_self, rfl, rfl⟩
  ticketOrder := by
    intro t ht
    rcases List.mem_append.mp ht with ht | ht
    · obtain ⟨o, ho, hid, hconcert, hitem⟩ := h.ticketOrder t ht
      exact ⟨o, List.mem_append_left _ ho, hid, hconcert, hitem⟩
    · rw [List.mem_singleton] at ht
      subst ht
      exact ⟨x.order, List.mem_append_right _ List.mem_cons_self, rfl, rfl, x.item,
        List.mem_cons_self, rfl⟩
  paymentOrder := by
    intro p hp
    obtain ⟨o, ho, hid⟩ := h.paymentOrder p hp
    exact ⟨o, List.mem_append_left _ ho, hid⟩
  counterType := by
    intro k hk
    obtain ⟨tt, htt, hid⟩ := h.counterType k hk
    exact ⟨tt, List.mem_append_left _ htt, hid⟩

/-- Adding a row without `q` does not make one with `q`. -/
theorem exists_append_not {Row : Type} {q : Row → Prop} {rows : List Row} {x : Row} (hx : ¬ q x) :
    (∃ r ∈ rows ++ [x], q r) ↔ ∃ r ∈ rows, q r := by
  constructor
  · rintro ⟨r, hr, hq⟩
    rcases List.mem_append.mp hr with hr | hr
    · exact ⟨r, hr, hq⟩
    · rw [List.mem_singleton] at hr
      subst hr
      exact absurd hq hx
  · rintro ⟨r, hr, hq⟩
    exact ⟨r, List.mem_append_left _ hr, hq⟩

/-- A sale of another concert is no difference to him. -/
theorem addSale_agree {x : Sale} (hx : ¬ s.Owns u x.concertId) : Agree u s (s.addSale x) where
  concerts := rfl
  own := by
    have htypes : ((s.ticketTypes ++ [x.ticketType]).filter fun tt => s.Owns u tt.concertId)
        = s.ticketTypes.filter fun tt => s.Owns u tt.concertId :=
      filter_append_not (decide_eq_false hx)
    have horders : ((s.orders ++ [x.order]).filter fun o => s.Owns u o.concertId)
        = s.orders.filter fun o => s.Owns u o.concertId := filter_append_not (decide_eq_false hx)
    have htickets : ((s.tickets ++ [x.ticket]).filter fun t => s.Owns u t.concertId)
        = s.tickets.filter fun t => s.Owns u t.concertId := filter_append_not (decide_eq_false hx)
    have htype : ∀ id : TicketTypeId, (∃ tt ∈ s.ticketTypes ++ [x.ticketType], tt.id = id ∧
        s.Owns u tt.concertId) ↔ ∃ tt ∈ s.ticketTypes, tt.id = id ∧ s.Owns u tt.concertId :=
      fun id => exists_append_not fun h => hx h.2
    have horder : ∀ id : OrderId, (∃ o ∈ s.orders ++ [x.order], o.id = id ∧
        s.Owns u o.concertId) ↔ ∃ o ∈ s.orders, o.id = id ∧ s.Owns u o.concertId :=
      fun id => exists_append_not fun h => hx h.2
    simp only [Db.rowsOf, Db.addSale, htypes, horders, htickets, htype, horder]

/-- A key that no row has. -/
theorem exists_unused {Row Key : Type} [DecidableEq Key] [Infinite Key] (key : Row → Key)
    (rows : List Row) : ∃ k, ∀ r ∈ rows, key r ≠ k := by
  obtain ⟨k, hk⟩ := Infinite.exists_notMem_finset (rows.map key).toFinset
  exact ⟨k, fun r hr heq => hk (List.mem_toFinset.mpr (heq ▸ List.mem_map_of_mem hr))⟩

/-- There is room for a sale with that gate. -/
theorem exists_sale {c : ConcertId} {oid : OrderId} (gateName : String)
    (hconcert : ∃ concert ∈ s.concerts, concert.id = c)
    (hfirst : ∀ tt ∈ s.ticketTypes, tt.concertId ≠ c) (horder : ∀ o ∈ s.orders, o.id ≠ oid) :
    ∃ x : Sale, x.concertId = c ∧ x.orderId = oid ∧ x.gateName = gateName ∧ s.Sells x := by
  obtain ⟨tid, htype⟩ := exists_unused (fun tt : TicketType => tt.id) s.ticketTypes
  obtain ⟨id, hticket⟩ := exists_unused (fun t : Ticket => t.id) s.tickets
  obtain ⟨token, htoken⟩ := exists_unused (fun t : Ticket => t.qrTokenHash) s.tickets
  exact ⟨⟨c, tid, oid, id, token, gateName⟩, rfl, rfl, rfl, hconcert, htype, hfirst, horder,
    hticket, htoken⟩

/-! ## Telling two states apart -/

/-- Two responses that differ and are not turned away are not alike. -/
theorem not_alike {a b : Response} (hne : a ≠ b) (hb : ¬ b.Inaccessible) : ¬ Alike a b := by
  rintro (heq | ⟨-, hin⟩)
  · exact hne heq
  · exact hb hin

/-- Agreement along a chain. -/
theorem Agree.trans {v : Db} (h : Agree u s t) (h' : Agree u t v) : Agree u s v where
  concerts := h.concerts.trans h'.concerts
  own := by
    rw [h.own, ← rowsOf_congr h.owns_eq t, ← rowsOf_congr h.owns_eq v]
    exact h'.own

/-- An isolated request is answered alike in databases that agree. -/
theorem Isolated.alike (h : Isolated e user r db) (hs : s.Valid) (ht : t.Valid)
    (hfresh : e.Fresh r s) (hfresh' : e.Fresh r t) (has : Agree user.sub db s)
    (hat : Agree user.sub db t) : Alike (handle e user r s).2 (handle e user r t).2 :=
  (h.response s hs hfresh has).symm.trans (h.response t ht hfresh' hat)

/-! ### By a gate -/

section ByGate

variable {g : Gate}

/-- The concert had no gate before. -/
theorem sortedGates_none (hnew : s.Admits g) : (s.gateWorld e).sortedGates g.concertId = [] := by
  refine List.eq_nil_iff_forall_not_mem.mpr fun g' hg' => ?_
  obtain ⟨hmem, hconcert⟩ := TicketGates.mem_sortedGates.mp hg'
  exact hnew.first g' hmem hconcert

/-- It has one now. -/
theorem mem_sortedGates_added :
    g ∈ ((s.addGate g).gateWorld e).sortedGates g.concertId :=
  TicketGates.mem_sortedGates.mpr ⟨List.mem_append_right _ List.mem_cons_self, rfl⟩

/-- The list of gates tells of another's gate. -/
theorem told_listGates (hnew : s.Admits g) :
    ¬ Alike (handle e user (.listGates g.concertId) s).2
      (handle e user (.listGates g.concertId) (s.addGate g)).2 := by
  have hgates : ∀ w : TicketGates.World, (TicketGates.list g.concertId w).map Prod.fst
      = w.sortedGates g.concertId := by
    intro w
    rw [TicketGates.list, List.map_map]
    exact List.map_id _
  refine not_alike (fun heq => ?_) id
  have hlist : TicketGates.list g.concertId (s.gateWorld e)
      = TicketGates.list g.concertId ((s.addGate g).gateWorld e) := Response.gates.inj heq
  have hmem := mem_sortedGates_added (s := s) (g := g) (e := e)
  rw [← hgates, ← hlist, hgates, sortedGates_none hnew] at hmem
  exact List.not_mem_nil hmem

/-- The gate service reads the concerts of the tables. -/
theorem concert_mem (db : Db) (h : ∃ concert ∈ db.concerts, concert.id = c) :
    c ∈ (db.gateWorld e).concerts := by
  obtain ⟨concert, hmem, hid⟩ := h
  exact List.mem_map.mpr ⟨concert, hmem, hid⟩

/-- A create tells of another's gate of its name. -/
theorem told_createGate {dto : CreateGateDto} (hnew : s.Admits g) (hname : g.name = dto.name)
    (hid : ∀ g' ∈ s.gates, g'.id ≠ e.gateId) (hg : g.id ≠ e.gateId) :
    ¬ Alike (handle e user (.createGate g.concertId dto) s).2
      (handle e user (.createGate g.concertId dto) (s.addGate g)).2 := by
  have hid' : ∀ g' ∈ ((s.addGate g).gateWorld e).gates, g'.id ≠ e.gateId := by
    intro g' hg'
    rcases mem_addGate.mp hg' with hg' | rfl
    · exact hid g' hg'
    · exact hg
  have hfree : (s.gateWorld e).findName g.concertId dto.name = none :=
    TicketGates.findName_none.mpr fun g' hg' hconcert _ => hnew.first g' hg' hconcert
  have htaken : (((s.addGate g).gateWorld e).findName g.concertId dto.name).isSome := by
    cases hfind : ((s.addGate g).gateWorld e).findName g.concertId dto.name with
    | some g' => rfl
    | none => exact absurd hname (TicketGates.findName_none.mp hfind g
        (List.mem_append_right _ List.mem_cons_self) rfl)
  have hs : (handle e user (.createGate g.concertId dto) s).2
      = .gate (.gate ⟨⟨g.concertId, dto.name⟩, e.gateId⟩ 0) := by
    show Response.gate (TicketGates.createAlone _ dto e.gateId (s.gateWorld e)).2 = _
    rw [TicketGates.createAlone_eq dto hid, hfree, if_neg (by simp),
      if_pos (concert_mem s hnew.concert)]
  have ht : (handle e user (.createGate g.concertId dto) (s.addGate g)).2
      = .gate (.refused (.conflict s!"Gate \"{dto.name}\" already exists for this concert")) := by
    show Response.gate (TicketGates.createAlone _ dto e.gateId ((s.addGate g).gateWorld e)).2 = _
    rw [TicketGates.createAlone_eq dto hid', if_pos htaken]
  rw [hs, ht]
  exact not_alike (by simp) id

/-- A rebalance tells of another's gate. -/
theorem told_rebalance (hnew : s.Admits g) :
    ¬ Alike (handle e user (.rebalance g.concertId) s).2
      (handle e user (.rebalance g.concertId) (s.addGate g)).2 := by
  have hsome : ((s.addGate g).gateWorld e).sortedGates g.concertId ≠ [] :=
    List.ne_nil_of_mem mem_sortedGates_added
  have hs : (handle e user (.rebalance g.concertId) s).2
      = .gate (.refused (.badRequest "No gates configured for this concert")) := by
    show Response.gate (TicketGates.rebalanceAlone _ (s.gateWorld e)).2 = _
    rw [TicketGates.rebalanceAlone, if_pos (concert_mem s hnew.concert),
      dif_pos (sortedGates_none hnew)]
  have ht : ∃ n stats, (handle e user (.rebalance g.concertId) (s.addGate g)).2
      = .gate (.rebalanced n stats) := by
    show ∃ n stats, Response.gate (TicketGates.rebalanceAlone _ ((s.addGate g).gateWorld e)).2 = _
    rw [TicketGates.rebalanceAlone, if_pos (concert_mem (s.addGate g) hnew.concert), dif_neg hsome]
    dsimp only
    split
    · exact ⟨_, _, rfl⟩
    · exact ⟨_, _, rfl⟩
  obtain ⟨n, stats, ht⟩ := ht
  rw [hs, ht]
  exact not_alike (by simp) id

/-- No gate of the concert is in the way of a name. -/
theorem not_taken_added (dto : UpdateGateDto) (hnew : s.Admits g) :
    ¬ dto.Taken g ((s.addGate g).gateWorld e) := by
  rintro ⟨g', hg', hid, hconcert, -⟩
  rcases mem_addGate.mp hg' with hg' | rfl
  · exact hnew.first g' hg' hconcert
  · exact hid rfl

/-- The gate was not there before. -/
theorem findGate_before (hnew : s.Admits g) : (s.gateWorld e).findGate g.id = none :=
  RowTable.lookup_eq_none.mpr hnew.id

/-- It is found now. -/
theorem findGate_added (hs : s.Valid) (hnew : s.Admits g) :
    ((s.addGate g).gateWorld e).findGate g.id = some g :=
  findGate_gateWorld (addGate_valid hs hnew) (List.mem_append_right _ List.mem_cons_self)

/-- An update tells of it. -/
theorem told_updateGate {dto : UpdateGateDto} (hvalid : s.Valid) (hnew : s.Admits g) :
    ¬ Alike (handle e user (.updateGate g.id dto) s).2
      (handle e user (.updateGate g.id dto) (s.addGate g)).2 := by
  have hs : (handle e user (.updateGate g.id dto) s).2
      = .gate (.refused (.notFound s!"Gate {g.id} not found")) := by
    show Response.gate (TicketGates.updateAlone g.id dto (s.gateWorld e)).2 = _
    rw [TicketGates.updateAlone, findGate_before hnew]
  have ht : ∃ n, (handle e user (.updateGate g.id dto) (s.addGate g)).2
      = .gate (.gate (dto.apply g) n) := by
    have hcount := TicketGates.updateAlone_free ((addGate_valid hvalid hnew).tables e)
      (findGate_added hvalid hnew) (not_taken_added dto hnew)
    exact ⟨_, congrArg Response.gate hcount⟩
  obtain ⟨n, ht⟩ := ht
  rw [hs, ht]
  exact not_alike (by simp) id

/-- A removal tells of it. -/
theorem told_removeGate (hvalid : s.Valid) (hnew : s.Admits g) :
    ¬ Alike (handle e user (.removeGate g.id) s).2
      (handle e user (.removeGate g.id) (s.addGate g)).2 := by
  have hfind := findGate_added (e := e) hvalid hnew
  have hothers : ((s.addGate g).gateWorld e).otherGates g = [] := by
    rw [otherGates_nil]
    rintro ⟨g', hg', hconcert, hid⟩
    rcases mem_addGate.mp hg' with hg' | rfl
    · exact hnew.first g' hg' hconcert
    · exact hid rfl
  have hs : (handle e user (.removeGate g.id) s).2
      = .gate (.refused (.notFound s!"Gate {g.id} not found")) := by
    show Response.gate (TicketGates.removeAlone g.id (s.gateWorld e)).2 = _
    rw [TicketGates.removeAlone, findGate_before hnew]
  show ¬ Alike _ (Response.gate (TicketGates.removeAlone g.id ((s.addGate g).gateWorld e)).2)
  rw [hs]
  by_cases hat : ∃ t ∈ ((s.addGate g).gateWorld e).tickets, t.gateId = some g.name
  · rw [TicketGates.removeAlone_last hfind hat hothers]
    exact not_alike (by simp) id
  · rw [TicketGates.removeAlone_empty hfind hat]
    exact not_alike (by simp) id

end ByGate

/-! ### By a sale -/

section BySale

variable {x : Sale} {gate : Gate}

/-- The gates see one more ticket. -/
theorem tickets_addSale : ((s.addSale x).gateWorld e).tickets
    = (s.gateWorld e).tickets ++ [x.ticket.toGateTicket] := by
  show (s.tickets ++ [x.ticket]).map Ticket.toGateTicket = _
  rw [List.map_append]
  rfl

/-- A rename tells of another's ticket at a gate of that name. -/
theorem told_renameGate {dto : UpdateGateDto} (hvalid : s.Valid) (hnew : s.Sells x)
    (hgate : gate ∈ s.gates) (hfree : ¬ dto.Taken gate (s.gateWorld e))
    (hname : x.gateName = (dto.apply gate).name) :
    ¬ Alike (handle e user (.updateGate gate.id dto) s).2
      (handle e user (.updateGate gate.id dto) (s.addSale x)).2 := by
  have hvalid' := addSale_valid hvalid hnew
  have hcounts : dto.counts gate x.ticket.toGateTicket = true :=
    decide_eq_true (.inl (congrArg some hname))
  have hs : (handle e user (.updateGate gate.id dto) s).2
      = .gate (.gate (dto.apply gate) ((s.gateWorld e).tickets.countP (dto.counts gate))) :=
    congrArg Response.gate (TicketGates.updateAlone_free (hvalid.tables e)
      (findGate_gateWorld hvalid hgate) hfree)
  have ht : (handle e user (.updateGate gate.id dto) (s.addSale x)).2
      = .gate (.gate (dto.apply gate) ((s.gateWorld e).tickets.countP (dto.counts gate) + 1)) := by
    have hfind : ((s.addSale x).gateWorld e).findGate gate.id = some gate :=
      findGate_gateWorld hvalid' hgate
    have hcount := TicketGates.updateAlone_free (hvalid'.tables e) hfind hfree
    rw [tickets_addSale, List.countP_append, List.countP_cons_of_pos hcounts,
      List.countP_nil] at hcount
    exact congrArg Response.gate hcount
  rw [hs, ht]
  exact not_alike (by simp) id

/-- So does the removal of a last gate. -/
theorem told_removeLast (hvalid : s.Valid) (hnew : s.Sells x) (hgate : gate ∈ s.gates)
    (hlast : ¬ s.HasOther gate) (hname : x.gateName = gate.name)
    (hat : ¬ ∃ t ∈ s.tickets, t.gateId = some gate.name) :
    ¬ Alike (handle e user (.removeGate gate.id) s).2
      (handle e user (.removeGate gate.id) (s.addSale x)).2 := by
  have hat' : ∃ t ∈ ((s.addSale x).gateWorld e).tickets, t.gateId = some gate.name := by
    rw [tickets_addSale]
    exact ⟨_, List.mem_append_right _ List.mem_cons_self, congrArg some hname⟩
  have hfind : ((s.addSale x).gateWorld e).findGate gate.id = some gate :=
    findGate_gateWorld (addSale_valid hvalid hnew) hgate
  show ¬ Alike (Response.gate (TicketGates.removeAlone gate.id (s.gateWorld e)).2)
    (Response.gate (TicketGates.removeAlone gate.id ((s.addSale x).gateWorld e)).2)
  rw [TicketGates.removeAlone_empty (findGate_gateWorld hvalid hgate) (mt tickets_at.mp hat),
    TicketGates.removeAlone_last hfind hat' ((otherGates_nil e (s.addSale x) gate).mpr hlast)]
  exact not_alike (by simp) id

/-- The read of an order tells of another's order. -/
theorem told_getOrderAdmin (hnew : s.Sells x) (hvalid : s.Valid) :
    ¬ Alike (handle e user (.getOrderAdmin x.orderId) s).2
      (handle e user (.getOrderAdmin x.orderId) (s.addSale x)).2 := by
  have hnone : s.findOrder x.orderId = none := RowTable.lookup_eq_none.mpr hnew.order
  have hfind : (s.addSale x).findOrder x.orderId = some x.order :=
    RowTable.lookup_of_mem (addSale_valid hvalid hnew).orderIds
      (List.mem_append_right _ List.mem_cons_self)
  show ¬ Alike (getOrderAdmin e x.orderId s) (getOrderAdmin e x.orderId (s.addSale x))
  rw [getOrderAdmin, getOrderAdmin, hnone, hfind]
  exact not_alike (by simp) id

end BySale

end TicketAccess
