import TicketBox.OrganizerIsolation

/-! # What contained requests read and write

    A request that is `Contained` is answered from the own part of the tables
    (`response_alike`) and writes there (`contained_unchanged`). -/

namespace TicketAccess

open TicketStore (UserId ConcertId TicketTypeId OrderId Role ApiError OrderItem PaymentTransaction
  UpdateTicketTypeDto)
open TicketConcerts (Concert UpdateConcertDto)
open TicketGates (Gate GateId CreateGateDto UpdateGateDto SignedOnly)

variable {u : UserId} {s t db : Db} {c : ConcertId} {e : Env} {user : AuthUser} {r : Request}

/-! ## Responses -/

/-- **Contained requests are answered alike.** -/
theorem response_alike (h : Agree user.sub s t) (hs : s.Valid) (ht : t.Valid)
    (hfresh : e.Fresh r s) (hfresh' : e.Fresh r t) (hrole : user.role = .organizer)
    (hin : Contained e user r s) : Alike (handle e user r s).2 (handle e user r t).2 := by
  cases r with
  | updateConcert id dto => exact .inl (h.updateConcert hrole id dto)
  | findTypes c status => exact .inl (h.findTypes hs hrole c status)
  | findType id => exact h.findTypeOf hs ht hrole id
  | createType c dto => exact .inl (h.createType hs hrole c dto hfresh hfresh')
  | updateType id dto => exact h.updateType hs ht hrole id dto
  | removeType id => exact h.removeType hs ht hrole id
  | listGates c => exact .inl (congrArg Response.gates (h.sameAt hs ht hin).list)
  | createGate c dto =>
      exact .inl (congrArg Response.gate ((h.sameAt hs ht hin).create dto hfresh hfresh'))
  | updateGate id dto =>
      refine .inl (congrArg Response.gate ?_)
      rcases hin with hall | ⟨gate, hgate, rfl, hown, htaken⟩
      · rw [h.all hs ht hall]
        rfl
      · exact h.updateTaken hs ht hgate hown htaken
  | removeGate id =>
      refine .inl (congrArg Response.gate ?_)
      rcases hin with hall | ⟨gate, hgate, rfl, hown, hsep⟩
      · rw [h.all hs ht hall]
        rfl
      · exact h.removeSeparate hs ht hgate hown hsep
  | rebalance c =>
      exact .inl (congrArg Response.gate ((h.sameAt hs ht hin).rebalance (hs.tables e).tickets
        (ht.tables e).tickets))
  | getAllOrders page limit status concertId =>
      exact .inl (h.getAllOrders hs ht hrole page limit status concertId)
  | getOrderAdmin id =>
      rcases hin with hall | ⟨o, ho, rfl, hown⟩
      · rw [h.all hs ht hall]
        exact .inl rfl
      · exact .inl (h.getOrderAdmin hs ht ho hown)

/-! ## Writes -/

section Rows

variable {p : ConcertId → Prop} [DecidablePred p]

/-- Where no concert has `p` there is nothing to change. -/
theorem rowsOf_none (hp : ∀ c, ¬ p c) (s t : Db) : s.rowsOf p = t.rowsOf p := by
  simp [Db.rowsOf, hp]

/-- A write of own types leaves the other organizers' rows. -/
theorem rowsOf_types {types : List TicketType} {stock : TicketTypeId → Option Int}
    (htypes : (types.filter fun tt => p tt.concertId)
      = db.ticketTypes.filter fun tt => p tt.concertId)
    (hstock : ∀ tt ∈ db.ticketTypes, p tt.concertId → stock tt.id = db.stock tt.id) :
    ({ db with ticketTypes := types, stock := stock } : Db).rowsOf p = db.rowsOf p := by
  have hmem : ∀ id : TicketTypeId, (∃ tt ∈ types, tt.id = id ∧ p tt.concertId)
      ↔ ∃ tt ∈ db.ticketTypes, tt.id = id ∧ p tt.concertId := by
    intro id
    refine exists_congr fun tt => and_congr_left ?_
    rintro ⟨-, hp⟩
    exact mem_at (fun tt : TicketType => tt.concertId) htypes hp
  simp only [Db.rowsOf, Db.mk.injEq, htypes, hmem, true_and]
  funext id
  split
  · next hex =>
    obtain ⟨tt, htt, rfl, hp⟩ := hex
    exact hstock tt htt hp
  · rfl

/-- Signing tickets of other concerts leaves those with `p`. -/
theorem filter_signed {q : TicketGates.Ticket → Prop} {tickets : List TicketGates.Ticket}
    (h : SignedOnly q (db.gateWorld e).tickets tickets)
    (hq : ∀ x ∈ db.tickets, p x.concertId → ¬ q x.toGateTicket) :
    ((List.zipWith (fun x t => { x with toGateTicket := t }) db.tickets tickets :
        List Ticket).filter fun x => p x.concertId) = db.tickets.filter fun x => p x.concertId := by
  obtain ⟨f, rfl, hf, hkept⟩ := h
  rw [show (db.gateWorld e).tickets = db.tickets.map Ticket.toGateTicket from rfl, List.map_map,
    List.zipWith_map_right, List.zipWith_self, List.filter_map]
  have hsame : ((fun x : Ticket => decide (p x.concertId)) ∘
      fun x : Ticket => { x with toGateTicket := (f ∘ Ticket.toGateTicket) x })
      = fun x => decide (p x.concertId) := by
    funext x
    obtain ⟨gateId, qrSignature, hfx⟩ := hf x.toGateTicket
    simp only [Function.comp, hfx]
  rw [hsame]
  refine (List.map_congr_left fun x hx => ?_).trans (List.map_id _)
  obtain ⟨hmem, hp⟩ := List.mem_filter.mp hx
  have hmem' : x.toGateTicket ∈ (db.gateWorld e).tickets := List.mem_map_of_mem hmem
  have hfx := hkept x.toGateTicket hmem' (hq x hmem (of_decide_eq_true hp))
  simp only [Function.comp, hfx]
  rfl

/-- So does a write of own gates and tickets. -/
theorem rowsOf_gates {w : TicketGates.World} {q : TicketGates.Ticket → Prop}
    (hgates : (w.gates.filter fun g => p g.concertId) = db.gates.filter fun g => p g.concertId)
    (htickets : SignedOnly q (db.gateWorld e).tickets w.tickets)
    (hq : ∀ x ∈ db.tickets, p x.concertId → ¬ q x.toGateTicket) :
    (db.withGates w).rowsOf p = db.rowsOf p := by
  simp only [Db.rowsOf, Db.withGates, Db.mk.injEq, hgates, filter_signed htickets hq, true_and]
  exact ⟨rfl, rfl, rfl⟩

end Rows

/-! ### The operations -/

/-- A row of an own concert is not among the others'. -/
theorem filter_modify_own {Row Key : Type} [DecidableEq Key] {key : Row → Key}
    (concertOf : Row → ConcertId) {rows : List Row} {row : Row} (hvalid : db.Valid)
    (hk : RowTable.Keyed key rows) (hrow : row ∈ rows) (hown : db.Owns u (concertOf row))
    {f : Row → Row} (hf : ∀ r, concertOf (f r) = concertOf r) :
    ((RowTable.modify key (key row) f rows).filter fun r => db.Foreign u (concertOf r))
      = rows.filter fun r => db.Foreign u (concertOf r) := by
  refine RowTable.filter_modify_of_not fun r hr hkey => ?_
  rw [RowTable.eq_of_key hk hr hrow hkey, hf]
  exact ⟨decide_eq_false (hown.not_foreign hvalid), decide_eq_false (hown.not_foreign hvalid)⟩

/-- Removing an own row leaves the others'. -/
theorem filter_remove_own {Row Key : Type} [DecidableEq Key] {key : Row → Key}
    (concertOf : Row → ConcertId) {rows : List Row} {row : Row} (hvalid : db.Valid)
    (hk : RowTable.Keyed key rows) (hrow : row ∈ rows) (hown : db.Owns u (concertOf row)) :
    ((RowTable.remove key (key row) rows).filter fun r => db.Foreign u (concertOf r))
      = rows.filter fun r => db.Foreign u (concertOf r) := by
  refine RowTable.filter_remove_of_not fun r hr hkey => ?_
  rw [RowTable.eq_of_key hk hr hrow hkey]
  exact decide_eq_false (hown.not_foreign hvalid)

/-- A ticket type of another organizer is not one of the user's. -/
theorem type_ne_own (hvalid : db.Valid) {tt tt' : TicketType} (htt : tt ∈ db.ticketTypes)
    (hown : db.Owns u tt.concertId) (htt' : tt' ∈ db.ticketTypes)
    (hforeign : db.Foreign u tt'.concertId) : tt'.id ≠ tt.id := by
  intro hid
  rw [RowTable.eq_of_key hvalid.typeIds htt' htt hid] at hforeign
  exact hown.not_foreign hvalid hforeign

section Operations

variable (hvalid : db.Valid) (hrole : user.role = .organizer)
include hvalid hrole

/-- An update of a concert leaves the others' rows. -/
theorem unchanged_updateConcert (id : ConcertId) (dto : UpdateConcertDto) :
    Unchanged e user (.updateConcert id dto) db := by
  show (updateConcertOf e user id dto db).1.rowsOf _ = _
  rw [updateConcertOf]
  cases hupdate : TicketConcerts.updateConcert id dto user.sub user.role e.now db.concerts with
  | error err => rfl
  | ok x =>
      obtain ⟨existing, rows⟩ := x
      obtain ⟨hfind, howner, rfl, rfl⟩ := TicketConcerts.updateConcert_ok hupdate
      have hmem := TicketConcerts.findConcert_mem hfind
      have hown : db.Owns user.sub existing.id := ⟨existing, hmem, rfl, howner hrole⟩
      have hconcerts : ((TicketConcerts.modifyConcert existing.id (dto.apply e.now)
          db.concerts).filter fun c => db.Foreign user.sub c.id)
            = db.concerts.filter fun c => db.Foreign user.sub c.id :=
        filter_modify_own (fun c : Concert => c.id) hvalid hvalid.concertIds hmem hown
          fun _ => rfl
      simp only [Db.rowsOf, hconcerts]

/-- So does a create of a type. -/
theorem unchanged_createType (c : ConcertId) (dto : CreateTicketTypeDto)
    (hfresh : e.Fresh (.createType c dto) db) : Unchanged e user (.createType c dto) db := by
  show (createType e user c dto db).1.rowsOf _ = _
  have hnew : db.findType e.ticketTypeId = none := hfresh
  rw [createType]
  rcases check_cases (c := c) hvalid hrole with ⟨hcheck, hown⟩ | ⟨err, hcheck, -, -⟩
  · rw [hcheck]
    dsimp only
    split
    · rfl
    split
    · rfl
    rw [hnew, if_neg (by simp)]
    refine rowsOf_types ?_ fun tt htt _ => ?_
    · rw [List.filter_append, List.filter_cons_of_neg, List.filter_nil, List.append_nil]
      rw [decide_eq_true_eq]
      exact hown.not_foreign hvalid
    · exact Function.update_of_ne (RowTable.lookup_eq_none.mp hnew tt htt) _ _
  · rw [hcheck]

/-- So does an update of a type. -/
theorem unchanged_updateType (id : TicketTypeId) (dto : UpdateTicketTypeDto) :
    Unchanged e user (.updateType id dto) db := by
  show (updateType e user id dto db).1.rowsOf _ = _
  rw [updateType]
  rcases readType_cases hvalid hrole id with ⟨tt, hread, hfind, hown⟩ | ⟨err, hread, -, -⟩
  · obtain ⟨htt, rfl⟩ := findType_some hfind
    rw [hread]
    dsimp only
    split
    · rfl
    split
    · rfl
    split
    · rfl
    refine rowsOf_types ?_ fun tt' htt' hforeign => ?_
    · exact filter_modify_own (fun tt : TicketType => tt.concertId) hvalid
        hvalid.typeIds htt hown fun _ => rfl
    · have hne := type_ne_own hvalid htt hown htt' hforeign
      split
      · exact Function.update_of_ne hne _ _
      · rfl
  · rw [hread]

/-- So does a removal of a type. -/
theorem unchanged_removeType (id : TicketTypeId) : Unchanged e user (.removeType id) db := by
  show (removeType user id db).1.rowsOf _ = _
  rw [removeType]
  rcases readType_cases hvalid hrole id with ⟨tt, hread, hfind, hown⟩ | ⟨err, hread, -, -⟩
  · obtain ⟨htt, rfl⟩ := findType_some hfind
    rw [hread]
    dsimp only
    split
    · rfl
    split
    · rfl
    refine rowsOf_types ?_ fun tt' htt' hforeign => ?_
    · exact filter_remove_own (fun tt : TicketType => tt.concertId) hvalid
        hvalid.typeIds htt hown
    · have hne := type_ne_own hvalid htt hown htt' hforeign
      exact Function.update_of_ne hne _ _
  · rw [hread]

end Operations

section Gates

/-- So does a create of a gate in a concert that is no one else's. -/
theorem unchanged_createGate (c : ConcertId) (dto : CreateGateDto)
    (hfresh : e.Fresh (.createGate c dto) db) (hc : ¬ db.Foreign user.sub c) :
    Unchanged e user (.createGate c dto) db := by
  show (gateOp e (TicketGates.createAlone c dto e.gateId) db).1.rowsOf _ = _
  have hnew : ∀ g ∈ (db.gateWorld e).gates, g.id ≠ e.gateId := hfresh
  have hwrites : (((TicketGates.createAlone c dto e.gateId (db.gateWorld e)).1.gates.filter
        fun g => db.Foreign user.sub g.concertId)
          = db.gates.filter fun g => db.Foreign user.sub g.concertId) ∧
      (TicketGates.createAlone c dto e.gateId (db.gateWorld e)).1.tickets
        = (db.gateWorld e).tickets := by
    rw [TicketGates.createAlone_eq dto hnew]
    split
    · exact ⟨rfl, rfl⟩
    split
    · refine ⟨?_, rfl⟩
      rw [List.filter_append, List.filter_cons_of_neg, List.filter_nil, List.append_nil]
      · rfl
      · rw [decide_eq_true_eq]
        exact hc
    · exact ⟨rfl, rfl⟩
  obtain ⟨hgates, htickets⟩ := hwrites
  have hsigned : SignedOnly (fun _ => False) (db.gateWorld e).tickets
      (TicketGates.createAlone c dto e.gateId (db.gateWorld e)).1.tickets := by
    rw [htickets]
    exact SignedOnly.refl _ _
  exact rowsOf_gates hgates hsigned fun _ _ _ => id

/-- An operation that gives its store back. -/
theorem unchanged_gateOp {op : TicketGates.World → TicketGates.World × TicketGates.Answer}
    (hop : (op (db.gateWorld e)).1 = db.gateWorld e) {p : ConcertId → Prop} [DecidablePred p] :
    (gateOp e op db).1.rowsOf p = db.rowsOf p := by
  refine rowsOf_gates (q := fun _ => False) (e := e) ?_ ?_ fun _ _ _ => id
  · rw [hop]
    rfl
  · rw [hop]
    exact SignedOnly.refl _ _

variable (hvalid : db.Valid)
include hvalid

/-- So does a rename to a name that is taken. -/
theorem unchanged_updateTaken {gate : Gate} {dto : UpdateGateDto} (hgate : gate ∈ db.gates)
    (htaken : dto.Taken gate (db.gateWorld e)) : Unchanged e user (.updateGate gate.id dto) db :=
  unchanged_gateOp (congrArg Prod.fst
    (TicketGates.updateAlone_taken (findGate_gateWorld hvalid hgate) htaken))

/-- So does a removal of a gate whose name no other concert has. -/
theorem unchanged_removeSeparate {gate : Gate} (hgate : gate ∈ db.gates)
    (hown : db.Owns user.sub gate.concertId) (hsep : db.Separate user.sub gate) :
    Unchanged e user (.removeGate gate.id) db := by
  have hfind := findGate_gateWorld (e := e) hvalid hgate
  by_cases hother : db.HasOther gate
  · obtain ⟨hgates, htickets⟩ := TicketGates.removeAlone_writes (hvalid.tables e) hfind
    show (gateOp e (TicketGates.removeAlone gate.id) db).1.rowsOf _ = _
    refine rowsOf_gates ?_ htickets fun x hx hforeign hname => ?_
    · rcases hgates with hgates | hgates
      · rw [hgates]
        rfl
      · rw [hgates]
        exact filter_remove_own (fun g : Gate => g.concertId) hvalid hvalid.gateIds hgate hown
    · exact (hsep.2 hother x hx hname).not_foreign hvalid hforeign
  · obtain ⟨x, hx, hname, -⟩ := hsep.1 hother
    exact unchanged_gateOp (congrArg Prod.fst (TicketGates.removeAlone_last hfind
      (tickets_at.mpr ⟨x, hx, hname⟩) ((otherGates_nil e db gate).mpr hother)))

/-- So does a rebalance. -/
theorem unchanged_rebalance (c : ConcertId) (hc : ¬ db.Foreign user.sub c) :
    Unchanged e user (.rebalance c) db := by
  obtain ⟨hgates, htickets⟩ := TicketGates.rebalanceAlone_writes (c := c) (hvalid.tables e).tickets
  show (gateOp e (TicketGates.rebalanceAlone c) db).1.rowsOf _ = _
  refine rowsOf_gates ?_ htickets fun x _ hforeign hx => ?_
  · rw [hgates]
    rfl
  · have hx' : x.concertId = c := hx
    rw [hx'] at hforeign
    exact hc hforeign

end Gates

/-- **Contained requests write own rows only.** -/
theorem contained_unchanged (hvalid : db.Valid) (hfresh : e.Fresh r db)
    (hrole : user.role = .organizer) (hin : Contained e user r db) : Unchanged e user r db := by
  have hnone : db.OwnsAll user.sub → ∀ c, ¬ db.Foreign user.sub c := by
    rintro hall c ⟨concert, hmem, -, hne⟩
    exact hne (hall concert hmem)
  cases r with
  | updateConcert id dto => exact unchanged_updateConcert hvalid hrole id dto
  | createType c dto => exact unchanged_createType hvalid hrole c dto hfresh
  | updateType id dto => exact unchanged_updateType hvalid hrole id dto
  | removeType id => exact unchanged_removeType hvalid hrole id
  | createGate c dto => exact unchanged_createGate c dto hfresh hin
  | updateGate id dto =>
      rcases hin with hall | ⟨gate, hgate, rfl, -, htaken⟩
      · exact rowsOf_none (hnone hall) _ _
      · exact unchanged_updateTaken hvalid hgate htaken
  | removeGate id =>
      rcases hin with hall | ⟨gate, hgate, rfl, hown, hsep⟩
      · exact rowsOf_none (hnone hall) _ _
      · exact unchanged_removeSeparate hvalid hgate hown hsep
  | rebalance c => exact unchanged_rebalance hvalid c hin
  | _ => rfl

end TicketAccess
