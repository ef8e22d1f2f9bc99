import TicketBox.GateRefProofs

/-! # One gate operation by itself

    What `create`, `update`, `remove` and `rebalance` do when nothing fails and
    nothing else runs, each as one function of the store.  The `ends` theorems say
    that the service, its statements carried out one after the other, ends with
    just that; then follows what of the store each of them reads and writes. -/

namespace TicketGates

open Interleave
open TicketStore (ConcertId)
open TicketCheckin (TicketId QrConfig)

/-! ## The operations -/

/-- `list`: the gates of the concert with the tickets that name them. -/
def list (c : ConcertId) (w : World) : List (Gate × Nat) :=
  (w.sortedGates c).map fun g =>
    (g, (w.tickets.filter fun t => t.concertId = c ∧ t.gateId = some g.name).length)

/-- `create`, with the id the database draws. -/
def createAlone (c : ConcertId) (dto : CreateGateDto) (id : GateId) (w : World) : World × Answer :=
  match w.findName c dto.name with
  | some _ => (w, .refused (.conflict s!"Gate \"{dto.name}\" already exists for this concert"))
  | none =>
      match createGate ⟨⟨c, dto.name⟩, id⟩ w with
      | none => (w, .refused .internal)
      | some w => (w, .gate ⟨⟨c, dto.name⟩, id⟩ 0)

/-- The row of `update`, and the count under the name it then has. -/
def keepName (gate : Gate) (dto : UpdateGateDto) (w : World) : World × Answer :=
  match updateGate gate.id dto w with
  | none => (w, .refused .internal)
  | some (updated, w) => (w, .gate updated (w.countAt updated.name))

/-- The row of `update`, the tickets at the old name, and the count at the new one. -/
def moveName (gate : Gate) (dto : UpdateGateDto) (newName : String) (w : World) : World × Answer :=
  match updateGate gate.id dto w with
  | none => (w, .refused .internal)
  | some (updated, w) =>
      match resignAll w.config newName (w.ticketsAt gate.name) w.tickets with
      | none => (w, .refused .internal)
      | some tickets =>
          let w := { w with tickets := tickets }
          (w, .gate updated (w.countAt updated.name))

/-- `update` with nobody beside it. -/
def updateAlone (id : GateId) (dto : UpdateGateDto) (w : World) : World × Answer :=
  match w.findGate id with
  | none => (w, .refused (.notFound s!"Gate {id} not found"))
  | some gate =>
      match dto.renames gate with
      | none => keepName gate dto w
      | some newName =>
          match w.findName gate.concertId newName with
          | some _ => (w, .refused (.conflict s!"Gate \"{newName}\" already exists for this concert"))
          | none => moveName gate dto newName w

/-- The end of `remove`. -/
def deleteGate (gate : Gate) (w : World) : World × Answer :=
  match w.findGate gate.id with
  | none => (w, .refused .internal)
  | some _ => ({ w with gates := RowTable.remove Gate.id gate.id w.gates }, .removed)

/-- `otherGates` of `remove`. -/
def World.otherGates (gate : Gate) (w : World) : List Gate :=
  (w.sortedGates gate.concertId).filter fun g => g.id ≠ gate.id

/-- `remove` with nobody beside it. -/
def removeAlone (id : GateId) (w : World) : World × Answer :=
  match w.findGate id with
  | none => (w, .refused (.notFound s!"Gate {id} not found"))
  | some gate =>
      if 0 < w.countAt gate.name then
        match w.otherGates gate with
        | [] => (w, .refused (.badRequest
            "Cannot delete the last gate while tickets are assigned to it. Create another gate first."))
        | target :: _ =>
            match resignAll w.config target.name (w.ticketsAt gate.name) w.tickets with
            | none => (w, .refused .internal)
            | some tickets => deleteGate gate { w with tickets := tickets }
      else deleteGate gate w

/-- The first loop of `rebalance`: the tickets from number `i` on that are not at
    the gate whose turn it is. -/
def Rebalance.assignments (b : Rebalance) (w : World) : Nat → List TicketId →
    List (TicketId × String)
  | _, [] => []
  | i, ticket :: rest =>
      if (w.findTicket ticket).bind (fun t => t.gateId) = some (b.newGate i).name then
        b.assignments w (i + 1) rest
      else (ticket, (b.newGate i).name) :: b.assignments w (i + 1) rest

/-- The second loop of `rebalance`. -/
def reassign (config : QrConfig) : List (TicketId × String) → List Ticket → List Ticket
  | [], tickets => tickets
  | (ticket, newGateName) :: rest, tickets =>
      match RowTable.lookup (fun t : Ticket => t.id) ticket tickets with
      | none => reassign config rest tickets
      | some t => reassign config rest
          ((resign config newGateName (ticket, t.qrTokenHash) tickets).getD tickets)

/-- `gateStats` -/
def Rebalance.stats (b : Rebalance) (tickets : List Ticket) : List (GateId × String × Nat) :=
  b.gates.map fun g => (g.id, g.name,
    (tickets.filter fun t => t.concertId = b.concertId ∧ t.gateId = some g.name).length)

/-- `rebalance` with nobody beside it. -/
def rebalanceAlone (c : ConcertId) (w : World) : World × Answer :=
  if c ∈ w.concerts then
    if h : w.sortedGates c = [] then
      (w, .refused (.badRequest "No gates configured for this concert"))
    else
      let b : Rebalance := ⟨c, w.sortedGates c, h⟩
      match w.tickets.filter fun t => t.concertId = c ∧ t.status = .issued with
      | [] => (w, .rebalanced 0 (b.gates.map fun g => (g.id, g.name, 0)))
      | tickets =>
          let updatedTickets := b.assignments w 0 (tickets.map fun t => t.id)
          let w := { w with tickets := reassign w.config updatedTickets w.tickets }
          (w, .rebalanced updatedTickets.length (b.stats w.tickets))
  else (w, .refused (.notFound s!"Concert {c} not found"))

/-! ## The service ends with it -/

section Ends

variable {K : Choice → Prop} {w w' : World} {a : Answer}

/-- A statement that meets every calm choice alike. -/
theorem ends_carry {d : Ask} (hK : ∃ ch, K ch) (hcalm : ∀ ch, K ch → ch.Calm)
    (hd : ∀ ch, K ch → carryOut ch w d = carryOut {} w d) :
    gates.Ends K w (.ask d) w' a
      ↔ gates.Ends K (carryOut {} w d).1 (carryOut {} w d).2 w' a := by
  refine ends_ask hK fun ch hch => ?_
  have hfails : ch.fails = false := hcalm ch hch
  show some (if ch.fails = true then refuse w .internal else carryOut ch w d) = _
  rw [hfails, if_neg (by simp), hd ch hch]

section Calm

variable (hK : ∃ ch, K ch) (hcalm : ∀ ch, K ch → ch.Calm)
include hK hcalm

/-- The end of an update without another name. -/
theorem ends_keepName {gate : Gate} {dto : UpdateGateDto} (hrename : dto.renames gate = none) :
    gates.Ends K w (.ask (.updateRow gate dto)) w' a
      ↔ w' = (keepName gate dto w).1 ∧ a = (keepName gate dto w).2 := by
  rw [ends_carry hK hcalm fun _ _ => rfl]
  simp only [keepName, carryOut]
  cases updateGate gate.id dto w with
  | none => exact ends_ret
  | some x =>
      simp only [afterUpdate, hrename]
      rw [ends_carry hK hcalm fun _ _ => rfl]
      exact ends_ret

/-- The end of a rename. -/
theorem ends_moveName {gate : Gate} {dto : UpdateGateDto} {newName : String}
    (hrename : dto.renames gate = some newName) :
    gates.Ends K w (.ask (.updateRow gate dto)) w' a
      ↔ w' = (moveName gate dto newName w).1 ∧ a = (moveName gate dto newName w).2 := by
  rw [ends_carry hK hcalm fun _ _ => rfl]
  simp only [moveName, carryOut]
  cases updateGate gate.id dto w with
  | none => exact ends_ret
  | some x =>
      obtain ⟨updated, w⟩ := x
      simp only [afterUpdate, hrename]
      rw [ends_carry hK hcalm fun _ _ => rfl]
      simp only [carryOut]
      cases hat : w.ticketsAt gate.name with
      | nil =>
          rw [ends_carry hK hcalm fun _ _ => rfl]
          exact ends_ret
      | cons target targets =>
          rw [ends_carry hK hcalm fun _ _ => rfl]
          simp only [carryOut]
          cases resignAll w.config newName (target :: targets) w.tickets with
          | none => exact ends_ret
          | some tickets =>
              rw [ends_carry hK hcalm fun _ _ => rfl]
              exact ends_ret

/-- An update that is alone ends as `updateAlone` does. -/
theorem ends_update (id : GateId) (dto : UpdateGateDto) :
    gates.Ends K w (Request.update id dto).enter w' a
      ↔ w' = (updateAlone id dto w).1 ∧ a = (updateAlone id dto w).2 := by
  rw [Request.enter, ends_carry hK hcalm fun _ _ => rfl]
  simp only [updateAlone, carryOut]
  cases w.findGate id with
  | none => exact ends_ret
  | some gate =>
      dsimp only
      cases hrename : dto.renames gate with
      | none => exact ends_keepName hK hcalm hrename
      | some newName =>
          rw [ends_carry hK hcalm fun _ _ => rfl]
          simp only [carryOut]
          cases w.findName gate.concertId newName with
          | some g => exact ends_ret
          | none => exact ends_moveName hK hcalm hrename

/-- The end of a removal without tickets. -/
theorem ends_delete (gate : Gate) : gates.Ends K w (.ask (.removeDelete gate)) w' a
    ↔ w' = (deleteGate gate w).1 ∧ a = (deleteGate gate w).2 := by
  rw [ends_carry hK hcalm fun _ _ => rfl]
  simp only [deleteGate, carryOut]
  cases w.findGate gate.id with
  | none => exact ends_ret
  | some g => exact ends_ret

/-- A removal that is alone ends as `removeAlone` does. -/
theorem ends_remove (id : GateId) : gates.Ends K w (Request.remove id).enter w' a
    ↔ w' = (removeAlone id w).1 ∧ a = (removeAlone id w).2 := by
  rw [Request.enter, ends_carry hK hcalm fun _ _ => rfl]
  simp only [removeAlone, carryOut]
  cases w.findGate id with
  | none => exact ends_ret
  | some gate =>
      dsimp only
      rw [ends_carry hK hcalm fun _ _ => rfl]
      simp only [carryOut]
      split
      · rw [ends_carry hK hcalm fun _ _ => rfl]
        simp only [carryOut, World.otherGates]
        cases (w.sortedGates gate.concertId).filter fun g => g.id ≠ gate.id with
        | nil => exact ends_ret
        | cons target others =>
            rw [ends_carry hK hcalm fun _ _ => rfl]
            simp only [carryOut]
            rw [ends_carry hK hcalm fun _ _ => rfl]
            simp only [carryOut]
            cases resignAll w.config target.name (w.ticketsAt gate.name) w.tickets with
            | none => exact ends_ret
            | some tickets => exact ends_delete hK hcalm gate
      · exact ends_delete hK hcalm gate

/-- The second loop, from any point on. -/
theorem ends_rebalanceUpdate {b : Rebalance} {total : Nat} :
    ∀ {updated : List (TicketId × String)} {w : World},
      gates.Ends K w (b.update total updated) w' a ↔
        w' = { w with tickets := reassign w.config updated w.tickets } ∧
          a = .rebalanced total (b.stats (reassign w.config updated w.tickets)) := by
  intro updated
  induction updated with
  | nil =>
      intro w
      rw [Rebalance.update, ends_carry hK hcalm fun _ _ => rfl]
      exact ends_ret
  | cons x rest ih =>
      obtain ⟨ticket, newGateName⟩ := x
      intro w
      rw [Rebalance.update, ends_carry hK hcalm fun _ _ => rfl, reassign]
      simp only [carryOut, World.findTicket]
      cases hfind : RowTable.lookup (fun t : Ticket => t.id) ticket w.tickets with
      | none => exact ih
      | some t =>
          dsimp only
          rw [ends_carry hK hcalm fun _ _ => rfl]
          simp only [carryOut]
          cases hsign : resign w.config newGateName (ticket, t.qrTokenHash) w.tickets with
          | none => simp [resign, hfind] at hsign
          | some tickets => exact ih

/-- The first loop, from any point on. -/
theorem ends_rebalanceScan {b : Rebalance} :
    ∀ {rest : List TicketId} {i : Nat} {updated : List (TicketId × String)},
      gates.Ends K w (b.scan i updated rest) w' a ↔
        gates.Ends K w (b.update (updated ++ b.assignments w i rest).length
          (updated ++ b.assignments w i rest)) w' a := by
  intro rest
  induction rest with
  | nil =>
      intro i updated
      rw [Rebalance.assignments, List.append_nil]
      cases updated with
      | nil => exact Iff.rfl
      | cons x updated => exact Iff.rfl
  | cons ticket rest ih =>
      intro i updated
      rw [Rebalance.scan, ends_carry hK hcalm fun _ _ => rfl, Rebalance.assignments]
      simp only [carryOut]
      split
      · exact ih
      · rw [ih, List.append_assoc, List.singleton_append]

/-- A rebalance that is alone ends as `rebalanceAlone` does. -/
theorem ends_rebalance (c : ConcertId) : gates.Ends K w (Request.rebalance c).enter w' a
    ↔ w' = (rebalanceAlone c w).1 ∧ a = (rebalanceAlone c w).2 := by
  rw [Request.enter, ends_carry hK hcalm fun _ _ => rfl]
  simp only [rebalanceAlone, carryOut]
  split
  · rw [ends_carry hK hcalm fun _ _ => rfl]
    simp only [carryOut]
    split
    · exact ends_ret
    next hne =>
      rw [ends_carry hK hcalm fun _ _ => rfl]
      simp only [carryOut]
      cases htickets : w.tickets.filter fun t => t.concertId = c ∧ t.status = .issued with
      | nil => exact ends_ret
      | cons t ts =>
          dsimp only
          rw [ends_rebalanceScan hK hcalm, ends_rebalanceUpdate hK hcalm]
          exact Iff.rfl
  · exact ends_ret

end Calm

/-- Nothing fails, and these are the ids drawn. -/
def Draws (uuid : Nat → String) (ch : Choice) : Prop := ch = ⟨false, uuid⟩

/-- A create that is alone ends as `createAlone` does. -/
theorem ends_create {uuid : Nat → String} (c : ConcertId) (dto : CreateGateDto) :
    gates.Ends (Draws uuid) w (Request.create c dto).enter w' a
      ↔ w' = (createAlone c dto (uuid 0) w).1 ∧ a = (createAlone c dto (uuid 0) w).2 := by
  have hK : ∃ ch, Draws uuid ch := ⟨_, rfl⟩
  have hcalm : ∀ ch, Draws uuid ch → ch.Calm := by
    rintro ch rfl
    rfl
  rw [Request.enter, ends_carry hK hcalm fun _ _ => rfl]
  simp only [createAlone, carryOut]
  cases w.findName c dto.name with
  | some g => exact ends_ret
  | none =>
      dsimp only
      have hdraws : ∀ ch, Draws uuid ch → gates.decide ch w (.createInsert c dto)
          = some ((match createGate ⟨⟨c, dto.name⟩, uuid 0⟩ w with
            | none => refuse w .internal
            | some w => (w, .ret (.gate ⟨⟨c, dto.name⟩, uuid 0⟩ 0))) : World × Op) := by
        rintro ch rfl
        rfl
      cases hcreate : createGate ⟨⟨c, dto.name⟩, uuid 0⟩ w with
      | none =>
          rw [hcreate] at hdraws
          exact (ends_ask hK hdraws).trans ends_ret
      | some w =>
          rw [hcreate] at hdraws
          exact (ends_ask hK hdraws).trans ends_ret

end Ends

/-! ## What they read and write -/

/-- The rows of `Ticket` of a concert. -/
def World.ticketsOf (c : ConcertId) (w : World) : List Ticket :=
  w.tickets.filter fun t => t.concertId = c

/-- Two stores with the same rows of concert `c`. -/
structure SameAt (c : ConcertId) (w w' : World) : Prop where
  config : w.config = w'.config
  collate : w.collate = w'.collate
  concert : c ∈ w.concerts ↔ c ∈ w'.concerts
  gates : w.gatesOf c = w'.gatesOf c
  tickets : w.ticketsOf c = w'.ticketsOf c

/-- The tickets are the same up to the two columns the gate operations write, and
    those without `p` altogether. -/
def SignedOnly (p : Ticket → Prop) (tickets tickets' : List Ticket) : Prop :=
  ∃ f : Ticket → Ticket, tickets' = tickets.map f ∧
    (∀ t, ∃ gateId qrSignature, f t = { t with gateId := gateId, qrSignature := qrSignature }) ∧
    ∀ t ∈ tickets, ¬ p t → f t = t

section Reads

variable {w w' : World} {c : ConcertId} {gate : Gate} {dto : UpdateGateDto} {id : GateId}

theorem SignedOnly.refl (p : Ticket → Prop) (tickets : List Ticket) :
    SignedOnly p tickets tickets :=
  ⟨fun t => t, (List.map_id tickets).symm, fun t => ⟨t.gateId, t.qrSignature, rfl⟩, fun _ _ _ => rfl⟩

theorem SameAt.sortedGates (h : SameAt c w w') : w.sortedGates c = w'.sortedGates c := by
  rw [World.sortedGates, World.sortedGates, h.gates, h.collate]

theorem findName_eq (w : World) (c : ConcertId) (name : String) :
    w.findName c name = (w.gatesOf c).find? fun g => g.concertId = c ∧ g.name = name := by
  refine (RowTable.find_filter ?_).symm
  intro g _ hg
  exact decide_eq_true (of_decide_eq_true hg).1

theorem SameAt.findName (h : SameAt c w w') (name : String) :
    w.findName c name = w'.findName c name := by
  rw [findName_eq, findName_eq, h.gates]

/-- The gates of a concert are named apart. -/
theorem Tables.gateNames_nodup (h : Tables w) : ((w.gatesOf c).map fun g => g.name).Nodup := by
  have hrows : (w.gatesOf c).Nodup := (List.Nodup.of_map _ h.gates).filter _
  refine hrows.map_on fun g hg g' hg' hname => ?_
  obtain ⟨hmem, hc⟩ := mem_gatesOf.mp hg
  obtain ⟨hmem', hc'⟩ := mem_gatesOf.mp hg'
  exact h.names g hmem g' hmem' (hc.trans hc'.symm) hname

/-! ### create -/

theorem createAlone_eq (dto : CreateGateDto) (hid : ∀ g ∈ w.gates, g.id ≠ id) :
    createAlone c dto id w =
      if (w.findName c dto.name).isSome then
        (w, .refused (.conflict s!"Gate \"{dto.name}\" already exists for this concert"))
      else if c ∈ w.concerts then
        ({ w with gates := w.gates ++ [⟨⟨c, dto.name⟩, id⟩] }, .gate ⟨⟨c, dto.name⟩, id⟩ 0)
      else (w, .refused .internal) := by
  rw [createAlone]
  cases hname : w.findName c dto.name with
  | some g => rfl
  | none =>
      have hfree : ¬ ∃ g ∈ w.gates, g.id = id ∨ g.concertId = c ∧ g.name = dto.name := by
        rintro ⟨g, hg, he | ⟨hc, hn⟩⟩
        · exact hid g hg he
        · exact findName_none.mp hname g hg hc hn
      by_cases hc : c ∈ w.concerts
      · have hcreate : createGate ⟨⟨c, dto.name⟩, id⟩ w
            = some { w with gates := w.gates ++ [⟨⟨c, dto.name⟩, id⟩] } := if_pos ⟨hc, hfree⟩
        simp [hcreate, hc]
      · have hcreate : createGate ⟨⟨c, dto.name⟩, id⟩ w = none := if_neg fun h => hc h.1
        simp [hcreate, hc]

theorem SameAt.create (h : SameAt c w w') (dto : CreateGateDto) (hid : ∀ g ∈ w.gates, g.id ≠ id)
    (hid' : ∀ g ∈ w'.gates, g.id ≠ id) :
    (createAlone c dto id w).2 = (createAlone c dto id w').2 := by
  rw [createAlone_eq dto hid, createAlone_eq dto hid', h.findName]
  split
  · rfl
  · by_cases hc : c ∈ w.concerts
    · rw [if_pos hc, if_pos (h.concert.mp hc)]
    · rw [if_neg hc, if_neg fun hc' => hc (h.concert.mpr hc')]

/-! ### update -/

/-- Another gate of the concert has the name already. -/
def UpdateGateDto.Taken (dto : UpdateGateDto) (gate : Gate) (w : World) : Prop :=
  ∃ g ∈ w.gates, g.id ≠ gate.id ∧ g.concertId = gate.concertId ∧ g.name = (dto.apply gate).name

/-- The unique index finds out. -/
instance (dto : UpdateGateDto) (gate : Gate) (w : World) : Decidable (dto.Taken gate w) :=
  inferInstanceAs (Decidable (∃ _ ∈ _, _ ∧ _ ∧ _))

/-- How a taken name is refused: by the check, or by the index if the check is
    passed over. -/
def UpdateGateDto.refusal (dto : UpdateGateDto) (gate : Gate) : GateError :=
  match dto.renames gate with
  | some newName => .conflict s!"Gate \"{newName}\" already exists for this concert"
  | none => .internal

/-- The tickets that are at the name of the answer in the end. -/
def UpdateGateDto.counts (dto : UpdateGateDto) (gate : Gate) (t : Ticket) : Bool :=
  t.gateId = some (dto.apply gate).name ∨
    ((dto.renames gate).isSome ∧ t.gateId = some gate.name)

theorem renames_some {newName : String} (h : dto.renames gate = some newName) :
    newName ≠ gate.name ∧ (dto.apply gate).name = newName := by
  obtain ⟨hname, hcond⟩ := Option.filter_eq_some_iff.mp h
  refine ⟨(of_decide_eq_true hcond).2, ?_⟩
  show dto.name.getD gate.name = newName
  rw [hname]
  rfl

/-- A name that is taken is refused by the index. -/
theorem updateGate_taken (hfind : w.findGate gate.id = some gate) (h : dto.Taken gate w) :
    updateGate gate.id dto w = none := by
  rw [updateGate, hfind]
  exact if_pos h

/-- A name that is free is written. -/
theorem updateGate_free (hfind : w.findGate gate.id = some gate) (h : ¬ dto.Taken gate w) :
    updateGate gate.id dto w = some (dto.apply gate,
      { w with gates := RowTable.modify Gate.id gate.id dto.apply w.gates }) := by
  rw [updateGate, hfind]
  exact if_neg h

/-- A rename to a name that is taken changes nothing. -/
theorem updateAlone_taken (hfind : w.findGate gate.id = some gate) (h : dto.Taken gate w) :
    updateAlone gate.id dto w = (w, .refused (dto.refusal gate)) := by
  rw [updateAlone, hfind]
  simp only [UpdateGateDto.refusal]
  cases hrename : dto.renames gate with
  | none => simp only [keepName, updateGate_taken hfind h]
  | some newName =>
      obtain ⟨-, happly⟩ := renames_some hrename
      dsimp only
      cases hname : w.findName gate.concertId newName with
      | some g => rfl
      | none =>
          obtain ⟨g, hg, -, hc, hn⟩ := h
          exact absurd (hn.trans happly) (findName_none.mp hname g hg hc)

/-- The tickets at a gate, counted. -/
theorem countAt_eq (w : World) (gateName : String) :
    w.countAt gateName = w.tickets.countP fun t => t.gateId = some gateName := by
  rw [World.countAt, World.ticketsAt, List.length_map, List.countP_eq_length_filter]

/-- Every ticket found at a name can be signed. -/
theorem resignAll_ticketsAt (w : World) (gateName newName : String) :
    ∃ tickets, resignAll w.config newName (w.ticketsAt gateName) w.tickets = some tickets :=
  resignAll_exists w.config newName ticketsAt_exists

/-- A name that is free: the answer counts the tickets that are at it in the end,
    of whatever concert they are. -/
theorem updateAlone_free (h : Tables w) (hfind : w.findGate gate.id = some gate)
    (hfree : ¬ dto.Taken gate w) :
    (updateAlone gate.id dto w).2 = .gate (dto.apply gate) (w.tickets.countP (dto.counts gate)) := by
  rw [updateAlone, hfind]
  dsimp only
  cases hrename : dto.renames gate with
  | none =>
      simp only [keepName, updateGate_free hfind hfree, countAt_eq]
      have hcounts : dto.counts gate = fun t => decide (t.gateId = some (dto.apply gate).name) := by
        funext t
        simp [UpdateGateDto.counts, hrename]
      rw [hcounts]
  | some newName =>
      obtain ⟨hne, happly⟩ := renames_some hrename
      have hname : w.findName gate.concertId newName = none := by
        rw [findName_none]
        intro g hg hc hn
        refine hfree ⟨g, hg, ?_, hc, hn.trans happly.symm⟩
        intro hid
        rw [h.mem_eq hfind hg hid] at hn
        exact hne hn.symm
      obtain ⟨tickets, hsign⟩ := resignAll_ticketsAt w gate.name newName
      obtain ⟨f, hf, rfl⟩ := resignAll_moved hsign
      have hsign' : resignAll w.config newName (World.ticketsAt gate.name
          { w with gates := RowTable.modify Gate.id gate.id dto.apply w.gates }) w.tickets
          = some (w.tickets.map f) := hsign
      simp only [hname, moveName, updateGate_free hfind hfree, hsign', countAt_eq, List.countP_map]
      congr 1
      refine List.countP_congr fun t ht => ?_
      have hat : t.id ∈ (w.ticketsAt gate.name).map Prod.fst ↔ t.gateId = some gate.name :=
        h.mem_ticketsAt ht
      simp only [Function.comp, UpdateGateDto.counts, hrename, happly, Option.isSome_some, true_and,
        decide_eq_true_eq]
      by_cases hin : t.gateId = some gate.name
      · simp [hf.moved t (hat.mpr hin), hin]
      · simp [hf.kept t (fun h => hin (hat.mp h)), hin]

/-! ### What signing writes -/

variable {p q : Ticket → Prop} {tickets tickets' tickets'' : List Ticket} {config : QrConfig}

/-- Re-signing twice. -/
theorem SignedOnly.trans (h : SignedOnly p tickets tickets')
    (h' : SignedOnly p tickets' tickets'') : SignedOnly p tickets tickets'' := by
  obtain ⟨f, rfl, hf, hkept⟩ := h
  obtain ⟨g, rfl, hg, hkept'⟩ := h'
  refine ⟨g ∘ f, List.map_map, fun t => ?_, fun t ht hp => ?_⟩
  · obtain ⟨gateId, qrSignature, hft⟩ := hf t
    obtain ⟨gateId', qrSignature', hgt⟩ := hg (f t)
    refine ⟨gateId', qrSignature', ?_⟩
    show g (f t) = _
    rw [hgt, hft]
  · have hft := hkept t ht hp
    have hmem : f t ∈ tickets.map f := List.mem_map_of_mem ht
    rw [hft] at hmem
    show g (f t) = t
    rw [hft]
    exact hkept' t hmem hp

/-- Re-signing fewer tickets. -/
theorem SignedOnly.mono (h : SignedOnly p tickets tickets') (hpq : ∀ t ∈ tickets, p t → q t) :
    SignedOnly q tickets tickets' := by
  obtain ⟨f, rfl, hf, hkept⟩ := h
  exact ⟨f, rfl, hf, fun t ht hq => hkept t ht fun hp => hq (hpq t ht hp)⟩

/-- Re-signing touches its own ticket only. -/
theorem resign_signedOnly {gateName : String} {target : TicketId × String}
    (h : resign config gateName target tickets = some tickets') :
    SignedOnly (fun t => t.id = target.1) tickets tickets' := by
  simp only [resign, Option.map_eq_some_iff] at h
  obtain ⟨_, _, rfl⟩ := h
  refine ⟨_, rfl, fun t => ?_, fun t _ hne => if_neg hne⟩
  split
  · exact ⟨_, _, rfl⟩
  · exact ⟨t.gateId, t.qrSignature, rfl⟩

/-- Re-signing a list touches the tickets of the list only. -/
theorem resignAll_signedOnly {gateName : String} {targets : List (TicketId × String)} :
    ∀ {tickets tickets' : List Ticket}, resignAll config gateName targets tickets = some tickets' →
      SignedOnly (fun t => t.id ∈ targets.map Prod.fst) tickets tickets' := by
  induction targets with
  | nil =>
      intro tickets tickets' h
      cases h
      exact SignedOnly.refl _ _
  | cons target targets ih =>
      intro tickets tickets' h
      obtain ⟨mid, hmid, hrest⟩ := Option.bind_eq_some_iff.mp h
      have hfirst := (resign_signedOnly hmid).mono (q := fun t => t.id ∈ (target :: targets).map
        Prod.fst) fun t _ ht => List.mem_cons.mpr (.inl ht)
      exact hfirst.trans ((ih hrest).mono fun t _ ht => List.mem_cons_of_mem _ ht)

/-! ### remove -/

/-- A gate with tickets has one. -/
theorem countAt_pos {gateName : String} :
    0 < w.countAt gateName ↔ ∃ t ∈ w.tickets, t.gateId = some gateName := by
  rw [countAt_eq, List.countP_pos_iff]
  simp

/-- The row is removed. -/
theorem deleteGate_eq (hfind : w.findGate gate.id = some gate) : deleteGate gate w
    = ({ w with gates := RowTable.remove Gate.id gate.id w.gates }, .removed) := by
  rw [deleteGate, hfind]

/-- A gate without tickets goes. -/
theorem removeAlone_empty (hfind : w.findGate gate.id = some gate)
    (hat : ¬ ∃ t ∈ w.tickets, t.gateId = some gate.name) : removeAlone gate.id w
      = ({ w with gates := RowTable.remove Gate.id gate.id w.gates }, .removed) := by
  rw [removeAlone, hfind]
  dsimp only
  rw [if_neg (countAt_pos.not.mpr hat), deleteGate_eq hfind]

/-- The last gate stays while it has tickets. -/
theorem removeAlone_last (hfind : w.findGate gate.id = some gate)
    (hat : ∃ t ∈ w.tickets, t.gateId = some gate.name) (hothers : w.otherGates gate = []) :
    removeAlone gate.id w = (w, .refused (.badRequest
      "Cannot delete the last gate while tickets are assigned to it. Create another gate first.")) := by
  rw [removeAlone, hfind]
  dsimp only
  rw [if_pos (countAt_pos.mpr hat), hothers]

/-- A gate with tickets hands them to the first of the others. -/
theorem removeAlone_moves {target : Gate} {others : List Gate}
    (hfind : w.findGate gate.id = some gate)
    (hat : ∃ t ∈ w.tickets, t.gateId = some gate.name)
    (hothers : w.otherGates gate = target :: others) :
    ∃ tickets, resignAll w.config target.name (w.ticketsAt gate.name) w.tickets = some tickets ∧
      removeAlone gate.id w = ({ w with gates := RowTable.remove Gate.id gate.id w.gates,
                                        tickets := tickets }, .removed) := by
  obtain ⟨tickets, hsign⟩ := resignAll_ticketsAt w gate.name target.name
  refine ⟨tickets, hsign, ?_⟩
  have hfind' : World.findGate gate.id { w with tickets := tickets } = some gate := hfind
  rw [removeAlone, hfind]
  dsimp only
  rw [if_pos (countAt_pos.mpr hat), hothers]
  dsimp only
  rw [hsign]
  dsimp only
  rw [deleteGate_eq hfind']

/-- The rows `remove` may write: the gate's, and the tickets at its name. -/
theorem removeAlone_writes (h : Tables w) (hfind : w.findGate gate.id = some gate) :
    ((removeAlone gate.id w).1.gates = w.gates ∨
      (removeAlone gate.id w).1.gates = RowTable.remove Gate.id gate.id w.gates) ∧
    SignedOnly (fun t => t.gateId = some gate.name) w.tickets (removeAlone gate.id w).1.tickets := by
  by_cases hat : ∃ t ∈ w.tickets, t.gateId = some gate.name
  · cases hothers : w.otherGates gate with
    | nil =>
        rw [removeAlone_last hfind hat hothers]
        exact ⟨.inl rfl, SignedOnly.refl _ _⟩
    | cons target others =>
        obtain ⟨tickets, hsign, heq⟩ := removeAlone_moves hfind hat hothers
        rw [heq]
        exact ⟨.inr rfl, (resignAll_signedOnly hsign).mono fun t ht hin =>
          (h.mem_ticketsAt ht).mp hin⟩
  · rw [removeAlone_empty hfind hat]
    exact ⟨.inr rfl, SignedOnly.refl _ _⟩

/-! ### rebalance -/

/-- Both worlds find the concert's tickets alike. -/
theorem SameAt.findTicket (h : SameAt c w w')
    (hk : RowTable.Keyed (fun t : Ticket => t.id) w.tickets)
    (hk' : RowTable.Keyed (fun t : Ticket => t.id) w'.tickets) {t : Ticket}
    (ht : t ∈ w.ticketsOf c) : w.findTicket t.id = w'.findTicket t.id := by
  have ht' : t ∈ w'.ticketsOf c := h.tickets ▸ ht
  have hfind : w.findTicket t.id = some t :=
    RowTable.lookup_of_mem hk (List.mem_of_mem_filter ht)
  have hfind' : w'.findTicket t.id = some t :=
    RowTable.lookup_of_mem hk' (List.mem_of_mem_filter ht')
  rw [hfind, hfind']

/-- The assignments depend on the tickets found. -/
theorem assignments_congr {b : Rebalance} {ids : List TicketId} :
    ∀ {i : Nat}, (∀ id ∈ ids, w.findTicket id = w'.findTicket id) →
      b.assignments w i ids = b.assignments w' i ids := by
  induction ids with
  | nil => exact fun _ => rfl
  | cons ticket rest ih =>
      intro i hsame
      have hrest := ih (i := i + 1) fun id hid => hsame id (List.mem_cons_of_mem _ hid)
      rw [Rebalance.assignments, Rebalance.assignments, hsame ticket List.mem_cons_self, hrest]

/-- Only tickets of the list are assigned. -/
theorem assignments_mem {b : Rebalance} {ids : List TicketId} :
    ∀ {i : Nat} {x : TicketId × String}, x ∈ b.assignments w i ids → x.1 ∈ ids := by
  induction ids with
  | nil => exact fun h => absurd h List.not_mem_nil
  | cons ticket rest ih =>
      intro i x hx
      rw [Rebalance.assignments] at hx
      split at hx
      · exact List.mem_cons_of_mem _ (ih hx)
      · rcases List.mem_cons.mp hx with rfl | hx
        · exact List.mem_cons_self
        · exact List.mem_cons_of_mem _ (ih hx)

/-- Reassigning touches the assigned tickets only. -/
theorem reassign_signedOnly {updated : List (TicketId × String)} :
    ∀ {tickets : List Ticket},
      SignedOnly (fun t => t.id ∈ updated.map Prod.fst) tickets (reassign config updated tickets) := by
  induction updated with
  | nil => exact SignedOnly.refl _ _
  | cons x rest ih =>
      obtain ⟨ticket, newGateName⟩ := x
      intro tickets
      have hlater : ∀ ts : List Ticket, SignedOnly (fun t => t.id ∈ ticket :: rest.map Prod.fst) ts
          (reassign config rest ts) :=
        fun ts => ih.mono fun t _ ht => List.mem_cons_of_mem _ ht
      rw [reassign]
      split
      · exact hlater tickets
      next t hfind =>
        cases hsign : resign config newGateName (ticket, t.qrTokenHash) tickets with
        | none => exact hlater tickets
        | some signed =>
            have hfirst := (resign_signedOnly hsign).mono
              (q := fun t => t.id ∈ ticket :: rest.map Prod.fst)
              fun t _ ht => List.mem_cons.mpr (.inl ht)
            exact hfirst.trans (hlater signed)

/-- Tickets that are selected can be signed among the selected ones. -/
theorem reassign_filter {s : Ticket → Bool} {updated : List (TicketId × String)}
    (hs : ∀ t gateId qrSignature,
      s { t with gateId := gateId, qrSignature := qrSignature } = s t) :
    ∀ {tickets : List Ticket}, RowTable.Keyed (fun t : Ticket => t.id) tickets →
      (∀ x ∈ updated, ∃ t ∈ tickets, t.id = x.1 ∧ s t = true) →
      (reassign config updated tickets).filter s = reassign config updated (tickets.filter s) := by
  induction updated with
  | nil => exact fun _ _ => rfl
  | cons x rest ih =>
      obtain ⟨ticket, newGateName⟩ := x
      intro tickets hk hmem
      obtain ⟨t, ht, hid, hst⟩ := hmem _ List.mem_cons_self
      have hid : t.id = ticket := hid
      have hfind : RowTable.lookup (fun t : Ticket => t.id) ticket tickets = some t :=
        hid ▸ RowTable.lookup_of_mem hk ht
      have hfind' : RowTable.lookup (fun t : Ticket => t.id) ticket (tickets.filter s) = some t := by
        rw [RowTable.lookup_filter hk, hfind, Option.filter_some, if_pos hst]
      rw [reassign, reassign, hfind, hfind']
      simp only [resign, hfind, hfind', Option.map_some, Option.getD_some]
      rw [ih]
      · rw [RowTable.filter_modify fun r => hs r _ _]
      · exact hk.modify fun _ => rfl
      · intro y hy
        obtain ⟨t', ht', hid', hst'⟩ := hmem y (List.mem_cons_of_mem _ hy)
        refine ⟨_, List.mem_map_of_mem ht', ?_, ?_⟩
        · split
          · exact hid'
          · exact hid'
        · split
          · exact (hs _ _ _).trans hst'
          · exact hst'

/-- The tickets `rebalance` looks at. -/
theorem issued_eq (w : World) (c : ConcertId) :
    (w.tickets.filter fun t => t.concertId = c ∧ t.status = .issued)
      = (w.ticketsOf c).filter fun t => t.status = .issued := by
  rw [World.ticketsOf, List.filter_filter]
  refine List.filter_congr fun t _ => ?_
  simp [Bool.and_comm]

/-- The statistics count the concert's tickets only. -/
theorem stats_eq (b : Rebalance) (tickets : List Ticket) :
    b.stats tickets = b.stats (tickets.filter fun t => t.concertId = b.concertId) := by
  simp only [Rebalance.stats, List.filter_filter]
  refine List.map_congr_left fun g _ => ?_
  congr 3
  refine List.filter_congr fun t _ => ?_
  by_cases hc : t.concertId = b.concertId
  · simp [hc]
  · simp [hc]

/-- The assigned tickets are tickets of the concert. -/
theorem assigned_mem {b : Rebalance} {ts : List Ticket} (hts : ∀ t ∈ ts, t ∈ w.ticketsOf c)
    {x : TicketId × String} (hx : x ∈ b.assignments w 0 (ts.map fun t => t.id)) :
    ∃ t ∈ w.tickets, t.id = x.1 ∧ t.concertId = c := by
  obtain ⟨t, ht, hid⟩ := List.mem_map.mp (assignments_mem hx)
  obtain ⟨hmem, hc⟩ := List.mem_filter.mp (hts t ht)
  exact ⟨t, hmem, hid, of_decide_eq_true hc⟩

/-- What is counted after the second loop, from the concert's tickets. -/
theorem stats_reassign {b : Rebalance} {updated : List (TicketId × String)}
    (hk : RowTable.Keyed (fun t : Ticket => t.id) w.tickets)
    (hmem : ∀ x ∈ updated, ∃ t ∈ w.tickets, t.id = x.1 ∧ t.concertId = b.concertId) :
    b.stats (reassign w.config updated w.tickets)
      = b.stats (reassign w.config updated (w.ticketsOf b.concertId)) := by
  have hs : (reassign w.config updated w.tickets).filter (fun t => t.concertId = b.concertId)
      = reassign w.config updated (w.ticketsOf b.concertId) := by
    refine reassign_filter (fun _ _ _ => rfl) hk fun x hx => ?_
    obtain ⟨t, ht, hid, hc⟩ := hmem x hx
    exact ⟨t, ht, hid, decide_eq_true hc⟩
  rw [stats_eq, hs]

/-- Both loops take the same turns, with the same result. -/
theorem SameAt.loops (h : SameAt c w w')
    (hk : RowTable.Keyed (fun t : Ticket => t.id) w.tickets)
    (hk' : RowTable.Keyed (fun t : Ticket => t.id) w'.tickets) {b : Rebalance}
    (hb : b.concertId = c) {ts : List Ticket} (hts : ∀ t ∈ ts, t ∈ w.ticketsOf c) :
    b.assignments w 0 (ts.map fun t => t.id) = b.assignments w' 0 (ts.map fun t => t.id) ∧
      b.stats (reassign w.config (b.assignments w' 0 (ts.map fun t => t.id)) w.tickets)
        = b.stats (reassign w'.config (b.assignments w' 0 (ts.map fun t => t.id)) w'.tickets) := by
  subst hb
  have hts' : ∀ t ∈ ts, t ∈ w'.ticketsOf b.concertId := fun t ht => h.tickets ▸ hts t ht
  have hassign : b.assignments w 0 (ts.map fun t => t.id)
      = b.assignments w' 0 (ts.map fun t => t.id) := by
    refine assignments_congr fun id hid => ?_
    obtain ⟨t, ht, rfl⟩ := List.mem_map.mp hid
    exact h.findTicket hk hk' (hts t ht)
  refine ⟨hassign, ?_⟩
  rw [stats_reassign hk' fun x hx => assigned_mem hts' hx, ← hassign,
    stats_reassign hk fun x hx => assigned_mem hts hx, h.config, h.tickets]

/-- What `rebalance` answers is decided by the rows of its concert. -/
theorem SameAt.rebalance (h : SameAt c w w')
    (hk : RowTable.Keyed (fun t : Ticket => t.id) w.tickets)
    (hk' : RowTable.Keyed (fun t : Ticket => t.id) w'.tickets) :
    (rebalanceAlone c w).2 = (rebalanceAlone c w').2 := by
  have hsorted := h.sortedGates
  rw [rebalanceAlone, rebalanceAlone]
  by_cases hc : c ∈ w.concerts
  · rw [if_pos hc, if_pos (h.concert.mp hc)]
    by_cases hnil : w.sortedGates c = []
    · rw [dif_pos hnil, dif_pos (hsorted ▸ hnil)]
    · rw [dif_neg hnil, dif_neg (hsorted ▸ hnil)]
      simp only [issued_eq, ← h.tickets, ← hsorted]
      split
      · rfl
      next htickets =>
        have hissued : ∀ t ∈ (w.ticketsOf c).filter fun t => t.status = .issued,
            t ∈ w.ticketsOf c := fun t ht => List.mem_of_mem_filter ht
        have hloops := h.loops hk hk' (b := ⟨c, w.sortedGates c, hnil⟩) rfl hissued
        rw [hloops.1, hloops.2]
  · rw [if_neg hc, if_neg fun hc' => hc (h.concert.mpr hc')]

/-- The rows `rebalance` may write: the tickets of its concert. -/
theorem rebalanceAlone_writes (hk : RowTable.Keyed (fun t : Ticket => t.id) w.tickets) :
    (rebalanceAlone c w).1.gates = w.gates ∧
      SignedOnly (fun t => t.concertId = c) w.tickets (rebalanceAlone c w).1.tickets := by
  rw [rebalanceAlone]
  split
  · split
    · exact ⟨rfl, SignedOnly.refl _ _⟩
    next hne =>
      simp only [issued_eq]
      split
      · exact ⟨rfl, SignedOnly.refl _ _⟩
      next htickets =>
        refine ⟨rfl, reassign_signedOnly.mono fun t ht hin => ?_⟩
        obtain ⟨x, hx, hxt⟩ := List.mem_map.mp hin
        obtain ⟨t', ht', hid, hc⟩ := assigned_mem (fun t ht => List.mem_of_mem_filter ht) hx
        rw [RowTable.eq_of_key hk ht ht' (hxt.symm.trans hid.symm)]
        exact hc
  · exact ⟨rfl, SignedOnly.refl _ _⟩

/-! ### list -/

/-- Both worlds list the concert's gates alike. -/
theorem SameAt.list (h : SameAt c w w') : TicketGates.list c w = TicketGates.list c w' := by
  rw [TicketGates.list, TicketGates.list, h.sortedGates]
  refine List.map_congr_left fun g _ => ?_
  have hcount : ∀ v : World, (v.tickets.filter fun t => t.concertId = c ∧ t.gateId = some g.name)
      = (v.ticketsOf c).filter fun t => t.gateId = some g.name := by
    intro v
    rw [World.ticketsOf, List.filter_filter]
    refine List.filter_congr fun t _ => ?_
    simp [Bool.and_comm]
  rw [hcount, hcount, h.tickets]

end Reads

end TicketGates
