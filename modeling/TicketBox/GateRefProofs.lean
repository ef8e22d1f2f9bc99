import TicketBox.Alone
import TicketBox.GateProofs

/-! # Tickets and the gates they name

    A ticket names its gate, and names are unique within a concert only.  The gate
    operations of a concert find the tickets to move by name: where tickets of
    another concert carry the same name they are moved as well, and a gate renamed
    to the empty name leaves its tickets behind.  Operations that meet neither keep
    every name resolved, and leave other concerts alone. -/

namespace TicketGates

open Interleave
open TicketCheckin (TicketId QrConfig)
open TicketStore (ConcertId Order OrderItem)
open TicketDb (gateIdOf leastLoaded leastLoadedGateName)

/-! ## The tables -/

/-- The ticket has no gate, or its gate's name is one of its concert's. -/
def Resolves (gateRows : List Gate) (t : Ticket) : Prop :=
  t.gateId = none ∨ ∃ g ∈ gateRows, g.concertId = t.concertId ∧ t.gateId = some g.name

/-- Every ticket's gate resolves to a gate. -/
def Referenced (w : World) : Prop := ∀ t ∈ w.tickets, Resolves w.gates t

/-- The gates are searched for the ticket's. -/
instance (gateRows : List Gate) (t : Ticket) : Decidable (Resolves gateRows t) :=
  inferInstanceAs (Decidable (_ ∨ ∃ _ ∈ _, _ ∧ _))

/-- Ticket by ticket. -/
instance (w : World) : Decidable (Referenced w) :=
  inferInstanceAs (Decidable (∀ _ ∈ _, _))

/-- What the primary keys and the unique index guarantee. -/
structure Tables (w : World) : Prop where
  tickets : RowTable.Keyed (fun t : Ticket => t.id) w.tickets
  gates : RowTable.Keyed Gate.id w.gates
  names : ∀ g ∈ w.gates, ∀ g' ∈ w.gates, g.concertId = g'.concertId → g.name = g'.name → g = g'

/-- Nothing of another concert is changed. -/
def Spares (c : ConcertId) (w w' : World) : Prop :=
  ∀ t : Ticket, t.concertId ≠ c → (t ∈ w'.tickets ↔ t ∈ w.tickets)

/-- Nothing has happened to the other concerts. -/
theorem Spares.refl (c : ConcertId) (w : World) : Spares c w w := fun _ _ => Iff.rfl

/-- Two calls that spare them. -/
theorem Spares.trans {c : ConcertId} {w w' w'' : World} (h : Spares c w w')
    (h' : Spares c w' w'') : Spares c w w'' :=
  fun t ht => (h' t ht).trans (h t ht)

/-! ## When an operation is harmless -/

/-- The tickets that carry the gate's name are its concert's. -/
def HoldsAlone (w : World) (gate : Gate) : Prop :=
  ∀ t ∈ w.tickets, t.gateId = some gate.name → t.concertId = gate.concertId

/-- A rename that goes through to a new name: to a name, it finds the old one on
    tickets of its own concert only; to the empty name, on none of them. -/
def RenameHarmless (w : World) (gate : Gate) (dto : UpdateGateDto) : Prop :=
  ∀ newName ∈ dto.name, newName ≠ gate.name → w.findName gate.concertId newName = none →
    if newName = "" then ∀ t ∈ w.tickets, t.concertId = gate.concertId → t.gateId ≠ some gate.name
    else HoldsAlone w gate

/-- A removal with another gate to move to finds the name on tickets of its own
    concert only. -/
def RemoveHarmless (w : World) (gate : Gate) : Prop :=
  (∃ g ∈ w.gates, g.concertId = gate.concertId ∧ g.id ≠ gate.id) → HoldsAlone w gate

/-- The condition on a request, where it starts. -/
def Harmless (w : World) : Request → Prop
  | .update id dto => ∀ gate ∈ w.findGate id, RenameHarmless w gate dto
  | .remove id => ∀ gate ∈ w.findGate id, RemoveHarmless w gate
  | _ => True

/-- The tickets at the gate are looked at. -/
instance (w : World) (gate : Gate) : Decidable (HoldsAlone w gate) :=
  inferInstanceAs (Decidable (∀ _ ∈ _, _ → _))

/-- The new name is looked up. -/
instance (w : World) (gate : Gate) (dto : UpdateGateDto) : Decidable (RenameHarmless w gate dto) :=
  inferInstanceAs (Decidable (∀ newName ∈ dto.name, newName ≠ gate.name →
    w.findName gate.concertId newName = none →
    if newName = "" then ∀ t ∈ w.tickets, t.concertId = gate.concertId → t.gateId ≠ some gate.name
    else HoldsAlone w gate))

instance (w : World) (gate : Gate) : Decidable (RemoveHarmless w gate) :=
  inferInstanceAs (Decidable (_ → _))

/-- Request by request. -/
instance (w : World) (r : Request) : Decidable (Harmless w r) :=
  match r with
  | .update id dto => inferInstanceAs (Decidable (∀ gate ∈ w.findGate id, RenameHarmless w gate dto))
  | .remove id => inferInstanceAs (Decidable (∀ gate ∈ w.findGate id, RemoveHarmless w gate))
  | .create _ _ | .rebalance _ | .webhook _ | .job _ => inferInstanceAs (Decidable True)

/-- The concert of a gate operation. -/
def Request.concert (w : World) : Request → Option ConcertId
  | .create c _ | .rebalance c => some c
  | .update id _ | .remove id => (w.findGate id).map fun gate => gate.concertId
  | .webhook _ | .job _ => none

/-! ## Moving tickets -/

/-- The tickets with these ids are at the gate, the others as they were. -/
structure Moved (ids : List TicketId) (gateName : String) (f : Ticket → Ticket) : Prop where
  sameId : ∀ t, (f t).id = t.id
  sameConcert : ∀ t, (f t).concertId = t.concertId
  moved : ∀ t, t.id ∈ ids → (f t).gateId = some gateName
  kept : ∀ t, t.id ∉ ids → f t = t

/-- Re-signing moves one ticket to the gate. -/
theorem resign_moved {config : QrConfig} {gateName : String} {target : TicketId × String}
    {tickets tickets' : List Ticket} (h : resign config gateName target tickets = some tickets') :
    ∃ f, Moved [target.1] gateName f ∧ tickets' = tickets.map f := by
  simp only [resign, Option.map_eq_some_iff] at h
  obtain ⟨_, _, rfl⟩ := h
  refine ⟨_, ⟨?_, ?_, ?_, ?_⟩, rfl⟩
  · intro t
    split <;> rfl
  · intro t
    split <;> rfl
  · intro t ht
    rw [if_pos (List.mem_singleton.mp ht)]
  · intro t ht
    exact if_neg fun he => ht (List.mem_singleton.mpr he)

/-- Nothing is moved. -/
theorem Moved.nil (gateName : String) : Moved [] gateName id :=
  ⟨fun _ => rfl, fun _ => rfl, nofun, fun _ _ => rfl⟩

/-- One ticket after the other. -/
theorem Moved.cons {x : TicketId} {ids : List TicketId} {gateName : String} {f g : Ticket → Ticket}
    (hf : Moved [x] gateName f) (hg : Moved ids gateName g) :
    Moved (x :: ids) gateName (g ∘ f) := by
  refine ⟨?_, ?_, ?_, ?_⟩
  · intro t
    exact (hg.sameId (f t)).trans (hf.sameId t)
  · intro t
    exact (hg.sameConcert (f t)).trans (hf.sameConcert t)
  · intro t ht
    show (g (f t)).gateId = _
    by_cases hin : (f t).id ∈ ids
    · exact hg.moved (f t) hin
    · rw [hg.kept (f t) hin]
      rcases List.mem_cons.mp ht with he | he
      · exact hf.moved t (List.mem_singleton.mpr he)
      · exact absurd ((hf.sameId t).symm ▸ he) hin
  · intro t ht
    show g (f t) = t
    have hft : f t = t := hf.kept t fun he => ht (List.mem_cons.mpr (.inl (List.mem_singleton.mp he)))
    rw [hft]
    exact hg.kept t fun he => ht (List.mem_cons_of_mem _ he)

/-- Re-signing a list moves its tickets to the gate. -/
theorem resignAll_moved {config : QrConfig} {gateName : String}
    {targets : List (TicketId × String)} :
    ∀ {tickets tickets' : List Ticket}, resignAll config gateName targets tickets = some tickets' →
      ∃ f, Moved (targets.map Prod.fst) gateName f ∧ tickets' = tickets.map f := by
  induction targets with
  | nil =>
      intro tickets tickets' h
      cases h
      exact ⟨id, Moved.nil gateName, (List.map_id tickets).symm⟩
  | cons target targets ih =>
      intro tickets tickets' h
      obtain ⟨mid, hmid, hrest⟩ := Option.bind_eq_some_iff.mp h
      obtain ⟨f, hf, rfl⟩ := resign_moved hmid
      obtain ⟨g, hg, rfl⟩ := ih hrest
      exact ⟨g ∘ f, hf.cons hg, List.map_map⟩

/-- Tickets that are there can be signed. -/
theorem resignAll_exists (config : QrConfig) (gateName : String)
    {targets : List (TicketId × String)} :
    ∀ {tickets : List Ticket}, (∀ x ∈ targets, ∃ t ∈ tickets, t.id = x.1) →
      ∃ tickets', resignAll config gateName targets tickets = some tickets' := by
  induction targets with
  | nil => exact fun {tickets} _ => ⟨tickets, rfl⟩
  | cons target targets ih =>
      intro tickets h
      obtain ⟨mid, hmid⟩ : ∃ mid, resign config gateName target tickets = some mid := by
        cases hl : RowTable.lookup (fun t : Ticket => t.id) target.1 tickets with
        | none =>
            obtain ⟨t, ht, he⟩ := h target List.mem_cons_self
            exact absurd he (RowTable.lookup_eq_none.mp hl t ht)
        | some t => exact ⟨_, by rw [resign, hl]; rfl⟩
      obtain ⟨f, hf, rfl⟩ := resign_moved hmid
      have hmoved : ∀ x ∈ targets, ∃ t ∈ tickets.map f, t.id = x.1 := by
        intro x hx
        obtain ⟨t, ht, he⟩ := h x (List.mem_cons_of_mem _ hx)
        exact ⟨f t, List.mem_map_of_mem ht, (hf.sameId t).trans he⟩
      obtain ⟨tickets', hrest⟩ := ih hmoved
      exact ⟨tickets', Option.bind_eq_some_iff.mpr ⟨_, hmid, hrest⟩⟩

/-- Moving keeps the ids apart. -/
theorem Moved.keyed {ids : List TicketId} {gateName : String} {f : Ticket → Ticket}
    (h : Moved ids gateName f) {tickets : List Ticket}
    (hk : RowTable.Keyed (fun t : Ticket => t.id) tickets) :
    RowTable.Keyed (fun t : Ticket => t.id) (tickets.map f) := by
  rw [RowTable.Keyed, List.map_map]
  have hids : ((fun t : Ticket => t.id) ∘ f) = fun t => t.id := funext h.sameId
  rw [hids]
  exact hk

/-- Tickets of one concert are moved. -/
theorem Moved.spares {ids : List TicketId} {gateName : String} {f : Ticket → Ticket}
    (h : Moved ids gateName f) {c : ConcertId} {w : World}
    (hids : ∀ t ∈ w.tickets, t.id ∈ ids → t.concertId = c) :
    Spares c w { w with tickets := w.tickets.map f } := by
  intro t ht
  constructor
  · intro hmem
    obtain ⟨x, hx, rfl⟩ := List.mem_map.mp hmem
    have hout : x.id ∉ ids := fun hin => ht ((h.sameConcert x).trans (hids x hx hin))
    rw [h.kept x hout]
    exact hx
  · intro hmem
    have hout : t.id ∉ ids := fun hin => ht (hids t hmem hin)
    exact List.mem_map.mpr ⟨t, hmem, h.kept t hout⟩

/-- Tickets are moved to a gate of their own concert. -/
theorem Moved.referenced {ids : List TicketId} {gate : Gate} {f : Ticket → Ticket}
    (h : Moved ids gate.name f) {w : World} (hgate : gate ∈ w.gates)
    (hids : ∀ t ∈ w.tickets, t.id ∈ ids → t.concertId = gate.concertId)
    (hrest : ∀ t ∈ w.tickets, t.id ∉ ids → Resolves w.gates t) :
    Referenced { w with tickets := w.tickets.map f } := by
  intro t ht
  obtain ⟨x, hx, rfl⟩ := List.mem_map.mp ht
  by_cases hin : x.id ∈ ids
  · refine .inr ⟨gate, hgate, ?_, h.moved x hin⟩
    rw [h.sameConcert x]
    exact (hids x hx hin).symm
  · rw [h.kept x hin]
    exact hrest x hx hin

/-! ## Issuing -/

/-- A table grown by tickets that name a gate of their concert. -/
structure Issued (gateRows : List Gate) (tickets tickets' : List Ticket) : Prop where
  keyed : RowTable.Keyed (fun t : Ticket => t.id) tickets'
  rows : ∀ t ∈ tickets', t ∈ tickets ∨ Resolves gateRows t

/-- The least loaded gate is one of the gates. -/
theorem leastLoaded_mem (count : String → Nat) (rest : List TicketStore.Gate) :
    ∀ best, leastLoaded count best rest ∈ best :: rest := by
  induction rest with
  | nil => exact fun best => List.mem_cons_self
  | cons g rest ih =>
      intro best
      simp only [leastLoaded]
      split
      · exact List.mem_cons_of_mem _ (ih g)
      · rcases List.mem_cons.mp (ih best) with he | he
        · rw [he]
          exact List.mem_cons_self
        · exact List.mem_cons_of_mem _ (List.mem_cons_of_mem _ he)

/-- The name picked is empty or one of the gates'. -/
theorem leastLoadedGateName_mem (count : String → Nat) (rows : List Gate) :
    leastLoadedGateName count (rows.map Gate.toGate) = "" ∨
      ∃ g ∈ rows, leastLoadedGateName count (rows.map Gate.toGate) = g.name := by
  cases rows with
  | nil => exact .inl rfl
  | cons g rest =>
      refine .inr ?_
      have hmem := leastLoaded_mem count (g.toGate :: rest.map Gate.toGate) g.toGate
      have hmem : leastLoaded count g.toGate (g.toGate :: rest.map Gate.toGate) ∈
          (g :: rest).map Gate.toGate := by
        rcases List.mem_cons.mp hmem with he | he
        · rw [he]
          exact List.mem_cons_self
        · exact he
      obtain ⟨g', hg', he⟩ := List.mem_map.mp hmem
      exact ⟨g', hg', (congrArg TicketStore.Gate.name he).symm⟩

/-- A gate name drawn for a ticket of the concert. -/
def Drawn (w : World) (c : ConcertId) (gateName : String) : Prop :=
  gateName = "" ∨ ∃ g ∈ w.gates, g.concertId = c ∧ gateName = g.name

/-- A name drawn from the concert's gates resolves. -/
theorem drawn_leastLoaded {w : World} {c : ConcertId} {rows : List Gate} (count : String → Nat)
    (hrows : ∀ g ∈ rows, g ∈ w.gates ∧ g.concertId = c) :
    Drawn w c (leastLoadedGateName count (rows.map Gate.toGate)) := by
  rcases leastLoadedGateName_mem count rows with he | ⟨g, hg, he⟩
  · exact .inl he
  · exact .inr ⟨g, (hrows g hg).1, (hrows g hg).2, he⟩

/-- A ticket at a drawn gate resolves. -/
theorem Drawn.resolves {w : World} {order : Order} {plan : Plan}
    (h : Drawn w order.concertId plan.gateName)
    (typeName : TicketStore.TicketTypeId → String) :
    Resolves w.gates (ticketOf typeName order plan) := by
  by_cases he : plan.gateName = ""
  · exact .inl (if_pos he)
  · rcases h with h | ⟨g, hg, hc, hname⟩
    · exact absurd h he
    · refine .inr ⟨g, hg, hc, ?_⟩
      show gateIdOf plan.gateName = some g.name
      rw [gateIdOf, if_neg he, hname]

/-- No ticket has been issued. -/
theorem Issued.refl {gateRows : List Gate} {tickets : List Ticket}
    (hk : RowTable.Keyed (fun t : Ticket => t.id) tickets) : Issued gateRows tickets tickets :=
  ⟨hk, fun _ => .inl⟩

/-- Issuing twice. -/
theorem Issued.trans {gateRows : List Gate} {tickets tickets' tickets'' : List Ticket}
    (h : Issued gateRows tickets tickets') (h' : Issued gateRows tickets' tickets'') :
    Issued gateRows tickets tickets'' :=
  ⟨h'.keyed, fun t ht => (h'.rows t ht).elim (h.rows t) .inr⟩

/-- A new ticket at a gate that is there. -/
theorem createTicket_issued {gateRows : List Gate} {t : Ticket} {tickets tickets' : List Ticket}
    (hk : RowTable.Keyed (fun t : Ticket => t.id) tickets) (ht : Resolves gateRows t)
    (h : createTicket t tickets = some tickets') : Issued gateRows tickets tickets' := by
  simp only [createTicket] at h
  split at h
  · cases h
  next hfree =>
    cases h
    refine ⟨hk.append (RowTable.lookup_eq_none.mpr fun x hx he => hfree ⟨x, hx, .inl he⟩), ?_⟩
    intro x hx
    rcases List.mem_append.mp hx with hx | hx
    · exact .inl hx
    · exact .inr (List.mem_singleton.mp hx ▸ ht)

/-- Several of them. -/
theorem createTickets_issued {gateRows : List Gate} {new : List Ticket} :
    ∀ {tickets tickets' : List Ticket}, RowTable.Keyed (fun t : Ticket => t.id) tickets →
      (∀ t ∈ new, Resolves gateRows t) → createTickets new tickets = some tickets' →
      Issued gateRows tickets tickets' := by
  induction new with
  | nil =>
      intro tickets tickets' hk _ h
      cases h
      exact Issued.refl hk
  | cons t new ih =>
      intro tickets tickets' hk hnew h
      obtain ⟨mid, hmid, hrest⟩ := Option.bind_eq_some_iff.mp h
      have hfirst := createTicket_issued hk (hnew t List.mem_cons_self) hmid
      exact hfirst.trans (ih hfirst.keyed (fun x hx => hnew x (List.mem_cons_of_mem _ hx)) hrest)

/-- The gates of a concert. -/
theorem mem_gatesOf {w : World} {c : ConcertId} {g : Gate} :
    g ∈ w.gatesOf c ↔ g ∈ w.gates ∧ g.concertId = c := by
  simp [World.gatesOf]

/-- Sorting loses no gate. -/
theorem mem_sortedGates {w : World} {c : ConcertId} {g : Gate} :
    g ∈ w.sortedGates c ↔ g ∈ w.gates ∧ g.concertId = c := by
  rw [World.sortedGates, List.mem_insertionSort, mem_gatesOf]

/-- The worker's transaction issues at gates that are there. -/
theorem commitIssue_issued {w : World} {order : Order} {uuid : Nat → String}
    {units : List (OrderItem × Nat)} :
    ∀ {tickets tickets' : List Ticket}, RowTable.Keyed (fun t : Ticket => t.id) tickets →
      commitIssue w order uuid units tickets = some tickets' →
      Issued w.gates tickets tickets' := by
  induction units with
  | nil =>
      intro tickets tickets' hk h
      cases h
      exact Issued.refl hk
  | cons unit units ih =>
      intro tickets tickets' hk h
      obtain ⟨mid, hmid, hrest⟩ := Option.bind_eq_some_iff.mp h
      have hdrawn := drawn_leastLoaded (w := w) (c := order.concertId)
        (gateCount tickets order.concertId) fun g hg => mem_gatesOf.mp hg
      have hfirst := createTicket_issued hk (Drawn.resolves hdrawn w.typeName) hmid
      exact hfirst.trans (ih hfirst.keyed hrest)

/-! ## What holds at a statement when nothing else runs -/

/-- The gate is still there, as it was read. -/
def HasGate (w : World) (gate : Gate) : Prop := w.findGate gate.id = some gate

/-- Another gate of the same concert. -/
def Target (w : World) (gate : Gate) (targetGateName : String) : Prop :=
  ∃ g ∈ w.gates, g.id ≠ gate.id ∧ g.concertId = gate.concertId ∧ g.name = targetGateName

/-- The gates a rebalance works with are still there, and of its concert. -/
def Rebalance.Fits (w : World) (b : Rebalance) : Prop :=
  ∀ g ∈ b.gates, g ∈ w.gates ∧ g.concertId = b.concertId

/-- A ticket of the concert, to be moved to one of its gates. -/
def Rebalance.Update (w : World) (b : Rebalance) (x : TicketId × String) : Prop :=
  (∀ t ∈ w.tickets, t.id = x.1 → t.concertId = b.concertId) ∧ ∃ g ∈ b.gates, g.name = x.2

/-- Only between the row of a renamed gate and the signing of its tickets are there
    names that do not resolve. -/
def Poised (w : World) : Ask → Prop
  | .updateFind id dto => Referenced w ∧ ∀ gate ∈ w.findGate id, RenameHarmless w gate dto
  | .updateExisting gate dto _ | .updateRow gate dto =>
      Referenced w ∧ HasGate w gate ∧ RenameHarmless w gate dto
  | .updateFindTickets gate updated newName =>
      (updated ∈ w.gates ∧ updated.name = newName) ∧
        ∀ t ∈ w.tickets, if t.gateId = some gate.name then t.concertId = updated.concertId
          else Resolves w.gates t
  | .updateSign updated newName targetTickets =>
      (updated ∈ w.gates ∧ updated.name = newName) ∧
        (∀ x ∈ targetTickets, ∃ t ∈ w.tickets, t.id = x.1) ∧
        ∀ t ∈ w.tickets, if t.id ∈ targetTickets.map Prod.fst then t.concertId = updated.concertId
          else Resolves w.gates t
  | .removeFind id => Referenced w ∧ ∀ gate ∈ w.findGate id, RemoveHarmless w gate
  | .removeCount gate | .removeOthers gate =>
      Referenced w ∧ HasGate w gate ∧ RemoveHarmless w gate
  | .removeFindTickets gate targetGateName =>
      Referenced w ∧ HasGate w gate ∧ Target w gate targetGateName ∧ HoldsAlone w gate
  | .removeSign gate targetGateName targetTickets =>
      Referenced w ∧ HasGate w gate ∧ Target w gate targetGateName ∧ HoldsAlone w gate ∧
        ∀ t ∈ w.tickets, t.id ∈ targetTickets.map Prod.fst ↔ t.gateId = some gate.name
  | .removeDelete gate =>
      Referenced w ∧ HasGate w gate ∧
        ∀ t ∈ w.tickets, t.concertId = gate.concertId → t.gateId ≠ some gate.name
  | .rebalanceTickets b => Referenced w ∧ b.Fits w
  | .rebalanceScan b _ ticket rest updated =>
      Referenced w ∧ b.Fits w ∧
        (∀ id ∈ ticket :: rest, ∀ t ∈ w.tickets, t.id = id → t.concertId = b.concertId) ∧
        ∀ x ∈ updated, b.Update w x
  | .rebalanceFind b _ ticket newGateName rest =>
      Referenced w ∧ b.Fits w ∧ ∀ x ∈ (ticket, newGateName) :: rest, b.Update w x
  | .rebalanceUpdate b _ target newGateName rest =>
      Referenced w ∧ b.Fits w ∧ ∀ x ∈ (target.1, newGateName) :: rest, b.Update w x
  | .issueCounts order rows =>
      Referenced w ∧ ∀ g ∈ rows, g ∈ w.gates ∧ g.concertId = order.concertId
  | .issueCommit order plans =>
      Referenced w ∧ ∀ plan ∈ plans, Drawn w order.concertId plan.gateName
  | _ => Referenced w

/-- The statement is one of a gate operation on the concert. -/
def Ask.Of (w : World) (c : ConcertId) : Ask → Prop
  | .createFind c' _ | .createInsert c' _ | .rebalanceConcert c' | .rebalanceGates c' => c' = c
  | .updateFind id _ | .removeFind id => ∀ gate ∈ w.findGate id, gate.concertId = c
  | .updateExisting gate _ _ | .updateRow gate _ | .removeCount gate | .removeOthers gate
  | .removeFindTickets gate _ | .removeSign gate _ _ | .removeDelete gate => gate.concertId = c
  | .updateFindTickets _ updated _ | .updateSign updated _ _ | .updateCount updated =>
      updated.concertId = c
  | .rebalanceTickets b | .rebalanceScan b _ _ _ _ | .rebalanceFind b _ _ _ _
  | .rebalanceUpdate b _ _ _ _ | .rebalanceStats b _ => b.concertId = c
  | .issueGates _ | .issueCounts _ _ | .issueCommit _ _ | .workerFind _ | .workerCount _
  | .workerCommit _ => False

/-- What a statement leaves behind, and what it left alone. -/
structure Proceeds (w : World) (d : Ask) (w' : World) (prog : Op) : Prop where
  tables : Tables w'
  poised : prog.Meets (Poised w') fun _ => Referenced w'
  spares : ∀ c, d.Of w c → Spares c w w' ∧ prog.Meets (fun d' => d'.Of w' c) fun _ => True

variable {w : World} {d : Ask}

/-- An exception leaves everything as it was. -/
theorem Tables.refuse (h : Tables w) (href : Referenced w) (e : GateError) :
    Proceeds w d (refuse w e).1 (refuse w e).2 :=
  ⟨h, href, fun c _ => ⟨Spares.refl c w, trivial⟩⟩

/-- A statement that only reads. -/
theorem Tables.reads (h : Tables w) {prog : Op}
    (hprog : prog.Meets (Poised w) fun _ => Referenced w)
    (hof : ∀ c, d.Of w c → prog.Meets (fun d' => d'.Of w c) fun _ => True) :
    Proceeds w d w prog :=
  ⟨h, hprog, fun c hc => ⟨Spares.refl c w, hof c hc⟩⟩

/-! ### The statements that write -/

/-- The gate that is found is a row. -/
theorem findGate_mem {id : TicketGates.GateId} {gate : Gate} (h : w.findGate id = some gate) :
    gate ∈ w.gates ∧ gate.id = id :=
  ⟨RowTable.lookup_mem h, RowTable.lookup_key h⟩

/-- No gate of the concert has the name. -/
theorem findName_none {c : ConcertId} {name : String} :
    w.findName c name = none ↔ ∀ g ∈ w.gates, g.concertId = c → g.name ≠ name := by
  simp [World.findName]

/-- A gate more never hurts. -/
theorem createGate_proceeds {c : ConcertId} {dto : CreateGateDto} {gate : Gate} {w' : World}
    (h : Tables w) (href : Referenced w) (hw : createGate gate w = some w') :
    Proceeds w (.createInsert c dto) w' (.ret (.gate gate 0)) := by
  simp only [createGate] at hw
  split at hw
  next hfree =>
    cases hw
    have hnew : ∀ g ∈ w.gates, g.id ≠ gate.id ∧
        (g.concertId = gate.concertId → g.name ≠ gate.name) := by
      intro g hg
      exact ⟨fun he => hfree.2 ⟨g, hg, .inl he⟩, fun hc hn => hfree.2 ⟨g, hg, .inr ⟨hc, hn⟩⟩⟩
    refine ⟨⟨h.tickets, ?_, ?_⟩, ?_, fun c _ => ⟨Spares.refl c w, trivial⟩⟩
    · exact h.gates.append (RowTable.lookup_eq_none.mpr fun g hg => (hnew g hg).1)
    · intro g hg g' hg' hc hn
      rcases List.mem_append.mp hg with hg | hg <;> rcases List.mem_append.mp hg' with hg' | hg'
      · exact h.names g hg g' hg' hc hn
      · rw [List.mem_singleton.mp hg'] at hc hn
        exact absurd hn ((hnew g hg).2 hc)
      · rw [List.mem_singleton.mp hg] at hc hn
        exact absurd hn.symm ((hnew g' hg').2 hc.symm)
      · rw [List.mem_singleton.mp hg, List.mem_singleton.mp hg']
    · intro t ht
      rcases href t ht with hnone | ⟨g, hg, hres⟩
      · exact .inl hnone
      · exact .inr ⟨g, List.mem_append_left _ hg, hres⟩
  · cases hw

/-- The gate of a name that is free in its concert, after its row is written. -/
theorem updateGate_some {gate updated : Gate} {dto : UpdateGateDto} {w' : World}
    (hgate : HasGate w gate) (hw : updateGate gate.id dto w = some (updated, w')) :
    updated = dto.apply gate ∧
      w' = { w with gates := RowTable.modify Gate.id gate.id dto.apply w.gates } ∧
      ∀ g ∈ w.gates, g.id ≠ gate.id → g.concertId = gate.concertId → g.name ≠ updated.name := by
  have hfind : w.findGate gate.id = some gate := hgate
  simp only [TicketGates.updateGate, hfind, Option.bind_some] at hw
  split at hw
  · cases hw
  next hfree =>
    cases hw
    exact ⟨rfl, rfl, fun g hg hid hc hn => hfree ⟨g, hg, hid, hc, hn⟩⟩

/-- A gate is found by its id. -/
theorem Tables.mem_eq (h : Tables w) {gate g : Gate} (hgate : HasGate w gate) (hg : g ∈ w.gates)
    (hid : g.id = gate.id) : g = gate := by
  have hfind := RowTable.lookup_of_mem h.gates hg
  rw [hid] at hfind
  exact (Option.some.inj (hgate.symm.trans hfind)).symm

/-- A rename keeps the ids and names apart. -/
theorem Tables.updateGate {gate updated : Gate} {dto : UpdateGateDto} {w' : World} (h : Tables w)
    (hgate : HasGate w gate) (hw : updateGate gate.id dto w = some (updated, w')) : Tables w' := by
  obtain ⟨rfl, rfl, hfree⟩ := updateGate_some hgate hw
  refine ⟨h.tickets, h.gates.modify fun _ => rfl, ?_⟩
  intro g hg g' hg' hc hn
  obtain ⟨x, hx, rfl⟩ := RowTable.mem_modify hg
  obtain ⟨y, hy, rfl⟩ := RowTable.mem_modify hg'
  by_cases hxid : x.id = gate.id <;> by_cases hyid : y.id = gate.id
  · rw [h.mem_eq hgate hx hxid, h.mem_eq hgate hy hyid]
  · -- the other gate would hold the new name
    have hxg := h.mem_eq hgate hx hxid
    subst hxg
    simp only [if_true, hyid, if_false] at hc hn
    exact absurd hn.symm (hfree y hy hyid hc.symm)
  · have hyg := h.mem_eq hgate hy hyid
    subst hyg
    simp only [if_true, hxid, if_false] at hc hn
    exact absurd hn (hfree x hx hxid hc)
  · simp only [hxid, hyid, if_false] at hc hn ⊢
    exact h.names x hx y hy hc hn

/-- A ticket still resolves unless it carries the old name of the renamed gate. -/
theorem Resolves.renamed {gate updated : Gate} {dto : UpdateGateDto} {w' : World} {t : Ticket}
    (h : Tables w) (hgate : HasGate w gate)
    (hw : updateGate gate.id dto w = some (updated, w')) (hres : Resolves w.gates t)
    (hname : t.concertId = gate.concertId → t.gateId = some gate.name →
      updated.name = gate.name) : Resolves w'.gates t := by
  obtain ⟨rfl, rfl, -⟩ := updateGate_some hgate hw
  rcases hres with hnone | ⟨g, hg, hc, hid⟩
  · exact .inl hnone
  · by_cases he : g.id = gate.id
    · have hgg := h.mem_eq hgate hg he
      subst hgg
      refine .inr ⟨dto.apply g, RowTable.mem_modify_self hgate, hc, ?_⟩
      rw [hid, hname hc.symm hid]
    · exact .inr ⟨g, RowTable.mem_modify_of_ne hg he, hc, hid⟩

/-- The renamed gate is a row of its concert. -/
theorem updated_mem {gate updated : Gate} {dto : UpdateGateDto} {w' : World}
    (hgate : HasGate w gate) (hw : updateGate gate.id dto w = some (updated, w')) :
    updated ∈ w'.gates ∧ updated.concertId = gate.concertId := by
  obtain ⟨rfl, rfl, -⟩ := updateGate_some hgate hw
  exact ⟨RowTable.mem_modify_self hgate, rfl⟩

/-- A new name that goes through was free. -/
theorem newName_free {gate updated : Gate} {dto : UpdateGateDto} {w' : World} (h : Tables w)
    (hgate : HasGate w gate) (hw : updateGate gate.id dto w = some (updated, w')) {newName : String}
    (hname : dto.name = some newName) (hne : newName ≠ gate.name) :
    updated.name = newName ∧ w.findName gate.concertId newName = none := by
  obtain ⟨rfl, rfl, hfree⟩ := updateGate_some hgate hw
  have hupdated : (dto.apply gate).name = newName := by
    show dto.name.getD gate.name = newName
    rw [hname]
    rfl
  refine ⟨hupdated, findName_none.mpr fun g hg hc hn => ?_⟩
  by_cases he : g.id = gate.id
  · rw [h.mem_eq hgate hg he] at hn
    exact hne hn.symm
  · exact hfree g hg he hc (hn.trans hupdated.symm)

/-- **The gate's row.**  After it only the tickets the rename will sign are at a name
    that may not resolve. -/
theorem updateRow_proceeds {gate updated : Gate} {dto : UpdateGateDto} {w' : World} (h : Tables w)
    (hd : Poised w (.updateRow gate dto))
    (hw : updateGate gate.id dto w = some (updated, w')) :
    Proceeds w (.updateRow gate dto) w' (afterUpdate gate updated dto) := by
  obtain ⟨href, hgate, hharm⟩ := hd
  obtain ⟨hmem, hconcert⟩ := updated_mem hgate hw
  have htickets : w'.tickets = w.tickets := by
    obtain ⟨-, rfl, -⟩ := updateGate_some hgate hw
    rfl
  have hspares : ∀ c, Spares c w w' := by
    intro c t _
    rw [htickets]
  have hof : ∀ c, gate.concertId = c →
      (afterUpdate gate updated dto).Meets (fun d' => d'.Of w' c) fun _ => True := by
    intro c hc
    unfold afterUpdate
    split
    · exact hconcert.trans hc
    · exact hconcert.trans hc
  refine ⟨h.updateGate hgate hw, ?_, fun c hc => ⟨hspares c, hof c hc⟩⟩
  unfold afterUpdate
  split
  · next newName hren =>
      obtain ⟨hname, hne⟩ := Option.filter_eq_some_iff.mp hren
      obtain ⟨hne0, hne⟩ := of_decide_eq_true hne
      obtain ⟨hupdated, hfree⟩ := newName_free h hgate hw hname hne
      have halone := hharm newName hname hne hfree
      rw [if_neg hne0] at halone
      refine ⟨⟨hmem, hupdated⟩, ?_⟩
      rw [htickets]
      intro t ht
      split
      · next hat => exact (halone t ht hat).trans hconcert.symm
      · next hat => exact (href t ht).renamed h hgate hw fun _ he => absurd he hat
  · next hren =>
      show Referenced w'
      unfold Referenced
      rw [htickets]
      intro t ht
      refine (href t ht).renamed h hgate hw ?_
      intro hc hat
      obtain ⟨hup, -, -⟩ := updateGate_some hgate hw
      have hnamed : updated.name = dto.name.getD gate.name := by
        rw [hup]
        rfl
      rw [hnamed]
      cases hname : dto.name with
      | none => rfl
      | some newName =>
          show newName = gate.name
          by_contra hne
          -- a name that is no rename is the empty one, and no ticket carried the old
          have hempty : newName = "" := by
            by_contra hne0
            have := Option.filter_eq_none_iff.mp hren newName hname
            exact this (decide_eq_true ⟨hne0, hne⟩)
          obtain ⟨-, hfree⟩ := newName_free h hgate hw hname hne
          have hnone := hharm newName hname hne hfree
          rw [if_pos hempty] at hnone
          exact hnone t ht hc hat

/-- The ids read at a gate are those of the tickets there. -/
theorem Tables.mem_ticketsAt (h : Tables w) {gateName : String} {t : Ticket} (ht : t ∈ w.tickets) :
    t.id ∈ (w.ticketsAt gateName).map Prod.fst ↔ t.gateId = some gateName := by
  constructor
  · intro hin
    obtain ⟨x, hx, hid⟩ := List.mem_map.mp hin
    obtain ⟨t', ht', rfl⟩ := List.mem_map.mp hx
    obtain ⟨hmem, hat⟩ := List.mem_filter.mp ht'
    have hfind := RowTable.lookup_of_mem h.tickets ht
    have hfind' := RowTable.lookup_of_mem h.tickets hmem
    have hsame : t'.id = t.id := hid
    rw [hsame, hfind] at hfind'
    rw [Option.some.inj hfind']
    exact of_decide_eq_true hat
  · intro hat
    exact List.mem_map.mpr ⟨(t.id, t.qrTokenHash),
      List.mem_map.mpr ⟨t, List.mem_filter.mpr ⟨ht, decide_eq_true hat⟩, rfl⟩, rfl⟩

/-- The tickets at a gate are tickets. -/
theorem ticketsAt_exists {gateName : String} :
    ∀ x ∈ w.ticketsAt gateName, ∃ t ∈ w.tickets, t.id = x.1 := by
  intro x hx
  obtain ⟨t, ht, hid, -⟩ := ticketsAt_rows w gateName x hx
  exact ⟨t, ht, hid⟩

/-- Moving tickets keeps the tables in order. -/
theorem Tables.moved (h : Tables w) {ids : List TicketId} {gateName : String} {f : Ticket → Ticket}
    (hf : Moved ids gateName f) : Tables { w with tickets := w.tickets.map f } :=
  ⟨hf.keyed h.tickets, h.gates, h.names⟩

/-- The tickets of a renamed gate are signed for its new name. -/
theorem updateSign_proceeds {ch : Choice} {updated : Gate} {newName : String}
    {targetTickets : List (TicketId × String)} (h : Tables w)
    (hd : Poised w (.updateSign updated newName targetTickets)) :
    Proceeds w (.updateSign updated newName targetTickets)
      (carryOut ch w (.updateSign updated newName targetTickets)).1
      (carryOut ch w (.updateSign updated newName targetTickets)).2 := by
  obtain ⟨⟨hmem, rfl⟩, hrows, hat⟩ := hd
  obtain ⟨tickets', hsign⟩ := resignAll_exists w.config updated.name hrows
  obtain ⟨f, hf, rfl⟩ := resignAll_moved hsign
  have hids : ∀ t ∈ w.tickets, t.id ∈ targetTickets.map Prod.fst →
      t.concertId = updated.concertId := by
    intro t ht hin
    have := hat t ht
    rwa [if_pos hin] at this
  have hrest : ∀ t ∈ w.tickets, t.id ∉ targetTickets.map Prod.fst → Resolves w.gates t := by
    intro t ht hout
    have := hat t ht
    rwa [if_neg hout] at this
  simp only [carryOut, hsign]
  refine ⟨h.moved hf, hf.referenced hmem hids hrest, ?_⟩
  rintro c rfl
  exact ⟨hf.spares hids, rfl⟩

/-- The tickets of a gate to be deleted are signed for another one. -/
theorem removeSign_proceeds {ch : Choice} {gate : Gate} {targetGateName : String}
    {targetTickets : List (TicketId × String)} (h : Tables w)
    (hd : Poised w (.removeSign gate targetGateName targetTickets)) :
    Proceeds w (.removeSign gate targetGateName targetTickets)
      (carryOut ch w (.removeSign gate targetGateName targetTickets)).1
      (carryOut ch w (.removeSign gate targetGateName targetTickets)).2 := by
  obtain ⟨href, hgate, ⟨target, htarget, hother, hconcert, rfl⟩, halone, hat⟩ := hd
  simp only [carryOut]
  split
  · exact h.refuse href _
  next tickets' hsign =>
    obtain ⟨f, hf, rfl⟩ := resignAll_moved hsign
    have hids : ∀ t ∈ w.tickets, t.id ∈ targetTickets.map Prod.fst →
        t.concertId = target.concertId :=
      fun t ht hin => (halone t ht ((hat t ht).mp hin)).trans hconcert.symm
    have hname : target.name ≠ gate.name := by
      intro he
      have hmem := (findGate_mem hgate).1
      exact hother (congrArg Gate.id (h.names target htarget gate hmem hconcert he))
    refine ⟨h.moved hf, ⟨?_, hgate, ?_⟩, ?_⟩
    · exact hf.referenced htarget hids fun t ht _ => href t ht
    · intro t ht _ hname'
      obtain ⟨x, hx, rfl⟩ := List.mem_map.mp ht
      by_cases hin : x.id ∈ targetTickets.map Prod.fst
      · rw [hf.moved x hin] at hname'
        exact hname (Option.some.inj hname')
      · rw [hf.kept x hin] at hname'
        exact hin ((hat x hx).mpr hname')
    · rintro c rfl
      exact ⟨hf.spares fun t ht hin => (hids t ht hin).trans hconcert, rfl⟩

/-- A gate no ticket of its concert names is deleted. -/
theorem removeDelete_proceeds {ch : Choice} {gate : Gate} (h : Tables w)
    (hd : Poised w (.removeDelete gate)) :
    Proceeds w (.removeDelete gate) (carryOut ch w (.removeDelete gate)).1
      (carryOut ch w (.removeDelete gate)).2 := by
  obtain ⟨href, hgate, hfree⟩ := hd
  have hfind : w.findGate gate.id = some gate := hgate
  simp only [carryOut, hfind]
  refine ⟨⟨h.tickets, h.gates.remove, ?_⟩, ?_, fun c _ => ⟨Spares.refl c w, trivial⟩⟩
  · intro g hg g' hg' hc hn
    exact h.names g (List.mem_of_mem_filter hg) g' (List.mem_of_mem_filter hg') hc hn
  · intro t ht
    rcases href t ht with hnone | ⟨g, hg, hc, hname⟩
    · exact .inl hnone
    · refine .inr ⟨g, List.mem_filter.mpr ⟨hg, decide_eq_true ?_⟩, hc, hname⟩
      intro he
      have hgg := h.mem_eq hgate hg he
      subst hgg
      exact hfree t ht hc.symm hname

/-! ### Rebalancing -/

/-- A rebalance is poised while it scans. -/
theorem scan_poised {b : Rebalance} {i : Nat} {updated : List (TicketId × String)}
    {rest : List TicketId} (href : Referenced w) (hfits : b.Fits w)
    (hrest : ∀ id ∈ rest, ∀ t ∈ w.tickets, t.id = id → t.concertId = b.concertId)
    (hupdated : ∀ x ∈ updated, b.Update w x) :
    (b.scan i updated rest).Meets (Poised w) fun _ => Referenced w := by
  cases rest with
  | cons ticket rest => exact ⟨href, hfits, hrest, hupdated⟩
  | nil =>
      cases updated with
      | cons x updated => exact ⟨href, hfits, hupdated⟩
      | nil => exact href

/-- It is poised while it moves. -/
theorem update_poised {b : Rebalance} {total : Nat} {rest : List (TicketId × String)}
    (href : Referenced w) (hfits : b.Fits w) (hrest : ∀ x ∈ rest, b.Update w x) :
    (b.update total rest).Meets (Poised w) fun _ => Referenced w := by
  cases rest with
  | cons x rest => exact ⟨href, hfits, hrest⟩
  | nil => exact href

/-- It scans tickets of its own concert. -/
theorem scan_of {c : ConcertId} {b : Rebalance} {i : Nat} {updated : List (TicketId × String)}
    {rest : List TicketId} (hc : b.concertId = c) :
    (b.scan i updated rest).Meets (fun d => d.Of w c) fun _ => True := by
  cases rest with
  | cons ticket rest => exact hc
  | nil =>
      cases updated with
      | cons x updated => exact hc
      | nil => exact hc

/-- It moves tickets of its own concert. -/
theorem update_of {c : ConcertId} {b : Rebalance} {total : Nat} {rest : List (TicketId × String)}
    (hc : b.concertId = c) :
    (b.update total rest).Meets (fun d => d.Of w c) fun _ => True := by
  cases rest with
  | cons x rest => exact hc
  | nil => exact hc

/-- One ticket is signed for a gate of its concert. -/
theorem rebalanceUpdate_proceeds {ch : Choice} {b : Rebalance} {total : Nat}
    {target : TicketId × String} {newGateName : String} {rest : List (TicketId × String)}
    (h : Tables w) (hd : Poised w (.rebalanceUpdate b total target newGateName rest)) :
    Proceeds w (.rebalanceUpdate b total target newGateName rest)
      (carryOut ch w (.rebalanceUpdate b total target newGateName rest)).1
      (carryOut ch w (.rebalanceUpdate b total target newGateName rest)).2 := by
  obtain ⟨href, hfits, hupdates⟩ := hd
  simp only [carryOut]
  split
  · exact h.refuse href _
  next tickets' hsign =>
    obtain ⟨f, hf, rfl⟩ := resign_moved hsign
    obtain ⟨hown, g, hg, rfl⟩ := hupdates _ List.mem_cons_self
    obtain ⟨hmem, hconcert⟩ := hfits g hg
    have hids : ∀ t ∈ w.tickets, t.id ∈ [target.1] → t.concertId = b.concertId :=
      fun t ht hin => hown t ht (List.mem_singleton.mp hin)
    refine ⟨h.moved hf, update_poised ?_ hfits ?_, ?_⟩
    · exact hf.referenced hmem (fun t ht hin => (hids t ht hin).trans hconcert.symm)
        fun t ht _ => href t ht
    · intro x hx
      obtain ⟨hxown, hxgate⟩ := hupdates x (List.mem_cons_of_mem _ hx)
      refine ⟨?_, hxgate⟩
      intro t ht hid
      obtain ⟨y, hy, rfl⟩ := List.mem_map.mp ht
      rw [hf.sameConcert y]
      exact hxown y hy ((hf.sameId y).symm.trans hid)
    · rintro c rfl
      exact ⟨hf.spares hids, update_of rfl⟩

/-! ## One statement -/

/-- An issuing that has drawn its gate is poised. -/
theorem issueAt_poised {order : Order} {gateName : String} {ch : Choice} (href : Referenced w)
    (hdrawn : Drawn w order.concertId gateName) :
    (issueAt order gateName ch w).Meets (Poised w) fun _ => Referenced w := by
  refine ⟨href, ?_⟩
  intro plan hplan
  obtain ⟨x, -, rfl⟩ := List.mem_map.mp hplan
  exact hdrawn

/-- The tickets issued resolve. -/
theorem referenced_issued {w : World} {tickets' : List Ticket} (href : Referenced w)
    (h : Issued w.gates w.tickets tickets') : ∀ t ∈ tickets', Resolves w.gates t :=
  fun t ht => (h.rows t ht).elim (href t) id

/-- **Every statement**, nothing else running, leaves its operation poised and spares
    the other concerts. -/
theorem carryOut_proceeds (ch : Choice) (h : Tables w) (hd : Poised w d) :
    Proceeds w d (carryOut ch w d).1 (carryOut ch w d).2 := by
  cases d with
  | createFind c dto =>
      simp only [carryOut]
      split
      · exact h.refuse hd _
      · exact h.reads hd fun _ => id
  | createInsert c dto =>
      simp only [carryOut]
      split
      · exact h.refuse hd _
      · next w' hw => exact createGate_proceeds h hd hw
  | updateFind id dto =>
      obtain ⟨href, hharm⟩ := hd
      simp only [carryOut]
      split
      · exact h.refuse href _
      next gate hfind =>
        have hid := (findGate_mem hfind).2
        have hgate : HasGate w gate := by
          rw [HasGate, hid]
          exact hfind
        split
        · exact h.reads ⟨href, hgate, hharm gate hfind⟩ fun c hc => hc gate hfind
        · exact h.reads ⟨href, hgate, hharm gate hfind⟩ fun c hc => hc gate hfind
  | updateExisting gate dto newName =>
      simp only [carryOut]
      split
      · exact h.refuse hd.1 _
      · exact h.reads hd fun _ => id
  | updateRow gate dto =>
      simp only [carryOut]
      split
      · exact h.refuse hd.1 _
      · next updated w' hw => exact updateRow_proceeds h hd hw
  | updateFindTickets gate updated newName =>
      obtain ⟨hmem, hat⟩ := hd
      simp only [carryOut]
      split
      -- no ticket carries the old name, so none is left behind by the new one
      · next hnil =>
          refine h.reads ?_ fun _ => id
          intro t ht
          have hout : t.gateId ≠ some gate.name := by
            intro he
            have hin := (h.mem_ticketsAt ht).mpr he
            rw [hnil] at hin
            cases hin
          have := hat t ht
          rwa [if_neg hout] at this
      · refine h.reads ⟨hmem, ticketsAt_exists, ?_⟩ fun _ => id
        intro t ht
        simp only [h.mem_ticketsAt ht]
        exact hat t ht
  | updateSign updated newName targetTickets => exact updateSign_proceeds h hd
  | updateCount updated => exact h.reads hd fun _ _ => trivial
  | removeFind id =>
      obtain ⟨href, hharm⟩ := hd
      simp only [carryOut]
      split
      · exact h.refuse href _
      next gate hfind =>
        have hid := (findGate_mem hfind).2
        have hgate : HasGate w gate := by
          rw [HasGate, hid]
          exact hfind
        exact h.reads ⟨href, hgate, hharm gate hfind⟩ fun c hc => hc gate hfind
  | removeCount gate =>
      simp only [carryOut]
      split
      · exact h.reads hd fun _ => id
      -- nothing to move: the gate goes without its tickets
      · next hnone =>
          refine h.reads ⟨hd.1, hd.2.1, ?_⟩ fun _ => id
          intro t ht _ hat
          refine hnone ?_
          show 0 < (w.ticketsAt gate.name).length
          rw [← List.length_map (f := Prod.fst)]
          exact List.length_pos_of_mem ((h.mem_ticketsAt ht).mpr hat)
  | removeOthers gate =>
      obtain ⟨href, hgate, hharm⟩ := hd
      simp only [carryOut]
      split
      · exact h.refuse href _
      next target others hothers =>
        -- the other gate is found in the concert's own list
        have htarget : target ∈ (w.sortedGates gate.concertId).filter fun g => g.id ≠ gate.id := by
          rw [hothers]
          exact List.mem_cons_self
        obtain ⟨hsorted, hother⟩ := List.mem_filter.mp htarget
        obtain ⟨hmem, hconcert⟩ := mem_sortedGates.mp hsorted
        have hother : target.id ≠ gate.id := of_decide_eq_true hother
        exact h.reads ⟨href, hgate, ⟨target, hmem, hother, hconcert, rfl⟩,
          hharm ⟨target, hmem, hconcert, hother⟩⟩ fun _ => id
  | removeFindTickets gate targetGateName =>
      obtain ⟨href, hgate, htarget, halone⟩ := hd
      exact h.reads ⟨href, hgate, htarget, halone, fun t ht => h.mem_ticketsAt ht⟩ fun _ => id
  | removeSign gate targetGateName targetTickets => exact removeSign_proceeds h hd
  | removeDelete gate => exact removeDelete_proceeds h hd
  | rebalanceConcert c =>
      simp only [carryOut]
      split
      · exact h.reads hd fun _ => id
      · exact h.refuse hd _
  | rebalanceGates c =>
      simp only [carryOut]
      split
      · exact h.refuse hd _
      · exact h.reads ⟨hd, fun g hg => mem_sortedGates.mp hg⟩ fun _ => id
  | rebalanceTickets b =>
      obtain ⟨href, hfits⟩ := hd
      simp only [carryOut]
      split
      · exact h.reads href fun _ _ => trivial
      · refine h.reads (scan_poised href hfits ?_ fun x hx =>
          absurd hx List.not_mem_nil) fun c => scan_of
        -- a ticket of the scan is one of the concert
        intro id hid t ht he
        obtain ⟨x, hx, rfl⟩ := List.mem_map.mp hid
        obtain ⟨hmem, hof⟩ := List.mem_filter.mp hx
        have hfind := RowTable.lookup_of_mem h.tickets ht
        have hfind' := RowTable.lookup_of_mem h.tickets hmem
        rw [he, hfind'] at hfind
        rw [← Option.some.inj hfind]
        exact (of_decide_eq_true hof).1
  | rebalanceScan b i ticket rest updated =>
      obtain ⟨href, hfits, hrest, hupdated⟩ := hd
      have hlater := fun id hid => hrest id (List.mem_cons_of_mem ticket hid)
      simp only [carryOut]
      split
      · exact h.reads (scan_poised href hfits hlater hupdated) fun c => scan_of
      · refine h.reads (scan_poised href hfits hlater ?_) fun c => scan_of
        intro x hx
        rcases List.mem_append.mp hx with hx | hx
        · exact hupdated x hx
        · rw [List.mem_singleton.mp hx]
          exact ⟨hrest ticket List.mem_cons_self, b.newGate i, List.get_mem _ _, rfl⟩
  | rebalanceFind b total ticket newGateName rest =>
      obtain ⟨href, hfits, hupdates⟩ := hd
      simp only [carryOut]
      split
      · exact h.reads (update_poised href hfits fun x hx =>
          hupdates x (List.mem_cons_of_mem _ hx)) fun c => update_of
      · exact h.reads ⟨href, hfits, hupdates⟩ fun _ => id
  | rebalanceUpdate b total target newGateName rest => exact rebalanceUpdate_proceeds h hd
  | rebalanceStats b total => exact h.reads hd fun _ _ => trivial
  | issueGates order =>
      simp only [carryOut]
      split
      · exact h.reads (issueAt_poised hd (.inl rfl)) fun _ hc => False.elim hc
      · exact h.reads ⟨hd, fun g hg => mem_gatesOf.mp hg⟩ fun _ hc => False.elim hc
  | issueCounts order rows =>
      exact h.reads (issueAt_poised hd.1 (drawn_leastLoaded _ hd.2)) fun _ hc => False.elim hc
  | issueCommit order plans =>
      obtain ⟨href, hplans⟩ := hd
      simp only [carryOut]
      split
      · exact h.refuse href _
      next w' hw =>
        simp only [commitSuccess, Option.bind_eq_some_iff, Option.map_eq_some_iff] at hw
        obtain ⟨_, _, tickets, hc, rfl⟩ := hw
        -- each plan names a gate of the concert, or none
        have hissued : Issued w.gates w.tickets tickets := by
          refine createTickets_issued h.tickets ?_ hc
          intro t ht
          obtain ⟨plan, hplan, rfl⟩ := List.mem_map.mp ht
          exact (hplans plan hplan).resolves w.typeName
        have hall := referenced_issued href hissued
        exact ⟨⟨hissued.keyed, h.gates, h.names⟩, hall, fun _ hc => False.elim hc⟩
  | workerFind o =>
      simp only [carryOut]
      split
      · exact h.refuse hd _
      · split
        · exact h.reads hd fun _ hc => False.elim hc
        · split
          · exact h.refuse hd _
          · exact h.reads hd fun _ hc => False.elim hc
  | workerCount order =>
      simp only [carryOut]
      split
      · exact h.reads hd fun _ hc => False.elim hc
      · exact h.reads hd fun _ hc => False.elim hc
  | workerCommit order =>
      simp only [carryOut]
      split
      · exact h.refuse hd _
      next tickets hc =>
        have hissued := commitIssue_issued h.tickets hc
        have hall := referenced_issued hd hissued
        exact ⟨⟨hissued.keyed, h.gates, h.names⟩, hall, fun _ hc => False.elim hc⟩

/-! ## One operation, and a sequence of them -/

/-- No statement fails. -/
def Choice.Calm (ch : Choice) : Prop := ch.fails = false

instance (ch : Choice) : Decidable ch.Calm := inferInstanceAs (Decidable (_ = false))

/-- The tables in order, and every name resolved. -/
structure Tidy (w : World) : Prop where
  tables : Tables w
  referenced : Referenced w

/-- Where an operation stands when nothing else runs. -/
structure Stands (w : World) (prog : Op) : Prop where
  tables : Tables w
  poised : prog.Meets (Poised w) fun _ => Referenced w

/-- A harmless request begins poised. -/
theorem enter_poised {r : Request} (h : Tidy w) (hr : Harmless w r) : Stands w r.enter := by
  refine ⟨h.tables, ?_⟩
  cases r with
  | update id dto => exact ⟨h.referenced, hr⟩
  | remove id => exact ⟨h.referenced, hr⟩
  | _ => exact h.referenced

/-- A request begins with the concert that it is about. -/
theorem enter_of {r : Request} {c : ConcertId} (hc : r.concert w = some c) :
    r.enter.Meets (fun d => d.Of w c) fun _ => True := by
  cases r with
  | create c' dto => exact Option.some.inj hc
  | update id dto =>
      intro gate hgate
      rw [Request.concert, hgate] at hc
      exact Option.some.inj hc
  | remove id =>
      intro gate hgate
      rw [Request.concert, hgate] at hc
      exact Option.some.inj hc
  | rebalance c' => exact Option.some.inj hc
  | webhook order => cases hc
  | job o => cases hc

/-- One turn is one statement, or a batch that is not there. -/
theorem turned_cases {ch : Choice} (hcalm : ch.Calm) {k : Nat} {w w' : World} {prog prog' : Op}
    (h : gates.Turned ch k w prog w' prog') :
    (∃ d, prog = .ask d ∧ (w', prog') = carryOut ch w d) ∨ ∃ hh, prog = .par [] hh prog' ∧ w' = w := by
  cases h with
  | asked d w' prog hdec =>
      refine .inl ⟨d, rfl, ?_⟩
      have hcalm : ch.fails = false := hcalm
      simp only [gates, hcalm, Option.some.injEq] at hdec
      exact hdec.symm
  | settled hh rest => exact .inr ⟨hh, rfl, rfl⟩
  | resolved ts t => exact t.elim
  | wentOn ts t => exact t.elim

/-- A turn keeps every ticket's gate. -/
theorem Stands.turn {ch : Choice} (hcalm : ch.Calm) {k : Nat} {w' : World} {prog prog' : Op}
    (h : Stands w prog) (ht : gates.Turned ch k w prog w' prog') : Stands w' prog' := by
  rcases turned_cases hcalm ht with ⟨d, rfl, he⟩ | ⟨hh, rfl, rfl⟩
  · have hstep := carryOut_proceeds ch h.tables h.poised
    rw [← he] at hstep
    exact ⟨hstep.tables, hstep.poised⟩
  · exact ⟨h.tables, h.poised⟩

/-- **One operation** by itself leaves every name resolved. -/
theorem Tidy.ends {r : Request} {w' : World} {a : Answer} (h : Tidy w) (hr : Harmless w r)
    (hends : gates.Ends Choice.Calm w r.enter w' a) : Tidy w' := by
  have hstands := hends.inv (I := Stands) (enter_poised h hr)
    fun w₁ w₂ prog₁ prog₂ k ch hI hcalm ht => hI.turn hcalm ht
  exact ⟨hstands.tables, hstands.poised⟩

/-- **One gate operation** by itself spares the other concerts. -/
theorem Tidy.spares {r : Request} {w' : World} {a : Answer} {c : ConcertId} (h : Tidy w)
    (hr : Harmless w r) (hc : r.concert w = some c)
    (hends : gates.Ends Choice.Calm w r.enter w' a) : Spares c w w' := by
  have hall := hends.inv
    (I := fun w' prog => Stands w' prog ∧ Spares c w w' ∧
      prog.Meets (fun d => d.Of w' c) fun _ => True)
    ⟨enter_poised h hr, Spares.refl c w, enter_of hc⟩ ?_
  · exact hall.2.1
  rintro w₁ w₂ prog₁ prog₂ k ch ⟨hI, hspares, hof⟩ hcalm ht
  refine ⟨hI.turn hcalm ht, ?_⟩
  rcases turned_cases hcalm ht with ⟨d, rfl, he⟩ | ⟨hh, rfl, rfl⟩
  · have hstep := carryOut_proceeds ch hI.tables hI.poised
    rw [← he] at hstep
    obtain ⟨hs, hof'⟩ := hstep.spares c hof
    exact ⟨hspares.trans hs, hof'⟩
  · exact ⟨hspares, hof⟩

/-- So does what happens beside the requests. -/
theorem Tidy.happen (h : Tidy w) (e : Event) : Tidy (e.happen w) := by
  cases e with
  | concert c => exact ⟨⟨h.tables.tickets, h.tables.gates, h.tables.names⟩, h.referenced⟩
  | orders rows => exact ⟨⟨h.tables.tickets, h.tables.gates, h.tables.names⟩, h.referenced⟩
  | checkIn id now =>
      refine ⟨⟨?_, h.tables.gates, h.tables.names⟩, ?_⟩
      · show (List.map _ (List.map _ _)).Nodup
        rw [List.map_map]
        have hids : ((fun t : Ticket => t.id) ∘ fun t : Ticket =>
            if t.Admits id then { t with toTicket := t.checkIn now } else t) = fun t => t.id := by
          funext t
          simp only [Function.comp]
          split <;> rfl
        rw [hids]
        exact h.tables.tickets
      · intro t ht
        obtain ⟨x, hx, rfl⟩ := List.mem_map.mp ht
        have hres := h.referenced x hx
        split
        · exact hres
        · exact hres

/-- **Gates and the tickets that name them.**  In a sequence of gate operations and
    issuings, each harmless where it starts, every ticket's gate is one of its own
    concert's, and a gate operation changes no ticket of another concert. -/
theorem tickets_referenced {w w' : World} (h : Tidy w)
    (hs : gates.Serial Choice.Calm Harmless w w') :
    (∀ t ∈ w'.tickets, t.gateId = none ∨
      ∃ g ∈ w'.gates, g.concertId = t.concertId ∧ t.gateId = some g.name) ∧
    ∀ (r : Request) (w'' : World) (a : Answer) (c : ConcertId), Harmless w' r →
      r.concert w' = some c → gates.Ends Choice.Calm w' r.enter w'' a →
      ∀ t : Ticket, t.concertId ≠ c → (t ∈ w''.tickets ↔ t ∈ w'.tickets) := by
  have htidy : Tidy w' := by
    refine hs.inv h ?_ fun w₁ e h₁ => h₁.happen e
    intro w₁ w₂ prog a r h₁ hr he hends
    cases he
    exact h₁.ends hr hends
  exact ⟨htidy.referenced, fun r w'' a c hr hc hends => htidy.spares hr hc hends⟩

/-! ### Two concerts with a gate of one name -/

/-- Gate A of concert 1 and gate A of concert 2. -/
def sameNames : World := doors [⟨⟨1, "A"⟩, "g1"⟩, ⟨⟨2, "A"⟩, "g2"⟩]

/-- Two concerts with gates of the same name. -/
theorem sameNames_tidy : Tidy sameNames :=
  ⟨⟨List.nodup_nil, show List.Nodup ["g1", "g2"] by decide, by decide⟩, by decide⟩

/-- The webhook of concert 1's order: its ticket is at gate A. -/
def issueFirst : Request × List (Nat × Choice) :=
  (.webhook (oneTicket 1 1), [(0, {}), (0, drawn "t1" "raw1"), (0, {})])

/-- Gate A of concert 1 is renamed while concert 2 has no ticket at its own gate A. -/
theorem tickets_referenced_renamed :
    ∃ w', gates.Serial Choice.Calm Harmless sameNames w' ∧
      (∃ t ∈ w'.tickets, t.gateId = some "C") ∧ ∀ t ∈ w'.tickets, t.gateId = none ∨
        ∃ g ∈ w'.gates, g.concertId = t.concertId ∧ t.gateId = some g.name := by
  obtain ⟨w', hs, ht⟩ := exists_serial gates Choice.Calm Harmless (w := sameNames)
    [issueFirst, (.update "g1" ⟨some "C"⟩, List.replicate 6 (0, {}))]
    (fun w' => ∃ t ∈ w'.tickets, t.gateId = some "C") (by decide +kernel)
  exact ⟨w', hs, ht, (tickets_referenced sameNames_tidy hs).1⟩

/-- Gate A of concert 2 is renamed: the ticket of concert 1 is moved along, to a gate
    its concert does not have. -/
theorem rename_moves_other_concert :
    ∃ w₁, gates.Serial Choice.Calm (fun _ _ => True) sameNames w₁ ∧
      ∃ w₂ a, gates.Ends Choice.Calm w₁ (Request.update "g2" ⟨some "B"⟩).enter w₂ a ∧
        (Request.update "g2" ⟨some "B"⟩).concert w₁ = some 2 ∧
        (∃ t ∈ w₁.tickets, t.concertId = 1 ∧ t ∉ w₂.tickets) ∧
        ¬ ∀ t ∈ w₂.tickets, t.gateId = none ∨
          ∃ g ∈ w₂.gates, g.concertId = t.concertId ∧ t.gateId = some g.name := by
  let cs : List (Nat × Choice) := List.replicate 6 (0, {})
  obtain ⟨w₁, hs, hw₁⟩ := exists_serial gates Choice.Calm (fun _ _ => True) (w := sameNames)
    [issueFirst]
    (fun w₁ => (Request.update "g2" ⟨some "B"⟩).concert w₁ = some 2 ∧
      (gates.turns w₁ (Request.update "g2" ⟨some "B"⟩).enter cs).any (fun x =>
        x.2.2.answer.any fun _ => decide ((∃ t ∈ w₁.tickets, t.concertId = 1 ∧ t ∉ x.2.1.tickets) ∧
          ¬ Referenced x.2.1)) = true) (by decide +kernel)
  obtain ⟨w₂, a, hends, hP⟩ := exists_ends gates Choice.Calm cs
    (fun w₂ _ => (∃ t ∈ w₁.tickets, t.concertId = 1 ∧ t ∉ w₂.tickets) ∧ ¬ Referenced w₂)
    (by decide) hw₁.2
  exact ⟨w₁, hs, w₂, a, hends, hw₁.1, hP⟩

end TicketGates
