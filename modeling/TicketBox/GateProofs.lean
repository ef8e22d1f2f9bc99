import TicketBox.GateService

/-! # Signatures stay valid

    Whatever writes `gateId` writes with it the signature over the id and the token
    hash of the same row: a rename, a removal and a rebalance over what they read
    of the row before, an issuing over what it has drawn.  Ids and token hashes
    never change, so what was read before still is the row's. -/

namespace TicketGates

open Interleave
open TicketCheckin (TicketId QrConfig CheckinLog VerifyTicketDto SyncCheckinRecordDto
  recomputeSignature SignatureMismatch GateMismatch verifyChecks syncChecks CheckinStatus)
open TicketStore (UserId Order OrderItem)
open TicketDb (gateIdOf leastLoadedGateName)

/-! ## The invariant -/

/-- The signature is the HMAC of id, token hash and gate name. -/
def Ticket.Signed (config : QrConfig) (t : Ticket) : Prop :=
  t.qrSignature = some (recomputeSignature config t.id t.qrTokenHash (t.gateId.getD ""))

/-- Tickets with their ids, their signatures and the hashes of their own tokens. -/
structure Sound (config : QrConfig) (tickets : List Ticket) : Prop where
  keyed : RowTable.Keyed (fun t : Ticket => t.id) tickets
  signed : ∀ t ∈ tickets, t.Signed config
  hashed : ∀ t ∈ tickets, t.qrTokenHash = config.sha256 t.qrRawToken

/-- A ticket has this id and this token hash. -/
def HasRow (tickets : List Ticket) (x : TicketId × String) : Prop :=
  ∃ t ∈ tickets, t.id = x.1 ∧ t.qrTokenHash = x.2

/-- What was drawn for a ticket is signed. -/
def Plan.Signed (config : QrConfig) (plan : Plan) : Prop :=
  plan.qrTokenHash = config.sha256 plan.rawToken ∧
    plan.qrSignature = recomputeSignature config plan.ticketId plan.qrTokenHash plan.gateName

/-- What a statement still relies on. -/
def Reads (w : World) : Ask → Prop
  | .updateSign _ _ targetTickets | .removeSign _ _ targetTickets =>
      ∀ x ∈ targetTickets, HasRow w.tickets x
  | .rebalanceUpdate _ _ target _ _ => HasRow w.tickets target
  | .issueCommit _ plans => ∀ plan ∈ plans, plan.Signed w.config
  | _ => True

/-- The tickets in order, and rows never lost. -/
structure Grown (config : QrConfig) (tickets tickets' : List Ticket) : Prop where
  sound : Sound config tickets'
  rows : ∀ x, HasRow tickets x → HasRow tickets' x

/-- A sound table has grown into itself. -/
theorem Sound.grown {config : QrConfig} {tickets : List Ticket} (h : Sound config tickets) :
    Grown config tickets tickets :=
  ⟨h, fun _ => id⟩

/-- Growing twice. -/
theorem Grown.trans {config : QrConfig} {tickets tickets' tickets'' : List Ticket}
    (h : Grown config tickets tickets') (h' : Grown config tickets' tickets'') :
    Grown config tickets tickets'' :=
  ⟨h'.sound, fun x hx => h'.rows x (h.rows x hx)⟩

/-! ## Signing again -/

/-- What is written is what the check recomputes. -/
theorem newSignature_eq (config : QrConfig) (id : TicketId) (qrTokenHash gateName : String) :
    newSignature config id qrTokenHash gateName =
      recomputeSignature config id qrTokenHash gateName := rfl

/-- A table whose rows keep ids, tokens and token hashes. -/
theorem Sound.map {config : QrConfig} {tickets : List Ticket} {f : Ticket → Ticket}
    (h : Sound config tickets) (hid : ∀ t ∈ tickets, (f t).id = t.id)
    (hhash : ∀ t ∈ tickets, (f t).qrTokenHash = t.qrTokenHash)
    (hraw : ∀ t ∈ tickets, (f t).qrRawToken = t.qrRawToken)
    (hsigned : ∀ t ∈ tickets, (f t).Signed config) : Grown config tickets (tickets.map f) := by
  refine ⟨⟨?_, ?_, ?_⟩, ?_⟩
  · have hkeys : (tickets.map f).map (fun t : Ticket => t.id) = tickets.map fun t => t.id := by
      rw [List.map_map]
      exact List.map_congr_left hid
    rw [RowTable.Keyed, hkeys]
    exact h.keyed
  · exact List.forall_mem_map.mpr hsigned
  · refine List.forall_mem_map.mpr fun t ht => ?_
    rw [hhash t ht, hraw t ht]
    exact h.hashed t ht
  · rintro x ⟨t, ht, hx1, hx2⟩
    exact ⟨f t, List.mem_map_of_mem ht, (hid t ht).trans hx1, (hhash t ht).trans hx2⟩

/-- Re-signing keeps signatures valid. -/
theorem resign_grown {config : QrConfig} {gateName : String} {target : TicketId × String}
    {tickets tickets' : List Ticket} (h : Sound config tickets) (htarget : HasRow tickets target)
    (hr : resign config gateName target tickets = some tickets') :
    Grown config tickets tickets' := by
  obtain ⟨row, hrow, hid, hhash⟩ := htarget
  simp only [resign, Option.map_eq_some_iff] at hr
  obtain ⟨_, _, rfl⟩ := hr
  have hsame : ∀ t ∈ tickets, t.id = target.1 → t.qrTokenHash = target.2 := by
    intro t ht he
    -- the row read before is the only one with its id
    have hfind := RowTable.lookup_of_mem h.keyed ht
    have hfind' := RowTable.lookup_of_mem h.keyed hrow
    rw [he, ← hid, hfind'] at hfind
    rw [← Option.some.inj hfind]
    exact hhash
  refine h.map ?_ ?_ ?_ ?_
  · intro t _
    split <;> rfl
  · intro t _
    split <;> rfl
  · intro t _
    split <;> rfl
  · intro t ht
    split
    · next he =>
        show some (newSignature config target.1 target.2 gateName) = _
        rw [newSignature_eq, ← he, ← hsame t ht he]
        rfl
    · exact h.signed t ht

/-- So does re-signing a list. -/
theorem resignAll_grown {config : QrConfig} {gateName : String}
    {targets : List (TicketId × String)} :
    ∀ {tickets tickets' : List Ticket}, Sound config tickets →
      (∀ x ∈ targets, HasRow tickets x) →
      resignAll config gateName targets tickets = some tickets' →
      Grown config tickets tickets' := by
  induction targets with
  | nil =>
      intro tickets tickets' h _ hr
      cases hr
      exact h.grown
  | cons target targets ih =>
      intro tickets tickets' h htargets hr
      obtain ⟨mid, hmid, hrest⟩ := Option.bind_eq_some_iff.mp hr
      have hfirst := resign_grown h (htargets target List.mem_cons_self) hmid
      exact hfirst.trans (ih hfirst.sound
        (fun x hx => hfirst.rows x (htargets x (List.mem_cons_of_mem _ hx))) hrest)

/-! ## Issuing -/

/-- A gate without a name is signed as the empty text. -/
theorem gateIdOf_getD (gateName : String) : (gateIdOf gateName).getD "" = gateName := by
  unfold gateIdOf
  split
  · next h => exact h.symm
  · rfl

/-- A planned ticket is signed. -/
theorem planTicket_signed (config : QrConfig) (gateName : String) (item : OrderItem)
    (ticketId : TicketId) (rawToken : String) :
    (planTicket config gateName item ticketId rawToken).Signed config :=
  ⟨rfl, rfl⟩

/-- So is every ticket of a plan. -/
theorem planTickets_signed (config : QrConfig) (gateName : String) (uuid : Nat → String)
    (items : List OrderItem) : ∀ plan ∈ planTickets config gateName uuid items,
      plan.Signed config := by
  intro plan hplan
  obtain ⟨x, -, rfl⟩ := List.mem_map.mp hplan
  exact planTicket_signed _ _ _ _ _

/-- A new ticket keeps signatures valid. -/
theorem createTicket_grown {config : QrConfig} {typeName : TicketStore.TicketTypeId → String}
    {order : Order} {plan : Plan} {tickets tickets' : List Ticket} (h : Sound config tickets)
    (hplan : plan.Signed config)
    (hc : createTicket (ticketOf typeName order plan) tickets = some tickets') :
    Grown config tickets tickets' := by
  simp only [createTicket] at hc
  split at hc
  · cases hc
  next hfree =>
    cases hc
    have hnew : (ticketOf typeName order plan).Signed config := by
      show some plan.qrSignature = some (recomputeSignature config plan.ticketId plan.qrTokenHash
        ((gateIdOf plan.gateName).getD ""))
      rw [hplan.2, gateIdOf_getD]
    refine ⟨⟨?_, ?_, ?_⟩, ?_⟩
    · refine h.keyed.append (RowTable.lookup_eq_none.mpr fun t ht he => hfree ⟨t, ht, .inl he⟩)
    · intro t ht
      rcases List.mem_append.mp ht with ht | ht
      · exact h.signed t ht
      · rw [List.mem_singleton.mp ht]
        exact hnew
    · intro t ht
      rcases List.mem_append.mp ht with ht | ht
      · exact h.hashed t ht
      · rw [List.mem_singleton.mp ht]
        exact hplan.1
    · rintro x ⟨t, ht, hx⟩
      exact ⟨t, List.mem_append_left _ ht, hx⟩

/-- So do several. -/
theorem createTickets_grown {config : QrConfig} {typeName : TicketStore.TicketTypeId → String}
    {order : Order} {plans : List Plan} :
    ∀ {tickets tickets' : List Ticket}, Sound config tickets →
      (∀ plan ∈ plans, plan.Signed config) →
      createTickets (plans.map (ticketOf typeName order)) tickets = some tickets' →
      Grown config tickets tickets' := by
  induction plans with
  | nil =>
      intro tickets tickets' h _ hc
      cases hc
      exact h.grown
  | cons plan plans ih =>
      intro tickets tickets' h hplans hc
      obtain ⟨mid, hmid, hrest⟩ := Option.bind_eq_some_iff.mp hc
      have hfirst := createTicket_grown h (hplans plan List.mem_cons_self) hmid
      exact hfirst.trans (ih hfirst.sound
        (fun x hx => hplans x (List.mem_cons_of_mem _ hx)) hrest)

/-- So does the worker's transaction. -/
theorem commitIssue_grown {w : World} {order : Order} {uuid : Nat → String}
    {units : List (OrderItem × Nat)} :
    ∀ {tickets tickets' : List Ticket}, Sound w.config tickets →
      commitIssue w order uuid units tickets = some tickets' →
      Grown w.config tickets tickets' := by
  induction units with
  | nil =>
      intro tickets tickets' h hc
      cases hc
      exact h.grown
  | cons unit units ih =>
      intro tickets tickets' h hc
      obtain ⟨mid, hmid, hrest⟩ := Option.bind_eq_some_iff.mp hc
      have hfirst := createTicket_grown h (planTicket_signed _ _ _ _ _) hmid
      exact hfirst.trans (ih hfirst.sound hrest)

/-! ## Statements -/

/-- What a statement keeps: the secret, the tickets in order, and what the rest of
    its operation relies on. -/
structure Keeps (w w' : World) (prog : Op) : Prop where
  config : w'.config = w.config
  grown : Grown w.config w.tickets w'.tickets
  reads : prog.Meets (Reads w') fun _ => True

/-- A call that writes nothing keeps signatures valid. -/
theorem Sound.keeps {w : World} {prog : Op} (h : Sound w.config w.tickets)
    (hprog : prog.Meets (Reads w) fun _ => True) : Keeps w w prog :=
  ⟨rfl, h.grown, hprog⟩

/-- So does an exception. -/
theorem Sound.refuse {w : World} (h : Sound w.config w.tickets) (e : GateError) :
    Keeps w (refuse w e).1 (refuse w e).2 :=
  h.keeps trivial

/-- A rebalance has read the tickets that it scans. -/
theorem scan_reads (w : World) (b : Rebalance) (i : Nat) (updated : List (TicketId × String))
    (rest : List TicketId) : (b.scan i updated rest).Meets (Reads w) fun _ => True := by
  cases rest with
  | cons ticket rest => trivial
  | nil =>
      cases updated with
      | cons x updated => trivial
      | nil => trivial

/-- It has read the tickets that it moves. -/
theorem update_reads (w : World) (b : Rebalance) (total : Nat) (rest : List (TicketId × String)) :
    (b.update total rest).Meets (Reads w) fun _ => True := by
  cases rest with
  | cons x rest => trivial
  | nil => trivial

/-- A plan is made of what was read. -/
theorem issueAt_reads (order : Order) (gateName : String) (ch : Choice) (w : World) :
    (issueAt order gateName ch w).Meets (Reads w) fun _ => True :=
  planTickets_signed w.config gateName ch.uuid order.items

/-- The ticket that is found is a row. -/
theorem findTicket_mem {w : World} {id : TicketId} {t : Ticket} (h : w.findTicket id = some t) :
    t ∈ w.tickets :=
  RowTable.lookup_mem h

/-- It has the id that was asked for. -/
theorem findTicket_id {w : World} {id : TicketId} {t : Ticket} (h : w.findTicket id = some t) :
    t.id = id := by
  have hkey := List.find?_some h
  exact of_decide_eq_true hkey

/-- What `ticketsAt` reads are rows. -/
theorem ticketsAt_rows (w : World) (gateName : String) :
    ∀ x ∈ w.ticketsAt gateName, HasRow w.tickets x := by
  intro x hx
  obtain ⟨t, ht, rfl⟩ := List.mem_map.mp hx
  exact ⟨t, (List.mem_filter.mp ht).1, rfl, rfl⟩

/-- **Every statement** keeps the signatures, and leaves its operation with rows that
    are there. -/
theorem carryOut_keeps (ch : Choice) {w : World} {d : Ask} (h : Sound w.config w.tickets)
    (hd : Reads w d) : Keeps w (carryOut ch w d).1 (carryOut ch w d).2 := by
  cases d with
  | createFind c dto =>
      simp only [carryOut]
      split
      · exact h.refuse _
      · exact h.keeps trivial
  -- a gate more: no ticket is written
  | createInsert c dto =>
      simp only [carryOut, createGate]
      split
      · exact h.refuse _
      · next w' hw =>
          split at hw
          · cases hw
            exact ⟨rfl, h.grown, trivial⟩
          · cases hw
  | updateFind id dto =>
      simp only [carryOut]
      split
      · exact h.refuse _
      · split
        · exact h.keeps trivial
        · exact h.keeps trivial
  | updateExisting gate dto newName =>
      simp only [carryOut]
      split
      · exact h.refuse _
      · exact h.keeps trivial
  | updateRow gate dto =>
      simp only [carryOut]
      split
      · exact h.refuse _
      · next updated w' hw =>
          simp only [updateGate, Option.bind_eq_some_iff] at hw
          obtain ⟨_, _, hw⟩ := hw
          split at hw
          · cases hw
          · cases hw
            refine ⟨rfl, h.grown, ?_⟩
            unfold afterUpdate
            split
            · trivial
            · trivial
  -- what is read here is what the transaction writes
  | updateFindTickets gate updated newName =>
      simp only [carryOut]
      split
      · exact h.keeps trivial
      · exact h.keeps (ticketsAt_rows w gate.name)
  -- tickets moved to the new name are signed again
  | updateSign updated newName targetTickets =>
      simp only [carryOut]
      split
      · exact h.refuse _
      · next tickets hr => exact ⟨rfl, resignAll_grown h hd hr, trivial⟩
  | updateCount updated => exact h.keeps trivial
  | removeFind id =>
      simp only [carryOut]
      split
      · exact h.refuse _
      · exact h.keeps trivial
  | removeCount gate =>
      simp only [carryOut]
      split
      · exact h.keeps trivial
      · exact h.keeps trivial
  | removeOthers gate =>
      simp only [carryOut]
      split
      · exact h.refuse _
      · exact h.keeps trivial
  | removeFindTickets gate targetGateName => exact h.keeps (ticketsAt_rows w gate.name)
  | removeSign gate targetGateName targetTickets =>
      simp only [carryOut]
      split
      · exact h.refuse _
      · next tickets hr => exact ⟨rfl, resignAll_grown h hd hr, trivial⟩
  | removeDelete gate =>
      simp only [carryOut]
      split
      · exact h.refuse _
      · exact ⟨rfl, h.grown, trivial⟩
  | rebalanceConcert c =>
      simp only [carryOut]
      split
      · exact h.keeps trivial
      · exact h.refuse _
  | rebalanceGates c =>
      simp only [carryOut]
      split
      · exact h.refuse _
      · exact h.keeps trivial
  | rebalanceTickets b =>
      simp only [carryOut]
      split
      · exact h.keeps trivial
      · exact h.keeps (scan_reads _ _ _ _ _)
  | rebalanceScan b i ticket rest updated =>
      simp only [carryOut]
      split
      · exact h.keeps (scan_reads _ _ _ _ _)
      · exact h.keeps (scan_reads _ _ _ _ _)
  | rebalanceFind b total ticket newGateName rest =>
      simp only [carryOut]
      split
      · exact h.keeps (update_reads _ _ _ _)
      · next t ht => exact h.keeps ⟨t, findTicket_mem ht, findTicket_id ht, rfl⟩
  -- one ticket, read by the call before
  | rebalanceUpdate b total target newGateName rest =>
      simp only [carryOut]
      split
      · exact h.refuse _
      · next tickets hr => exact ⟨rfl, resign_grown h hd hr, update_reads _ _ _ _⟩
  | rebalanceStats b total => exact h.keeps trivial
  | issueGates order =>
      simp only [carryOut]
      split
      · exact h.keeps (issueAt_reads _ _ _ _)
      · exact h.keeps trivial
  | issueCounts order gates => exact h.keeps (issueAt_reads _ _ _ _)
  -- new tickets are signed as they are made
  | issueCommit order plans =>
      simp only [carryOut]
      split
      · exact h.refuse _
      · next w' hw =>
          simp only [commitSuccess, Option.bind_eq_some_iff, Option.map_eq_some_iff] at hw
          obtain ⟨_, _, tickets, hc, rfl⟩ := hw
          exact ⟨rfl, createTickets_grown h hd hc, trivial⟩
  | workerFind o =>
      simp only [carryOut]
      split
      · exact h.refuse _
      · split
        · exact h.keeps trivial
        · split
          · exact h.refuse _
          · exact h.keeps trivial
  | workerCount order =>
      simp only [carryOut]
      split
      · exact h.keeps trivial
      · exact h.keeps trivial
  | workerCommit order =>
      simp only [carryOut]
      split
      · exact h.refuse _
      · next tickets hc => exact ⟨rfl, commitIssue_grown h hc, trivial⟩

/-- Nothing another service writes changes a signature or what it covers. -/
theorem happen_keeps {w : World} (h : Sound w.config w.tickets) (e : Event) :
    Keeps w (e.happen w) (.ret .detached) := by
  cases e with
  | concert c => exact ⟨rfl, h.grown, trivial⟩
  | orders rows => exact ⟨rfl, h.grown, trivial⟩
  | checkIn id now =>
      refine ⟨rfl, h.map ?_ ?_ ?_ ?_, trivial⟩
      · intro t _
        split <;> rfl
      · intro t _
        split <;> rfl
      · intro t _
        split <;> rfl
      · intro t ht
        split
        · exact h.signed t ht
        · exact h.signed t ht

/-- What a statement relies on, it still finds after another one. -/
theorem Keeps.stable {w w' : World} {prog : Op} (h : Keeps w w' prog) {d : Ask}
    (hd : Reads w d) : Reads w' d := by
  cases d with
  | updateSign _ _ targetTickets => exact fun x hx => h.grown.rows x (hd x hx)
  | removeSign _ _ targetTickets => exact fun x hx => h.grown.rows x (hd x hx)
  | rebalanceUpdate _ _ target _ _ => exact h.grown.rows target hd
  | issueCommit _ plans =>
      intro plan hplan
      rw [h.config]
      exact hd plan hplan
  | _ => trivial

/-! ## Runs -/

/-- A condition on the steps of the gates. -/
abbrev Condition := Guard World Ask Empty Answer Choice Request Event

/-- The doors open: whatever gates, and tickets in order. -/
structure Opening (p : State) : Prop where
  ops : p.ops = []
  sound : Sound p.world.config p.world.tickets

/-- The invariant of the pool. -/
structure Valid (p : State) : Prop where
  sound : Sound p.world.config p.world.tickets
  reads : ∀ prog ∈ p.ops, prog.Meets (Reads p.world) fun _ => True

/-- Every call keeps signatures valid. -/
theorem decide_keeps {ch : Choice} {w w' : World} {d : Ask} {prog : Op}
    (h : Sound w.config w.tickets) (hd : Reads w d)
    (hdec : gates.decide ch w d = some (w', prog)) : Keeps w w' prog := by
  simp only [gates, Option.some.injEq] at hdec
  split at hdec
  · cases hdec
    exact h.keeps trivial
  · have hkeeps := carryOut_keeps ch h hd
    rw [hdec] at hkeeps
    exact hkeeps

/-- An operation has read nothing when it begins. -/
theorem enter_reads (w : World) (r : Request) :
    r.enter.Meets (Reads w) fun _ => True := by
  cases r <;> trivial

/-- **One step** keeps the invariant. -/
theorem Valid.step {G : Condition} {p q : State} (h : Valid p) (hs : gates.Step G p q) :
    Valid q := by
  have hsound : Sound q.world.config q.world.tickets := by
    refine hs.world (I := fun w => Sound w.config w.tickets) h.sound ?_ ?_ ?_
    · intro ch d w' prog hmem _ hdec
      have hkeeps := decide_keeps h.sound (h.reads _ hmem) hdec
      rw [hkeeps.config]
      exact hkeeps.grown.sound
    · intro ch t
      exact nomatch t
    · intro e _
      have hkeeps := happen_keeps h.sound e
      show Sound (e.happen p.world).config (e.happen p.world).tickets
      rw [hkeeps.config]
      exact hkeeps.grown.sound
  refine ⟨hsound, hs.meets (K := fun _ _ => True) h.reads ?_ ?_ ?_⟩
  · intro r prog _ he
    cases he
    exact enter_reads _ r
  · intro ch d w' prog _ hd _ hdec
    have hkeeps := decide_keeps h.sound hd hdec
    exact ⟨hkeeps.reads, fun _ hd' => hkeeps.stable hd', fun _ => id⟩
  · intro e _
    exact ⟨fun _ hd' => (happen_keeps h.sound e).stable hd', fun _ => id⟩

/-- Signatures are valid in every run. -/
theorem Opening.valid {G : Condition} {p q : State} (hp : Opening p) (hr : gates.Run G p q) :
    Valid q := by
  refine hr.inv (fun p q h hs => h.step hs) ⟨hp.sound, ?_⟩
  rw [hp.ops]
  exact nofun

/-- The tables check-in reads. -/
def World.checkinDb (logs : List CheckinLog) (w : World) : TicketCheckin.Db :=
  ⟨w.tickets.map Ticket.toTicket, logs⟩

/-- Check-in finds the ticket as the gates wrote it. -/
theorem Sound.findTicket {w : World} (h : Sound w.config w.tickets) (logs : List CheckinLog)
    {t : Ticket} (ht : t ∈ w.tickets) :
    TicketCheckin.findTicket t.id (w.checkinDb logs) = some t.toTicket := by
  refine RowTable.lookup_of_mem ?_ (List.mem_map_of_mem ht)
  show (List.map _ (List.map _ _)).Nodup
  rw [List.map_map]
  exact h.keyed

/-- A signed ticket is not rejected for its signature. -/
theorem Ticket.Signed.matches {config : QrConfig} {t : Ticket} (h : t.Signed config) :
    ¬ SignatureMismatch config t.toTicket := by
  rintro ⟨-, hne⟩
  exact hne h.symm

/-- Its own token passes every check of a ticket but the gate's. -/
theorem Sound.verifyChecks {w : World} (h : Sound w.config w.tickets) {t : Ticket}
    (ht : t ∈ w.tickets) {dto : VerifyTicketDto} (htoken : dto.token = t.qrRawToken)
    (staffId : UserId) :
    TicketCheckin.verifyChecks w.config dto staffId (some t.toTicket) = .ok t.toTicket ∨
      GateMismatch dto.gateId t.gateId ∧ ∃ params e,
        TicketCheckin.verifyChecks w.config dto staffId (some t.toTicket) = .error (params, e) ∧
          params.status = .gateMismatch := by
  have hsigned := (h.signed t ht).matches
  have hhash : t.qrTokenHash = w.config.sha256 dto.token := htoken ▸ h.hashed t ht
  by_cases hgate : GateMismatch dto.gateId t.gateId
  · exact .inr ⟨hgate, _, _, if_pos hgate, rfl⟩
  · left
    simp only [TicketCheckin.verifyChecks]
    rw [if_neg hgate, if_neg hsigned, if_neg (not_not.mpr hhash)]

/-- A delivery at another gate is turned away for the gate. -/
theorem Sound.syncChecks {w : World} (h : Sound w.config w.tickets) {t : Ticket}
    (ht : t ∈ w.tickets) {record : SyncCheckinRecordDto} (htoken : record.token = t.qrRawToken)
    (staffId : UserId) :
    TicketCheckin.syncChecks w.config record staffId (some t.toTicket) = .ok t.toTicket ∨
      GateMismatch record.gateId t.gateId ∧ ∃ params result,
        TicketCheckin.syncChecks w.config record staffId (some t.toTicket) =
            .error (params, result) ∧
          params.status = .gateMismatch := by
  have hsigned := (h.signed t ht).matches
  have hhash : t.qrTokenHash = w.config.sha256 record.token := htoken ▸ h.hashed t ht
  by_cases hgate : GateMismatch record.gateId t.gateId
  · exact .inr ⟨hgate, _, _, if_pos hgate, rfl⟩
  · left
    simp only [TicketCheckin.syncChecks]
    rw [if_neg hgate, if_neg hsigned, if_neg (not_not.mpr hhash)]

/-- **Signatures stay valid.**  After every interleaving of issuing, gate operations,
    check-ins and failures, every ticket carries the HMAC of its current row, and no
    check of check-in but the gate's rejects the ticket's own token. -/
theorem signatures_valid {p q : State} (hp : Opening p) (hr : gates.Run Guard.any p q)
    {t : Ticket} (ht : t ∈ q.world.tickets) :
    t.qrSignature =
        some (recomputeSignature q.world.config t.id t.qrTokenHash (t.gateId.getD "")) ∧
      (∀ (logs : List CheckinLog) (dto : VerifyTicketDto) (staffId : UserId),
        dto.ticketId = t.id → dto.token = t.qrRawToken →
        let checked := verifyChecks q.world.config dto staffId
          (TicketCheckin.findTicket dto.ticketId (q.world.checkinDb logs))
        checked = .ok t.toTicket ∨ GateMismatch dto.gateId t.gateId ∧
          ∃ params e, checked = .error (params, e) ∧ params.status = .gateMismatch) ∧
      (∀ (logs : List CheckinLog) (record : SyncCheckinRecordDto) (staffId : UserId),
        record.ticketId = t.id → record.token = t.qrRawToken →
        let checked := syncChecks q.world.config record staffId
          (TicketCheckin.findTicket record.ticketId (q.world.checkinDb logs))
        checked = .ok t.toTicket ∨ GateMismatch record.gateId t.gateId ∧
          ∃ params result, checked = .error (params, result) ∧ params.status = .gateMismatch) := by
  have h := (hp.valid hr).sound
  refine ⟨h.signed t ht, ?_, ?_⟩
  · intro logs dto staffId hid htoken
    rw [hid, h.findTicket logs ht]
    exact h.verifyChecks ht htoken staffId
  · intro logs record staffId hid htoken
    rw [hid, h.findTicket logs ht]
    exact h.syncChecks ht htoken staffId

/-! ### One ticket through a rename -/

/-- An order of one ticket at a concert. -/
def oneTicket (o : TicketStore.OrderId) (c : TicketStore.ConcertId) : Order where
  id := o
  userId := 1
  concertId := c
  status := .pendingPayment
  totalAmountInVnd := 100
  expiresAt := none
  paidAt := none
  cancelledAt := none
  inventoryReleasedAt := none
  releaseReason := none
  items := [⟨(o, 0), 1, 1, Int.one_pos, 100, 100⟩]

/-- Concerts 1 and 2 with gates, each with an order to be paid. -/
def doors (gateRows : List Gate) : World where
  config := ⟨fun s => "sha" ++ s, fun k s => k ++ "/" ++ s, "key"⟩
  collate := fun _ _ => true
  typeName := fun _ => "VIP"
  concerts := [1, 2]
  gates := gateRows
  tickets := []
  orders := [oneTicket 1 1, oneTicket 2 2]

/-- A concert with gates and no tickets is a start. -/
theorem doors_opening (gateRows : List Gate) : Opening ⟨doors gateRows, []⟩ :=
  ⟨rfl, ⟨List.nodup_nil, nofun, nofun⟩⟩

/-- The ticket's id and token. -/
def drawn (id rawToken : String) : Choice := ⟨false, fun k => if k = 0 then id else rawToken⟩

/-- A ticket issued at gate A and its gate renamed to C. -/
theorem signatures_valid_renamed :
    ∃ q, gates.Run Guard.any ⟨doors [⟨⟨1, "A"⟩, "g1"⟩], []⟩ q ∧
      ∃ t ∈ q.world.tickets, t.gateId = some "C" ∧ t.qrSignature =
        some (recomputeSignature q.world.config t.id t.qrTokenHash (t.gateId.getD "")) := by
  obtain ⟨q, hr, t, ht, hgate⟩ := exists_run (S := gates) (G := Guard.any)
    (p := ⟨doors [⟨⟨1, "A"⟩, "g1"⟩], []⟩)
    [.start (.webhook (oneTicket 1 1)), .start (.update "g1" ⟨some "C"⟩),
      .step 0 0 {}, .step 0 0 (drawn "t1" "raw1"), .step 0 0 {},
      .step 1 0 {}, .step 1 0 {}, .step 1 0 {}, .step 1 0 {}, .step 1 0 {}, .step 1 0 {}]
    (fun q => ∃ t ∈ q.world.tickets, t.gateId = some "C") (by decide +kernel)
  exact ⟨q, hr, t, ht, hgate, (signatures_valid (doors_opening _) hr ht).1⟩

end TicketGates
