import TicketBox.AgreeProofs
import TicketBox.GateProofs
import TicketBox.MyTickets

/-! # From the customer's screen through the gate

    A code is shown at one moment and scanned at a later one.  In between its ticket may
    have been moved to another gate or been checked in, while other operations of
    `gate.service.ts` stand halfway.  `shown_code_admits` says what the scan comes to: the
    id and the token of the code never grow old, its gate name only has to be there, and
    the gate that counts is the one of the row as it is now.

    The scan runs undisturbed, on a device that is online. -/

namespace MyTickets

open Interleave
open TicketStore (UserId Order OrderItem)
open TicketCheckin (TicketId QrConfig CheckinLog DeviceId EventId GateMismatch Verdict
  verifyAndCheckin verifyAnswer scanRule)
open TicketGates (Opening Sound HasRow gates resign resignAll createTicket createTickets ticketOf
  commitIssue planTicket planTickets Plan)
open TicketQr (QrTicket IsUuid trimEnd offlineCheckin_qrPayload)
open CheckinPwa

/-! ## Random ids -/

/-- The steps draw their ids by `randomUUID`. -/
def drawsUuids : TicketGates.Condition where
  req _ _ := True
  ask _ ch _ := ∀ k, IsUuid (ch.uuid k)
  task _ _ _ := True
  env _ _ := True

/-- Every id and every token is a UUID. -/
def Random (tickets : List TicketGates.Ticket) : Prop :=
  ∀ t ∈ tickets, IsUuid t.id ∧ IsUuid t.qrRawToken

/-- So is what has been drawn for an order. -/
def RandomPlans : TicketGates.Ask → Prop
  | .issueCommit _ plans => ∀ plan ∈ plans, IsUuid plan.ticketId ∧ IsUuid plan.rawToken
  | _ => True

/-- Re-signing leaves ids and secrets alone. -/
theorem resign_random {config : QrConfig} {gateName : String} {target : TicketId × String}
    {tickets tickets' : List TicketGates.Ticket} (h : Random tickets)
    (hr : resign config gateName target tickets = some tickets') : Random tickets' := by
  simp only [resign, Option.map_eq_some_iff] at hr
  obtain ⟨_, -, rfl⟩ := hr
  intro t ht
  obtain ⟨t₀, ht₀, rfl⟩ := RowTable.mem_modify ht
  split
  · exact h t₀ ht₀
  · exact h t₀ ht₀

/-- So does re-signing a list. -/
theorem resignAll_random {config : QrConfig} {gateName : String}
    {targets : List (TicketId × String)} :
    ∀ {tickets tickets' : List TicketGates.Ticket}, Random tickets →
      resignAll config gateName targets tickets = some tickets' → Random tickets' := by
  induction targets with
  | nil =>
      intro tickets tickets' h hr
      cases hr
      exact h
  | cons target targets ih =>
      intro tickets tickets' h hr
      obtain ⟨mid, hmid, hrest⟩ := Option.bind_eq_some_iff.mp hr
      exact ih (resign_random h hmid) hrest

/-- A ticket with drawn uuids keeps the table random. -/
theorem createTicket_random {t : TicketGates.Ticket} {tickets tickets' : List TicketGates.Ticket}
    (h : Random tickets) (ht : IsUuid t.id ∧ IsUuid t.qrRawToken)
    (hc : createTicket t tickets = some tickets') : Random tickets' := by
  simp only [createTicket] at hc
  split at hc
  · cases hc
  · cases hc
    intro t' ht'
    rcases List.mem_append.mp ht' with hold | hnew
    · exact h t' hold
    · rw [List.mem_singleton.mp hnew]
      exact ht

/-- So do several. -/
theorem createTickets_random {new : List TicketGates.Ticket} (hnew : Random new) :
    ∀ {tickets tickets' : List TicketGates.Ticket}, Random tickets →
      createTickets new tickets = some tickets' → Random tickets' := by
  induction new with
  | nil =>
      intro tickets tickets' h hc
      cases hc
      exact h
  | cons t new ih =>
      intro tickets tickets' h hc
      obtain ⟨mid, hmid, hrest⟩ := Option.bind_eq_some_iff.mp hc
      have hfirst := createTicket_random h (hnew t List.mem_cons_self) hmid
      exact ih (fun t' ht' => hnew t' (List.mem_cons_of_mem t ht')) hfirst hrest

/-- The tickets of an order have drawn uuids. -/
theorem commitIssue_random {w : TicketGates.World} {order : Order} {uuid : Nat → String}
    (huuid : ∀ k, IsUuid (uuid k)) {units : List (OrderItem × Nat)} :
    ∀ {tickets tickets' : List TicketGates.Ticket}, Random tickets →
      commitIssue w order uuid units tickets = some tickets' → Random tickets' := by
  induction units with
  | nil =>
      intro tickets tickets' h hc
      cases hc
      exact h
  | cons unit units ih =>
      intro tickets tickets' h hc
      obtain ⟨mid, hmid, hrest⟩ := Option.bind_eq_some_iff.mp hc
      exact ih (createTicket_random h ⟨huuid _, huuid _⟩ hmid) hrest

/-- A plan carries drawn uuids. -/
theorem issueAt_random {ch : TicketGates.Choice} (hch : ∀ k, IsUuid (ch.uuid k)) (order : Order)
    (gateName : String) (w : TicketGates.World) :
    (TicketGates.issueAt order gateName ch w).Meets RandomPlans fun _ => True := by
  intro plan hplan
  obtain ⟨unit, -, rfl⟩ := List.mem_map.mp hplan
  exact ⟨hch _, hch _⟩

/-- A rebalance plans no ticket while it scans. -/
theorem scan_random (b : TicketGates.Rebalance) (i : Nat) (updated : List (TicketId × String))
    (rest : List TicketId) : (b.scan i updated rest).Meets RandomPlans fun _ => True := by
  cases rest with
  | cons ticket rest => trivial
  | nil => cases updated <;> trivial

/-- Nor while it moves tickets. -/
theorem update_random (b : TicketGates.Rebalance) (total : Nat)
    (rest : List (TicketId × String)) :
    (b.update total rest).Meets RandomPlans fun _ => True := by
  cases rest <;> trivial

/-- A statement keeps the ids random, the drawn ones included. -/
theorem carryOut_random {ch : TicketGates.Choice} (hch : ∀ k, IsUuid (ch.uuid k))
    {w : TicketGates.World} {d : TicketGates.Ask} (h : Random w.tickets) (hd : RandomPlans d) :
    Random (TicketGates.carryOut ch w d).1.tickets ∧
      (TicketGates.carryOut ch w d).2.Meets RandomPlans fun _ => True := by
  cases d with
  | updateSign updated newName targetTickets =>
      simp only [TicketGates.carryOut]
      split
      · exact ⟨h, trivial⟩
      · next tickets hr => exact ⟨resignAll_random h hr, trivial⟩
  | removeSign gate targetGateName targetTickets =>
      simp only [TicketGates.carryOut]
      split
      · exact ⟨h, trivial⟩
      · next tickets hr => exact ⟨resignAll_random h hr, trivial⟩
  | rebalanceUpdate b total target newGateName rest =>
      simp only [TicketGates.carryOut]
      split
      · exact ⟨h, trivial⟩
      · next tickets hr => exact ⟨resign_random h hr, update_random b total rest⟩
  | rebalanceTickets b =>
      simp only [TicketGates.carryOut]
      split
      · exact ⟨h, trivial⟩
      · exact ⟨h, scan_random b _ _ _⟩
  | rebalanceScan b i ticket rest updated =>
      simp only [TicketGates.carryOut]
      split
      · exact ⟨h, scan_random b _ _ _⟩
      · exact ⟨h, scan_random b _ _ _⟩
  | rebalanceFind b total ticket newGateName rest =>
      simp only [TicketGates.carryOut]
      split
      · exact ⟨h, update_random b total rest⟩
      · exact ⟨h, trivial⟩
  | issueGates order =>
      simp only [TicketGates.carryOut]
      split
      · exact ⟨h, issueAt_random hch order _ w⟩
      · exact ⟨h, trivial⟩
  | issueCounts order gateRows => exact ⟨h, issueAt_random hch order _ w⟩
  | issueCommit order plans =>
      simp only [TicketGates.carryOut]
      split
      · exact ⟨h, trivial⟩
      · next w' hcommit =>
        -- the tickets created are the planned ones, whose uuids were drawn
        obtain ⟨_, -, hcreated⟩ := Option.bind_eq_some_iff.mp hcommit
        obtain ⟨tickets, htickets, rfl⟩ := Option.map_eq_some_iff.mp hcreated
        refine ⟨createTickets_random (fun t ht => ?_) h htickets, trivial⟩
        obtain ⟨plan, hplan, rfl⟩ := List.mem_map.mp ht
        exact hd plan hplan
  | workerCommit order =>
      simp only [TicketGates.carryOut]
      split
      · exact ⟨h, trivial⟩
      · next tickets hcommit => exact ⟨commitIssue_random hch h hcommit, trivial⟩
  | updateRow gate dto =>
      simp only [TicketGates.carryOut]
      split
      · exact ⟨h, trivial⟩
      · next updated w' hupdate =>
        simp only [TicketGates.updateGate, Option.bind_eq_some_iff] at hupdate
        obtain ⟨_, -, hw⟩ := hupdate
        split at hw
        · cases hw
        · cases hw
          refine ⟨h, ?_⟩
          unfold TicketGates.afterUpdate
          split <;> trivial
  | createInsert c dto =>
      simp only [TicketGates.carryOut, TicketGates.createGate]
      split
      · exact ⟨h, trivial⟩
      · next w' hcreate =>
        split at hcreate
        · cases hcreate
          exact ⟨h, trivial⟩
        · cases hcreate
  -- the other calls write no ticket
  | _ =>
      simp only [TicketGates.carryOut]
      repeat' split
      all_goals exact ⟨h, trivial⟩

/-! ## From one moment to a later one -/

/-- The ids are random, and those under way will be. -/
structure RandomPool (p : TicketGates.State) : Prop where
  tickets : Random p.world.tickets
  plans : ∀ prog ∈ p.ops, prog.Meets RandomPlans fun _ => True

/-- One call keeps ids and secrets uuids. -/
theorem decide_random {ch : TicketGates.Choice} (hch : ∀ k, IsUuid (ch.uuid k))
    {w w' : TicketGates.World} {d : TicketGates.Ask} {prog : TicketGates.Op}
    (h : Random w.tickets) (hd : RandomPlans d) (hdec : gates.decide ch w d = some (w', prog)) :
    Random w'.tickets ∧ prog.Meets RandomPlans fun _ => True := by
  simp only [gates, Option.some.injEq] at hdec
  split at hdec
  · cases hdec
    exact ⟨h, trivial⟩
  · have hcarried := carryOut_random hch h hd
    rw [hdec] at hcarried
    exact hcarried

/-- Nothing beside the operations changes an id or a secret. -/
theorem happen_random {w : TicketGates.World} (h : Random w.tickets) (e : TicketGates.Event) :
    Random (e.happen w).tickets := by
  cases e with
  | concert c => exact h
  | orders rows => exact h
  | checkIn id now =>
      intro t ht
      obtain ⟨t₀, ht₀, rfl⟩ := List.mem_map.mp ht
      split
      · exact h t₀ ht₀
      · exact h t₀ ht₀

/-- Every step keeps ids and secrets uuids. -/
theorem RandomPool.step {p q : TicketGates.State} (h : RandomPool p)
    (hs : gates.Step drawsUuids p q) : RandomPool q := by
  constructor
  · refine hs.world (I := fun w => Random w.tickets) h.tickets ?_ ?_ ?_
    · intro ch d w' prog hmem hch hdec
      exact (decide_random hch h.tickets (h.plans _ hmem) hdec).1
    · intro ch t
      exact nomatch t
    · intro e _
      exact happen_random h.tickets e
  · refine hs.meets (J := fun _ => RandomPlans) (K := fun _ _ => True) h.plans ?_ ?_ ?_
    · intro r prog _ he
      cases he
      cases r <;> trivial
    · intro ch d w' prog _ hd hch hdec
      exact ⟨(decide_random hch h.tickets hd hdec).2, fun _ hd' => hd', fun _ => id⟩
    · intro e _
      exact ⟨fun _ hd' => hd', fun _ => id⟩

/-- So does a whole run. -/
theorem random_run {p q : TicketGates.State} (hp : Opening p) (hrandom : Random p.world.tickets)
    (hr : gates.Run drawsUuids p q) : Random q.world.tickets := by
  have hpool : RandomPool q := by
    refine hr.inv (fun p q h hs => h.step hs) ⟨hrandom, ?_⟩
    rw [hp.ops]
    exact nofun
  exact hpool.tickets

/-- What a later state has kept of an earlier one. -/
structure Since (p q : TicketGates.State) : Prop where
  valid : TicketGates.Valid q
  config : q.world.config = p.world.config
  rows : ∀ x, HasRow p.world.tickets x → HasRow q.world.tickets x

/-- A step keeps what has held since the start. -/
theorem Since.step {G : TicketGates.Condition} {p q q' : TicketGates.State} (h : Since p q)
    (hs : gates.Step G q q') : Since p q' := by
  have hkept : q'.world.config = p.world.config ∧
      ∀ x, HasRow p.world.tickets x → HasRow q'.world.tickets x := by
    refine hs.world (I := fun w => w.config = p.world.config ∧
      ∀ x, HasRow p.world.tickets x → HasRow w.tickets x) ⟨h.config, h.rows⟩ ?_ ?_ ?_
    · intro ch d w' prog hmem _ hdec
      have hkeeps := TicketGates.decide_keeps h.valid.sound (h.valid.reads _ hmem) hdec
      exact ⟨hkeeps.config.trans h.config, fun x hx => hkeeps.grown.rows x (h.rows x hx)⟩
    · intro ch t
      exact nomatch t
    · intro e _
      have hkeeps := TicketGates.happen_keeps h.valid.sound e
      exact ⟨hkeeps.config.trans h.config, fun x hx => hkeeps.grown.rows x (h.rows x hx)⟩
  exact ⟨h.valid.step hs, hkept.1, hkept.2⟩

/-- So does a whole run. -/
theorem since_run {G : TicketGates.Condition} {p q : TicketGates.State}
    (hp : TicketGates.Valid p) (hr : gates.Run G p q) : Since p q :=
  hr.inv (fun _ _ h hs => h.step hs) ⟨hp, rfl, fun _ hx => hx⟩

/-! ## A scan by itself -/

/-- `handleScan` on a device that is online: the code is parsed, the service asked, and its
    answer shown. -/
def scanAlone (code : String) (d : Device) (w : TicketCheckin.World) :
    ScanResult × TicketCheckin.World :=
  match parseQrPayload code with
  | none => (malformedResult d code, w)
  | some parsed =>
      let (w', answered) := verifyAndCheckin (d.verifyRequest parsed) d.staffId w
      (onlineResult d parsed (verifyAnswer answered), w')

/-- The steps of one scan: its code is read, its calls get through, and nobody but its own
    request `i` uses the service. -/
def OfScan (code : String) (i : Nat) : Move → Prop
  | .scan raw _ => raw = code
  | .scanStep luck => luck.lost = false ∧ luck.denied = none
  | .server (.step j _ ch) => j = i ∧ ch = TicketCheckin.smooth
  | _ => False

/-- An operation of the server, as steps of the scan. -/
theorem server_run {w w' : TicketCheckin.World} {prog prog' : TicketCheckin.Op}
    (h : TicketCheckin.checkin.Solo TicketCheckin.smooth (w, prog) (w', prog')) (code : String)
    (ops : List TicketCheckin.Op) (d : Device) :
    Machine.Run next (OfScan code ops.length) ⟨⟨w, ops ++ [prog]⟩, d⟩
      ⟨⟨w', ops ++ [prog']⟩, d⟩ := by
  generalize hx : (w, prog) = x at h
  generalize hy : (w', prog') = y at h
  induction h generalizing w' prog' with
  | refl =>
      cases hx.trans hy.symm
      exact Relation.ReflTransGen.refl
  | @tail y z _ hturn ih =>
      cases hy
      refine (ih rfl).tail ⟨.server (.step ops.length 0 TicketCheckin.smooth), ⟨rfl, rfl⟩, ?_⟩
      have hi : (ops ++ [y.2])[ops.length]? = some y.2 := by simp
      simp only [next, System.next, hi]
      rw [hturn]
      simp

/-- The device takes the answer of its request and shows it. -/
theorem answered_next (answer : TicketCheckin.Answer) (parsed : ParsedQrPayload) (uuid : Uuid)
    (d : Device) (w : TicketCheckin.World) (ops : List TicketCheckin.Op) :
    next ⟨⟨w, ops ++ [.ret answer]⟩, { d with scan := .verifying parsed uuid ops.length }⟩
        (.scanStep {})
      = some ⟨⟨w, ops ++ [.ret .received]⟩, d.show (onlineResult d parsed answer) none⟩ := by
  have htake : take ops.length ⟨w, ops ++ [.ret answer]⟩
      = some (answer, ⟨w, ops ++ [.ret .received]⟩) := by
    simp [take]
  simp only [next, scanNext]
  rw [htake]
  cases answer <;> rfl

/-- **The scan alone** is what the device and the service do. -/
theorem scanAlone_run (code : String) (uuid : Uuid) {d : Device} (hidle : d.scan = .idle)
    (honline : d.isOnline = true) (p : TicketCheckin.State) :
    ∃ s', Machine.Run next (OfScan code p.ops.length) ⟨p, d⟩ s' ∧
      s'.server.world = (scanAlone code d p.world).2 ∧ s'.device.scan = .idle ∧
      s'.device.shown = d.shown ++ [((scanAlone code d p.world).1, none)] := by
  have hscan : next ⟨p, d⟩ (.scan code uuid) = some ⟨p, handleScan code uuid d⟩ := by
    simp only [next, hidle]
  cases hparse : parseQrPayload code with
  | none =>
      have halone : scanAlone code d p.world = (malformedResult d code, p.world) := by
        simp only [scanAlone, hparse]
      have hshow : handleScan code uuid d = d.show (malformedResult d code) none := by
        simp only [handleScan, hparse]
      rw [halone]
      rw [hshow] at hscan
      exact ⟨_, .single ⟨.scan code uuid, rfl, hscan⟩, rfl, rfl, rfl⟩
  | some parsed =>
      have halone : scanAlone code d p.world =
          (onlineResult d parsed (verifyAnswer
            (verifyAndCheckin (d.verifyRequest parsed) d.staffId p.world).2),
            (verifyAndCheckin (d.verifyRequest parsed) d.staffId p.world).1) := by
        simp only [scanAlone, hparse]
      have hsending : handleScan code uuid d = { d with scan := .sending parsed uuid } := by
        simp only [handleScan, hparse, honline, if_true]
      have hsend : next ⟨p, { d with scan := .sending parsed uuid }⟩ (.scanStep {})
          = some ⟨arrive (.verify (d.verifyRequest parsed) d.staffId) p,
              { d with scan := .verifying parsed uuid p.ops.length }⟩ := rfl
      have hserve := server_run (TicketCheckin.verifyAndCheckin_solo (d.verifyRequest parsed)
        d.staffId p.world) code p.ops { d with scan := .verifying parsed uuid p.ops.length }
      rw [halone]
      rw [hsending] at hscan
      exact ⟨_, .head ⟨.scan code uuid, rfl, hscan⟩ (.head ⟨.scanStep {}, ⟨rfl, rfl⟩, hsend⟩
        (hserve.tail ⟨.scanStep {}, ⟨rfl, rfl⟩, answered_next ..⟩)), rfl, rfl, rfl⟩

/-! ## The code -/

/-- The code of a row. -/
def TicketRow.code (row : TicketRow) : String :=
  TicketQr.buildQrPayload
    { id := row.id, rawToken := row.qrRawToken, gateId := row.gateId.getD "" }

/-- The customer's own ticket is a row of the table. -/
theorem ownTicket_ok {ticketId : TicketId} {userId : UserId} {rows : List TicketRow}
    {row : TicketRow} (h : ownTicket ticketId userId rows = .ok row) :
    row ∈ rows ∧ row.id = ticketId := by
  unfold ownTicket at h
  split at h
  · cases h
  · next ticket hfind =>
    split at h
    · cases h
    · cases h
      have hkey := List.find?_some hfind
      exact ⟨RowTable.lookup_mem hfind, of_decide_eq_true hkey⟩

/-- A code that is shown is the code of a row. -/
theorem Shown.row {rows : List TicketRow} {userId : UserId} {ticketId : TicketId} {code : String}
    (h : Shown rows userId ticketId code) :
    ∃ row ∈ rows, row.id = ticketId ∧ code = row.code := by
  rcases h with h | ⟨response, h, rfl⟩
  · unfold getTicketQrData at h
    cases hown : ownTicket ticketId userId rows with
    | error e =>
        rw [hown] at h
        cases h
    | ok row =>
        rw [hown] at h
        simp only [Except.bind] at h
        split at h
        · cases h
        · cases h
          obtain ⟨hmem, hid⟩ := ownTicket_ok hown
          exact ⟨row, hmem, hid, rfl⟩
  · unfold getTicket at h
    cases hown : ownTicket ticketId userId rows with
    | error e =>
        rw [hown] at h
        cases h
    | ok row =>
        rw [hown] at h
        cases h
        obtain ⟨hmem, hid⟩ := ownTicket_ok hown
        exact ⟨row, hmem, hid, rfl⟩

/-- The gate has a name that is more than white space. -/
def Named (gateId : Option String) : Prop :=
  ∃ c ∈ (gateId.getD "").toList, isTrimmed c = false

instance (gateId : Option String) : Decidable (Named gateId) :=
  List.decidableBEx (fun c => isTrimmed c = false) (gateId.getD "").toList

/-- Nothing is left of a text only if all of it is trimmed. -/
theorem trimEnd_eq_nil (cs : List Char) : trimEnd cs = [] ↔ ¬ ∃ c ∈ cs, isTrimmed c = false := by
  rw [trimEnd, List.rdropWhile_eq_nil_iff]
  simp

/-- The app reads a code exactly if it has a gate's name. -/
theorem parseQrPayload_code {row : TicketRow} (hid : IsUuid row.id)
    (htoken : IsUuid row.qrRawToken) :
    if Named row.gateId then ∃ parsed, parseQrPayload row.code = some parsed ∧
      parsed.ticketId = row.id ∧ parsed.token = row.qrRawToken
    else parseQrPayload row.code = none := by
  have hread := offlineCheckin_qrPayload ⟨⟨row.id, hid⟩, ⟨row.qrRawToken, htoken⟩, row.gateId⟩
  change (parseQrPayload row.code).map _ = _ at hread
  by_cases hnamed : Named row.gateId
  · rw [if_pos hnamed]
    rw [if_neg (mt (trimEnd_eq_nil _).mp (not_not.mpr hnamed))] at hread
    obtain ⟨parsed, hparse, hparts⟩ := Option.map_eq_some_iff.mp hread
    have hid' := congrArg TicketQr.QrParts.ticketId hparts
    have htoken' := congrArg TicketQr.QrParts.rawToken hparts
    exact ⟨parsed, hparse, hid', htoken'⟩
  · rw [if_neg hnamed]
    rw [if_pos ((trimEnd_eq_nil _).mpr hnamed)] at hread
    exact Option.map_eq_none_iff.mp hread

/-! ## The service -/

/-- The device stands at the ticket's gate, or one of the two has none. -/
def AtGate (d : Device) (gateId : Option String) : Prop :=
  d.gate = "" ∨ gateId.getD "" = "" ∨ gateId = some d.gate

/-- The server's gate check is the one of the app. -/
theorem not_gateMismatch_iff (d : Device) (parsed : ParsedQrPayload) (gateId : Option String) :
    ¬ GateMismatch (d.verifyRequest parsed).gateId gateId ↔ AtGate d gateId := by
  unfold GateMismatch AtGate Device.verifyRequest
  by_cases hgate : d.gate = ""
  · simp [hgate]
  · simp [hgate]
    tauto

/-- The verdict is ACCEPTED where the scan has a response. -/
theorem onlineVerdict_accepted
    (a : TicketCheckin.Attempt (Except TicketCheckin.CheckinError
      TicketCheckin.VerifyTicketResponseDto)) :
    TicketCheckin.onlineVerdict a = .accepted ↔ ∃ response, a.result = .ok response := by
  obtain ⟨w, params, result⟩ := a
  cases result with
  | ok response => simp [TicketCheckin.onlineVerdict]
  | error e =>
      refine iff_of_false ?_ (by rintro ⟨response, hresponse⟩; cases hresponse)
      unfold TicketCheckin.onlineVerdict
      split <;> simp_all

/-- An attempt that goes through says so. -/
theorem verifyAttempt_ok {dto : TicketCheckin.VerifyTicketDto} {staffId : UserId}
    {w : TicketCheckin.World} {response : TicketCheckin.VerifyTicketResponseDto}
    (h : (TicketCheckin.verifyAttempt dto staffId w).result = .ok response) :
    response.success = true := by
  unfold TicketCheckin.verifyAttempt at h
  split at h
  · cases h
  · next ticket hchecks =>
    simp only at h
    split at h
    · cases h
    · cases h
      rfl

/-- A scan of a ticket's own code, at a service whose table is in order. -/
theorem verify_spec {w : TicketGates.World} (hw : Sound w.config w.tickets)
    {t : TicketGates.Ticket} (ht : t ∈ w.tickets) {dto : TicketCheckin.VerifyTicketDto}
    (hid : dto.ticketId = t.id) (htoken : w.config.sha256 dto.token = t.qrTokenHash)
    (staffId : UserId) (logs : List CheckinLog) (now : Nat)
    (checkedInBy : List (TicketId × Option (DeviceId × EventId))) :
    let before : TicketCheckin.World := ⟨w.config, w.checkinDb logs, now, checkedInBy⟩
    let admitted := ¬ GateMismatch dto.gateId t.gateId ∧ t.status = .issued
    ((∃ response, (verifyAndCheckin dto staffId before).2 = .ok response ∧
        response.success = true) ↔ admitted) ∧
      (verifyAndCheckin dto staffId before).1.db.tickets = if admitted then
        (TicketCheckin.updateIssued t.id now before.db).2.tickets else before.db.tickets := by
  intro before admitted
  have hkeyed : before.db.Keyed := by
    show (List.map _ (List.map _ _)).Nodup
    rw [List.map_map]
    exact hw.keyed
  have hfound : TicketCheckin.findTicket dto.ticketId before.db = some t.toTicket := by
    rw [hid]
    exact hw.findTicket logs ht
  have hrule : scanRule w.config dto.gateId dto.token (some t.toTicket) = .accepted ↔ admitted := by
    have hmatches := (hw.signed t ht).matches
    simp only [scanRule]
    rw [if_neg hmatches, if_neg (not_not.mpr htoken.symm)]
    by_cases hgate : GateMismatch dto.gateId t.gateId
    · rw [if_pos hgate]
      exact iff_of_false (by simp) fun hadmitted => hadmitted.1 hgate
    · rw [if_neg hgate]
      by_cases hstatus : t.status = .issued
      · rw [if_pos hstatus]
        exact iff_of_true rfl ⟨hgate, hstatus⟩
      · rw [if_neg hstatus]
        exact iff_of_false (by simp) fun hadmitted => hstatus hadmitted.2
  obtain ⟨hverdict, hdb⟩ :=
    (TicketCheckin.verifyAttempt_decided dto staffId before).eq_scanRule hkeyed
  rw [hfound] at hverdict
  rw [← hverdict, onlineVerdict_accepted] at hrule
  constructor
  · rw [TicketCheckin.verifyAndCheckin_snd, hfound, Option.isSome_some, if_pos rfl, ← hrule]
    constructor
    · rintro ⟨response, hresponse, -⟩
      exact ⟨response, hresponse⟩
    · rintro ⟨response, hresponse⟩
      exact ⟨response, hresponse, verifyAttempt_ok hresponse⟩
  · have htickets : (verifyAndCheckin dto staffId before).1.db.tickets
        = (TicketCheckin.verifyAttempt dto staffId before).world.db.tickets :=
      TicketCheckin.finish_tickets _
    rw [htickets, hdb, hid]
    rw [← onlineVerdict_accepted] at hrule
    by_cases hadmitted : admitted
    · rw [if_pos hadmitted, if_pos (hrule.mpr hadmitted)]
    · rw [if_neg hadmitted, if_neg (mt hrule.mp hadmitted)]

/-! ## The gate -/

/-- The device shows what the service answered. -/
theorem onlineResult_valid (d : Device) (parsed : ParsedQrPayload)
    (answered : Except TicketCheckin.CheckinError TicketCheckin.VerifyTicketResponseDto) :
    (onlineResult d parsed (verifyAnswer answered)).status = .valid ↔
      ∃ response, answered = .ok response ∧ response.success = true := by
  cases answered with
  | ok response => simp [verifyAnswer, onlineResult]
  | error e => simp [verifyAnswer, onlineResult, invalidResult]

variable {p₀ p₁ p₂ : TicketGates.State} {rows : List TicketRow} {userId : UserId}
  {ticketId : TicketId} {code : String}

/-- The tables as a scan finds them. -/
def scanned (w : TicketGates.World) (logs : List CheckinLog) (now : Nat)
    (checkedInBy : List (TicketId × Option (DeviceId × EventId))) : TicketCheckin.World :=
  ⟨w.config, w.checkinDb logs, now, checkedInBy⟩

/-- **What a shown code is worth.**  Take a code as the customer was shown it in some state,
    and scan it in a later one, whatever gate operations, issuings and check-ins came between
    or stand halfway.  The device shows it as valid exactly if the ticket had a gate with a
    name when the code was shown, is ISSUED now, and the device stands at the gate it has now
    (or one of the two has none); and the ticket is checked in exactly if the device shows
    that. -/
theorem shown_code_admits (h₀ : Opening p₀) (hrandom : Random p₀.world.tickets)
    (hr₁ : gates.Run drawsUuids p₀ p₁) (hr₂ : gates.Run drawsUuids p₁ p₂)
    (hrows : rows.map TicketRow.toIssued = p₁.world.tickets)
    (hshown : Shown rows userId ticketId code) (d : Device) (logs : List CheckinLog) (now : Nat)
    (checkedInBy : List (TicketId × Option (DeviceId × EventId))) :
    ∃ row ∈ rows, row.id = ticketId ∧ ∃ t ∈ p₂.world.tickets, t.id = ticketId ∧
      let before := scanned p₂.world logs now checkedInBy
      ((scanAlone code d before).1.status = .valid ↔
        Named row.gateId ∧ t.status = .issued ∧ AtGate d t.gateId) ∧
      (scanAlone code d before).2.db.tickets =
        if (scanAlone code d before).1.status = .valid then
          (TicketCheckin.updateIssued ticketId now before.db).2.tickets
        else before.db.tickets := by
  obtain ⟨row, hrow, hid, hcode⟩ := hshown.row
  have hmem : row.toIssued ∈ p₁.world.tickets := hrows ▸ List.mem_map_of_mem hrow
  have hvalid : TicketGates.Valid p₁ := h₀.valid hr₁
  have hsince := since_run hvalid hr₂
  obtain ⟨hidUuid, htokenUuid⟩ := random_run h₀ hrandom hr₁ row.toIssued hmem
  obtain ⟨t, ht, htid, hthash⟩ := hsince.rows (row.id, row.qrTokenHash) ⟨_, hmem, rfl, rfl⟩
  refine ⟨row, hrow, hid, t, ht, htid.trans hid, ?_⟩
  intro before
  have hread := parseQrPayload_code hidUuid htokenUuid
  rw [← hcode] at hread
  -- a code whose gate is nothing but white space is not read at all
  by_cases hnamed : Named row.gateId
  · rw [if_pos hnamed] at hread
    obtain ⟨parsed, hparse, hparsedId, hparsedToken⟩ := hread
    -- the ticket still has the secret of the code, also after a rename of its gate
    have htoken : p₂.world.config.sha256 parsed.token = t.qrTokenHash := by
      rw [hparsedToken, hthash, hvalid.sound.hashed _ hmem, hsince.config]
    have hrequest : (d.verifyRequest parsed).ticketId = t.id := hparsedId.trans htid.symm
    obtain ⟨hok, htickets⟩ := verify_spec hsince.valid.sound ht hrequest htoken d.staffId logs now
      checkedInBy
    have halone : scanAlone code d before =
        (onlineResult d parsed (verifyAnswer
          (verifyAndCheckin (d.verifyRequest parsed) d.staffId before).2),
          (verifyAndCheckin (d.verifyRequest parsed) d.staffId before).1) := by
      simp only [scanAlone, hparse]
    have hstatus : (scanAlone code d before).1.status = .valid ↔
        ¬ GateMismatch (d.verifyRequest parsed).gateId t.gateId ∧ t.status = .issued := by
      rw [halone, onlineResult_valid]
      exact hok
    constructor
    · rw [hstatus, not_gateMismatch_iff]
      constructor
      · rintro ⟨hgate, hissued⟩
        exact ⟨hnamed, hissued, hgate⟩
      · rintro ⟨-, hissued, hgate⟩
        exact ⟨hgate, hissued⟩
    · rw [if_congr hstatus rfl rfl, halone, ← htid.trans hid]
      exact htickets
  · rw [if_neg hnamed] at hread
    have halone : scanAlone code d before = (malformedResult d code, before) := by
      simp only [scanAlone, hread]
    rw [halone]
    refine ⟨iff_of_false ?_ fun h => hnamed h.1, ?_⟩
    · simp [malformedResult]
    · rw [if_neg (by simp [malformedResult])]

/-! ### A ticket whose gate is renamed -/

/-- The move draws UUIDs. -/
def Draws : Action TicketGates.Choice TicketGates.Request TicketGates.Event → Prop
  | .step _ _ ch => ∀ k, IsUuid (ch.uuid k)
  | _ => True

/-- A trace whose draws are uuids is a run. -/
theorem draws_run {as : List (Action TicketGates.Choice TicketGates.Request TicketGates.Event)}
    (has : ∀ a ∈ as, Draws a) :
    ∀ {p q : TicketGates.State}, gates.exec Guard.any p as = some q →
      gates.Run drawsUuids p q := by
  induction as with
  | nil =>
      intro p q h
      cases h
      exact System.Run.refl p
  | cons a as ih =>
      intro p q h
      simp only [System.exec] at h
      split at h
      · obtain ⟨p', hn, hrest⟩ := Option.bind_eq_some_iff.mp h
        refine System.Run.head a ?_ hn (ih (fun a' ha' => has a' (List.mem_cons_of_mem a ha')) hrest)
        have ha := has a List.mem_cons_self
        cases a with
        | start r => trivial
        | env e => trivial
        | step i k ch =>
            simp only [Guard.ok]
            split
            · exact ha
            · split <;> trivial
            · trivial
      · cases h

/-- The id that the first ticket draws. -/
def ticketId₁ : String := "3f2504e0-4f89-41d3-9a0c-0305e82c3301"

/-- The secret that the first ticket draws. -/
def rawToken₁ : String := "9b2d61cc-7a35-4b1e-8f06-0d7c44a1e5b2"

/-- The two uuids that issuing one ticket draws. -/
def randomUUID : TicketGates.Choice := TicketGates.drawn ticketId₁ rawToken₁

/-- What is drawn are uuids. -/
theorem randomUUID_isUuid : ∀ k, IsUuid (randomUUID.uuid k) := by
  intro k
  simp only [randomUUID, TicketGates.drawn]
  split
  · decide
  · decide

/-- The webhook of a paid order of one ticket, up to its commit. -/
def issuing : List (Action TicketGates.Choice TicketGates.Request TicketGates.Event) :=
  [.start (.webhook (TicketGates.oneTicket 1 1)), .step 0 0 randomUUID, .step 0 0 randomUUID,
    .step 0 0 randomUUID]

/-- Gate A is renamed to C, with the re-signing of its tickets. -/
def renamingA : List (Action TicketGates.Choice TicketGates.Request TicketGates.Event) :=
  .start (.update "g1" ⟨some "C"⟩) :: List.replicate 6 (.step 1 0 randomUUID)

theorem d_ne : "d" ≠ "" := by decide

/-- A device at the gate that is now called C. -/
def atC : Device where
  deviceId := "d"
  deviceId_ne := d_ne
  staffId := 7
  gate := "C"
  isOnline := true
  checkinLogs := []
  scannedTickets := []
  scan := .idle
  sync := .idle
  shown := []
  cleared := []

/-- Tickets of the gates as rows of the customer's list, all of one user. -/
def bought (tickets : List TicketGates.Ticket) : List TicketRow :=
  tickets.map fun t => ⟨t, 1, 1, 0⟩

/-- A concert with one gate, A. -/
def opened : TicketGates.State := ⟨TicketGates.doors [⟨⟨1, "A"⟩, "g1"⟩], []⟩

/-- The code of the first gate. -/
def shownAtA : String := TicketQr.buildQrPayload ⟨ticketId₁, rawToken₁, "A"⟩

/-- The trace of the renaming can be carried out. -/
theorem renamed_exec :
    (gates.exec Guard.any opened issuing).any (fun p₁ =>
      decide (getTicketQrData ticketId₁ 1 (bought p₁.world.tickets) = .ok shownAtA ∧
        ∀ t ∈ p₁.world.tickets, Named t.gateId) &&
      (gates.exec Guard.any p₁ renamingA).any fun p₂ =>
        decide (∀ t ∈ p₂.world.tickets, t.status = .issued ∧ t.gateId = some "C")) = true := by
  decide +kernel

/-- The code names gate A, and the ticket is let in at gate C. -/
theorem shown_code_admits_renamed :
    ∃ p₁ p₂, gates.Run drawsUuids opened p₁ ∧ gates.Run drawsUuids p₁ p₂ ∧
      Shown (bought p₁.world.tickets) 1 ticketId₁ shownAtA ∧
      (scanAlone shownAtA atC (scanned p₂.world [] 0 [])).1.status = .valid := by
  obtain ⟨p₁, hp₁, hrest⟩ := (Option.any_eq_true _ _).mp renamed_exec
  simp only [Bool.and_eq_true, decide_eq_true_eq] at hrest
  obtain ⟨⟨hshown, hnamed⟩, hrest⟩ := hrest
  obtain ⟨p₂, hp₂, hlast⟩ := (Option.any_eq_true _ _).mp hrest
  have hrun₁ : gates.Run drawsUuids opened p₁ := by
    refine draws_run ?_ hp₁
    simp only [issuing, List.forall_mem_cons, Draws]
    refine ⟨trivial, randomUUID_isUuid, randomUUID_isUuid, randomUUID_isUuid, ?_⟩
    intro a ha
    exact absurd ha List.not_mem_nil
  have hrun₂ : gates.Run drawsUuids p₁ p₂ := by
    refine draws_run ?_ hp₂
    intro a ha
    rcases List.mem_cons.mp ha with rfl | ha
    · trivial
    · rw [List.eq_of_mem_replicate ha]
      exact randomUUID_isUuid
  have hrows : (bought p₁.world.tickets).map TicketRow.toIssued = p₁.world.tickets := by
    rw [bought, List.map_map]
    exact List.map_id _
  have hrandom : Random opened.world.tickets := by
    intro t ht
    exact absurd ht List.not_mem_nil
  obtain ⟨row, hrow, -, t, ht, -, hvalid, -⟩ := shown_code_admits (TicketGates.doors_opening _)
    hrandom hrun₁ hrun₂ hrows (.inl hshown) atC [] 0 []
  obtain ⟨hissued, hgate⟩ := of_decide_eq_true hlast t ht
  refine ⟨p₁, p₂, hrun₁, hrun₂, .inl hshown, hvalid.mpr ⟨?_, hissued, .inr (.inr hgate)⟩⟩
  obtain ⟨ticket, hticket, rfl⟩ := List.mem_map.mp hrow
  exact hnamed ticket hticket

end MyTickets
