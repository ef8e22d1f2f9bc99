import TicketBox.BatchProofs

/-! # The two checks of one scan

    The service checks a scan in two places: `verifyAndCheckin` online,
    `processSyncRecord` for an offline event that is new.  Here each is one
    function up to its log row, and both decide by the one rule `scanRule`: the
    ticket exists, the gate, the signature, the hash, the status, in this order.
    `online_offline_agree` compares them on every database. -/

namespace TicketCheckin

open Interleave TicketStore

/-! ## The rule -/

/-- What a scan comes to. -/
inductive Verdict where
  | accepted | noSuchTicket | wrongGate | badQr | notIssued
  deriving DecidableEq

/-- The rule of admission: the first check that fails decides. -/
def scanRule (config : QrConfig) (gateId : Option String) (token : String) :
    Option Ticket → Verdict
  | none => .noSuchTicket
  | some ticket =>
      if GateMismatch gateId ticket.gateId then .wrongGate
      else if SignatureMismatch config ticket then .badQr
      else if ticket.qrTokenHash ≠ config.sha256 token then .badQr
      else if ticket.status = .issued then .accepted
      else .notIssued

/-! ## The online scan as a function -/

/-- An attempt as it stands before its log row: what it did to the tables, the row
    and the result it is to return. -/
structure Attempt (α : Type) where
  world : World
  params : LogParams
  result : α

/-- The row is written, or its exception ends the attempt. -/
def Attempt.finish {α : Type} (a : Attempt α) : World × Except CheckinError α :=
  logAndReturn a.params a.result a.world

/-- `verifyAndCheckin` up to its log row, as one step. -/
def verifyAttempt (dto : VerifyTicketDto) (staffId : UserId) (w : World) :
    Attempt (Except CheckinError VerifyTicketResponseDto) :=
  match verifyChecks w.config dto staffId (findTicket dto.ticketId w.db) with
  | .error (params, e) => ⟨w, params, .error e⟩
  | .ok ticket =>
      let (count, w) := tryCheckIn dto.ticketId none w
      if count = 0 then
        let (params, e) := verifyTooLate dto staffId (findTicket dto.ticketId w.db)
        ⟨w, params, .error e⟩
      else ⟨w, onlineSuccess dto staffId ticket, .ok (verifyResponse ticket)⟩

/-- `verifyAndCheckin` with nobody beside it. -/
def verifyAndCheckin (dto : VerifyTicketDto) (staffId : UserId) (w : World) :
    World × Except CheckinError VerifyTicketResponseDto :=
  let (w, written) := (verifyAttempt dto staffId w).finish
  (w, written.bind id)

/-- The answer of the route. -/
def verifyAnswer : Except CheckinError VerifyTicketResponseDto → Answer
  | .ok response => .verified response
  | .error e => .refused e

/-- A new event, up to its log row. -/
def syncAttempt (record : SyncCheckinRecordDto) (staffId : UserId) (w : World) :
    Attempt SyncCheckinResultDto :=
  match syncChecks w.config record staffId (findTicket record.ticketId w.db) with
  | .error (params, result) => ⟨w, params, result⟩
  | .ok ticket =>
      let (count, w) := tryCheckIn record.ticketId (some (record.deviceId, record.offlineEventId)) w
      let (params, result) :=
        if count = 0 then syncConflict record staffId else syncSuccess record staffId ticket
      ⟨w, params, result⟩

/-! ## The functions are what the service does -/

/-- The end of a scan with nobody beside it. -/
theorem finish_solo (a : Attempt (Except CheckinError VerifyTicketResponseDto)) :
    checkin.Solo smooth (a.world, .ask (.verifyLog a.params (verifyAnswer a.result)))
      (a.finish.1, .ret (verifyAnswer (a.finish.2.bind id))) := by
  refine solo_step ?_
  simp only [carryOut, Attempt.finish, logAndReturn]
  cases logCheckinAttempt a.params a.world with
  | none => exact Relation.ReflTransGen.refl
  | some w => exact Relation.ReflTransGen.refl

/-- **The scan alone** takes its turns and answers what the function says. -/
theorem verifyAndCheckin_solo (dto : VerifyTicketDto) (staffId : UserId) (w : World) :
    checkin.Solo smooth (w, (Request.verify dto staffId).enter)
      ((verifyAndCheckin dto staffId w).1,
        .ret (verifyAnswer (verifyAndCheckin dto staffId w).2)) := by
  have hlast := finish_solo (verifyAttempt dto staffId w)
  refine solo_step ?_
  simp only [carryOut, verifyAndCheckin]
  simp only [verifyAttempt] at hlast ⊢
  cases hc : verifyChecks w.config dto staffId (findTicket dto.ticketId w.db) with
  | error rejected =>
      rw [hc] at hlast
      exact hlast
  | ok ticket =>
      rw [hc] at hlast
      refine solo_step ?_
      by_cases hcount : (tryCheckIn dto.ticketId none w).1 = 0
      · -- the update changed nothing: the status is read once more
        simp only [carryOut, if_pos hcount] at hlast ⊢
        exact solo_step hlast
      · simp only [carryOut, if_neg hcount] at hlast ⊢
        exact hlast

/-- A record whose event is new is its attempt, finished. -/
theorem processSyncRecord_new {record : SyncCheckinRecordDto} {w : World} (staffId : UserId)
    (hnew : ¬ Logged record.deviceId record.offlineEventId w.db) :
    processSyncRecord record staffId w = (syncAttempt record staffId w).finish := by
  simp only [processSyncRecord, findLog_none.mpr hnew, syncAttempt]
  cases syncChecks w.config record staffId (findTicket record.ticketId w.db) with
  | error rejected => rfl
  | ok ticket => rfl

/-! ## The verdicts they tell -/

/-- The verdict of an online attempt, as it is logged and answered. -/
def onlineVerdict (a : Attempt (Except CheckinError VerifyTicketResponseDto)) : Verdict :=
  match a.result, a.params.status with
  | .ok _, _ => .accepted
  | .error (.notFound _), _ => .noSuchTicket
  | .error _, .gateMismatch => .wrongGate
  | .error _, .invalidTicket => .badQr
  | .error _, _ => .notIssued

/-- The verdict of an offline attempt, as its result tells it. -/
def offlineVerdict (result : SyncCheckinResultDto) : Verdict :=
  match result.status with
  | .success => .accepted
  | .gateMismatch => .wrongGate
  | .invalidTicket => if result.message = "Vé không tồn tại" then .noSuchTicket else .badQr
  | .alreadyCheckedIn | .offlinePending | .rejectedConflict => .notIssued

/-- The checks before the update, as verdicts: `none` passes. -/
def checkRule (config : QrConfig) (gateId : Option String) (token : String) :
    Option Ticket → Option Verdict
  | none => some .noSuchTicket
  | some ticket =>
      if GateMismatch gateId ticket.gateId then some .wrongGate
      else if SignatureMismatch config ticket then some .badQr
      else if ticket.qrTokenHash ≠ config.sha256 token then some .badQr
      else none

/-- What the service decides about a ticket, gate and token, and the tables it
    leaves: the checks reject, or the conditional update decides. -/
inductive Decided (gateId : Option String) (token : String) (id : TicketId) (w : World) :
    Verdict → Db → Prop where
  | rejected (v : Verdict) :
      checkRule w.config gateId token (findTicket id w.db) = some v →
      Decided gateId token id w v w.db
  | lost :
      checkRule w.config gateId token (findTicket id w.db) = none → Closed id w →
      Decided gateId token id w .notIssued w.db
  | won :
      checkRule w.config gateId token (findTicket id w.db) = none → ¬ Closed id w →
      Decided gateId token id w .accepted (updateIssued id w.now w.db).2

/-- There is one decision. -/
theorem Decided.unique {gateId : Option String} {token : String} {id : TicketId} {w : World}
    {v v' : Verdict} {db db' : Db} (h : Decided gateId token id w v db)
    (h' : Decided gateId token id w v' db') : v = v' ∧ db = db' := by
  cases h with
  | rejected v hv =>
      cases h' with
      | rejected v' hv' =>
          rw [hv] at hv'
          exact ⟨Option.some.inj hv', rfl⟩
      | lost hnone _ =>
          rw [hv] at hnone
          cases hnone
      | won hnone _ =>
          rw [hv] at hnone
          cases hnone
  | lost hnone hclosed =>
      cases h' with
      | rejected v' hv' =>
          rw [hnone] at hv'
          cases hv'
      | lost _ _ => exact ⟨rfl, rfl⟩
      | won _ hopen => exact absurd hclosed hopen
  | won hnone hopen =>
      cases h' with
      | rejected v' hv' =>
          rw [hnone] at hv'
          cases hv'
      | lost _ hclosed => exact absurd hclosed hopen
      | won _ _ => exact ⟨rfl, rfl⟩

/-! ## Each side follows the rule -/

/-- The online checks are the rule up to the status. -/
theorem verifyChecks_rule (dto : VerifyTicketDto) (staffId : UserId) (w : World)
    (found : Option Ticket) :
    match verifyChecks w.config dto staffId found with
    | .error (params, e) =>
        checkRule w.config dto.gateId dto.token found = some (onlineVerdict ⟨w, params, .error e⟩)
    | .ok _ => checkRule w.config dto.gateId dto.token found = none := by
  cases found with
  | none => rfl
  | some ticket =>
      simp only [verifyChecks, checkRule]
      by_cases hgate : GateMismatch dto.gateId ticket.gateId
      · simp only [if_pos hgate]
        rfl
      · by_cases hsig : SignatureMismatch w.config ticket
        · simp only [if_neg hgate, if_pos hsig]
          rfl
        · by_cases hhash : ticket.qrTokenHash ≠ w.config.sha256 dto.token
          · simp only [if_neg hgate, if_neg hsig, if_pos hhash]
            rfl
          · simp only [if_neg hgate, if_neg hsig, if_neg hhash]

/-- So are the offline checks. -/
theorem syncChecks_rule (record : SyncCheckinRecordDto) (staffId : UserId) (config : QrConfig)
    (found : Option Ticket) :
    match syncChecks config record staffId found with
    | .error (_, result) =>
        checkRule config record.gateId record.token found = some (offlineVerdict result)
    | .ok _ => checkRule config record.gateId record.token found = none := by
  cases found with
  | none => rfl
  | some ticket =>
      simp only [syncChecks, checkRule]
      by_cases hgate : GateMismatch record.gateId ticket.gateId
      · simp only [if_pos hgate]
        rfl
      · by_cases hsig : SignatureMismatch config ticket
        · simp only [if_neg hgate, if_pos hsig]
          rfl
        · by_cases hhash : ticket.qrTokenHash ≠ config.sha256 record.token
          · simp only [if_neg hgate, if_neg hsig, if_pos hhash]
            rfl
          · simp only [if_neg hgate, if_neg hsig, if_neg hhash]

/-- An online scan decides by the rule. -/
theorem verifyAttempt_decided (dto : VerifyTicketDto) (staffId : UserId) (w : World) :
    Decided dto.gateId dto.token dto.ticketId w (onlineVerdict (verifyAttempt dto staffId w))
      (verifyAttempt dto staffId w).world.db := by
  have hrule := verifyChecks_rule dto staffId w (findTicket dto.ticketId w.db)
  simp only [verifyAttempt]
  cases hc : verifyChecks w.config dto staffId (findTicket dto.ticketId w.db) with
  | error rejected =>
      rw [hc] at hrule
      exact .rejected _ hrule
  | ok ticket =>
      rw [hc] at hrule
      by_cases hclosed : Closed dto.ticketId w
      · simp only [tryCheckIn_closed hclosed, if_true]
        exact .lost hrule hclosed
      · obtain ⟨hne, hw⟩ := tryCheckIn_open hclosed none
        simp only [if_neg hne, hw]
        exact .won hrule hclosed

/-- So does a scan that is delivered later. -/
theorem syncAttempt_decided (record : SyncCheckinRecordDto) (staffId : UserId) (w : World) :
    Decided record.gateId record.token record.ticketId w
      (offlineVerdict (syncAttempt record staffId w).result)
      (syncAttempt record staffId w).world.db := by
  have hrule := syncChecks_rule record staffId w.config (findTicket record.ticketId w.db)
  simp only [syncAttempt]
  cases hc : syncChecks w.config record staffId (findTicket record.ticketId w.db) with
  | error rejected =>
      rw [hc] at hrule
      exact .rejected _ hrule
  | ok ticket =>
      rw [hc] at hrule
      by_cases hclosed : Closed record.ticketId w
      · simp only [tryCheckIn_closed hclosed, if_true]
        exact .lost hrule hclosed
      · obtain ⟨hne, hw⟩ :=
          tryCheckIn_open hclosed (some (record.deviceId, record.offlineEventId))
        simp only [if_neg hne, hw]
        exact .won hrule hclosed

/-- A ticket is closed where it is not ISSUED. -/
theorem closed_iff_status {id : TicketId} {w : World} (hkeyed : w.db.Keyed) :
    Closed id w ↔ (findTicket id w.db).map Ticket.status ≠ some .issued := by
  rw [closed_iff hkeyed]
  cases findTicket id w.db with
  | none => simp
  | some r => simp

/-- The checks before the status accept nothing by themselves. -/
theorem checkRule_ne {config : QrConfig} {gateId : Option String} {token : String}
    {found : Option Ticket} : checkRule config gateId token found ≠ some .accepted := by
  cases found with
  | none => simp [checkRule]
  | some ticket =>
      simp only [checkRule]
      split_ifs <;> simp

/-- The rule is its checks with the status behind them. -/
theorem scanRule_eq (config : QrConfig) (gateId : Option String) (token : String)
    (found : Option Ticket) :
    scanRule config gateId token found = (checkRule config gateId token found).getD
      (if found.map Ticket.status = some .issued then .accepted else .notIssued) := by
  cases found with
  | none => rfl
  | some ticket =>
      simp only [scanRule, checkRule, Option.map_some, Option.some.injEq]
      split_ifs <;> rfl

/-- The checks and the update together are the rule of admission, read off the
    ticket's row; an accepted ticket is checked in and nothing else changes. -/
theorem Decided.eq_scanRule {gateId : Option String} {token : String} {id : TicketId}
    {w : World} {v : Verdict} {db : Db} (hkeyed : w.db.Keyed)
    (h : Decided gateId token id w v db) :
    v = scanRule w.config gateId token (findTicket id w.db) ∧
      db = if v = .accepted then (updateIssued id w.now w.db).2 else w.db := by
  rw [scanRule_eq]
  cases h with
  | rejected v hv =>
      have hne : v ≠ .accepted := by
        rintro rfl
        exact checkRule_ne hv
      rw [hv, if_neg hne]
      exact ⟨rfl, rfl⟩
  | lost hnone hclosed =>
      rw [hnone, Option.getD_none, if_neg ((closed_iff_status hkeyed).mp hclosed)]
      exact ⟨rfl, rfl⟩
  | won hnone hopen =>
      have hissued := not_not.mp (mt (closed_iff_status hkeyed).mpr hopen)
      rw [hnone, Option.getD_none, if_pos hissued]
      exact ⟨rfl, rfl⟩

/-- The gate is the first check of a ticket that exists. -/
theorem checkRule_wrongGate {config : QrConfig} {gateId : Option String} {token : String}
    {ticket : Ticket} :
    checkRule config gateId token (some ticket) = some .wrongGate ↔
      GateMismatch gateId ticket.gateId := by
  simp only [checkRule]
  split_ifs with hgate
  · exact iff_of_true rfl hgate
  all_goals exact iff_of_false (by simp) hgate

/-- The wrong gate is told exactly where the gates differ. -/
theorem Decided.wrongGate_iff {gateId : Option String} {token : String} {id : TicketId}
    {w : World} {v : Verdict} {db : Db} {ticket : Ticket} (h : Decided gateId token id w v db)
    (hfound : findTicket id w.db = some ticket) :
    v = .wrongGate ↔ GateMismatch gateId ticket.gateId := by
  rw [← @checkRule_wrongGate w.config gateId token, ← hfound]
  cases h with
  | rejected v hv => rw [hv, Option.some.injEq]
  | lost hnone _ => rw [hnone]; simp
  | won hnone _ => rw [hnone]; simp

/-! ## The log row -/

/-- A decision adds no ticket, removes none and logs nothing. -/
theorem Decided.kept {gateId : Option String} {token : String} {id : TicketId} {w : World}
    {v : Verdict} {db : Db} (h : Decided gateId token id w v db) :
    (∀ t, (findTicket t db).isSome = (findTicket t w.db).isSome) ∧ db.logs = w.db.logs := by
  cases h with
  | rejected _ _ => exact ⟨fun _ => rfl, rfl⟩
  | lost _ _ => exact ⟨fun _ => rfl, rfl⟩
  | won _ _ =>
      refine ⟨fun t => ?_, rfl⟩
      rw [findTicket_updateIssued, Option.isSome_map]

/-- The checks never fail with an internal error. -/
theorem verifyChecks_internal {config : QrConfig} {dto : VerifyTicketDto} {staffId : UserId}
    {found : Option Ticket} {params : LogParams} {e : CheckinError}
    (h : verifyChecks config dto staffId found = .error (params, e)) : e ≠ .internal := by
  cases found with
  | none =>
      cases h
      simp
  | some ticket =>
      simp only [verifyChecks] at h
      split_ifs at h <;> cases h <;> simp

/-- The row of an online attempt names its ticket, and its exception is one of the
    service's own. -/
theorem verifyAttempt_params (dto : VerifyTicketDto) (staffId : UserId) (w : World) :
    (verifyAttempt dto staffId w).params.ticketId = some dto.ticketId ∧
      (verifyAttempt dto staffId w).params.offlineEventId = none ∧
      (verifyAttempt dto staffId w).result ≠ .error .internal := by
  simp only [verifyAttempt]
  cases hc : verifyChecks w.config dto staffId (findTicket dto.ticketId w.db) with
  | error rejected =>
      obtain ⟨params, e⟩ := rejected
      obtain ⟨status, reason, rfl, -⟩ := verifyChecks_error hc
      refine ⟨rfl, rfl, fun heq => ?_⟩
      exact verifyChecks_internal hc (Except.error.inj heq)
  | ok ticket =>
      by_cases hcount : (tryCheckIn dto.ticketId none w).1 = 0
      · simp only [if_pos hcount]
        exact ⟨rfl, rfl, by simp [verifyTooLate]⟩
      · simp only [if_neg hcount]
        exact ⟨rfl, rfl, by simp⟩

/-- The log row of a delivered scan tells its result. -/
theorem syncAttempt_logOf (record : SyncCheckinRecordDto) (staffId : UserId) (w : World) :
    LogOf record (syncAttempt record staffId w).params (syncAttempt record staffId w).result := by
  simp only [syncAttempt]
  cases hc : syncChecks w.config record staffId (findTicket record.ticketId w.db) with
  | error rejected => exact (syncChecks_error hc).logOf
  | ok ticket =>
      by_cases hcount : (tryCheckIn record.ticketId
          (some (record.deviceId, record.offlineEventId)) w).1 = 0
      · simp only [if_pos hcount]
        exact syncConflict_logOf record staffId
      · simp only [if_neg hcount]
        exact syncSuccess_logOf record staffId ticket

/-- The scan ends with its result where its log row is admissible. -/
theorem finish_ok {α : Type} {a : Attempt α}
    (h : Admissible (a.params.row a.world.now) a.world.db) :
    a.finish = (a.world.logged a.params, .ok a.result) :=
  logAndReturn_ok h a.result

/-- Elsewhere it ends with an internal error. -/
theorem finish_error {α : Type} {a : Attempt α}
    (h : ¬ Admissible (a.params.row a.world.now) a.world.db) :
    a.finish = (a.world, .error .internal) :=
  logAndReturn_error h a.result

/-- The row of an online attempt is refused for a missing ticket only. -/
theorem verifyAttempt_admissible (dto : VerifyTicketDto) (staffId : UserId) (w : World) :
    Admissible ((verifyAttempt dto staffId w).params.row (verifyAttempt dto staffId w).world.now)
        (verifyAttempt dto staffId w).world.db
      ↔ (findTicket dto.ticketId w.db).isSome := by
  obtain ⟨hid, hevent, -⟩ := verifyAttempt_params dto staffId w
  have hkept := (verifyAttempt_decided dto staffId w).kept.1 dto.ticketId
  simp only [Admissible, LogParams.row, hid, hevent, Option.some.injEq, forall_eq', reduceCtorEq,
    false_implies, implies_true, and_true, hkept]

/-- So is the row of a new event. -/
theorem syncAttempt_admissible {record : SyncCheckinRecordDto} (staffId : UserId) {w : World}
    (hnew : ¬ Logged record.deviceId record.offlineEventId w.db) :
    Admissible ((syncAttempt record staffId w).params.row (syncAttempt record staffId w).world.now)
        (syncAttempt record staffId w).world.db
      ↔ (findTicket record.ticketId w.db).isSome := by
  obtain ⟨htickets, hlogs⟩ := (syncAttempt_decided record staffId w).kept
  rw [(syncAttempt_logOf record staffId w).admissible, htickets, Logged, hlogs]
  exact and_iff_left hnew

/-- The log row leaves the tickets alone. -/
theorem finish_tickets {α : Type} (a : Attempt α) :
    a.finish.1.db.tickets = a.world.db.tickets := by
  simp only [Attempt.finish, logAndReturn]
  cases hlog : logCheckinAttempt a.params a.world with
  | none => rfl
  | some w =>
      obtain ⟨-, rfl⟩ := logCheckinAttempt_some hlog
      rfl

/-! ## The two agree -/

/-- An online attempt ends in its answer; one on a missing ticket, whose row the
    foreign key refuses, in an internal error. -/
theorem verifyAndCheckin_snd (dto : VerifyTicketDto) (staffId : UserId) (w : World) :
    (verifyAndCheckin dto staffId w).2
      = if (findTicket dto.ticketId w.db).isSome then (verifyAttempt dto staffId w).result
        else .error .internal := by
  simp only [verifyAndCheckin]
  by_cases hsome : (findTicket dto.ticketId w.db).isSome
  · rw [finish_ok ((verifyAttempt_admissible dto staffId w).mpr hsome), if_pos hsome]
    rfl
  · rw [finish_error (mt (verifyAttempt_admissible dto staffId w).mp hsome), if_neg hsome]
    rfl

/-- What a record is answered. -/
theorem processSyncRecord_snd {record : SyncCheckinRecordDto} (staffId : UserId) {w : World}
    (hnew : ¬ Logged record.deviceId record.offlineEventId w.db) :
    (processSyncRecord record staffId w).2
      = if (findTicket record.ticketId w.db).isSome then .ok (syncAttempt record staffId w).result
        else .error .internal := by
  rw [processSyncRecord_new staffId hnew]
  by_cases hsome : (findTicket record.ticketId w.db).isSome
  · rw [finish_ok ((syncAttempt_admissible staffId hnew).mpr hsome), if_pos hsome]
  · rw [finish_error (mt (syncAttempt_admissible staffId hnew).mp hsome), if_neg hsome]

/-- A ticket of gate A whose signature is wrong besides. -/
def gateNight : World where
  config := { sha256 := fun s => s, hmacSha256 := fun _ s => s, qrSecret := "" }
  db := { tickets := [⟨"t", 1, "VIP", some "A", "k", some "forged", .issued, none⟩], logs := [] }
  now := 0
  checkedInBy := []

/-- An online scan at gate B. -/
def atOtherGate : VerifyTicketDto := ⟨"t", "k", "d", some "B", by simp, by simp, by simp⟩

/-- The same scan made offline. -/
def atOtherGateOffline : SyncCheckinRecordDto :=
  ⟨"t", "k", "d", some "B", "e", by simp, by simp, by simp, by simp⟩

/-- **Online and offline verification agree**: for one ticket, token and gate and
    an event that is new, the same verdict, the same tickets after it, and the
    same attempts that end in an internal error. -/
theorem online_offline_agree {dto : VerifyTicketDto} {record : SyncCheckinRecordDto}
    (staffId staffId' : UserId) {w : World} (hticket : record.ticketId = dto.ticketId)
    (htoken : record.token = dto.token) (hgate : record.gateId = dto.gateId)
    (hnew : ¬ Logged record.deviceId record.offlineEventId w.db) :
    onlineVerdict (verifyAttempt dto staffId w)
        = offlineVerdict (syncAttempt record staffId' w).result ∧
      (verifyAndCheckin dto staffId w).1.db.tickets
        = (processSyncRecord record staffId' w).1.db.tickets ∧
      ((verifyAndCheckin dto staffId w).2 = .error .internal ↔
        (processSyncRecord record staffId' w).2 = .error .internal) := by
  have honline := verifyAttempt_decided dto staffId w
  have hoffline := syncAttempt_decided record staffId' w
  rw [hticket, htoken, hgate] at hoffline
  obtain ⟨hverdict, hdb⟩ := honline.unique hoffline
  refine ⟨hverdict, ?_, ?_⟩
  · rw [processSyncRecord_new staffId' hnew, finish_tickets, ← hdb]
    exact finish_tickets _
  · rw [verifyAndCheckin_snd, processSyncRecord_snd staffId' hnew, hticket]
    by_cases hsome : (findTicket dto.ticketId w.db).isSome
    · rw [if_pos hsome, if_pos hsome]
      exact iff_of_false (verifyAttempt_params dto staffId w).2.2 (by simp)
    · rw [if_neg hsome, if_neg hsome]
      exact iff_of_true rfl rfl

/-- Both scans at gate B are turned away, and both leave their log row. -/
theorem online_offline_agree_wrongGate :
    onlineVerdict (verifyAttempt atOtherGate 7 gateNight)
        = offlineVerdict (syncAttempt atOtherGateOffline 8 gateNight).result ∧
      (verifyAndCheckin atOtherGate 7 gateNight).1.db.tickets
        = (processSyncRecord atOtherGateOffline 8 gateNight).1.db.tickets ∧
      ((verifyAndCheckin atOtherGate 7 gateNight).2 = .error .internal ↔
        (processSyncRecord atOtherGateOffline 8 gateNight).2 = .error .internal) :=
  online_offline_agree 7 8 rfl rfl rfl (by decide)

end TicketCheckin
