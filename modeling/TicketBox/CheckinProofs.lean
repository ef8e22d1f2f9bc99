import TicketBox.CheckinSteps

/-! # At most one successful check-in

    The conditional update is the only place where a ticket is let in.  Give
    each ticket one admission; it is held by the ISSUED row, by the request that
    won the update and stands before its log, or by the SUCCESS log.  A step
    passes it on or loses it (`Carried.admission`), so there is never more than
    one SUCCESS log.  No request tells its caller of a success before its log
    row is in (`Carried.answered`), so there are never more such answers than
    SUCCESS logs. -/

namespace TicketCheckin

open Interleave TicketStore

/-! ## What is counted -/

/-- SUCCESS rows of a ticket. -/
def successLogs (t : TicketId) (db : Db) : Nat :=
  db.logs.countP fun l => l.ticketId = some t ∧ l.status = .success

/-- The result says that its own record let the ticket in; a replayed event says
    what its log says. -/
def SyncCheckinResultDto.Accepts (t : TicketId) (r : SyncCheckinResultDto) : Prop :=
  r.ticketId = t ∧ r.success = true ∧ r.message ≠ alreadySynced

/-- The result tells which ticket it accepts. -/
instance (t : TicketId) (r : SyncCheckinResultDto) : Decidable (r.Accepts t) :=
  inferInstanceAs (Decidable (_ ∧ _ ∧ _))

/-- How often an answer says so. -/
def Answer.acceptances (t : TicketId) : Answer → Nat
  | .verified response => if response.ticketId = t ∧ response.success then 1 else 0
  | .synced _ response => response.results.countP fun r => r.Accepts t
  | .refused _ => 0
  | .received => 0

/-- How often the requests that have ended said so. -/
def acceptances (t : TicketId) (p : State) : Int :=
  p.worth (fun _ => 0) fun a => (a.acceptances t : Int)

/-! ## The admission -/

/-- The log is a SUCCESS of the ticket. -/
def LogParams.Successful (t : TicketId) (params : LogParams) : Prop :=
  params.ticketId = some t ∧ params.status = .success

/-- The row tells whether it is a success of the ticket. -/
instance (t : TicketId) (params : LogParams) : Decidable (params.Successful t) :=
  inferInstanceAs (Decidable (_ ∧ _))

/-- A ticket that may still be let in: its row is ISSUED, or it has none yet. -/
def Admitting (t : TicketId) (db : Db) : Prop :=
  ∀ r, findTicket t db = some r → r.status = .issued

instance (t : TicketId) (db : Db) : Decidable (Admitting t db) :=
  inferInstanceAs (Decidable (∀ r, _ = some r → _))

/-- Whether the ticket can still be admitted, as a number. -/
def admitting (t : TicketId) (db : Db) : Int := if Admitting t db then 1 else 0

/-- Only the ticket's own row counts. -/
theorem admitting_congr {t : TicketId} {db db' : Db} (h : findTicket t db' = findTicket t db) :
    admitting t db' = admitting t db := by
  have hiff : Admitting t db' ↔ Admitting t db := by rw [Admitting, Admitting, h]
  simp only [admitting, hiff]

/-- The SUCCESS log a request is about to write. -/
def pending (t : TicketId) : Ask → Int
  | .verifyLog params _ => if params.Successful t then 1 else 0
  | .syncLog _ params _ => if params.Successful t then 1 else 0
  | _ => 0

/-- A call has at least nothing to log. -/
theorem pending_nonneg (t : TicketId) (d : Ask) : 0 ≤ pending t d := by
  cases d <;> simp only [pending] <;> first | exact le_refl _ | split <;> decide

@[simp] theorem next_pending (t : TicketId) (loop : SyncLoop) :
    loop.next.worth (pending t) (fun _ => (0 : Int)) = 0 := by
  simp only [SyncLoop.next]
  split <;> rfl

/-- A log row adds one success of the ticket, or none. -/
theorem successLogs_logged (t : TicketId) (params : LogParams) (w : World) :
    (successLogs t (w.logged params).db : Int)
      = successLogs t w.db + if params.Successful t then 1 else 0 := by
  have hrow : ((params.row w.now).ticketId = some t ∧ (params.row w.now).status = .success)
      ↔ params.Successful t := Iff.rfl
  simp only [successLogs, logged_logs, List.countP_append, List.countP_singleton, hrow,
    decide_eq_true_eq]
  split <;> simp

/-- The winner takes the admission of its ticket, and of no other. -/
theorem admitting_moved {t id : TicketId} (src : Option (DeviceId × EventId)) {w : World}
    (hk : w.db.Keyed) (h : ¬ Closed id w) :
    admitting t (w.moved id src).db + (if id = t then 1 else 0) = admitting t w.db := by
  by_cases he : id = t
  · subst he
    rw [closed_iff hk] at h
    push Not at h
    obtain ⟨r, hr, hissued⟩ := h
    have hbefore : Admitting id w.db := by
      intro r' hr'
      rw [hr] at hr'
      cases hr'
      exact hissued
    have hafter : ¬ Admitting id (w.moved id src).db := by
      intro ha
      have := ha (r.checkIn w.now) (by
        rw [moved_findTicket, hr, Option.map_some, if_pos ⟨findTicket_id hr, hissued⟩])
      cases this
    simp [admitting, hbefore, hafter]
  · have hsame : findTicket t (w.moved id src).db = findTicket t w.db := by
      rw [moved_findTicket]
      cases hr : findTicket t w.db with
      | none => rfl
      | some r =>
          rw [Option.map_some, if_neg]
          rintro ⟨hid, -⟩
          exact he (hid.symm.trans (findTicket_id hr))
    rw [admitting_congr hsame, if_neg he, add_zero]

/-- The row of an admitted online scan is a success of its ticket. -/
theorem onlineSuccess_successful {t : TicketId} {dto : VerifyTicketDto} {staffId : UserId}
    {ticket : Ticket} : (onlineSuccess dto staffId ticket).Successful t ↔ dto.ticketId = t := by
  simp [LogParams.Successful, onlineSuccess, onlineLog]

/-- So is the row of an admitted delivery. -/
theorem syncSuccess_successful {t : TicketId} {record : SyncCheckinRecordDto} {staffId : UserId}
    {ticket : Ticket} :
    (syncSuccess record staffId ticket).1.Successful t ↔ record.ticketId = t := by
  simp [LogParams.Successful, syncSuccess, offlineLog]

/-- The row of a rejected delivery is none. -/
theorem Rejected.not_successful {record : SyncCheckinRecordDto} {staffId : UserId}
    {params : LogParams} {result : SyncCheckinResultDto}
    (h : Rejected record staffId params result) (t : TicketId) : ¬ params.Successful t := by
  obtain ⟨⟨reason, rfl⟩, -, hstatus⟩ := h
  rintro ⟨-, hs⟩
  have hs' : result.status = .success := hs
  rcases hstatus with h | h <;> rw [h] at hs' <;> cases hs'

/-- **The admission is passed on or lost.** -/
theorem Carried.admission {ch : Choice} {w w' : World} {d : Ask} {prog : Op}
    (h : Carried ch w d w' prog) (hk : w.db.Keyed) (t : TicketId) :
    admitting t w'.db + successLogs t w'.db + prog.worth (pending t) (fun _ => 0)
      ≤ admitting t w.db + successLogs t w.db + pending t d := by
  have hlogs : ∀ id src, successLogs t (w.moved id src).db = successLogs t w.db :=
    fun _ _ => rfl
  have htickets : ∀ params, admitting t (w.logged params).db = admitting t w.db := fun _ => rfl
  cases h with
  | failed d _ =>
      have := pending_nonneg t d
      simpa using this
  | verifyRejected dto staffId params e hc =>
      obtain ⟨status, reason, rfl, hstatus⟩ := verifyChecks_error hc
      have hno : ¬ (onlineLog dto staffId status reason).Successful t := fun hs => hstatus hs.2
      simp [pending, hno]
  | verifyPassed dto staffId ticket _ => exact le_refl _
  | verifyLost dto staffId ticket _ => exact le_refl _
  -- the one write that closes the ticket: what it admits is pending until it is logged
  | verifyWon dto staffId ticket hopen =>
      have hadm := admitting_moved (t := t) none hk hopen
      simp only [Prog.worth_ask, pending, onlineSuccess_successful, hlogs]
      omega
  | verifyCurrent dto staffId current _ =>
      have hno : ¬ (verifyTooLate dto staffId current).1.Successful t := by
        simp [LogParams.Successful, verifyTooLate, onlineLog]
      simp [pending, hno]
  | verifyLogRefused params answer _ =>
      have := pending_nonneg t (.verifyLog params answer)
      simpa using this
  | verifyLogged params answer _ =>
      rw [successLogs_logged, htickets]
      simp only [Prog.worth_ret, pending]
      omega
  | replayed loop record existingLog _ => simp [pending]
  | notSeen loop record _ => exact le_refl _
  | syncRejected loop record params result hc =>
      have hno := (syncChecks_error hc).not_successful t
      simp [pending, hno]
  | syncPassed loop record ticket _ => exact le_refl _
  | syncLost loop record ticket _ =>
      have hno : ¬ (syncConflict record loop.staffId).1.Successful t := by
        simp [LogParams.Successful, syncConflict, offlineLog]
      simp [pending, hno]
  -- the same write for a delivery
  | syncWon loop record ticket _ hopen =>
      have hadm := admitting_moved (t := t)
        (some (record.deviceId, record.offlineEventId)) hk hopen
      simp only [Prog.worth_ask, pending, syncSuccess_successful, hlogs]
      omega
  | syncLogRefused loop params result _ =>
      have := pending_nonneg t (.syncLog loop params result)
      simpa using this
  | syncLogged loop params result _ _ =>
      rw [successLogs_logged, htickets, next_pending]
      simp only [pending]
      omega

/-! ## The answers -/

/-- What a request is about to answer follows from what it is about to log. -/
def AnswerLogged : Ask → Prop
  | .verifyUpdate dto _ ticket => ticket.id = dto.ticketId
  | .verifyLog params answer =>
      ∀ t, answer.acceptances t ≤ if params.Successful t then 1 else 0
  | .syncLog _ params result => ∀ t, result.Accepts t → params.Successful t
  | _ => True

/-- The loop tells no acceptance before it logs one. -/
theorem next_answerLogged (loop : SyncLoop) : loop.next.All AnswerLogged (fun _ => True) := by
  simp only [SyncLoop.next]
  split <;> trivial

/-- A result without success accepts nothing. -/
theorem syncResult_rejects {t : TicketId} {record : SyncCheckinRecordDto} {status : CheckinStatus}
    {conflict : Bool} {message : String} :
    ¬ (syncResult record false status conflict message).Accepts t := by
  simp [SyncCheckinResultDto.Accepts, syncResult]

/-- A request that goes on to log is about to answer no more than that. -/
theorem Carried.answerLogged {ch : Choice} {w w' : World} {d : Ask} {prog : Op}
    (h : Carried ch w d w' prog) (hd : AnswerLogged d) :
    prog.All AnswerLogged (fun _ => True) := by
  cases h with
  | failed d _ => trivial
  | verifyRejected dto staffId params e _ => exact fun t => Nat.zero_le _
  | verifyPassed dto staffId ticket hc => exact findTicket_id (verifyChecks_ok hc)
  | verifyLost dto staffId ticket _ => trivial
  | verifyWon dto staffId ticket _ =>
      intro t
      have hid : ticket.id = dto.ticketId := hd
      simp only [Answer.acceptances, verifyResponse, onlineSuccess_successful, hid, and_true]
      exact le_refl _
  | verifyCurrent dto staffId current _ => exact fun t => Nat.zero_le _
  | verifyLogRefused params answer _ => trivial
  | verifyLogged params answer _ => trivial
  | replayed loop record existingLog _ => exact next_answerLogged _
  | notSeen loop record _ => trivial
  | syncRejected loop record params result hc =>
      intro t hacc
      obtain ⟨-, ⟨message, hres⟩, -⟩ := syncChecks_error hc
      rw [hres] at hacc
      exact absurd hacc syncResult_rejects
  | syncPassed loop record ticket _ => trivial
  | syncLost loop record ticket _ => exact fun t hacc => absurd hacc syncResult_rejects
  | syncWon loop record ticket _ _ => exact fun t hacc => syncSuccess_successful.mpr hacc.1
  | syncLogRefused loop params result _ => trivial
  | syncLogged loop params result _ _ => exact next_answerLogged _

/-- Every step keeps acceptances logged before they are told. -/
theorem answerLogged_step {G : Condition} {p q : State} (hs : checkin.Step G p q)
    (hp : ∀ prog ∈ p.ops, prog.All AnswerLogged (fun _ => True)) :
    ∀ prog ∈ q.ops, prog.All AnswerLogged (fun _ => True) := by
  refine hs.all (J := fun _ => AnswerLogged) (K := fun _ _ => True) hp ?_ ?_ ?_ ?_
  · intro r prog _ he
    cases he
    cases r with
    | verify dto staffId => trivial
    | sync dto staffId => exact next_answerLogged _
  · intro ch d w' prog _ hd _ hdec
    exact ⟨(carried_of_decide hdec).answerLogged hd, fun _ h => h, fun _ h => h⟩
  · exact fun _ t => nomatch t
  · exact fun _ _ => ⟨fun _ h => h, fun _ h => h⟩

/-- What a request has said so far: the results it has collected. -/
def said (t : TicketId) : Ask → Int
  | .syncFindLog loop _ => (loop.results.countP fun r => r.Accepts t : Nat)
  | .syncFindTicket loop _ => (loop.results.countP fun r => r.Accepts t : Nat)
  | .syncUpdate loop _ _ => (loop.results.countP fun r => r.Accepts t : Nat)
  | .syncLog loop _ _ => (loop.results.countP fun r => r.Accepts t : Nat)
  | _ => 0

/-- A call has told at least nothing. -/
theorem said_nonneg (t : TicketId) (d : Ask) : 0 ≤ said t d := by
  cases d <;> simp only [said] <;> first | exact le_refl _ | exact Int.natCast_nonneg _

@[simp] theorem next_said (t : TicketId) (loop : SyncLoop) :
    loop.next.worth (said t) (fun a => (a.acceptances t : Int))
      = (loop.results.countP fun r => r.Accepts t : Nat) := by
  simp only [SyncLoop.next]
  split <;> rfl

/-- One more result, which accepts the ticket or not. -/
theorem countP_push (t : TicketId) (loop : SyncLoop) (result : SyncCheckinResultDto) :
    ((loop.push result).results.countP fun r => r.Accepts t)
      = (loop.results.countP fun r => r.Accepts t) + if result.Accepts t then 1 else 0 := by
  simp [List.countP_append, List.countP_singleton]

/-- **No success is told before its log is in.** -/
theorem Carried.answered {ch : Choice} {w w' : World} {d : Ask} {prog : Op}
    (h : Carried ch w d w' prog) (hd : AnswerLogged d) (t : TicketId) :
    -(successLogs t w'.db : Int) + prog.worth (said t) (fun a => (a.acceptances t : Int))
      ≤ -(successLogs t w.db : Int) + said t d := by
  have hlogs : ∀ id src, successLogs t (w.moved id src).db = successLogs t w.db :=
    fun _ _ => rfl
  cases h with
  | failed d _ =>
      have := said_nonneg t d
      simpa [Answer.acceptances] using this
  | verifyRejected dto staffId params e _ => exact le_refl _
  | verifyPassed dto staffId ticket _ => exact le_refl _
  | verifyLost dto staffId ticket _ => exact le_refl _
  | verifyWon dto staffId ticket _ => exact le_refl _
  | verifyCurrent dto staffId current _ => exact le_refl _
  | verifyLogRefused params answer _ => exact le_refl _
  | verifyLogged params answer _ =>
      have hle : answer.acceptances t ≤ if params.Successful t then 1 else 0 := hd t
      rw [successLogs_logged]
      simp only [Prog.worth_ret, said]
      by_cases hs : params.Successful t
      · rw [if_pos hs] at hle ⊢
        omega
      · rw [if_neg hs] at hle ⊢
        omega
  | replayed loop record existingLog _ =>
      have hno : ¬ (replayResult record existingLog).Accepts t := fun hacc => hacc.2.2 rfl
      rw [next_said, countP_push, if_neg hno]
      exact le_refl _
  | notSeen loop record _ => exact le_refl _
  | syncRejected loop record params result _ => exact le_refl _
  | syncPassed loop record ticket _ => exact le_refl _
  | syncLost loop record ticket _ => exact le_refl _
  | syncWon loop record ticket _ _ => exact le_refl _
  | syncLogRefused loop params result _ =>
      have := said_nonneg t (.syncLog loop params result)
      simpa [Answer.acceptances] using this
  | syncLogged loop params result _ _ =>
      have hle : result.Accepts t → params.Successful t := hd t
      rw [successLogs_logged, next_said, countP_push]
      simp only [said]
      by_cases hacc : result.Accepts t
      · rw [if_pos hacc, if_pos (hle hacc)]
        push_cast
        omega
      · rw [if_neg hacc]
        split <;> omega

/-! ## Every run -/

/-- The ticket's one admission, in every reachable state. -/
structure Admitted (t : TicketId) (p : State) : Prop where
  keyed : p.world.db.Keyed
  matched : ∀ prog ∈ p.ops, prog.All AnswerLogged (fun _ => True)
  admission : admitting t p.world.db + successLogs t p.world.db
    + p.worth (pending t) (fun _ => 0) ≤ 1

/-- What the requests have said of a ticket, beyond its SUCCESS logs. -/
def unfounded (t : TicketId) (p : State) : Int :=
  -(successLogs t p.world.db : Int) + p.worth (said t) fun a => (a.acceptances t : Int)

/-- Nothing beside the requests opens a ticket again. -/
theorem admitting_happen (t : TicketId) (e : Event) (w : World) :
    admitting t (e.happen w).db ≤ admitting t w.db := by
  cases hr : findTicket t w.db with
  | none =>
      have hadm : Admitting t w.db := by
        intro r h
        rw [hr] at h
        cases h
      simp only [admitting, if_pos hadm]
      split <;> decide
  | some r =>
      have hsame : findTicket t (e.happen w).db = findTicket t w.db := by
        rw [hr]
        exact happen_findTicket e hr
      exact (admitting_congr hsame).le

/-- Every step keeps the account of a ticket. -/
theorem Admitted.step {t : TicketId} {G : Condition} {p q : State} (hp : Admitted t p)
    (hs : checkin.Step G p q) : Admitted t q where
  keyed := keyed_step hs hp.keyed
  matched := answerLogged_step hs hp.matched
  admission := by
    refine le_trans (hs.weigh (· ≤ ·) le_refl (fun _ _ c h => add_le_add_left h c)
      (fun w => admitting t w.db + successLogs t w.db) ?_ ?_ ?_) hp.admission
    · intro r prog _ he
      cases he
      cases r with
      | verify dto staffId => exact le_refl _
      | sync dto staffId => exact (next_pending t _).le
    · intro ch d w' prog _ _ hdec
      exact (carried_of_decide hdec).admission hp.keyed t
    · intro e _
      have hlogs : successLogs t (e.happen p.world).db = successLogs t p.world.db := by
        simp [successLogs]
      have := admitting_happen t e p.world
      show admitting t (e.happen p.world).db + (successLogs t (e.happen p.world).db : Int) ≤ _
      rw [hlogs]
      omega

/-- No step tells an acceptance that is not logged. -/
theorem unfounded_step {t : TicketId} {G : Condition} {p q : State}
    (hmatched : ∀ prog ∈ p.ops, prog.All AnswerLogged (fun _ => True))
    (hs : checkin.Step G p q) : unfounded t q ≤ unfounded t p := by
  refine hs.weigh (· ≤ ·) le_refl (fun _ _ c h => add_le_add_left h c)
    (fun w => -(successLogs t w.db : Int)) ?_ ?_ ?_
  · intro r prog _ he
    cases he
    cases r with
    | verify dto staffId => exact le_refl _
    | sync dto staffId => exact (next_said t _).le
  · intro ch d w' prog hmem _ hdec
    exact (carried_of_decide hdec).answered (hmatched _ hmem) t
  · intro e _
    show -(successLogs t (e.happen p.world).db : Int) ≤ _
    simp [successLogs]

/-- At the start the account is even. -/
theorem Opening.admitted {p : State} (h : Opening p) (t : TicketId) : Admitted t p where
  keyed := h.keyed
  matched prog hmem := by
    rw [h.ops_nil] at hmem
    cases hmem
  admission := by
    simp only [Pool.worth, successLogs, h.logs_nil, h.ops_nil, List.map_nil, List.sum_nil,
      List.countP_nil, admitting]
    split <;> decide

/-- At the start nothing has been told. -/
theorem Opening.unfounded {p : State} (h : Opening p) (t : TicketId) : unfounded t p = 0 := by
  simp [TicketCheckin.unfounded, Pool.worth, successLogs, h.logs_nil, h.ops_nil]

/-- The log holds at most one success of a ticket. -/
theorem Admitted.successLogs_le {t : TicketId} {p : State} (h : Admitted t p) :
    successLogs t p.world.db ≤ 1 := by
  have hadm := h.admission
  have hpend : 0 ≤ p.worth (pending t) (fun _ => (0 : Int)) :=
    p.worth_nonneg (pending_nonneg t) fun _ => le_refl _
  have hopen : 0 ≤ admitting t p.world.db := by
    simp only [admitting]
    split <;> decide
  omega

/-- An ended request has said no more than all requests have. -/
theorem acceptances_le_said (t : TicketId) (p : State) :
    acceptances t p ≤ p.worth (said t) fun a => (a.acceptances t : Int) :=
  p.worth_mono (said_nonneg t) fun _ => le_refl _

/-- A CHECKED_IN row stays as it is. -/
theorem checkedIn_step {t : TicketId} {r : Ticket} {G : Condition} {p q : State}
    (hp : findTicket t p.world.db = some r) (hr : r.status = .checkedIn)
    (hs : checkin.Step G p q) : findTicket t q.world.db = some r :=
  hs.world (I := fun w => findTicket t w.db = some r) hp
    (fun _ _ _ _ _ _ hd => (carried_of_decide hd).checkedIn hp hr) (fun _ t => nomatch t)
    fun e _ => happen_findTicket e hp

/-- **At most one successful check-in per ticket**, however online calls and
    offline batches interleave. -/
theorem checkin_at_most_once {p q : State} (hp : Opening p) (h : checkin.Run Guard.any p q)
    (t : TicketId) :
    successLogs t q.world.db ≤ 1 ∧ acceptances t q ≤ 1 ∧
      ∀ q' r, checkin.Run Guard.any q q' → findTicket t q.world.db = some r →
        r.status = .checkedIn → findTicket t q'.world.db = some r := by
  obtain ⟨hq, hsaid⟩ : Admitted t q ∧ unfounded t q ≤ 0 :=
    h.inv (I := fun p => Admitted t p ∧ unfounded t p ≤ 0)
      (fun _ _ hp hs => ⟨hp.1.step hs, (unfounded_step hp.1.matched hs).trans hp.2⟩)
      ⟨hp.admitted t, (hp.unfounded t).le⟩
  have hlogs := hq.successLogs_le
  refine ⟨hlogs, ?_, ?_⟩
  · have hle := acceptances_le_said t q
    simp only [unfounded] at hsaid
    omega
  · intro q' r hrun hr hstatus
    exact hrun.inv (I := fun p => findTicket t p.world.db = some r)
      (fun _ _ h => checkedIn_step h hstatus) hr

/-! ### Two devices at one ticket -/

/-- A hall with the tickets of these ids, none of them bound to a gate. -/
def hall (ids : List TicketId) : State where
  world :=
    { config :=
        { sha256 := fun token => s!"sha256 {token}"
          hmacSha256 := fun key text => s!"hmac {key} {text}"
          qrSecret := "dev_qr_secret" }
      db :=
        { tickets := ids.map fun t =>
            { id := t, concertId := 1, ticketTypeName := "GA", gateId := none,
              qrTokenHash := "sha256 token", qrSignature := none, status := .issued,
              checkedInAt := none }
          logs := [] }
      now := 0
      checkedInBy := [] }
  ops := []

/-- A hall whose tickets differ is a start. -/
theorem hall_opening {ids : List TicketId} (h : ids.Nodup) : Opening (hall ids) where
  keyed := by
    show ((ids.map _).map Ticket.id).Nodup
    rw [List.map_map]
    exact h.map fun _ _ he => he
  logs_nil := rfl
  checkedInBy_nil := rfl
  ops_nil := rfl

theorem e1_ne : ("e1" : EventId) ≠ "" := by decide

/-- An offline scan of ticket `t1` by device `d1`. -/
def offlineScan (e : EventId) (he : e ≠ "") : SyncCheckinRecordDto where
  ticketId := "t1"
  token := "token"
  deviceId := "d1"
  gateId := none
  offlineEventId := e
  ticketId_ne := by decide
  token_ne := by decide
  deviceId_ne := by decide
  offlineEventId_ne := he

/-- An online scan of ticket `t1` by device `d2`. -/
def onlineScan : VerifyTicketDto where
  ticketId := "t1"
  token := "token"
  deviceId := "d2"
  gateId := none
  ticketId_ne := by decide
  token_ne := by decide
  deviceId_ne := by decide

/-- The online call and a batch that holds one event twice reach the ticket
    together; the batch wins. -/
def twoDevices : List (Action Choice Request Event) :=
  [.start (.verify onlineScan 1),
   .start (.sync ⟨[offlineScan "e1" e1_ne, offlineScan "e1" e1_ne]⟩ 2),
   .step 0 0 {}, .step 1 0 {}, .step 1 0 {}, .step 1 0 {}, .step 0 0 {}, .step 0 0 {},
   .step 1 0 {}, .step 0 0 {}, .step 1 0 {}]

/-- Two devices scan one ticket, and one of them is told yes. -/
theorem checkin_at_most_once_twoDevices :
    ∃ q, checkin.Run Guard.any (hall ["t1"]) q ∧ q.Quiet ∧ q.world.db.logs.length = 2 ∧
      acceptances "t1" q = 1 ∧ successLogs "t1" q.world.db ≤ 1 ∧ acceptances "t1" q ≤ 1 := by
  obtain ⟨q, hrun, hq⟩ : ∃ q, checkin.Run Guard.any (hall ["t1"]) q ∧
      (q.Quiet ∧ q.world.db.logs.length = 2 ∧ acceptances "t1" q = 1) :=
    exists_run twoDevices _ (by decide)
  have honce := checkin_at_most_once (hall_opening (by decide)) hrun "t1"
  exact ⟨q, hrun, hq.1, hq.2.1, hq.2.2, honce.1, honce.2.1⟩

end TicketCheckin
