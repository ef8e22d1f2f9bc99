import TicketBox.CheckinService

/-! # What a statement of check-in can do

    The inversion of `checkin`: `Carried` lists, once, every way a statement can
    end.  Only two of them touch the tables: the update that wins (`moved`) and
    the log row that is admitted (`logged`).  The proofs about check-in are case
    analyses over it. -/

namespace TicketCheckin

open Interleave TicketStore

/-! ## The two writes -/

/-- The update has won: the ticket is CHECKED_IN, by `src`. -/
def World.moved (id : TicketId) (src : Option (DeviceId × EventId)) (w : World) : World :=
  { w with
    db := (updateIssued id w.now w.db).2
    checkedInBy := w.checkedInBy ++ [(id, src)] }

/-- The log row is in. -/
def World.logged (params : LogParams) (w : World) : World :=
  { w with db := { w.db with logs := w.db.logs ++ [params.row w.now] } }

@[simp] theorem moved_logs (id : TicketId) (src : Option (DeviceId × EventId)) (w : World) :
    (w.moved id src).db.logs = w.db.logs := rfl
@[simp] theorem moved_config (id : TicketId) (src : Option (DeviceId × EventId)) (w : World) :
    (w.moved id src).config = w.config := rfl
@[simp] theorem moved_by (id : TicketId) (src : Option (DeviceId × EventId)) (w : World) :
    (w.moved id src).checkedInBy = w.checkedInBy ++ [(id, src)] := rfl
@[simp] theorem logged_logs (params : LogParams) (w : World) :
    (w.logged params).db.logs = w.db.logs ++ [params.row w.now] := rfl
@[simp] theorem logged_tickets (params : LogParams) (w : World) :
    (w.logged params).db.tickets = w.db.tickets := rfl
@[simp] theorem logged_config (params : LogParams) (w : World) :
    (w.logged params).config = w.config := rfl
@[simp] theorem logged_by (params : LogParams) (w : World) :
    (w.logged params).checkedInBy = w.checkedInBy := rfl
@[simp] theorem logged_findTicket (t : TicketId) (params : LogParams) (w : World) :
    findTicket t (w.logged params).db = findTicket t w.db := rfl

/-- The status write changes the ticket it admits. -/
theorem moved_findTicket (t id : TicketId) (src : Option (DeviceId × EventId)) (w : World) :
    findTicket t (w.moved id src).db
      = (findTicket t w.db).map fun r => if r.Admits id then r.checkIn w.now else r :=
  findTicket_updateIssued t id w.now w.db

/-! ## Spec of the statements -/

@[simp] theorem push_results (loop : SyncLoop) (result : SyncCheckinResultDto) :
    (loop.push result).results = loop.results ++ [result] := by
  simp only [SyncLoop.push]
  split
  · rfl
  · split <;> rfl

@[simp] theorem push_dto (loop : SyncLoop) (result : SyncCheckinResultDto) :
    (loop.push result).dto = loop.dto := by
  simp only [SyncLoop.push]
  split
  · rfl
  · split <;> rfl


/-- No ticket of this id is ISSUED. -/
def Closed (id : TicketId) (w : World) : Prop := ∀ r ∈ w.db.tickets, ¬ r.Admits id

/-- The status write finds out. -/
instance (id : TicketId) (w : World) : Decidable (Closed id w) :=
  inferInstanceAs (Decidable (∀ r ∈ w.db.tickets, ¬ r.Admits id))

/-- An update that finds nothing to change changes nothing. -/
theorem tryCheckIn_closed {id : TicketId} {w : World} (h : Closed id w)
    (src : Option (DeviceId × EventId)) : tryCheckIn id src w = (0, w) := by
  have hcount : (updateIssued id w.now w.db).1 = 0 := updateIssued_count.mpr h
  have hsame : (updateIssued id w.now w.db).2 = w.db := by
    have hmap : (w.db.tickets.map fun r => if r.Admits id then r.checkIn w.now else r)
        = w.db.tickets := by
      refine (List.map_congr_left fun r hr => ?_).trans (List.map_id _)
      exact if_neg (h r hr)
    show ({ w.db with tickets := _ } : Db) = w.db
    rw [hmap]
  simp only [tryCheckIn, hcount, hsame, if_true]

/-- An open ticket is moved. -/
theorem tryCheckIn_open {id : TicketId} {w : World} (h : ¬ Closed id w)
    (src : Option (DeviceId × EventId)) :
    (tryCheckIn id src w).1 ≠ 0 ∧ (tryCheckIn id src w).2 = w.moved id src := by
  have hcount : (updateIssued id w.now w.db).1 ≠ 0 := fun h0 => h (updateIssued_count.mp h0)
  refine ⟨hcount, ?_⟩
  simp only [tryCheckIn, hcount, if_false]
  rfl

/-- The log row fails exactly where it is not admissible. -/
theorem logCheckinAttempt_none {params : LogParams} {w : World} :
    logCheckinAttempt params w = none ↔ ¬ Admissible (params.row w.now) w.db := by
  simp [logCheckinAttempt, createLog]

/-- A log row that is written was admissible. -/
theorem logCheckinAttempt_some {params : LogParams} {w w' : World}
    (h : logCheckinAttempt params w = some w') :
    Admissible (params.row w.now) w.db ∧ w' = w.logged params := by
  simp only [logCheckinAttempt, Option.map_eq_some_iff] at h
  obtain ⟨db, hdb, rfl⟩ := h
  obtain ⟨hok, rfl⟩ := createLog_some hdb
  exact ⟨hok, rfl⟩

/-! ## The inversion -/

/-- What a statement can do to the world and to its request. -/
inductive Carried (ch : Choice) (w : World) : Ask → World → Op → Prop where
  | failed (d : Ask) : ch.fails = true → Carried ch w d w (.ret (.refused .internal))
  | verifyRejected (dto : VerifyTicketDto) (staffId : UserId) (params : LogParams)
      (e : CheckinError) :
      verifyChecks w.config dto staffId (findTicket dto.ticketId w.db) = .error (params, e) →
      Carried ch w (.verifyFind dto staffId) w (.ask (.verifyLog params (.refused e)))
  | verifyPassed (dto : VerifyTicketDto) (staffId : UserId) (ticket : Ticket) :
      verifyChecks w.config dto staffId (findTicket dto.ticketId w.db) = .ok ticket →
      Carried ch w (.verifyFind dto staffId) w (.ask (.verifyUpdate dto staffId ticket))
  | verifyLost (dto : VerifyTicketDto) (staffId : UserId) (ticket : Ticket) :
      Closed dto.ticketId w →
      Carried ch w (.verifyUpdate dto staffId ticket) w (.ask (.verifyCurrent dto staffId))
  | verifyWon (dto : VerifyTicketDto) (staffId : UserId) (ticket : Ticket) :
      ¬ Closed dto.ticketId w →
      Carried ch w (.verifyUpdate dto staffId ticket) (w.moved dto.ticketId none)
        (.ask (.verifyLog (onlineSuccess dto staffId ticket) (.verified (verifyResponse ticket))))
  | verifyCurrent (dto : VerifyTicketDto) (staffId : UserId) (current : Option Ticket) :
      findTicket dto.ticketId w.db = current →
      Carried ch w (.verifyCurrent dto staffId) w
        (.ask (.verifyLog (verifyTooLate dto staffId current).1
          (.refused (verifyTooLate dto staffId current).2)))
  | verifyLogRefused (params : LogParams) (answer : Answer) :
      ¬ Admissible (params.row w.now) w.db →
      Carried ch w (.verifyLog params answer) w (.ret (.refused .internal))
  | verifyLogged (params : LogParams) (answer : Answer) :
      Admissible (params.row w.now) w.db →
      Carried ch w (.verifyLog params answer) (w.logged params) (.ret answer)
  | replayed (loop : SyncLoop) (record : SyncCheckinRecordDto) (existingLog : CheckinLog) :
      findLog record.deviceId record.offlineEventId w.db = some existingLog →
      Carried ch w (.syncFindLog loop record) w (loop.push (replayResult record existingLog)).next
  | notSeen (loop : SyncLoop) (record : SyncCheckinRecordDto) :
      ¬ Logged record.deviceId record.offlineEventId w.db →
      Carried ch w (.syncFindLog loop record) w (.ask (.syncFindTicket loop record))
  | syncRejected (loop : SyncLoop) (record : SyncCheckinRecordDto) (params : LogParams)
      (result : SyncCheckinResultDto) :
      syncChecks w.config record loop.staffId (findTicket record.ticketId w.db)
        = .error (params, result) →
      Carried ch w (.syncFindTicket loop record) w (.ask (.syncLog loop params result))
  | syncPassed (loop : SyncLoop) (record : SyncCheckinRecordDto) (ticket : Ticket) :
      syncChecks w.config record loop.staffId (findTicket record.ticketId w.db) = .ok ticket →
      Carried ch w (.syncFindTicket loop record) w (.ask (.syncUpdate loop record ticket))
  | syncLost (loop : SyncLoop) (record : SyncCheckinRecordDto) (ticket : Ticket) :
      Closed record.ticketId w →
      Carried ch w (.syncUpdate loop record ticket) w
        (.ask (.syncLog loop (syncConflict record loop.staffId).1
          (syncConflict record loop.staffId).2))
  | syncWon (loop : SyncLoop) (record : SyncCheckinRecordDto) (ticket : Ticket) :
      ch.fails = false → ¬ Closed record.ticketId w →
      Carried ch w (.syncUpdate loop record ticket)
        (w.moved record.ticketId (some (record.deviceId, record.offlineEventId)))
        (.ask (.syncLog loop (syncSuccess record loop.staffId ticket).1
          (syncSuccess record loop.staffId ticket).2))
  | syncLogRefused (loop : SyncLoop) (params : LogParams) (result : SyncCheckinResultDto) :
      ¬ Admissible (params.row w.now) w.db →
      Carried ch w (.syncLog loop params result) w (.ret (.refused .internal))
  | syncLogged (loop : SyncLoop) (params : LogParams) (result : SyncCheckinResultDto) :
      ch.fails = false → Admissible (params.row w.now) w.db →
      Carried ch w (.syncLog loop params result) (w.logged params) (loop.push result).next

/-- What a call that succeeds does. -/
theorem carried_of_carryOut {ch : Choice} {w w' : World} {d : Ask} {prog : Op}
    (hf : ch.fails = false) (h : carryOut w d = (w', prog)) : Carried ch w d w' prog := by
  cases d with
  | verifyFind dto staffId =>
      simp only [carryOut] at h
      split at h
      · next params e hc =>
        cases h
        exact .verifyRejected dto staffId params e hc
      · next ticket hc =>
        cases h
        exact .verifyPassed dto staffId ticket hc
  -- `updateMany` with the status in its `where`: it moves one row or none
  | verifyUpdate dto staffId ticket =>
      by_cases hclosed : Closed dto.ticketId w
      · simp only [carryOut, tryCheckIn_closed hclosed, if_true] at h
        cases h
        exact .verifyLost dto staffId ticket hclosed
      · obtain ⟨hne, hw⟩ := tryCheckIn_open hclosed none
        simp only [carryOut, if_neg hne, hw] at h
        cases h
        exact .verifyWon dto staffId ticket hclosed
  | verifyCurrent dto staffId =>
      cases h
      exact .verifyCurrent dto staffId _ rfl
  | verifyLog params answer =>
      simp only [carryOut] at h
      split at h
      · next hnone =>
        cases h
        exact .verifyLogRefused params answer (logCheckinAttempt_none.mp hnone)
      · next w₁ hsome =>
        cases h
        obtain ⟨hok, rfl⟩ := logCheckinAttempt_some hsome
        exact .verifyLogged params answer hok
  -- an event that is logged is replayed from its row
  | syncFindLog loop record =>
      simp only [carryOut] at h
      split at h
      · next existingLog hsome =>
        cases h
        exact .replayed loop record existingLog hsome
      · next hnone =>
        cases h
        exact .notSeen loop record (findLog_none.mp hnone)
  | syncFindTicket loop record =>
      simp only [carryOut] at h
      split at h
      · next params result hc =>
        cases h
        exact .syncRejected loop record params result hc
      · next ticket hc =>
        cases h
        exact .syncPassed loop record ticket hc
  | syncUpdate loop record ticket =>
      by_cases hclosed : Closed record.ticketId w
      · simp only [carryOut, tryCheckIn_closed hclosed, if_true] at h
        cases h
        exact .syncLost loop record ticket hclosed
      · obtain ⟨hne, hw⟩ :=
          tryCheckIn_open hclosed (some (record.deviceId, record.offlineEventId))
        simp only [carryOut, if_neg hne, hw] at h
        cases h
        exact .syncWon loop record ticket hf hclosed
  | syncLog loop params result =>
      simp only [carryOut] at h
      split at h
      · next hnone =>
        cases h
        exact .syncLogRefused loop params result (logCheckinAttempt_none.mp hnone)
      · next w₁ hsome =>
        cases h
        obtain ⟨hok, rfl⟩ := logCheckinAttempt_some hsome
        exact .syncLogged loop params result hf hok

/-- Every call is carried out, or stopped. -/
theorem carried_of_decide {ch : Choice} {w w' : World} {d : Ask} {prog : Op}
    (h : checkin.decide ch w d = some (w', prog)) : Carried ch w d w' prog := by
  simp only [checkin, Option.some.injEq] at h
  split at h
  · next hf =>
    cases h
    exact .failed d hf
  · next hf =>
    exact carried_of_carryOut (Bool.eq_false_of_not_eq_true hf) h

/-! ## The checks name the record's own ticket -/

/-- A ticket is found under its id. -/
theorem findTicket_id {t : TicketId} {db : Db} {ticket : Ticket}
    (h : findTicket t db = some ticket) : ticket.id = t :=
  RowTable.lookup_key h

/-- A scan that passes the checks has found its ticket. -/
theorem verifyChecks_ok {config : QrConfig} {dto : VerifyTicketDto} {staffId : UserId}
    {found : Option Ticket} {ticket : Ticket}
    (h : verifyChecks config dto staffId found = .ok ticket) : found = some ticket := by
  cases found with
  | none => cases h
  | some r =>
      simp only [verifyChecks] at h
      split at h
      · cases h
      · split at h
        · cases h
        · split at h
          · cases h
          · cases h
            rfl

/-- A rejected online attempt logs its own call, and no success. -/
theorem verifyChecks_error {config : QrConfig} {dto : VerifyTicketDto} {staffId : UserId}
    {found : Option Ticket} {params : LogParams} {e : CheckinError}
    (h : verifyChecks config dto staffId found = .error (params, e)) :
    ∃ status reason, params = onlineLog dto staffId status reason ∧ status ≠ .success := by
  cases found with
  | none =>
      cases h
      exact ⟨_, _, rfl, by simp⟩
  | some r =>
      simp only [verifyChecks] at h
      split at h
      · cases h
        exact ⟨_, _, rfl, by simp⟩
      · split at h
        · cases h
          exact ⟨_, _, rfl, by simp⟩
        · split at h
          · cases h
            exact ⟨_, _, rfl, by simp⟩
          · cases h

/-- The log and the result of a rejected record: both carry the record's own
    ids and one status, which is INVALID_TICKET or GATE_MISMATCH. -/
structure Rejected (record : SyncCheckinRecordDto) (staffId : UserId) (params : LogParams)
    (result : SyncCheckinResultDto) : Prop where
  params_eq : ∃ reason, params = offlineLog record staffId result.status reason
  result_eq : ∃ message, result = syncResult record false result.status false message
  status : result.status = .invalidTicket ∨ result.status = .gateMismatch

/-- A delivery that fails a check is rejected. -/
theorem syncChecks_error {config : QrConfig} {record : SyncCheckinRecordDto} {staffId : UserId}
    {found : Option Ticket} {params : LogParams} {result : SyncCheckinResultDto}
    (h : syncChecks config record staffId found = .error (params, result)) :
    Rejected record staffId params result := by
  cases found with
  | none =>
      cases h
      exact ⟨⟨_, rfl⟩, ⟨_, rfl⟩, .inl rfl⟩
  | some r =>
      simp only [syncChecks] at h
      split at h
      · cases h
        exact ⟨⟨_, rfl⟩, ⟨_, rfl⟩, .inr rfl⟩
      · split at h
        · cases h
          exact ⟨⟨_, rfl⟩, ⟨_, rfl⟩, .inl rfl⟩
        · split at h
          · cases h
            exact ⟨⟨_, rfl⟩, ⟨_, rfl⟩, .inl rfl⟩
          · cases h

/-! ## The log of a record -/

/-- The record is a delivery of this offline event. -/
def SyncCheckinRecordDto.OfEvent (dev : DeviceId) (e : EventId) (r : SyncCheckinRecordDto) :
    Prop :=
  r.deviceId = dev ∧ r.offlineEventId = e

/-- A record names its event. -/
instance (dev : DeviceId) (e : EventId) (r : SyncCheckinRecordDto) :
    Decidable (r.OfEvent dev e) :=
  inferInstanceAs (Decidable (_ ∧ _))

/-- The log is one of this offline event. -/
def LogParams.OfEvent (dev : DeviceId) (e : EventId) (params : LogParams) : Prop :=
  params.deviceId = dev ∧ params.offlineEventId = some e

/-- So does what is logged. -/
instance (dev : DeviceId) (e : EventId) (params : LogParams) : Decidable (params.OfEvent dev e) :=
  inferInstanceAs (Decidable (_ ∧ _))

/-- The result names its record. -/
def SyncCheckinResultDto.Answers (record : SyncCheckinRecordDto) (r : SyncCheckinResultDto) :
    Prop :=
  r.ticketId = record.ticketId ∧ r.offlineEventId = record.offlineEventId

/-- The log and the result of one record name its ticket and its event; one that
    calls itself a conflict is no SUCCESS. -/
structure LogOf (record : SyncCheckinRecordDto) (params : LogParams)
    (result : SyncCheckinResultDto) : Prop where
  ticketId : params.ticketId = some record.ticketId
  deviceId : params.deviceId = record.deviceId
  offlineEventId : params.offlineEventId = some record.offlineEventId
  answers : result.Answers record
  conflict : result.conflict = params.conflict
  conflict_status : params.conflict = true → params.status ≠ .success

/-- The log row of a record is one of its event. -/
theorem LogOf.event {record : SyncCheckinRecordDto} {params : LogParams}
    {result : SyncCheckinResultDto} (h : LogOf record params result) (dev : DeviceId)
    (e : EventId) : params.OfEvent dev e ↔ record.OfEvent dev e := by
  simp [LogParams.OfEvent, SyncCheckinRecordDto.OfEvent, h.deviceId, h.offlineEventId]

/-- The row of a record is admitted when its ticket exists and its event is new. -/
theorem LogOf.admissible {record : SyncCheckinRecordDto} {params : LogParams}
    {result : SyncCheckinResultDto} (h : LogOf record params result) (now : Nat) (db : Db) :
    Admissible (params.row now) db ↔
      (findTicket record.ticketId db).isSome ∧
        ¬ Logged record.deviceId record.offlineEventId db := by
  have hid : (params.row now).ticketId = some record.ticketId := h.ticketId
  have hev : (params.row now).offlineEventId = some record.offlineEventId := h.offlineEventId
  have hdev : (params.row now).deviceId = record.deviceId := h.deviceId
  simp [Admissible, hid, hev, hdev]

/-- The row of a rejected delivery is the row of its record. -/
theorem Rejected.logOf {record : SyncCheckinRecordDto} {staffId : UserId} {params : LogParams}
    {result : SyncCheckinResultDto} (h : Rejected record staffId params result) :
    LogOf record params result := by
  obtain ⟨⟨reason, hp⟩, ⟨message, hr⟩, -⟩ := h
  have hconflict : result.conflict = false := by
    rw [hr]
    rfl
  subst hp
  refine ⟨rfl, rfl, rfl, ?_, hconflict, ?_⟩
  · rw [hr]
    exact ⟨rfl, rfl⟩
  · intro hc
    cases hc

/-- So is the row of a conflict. -/
theorem syncConflict_logOf (record : SyncCheckinRecordDto) (staffId : UserId) :
    LogOf record (syncConflict record staffId).1 (syncConflict record staffId).2 where
  ticketId := rfl
  deviceId := rfl
  offlineEventId := rfl
  answers := ⟨rfl, rfl⟩
  conflict := rfl
  conflict_status _ hs := by cases hs

/-- So is the row of an admitted delivery. -/
theorem syncSuccess_logOf (record : SyncCheckinRecordDto) (staffId : UserId) (ticket : Ticket) :
    LogOf record (syncSuccess record staffId ticket).1 (syncSuccess record staffId ticket).2 where
  ticketId := rfl
  deviceId := rfl
  offlineEventId := rfl
  answers := ⟨rfl, rfl⟩
  conflict := rfl
  conflict_status hc := by cases hc

/-! ## The events of the tables -/

/-- An event leaves the logs, the keys and every ticket that exists alone. -/
theorem happen_findTicket {t : TicketId} {w : World} (e : Event) {r : Ticket}
    (h : findTicket t w.db = some r) : findTicket t (e.happen w).db = some r := by
  cases e with
  | tick ms => exact h
  | issue ticket =>
      simp only [Event.happen]
      split
      · exact h
      · show RowTable.lookup Ticket.id t (w.db.tickets ++ [_]) = _
        rw [RowTable.lookup_append, show RowTable.lookup Ticket.id t w.db.tickets = some r from h,
          Option.some_or]

@[simp] theorem happen_logs (e : Event) (w : World) : (e.happen w).db.logs = w.db.logs := by
  cases e with
  | tick ms => rfl
  | issue ticket =>
      simp only [Event.happen]
      split <;> rfl

@[simp] theorem happen_by (e : Event) (w : World) :
    (e.happen w).checkedInBy = w.checkedInBy := by
  cases e with
  | tick ms => rfl
  | issue ticket =>
      simp only [Event.happen]
      split <;> rfl

@[simp] theorem happen_config (e : Event) (w : World) : (e.happen w).config = w.config := by
  cases e with
  | tick ms => rfl
  | issue ticket =>
      simp only [Event.happen]
      split <;> rfl

/-! ## Keys -/

/-- A call keeps the ids of tickets apart. -/
theorem Carried.keyed {ch : Choice} {w w' : World} {d : Ask} {prog : Op}
    (h : Carried ch w d w' prog) (hk : w.db.Keyed) : w'.db.Keyed := by
  cases h <;> first | exact hk | exact keyed_updateIssued hk

/-- So does what happens beside the requests. -/
theorem happen_keyed {w : World} (e : Event) (hk : w.db.Keyed) : (e.happen w).db.Keyed := by
  cases e with
  | tick ms => exact hk
  | issue ticket =>
      simp only [Event.happen]
      split
      · exact hk
      · next hnew => exact RowTable.Keyed.append hk (Option.not_isSome_iff_eq_none.mp hnew)

/-- Ids stay unique. -/
theorem keyed_step {G : Condition} {p q : State} (hs : checkin.Step G p q)
    (hk : p.world.db.Keyed) : q.world.db.Keyed :=
  hs.world hk (fun _ _ _ _ _ _ hd => (carried_of_decide hd).keyed hk) (fun _ t => nomatch t)
    fun e _ => happen_keyed e hk

/-- A CHECKED_IN ticket is left alone by every statement. -/
theorem Carried.checkedIn {ch : Choice} {w w' : World} {d : Ask} {prog : Op} {t : TicketId}
    {r : Ticket} (h : Carried ch w d w' prog) (hr : findTicket t w.db = some r)
    (hstatus : r.status = .checkedIn) : findTicket t w'.db = some r := by
  have hmoved : ∀ id src, findTicket t (w.moved id src).db = some r := by
    intro id src
    rw [moved_findTicket, hr, Option.map_some, if_neg]
    rintro ⟨-, hissued⟩
    rw [hstatus] at hissued
    cases hissued
  cases h <;> first | exact hr | exact hmoved _ _

/-- In a keyed table a ticket is closed exactly when its row is not ISSUED. -/
theorem closed_iff {id : TicketId} {w : World} (hk : w.db.Keyed) :
    Closed id w ↔ ∀ r, findTicket id w.db = some r → r.status ≠ .issued := by
  constructor
  · intro h r hr hissued
    exact h r (RowTable.lookup_mem hr) ⟨findTicket_id hr, hissued⟩
  · rintro h r hr ⟨rfl, hissued⟩
    exact h r (RowTable.lookup_of_mem hk hr) hissued

end TicketCheckin
