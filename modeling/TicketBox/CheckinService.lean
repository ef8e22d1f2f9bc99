import TicketBox.CheckinStore
import TicketBox.Sequential

/-! # `checkin.service.ts`

    `verifyAndCheckin` and `syncCheckin`, cut at their awaited statements.  What
    a function decides between two statements is a pure definition
    (`verifyChecks`, `syncChecks`); each statement is one call of `Ask`.  There is
    no transaction: between any two statements other requests run, and the
    request may fail or its process may crash. -/

namespace TicketCheckin

open Interleave TicketStore

/-! ## DTOs and answers -/

/-- `VerifyTicketDto`, as the validation pipe lets it through. -/
structure VerifyTicketDto where
  ticketId : TicketId
  token : String
  deviceId : DeviceId
  gateId : Option String
  ticketId_ne : ticketId ≠ ""
  token_ne : token ≠ ""
  deviceId_ne : deviceId ≠ ""
  deriving DecidableEq

/-- `SyncCheckinRecordDto`: one scan made offline. -/
structure SyncCheckinRecordDto where
  ticketId : TicketId
  token : String
  deviceId : DeviceId
  gateId : Option String
  offlineEventId : EventId
  ticketId_ne : ticketId ≠ ""
  token_ne : token ≠ ""
  deviceId_ne : deviceId ≠ ""
  offlineEventId_ne : offlineEventId ≠ ""
  deriving DecidableEq

/-- `SyncCheckinDto`: the batch that a device delivers. -/
structure SyncCheckinDto where
  records : List SyncCheckinRecordDto
  deriving DecidableEq

/-- `SyncCheckinResultDto`: what the server tells of one record. -/
structure SyncCheckinResultDto where
  ticketId : TicketId
  offlineEventId : EventId
  success : Bool
  status : CheckinStatus
  conflict : Bool
  message : String
  deriving DecidableEq

/-- `SyncCheckinResponseDto`: the results of a batch, with their counts. -/
structure SyncCheckinResponseDto where
  total : Nat
  success : Nat
  failed : Nat
  conflicts : Nat
  results : List SyncCheckinResultDto
  deriving DecidableEq

/-- `VerifyTicketResponseDto`: the answer of an online scan. -/
structure VerifyTicketResponseDto where
  success : Bool
  ticketId : TicketId
  concertId : ConcertId
  ticketTypeName : String
  status : TicketStatus
  message : String
  deriving DecidableEq

/-- The exceptions of the service; `internal` is any other error, a refused log
    row among them. -/
inductive CheckinError where
  | notFound (message : String)
  | badRequest (message : String)
  | internal
  deriving DecidableEq

/-- What a request ended with.  `received` stands for an answer its client has
    already taken. -/
inductive Answer where
  | verified (response : VerifyTicketResponseDto)
  | synced (dto : SyncCheckinDto) (response : SyncCheckinResponseDto)
  | refused (e : CheckinError)
  | received
  deriving DecidableEq

/-! ## `logCheckinAttempt` -/

/-- The arguments of `createLog`. -/
structure LogParams where
  ticketId : Option TicketId
  staffId : UserId
  concertId : Option ConcertId := none
  deviceId : DeviceId
  gate : Option String
  offlineEventId : Option EventId := none
  status : CheckinStatus
  reason : Option String := none
  isOffline : Bool := false
  conflict : Bool := false
  deriving DecidableEq

/-- The row `logCheckinAttempt` writes. -/
def LogParams.row (params : LogParams) (now : Nat) : CheckinLog where
  ticketId := params.ticketId
  staffId := params.staffId
  concertId := params.concertId
  deviceId := params.deviceId
  gate := params.gate
  offlineEventId := params.offlineEventId
  status := params.status
  reason := params.reason
  isOffline := params.isOffline
  conflict := params.conflict
  scannedAt := now
  syncedAt := if params.isOffline then none else some now

/-- `logCheckinAttempt`: the log row of an attempt; none where a foreign key fails. -/
def logCheckinAttempt (params : LogParams) (w : World) : Option World :=
  (createLog (params.row w.now) w.db).map fun db => { w with db := db }

/-! ## The checks -/

/-- The HMAC a ticket must carry: its id, token hash and gate name. -/
def recomputeSignature (config : QrConfig) (ticketId qrTokenHash gateId : String) : String :=
  config.hmacSha256 config.qrSecret s!"{ticketId}:{qrTokenHash}:{gateId}"

/-- `presented && assigned && presented !== assigned`: an empty name is no gate. -/
def GateMismatch (presented assigned : Option String) : Prop :=
  presented.getD "" ≠ "" ∧ assigned.getD "" ≠ "" ∧ presented ≠ assigned

/-- Both scans branch on it. -/
instance (presented assigned : Option String) : Decidable (GateMismatch presented assigned) :=
  inferInstanceAs (Decidable (_ ∧ _ ∧ _))

/-- A gate as the messages name it; it is present wherever one is sent. -/
def gateText (gateId : Option String) : String := gateId.getD ""

/-- A ticket without a signature is not checked. -/
def SignatureMismatch (config : QrConfig) (ticket : Ticket) : Prop :=
  ticket.qrSignature.getD "" ≠ "" ∧
    some (recomputeSignature config ticket.id ticket.qrTokenHash (ticket.gateId.getD ""))
      ≠ ticket.qrSignature

/-- So do they on the signature. -/
instance (config : QrConfig) (ticket : Ticket) : Decidable (SignatureMismatch config ticket) :=
  inferInstanceAs (Decidable (_ ∧ _))

/-- `TicketStatus` as it prints, `undefined` for a missing row. -/
def statusText : Option TicketStatus → String
  | some .issued => "ISSUED"
  | some .checkedIn => "CHECKED_IN"
  | some .cancelled => "CANCELLED"
  | some .refunded => "REFUNDED"
  | none => "undefined"

/-! ## `verifyAndCheckin` -/

/-- What every log of an online attempt says. -/
def onlineLog (dto : VerifyTicketDto) (staffId : UserId) (status : CheckinStatus)
    (reason : Option String) : LogParams where
  ticketId := some dto.ticketId
  staffId := staffId
  deviceId := dto.deviceId
  gate := dto.gateId
  status := status
  reason := reason

/-- Steps 1 to 4: the log and the exception of a rejected attempt, or the ticket. -/
def verifyChecks (config : QrConfig) (dto : VerifyTicketDto) (staffId : UserId) :
    Option Ticket → Except (LogParams × CheckinError) Ticket
  | none =>
      .error (onlineLog dto staffId .invalidTicket (some s!"Ticket {dto.ticketId} not found"),
        .notFound "Vé không tồn tại")
  | some ticket =>
      if GateMismatch dto.gateId ticket.gateId then
        .error (onlineLog dto staffId .gateMismatch
            (some s!"Gate mismatch: ticket assigned to {gateText ticket.gateId}, device at {gateText dto.gateId}"),
          .badRequest s!"Vé này thuộc cổng {gateText ticket.gateId}, bạn đang ở cổng khác")
      else if SignatureMismatch config ticket then
        .error (onlineLog dto staffId .invalidTicket
            (some "HMAC signature mismatch — ticket may have been tampered with"),
          .badRequest "Mã QR không hợp lệ")
      else if ticket.qrTokenHash ≠ config.sha256 dto.token then
        .error (onlineLog dto staffId .invalidTicket (some "Token hash mismatch"),
          .badRequest "Mã QR không hợp lệ")
      else .ok ticket

/-- The answer of a check-in that went through. -/
def verifyResponse (ticket : Ticket) : VerifyTicketResponseDto where
  success := true
  ticketId := ticket.id
  concertId := ticket.concertId
  ticketTypeName := ticket.ticketTypeName
  status := .checkedIn
  message := "Check-in thành công"

/-- The log of a check-in that went through. -/
def onlineSuccess (dto : VerifyTicketDto) (staffId : UserId) (ticket : Ticket) : LogParams :=
  { onlineLog dto staffId .success none with concertId := some ticket.concertId }

/-- The log and the exception of an attempt whose ticket was not ISSUED. -/
def verifyTooLate (dto : VerifyTicketDto) (staffId : UserId) (current : Option Ticket) :
    LogParams × CheckinError :=
  let status := current.map Ticket.status
  (onlineLog dto staffId .alreadyCheckedIn
      (some (if status = some .checkedIn then "Ticket already checked in"
        else s!"Ticket status is {statusText status}")),
    .badRequest "Vé đã được check-in trước đó")

/-! ## `syncCheckin` -/

/-- The message that tells a replayed event from a processed one. -/
def alreadySynced : String := "Bản ghi đã được đồng bộ trước đó (idempotent)"

/-- The result of a record. -/
def syncResult (record : SyncCheckinRecordDto) (success : Bool) (status : CheckinStatus)
    (conflict : Bool) (message : String) : SyncCheckinResultDto where
  ticketId := record.ticketId
  offlineEventId := record.offlineEventId
  success := success
  status := status
  conflict := conflict
  message := message

/-- The result of a record whose event is logged already. -/
def replayResult (record : SyncCheckinRecordDto) (existingLog : CheckinLog) :
    SyncCheckinResultDto :=
  syncResult record true existingLog.status existingLog.conflict alreadySynced

/-- What every log of an offline attempt says. -/
def offlineLog (record : SyncCheckinRecordDto) (staffId : UserId) (status : CheckinStatus)
    (reason : Option String) : LogParams where
  ticketId := some record.ticketId
  staffId := staffId
  deviceId := record.deviceId
  gate := record.gateId
  offlineEventId := some record.offlineEventId
  status := status
  reason := reason
  isOffline := true

/-- The checks of an event not seen before: the log and the result of a rejected
    record, or the ticket. -/
def syncChecks (config : QrConfig) (record : SyncCheckinRecordDto) (staffId : UserId) :
    Option Ticket → Except (LogParams × SyncCheckinResultDto) Ticket
  | none =>
      .error (offlineLog record staffId .invalidTicket (some s!"Ticket {record.ticketId} not found"),
        syncResult record false .invalidTicket false "Vé không tồn tại")
  | some ticket =>
      if GateMismatch record.gateId ticket.gateId then
        .error (offlineLog record staffId .gateMismatch
            (some s!"Offline gate mismatch: ticket assigned to {gateText ticket.gateId}, device at {gateText record.gateId}"),
          syncResult record false .gateMismatch false
            s!"Vé này thuộc cổng {gateText ticket.gateId}, bạn đang ở cổng khác")
      else if SignatureMismatch config ticket then
        .error (offlineLog record staffId .invalidTicket
            (some "HMAC signature mismatch — ticket may have been tampered with"),
          syncResult record false .invalidTicket false "Mã QR không hợp lệ")
      else if ticket.qrTokenHash ≠ config.sha256 record.token then
        .error (offlineLog record staffId .invalidTicket (some "Token hash mismatch"),
          syncResult record false .invalidTicket false "Mã QR không hợp lệ")
      else .ok ticket

/-- The log and the result of a record whose ticket was not ISSUED any more. -/
def syncConflict (record : SyncCheckinRecordDto) (staffId : UserId) :
    LogParams × SyncCheckinResultDto :=
  ({ offlineLog record staffId .rejectedConflict
      (some "Ticket already checked in via another device or gate") with conflict := true },
    syncResult record false .rejectedConflict true "Vé đã được check-in từ thiết bị/cổng khác")

/-- The log and the result of a record that checked its ticket in. -/
def syncSuccess (record : SyncCheckinRecordDto) (staffId : UserId) (ticket : Ticket) :
    LogParams × SyncCheckinResultDto :=
  ({ offlineLog record staffId .success none with concertId := some ticket.concertId },
    syncResult record true .success false "Check-in thành công")

/-- The loop of `syncCheckin`: the results so far and the counters. -/
structure SyncLoop where
  dto : SyncCheckinDto
  staffId : UserId
  results : List SyncCheckinResultDto
  success : Nat
  failed : Nat
  conflicts : Nat
  deriving DecidableEq

/-- The loop of `syncCheckin` before its first record. -/
def SyncLoop.start (dto : SyncCheckinDto) (staffId : UserId) : SyncLoop where
  dto := dto
  staffId := staffId
  results := []
  success := 0
  failed := 0
  conflicts := 0

/-- `results.push(result)`, and one of the counters. -/
def SyncLoop.push (loop : SyncLoop) (result : SyncCheckinResultDto) : SyncLoop :=
  let loop := { loop with results := loop.results ++ [result] }
  if result.success && !result.conflict then { loop with success := loop.success + 1 }
  else if result.conflict then { loop with conflicts := loop.conflicts + 1 }
  else { loop with failed := loop.failed + 1 }

/-- The response after the last record. -/
def SyncLoop.response (loop : SyncLoop) : SyncCheckinResponseDto where
  total := loop.dto.records.length
  success := loop.success
  failed := loop.failed
  conflicts := loop.conflicts
  results := loop.results

/-- The record the loop stands at; every earlier one has its result. -/
def SyncLoop.current (loop : SyncLoop) : Option SyncCheckinRecordDto :=
  loop.dto.records[loop.results.length]?

/-! ## Statements -/

/-- The statements of the two functions, each with the locals it still needs. -/
inductive Ask where
  | verifyFind (dto : VerifyTicketDto) (staffId : UserId)
  | verifyUpdate (dto : VerifyTicketDto) (staffId : UserId) (ticket : Ticket)
  | verifyCurrent (dto : VerifyTicketDto) (staffId : UserId)
  | verifyLog (params : LogParams) (answer : Answer)
  | syncFindLog (loop : SyncLoop) (record : SyncCheckinRecordDto)
  | syncFindTicket (loop : SyncLoop) (record : SyncCheckinRecordDto)
  | syncUpdate (loop : SyncLoop) (record : SyncCheckinRecordDto) (ticket : Ticket)
  | syncLog (loop : SyncLoop) (params : LogParams) (result : SyncCheckinResultDto)
  deriving DecidableEq

/-- A request in flight. -/
abbrev Op := Prog Ask Empty Answer

/-- What the scheduler resolves: whether the statement fails, by an error of the
    database or by a crash of the process before it. -/
structure Choice where
  fails : Bool := false

/-- The loop goes on at its next record or answers. -/
def SyncLoop.next (loop : SyncLoop) : Op :=
  match loop.current with
  | none => .ret (.synced loop.dto loop.response)
  | some record => .ask (.syncFindLog loop record)

/-- The conditional update, with its count. -/
def tryCheckIn (id : TicketId) (src : Option (DeviceId × EventId)) (w : World) : Nat × World :=
  let (count, db) := updateIssued id w.now w.db
  (count, { w with
    db := db
    checkedInBy := if count = 0 then w.checkedInBy else w.checkedInBy ++ [(id, src)] })

/-- Each statement, carried out. -/
def carryOut (w : World) : Ask → World × Op
  | .verifyFind dto staffId =>
      match verifyChecks w.config dto staffId (findTicket dto.ticketId w.db) with
      | .error (params, e) => (w, .ask (.verifyLog params (.refused e)))
      | .ok ticket => (w, .ask (.verifyUpdate dto staffId ticket))
  | .verifyUpdate dto staffId ticket =>
      let (count, w) := tryCheckIn dto.ticketId none w
      if count = 0 then (w, .ask (.verifyCurrent dto staffId))
      else (w, .ask (.verifyLog (onlineSuccess dto staffId ticket)
        (.verified (verifyResponse ticket))))
  | .verifyCurrent dto staffId =>
      let (params, e) := verifyTooLate dto staffId (findTicket dto.ticketId w.db)
      (w, .ask (.verifyLog params (.refused e)))
  | .verifyLog params answer =>
      match logCheckinAttempt params w with
      | none => (w, .ret (.refused .internal))
      | some w => (w, .ret answer)
  | .syncFindLog loop record =>
      match findLog record.deviceId record.offlineEventId w.db with
      | some existingLog => (w, (loop.push (replayResult record existingLog)).next)
      | none => (w, .ask (.syncFindTicket loop record))
  | .syncFindTicket loop record =>
      match syncChecks w.config record loop.staffId (findTicket record.ticketId w.db) with
      | .error (params, result) => (w, .ask (.syncLog loop params result))
      | .ok ticket => (w, .ask (.syncUpdate loop record ticket))
  | .syncUpdate loop record ticket =>
      let (count, w) := tryCheckIn record.ticketId (some (record.deviceId, record.offlineEventId)) w
      let (params, result) :=
        if count = 0 then syncConflict record loop.staffId
        else syncSuccess record loop.staffId ticket
      (w, .ask (.syncLog loop params result))
  | .syncLog loop params result =>
      -- a refused row is an exception nobody catches: the whole batch ends
      match logCheckinAttempt params w with
      | none => (w, .ret (.refused .internal))
      | some w => (w, (loop.push result).next)

/-! ## The system -/

/-- The two routes of the controller. -/
inductive Request where
  | verify (dto : VerifyTicketDto) (staffId : UserId)
  | sync (dto : SyncCheckinDto) (staffId : UserId)

/-- How a request begins. -/
def Request.enter : Request → Op
  | .verify dto staffId => .ask (.verifyFind dto staffId)
  | .sync dto staffId => (SyncLoop.start dto staffId).next

/-- What happens to the tables besides check-in: time passes, and the issuing
    worker adds tickets under new ids. -/
inductive Event where
  | tick (ms : Nat)
  | issue (ticket : Ticket)

/-- What happens beside the requests: time passes, a ticket is issued or cancelled. -/
def Event.happen (w : World) : Event → World
  | .tick ms => { w with now := w.now + ms }
  | .issue ticket =>
      if (findTicket ticket.id w.db).isSome then w
      else { w with db := { w.db with
        tickets := w.db.tickets ++ [{ ticket with status := .issued, checkedInAt := none }] } }

/-- The check-in service. -/
def checkin : System World Ask Empty Answer Choice Request Event where
  decide := fun ch w d => some (if ch.fails then (w, .ret (.refused .internal)) else carryOut w d)
  perform := fun _ _ t => nomatch t
  enter := fun _ r => some r.enter
  env := fun e w => e.happen w
  detached := .received

/-- The database with the requests in flight. -/
abbrev State := Pool World Ask Empty Answer

/-- A condition on the steps of check-in. -/
abbrev Condition := Guard World Ask Empty Answer Choice Request Event

/-- The doors open: tickets with their ids, nobody scanned one yet. -/
structure Opening (p : State) : Prop where
  keyed : p.world.db.Keyed
  logs_nil : p.world.db.logs = []
  checkedInBy_nil : p.world.checkedInBy = []
  ops_nil : p.ops = []

end TicketCheckin
