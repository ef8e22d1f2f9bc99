import TicketBox.CheckinService
import TicketBox.Machine
import Mathlib.Data.List.Sort

/-! # The check-in app

    `useOfflineCheckin.ts` and `idb.ts` on one device, together with the
    service.  The device's page runs one scan at a time (`isScanning`) and one
    sync at a time (`isSyncingRef`), each cut at its awaited calls: the requests,
    whose response may be lost, and the IndexedDB transactions, which may fail.
    A request of the device is one operation of the service's pool; everything
    else the service does, other devices included, happens in between. -/

namespace CheckinPwa

open Interleave TicketCheckin
open TicketStore (UserId)

/-! ## The QR payload -/

/-- `ParsedQrPayload`: what the app reads from a code. -/
structure ParsedQrPayload where
  ticketId : TicketId
  token : String
  gateId : String
  ticketId_ne : ticketId ≠ ""
  token_ne : token ≠ ""
  gateId_ne : gateId ≠ ""

/-- White space and line terminators, as `trim` removes them. -/
def isTrimmed (c : Char) : Bool :=
  c.toNat ∈ [0x9, 0xA, 0xB, 0xC, 0xD, 0x20, 0xA0, 0x1680, 0x2028, 0x2029, 0x202F, 0x205F,
    0x3000, 0xFEFF] || (0x2000 ≤ c.toNat && c.toNat ≤ 0x200A)

/-- `String.prototype.trim`, on characters. -/
def trim (cs : List Char) : List Char :=
  ((cs.dropWhile isTrimmed).reverse.dropWhile isTrimmed).reverse

/-- `{ticketId}:{token}:{gateId}`; the gate may itself hold colons. -/
def parseQrPayload (raw : String) : Option ParsedQrPayload :=
  match (trim raw.toList).splitOn ':' with
  | ticketId :: token :: gatePart :: gateParts =>
      let ticketId := String.ofList ticketId
      let token := String.ofList token
      let gateId := String.ofList ([':'].intercalate (gatePart :: gateParts))
      if h : ticketId ≠ "" ∧ token ≠ "" ∧ gateId ≠ "" then
        some ⟨ticketId, token, gateId, h.1, h.2.1, h.2.2⟩
      else none
  | _ => none

/-! ## The stores of the device -/

/-- A row of `checkin_logs`: what a sync sends, and whether it went through. -/
structure OfflineScanRecord extends SyncCheckinRecordDto where
  synced : Bool
  deriving DecidableEq

/-- A row of `scanned_tickets`. -/
structure ScannedTicketEntry where
  ticketId : TicketId
  gateId : String
  offlineEventId : EventId
  deriving DecidableEq

/-- Whether the app admits a scan. -/
inductive ScanStatus where
  | valid | invalid
  deriving DecidableEq

/-- What the screen shows for a scan. -/
structure ScanResult where
  id : String
  gate : String
  type : Option String
  status : ScanStatus
  errorMsg : Option String
  isOffline : Option Bool
  deriving DecidableEq

/-- The id `uuidv4` gives a scan that takes the offline path. -/
abbrev Uuid := { e : EventId // e ≠ "" }

/-- Where `handleScan` stands. -/
inductive ScanPhase where
  | idle
  | sending (parsed : ParsedQrPayload) (uuid : Uuid)
  | verifying (parsed : ParsedQrPayload) (uuid : Uuid) (request : Nat)
  | checkingDuplicate (parsed : ParsedQrPayload) (uuid : Uuid)
  | saving (record : OfflineScanRecord)
  | marking (record : OfflineScanRecord)

/-- Where `triggerSync` stands. -/
inductive SyncPhase where
  | idle
  | reading
  | posting (unsynced : List OfflineScanRecord)
  | waiting (unsynced : List OfflineScanRecord) (request : Nat)
  | marking (unsynced : List OfflineScanRecord) (response : SyncCheckinResponseDto)
  | clearing (unsynced : List OfflineScanRecord) (conflictResults : List SyncCheckinResultDto)

/-- A device at a gate: its stores and the scan it is busy with. -/
structure Device where
  deviceId : DeviceId
  deviceId_ne : deviceId ≠ ""
  staffId : UserId
  gate : String
  isOnline : Bool
  checkinLogs : List OfflineScanRecord
  scannedTickets : List ScannedTicketEntry
  scan : ScanPhase
  sync : SyncPhase
  /-- bookkeeping: every result shown, with the event an offline scan was given -/
  shown : List (ScanResult × Option EventId)
  /-- bookkeeping: every ticket whose duplicate guard was cleared -/
  cleared : List TicketId

/-! ## `idb.ts` -/

/-- `saveCheckinLog`: `put` replaces the row of its key; rows are kept in the
    order of their keys. -/
def saveCheckinLog (record : OfflineScanRecord) (d : Device) : Device :=
  let others := d.checkinLogs.filter fun r => r.offlineEventId ≠ record.offlineEventId
  { d with
    checkinLogs := others.orderedInsert (fun a b => a.offlineEventId ≤ b.offlineEventId) record }

/-- `getUnsyncedCheckins`. -/
def getUnsynced (d : Device) : List OfflineScanRecord :=
  d.checkinLogs.filter fun r => !r.synced

/-- `markCheckinsSynced`. -/
def markSynced (offlineEventIds : List EventId) (d : Device) : Device :=
  { d with checkinLogs := d.checkinLogs.map fun r =>
      if r.offlineEventId ∈ offlineEventIds then { r with synced := true } else r }

/-- `hasTicketBeenScanned`. -/
def hasTicketBeenScanned (t : TicketId) (d : Device) : Bool :=
  d.scannedTickets.any fun entry => entry.ticketId = t

/-- `markTicketScanned`: one entry a ticket, in the order of the keys. -/
def markTicketScanned (entry : ScannedTicketEntry) (d : Device) : Device :=
  let others := d.scannedTickets.filter fun x => x.ticketId ≠ entry.ticketId
  { d with scannedTickets := others.orderedInsert (fun a b => a.ticketId ≤ b.ticketId) entry }

/-- `clearScannedTicket`. -/
def clearScannedTicket (t : TicketId) (d : Device) : Device :=
  { d with
    scannedTickets := d.scannedTickets.filter fun x => x.ticketId ≠ t
    cleared := d.cleared ++ [t] }

/-! ## Requests and results -/

/-- The body of an online scan. -/
def Device.verifyRequest (d : Device) (parsed : ParsedQrPayload) : VerifyTicketDto where
  ticketId := parsed.ticketId
  token := parsed.token
  deviceId := d.deviceId
  gateId := if d.gate = "" then none else some d.gate
  ticketId_ne := parsed.ticketId_ne
  token_ne := parsed.token_ne
  deviceId_ne := d.deviceId_ne

/-- The record that an offline scan stores. -/
def Device.offlineRecord (d : Device) (parsed : ParsedQrPayload) (uuid : Uuid) :
    OfflineScanRecord where
  ticketId := parsed.ticketId
  token := parsed.token
  deviceId := d.deviceId
  gateId := some d.gate
  offlineEventId := uuid.1
  ticketId_ne := parsed.ticketId_ne
  token_ne := parsed.token_ne
  deviceId_ne := d.deviceId_ne
  offlineEventId_ne := uuid.2
  synced := false

/-- The guard's entry for an offline scan. -/
def Device.scannedEntry (d : Device) (record : OfflineScanRecord) : ScannedTicketEntry where
  ticketId := record.ticketId
  gateId := d.gate
  offlineEventId := record.offlineEventId

/-- The body of a sync; the validation pipe strips what the DTO does not name. -/
def syncRequest (unsynced : List OfflineScanRecord) : SyncCheckinDto where
  records := unsynced.map OfflineScanRecord.toSyncCheckinRecordDto

/-- `message` in the body of an exception. -/
def errorMessage : CheckinError → String
  | .notFound message => message
  | .badRequest message => message
  | .internal => "Internal server error"

/-- What the app shows of a code it cannot read. -/
def malformedResult (d : Device) (raw : String) : ScanResult where
  id := if raw = "" then "UNKNOWN" else String.ofList (raw.toList.take 16)
  gate := d.gate
  type := none
  status := .invalid
  errorMsg := some "Mã QR không đúng định dạng"
  isOffline := none

/-- An online scan that was answered with an error. -/
def invalidResult (d : Device) (parsed : ParsedQrPayload) (message : String) : ScanResult where
  id := parsed.ticketId
  gate := d.gate
  type := none
  status := .invalid
  errorMsg := some message
  isOffline := some false

/-- The verdict of the service, read off the body of its response. -/
def onlineResult (d : Device) (parsed : ParsedQrPayload) : Answer → ScanResult
  | .verified response =>
      { id := parsed.ticketId
        gate := d.gate
        type := some response.ticketTypeName
        status := if response.success then .valid else .invalid
        errorMsg := if response.success then none else some response.message
        isOffline := some false }
  | .refused e => invalidResult d parsed (errorMessage e)
  | .synced _ _ => invalidResult d parsed ""
  | .received => invalidResult d parsed ""

/-- What the app shows of a ticket it has scanned before. -/
def dupResult (d : Device) (parsed : ParsedQrPayload) : ScanResult where
  id := parsed.ticketId
  gate := d.gate
  type := none
  status := .invalid
  errorMsg := some "VÉ ĐÃ ĐƯỢC CHECK-IN TRƯỚC ĐÓ"
  isOffline := some true

/-- What the app shows of an offline scan. -/
def offlineResult (d : Device) (record : OfflineScanRecord) : ScanResult where
  id := record.ticketId
  gate := d.gate
  type := none
  status := .valid
  errorMsg := none
  isOffline := some true

/-- The events `triggerSync` marks as synced. -/
def syncedIds (response : SyncCheckinResponseDto) : List EventId :=
  (response.results.filter fun r => r.success || r.status = .alreadyCheckedIn).map
    SyncCheckinResultDto.offlineEventId

/-- The results whose tickets lose their duplicate guard. -/
def conflictResults (response : SyncCheckinResponseDto) : List SyncCheckinResultDto :=
  response.results.filter fun r => r.conflict && !r.success

/-! ## The device and the service -/

/-- One device and the server. -/
structure Pwa where
  server : State
  device : Device

/-- What an awaited call of the page meets: its request or response is lost, a
    guard in front of the service denies it, its transaction fails. -/
structure Luck where
  lost : Bool := false
  denied : Option String := none
  idbFails : Bool := false

/-- What happens at the device or at the service. -/
inductive Move where
  | server (a : Action Choice Request Event)
  | goOnline
  | goOffline
  | scan (raw : String) (uuid : Uuid)
  | scanStep (luck : Luck)
  | triggerSync
  | syncStep (luck : Luck)
  | reload (isOnline : Bool)

/-- The scan is over and its result is shown. -/
def Device.show (d : Device) (r : ScanResult) (event : Option EventId) : Device :=
  { d with scan := .idle, shown := d.shown ++ [(r, event)] }

/-- A request arrives at the service. -/
def arrive (r : Request) (p : State) : State := ⟨p.world, p.ops ++ [r.enter]⟩

/-- The answer of request `i`, taken by its client. -/
def take (i : Nat) (p : State) : Option (Answer × State) :=
  match p.ops[i]? with
  | some (.ret answer) => some (answer, ⟨p.world, p.ops.set i (.ret .received)⟩)
  | _ => none

/-- The start of `handleScan`. -/
def handleScan (raw : String) (uuid : Uuid) (d : Device) : Device :=
  match parseQrPayload raw with
  | none => d.show (malformedResult d raw) none
  | some parsed =>
      { d with scan := if d.isOnline then .sending parsed uuid else .checkingDuplicate parsed uuid }

/-- The next awaited call of `handleScan`. -/
def scanNext (luck : Luck) (s : Pwa) : Option Pwa :=
  let d := s.device
  match d.scan with
  | .idle => none
  | .sending parsed uuid =>
      if luck.lost then some { s with device := { d with scan := .checkingDuplicate parsed uuid } }
      else
        match luck.denied with
        | some message =>
            some { s with device := d.show (invalidResult d parsed message) none }
        | none =>
            some
              { server := arrive (.verify (d.verifyRequest parsed) d.staffId) s.server
                device := { d with scan := .verifying parsed uuid s.server.ops.length } }
  | .verifying parsed uuid i =>
      -- a request that fails under way falls through to the offline path
      if luck.lost then some { s with device := { d with scan := .checkingDuplicate parsed uuid } }
      else
        (take i s.server).map fun x =>
          { server := x.2, device := d.show (onlineResult d parsed x.1) none }
  | .checkingDuplicate parsed uuid =>
      -- a failed check lets the scan through
      if !luck.idbFails && hasTicketBeenScanned parsed.ticketId d then
        some { s with device := d.show (dupResult d parsed) none }
      else some { s with device := { d with scan := .saving (d.offlineRecord parsed uuid) } }
  | .saving record =>
      if luck.idbFails then
        some { s with device := d.show (offlineResult d record) (some record.offlineEventId) }
      else some { s with device := { saveCheckinLog record d with scan := .marking record } }
  | .marking record =>
      let d := if luck.idbFails then d else markTicketScanned (d.scannedEntry record) d
      some { s with device := d.show (offlineResult d record) (some record.offlineEventId) }

/-- `if (isSyncingRef.current) return`. -/
def triggerSync (d : Device) : Device :=
  match d.sync with
  | .idle => { d with sync := .reading }
  | _ => d

/-- The next awaited call of `triggerSync`. -/
def syncNext (luck : Luck) (s : Pwa) : Option Pwa :=
  let d := s.device
  let stopped : Pwa := { s with device := { d with sync := .idle } }
  match d.sync with
  | .idle => none
  | .reading =>
      if luck.idbFails || (getUnsynced d).isEmpty then some stopped
      else some { s with device := { d with sync := .posting (getUnsynced d) } }
  | .posting unsynced =>
      if luck.lost || luck.denied.isSome then some stopped
      else
        some
          { server := arrive (.sync (syncRequest unsynced) d.staffId) s.server
            device := { d with sync := .waiting unsynced s.server.ops.length } }
  | .waiting unsynced i =>
      if luck.lost then some stopped
      else
        (take i s.server).map fun x =>
          match x.1 with
          | .synced _ response =>
              { server := x.2, device := { d with sync := .marking unsynced response } }
          -- `!res.ok` throws
          | _ => { server := x.2, device := { d with sync := .idle } }
  | .marking unsynced response =>
      if luck.idbFails && !(syncedIds response).isEmpty then some stopped
      else
        some { s with device :=
          { markSynced (syncedIds response) d with
            sync := .clearing unsynced (conflictResults response) } }
  | .clearing _ [] => some stopped
  | .clearing unsynced (conflict :: rest) =>
      let d' :=
        match unsynced.find? fun u => u.offlineEventId = conflict.offlineEventId with
        | some matched => if luck.idbFails then d else clearScannedTicket matched.ticketId d
        | none => d
      some { s with device := { d' with sync := .clearing unsynced rest } }

/-- One step of the device, of the network or of the server. -/
def next (s : Pwa) : Move → Option Pwa
  | .server a => (checkin.next s.server a).map fun p => { s with server := p }
  | .goOnline => some { s with device := triggerSync { s.device with isOnline := true } }
  | .goOffline => some { s with device := { s.device with isOnline := false } }
  | .scan raw uuid =>
      match s.device.scan with
      | .idle => some { s with device := handleScan raw uuid s.device }
      | _ => none
  | .scanStep luck => scanNext luck s
  | .triggerSync => some { s with device := triggerSync s.device }
  | .syncStep luck => syncNext luck s
  | .reload isOnline =>
      some { s with device := { s.device with isOnline := isOnline, scan := .idle, sync := .idle } }

/-- A device starts: nothing shown yet, and what its store holds is its own. -/
structure Start (s : Pwa) : Prop where
  opening : Opening s.server
  scan_idle : s.device.scan = .idle
  sync_idle : s.device.sync = .idle
  shown_nil : s.device.shown = []
  cleared_nil : s.device.cleared = []
  own_logs : ∀ r ∈ s.device.checkinLogs, r.deviceId = s.device.deviceId

end CheckinPwa
