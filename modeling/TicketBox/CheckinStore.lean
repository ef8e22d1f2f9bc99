import TicketBox.Store

/-! # The data of check-in

    The columns of `Ticket` and the rows of `CheckinLog` that
    `checkin.service.ts` reads or writes, with its statements: two lookups, the
    conditional `updateMany` and the insertion of a log row under the foreign key
    `CheckinLog_ticketId_fkey` and the unique index
    `CheckinLog_deviceId_offlineEventId_key`.  Ticket ids, tokens, gates, devices
    and offline events are the strings the QR code and the app exchange. -/

namespace TicketCheckin

open TicketStore

/-- `Ticket.id`. -/
abbrev TicketId := String

/-- `CheckinLog.deviceId`. -/
abbrev DeviceId := String

/-- `CheckinLog.offlineEventId`. -/
abbrev EventId := String

/-- `CheckinStatus` of the schema. -/
inductive CheckinStatus where
  | success | invalidTicket | alreadyCheckedIn | offlinePending | rejectedConflict | gateMismatch
  deriving DecidableEq

/-- A row of `Ticket`, with the name of its ticket type; `gateId` holds the
    gate's name. -/
structure Ticket where
  id : TicketId
  concertId : ConcertId
  ticketTypeName : String
  gateId : Option String
  qrTokenHash : String
  qrSignature : Option String
  status : TicketStatus
  checkedInAt : Option Nat
  deriving DecidableEq

/-- A row of `CheckinLog`. -/
structure CheckinLog where
  ticketId : Option TicketId
  staffId : UserId
  concertId : Option ConcertId
  deviceId : DeviceId
  gate : Option String
  offlineEventId : Option EventId
  status : CheckinStatus
  reason : Option String
  isOffline : Bool
  conflict : Bool
  scannedAt : Nat
  syncedAt : Option Nat
  deriving DecidableEq

/-- The tables that check-in reads and writes. -/
structure Db where
  tickets : List Ticket
  logs : List CheckinLog
  deriving DecidableEq

/-- No two tickets share an id. -/
def Db.Keyed (db : Db) : Prop := RowTable.Keyed Ticket.id db.tickets

instance (db : Db) : Decidable db.Keyed :=
  inferInstanceAs (Decidable (List.Nodup _))

/-! ## Lookups -/

/-- `prisma.ticket.findUnique` by id. -/
def findTicket (id : TicketId) (db : Db) : Option Ticket :=
  RowTable.lookup Ticket.id id db.tickets

/-- The row is the log of this offline event. -/
def CheckinLog.OfEvent (dev : DeviceId) (e : EventId) (l : CheckinLog) : Prop :=
  l.deviceId = dev ∧ l.offlineEventId = some e

/-- A log row names its event. -/
instance (dev : DeviceId) (e : EventId) (l : CheckinLog) : Decidable (l.OfEvent dev e) :=
  inferInstanceAs (Decidable (_ ∧ _))

/-- `prisma.checkinLog.findUnique` by device and offline event. -/
def findLog (dev : DeviceId) (e : EventId) (db : Db) : Option CheckinLog :=
  db.logs.find? fun l => l.OfEvent dev e

/-- The row that is found is one of the event. -/
theorem findLog_some {dev : DeviceId} {e : EventId} {db : Db} {l : CheckinLog}
    (h : findLog dev e db = some l) : l ∈ db.logs ∧ l.OfEvent dev e :=
  ⟨List.mem_of_find?_eq_some h, by simpa using List.find?_some h⟩

/-- The event has a log row. -/
def Logged (dev : DeviceId) (e : EventId) (db : Db) : Prop :=
  ∃ l ∈ db.logs, l.OfEvent dev e

/-- The log is searched for the event. -/
instance (dev : DeviceId) (e : EventId) (db : Db) : Decidable (Logged dev e db) :=
  inferInstanceAs (Decidable (∃ l ∈ db.logs, l.OfEvent dev e))

/-- None is found where the event is not logged. -/
theorem findLog_none {dev : DeviceId} {e : EventId} {db : Db} :
    findLog dev e db = none ↔ ¬ Logged dev e db := by
  simp [findLog, Logged]

/-! ## The conditional update -/

/-- The row the `where` of the update matches. -/
def Ticket.Admits (id : TicketId) (r : Ticket) : Prop := r.id = id ∧ r.status = .issued

/-- The `WHERE` of the status write. -/
instance (id : TicketId) (r : Ticket) : Decidable (r.Admits id) :=
  inferInstanceAs (Decidable (_ ∧ _))

/-- The row after check-in. -/
def Ticket.checkIn (now : Nat) (r : Ticket) : Ticket :=
  { r with status := .checkedIn, checkedInAt := some now }

/-- `updateMany({ where: { id, status: ISSUED }, data: { status: CHECKED_IN } })`,
    with the number of rows it changed. -/
def updateIssued (id : TicketId) (now : Nat) (db : Db) : Nat × Db :=
  ((db.tickets.filter fun r => r.Admits id).length,
    { db with tickets := db.tickets.map fun r => if r.Admits id then r.checkIn now else r })

/-! ## The log row -/

/-- The constraints of `CheckinLog` admit the row: its ticket exists and its
    event has no row yet (`null`s never collide). -/
def Admissible (row : CheckinLog) (db : Db) : Prop :=
  (∀ t, row.ticketId = some t → (findTicket t db).isSome) ∧
    ∀ e, row.offlineEventId = some e → ¬ Logged row.deviceId e db

/-- The database checks its keys on every insert. -/
instance (row : CheckinLog) (db : Db) : Decidable (Admissible row db) :=
  inferInstanceAs (Decidable ((∀ t, _ = some t → _) ∧ ∀ e, _ = some e → _))

/-- `prisma.checkinLog.create`: the row is added, or a constraint refuses it. -/
def createLog (row : CheckinLog) (db : Db) : Option Db :=
  if Admissible row db then some { db with logs := db.logs ++ [row] } else none

/-- A row that is inserted was admissible. -/
theorem createLog_some {row : CheckinLog} {db db' : Db} (h : createLog row db = some db') :
    Admissible row db ∧ db' = { db with logs := db.logs ++ [row] } := by
  simp only [createLog] at h
  split at h
  · next hok => exact ⟨hok, by simpa using h.symm⟩
  · cases h

/-- An admissible row is inserted. -/
theorem createLog_of {row : CheckinLog} {db : Db} (h : Admissible row db) :
    createLog row db = some { db with logs := db.logs ++ [row] } :=
  if_pos h

/-- Another one is refused. -/
theorem createLog_none {row : CheckinLog} {db : Db} (h : ¬ Admissible row db) :
    createLog row db = none :=
  if_neg h

/-- A new row is logged, and logs what it is the row of. -/
theorem logged_append {dev : DeviceId} {e : EventId} {db : Db} {row : CheckinLog} :
    Logged dev e { db with logs := db.logs ++ [row] }
      ↔ Logged dev e db ∨ row.OfEvent dev e := by
  simp [Logged, or_and_right, exists_or]

/-! ## The update, row by row -/

@[simp] theorem checkIn_id (now : Nat) (r : Ticket) : (r.checkIn now).id = r.id := rfl
@[simp] theorem checkIn_status (now : Nat) (r : Ticket) :
    (r.checkIn now).status = .checkedIn := rfl
@[simp] theorem updateIssued_logs (id : TicketId) (now : Nat) (db : Db) :
    (updateIssued id now db).2.logs = db.logs := rfl

/-- The update changes its own ticket only, and that one if it is ISSUED. -/
theorem findTicket_updateIssued (t id : TicketId) (now : Nat) (db : Db) :
    findTicket t (updateIssued id now db).2
      = (findTicket t db).map fun r => if r.Admits id then r.checkIn now else r := by
  simp only [findTicket, RowTable.lookup, updateIssued, List.find?_map]
  congr 2
  funext r
  by_cases h : r.Admits id <;> simp [h]

/-- The update changes nothing exactly when no row of the ticket is ISSUED. -/
theorem updateIssued_count {id : TicketId} {now : Nat} {db : Db} :
    (updateIssued id now db).1 = 0 ↔ ∀ r ∈ db.tickets, ¬ r.Admits id := by
  simp [updateIssued, List.filter_eq_nil_iff]

/-- The status write keeps the ids apart. -/
theorem keyed_updateIssued {id : TicketId} {now : Nat} {db : Db} (h : db.Keyed) :
    (updateIssued id now db).2.Keyed := by
  have hkeys : (updateIssued id now db).2.tickets.map Ticket.id = db.tickets.map Ticket.id := by
    simp only [updateIssued, List.map_map]
    refine List.map_congr_left fun r _ => ?_
    by_cases hr : r.Admits id <;> simp [hr]
  show (List.map Ticket.id _).Nodup
  rw [hkeys]
  exact h

/-! ## The world of the service -/

/-- SHA-256 and HMAC-SHA256 of the platform, and `QR_SIGNATURE_SECRET`. -/
structure QrConfig where
  sha256 : String → String
  hmacSha256 : String → String → String
  qrSecret : String

/-- The database, the signing configuration and the clock. -/
structure World where
  config : QrConfig
  db : Db
  /-- `new Date()`, in milliseconds -/
  now : Nat
  /-- bookkeeping: which request moved which ticket to CHECKED_IN, an online one
      (`none`) or the delivery of an offline event -/
  checkedInBy : List (TicketId × Option (DeviceId × EventId))

end TicketCheckin
