import TicketBox.ForeignKeys
import TicketBox.Machine
import TicketBox.Store
import Mathlib.Data.Nat.Pairing

/-! # Removing a concert or a ticket type

    The tables of the migrations with all their foreign keys, `ConcertService.remove`
    and `TicketTypeService.remove` on them, and the other writes of the services, so
    far as they bear on references: rows inserted after the checks their service makes,
    columns updated that refer to nothing, and the orders and gates that are deleted.

    A row has its key, its references and what the two operations read of it.  Redis is
    left out but for the last call of `TicketTypeService.remove`, which may fail. -/

namespace TicketRemoval

open ForeignKeys
open TicketStore (UserId ConcertId TicketTypeId OrderId Role OrderStatus ApiError)

/-! ## The schema -/

/-- The tables of the schema that removals touch. -/
inductive Table where
  | user | concert | gate | ticketType | order | orderItem | paymentTransaction | ticket
  | idempotencyKey | userTicketCounter | checkinLog | guestListEntry | uploadedFile
  deriving DecidableEq

/-- A row of `User`, by its keys. -/
structure User where
  id : UserId
  deriving DecidableEq

/-- A row of `Concert`, by its keys and its title. -/
structure Concert where
  id : ConcertId
  organizerId : UserId
  title : String
  deriving DecidableEq

/-- A row of `Gate`, by its keys and its name. -/
structure Gate where
  id : Nat
  concertId : ConcertId
  name : String
  deriving DecidableEq

/-- A row of `TicketType`, by its keys and what `remove` checks. -/
structure TicketType where
  id : TicketTypeId
  concertId : ConcertId
  name : String
  soldQty : Int
  reservedQty : Int
  deriving DecidableEq

/-- A row of `Order`, by its keys and its status. -/
structure Order where
  id : OrderId
  userId : UserId
  concertId : ConcertId
  status : OrderStatus
  deriving DecidableEq

/-- A row of `OrderItem`, by its keys. -/
structure OrderItem where
  id : Nat
  orderId : OrderId
  ticketTypeId : TicketTypeId
  deriving DecidableEq

/-- A row of `PaymentTransaction`, by its keys. -/
structure PaymentTransaction where
  id : Nat
  orderId : OrderId
  deriving DecidableEq

/-- A row of `Ticket`, by its keys. -/
structure Ticket where
  id : Nat
  orderId : OrderId
  orderItemId : Nat
  concertId : ConcertId
  ticketTypeId : TicketTypeId
  userId : UserId
  deriving DecidableEq

/-- A row of `IdempotencyKey`, by its keys. -/
structure IdempotencyKey where
  id : Nat
  userId : UserId
  orderId : Option OrderId
  deriving DecidableEq

/-- Its primary key is `("userId", "ticketTypeId")`. -/
structure UserTicketCounter where
  userId : UserId
  ticketTypeId : TicketTypeId
  deriving DecidableEq

/-- A row of `CheckinLog`, by its keys. -/
structure CheckinLog where
  id : Nat
  ticketId : Option Nat
  staffId : UserId
  concertId : Option ConcertId
  deriving DecidableEq

/-- A row of `GuestListEntry`, by its keys. -/
structure GuestListEntry where
  id : Nat
  concertId : ConcertId
  deriving DecidableEq

/-- A row of `UploadedFile`, by its keys. -/
structure UploadedFile where
  id : Nat
  concertId : Option ConcertId
  deriving DecidableEq

/-- The rows of a table. -/
@[reducible] def Row : Table → Type
  | .user => User
  | .concert => Concert
  | .gate => Gate
  | .ticketType => TicketType
  | .order => Order
  | .orderItem => OrderItem
  | .paymentTransaction => PaymentTransaction
  | .ticket => Ticket
  | .idempotencyKey => IdempotencyKey
  | .userTicketCounter => UserTicketCounter
  | .checkinLog => CheckinLog
  | .guestListEntry => GuestListEntry
  | .uploadedFile => UploadedFile

/-- `PRIMARY KEY` -/
def primaryKey : (t : Table) → Row t → Nat
  | .user, r => r.id
  | .concert, r => r.id
  | .gate, r => r.id
  | .ticketType, r => r.id
  | .order, r => r.id
  | .orderItem, r => r.id
  | .paymentTransaction, r => r.id
  | .ticket, r => r.id
  | .idempotencyKey, r => r.id
  | .userTicketCounter, r => Nat.pair r.userId r.ticketTypeId
  | .checkinLog, r => r.id
  | .guestListEntry, r => r.id
  | .uploadedFile, r => r.id

/-- `FOREIGN KEY … ON DELETE` of a column that is `NOT NULL` -/
def refers {t : Table} (target : Table) (column : Row t → Nat) (onDelete : OnDelete (Row t)) :
    ForeignKey Nat Row t where
  target := target
  column := fun r => some (column r)
  onDelete := onDelete

/-- The foreign keys of the migrations. -/
def foreignKeys : (t : Table) → List (ForeignKey Nat Row t)
  | .user => []
  | .concert => [refers .user Concert.organizerId .restrict]
  | .gate => [refers .concert Gate.concertId .cascade]
  | .ticketType => [refers .concert TicketType.concertId .restrict]
  | .order => [refers .user Order.userId .restrict, refers .concert Order.concertId .restrict]
  | .orderItem => [refers .order OrderItem.orderId .restrict,
      refers .ticketType OrderItem.ticketTypeId .restrict]
  | .paymentTransaction => [refers .order PaymentTransaction.orderId .restrict]
  | .ticket => [refers .order Ticket.orderId .restrict, refers .orderItem Ticket.orderItemId .restrict,
      refers .concert Ticket.concertId .restrict, refers .ticketType Ticket.ticketTypeId .restrict,
      refers .user Ticket.userId .restrict]
  | .idempotencyKey => [refers .user IdempotencyKey.userId .restrict,
      { target := .order, column := IdempotencyKey.orderId,
        onDelete := .setNull fun r => { r with orderId := none } }]
  | .userTicketCounter => [refers .user UserTicketCounter.userId .restrict,
      refers .ticketType UserTicketCounter.ticketTypeId .restrict]
  | .checkinLog => [{ target := .ticket, column := CheckinLog.ticketId,
                      onDelete := .setNull fun r => { r with ticketId := none } },
      refers .user CheckinLog.staffId .restrict,
      { target := .concert, column := CheckinLog.concertId,
        onDelete := .setNull fun r => { r with concertId := none } }]
  | .guestListEntry => [refers .concert GuestListEntry.concertId .restrict]
  | .uploadedFile => [{ target := .concert, column := UploadedFile.concertId,
                        onDelete := .setNull fun r => { r with concertId := none } }]

/-- The tables, in the order of the schema. -/
def tables : List Table :=
  [.user, .concert, .gate, .ticketType, .order, .orderItem, .paymentTransaction, .ticket,
    .idempotencyKey, .userTicketCounter, .checkinLog, .guestListEntry, .uploadedFile]

/-- No table is missing. -/
theorem tables_complete (t : Table) : t ∈ tables := by
  cases t <;> decide

/-- Setting a column to null keeps the row's id. -/
theorem clear_id : ∀ t, ∀ fk ∈ foreignKeys t, ∀ clear, fk.onDelete = .setNull clear →
    ∀ r, primaryKey t (clear r) = primaryKey t r := by
  intro t
  cases t <;> simp [foreignKeys, refers, primaryKey]

/-- It sets that column to null. -/
theorem clear_self : ∀ t, ∀ fk ∈ foreignKeys t, ∀ clear, fk.onDelete = .setNull clear →
    ∀ r, fk.column (clear r) = none := by
  intro t
  cases t <;> simp [foreignKeys, refers]

/-- It keeps the other columns, or sets them to null as well. -/
theorem clear_column : ∀ t, ∀ fk ∈ foreignKeys t, ∀ clear, fk.onDelete = .setNull clear →
    ∀ fk' ∈ foreignKeys t, ∀ r,
      fk'.column (clear r) = fk'.column r ∨ fk'.column (clear r) = none := by
  intro t
  cases t <;> simp [foreignKeys, refers]

/-- Only the gates go with their concert, and nothing refers to a gate. -/
theorem cascade_leaf : ∀ t, ∀ fk ∈ foreignKeys t, fk.onDelete.isCascade = true →
    ∀ t', ∀ fk' ∈ foreignKeys t', fk'.target ≠ t := by
  have hgate : ∀ t, ∀ fk ∈ foreignKeys t, fk.onDelete.isCascade = true → t = .gate := by
    intro t
    cases t <;> simp [foreignKeys, refers, OnDelete.isCascade]
  have hleaf : ∀ t', ∀ fk' ∈ foreignKeys t', fk'.target ≠ .gate := by
    intro t'
    cases t' <;> simp [foreignKeys, refers]
  intro t fk hfk hcascade
  rw [hgate t fk hfk hcascade]
  exact hleaf

/-- The schema with its foreign keys. -/
def schema : Schema Table Nat Row where
  tables := tables
  id := primaryKey
  keys := foreignKeys
  complete := tables_complete
  clear_id := clear_id
  clear_self := clear_self
  clear_column := clear_column
  cascade_leaf := cascade_leaf

/-! ## ConcertService.remove -/

/-- The order of a concert, as a filter on what refers to it. -/
def ofConcert (c : ConcertId) (db : Tables Row) (o : OrderId) : Bool :=
  (db .order).any fun order => decide (order.id = o ∧ order.concertId = c)

/-- The statements of the `$transaction`, one after the other. -/
def removeAll (id : ConcertId) (db : Tables Row) : Option (Tables Row) := do
  let db ← deleteWhere schema .checkinLog (fun l => decide (l.concertId = some id)) db
  let db ← deleteWhere schema .ticket (fun k => decide (k.concertId = id)) db
  let db ← deleteWhere schema .orderItem (fun i => ofConcert id db i.orderId) db
  let db ← deleteWhere schema .order (fun o => decide (o.concertId = id)) db
  let db ← deleteWhere schema .ticketType (fun tt => decide (tt.concertId = id)) db
  let db ← deleteWhere schema .guestListEntry (fun g => decide (g.concertId = id)) db
  let db ← deleteWhere schema .uploadedFile (fun f => decide (f.concertId = some id)) db
  deleteWhere schema .concert (fun c => decide (c.id = id)) db

/-- The orders that the check counts: `PENDING_PAYMENT` and `PAID`. -/
def activeOrders (id : ConcertId) (db : Tables Row) : List Order :=
  (db .order).filter fun o => decide (o.concertId = id ∧ (o.status = .pendingPayment ∨ o.status = .paid))

/-- `ConcertService.remove`; a transaction that throws leaves the tables as they were. -/
def removeConcert (id : ConcertId) (db : Tables Row) : Tables Row × Except ApiError String :=
  match RowTable.lookup Concert.id id (db .concert) with
  | none => (db, .error (.notFound s!"Concert with ID \"{id}\" not found"))
  | some concert =>
      if 0 < (activeOrders id db).length then
        (db, .error (.badRequest (s!"Cannot delete concert with {(activeOrders id db).length} "
          ++ "active orders. Cancel orders first.")))
      else
        match removeAll id db with
        | none => (db, .error .foreignKey)
        | some db' => (db', .ok s!"Concert \"{concert.title}\" deleted successfully")

/-! ## TicketTypeService.remove -/

/-- `@CurrentUser()` -/
structure AuthUser where
  sub : UserId
  role : Role
  deriving DecidableEq

/-- The error of `checkConcertOwnership`, if it throws one. -/
def checkConcertOwnership (c : ConcertId) (user : AuthUser) (db : Tables Row) : Option ApiError :=
  match RowTable.lookup Concert.id c (db .concert) with
  | none => some (.notFound s!"Concert with ID \"{c}\" not found")
  | some concert =>
      if user.role ≠ .admin ∧ concert.organizerId ≠ user.sub then
        some (.forbidden "You do not have permission to manage ticket types for this concert")
      else none

/-- `TicketTypeService.remove`; `redisFails` says whether `redis.del` of the stock key throws,
    which comes after the row is deleted. -/
def removeTicketType (id : TicketTypeId) (user : AuthUser) (redisFails : Bool) (db : Tables Row) :
    Tables Row × Except ApiError String :=
  match RowTable.lookup TicketType.id id (db .ticketType) with
  | none => (db, .error (.notFound s!"Ticket type with ID \"{id}\" not found"))
  | some tt =>
      match checkConcertOwnership tt.concertId user db with
      | some err => (db, .error err)
      | none =>
          if 0 < tt.soldQty ∨ 0 < tt.reservedQty then
            (db, .error (.badRequest (s!"Cannot delete ticket type with soldQty={tt.soldQty} and "
              ++ s!"reservedQty={tt.reservedQty}. Cancel or process orders first.")))
          else
            match deleteWhere schema .ticketType (fun r => decide (r.id = id)) db with
            | none => (db, .error .foreignKey)
            | some db' =>
                if redisFails then (db', .error .unavailable)
                else (db', .ok s!"Ticket type \"{tt.name}\" deleted successfully")

/-! ## The other writes -/

/-- What a service has made sure of when it inserts a row: `validateTicketType` that an item's
    type is of the order's concert, the two issuing transactions that a ticket is of an item of
    its order, and `logCheckinAttempt` gets the concert of the ticket it logs, or none. -/
def Checked (db : Tables Row) : (t : Table) → Row t → Prop
  | .orderItem, i => ∀ o ∈ db .order, o.id = i.orderId →
      ∀ tt ∈ db .ticketType, tt.id = i.ticketTypeId → tt.concertId = o.concertId
  | .ticket, k => (∀ o ∈ db .order, o.id = k.orderId → o.concertId = k.concertId) ∧
      ∀ i ∈ db .orderItem, i.id = k.orderItemId →
        i.orderId = k.orderId ∧ i.ticketTypeId = k.ticketTypeId
  | .checkinLog, l => ∀ c ∈ l.concertId, ∀ k ∈ db .ticket, some k.id = l.ticketId → k.concertId = c
  | _, _ => True

/-- Table by table. -/
instance (db : Tables Row) (t : Table) (row : Row t) : Decidable (Checked db t row) := by
  cases t <;> delta Checked <;> infer_instance

/-- A statement, or one of the two operations. -/
inductive Write where
  | insert (t : Table) (row : Row t)
  | update (t : Table) (f : Row t → Row t) (keeps : KeepsKeys schema t f)
  /-- `order.delete` of createOrder's rollback -/
  | deleteOrder (o : OrderId)
  /-- `gate.delete` -/
  | deleteGate (g : Nat)
  | removeConcert (id : ConcertId)
  | removeTicketType (id : TicketTypeId) (user : AuthUser) (redisFails : Bool)

/-- One write of the service or of another one; none where a key refuses it. -/
def next (db : Tables Row) : Write → Option (Tables Row)
  | .insert t row => ForeignKeys.insert schema t row db
  | .update t f _ => some (ForeignKeys.update t f db)
  | .deleteOrder o => deleteWhere schema .order (fun r => decide (r.id = o)) db
  | .deleteGate g => deleteWhere schema .gate (fun r => decide (r.id = g)) db
  | .removeConcert id => some (TicketRemoval.removeConcert id db).1
  | .removeTicketType id user redisFails => some (TicketRemoval.removeTicketType id user redisFails db).1

/-- What an insert is checked for before it is made. -/
def Admitted (db : Tables Row) : Write → Prop
  | .insert t row => Checked db t row
  | _ => True

/-- A run can be checked for its inserts. -/
instance (db : Tables Row) (w : Write) : Decidable (Admitted db w) := by
  cases w <;> delta Admitted <;> infer_instance

/-- No rows at all. -/
def noRows : Tables Row := fun _ => []

/-- The states the writes lead to from empty tables. -/
def Reachable (db : Tables Row) : Prop := Machine.RunIf next Admitted noRows db

end TicketRemoval
