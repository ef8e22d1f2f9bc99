import TicketBox.Store

/-! # The PostgreSQL side: every write the operations make

    One definition for each statement or `$transaction` body, `none` where the
    statement throws: a row to update that is missing, a unique index or a
    foreign key of the init migration that refuses it.  A `$transaction` that
    throws writes nothing, so its body is a function to `Option Db`. -/

namespace TicketDb

open TicketStore

/-! ## Single statements on counters -/

/-- `UPDATE "TicketType"` with increments of `soldQty` and `reservedQty`. -/
def bumpType (t : TicketTypeId) (dSold dReserved : Int) (db : Db) : Db :=
  { db with
    ticketTypes := RowTable.modify TicketType.id t
      (fun r => { r with soldQty := r.soldQty + dSold, reservedQty := r.reservedQty + dReserved })
      db.ticketTypes }

/-- Overwrite the counter row of a user and a type. -/
def putCounter (u : UserId) (t : TicketTypeId) (row : UserTicketCounter) (db : Db) : Db :=
  { db with counters := Function.update db.counters (u, t) (some row) }

/-- `ticketType.update({ reservedQty: { decrement } })` -/
def decrementReserved (t : TicketTypeId) (q : Int) (db : Db) : Option Db :=
  (db.findTicketType t).map fun _ => bumpType t 0 (-q) db

/-- `userTicketCounter.update({ reservedQty: { decrement } })` -/
def decrementCounter (u : UserId) (t : TicketTypeId) (q : Int) (db : Db) : Option Db :=
  (db.counters (u, t)).map fun c =>
    putCounter u t { c with reservedQty := c.reservedQty - q } db

/-- `userTicketCounter.upsert` of createOrder's inventory transaction. -/
def upsertReserved (u : UserId) (t : TicketTypeId) (q : Int) (db : Db) : Db :=
  match db.counters (u, t) with
  | none => putCounter u t { paidQty := 0, reservedQty := q } db
  | some c => putCounter u t { c with reservedQty := c.reservedQty + q } db

/-- `userTicketCounter.upsert` of the two issuing transactions. -/
def upsertPaid (u : UserId) (t : TicketTypeId) (q : Int) (db : Db) : Db :=
  match db.counters (u, t) with
  | none => putCounter u t { paidQty := q, reservedQty := 0 } db
  | some c => putCounter u t { paidQty := c.paidQty + q, reservedQty := c.reservedQty - q } db

/-! ## Order rows -/

/-- `order.create` with its nested items: the id is new, the foreign keys to the
    concert and to every ticket type hold, and the `Int` columns can store the
    amounts. -/
def insertOrder (row : Order) (db : Db) : Option Db :=
  if (db.findOrder row.id).isNone ∧ (db.findConcert row.concertId).isSome ∧
      (∀ i ∈ row.items, (db.findTicketType i.ticketTypeId).isSome) ∧ row.FitsColumns then
    some { db with orders := db.orders ++ [row] }
  else none

/-- `order.update` by id. -/
def updateOrder (o : OrderId) (f : Order → Order) (db : Db) : Option Db :=
  (db.findOrder o).map fun _ => { db with orders := RowTable.modify Order.id o f db.orders }

/-- `order.delete` by id.  `OrderItem`, `PaymentTransaction` and `Ticket` refer
    to it with `ON DELETE RESTRICT`. -/
def deleteOrder (o : OrderId) (db : Db) : Except ApiError Db :=
  match db.findOrder o with
  | none => .error .recordNotFound
  | some row =>
      if row.items ≠ [] ∨ (∃ p ∈ db.payments, p.orderId = o) ∨ (∃ k ∈ db.tickets, k.orderId = o)
      then .error .foreignKey
      else .ok { db with orders := RowTable.remove Order.id o db.orders }

/-! ## Payment rows -/

/-- `paymentTransaction.create`; the order it refers to must exist. -/
def insertPayment (o : OrderId) (status : PaymentStatus) (amount : Int)
    (ptid : Option ProviderTransactionId) (url : Option String) (db : Db) : Option Db :=
  (db.findOrder o).map fun _ =>
    { db with
      payments := db.payments ++ [{ id := db.payments.length, orderId := o, status := status,
                                    amount := amount, providerTransactionId := ptid,
                                    paymentUrl := url }] }

/-- `paymentTransaction.upsert` by provider transaction id: `create` is the
    status of a new row, `update` the status, if any, written to an existing one. -/
def upsertPayment (dto : MockWebhookDto) (create : PaymentStatus) (update : Option PaymentStatus)
    (db : Db) : Option Db :=
  if db.payments.any (fun p => p.providerTransactionId = some dto.providerTransactionId) then
    some { db with
      payments := db.payments.map fun p =>
        if p.providerTransactionId = some dto.providerTransactionId then
          { p with status := update.getD p.status } else p }
  else insertPayment dto.orderId create dto.amount (some dto.providerTransactionId) none db

/-- `paymentTransaction.updateMany` of the INITIATED rows of an order. -/
def failInitiated (o : OrderId) (db : Db) : Db :=
  { db with
    payments := db.payments.map fun p =>
      if p.orderId = o ∧ p.status = .initiated then { p with status := .failed } else p }

/-- `paymentTransaction.update({ paymentUrl })` by id. -/
def setPaymentUrl (id : Nat) (url : String) (db : Db) : Option Db :=
  if db.payments.any (fun p => p.id = id) then
    some { db with
      payments := db.payments.map fun p =>
        if p.id = id then { p with paymentUrl := some url } else p }
  else none

/-! ## createOrder's inventory transaction -/

/-- One round of its loop: the guarded `UPDATE` and the counter's `upsert`. -/
def reserveInventory (u : UserId) (t : TicketTypeId) (q : Int) (db : Db) : Option Db :=
  match db.findTicketType t with
  | none => none
  | some row =>
      if row.reservedQty + row.soldQty + q ≤ row.totalQty then
        some (upsertReserved u t q (bumpType t 0 q db))
      else none

/-- The transaction; on failure it answers the type whose update matched no row. -/
def syncInventory (u : UserId) : List TicketMeta → Db → Except TicketTypeId Db
  | [], db => .ok db
  | m :: metas, db =>
      match reserveInventory u m.ticketTypeId m.quantity db with
      | none => .error m.ticketTypeId
      | some db' => syncInventory u metas db'

/-! ## The releasing transactions -/

/-- `ticketType.updateMany` of a release, guarded by `reservedQty >= quantity`. -/
def releaseType (t : TicketTypeId) (q : Int) (db : Db) : Db :=
  match db.findTicketType t with
  | some row => if q ≤ row.reservedQty then bumpType t 0 (-q) db else db
  | none => db

/-- `userTicketCounter.updateMany` of a release, with the same guard. -/
def releaseCounter (u : UserId) (t : TicketTypeId) (q : Int) (db : Db) : Db :=
  match db.counters (u, t) with
  | some c =>
      if q ≤ c.reservedQty then putCounter u t { c with reservedQty := c.reservedQty - q } db else db
  | none => db

/-- One round of a releasing loop. -/
def releaseGuarded (u : UserId) (t : TicketTypeId) (q : Int) (db : Db) : Db :=
  releaseCounter u t q (releaseType t q db)

/-- The loop over the order's items. -/
def releaseAllGuarded (u : UserId) : List OrderItem → Db → Db
  | [], db => db
  | i :: items, db => releaseAllGuarded u items (releaseGuarded u i.ticketTypeId i.quantity db)

/-! ## Gates -/

/-- `gate.findMany({ where: { concertId } })` -/
def gatesOf (db : Db) (c : ConcertId) : List Gate := db.gates.filter fun g => g.concertId = c

/-- `ticket.groupBy(['gateId'])`: the tickets of the concert that are ISSUED or
    CHECKED_IN, by gate name. -/
def gateCount (db : Db) (c : ConcertId) (name : String) : Nat :=
  (db.tickets.filter fun k => k.concertId = c ∧ (k.status = .issued ∨ k.status = .checkedIn)
    ∧ k.gateId = some name).length

/-- The scan for the smallest count; the first gate wins a tie. -/
def leastLoaded (count : String → Nat) : Gate → List Gate → Gate
  | best, [] => best
  | best, g :: gates =>
      if count g.name < count best.name then leastLoaded count g gates
      else leastLoaded count best gates

/-- `gate?.name ?? ''` of the least loaded gate. -/
def leastLoadedGateName (count : String → Nat) : List Gate → String
  | [] => ""
  | g :: gates => (leastLoaded count g (g :: gates)).name

/-- `gateName || null` -/
def gateIdOf (gateName : String) : Option String := if gateName = "" then none else some gateName

/-! ## The issuing transactions -/

/-- `ticketType.update({ soldQty: { increment }, reservedQty: { decrement } })` -/
def moveToSold (t : TicketTypeId) (q : Int) (db : Db) : Option Db :=
  (db.findTicketType t).map fun _ => bumpType t q (-q) db

/-- The row `ticket.create` writes. -/
def newTicket (order : Order) (item : OrderItem) (gateName : String) : Ticket where
  orderId := order.id
  orderItemId := item.id
  concertId := order.concertId
  ticketTypeId := item.ticketTypeId
  userId := order.userId
  gateId := gateIdOf gateName
  status := .issued

/-- `ticket.createMany`. -/
def addTickets (ts : List Ticket) (db : Db) : Db := { db with tickets := db.tickets ++ ts }

/-- The webhook's loop over its plans: every ticket gets the gate chosen before. -/
def planTickets (order : Order) (gateName : String) (items : List OrderItem) : List Ticket :=
  items.flatMap fun i => List.replicate i.quantity.toNat (newTicket order i gateName)

/-- The webhook's loop over the ticket types. -/
def moveAllToSold : List OrderItem → Db → Option Db
  | [], db => some db
  | i :: items, db => (moveToSold i.ticketTypeId i.quantity db).bind (moveAllToSold items)

/-- The webhook's loop over the per-user counters. -/
def upsertAllPaid (u : UserId) : List OrderItem → Db → Db
  | [], db => db
  | i :: items, db => upsertAllPaid u items (upsertPaid u i.ticketTypeId i.quantity db)

/-- The transaction of `handlePaymentSuccess`. -/
def commitSuccess (dto : MockWebhookDto) (order : Order) (gateName : String) (now : Nat) (db : Db) :
    Option Db := do
  let db ← upsertPayment dto .success (some .success) db
  let db ← updateOrder dto.orderId (fun o => { o with status := .paid, paidAt := some now }) db
  let db := addTickets (planTickets order gateName order.items) db
  let db ← moveAllToSold order.items db
  some (upsertAllPaid order.userId order.items db)

/-- The worker's inner loop: every ticket gets the least loaded gate of its moment. -/
def issueTickets (order : Order) (item : OrderItem) : Nat → Db → Db
  | 0, db => db
  | n + 1, db =>
      let gateName := leastLoadedGateName (gateCount db order.concertId) (gatesOf db order.concertId)
      issueTickets order item n (addTickets [newTicket order item gateName] db)

/-- The transaction of `TicketIssueProcessor.process`. -/
def commitIssue (order : Order) : List OrderItem → Db → Option Db
  | [], db => some db
  | i :: items, db => do
      let db ← moveToSold i.ticketTypeId i.quantity db
      let db := upsertPaid order.userId i.ticketTypeId i.quantity db
      commitIssue order items (issueTickets order i i.quantity.toNat db)

/-! ## The other status transactions -/

/-- The transaction of `handlePaymentFailed`, after its status check. -/
def commitFailed (order : Order) (now : Nat) (db : Db) : Option Db := do
  let db := failInitiated order.id db
  let db ← updateOrder order.id (fun o => { o with status := .paymentFailed,
                                                   inventoryReleasedAt := some now,
                                                   releaseReason := some "PAYMENT_FAILED" }) db
  some (releaseAllGuarded order.userId order.items db)

/-- What the gateway says about a transaction (`MockVerifyResult`). -/
inductive VerifyResult where
  | success | failed | pending
  deriving DecidableEq

/-- The order status the cron gives a stuck order. -/
def VerifyResult.orderStatus : VerifyResult → OrderStatus
  | .failed => .paymentFailed
  | _ => .expired

/-- The transaction of `expireOrderAndReleaseInventory`, after its status check. -/
def commitCronExpire (order : Order) (res : VerifyResult) (now : Nat) (db : Db) : Option Db := do
  let db ← updateOrder order.id (fun o => { o with
    status := res.orderStatus
    inventoryReleasedAt := some now
    releaseReason := some (if res = .failed then "CRON_VERIFY_PAYMENT_FAILED"
      else "PAYMENT_VERIFY_TIMEOUT") }) db
  let db ← insertPayment order.id (if res = .failed then .failed else .timeout)
    order.totalAmountInVnd none none db
  some (releaseAllGuarded order.userId order.items db)

/-- The transaction of `markOrderPaidFromCron`, after its status check. -/
def commitCronPaid (order : Order) (now : Nat) (db : Db) : Option Db := do
  let db ← insertPayment order.id .success order.totalAmountInVnd none none db
  updateOrder order.id (fun o => { o with status := .paid, paidAt := some now }) db

/-- `order.update` at the end of cancelOrder. -/
def commitCancelled (o : OrderId) (now : Nat) (db : Db) : Option Db :=
  updateOrder o (fun r => { r with status := .cancelled, cancelledAt := some now,
                                   releaseReason := some "CANCELLED",
                                   inventoryReleasedAt := some now }) db

/-- `order.update` at the end of expireOrder. -/
def commitExpired (o : OrderId) (now : Nat) (db : Db) : Option Db :=
  updateOrder o (fun r => { r with status := .expired, inventoryReleasedAt := some now,
                                   releaseReason := some "PAYMENT_TIMEOUT" }) db

/-! ## TicketTypeService.update -/

/-- `updateData`: every given field is written. -/
def updateData (dto : UpdateTicketTypeDto) (row : TicketType) : TicketType where
  id := row.id
  concertId := row.concertId
  name := dto.name.getD row.name
  price := dto.price.getD row.price
  totalQty := dto.totalQty.getD row.totalQty
  soldQty := dto.soldQty.getD row.soldQty
  reservedQty := dto.reservedQty.getD row.reservedQty
  maxPerUser := dto.maxPerUser.getD row.maxPerUser
  saleStartsAt := dto.saleStartsAt.getD row.saleStartsAt
  saleEndsAt := dto.saleEndsAt.getD row.saleEndsAt
  status := dto.status.getD row.status

/-- `ticketType.update`: the row must exist, and `(concertId, name)` is unique. -/
def writeTicketType (t : TicketTypeId) (f : TicketType → TicketType) (db : Db) :
    Except ApiError Db :=
  match db.findTicketType t with
  | none => .error .recordNotFound
  | some row =>
      if ∃ r ∈ db.ticketTypes, r.id ≠ t ∧ r.concertId = (f row).concertId ∧ r.name = (f row).name
      then .error .uniqueViolation
      else .ok { db with ticketTypes := RowTable.modify TicketType.id t f db.ticketTypes }

end TicketDb
