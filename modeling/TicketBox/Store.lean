import TicketBox.RowTable
import Mathlib.Logic.Function.Basic

/-! # The data the backend works on

    The PostgreSQL tables of `schema.prisma`, the Redis keys of
    `redis-keys.ts` and the BullMQ queues, as far as ordering, payment, ticket
    issuing and stock keeping read or write them.

    Ids are opaque (`crypto.randomUUID`), so they are numbers here; an order
    item is identified by its order and its position in it.  Times are
    milliseconds of one clock.  The rows of `OrderItem` are kept inside their
    order, as every query of these services reads them (`include: items`). -/

namespace TicketStore

/-- `User.id`. -/
abbrev UserId := Nat

/-- `Concert.id`. -/
abbrev ConcertId := Nat

/-- `TicketType.id`. -/
abbrev TicketTypeId := Nat

/-- `Order.id`. -/
abbrev OrderId := Nat

/-- The id that the gateway gives a transaction. -/
abbrev ProviderTransactionId := Nat

/-! ## Enumerations of the schema -/

/-- `Role` of the schema. -/
inductive Role where
  | customer | organizer | staff | admin
  deriving DecidableEq

/-- `ConcertStatus` of the schema. -/
inductive ConcertStatus where
  | draft | published | saleOpen | saleClosed | cancelled | completed
  deriving DecidableEq

/-- `TicketTypeStatus` of the schema. -/
inductive TicketTypeStatus where
  | active | inactive | soldOut
  deriving DecidableEq

/-- `OrderStatus` of the schema. -/
inductive OrderStatus where
  | pendingPayment | paid | expired | cancelled | paymentFailed | refunded
  deriving DecidableEq

/-- `PaymentStatus` of the schema. -/
inductive PaymentStatus where
  | initiated | success | failed | timeout | cancelled
  deriving DecidableEq

/-- `TicketStatus` of the schema. -/
inductive TicketStatus where
  | issued | checkedIn | cancelled | refunded
  deriving DecidableEq

/-! ## Rows -/

/-- The largest value of an `Int` column. -/
def maxInt : Int := 2147483647

/-- The value can be stored in an `Int` column, which has 32 bits. -/
def FitsInt (n : Int) : Prop := -2147483648 ≤ n ∧ n ≤ maxInt

/-- The database checks every number it writes. -/
instance (n : Int) : Decidable (FitsInt n) := inferInstanceAs (Decidable (_ ∧ _))

/-- A row of `Concert`, of which ordering uses these columns. -/
structure Concert where
  id : ConcertId
  organizerId : UserId
  status : ConcertStatus
  deriving DecidableEq

/-- A row of `Gate`, of which issuing uses these columns. -/
structure Gate where
  concertId : ConcertId
  name : String
  deriving DecidableEq

/-- A row of `TicketType`: the catalogue's columns and the inventory's. -/
structure TicketType where
  id : TicketTypeId
  concertId : ConcertId
  name : String
  price : Int
  totalQty : Int
  soldQty : Int
  reservedQty : Int
  maxPerUser : Int
  saleStartsAt : Nat
  saleEndsAt : Option Nat
  status : TicketTypeStatus
  deriving DecidableEq

/-- A row of `OrderItem`; `CreateOrderDto` admits no quantity below 1. -/
structure OrderItem where
  id : OrderId × Nat
  ticketTypeId : TicketTypeId
  quantity : Int
  quantity_pos : 0 < quantity
  unitPrice : Int
  subtotal : Int
  deriving DecidableEq

/-- A row of `Order`, with its items. -/
structure Order where
  id : OrderId
  userId : UserId
  concertId : ConcertId
  status : OrderStatus
  totalAmountInVnd : Int
  expiresAt : Option Nat
  paidAt : Option Nat
  cancelledAt : Option Nat
  inventoryReleasedAt : Option Nat
  releaseReason : Option String
  items : List OrderItem
  deriving DecidableEq

/-- The `Int` columns of the order and of its items can store what the row says. -/
def Order.FitsColumns (order : Order) : Prop :=
  FitsInt order.totalAmountInVnd ∧
    ∀ i ∈ order.items, FitsInt i.quantity ∧ FitsInt i.unitPrice ∧ FitsInt i.subtotal

/-- The insert fails where this does. -/
instance (order : Order) : Decidable order.FitsColumns := inferInstanceAs (Decidable (_ ∧ _))

/-- A row of `PaymentTransaction`. -/
structure PaymentTransaction where
  id : Nat
  orderId : OrderId
  status : PaymentStatus
  amount : Int
  /-- null until the gateway reports a transaction -/
  providerTransactionId : Option ProviderTransactionId
  paymentUrl : Option String
  deriving DecidableEq

/-- A row of `Ticket`; `gateId` holds the gate's name. -/
structure Ticket where
  orderId : OrderId
  orderItemId : OrderId × Nat
  concertId : ConcertId
  ticketTypeId : TicketTypeId
  userId : UserId
  gateId : Option String
  status : TicketStatus
  deriving DecidableEq

/-- A row of `UserTicketCounter`: what a user has of one type. -/
structure UserTicketCounter where
  paidQty : Int
  reservedQty : Int
  deriving DecidableEq

/-- The PostgreSQL database. -/
structure Db where
  concerts : List Concert
  gates : List Gate
  ticketTypes : List TicketType
  orders : List Order
  payments : List PaymentTransaction
  tickets : List Ticket
  /-- rows of `UserTicketCounter` by their unique key -/
  counters : UserId × TicketTypeId → Option UserTicketCounter

/-! ## Redis -/

/-- The JSON record under `reservation:{orderId}`, with the time its `EX` ends. -/
structure Reservation where
  orderId : OrderId
  userId : UserId
  ticketTypeId : TicketTypeId
  quantity : Int
  createdAt : Nat
  expireAt : Nat
  deriving DecidableEq

/-- The keys `stock:{ticketTypeId}`, `user_limit:{userId}:{ticketTypeId}` and
    `reservation:{orderId}`. -/
structure Redis where
  stock : TicketTypeId → Option Int
  userLimit : UserId × TicketTypeId → Option Int
  reservations : OrderId → Option Reservation

/-- `GET reservation:{orderId}`: a key written with `EX` is gone once its time
    has passed. -/
def Redis.reservation (r : Redis) (now : Nat) (o : OrderId) : Option Reservation :=
  (r.reservations o).filter fun e => now < e.expireAt

/-! ## The locals of createOrder -/

/-- An entry of `ticketMeta`: a requested item with what its validation read. -/
structure TicketMeta where
  ticketTypeId : TicketTypeId
  quantity : Int
  quantity_pos : 0 < quantity
  maxPerUser : Int
  unitPrice : Int
  deriving DecidableEq

/-- What a createOrder call fixes at its entry. -/
structure CreateCtx where
  concertId : ConcertId
  userId : UserId
  ttl : Nat
  expiresAt : Nat
  deriving DecidableEq

/-! ## Queues, configuration and the whole store -/

/-- A job of the queue `ticket-issue`. -/
structure TicketIssueJob where
  id : Nat
  orderId : OrderId
  deriving DecidableEq

/-- What the services read from their configuration.  The reservation window is
    `order.reservationTtlSeconds`; a window of no length cannot be written with
    `SET … EX`. -/
structure Config where
  reservationTtlSeconds : Option Nat
  ttl_pos : ∀ ttl, reservationTtlSeconds = some ttl → 0 < ttl
  gatewayBaseUrl : String

/-- Everything the operations share.  `drawnFor` is a history variable: for
    which call of createOrder, and with which validated items, an order id was
    drawn.  No operation reads it. -/
structure World where
  config : Config
  /-- the next id `crypto.randomUUID` gives an order; every id in use is below it -/
  nextOrderId : OrderId
  drawnFor : OrderId → Option (CreateCtx × List TicketMeta)
  db : Db
  redis : Redis
  expireJobs : List (OrderId × Nat)
  ticketIssueJobs : List TicketIssueJob
  nextJobId : Nat
  emailJobs : List (OrderId × UserId)
  now : Nat

/-! ## Requests -/

/-- `OrderItemDto`, with its `@Min(1)`. -/
structure OrderItemDto where
  ticketTypeId : TicketTypeId
  quantity : Int
  quantity_pos : 0 < quantity
  deriving DecidableEq

/-- `CreateOrderDto`, as the validation pipe lets it through. -/
structure CreateOrderDto where
  concertId : ConcertId
  items : List OrderItemDto
  deriving DecidableEq

/-- `MockPaymentResult`: what the gateway reports. -/
inductive MockPaymentResult where
  | success | failed | timeout
  deriving DecidableEq

/-- `MockWebhookDto`; the signature is read through `signed`: whether it is the
    HMAC of the other four fields. -/
structure MockWebhookDto where
  orderId : OrderId
  providerTransactionId : ProviderTransactionId
  result : MockPaymentResult
  amount : Int
  signed : Bool
  deriving DecidableEq

/-- `UpdateTicketTypeDto`, with its `@Min` bounds; `saleEndsAt` may be omitted
    (`none`) or given as null (`some none`). -/
structure UpdateTicketTypeDto where
  name : Option String
  price : Option Int
  totalQty : Option Int
  soldQty : Option Int
  reservedQty : Option Int
  maxPerUser : Option Int
  saleStartsAt : Option Nat
  saleEndsAt : Option (Option Nat)
  status : Option TicketTypeStatus
  price_nonneg : ∀ x ∈ price, 0 ≤ x
  totalQty_pos : ∀ x ∈ totalQty, 1 ≤ x
  soldQty_nonneg : ∀ x ∈ soldQty, 0 ≤ x
  reservedQty_nonneg : ∀ x ∈ reservedQty, 0 ≤ x
  maxPerUser_pos : ∀ x ∈ maxPerUser, 1 ≤ x

/-! ## Errors -/

/-- The exceptions of the services, with their texts, the errors of Prisma by
    code, and a store or gateway that does not answer. -/
inductive ApiError where
  | notFound (message : String)
  | badRequest (message : String)
  | unauthorized (message : String)
  | forbidden (message : String)
  | conflict (message : String)
  | unprocessable (message : String)
  | serviceUnavailable (message : String)
  /-- `throw new Error(message)` of a job -/
  | job (message : String)
  /-- P2025: the row to update or delete is missing -/
  | recordNotFound
  /-- P2003: a foreign key refuses the write -/
  | foreignKey
  /-- P2002: a unique index refuses the write -/
  | uniqueViolation
  | unavailable
  deriving DecidableEq

/-- What an operation answers. -/
inductive Answer where
  | orderCreated (o : OrderId) (paymentUrl : String)
  | paymentUrl (url : String) (reused : Bool)
  | orderCancelled (o : OrderId)
  | expireDone
  | webhook (message : String) (status : Option OrderStatus)
  | cronDone
  | jobSkipped (reason : String)
  | ticketsIssued (count : Nat)
  | ticketTypeUpdated (row : TicketType)
  | error (e : ApiError)
  /-- a batch nobody awaits any more -/
  | detached
  deriving DecidableEq

/-! ## Lookups -/

namespace Db

/-- `prisma.order.findUnique` by id. -/
def findOrder (db : Db) (o : OrderId) : Option Order :=
  RowTable.lookup Order.id o db.orders

/-- `prisma.ticketType.findUnique` by id. -/
def findTicketType (db : Db) (t : TicketTypeId) : Option TicketType :=
  RowTable.lookup TicketType.id t db.ticketTypes

/-- `prisma.concert.findUnique` by id. -/
def findConcert (db : Db) (c : ConcertId) : Option Concert :=
  RowTable.lookup Concert.id c db.concerts

/-- The tickets of an order. -/
def ticketsOf (db : Db) (o : OrderId) : List Ticket :=
  db.tickets.filter fun k => k.orderId = o

/-- How many tickets of a type exist. -/
def ticketCount (db : Db) (t : TicketTypeId) : Int :=
  (db.tickets.filter fun k => k.ticketTypeId = t).length

/-- `totalQty` of a type; 0 where it has no row. -/
def totalQty (db : Db) (t : TicketTypeId) : Int :=
  ((db.findTicketType t).map TicketType.totalQty).getD 0

/-- `soldQty` of a type; 0 where it has no row. -/
def soldQty (db : Db) (t : TicketTypeId) : Int :=
  ((db.findTicketType t).map TicketType.soldQty).getD 0

/-- `reservedQty` of a type; 0 where it has no row. -/
def reservedQty (db : Db) (t : TicketTypeId) : Int :=
  ((db.findTicketType t).map TicketType.reservedQty).getD 0

/-- `UserTicketCounter.reservedQty`, 0 where the row is absent. -/
def counterReserved (db : Db) (u : UserId) (t : TicketTypeId) : Int :=
  ((db.counters (u, t)).map UserTicketCounter.reservedQty).getD 0

/-- `UserTicketCounter.paidQty`, 0 where the row is absent. -/
def counterPaid (db : Db) (u : UserId) (t : TicketTypeId) : Int :=
  ((db.counters (u, t)).map UserTicketCounter.paidQty).getD 0

end Db

/-- How many tickets of type `t` a list of items asks for. -/
def qtyOf (items : List OrderItem) (t : TicketTypeId) : Int :=
  (items.map fun i => if i.ticketTypeId = t then i.quantity else 0).sum

@[simp] theorem qtyOf_nil (t : TicketTypeId) : qtyOf [] t = 0 := rfl

@[simp] theorem qtyOf_cons (i : OrderItem) (items : List OrderItem) (t : TicketTypeId) :
    qtyOf (i :: items) t = (if i.ticketTypeId = t then i.quantity else 0) + qtyOf items t := rfl

/-- How many tickets of type `t` a list of validated items asks for. -/
def metaQty (metas : List TicketMeta) (t : TicketTypeId) : Int :=
  (metas.map fun m => if m.ticketTypeId = t then m.quantity else 0).sum

@[simp] theorem metaQty_nil (t : TicketTypeId) : metaQty [] t = 0 := rfl

@[simp] theorem metaQty_cons (m : TicketMeta) (metas : List TicketMeta) (t : TicketTypeId) :
    metaQty (m :: metas) t
      = (if m.ticketTypeId = t then m.quantity else 0) + metaQty metas t := rfl

/-- A request asks for at least nothing. -/
theorem metaQty_nonneg (metas : List TicketMeta) (t : TicketTypeId) : 0 ≤ metaQty metas t := by
  induction metas with
  | nil => exact le_refl 0
  | cons m metas ih =>
      have := m.quantity_pos
      rw [metaQty_cons]
      split <;> omega

/-- So does an order. -/
theorem qtyOf_nonneg (items : List OrderItem) (t : TicketTypeId) : 0 ≤ qtyOf items t := by
  induction items with
  | nil => exact le_refl 0
  | cons i items ih =>
      have := i.quantity_pos
      rw [qtyOf_cons]
      split <;> omega

end TicketStore
