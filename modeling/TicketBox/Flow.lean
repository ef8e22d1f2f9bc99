import TicketBox.Interleave
import TicketBox.RedisScripts
import TicketBox.DbWrites

/-! # The awaited calls of the services

    Every `await` of the modelled operations is an `Ask` (one call whose answer
    decides how the operation goes on) or a `Task` (an element of a
    `Promise.all`).  Each carries the local variables the rest of its operation
    reads, as the source's closures do.

    A `$transaction` that first reads the order's status and then writes is two
    asks, its check and its commit: at READ COMMITTED the row it read is not
    locked, so other transactions may commit between the two. -/

namespace TicketFlow

open Interleave TicketStore TicketRedis TicketDb

/-- The place a `releaseReservation` is called from.  The flag of the webhook
    and of the cron records whether their transaction released the order or
    found it already settled; the release does not read it. -/
inductive ReleaseSite where
  | rollback
  | persistFailed
  | inventoryFailed
  | gatewayFailed
  | cancel
  | expire
  | webhookFailed (released : Bool)
  | cron (released : Bool)
  deriving DecidableEq

/-- Elements of the `Promise.all` batches. -/
inductive Task where
  /-- `ensureRedisStock`: `exists`, then the row, then `setNx` -/
  | ensureRedisStock (t : TicketTypeId)
  | readStockRow (t : TicketTypeId)
  | setNxStock (t : TicketTypeId) (available : Int)
  /-- `ensureRedisUserLimit`: `exists`, then the row, then `setNx` -/
  | ensureRedisUserLimit (u : UserId) (t : TicketTypeId)
  | readCounterRow (u : UserId) (t : TicketTypeId)
  | setNxUserLimit (u : UserId) (t : TicketTypeId) (currentCount : Int)
  | releaseReservation (site : ReleaseSite) (p : ReleaseParams)
  | decrementReserved (t : TicketTypeId) (q : Int) (pos : 0 < q)
  | decrementCounter (u : UserId) (t : TicketTypeId) (q : Int) (pos : 0 < q)

/-- One `reserveTicket` of createOrder: its item and how its promise settled,
    if it did; `error` is a call that threw. -/
structure ReserveSlot where
  item : TicketMeta
  reply : Option (Except ApiError LuaScriptResult)

/-- Who awaits `createPaymentUrl`. -/
inductive PaymentCaller where
  | createPayment
  | createOrder (ctx : CreateCtx) (metas : List TicketMeta)

/-- Calls awaited alone. -/
inductive Ask where
  -- OrderService.createOrder
  | createOrder (dto : CreateOrderDto) (u : UserId)
  | validateTicketType (ctx : CreateCtx) (todo : List OrderItemDto) (metas : List TicketMeta)
  | randomUUID (ctx : CreateCtx) (metas : List TicketMeta)
  | reserveTickets (ctx : CreateCtx) (o : OrderId) (slots : List ReserveSlot)
  | persistOrder (ctx : CreateCtx) (o : OrderId) (metas : List TicketMeta)
  | syncInventory (ctx : CreateCtx) (o : OrderId) (metas : List TicketMeta)
  | deleteOrderQuietly (o : OrderId) (e : ApiError)
  | deleteOrder (o : OrderId) (e : ApiError)
  | scheduleExpiry (ctx : CreateCtx) (o : OrderId) (url : String)
  -- PaymentService.createPaymentUrl
  | createPaymentUrl (caller : PaymentCaller) (o : OrderId) (u : UserId)
  | callGateway (caller : PaymentCaller) (o : OrderId) (amount : Int)
      (existing : Option PaymentTransaction)
  | savePaymentUrl (caller : PaymentCaller) (o : OrderId) (amount : Int)
      (existing : Option PaymentTransaction) (url : String)
  -- OrderService.cancelOrder and expireOrder
  | cancelOrder (o : OrderId) (u : UserId)
  | markCancelled (order : Order)
  | expireOrder (o : OrderId)
  | markExpired (order : Order)
  -- PaymentService.handleMockWebhook
  | handleMockWebhook (dto : MockWebhookDto)
  | recordLateWebhook (dto : MockWebhookDto) (message : String)
  | handlePaymentTimeout (dto : MockWebhookDto)
  | failedCheck (order : Order)
  | failedCommit (order : Order)
  | findGates (dto : MockWebhookDto) (order : Order)
  | countGateTickets (dto : MockWebhookDto) (order : Order) (gates : List Gate)
  | successCommit (dto : MockWebhookDto) (order : Order) (gateName : String)
  | delReservation (order : Order)
  | sendOrderPaidEmail (order : Order)
  -- PaymentCronService
  | verifyStuckPendingPayments
  | verifyTransaction (order : Order) (rest : List Order)
  | cronPaidCheck (order : Order) (rest : List Order)
  | cronPaidCommit (order : Order) (rest : List Order)
  | enqueueTicketIssue (order : Order) (rest : List Order)
  | cronExpireCheck (order : Order) (res : VerifyResult) (rest : List Order)
  | cronExpireCommit (order : Order) (res : VerifyResult) (rest : List Order)
  -- TicketIssueProcessor
  | issueJob (job : TicketIssueJob)
  | countIssued (job : TicketIssueJob) (order : Order)
  | issueCommit (job : TicketIssueJob) (order : Order)
  | completeJob (job : TicketIssueJob) (answer : Answer)
  -- TicketTypeService.update
  | updateTicketType (t : TicketTypeId) (dto : UpdateTicketTypeDto) (u : UserId) (role : Role)
  | checkOwnership (existing : TicketType) (dto : UpdateTicketTypeDto) (u : UserId) (role : Role)
  | checkDuplicate (existing : TicketType) (dto : UpdateTicketTypeDto) (role : Role)
  | writeTicketType (existing : TicketType) (dto : UpdateTicketTypeDto)
  | seedStock (row : TicketType)
  | setSoldOut (row : TicketType)

/-- An operation in flight. -/
abbrev Op := Prog Ask Task Answer

/-- What no program decides: whether a call throws, which element of a set of
    parallel reservations runs, what the gateway says, which of the stuck
    orders the database returns first. -/
structure Choice where
  fails : Bool := false
  slot : Nat := 0
  verify : VerifyResult := .pending
  picked : List OrderId := []

/-- A call on a store or the gateway that threw, with nothing to catch it. -/
def thrown : Op := .ret (.error .unavailable)

/-- The `releaseReservation` calls for the items of an order. -/
def releases (site : ReleaseSite) (order : Order) : List Task :=
  order.items.map fun i =>
    .releaseReservation site
      { ticketTypeId := i.ticketTypeId, userId := order.userId, orderId := order.id,
        quantity := i.quantity, quantity_pos := i.quantity_pos }

/-- The `ticketType.update({ reservedQty: { decrement } })` calls for its items. -/
def typeDecrements (order : Order) : List Task :=
  order.items.map fun i => .decrementReserved i.ticketTypeId i.quantity i.quantity_pos

/-- The `userTicketCounter.update({ reservedQty: { decrement } })` calls. -/
def counterDecrements (order : Order) : List Task :=
  order.items.map fun i => .decrementCounter order.userId i.ticketTypeId i.quantity i.quantity_pos

end TicketFlow
