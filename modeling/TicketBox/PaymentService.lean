import TicketBox.OrderService

/-! # PaymentService and PaymentCronService

    `createPaymentUrl`, `handleMockWebhook` with its four continuations, and the
    cron `verifyStuckPendingPayments`, cut at their awaits. -/

namespace TicketPayment

open Interleave TicketStore TicketRedis TicketDb TicketFlow TicketOrder

/-! ## createPaymentUrl -/

/-- Where an exception of `createPaymentUrl` goes: to the caller's catch block. -/
def paymentError (caller : PaymentCaller) (o : OrderId) (e : ApiError) : Op :=
  match caller with
  | .createPayment => .ret (.error e)
  | .createOrder ctx metas => gatewayRollback ctx o metas e

/-- What the caller does with the URL. -/
def paymentDone (caller : PaymentCaller) (o : OrderId) (url : String) (reused : Bool) : Op :=
  match caller with
  | .createPayment => .ret (.paymentUrl url reused)
  | .createOrder ctx _ => .ask (.scheduleExpiry ctx o url)

/-- `url.includes('/payment/mock-page') || /localhost:3000/i.test(url)` -/
def isStaleMockPaymentUrl (url : String) : Bool :=
  decide ("/payment/mock-page".toList <:+: url.toList)
    || decide ("localhost:3000".toList <:+: (url.map Char.toLower).toList)

/-- `order.payments.find(INITIATED)` -/
def existingInitiated (db : Db) (o : OrderId) : Option PaymentTransaction :=
  db.payments.find? fun p => p.orderId = o ∧ p.status = .initiated

/-- `createPaymentUrl` up to the gateway call, on the row it reads. -/
def createPaymentUrl (caller : PaymentCaller) (o : OrderId) (u : UserId) (w : World) : Op :=
  match w.db.findOrder o with
  | none => paymentError caller o (.notFound "Không tìm thấy đơn hàng")
  | some order =>
      if order.userId ≠ u then
        paymentError caller o (.badRequest "Đơn hàng không thuộc về người dùng hiện tại")
      else if order.status ≠ .pendingPayment then
        paymentError caller o
          (.badRequest "Chỉ có thể tạo payment URL cho đơn hàng đang chờ thanh toán")
      else
        let existing := existingInitiated w.db o
        match existing.bind PaymentTransaction.paymentUrl with
        | some url =>
            if isStaleMockPaymentUrl url then
              .ask (.callGateway caller o order.totalAmountInVnd existing)
            else paymentDone caller o url true
        | none => .ask (.callGateway caller o order.totalAmountInVnd existing)

/-- The circuit breaker around the mock gateway: it answers the page's URL or
    throws its fallback. -/
def callGateway (caller : PaymentCaller) (o : OrderId) (amount : Int)
    (existing : Option PaymentTransaction) (ch : Choice) (w : World) : Op :=
  if ch.fails then
    paymentError caller o
      (.serviceUnavailable "Cổng thanh toán đang tạm gián đoạn, vui lòng thử lại sau")
  else
    .ask (.savePaymentUrl caller o amount existing
      (w.config.gatewayBaseUrl ++ "/payments/mock-page?orderId=" ++ toString o
        ++ "&amount=" ++ toString amount))

/-- The URL goes into the INITIATED row, or into a new one. -/
def writePaymentUrl (o : OrderId) (amount : Int) (existing : Option PaymentTransaction)
    (url : String) (db : Db) : Option Db :=
  match existing with
  | some p => setPaymentUrl p.id url db
  | none => insertPayment o .initiated amount none (some url) db

/-- `createPaymentUrl` behind the gateway call. -/
def savePaymentUrl (caller : PaymentCaller) (o : OrderId) (amount : Int)
    (existing : Option PaymentTransaction) (url : String) (ch : Choice) (w : World) : World × Op :=
  match (if ch.fails then none else writePaymentUrl o amount existing url w.db) with
  | none => (w, paymentError caller o .unavailable)
  | some db => ({ w with db := db }, paymentDone caller o url false)

/-! ## handleMockWebhook -/

/-- What a webhook is answered. -/
def webhookAnswer (message : String) (status : Option OrderStatus) : Op :=
  .ret (.webhook message status)

/-- `handleMockWebhook`: the signature, the order, the amount and the status. -/
def handleMockWebhook (dto : MockWebhookDto) (w : World) : Op :=
  if dto.signed = false then .ret (.error (.badRequest "Webhook signature không hợp lệ"))
  else
    match w.db.findOrder dto.orderId with
    | none => .ret (.error (.notFound "Không tìm thấy đơn hàng"))
    | some order =>
        if order.totalAmountInVnd ≠ dto.amount then
          .ret (.error (.badRequest "Số tiền thanh toán không khớp"))
        else
          match order.status with
          | .paid =>
              webhookAnswer "Webhook trùng lặp, order đã PAID trước đó. Không xử lý lại."
                (some .paid)
          | .expired =>
              .ask (.recordLateWebhook dto
                "Webhook đến sau khi đơn hàng đã hết hạn. Không phát hành vé, cần xử lý hoàn tiền/mock refund.")
          | .pendingPayment =>
              match dto.result with
              | .failed => .ask (.failedCheck order)
              | .timeout => .ask (.handlePaymentTimeout dto)
              | .success => .ask (.findGates dto order)
          | s => webhookAnswer ("Bỏ qua webhook vì order đang ở trạng thái " ++ orderStatusName s) (some s)

/-- The status a late webhook's new row gets. -/
def lateStatus : MockPaymentResult → PaymentStatus
  | .success => .success
  | .failed => .failed
  | .timeout => .timeout

/-- `recordLateWebhook`. -/
def recordLateWebhook (dto : MockWebhookDto) (message : String) (ch : Choice) (w : World) :
    World × Op :=
  match (if ch.fails then none else upsertPayment dto (lateStatus dto.result) none w.db) with
  | none => (w, thrown)
  | some db => ({ w with db := db }, webhookAnswer message (some .expired))

/-- `handlePaymentTimeout`. -/
def handlePaymentTimeout (dto : MockWebhookDto) (ch : Choice) (w : World) : World × Op :=
  match (if ch.fails then none else upsertPayment dto .timeout (some .timeout) w.db) with
  | none => (w, thrown)
  | some db => ({ w with db := db }, webhookAnswer "Thanh toán timeout, chờ cronjob verify" none)

/-! ### handlePaymentFailed -/

/-- What follows the transaction, whether it released the order or returned at
    its status check. -/
def afterFailed (order : Order) (released : Bool) : Op :=
  .par (releases (.webhookFailed released) order) thrown
    (webhookAnswer "Thanh toán thất bại" (some .paymentFailed))

/-- The transaction of `handlePaymentFailed`, up to its read. -/
def failedCheck (order : Order) (w : World) : Op :=
  match w.db.findOrder order.id with
  | some latest =>
      if latest.status = .pendingPayment then .ask (.failedCommit order)
      else afterFailed order false
  | none => afterFailed order false

/-- The transaction of `handlePaymentFailed`, from its read to its commit. -/
def failedCommit (order : Order) (ch : Choice) (w : World) : World × Op :=
  match (if ch.fails then none else commitFailed order w.now w.db) with
  | none => (w, thrown)
  | some db => ({ w with db := db }, afterFailed order true)

/-! ### handlePaymentSuccess -/

/-- `findLeastLoadedGate`: no gate, no second query. -/
def findGates (dto : MockWebhookDto) (order : Order) (w : World) : Op :=
  match gatesOf w.db order.concertId with
  | [] => .ask (.successCommit dto order "")
  | gates => .ask (.countGateTickets dto order gates)

/-- `findLeastLoadedGate`: the counts of the gates that were found. -/
def countGateTickets (dto : MockWebhookDto) (order : Order) (gates : List Gate) (w : World) : Op :=
  .ask (.successCommit dto order (leastLoadedGateName (gateCount w.db order.concertId) gates))

/-- The transaction of `handlePaymentSuccess`. -/
def successCommit (dto : MockWebhookDto) (order : Order) (gateName : String) (ch : Choice)
    (w : World) : World × Op :=
  match (if ch.fails then none else commitSuccess dto order gateName w.now w.db) with
  | none => (w, thrown)
  | some db => ({ w with db := db }, .ask (.delReservation order))

/-- The reservation key deleted behind the transaction. -/
def delReservation (order : Order) (ch : Choice) (w : World) : World × Op :=
  if ch.fails then (w, thrown)
  else ({ w with redis := TicketRedis.delReservation order.id w.redis },
    .ask (.sendOrderPaidEmail order))

/-- The e-mail of a paid order queued. -/
def sendOrderPaidEmail (order : Order) (ch : Choice) (w : World) : World × Op :=
  if ch.fails then (w, thrown)
  else ({ w with emailJobs := w.emailJobs ++ [(order.id, order.userId)] },
    webhookAnswer "Thanh toán thành công, vé đã được phát hành" (some .paid))

/-! ## verifyStuckPendingPayments -/

/-- `findMany({ status: PENDING_PAYMENT, expiresAt: { lt: now } }, take: 50)`, in
    the order the database returns the rows. -/
def stuckOrders (db : Db) (now : Nat) (picked : List OrderId) : List Order :=
  (picked.filterMap fun o => (db.findOrder o).filter fun r =>
    r.status = .pendingPayment ∧ r.expiresAt.any (fun e => decide (e < now))).take 50

/-- The loop's next round. -/
def cronNext : List Order → Op
  | [] => .ret .cronDone
  | order :: rest => .ask (.verifyTransaction order rest)

/-- The gateway is asked about a stuck order. -/
def verifyTransaction (order : Order) (rest : List Order) (ch : Choice) : Op :=
  match ch.verify with
  | .success => .ask (.cronPaidCheck order rest)
  | res => .ask (.cronExpireCheck order res rest)

/-- `markOrderPaidFromCron`; the job is queued also when its check returned. -/
def cronPaidCheck (order : Order) (rest : List Order) (w : World) : Op :=
  match w.db.findOrder order.id with
  | some latest =>
      if latest.status = .pendingPayment then .ask (.cronPaidCommit order rest)
      else .ask (.enqueueTicketIssue order rest)
  | none => .ask (.enqueueTicketIssue order rest)

/-- The transaction of `markOrderPaidFromCron`. -/
def cronPaidCommit (order : Order) (rest : List Order) (ch : Choice) (w : World) : World × Op :=
  match (if ch.fails then none else commitCronPaid order w.now w.db) with
  | none => (w, thrown)
  | some db => ({ w with db := db }, .ask (.enqueueTicketIssue order rest))

/-- The ticket-issue job queued behind it. -/
def enqueueTicketIssue (order : Order) (rest : List Order) (ch : Choice) (w : World) : World × Op :=
  if ch.fails then (w, thrown)
  else ({ w with ticketIssueJobs := w.ticketIssueJobs ++ [{ id := w.nextJobId, orderId := order.id }]
                 nextJobId := w.nextJobId + 1 },
    cronNext rest)

/-- What follows the transaction of `expireOrderAndReleaseInventory`; a release
    that throws is caught and logged. -/
def afterCronExpire (order : Order) (released : Bool) (rest : List Order) : Op :=
  .par (releases (.cron released) order) (cronNext rest) (cronNext rest)

/-- The transaction of `expireOrderAndReleaseInventory`, up to its read. -/
def cronExpireCheck (order : Order) (res : VerifyResult) (rest : List Order) (w : World) : Op :=
  match w.db.findOrder order.id with
  | some latest =>
      if latest.status = .pendingPayment then .ask (.cronExpireCommit order res rest)
      else afterCronExpire order false rest
  | none => afterCronExpire order false rest

/-- The same transaction, from its read to its commit. -/
def cronExpireCommit (order : Order) (res : VerifyResult) (rest : List Order) (ch : Choice)
    (w : World) : World × Op :=
  match (if ch.fails then none else commitCronExpire order res w.now w.db) with
  | none => (w, thrown)
  | some db => ({ w with db := db }, afterCronExpire order true rest)

end TicketPayment
