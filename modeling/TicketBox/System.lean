import TicketBox.TicketServices

/-! # The backend as one system

    The requests that start operations, the dispatch of every awaited call to
    its function, and the state a sale opens in.  `backend` is the system whose
    runs the later files are about. -/

namespace TicketBackend

open Interleave TicketStore TicketRedis TicketDb TicketFlow TicketOrder TicketPayment
  TicketServices

/-! ## Requests -/

/-- What starts an operation: the routes, the webhook, the queues and the cron. -/
inductive Request where
  | createOrder (dto : CreateOrderDto) (u : UserId)
  | createPayment (o : OrderId) (u : UserId)
  | cancelOrder (o : OrderId) (u : UserId)
  | expireOrder (o : OrderId)
  | webhook (dto : MockWebhookDto)
  | verifyStuckPendingPayments
  | ticketIssue (job : TicketIssueJob)
  | updateTicketType (t : TicketTypeId) (dto : UpdateTicketTypeDto) (u : UserId) (role : Role)

/-- The first call of an operation.  A queue hands out only the jobs it holds,
    the delayed ones no earlier than their delay, and may hand one out again. -/
def enter (w : World) : Request → Option Op
  | .createOrder dto u => some (.ask (.createOrder dto u))
  | .createPayment o u => some (.ask (.createPaymentUrl .createPayment o u))
  | .cancelOrder o u => some (.ask (.cancelOrder o u))
  | .expireOrder o =>
      if w.expireJobs.any (fun j => decide (j.1 = o ∧ j.2 ≤ w.now)) then
        some (.ask (.expireOrder o))
      else none
  | .webhook dto => some (.ask (.handleMockWebhook dto))
  | .verifyStuckPendingPayments => some (.ask .verifyStuckPendingPayments)
  | .ticketIssue job =>
      if job ∈ w.ticketIssueJobs then some (.ask (.issueJob job)) else none
  | .updateTicketType t dto u role => some (.ask (.updateTicketType t dto u role))

/-- Time passes, in milliseconds. -/
def tick (ms : Nat) (w : World) : World := { w with now := w.now + ms }

/-! ## Dispatch -/

/-- A call that only reads, or throws. -/
def reads (ch : Choice) (w : World) (prog : Op) : Option (World × Op) :=
  some (w, if ch.fails then thrown else prog)

/-- Each call is carried out by its function. -/
def dispatch (ch : Choice) (w : World) : Ask → Option (World × Op)
  | .createOrder dto u => some (w, TicketOrder.createOrder dto u w)
  | .validateTicketType ctx todo metas => reads ch w (validateNext ctx w metas todo)
  | .randomUUID ctx metas => some (TicketOrder.randomUUID ctx metas w)
  | .reserveTickets ctx o slots => TicketOrder.reserveTickets ctx o slots ch w
  | .persistOrder ctx o metas => some (TicketOrder.persistOrder ctx o metas ch w)
  | .syncInventory ctx o metas => some (TicketOrder.syncInventory ctx o metas ch w)
  | .deleteOrderQuietly o e => some (TicketOrder.deleteOrderQuietly o e ch w)
  | .deleteOrder o e => some (TicketOrder.deleteOrder o e ch w)
  | .scheduleExpiry ctx o url => some (TicketOrder.scheduleExpiry ctx o url ch w)
  | .createPaymentUrl caller o u =>
      some (w, if ch.fails then paymentError caller o .unavailable
        else TicketPayment.createPaymentUrl caller o u w)
  | .callGateway caller o amount existing =>
      some (w, TicketPayment.callGateway caller o amount existing ch w)
  | .savePaymentUrl caller o amount existing url =>
      some (TicketPayment.savePaymentUrl caller o amount existing url ch w)
  | .cancelOrder o u => reads ch w (TicketOrder.cancelOrder o u w)
  | .markCancelled order => some (TicketOrder.markCancelled order ch w)
  | .expireOrder o => reads ch w (TicketOrder.expireOrder o w)
  | .markExpired order => some (TicketOrder.markExpired order ch w)
  | .handleMockWebhook dto => reads ch w (TicketPayment.handleMockWebhook dto w)
  | .recordLateWebhook dto message => some (TicketPayment.recordLateWebhook dto message ch w)
  | .handlePaymentTimeout dto => some (TicketPayment.handlePaymentTimeout dto ch w)
  | .failedCheck order => reads ch w (TicketPayment.failedCheck order w)
  | .failedCommit order => some (TicketPayment.failedCommit order ch w)
  | .findGates dto order => reads ch w (TicketPayment.findGates dto order w)
  | .countGateTickets dto order gates =>
      reads ch w (TicketPayment.countGateTickets dto order gates w)
  | .successCommit dto order gateName =>
      some (TicketPayment.successCommit dto order gateName ch w)
  | .delReservation order => some (TicketPayment.delReservation order ch w)
  | .sendOrderPaidEmail order => some (TicketPayment.sendOrderPaidEmail order ch w)
  | .verifyStuckPendingPayments => reads ch w (cronNext (stuckOrders w.db w.now ch.picked))
  | .verifyTransaction order rest => reads ch w (TicketPayment.verifyTransaction order rest ch)
  | .cronPaidCheck order rest => reads ch w (TicketPayment.cronPaidCheck order rest w)
  | .cronPaidCommit order rest => some (TicketPayment.cronPaidCommit order rest ch w)
  | .enqueueTicketIssue order rest => some (TicketPayment.enqueueTicketIssue order rest ch w)
  | .cronExpireCheck order res rest =>
      reads ch w (TicketPayment.cronExpireCheck order res rest w)
  | .cronExpireCommit order res rest =>
      some (TicketPayment.cronExpireCommit order res rest ch w)
  | .issueJob job => reads ch w (TicketServices.issueJob job w)
  | .countIssued job order => reads ch w (TicketServices.countIssued job order w)
  | .issueCommit job order => some (TicketServices.issueCommit job order ch w)
  | .completeJob job answer => some (TicketServices.completeJob job answer ch w)
  | .updateTicketType t dto u role =>
      reads ch w (TicketServices.updateTicketType t dto u role w)
  | .checkOwnership existing dto u role =>
      reads ch w (TicketServices.checkOwnership existing dto u role w)
  | .checkDuplicate existing dto role =>
      reads ch w (TicketServices.checkDuplicate existing dto role w)
  | .writeTicketType existing dto => some (TicketServices.writeTicketType existing dto ch w)
  | .seedStock row => some (TicketServices.seedStock row ch w)
  | .setSoldOut row => some (TicketServices.setSoldOut row ch w)

/-- A task that throws has no effect on the store. -/
def perform (ch : Choice) (w : World) (task : Task) : Option (World × TaskResult Task) :=
  if ch.fails then some (w, .threw)
  else
    match task with
    | .ensureRedisStock t =>
        if (w.redis.stock t).isSome then some (w, .resolved)
        else some (w, .goOn (.readStockRow t))
    | .readStockRow t =>
        match w.db.findTicketType t with
        | none => some (w, .resolved)
        | some row => some (w, .goOn (.setNxStock t (max 0 (availableQty row))))
    | .setNxStock t available =>
        some ({ w with redis := setNxStock t available w.redis }, .resolved)
    | .ensureRedisUserLimit u t =>
        if (w.redis.userLimit (u, t)).isSome then some (w, .resolved)
        else some (w, .goOn (.readCounterRow u t))
    | .readCounterRow u t =>
        some (w, .goOn (.setNxUserLimit u t
          (((w.db.counters (u, t)).map fun c => c.paidQty + c.reservedQty).getD 0)))
    | .setNxUserLimit u t currentCount =>
        some ({ w with redis := setNxUserLimit u t currentCount w.redis }, .resolved)
    | .releaseReservation _ p =>
        -- a refused release is logged, not thrown
        some ({ w with redis := (releaseReservation p w.now w.redis).1 }, .resolved)
    | .decrementReserved t q _ =>
        match decrementReserved t q w.db with
        | none => some (w, .threw)
        | some db => some ({ w with db := db }, .resolved)
    | .decrementCounter u t q _ =>
        match decrementCounter u t q w.db with
        | none => some (w, .threw)
        | some db => some ({ w with db := db }, .resolved)

/-- The backend. -/
def backend : System World Ask Task Answer Choice Request Nat where
  decide := dispatch
  perform := perform
  enter := enter
  env := tick
  detached := .detached

/-- The database, Redis and the queues with the operations in flight. -/
abbrev State := Pool World Ask Task Answer

/-- A step of the backend. -/
abbrev Move := Action Choice Request Nat

/-- A condition on the steps of the backend. -/
abbrev Condition := Guard World Ask Task Answer Choice Request Nat

/-! ## Before the sale -/

/-- The state a sale opens in: the catalogue is in place, nothing was ordered
    and no operation runs. -/
structure Opening (p : State) : Prop where
  types_empty : ∀ r ∈ p.world.db.ticketTypes, r.soldQty = 0 ∧ r.reservedQty = 0
  types_total : ∀ r ∈ p.world.db.ticketTypes, 0 ≤ r.totalQty
  types_limit : ∀ r ∈ p.world.db.ticketTypes, 0 ≤ r.maxPerUser
  orders_nil : p.world.db.orders = []
  payments_nil : p.world.db.payments = []
  tickets_nil : p.world.db.tickets = []
  counters_none : ∀ k, p.world.db.counters k = none
  userLimit_none : ∀ k, p.world.redis.userLimit k = none
  reservations_none : ∀ o, p.world.redis.reservations o = none
  drawn_none : ∀ o, p.world.drawnFor o = none
  jobs_nil : p.world.ticketIssueJobs = []
  expireJobs_nil : p.world.expireJobs = []
  ops_nil : p.ops = []

/-- `n` moves of operation `i`, with no failure and the first task of a batch first. -/
def steps (i n : Nat) : List Move := List.replicate n (.step i 0 {})

/-- A catalogue with one concert on sale and its ticket types, before the sale. -/
def shop (types : List TicketType) : State where
  world :=
    { config := { reservationTtlSeconds := none, ttl_pos := by simp, gatewayBaseUrl := "" }
      nextOrderId := 1
      drawnFor := fun _ => none
      db := { concerts := [{ id := 1, organizerId := 1, status := .saleOpen }], gates := [],
              ticketTypes := types, orders := [], payments := [], tickets := [],
              counters := fun _ => none }
      redis := { stock := fun _ => none, userLimit := fun _ => none, reservations := fun _ => none }
      expireJobs := []
      ticketIssueJobs := []
      nextJobId := 0
      emailJobs := []
      now := 0 }
  ops := []

/-- A type of concert 1 that nobody has bought yet. -/
def onSale (t : TicketTypeId) (totalQty maxPerUser : Nat) : TicketType where
  id := t
  concertId := 1
  name := ""
  price := 10
  totalQty := totalQty
  soldQty := 0
  reservedQty := 0
  maxPerUser := maxPerUser
  saleStartsAt := 0
  saleEndsAt := none
  status := .active

/-- A request for one ticket of a type of concert 1. -/
def oneTicket (t : TicketTypeId) : CreateOrderDto where
  concertId := 1
  items := [{ ticketTypeId := t, quantity := 1, quantity_pos := by decide }]

/-- A signed SUCCESS webhook for an order of one ticket. -/
def paid (o : OrderId) : MockWebhookDto where
  orderId := o
  providerTransactionId := 7
  result := .success
  amount := 10
  signed := true

/-- The shop is a state a sale can open in. -/
theorem shop_opening {types : List TicketType}
    (h : ∀ r ∈ types, ∃ t total limit, r = onSale t total limit) : Opening (shop types) where
  types_empty r hr := by
    obtain ⟨t, total, limit, rfl⟩ := h r hr
    exact ⟨rfl, rfl⟩
  types_total r hr := by
    obtain ⟨t, total, limit, rfl⟩ := h r hr
    exact Int.natCast_nonneg total
  types_limit r hr := by
    obtain ⟨t, total, limit, rfl⟩ := h r hr
    exact Int.natCast_nonneg limit
  orders_nil := rfl
  payments_nil := rfl
  tickets_nil := rfl
  counters_none _ := rfl
  userLimit_none _ := rfl
  reservations_none _ := rfl
  drawn_none _ := rfl
  jobs_nil := rfl
  expireJobs_nil := rfl
  ops_nil := rfl

end TicketBackend
