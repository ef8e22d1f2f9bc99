import TicketBox.Flow

/-! # OrderService

    `createOrder`, `cancelOrder` and `expireOrder` of `order.service.ts`, cut at
    their awaits.  Each function takes the store at the moment its call runs and
    gives the store after it and what the operation awaits next. -/

namespace TicketOrder

open Interleave TicketStore TicketRedis TicketDb TicketFlow

/-! ## createOrder, steps 1 to 3 -/

/-- `DEFAULT_RESERVATION_TTL_SECONDS` -/
def defaultReservationTtlSeconds : Nat := 15 * 60

/-- `getReservationTtl`. -/
def getReservationTtl (c : Config) : Nat :=
  c.reservationTtlSeconds.getD defaultReservationTtlSeconds

/-- A reservation lives a while. -/
theorem getReservationTtl_pos (c : Config) : 0 < getReservationTtl c := by
  unfold getReservationTtl
  cases h : c.reservationTtlSeconds with
  | none => decide
  | some ttl => exact c.ttl_pos ttl h

/-- The name of a status in messages. -/
def concertStatusName : ConcertStatus → String
  | .draft => "DRAFT"
  | .published => "PUBLISHED"
  | .saleOpen => "SALE_OPEN"
  | .saleClosed => "SALE_CLOSED"
  | .cancelled => "CANCELLED"
  | .completed => "COMPLETED"

/-- The name of a status in messages. -/
def ticketTypeStatusName : TicketTypeStatus → String
  | .active => "ACTIVE"
  | .inactive => "INACTIVE"
  | .soldOut => "SOLD_OUT"

/-- The name of a status in messages. -/
def orderStatusName : OrderStatus → String
  | .pendingPayment => "PENDING_PAYMENT"
  | .paid => "PAID"
  | .expired => "EXPIRED"
  | .cancelled => "CANCELLED"
  | .paymentFailed => "PAYMENT_FAILED"
  | .refunded => "REFUNDED"

/-- `validateTicketType`, with the item whose entry of `ticketMeta` it gives. -/
def validateTicketType (db : Db) (now : Nat) (c : ConcertId) (item : OrderItemDto) :
    Except ApiError TicketMeta :=
  match db.findConcert c with
  | none => .error (.notFound s!"Concert with ID \"{c}\" not found")
  | some concert =>
      if concert.status ≠ .published ∧ concert.status ≠ .saleOpen then
        .error (.badRequest ("Concert is not open for ticket sales (current status: "
          ++ concertStatusName concert.status ++ ")"))
      else
        match db.findTicketType item.ticketTypeId with
        | none => .error (.notFound s!"Ticket type with ID \"{item.ticketTypeId}\" not found")
        | some t =>
            if t.concertId ≠ c then
              .error (.badRequest
                s!"Ticket type \"{item.ticketTypeId}\" does not belong to concert \"{c}\"")
            else if t.status ≠ .active then
              .error (.badRequest ("Ticket type is not active (status: "
                ++ ticketTypeStatusName t.status ++ ")"))
            else if now < t.saleStartsAt then
              .error (.badRequest "Ticket sales have not started yet")
            else if t.saleEndsAt.any (fun e => decide (e < now)) then
              .error (.badRequest "Ticket sales have ended")
            else
              .ok { ticketTypeId := item.ticketTypeId, quantity := item.quantity,
                    quantity_pos := item.quantity_pos, maxPerUser := t.maxPerUser,
                    unitPrice := t.price }

/-- Step 2: seed the missing Redis keys of every item. -/
def seedTasks (u : UserId) (metas : List TicketMeta) : List Task :=
  metas.flatMap fun m => [.ensureRedisStock m.ticketTypeId, .ensureRedisUserLimit u m.ticketTypeId]

/-- One round of the validating loop. -/
def validateNext (ctx : CreateCtx) (w : World) (metas : List TicketMeta) :
    List OrderItemDto → Op
  | [] => .par (seedTasks ctx.userId metas) thrown (.ask (.randomUUID ctx metas))
  | item :: todo =>
      match validateTicketType w.db w.now ctx.concertId item with
      | .error e => .ret (.error e)
      | .ok m => .ask (.validateTicketType ctx todo (metas ++ [m]))

/-- The entry: the window of the order starts here. -/
def createOrder (dto : CreateOrderDto) (u : UserId) (w : World) : Op :=
  let ttl := getReservationTtl w.config
  .ask (.validateTicketType
    { concertId := dto.concertId, userId := u, ttl := ttl, expiresAt := w.now + ttl * 1000 }
    dto.items [])

/-! ## createOrder, step 4: the parallel reservations -/

/-- The `releaseReservation` calls of createOrder. -/
def metaReleases (site : ReleaseSite) (ctx : CreateCtx) (o : OrderId) (metas : List TicketMeta) :
    List Task :=
  metas.map fun m => .releaseReservation site
    { ticketTypeId := m.ticketTypeId, userId := ctx.userId, orderId := o, quantity := m.quantity,
      quantity_pos := m.quantity_pos }

/-- The `reserveTicket` call of one item. -/
def reserveParams (ctx : CreateCtx) (o : OrderId) (m : TicketMeta) : ReserveParams where
  ticketTypeId := m.ticketTypeId
  userId := ctx.userId
  orderId := o
  quantity := m.quantity
  quantity_pos := m.quantity_pos
  maxPerUser := m.maxPerUser
  ttlSeconds := ctx.ttl

/-- `results[i].ok`, once the slot settled without throwing. -/
def ReserveSlot.failure (s : ReserveSlot) : Option LuaError :=
  match s.reply with
  | some (.ok (.error e)) => some e
  | _ => none

/-- The exception for the first rejected reservation. -/
def reserveException (m : TicketMeta) : LuaError → ApiError
  | .outOfStock =>
      .unprocessable s!"Not enough tickets available for ticket type \"{m.ticketTypeId}\""
  | .exceedUserLimit remaining =>
      .unprocessable ("Purchase limit exceeded. You can buy up to " ++ toString remaining
        ++ " more ticket(s) for this ticket type")
  | e => .unprocessable ("Reservation failed: " ++ e.code ++ " — " ++ e.message)

/-- The rollback loop, from the item before the failed one down to the first. -/
def rollback (ctx : CreateCtx) (o : OrderId) (e : ApiError) : List TicketMeta → Op
  | [] => .ret (.error e)
  | m :: ms => .par (metaReleases .rollback ctx o [m]) thrown (rollback ctx o e ms)

/-- What follows `Promise.all` of the reservations: an exception if one threw,
    the rollback before the first rejected one, else the order row. -/
def afterReserve (ctx : CreateCtx) (o : OrderId) (slots : List ReserveSlot) : Op :=
  if slots.any (fun s => match s.reply with | some (.error _) => true | _ => false) then thrown
  else
    match slots.findIdx? (fun s => (ReserveSlot.failure s).isSome) with
    | none => .ask (.persistOrder ctx o (slots.map ReserveSlot.item))
    | some failedIndex =>
        match slots[failedIndex]? with
        | none => thrown
        | some s =>
            match ReserveSlot.failure s with
            | none => thrown
            | some e =>
                rollback ctx o (reserveException s.item e)
                  ((slots.take failedIndex).reverse.map ReserveSlot.item)

/-- Await the reservations still running, or go on when all have settled. -/
def awaitReserve (ctx : CreateCtx) (o : OrderId) (slots : List ReserveSlot) : Op :=
  if slots.all (fun s => s.reply.isSome) then afterReserve ctx o slots
  else .ask (.reserveTickets ctx o slots)

/-- Step 3 and the start of step 4; `crypto.randomUUID` never repeats an id. -/
def randomUUID (ctx : CreateCtx) (metas : List TicketMeta) (w : World) : World × Op :=
  ({ w with nextOrderId := w.nextOrderId + 1
            drawnFor := Function.update w.drawnFor w.nextOrderId (some (ctx, metas)) },
    awaitReserve ctx w.nextOrderId (metas.map fun m => { item := m, reply := none }))

/-- One of the running reservations takes effect. -/
def reserveTickets (ctx : CreateCtx) (o : OrderId) (slots : List ReserveSlot) (ch : Choice)
    (w : World) : Option (World × Op) :=
  match slots[ch.slot]? with
  | none => none
  | some s =>
      match s.reply with
      | some _ => none
      | none =>
          if ch.fails then
            some (w, awaitReserve ctx o (slots.set ch.slot { s with reply := some (.error .unavailable) }))
          else
            let res := TicketRedis.reserveTicket (reserveParams ctx o s.item) w.now w.redis
            some ({ w with redis := res.1 },
              awaitReserve ctx o (slots.set ch.slot { s with reply := some (.ok res.2) }))

/-! ## createOrder, step 5: the order row and the inventory -/

/-- `subtotals`, as the nested `items: { create }` writes them. -/
def orderItems (o : OrderId) (metas : List TicketMeta) : List OrderItem :=
  metas.mapIdx fun n m =>
    { id := (o, n), ticketTypeId := m.ticketTypeId, quantity := m.quantity,
      quantity_pos := m.quantity_pos, unitPrice := m.unitPrice,
      subtotal := m.unitPrice * m.quantity }

/-- The row `order.create` writes. -/
def newOrder (ctx : CreateCtx) (o : OrderId) (metas : List TicketMeta) : Order where
  id := o
  userId := ctx.userId
  concertId := ctx.concertId
  status := .pendingPayment
  totalAmountInVnd := (metas.map fun m => m.unitPrice * m.quantity).sum
  expiresAt := some ctx.expiresAt
  paidAt := none
  cancelledAt := none
  inventoryReleasedAt := none
  releaseReason := none
  items := orderItems o metas

/-- What `createOrder` throws when its inventory transaction fails. -/
def failedToCreate : ApiError := .badRequest "Failed to create order. Please try again."

/-- `order.create`, and the releases where it fails. -/
def persistOrder (ctx : CreateCtx) (o : OrderId) (metas : List TicketMeta) (ch : Choice)
    (w : World) : World × Op :=
  match (if ch.fails then none else insertOrder (newOrder ctx o metas) w.db) with
  | some db => ({ w with db := db }, .ask (.syncInventory ctx o metas))
  | none => (w, .par (metaReleases .persistFailed ctx o metas) thrown (.ret (.error failedToCreate)))

/-- The catch block of the inventory transaction. -/
def inventoryRollback (ctx : CreateCtx) (o : OrderId) (metas : List TicketMeta) (e : ApiError) : Op :=
  .par (metaReleases .inventoryFailed ctx o metas) thrown (.ask (.deleteOrderQuietly o e))

/-- The inventory transaction of `createOrder`, and its compensation. -/
def syncInventory (ctx : CreateCtx) (o : OrderId) (metas : List TicketMeta) (ch : Choice)
    (w : World) : World × Op :=
  if ch.fails then (w, inventoryRollback ctx o metas failedToCreate)
  else
    match TicketDb.syncInventory ctx.userId metas w.db with
    | .ok db =>
        ({ w with db := db }, .ask (.createPaymentUrl (.createOrder ctx metas) o ctx.userId))
    | .error t =>
        (w, inventoryRollback ctx o metas
          (.unprocessable s!"Not enough tickets available for ticket type \"{t}\""))

/-- `.delete(…).catch(() => undefined)`, then the exception. -/
def deleteOrderQuietly (o : OrderId) (e : ApiError) (ch : Choice) (w : World) : World × Op :=
  if ch.fails then (w, .ret (.error e))
  else
    match TicketDb.deleteOrder o w.db with
    | .ok db => ({ w with db := db }, .ret (.error e))
    | .error _ => (w, .ret (.error e))

/-- The catch block around the payment gateway. -/
def gatewayRollback (ctx : CreateCtx) (o : OrderId) (metas : List TicketMeta) (e : ApiError) : Op :=
  .par (metaReleases .gatewayFailed ctx o metas) thrown
    (.par (metas.map (fun m => Task.decrementReserved m.ticketTypeId m.quantity m.quantity_pos)
        ++ metas.map (fun m =>
          Task.decrementCounter ctx.userId m.ticketTypeId m.quantity m.quantity_pos))
      thrown (.ask (.deleteOrder o e)))

/-- `order.delete` with nothing to catch it, then the gateway's exception. -/
def deleteOrder (o : OrderId) (e : ApiError) (ch : Choice) (w : World) : World × Op :=
  if ch.fails then (w, thrown)
  else
    match TicketDb.deleteOrder o w.db with
    | .ok db => ({ w with db := db }, .ret (.error e))
    | .error e' => (w, .ret (.error e'))

/-- `expireQueue.add('expire', …, { delay })` -/
def scheduleExpiry (ctx : CreateCtx) (o : OrderId) (url : String) (ch : Choice) (w : World) :
    World × Op :=
  if ch.fails then (w, thrown)
  else ({ w with expireJobs := w.expireJobs ++ [(o, w.now + ctx.ttl * 1000)] },
    .ret (.orderCreated o url))

/-! ## cancelOrder -/

/-- `cancelOrder` up to its releases, on the row it reads. -/
def cancelOrder (o : OrderId) (u : UserId) (w : World) : Op :=
  match w.db.findOrder o with
  | none => .ret (.error (.notFound s!"Order with ID \"{o}\" not found"))
  | some order =>
      if order.userId ≠ u then
        .ret (.error (.unauthorized "You do not have permission to cancel this order"))
      else if order.status ≠ .pendingPayment then
        .ret (.error (.badRequest ("Only PENDING_PAYMENT orders can be cancelled (current status: "
          ++ orderStatusName order.status ++ ")")))
      else
        .par (releases .cancel order) thrown
          (.par (typeDecrements order ++ counterDecrements order) thrown
            (.ask (.markCancelled order)))

/-- The status write of `cancelOrder`. -/
def markCancelled (order : Order) (ch : Choice) (w : World) : World × Op :=
  match (if ch.fails then none else commitCancelled order.id w.now w.db) with
  | none => (w, thrown)
  | some db => ({ w with db := db }, .ret (.orderCancelled order.id))

/-! ## expireOrder -/

/-- `expireOrder` up to its releases, on the row it reads. -/
def expireOrder (o : OrderId) (w : World) : Op :=
  match w.db.findOrder o with
  | none => .ret .expireDone
  | some order =>
      if order.status ≠ .pendingPayment then .ret .expireDone
      else if order.expiresAt.any (fun e => decide (w.now < e)) then .ret .expireDone
      else
        .par (releases .expire order) thrown
          (.par (counterDecrements order) thrown
            (.par (typeDecrements order) thrown (.ask (.markExpired order))))

/-- The status write of `expireOrder`. -/
def markExpired (order : Order) (ch : Choice) (w : World) : World × Op :=
  match (if ch.fails then none else commitExpired order.id w.now w.db) with
  | none => (w, thrown)
  | some db => ({ w with db := db }, .ret .expireDone)

end TicketOrder
