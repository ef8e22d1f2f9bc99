import TicketBox.ConcertService
import TicketBox.GateAlone
import TicketBox.TicketServices

/-! # The operations an organizer may call

    `PATCH /admin/concerts/:id`, the ticket types of a concert, its gates, and
    `/admin/orders`, each carried out by itself on the tables it reads and writes.
    Whether the caller owns the concert is checked by hand: `update` of the concert
    service and every operation on ticket types do it, the list of orders filters by
    it, the gate controller and the detail of an order do not.

    A row belongs to a concert by its `concertId`, or by its order or its ticket type. -/

namespace TicketAccess

open TicketStore (UserId ConcertId TicketTypeId OrderId Role ApiError OrderStatus TicketTypeStatus
  OrderItem PaymentTransaction UpdateTicketTypeDto)
open TicketConcerts (Concert UpdateConcertDto ConcertResponseDto findConcert updateConcert byPrice)
open TicketGates (Gate GateId CreateGateDto UpdateGateDto)
open TicketCheckin (QrConfig)

/-! ## Rows -/

/-- A row of `TicketType`, with the times its response shows. -/
structure TicketType extends TicketStore.TicketType where
  createdAt : Int
  updatedAt : Int
  deriving DecidableEq

/-- A row of `Ticket`, as the gate service reads it, with its order item. -/
structure Ticket extends toGateTicket : TicketGates.Ticket where
  orderItemId : OrderId × Nat
  deriving DecidableEq

/-- A row of `Order`, with the columns its response shows. -/
structure Order extends TicketStore.Order where
  currency : String
  createdAt : Int
  updatedAt : Int
  deriving DecidableEq

/-- The tables, and the Redis keys `stock:{ticketTypeId}`. -/
structure Db where
  concerts : List Concert
  ticketTypes : List TicketType
  gates : List Gate
  tickets : List Ticket
  orders : List Order
  payments : List PaymentTransaction
  /-- the unique keys of `UserTicketCounter`; what is counted is not read here -/
  counters : List (UserId × TicketTypeId)
  stock : TicketTypeId → Option Int

/-- What a request meets besides the tables: the configuration, the users' names,
    the clock, and the id its row gets if it creates one. -/
structure Env where
  config : QrConfig
  /-- the order of names in `orderBy: { name: 'asc' }` -/
  collate : String → String → Bool
  fullName : UserId → Option String
  now : Int
  ticketTypeId : TicketTypeId
  gateId : GateId

/-- `@CurrentUser()` -/
structure AuthUser where
  sub : UserId
  role : Role

/-- `prisma.ticketType.findUnique` by id. -/
def Db.findType (id : TicketTypeId) (db : Db) : Option TicketType :=
  RowTable.lookup (fun tt : TicketType => tt.id) id db.ticketTypes

/-- `prisma.order.findUnique` by id. -/
def Db.findOrder (id : OrderId) (db : Db) : Option Order :=
  RowTable.lookup (fun o : Order => o.id) id db.orders

/-! ## Responses -/

/-- `TicketTypeResponseDto`: the row with what is available. -/
structure TicketTypeResponseDto extends toRow : TicketType where
  availableQty : Int
  deriving DecidableEq

/-- `toResponse` of the ticket type service. -/
def toResponse (tt : TicketType) : TicketTypeResponseDto :=
  { toRow := tt, availableQty := TicketServices.availableQty tt.toTicketType }

/-- `OrderItemResponseDto`, as an organizer sees an item. -/
structure OrderItemResponseDto where
  id : OrderId × Nat
  ticketTypeId : TicketTypeId
  ticketTypeName : String
  quantity : Int
  unitPrice : Int
  subtotal : Int
  ticketCount : Nat
  deriving DecidableEq

/-- `OrderResponseDto`, as an organizer sees an order. -/
structure OrderResponseDto where
  id : OrderId
  userId : UserId
  concertId : ConcertId
  concertTitle : String
  status : OrderStatus
  totalAmountInVnd : Int
  currency : String
  expiresAt : Option Nat
  paidAt : Option Nat
  cancelledAt : Option Nat
  createdAt : Int
  updatedAt : Int
  items : List OrderItemResponseDto
  paymentUrl : Option String
  ticketCount : Nat
  serverTime : Int
  deriving DecidableEq

/-- What an organizer's request is answered. -/
inductive Response where
  | concert (concert : ConcertResponseDto)
  | ticketTypes (data : List TicketTypeResponseDto) (total : Nat)
  | ticketType (ticketType : TicketTypeResponseDto)
  | message (text : String)
  | gates (gates : List (Gate × Nat))
  | gate (answer : TicketGates.Answer)
  /-- `totalPages` is null where `limit` is 0 -/
  | orders (data : List OrderResponseDto) (total : Nat) (page limit : Int) (totalPages : Option Int)
  | order (order : OrderResponseDto)
  | error (e : ApiError)
  /-- Prisma refuses the arguments of a query -/
  | invalidQuery
  deriving DecidableEq

/-- The row is not there, or not for the caller. -/
def Response.Inaccessible : Response → Prop
  | .error (.notFound _) | .error (.forbidden _) | .gate (.refused (.notFound _)) => True
  | _ => False

/-- The response tells. -/
instance : DecidablePred Response.Inaccessible := fun r => by
  unfold Response.Inaccessible
  split <;> infer_instance

/-! ## The concert -/

/-- `update`, with the ticket types its query includes; the reminder and the caches
    are left out. -/
def updateConcertOf (e : Env) (user : AuthUser) (id : ConcertId) (dto : UpdateConcertDto)
    (db : Db) : Db × Response :=
  match updateConcert id dto user.sub user.role e.now db.concerts with
  | .error err => (db, .error err)
  | .ok (existing, rows) =>
      let concert := dto.apply e.now existing
      let ticketTypes := (db.ticketTypes.filter fun tt => tt.concertId = id).map
        TicketType.toTicketType
      ({ db with concerts := rows }, .concert (TicketConcerts.toResponse
        { concert := concert
          organizer := some { fullName := e.fullName concert.organizerId }
          ticketTypes := some (byPrice ticketTypes) }))

/-! ## Ticket types -/

/-- The error of `checkConcertOwnership`, if it throws one. -/
def checkConcertOwnership (c : ConcertId) (user : AuthUser) (db : Db) : Option ApiError :=
  match findConcert c db.concerts with
  | none => some (.notFound s!"Concert with ID \"{c}\" not found")
  | some concert =>
      if user.role ≠ .admin ∧ concert.organizerId ≠ user.sub then
        some (.forbidden "You do not have permission to manage ticket types for this concert")
      else none

/-- `findAll` of the ticket types of a concert. -/
def findTypes (c : ConcertId) (status : Option TicketTypeStatus) (user : AuthUser) (db : Db) :
    Response :=
  match checkConcertOwnership c user db with
  | some err => .error err
  | none =>
      let ticketTypes := (db.ticketTypes.filter fun tt =>
        tt.concertId = c ∧ ∀ s ∈ status, tt.status = s).insertionSort fun a b => b.price ≤ a.price
      .ticketTypes (ticketTypes.map toResponse) ticketTypes.length

/-- The row the operations on one ticket type read, if the caller may see it. -/
def readType (id : TicketTypeId) (user : AuthUser) (db : Db) : Except ApiError TicketType :=
  match db.findType id with
  | none => .error (.notFound s!"Ticket type with ID \"{id}\" not found")
  | some tt =>
      match checkConcertOwnership tt.concertId user db with
      | some err => .error err
      | none => .ok tt

/-- `findOne` of a ticket type. -/
def findTypeOf (id : TicketTypeId) (user : AuthUser) (db : Db) : Response :=
  match readType id user db with
  | .error err => .error err
  | .ok tt => .ticketType (toResponse tt)

/-- `CreateTicketTypeDto`, as the validation pipe lets it through. -/
structure CreateTicketTypeDto where
  name : String
  price : Int
  totalQty : Int
  maxPerUser : Int
  saleStartsAt : Nat
  saleEndsAt : Option Nat
  status : Option TicketTypeStatus
  name_ne : name ≠ ""
  price_nonneg : 0 ≤ price
  totalQty_pos : 1 ≤ totalQty
  maxPerUser_pos : 1 ≤ maxPerUser
  saleWindowValid : ∀ x ∈ saleEndsAt, saleStartsAt < x

/-- The row `create` writes. -/
def CreateTicketTypeDto.row (dto : CreateTicketTypeDto) (e : Env) (c : ConcertId) : TicketType where
  id := e.ticketTypeId
  concertId := c
  name := dto.name
  price := dto.price
  totalQty := dto.totalQty
  soldQty := 0
  reservedQty := 0
  maxPerUser := dto.maxPerUser
  saleStartsAt := dto.saleStartsAt
  saleEndsAt := dto.saleEndsAt
  status := dto.status.getD .active
  createdAt := e.now
  updatedAt := e.now

/-- `ticketType.findUnique({ where: { concertId_name } })` finds a row. -/
def Db.HasType (c : ConcertId) (name : String) (db : Db) : Prop :=
  ∃ tt ∈ db.ticketTypes, tt.concertId = c ∧ tt.name = name

/-- The services look the name up. -/
instance (c : ConcertId) (name : String) (db : Db) : Decidable (db.HasType c name) :=
  inferInstanceAs (Decidable (∃ _ ∈ _, _ ∧ _))

/-- `COMPLETED` or `CANCELLED` -/
def isOver (concert : Concert) : Bool :=
  concert.status = .completed ∨ concert.status = .cancelled

/-- `create` of a ticket type. -/
def createType (e : Env) (user : AuthUser) (c : ConcertId) (dto : CreateTicketTypeDto) (db : Db) :
    Db × Response :=
  match checkConcertOwnership c user db with
  | some err => (db, .error err)
  | none =>
      if db.HasType c dto.name then
        (db, .error (.conflict s!"Ticket type \"{dto.name}\" already exists for this concert"))
      else if (findConcert c db.concerts).any isOver then
        (db, .error (.badRequest "Cannot add ticket types to a completed or cancelled concert"))
      else if (db.findType e.ticketTypeId).isSome then (db, .error .uniqueViolation)
      else
        let ticketType := dto.row e c
        ({ db with ticketTypes := db.ticketTypes ++ [ticketType]
                   stock := Function.update db.stock ticketType.id (some ticketType.totalQty) },
          .ticketType (toResponse ticketType))

/-- Whether `name` is given, new, and in use. -/
def duplicate (existing : TicketType) (dto : UpdateTicketTypeDto) (db : Db) : Prop :=
  ∃ name ∈ dto.name, name ≠ existing.name ∧ db.HasType existing.concertId name

/-- They look for another type of the name. -/
instance (existing : TicketType) (dto : UpdateTicketTypeDto) (db : Db) :
    Decidable (duplicate existing dto db) :=
  inferInstanceAs (Decidable (∃ _ ∈ _, _ ∧ _))

/-- The row after `ticketType.update` and the SOLD_OUT step. -/
def updatedType (e : Env) (existing : TicketType) (dto : UpdateTicketTypeDto) : TicketType :=
  let data := TicketDb.updateData dto existing.toTicketType
  let status := if TicketServices.availableQty data = 0 then .soldOut else data.status
  { data with status := status, createdAt := existing.createdAt, updatedAt := e.now }

/-- The quantities of the DTO that have `stock:{id}` written again. -/
def reseeds (dto : UpdateTicketTypeDto) : Bool :=
  dto.totalQty.isSome ∨ dto.soldQty.isSome ∨ dto.reservedQty.isSome

/-- `update` of a ticket type. -/
def updateType (e : Env) (user : AuthUser) (id : TicketTypeId) (dto : UpdateTicketTypeDto)
    (db : Db) : Db × Response :=
  match readType id user db with
  | .error err => (db, .error err)
  | .ok existing =>
      if duplicate existing dto db then
        (db, .error (.conflict
          s!"Ticket type \"{dto.name.getD existing.name}\" already exists for this concert"))
      else
        match TicketServices.updateChecks existing.toTicketType dto user.role with
        | some err => (db, .error err)
        | none =>
            let ticketType := updatedType e existing dto
            if ∃ tt ∈ db.ticketTypes, tt.id ≠ id ∧ tt.concertId = ticketType.concertId ∧
                tt.name = ticketType.name then
              (db, .error .uniqueViolation)
            else
              ({ db with
                  ticketTypes := RowTable.modify (fun tt : TicketType => tt.id) id
                    (fun tt => updatedType e tt dto) db.ticketTypes
                  stock := if reseeds dto then Function.update db.stock id
                      (some (TicketServices.availableQty ticketType.toTicketType))
                    else db.stock },
                .ticketType (toResponse ticketType))

/-- A foreign key refuses the deletion of the ticket type. -/
def Db.References (id : TicketTypeId) (db : Db) : Prop :=
  (∃ o ∈ db.orders, ∃ i ∈ o.items, i.ticketTypeId = id) ∨ ∃ k ∈ db.counters, k.2 = id

/-- The database looks for a row that refers. -/
instance (id : TicketTypeId) (db : Db) : Decidable (db.References id) :=
  inferInstanceAs (Decidable ((∃ _ ∈ _, ∃ _ ∈ _, _) ∨ ∃ _ ∈ _, _))

/-- `remove` of a ticket type. -/
def removeType (user : AuthUser) (id : TicketTypeId) (db : Db) : Db × Response :=
  match readType id user db with
  | .error err => (db, .error err)
  | .ok tt =>
      if 0 < tt.soldQty ∨ 0 < tt.reservedQty then
        (db, .error (.badRequest (s!"Cannot delete ticket type with soldQty={tt.soldQty} and "
          ++ s!"reservedQty={tt.reservedQty}. Cancel or process orders first.")))
      else if db.References id then (db, .error .foreignKey)
      else
        ({ db with
            ticketTypes := RowTable.remove (fun tt : TicketType => tt.id) id db.ticketTypes
            stock := Function.update db.stock id none },
          .message s!"Ticket type \"{tt.name}\" deleted successfully")

/-! ## Gates -/

/-- The name of a ticket type, where a ticket is joined with it. -/
def Db.typeName (db : Db) (id : TicketTypeId) : String :=
  ((db.findType id).map fun tt => tt.name).getD ""

/-- The store the gate service works on. -/
def Db.gateWorld (e : Env) (db : Db) : TicketGates.World where
  config := e.config
  collate := e.collate
  typeName := db.typeName
  concerts := db.concerts.map fun c => c.id
  gates := db.gates
  tickets := db.tickets.map Ticket.toGateTicket
  orders := db.orders.map Order.toOrder

/-- The tables after a gate operation, which adds, drops and reorders no tickets. -/
def Db.withGates (w : TicketGates.World) (db : Db) : Db :=
  { db with gates := w.gates
            tickets := List.zipWith (fun x t => { x with toGateTicket := t }) db.tickets w.tickets }

/-- An operation of `GateService`, on the rows as it sees them. -/
def gateOp (e : Env) (op : TicketGates.World → TicketGates.World × TicketGates.Answer) (db : Db) :
    Db × Response :=
  (db.withGates (op (db.gateWorld e)).1, .gate (op (db.gateWorld e)).2)

/-! ## Orders -/

/-- `toOrderItemResponse` -/
def toOrderItemResponse (item : OrderItem) (db : Db) : OrderItemResponseDto where
  id := item.id
  ticketTypeId := item.ticketTypeId
  ticketTypeName := db.typeName item.ticketTypeId
  quantity := item.quantity
  unitPrice := item.unitPrice
  subtotal := item.subtotal
  ticketCount := (db.tickets.filter fun t => t.orderItemId = item.id).length

/-- `toOrderResponseMinimal` -/
def toOrderResponseMinimal (e : Env) (order : Order) (paymentUrl : Option String) (db : Db) :
    OrderResponseDto :=
  let items := order.items.map fun item => toOrderItemResponse item db
  { id := order.id
    userId := order.userId
    concertId := order.concertId
    concertTitle := ((findConcert order.concertId db.concerts).map fun c => c.title).getD ""
    status := order.status
    totalAmountInVnd := order.totalAmountInVnd
    currency := order.currency
    expiresAt := order.expiresAt
    paidAt := order.paidAt
    cancelledAt := order.cancelledAt
    createdAt := order.createdAt
    updatedAt := order.updatedAt
    items := items
    paymentUrl := paymentUrl
    ticketCount := (items.map fun item => item.ticketCount).sum
    serverTime := e.now }

/-- `skip` and `take` of a query; a negative `take` counts from the end. -/
def pageOf {Row : Type} (skip take : Int) (rows : List Row) : Option (List Row) :=
  if skip < 0 then none
  else if 0 ≤ take then some ((rows.drop skip.toNat).take take.toNat)
  else some ((rows.reverse.drop skip.toNat).take take.natAbs).reverse

/-- `Math.ceil(total / limit)` -/
def totalPages (total : Nat) (limit : Int) : Option Int :=
  if limit = 0 then none else some (-(Int.fdiv (-total) limit))

/-- The organizer of the order's concert is `u`. -/
def Db.organizedBy (u : UserId) (db : Db) (o : Order) : Bool :=
  db.concerts.any fun c => c.id = o.concertId ∧ c.organizerId = u

/-- `getAllOrders` of the controller and of the service. -/
def getAllOrders (e : Env) (user : AuthUser) (page limit : Int) (status : Option OrderStatus)
    (concertId : Option ConcertId) (db : Db) : Response :=
  let organizerId := if user.role = .organizer then some user.sub else none
  let rows := db.orders.filter fun o => (∀ s ∈ status, o.status = s) ∧
    (∀ c ∈ concertId, o.concertId = c) ∧ ∀ u ∈ organizerId, db.organizedBy u o = true
  match pageOf ((page - 1) * limit) limit (rows.insertionSort fun a b => b.createdAt ≤ a.createdAt)
    with
  | none => .invalidQuery
  | some orders => .orders (orders.map fun o => toOrderResponseMinimal e o none db) rows.length
      page limit (totalPages rows.length limit)

/-- The payments of an order, the newest first. -/
def Db.paymentsOf (o : OrderId) (db : Db) : List PaymentTransaction :=
  (db.payments.filter fun p => p.orderId = o).reverse

/-- `getOrderAdmin`. -/
def getOrderAdmin (e : Env) (orderId : OrderId) (db : Db) : Response :=
  match db.findOrder orderId with
  | none => .error (.notFound s!"Order with ID \"{orderId}\" not found")
  | some order =>
      let paymentUrl := (db.paymentsOf orderId).head?.bind fun p => p.paymentUrl
      .order (toOrderResponseMinimal e order paymentUrl db)

/-! ## Requests -/

/-- The organizer's routes about concerts, ticket types, gates and orders. -/
inductive Request where
  | updateConcert (id : ConcertId) (dto : UpdateConcertDto)
  | findTypes (c : ConcertId) (status : Option TicketTypeStatus)
  | findType (id : TicketTypeId)
  | createType (c : ConcertId) (dto : CreateTicketTypeDto)
  | updateType (id : TicketTypeId) (dto : UpdateTicketTypeDto)
  | removeType (id : TicketTypeId)
  | listGates (c : ConcertId)
  | createGate (c : ConcertId) (dto : CreateGateDto)
  | updateGate (id : GateId) (dto : UpdateGateDto)
  | removeGate (id : GateId)
  | rebalance (c : ConcertId)
  | getAllOrders (page limit : Int) (status : Option OrderStatus) (concertId : Option ConcertId)
  | getOrderAdmin (orderId : OrderId)

/-- A request of `user`, carried out. -/
def handle (e : Env) (user : AuthUser) (r : Request) (db : Db) : Db × Response :=
  match r with
  | .updateConcert id dto => updateConcertOf e user id dto db
  | .findTypes c status => (db, findTypes c status user db)
  | .findType id => (db, findTypeOf id user db)
  | .createType c dto => createType e user c dto db
  | .updateType id dto => updateType e user id dto db
  | .removeType id => removeType user id db
  | .listGates c => (db, .gates (TicketGates.list c (db.gateWorld e)))
  | .createGate c dto => gateOp e (TicketGates.createAlone c dto e.gateId) db
  | .updateGate id dto => gateOp e (TicketGates.updateAlone id dto) db
  | .removeGate id => gateOp e (TicketGates.removeAlone id) db
  | .rebalance c => gateOp e (TicketGates.rebalanceAlone c) db
  | .getAllOrders page limit status concertId =>
      (db, getAllOrders e user page limit status concertId db)
  | .getOrderAdmin orderId => (db, getOrderAdmin e orderId db)

end TicketAccess
