import TicketBox.Machine
import TicketBox.MyTickets
import TicketBox.OffsetPages

/-! # The customer's tickets and orders, page by page

    `getMyTickets` and `getMyOrders` answer with a page of a listing, newest first, and
    with a total that a statement of its own has counted; `MyTicketsPage.tsx` and
    `MyOrdersPage.tsx` load one page after the other.  The two differ in what they list
    (`Source`); what they do with it is one thing. -/

namespace MyPages

open OffsetPages MyTickets
open TicketStore (UserId OrderId ConcertId TicketTypeId TicketStatus OrderStatus)
open TicketCheckin (TicketId)

/-! ## The lists of the backend -/

/-- A page and a limit, both at least 1. -/
structure PageQuery where
  page : Nat
  limit : Nat
  page_pos : 0 < page
  limit_pos : 0 < limit

/-- A page of a list, with its position in the whole. -/
structure ListResponseDto (Resp : Type) where
  data : List Resp
  total : Nat
  page : Nat
  limit : Nat
  totalPages : Nat

/-- `skip` and `take` of `listing`, and `Math.ceil(total / limit)`. -/
def listResponse {Row Resp : Type} (toResponse : Row → Resp) (listing : List Row) (total : Nat)
    (query : PageQuery) : ListResponseDto Resp where
  data := (window ((query.page - 1) * query.limit) query.limit listing).map toResponse
  total := total
  page := query.page
  limit := query.limit
  totalPages := (total + query.limit - 1) / query.limit

/-- `getMyTickets`, given the listing and the count of the user's tickets. -/
def getMyTickets (listing : List TicketRow) (total : Nat) (query : PageQuery) :
    ListResponseDto TicketResponseDto :=
  listResponse toTicketResponse listing total query

/-- A row of `OrderItem`, with the name of its type and the ids of its tickets. -/
structure OrderItemRow where
  id : OrderId × Nat
  ticketTypeId : TicketTypeId
  ticketTypeName : String
  quantity : Int
  unitPrice : Int
  subtotal : Int
  tickets : List TicketId
  deriving DecidableEq

/-- A row of `Order`, with the title of its concert and its items. -/
structure OrderRow where
  id : OrderId
  userId : UserId
  concertId : ConcertId
  concertTitle : String
  status : OrderStatus
  totalAmountInVnd : Int
  currency : String
  expiresAt : Option Nat
  paidAt : Option Nat
  cancelledAt : Option Nat
  createdAt : Nat
  updatedAt : Nat
  items : List OrderItemRow
  deriving DecidableEq

/-- `OrderItemResponseDto`, as the list of a customer shows an item. -/
structure OrderItemResponseDto where
  id : OrderId × Nat
  ticketTypeId : TicketTypeId
  ticketTypeName : String
  quantity : Int
  unitPrice : Int
  subtotal : Int
  ticketCount : Nat
  deriving DecidableEq

/-- `OrderResponseDto`, as the list of a customer shows an order. -/
structure OrderResponseDto where
  id : OrderId
  userId : UserId
  concertId : ConcertId
  concertTitle : String
  status : OrderStatus
  totalAmountInVnd : Int
  currency : String
  expiresAt : Option Nat
  paidAt : Option Nat
  cancelledAt : Option Nat
  createdAt : Nat
  updatedAt : Nat
  items : List OrderItemResponseDto
  paymentUrl : Option String
  ticketCount : Nat
  deriving DecidableEq

/-- `toOrderItemResponse`, with the tickets of the item counted. -/
def toOrderItemResponse (item : OrderItemRow) : OrderItemResponseDto where
  id := item.id
  ticketTypeId := item.ticketTypeId
  ticketTypeName := item.ticketTypeName
  quantity := item.quantity
  unitPrice := item.unitPrice
  subtotal := item.subtotal
  ticketCount := item.tickets.length

/-- `toOrderResponseMinimal`: the order as the list shows it. -/
def toOrderResponseMinimal (paymentUrl : Option String) (order : OrderRow) : OrderResponseDto where
  id := order.id
  userId := order.userId
  concertId := order.concertId
  concertTitle := order.concertTitle
  status := order.status
  totalAmountInVnd := order.totalAmountInVnd
  currency := order.currency
  expiresAt := order.expiresAt
  paidAt := order.paidAt
  cancelledAt := order.cancelledAt
  createdAt := order.createdAt
  updatedAt := order.updatedAt
  items := order.items.map toOrderItemResponse
  paymentUrl := paymentUrl
  ticketCount := (order.items.map fun item => item.tickets.length).sum

/-- `getMyOrders`, given the listing of the orders with the status and the count of all. -/
def getMyOrders (listing : List OrderRow) (total : Nat) (query : PageQuery) :
    ListResponseDto OrderResponseDto :=
  listResponse (toOrderResponseMinimal none) listing total query

/-! ## What a page lists -/

/-- The list behind a page: its route, the `where` of its two statements, and what else
    happens to its table. -/
structure Source (Row Resp Change Id : Type) where
  limit : Nat
  limit_pos : 0 < limit
  id : Row → Id
  createdAt : Row → Nat
  /-- `where` of `findMany` -/
  listed : Row → Bool
  /-- `where` of `count` -/
  counted : Row → Bool
  route : List Row → Nat → PageQuery → ListResponseDto Resp
  apply : Change → List Row → List Row
  /-- the page loads itself again when an order on it expires -/
  expires : Bool

/-- `orderBy: { createdAt: 'desc' }` -/
def newestFirst {Row Resp Change Id : Type} (src : Source Row Resp Change Id) (row : Row) : ℕᵒᵈ :=
  OrderDual.toDual (src.createdAt row)

/-- What happens to the tickets: one is issued, or what may change of one does. -/
inductive TicketChange where
  | issue (row : TicketRow)
  | update (id : TicketId) (status : TicketStatus) (checkedInAt : Option Nat)
      (gateId qrSignature : Option String)

/-- The columns of a ticket that check-in and the gates write. -/
def TicketRow.updated (status : TicketStatus) (checkedInAt : Option Nat)
    (gateId qrSignature : Option String) (r : TicketRow) : TicketRow :=
  { r with status := status, checkedInAt := checkedInAt, gateId := gateId, qrSignature := qrSignature }

/-- One write of the table of tickets. -/
def TicketChange.apply : TicketChange → List TicketRow → List TicketRow
  | .issue row, rows =>
      if ∃ r ∈ rows, r.id = row.id then rows else rows ++ [row]
  | .update id status checkedInAt gateId qrSignature, rows =>
      RowTable.modify (fun r : TicketRow => r.id) id
        (TicketRow.updated status checkedInAt gateId qrSignature) rows

/-- The page of a customer's tickets. -/
def myTickets (userId : UserId) : Source TicketRow TicketResponseDto TicketChange TicketId where
  limit := 20
  limit_pos := by decide
  id := fun row => row.id
  createdAt := fun row => row.createdAt
  listed := fun row => row.userId = userId
  counted := fun row => row.userId = userId
  route := getMyTickets
  apply := TicketChange.apply
  expires := false

/-- What happens to the orders: one is created, one is taken back, or its status changes. -/
inductive OrderChange where
  | create (order : OrderRow)
  | delete (id : OrderId)
  | setStatus (id : OrderId) (status : OrderStatus) (updatedAt : Nat)

/-- One write of the table of orders. -/
def OrderChange.apply : OrderChange → List OrderRow → List OrderRow
  | .create order, rows => if ∃ r ∈ rows, r.id = order.id then rows else rows ++ [order]
  | .delete id, rows => RowTable.remove OrderRow.id id rows
  | .setStatus id status updatedAt, rows =>
      RowTable.modify OrderRow.id id
        (fun r => { r with status := status, updatedAt := updatedAt }) rows

/-- The filter narrows the listing down and leaves the count alone. -/
def myOrders (userId : UserId) (status : Option OrderStatus) :
    Source OrderRow OrderResponseDto OrderChange OrderId where
  limit := 10
  limit_pos := by decide
  id := OrderRow.id
  createdAt := OrderRow.createdAt
  listed := fun row => row.userId = userId ∧ ∀ s, status = some s → row.status = s
  counted := fun row => row.userId = userId
  route := getMyOrders
  apply := OrderChange.apply
  expires := true

/-! ## The page -/

/-- A load under way: `findMany` and `count` are sent together, and answered in any order. -/
structure Load (Row : Type) where
  targetPage : Nat
  targetPage_pos : 0 < targetPage
  found : Option (List Row) := none
  count : Option Nat := none

/-- The state of a page of the app that shows a list, with the loads in flight. -/
structure ListPage (Row Resp Id : Type) where
  rows : List Row
  items : List Resp := []
  total : Nat := 0
  page : Nat := 1
  totalPages : Nat := 1
  loading : Bool := true
  failed : Bool := false
  loads : List (Load Row) := []
  /-- bookkeeping: a load has been answered -/
  loaded : Bool := false
  /-- bookkeeping: what has been on the page -/
  seen : List Id := []

/-- One step of the customer, of a load or of whoever changes the rows. -/
inductive Move (Row Change : Type) where
  | change (c : Change)
  | open
  | next
  | previous
  | reload
  /-- load `i` is answered by `findMany`, with this listing, or by `count` -/
  | find (i : Nat) (listing : List Row)
  | count (i : Nat)
  | respond (i : Nat)
  | fail (i : Nat)

section Page

variable {Row Resp Change Id : Type} (src : Source Row Resp Change Id)

/-- `setLoading(true); setError(null)`, and the request. -/
def ListPage.load (s : ListPage Row Resp Id) (targetPage : Nat) (hpos : 0 < targetPage) :
    ListPage Row Resp Id :=
  { s with loading := true, failed := false, loads := s.loads ++ [⟨targetPage, hpos, none, none⟩] }

/-- The rows the listing is made of. -/
def Source.listing (rows : List Row) : List Row := rows.filter src.listed

/-- The total the page counts by. -/
def Source.total (rows : List Row) : Nat := rows.countP src.counted

/-- The query of a load. -/
def Source.query (load : Load Row) : PageQuery :=
  ⟨load.targetPage, src.limit, load.targetPage_pos, src.limit_pos⟩

/-- The response arrives. -/
def ListPage.answered (s : ListPage Row Resp Id) (i : Nat) (load : Load Row)
    (listing : List Row) (total : Nat) : ListPage Row Resp Id :=
  let result := src.route listing total (src.query load)
  { s with
    items := result.data
    total := result.total
    page := result.page
    totalPages := result.totalPages
    loading := false
    loads := s.loads.eraseIdx i
    loaded := true
    seen := s.seen ++
      (window ((load.targetPage - 1) * src.limit) src.limit listing).map src.id }

/-- One step of the page; none where it is not possible. -/
def step [DecidableEq Row] (s : ListPage Row Resp Id) :
    Move Row Change → Option (ListPage Row Resp Id)
  | .change c => some { s with rows := src.apply c s.rows }
  | .open => some (s.load 1 Nat.one_pos)
  | .next =>
      if s.loading = false ∧ s.failed = false ∧ s.page < s.totalPages then
        some (s.load (s.page + 1) (Nat.succ_pos s.page))
      else none
  | .previous =>
      if h : s.loading = false ∧ s.failed = false ∧ 1 < s.totalPages ∧ 1 < s.page then
        some (s.load (s.page - 1) (Nat.sub_pos_of_lt h.2.2.2))
      else none
  | .reload =>
      if h : (s.failed ∨ src.expires) ∧ 0 < s.page then some (s.load s.page h.2) else none
  | .find i listing =>
      s.loads[i]?.bind fun load =>
        if load.found = none ∧ Arranged (newestFirst src) (src.listing s.rows) listing then
          some { s with loads := s.loads.set i { load with found := some listing } }
        else none
  | .count i =>
      s.loads[i]?.bind fun load =>
        if load.count = none then
          some { s with loads := s.loads.set i { load with count := some (src.total s.rows) } }
        else none
  | .respond i =>
      s.loads[i]?.bind fun load =>
        match load.found, load.count with
        | some listing, some total => some (s.answered src i load listing total)
        | _, _ => none
  | .fail i =>
      s.loads[i]?.map fun _ =>
        { s with loading := false, failed := true, loads := s.loads.eraseIdx i }

end Page

end MyPages
