import TicketBox.GateService
import TicketBox.QrPayload

/-! # `ticket.service.ts`

    What a customer is shown of a ticket: `getTicket` and `getTicketQrData`, and the
    response they share with the lists.  The rows are those of `gate.service.ts` with the
    columns that nobody writes after the issuing. -/

namespace MyTickets

open TicketStore (UserId TicketTypeId OrderId ConcertId TicketStatus)
open TicketCheckin (TicketId)
open TicketQr (buildQrPayload)

/-- A row of `Ticket`, with the name of its type. -/
structure TicketRow extends toIssued : TicketGates.Ticket where
  userId : UserId
  ticketTypeId : TicketTypeId
  createdAt : Nat
  deriving DecidableEq

/-- `TicketResponseDto`: a ticket as its holder sees it. -/
structure TicketResponseDto where
  id : TicketId
  concertId : ConcertId
  ticketTypeId : TicketTypeId
  ticketTypeName : String
  orderId : OrderId
  status : TicketStatus
  checkedInAt : Option Nat
  createdAt : Nat
  qrPayload : String
  gateId : String
  deriving DecidableEq

/-- The exceptions of `TicketService`. -/
inductive TicketError where
  | notFound (message : String)
  | forbidden (message : String)
  deriving DecidableEq

/-- `toTicketResponse`: the ticket as its holder sees it. -/
def toTicketResponse (ticket : TicketRow) : TicketResponseDto :=
  let gateName := ticket.gateId.getD ""
  { id := ticket.id
    concertId := ticket.concertId
    ticketTypeId := ticket.ticketTypeId
    ticketTypeName := ticket.ticketTypeName
    orderId := ticket.orderId
    status := ticket.status
    checkedInAt := ticket.checkedInAt
    createdAt := ticket.createdAt
    qrPayload := buildQrPayload
      { id := ticket.id, rawToken := ticket.qrRawToken, gateId := gateName }
    gateId := gateName }

/-- `ticket.findUnique({ where: { id } })` -/
def findRow (ticketId : TicketId) (rows : List TicketRow) : Option TicketRow :=
  RowTable.lookup (fun t : TicketRow => t.id) ticketId rows

/-- The checks the two routes begin with. -/
def ownTicket (ticketId : TicketId) (userId : UserId) (rows : List TicketRow) :
    Except TicketError TicketRow :=
  match findRow ticketId rows with
  | none => .error (.notFound s!"Ticket \"{ticketId}\" not found")
  | some ticket =>
      if ticket.userId ≠ userId then
        .error (.forbidden "You do not have permission to view this ticket")
      else .ok ticket

/-- `getTicket`. -/
def getTicket (ticketId : TicketId) (userId : UserId) (rows : List TicketRow) :
    Except TicketError TicketResponseDto :=
  (ownTicket ticketId userId rows).map toTicketResponse

/-- `status.toLowerCase()` -/
def statusText : TicketStatus → String
  | .issued => "issued"
  | .checkedIn => "checked_in"
  | .cancelled => "cancelled"
  | .refunded => "refunded"

/-- `getTicketQrData`: the code of an issued ticket. -/
def getTicketQrData (ticketId : TicketId) (userId : UserId) (rows : List TicketRow) :
    Except TicketError String :=
  (ownTicket ticketId userId rows).bind fun ticket =>
    if ticket.status ≠ .issued then
      .error (.forbidden s!"Ticket is {statusText ticket.status} and cannot be used for check-in")
    else
      .ok (buildQrPayload
        { id := ticket.id, rawToken := ticket.qrRawToken, gateId := ticket.gateId.getD "" })

/-- The customer is shown the code of a ticket, on its own or with the ticket. -/
def Shown (rows : List TicketRow) (userId : UserId) (ticketId : TicketId) (code : String) : Prop :=
  getTicketQrData ticketId userId rows = .ok code ∨
    ∃ response, getTicket ticketId userId rows = .ok response ∧ response.qrPayload = code

end MyTickets
