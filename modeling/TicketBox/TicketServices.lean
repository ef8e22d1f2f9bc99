import TicketBox.PaymentService

/-! # TicketIssueProcessor and TicketTypeService

    The worker that issues the tickets of an order the cron marked paid, and
    `TicketTypeService.update`, cut at their awaits. -/

namespace TicketServices

open Interleave TicketStore TicketRedis TicketDb TicketFlow TicketOrder

/-! ## TicketIssueProcessor.process -/

/-- The order row; a job that is skipped is completed, one that throws is kept. -/
def issueJob (job : TicketIssueJob) (w : World) : Op :=
  match w.db.findOrder job.orderId with
  | none => .ret (.error (.job s!"Order {job.orderId} not found"))
  | some order =>
      if order.status ≠ .paid then
        .ask (.completeJob job (.jobSkipped ("Order status is " ++ orderStatusName order.status)))
      else if order.items = [] then
        .ret (.error (.job s!"Order {order.id} has no order items"))
      else .ask (.countIssued job order)

/-- `ticket.count({ where: { orderId } })` -/
def countIssued (job : TicketIssueJob) (order : Order) (w : World) : Op :=
  if 0 < (w.db.ticketsOf job.orderId).length then
    .ask (.completeJob job (.jobSkipped "Tickets already issued"))
  else .ask (.issueCommit job order)

/-- The transaction of the ticket-issue job. -/
def issueCommit (job : TicketIssueJob) (order : Order) (ch : Choice) (w : World) : World × Op :=
  match (if ch.fails then none else commitIssue order order.items w.db) with
  | none => (w, thrown)
  | some db =>
      ({ w with db := db },
        .ask (.completeJob job
          (.ticketsIssued (order.items.map fun i => i.quantity.toNat).sum)))

/-- BullMQ removes the job once `process` has returned. -/
def completeJob (job : TicketIssueJob) (answer : Answer) (ch : Choice) (w : World) : World × Op :=
  if ch.fails then (w, thrown)
  else ({ w with ticketIssueJobs := w.ticketIssueJobs.filter fun j => j.id ≠ job.id }, .ret answer)

/-! ## TicketTypeService.update -/

/-- `TicketTypeService.update` up to its first read. -/
def updateTicketType (t : TicketTypeId) (dto : UpdateTicketTypeDto) (u : UserId) (role : Role)
    (w : World) : Op :=
  match w.db.findTicketType t with
  | none => .ret (.error (.notFound s!"Ticket type with ID \"{t}\" not found"))
  | some existing => .ask (.checkOwnership existing dto u role)

/-- The bound on `totalQty` and the right to adjust counters, in that order. -/
def updateChecks (existing : TicketType) (dto : UpdateTicketTypeDto) (role : Role) :
    Option ApiError :=
  let sold := dto.soldQty.getD existing.soldQty
  let reserved := dto.reservedQty.getD existing.reservedQty
  if dto.totalQty.any (fun total => decide (total < sold + reserved)) then
    some (.badRequest ("Cannot reduce total quantity to " ++ toString (dto.totalQty.getD 0)
      ++ ". Already sold: " ++ toString sold ++ ", reserved: " ++ toString reserved
      ++ ". Minimum allowed: " ++ toString (sold + reserved)))
  else if (dto.soldQty.isSome ∨ dto.reservedQty.isSome) ∧ role ≠ .admin then
    some (.forbidden "Only ADMIN can manually adjust soldQty or reservedQty")
  else none

/-- What follows the duplicate check. -/
def afterDuplicate (existing : TicketType) (dto : UpdateTicketTypeDto) (role : Role) : Op :=
  match updateChecks existing dto role with
  | some e => .ret (.error e)
  | none => .ask (.writeTicketType existing dto)

/-- `checkConcertOwnership`, then the duplicate check if the type is renamed. -/
def checkOwnership (existing : TicketType) (dto : UpdateTicketTypeDto) (u : UserId) (role : Role)
    (w : World) : Op :=
  match w.db.findConcert existing.concertId with
  | none => .ret (.error (.notFound s!"Concert with ID \"{existing.concertId}\" not found"))
  | some concert =>
      if role ≠ .admin ∧ concert.organizerId ≠ u then
        .ret (.error (.forbidden
          "You do not have permission to manage ticket types for this concert"))
      else if dto.name.any (fun n => decide (n ≠ existing.name)) then
        .ask (.checkDuplicate existing dto role)
      else afterDuplicate existing dto role

/-- The look for another type of the same name. -/
def checkDuplicate (existing : TicketType) (dto : UpdateTicketTypeDto) (role : Role) (w : World) :
    Op :=
  if ∃ r ∈ w.db.ticketTypes, r.concertId = existing.concertId ∧ some r.name = dto.name then
    .ret (.error (.conflict s!"Ticket type \"{dto.name.getD existing.name}\" already exists for this concert"))
  else afterDuplicate existing dto role

/-- `totalQty - soldQty - reservedQty` -/
def availableQty (row : TicketType) : Int := row.totalQty - row.soldQty - row.reservedQty

/-- The auto SOLD_OUT step, on the row the update returned. -/
def afterWrite (row : TicketType) : Op :=
  if availableQty row = 0 ∧ row.status ≠ .soldOut then .ask (.setSoldOut row)
  else .ret (.ticketTypeUpdated row)

/-- `prisma.ticketType.update`; it returns the row as it stands after the write. -/
def writeTicketType (existing : TicketType) (dto : UpdateTicketTypeDto) (ch : Choice) (w : World) :
    World × Op :=
  if ch.fails then (w, thrown)
  else
    match TicketDb.writeTicketType existing.id (updateData dto) w.db with
    | .error e => (w, .ret (.error e))
    | .ok db =>
        match db.findTicketType existing.id with
        | none => (w, thrown)
        | some row =>
            ({ w with db := db },
              if dto.totalQty.isSome ∨ dto.soldQty.isSome ∨ dto.reservedQty.isSome then
                .ask (.seedStock row)
              else afterWrite row)

/-- `redis.seedStock(ticketType.id, available)` -/
def seedStock (row : TicketType) (ch : Choice) (w : World) : World × Op :=
  if ch.fails then (w, thrown)
  else ({ w with redis := TicketRedis.seedStock row.id (availableQty row) w.redis }, afterWrite row)

/-- The status write behind the update. -/
def setSoldOut (row : TicketType) (ch : Choice) (w : World) : World × Op :=
  if ch.fails then (w, thrown)
  else
    match TicketDb.writeTicketType row.id (fun r => { r with status := .soldOut }) w.db with
    | .error e => (w, .ret (.error e))
    | .ok db => ({ w with db := db }, .ret (.ticketTypeUpdated { row with status := .soldOut }))

end TicketServices
