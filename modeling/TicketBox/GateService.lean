import Mathlib.Data.List.Sort
import TicketBox.CheckinService
import TicketBox.DbWrites

/-! # `gate.service.ts` and the signing of tickets

    `create`, `update`, `remove` and `rebalance`, and the two ways tickets are
    issued, as far as they write `Ticket.gateId` and `Ticket.qrSignature`.  Every
    awaited statement is one call of `Ask`; a `$transaction` is one statement.
    Mails, caches and logs are left out, and so is what issuing does to counters
    and payments. -/

namespace TicketGates

open Interleave
open TicketStore (ConcertId OrderId TicketTypeId Order OrderItem OrderStatus)
open TicketDb (gateIdOf leastLoadedGateName)
open TicketCheckin (TicketId QrConfig CheckinLog)

/-- `Gate.id`. -/
abbrev GateId := String

/-! ## Rows -/

/-- A row of `Gate`; names are unique within a concert. -/
structure Gate extends TicketStore.Gate where
  id : GateId
  deriving DecidableEq

/-- A row of `Ticket`, as check-in reads it, with its order and its token. -/
structure Ticket extends TicketCheckin.Ticket where
  orderId : OrderId
  qrRawToken : String
  deriving DecidableEq

/-- The rows that gates are about, and the platform's part in them. -/
structure World where
  config : QrConfig
  /-- the order of names in `orderBy: { name: 'asc' }` -/
  collate : String → String → Bool
  typeName : TicketTypeId → String
  concerts : List ConcertId
  gates : List Gate
  tickets : List Ticket
  orders : List Order

/-- `prisma.gate.findUnique` by id. -/
def World.findGate (id : GateId) (w : World) : Option Gate := RowTable.lookup Gate.id id w.gates

/-- `prisma.ticket.findUnique` by id. -/
def World.findTicket (id : TicketId) (w : World) : Option Ticket :=
  RowTable.lookup (fun t : Ticket => t.id) id w.tickets

/-- `gate.findUnique({ where: { concertId_name } })` -/
def World.findName (c : ConcertId) (name : String) (w : World) : Option Gate :=
  w.gates.find? fun g => g.concertId = c ∧ g.name = name

/-- `gate.findMany({ where: { concertId } })` -/
def World.gatesOf (c : ConcertId) (w : World) : List Gate := w.gates.filter fun g => g.concertId = c

/-- The same, `orderBy: { name: 'asc' }`. -/
def World.sortedGates (c : ConcertId) (w : World) : List Gate :=
  (w.gatesOf c).insertionSort fun g g' => w.collate g.name g'.name = true

/-- `ticket.findMany({ where: { gateId } })`: ids and token hashes, of whatever
    concert the tickets are. -/
def World.ticketsAt (gateName : String) (w : World) : List (TicketId × String) :=
  (w.tickets.filter fun t => t.gateId = some gateName).map fun t => (t.id, t.qrTokenHash)

/-- `ticket.count({ where: { gateId } })` -/
def World.countAt (gateName : String) (w : World) : Nat := (w.ticketsAt gateName).length

/-- `ticket.groupBy(['gateId'])`: the ISSUED and CHECKED_IN tickets of a concert,
    by gate name. -/
def gateCount (tickets : List Ticket) (c : ConcertId) (name : String) : Nat :=
  (tickets.filter fun t => t.concertId = c ∧ (t.status = .issued ∨ t.status = .checkedIn)
    ∧ t.gateId = some name).length

/-! ## Signatures -/

/-- `newSignature` of the gate operations. -/
def newSignature (config : QrConfig) (id : TicketId) (qrTokenHash gateName : String) : String :=
  config.hmacSha256 config.qrSecret s!"{id}:{qrTokenHash}:{gateName}"

/-- `generateQrToken`: the token's hash and the signature. -/
def generateQrToken (config : QrConfig) (ticketId : TicketId) (gateName rawToken : String) :
    String × String :=
  let qrTokenHash := config.sha256 rawToken
  (qrTokenHash, config.hmacSha256 config.qrSecret s!"{ticketId}:{qrTokenHash}:{gateName}")

/-- `ticket.update({ where: { id }, data: { gateId, qrSignature } })`, signed over the
    id and the token hash read before. -/
def resign (config : QrConfig) (gateName : String) (target : TicketId × String)
    (tickets : List Ticket) : Option (List Ticket) :=
  (RowTable.lookup (fun t : Ticket => t.id) target.1 tickets).map fun _ =>
    RowTable.modify (fun t : Ticket => t.id) target.1 (fun t => { t with
      gateId := some gateName
      qrSignature := some (newSignature config target.1 target.2 gateName) }) tickets

/-- The loop of the transactions of `update` and `remove`. -/
def resignAll (config : QrConfig) (gateName : String) :
    List (TicketId × String) → List Ticket → Option (List Ticket)
  | [], tickets => some tickets
  | target :: targets, tickets =>
      (resign config gateName target tickets).bind (resignAll config gateName targets)

/-! ## Issuing -/

/-- A `TicketCreationPlan`. -/
structure Plan where
  ticketTypeId : TicketTypeId
  ticketId : TicketId
  rawToken : String
  qrTokenHash : String
  qrSignature : String
  gateName : String

/-- One round of the loop over an item's units, with its two random ids. -/
def planTicket (config : QrConfig) (gateName : String) (item : OrderItem)
    (ticketId : TicketId) (rawToken : String) : Plan :=
  let (qrTokenHash, qrSignature) := generateQrToken config ticketId gateName rawToken
  ⟨item.ticketTypeId, ticketId, rawToken, qrTokenHash, qrSignature, gateName⟩

/-- The units of the order's items, numbered in the order of the loops. -/
def unitsOf (items : List OrderItem) : List (OrderItem × Nat) :=
  (items.flatMap fun i => List.replicate i.quantity.toNat i).zipIdx

/-- The webhook's plans: one gate for the whole order. -/
def planTickets (config : QrConfig) (gateName : String) (uuid : Nat → String)
    (items : List OrderItem) : List Plan :=
  (unitsOf items).map fun x =>
    planTicket config gateName x.1 (uuid (2 * x.2)) (uuid (2 * x.2 + 1))

/-- The row `ticket.create` writes. -/
def ticketOf (typeName : TicketTypeId → String) (order : Order) (plan : Plan) : Ticket where
  id := plan.ticketId
  concertId := order.concertId
  ticketTypeName := typeName plan.ticketTypeId
  gateId := gateIdOf plan.gateName
  qrTokenHash := plan.qrTokenHash
  qrSignature := some plan.qrSignature
  status := .issued
  checkedInAt := none
  orderId := order.id
  qrRawToken := plan.rawToken

/-- The primary key and the unique token hash admit the row. -/
def createTicket (t : Ticket) (tickets : List Ticket) : Option (List Ticket) :=
  if ∃ t' ∈ tickets, t'.id = t.id ∨ t'.qrTokenHash = t.qrTokenHash then none
  else some (tickets ++ [t])

/-- The `ticket.create` calls of one transaction, one after the other. -/
def createTickets : List Ticket → List Ticket → Option (List Ticket)
  | [], tickets => some tickets
  | t :: ts, tickets => (createTicket t tickets).bind (createTickets ts)

/-- The transaction of `handlePaymentSuccess`: `order.update`, then the plans. -/
def commitSuccess (order : Order) (plans : List Plan) (w : World) : Option World :=
  (RowTable.lookup Order.id order.id w.orders).bind fun _ =>
    (createTickets (plans.map (ticketOf w.typeName order)) w.tickets).map fun tickets =>
      { w with
        tickets := tickets
        orders := RowTable.modify Order.id order.id (fun o => { o with status := .paid }) w.orders }

/-- The worker's transaction: every ticket gets the least loaded gate of its moment. -/
def commitIssue (w : World) (order : Order) (uuid : Nat → String) :
    List (OrderItem × Nat) → List Ticket → Option (List Ticket)
  | [], tickets => some tickets
  | (item, k) :: units, tickets =>
      let gateName := leastLoadedGateName (gateCount tickets order.concertId)
        ((w.gatesOf order.concertId).map Gate.toGate)
      let plan := planTicket w.config gateName item (uuid (2 * k)) (uuid (2 * k + 1))
      (createTicket (ticketOf w.typeName order plan) tickets).bind
        (commitIssue w order uuid units)

/-! ## DTOs and answers -/

/-- `CreateGateDto`, as the validation pipe lets it through. -/
structure CreateGateDto where
  name : String
  name_ne : name ≠ ""

/-- The name is optional and may be empty. -/
structure UpdateGateDto where
  name : Option String

/-- `newName && newName !== oldName` -/
def UpdateGateDto.renames (dto : UpdateGateDto) (gate : Gate) : Option String :=
  dto.name.filter fun newName => newName ≠ "" ∧ newName ≠ gate.name

/-- `data: dto`: a field that is absent is left alone. -/
def UpdateGateDto.apply (dto : UpdateGateDto) (gate : Gate) : Gate :=
  { gate with name := dto.name.getD gate.name }

/-- The exceptions of `GateService` and of the paths that issue. -/
inductive GateError where
  | notFound (message : String)
  | conflict (message : String)
  | badRequest (message : String)
  /-- an error the worker throws -/
  | job (message : String)
  /-- any other error -/
  | internal
  deriving DecidableEq

/-- What a gate request, or an operation that issues, ends with. -/
inductive Answer where
  | gate (gate : Gate) (ticketCount : Nat)
  | removed
  | rebalanced (totalTicketsUpdated : Nat) (gates : List (GateId × String × Nat))
  | issued (ticketCount : Nat)
  | skipped (reason : String)
  | refused (e : GateError)
  /-- the answer of a batch nobody awaits; there is none here -/
  | detached
  deriving DecidableEq

/-- `OrderStatus` as it prints. -/
def statusText : OrderStatus → String
  | .pendingPayment => "PENDING_PAYMENT"
  | .paid => "PAID"
  | .expired => "EXPIRED"
  | .cancelled => "CANCELLED"
  | .paymentFailed => "PAYMENT_FAILED"
  | .refunded => "REFUNDED"

/-! ## Statements -/

/-- The locals of `rebalance` after its first reads. -/
structure Rebalance where
  concertId : ConcertId
  gates : List Gate
  gates_ne : gates ≠ []

/-- Round-robin: the gate of ticket `i`. -/
def Rebalance.newGate (b : Rebalance) (i : Nat) : Gate :=
  b.gates.get ⟨i % b.gates.length, Nat.mod_lt _ (List.length_pos_of_ne_nil b.gates_ne)⟩

/-- The statements, each with the locals it still needs. -/
inductive Ask where
  | createFind (c : ConcertId) (dto : CreateGateDto)
  | createInsert (c : ConcertId) (dto : CreateGateDto)
  | updateFind (id : GateId) (dto : UpdateGateDto)
  | updateExisting (gate : Gate) (dto : UpdateGateDto) (newName : String)
  | updateRow (gate : Gate) (dto : UpdateGateDto)
  | updateFindTickets (gate updated : Gate) (newName : String)
  | updateSign (updated : Gate) (newName : String) (targetTickets : List (TicketId × String))
  | updateCount (updated : Gate)
  | removeFind (id : GateId)
  | removeCount (gate : Gate)
  | removeOthers (gate : Gate)
  | removeFindTickets (gate : Gate) (targetGateName : String)
  | removeSign (gate : Gate) (targetGateName : String) (targetTickets : List (TicketId × String))
  | removeDelete (gate : Gate)
  | rebalanceConcert (c : ConcertId)
  | rebalanceGates (c : ConcertId)
  | rebalanceTickets (b : Rebalance)
  | rebalanceScan (b : Rebalance) (i : Nat) (ticket : TicketId) (rest : List TicketId)
      (updated : List (TicketId × String))
  | rebalanceFind (b : Rebalance) (total : Nat) (ticket : TicketId) (newGateName : String)
      (rest : List (TicketId × String))
  | rebalanceUpdate (b : Rebalance) (total : Nat) (target : TicketId × String)
      (newGateName : String) (rest : List (TicketId × String))
  | rebalanceStats (b : Rebalance) (total : Nat)
  | issueGates (order : Order)
  | issueCounts (order : Order) (gates : List Gate)
  | issueCommit (order : Order) (plans : List Plan)
  | workerFind (o : OrderId)
  | workerCount (order : Order)
  | workerCommit (order : Order)

/-- An operation on gates in flight. -/
abbrev Op := Prog Ask Empty Answer

/-- What the scheduler resolves: whether the statement fails, and the random ids it
    draws. -/
structure Choice where
  fails : Bool := false
  uuid : Nat → String := fun _ => ""

/-- The operation ends with an exception. -/
def refuse (w : World) (e : GateError) : World × Op := (w, .ret (.refused e))

/-- The rest of `update` after its row is written. -/
def afterUpdate (gate updated : Gate) (dto : UpdateGateDto) : Op :=
  match dto.renames gate with
  | some newName => .ask (.updateFindTickets gate updated newName)
  | none => .ask (.updateCount updated)

/-- `gate.update({ where: { id }, data: dto })` under the unique index. -/
def updateGate (id : GateId) (dto : UpdateGateDto) (w : World) : Option (Gate × World) :=
  (w.findGate id).bind fun gate =>
    let updated := dto.apply gate
    if ∃ g ∈ w.gates, g.id ≠ id ∧ g.concertId = updated.concertId ∧ g.name = updated.name then none
    else some (updated, { w with gates := RowTable.modify Gate.id id dto.apply w.gates })

/-- `gate.create` under the primary key, the unique index and the foreign key. -/
def createGate (gate : Gate) (w : World) : Option World :=
  if gate.concertId ∈ w.concerts ∧ ¬ ∃ g ∈ w.gates,
      g.id = gate.id ∨ g.concertId = gate.concertId ∧ g.name = gate.name then
    some { w with gates := w.gates ++ [gate] }
  else none

/-- The first loop of `rebalance`, and what follows it. -/
def Rebalance.scan (b : Rebalance) (i : Nat) (updated : List (TicketId × String)) :
    List TicketId → Op
  | ticket :: rest => .ask (.rebalanceScan b i ticket rest updated)
  | [] =>
      match updated with
      | (ticket, newGateName) :: rest =>
          .ask (.rebalanceFind b updated.length ticket newGateName rest)
      | [] => .ask (.rebalanceStats b 0)

/-- The second loop of `rebalance`. -/
def Rebalance.update (b : Rebalance) (total : Nat) : List (TicketId × String) → Op
  | (ticket, newGateName) :: rest => .ask (.rebalanceFind b total ticket newGateName rest)
  | [] => .ask (.rebalanceStats b total)

/-- The plans of the webhook, once its gate is chosen. -/
def issueAt (order : Order) (gateName : String) (ch : Choice) (w : World) : Op :=
  .ask (.issueCommit order (planTickets w.config gateName ch.uuid order.items))

/-- Each statement, carried out. -/
def carryOut (ch : Choice) (w : World) : Ask → World × Op
  | .createFind c dto =>
      match w.findName c dto.name with
      | some _ => refuse w (.conflict s!"Gate \"{dto.name}\" already exists for this concert")
      | none => (w, .ask (.createInsert c dto))
  | .createInsert c dto =>
      let gate : Gate := ⟨⟨c, dto.name⟩, ch.uuid 0⟩
      match createGate gate w with
      | none => refuse w .internal
      | some w => (w, .ret (.gate gate 0))
  | .updateFind id dto =>
      match w.findGate id with
      | none => refuse w (.notFound s!"Gate {id} not found")
      | some gate =>
          match dto.renames gate with
          | some newName => (w, .ask (.updateExisting gate dto newName))
          | none => (w, .ask (.updateRow gate dto))
  | .updateExisting gate dto newName =>
      match w.findName gate.concertId newName with
      | some _ => refuse w (.conflict s!"Gate \"{newName}\" already exists for this concert")
      | none => (w, .ask (.updateRow gate dto))
  | .updateRow gate dto =>
      match updateGate gate.id dto w with
      | none => refuse w .internal
      | some (updated, w) => (w, afterUpdate gate updated dto)
  | .updateFindTickets gate updated newName =>
      match w.ticketsAt gate.name with
      | [] => (w, .ask (.updateCount updated))
      | targetTickets => (w, .ask (.updateSign updated newName targetTickets))
  | .updateSign updated newName targetTickets =>
      match resignAll w.config newName targetTickets w.tickets with
      | none => refuse w .internal
      | some tickets => ({ w with tickets := tickets }, .ask (.updateCount updated))
  | .updateCount updated => (w, .ret (.gate updated (w.countAt updated.name)))
  | .removeFind id =>
      match w.findGate id with
      | none => refuse w (.notFound s!"Gate {id} not found")
      | some gate => (w, .ask (.removeCount gate))
  | .removeCount gate =>
      if 0 < w.countAt gate.name then (w, .ask (.removeOthers gate))
      else (w, .ask (.removeDelete gate))
  | .removeOthers gate =>
      match (w.sortedGates gate.concertId).filter fun g => g.id ≠ gate.id with
      | [] => refuse w (.badRequest
          "Cannot delete the last gate while tickets are assigned to it. Create another gate first.")
      | target :: _ => (w, .ask (.removeFindTickets gate target.name))
  | .removeFindTickets gate targetGateName =>
      (w, .ask (.removeSign gate targetGateName (w.ticketsAt gate.name)))
  | .removeSign gate targetGateName targetTickets =>
      match resignAll w.config targetGateName targetTickets w.tickets with
      | none => refuse w .internal
      | some tickets => ({ w with tickets := tickets }, .ask (.removeDelete gate))
  | .removeDelete gate =>
      match w.findGate gate.id with
      | none => refuse w .internal
      | some _ => ({ w with gates := RowTable.remove Gate.id gate.id w.gates }, .ret .removed)
  | .rebalanceConcert c =>
      if c ∈ w.concerts then (w, .ask (.rebalanceGates c))
      else refuse w (.notFound s!"Concert {c} not found")
  | .rebalanceGates c =>
      if h : w.sortedGates c = [] then
        refuse w (.badRequest "No gates configured for this concert")
      else (w, .ask (.rebalanceTickets ⟨c, w.sortedGates c, h⟩))
  | .rebalanceTickets b =>
      -- rows are appended, so the table is in the order of `createdAt`
      match w.tickets.filter fun t => t.concertId = b.concertId ∧ t.status = .issued with
      | [] => (w, .ret (.rebalanced 0 (b.gates.map fun g => (g.id, g.name, 0))))
      | tickets => (w, b.scan 0 [] (tickets.map fun t => t.id))
  | .rebalanceScan b i ticket rest updated =>
      let newGate := b.newGate i
      if (w.findTicket ticket).bind (fun t => t.gateId) = some newGate.name then
        (w, b.scan (i + 1) updated rest)
      else (w, b.scan (i + 1) (updated ++ [(ticket, newGate.name)]) rest)
  | .rebalanceFind b total ticket newGateName rest =>
      match w.findTicket ticket with
      | none => (w, b.update total rest)
      | some t => (w, .ask (.rebalanceUpdate b total (ticket, t.qrTokenHash) newGateName rest))
  | .rebalanceUpdate b total target newGateName rest =>
      match resign w.config newGateName target w.tickets with
      | none => refuse w .internal
      | some tickets => ({ w with tickets := tickets }, b.update total rest)
  | .rebalanceStats b total =>
      let totalTicketCounts := fun name =>
        (w.tickets.filter fun t => t.concertId = b.concertId ∧ t.gateId = some name).length
      (w, .ret (.rebalanced total (b.gates.map fun g => (g.id, g.name, totalTicketCounts g.name))))
  | .issueGates order =>
      match w.gatesOf order.concertId with
      | [] => (w, issueAt order "" ch w)
      | gates => (w, .ask (.issueCounts order gates))
  | .issueCounts order gates =>
      let gateName := leastLoadedGateName (gateCount w.tickets order.concertId)
        (gates.map Gate.toGate)
      (w, issueAt order gateName ch w)
  | .issueCommit order plans =>
      match commitSuccess order plans w with
      | none => refuse w .internal
      | some w => (w, .ret (.issued plans.length))
  | .workerFind o =>
      match RowTable.lookup Order.id o w.orders with
      | none => refuse w (.job s!"Order {o} not found")
      | some order =>
          if order.status ≠ .paid then
            (w, .ret (.skipped s!"Order status is {statusText order.status}"))
          else if order.items = [] then refuse w (.job s!"Order {o} has no order items")
          else (w, .ask (.workerCount order))
  | .workerCount order =>
      if 0 < (w.tickets.filter fun t => t.orderId = order.id).length then
        (w, .ret (.skipped "Tickets already issued"))
      else (w, .ask (.workerCommit order))
  | .workerCommit order =>
      match commitIssue w order ch.uuid (unitsOf order.items) w.tickets with
      | none => refuse w .internal
      | some tickets =>
          ({ w with tickets := tickets }, .ret (.issued (unitsOf order.items).length))

/-! ## The system -/

/-- The routes of `GateController`, and the two paths that issue tickets. -/
inductive Request where
  | create (c : ConcertId) (dto : CreateGateDto)
  | update (id : GateId) (dto : UpdateGateDto)
  | remove (id : GateId)
  | rebalance (c : ConcertId)
  /-- `handlePaymentSuccess`, with the order as the webhook read it -/
  | webhook (order : Order)
  /-- the worker's job -/
  | job (o : OrderId)

/-- How an operation begins. -/
def Request.enter : Request → Op
  | .create c dto => .ask (.createFind c dto)
  | .update id dto => .ask (.updateFind id dto)
  | .remove id => .ask (.removeFind id)
  | .rebalance c => .ask (.rebalanceConcert c)
  | .webhook order => .ask (.issueGates order)
  | .job o => .ask (.workerFind o)

/-- What other services write: concerts, orders, and check-ins. -/
inductive Event where
  | concert (c : ConcertId)
  | orders (rows : List Order)
  | checkIn (id : TicketId) (now : Nat)

/-- What happens beside the operations: other services write their rows. -/
def Event.happen (w : World) : Event → World
  | .concert c => { w with concerts := w.concerts ++ [c] }
  | .orders rows => { w with orders := rows }
  | .checkIn id now =>
      { w with tickets := w.tickets.map fun t =>
          if t.Admits id then { t with toTicket := t.checkIn now } else t }

/-- The gate service and the issuing of tickets. -/
def gates : System World Ask Empty Answer Choice Request Event where
  decide := fun ch w d => some (if ch.fails then refuse w .internal else carryOut ch w d)
  perform := fun _ _ t => nomatch t
  enter := fun _ r => some r.enter
  env := fun e w => e.happen w
  detached := .detached

/-- The gates and tickets with the operations in flight. -/
abbrev State := Pool World Ask Empty Answer

end TicketGates
