import TicketBox.ReleaseProofs
import TicketBox.PaymentEffects

/-! # The two issuing paths, each by itself

    The SUCCESS webhook marks an order paid and issues its tickets in one
    transaction; the cron only marks it paid and leaves the tickets to the worker.
    Run alone, both move the same quantities from reserved to sold and from
    reserved to paid and create the same tickets up to their gates.  The gates
    differ by design: the webhook draws one gate before its transaction, the
    worker one for each ticket inside. -/

namespace TicketBackend

open Interleave TicketStore TicketRedis TicketDb TicketFlow TicketOrder TicketPayment
  TicketServices

/-! ## Gates drawn one after the other -/

/-- One more ticket at the gate of this name; a ticket without a gate counts nowhere. -/
def bump (gateName : String) (count : String → Nat) (name : String) : Nat :=
  count name + if gateIdOf gateName = some name then 1 else 0

/-- The least loaded gate, `n` times over, a ticket going to each draw's gate. -/
def drawGates (gates : List Gate) : (String → Nat) → Nat → List String
  | _, 0 => []
  | count, n + 1 =>
      leastLoadedGateName count gates
        :: drawGates gates (bump (leastLoadedGateName count gates) count) n

/-- The counts once a ticket went to each of these gates. -/
def bumpAll (gateNames : List String) (count : String → Nat) : String → Nat :=
  gateNames.foldl (fun count gateName => bump gateName count) count

/-- Drawing in two goes. -/
theorem drawGates_add (gates : List Gate) (count : String → Nat) (n m : Nat) :
    drawGates gates count (n + m) = drawGates gates count n
      ++ drawGates gates (bumpAll (drawGates gates count n) count) m := by
  induction n generalizing count with
  | zero => simp [drawGates, bumpAll]
  | succ n ih =>
      rw [Nat.succ_add, drawGates, drawGates, ih, List.cons_append]
      rfl

/-- `k` more tickets at one gate. -/
def bumpBy (gateName : String) (k : Nat) (count : String → Nat) (name : String) : Nat :=
  count name + if gateIdOf gateName = some name then k else 0

/-- Nothing is added. -/
theorem bumpBy_zero (gateName : String) (count : String → Nat) :
    bumpBy gateName 0 count = count := by
  funext name
  simp [bumpBy]

/-- One more. -/
theorem bumpBy_succ (gateName : String) (k : Nat) (count : String → Nat) :
    bumpBy gateName (k + 1) count = bumpBy gateName k (bump gateName count) := by
  funext name
  simp only [bumpBy, bump]
  split <;> omega

/-- As many gates as tickets. -/
theorem drawGates_length (gates : List Gate) (count : String → Nat) (n : Nat) :
    (drawGates gates count n).length = n := by
  induction n generalizing count with
  | zero => rfl
  | succ n ih => simp [drawGates, ih]

/-- Every draw gives one gate exactly if it stays least loaded while it takes the tickets. -/
theorem drawGates_all {gates : List Gate} {count : String → Nat} {n : Nat} {gateName : String} :
    (∀ x ∈ drawGates gates count n, x = gateName) ↔
      ∀ k < n, leastLoadedGateName (bumpBy gateName k count) gates = gateName := by
  induction n generalizing count with
  | zero => simp [drawGates]
  | succ n ih =>
      constructor
      · intro h k hk
        have hfirst : leastLoadedGateName count gates = gateName := h _ List.mem_cons_self
        cases k with
        | zero => rwa [bumpBy_zero]
        | succ k =>
            rw [bumpBy_succ]
            refine ih.mp ?_ k (by omega)
            intro x hx
            refine h x (List.mem_cons_of_mem _ ?_)
            rwa [hfirst]
      · intro h x hx
        have hfirst := h 0 (by omega)
        rw [bumpBy_zero] at hfirst
        rcases List.mem_cons.mp hx with rfl | hx
        · exact hfirst
        · rw [hfirst] at hx
          refine ih.mpr ?_ x hx
          intro k hk
          rw [← bumpBy_succ]
          exact h (k + 1) (by omega)

/-! ## What is issued -/

/-- One entry for each ticket an order asks for. -/
def seats (items : List OrderItem) : List OrderItem :=
  items.flatMap fun i => List.replicate i.quantity.toNat i

/-- The tickets for these seats, each with its gate. -/
def stamp (order : Order) (seats : List OrderItem) (gateNames : List String) : List Ticket :=
  List.zipWith (newTicket order) seats gateNames

/-- Every item moved from reserved to sold. -/
def soldRows (items : List OrderItem) (rows : List TicketType) : List TicketType :=
  rows.map fun r =>
    { r with soldQty := r.soldQty + qtyOf items r.id
             reservedQty := r.reservedQty - qtyOf items r.id }

/-- The row an upsert of the issuing transactions leaves. -/
def payRow (q : Int) : Option UserTicketCounter → UserTicketCounter
  | none => { paidQty := q, reservedQty := 0 }
  | some c => { paidQty := c.paidQty + q, reservedQty := c.reservedQty - q }

/-- Every item moved from reserved to paid. -/
def paidRows (u : UserId) : List OrderItem → (UserId × TicketTypeId → Option UserTicketCounter) →
    UserId × TicketTypeId → Option UserTicketCounter
  | [], counters => counters
  | i :: items, counters =>
      paidRows u items (Function.update counters (u, i.ticketTypeId)
        (some (payRow i.quantity (counters (u, i.ticketTypeId)))))

/-- The database with the items issued, their tickets at these gates. -/
def issuedDb (order : Order) (items : List OrderItem) (gateNames : List String) (db : Db) : Db :=
  { db with
    ticketTypes := soldRows items db.ticketTypes
    counters := paidRows order.userId items db.counters
    tickets := db.tickets ++ stamp order (seats items) gateNames }

/-- The types of the items are there. -/
def HasTypes (items : List OrderItem) (db : Db) : Prop :=
  ∀ i ∈ items, (db.findTicketType i.ticketTypeId).isSome

/-- The rows of the types stay. -/
theorem HasTypes.bumped {items : List OrderItem} {db : Db} (h : HasTypes items db)
    (t : TicketTypeId) (a b : Int) : HasTypes items (bumpType t a b db) := by
  intro i hi
  rw [bumpType_find, Option.isSome_map]
  exact h i hi

/-- The sale of one item and of the rest. -/
theorem soldRows_cons (i : OrderItem) (items : List OrderItem) (db : Db) :
    soldRows items (bumpType i.ticketTypeId i.quantity (-i.quantity) db).ticketTypes
      = soldRows (i :: items) db.ticketTypes := by
  simp only [soldRows, bumpType, RowTable.modify, List.map_map]
  refine List.map_congr_left fun r _ => ?_
  by_cases h : r.id = i.ticketTypeId
  · simp only [Function.comp_apply, if_pos h, qtyOf_cons, if_pos h.symm]
    congr 1
    all_goals omega
  · simp only [Function.comp_apply, if_neg h, qtyOf_cons, if_neg (Ne.symm h), zero_add]

/-- The upsert changes counters only. -/
theorem upsertPaid_eq (u : UserId) (t : TicketTypeId) (q : Int) (db : Db) :
    upsertPaid u t q db = { db with
      counters := Function.update db.counters (u, t)
        (some (payRow q (db.counters (u, t)))) } := by
  simp only [upsertPaid]
  split
  · next hc =>
      rw [hc]
      rfl
  · next c hc =>
      rw [hc]
      rfl

/-- The webhook's loop over the types. -/
theorem moveAllToSold_eq {items : List OrderItem} {db : Db} (h : HasTypes items db) :
    moveAllToSold items db = some { db with ticketTypes := soldRows items db.ticketTypes } := by
  induction items generalizing db with
  | nil => simp [moveAllToSold, soldRows]
  | cons i items ih =>
      obtain ⟨row, hrow⟩ := Option.isSome_iff_exists.mp (h i List.mem_cons_self)
      have hrest : HasTypes items (bumpType i.ticketTypeId i.quantity (-i.quantity) db) :=
        HasTypes.bumped (fun j hj => h j (List.mem_cons_of_mem _ hj)) _ _ _
      simp only [moveAllToSold, moveToSold, hrow, Option.map_some, Option.bind_some]
      rw [ih hrest, soldRows_cons]
      rfl

/-- The webhook's loop over the counters. -/
theorem upsertAllPaid_eq (u : UserId) (items : List OrderItem) (db : Db) :
    upsertAllPaid u items db = { db with counters := paidRows u items db.counters } := by
  induction items generalizing db with
  | nil => rfl
  | cons i items ih =>
      rw [upsertAllPaid, ih, upsertPaid_eq]
      rfl

/-- Every seat at one gate. -/
theorem stamp_replicate (order : Order) (gateName : String) (seats : List OrderItem) :
    stamp order seats (List.replicate seats.length gateName)
      = seats.map fun i => newTicket order i gateName := by
  induction seats with
  | nil => rfl
  | cons i seats ih =>
      rw [stamp, List.length_cons, List.replicate_succ, List.zipWith_cons_cons, ← stamp, ih,
        List.map_cons]

/-- The plan of the webhook: every seat at the gate it has found. -/
theorem planTickets_eq (order : Order) (gateName : String) (items : List OrderItem) :
    planTickets order gateName items
      = stamp order (seats items) (List.replicate (seats items).length gateName) := by
  rw [stamp_replicate, planTickets, seats, List.map_flatMap]
  simp only [List.map_replicate]

/-! ### The worker's loops -/

/-- A new ticket counts at its gate, if it has one. -/
theorem gateCount_add (order : Order) (i : OrderItem) (gateName : String) (db : Db) :
    gateCount (addTickets [newTicket order i gateName] db) order.concertId
      = bump gateName (gateCount db order.concertId) := by
  funext name
  simp only [gateCount, addTickets, bump, List.filter_append, List.length_append]
  congr 1
  by_cases h : gateIdOf gateName = some name
  · simp [newTicket, h]
  · simp [newTicket, h]

/-- The first seat and the rest. -/
theorem stamp_cons (order : Order) (i : OrderItem) (seats : List OrderItem) (gateName : String)
    (gateNames : List String) :
    stamp order (i :: seats) (gateName :: gateNames)
      = newTicket order i gateName :: stamp order seats gateNames := rfl

/-- The worker's inner loop draws a gate for each ticket. -/
theorem issueTickets_eq (order : Order) (i : OrderItem) (n : Nat) (db : Db) :
    issueTickets order i n db = { db with
      tickets := db.tickets ++ stamp order (List.replicate n i)
        (drawGates (gatesOf db order.concertId) (gateCount db order.concertId) n) } := by
  induction n generalizing db with
  | zero => simp [issueTickets, stamp, drawGates]
  | succ n ih =>
      simp only [issueTickets]
      rw [ih, gateCount_add, List.replicate_succ, drawGates, stamp_cons]
      simp only [addTickets, gatesOf, List.append_assoc, List.singleton_append]

/-- The counts once tickets went to these gates. -/
theorem gateCount_stamp (order : Order) {seats : List OrderItem} {gateNames : List String}
    (h : seats.length = gateNames.length) (db : Db) :
    gateCount (addTickets (stamp order seats gateNames) db) order.concertId
      = bumpAll gateNames (gateCount db order.concertId) := by
  induction seats generalizing gateNames db with
  | nil =>
      rw [List.length_eq_zero_iff.mp h.symm]
      simp [stamp, addTickets, bumpAll]
  | cons i seats ih =>
      cases gateNames with
      | nil => cases h
      | cons gateName gateNames =>
          have hstep : addTickets (stamp order (i :: seats) (gateName :: gateNames)) db
              = addTickets (stamp order seats gateNames)
                  (addTickets [newTicket order i gateName] db) := by
            simp only [stamp_cons, addTickets, List.append_assoc, List.singleton_append]
          rw [hstep, ih (Nat.succ.inj h), gateCount_add]
          rfl

/-- The database with one item issued, its tickets at these gates. -/
def issuedItem (order : Order) (i : OrderItem) (gateNames : List String) (db : Db) : Db :=
  addTickets (stamp order (List.replicate i.quantity.toNat i) gateNames)
    { bumpType i.ticketTypeId i.quantity (-i.quantity) db with
      counters := Function.update db.counters (order.userId, i.ticketTypeId)
        (some (payRow i.quantity (db.counters (order.userId, i.ticketTypeId)))) }

/-- The seats of one item and of the rest. -/
theorem seats_cons (i : OrderItem) (items : List OrderItem) :
    seats (i :: items) = List.replicate i.quantity.toNat i ++ seats items := rfl

/-- The tickets of one item and of the rest. -/
theorem issuedDb_cons {order : Order} {i : OrderItem} {items : List OrderItem}
    {first rest : List String} {db : Db}
    (h : (List.replicate i.quantity.toNat i).length = first.length) :
    issuedDb order items rest (issuedItem order i first db)
      = issuedDb order (i :: items) (first ++ rest) db := by
  have hstamp : stamp order (seats (i :: items)) (first ++ rest)
      = stamp order (List.replicate i.quantity.toNat i) first ++ stamp order (seats items) rest := by
    rw [seats_cons, stamp, List.zipWith_append h]
    rfl
  simp only [issuedDb, hstamp, ← soldRows_cons, ← List.append_assoc]
  rfl

/-- **The worker's transaction**: the webhook's counters, and a gate drawn for each ticket. -/
theorem commitIssue_eq (order : Order) {items : List OrderItem} {db : Db}
    (h : HasTypes items db) :
    commitIssue order items db = some (issuedDb order items
      (drawGates (gatesOf db order.concertId) (gateCount db order.concertId)
        (seats items).length) db) := by
  induction items generalizing db with
  | nil => simp [commitIssue, issuedDb, soldRows, paidRows, seats, stamp]
  | cons i items ih =>
      obtain ⟨row, hrow⟩ := Option.isSome_iff_exists.mp (h i List.mem_cons_self)
      let n := i.quantity.toNat
      let gates := gatesOf db order.concertId
      let first := drawGates gates (gateCount db order.concertId) n
      have hlen : (List.replicate n i).length = first.length := by
        rw [List.length_replicate, drawGates_length]
      have hstep : commitIssue order (i :: items) db
          = commitIssue order items (issuedItem order i first db) := by
        simp only [commitIssue, moveToSold, hrow, Option.map_some, Option.bind_eq_bind,
          Option.bind_some]
        rw [issueTickets_eq, upsertPaid_eq]
        rfl
      have hrest : HasTypes items (issuedItem order i first db) :=
        HasTypes.bumped (fun j hj => h j (List.mem_cons_of_mem _ hj)) _ _ _
      have hcount : gateCount (issuedItem order i first db) order.concertId
          = bumpAll first (gateCount db order.concertId) := gateCount_stamp order hlen _
      have hgates : gatesOf (issuedItem order i first db) order.concertId = gates := rfl
      have hseats : (seats (i :: items)).length = n + (seats items).length := by
        rw [seats_cons, List.length_append, List.length_replicate]
      rw [hstep, ih hrest, hcount, hgates, issuedDb_cons hlen, hseats, drawGates_add]

/-! ## The webhook -/

/-- The order's row once it is paid. -/
def asPaid (now : Nat) (r : Order) : Order := { r with status := .paid, paidAt := some now }

/-- What both paths need of a pending order: its types are there, and no ticket of it is. -/
structure Payable (w : World) (order : Order) : Prop where
  row : w.db.findOrder order.id = some order
  pending : order.status = .pendingPayment
  types : HasTypes order.items w.db
  unissued : NoTickets order.id w.db.tickets

/-- A SUCCESS webhook that the order accepts. -/
structure Confirms (dto : MockWebhookDto) (order : Order) : Prop where
  signed : dto.signed = true
  names : dto.orderId = order.id
  amount : order.totalAmountInVnd = dto.amount
  result : dto.result = .success

/-- How many tickets an order asks for. -/
def seatCount (order : Order) : Nat := (seats order.items).length

/-- The gate the webhook draws. -/
def webhookGate (w : World) (order : Order) : String :=
  leastLoadedGateName (gateCount w.db order.concertId) (gatesOf w.db order.concertId)

/-- The gates the worker draws. -/
def workerGates (w : World) (order : Order) : List String :=
  drawGates (gatesOf w.db order.concertId) (gateCount w.db order.concertId) (seatCount order)

/-- The order marked paid, with these payment rows. -/
def markedPaid (order : Order) (payments : List PaymentTransaction) (w : World) : World :=
  withPayments payments (withRow order.id (asPaid w.now) w)

/-- The order issued, its tickets at these gates. -/
def withTickets (order : Order) (gateNames : List String) (w : World) : World :=
  { w with db := issuedDb order order.items gateNames w.db }

/-- What the SUCCESS webhook leaves. -/
def afterWebhook (dto : MockWebhookDto) (order : Order) (w : World) : World :=
  let paid := withTickets order (List.replicate (seatCount order) (webhookGate w order))
    (markedPaid order (upsertedPayments dto .success (some .success) w.db.payments) w)
  { paid with
    redis := TicketRedis.delReservation order.id w.redis
    emailJobs := w.emailJobs ++ [(order.id, order.userId)] }

variable {w w' : World} {order : Order} {a : Answer}

/-- The webhook's transaction, written out. -/
theorem commitSuccess_eq {dto : MockWebhookDto} (h : Payable w order)
    (hfor : dto.orderId = order.id) (gateName : String) :
    commitSuccess dto order gateName w.now w.db
      = some (withTickets order (List.replicate (seatCount order) gateName)
          (markedPaid order (upsertedPayments dto .success (some .success) w.db.payments) w)).db := by
  have hrow : w.db.findOrder dto.orderId = some order := hfor ▸ h.row
  have hsome : (w.db.findOrder dto.orderId).isSome := by
    rw [hrow]
    rfl
  let payments := upsertedPayments dto .success (some .success) w.db.payments
  have hpaid : updateOrder dto.orderId (asPaid w.now) (withPayments payments w).db
      = some (markedPaid order payments w).db := by
    rw [updateOrder_eq (show (withPayments payments w).db.findOrder dto.orderId = some order
      from hrow), hfor]
    rfl
  have hsold : moveAllToSold order.items
        (addTickets (planTickets order gateName order.items) (markedPaid order payments w).db)
      = some { addTickets (planTickets order gateName order.items)
          (markedPaid order payments w).db with
          ticketTypes := soldRows order.items w.db.ticketTypes } :=
    moveAllToSold_eq (show HasTypes order.items _ from h.types)
  simp only [commitSuccess]
  rw [upsertPayment_eq hsome]
  show (updateOrder dto.orderId (asPaid w.now) (withPayments payments w).db).bind _ = _
  rw [hpaid]
  show (moveAllToSold order.items (addTickets (planTickets order gateName order.items)
    (markedPaid order payments w).db)).bind _ = _
  rw [hsold]
  show some (upsertAllPaid order.userId order.items _) = _
  rw [upsertAllPaid_eq, planTickets_eq]
  rfl

/-- How the webhook ends with nobody beside it. -/
theorem ends_paymentSuccess {dto : MockWebhookDto} (h : Payable w order)
    (hdto : Confirms dto order) :
    backend.Ends Calm w (.ask (.handleMockWebhook dto)) w' a ↔
      w' = afterWebhook dto order w ∧
        a = .webhook "Thanh toán thành công, vé đã được phát hành" (some .paid) := by
  have hstart : ∀ ch, Calm ch → backend.decide ch w (.handleMockWebhook dto)
      = some (w, .ask (.findGates dto order)) := by
    intro ch hch
    have hfails : ch.fails = false := hch
    simp [backend, dispatch, reads, hfails, TicketPayment.handleMockWebhook, hdto.signed,
      hdto.names, hdto.amount, hdto.result, h.row, h.pending]
  -- with gates or without, the commit is the same call
  have hgates : backend.Ends Calm w (.ask (.findGates dto order)) w' a ↔
      backend.Ends Calm w (.ask (.successCommit dto order (webhookGate w order))) w' a := by
    cases hg : gatesOf w.db order.concertId with
    | nil =>
        have hnone : webhookGate w order = "" := by
          rw [webhookGate, hg]
          rfl
        rw [hnone]
        refine ends_ask exists_calm fun ch hch => ?_
        have hfails : ch.fails = false := hch
        simp [backend, dispatch, reads, hfails, TicketPayment.findGates, hg]
    | cons g gates =>
        have hcount : ∀ ch, Calm ch → backend.decide ch w (.findGates dto order)
            = some (w, .ask (.countGateTickets dto order (g :: gates))) := by
          intro ch hch
          have hfails : ch.fails = false := hch
          simp [backend, dispatch, reads, hfails, TicketPayment.findGates, hg]
        rw [ends_ask exists_calm hcount]
        refine ends_ask exists_calm fun ch hch => ?_
        have hfails : ch.fails = false := hch
        simp [backend, dispatch, reads, hfails, TicketPayment.countGateTickets, webhookGate, hg]
  have hcommit : ∀ ch, Calm ch →
      backend.decide ch w (.successCommit dto order (webhookGate w order))
        = some (withTickets order (List.replicate (seatCount order) (webhookGate w order))
            (markedPaid order (upsertedPayments dto .success (some .success) w.db.payments) w),
          .ask (.delReservation order)) := by
    intro ch hch
    have hfails : ch.fails = false := hch
    simp only [backend, dispatch, TicketPayment.successCommit, hfails,
      commitSuccess_eq h hdto.names]
    rfl
  have hdel : ∀ w₁ : World, ∀ ch, Calm ch → backend.decide ch w₁ (.delReservation order)
      = some ({ w₁ with redis := TicketRedis.delReservation order.id w₁.redis },
          .ask (.sendOrderPaidEmail order)) := by
    intro w₁ ch hch
    have hfails : ch.fails = false := hch
    simp [backend, dispatch, TicketPayment.delReservation, hfails]
  have hmail : ∀ w₁ : World, ∀ ch, Calm ch → backend.decide ch w₁ (.sendOrderPaidEmail order)
      = some ({ w₁ with emailJobs := w₁.emailJobs ++ [(order.id, order.userId)] },
          webhookAnswer "Thanh toán thành công, vé đã được phát hành" (some .paid)) := by
    intro w₁ ch hch
    have hfails : ch.fails = false := hch
    simp [backend, dispatch, TicketPayment.sendOrderPaidEmail, hfails]
  rw [ends_ask exists_calm hstart, hgates, ends_ask exists_calm hcommit,
    ends_ask exists_calm (hdel _), ends_ask exists_calm (hmail _), webhookAnswer, ends_ret]
  rfl

/-! ## The cron and the worker -/

/-- The payment rows after the cron marked the order paid. -/
def cronPaidPayments (order : Order) (payments : List PaymentTransaction) :
    List PaymentTransaction :=
  payments ++ [{ id := payments.length, orderId := order.id, status := .success,
                 amount := order.totalAmountInVnd, providerTransactionId := none,
                 paymentUrl := none }]

/-- The job the cron queues. -/
def queuedJob (w : World) (order : Order) : TicketIssueJob :=
  { id := w.nextJobId, orderId := order.id }

/-- What markOrderPaidFromCron leaves. -/
def afterCron (order : Order) (w : World) : World :=
  { markedPaid order (cronPaidPayments order w.db.payments) w with
    ticketIssueJobs := w.ticketIssueJobs ++ [queuedJob w order]
    nextJobId := w.nextJobId + 1 }

/-- The cron's transaction, written out. -/
theorem commitCronPaid_eq (hrow : w.db.findOrder order.id = some order) :
    commitCronPaid order w.now w.db
      = some (markedPaid order (cronPaidPayments order w.db.payments) w).db := by
  let payments := cronPaidPayments order w.db.payments
  have hinsert : insertPayment order.id .success order.totalAmountInVnd none none w.db
      = some (withPayments payments w).db := by
    simp only [insertPayment, hrow]
    rfl
  have hrow' : (withPayments payments w).db.findOrder order.id = some order := hrow
  simp only [commitCronPaid]
  rw [hinsert]
  show updateOrder order.id (asPaid w.now) (withPayments payments w).db = _
  rw [updateOrder_eq hrow']
  rfl

/-- How the cron ends with nobody beside it. -/
theorem ends_cronPaid (h : Payable w order) :
    backend.Ends Calm w (.ask (.cronPaidCheck order [])) w' a ↔
      w' = afterCron order w ∧ a = .cronDone := by
  have hcheck : ∀ ch, Calm ch → backend.decide ch w (.cronPaidCheck order [])
      = some (w, .ask (.cronPaidCommit order [])) := by
    intro ch hch
    have hfails : ch.fails = false := hch
    simp [backend, dispatch, reads, hfails, TicketPayment.cronPaidCheck, h.row, h.pending]
  have hcommit : ∀ ch, Calm ch → backend.decide ch w (.cronPaidCommit order [])
      = some (markedPaid order (cronPaidPayments order w.db.payments) w,
          .ask (.enqueueTicketIssue order [])) := by
    intro ch hch
    have hfails : ch.fails = false := hch
    simp only [backend, dispatch, TicketPayment.cronPaidCommit, hfails, commitCronPaid_eq h.row]
    rfl
  have hqueue : ∀ ch, Calm ch →
      backend.decide ch (markedPaid order (cronPaidPayments order w.db.payments) w)
          (.enqueueTicketIssue order [])
        = some (afterCron order w, cronNext []) := by
    intro ch hch
    have hfails : ch.fails = false := hch
    simp only [backend, dispatch, TicketPayment.enqueueTicketIssue, hfails]
    rfl
  rw [ends_ask exists_calm hcheck, ends_ask exists_calm hcommit, ends_ask exists_calm hqueue,
    cronNext, ends_ret]

/-- What the worker leaves of a paid order with items. -/
def afterIssue (job : TicketIssueJob) (row : Order) (w : World) : World :=
  { withTickets row (workerGates w row) w with
    ticketIssueJobs := w.ticketIssueJobs.filter fun j => j.id ≠ job.id }

/-- How the worker ends with nobody beside it. -/
theorem ends_issueJob {job : TicketIssueJob} {row : Order}
    (hrow : w.db.findOrder job.orderId = some row) (hpaid : row.status = .paid)
    (hitems : row.items ≠ []) (htypes : HasTypes row.items w.db)
    (hnone : NoTickets job.orderId w.db.tickets) :
    backend.Ends Calm w (.ask (.issueJob job)) w' a ↔
      w' = afterIssue job row w ∧
        a = .ticketsIssued (row.items.map fun i => i.quantity.toNat).sum := by
  have hread : ∀ ch, Calm ch → backend.decide ch w (.issueJob job)
      = some (w, .ask (.countIssued job row)) := by
    intro ch hch
    have hfails : ch.fails = false := hch
    simp [backend, dispatch, reads, hfails, TicketServices.issueJob, hrow, hpaid, hitems]
  have hempty : w.db.ticketsOf job.orderId = [] := by
    refine List.filter_eq_nil_iff.mpr ?_
    intro k hk
    simpa using hnone k hk
  have hcount : ∀ ch, Calm ch → backend.decide ch w (.countIssued job row)
      = some (w, .ask (.issueCommit job row)) := by
    intro ch hch
    have hfails : ch.fails = false := hch
    simp [backend, dispatch, reads, hfails, TicketServices.countIssued, hempty]
  have hcommit : ∀ ch, Calm ch → backend.decide ch w (.issueCommit job row)
      = some (withTickets row (workerGates w row) w, .ask (.completeJob job
          (.ticketsIssued (row.items.map fun i => i.quantity.toNat).sum))) := by
    intro ch hch
    have hfails : ch.fails = false := hch
    simp only [backend, dispatch, TicketServices.issueCommit, hfails, commitIssue_eq row htypes]
    rfl
  have hcomplete : ∀ w₁ : World, ∀ answer : Answer, ∀ ch, Calm ch →
      backend.decide ch w₁ (.completeJob job answer)
        = some ({ w₁ with ticketIssueJobs := w₁.ticketIssueJobs.filter fun j => j.id ≠ job.id },
            .ret answer) := by
    intro w₁ answer ch hch
    have hfails : ch.fails = false := hch
    simp [backend, dispatch, TicketServices.completeJob, hfails]
  rw [ends_ask exists_calm hread, ends_ask exists_calm hcount, ends_ask exists_calm hcommit,
    ends_ask exists_calm (hcomplete _ _), ends_ret]
  rfl

/-- A paid order without items is refused, and the job kept. -/
theorem ends_issueJob_empty {job : TicketIssueJob} {row : Order}
    (hrow : w.db.findOrder job.orderId = some row) (hpaid : row.status = .paid)
    (hitems : row.items = []) :
    backend.Ends Calm w (.ask (.issueJob job)) w' a ↔
      w' = w ∧ a = .error (.job s!"Order {row.id} has no order items") := by
  have hread : ∀ ch, Calm ch → backend.decide ch w (.issueJob job)
      = some (w, .ret (.error (.job s!"Order {row.id} has no order items"))) := by
    intro ch hch
    have hfails : ch.fails = false := hch
    simp [backend, dispatch, reads, hfails, TicketServices.issueJob, hrow, hpaid, hitems]
  rw [ends_ask exists_calm hread, ends_ret]

/-- The cron left the order's row paid. -/
theorem afterCron_row (h : Payable w order) :
    (afterCron order w).db.findOrder (queuedJob w order).orderId
      = some (asPaid w.now order) := by
  have hid : ∀ r, (asPaid w.now r).id = r.id := fun _ => rfl
  exact (RowTable.lookup_modify_self hid).trans (congrArg (Option.map _) h.row)

/-- The job the cron queued, once it runs. -/
theorem ends_queuedJob (h : Payable w order) (hitems : order.items ≠ []) :
    backend.Ends Calm (afterCron order w) (.ask (.issueJob (queuedJob w order))) w' a ↔
      w' = afterIssue (queuedJob w order) (asPaid w.now order) (afterCron order w) ∧
        a = .ticketsIssued (order.items.map fun i => i.quantity.toNat).sum := by
  have hfilled : (asPaid w.now order).items ≠ [] := hitems
  have htypes : HasTypes (asPaid w.now order).items (afterCron order w).db := h.types
  have hnone : NoTickets (queuedJob w order).orderId (afterCron order w).db.tickets := h.unissued
  exact ends_issueJob (afterCron_row h) rfl hfilled htypes hnone

/-! ## They agree up to the gates -/

/-- How many tickets an item has. -/
def ticketsOfItem (item : OrderId × Nat) (db : Db) : Nat :=
  (db.tickets.filter fun k => k.orderItemId = item).length

/-- How many tickets have this gate. -/
def ticketsAtGate (gate : Option String) (db : Db) : Nat :=
  (db.tickets.filter fun k => k.gateId = gate).length

/-- What the two paths leave, from the same order and the same store. -/
structure SameIssue (w : World) (order : Order) (webhook worker : World) : Prop where
  /-- every type has the same soldQty and reservedQty -/
  ticketTypes : worker.db.ticketTypes = webhook.db.ticketTypes
  /-- every user has the same counters -/
  counters : worker.db.counters = webhook.db.counters
  items : ∀ item, ticketsOfItem item worker.db = ticketsOfItem item webhook.db
  /-- the webhook's tickets all have the gate that was least loaded before -/
  oneGate : webhook.db.tickets = w.db.tickets ++ stamp order (seats order.items)
    (List.replicate (seatCount order) (webhookGate w order))
  /-- each of the worker's tickets has the gate least loaded at its moment -/
  drawnGates : worker.db.tickets = w.db.tickets ++ stamp order (seats order.items)
    (workerGates w order)
  /-- so each gate gets the same number exactly if one gate stays least loaded -/
  gates : (∀ gate, ticketsAtGate gate worker.db = ticketsAtGate gate webhook.db) ↔
    ∀ k < seatCount order, leastLoadedGateName
      (bumpBy (webhookGate w order) k (gateCount w.db order.concertId))
      (gatesOf w.db order.concertId) = webhookGate w order

/-- The tickets of an item are its seats. -/
theorem stamp_items (order : Order) (item : OrderId × Nat) {seats : List OrderItem}
    {gateNames : List String} (h : seats.length = gateNames.length) :
    ((stamp order seats gateNames).filter fun k => k.orderItemId = item).length
      = (seats.filter fun i => i.id = item).length := by
  induction seats generalizing gateNames with
  | nil => simp [stamp]
  | cons i seats ih =>
      cases gateNames with
      | nil => cases h
      | cons gateName gateNames =>
          have hrest := ih (Nat.succ.inj h)
          rw [stamp_cons]
          by_cases hi : i.id = item
          · simpa [List.filter_cons, newTicket, hi] using hrest
          · simpa [List.filter_cons, newTicket, hi] using hrest

/-- The tickets of a gate are its draws. -/
theorem stamp_gates (order : Order) (gate : Option String) {seats : List OrderItem}
    {gateNames : List String} (h : seats.length = gateNames.length) :
    ((stamp order seats gateNames).filter fun k => k.gateId = gate).length
      = (gateNames.filter fun g => gateIdOf g = gate).length := by
  induction seats generalizing gateNames with
  | nil =>
      rw [List.length_eq_zero_iff.mp h.symm]
      rfl
  | cons i seats ih =>
      cases gateNames with
      | nil => cases h
      | cons gateName gateNames =>
          have hrest := ih (Nat.succ.inj h)
          rw [stamp_cons]
          by_cases hg : gateIdOf gateName = gate
          · simpa [List.filter_cons, newTicket, hg] using hrest
          · simpa [List.filter_cons, newTicket, hg] using hrest

/-- Two gates have two ids. -/
theorem gateIdOf_injective : Function.Injective gateIdOf := by
  intro a b h
  simp only [gateIdOf] at h
  split at h
  · next ha =>
      split at h
      · next hb => rw [ha, hb]
      · cases h
  · split at h
    · cases h
    · exact Option.some.inj h

/-- Draws fill every gate as `n` tickets at one gate do only if they all go there. -/
theorem drawn_same_iff {gateNames : List String} {gateName : String} {n : Nat}
    (hn : gateNames.length = n) :
    (∀ gate, (gateNames.filter fun g => gateIdOf g = gate).length
        = ((List.replicate n gateName).filter fun g => gateIdOf g = gate).length) ↔
      ∀ x ∈ gateNames, x = gateName := by
  constructor
  · intro h x hx
    have hall : (gateNames.filter fun g => gateIdOf g = gateIdOf gateName).length
        = gateNames.length := by
      rw [h, hn]
      simp
    have hx' := List.length_filter_eq_length_iff.mp hall x hx
    exact gateIdOf_injective (of_decide_eq_true hx')
  · intro h gate
    rw [List.eq_replicate_iff.mpr ⟨hn, h⟩]

/-- What is left once both have issued the same seats, whatever else they wrote. -/
theorem sameIssue_of {webhook worker : World}
    (htypes : worker.db.ticketTypes = webhook.db.ticketTypes)
    (hcounters : worker.db.counters = webhook.db.counters)
    (hwebhook : webhook.db.tickets = w.db.tickets ++ stamp order (seats order.items)
      (List.replicate (seatCount order) (webhookGate w order)))
    (hworker : worker.db.tickets = w.db.tickets ++ stamp order (seats order.items)
      (workerGates w order)) :
    SameIssue w order webhook worker := by
  have hlen : (seats order.items).length
      = (List.replicate (seatCount order) (webhookGate w order)).length := by
    rw [List.length_replicate, seatCount]
  have hlen' : (seats order.items).length = (workerGates w order).length := by
    rw [workerGates, drawGates_length, seatCount]
  refine ⟨htypes, hcounters, ?_, hwebhook, hworker, ?_⟩
  · intro item
    simp only [ticketsOfItem, hwebhook, hworker, List.filter_append, List.length_append,
      stamp_items order item hlen, stamp_items order item hlen']
  · simp only [ticketsAtGate, hwebhook, hworker, List.filter_append, List.length_append,
      stamp_gates order _ hlen, stamp_gates order _ hlen', Nat.add_left_cancel_iff]
    have hcount : (workerGates w order).length = seatCount order := hlen'.symm
    rw [drawn_same_iff hcount, workerGates, drawGates_all]

/-- **The issuing paths agree** on the tickets of every item and on every counter: run alone
    on a pending order, the SUCCESS webhook on the one hand, the cron's mark-paid followed by
    the job it queues on the other.  The webhook puts all tickets at one gate, the worker draws
    a gate for each, and the gates agree exactly if the first draw stays least loaded. -/
theorem issue_paths_agree {w : World} {order : Order} {dto : MockWebhookDto}
    (h : Payable w order) (hdto : Confirms dto order) :
    ∃ webhook a₁ cron a₂ worker a₃,
      (∀ w' a, backend.Ends Calm w (.ask (.handleMockWebhook dto)) w' a ↔
        w' = webhook ∧ a = a₁) ∧
      (∀ w' a, backend.Ends Calm w (.ask (.cronPaidCheck order [])) w' a ↔
        w' = cron ∧ a = a₂) ∧
      cron.ticketIssueJobs = w.ticketIssueJobs ++ [queuedJob w order] ∧
      (∀ w' a, backend.Ends Calm cron (.ask (.issueJob (queuedJob w order))) w' a ↔
        w' = worker ∧ a = a₃) ∧
      SameIssue w order webhook worker := by
  by_cases hitems : order.items = []
  · have hempty : (asPaid w.now order).items = [] := hitems
    refine ⟨_, _, _, _, _, _, fun w' a => ends_paymentSuccess h hdto, fun w' a => ends_cronPaid h,
      rfl, fun w' a => ends_issueJob_empty (afterCron_row h) rfl hempty, sameIssue_of ?_ ?_ rfl ?_⟩
    · show w.db.ticketTypes = soldRows order.items w.db.ticketTypes
      rw [hitems]
      simp [soldRows]
    · show w.db.counters = paidRows order.userId order.items w.db.counters
      rw [hitems]
      rfl
    · show w.db.tickets = w.db.tickets ++ stamp order (seats order.items) (workerGates w order)
      rw [hitems]
      simp [seats, stamp]
  · exact ⟨_, _, _, _, _, _, fun w' a => ends_paymentSuccess h hdto, fun w' a => ends_cronPaid h,
      rfl, fun w' a => ends_queuedJob h hitems, sameIssue_of rfl rfl rfl rfl⟩

/-! ### Two tickets, two gates -/

/-- The pending order of two tickets, at a concert with two gates and no ticket yet. -/
def twoGates : World :=
  { lateShop with
    db := { lateShop.db with gates := [⟨1, "A"⟩, ⟨1, "B"⟩] } }

/-- The gateway confirms its payment. -/
def confirmation : MockWebhookDto where
  orderId := 1
  providerTransactionId := 7
  result := .success
  amount := 20
  signed := true

/-- The order can be paid. -/
theorem twoGates_payable : Payable twoGates lateOrder where
  row := rfl
  pending := rfl
  types := by
    unfold HasTypes
    decide
  unissued := fun _ hk => absurd hk List.not_mem_nil

/-- The webhook confirms it. -/
theorem confirmation_confirms : Confirms confirmation lateOrder := ⟨rfl, rfl, rfl, rfl⟩

/-- Both paths issue the late order alike. -/
theorem issue_paths_agree_twoGates :
    ∃ webhook a₁ cron a₂ worker a₃,
      (∀ w' a, backend.Ends Calm twoGates (.ask (.handleMockWebhook confirmation)) w' a ↔
        w' = webhook ∧ a = a₁) ∧
      (∀ w' a, backend.Ends Calm twoGates (.ask (.cronPaidCheck lateOrder [])) w' a ↔
        w' = cron ∧ a = a₂) ∧
      cron.ticketIssueJobs = twoGates.ticketIssueJobs ++ [queuedJob twoGates lateOrder] ∧
      (∀ w' a, backend.Ends Calm cron (.ask (.issueJob (queuedJob twoGates lateOrder))) w' a ↔
        w' = worker ∧ a = a₃) ∧
      SameIssue twoGates lateOrder webhook worker :=
  issue_paths_agree twoGates_payable confirmation_confirms

/-- The webhook puts both tickets at gate A, the worker one at each. -/
theorem issue_gates_differ :
    ∃ w order dto, Payable w order ∧ Confirms dto order ∧
      ∀ webhook a₁ cron a₂ worker a₃,
        backend.Ends Calm w (.ask (.handleMockWebhook dto)) webhook a₁ →
        backend.Ends Calm w (.ask (.cronPaidCheck order [])) cron a₂ →
        backend.Ends Calm cron (.ask (.issueJob (queuedJob w order))) worker a₃ →
        ticketsAtGate (some "A") webhook.db = 2 ∧ ticketsAtGate (some "A") worker.db = 1 := by
  refine ⟨twoGates, lateOrder, confirmation, twoGates_payable, confirmation_confirms, ?_⟩
  intro webhook a₁ cron a₂ worker a₃ h₁ h₂ h₃
  obtain ⟨rfl, -⟩ := (ends_paymentSuccess twoGates_payable confirmation_confirms).mp h₁
  obtain ⟨rfl, -⟩ := (ends_cronPaid twoGates_payable).mp h₂
  obtain ⟨rfl, -⟩ := (ends_queuedJob twoGates_payable (List.cons_ne_nil _ _)).mp h₃
  decide

end TicketBackend
