import TicketBox.MyOrdersProofs
import TicketBox.SeatSelection

/-! # How many tickets a customer may still pick

    `lib/user-ticket-usage.ts` adds up what the customer's orders hold, from the first
    hundred paid ones and the first hundred that wait for their payment.  `text` stands for
    the ids as they read.

    Main result: `allowance_shown`. -/

namespace SeatSelection

open MyPages OffsetPages
open TicketStore (UserId ConcertId TicketTypeId OrderStatus)

/-- The statuses of the orders that use up the limit. -/
def COUNTABLE_STATUSES : List OrderStatus := [.paid, .pendingPayment]

section Usage

variable (text : TicketTypeId → String)

/-- One item in the loop of `accumulateOrderUsage`. -/
def addItem (status : OrderStatus) (map : TicketTypeUsageMap) (item : OrderItemResponseDto) :
    TicketTypeUsageMap :=
  let current := (map (text item.ticketTypeId)).getD ⟨0, 0⟩
  Function.update map (text item.ticketTypeId) (some
    (if status = .paid then { current with paidQty := current.paidQty + item.quantity }
    else { current with reservedQty := current.reservedQty + item.quantity }))

/-- `accumulateOrderUsage`: the items of one order added. -/
def accumulateOrderUsage (backendConcertId : ConcertId) (map : TicketTypeUsageMap)
    (order : OrderResponseDto) : TicketTypeUsageMap :=
  if order.concertId ≠ backendConcertId then map
  else if order.status ∉ COUNTABLE_STATUSES then map
  else order.items.foldl (addItem text order.status) map

/-- `fetchUserTicketUsage`, of the two answers. -/
def fetchUserTicketUsage (backendConcertId : ConcertId)
    (paidOrders pendingOrders : List OrderResponseDto) : TicketTypeUsageMap :=
  pendingOrders.foldl (accumulateOrderUsage text backendConcertId)
    (paidOrders.foldl (accumulateOrderUsage text backendConcertId) fun _ => none)

/-- `listMine({ status, limit: 100 })` -/
def firstHundred (listing : List OrderRow) (total : Nat) : List OrderResponseDto :=
  (getMyOrders listing total ⟨1, 100, Nat.one_pos, by decide⟩).data

/-! ## What a fold of orders adds -/

/-- What a map says is used of a ticket type. -/
def used (map : TicketTypeUsageMap) (id : String) : Int :=
  ((map id).map TicketTypeUsage.paidQty).getD 0 + ((map id).map TicketTypeUsage.reservedQty).getD 0

/-- What an item asks of a ticket type. -/
def itemAsks (t : TicketTypeId) (item : OrderItemRow) : Int :=
  if item.ticketTypeId = t then item.quantity else 0

/-- What an order of the concert holds of a ticket type. -/
def orderHolds (c : ConcertId) (t : TicketTypeId) (order : OrderRow) : Int :=
  if order.concertId = c ∧ order.status ∈ COUNTABLE_STATUSES then
    (order.items.map (itemAsks t)).sum
  else 0

/-- What the customer's orders for the concert hold of a ticket type. -/
def holds (userId : UserId) (c : ConcertId) (t : TicketTypeId) (rows : List OrderRow) : Int :=
  ((rows.filter fun row => row.userId = userId).map (orderHolds c t)).sum

variable {text} {c : ConcertId} {t : TicketTypeId} {map : TicketTypeUsageMap}

/-- One more item of the type. -/
theorem used_addItem (htext : Function.Injective text) (status : OrderStatus)
    (item : OrderItemRow) :
    used (addItem text status map (toOrderItemResponse item)) (text t)
      = used map (text t) + itemAsks t item := by
  by_cases ht : item.ticketTypeId = t
  · subst ht
    simp only [addItem, toOrderItemResponse, used, itemAsks, Function.update_self, if_true,
      Option.map_some, Option.getD_some]
    cases hcurrent : map (text item.ticketTypeId) with
    | none => split <;> simp
    | some current => split <;> simp only [Option.getD_some, Option.map_some] <;> omega
  · have hother : text t ≠ text item.ticketTypeId := fun h => ht (htext h).symm
    simp only [addItem, toOrderItemResponse, used, itemAsks, Function.update_of_ne hother, if_neg ht,
      Int.add_zero]

/-- The items of an order. -/
theorem used_items (htext : Function.Injective text) (status : OrderStatus)
    (items : List OrderItemRow) :
    used ((items.map toOrderItemResponse).foldl (addItem text status) map) (text t)
      = used map (text t) + (items.map (itemAsks t)).sum := by
  induction items generalizing map with
  | nil => simp
  | cons item items ih =>
      rw [List.map_cons, List.foldl_cons, ih, used_addItem htext, List.map_cons, List.sum_cons,
        Int.add_assoc]

/-- One more order. -/
theorem used_order (htext : Function.Injective text) (order : OrderRow) :
    used (accumulateOrderUsage text c map (toOrderResponseMinimal none order)) (text t)
      = used map (text t) + orderHolds c t order := by
  rw [accumulateOrderUsage, orderHolds]
  by_cases hconcert : order.concertId = c
  · rw [if_neg fun h => h hconcert]
    by_cases hstatus : order.status ∈ COUNTABLE_STATUSES
    · rw [if_neg fun h => h hstatus, if_pos ⟨hconcert, hstatus⟩]
      exact used_items htext order.status order.items
    · have huncounted : (toOrderResponseMinimal none order).status ∉ COUNTABLE_STATUSES := hstatus
      rw [if_pos huncounted, if_neg fun h => hstatus h.2, Int.add_zero]
  · have helsewhere : (toOrderResponseMinimal none order).concertId ≠ c := hconcert
    rw [if_pos helsewhere, if_neg fun h => hconcert h.1, Int.add_zero]

/-- All orders. -/
theorem used_orders (htext : Function.Injective text) (orders : List OrderRow) :
    used ((orders.map (toOrderResponseMinimal none)).foldl (accumulateOrderUsage text c) map)
        (text t)
      = used map (text t) + (orders.map (orderHolds c t)).sum := by
  induction orders generalizing map with
  | nil => simp
  | cons order orders ih =>
      rw [List.map_cons, List.foldl_cons, ih, used_order htext, List.map_cons, List.sum_cons,
        Int.add_assoc]

end Usage

/-! ## The first hundred -/

/-- The first hundred orders of the list. -/
theorem firstHundred_eq (listing : List OrderRow) (total : Nat) :
    firstHundred listing total = (listing.take 100).map (toOrderResponseMinimal none) := rfl

/-- The list in one status. -/
theorem listing_of_status (userId : UserId) (status : OrderStatus) (rows : List OrderRow) :
    (myOrders userId (some status)).listing rows
      = rows.filter fun row => row.userId = userId ∧ row.status = status := by
  refine List.filter_congr fun row _ => ?_
  simp [myOrders]

/-- What the customer's orders hold, the paid and the pending ones do. -/
theorem holds_split (userId : UserId) (c : ConcertId) (t : TicketTypeId) (rows : List OrderRow) :
    holds userId c t rows
      = (((myOrders userId (some .paid)).listing rows).map (orderHolds c t)).sum +
        (((myOrders userId (some .pendingPayment)).listing rows).map (orderHolds c t)).sum := by
  rw [listing_of_status, listing_of_status, holds]
  induction rows with
  | nil => rfl
  | cons row rows ih =>
      by_cases howner : row.userId = userId
      · cases hstatus : row.status with
        | paid =>
            simp only [List.filter_cons, howner, hstatus, decide_true, true_and, if_true,
              reduceCtorEq, decide_false, Bool.false_eq_true, if_false, List.map_cons, List.sum_cons,
              ih]
            omega
        | pendingPayment =>
            simp only [List.filter_cons, howner, hstatus, decide_true, true_and, if_true,
              reduceCtorEq, decide_false, Bool.false_eq_true, if_false, List.map_cons, List.sum_cons,
              ih]
            omega
        | _ =>
            have hnone : orderHolds c t row = 0 := by
              rw [orderHolds, if_neg]
              rintro ⟨-, hcountable⟩
              rw [hstatus] at hcountable
              revert hcountable
              decide
            simp only [List.filter_cons, howner, hstatus, decide_true, true_and, if_true,
              reduceCtorEq, decide_false, Bool.false_eq_true, if_false, List.map_cons, List.sum_cons,
              hnone, Int.zero_add, ih]
      · simp only [List.filter_cons, howner, false_and, decide_false, Bool.false_eq_true, if_false, ih]

section Allowance

variable {text : TicketTypeId → String} {userId : UserId} {c : ConcertId} {t : TicketTypeId}
  {rows paid pending : List OrderRow}

/-- An order holds at least nothing. -/
theorem orderHolds_nonneg {order : OrderRow} (h : ∀ item ∈ order.items, 0 ≤ item.quantity) :
    0 ≤ orderHolds c t order := by
  rw [orderHolds]
  split
  · refine List.sum_nonneg fun x hx => ?_
    obtain ⟨item, hitem, rfl⟩ := List.mem_map.mp hx
    rw [itemAsks]
    split
    · exact h item hitem
    · exact le_refl 0
  · exact le_refl 0

/-- What the orders beyond the first hundred hold. -/
def beyond (c : ConcertId) (t : TicketTypeId) (paid pending : List OrderRow) : Int :=
  ((paid.drop 100).map (orderHolds c t)).sum + ((pending.drop 100).map (orderHolds c t)).sum

/-- What the usage leaves out is what the orders beyond the first hundred hold. -/
theorem used_firstHundred (htext : Function.Injective text)
    (hpaid : paid.Perm ((myOrders userId (some .paid)).listing rows))
    (hpending : pending.Perm ((myOrders userId (some .pendingPayment)).listing rows))
    (total total' : Nat) :
    used (fetchUserTicketUsage text c (firstHundred paid total) (firstHundred pending total'))
        (text t) + beyond c t paid pending
      = holds userId c t rows := by
  have hsplit : ∀ orders : List OrderRow, (orders.map (orderHolds c t)).sum
      = ((orders.take 100).map (orderHolds c t)).sum +
        ((orders.drop 100).map (orderHolds c t)).sum := by
    intro orders
    rw [← List.sum_append, ← List.map_append, List.take_append_drop]
  have hnone : used (fun _ => none) (text t) = 0 := rfl
  rw [fetchUserTicketUsage, firstHundred_eq, firstHundred_eq, used_orders htext, used_orders htext,
    hnone, holds_split, ← (hpaid.map _).sum_eq, ← (hpending.map _).sum_eq, hsplit paid,
    hsplit pending, beyond]
  omega

/-- **The allowance that is shown** is never less than what the customer's paid and pending
    orders leave of the limit, and it is just that, however the orders of one instant come,
    exactly if the orders beyond the first hundred of each status hold none of the type, or
    the first hundred use the limit up. -/
theorem allowance_shown (htext : Function.Injective text)
    (hquantity : ∀ order ∈ rows, ∀ item ∈ order.items, 0 ≤ item.quantity)
    (hpaid : Arranged (newestFirst (myOrders userId (some .paid)))
      ((myOrders userId (some .paid)).listing rows) paid)
    (hpending : Arranged (newestFirst (myOrders userId (some .pendingPayment)))
      ((myOrders userId (some .pendingPayment)).listing rows) pending)
    (total total' : Nat) (maxPerUser : Int) :
    let usage := fetchUserTicketUsage text c (firstHundred paid total) (firstHundred pending total')
    let shown := remainingTicketAllowance (text t) maxPerUser usage
    let left := max 0 (maxPerUser - holds userId c t rows)
    left ≤ shown ∧
      (shown = left ↔ beyond c t paid pending = 0 ∨ maxPerUser ≤ used usage (text t)) := by
  intro usage shown left
  have hsum : used usage (text t) + beyond c t paid pending = holds userId c t rows :=
    used_firstHundred htext hpaid.perm hpending.perm total total'
  have hshown : shown = max 0 (maxPerUser - used usage (text t)) := rfl
  have hbeyond : 0 ≤ beyond c t paid pending := by
    have hnonneg : ∀ status orders, List.Perm orders ((myOrders userId (some status)).listing rows) →
        0 ≤ ((orders.drop 100).map (orderHolds c t)).sum := by
      intro status orders hperm
      refine List.sum_nonneg fun x hx => ?_
      obtain ⟨order, horder, rfl⟩ := List.mem_map.mp hx
      have hrow := List.mem_of_mem_filter (hperm.mem_iff.mp (List.mem_of_mem_drop horder))
      exact orderHolds_nonneg (hquantity order hrow)
    exact add_nonneg (hnonneg _ _ hpaid.perm) (hnonneg _ _ hpending.perm)
  constructor
  · omega
  · constructor
    · intro heq
      omega
    · intro h
      omega

end Allowance

/-- Ids that read as so many strokes. -/
def strokes (t : TicketTypeId) : String := String.ofList (List.replicate t '1')

theorem strokes_injective : Function.Injective strokes := by
  intro t t' h
  have hlength := congrArg (fun s => s.toList.length) h
  simpa [strokes] using hlength

/-- A paid order of two tickets. -/
def twoPaid : List OrderRow :=
  [{ orderAt 0 .paid with items := [⟨(0, 0), 1, "VIP", 2, 50000, 100000, []⟩] }]

/-- Two paid tickets of four leave two. -/
theorem allowance_shown_twoPaid :
    remainingTicketAllowance (strokes 1) 4
        (fetchUserTicketUsage strokes 1 (firstHundred twoPaid 1) (firstHundred [] 1))
      = max 0 (4 - holds 1 1 1 twoPaid) :=
  (allowance_shown strokes_injective (by decide) (by decide +kernel) (by decide +kernel) 1 1 4).2.mpr
    (.inl rfl)

end SeatSelection
