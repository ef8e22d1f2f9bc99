import TicketBox.PaymentRecordProofs

/-! # The payment rows of an order and its status

    The row of createPaymentUrl has no provider transaction id, so no webhook's upsert
    finds it: only the FAILED webhook, which looks for the order's INITIATED rows,
    closes it.  Where orders are settled without such a row, rows and status go
    together (`Lifecycle`). -/

namespace TicketBackend

open Interleave TicketStore TicketRedis TicketDb TicketFlow TicketOrder TicketPayment
  TicketServices

/-! ## The rows of one order -/

/-- The payment rows of an order. -/
def rowsOf (o : OrderId) (payments : List PaymentTransaction) : List PaymentTransaction :=
  payments.filter fun p => p.orderId = o

/-- How many of the rows say SUCCESS. -/
def successes (rows : List PaymentTransaction) : Nat := rows.countP fun p => p.status = .success

/-- None of the rows is still INITIATED. -/
def NoneOpen (rows : List PaymentTransaction) : Prop := ∀ p ∈ rows, p.status ≠ .initiated

/-- The payments of an order. -/
theorem mem_rowsOf {o : OrderId} {payments : List PaymentTransaction} {p : PaymentTransaction} :
    p ∈ rowsOf o payments ↔ p ∈ payments ∧ p.orderId = o := by
  simp [rowsOf]

/-- One more payment. -/
theorem rowsOf_append (o : OrderId) (payments : List PaymentTransaction)
    (row : PaymentTransaction) :
    rowsOf o (payments ++ [row]) = rowsOf o payments ++ if row.orderId = o then [row] else [] := by
  by_cases h : row.orderId = o <;> simp [rowsOf, h]

/-- Payments rewritten for the same orders. -/
theorem rowsOf_map {f : PaymentTransaction → PaymentTransaction}
    (hf : ∀ p, (f p).orderId = p.orderId) (o : OrderId) (payments : List PaymentTransaction) :
    rowsOf o (payments.map f) = (rowsOf o payments).map f := by
  simp only [rowsOf, List.filter_map, Function.comp_def, hf]

/-- A settled payment leaves none open. -/
theorem NoneOpen.append {rows : List PaymentTransaction} {row : PaymentTransaction}
    (h : NoneOpen rows) (hrow : row.status ≠ .initiated) : NoneOpen (rows ++ [row]) := by
  intro p hp
  rcases List.mem_append.mp hp with hp | hp
  · exact h p hp
  · rw [List.mem_singleton.mp hp]
    exact hrow

/-- One more payment, which succeeded or not. -/
theorem successes_append (rows : List PaymentTransaction) (row : PaymentTransaction) :
    successes (rows ++ [row]) = successes rows + if row.status = .success then 1 else 0 := by
  simp [successes, List.countP_append, List.countP_singleton]

/-- The rows of an order go with its status. -/
structure Lifecycle (s : OrderStatus) (rows : List PaymentTransaction) : Prop where
  pending : s = .pendingPayment → successes rows = 0
  closed : s ≠ .pendingPayment → NoneOpen rows
  paid : s = .paid → successes rows = 1

/-- A rewrite that opens no row and makes or unmakes no success. -/
theorem Lifecycle.map {s : OrderStatus} {rows : List PaymentTransaction}
    {f : PaymentTransaction → PaymentTransaction} (h : Lifecycle s rows)
    (hopen : ∀ p ∈ rows, (f p).status = .initiated → p.status = .initiated)
    (hpending : s = .pendingPayment → ∀ p ∈ rows, (f p).status = .success → p.status = .success)
    (hpaid : s = .paid → ∀ p ∈ rows, ((f p).status = .success ↔ p.status = .success)) :
    Lifecycle s (rows.map f) where
  pending hs := by
    rw [successes, List.countP_eq_zero]
    intro p hp hsuccess
    obtain ⟨p₀, hp₀, rfl⟩ := List.mem_map.mp hp
    have hnone := List.countP_eq_zero.mp (h.pending hs) p₀ hp₀
    exact hnone (decide_eq_true (hpending hs p₀ hp₀ (of_decide_eq_true hsuccess)))
  closed hs := by
    intro p hp hinitiated
    obtain ⟨p₀, hp₀, rfl⟩ := List.mem_map.mp hp
    exact h.closed hs p₀ hp₀ (hopen p₀ hp₀ hinitiated)
  paid hs := by
    rw [successes, List.countP_map, ← h.paid hs, successes]
    refine List.countP_congr ?_
    intro p hp
    simp only [Function.comp_apply, decide_eq_true_eq]
    exact hpaid hs p hp

/-- One row more. -/
theorem Lifecycle.append {s : OrderStatus} {rows : List PaymentTransaction}
    {row : PaymentTransaction} (h : Lifecycle s rows)
    (hopen : s ≠ .pendingPayment → row.status ≠ .initiated)
    (hsuccess : s = .pendingPayment ∨ s = .paid → row.status ≠ .success) :
    Lifecycle s (rows ++ [row]) where
  pending hs := by
    rw [successes_append, if_neg (hsuccess (.inl hs))]
    exact h.pending hs
  closed hs := (h.closed hs).append (hopen hs)
  paid hs := by
    rw [successes_append, if_neg (hsuccess (.inr hs))]
    exact h.paid hs

/-- An order settled but not paid, with no row open. -/
theorem Lifecycle.settled {s : OrderStatus} {rows : List PaymentTransaction}
    (hopen : NoneOpen rows) (hs : s ≠ .pendingPayment) (hpaid : s ≠ .paid) : Lifecycle s rows where
  pending h := absurd h hs
  closed _ := hopen
  paid h := absurd h hpaid

/-- An order paid by the one row that says so. -/
theorem Lifecycle.paidOnce {rows : List PaymentTransaction} (hopen : NoneOpen rows)
    (hone : successes rows = 1) : Lifecycle .paid rows where
  pending h := absurd h (by decide)
  closed _ := hopen
  paid _ := hone

/-! ## One call -/

/-- The order a call is about to settle without closing its INITIATED row. -/
def Ask.leavesOpen : Ask → Option OrderId
  | .markCancelled order | .markExpired order | .cronPaidCommit order _
  | .cronExpireCommit order _ _ => some order.id
  | .successCommit dto _ _ => some dto.orderId
  | _ => none

/-- Only the FAILED webhook settles an order with an INITIATED row, a SUCCESS webhook of a
    pending order finds no other order's row under its id, and TIMEOUT webhooks no payment of
    a PAID order. -/
def Closes (db : Db) (d : Ask) : Prop :=
  (∀ o ∈ Ask.leavesOpen d, NoneOpen (rowsOf o db.payments)) ∧ UsesOnce db d

/-- The row under a webhook's id is one of its order's, the only one that becomes SUCCESS. -/
theorem lifecycle_upserted {dto : MockWebhookDto} {payments : List PaymentTransaction}
    (hsingle : Single payments)
    (hown : ∀ p ∈ payments, p.providerTransactionId = some dto.providerTransactionId →
      p.orderId = dto.orderId)
    (hopen : NoneOpen (rowsOf dto.orderId payments))
    (hnone : successes (rowsOf dto.orderId payments) = 0) :
    Lifecycle .paid (rowsOf dto.orderId
      (upsertedPayments dto .success (some .success) payments)) := by
  simp only [upsertedPayments]
  split
  · next hany =>
    rw [rowsOf_map (by intro p; split <;> rfl)]
    refine .paidOnce ?_ ?_
    · intro p hp hinitiated
      obtain ⟨p₀, hp₀, rfl⟩ := List.mem_map.mp hp
      split at hinitiated
      · cases hinitiated
      · exact hopen p₀ hp₀ hinitiated
    · -- the rows that say SUCCESS afterwards are those under the id
      rw [successes, List.countP_map]
      have hcount : ((rowsOf dto.orderId payments).countP fun p =>
          p.providerTransactionId = some dto.providerTransactionId) = 1 := by
        have hsub : List.Sublist (rowsOf dto.orderId payments) payments := List.filter_sublist
        have hle := le_trans hsub.countP_le (hsingle dto.providerTransactionId)
        obtain ⟨p, hp, hx⟩ := List.any_eq_true.mp hany
        have hmem : p ∈ rowsOf dto.orderId payments :=
          mem_rowsOf.mpr ⟨hp, hown p hp (of_decide_eq_true hx)⟩
        exact le_antisymm hle (List.countP_pos_iff.mpr ⟨p, hmem, hx⟩)
      rw [← hcount]
      refine List.countP_congr ?_
      intro p hp
      have hp₀ := List.countP_eq_zero.mp hnone p hp
      simp only [decide_eq_true_eq] at hp₀
      simp only [Function.comp_apply, decide_eq_true_eq]
      by_cases hx : p.providerTransactionId = some dto.providerTransactionId
      · rw [if_pos hx]
        exact ⟨fun _ => hx, fun _ => rfl⟩
      · rw [if_neg hx]
        exact ⟨fun h => absurd h hp₀, fun h => absurd h hx⟩
  -- no row of the id yet: the upsert adds one
  · rw [rowsOf_append, if_pos rfl]
    refine .paidOnce (hopen.append (by simp)) ?_
    rw [successes_append, hnone, if_pos rfl]

/-- The order a call settles: its rows go with its new status. -/
theorem lifecycle_own {db : Db} {d : Ask} {o : OrderId} {s : OrderStatus}
    (hd : Ask.sets d = some (o, s)) (hsingle : Single db.payments) (hg : Closes db d)
    (hbefore : Lifecycle .pendingPayment (rowsOf o db.payments)) :
    Lifecycle s (rowsOf o (Ask.books d db.payments)) := by
  have hnone : successes (rowsOf o db.payments) = 0 := hbefore.pending rfl
  obtain ⟨hclosed, hpays, -⟩ := hg
  cases d with
  | markCancelled order =>
      cases hd
      exact .settled (hclosed _ rfl) (by decide) (by decide)
  | markExpired order =>
      cases hd
      exact .settled (hclosed _ rfl) (by decide) (by decide)
  | failedCommit order =>
      cases hd
      refine .settled ?_ (by decide) (by decide)
      intro p hp
      simp only [Ask.books, refusedPayments] at hp
      rw [rowsOf_map (by intro p; split <;> rfl)] at hp
      obtain ⟨p₀, hp₀, rfl⟩ := List.mem_map.mp hp
      split
      · simp
      · next hstays =>
        intro hinitiated
        exact hstays ⟨(mem_rowsOf.mp hp₀).2, hinitiated⟩
  | successCommit dto order gateName =>
      cases hd
      exact lifecycle_upserted hsingle (hpays dto rfl) (hclosed _ rfl) hnone
  | cronPaidCommit order rest =>
      cases hd
      simp only [Ask.books, withPayment]
      rw [rowsOf_append, if_pos rfl]
      refine .paidOnce ((hclosed _ rfl).append (by simp)) ?_
      rw [successes_append, hnone, if_pos rfl]
  | cronExpireCommit order res rest =>
      cases hd
      simp only [Ask.books, withPayment]
      rw [rowsOf_append, if_pos rfl]
      refine .settled ((hclosed _ rfl).append ?_) ?_ ?_
      all_goals cases res <;> simp [VerifyResult.orderStatus]
  | _ => cases hd

/-- Every other order keeps its rows. -/
theorem rowsOf_books_other {db : Db} {d : Ask} {o o' : OrderId} {s : OrderStatus}
    (hd : Ask.sets d = some (o, s)) (hg : Closes db d) (hne : o ≠ o') :
    rowsOf o' (Ask.books d db.payments) = rowsOf o' db.payments := by
  obtain ⟨-, hpays, -⟩ := hg
  have hadded : ∀ (row : PaymentTransaction), row.orderId = o →
      rowsOf o' (db.payments ++ [row]) = rowsOf o' db.payments := by
    rintro row rfl
    rw [rowsOf_append, if_neg hne, List.append_nil]
  cases d with
  | failedCommit order =>
      cases hd
      simp only [Ask.books, refusedPayments]
      rw [rowsOf_map (by intro p; split <;> rfl)]
      refine (List.map_congr_left ?_).trans (List.map_id _)
      intro p hp
      have ho : p.orderId = o' := (mem_rowsOf.mp hp).2
      rw [if_neg]
      · rfl
      · rintro ⟨ho', -⟩
        exact hne (ho'.symm.trans ho)
  | successCommit dto order gateName =>
      cases hd
      simp only [Ask.books, upsertedPayments]
      split
      · rw [rowsOf_map (by intro p; split <;> rfl)]
        refine (List.map_congr_left ?_).trans (List.map_id _)
        intro p hp
        obtain ⟨hp, ho⟩ := mem_rowsOf.mp hp
        rw [if_neg]
        · rfl
        · intro hx
          exact hne ((hpays dto rfl p hp hx).symm.trans ho)
      · exact hadded _ rfl
  | cronPaidCommit order rest =>
      cases hd
      exact hadded _ rfl
  | cronExpireCommit order res rest =>
      cases hd
      exact hadded _ rfl
  | markCancelled order => rfl
  | markExpired order => rfl
  | _ => cases hd

/-- The rows of every order go with its status. -/
def Billed (db : Db) : Prop :=
  ∀ o row, db.findOrder o = some row → Lifecycle row.status (rowsOf o db.payments)

/-- What is billed depends on the books. -/
theorem Billed.same {db db' : Db} (hb : SameBooks db db') (h : Billed db) : Billed db' := by
  intro o row hrow
  rw [hb.2]
  refine h o row ?_
  simpa only [Db.findOrder, hb.1] using hrow

/-- A call that writes a row and no status: to a pending order, or to an EXPIRED one. -/
theorem Billed.noted {db : Db} {d : Ask} (h : Billed db)
    (hknows : ∀ x ∈ Ask.found d, Stands db x.1 x.2) (hd : Ask.sets d = none) (hg : Closes db d)
    {o : OrderId} {row : Order} (hrow : db.findOrder o = some row) :
    Lifecycle row.status (rowsOf o (Ask.books d db.payments)) := by
  have hlife := h o row hrow
  -- a row added for an order that stands in `s`
  have hadded : ∀ {s : OrderStatus} (new : PaymentTransaction), Stands db new.orderId s →
      (s ≠ .pendingPayment → new.status ≠ .initiated) →
      (s = .pendingPayment ∨ s = .paid → new.status ≠ .success) →
      Lifecycle row.status (rowsOf o (db.payments ++ [new])) := by
    intro s new hstands hopen hsuccess
    rw [rowsOf_append]
    split
    · next ho =>
      subst ho
      rw [hstands.status hrow]
      exact (hstands.status hrow ▸ hlife).append hopen hsuccess
    · rw [List.append_nil]
      exact hlife
  cases d with
  | savePaymentUrl caller o' amount existing url =>
      have hpending : Stands db o' .pendingPayment := hknows _ rfl
      cases existing with
      | none =>
          refine hadded _ hpending (fun hne => absurd rfl hne) ?_
          simp
      | some r =>
          simp only [Ask.books, urlPayments]
          rw [rowsOf_map (by intro p; split <;> rfl)]
          have hstatus : ∀ p : PaymentTransaction,
              (if p.id = r.id then { p with paymentUrl := some url } else p).status = p.status := by
            intro p
            split <;> rfl
          refine hlife.map ?_ ?_ ?_
          · intro p _ hp
            rwa [hstatus] at hp
          · intro _ p _ hp
            rwa [hstatus] at hp
          · intro _ p _
            rw [hstatus]
  | recordLateWebhook dto message =>
      have hexpired : Stands db dto.orderId .expired := hknows _ rfl
      simp only [Ask.books, upsertedPayments]
      split
      · have hsame : ∀ p : PaymentTransaction,
            (if p.providerTransactionId = some dto.providerTransactionId then
              { p with status := (none : Option PaymentStatus).getD p.status } else p) = p := by
          intro p
          split <;> rfl
        rw [List.map_id'' hsame]
        exact hlife
      · refine hadded _ hexpired ?_ (by simp)
        intro _
        cases dto.result <;> simp [lateStatus]
  | handlePaymentTimeout dto =>
      have hpending : Stands db dto.orderId .pendingPayment := hknows _ rfl
      have hspares : Spares .paid dto db := hg.2.2 dto rfl
      simp only [Ask.books, upsertedPayments]
      split
      · rw [rowsOf_map (by intro p; split <;> rfl)]
        refine hlife.map ?_ ?_ ?_
        · intro p _ hp
          split at hp
          · cases hp
          · exact hp
        · intro _ p _ hp
          split at hp
          · cases hp
          · exact hp
        · intro hpaid p hp
          obtain ⟨hmem, ho⟩ := mem_rowsOf.mp hp
          split
          · next hx =>
            constructor
            · intro htimeout
              cases htimeout
            · intro hsuccess
              have hstands : Stands db p.orderId .paid := ⟨row, by rw [ho]; exact hrow, hpaid⟩
              exact absurd hstands (hspares p hmem hx hsuccess)
          · rfl
      · refine hadded _ hpending (fun hne => absurd rfl hne) ?_
        simp
  | failedCommit order => cases hd
  | successCommit dto order gateName => cases hd
  | cronPaidCommit order rest => cases hd
  | cronExpireCommit order res rest => cases hd
  | _ => exact hlife

/-- **One call keeps the rows and the statuses together.** -/
theorem Billed.posted {ch : Choice} {w w' : World} {d : Ask} (h : Billed w.db)
    (hl : Ledger w.db) (hk : Knows w d) (hg : ch.fails = false → Closes w.db d)
    (hp : Posted ch w w' d) : Billed w'.db := by
  cases hp with
  | kept hb => exact h.same hb
  | inserted ctx o metas _ _ hins =>
      obtain ⟨hdb, hnone⟩ := insertOrder_eq hins
      rw [hdb]
      intro o' row hrow
      simp only [Db.findOrder, RowTable.lookup_append] at hrow
      cases hold : RowTable.lookup Order.id o' w.db.orders with
      | some old =>
          rw [hold, Option.some_or] at hrow
          cases hrow
          exact h o' row hold
      | none =>
          rw [hold, Option.none_or] at hrow
          split at hrow
          · cases hrow
            -- no payment belongs to an order that was not there
            have hempty : rowsOf o' w.db.payments = [] := by
              refine List.filter_eq_nil_iff.mpr ?_
              intro p hp ho
              have howned := hl.owned p hp
              rw [of_decide_eq_true ho, Db.findOrder, hold] at howned
              cases howned
            show Lifecycle .pendingPayment (rowsOf o' w.db.payments)
            rw [hempty]
            exact ⟨fun _ => rfl, fun hs => absurd rfl hs, fun hs => by cases hs⟩
          · cases hrow
  | deleted o _ _ hdel =>
      obtain ⟨hdb, -⟩ := deleteOrder_eq hdel
      rw [hdb]
      intro o' row hrow
      refine h o' row ?_
      by_cases heq : o' = o
      · subst heq
        rw [Db.findOrder, RowTable.lookup_remove_self] at hrow
        cases hrow
      · rw [Db.findOrder, RowTable.lookup_remove_ne heq] at hrow
        exact hrow
  | set o s hf hd hset hpay =>
      intro o' row hrow
      rw [hpay]
      by_cases heq : o = o'
      · subst heq
        obtain ⟨old, new, hold, hnew, -, hstatus⟩ := hset.find_self
        rw [hrow] at hnew
        cases hnew
        have hpending : Stands w.db o .pendingPayment := hk _ (found_of_sets hd)
        have hbefore := h o old hold
        rw [hpending.status hold] at hbefore
        rw [hstatus]
        exact lifecycle_own hd hl.single (hg hf) hbefore
      · rw [rowsOf_books_other hd (hg hf) heq]
        rw [hset.find_ne (Ne.symm heq)] at hrow
        exact h o' row hrow
  | noted hf hd horders hpay =>
      intro o' row hrow
      rw [hpay]
      refine h.noted hk hd (hg hf) ?_
      simpa only [Db.findOrder, horders] using hrow

/-- **The payment lifecycle**, in every run of operations that do not overlap in which only
    the FAILED webhook settles an order with an INITIATED row, SUCCESS webhooks of pending
    orders find no other order's row under their id, and TIMEOUT webhooks no payment of a
    PAID order: an order that has left PENDING_PAYMENT has no INITIATED row, and a PAID order
    exactly one SUCCESS row. -/
theorem payments_settled {p q : State} (hp : Opening p)
    (hpq : backend.Run (oneAtATime Closes) p q) (o : OrderId) (row : Order)
    (hrow : q.world.db.findOrder o = some row) :
    (row.status ≠ .pendingPayment → NoneOpen (rowsOf o q.world.db.payments)) ∧
      (row.status = .paid → successes (rowsOf o q.world.db.payments) = 1) := by
  have hbilled : Billed p.world.db := by
    intro o row hrow
    rw [Db.findOrder, hp.orders_nil] at hrow
    cases hrow
  have hq : OneByOne (fun w => Ledger w.db ∧ Billed w.db) Knows q := by
    refine hpq.inv (fun _ _ h hs => ?_) (hp.oneByOne (I := fun db => Ledger db ∧ Billed db)
      ⟨hp.ledger, hbilled⟩)
    refine oneByOne_step (I := fun db => Ledger db ∧ Billed db) ?_ ?_ h hs
    · rintro db db' hb ⟨hl, hbl⟩
      exact ⟨hl.same hb, hbl.same hb⟩
    · rintro ch w w' d ⟨hl, hbl⟩ hk hg hposted
      exact ⟨hl.posted hk hposted, hbl.posted hl hk hg hposted⟩
  have hlife := hq.good.2 o row hrow
  exact ⟨hlife.closed, hlife.paid⟩

/-! ### One order refused, one order paid -/

/-- Row by row. -/
instance (rows : List PaymentTransaction) : Decidable (NoneOpen rows) :=
  inferInstanceAs (Decidable (∀ p ∈ rows, _))

/-- The rows of the orders that a call settles are looked at. -/
instance (db : Db) (d : Ask) : Decidable (Closes db d) :=
  inferInstanceAs (Decidable ((∀ o ∈ Ask.leavesOpen d, _) ∧ UsesOnce db d))

/-- A FAILED webhook for an order of one ticket. -/
def refused (o : OrderId) : MockWebhookDto := { paid o with result := .failed }

/-- The first order is refused by the gateway's webhook; the second one gets no payment URL,
    as the gateway does not answer, and is paid all the same. -/
def refusedAndPaid : List Move :=
  .start (.createOrder (oneTicket 1) 5) :: steps 0 18
    ++ .start (.webhook (refused 1)) :: steps 1 5
    ++ .start (.createOrder (oneTicket 1) 6) :: steps 2 13
    ++ .step 2 0 { fails := true } :: steps 2 6
    ++ .start (.webhook (paid 2)) :: steps 3 5

/-- The refused order has no INITIATED row, the paid one its SUCCESS row. -/
theorem payments_settled_refusedAndPaid :
    ∃ q, backend.Run (oneAtATime Closes) (shop [onSale 1 2 1]) q ∧
      q.world.db.orders.map Order.status = [.paymentFailed, .paid] ∧
      ∀ o row, q.world.db.findOrder o = some row →
        (row.status ≠ .pendingPayment → NoneOpen (rowsOf o q.world.db.payments)) ∧
          (row.status = .paid → successes (rowsOf o q.world.db.payments) = 1) := by
  obtain ⟨q, hrun, hstatus⟩ : ∃ q, backend.Run (oneAtATime Closes) (shop [onSale 1 2 1]) q ∧
      q.world.db.orders.map Order.status = [.paymentFailed, .paid] :=
    exists_run refusedAndPaid _ (by decide +kernel)
  exact ⟨q, hrun, hstatus, payments_settled (shop_opening (by simp)) hrun⟩

/-! ## A paid order whose payment is still INITIATED -/

/-- A customer orders and the gateway reports the payment: the row of the payment URL stays
    as it was, as the webhook's upsert looks for its own transaction id only. -/
theorem payments_not_settled_paid :
    ¬ ∀ (p q : State) (o : OrderId) (row : Order), Opening p →
      backend.Run (oneAtATime fun _ _ => True) p q → q.Idle →
      q.world.db.findOrder o = some row →
      (row.status ≠ .pendingPayment → NoneOpen (rowsOf o q.world.db.payments)) ∧
        (row.status = .paid → successes (rowsOf o q.world.db.payments) = 1) := by
  intro h
  obtain ⟨q, hrun, hidle, hpaid, hopen⟩ :
      ∃ q, backend.Run (oneAtATime fun _ _ => True) (shop [onSale 1 1 1]) q ∧
        q.Idle ∧ Stands q.world.db 1 .paid ∧ ¬ NoneOpen (rowsOf 1 q.world.db.payments) :=
    exists_run (.start (.createOrder (oneTicket 1) 5) :: steps 0 18
      ++ .start (.webhook (paid 1)) :: steps 1 5) _ (by decide +kernel)
  obtain ⟨row, hrow, hstatus⟩ := hpaid
  refine hopen ((h _ q 1 row (shop_opening (by simp)) hrun hidle hrow).1 ?_)
  rw [hstatus]
  decide

end TicketBackend
