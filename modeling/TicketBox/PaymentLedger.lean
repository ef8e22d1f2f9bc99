import TicketBox.PaymentEffects

/-! # The payment rows as a ledger

    Operations run one after the other, each to its end (`oneAtATime`).  The unique
    index keeps one row for each provider transaction, every row belongs to an
    order (`Ledger`), and a payment on record stays on record (`OnRecord`) unless a
    TIMEOUT webhook comes under its id. -/

namespace TicketBackend

open Interleave TicketStore TicketRedis TicketDb TicketFlow TicketOrder TicketPayment
  TicketServices

/-! ## Runs in which no two operations overlap -/

/-- Requests wait until no operation is under way; a call that goes through meets `Q`. -/
def oneAtATime (Q : Db → Ask → Prop) : Condition where
  req p _ := p.Idle
  ask p ch d := ch.fails = false → Q p.world.db d
  task _ _ _ := True
  env _ _ := True

section

variable (Q : Db → Ask → Prop) [∀ db d, Decidable (Q db d)]

/-- A run can be checked for this, step by step. -/
instance (p : State) (r : Request) : Decidable ((oneAtATime Q).req p r) :=
  inferInstanceAs (Decidable p.Idle)
instance (p : State) (ch : Choice) (d : Ask) : Decidable ((oneAtATime Q).ask p ch d) :=
  inferInstanceAs (Decidable (ch.fails = false → Q p.world.db d))
instance (p : State) (ch : Choice) (t : Task) : Decidable ((oneAtATime Q).task p ch t) :=
  inferInstanceAs (Decidable True)
instance (p : State) (ms : Nat) : Decidable ((oneAtATime Q).env p ms) :=
  inferInstanceAs (Decidable True)

end

/-- **The rule for sequential runs.**  A property of orders and payments that every call
    keeps which knows its order and meets `Q`. -/
theorem oneByOne_step {I : Db → Prop} {Q : Db → Ask → Prop} {p q : State}
    (hsame : ∀ db db', SameBooks db db' → I db → I db')
    (hask : ∀ ch w w' d, I w.db → Knows w d → (ch.fails = false → Q w.db d) →
      Posted ch w w' d → I w'.db)
    (h : OneByOne (fun w => I w.db) Knows p) (hs : backend.Step (oneAtATime Q) p q) :
    OneByOne (fun w => I w.db) Knows q := by
  refine h.step hs ?_ ?_ ?_ ?_
  · intro r prog hidle _ he
    exact ⟨hidle, opKnows_enter he⟩
  · intro ch d w' prog hI hd hg hdec
    exact ⟨hask ch _ _ d hI hd hg (dispatch_posted hdec), dispatch_knows hdec hd⟩
  · intro ch t w' res hI _ hperf
    have hbooks := performed_books (perform_performed hperf)
    exact ⟨hsame _ _ hbooks hI, fun d => Knows.of_orders hbooks.1⟩
  · intro ms hI _
    exact ⟨hI, fun d => id⟩

/-- Before the sale nothing runs. -/
theorem Opening.oneByOne {I : Db → Prop} {p : State} (h : Opening p) (hI : I p.world.db) :
    OneByOne (fun w => I w.db) Knows p := by
  refine .of_idle ?_ hI
  intro prog hmem
  rw [h.ops_nil] at hmem
  cases hmem

/-! ## The shape of a rewrite -/

/-- Rows rewritten in place, or one row of order `o` more, under a provider transaction id
    that no row has. -/
inductive Reshaped (o : OrderId) (payments : List PaymentTransaction) :
    List PaymentTransaction → Prop where
  | mapped (f : PaymentTransaction → PaymentTransaction) :
      (∀ p, (f p).orderId = p.orderId ∧
        (f p).providerTransactionId = p.providerTransactionId) →
      Reshaped o payments (payments.map f)
  | added (row : PaymentTransaction) : row.orderId = o →
      (∀ x, row.providerTransactionId = some x →
        ∀ p ∈ payments, p.providerTransactionId ≠ some x) →
      Reshaped o payments (payments ++ [row])

/-- Nothing is written. -/
theorem Reshaped.refl (o : OrderId) (payments : List PaymentTransaction) :
    Reshaped o payments payments := by
  have h : Reshaped o payments (payments.map id) := .mapped id fun _ => ⟨rfl, rfl⟩
  rwa [List.map_id] at h

/-- A new payment of the order. -/
theorem withPayment_reshaped (o : OrderId) (s : PaymentStatus) (a : Int) (url : Option String)
    (payments : List PaymentTransaction) :
    Reshaped o payments (withPayment o s a none url payments) := by
  refine .added _ rfl ?_
  intro x hx
  cases hx

/-- An upsert by the gateway's id. -/
theorem upsertedPayments_reshaped (dto : MockWebhookDto) (create : PaymentStatus)
    (update : Option PaymentStatus) (payments : List PaymentTransaction) :
    Reshaped dto.orderId payments (upsertedPayments dto create update payments) := by
  simp only [upsertedPayments]
  split
  · refine .mapped _ ?_
    intro p
    split <;> exact ⟨rfl, rfl⟩
  · next hnone =>
    refine .added _ rfl ?_
    intro x hx p hp hpx
    simp only [Option.some.injEq] at hx
    refine hnone (List.any_eq_true.mpr ⟨p, hp, ?_⟩)
    rw [hx]
    exact decide_eq_true hpx

/-- The open payments marked. -/
theorem refusedPayments_reshaped (o : OrderId) (payments : List PaymentTransaction) :
    Reshaped o payments (refusedPayments o payments) := by
  refine .mapped _ ?_
  intro p
  split <;> exact ⟨rfl, rfl⟩

/-- The url written. -/
theorem urlPayments_reshaped (o : OrderId) (amount : Int) (existing : Option PaymentTransaction)
    (url : String) (payments : List PaymentTransaction) :
    Reshaped o payments (urlPayments o amount existing url payments) := by
  cases existing with
  | none => exact withPayment_reshaped ..
  | some p =>
      refine .mapped _ ?_
      intro r
      split <;> exact ⟨rfl, rfl⟩

/-- A call that books something knows for which order. -/
theorem books_reshaped (d : Ask) (payments : List PaymentTransaction) :
    Ask.books d payments = payments ∨
      ∃ o s, Ask.found d = some (o, s) ∧ Reshaped o payments (Ask.books d payments) := by
  cases d with
  | savePaymentUrl caller o amount existing url =>
      exact .inr ⟨_, _, rfl, urlPayments_reshaped ..⟩
  | recordLateWebhook dto message => exact .inr ⟨_, _, rfl, upsertedPayments_reshaped ..⟩
  | handlePaymentTimeout dto => exact .inr ⟨_, _, rfl, upsertedPayments_reshaped ..⟩
  | failedCommit order => exact .inr ⟨_, _, rfl, refusedPayments_reshaped ..⟩
  | successCommit dto order gateName => exact .inr ⟨_, _, rfl, upsertedPayments_reshaped ..⟩
  | cronPaidCommit order rest => exact .inr ⟨_, _, rfl, withPayment_reshaped ..⟩
  | cronExpireCommit order res rest => exact .inr ⟨_, _, rfl, withPayment_reshaped ..⟩
  | _ => exact .inl rfl

/-- A status is written to the order the call found. -/
theorem found_of_sets {d : Ask} {o : OrderId} {s : OrderStatus} (h : Ask.sets d = some (o, s)) :
    Ask.found d = some (o, .pendingPayment) := by
  unfold Ask.sets at h
  split at h <;> cases h <;> rfl

/-! ## One row for each transaction, one order for each row -/

/-- No provider transaction has two rows. -/
def Single (payments : List PaymentTransaction) : Prop :=
  ∀ x, (payments.countP fun p => p.providerTransactionId = some x) ≤ 1

/-- An id of the gateway stays on one row. -/
theorem Reshaped.single {o : OrderId} {payments payments' : List PaymentTransaction}
    (h : Reshaped o payments payments') (hs : Single payments) : Single payments' := by
  intro x
  cases h with
  | mapped f hf =>
      rw [List.countP_map]
      refine le_trans (le_of_eq (List.countP_congr ?_)) (hs x)
      intro p _
      simp only [Function.comp_apply, (hf p).2]
  | added row _ hnew =>
      rw [List.countP_append, List.countP_singleton]
      split
      · next hx =>
        have hnone := List.countP_eq_zero.mpr fun p hp hpx =>
          hnew x (of_decide_eq_true hx) p hp (of_decide_eq_true hpx)
        rw [hnone]
      · exact hs x

/-- Each row is of an order that had one, or of the call's. -/
theorem Reshaped.owner {o : OrderId} {payments payments' : List PaymentTransaction}
    (h : Reshaped o payments payments') {p : PaymentTransaction} (hp : p ∈ payments') :
    p.orderId = o ∨ ∃ p₀ ∈ payments, p₀.orderId = p.orderId := by
  cases h with
  | mapped f hf =>
      obtain ⟨p₀, hp₀, rfl⟩ := List.mem_map.mp hp
      exact .inr ⟨p₀, hp₀, (hf p₀).1.symm⟩
  | added row hrow _ =>
      rcases List.mem_append.mp hp with hp | hp
      · exact .inr ⟨p, hp, rfl⟩
      · rw [List.mem_singleton.mp hp]
        exact .inl hrow

/-- What the keys of the two tables guarantee. -/
structure Ledger (db : Db) : Prop where
  keyed : RowTable.Keyed Order.id db.orders
  owned : ∀ p ∈ db.payments, (db.findOrder p.orderId).isSome
  single : Single db.payments

/-- The ledger depends on the books. -/
theorem Ledger.same {db db' : Db} (hb : SameBooks db db') (h : Ledger db) : Ledger db' where
  keyed := by
    rw [hb.1]
    exact h.keyed
  owned := by
    intro p hp
    rw [hb.2] at hp
    simpa only [Db.findOrder, hb.1] using h.owned p hp
  single := by
    rw [hb.2]
    exact h.single

/-- It stays in order when payments are rewritten by a settling. -/
theorem Ledger.rewritten {db db' : Db} {d : Ask} (h : Ledger db)
    (hkeyed : RowTable.Keyed Order.id db'.orders)
    (hkept : ∀ o, (db.findOrder o).isSome → (db'.findOrder o).isSome)
    (hknows : ∀ x ∈ Ask.found d, Stands db x.1 x.2)
    (hbooks : db'.payments = Ask.books d db.payments) : Ledger db' := by
  rcases books_reshaped d db.payments with hsame | ⟨o, s, hd, hre⟩
  · rw [hsame] at hbooks
    refine ⟨hkeyed, ?_, by rw [hbooks]; exact h.single⟩
    intro p hp
    rw [hbooks] at hp
    exact hkept _ (h.owned p hp)
  · rw [← hbooks] at hre
    refine ⟨hkeyed, ?_, hre.single h.single⟩
    intro p hp
    apply hkept
    rcases hre.owner hp with ho | ⟨p₀, hp₀, ho⟩
    · obtain ⟨row, hrow, -⟩ := hknows (o, s) hd
      rw [ho, hrow]
      rfl
    · rw [← ho]
      exact h.owned p₀ hp₀

/-- The foreign key keeps an order with a payment from being deleted. -/
theorem deleteOrder_unpaid {o : OrderId} {db db' : Db} (h : TicketDb.deleteOrder o db = .ok db') :
    ∀ p ∈ db.payments, p.orderId ≠ o := by
  simp only [TicketDb.deleteOrder] at h
  split at h
  · cases h
  · split at h
    · cases h
    · next hfree =>
      intro p hp ho
      exact hfree (.inr (.inl ⟨p, hp, ho⟩))

/-- It stays in order when a call is carried out. -/
theorem Ledger.posted {ch : Choice} {w w' : World} {d : Ask} (h : Ledger w.db) (hk : Knows w d)
    (hp : Posted ch w w' d) : Ledger w'.db := by
  cases hp with
  | kept hb => exact h.same hb
  | inserted ctx o metas _ _ hins =>
      obtain ⟨hdb, hnone⟩ := insertOrder_eq hins
      rw [hdb]
      refine ⟨h.keyed.append hnone, ?_, h.single⟩
      intro p hp
      obtain ⟨row, hrow⟩ := Option.isSome_iff_exists.mp (h.owned p hp)
      simp only [Db.findOrder] at hrow
      simp only [Db.findOrder, RowTable.lookup_append, hrow, Option.some_or, Option.isSome_some]
  | deleted o _ _ hdel =>
      obtain ⟨hdb, -⟩ := deleteOrder_eq hdel
      have hfree := deleteOrder_unpaid hdel
      rw [hdb]
      refine ⟨h.keyed.remove, ?_, h.single⟩
      intro p hp
      have hlook : RowTable.lookup Order.id p.orderId (RowTable.remove Order.id o w.db.orders)
          = RowTable.lookup Order.id p.orderId w.db.orders :=
        RowTable.lookup_remove_ne (hfree p hp)
      simp only [Db.findOrder, hlook]
      exact h.owned p hp
  | set o s _ hd hset hbooks =>
      refine h.rewritten (hset.keyed h.keyed) ?_ hk hbooks
      intro o' ho'
      by_cases heq : o' = o
      · subst heq
        obtain ⟨-, row', -, hrow', -⟩ := hset.find_self
        rw [hrow']
        rfl
      · rw [hset.find_ne heq]
        exact ho'
  | noted _ _ horders hbooks =>
      refine h.rewritten (by rw [horders]; exact h.keyed) ?_ hk hbooks
      intro o' ho'
      simpa only [Db.findOrder, horders] using ho'

/-- At the start it is empty. -/
theorem Opening.ledger {p : State} (h : Opening p) : Ledger p.world.db where
  keyed := h.sound.keyed
  owned := by
    intro r hr
    rw [h.payments_nil] at hr
    cases hr
  single := by
    intro x
    rw [h.payments_nil]
    exact Nat.zero_le 1

/-! ## A payment on record -/

/-- The transaction `x` is on record as a successful payment of the order. -/
def Recorded (x : ProviderTransactionId) (o : OrderId) (payments : List PaymentTransaction) : Prop :=
  ∃ p ∈ payments, p.providerTransactionId = some x ∧ p.orderId = o ∧ p.status = .success

/-- The payments are searched for the transaction. -/
instance (x : ProviderTransactionId) (o : OrderId) (payments : List PaymentTransaction) :
    Decidable (Recorded x o payments) :=
  inferInstanceAs (Decidable (∃ p ∈ payments, _))

/-- A rewrite in place that keeps the statuses of the rows of `x`. -/
theorem Recorded.map {x : ProviderTransactionId} {o : OrderId}
    {payments : List PaymentTransaction} {f : PaymentTransaction → PaymentTransaction}
    (h : Recorded x o payments)
    (hf : ∀ p, (f p).orderId = p.orderId ∧ (f p).providerTransactionId = p.providerTransactionId)
    (hs : ∀ p, p.providerTransactionId = some x → p.status = .success → (f p).status = .success) :
    Recorded x o (payments.map f) := by
  obtain ⟨p, hp, hx, ho, hsuccess⟩ := h
  refine ⟨f p, List.mem_map_of_mem hp, ?_, ?_, hs p hx hsuccess⟩
  · rw [(hf p).2]
    exact hx
  · rw [(hf p).1]
    exact ho

/-- What is recorded stays so with one more row. -/
theorem Recorded.append {x : ProviderTransactionId} {o : OrderId}
    {payments : List PaymentTransaction} (h : Recorded x o payments) (row : PaymentTransaction) :
    Recorded x o (payments ++ [row]) := by
  obtain ⟨p, hp, hrow⟩ := h
  exact ⟨p, List.mem_append_left _ hp, hrow⟩

/-- An upsert under another id, or one that writes SUCCESS if anything. -/
theorem Recorded.upserted {x : ProviderTransactionId} {o : OrderId}
    {payments : List PaymentTransaction} (h : Recorded x o payments) {dto : MockWebhookDto}
    {create : PaymentStatus} {update : Option PaymentStatus}
    (hup : dto.providerTransactionId = x → update.getD .success = .success) :
    Recorded x o (upsertedPayments dto create update payments) := by
  simp only [upsertedPayments]
  split
  · refine h.map ?_ ?_
    · intro p
      split <;> exact ⟨rfl, rfl⟩
    · intro p hx hsuccess
      split
      · next hdto =>
        have hid : dto.providerTransactionId = x := by
          rw [hx] at hdto
          exact (Option.some.inj hdto).symm
        show update.getD p.status = .success
        rw [hsuccess]
        exact hup hid
      · exact hsuccess
  · exact h.append _

/-- The TIMEOUT webhook whose row a call is about to write. -/
def Ask.timesOut : Ask → Option MockWebhookDto
  | .handlePaymentTimeout dto => some dto
  | _ => none

/-- Only a TIMEOUT under its id takes a payment off the record. -/
theorem Recorded.books {x : ProviderTransactionId} {o : OrderId}
    {payments : List PaymentTransaction} (h : Recorded x o payments) {d : Ask}
    (hd : ∀ dto ∈ Ask.timesOut d, dto.providerTransactionId ≠ x) :
    Recorded x o (Ask.books d payments) := by
  cases d with
  | savePaymentUrl caller o' amount existing url =>
      cases existing with
      | none => exact h.append _
      | some r =>
          refine h.map ?_ ?_
          · intro p
            split <;> exact ⟨rfl, rfl⟩
          · intro p _ hsuccess
            split <;> exact hsuccess
  | recordLateWebhook dto message => exact h.upserted fun _ => rfl
  | handlePaymentTimeout dto => exact h.upserted fun hid => absurd hid (hd dto rfl)
  | failedCommit order =>
      refine h.map ?_ ?_
      · intro p
        split <;> exact ⟨rfl, rfl⟩
      · intro p _ hsuccess
        split
        · next hopen =>
          rw [hsuccess] at hopen
          cases hopen.2
        · exact hsuccess
  | successCommit dto order gateName => exact h.upserted fun _ => rfl
  | cronPaidCommit order rest => exact h.append _
  | cronExpireCommit order res rest => exact h.append _
  | _ => exact h

/-- An order that is settled and has a payment stays settled: calls write what they know
    to be pending, and the foreign key keeps its row. -/
theorem Stands.posted {ch : Choice} {w w' : World} {d : Ask} {o : OrderId} {s : OrderStatus}
    (h : Stands w.db o s) (hs : s ≠ .pendingPayment) (hpaid : ∃ p ∈ w.db.payments, p.orderId = o)
    (hk : Knows w d) (hp : Posted ch w w' d) : Stands w'.db o s := by
  cases hp with
  | kept hb => exact h.of_orders hb.1
  | inserted ctx o' metas _ _ hins =>
      obtain ⟨hdb, -⟩ := insertOrder_eq hins
      obtain ⟨row, hrow, hstatus⟩ := h
      refine ⟨row, ?_, hstatus⟩
      simp only [Db.findOrder] at hrow
      rw [hdb, Db.findOrder, RowTable.lookup_append, hrow]
      rfl
  | deleted o' _ _ hdel =>
      obtain ⟨hdb, -⟩ := deleteOrder_eq hdel
      obtain ⟨p, hp, ho⟩ := hpaid
      have hne : o ≠ o' := by
        rw [← ho]
        exact deleteOrder_unpaid hdel p hp
      obtain ⟨row, hrow, hstatus⟩ := h
      refine ⟨row, ?_, hstatus⟩
      rw [hdb, Db.findOrder, RowTable.lookup_remove_ne hne]
      exact hrow
  | set o' s' _ hd hset _ =>
      obtain ⟨row, hrow, hstatus⟩ := h
      have hne : o ≠ o' := by
        rintro rfl
        have hpending : Stands w.db o .pendingPayment := hk _ (found_of_sets hd)
        rw [← hstatus, hpending.status hrow] at hs
        exact hs rfl
      exact ⟨row, by rw [hset.find_ne hne]; exact hrow, hstatus⟩
  | noted _ _ horders _ => exact h.of_orders horders

/-- No row under the webhook's transaction id is the successful payment of an order with
    status `s`. -/
def Spares (s : OrderStatus) (dto : MockWebhookDto) (db : Db) : Prop :=
  ∀ p ∈ db.payments, p.providerTransactionId = some dto.providerTransactionId →
    p.status = .success → ¬ Stands db p.orderId s

/-- The rows that the upsert may hit are looked at. -/
instance (s : OrderStatus) (dto : MockWebhookDto) (db : Db) : Decidable (Spares s dto db) :=
  inferInstanceAs (Decidable (∀ p ∈ db.payments, _))

/-- The order has status `s` and its payment through `x` is on record. -/
structure OnRecord (x : ProviderTransactionId) (o : OrderId) (s : OrderStatus) (db : Db) : Prop where
  stands : Stands db o s
  recorded : Recorded x o db.payments

/-- What is on record depends on the books. -/
theorem OnRecord.same {db db' : Db} (hb : SameBooks db db') {x : ProviderTransactionId}
    {o : OrderId} {s : OrderStatus} (h : OnRecord x o s db) : OnRecord x o s db' where
  stands := h.stands.of_orders hb.1
  recorded := by
    rw [hb.2]
    exact h.recorded

/-- **A payment on record stays on record** as long as TIMEOUT webhooks spare it. -/
theorem OnRecord.posted {ch : Choice} {w w' : World} {d : Ask} {x : ProviderTransactionId}
    {o : OrderId} {s : OrderStatus} (h : OnRecord x o s w.db) (hs : s ≠ .pendingPayment)
    (hk : Knows w d)
    (hspares : ch.fails = false → ∀ dto ∈ Ask.timesOut d, Spares s dto w.db)
    (hp : Posted ch w w' d) : OnRecord x o s w'.db := by
  obtain ⟨p, hmem, hx, ho, hsuccess⟩ := h.recorded
  have hstands := h.stands.posted hs ⟨p, hmem, ho⟩ hk hp
  have hbooks : ch.fails = false → Recorded x o (Ask.books d w.db.payments) := by
    intro hf
    refine h.recorded.books ?_
    rintro dto hd rfl
    exact hspares hf dto hd p hmem hx hsuccess (by rw [ho]; exact h.stands)
  refine ⟨hstands, ?_⟩
  cases hp with
  | kept hb =>
      rw [hb.2]
      exact h.recorded
  | inserted ctx o' metas _ _ hins =>
      obtain ⟨hdb, -⟩ := insertOrder_eq hins
      rw [hdb]
      exact h.recorded
  | deleted o' _ _ hdel =>
      obtain ⟨hdb, -⟩ := deleteOrder_eq hdel
      rw [hdb]
      exact h.recorded
  | set o' s' hf _ _ hpay =>
      rw [hpay]
      exact hbooks hf
  | noted hf _ _ hpay =>
      rw [hpay]
      exact hbooks hf

end TicketBackend
