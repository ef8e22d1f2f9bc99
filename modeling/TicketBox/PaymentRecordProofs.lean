import TicketBox.PaymentLedger

/-! # What a SUCCESS webhook puts on record

    The row a webhook writes depends on the row it finds under its provider
    transaction id.  A late SUCCESS webhook leaves the status of such a row alone,
    and a SUCCESS webhook of a pending order takes over a row of another order. -/

namespace TicketBackend

open Interleave TicketStore TicketRedis TicketDb TicketFlow TicketOrder TicketPayment
  TicketServices

/-! ## Late payments -/

/-- What the upsert of a late SUCCESS webhook finds under its id: nothing, or the
    successful payment of its own order. -/
def FindsItself (dto : MockWebhookDto) (db : Db) : Prop :=
  ∀ p ∈ db.payments, p.providerTransactionId = some dto.providerTransactionId →
    p.orderId = dto.orderId ∧ p.status = .success

/-- The late webhook that a call is about to record. -/
def Ask.recordsLate : Ask → Option MockWebhookDto
  | .recordLateWebhook dto _ => some dto
  | _ => none

/-- Late SUCCESS webhooks find no other row under their id, TIMEOUT webhooks no late
    payment. -/
def KeepsLate (db : Db) (d : Ask) : Prop :=
  (∀ dto ∈ Ask.recordsLate d, dto.result = .success → FindsItself dto db) ∧
    ∀ dto ∈ Ask.timesOut d, Spares .expired dto db

/-- A late SUCCESS webhook that finds nothing else puts its payment on record. -/
theorem recorded_late {dto : MockWebhookDto} {m : String} {payments : List PaymentTransaction}
    (hresult : dto.result = .success)
    (hfind : ∀ p ∈ payments, p.providerTransactionId = some dto.providerTransactionId →
      p.orderId = dto.orderId ∧ p.status = .success) :
    Recorded dto.providerTransactionId dto.orderId
      (Ask.books (.recordLateWebhook dto m) payments) := by
  show Recorded _ _ (upsertedPayments dto (lateStatus dto.result) none payments)
  by_cases hany : payments.any (fun p =>
      p.providerTransactionId = some dto.providerTransactionId) = true
  · obtain ⟨p, hp, hx⟩ := List.any_eq_true.mp hany
    have hx' : p.providerTransactionId = some dto.providerTransactionId := of_decide_eq_true hx
    obtain ⟨ho, hsuccess⟩ := hfind p hp hx'
    have hrec : Recorded dto.providerTransactionId dto.orderId payments :=
      ⟨p, hp, hx', ho, hsuccess⟩
    exact hrec.upserted fun _ => rfl
  · rw [upsertedPayments, if_neg hany, hresult]
    exact ⟨_, List.mem_append_right _ List.mem_cons_self, rfl, rfl, rfl⟩

/-- Where a SUCCESS webhook stands that came for an EXPIRED order. -/
inductive Late (dto : MockWebhookDto) (w : World) : Op → Prop where
  | received : Stands w.db dto.orderId .expired → Late dto w (.ask (.handleMockWebhook dto))
  | recording (message : String) : Stands w.db dto.orderId .expired →
      Late dto w (.ask (.recordLateWebhook dto message))
  | refused (e : ApiError) : Late dto w (.ret (.error e))
  | acknowledged (message : String) (s : Option OrderStatus) :
      OnRecord dto.providerTransactionId dto.orderId .expired w.db →
      Late dto w (.ret (.webhook message s))

/-- A late payment depends on the books. -/
theorem Late.same {dto : MockWebhookDto} {w w' : World} {prog : Op} (h : Late dto w prog)
    (hb : SameBooks w.db w'.db) : Late dto w' prog := by
  cases h with
  | received hs => exact .received (hs.of_orders hb.1)
  | recording message hs => exact .recording message (hs.of_orders hb.1)
  | refused e => exact .refused e
  | acknowledged message s hr => exact .acknowledged message s (hr.same hb)

/-- The webhook's own calls: the check finds the order expired, the upsert records. -/
theorem Late.asked {dto : MockWebhookDto} {ch : Choice} {w w' : World} {d : Ask} {prog : Op}
    (h : Late dto w (.ask d)) (hresult : dto.result = .success)
    (hg : ch.fails = false → KeepsLate w.db d) (hdec : dispatch ch w d = some (w', prog)) :
    Late dto w' prog := by
  cases h with
  | received hs =>
      simp only [dispatch, reads, Option.some.injEq, Prod.mk.injEq] at hdec
      obtain ⟨rfl, rfl⟩ := hdec
      obtain ⟨order, horder, hstatus⟩ := hs
      split
      · exact .refused _
      · simp only [TicketPayment.handleMockWebhook, horder, hstatus]
        split
        · exact .refused _
        · split
          · exact .refused _
          · exact .recording _ ⟨order, horder, hstatus⟩
  | recording message hs =>
      simp only [dispatch, TicketPayment.recordLateWebhook, Option.some.injEq] at hdec
      split at hdec
      · cases hdec
        exact .refused _
      · next db hdb =>
        cases hdec
        obtain ⟨hf, hdb⟩ := by simpa using hdb
        obtain rfl := upsertPayment_books hdb
        refine .acknowledged _ _ ⟨hs.of_orders rfl, ?_⟩
        exact recorded_late (m := message) hresult ((hg hf).1 dto rfl hresult)

/-- The webhook has been answered with a success. -/
def acknowledged : Op → Bool
  | .ret (.webhook _ _) => true
  | _ => false

/-- What holds along a run in which a late SUCCESS webhook is operation `i`. -/
structure LateRun (dto : MockWebhookDto) (i : Nat) (p : State) : Prop where
  runs : OneByOne (fun w => Ledger w.db) Knows p
  late : ∃ prog, p.ops[i]? = some prog ∧ Late dto p.world prog

/-- Every step keeps the ledger in order. -/
theorem ledger_step {Q : Db → Ask → Prop} {p q : State}
    (h : OneByOne (fun w => Ledger w.db) Knows p) (hs : backend.Step (oneAtATime Q) p q) :
    OneByOne (fun w => Ledger w.db) Knows q :=
  oneByOne_step (fun _ _ hb hl => hl.same hb) (fun _ _ _ _ hl hk _ hp => hl.posted hk hp) h hs

/-- Every step keeps the late payment on its way, or recorded. -/
theorem LateRun.step {dto : MockWebhookDto} {i : Nat} {p q : State} (h : LateRun dto i p)
    (hresult : dto.result = .success) (hs : backend.Step (oneAtATime KeepsLate) p q) :
    LateRun dto i q := by
  refine ⟨ledger_step h.runs hs, ?_⟩
  refine h.runs.follow (P := Late dto) hs h.late ?_ ?_ ?_ ?_ ?_
  · intro w ts hh rest hlate
    cases hlate
  · intro ch d w' prog hlate _ hg hdec
    exact hlate.asked hresult hg hdec
  · intro ch d w' prog r hlate hk hg hdec
    cases hlate with
    | refused e => exact .refused e
    | acknowledged message s hr =>
        refine .acknowledged message s ?_
        exact hr.posted (by decide) hk (fun hf => (hg hf).2) (dispatch_posted hdec)
  · intro ch t w' res prog hlate _ hperf
    exact hlate.same (performed_books (perform_performed hperf))
  · intro ms prog hlate _
    exact hlate.same (.refl _)

/-- **An acknowledged late payment is on record, and stays there**, in every run of
    operations that do not overlap, provided that late SUCCESS webhooks find under their
    provider transaction id nothing but their own order's successful payment, and TIMEOUT
    webhooks no late payment. -/
theorem late_payment_recorded {p q q' r : State} (hp : Opening p)
    (hpq : backend.Run (oneAtATime KeepsLate) p q) {dto : MockWebhookDto}
    (hresult : dto.result = .success) (hexpired : Stands q.world.db dto.orderId .expired)
    (hidle : q.Idle) (harrives : backend.next q (.start (.webhook dto)) = some q')
    (hqr : backend.Run (oneAtATime KeepsLate) q' r)
    (hack : r.ops[q.ops.length]?.any acknowledged = true) :
    Recorded dto.providerTransactionId dto.orderId r.world.db.payments := by
  have hq : OneByOne (fun w => Ledger w.db) Knows q :=
    hpq.inv (fun _ _ => ledger_step) (hp.oneByOne hp.ledger)
  have hstart : LateRun dto q.ops.length q' := by
    have hok : (oneAtATime KeepsLate).ok q (.start (.webhook dto)) := hidle
    refine ⟨ledger_step hq (step_of_next hok harrives), ?_⟩
    cases harrives
    exact ⟨_, List.getElem?_concat_length, .received hexpired⟩
  have hr := hqr.inv (fun _ _ h => LateRun.step h hresult) hstart
  obtain ⟨prog, hprog, hlate⟩ := hr.late
  rw [hprog, Option.any_some] at hack
  cases hlate with
  | received _ => cases hack
  | recording _ _ => cases hack
  | refused _ => cases hack
  | acknowledged _ _ hrecord => exact hrecord.recorded

/-! ### A late payment -/

/-- The payments are searched for the transaction. -/
instance (dto : MockWebhookDto) (db : Db) : Decidable (FindsItself dto db) :=
  inferInstanceAs (Decidable (∀ p ∈ db.payments, _))

/-- A run can be checked for its late webhooks. -/
instance (db : Db) (d : Ask) : Decidable (KeepsLate db d) :=
  inferInstanceAs (Decidable ((∀ dto ∈ Ask.recordsLate d, _) ∧ ∀ dto ∈ Ask.timesOut d, _))

/-- A customer orders, and the order expires unpaid. -/
def orderExpires : List Move :=
  .start (.createOrder (oneTicket 1) 5) :: steps 0 18
    ++ .env 900000 :: .start (.expireOrder 1) :: steps 1 8

/-- The SUCCESS webhook that comes then is recorded. -/
theorem late_payment_recorded_expired :
    ∃ q q' r, backend.Run (oneAtATime KeepsLate) (shop [onSale 1 1 1]) q ∧
      Stands q.world.db 1 .expired ∧ backend.next q (.start (.webhook (paid 1))) = some q' ∧
      backend.Run (oneAtATime KeepsLate) q' r ∧ r.ops[2]?.any acknowledged = true ∧
      Recorded 7 1 r.world.db.payments := by
  obtain ⟨q, hpq, ⟨hidle, hlen, hexpired⟩, hlater⟩ :
      ∃ q, backend.Run (oneAtATime KeepsLate) (shop [onSale 1 1 1]) q ∧
        (q.Idle ∧ q.ops.length = 2 ∧ Stands q.world.db 1 .expired) ∧
        (backend.next q (.start (.webhook (paid 1)))).any (fun q' =>
          (backend.exec (oneAtATime KeepsLate) q' (steps 2 2)).any (fun r =>
            decide (r.ops[2]?.any acknowledged = true))) = true :=
    exists_run orderExpires _ (by decide +kernel)
  obtain ⟨q', harrives, hmoves⟩ := (Option.any_eq_true _ _).mp hlater
  obtain ⟨r, hqr, hack⟩ := exists_run _ _ hmoves
  have hresult : (paid 1).result = .success := rfl
  have hanswered : r.ops[q.ops.length]?.any acknowledged = true := by
    rw [hlen]
    exact hack
  exact ⟨q, q', r, hpq, hexpired, harrives, hqr, hack,
    late_payment_recorded (shop_opening (by simp)) hpq hresult hexpired hidle harrives hqr
      hanswered⟩

/-! ## A late payment that is not recorded -/

/-- A TIMEOUT webhook of the same provider transaction. -/
def timedOut (o : OrderId) : MockWebhookDto := { paid o with result := .timeout }

/-- A customer orders, the gateway reports a timeout, and the order expires. -/
def timeoutThenExpires : List Move :=
  .start (.createOrder (oneTicket 1) 5) :: steps 0 18
    ++ .start (.webhook (timedOut 1)) :: steps 1 2
    ++ .env 900000 :: .start (.expireOrder 1) :: steps 2 8

/-- The SUCCESS webhook that comes then is acknowledged, and the row says TIMEOUT. -/
theorem late_payment_lost_timedOut :
    ¬ ∀ (p q q' r : State) (dto : MockWebhookDto), Opening p →
      backend.Run (oneAtATime fun _ _ => True) p q → dto.result = .success →
      Stands q.world.db dto.orderId .expired → q.Idle →
      backend.next q (.start (.webhook dto)) = some q' →
      backend.Run (oneAtATime fun _ _ => True) q' r →
      r.ops[q.ops.length]?.any acknowledged = true →
      Recorded dto.providerTransactionId dto.orderId r.world.db.payments := by
  intro h
  obtain ⟨q, hpq, ⟨hidle, hlen, hexpired⟩, hlater⟩ :
      ∃ q, backend.Run (oneAtATime fun _ _ => True) (shop [onSale 1 1 1]) q ∧
        (q.Idle ∧ q.ops.length = 3 ∧ Stands q.world.db 1 .expired) ∧
        (backend.next q (.start (.webhook (paid 1)))).any (fun q' =>
          (backend.exec (oneAtATime fun _ _ => True) q' (steps 3 2)).any (fun r =>
            decide (r.ops[3]?.any acknowledged = true ∧
              ¬ Recorded 7 1 r.world.db.payments))) = true :=
    exists_run timeoutThenExpires _ (by decide +kernel)
  obtain ⟨q', harrives, hmoves⟩ := (Option.any_eq_true _ _).mp hlater
  obtain ⟨r, hqr, hack, hlost⟩ := exists_run _ _ hmoves
  refine hlost (h _ q q' r (paid 1) (shop_opening (by simp)) hpq rfl hexpired hidle harrives hqr ?_)
  rw [hlen]
  exact hack

/-! ## One transaction, one order -/

/-- The SUCCESS webhook whose order a call is about to mark paid. -/
def Ask.pays : Ask → Option MockWebhookDto
  | .successCommit dto _ _ => some dto
  | _ => none

/-- Every row under the webhook's transaction id is of its own order. -/
def OwnRows (dto : MockWebhookDto) (db : Db) : Prop :=
  ∀ p ∈ db.payments, p.providerTransactionId = some dto.providerTransactionId →
    p.orderId = dto.orderId

/-- SUCCESS webhooks of pending orders find no other order's row under their id, TIMEOUT
    webhooks no payment of a PAID order. -/
def UsesOnce (db : Db) (d : Ask) : Prop :=
  (∀ dto ∈ Ask.pays d, OwnRows dto db) ∧ ∀ dto ∈ Ask.timesOut d, Spares .paid dto db

/-- In this move the webhook's transaction marks its order paid. -/
structure MakesPaid (dto : MockWebhookDto) (p : State) (a : Move) (q : State) : Prop where
  moves : backend.next p a = some q
  call : (p.askAt a).bind Ask.pays = some dto
  before : ¬ Stands p.world.db dto.orderId .paid
  after : Stands q.world.db dto.orderId .paid

/-- A SUCCESS webhook that finds only its own order's rows puts its payment on record. -/
theorem recorded_paid {dto : MockWebhookDto} {payments : List PaymentTransaction}
    (hown : ∀ p ∈ payments, p.providerTransactionId = some dto.providerTransactionId →
      p.orderId = dto.orderId) :
    Recorded dto.providerTransactionId dto.orderId
      (upsertedPayments dto .success (some .success) payments) := by
  simp only [upsertedPayments]
  split
  · next hany =>
    obtain ⟨p, hp, hx⟩ := List.any_eq_true.mp hany
    have hx' : p.providerTransactionId = some dto.providerTransactionId := of_decide_eq_true hx
    refine ⟨{ p with status := .success }, ?_, hx', hown p hp hx', rfl⟩
    refine List.mem_map.mpr ⟨p, hp, ?_⟩
    rw [if_pos hx', Option.getD_some]
  · exact ⟨_, List.mem_append_right _ List.mem_cons_self, rfl, rfl, rfl⟩

/-- Such a move is a commit that went through: it met `Q` and wrote its row. -/
theorem MakesPaid.commits {Q : Db → Ask → Prop} {dto : MockWebhookDto} {p q : State} {a : Move}
    (h : MakesPaid dto p a q) (hok : (oneAtATime Q).ok p a) :
    (∃ order gateName, Q p.world.db (.successCommit dto order gateName)) ∧
      q.world.db.payments
        = upsertedPayments dto .success (some .success) p.world.db.payments := by
  obtain ⟨d, hd, hpays⟩ := Option.bind_eq_some_iff.mp h.call
  obtain ⟨i, ch, w', prog, -, hg, hdec, rfl⟩ := asked_of_next hd hok h.moves
  have hdec' : dispatch ch p.world d = some (w', prog) := hdec
  cases d with
  | successCommit dto' order gateName =>
      cases hpays
      cases dispatch_posted hdec' with
      | kept hb => exact absurd (h.after.of_orders hb.1.symm) h.before
      | inserted _ _ _ _ hd _ => cases hd
      | deleted _ _ hd _ => cases hd
      | set o s hf _ _ hpay => exact ⟨⟨order, gateName, hg hf⟩, hpay⟩
      | noted _ _ horders _ => exact absurd (h.after.of_orders horders.symm) h.before
  | _ => cases hpays

/-- The step that pays an order records the payment. -/
theorem MakesPaid.recorded {dto : MockWebhookDto} {p q : State} {a : Move}
    (h : MakesPaid dto p a q) (hok : (oneAtATime UsesOnce).ok p a) :
    OnRecord dto.providerTransactionId dto.orderId .paid q.world.db := by
  obtain ⟨⟨order, gateName, hown, -⟩, hpay⟩ := h.commits hok
  refine ⟨h.after, ?_⟩
  rw [hpay]
  exact recorded_paid (hown dto rfl)

/-- A transaction on record for an order is on record for no other. -/
theorem Single.unique {payments : List PaymentTransaction} (hs : Single payments)
    {x : ProviderTransactionId} {p p' : PaymentTransaction} (hp : p ∈ payments)
    (hp' : p' ∈ payments) (hx : p.providerTransactionId = some x)
    (hx' : p'.providerTransactionId = some x) : p = p' := by
  by_contra hne
  have hsub : [p, p'].countP (fun r => r.providerTransactionId = some x) ≤ 1 := by
    refine le_trans ?_ (hs x)
    exact (List.subperm_of_subset (List.nodup_cons.mpr ⟨by simpa using hne, List.nodup_singleton _⟩)
      (by
        intro r hr
        rcases List.mem_cons.mp hr with rfl | hr
        · exact hp
        · rw [List.mem_singleton.mp hr]
          exact hp')).countP_le _
  simp [hx, hx'] at hsub

/-- **One provider transaction pays at most one order**, in every run of operations that do
    not overlap in which SUCCESS webhooks of pending orders find no other order's row under
    their id and TIMEOUT webhooks no payment of a PAID order: once a webhook has made its
    order paid, the one row under its id says so for good, and no webhook with this id makes
    another order paid. -/
theorem one_transaction_one_order {p q q' r : State} (hp : Opening p)
    (hpq : backend.Run (oneAtATime UsesOnce) p q) {dto : MockWebhookDto} {a : Move}
    (hok : (oneAtATime UsesOnce).ok q a) (hpays : MakesPaid dto q a q')
    (hqr : backend.Run (oneAtATime UsesOnce) q' r) :
    Recorded dto.providerTransactionId dto.orderId r.world.db.payments ∧
      (∀ row ∈ r.world.db.payments, row.providerTransactionId = some dto.providerTransactionId →
        row.orderId = dto.orderId ∧ row.status = .success) ∧
      ∀ (dto' : MockWebhookDto) (a' : Move) (r' : State), (oneAtATime UsesOnce).ok r a' →
        MakesPaid dto' r a' r' → dto'.providerTransactionId = dto.providerTransactionId →
        dto'.orderId = dto.orderId := by
  have hq : OneByOne (fun w => Ledger w.db) Knows q :=
    hpq.inv (fun _ _ => ledger_step) (hp.oneByOne hp.ledger)
  -- from the step that pays on, the id stands on record for its order
  have hstart : OneByOne (fun w => Ledger w.db ∧
      OnRecord dto.providerTransactionId dto.orderId .paid w.db) Knows q' := by
    have hq' := ledger_step hq (step_of_next hok hpays.moves)
    exact ⟨hq'.one, ⟨hq'.good, hpays.recorded hok⟩, hq'.facts⟩
  have hr : OneByOne (fun w => Ledger w.db ∧
      OnRecord dto.providerTransactionId dto.orderId .paid w.db) Knows r := by
    refine hqr.inv (fun _ _ h hs => ?_) hstart
    refine oneByOne_step (I := fun db => Ledger db ∧
      OnRecord dto.providerTransactionId dto.orderId .paid db) ?_ ?_ h hs
    · rintro db db' hb ⟨hledger, hrecord⟩
      exact ⟨hledger.same hb, hrecord.same hb⟩
    · rintro ch w w' d ⟨hledger, hrecord⟩ hk hg hposted
      exact ⟨hledger.posted hk hposted,
        hrecord.posted (by decide) hk (fun hf => (hg hf).2) hposted⟩
  obtain ⟨hledger, hrecord⟩ := hr.good
  obtain ⟨row, hrow, hx, ho, hsuccess⟩ := hrecord.recorded
  refine ⟨hrecord.recorded, ?_, ?_⟩
  · intro row' hrow' hx'
    rw [← hledger.single.unique hrow hrow' hx hx']
    exact ⟨ho, hsuccess⟩
  · intro dto' a' r' hok' hpays' hid
    obtain ⟨⟨order, gateName, hown, -⟩, -⟩ := hpays'.commits hok'
    rw [← ho, hown dto' rfl row hrow (by rw [hid]; exact hx)]

/-! ### Two orders paid by two transactions -/

/-- The rows of the transaction are looked at. -/
instance (dto : MockWebhookDto) (db : Db) : Decidable (OwnRows dto db) :=
  inferInstanceAs (Decidable (∀ p ∈ db.payments, _))

/-- A run can be checked for its transactions. -/
instance (db : Db) (d : Ask) : Decidable (UsesOnce db d) :=
  inferInstanceAs (Decidable ((∀ dto ∈ Ask.pays d, _) ∧ ∀ dto ∈ Ask.timesOut d, _))

/-- Two customers order, and a SUCCESS webhook of the first order is under way. -/
def twoOrdersOnePaying : List Move :=
  .start (.createOrder (oneTicket 1) 5) :: steps 0 18
    ++ .start (.createOrder (oneTicket 1) 6) :: steps 1 16
    ++ .start (.webhook (paid 1)) :: steps 2 2

/-- A webhook of another transaction for the second order. -/
def otherTransaction : MockWebhookDto := { paid 2 with providerTransactionId := 8 }

/-- The first order is paid by transaction 7, the second by transaction 8, and the row of 7
    stays the first order's. -/
theorem one_transaction_one_order_two :
    ∃ q q' r, backend.Run (oneAtATime UsesOnce) (shop [onSale 1 2 1]) q ∧
      MakesPaid (paid 1) q (.step 2 0 {}) q' ∧ backend.Run (oneAtATime UsesOnce) q' r ∧
      Stands r.world.db 2 .paid ∧ Recorded 7 1 r.world.db.payments ∧
      ∀ row ∈ r.world.db.payments, row.providerTransactionId = some 7 →
        row.orderId = 1 ∧ row.status = .success := by
  obtain ⟨q, hpq, ⟨hok, hcall, hbefore⟩, hlater⟩ :
      ∃ q, backend.Run (oneAtATime UsesOnce) (shop [onSale 1 2 1]) q ∧
        ((oneAtATime UsesOnce).decideOk q (.step 2 0 {}) = true ∧
          (q.askAt (.step 2 0 {} : Move)).bind Ask.pays = some (paid 1) ∧
          ¬ Stands q.world.db 1 .paid) ∧
        (backend.next q (.step 2 0 {})).any (fun q' => decide (Stands q'.world.db 1 .paid) &&
          (backend.exec (oneAtATime UsesOnce) q' (steps 2 2
            ++ .start (.webhook otherTransaction) :: steps 3 5)).any (fun r =>
              decide (Stands r.world.db 2 .paid))) = true :=
    exists_run twoOrdersOnePaying _ (by decide +kernel)
  obtain ⟨q', hnext, hmoves⟩ := (Option.any_eq_true _ _).mp hlater
  obtain ⟨hafter, hmoves⟩ := (Bool.and_eq_true _ _).mp hmoves
  obtain ⟨r, hqr, hpaid⟩ := exists_run _ _ hmoves
  have hpays : MakesPaid (paid 1) q (.step 2 0 {}) q' :=
    ⟨hnext, hcall, hbefore, of_decide_eq_true hafter⟩
  obtain ⟨hrecord, hrows, -⟩ := one_transaction_one_order (shop_opening (by simp)) hpq
    (Guard.ok_of_decideOk _ hok) hpays hqr
  exact ⟨q, q', r, hpq, hpays, hqr, hpaid, hrecord, hrows⟩

/-! ## Two orders paid by one transaction -/

/-- A second SUCCESS webhook with the same transaction id makes the second order paid too. -/
theorem one_transaction_two_orders :
    ¬ ∀ (p q q' r : State) (dto : MockWebhookDto) (a : Move), Opening p →
      backend.Run (oneAtATime fun _ _ => True) p q → (oneAtATime fun _ _ => True).ok q a →
      MakesPaid dto q a q' → backend.Run (oneAtATime fun _ _ => True) q' r →
      Recorded dto.providerTransactionId dto.orderId r.world.db.payments ∧
        (∀ row ∈ r.world.db.payments, row.providerTransactionId = some dto.providerTransactionId →
          row.orderId = dto.orderId ∧ row.status = .success) ∧
        ∀ (dto' : MockWebhookDto) (a' : Move) (r' : State),
          (oneAtATime fun _ _ => True).ok r a' → MakesPaid dto' r a' r' →
          dto'.providerTransactionId = dto.providerTransactionId → dto'.orderId = dto.orderId := by
  intro h
  obtain ⟨q, hpq, ⟨hcall, hbefore⟩, hlater⟩ :
      ∃ q, backend.Run (oneAtATime fun _ _ => True) (shop [onSale 1 2 1]) q ∧
        ((q.askAt (.step 2 0 {} : Move)).bind Ask.pays = some (paid 1) ∧
          ¬ Stands q.world.db 1 .paid) ∧
        (backend.next q (.step 2 0 {})).any (fun q' => decide (Stands q'.world.db 1 .paid) &&
          (backend.exec (oneAtATime fun _ _ => True) q' (steps 2 2
            ++ .start (.webhook (paid 2)) :: steps 3 2)).any (fun r =>
              decide ((r.askAt (.step 3 0 {} : Move)).bind Ask.pays = some (paid 2) ∧
                ¬ Stands r.world.db 2 .paid ∧
                (backend.next r (.step 3 0 {})).any (fun r' =>
                  decide (Stands r'.world.db 2 .paid)) = true))) = true :=
    exists_run twoOrdersOnePaying _ (by decide +kernel)
  obtain ⟨q', hnext, hmoves⟩ := (Option.any_eq_true _ _).mp hlater
  obtain ⟨hafter, hmoves⟩ := (Bool.and_eq_true _ _).mp hmoves
  obtain ⟨r, hqr, hcall', hbefore', hlast⟩ := exists_run _ _ hmoves
  obtain ⟨r', hnext', hafter'⟩ := (Option.any_eq_true _ _).mp hlast
  have hfirst : MakesPaid (paid 1) q (.step 2 0 {}) q' :=
    ⟨hnext, hcall, hbefore, of_decide_eq_true hafter⟩
  have hsecond : MakesPaid (paid 2) r (.step 3 0 {}) r' :=
    ⟨hnext', hcall', hbefore', of_decide_eq_true hafter'⟩
  have hok : ∀ (s : State) (i : Nat), (oneAtATime fun _ _ => True).ok s (.step i 0 {}) := by
    intro s i
    simp only [Guard.ok, oneAtATime]
    repeat' split
    all_goals first
      | exact fun _ => trivial
      | trivial
  have hsame := (h _ q q' r (paid 1) _ (shop_opening (by simp)) hpq (hok q 2) hfirst hqr).2.2
    (paid 2) _ r' (hok r 3) hsecond rfl
  cases hsame

end TicketBackend
