import TicketBox.OversellProofs

/-! # Order status

    A status is written by six calls, each an update by id: the row it overwrites
    is not compared with the one its check read.  So another operation may settle
    the order in between, and its status is overwritten.  If no status of an order
    is written while another operation stands between its own read of the order
    and its write (`settlingAlone`), then what was read still holds at the write
    (`Undisturbed`), a status that left PENDING_PAYMENT is final, and an order with
    a ticket is PAID: the webhook's transaction sets PAID itself, and the worker
    read PAID before it issues, which by finality is PAID still. -/

namespace TicketBackend

open Interleave TicketStore TicketRedis TicketDb TicketFlow TicketOrder TicketPayment
  TicketServices

/-- Once the status of an order has left PENDING_PAYMENT it stays what it is. -/
def StatusKept (w w' : World) : Prop :=
  ∀ o row, w.db.findOrder o = some row → row.status ≠ .pendingPayment →
    ∃ row', w'.db.findOrder o = some row' ∧ row'.status = row.status

/-- An order that owns a ticket is PAID. -/
def TicketsPaid (db : Db) : Prop :=
  ∀ k ∈ db.tickets, ∃ row, db.findOrder k.orderId = some row ∧ row.status = .paid

/-- The order, if it exists, is PENDING_PAYMENT. -/
def StillPending (db : Db) (o : OrderId) : Prop :=
  ∀ row ∈ db.findOrder o, row.status = .pendingPayment

/-! ## Between the read of an order and its write -/

/-- The order whose row the operation has read for the last time before this call and
    whose status it writes, by this call or a later one. -/
def Ask.settles : Ask → Option OrderId
  | .markCancelled order | .markExpired order | .failedCommit order
  | .cronPaidCommit order _ | .cronExpireCommit order _ _ => some order.id
  | .findGates dto _ | .countGateTickets dto _ _ | .successCommit dto _ _ => some dto.orderId
  | _ => none

/-- The order whose row createOrder has inserted and may still delete. -/
def Ask.undoes : Ask → Option OrderId
  | .syncInventory _ o _ | .createPaymentUrl (.createOrder ..) o _
  | .callGateway (.createOrder ..) o _ _ | .savePaymentUrl (.createOrder ..) o _ _ _
  | .deleteOrderQuietly o _ | .deleteOrder o _ => some o
  | _ => none

/-- The operation of the call has still to write the status of order `o`. -/
def settling (o : OrderId) (d : Ask) : Bool := decide (Ask.settles d = some o)

/-- The operation of the call may still delete order `o`. -/
def deleting (o : OrderId) (d : Ask) : Bool := decide (Ask.undoes d = some o)

/-- The order exists and has no items: the foreign keys let it be deleted. -/
def Itemless (db : Db) (o : OrderId) : Prop := ∃ row ∈ db.findOrder o, row.items = []

/-- All operations; no status of an order is written while another operation stands
    between its read of the order and its write, nor, if the order has no items, while
    the createOrder that inserted it may still delete it. -/
def settlingAlone : Condition where
  req _ _ := True
  ask p ch d := ch.fails = false → ∀ x ∈ Ask.sets d,
    p.OnlyBy (settling x.1) noTask d ∧
      (Itemless p.world.db x.1 → p.Nobody (deleting x.1) noTask)
  task _ _ _ := True
  env _ _ := True

/-- What the operation of the call has read of an order still holds: the order whose
    status it is to write is PENDING_PAYMENT, and so is an order without items that it
    may delete. -/
structure AskFresh (w : World) (d : Ask) : Prop where
  settles : ∀ o ∈ Ask.settles d, StillPending w.db o
  undoes : ∀ o ∈ Ask.undoes d, ∀ row ∈ w.db.findOrder o, row.items = [] →
    row.status = .pendingPayment

/-- Every call the program may still make works on what still holds. -/
def OpFresh (w : World) (prog : Op) : Prop := prog.All (AskFresh w) fun _ => True

/-- A batch relies on what follows it. -/
theorem opFresh_par {w : World} {ts : List Task} {h rest : Op} :
    OpFresh w (.par ts h rest) ↔ OpFresh w h ∧ OpFresh w rest := by
  simp [OpFresh]

/-- A call that neither settles nor undoes an order has nothing to rely on. -/
theorem askFresh_of_none {w : World} {d : Ask} (hs : Ask.settles d = none)
    (hu : Ask.undoes d = none) : AskFresh w d := by
  refine ⟨fun o ho => ?_, fun o ho => ?_⟩
  · rw [hs] at ho
    cases ho
  · rw [hu] at ho
    cases ho

/-- An order that was found PENDING_PAYMENT is so. -/
theorem stillPending_of_find {db : Db} {o : OrderId} {row : Order} (h : db.findOrder o = some row)
    (hs : row.status = .pendingPayment) : StillPending db o := by
  intro row' hrow'
  rw [h] at hrow'
  cases hrow'
  exact hs

/-- A call about to settle an order that is PENDING_PAYMENT. -/
theorem askFresh_settles {w : World} {d : Ask} {o : OrderId} (hd : Ask.settles d = some o)
    (hu : Ask.undoes d = none) (h : StillPending w.db o) : AskFresh w d := by
  refine ⟨fun o' ho => ?_, fun o' ho => ?_⟩
  · rw [hd] at ho
    cases ho
    exact h
  · rw [hu] at ho
    cases ho

/-! ### What the calls go on with -/

/-- A call that owes nothing deletes no order. -/
theorem undoes_of_not_owes {d : Ask} (h : Ask.owes d = false) : Ask.undoes d = none := by
  unfold Ask.undoes
  split
  all_goals first
    | rfl
    | cases h

/-- Outside the webhook and the cron only calls that owe a write settle an order. -/
theorem settles_of_not_owes {d : Ask} (h : Ask.owes d = false)
    (hk : Ask.kind d ≠ .webhook ∧ Ask.kind d ≠ .cron) : Ask.settles d = none := by
  unfold Ask.settles
  split
  all_goals first
    | rfl
    | exact absurd rfl hk.1
    | exact absurd rfl hk.2
    | cases h

/-- createOrder settles none. -/
theorem settles_of_createOrder {d : Ask} (h : Ask.kind d = .createOrder) :
    Ask.settles d = none := by
  unfold Ask.settles
  split
  all_goals first
    | rfl
    | cases h

/-- What is left of an operation that owes nothing relies on nothing. -/
theorem Settled.opFresh {k : Kind} {w : World} {prog : Op} (h : Settled k prog)
    (hk : k ≠ .webhook ∧ k ≠ .cron) : OpFresh w prog :=
  h.mono (fun _ hd => askFresh_of_none (settles_of_not_owes hd.1 (hd.2.symm ▸ hk))
    (undoes_of_not_owes hd.1)) fun _ _ => trivial

theorem opFresh_cronNext {w : World} (l : List Order) : OpFresh w (cronNext l) := by
  cases l with
  | nil => trivial
  | cons order rest => exact askFresh_of_none rfl rfl

theorem opFresh_rollback (w : World) (ctx : CreateCtx) (o : OrderId) (e : ApiError)
    (metas : List TicketMeta) : OpFresh w (rollback ctx o e metas) := by
  induction metas with
  | nil => trivial
  | cons m metas ih => exact opFresh_par.mpr ⟨trivial, ih⟩

theorem opFresh_awaitReserve (w : World) (ctx : CreateCtx) (o : OrderId)
    (slots : List ReserveSlot) : OpFresh w (awaitReserve ctx o slots) := by
  simp only [awaitReserve, afterReserve]
  split
  · split
    · trivial
    · split
      · exact askFresh_of_none rfl rfl
      · split
        · trivial
        · split
          · trivial
          · exact opFresh_rollback w ctx o _ _
  · exact askFresh_of_none rfl rfl

/-- A call of createOrder after its insert hands the row on as it found it. -/
theorem askFresh_undoes {w w' : World} {d d' : Ask} (h : AskFresh w d)
    (hu : Ask.undoes d' = Ask.undoes d) (hs : Ask.settles d' = none)
    (ho : w'.db.orders = w.db.orders) : AskFresh w' d' := by
  refine ⟨fun o hso => ?_, ?_⟩
  · rw [hs] at hso
    cases hso
  · rw [hu]
    simpa only [Db.findOrder, ho] using h.undoes

theorem undoes_of_paying {d : Ask} {ctx : CreateCtx} {o : OrderId} {metas : List TicketMeta}
    (h : Ask.paying d = some (ctx, o, metas)) : Ask.undoes d = some o := by
  unfold Ask.paying at h
  split at h
  all_goals cases h
  all_goals rfl

/-- The calls of createOrder, cancelOrder, expireOrder and the worker. -/
theorem asked_fresh {ch : Choice} {w w' : World} {d : Ask} {prog : Op} (h : Asked ch w d w' prog)
    (hk : Ask.kind d ≠ .webhook ∧ Ask.kind d ≠ .cron) (hd : AskFresh w d) : OpFresh w' prog := by
  cases h with
  | idle _ _ _ _ _ _ hp => exact hp.opFresh hk
  | drawn ctx metas => exact opFresh_awaitReserve ..
  | reserveThrew ctx o slots s _ _ => exact opFresh_awaitReserve ..
  | reserved ctx o slots s _ _ _ _ _ => exact opFresh_awaitReserve ..
  | persisted ctx o metas db _ hdb =>
      -- the row just inserted is PENDING_PAYMENT
      obtain ⟨rfl, hnone⟩ := insertOrder_eq hdb
      refine AskFresh.mk (fun o' ho' => by cases ho') ?_
      rintro o' ⟨⟩ row hrow -
      rw [Option.mem_def, Db.findOrder, RowTable.lookup_append] at hrow
      rw [show RowTable.lookup Order.id o w.db.orders = none from hnone, Option.none_or] at hrow
      cases Option.ite_none_right_eq_some.mp hrow with
      | intro _ he =>
          cases he
          rfl
  | persistFailed ctx o metas => exact opFresh_par.mpr ⟨trivial, trivial⟩
  | synced ctx o metas db _ hdb => exact askFresh_undoes hd rfl rfl (syncInventory_same hdb).1
  | syncFailed ctx o metas e _ => exact opFresh_par.mpr ⟨trivial, askFresh_undoes hd rfl rfl rfl⟩
  | paying _ ctx o metas _ d' hp hp' hkind =>
      have hs : Ask.settles d' = none := settles_of_createOrder hkind
      rcases hp' with hp' | hp'
      · exact askFresh_undoes hd (by rw [undoes_of_paying hp, undoes_of_paying hp']) hs rfl
      · exact askFresh_of_none hs (undoes_of_not_owes hp')
  | payingFailed _ ctx o metas e hp _ =>
      refine opFresh_par.mpr ⟨trivial, opFresh_par.mpr ⟨trivial, ?_⟩⟩
      exact askFresh_undoes hd (undoes_of_paying hp).symm rfl rfl
  | cancelling o u order hrow _ hs =>
      refine opFresh_par.mpr ⟨trivial, opFresh_par.mpr ⟨trivial, ?_⟩⟩
      exact askFresh_settles rfl rfl (stillPending_of_find (RowTable.lookup_key hrow ▸ hrow) hs)
  | expiring o order hrow hs =>
      refine opFresh_par.mpr ⟨trivial, opFresh_par.mpr ⟨trivial, opFresh_par.mpr ⟨trivial, ?_⟩⟩⟩
      exact askFresh_settles rfl rfl (stillPending_of_find (RowTable.lookup_key hrow ▸ hrow) hs)
  | typeWritten existing dto db row _ _ _ hp =>
      rcases hp with rfl | ⟨-, -, -, hp⟩
      · exact askFresh_of_none rfl rfl
      · exact hp.opFresh hk
  | stockSeeded row _ hp => exact hp.opFresh hk
  | failed => exact absurd rfl hk.1
  | succeeded => exact absurd rfl hk.1
  | recordDeleted => exact absurd rfl hk.1
  | cronPaid => exact absurd rfl hk.2
  | cronPaidSkipped => exact absurd rfl hk.2
  | enqueued => exact absurd rfl hk.2
  | cronExpired => exact absurd rfl hk.2
  | issued job order db _ _ => exact askFresh_of_none rfl rfl
  | _ => trivial

/-- Every call goes on with what holds after it. -/
theorem dispatch_fresh {ch : Choice} {w w' : World} {d : Ask} {prog : Op}
    (h : dispatch ch w d = some (w', prog)) (hd : AskFresh w d) : OpFresh w' prog := by
  have hother : Ask.kind d ≠ .webhook ∧ Ask.kind d ≠ .cron → OpFresh w' prog :=
    fun hk => asked_fresh (dispatch_asked h) hk hd
  -- calls that answer in every state, and those that may throw instead
  have hsome : ∀ {x : World × Op}, some x = some (w', prog) → OpFresh x.1 x.2 → OpFresh w' prog :=
    fun hq => prop_of_some (P := OpFresh) hq
  have hreads : ∀ {q : Op}, reads ch w q = some (w', prog) → OpFresh w q → OpFresh w' prog :=
    fun hq => prop_of_reads (P := OpFresh) hq trivial
  cases d with
  | handleMockWebhook dto =>
      refine hreads h ?_
      simp only [TicketPayment.handleMockWebhook]
      split
      · trivial
      · split
        · trivial
        · next order ho =>
          split
          · trivial
          · split
            · trivial
            · exact askFresh_of_none rfl rfl
            · next hs =>
              split
              · exact askFresh_of_none rfl rfl
              · exact askFresh_of_none rfl rfl
              · exact askFresh_settles rfl rfl (stillPending_of_find ho hs)
            · trivial
  | recordLateWebhook dto message =>
      refine hsome h ?_
      simp only [TicketPayment.recordLateWebhook]
      split <;> trivial
  | handlePaymentTimeout dto =>
      refine hsome h ?_
      simp only [TicketPayment.handlePaymentTimeout]
      split <;> trivial
  | failedCheck order =>
      refine hreads h ?_
      simp only [TicketPayment.failedCheck]
      split
      · next latest hrow =>
        split
        · next hs => exact askFresh_settles rfl rfl (stillPending_of_find hrow hs)
        · exact opFresh_par.mpr ⟨trivial, trivial⟩
      · exact opFresh_par.mpr ⟨trivial, trivial⟩
  | failedCommit order =>
      refine hsome h ?_
      simp only [TicketPayment.failedCommit]
      split
      · trivial
      · exact opFresh_par.mpr ⟨trivial, trivial⟩
  | findGates dto order =>
      refine hreads h ?_
      simp only [TicketPayment.findGates]
      split
      · exact askFresh_settles rfl rfl (hd.settles _ rfl)
      · exact askFresh_settles rfl rfl (hd.settles _ rfl)
  | countGateTickets dto order gates =>
      exact hreads h (askFresh_settles rfl rfl (hd.settles _ rfl))
  | successCommit dto order gateName =>
      refine hsome h ?_
      simp only [TicketPayment.successCommit]
      split
      · trivial
      · exact askFresh_of_none rfl rfl
  | delReservation order =>
      refine hsome h ?_
      simp only [TicketPayment.delReservation]
      split
      · trivial
      · exact askFresh_of_none rfl rfl
  | sendOrderPaidEmail order =>
      refine hsome h ?_
      simp only [TicketPayment.sendOrderPaidEmail]
      split <;> trivial
  | verifyStuckPendingPayments => exact hreads h (opFresh_cronNext _)
  | verifyTransaction order rest =>
      refine hreads h ?_
      simp only [TicketPayment.verifyTransaction]
      split <;> exact askFresh_of_none rfl rfl
  | cronPaidCheck order rest =>
      refine hreads h ?_
      simp only [TicketPayment.cronPaidCheck]
      split
      · next latest hrow =>
        split
        · next hs => exact askFresh_settles rfl rfl (stillPending_of_find hrow hs)
        · exact askFresh_of_none rfl rfl
      · exact askFresh_of_none rfl rfl
  | cronPaidCommit order rest =>
      refine hsome h ?_
      simp only [TicketPayment.cronPaidCommit]
      split
      · trivial
      · exact askFresh_of_none rfl rfl
  | enqueueTicketIssue order rest =>
      refine hsome h ?_
      simp only [TicketPayment.enqueueTicketIssue]
      split
      · trivial
      · exact opFresh_cronNext rest
  | cronExpireCheck order res rest =>
      refine hreads h ?_
      simp only [TicketPayment.cronExpireCheck]
      split
      · next latest hrow =>
        split
        · next hs => exact askFresh_settles rfl rfl (stillPending_of_find hrow hs)
        · exact opFresh_par.mpr ⟨opFresh_cronNext rest, opFresh_cronNext rest⟩
      · exact opFresh_par.mpr ⟨opFresh_cronNext rest, opFresh_cronNext rest⟩
  | cronExpireCommit order res rest =>
      refine hsome h ?_
      simp only [TicketPayment.cronExpireCommit]
      split
      · trivial
      · exact opFresh_par.mpr ⟨opFresh_cronNext rest, opFresh_cronNext rest⟩
  | createPaymentUrl caller o u => cases caller <;> exact hother (by simp [Ask.kind, callerKind])
  | callGateway caller o amount existing => cases caller <;> exact hother (by simp [Ask.kind, callerKind])
  | savePaymentUrl caller o amount existing url => cases caller <;> exact hother (by simp [Ask.kind, callerKind])
  | _ => exact hother (by simp [Ask.kind])

/-! ### What other operations leave of it -/

/-- A row that keeps its status, or is none any more, disturbs nobody. -/
theorem AskFresh.of_find {w w' : World} {d : Ask} (h : AskFresh w d)
    (hrow : ∀ o, (Ask.settles d = some o ∨ Ask.undoes d = some o) → ∀ row ∈ w'.db.findOrder o,
      row ∈ w.db.findOrder o ∨ row.status = .pendingPayment) : AskFresh w' d := by
  refine ⟨fun o ho row hmem => ?_, fun o ho row hmem hnil => ?_⟩
  · rcases hrow o (.inl ho) row hmem with hold | hs
    · exact h.settles o ho row hold
    · exact hs
  · rcases hrow o (.inr ho) row hmem with hold | hs
    · exact h.undoes o ho row hold hnil
    · exact hs

/-- **What one call disturbs**: what another operation has read holds on, or that operation
    is one the condition keeps away from the write. -/
theorem fresh_moved {ch : Choice} {w w' : World} {d d' : Ask} (hm : OrdersMoved ch w w' d)
    (h : AskFresh w d') : AskFresh w' d' ∨ ch.fails = false ∧ ∃ o s, Ask.sets d = some (o, s) ∧
      (settling o d' = true ∨ Itemless w.db o ∧ deleting o d' = true) := by
  cases hm with
  | same ho => exact .inl (h.of_find fun o _ row hmem => .inl (by rwa [Db.findOrder, ho] at hmem))
  | set o s hf hd hset =>
      -- only an operation behind its read of the same order is disturbed
      by_cases hst : Ask.settles d' = some o
      · exact .inr ⟨hf, o, s, hd, .inl (by simpa [settling] using hst)⟩
      by_cases hun : Ask.undoes d' = some o ∧ Itemless w.db o
      · exact .inr ⟨hf, o, s, hd, .inr ⟨hun.2, by simpa [deleting] using hun.1⟩⟩
      left
      refine ⟨fun o' ho' row hmem => ?_, fun o' ho' row hmem hnil => ?_⟩
      · have hne : o' ≠ o := fun he => hst (he ▸ ho')
        rw [hset.find_ne hne] at hmem
        exact h.settles o' ho' row hmem
      · by_cases he : o' = o
        · subst he
          -- the row has items, before the write and after it
          obtain ⟨row₀, row', hrow₀, hrow', hc, -⟩ := hset.find_self
          rw [hrow'] at hmem
          cases hmem
          exact absurd ⟨ho', row₀, hrow₀, hc.items ▸ hnil⟩ hun
        · rw [hset.find_ne he] at hmem
          exact h.undoes o' ho' row hmem hnil
  | inserted ctx o metas _ _ hins =>
      obtain ⟨hdb, -⟩ := insertOrder_eq hins
      refine .inl (h.of_find fun o' _ row hmem => ?_)
      rw [hdb, Option.mem_def, Db.findOrder, RowTable.lookup_append] at hmem
      rcases Option.or_eq_some_iff.mp hmem with hold | ⟨-, hnew⟩
      · exact .inl hold
      · right
        obtain ⟨-, he⟩ := Option.ite_none_right_eq_some.mp hnew
        cases he
        rfl
  | deleted o _ _ hdel =>
      obtain ⟨hdb, -⟩ := deleteOrder_eq hdel
      refine .inl (h.of_find fun o' _ row hmem => .inl ?_)
      rw [hdb, Option.mem_def, Db.findOrder] at hmem
      by_cases he : o' = o
      · subst he
        rw [RowTable.lookup_remove_self] at hmem
        cases hmem
      · rw [RowTable.lookup_remove_ne he] at hmem
        exact hmem

/-- What every operation has read holds until it writes. -/
def Undisturbed (p : State) : Prop := ∀ prog ∈ p.ops, OpFresh p.world prog

/-- The call that an operation awaits relies on what holds. -/
theorem Undisturbed.ask {p : State} (h : Undisturbed p) {d : Ask} (hd : .ask d ∈ p.ops) :
    AskFresh p.world d :=
  h _ hd

/-- A request has read nothing yet. -/
theorem opFresh_enter {w : World} {r : Request} {prog : Op} (h : enter w r = some prog) :
    OpFresh w prog := by
  rw [enter_call h]
  cases r <;> exact askFresh_of_none rfl rfl

/-- **One step** of a run under the condition. -/
theorem Undisturbed.step {p q : State} (hp : Undisturbed p)
    (h : backend.Step settlingAlone p q) : Undisturbed q := by
  refine h.exclusive (J := AskFresh) (K := fun _ _ => True) hp ?_ ?_ ?_ ?_
  · intro r prog _ he
    exact opFresh_enter he
  · intro ch d w' prog hmem hd hg hdec
    refine ⟨dispatch_fresh hdec hd, fun d' hd' => ?_, fun t' _ => .inl trivial⟩
    rcases fresh_moved (asked_orders (dispatch_asked hdec)) hd' with hkept | ⟨hf, o, s, hset, hwho⟩
    · exact .inl hkept
    -- the write is alone with the order, so nobody is left that it could disturb
    · obtain ⟨halone, hnone⟩ := hg hf _ hset
      rcases hwho with hwho | ⟨hitems, hwho⟩
      · exact .inr ⟨_, _, hwho, halone⟩
      · exact .inr ⟨_, _, hwho, (hnone hitems).onlyBy d⟩
  · intro ch t w' res _ _ hperf
    have ho := (performed_orders (perform_performed hperf)).1
    refine ⟨fun _ _ => trivial, fun d' hd' => .inl ?_, fun _ _ => .inl trivial⟩
    exact hd'.of_find fun o _ row hmem => .inl (by rwa [Db.findOrder, ho] at hmem)
  · intro ms _
    exact ⟨fun d' hd' => ⟨hd'.settles, hd'.undoes⟩, fun _ => id⟩

/-! ## Finality -/

/-- Nothing is written. -/
theorem StatusKept.refl (w : World) : StatusKept w w := fun _ row h _ => ⟨row, h, rfl⟩

/-- Two steps that keep the statuses. -/
theorem StatusKept.trans {a b c : World} (h₁ : StatusKept a b) (h₂ : StatusKept b c) :
    StatusKept a c := by
  intro o row hrow hs
  obtain ⟨row', hrow', hs'⟩ := h₁ o row hrow hs
  obtain ⟨row'', hrow'', hs''⟩ := h₂ o row' hrow' (by rw [hs']; exact hs)
  exact ⟨row'', hrow'', hs''.trans hs'⟩

/-- A step that leaves the orders alone. -/
theorem StatusKept.of_same {w w' : World} (h : w'.db.orders = w.db.orders) : StatusKept w w' := by
  intro o row hrow _
  refine ⟨row, ?_, rfl⟩
  simpa only [Db.findOrder, h] using hrow

/-- A write of a status is what its operation was to write. -/
theorem settles_of_sets {d : Ask} {o : OrderId} {s : OrderStatus} (h : Ask.sets d = some (o, s)) :
    Ask.settles d = some o := by
  unfold Ask.sets at h
  split at h
  all_goals cases h
  all_goals rfl

/-- So is a deletion. -/
theorem undoes_of_deletes {d : Ask} {o : OrderId} (h : Ask.deletes d = some o) :
    Ask.undoes d = some o := by
  unfold Ask.deletes at h
  split at h
  all_goals cases h
  all_goals rfl

/-- A write on the strength of a read that still holds keeps every other status. -/
theorem statusKept_moved {ch : Choice} {w w' : World} {d : Ask} (hm : OrdersMoved ch w w' d)
    (hd : AskFresh w d) : StatusKept w w' := by
  intro o row hrow hs
  cases hm with
  | same ho => exact StatusKept.of_same ho o row hrow hs
  | set o' s hf hset ho =>
      have hne : o ≠ o' := by
        rintro rfl
        exact hs (hd.settles _ (settles_of_sets hset) row hrow)
      exact ⟨row, by rw [ho.find_ne hne]; exact hrow, rfl⟩
  | inserted ctx o' metas _ _ hins =>
      obtain ⟨hdb, -⟩ := insertOrder_eq hins
      refine ⟨row, ?_, rfl⟩
      simp only [Db.findOrder] at hrow
      simp only [hdb, Db.findOrder, RowTable.lookup_append, hrow, Option.some_or]
  | deleted o' hf hdel hrows =>
      -- only an order without items is deleted, and it is PENDING_PAYMENT
      obtain ⟨hdb, row₀, hrow₀, hnil, -⟩ := deleteOrder_eq hrows
      have hne : o ≠ o' := by
        rintro rfl
        rw [hrow] at hrow₀
        cases hrow₀
        exact hs (hd.undoes _ (undoes_of_deletes hdel) row hrow hnil)
      refine ⟨row, ?_, rfl⟩
      rw [hdb]
      simp only [Db.findOrder, RowTable.lookup_remove_ne hne]
      exact hrow

/-- One step of a run in which what is read holds until it is written keeps every status. -/
theorem statusKept_step {G : Condition} {p q : State} (hp : Undisturbed p)
    (h : backend.Step G p q) : StatusKept p.world q.world := by
  refine h.world (I := StatusKept p.world) (.refl _) ?_ ?_ ?_
  · intro ch d w' prog hmem _ hd
    exact statusKept_moved (asked_orders (dispatch_asked hd)) (hp.ask hmem)
  · intro ch t w' res _ _ hp
    exact .of_same (performed_orders (perform_performed hp)).1
  · intro ms _
    exact .of_same rfl

/-! ## Tickets of paid orders -/

/-- A copy that was not pending when read still shows the status of its row. -/
def Current (w : World) (order : Order) : Prop :=
  order.status ≠ .pendingPayment →
    ∃ row, w.db.findOrder order.id = some row ∧ row.status = order.status

/-- A row that is settled stays current. -/
theorem StatusKept.current {w w' : World} (hk : StatusKept w w') {order : Order}
    (h : Current w order) : Current w' order := by
  intro hs
  obtain ⟨row, hrow, hst⟩ := h hs
  obtain ⟨row', hrow', hst'⟩ := hk _ row hrow (by rw [hst]; exact hs)
  exact ⟨row', hrow', hst'.trans hst⟩

/-- A row just read shows its own status. -/
theorem current_of_mem {w : World} (hk : RowTable.Keyed Order.id w.db.orders) {r : Order}
    (hr : r ∈ w.db.orders) : Current w r :=
  fun _ => ⟨r, RowTable.lookup_of_mem hk hr, rfl⟩

/-- What holds in a run in which nobody writes between a read and its write. -/
structure StatusFinal (p : State) : Prop where
  sound : Sound p
  fresh : Undisturbed p
  copies : ∀ prog ∈ p.ops, OpCopies (Current p.world) prog
  tickets : TicketsPaid p.world.db

/-- Where no ticket is added, orders with tickets stay PAID. -/
theorem ticketsPaid_of_kept {w w' : World} (h : TicketsPaid w.db) (hk : StatusKept w w')
    (ht : w'.db.tickets = w.db.tickets) : TicketsPaid w'.db := by
  intro k hmem
  rw [ht] at hmem
  obtain ⟨row, hrow, hs⟩ := h k hmem
  obtain ⟨row', hrow', hs'⟩ := hk _ row hrow (by rw [hs]; decide)
  exact ⟨row', hrow', hs'.trans hs⟩

/-- Tickets issued for a PAID order. -/
theorem ticketsPaid_issued {w w' : World} {order : Order} (h : TicketsPaid w.db)
    (hk : StatusKept w w') (hi : Issued order order.items w.db w'.db)
    (hp : ∃ row, w'.db.findOrder order.id = some row ∧ row.status = .paid) :
    TicketsPaid w'.db := by
  obtain ⟨ts, hts, ho⟩ := hi.tickets
  intro k hmem
  rw [hts] at hmem
  rcases List.mem_append.mp hmem with hmem | hmem
  · obtain ⟨row, hrow, hs⟩ := h k hmem
    obtain ⟨row', hrow', hs'⟩ := hk _ row hrow (by rw [hs]; decide)
    exact ⟨row', hrow', hs'.trans hs⟩
  · rw [orderId_of_origins ho k hmem]
    exact hp

/-- Every call keeps orders with tickets PAID. -/
theorem asked_ticketsPaid {ch : Choice} {w w' : World} {d : Ask} {prog : Op}
    (h : Asked ch w d w' prog) (hk : StatusKept w w') (hd : AskCopies (Current w) d)
    (ht : TicketsPaid w.db) : TicketsPaid w'.db := by
  cases h with
  | persisted ctx o metas db _ hdb =>
      obtain ⟨rfl, -⟩ := insertOrder_eq hdb
      exact ticketsPaid_of_kept ht hk rfl
  | synced ctx o metas db _ hdb => exact ticketsPaid_of_kept ht hk (syncInventory_same hdb).2
  | deleted _ o e db _ _ hdb =>
      obtain ⟨rfl, -⟩ := deleteOrder_eq hdb
      exact ticketsPaid_of_kept ht hk rfl
  | cancelled order db _ hdb => exact ticketsPaid_of_kept ht hk (commitCancelled_set hdb).2.1
  | expired order db _ hdb => exact ticketsPaid_of_kept ht hk (commitExpired_set hdb).2.1
  | failed order db _ hdb => exact ticketsPaid_of_kept ht hk (commitFailed_released hdb).tickets
  | succeeded dto order gateName db _ hdb =>
      obtain ⟨hset, hi⟩ := commitSuccess_issued hdb
      refine ticketsPaid_issued ht hk hi ?_
      obtain ⟨-, row', -, hrow', -, hs⟩ := hset.find_self
      rw [show order.id = dto.orderId from hd.1]
      exact ⟨row', hrow', hs⟩
  | cronPaid order rest db _ hdb => exact ticketsPaid_of_kept ht hk (commitCronPaid_set hdb).2.1
  | cronExpired order res rest db _ hdb =>
      exact ticketsPaid_of_kept ht hk (commitCronExpire_released hdb).tickets
  | issued job order db _ hdb =>
      obtain ⟨-, hs, hcur⟩ := hd
      refine ticketsPaid_issued ht hk (commitIssue_issued hdb).2 ?_
      obtain ⟨row, hrow, hst⟩ := hk.current hcur (by rw [hs]; decide)
      exact ⟨row, hrow, hst.trans hs⟩
  | typeWritten existing dto db row _ hdb _ _ =>
      exact ticketsPaid_of_kept ht hk (writeTicketType_same hdb).2.1
  | soldOutSet row db hdb => exact ticketsPaid_of_kept ht hk (writeTicketType_same hdb).2.1
  | _ => exact ticketsPaid_of_kept ht hk rfl

/-- **Every step** keeps all of it. -/
theorem StatusFinal.step {p q : State} (hp : StatusFinal p)
    (h : backend.Step settlingAlone p q) : StatusFinal q := by
  refine ⟨hp.sound.step h, hp.fresh.step h, ?_, ?_⟩
  · refine System.Step.all (J := fun w => AskCopies (Current w)) (K := fun _ _ => True)
      h hp.copies ?_ ?_ ?_ ?_
    · intro r prog _ he
      exact opCopies_enter he
    · intro ch d w' prog hmem hd _ hdec
      have hk := statusKept_moved (asked_orders (dispatch_asked hdec)) (hp.fresh.ask hmem)
      refine ⟨dispatch_copies hdec (hd.mono fun _ => hk.current) fun hr => ?_,
        fun d' => AskCopies.mono fun _ => hk.current, fun _ => id⟩
      exact hk.current (current_of_mem hp.sound.keyed (RowTable.lookup_mem hr))
    · intro ch t w' res _ _ hperf
      have hk : StatusKept p.world w' := .of_same (performed_orders (perform_performed hperf)).1
      exact ⟨fun _ _ => trivial, fun d' => AskCopies.mono fun _ => hk.current, fun _ => id⟩
    · intro ms _
      exact ⟨fun d' => id, fun _ => id⟩
  · refine h.world (I := fun w => TicketsPaid w.db) hp.tickets ?_ ?_ ?_
    · intro ch d w' prog hmem _ hd
      exact asked_ticketsPaid (dispatch_asked hd)
        (statusKept_moved (asked_orders (dispatch_asked hd)) (hp.fresh.ask hmem))
        (hp.copies _ hmem) hp.tickets
    · intro ch t w' res _ _ hperf
      obtain ⟨ho, ht, -⟩ := performed_orders (perform_performed hperf)
      exact ticketsPaid_of_kept hp.tickets (.of_same ho) ht
    · intro ms _
      exact hp.tickets

/-- At the start there is nothing to keep. -/
theorem Opening.statusFinal {p : State} (h : Opening p) : StatusFinal p where
  sound := h.sound
  fresh := by
    intro prog hmem
    rw [h.ops_nil] at hmem
    cases hmem
  copies := by
    intro prog hmem
    rw [h.ops_nil] at hmem
    cases hmem
  tickets := by
    intro k hk
    rw [h.tickets_nil] at hk
    cases hk

/-! ## The main result -/

/-- **Order status is final**, in every run in which no status of an order is written
    between another operation's read of the order and its write: no later state of the
    run shows another status, and tickets belong to PAID orders. -/
theorem order_status_final {p q r : State} (hp : Opening p)
    (hpq : backend.Run settlingAlone p q) (hqr : backend.Run settlingAlone q r) :
    StatusKept q.world r.world ∧ TicketsPaid r.world.db := by
  have hq : StatusFinal q := hpq.inv (fun _ _ => StatusFinal.step) hp.statusFinal
  have hr : StatusFinal r ∧ StatusKept q.world r.world := by
    refine hqr.inv (I := fun s => StatusFinal s ∧ StatusKept q.world s.world) ?_ ⟨hq, .refl _⟩
    rintro s s' ⟨hs, hk⟩ hstep
    exact ⟨hs.step hstep, hk.trans (statusKept_step hs.fresh hstep)⟩
  exact ⟨hr.2, hr.1.tickets⟩

/-! ### An order paid and its ticket issued -/

/-- The row tells. -/
instance (db : Db) (o : OrderId) : Decidable (Itemless db o) :=
  inferInstanceAs (Decidable (∃ row ∈ db.findOrder o, row.items = []))

/-- A run can be checked for this, step by step. -/
instance (p : State) (r : Request) : Decidable (settlingAlone.req p r) :=
  inferInstanceAs (Decidable True)
instance (p : State) (ch : Choice) (d : Ask) : Decidable (settlingAlone.ask p ch d) :=
  inferInstanceAs (Decidable (ch.fails = false → ∀ x ∈ Ask.sets d, _ ∧ (_ → _)))
instance (p : State) (ch : Choice) (t : Task) : Decidable (settlingAlone.task p ch t) :=
  inferInstanceAs (Decidable True)
instance (p : State) (ms : Nat) : Decidable (settlingAlone.env p ms) :=
  inferInstanceAs (Decidable True)

/-- After `orderAndPay` a second customer orders, cancels and tries to cancel again. -/
def orderAndCancel : List Move :=
  .start (.createOrder (oneTicket 1) 6) :: steps 2 16
    ++ .start (.cancelOrder 2 6) :: steps 3 7 ++ .start (.cancelOrder 2 6) :: steps 4 1

/-- The first order stays PAID while the second one is created and cancelled. -/
theorem order_status_final_payAndCancel :
    ∃ q r, backend.Run settlingAlone (shop [onSale 1 2 1]) q ∧
      backend.Run settlingAlone q r ∧
      q.world.db.orders.map Order.status = [.paid] ∧
      r.world.db.orders.map Order.status = [.paid, .cancelled] ∧
      StatusKept q.world r.world ∧ TicketsPaid r.world.db := by
  obtain ⟨q, hpq, hq, hlater⟩ : ∃ q, backend.Run settlingAlone (shop [onSale 1 2 1]) q ∧
      q.world.db.orders.map Order.status = [.paid] ∧
      (backend.exec settlingAlone q orderAndCancel).any (fun r =>
        decide (r.world.db.orders.map Order.status = [.paid, .cancelled])) = true :=
    exists_run orderAndPay _ (by decide)
  obtain ⟨r, hqr, hr⟩ := exists_run _ _ hlater
  exact ⟨q, r, hpq, hqr, hq, hr, order_status_final (shop_opening (by simp)) hpq hqr⟩

/-! ## A cancelled order with a valid ticket -/

/-- The customer cancels; before the order is marked CANCELLED the SUCCESS
    webhook marks it PAID and issues the ticket. -/
def cancelAcrossPayment : List Move :=
  .start (.createOrder (oneTicket 1) 5) :: steps 0 18
    ++ .start (.cancelOrder 1 5) :: steps 1 1 ++ .start (.webhook (paid 1)) :: steps 2 5

/-- The PAID order becomes CANCELLED and keeps its ticket. -/
theorem status_not_final_cancelAcrossPayment :
    ¬ ∀ p q r, Opening p → backend.Run selling p q → backend.Run selling q r →
      StatusKept q.world r.world ∧ TicketsPaid r.world.db := by
  intro h
  obtain ⟨q, hpq, hpaid, hlater⟩ : ∃ q, backend.Run selling (shop [onSale 1 1 1]) q ∧
      (q.world.db.findOrder 1).map Order.status = some .paid ∧
      (backend.exec selling q (steps 1 6)).any (fun r =>
        decide ((r.world.db.findOrder 1).map Order.status = some .cancelled)) = true :=
    exists_run cancelAcrossPayment _ (by decide)
  obtain ⟨r, hqr, hcancelled⟩ := exists_run _ _ hlater
  obtain ⟨row, hrow, hs⟩ := Option.map_eq_some_iff.mp hpaid
  obtain ⟨row', hrow', hs'⟩ := (h _ q r (shop_opening (by simp)) hpq hqr).1 1 row hrow
    (by rw [hs]; decide)
  rw [hrow', Option.map_some, hs', hs] at hcancelled
  cases hcancelled

end TicketBackend
