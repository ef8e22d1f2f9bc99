import TicketBox.IssueOnceProofs
import TicketBox.Cells

/-! # What is reserved is what open orders hold

    `reservedQty` of a ticket type and of a user's counter are the cells of one
    account; an order holds a share of each while it is PENDING_PAYMENT or PAID
    with no ticket.  The gap between a cell and the holds of the orders is what
    the operations in flight have still to write: createOrder between its order
    row and its inventory transaction, cancelOrder and expireOrder between their
    decrements and their status.  So in a quiet state the gap is zero, provided
    nobody settles or issues an order between another operation's read of it and
    its write, and what has begun to take or give back is finished. -/

namespace TicketBackend

open Interleave TicketStore TicketRedis TicketDb TicketFlow TicketOrder TicketPayment

/-- Every cell is what the open orders hold of it, and none is negative. -/
def HoldsConserved (db : Db) : Prop := ∀ c : Cell, 0 ≤ c.value db ∧ c.value db = held c db

/-- The write moved every cell by the share of `f`. -/
def Shifts (db db' : Db) (u : UserId) (f : TicketTypeId → Int) : Prop :=
  ∀ c : Cell, c.value db' = c.value db + c.share u f

theorem shifts_of {db db' : Db} {s f : TicketTypeId → Int} {p : UserId → TicketTypeId → Int}
    {u : UserId} (hm : Moves db db' s f p)
    (hc : ∀ u' t, db'.counterReserved u' t = db.counterReserved u' t + atUser u f u' t) :
    Shifts db db' u f := by
  intro c
  cases c with
  | type t => exact hm.reservedQty t
  | user u' t => exact hc u' t

/-! ## What is in flight -/

/-- What a call has still to add to the gap between a cell and its holds. -/
def askDue (c : Cell) : Ask → Int
  | .syncInventory ctx _ metas => c.share ctx.userId (metaQty metas)
  | .markCancelled order | .markExpired order => c.weight order.userId order.items
  | _ => 0

/-- The same for a task. -/
def taskDue (c : Cell) : Task → Int
  | .decrementReserved t q _ =>
      match c with
      | .type t' => -atType t q t'
      | .user _ _ => 0
  | .decrementCounter u t q _ =>
      match c with
      | .type _ => 0
      | .user u' t' => -atUser u (atType t q) u' t'
  | _ => 0

/-- The cell without what the orders hold of it. -/
def gap (c : Cell) (w : World) : Int := c.value w.db - held c w.db

/-- The task takes a share out of a cell. -/
def Task.decrements : Task → Bool
  | .decrementReserved .. | .decrementCounter .. => true
  | _ => false

variable {c : Cell}

theorem askDue_of_not_owes {d : Ask} (h : Ask.owes d = false) : askDue c d = 0 := by
  unfold askDue
  split
  all_goals first
    | rfl
    | cases h

theorem taskDue_of_not_decrements {t : Task} (h : Task.decrements t = false) : taskDue c t = 0 := by
  unfold taskDue
  split
  all_goals first
    | rfl
    | cases h

theorem decrements_of_not_owes {t : Task} (h : Task.owes t = false) : Task.decrements t = false := by
  cases t <;> first | rfl | cases h

theorem Settled.due {k : Kind} {prog : Op} (h : Settled k prog) :
    prog.total (askDue c) (taskDue c) = 0 :=
  h.total (fun _ => askDue_of_not_owes)
    fun _ ht => taskDue_of_not_decrements (decrements_of_not_owes ht)

/-- Batches of tasks that decrement nothing. -/
theorem due_par {ts : List Task} {h rest : Op} (hts : ∀ t ∈ ts, Task.decrements t = false) :
    (Prog.par ts h rest).total (askDue c) (taskDue c) = rest.total (askDue c) (taskDue c) := by
  have hsum : (ts.map (taskDue c)).sum = 0 := List.sum_eq_zero fun a ha => by
    obtain ⟨t, ht, rfl⟩ := List.mem_map.mp ha
    exact taskDue_of_not_decrements (hts t ht)
  rw [Prog.total_par, hsum, zero_add]

theorem metaReleases_decrements (site : ReleaseSite) (ctx : CreateCtx) (o : OrderId)
    (metas : List TicketMeta) :
    ∀ t ∈ metaReleases site ctx o metas, Task.decrements t = false := by
  intro t ht
  obtain ⟨m, -, rfl⟩ := List.mem_map.mp ht
  rfl

theorem releases_decrements (site : ReleaseSite) (order : Order) :
    ∀ t ∈ releases site order, Task.decrements t = false := by
  intro t ht
  obtain ⟨i, -, rfl⟩ := List.mem_map.mp ht
  rfl

/-- The decrements of an order take its share out of the cell. -/
theorem due_decrements (order : Order) :
    ((typeDecrements order ++ counterDecrements order).map (taskDue c)).sum
      = -c.weight order.userId order.items := by
  rw [List.map_append, List.sum_append, typeDecrements, counterDecrements, List.map_map,
    List.map_map]
  generalize order.items = items
  induction items with
  | nil => simp
  | cons i items ih =>
      have hhead : taskDue c (.decrementReserved i.ticketTypeId i.quantity i.quantity_pos)
          + taskDue c (.decrementCounter order.userId i.ticketTypeId i.quantity i.quantity_pos)
          = -c.part order.userId i.ticketTypeId i.quantity := by
        cases c with
        | type t => exact add_zero _
        | user u t => exact zero_add _
      simp only [List.map_cons, List.sum_cons, Function.comp_apply, Cell.weight_cons] at ih ⊢
      omega

theorem due_metaReleases {site : ReleaseSite} {ctx : CreateCtx} {o : OrderId}
    {metas : List TicketMeta} {h rest : Op} :
    (Prog.par (metaReleases site ctx o metas) h rest).total (askDue c) (taskDue c)
      = rest.total (askDue c) (taskDue c) :=
  due_par (metaReleases_decrements site ctx o metas)

theorem due_releases {site : ReleaseSite} {order : Order} {h rest : Op} :
    (Prog.par (releases site order) h rest).total (askDue c) (taskDue c)
      = rest.total (askDue c) (taskDue c) :=
  due_par (releases_decrements site order)

theorem due_rollback (ctx : CreateCtx) (o : OrderId) (e : ApiError) (metas : List TicketMeta) :
    (rollback ctx o e metas).total (askDue c) (taskDue c) = 0 := by
  induction metas with
  | nil => rfl
  | cons m metas ih => exact due_metaReleases.trans ih

theorem due_awaitReserve (ctx : CreateCtx) (o : OrderId) (slots : List ReserveSlot) :
    (awaitReserve ctx o slots).total (askDue c) (taskDue c) = 0 := by
  simp only [awaitReserve]
  split
  · next hall =>
    have hsettles := afterReserve_settles ctx o slots (by simpa using hall)
    generalize afterReserve ctx o slots = prog at hsettles
    cases hsettles with
    | threw s _ _ => rfl
    | succeeded _ => rfl
    | rejected k s e _ _ _ => exact due_rollback ctx o e _
  · rfl

/-! ## The condition -/

/-- The user has a counter row for every type of the order. -/
def CountersExist (order : Order) (db : Db) : Prop :=
  ∀ i ∈ order.items, (db.counters (order.userId, i.ticketTypeId)).isSome

/-- createOrder goes through once the row of an order with items is written, cancelOrder and
    expireOrder write their status, what a transaction gives back is reserved, and the
    counters of what is issued exist. -/
def Completes (w : World) (ch : Choice) : Ask → Prop
  | .syncInventory ctx _ metas => metas ≠ [] →
      ch.fails = false ∧ (TicketDb.syncInventory ctx.userId metas w.db).isOk = true
  | .createPaymentUrl (.createOrder _ metas) o u => metas ≠ [] →
      ch.fails = false ∧ ∃ row ∈ w.db.findOrder o, row.userId = u ∧ row.status = .pendingPayment
  | .callGateway (.createOrder _ metas) .. => metas ≠ [] → ch.fails = false
  | .savePaymentUrl (.createOrder _ metas) o amount existing url => metas ≠ [] →
      ch.fails = false ∧ (writePaymentUrl o amount existing url w.db).isSome
  | .markCancelled _ | .markExpired _ => ch.fails = false
  | .failedCommit order | .cronExpireCommit order .. =>
      ch.fails = false → Fits order.userId order.items w.db
  | .successCommit _ order _ | .issueCommit _ order => ch.fails = false → CountersExist order w.db
  | _ => True

/-- A decrement is carried out. -/
def Decrements (w : World) (ch : Choice) : Task → Prop
  | .decrementReserved t _ _ => ch.fails = false ∧ (w.db.findTicketType t).isSome
  | .decrementCounter u t _ _ => ch.fails = false ∧ (w.db.counters (u, t)).isSome
  | _ => True

/-- A sale in which nobody settles or issues an order between another operation's read of
    it and its own write, and what has begun to take or give back is finished. -/
def settlingWholly : Condition where
  req _ r := Request.kind r ≠ .updateTicketType
  ask p ch d := settlingAlone.ask p ch d ∧ issuingAlone.ask p ch d ∧ Completes p.world ch d
  task p ch t := Decrements p.world ch t
  env _ _ := True

theorem settlingWholly_settles : settlingWholly.Implies settlingAlone where
  req _ _ _ := trivial
  ask _ _ _ h := h.1
  task _ _ _ _ := trivial
  env _ _ := id

theorem settlingWholly_issues : settlingWholly.Implies issuingAlone where
  req _ _ := id
  ask _ _ _ h := h.2.1
  task _ _ _ _ := trivial
  env _ _ := id

/-! ## One step -/

theorem gap_same {w w' : World} (ho : w'.db.orders = w.db.orders)
    (ht : w'.db.tickets = w.db.tickets) (htt : w'.db.ticketTypes = w.db.ticketTypes)
    (hc : w'.db.counters = w.db.counters) : gap c w' = gap c w := by
  rw [gap, gap, Cell.value_same htt hc, held, held, heldSum_congr ho ht]

/-- An order marked at the end of cancelOrder or expireOrder. -/
theorem gap_marked {w : World} {db' : Db} {order : Order} {s : OrderStatus} (hw : WorldSound w)
    (hd : Drawn w order) (hset : OrderSet order.id s w.db db' ∧ db'.tickets = w.db.tickets ∧
      db'.ticketTypes = w.db.ticketTypes ∧ db'.counters = w.db.counters)
    (hs : s ≠ .pendingPayment ∧ s ≠ .paid) (hu : Unissued order.id w.db) :
    gap c { w with db := db' } = gap c w + c.weight order.userId order.items := by
  obtain ⟨hset, ht, htt, hcr⟩ := hset
  rw [gap, gap, Cell.value_same htt hcr, held_final hw hd hset ht hs hu]
  omega

/-- An order released by a transaction: its share leaves the cell and the holds. -/
theorem gap_released {w : World} {db' : Db} {order : Order} {s : OrderStatus} (hw : WorldSound w)
    (hd : Drawn w order) (hrel : Released order s w.db db')
    (hs : s ≠ .pendingPayment ∧ s ≠ .paid) (hu : Unissued order.id w.db)
    (hfits : Fits order.userId order.items w.db) :
    gap c { w with db := db' } = gap c w := by
  obtain ⟨hm, hcr⟩ := hrel.fits hfits
  have hshift := shifts_of hm hcr c
  rw [Cell.share_neg] at hshift
  rw [gap, gap, hshift, held_final hw hd hrel.set hrel.tickets hs hu, Cell.weight]
  omega

/-- The share issuing takes out of the cell. -/
theorem shifts_issued {order : Order} {db db' : Db} (hi : Issued order order.items db db')
    (hex : CountersExist order db) : Shifts db db' order.userId (-qtyOf order.items) :=
  shifts_of hi.moves (hi.held hex)

/-- The calls around the gateway have nothing due. -/
theorem due_paying {d : Ask} {x : CreateCtx × OrderId × List TicketMeta}
    (h : Ask.paying d = some x) : askDue c d = 0 := by
  unfold Ask.paying at h
  split at h
  all_goals first
    | rfl
    | cases h

/-- The condition leaves an order with items no way into the catch block around the gateway. -/
theorem gateway_failed {ch : Choice} {w : World} {d : Ask} {ctx : CreateCtx} {o : OrderId}
    {metas : List TicketMeta} (hd : Ask.paying d = some (ctx, o, metas))
    (hf : ch.fails = true ∨
      (∃ u, d = .createPaymentUrl (.createOrder ctx metas) o u ∧
        ∀ r, w.db.findOrder o = some r → r.userId ≠ u ∨ r.status ≠ .pendingPayment) ∨
      (∃ amount existing url, d = .savePaymentUrl (.createOrder ctx metas) o amount existing url ∧
        writePaymentUrl o amount existing url w.db = none)) (hg : Completes w ch d) :
    metas = [] := by
  by_contra hne
  have hok : ch.fails = false := by
    unfold Ask.paying at hd
    split at hd <;> cases hd
    · exact (hg hne).1
    · exact hg hne
    · exact (hg hne).1
  rcases hf with hf | ⟨u, rfl, hrow⟩ | ⟨amount, existing, url, rfl, hnone⟩
  · rw [hok] at hf
    cases hf
  · obtain ⟨-, row, hfind, hu, hp⟩ := hg hne
    rcases hrow row hfind with hno | hno
    · exact hno hu
    · exact hno hp
  · have hsome := (hg hne).2
    rw [hnone] at hsome
    cases hsome

/-- What a call writes and goes on to write balance. -/
theorem asked_gap {ch : Choice} {w w' : World} {d : Ask} {prog : Op} (h : Asked ch w d w' prog)
    (hk : Ask.kind d ≠ .updateTicketType) (hw : WorldSound w) (hs : AskSound w d)
    (honce : Once w.db) (hr : AskReady w d) (hg : Completes w ch d) :
    gap c w' + prog.total (askDue c) (taskDue c) = gap c w + askDue c d := by
  have hplain : gap c w' = gap c w → prog.total (askDue c) (taskDue c) = 0 → askDue c d = 0 →
      gap c w' + prog.total (askDue c) (taskDue c) = gap c w + askDue c d := by
    intro h1 h2 h3
    rw [h1, h2, h3]
  cases h with
  | idle _ _ _ _ _ howes hp =>
      exact hplain (gap_same rfl rfl rfl rfl) hp.due (askDue_of_not_owes howes)
  | drawn ctx metas => exact hplain rfl (due_awaitReserve ..) rfl
  | reserveThrew ctx o slots s _ _ => exact hplain rfl (due_awaitReserve ..) rfl
  | reserved ctx o slots s _ _ _ _ _ => exact hplain rfl (due_awaitReserve ..) rfl
  | persisted ctx o metas db _ hdb =>
      obtain ⟨rfl, -⟩ := insertOrder_eq hdb
      have hvalue : c.value { w.db with orders := w.db.orders ++ [newOrder ctx o metas] }
          = c.value w.db := by cases c <;> rfl
      simp only [gap, held_inserted, hvalue, Prog.total_ask, askDue]
      omega
  | persistFailed ctx o metas => exact hplain rfl due_metaReleases rfl
  | synced ctx o metas db _ hdb =>
      obtain ⟨ho, ht⟩ := syncInventory_same hdb
      have hshift := shifts_of (syncInventory_moves hdb) (syncInventory_counterReserved hdb) c
      simp only [gap, hshift, held, heldSum_congr ho ht, Prog.total_ask, askDue]
      omega
  -- the condition lets only an order without items come here
  | syncFailed ctx o metas e hf =>
      by_cases hnil : metas = []
      · subst hnil
        refine hplain rfl due_metaReleases ?_
        rw [askDue, metaQty_nil_eq, Cell.share_zero]
      obtain ⟨hok, hsync⟩ := hg hnil
      rcases hf with hf | ⟨t, ht⟩
      · rw [hok] at hf
        cases hf
      · rw [ht] at hsync
        cases hsync
  | paying _ ctx o metas payments d' hd hd' _ =>
      refine hplain (gap_same rfl rfl rfl rfl) ?_ (due_paying hd)
      rcases hd' with hd' | hd'
      · exact due_paying hd'
      · exact askDue_of_not_owes hd'
  -- the gateway may fail only for an order without items
  | payingFailed _ ctx o metas e hd hf =>
      have hnil := gateway_failed hd hf hg
      subst hnil
      exact hplain rfl rfl (due_paying hd)
  | deleted _ o e db hd _ hdb =>
      have hheld := held_deleted (c := c) hw.keyed hdb
      obtain ⟨rfl, -⟩ := deleteOrder_eq hdb
      have hvalue : c.value { w.db with orders := RowTable.remove Order.id o w.db.orders }
          = c.value w.db := by cases c <;> rfl
      refine hplain ?_ rfl (by rcases hd with rfl | rfl <;> rfl)
      rw [gap, gap, hheld, hvalue]
  | deleteRefused _ o e e' hd => exact hplain rfl rfl (by rcases hd with rfl | rfl <;> rfl)
  -- the decrements and the status write that follows them cancel out
  | cancelling o u order _ _ _ =>
      refine hplain rfl ?_ rfl
      rw [due_releases, Prog.total_par, due_decrements, Prog.total_ask, askDue]
      omega
  | cancelled order db hf hdb =>
      have hset := commitCancelled_set hdb
      rw [gap_marked hw hs.2 hset (by simp) (hr.settled honce rfl hset.1.found), Prog.total_ret,
        askDue, add_zero]
  | expiring o order _ _ =>
      refine hplain rfl ?_ rfl
      have := due_decrements (c := c) order
      rw [List.map_append, List.sum_append] at this
      rw [due_releases, Prog.total_par, Prog.total_par, Prog.total_ask, askDue]
      omega
  | expired order db hf hdb =>
      have hset := commitExpired_set hdb
      rw [gap_marked hw hs.2 hset (by simp) (hr.settled honce rfl hset.1.found), Prog.total_ret,
        askDue, add_zero]
  -- the items are released already: the write may fail only where there are none
  | markFailed _ order hd hf =>
      have hnil := hr.mark_failed hd hf (by rcases hd with rfl | rfl <;> exact hg)
      have hzero : c.weight order.userId order.items = 0 := by rw [hnil, Cell.weight_nil]
      refine hplain rfl rfl ?_
      rcases hd with rfl | rfl <;> exact hzero
  | failed order db hf hdb =>
      have hrel := commitFailed_released hdb
      refine hplain ?_ due_releases rfl
      exact gap_released hw hs.2 hrel (by simp) (hr.settled honce rfl hrel.set.found) (hg hf)
  -- what the order holds and the counter go down together
  | succeeded dto order gateName db hf hdb =>
      obtain ⟨hset, hi⟩ := commitSuccess_issued hdb
      rw [← show order.id = dto.orderId from hs.2.1] at hset
      have hex := hg hf
      have hu := hr.settled honce (congrArg some hs.2.1.symm) hset.found
      have hheld := heldSum_issued_set c.weight hw.keyed hset hi hu
        (row_of_copy hw hs.2.2) fun _ => Cell.weight_nil ..
      have hshift := shifts_issued hi hex c
      rw [Cell.share_neg, ← Cell.weight] at hshift
      refine hplain ?_ rfl rfl
      rw [gap, gap, held, hheld, hshift, ← held]
      omega
  | recordDeleted order => exact hplain rfl rfl rfl
  -- paid without tickets, the order holds what it held before
  | cronPaid order rest db hf hdb =>
      obtain ⟨hset, ht, htt, hcr⟩ := commitCronPaid_set hdb
      have hu := hr.settled honce rfl hset.found
      refine hplain ?_ rfl rfl
      rw [gap, gap, Cell.value_same htt hcr, held, heldSum_paid hw.keyed hset ht hu, ← held]
  | cronPaidSkipped order rest _ => exact hplain rfl rfl rfl
  | enqueued order rest => exact hplain rfl (settled_cronNext rest).due rfl
  | enqueueFailed order rest _ => exact hplain rfl rfl rfl
  | cronExpired order res rest db hf hdb =>
      have hrel := commitCronExpire_released hdb
      refine hplain ?_ (due_releases.trans (settled_cronNext rest).due) rfl
      exact gap_released hw (hs.2 order List.mem_cons_self) hrel (orderStatus_final res)
        (hr.settled honce rfl hrel.set.found) (hg hf)
  -- the same for the job, of an order paid before
  | issued job order db hf hdb =>
      obtain ⟨ho, hi⟩ := commitIssue_issued hdb
      obtain ⟨hp, hno⟩ := hr.issued
      have hex := hg hf
      have hheld := heldSum_issued_same c.weight hw.keyed ho hi hp hno
        (row_of_copy hw hs.2.2.2) fun _ => Cell.weight_nil ..
      have hshift := shifts_issued hi hex c
      rw [Cell.share_neg, ← Cell.weight] at hshift
      refine hplain ?_ rfl rfl
      rw [gap, gap, held, hheld, hshift, ← held]
      omega
  | completed job answer => exact hplain rfl rfl rfl
  | typeWritten => exact absurd rfl hk
  | stockSeeded => exact absurd rfl hk
  | seedFailed => exact absurd rfl hk
  | soldOutSet => exact absurd rfl hk

/-- A task done writes what it owes to the cell. -/
theorem performed_value {ch : Choice} {w w' : World} {t : Task} {res : TaskResult Task}
    (h : Performed ch w t w' res) (hres : res ≠ .threw) :
    c.value w'.db = c.value w.db + taskDue c t := by
  have hplain : c.value w'.db = c.value w.db → Task.decrements t = false →
      c.value w'.db = c.value w.db + taskDue c t := by
    intro h1 h2
    rw [h1, taskDue_of_not_decrements h2, add_zero]
  cases h with
  | threw t _ => exact absurd rfl hres
  | ended t howes => exact hplain rfl (decrements_of_not_owes howes)
  | looked t t' howes _ _ => exact hplain rfl (decrements_of_not_owes howes)
  | stockSet t available => exact hplain rfl rfl
  | limitSet u t n => exact hplain rfl rfl
  | released site p => exact hplain rfl rfl
  | decremented t q pos db hdb =>
      obtain ⟨-, -, hcr⟩ := decrementReserved_same hdb
      cases c with
      | type t' => rw [Cell.value, (decrementReserved_moves hdb).reservedQty, atType_neg]; rfl
      | user u t' => simp [Cell.value, Db.counterReserved, hcr, taskDue]
  | counterDecremented u t q pos db hdb =>
      obtain ⟨-, -, htt⟩ := decrementCounter_same hdb
      cases c with
      | type t' => simp [Cell.value, Db.reservedQty, Db.findTicketType, htt, taskDue]
      | user u' t' =>
          rw [Cell.value, decrementCounter_counterReserved hdb, atType_neg, atUser_neg]; rfl

/-- A task done writes what it owes. -/
theorem performed_gap {ch : Choice} {w w' : World} {t : Task} {res : TaskResult Task}
    (h : Performed ch w t w' res) (hres : res ≠ .threw) : gap c w' = gap c w + taskDue c t := by
  obtain ⟨ho, ht, -⟩ := performed_orders h
  simp only [gap, held, heldSum_congr ho ht, performed_value h hres]
  omega

/-! ## Batches that may throw -/

/-- What stands behind a batch that decrements nothing has nothing due. -/
abbrev Sheltered (c : Cell) (prog : Op) : Prop :=
  prog.Sheltered (askDue c) (taskDue c) (fun t => Task.decrements t = false) (fun x => x = 0)

theorem Settled.sheltered {k : Kind} {prog : Op} (h : Settled k prog) : Sheltered c prog := by
  induction prog with
  | ret a => trivial
  | ask d => trivial
  | par ts hd rest ihh ihr =>
      obtain ⟨-, hh, hr⟩ := settled_par.mp h
      exact ⟨hh.due, fun _ => hr.due, ihh hh, ihr hr⟩

/-- A batch of decrements in front of a mark. -/
theorem sheltered_decrements {ts : List Task} {rest : Op}
    (hts : ∀ t ∈ ts, Task.decrements t = true) (hrest : Sheltered c rest) :
    Sheltered c (.par ts thrown rest) := by
  refine .par (fun ⟨t, ht, hno⟩ => ?_) hrest
  rw [hts t ht] at hno
  cases hno

theorem decrements_typeDecrements (order : Order) :
    ∀ t ∈ typeDecrements order, Task.decrements t = true := by
  intro t ht
  obtain ⟨i, -, rfl⟩ := List.mem_map.mp ht
  rfl

theorem decrements_counterDecrements (order : Order) :
    ∀ t ∈ counterDecrements order, Task.decrements t = true := by
  intro t ht
  obtain ⟨i, -, rfl⟩ := List.mem_map.mp ht
  rfl

theorem sheltered_awaitReserve (ctx : CreateCtx) (o : OrderId) (slots : List ReserveSlot) :
    Sheltered c (awaitReserve ctx o slots) := by
  simp only [awaitReserve]
  split
  · next hall =>
    have hsettles := afterReserve_settles ctx o slots (by simpa using hall)
    generalize afterReserve ctx o slots = prog at hsettles
    cases hsettles with
    | threw s _ _ => trivial
    | succeeded _ => trivial
    | rejected k s e _ _ _ =>
        generalize (slots.take k).reverse.map ReserveSlot.item = metas
        induction metas with
        | nil => trivial
        | cons m metas ih => exact .par (fun _ => due_rollback ctx o e metas) ih
  · trivial

theorem asked_sheltered {ch : Choice} {w w' : World} {d : Ask} {prog : Op}
    (h : Asked ch w d w' prog) (hg : Completes w ch d) : Sheltered c prog := by
  cases h with
  | idle _ _ _ _ _ _ hp => exact hp.sheltered
  | drawn ctx metas => exact sheltered_awaitReserve ..
  | reserveThrew ctx o slots s _ _ => exact sheltered_awaitReserve ..
  | reserved ctx o slots s _ _ _ _ _ => exact sheltered_awaitReserve ..
  | persistFailed ctx o metas => exact .par (fun _ => rfl) trivial
  | syncFailed ctx o metas e _ => exact .par (fun _ => rfl) trivial
  | payingFailed _ ctx o metas e hd hf =>
      have hnil := gateway_failed hd hf hg
      subst hnil
      exact .par (fun _ => rfl) (.par (fun _ => rfl) trivial)
  | cancelling o u order _ _ _ =>
      refine .par (fun _ => ?_) (sheltered_decrements (fun t ht => ?_) trivial)
      · rw [Prog.total_par, due_decrements, Prog.total_ask, askDue]
        omega
      · rcases List.mem_append.mp ht with ht | ht
        · exact decrements_typeDecrements order t ht
        · exact decrements_counterDecrements order t ht
  | expiring o order _ _ =>
      have := due_decrements (c := c) order
      rw [List.map_append, List.sum_append] at this
      refine .par (fun _ => ?_) (sheltered_decrements (decrements_counterDecrements order)
        (sheltered_decrements (decrements_typeDecrements order) trivial))
      rw [Prog.total_par, Prog.total_par, Prog.total_ask, askDue]
      omega
  | failed order db _ _ => exact .par (fun _ => rfl) trivial
  | enqueued order rest => exact (settled_cronNext rest).sheltered
  | cronExpired order res rest db _ _ =>
      exact ⟨(settled_cronNext rest).due, fun _ => (settled_cronNext rest).due,
        (settled_cronNext rest).sheltered, (settled_cronNext rest).sheltered⟩
  | typeWritten existing dto db row _ _ _ hp =>
      rcases hp with rfl | ⟨-, -, -, hp⟩
      · trivial
      · exact hp.sheltered
  | stockSeeded row _ hp => exact hp.sheltered
  | _ => trivial

theorem sheltered_step {p q : State} (hp : ∀ prog ∈ p.ops, Sheltered c prog)
    (h : backend.Step settlingWholly p q) : ∀ prog ∈ q.ops, Sheltered c prog := by
  refine h.sheltered hp rfl ?_ ?_ ?_
  · intro r prog _ he
    exact (settled_enter he).sheltered
  · intro ch d w' prog _ hg hd
    exact asked_sheltered (dispatch_asked hd) hg.2.2
  · intro ch t t' w' hperf
    cases perform_performed hperf with
    | looked _ _ howes _ _ => exact decrements_of_not_owes howes

/-! ## All runs -/

/-- What holds in a run that settles and issues orders wholly. -/
structure Holding (p : State) : Prop extends Uncontested p where
  sheltered : ∀ c, ∀ prog ∈ p.ops, Sheltered c prog
  balance : ∀ c, gap c p.world + p.total (askDue c) (taskDue c) = 0

/-- A decrement under the condition does not throw. -/
theorem decrements_of_threw {ch : Choice} {w w' : World} {t : Task}
    (h : Performed ch w t w' .threw) (hg : Decrements w ch t) : Task.decrements t = false := by
  cases h with
  | threw t hf =>
      cases t with
      | decrementReserved t q pos =>
          obtain ⟨hok, hrow⟩ := hg
          rcases hf with hf | ⟨t', q', pos', ⟨⟩, hnone⟩ | ⟨u, t', q', pos', ⟨⟩, -⟩
          · rw [hok] at hf
            cases hf
          · rw [hnone] at hrow
            cases hrow
      | decrementCounter u t q pos =>
          obtain ⟨hok, hrow⟩ := hg
          rcases hf with hf | ⟨t', q', pos', ⟨⟩, -⟩ | ⟨u', t', q', pos', ⟨⟩, hnone⟩
          · rw [hok] at hf
            cases hf
          · rw [hnone] at hrow
            cases hrow
      | _ => rfl

theorem Holding.step {p q : State} (hp : Holding p) (h : backend.Step settlingWholly p q) :
    Holding q := by
  refine ⟨hp.toUncontested.step settlingWholly_settles settlingWholly_issues h,
    fun c => sheltered_step (hp.sheltered c) h, fun c => ?_⟩
  rw [← hp.balance c]
  refine h.balance Eq (fun _ => rfl) (fun _ _ _ he => by rw [he]) (gap c) ?_ ?_ ?_ ?_ ?_ ?_
  · intro r prog _ he
    exact (settled_enter he).due
  · intro ch d w' prog hmem hg hd
    exact asked_gap (dispatch_asked hd) (hp.issuing.kinds.ask hmem)
      hp.final.sound.toWorldSound (hp.final.sound.ask hmem) hp.issuing.once (hp.ready hmem) hg.2.2
  · intro ch t w' _ _ hperf
    exact performed_gap (perform_performed hperf) (by simp)
  · intro ch t t' w' _ _ hperf
    have hgap := performed_gap (c := c) (perform_performed hperf) (by simp)
    cases perform_performed hperf with
    | looked _ _ _ howes _ =>
        rw [taskDue_of_not_decrements (decrements_of_not_owes howes), add_zero]
        exact hgap
  · intro ch t w' ts hh rest hmem hts hg hperf
    have hno := decrements_of_threw (perform_performed hperf) hg
    obtain ⟨hhandler, hrest, -⟩ := hp.sheltered c _ hmem
    cases perform_performed hperf with
    | threw =>
        rw [hhandler, hrest ⟨t, hts, hno⟩, taskDue_of_not_decrements hno]
        omega
  · exact fun ms _ => rfl

theorem Opening.holding {p : State} (h : Opening p) : Holding p where
  toUncontested := h.uncontested
  sheltered c prog hp := by
    rw [h.ops_nil] at hp
    cases hp
  balance c := by
    have hvalue : c.value p.world.db = 0 := by
      cases c with
      | type t => exact (h.quantities t).2.1
      | user u t => exact counterReserved_of_none (h.counters_none _)
    rw [gap, hvalue, held, heldSum, h.orders_nil, Pool.total, h.ops_nil]
    rfl

/-! ## The main result -/

/-- **Reserved-quantity conservation**, in every quiet state of a run in which nobody
    settles or issues an order between another operation's read and write, and what has
    begun to take or give back is finished. -/
theorem holds_conserved {p q : State} (hp : Opening p) (h : backend.Run settlingWholly p q)
    (hquiet : q.Quiet) : HoldsConserved q.world.db := by
  have hq : Holding q := h.inv (fun _ _ => Holding.step) hp.holding
  intro c
  have hbalance := hq.balance c
  rw [hquiet.total, add_zero, gap] at hbalance
  have := held_nonneg c q.world.db
  omega

/-! ### One order paid, one cancelled -/

/-- The counters of the items are looked up. -/
instance (order : Order) (db : Db) : Decidable (CountersExist order db) :=
  inferInstanceAs (Decidable (∀ i ∈ order.items, _))

/-- Call by call. -/
instance (w : World) (ch : Choice) (d : Ask) : Decidable (Completes w ch d) := by
  unfold Completes
  split <;> infer_instance

/-- Task by task. -/
instance (w : World) (ch : Choice) (t : Task) : Decidable (Decrements w ch t) := by
  unfold Decrements
  split <;> infer_instance

/-- A run can be checked for this, step by step. -/
instance (p : State) (r : Request) : Decidable (settlingWholly.req p r) :=
  inferInstanceAs (Decidable (_ ≠ _))
instance (p : State) (ch : Choice) (d : Ask) : Decidable (settlingWholly.ask p ch d) :=
  inferInstanceAs (Decidable (settlingAlone.ask p ch d ∧ issuingAlone.ask p ch d ∧ _))
instance (p : State) (ch : Choice) (t : Task) : Decidable (settlingWholly.task p ch t) :=
  inferInstanceAs (Decidable (Decrements p.world ch t))
instance (p : State) (ms : Nat) : Decidable (settlingWholly.env p ms) :=
  inferInstanceAs (Decidable True)

/-- Two customers order; the first order is paid and the second cancelled. -/
def payOneCancelOne : List Move :=
  .start (.createOrder (oneTicket 1) 5) :: steps 0 18 ++ .start (.webhook (paid 1)) :: steps 1 5
    ++ .start (.createOrder (oneTicket 1) 6) :: steps 2 16
    ++ .start (.cancelOrder 2 6) :: steps 3 7

/-- Both orders are settled and nothing is left reserved. -/
theorem holds_conserved_payOneCancelOne : ∃ q : State,
    q.world.db.orders.map Order.status = [.paid, .cancelled] ∧ HoldsConserved q.world.db := by
  obtain ⟨q, hrun, hq, hquiet⟩ : ∃ q, backend.Run settlingWholly (shop [onSale 1 2 1]) q ∧
      q.world.db.orders.map Order.status = [.paid, .cancelled] ∧ q.Quiet :=
    exists_run payOneCancelOne _ (by decide)
  exact ⟨q, hq, holds_conserved (shop_opening (by simp)) hrun hquiet⟩

/-! ## One order cancelled twice -/

/-- Two cancelOrder calls read the order while it is PENDING_PAYMENT; each of
    them decrements. -/
def cancelTwice : List Move :=
  .start (.createOrder (oneTicket 1) 5) :: steps 0 18
    ++ .start (.cancelOrder 1 5) :: .start (.cancelOrder 1 5) :: steps 1 1 ++ steps 2 1
    ++ steps 1 6 ++ steps 2 6

/-- The order's hold is released twice and `reservedQty` is negative. -/
theorem holds_broken_cancelTwice :
    ¬ ∀ p q, Opening p → backend.Run selling p q → q.Quiet → HoldsConserved q.world.db := by
  intro h
  obtain ⟨q, hrun, hquiet, hneg⟩ : ∃ q, backend.Run selling (shop [onSale 1 1 1]) q ∧
      q.Quiet ∧ q.world.db.reservedQty 1 < 0 := exists_run cancelTwice _ (by decide)
  have hnonneg : 0 ≤ q.world.db.reservedQty 1 :=
    (h _ q (shop_opening (by simp)) hrun hquiet (.type 1)).1
  omega

end TicketBackend
