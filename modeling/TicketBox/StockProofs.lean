import TicketBox.Inputs
import TicketBox.OversellProofs
import TicketBox.Seeds

/-! # Redis and Postgres agree on stock

    `stock:{t}` is decreased first and the inventory is written later, so
    between the two the key runs ahead of `totalQty - soldQty - reservedQty` by
    what the operations in flight have taken and not yet booked, or booked and
    not yet given back.  The file keeps the sum of the two at zero, as long as
    nobody writes an inventory between the read of a seed and its set, the stock
    is overwritten only with nothing in flight, and every release finds its
    record.  While an update has written `totalQty` and not yet the stock, the
    sum is whatever it is: its SET ends that. -/

namespace TicketBackend

open Interleave TicketStore TicketRedis TicketDb TicketFlow TicketOrder TicketPayment
  TicketServices

/-- Every stock key holds what is available. -/
def StockAgrees (w : World) : Prop :=
  ∀ t s, w.redis.stock t = some s → s = available w.db t

/-- How far the stock key is off; a missing key is not. -/
def drift (t : TicketTypeId) (w : World) : Int :=
  match w.redis.stock t with
  | none => 0
  | some s => s - available w.db t

/-- Without a drift the stock agrees. -/
theorem stockAgrees_of_drift {w : World} (h : ∀ t, drift t w = 0) : StockAgrees w := by
  intro t s hs
  have hzero := h t
  simp only [drift, hs] at hzero
  omega

/-- Where it agrees there is no drift. -/
theorem StockAgrees.drift {w : World} (h : StockAgrees w) (t : TicketTypeId) : drift t w = 0 := by
  unfold TicketBackend.drift
  split
  · rfl
  · next s hs =>
    rw [h t s hs]
    omega

/-! ## What is in flight -/

/-- The release gives back what its operation took or unbooked itself; the
    others follow a transaction that found the order settled. -/
def ReleaseSite.gives : ReleaseSite → Bool
  | .webhookFailed false | .cron false => false
  | _ => true

/-- What a call has still to add to the drift. -/
def askLag (t : TicketTypeId) : Ask → Int
  | .reserveTickets ctx _ slots => accepted (.type t) ctx slots
  | .persistOrder _ _ metas | .syncInventory _ _ metas => metaQty metas t
  | _ => 0

/-- The same for a task. -/
def taskLag (t : TicketTypeId) : Task → Int
  | .releaseReservation site p =>
      if ReleaseSite.gives site then atType p.ticketTypeId p.quantity t else 0
  | .decrementReserved t' q _ => -atType t' q t
  | _ => 0

variable {t : TicketTypeId}

/-- A call that owes nothing lags by nothing. -/
theorem askLag_of_not_owes {d : Ask} (h : Ask.owes d = false) : askLag t d = 0 := by
  unfold askLag
  split
  all_goals first
    | rfl
    | cases h

/-- Nor does such a task. -/
theorem taskLag_of_not_owes {task : Task} (h : Task.owes task = false) : taskLag t task = 0 := by
  cases task with
  | releaseReservation site p =>
      cases site with
      | webhookFailed released =>
          cases released
          · rfl
          · cases h
      | cron released =>
          cases released
          · rfl
          · cases h
      | _ => cases h
  | decrementReserved => cases h
  | _ => rfl

/-- Nor does what is left of such an operation. -/
theorem Settled.lag_zero {k : Kind} {prog : Op} (h : Settled k prog) :
    prog.total (askLag t) (taskLag t) = 0 :=
  h.total (fun _ => askLag_of_not_owes) fun _ => taskLag_of_not_owes

/-- Nor does a createOrder that awaits its payment. -/
theorem lag_zero_of_paying {d : Ask} {x : CreateCtx × OrderId × List TicketMeta}
    (h : Ask.paying d = some x) : askLag t d = 0 := by
  unfold Ask.paying at h
  split at h
  all_goals first
    | rfl
    | cases h

/-- The releases of some validated items. -/
theorem lag_metaReleases {site : ReleaseSite} (hsite : ReleaseSite.gives site = true)
    (ctx : CreateCtx) (o : OrderId) (metas : List TicketMeta) :
    ((metaReleases site ctx o metas).map (taskLag t)).sum = metaQty metas t := by
  rw [metaReleases, List.map_map, metaQty]
  congr 1
  exact List.map_congr_left fun m _ => if_pos hsite

/-- The releases of an order. -/
theorem lag_releases {site : ReleaseSite} (hsite : ReleaseSite.gives site = true) (order : Order) :
    ((releases site order).map (taskLag t)).sum = qtyOf order.items t := by
  rw [releases, List.map_map, qtyOf]
  congr 1
  exact List.map_congr_left fun i _ => if_pos hsite

/-- The decrements of the types lag by the order's items. -/
theorem lag_typeDecrements (order : Order) :
    ((typeDecrements order).map (taskLag t)).sum = -qtyOf order.items t := by
  rw [typeDecrements, List.map_map, qtyOf, List.sum_neg, List.map_map]
  rfl

/-- Those of the counters lag by nothing. -/
theorem lag_counterDecrements (order : Order) :
    ((counterDecrements order).map (taskLag t)).sum = 0 :=
  List.sum_eq_zero fun x hx => by
    obtain ⟨task, htask, rfl⟩ := List.mem_map.mp hx
    obtain ⟨i, -, rfl⟩ := List.mem_map.mp htask
    rfl

/-- The decrements that reverse a created order. -/
theorem lag_metaDecrements (u : UserId) (metas : List TicketMeta) :
    ((metas.map (fun m => Task.decrementReserved m.ticketTypeId m.quantity m.quantity_pos)
      ++ metas.map (fun m => Task.decrementCounter u m.ticketTypeId m.quantity m.quantity_pos)).map
        (taskLag t)).sum = -metaQty metas t := by
  rw [List.map_append, List.sum_append, List.map_map, List.map_map, metaQty, List.sum_neg,
    List.map_map]
  have hcounters : (metas.map (taskLag t ∘ fun m =>
      Task.decrementCounter u m.ticketTypeId m.quantity m.quantity_pos)).sum = 0 :=
    List.sum_eq_zero fun x hx => by
      obtain ⟨m, -, rfl⟩ := List.mem_map.mp hx
      rfl
  rw [hcounters, add_zero]
  rfl

/-- The stock of one item's reservations. -/
theorem lag_awaitReserve {ctx : CreateCtx} {o : OrderId} {slots : List ReserveSlot}
    (h : slots.length ≤ 1) :
    (awaitReserve ctx o slots).total (askLag t) (taskLag t) = accepted (.type t) ctx slots :=
  (total_awaitReserve (fun _ => rfl) (fun _ => rfl) (fun _ => rfl) slots).2 h

/-! ## The condition -/

/-- An update of the type has written its row and not yet the stock. -/
def SeedPending (t : TicketTypeId) (p : State) : Prop :=
  ∃ row, .ask (.seedStock row) ∈ p.ops ∧ row.id = t

/-- The stock is overwritten with nothing in flight, of a type that is not oversold. -/
def SeedsSettled (p : State) : Ask → Prop
  | .seedStock row =>
      0 ≤ available p.world.db row.id ∧ p.total (askLag row.id) (taskLag row.id) = 0
  | _ => True

/-- A release finds its record exactly if it has something to give back, a
    missing stock key is set of a type that is not oversold, and a decrement
    finds its row. -/
def ReleasesGiven (p : State) : Task → Prop
  | .releaseReservation site q =>
      ReleaseSite.gives site = true ↔ Matches q p.world.now p.world.redis
  | .setNxStock t _ => p.world.redis.stock t = none → 0 ≤ available p.world.db t
  | .decrementReserved t _ _ => (p.world.db.findTicketType t).isSome
  | .decrementCounter u t _ _ => (p.world.db.counters (u, t)).isSome
  | _ => True

/-- At most one item is asked for. -/
def SingleItem (todo : List OrderItemDto) (metas : List TicketMeta) : Prop :=
  todo.length + metas.length ≤ 1

/-- No step fails; nobody writes the inventory of a type between the read of a seed and
    its set, and the stock is overwritten only when nothing is in flight. -/
def seedingFresh : Condition where
  req _ r := RequestGiven SingleItem (fun _ => True) r
  ask p ch d := ch.fails = false ∧ SeedsAlone p (Ask.inventory d) ∧ ReleasesHeld p.world.db d ∧
    SeedsSettled p d
  task p ch task := ch.fails = false ∧ SeedsAlone p (Task.inventory task) ∧ ReleasesGiven p task
  env _ _ := True

/-! ## Writes -/

/-- The drift depends on the key and on what is available. -/
theorem drift_same {w w' : World} (hs : w'.redis.stock t = w.redis.stock t)
    (ha : available w'.db t = available w.db t) : drift t w' = drift t w := by
  simp only [drift, hs, ha]

/-- A write of the inventory drifts by what it moves. -/
theorem drift_moves {w : World} {db : Db} {s f : TicketTypeId → Int}
    {p : UserId → TicketTypeId → Int} (h : Moves w.db db s f p)
    (hkey : (w.redis.stock t).isSome ∨ s t + f t = 0) :
    drift t { w with db := db } = drift t w + (s t + f t) := by
  simp only [drift, available_moves h]
  split
  · next hnone =>
    rcases hkey with hkey | hkey
    · rw [hnone] at hkey
      cases hkey
    · omega
  · omega

/-! ## Awaited calls -/

/-- The calls that overwrite the stock of a type or the total it is computed from. -/
def Ask.restocks (t : TicketTypeId) : Ask → Prop
  | .writeTicketType existing _ => existing.id = t
  | .seedStock row => row.id = t
  | _ => False

/-- A reservation that takes effect takes its tickets from the stock. -/
theorem drift_reserved {w : World} {p : ReserveParams} (h : CanReserve p w.now w.redis) :
    drift t { w with redis := TicketRedis.reserved p w.now w.redis }
      = drift t w - atType p.ticketTypeId p.quantity t := by
  have hq := p.quantity_pos
  by_cases ht : p.ticketTypeId = t
  · subst ht
    have hstock : 0 < stockOf w.redis p.ticketTypeId := lt_of_lt_of_le hq h.1
    cases hs : w.redis.stock p.ticketTypeId with
    | none => simp [stockOf, hs] at hstock
    | some s =>
        simp only [drift, TicketRedis.reserved, Function.update_self, stockOf, hs, atType,
          Option.getD_some, if_true]
        omega
  · rw [atType, if_neg ht, sub_zero]
    exact drift_same (Function.update_of_ne (Ne.symm ht) _ _) rfl

/-- A release that takes effect puts its tickets back. -/
theorem drift_released {w : World} {p : ReleaseParams}
    (hkey : (w.redis.stock p.ticketTypeId).isSome) :
    drift t { w with redis := TicketRedis.released p w.redis }
      = drift t w + atType p.ticketTypeId p.quantity t := by
  by_cases ht : p.ticketTypeId = t
  · subst ht
    obtain ⟨s, hs⟩ := Option.isSome_iff_exists.mp hkey
    simp only [drift, TicketRedis.released, Function.update_self, stockOf, hs, atType,
      Option.getD_some, if_true]
    omega
  · rw [atType, if_neg ht, add_zero]
    exact drift_same (Function.update_of_ne (Ne.symm ht) _ _) rfl

/-- The types of a request have their keys. -/
theorem key_of_metas {r : Redis} {ctx : CreateCtx} {metas : List TicketMeta}
    (h : MetasTracked r ctx metas) : (r.stock t).isSome ∨ 0 + metaQty metas t = 0 := by
  by_cases hin : ∃ m ∈ metas, m.ticketTypeId = t
  · obtain ⟨m, hm, rfl⟩ := hin
    exact .inl (h m hm).2
  · refine .inr ?_
    rw [zero_add]
    exact metaQty_eq_zero fun m hm ht => hin ⟨m, hm, ht⟩

/-- So have those of an order. -/
theorem key_of_items {r : Redis} {order : Order} (h : ItemsTracked r order) :
    (r.stock t).isSome ∨ 0 + (-qtyOf order.items) t = 0 := by
  by_cases hin : ∃ i ∈ order.items, i.ticketTypeId = t
  · obtain ⟨i, hi, rfl⟩ := hin
    exact .inl (h i hi).2
  · refine .inr ?_
    rw [Pi.neg_apply, zero_add, neg_eq_zero]
    exact qtyOf_eq_zero fun i hi ht => hin ⟨i, hi, ht⟩

/-- What a call writes and goes on to write balance. -/
theorem asked_drift {ch : Choice} {w w' : World} {d : Ask} {prog : Op} (h : Asked ch w d w' prog)
    (hno : ¬ Ask.restocks t d) (hgiven : AskGiven SingleItem (fun _ => True) d)
    (hd : AskTracked w.redis d) (hc : AskCopies (ItemsTracked w.redis) d)
    (hheld : ReleasesHeld w.db d) :
    drift t w' + prog.total (askLag t) (taskLag t) = drift t w + askLag t d := by
  have hplain : drift t w' = drift t w → prog.total (askLag t) (taskLag t) = askLag t d →
      drift t w' + prog.total (askLag t) (taskLag t) = drift t w + askLag t d := by
    intro h1 h2
    rw [h1, h2]
  cases h with
  -- a call that owes nothing and goes on to nothing owed
  | idle _ _ _ _ _ howes hp =>
      exact hplain rfl (by rw [hp.lag_zero, askLag_of_not_owes howes])
  | drawn ctx metas =>
      refine hplain rfl ?_
      rw [lag_awaitReserve (by simpa [AskGiven, SingleItem] using hgiven), accepted_started]
      rfl
  | reserveThrew ctx o slots s hslot hnone =>
      refine hplain rfl ?_
      rw [lag_awaitReserve (by simpa [AskGiven, SingleItem] using hgiven),
        accepted_set hslot hnone, if_neg (by simp [ReserveSlot.accepted]), add_zero]
      rfl
  | reserved ctx o slots s redis res hslot hnone hres =>
      rw [lag_awaitReserve (by simpa [AskGiven, SingleItem] using hgiven),
        accepted_set hslot hnone, askLag]
      -- the script takes the tickets, or refuses and takes none
      by_cases hcan : CanReserve (reserveParams ctx o s.item) w.now w.redis
      · rw [reserveTicket_ok hcan] at hres
        cases hres
        rw [drift_reserved hcan, if_pos (by rfl)]
        show _ - atType s.item.ticketTypeId s.item.quantity t
          + (_ + atType s.item.ticketTypeId s.item.quantity t) = _
        omega
      · obtain ⟨e, he⟩ := reserveTicket_error hcan
        rw [he] at hres
        cases hres
        rw [if_neg (by simp [ReserveSlot.accepted]), add_zero]
  | persisted ctx o metas db _ hdb =>
      obtain ⟨rfl, -⟩ := insertOrder_eq hdb
      exact hplain rfl rfl
  | persistFailed ctx o metas =>
      exact hplain rfl (by rw [Prog.total_par, lag_metaReleases rfl]; exact add_zero _)
  -- what was taken from the stock is booked now
  | synced ctx o metas db _ hdb =>
      rw [drift_moves (syncInventory_moves hdb) (key_of_metas hd)]
      show drift t w + (0 + metaQty metas t) + 0 = drift t w + metaQty metas t
      omega
  | syncFailed ctx o metas e _ =>
      refine hplain rfl ?_
      rw [inventoryRollback, Prog.total_par, lag_metaReleases rfl]
      exact add_zero _
  | paying _ ctx o metas payments d' hp hp' _ =>
      refine hplain rfl ?_
      rw [Prog.total_ask, lag_zero_of_paying hp]
      rcases hp' with hp' | hp'
      · exact lag_zero_of_paying hp'
      · exact askLag_of_not_owes hp'
  -- the releases to come and the decrements to come cancel out
  | payingFailed _ ctx o metas e hp _ =>
      refine hplain rfl ?_
      rw [lag_zero_of_paying hp, gatewayRollback, Prog.total_par, lag_metaReleases rfl,
        Prog.total_par, lag_metaDecrements]
      show metaQty metas t + (-metaQty metas t + 0) = 0
      omega
  | deleted _ o e db hp _ hdb =>
      obtain ⟨rfl, -⟩ := deleteOrder_eq hdb
      exact hplain rfl (by rcases hp with rfl | rfl <;> rfl)
  | deleteRefused _ o e e' hp => exact hplain rfl (by rcases hp with rfl | rfl <;> rfl)
  | cancelling o u order _ _ _ =>
      refine hplain rfl ?_
      rw [Prog.total_par, lag_releases rfl, Prog.total_par, List.map_append, List.sum_append,
        lag_typeDecrements, lag_counterDecrements]
      show qtyOf order.items t + (-qtyOf order.items t + 0 + 0) = 0
      omega
  | cancelled order db _ hdb =>
      obtain ⟨-, -, htt, hcr⟩ := commitCancelled_set hdb
      have := drift_moves (t := t) (Moves.of_eq htt hcr) (.inr (add_zero _))
      exact hplain (by simpa using this) rfl
  | expiring o order _ _ =>
      refine hplain rfl ?_
      rw [Prog.total_par, lag_releases rfl, Prog.total_par, lag_counterDecrements, Prog.total_par,
        lag_typeDecrements]
      show qtyOf order.items t + (0 + (-qtyOf order.items t + 0)) = 0
      omega
  | expired order db _ hdb =>
      obtain ⟨-, -, htt, hcr⟩ := commitExpired_set hdb
      have := drift_moves (t := t) (Moves.of_eq htt hcr) (.inr (add_zero _))
      exact hplain (by simpa using this) rfl
  | markFailed _ order hp _ => exact hplain rfl (by rcases hp with rfl | rfl <;> rfl)
  -- unbooked by the transaction, to be given back by the releases behind it
  | failed order db _ hdb =>
      have hm := ((commitFailed_released hdb).fits hheld).1
      rw [drift_moves hm (key_of_items hc), afterFailed, Prog.total_par, lag_releases rfl]
      show drift t w + (0 + -qtyOf order.items t) + (qtyOf order.items t + 0) = drift t w + 0
      omega
  -- reserved becomes sold, so what is available stays
  | succeeded dto order gateName db _ hdb =>
      have hm := (commitSuccess_issued hdb).2.moves
      refine hplain ?_ rfl
      rw [drift_moves hm (.inr (add_neg_cancel _))]
      exact (congrArg _ (add_neg_cancel _)).trans (add_zero _)
  | recordDeleted order => exact hplain rfl rfl
  | cronPaid order rest db _ hdb =>
      obtain ⟨-, -, htt, hcr⟩ := commitCronPaid_set hdb
      have := drift_moves (t := t) (Moves.of_eq htt hcr) (.inr (add_zero _))
      exact hplain (by simpa using this) rfl
  | cronPaidSkipped order rest _ => exact hplain rfl rfl
  | enqueued order rest => exact hplain rfl (settled_cronNext rest).lag_zero
  | enqueueFailed order rest _ => exact hplain rfl rfl
  | cronExpired order res rest db _ hdb =>
      have hm := ((commitCronExpire_released hdb).fits hheld).1
      rw [drift_moves hm (key_of_items (hc order List.mem_cons_self)), afterCronExpire,
        Prog.total_par, lag_releases rfl, (settled_cronNext rest).lag_zero]
      show drift t w + (0 + -qtyOf order.items t) + (qtyOf order.items t + 0) = drift t w + 0
      omega
  | issued job order db _ hdb =>
      have hm := (commitIssue_issued hdb).2.moves
      refine hplain ?_ rfl
      rw [drift_moves hm (.inr (add_neg_cancel _))]
      exact (congrArg _ (add_neg_cancel _)).trans (add_zero _)
  | completed job answer => exact hplain rfl rfl
  -- a write of another type: one of this type is excluded
  | typeWritten existing dto db row _ hdb _ hp =>
      refine hplain (drift_same rfl (available_other hdb (fun _ => rfl) (Ne.symm hno))) ?_
      rcases hp with rfl | ⟨-, -, -, hp⟩
      · rfl
      · exact hp.lag_zero
  | stockSeeded row _ hp =>
      refine hplain (drift_same ?_ rfl) hp.lag_zero
      exact Function.update_of_ne (Ne.symm hno) _ _
  | seedFailed row _ => exact hplain rfl rfl
  | soldOutSet row db hdb =>
      exact hplain (drift_same rfl (available_kept hdb (fun _ => rfl) fun _ => rfl)) rfl

/-! ## Tasks -/

/-- What a task does to the drift. -/
theorem performed_drift {ch : Choice} {p : State} {w' : World} {task : Task}
    {res : TaskResult Task} (h : Performed ch p.world task w' res) (hres : res ≠ .threw)
    (hg : ReleasesGiven p task) (ht : TaskTracked p.world.redis task)
    (hread : TaskRead p.world task) :
    drift t w' = drift t p.world + taskLag t task := by
  cases h with
  | threw task _ => exact absurd rfl hres
  | ended task howes => rw [taskLag_of_not_owes howes, add_zero]
  | looked task task' howes _ _ => rw [taskLag_of_not_owes howes, add_zero]
  | stockSet t' n =>
      simp only [taskLag, add_zero]
      simp only [setNxStock]
      split
      · rfl
      · next hnone =>
        by_cases he : t = t'
        · subst he
          have hn : n = available p.world.db t := (hread hnone).trans (max_eq_right (hg hnone))
          simp [drift, hnone, hn]
        · exact drift_same (Function.update_of_ne he _ _) rfl
  | limitSet u t' n =>
      simp only [taskLag, add_zero]
      refine drift_same ?_ rfl
      simp only [setNxUserLimit]
      split <;> rfl
  | released site q =>
      by_cases hm : Matches q p.world.now p.world.redis
      · have hgives : ReleaseSite.gives site = true := hg.mpr hm
        have hkey : (p.world.redis.stock q.ticketTypeId).isSome := by
          cases site with
          | webhookFailed released =>
              cases released
              · cases hgives
              · exact ht.2
          | cron released =>
              cases released
              · cases hgives
              · exact ht.2
          | _ => exact ht.2
        rw [taskLag, if_pos hgives, (release_of_matches hm).1, drift_released hkey]
      · have hgives : ¬ ReleaseSite.gives site = true := fun hgives => hm (hg.mp hgives)
        rw [taskLag, if_neg hgives, (release_of_not_matches hm).1, add_zero]
  | decremented t' q pos db hdb =>
      have hm := decrementReserved_moves hdb
      have hkey : (p.world.redis.stock t).isSome ∨ 0 + atType t' (-q) t = 0 := by
        by_cases he : t' = t
        · exact .inl (he ▸ ht)
        · exact .inr (by simp [atType, he])
      rw [drift_moves hm hkey, taskLag, atType_neg]
      exact congrArg _ (zero_add _)
  | counterDecremented u t' q pos db hdb =>
      have hm := decrementCounter_moves hdb
      simp only [drift_moves hm (.inr (add_zero _)), taskLag]
      exact congrArg _ (add_zero _)

/-- Under the condition no task throws. -/
theorem carried_out {ch : Choice} {p : State} {w' : World} {task : Task}
    (h : Performed ch p.world task w' .threw) (hf : ch.fails = false)
    (hg : ReleasesGiven p task) : False := by
  cases h with
  | threw task hthrew =>
      rcases hthrew with hthrew | ⟨t', q, pos, rfl, hnone⟩ | ⟨u, t', q, pos, rfl, hnone⟩
      · rw [hf] at hthrew
        cases hthrew
      · have hrow : (p.world.db.findTicketType t').isSome := hg
        rw [hnone] at hrow
        cases hrow
      · have hrow : (p.world.db.counters (u, t')).isSome := hg
        rw [hnone] at hrow
        cases hrow

/-! ## The writes and sets of a type -/

/-- A seed that is pending is carried out before anything else changes the stock. -/
theorem SeedPending.stays {p q : State} {G : Condition} (h : SeedPending t p)
    (hs : backend.Step (G.without (Ask.restocks t)) p q) : SeedPending t q := by
  obtain ⟨row, hmem, hid⟩ := h
  rcases hs.stays hmem with hq | ⟨i, ch, w', prog, -, hg, -, -⟩
  · exact ⟨row, hq, hid⟩
  · exact absurd hid hg.2

/-- The balance of a type: nothing is off, or an update has its SET before it. -/
def Balanced (t : TicketTypeId) (p : State) : Prop :=
  drift t p.world + p.total (askLag t) (taskLag t) = 0 ∨ SeedPending t p

/-- A call that leaves the balance alone, with nothing in flight after it. -/
theorem Balanced.kept {p : State} (h : Balanced t p) {i : Nat} {d : Ask} {w' : World} {prog : Op}
    (hi : p.ops[i]? = some (.ask d)) (hd : askLag t d = 0)
    (hseed : ∀ row, d ≠ .seedStock row) (hdrift : drift t w' = drift t p.world)
    (hprog : prog.total (askLag t) (taskLag t) = 0) : Balanced t ⟨w', p.ops.set i prog⟩ := by
  rcases h with h | ⟨row, hmem, hid⟩
  · refine .inl ?_
    rw [Pool.total_set hi, hprog, Prog.total_ask, hd]
    show drift t w' + _ = 0
    rw [hdrift]
    omega
  · refine .inr ⟨row, mem_set_of_ne hmem hi ?_ _, hid⟩
    intro he
    cases he
    exact hseed row rfl

/-- An update's write leaves its SET pending, or what is available alone. -/
theorem Balanced.written {p : State} (h : Balanced t p) {i : Nat} {existing : TicketType}
    {dto : UpdateTicketTypeDto} {ch : Choice} {w' : World} {prog : Op}
    (hi : p.ops[i]? = some (.ask (.writeTicketType existing dto)))
    (hasked : Asked ch p.world (.writeTicketType existing dto) w' prog) (hid : existing.id = t) :
    Balanced t ⟨w', p.ops.set i prog⟩ := by
  have hseed : ∀ row, Ask.writeTicketType existing dto ≠ .seedStock row := by
    intro row he
    cases he
  cases hasked with
  | idle _ _ _ _ _ _ hp => exact h.kept hi rfl hseed rfl hp.lag_zero
  | paying _ _ _ _ _ _ hp => cases hp
  | payingFailed _ _ _ _ _ hp => exact h.kept hi rfl hseed rfl (by cases hp)
  | deleted _ _ _ _ hp => rcases hp with hp | hp <;> cases hp
  | deleteRefused _ _ _ _ hp => rcases hp with hp | hp <;> cases hp
  | markFailed _ _ hp => rcases hp with hp | hp <;> cases hp
  | typeWritten _ _ db row _ hdb hrow hp =>
      rcases hp with rfl | ⟨htotal, hsold, hreserved, hp⟩
      · refine .inr ⟨row, mem_set_self hi _, ?_⟩
        exact (RowTable.lookup_key hrow).trans hid
      · refine h.kept hi rfl hseed (drift_same rfl ?_) hp.lag_zero
        refine available_kept hdb (fun _ => rfl) fun r => ?_
        simp [availableQty, updateData, htotal, hsold, hreserved]

/-- A SET of what was read, with nothing in flight, ends the window. -/
theorem Balanced.seeded {p : State} {i : Nat} {row : TicketType} {ch : Choice} {w' : World}
    {prog : Op} (hi : p.ops[i]? = some (.ask (.seedStock row)))
    (hasked : Asked ch p.world (.seedStock row) w' prog) (hf : ch.fails = false)
    (hread : AskRead p.world (.seedStock row)) (hg : SeedsSettled p (.seedStock row)) :
    Balanced row.id ⟨w', p.ops.set i prog⟩ := by
  obtain ⟨hnonneg, htotal⟩ := hg
  have hfresh : availableQty row = available p.world.db row.id := hread
  cases hasked with
  | idle _ _ _ _ _ howes _ => cases howes
  | paying _ _ _ _ _ _ hp => cases hp
  | payingFailed _ _ _ _ _ hp => cases hp
  | deleted _ _ _ _ hp => rcases hp with hp | hp <;> cases hp
  | deleteRefused _ _ _ _ hp => rcases hp with hp | hp <;> cases hp
  | markFailed _ _ hp => rcases hp with hp | hp <;> cases hp
  | seedFailed _ hfail =>
      rw [hf] at hfail
      cases hfail
  | stockSeeded _ _ hp =>
      refine .inl ?_
      rw [Pool.total_set hi, hp.lag_zero, htotal, Prog.total_ask]
      have hzero : drift row.id { p.world with
          redis := TicketRedis.seedStock row.id (availableQty row) p.world.redis } = 0 := by
        simp only [drift, TicketRedis.seedStock, Function.update_self, hfresh]
        omega
      rw [hzero]
      rfl

/-! ## All runs -/

/-- What holds in a run whose seeds are fresh. -/
structure Stocked (p : State) : Prop where
  keys : KeysTracked p
  reads : ∀ prog ∈ p.ops, prog.All (AskRead p.world) (TaskRead p.world)
  given : ∀ prog ∈ p.ops, OpGiven SingleItem (fun _ => True) prog
  balanced : ∀ t, Balanced t p

/-- A request of one item has one. -/
theorem singleItem_validated {item : OrderItemDto} {todo : List OrderItemDto}
    {metas : List TicketMeta} {m : TicketMeta} (h : SingleItem (item :: todo) metas) :
    SingleItem todo (metas ++ [m]) := by
  simp only [SingleItem, List.length_cons, List.length_append, List.length_nil] at h ⊢
  omega

/-- **Every step** keeps the stock in line. -/
theorem Stocked.step {p q : State} (hp : Stocked p) (h : backend.Step seedingFresh p q) :
    Stocked q := by
  refine ⟨hp.keys.step h, ?_, ?_, fun t => ?_⟩
  · exact reads_step h (fun _ _ hg => ⟨hg.2.1, hg.2.2.1⟩) (fun _ _ hg => hg.2.1) hp.reads
  · exact given_step h hp.given (fun _ hr => hr) fun _ _ _ _ _ _ => singleItem_validated
  · rcases h.singleOut (Ask.restocks t) with hs | ⟨i, ch, d, w', prog, hi, hg, hdec, hr, rfl⟩
    · by_cases hpend : SeedPending t p
      · exact .inr (hpend.stays hs)
      · refine .inl (Eq.trans ?_ ((hp.balanced t).resolve_right hpend))
        refine hs.balance Eq (fun _ => rfl) (fun _ _ _ he => by rw [he]) (drift t) ?_ ?_ ?_ ?_ ?_ ?_
        · intro r prog _ he
          exact (settled_enter he).lag_zero
        · intro ch d w' prog hmem hg hd
          have hkeys := hp.keys.ops _ hmem
          exact asked_drift (dispatch_asked hd) hg.2 (hp.given _ hmem) hkeys.1 hkeys.2 hg.1.2.2.1
        · rintro ch task w' ⟨ts, hh, rest, hmem, hts⟩ hg hperf
          exact performed_drift (perform_performed hperf) (by simp) hg.2.2
            ((hp.keys.ops _ hmem).1 task hts) ((hp.reads _ hmem).1 task hts)
        · rintro ch task task' w' ⟨ts, hh, rest, hmem, hts⟩ hg hperf
          have hdrift := performed_drift (t := t) (perform_performed hperf) (by simp) hg.2.2
            ((hp.keys.ops _ hmem).1 task hts) ((hp.reads _ hmem).1 task hts)
          cases perform_performed hperf with
          | looked _ _ _ howes _ =>
              rw [taskLag_of_not_owes howes, add_zero]
              exact hdrift
        · intro ch task w' ts hh rest _ _ hg hperf
          exact (carried_out (perform_performed hperf) hg.1 hg.2.2).elim
        · exact fun ms _ => rfl
    · have hasked := dispatch_asked hdec
      cases d with
      | writeTicketType existing dto => exact (hp.balanced t).written hi hasked hr
      | seedStock row =>
          have hid : row.id = t := hr
          subst hid
          exact .seeded hi hasked hg.1 (hp.reads _ (List.mem_of_getElem? hi)) hg.2.2.2
      | _ => exact hr.elim

/-- At the start it agrees. -/
theorem Opening.stocked {p : State} (h : Opening p) (ha : StockAgrees p.world) : Stocked p := by
  refine ⟨h.keysTracked, fun prog hp => ?_, fun prog hp => ?_, fun t => .inl ?_⟩
  · rw [h.ops_nil] at hp
    cases hp
  · rw [h.ops_nil] at hp
    cases hp
  · rw [ha.drift, Pool.total, h.ops_nil]
    rfl

/-! ## The main result -/

/-- **Redis and Postgres agree on stock** in every quiet state of a run in which nobody
    writes an inventory between the read of a seed and its set, and the stock is
    overwritten only when nothing is in flight. -/
theorem stock_agrees {p q : State} (hp : Opening p) (ha : StockAgrees p.world)
    (h : backend.Run seedingFresh p q) (hquiet : q.Quiet) : StockAgrees q.world := by
  have hq : Stocked q := h.inv (fun _ _ => Stocked.step) (hp.stocked ha)
  refine stockAgrees_of_drift fun t => ?_
  rcases hq.balanced t with hb | ⟨row, hmem, -⟩
  · rwa [hquiet.total, add_zero] at hb
  · obtain ⟨a, he⟩ := hquiet _ hmem
    cases he

/-! ### Raised between two orders -/

/-- The operations in flight are looked through. -/
instance (t : TicketTypeId) (p : State) : Decidable (SeedPending t p) :=
  decidable_of_iff (p.ops.any fun prog => match prog with
    | .ask (.seedStock row) => decide (row.id = t)
    | _ => false) (by
      rw [List.any_eq_true]
      constructor
      · rintro ⟨prog, hmem, hprog⟩
        split at hprog
        · exact ⟨_, hmem, by simpa using hprog⟩
        · cases hprog
      · rintro ⟨row, hmem, hid⟩
        exact ⟨_, hmem, by simpa using hid⟩)

/-- Whether the stock may be overwritten is decided by the calls in flight. -/
instance (p : State) (d : Ask) : Decidable (SeedsSettled p d) := by
  induction d using Ask.casesOn <;> delta SeedsSettled <;> infer_instance

/-- A transaction's items are compared with the counters. -/
instance (db : Db) (d : Ask) : Decidable (ReleasesHeld db d) := by
  induction d using Ask.casesOn <;> delta ReleasesHeld <;> infer_instance

/-- A release is compared with its record. -/
instance (p : State) (task : Task) : Decidable (ReleasesGiven p task) := by
  induction task using TicketFlow.Task.casesOn <;> delta ReleasesGiven <;> infer_instance

instance (todo : List OrderItemDto) (metas : List TicketMeta) : Decidable (SingleItem todo metas) :=
  inferInstanceAs (Decidable (_ ≤ 1))

instance (r : Request) : Decidable (RequestGiven SingleItem (fun _ => True) r) := by
  induction r using Request.casesOn <;> delta RequestGiven <;> infer_instance

/-- A run can be checked for this, step by step. -/
instance (p : State) (r : Request) : Decidable (seedingFresh.req p r) :=
  inferInstanceAs (Decidable (RequestGiven SingleItem (fun _ => True) r))
instance (p : State) (ch : Choice) (d : Ask) : Decidable (seedingFresh.ask p ch d) :=
  inferInstanceAs (Decidable (_ ∧ _ ∧ _ ∧ SeedsSettled p d))
instance (p : State) (ch : Choice) (task : Task) : Decidable (seedingFresh.task p ch task) :=
  inferInstanceAs (Decidable (_ ∧ _ ∧ ReleasesGiven p task))
instance (p : State) (ms : Nat) : Decidable (seedingFresh.env p ms) :=
  inferInstanceAs (Decidable True)

/-- An update of `totalQty` alone. -/
def totalTo (n : Int) (h : 1 ≤ n) : UpdateTicketTypeDto where
  name := none
  price := none
  totalQty := some n
  soldQty := none
  reservedQty := none
  maxPerUser := none
  saleStartsAt := none
  saleEndsAt := none
  status := none
  price_nonneg := by simp
  totalQty_pos := by simpa using h
  soldQty_nonneg := by simp
  reservedQty_nonneg := by simp
  maxPerUser_pos := by simp

/-- An order, a higher total, a payment and a cancelled order. -/
def orderRaiseCancel : List Move :=
  .start (.createOrder (oneTicket 1) 5) :: steps 0 18
    ++ .start (.updateTicketType 1 (totalTo 3 (by decide)) 1 .organizer) :: steps 1 4
    ++ .start (.webhook (paid 1)) :: steps 2 5
    ++ .start (.createOrder (oneTicket 1) 6) :: steps 3 16
    ++ .start (.cancelOrder 2 6) :: steps 4 7

/-- Two of three tickets are left, and the stock key says so. -/
theorem stock_agrees_orderRaiseCancel :
    ∃ q, backend.Run seedingFresh (shop [onSale 1 1 1]) q ∧ q.world.redis.stock 1 = some 2 ∧
      StockAgrees q.world := by
  obtain ⟨q, hrun, hs, hquiet⟩ : ∃ q, backend.Run seedingFresh (shop [onSale 1 1 1]) q ∧
      q.world.redis.stock 1 = some 2 ∧ q.Quiet := exists_run orderRaiseCancel _ (by decide)
  exact ⟨q, hrun, hs, stock_agrees (shop_opening (by simp)) (fun _ _ h => nomatch h) hrun hquiet⟩

/-! ## An update between a reservation and its inventory -/

/-- Single-type orders, cancels, SUCCESS and FAILED webhooks and updates of the
    total; no step fails and no key expires. -/
def restocking : Condition where
  req _ r :=
    match r with
    | .createOrder dto _ => ∀ i ∈ dto.items, ∀ j ∈ dto.items, i.ticketTypeId = j.ticketTypeId
    | .cancelOrder .. => True
    | .webhook dto => dto.result ≠ .timeout
    | .updateTicketType _ dto _ _ =>
        dto.totalQty.isSome ∧ dto.soldQty = none ∧ dto.reservedQty = none
    | _ => False
  ask _ ch _ := ch.fails = false
  task _ ch _ := ch.fails = false
  env p ms := ∀ o < p.world.nextOrderId, ∀ e ∈ p.world.redis.reservations o,
    p.world.now + ms < e.expireAt

/-- A run can be checked for this, step by step. -/
instance (p : State) (r : Request) : Decidable (restocking.req p r) := by
  unfold restocking
  dsimp only
  split <;> infer_instance
instance (p : State) (ch : Choice) (d : Ask) : Decidable (restocking.ask p ch d) :=
  inferInstanceAs (Decidable (_ = _))
instance (p : State) (ch : Choice) (task : Task) : Decidable (restocking.task p ch task) :=
  inferInstanceAs (Decidable (_ = _))
instance (p : State) (ms : Nat) : Decidable (restocking.env p ms) :=
  inferInstanceAs (Decidable (∀ o < _, ∀ e ∈ _, _ < _))

/-- createOrder has taken its ticket from the stock when the update computes
    the new stock from a row that does not show it; then createOrder writes the
    inventory. -/
def raiseInsideOrder : List Move :=
  .start (.createOrder (oneTicket 1) 5) :: steps 0 12
    ++ .start (.updateTicketType 1 (totalTo 3 (by decide)) 1 .organizer) :: steps 1 4
    ++ steps 0 6

/-- Two tickets are left and the stock key sells three. -/
theorem stock_broken_raiseInsideOrder :
    ¬ ∀ p q, Opening p → StockAgrees p.world → backend.Run restocking p q → q.Quiet →
      StockAgrees q.world := by
  intro h
  obtain ⟨q, hrun, hquiet, hs, ha⟩ : ∃ q, backend.Run restocking (shop [onSale 1 1 1]) q ∧
      q.Quiet ∧ q.world.redis.stock 1 = some 3 ∧ available q.world.db 1 = 2 :=
    exists_run raiseInsideOrder _ (by decide)
  have hagrees := h _ q (shop_opening (by simp)) (fun _ _ h => nomatch h) hrun hquiet 1 3 hs
  omega

end TicketBackend
