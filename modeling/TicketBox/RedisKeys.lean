import TicketBox.Cells

/-! # Redis keys of what was ordered

    A reservation takes effect only on a type whose stock key exists, and writes
    the user's limit key; no operation deletes either.  So whatever was reserved
    or ordered has both keys for good (`Tracked`), a counter row exists only
    where the limit key does, and a limit key that is still missing is seeded
    with zero. -/

namespace TicketBackend

open Interleave TicketStore TicketRedis TicketDb TicketFlow TicketOrder TicketPayment

/-! ## Keys -/

/-- Both keys of a user and a type exist. -/
def Tracked (r : Redis) (u : UserId) (t : TicketTypeId) : Prop :=
  (r.userLimit (u, t)).isSome ∧ (r.stock t).isSome

/-- Keys are only added. -/
structure KeysGrow (r r' : Redis) : Prop where
  limit : ∀ k, (r.userLimit k).isSome → (r'.userLimit k).isSome
  stock : ∀ t, (r.stock t).isSome → (r'.stock t).isSome

/-- No key is written. -/
theorem KeysGrow.refl (r : Redis) : KeysGrow r r := ⟨fun _ => id, fun _ => id⟩

/-- What is tracked stays so. -/
theorem KeysGrow.tracked {r r' : Redis} (h : KeysGrow r r') {u : UserId} {t : TicketTypeId}
    (ht : Tracked r u t) : Tracked r' u t :=
  ⟨h.limit _ ht.1, h.stock _ ht.2⟩

/-- A key written is there, and the others stay. -/
theorem isSome_update {Key Value : Type} [DecidableEq Key] {f : Key → Option Value} {k k' : Key}
    {v : Value} (h : (f k').isSome) : (Function.update f k (some v) k').isSome := by
  by_cases hk : k' = k
  · subst hk
    simp
  · rwa [Function.update_of_ne hk]

/-- A reservation adds keys. -/
theorem keysGrow_reserved (p : ReserveParams) (now : Nat) (r : Redis) :
    KeysGrow r (TicketRedis.reserved p now r) :=
  ⟨fun _ => isSome_update, fun _ => isSome_update⟩

/-- So does the script, or it does nothing. -/
theorem keysGrow_reserve (p : ReserveParams) (now : Nat) (r : Redis) :
    KeysGrow r (TicketRedis.reserveTicket p now r).1 := by
  by_cases h : CanReserve p now r
  · rw [reserveTicket_ok h]
    exact keysGrow_reserved p now r
  · obtain ⟨e, he⟩ := reserveTicket_error h
    rw [he]
    exact .refl r

/-- A reservation that takes effect leaves both its keys behind. -/
theorem tracked_reserve {p : ReserveParams} {now : Nat} {r redis : Redis} {reply : LuaReply}
    (h : TicketRedis.reserveTicket p now r = (redis, .ok reply)) :
    Tracked redis p.userId p.ticketTypeId := by
  by_cases hc : CanReserve p now r
  · rw [reserveTicket_ok hc] at h
    cases h
    simp [Tracked, TicketRedis.reserved]
  · obtain ⟨e, he⟩ := reserveTicket_error hc
    rw [he] at h
    cases h

/-- A release removes neither counter. -/
theorem keysGrow_release (p : ReleaseParams) (now : Nat) (r : Redis) :
    KeysGrow r (releaseReservation p now r).1 := by
  by_cases h : Matches p now r
  · rw [(release_of_matches h).1]
    exact ⟨fun _ => isSome_update, fun _ => isSome_update⟩
  · rw [(release_of_not_matches h).1]
    exact .refl r

/-- Nor does a seed of the stock. -/
theorem keysGrow_setNxStock (t : TicketTypeId) (n : Int) (r : Redis) :
    KeysGrow r (setNxStock t n r) := by
  simp only [setNxStock]
  split
  · exact .refl r
  · exact ⟨fun _ => id, fun _ => isSome_update⟩

/-- Nor does a seed of the limit. -/
theorem keysGrow_setNxUserLimit (u : UserId) (t : TicketTypeId) (n : Int) (r : Redis) :
    KeysGrow r (setNxUserLimit u t n r) := by
  simp only [setNxUserLimit]
  split
  · exact .refl r
  · exact ⟨fun _ => isSome_update, fun _ => id⟩

/-- Nor does the write of an update. -/
theorem keysGrow_seedStock (t : TicketTypeId) (n : Int) (r : Redis) :
    KeysGrow r (TicketRedis.seedStock t n r) :=
  ⟨fun _ => id, fun _ => isSome_update⟩

/-- No call removes a counter. -/
theorem asked_keys {ch : Choice} {w w' : World} {d : Ask} {prog : Op} (h : Asked ch w d w' prog) :
    KeysGrow w.redis w'.redis := by
  cases h with
  | reserved ctx o slots s redis res _ _ hres =>
      have := keysGrow_reserve (reserveParams ctx o s.item) w.now w.redis
      rwa [hres] at this
  | stockSeeded row _ _ => exact keysGrow_seedStock ..
  | _ => exact ⟨fun _ => id, fun _ => id⟩

/-- Nor does a task. -/
theorem performed_keys {ch : Choice} {w w' : World} {t : Task} {res : TaskResult Task}
    (h : Performed ch w t w' res) : KeysGrow w.redis w'.redis := by
  cases h with
  | stockSet t n => exact keysGrow_setNxStock t n w.redis
  | limitSet u t n => exact keysGrow_setNxUserLimit u t n w.redis
  | released site p => exact keysGrow_release p w.now w.redis
  | _ => exact .refl w.redis

/-! ## What is tracked -/

/-- Every item of the order is tracked. -/
def ItemsTracked (r : Redis) (order : Order) : Prop :=
  ∀ i ∈ order.items, Tracked r order.userId i.ticketTypeId

/-- Both keys of every item are there. -/
def MetasTracked (r : Redis) (ctx : CreateCtx) (metas : List TicketMeta) : Prop :=
  ∀ m ∈ metas, Tracked r ctx.userId m.ticketTypeId

/-- What a createOrder call has reserved is tracked. -/
def AskTracked (r : Redis) : Ask → Prop
  | .reserveTickets ctx _ slots =>
      ∀ s ∈ slots, ReserveSlot.accepted s = true → Tracked r ctx.userId s.item.ticketTypeId
  | .persistOrder ctx _ metas | .syncInventory ctx _ metas
  | .createPaymentUrl (.createOrder ctx metas) ..
  | .callGateway (.createOrder ctx metas) ..
  | .savePaymentUrl (.createOrder ctx metas) .. => MetasTracked r ctx metas
  | _ => True

/-- What a task takes back is tracked, and a missing limit key is seeded with zero. -/
def TaskTracked (r : Redis) : Task → Prop
  | .setNxUserLimit u t n => r.userLimit (u, t) = none → n = 0
  | .releaseReservation (.webhookFailed false) _ | .releaseReservation (.cron false) _ => True
  | .releaseReservation _ p => Tracked r p.userId p.ticketTypeId
  | .decrementReserved t _ _ => (r.stock t).isSome
  | .decrementCounter u t _ _ => (r.userLimit (u, t)).isSome
  | _ => True

variable {r r' : Redis}

/-- The items of an order stay tracked. -/
theorem KeysGrow.items (h : KeysGrow r r') {order : Order} (ho : ItemsTracked r order) :
    ItemsTracked r' order :=
  fun i hi => h.tracked (ho i hi)

/-- So does what a call has reserved. -/
theorem KeysGrow.ask (h : KeysGrow r r') {d : Ask} (hd : AskTracked r d) : AskTracked r' d := by
  unfold AskTracked at hd ⊢
  split at hd
  all_goals first
    | exact fun s hs hok => h.tracked (hd s hs hok)
    | exact fun m hm => h.tracked (hd m hm)
    | trivial

/-- So does what a task gives back. -/
theorem KeysGrow.task (h : KeysGrow r r') {t : Task} (ht : TaskTracked r t) : TaskTracked r' t := by
  unfold TaskTracked at ht ⊢
  split at ht
  all_goals first
    | exact h.tracked ht
    | exact h.stock _ ht
    | exact h.limit _ ht
    | trivial
    | skip
  next u t n =>
    intro hnone
    refine ht ?_
    cases hr : r.userLimit (u, t) with
    | none => rfl
    | some v =>
        have := h.limit (u, t) (by rw [hr]; rfl)
        rw [hnone] at this
        cases this

/-! ## One call -/

/-- Every call and task of the program is tracked. -/
def OpTracked (r : Redis) (prog : Op) : Prop := prog.All (AskTracked r) (TaskTracked r)

/-- A batch is tracked with what follows it. -/
theorem opTracked_par {ts : List Task} {rest : Op} :
    OpTracked r (.par ts thrown rest) ↔ (∀ t ∈ ts, TaskTracked r t) ∧ OpTracked r rest :=
  ⟨fun h => ⟨h.1, h.2.2⟩, fun h => ⟨h.1, trivial, h.2⟩⟩

/-- A call that owes nothing has nothing to track. -/
theorem askTracked_of_not_owes {d : Ask} (h : Ask.owes d = false) : AskTracked r d := by
  unfold AskTracked
  split
  all_goals trivial

/-- Nor has such a task. -/
theorem taskTracked_of_settled {t : Task} (h : Task.owes t = false ∧ Task.seeds t = false) :
    TaskTracked r t := by
  obtain ⟨h₁, h₂⟩ := h
  cases t with
  | setNxUserLimit u t n => cases h₂
  | decrementReserved t q pos => cases h₁
  | decrementCounter u t q pos => cases h₁
  | releaseReservation site p =>
      cases site with
      | webhookFailed released =>
          cases released
          · trivial
          · cases h₁
      | cron released =>
          cases released
          · trivial
          · cases h₁
      | _ => cases h₁
  | _ => trivial

/-- Nor has what is left of such an operation. -/
theorem Settled.opTracked {k : Kind} {prog : Op} (h : Settled k prog) : OpTracked r prog :=
  h.mono (fun _ hd => askTracked_of_not_owes hd.1) fun _ => taskTracked_of_settled

/-- A release of what is tracked. -/
theorem taskTracked_release {site : ReleaseSite} {p : ReleaseParams}
    (h : Tracked r p.userId p.ticketTypeId) : TaskTracked r (.releaseReservation site p) := by
  cases site with
  | webhookFailed released =>
      cases released
      · trivial
      · exact h
  | cron released =>
      cases released
      · trivial
      · exact h
  | _ => exact h

/-- The releases of a request are tracked. -/
theorem tracked_metaReleases {site : ReleaseSite} {ctx : CreateCtx} {o : OrderId}
    {metas : List TicketMeta} (h : MetasTracked r ctx metas) :
    ∀ t ∈ metaReleases site ctx o metas, TaskTracked r t := by
  intro t ht
  obtain ⟨m, hm, rfl⟩ := List.mem_map.mp ht
  exact taskTracked_release (h m hm)

/-- So are those of an order. -/
theorem tracked_releases {site : ReleaseSite} {order : Order} (h : ItemsTracked r order) :
    ∀ t ∈ releases site order, TaskTracked r t := by
  intro t ht
  obtain ⟨i, hi, rfl⟩ := List.mem_map.mp ht
  exact taskTracked_release (h i hi)

/-- So are its decrements. -/
theorem tracked_decrements {order : Order} (h : ItemsTracked r order) :
    (∀ t ∈ typeDecrements order, TaskTracked r t) ∧
      ∀ t ∈ counterDecrements order, TaskTracked r t := by
  constructor
  · intro t ht
    obtain ⟨i, hi, rfl⟩ := List.mem_map.mp ht
    exact (h i hi).2
  · intro t ht
    obtain ⟨i, hi, rfl⟩ := List.mem_map.mp ht
    exact (h i hi).1

/-- What has been reserved is tracked. -/
theorem opTracked_awaitReserve {ctx : CreateCtx} {o : OrderId} {slots : List ReserveSlot}
    (h : ∀ s ∈ slots, ReserveSlot.accepted s = true → Tracked r ctx.userId s.item.ticketTypeId) :
    OpTracked r (awaitReserve ctx o slots) := by
  refine all_awaitReserve h (fun hok m hm => ?_) fun s hs hok => tracked_metaReleases fun m hm => ?_
  · obtain ⟨s, hs, rfl⟩ := List.mem_map.mp hm
    exact h s hs (hok s hs)
  · rw [List.mem_singleton.mp hm]
    exact h s hs hok

/-- A createOrder that awaits its payment has its items tracked. -/
theorem paying_tracked {d : Ask} {ctx : CreateCtx} {o : OrderId} {metas : List TicketMeta}
    (hd : Ask.paying d = some (ctx, o, metas)) : AskTracked r d ↔ MetasTracked r ctx metas := by
  unfold Ask.paying at hd
  split at hd <;> cases hd <;> exact Iff.rfl

/-- What a call goes on with is tracked. -/
theorem asked_opTracked {ch : Choice} {w w' : World} {d : Ask} {prog : Op}
    (h : Asked ch w d w' prog) (hd : AskTracked w.redis d)
    (hc : AskCopies (ItemsTracked w.redis) d)
    (hrows : Ask.kind d ≠ .createOrder → ∀ r ∈ w.db.orders, ItemsTracked w.redis r) :
    OpTracked w'.redis prog := by
  cases h with
  | idle _ _ _ _ _ _ hp => exact hp.opTracked
  | drawn ctx metas =>
      refine opTracked_awaitReserve fun s hs hok => ?_
      obtain ⟨m, -, rfl⟩ := List.mem_map.mp hs
      cases hok
  | reserveThrew ctx o slots s hs _ =>
      exact opTracked_awaitReserve (all_of_set hd fun hok => nomatch hok)
  | reserved ctx o slots s redis res hs _ hres =>
      have hgrow := keysGrow_reserve (reserveParams ctx o s.item) w.now w.redis
      rw [hres] at hgrow
      refine opTracked_awaitReserve
        (all_of_set (fun s' hs' hok => hgrow.tracked (hd s' hs' hok)) fun hok => ?_)
      cases res with
      | error e => cases hok
      | ok reply => exact tracked_reserve hres
  | persisted ctx o metas db _ _ => exact hd
  | persistFailed ctx o metas => exact opTracked_par.mpr ⟨tracked_metaReleases hd, trivial⟩
  | synced ctx o metas db _ _ => exact hd
  | syncFailed ctx o metas e _ => exact opTracked_par.mpr ⟨tracked_metaReleases hd, trivial⟩
  | paying _ ctx o metas _ d' hp hp' _ =>
      have hm := (paying_tracked hp).mp hd
      rcases hp' with hp' | hp'
      · exact (paying_tracked hp').mpr hm
      · exact askTracked_of_not_owes hp'
  | payingFailed _ ctx o metas e hp _ =>
      have hm := (paying_tracked hp).mp hd
      refine opTracked_par.mpr ⟨tracked_metaReleases hm,
        opTracked_par.mpr ⟨fun t ht => ?_, trivial⟩⟩
      rcases List.mem_append.mp ht with ht | ht
      · obtain ⟨m, hmem, rfl⟩ := List.mem_map.mp ht
        exact (hm m hmem).2
      · obtain ⟨m, hmem, rfl⟩ := List.mem_map.mp ht
        exact (hm m hmem).1
  | cancelling o u order hrow _ _ =>
      have ho := hrows (by simp [Ask.kind]) order (RowTable.lookup_mem hrow)
      refine opTracked_par.mpr ⟨tracked_releases ho, opTracked_par.mpr ⟨fun t ht => ?_, trivial⟩⟩
      rcases List.mem_append.mp ht with ht | ht
      · exact (tracked_decrements ho).1 t ht
      · exact (tracked_decrements ho).2 t ht
  | expiring o order hrow _ =>
      have ho := hrows (by simp [Ask.kind]) order (RowTable.lookup_mem hrow)
      exact opTracked_par.mpr ⟨tracked_releases ho, opTracked_par.mpr ⟨(tracked_decrements ho).2,
        opTracked_par.mpr ⟨(tracked_decrements ho).1, trivial⟩⟩⟩
  | failed order db _ _ => exact opTracked_par.mpr ⟨tracked_releases hc, trivial⟩
  | enqueued order rest => exact (settled_cronNext rest).opTracked
  | cronExpired order res rest db _ _ =>
      exact ⟨tracked_releases (hc order List.mem_cons_self),
        (settled_cronNext rest).opTracked, (settled_cronNext rest).opTracked⟩
  | typeWritten existing dto db row _ _ _ hp =>
      rcases hp with rfl | ⟨-, -, -, hp⟩
      · trivial
      · exact hp.opTracked
  | stockSeeded row _ hp => exact hp.opTracked
  | _ => trivial

/-! ## Rows -/

/-- Orders and counter rows have their keys. -/
structure RowsTracked (w : World) : Prop where
  orders : ∀ order ∈ w.db.orders, ItemsTracked w.redis order
  counters : ∀ k, (w.db.counters k).isSome → (w.redis.userLimit k).isSome

/-- What a call does to the counter rows. -/
theorem asked_counterRows {ch : Choice} {w w' : World} {d : Ask} {prog : Op}
    (h : Asked ch w d w' prog) (hd : AskTracked w.redis d)
    (hc : AskCopies (ItemsTracked w.redis) d) {k : UserId × TicketTypeId}
    (hk : (w'.db.counters k).isSome) :
    (w.db.counters k).isSome ∨ (w.redis.userLimit k).isSome := by
  cases h with
  | persisted ctx o metas db _ hdb =>
      obtain ⟨rfl, -⟩ := insertOrder_eq hdb
      exact .inl hk
  | synced ctx o metas db _ hdb =>
      refine (syncInventory_rows hdb hk).imp_right ?_
      rintro ⟨m, hm, rfl⟩
      exact (hd m hm).1
  | deleted _ o e db _ _ hdb =>
      obtain ⟨rfl, -⟩ := deleteOrder_eq hdb
      exact .inl hk
  | cancelled order db _ hdb => exact .inl ((commitCancelled_set hdb).2.2.2 ▸ hk)
  | expired order db _ hdb => exact .inl ((commitExpired_set hdb).2.2.2 ▸ hk)
  | failed order db _ hdb => exact .inl ((commitFailed_released hdb).rows k hk)
  | succeeded dto order gateName db _ hdb =>
      refine ((commitSuccess_issued hdb).2.rows k hk).imp_right ?_
      rintro ⟨i, hi, rfl⟩
      exact (hc.2 i hi).1
  | cronPaid order rest db _ hdb => exact .inl ((commitCronPaid_set hdb).2.2.2 ▸ hk)
  | cronExpired order res rest db _ hdb => exact .inl ((commitCronExpire_released hdb).rows k hk)
  | issued job order db _ hdb =>
      refine ((commitIssue_issued hdb).2.rows k hk).imp_right ?_
      rintro ⟨i, hi, rfl⟩
      exact (hc.2.2 i hi).1
  | typeWritten existing dto db row _ hdb _ _ => exact .inl ((writeTicketType_same hdb).2.2 ▸ hk)
  | soldOutSet row db hdb => exact .inl ((writeTicketType_same hdb).2.2 ▸ hk)
  | _ => exact .inl hk

/-- A new order has its items tracked. -/
theorem itemsTracked_newOrder {ctx : CreateCtx} {o : OrderId} {metas : List TicketMeta}
    (h : MetasTracked r ctx metas) : ItemsTracked r (newOrder ctx o metas) := by
  intro i hi
  obtain ⟨n, hn, rfl⟩ := List.mem_mapIdx.mp hi
  exact h _ (List.getElem_mem hn)

/-- So has every version of an order. -/
theorem itemsTracked_version {order order' : Order} (hc : SameContent order order')
    (h : ItemsTracked r order) : ItemsTracked r order' := by
  intro i hi
  rw [hc.userId]
  exact h i (hc.items ▸ hi)

/-- Every call keeps the orders tracked. -/
theorem asked_rowsTracked {ch : Choice} {w w' : World} {d : Ask} {prog : Op}
    (h : Asked ch w d w' prog) (hd : AskTracked w.redis d)
    (hc : AskCopies (ItemsTracked w.redis) d) (hw : RowsTracked w) : RowsTracked w' := by
  have hgrow := asked_keys h
  refine ⟨fun order ho => ?_, fun k hk => ?_⟩
  · cases asked_orders h with
    | same hsame => exact hgrow.items (hw.orders order (hsame ▸ ho))
    | set o s _ _ hset =>
        obtain ⟨r₀, hr₀, hcon⟩ := hset.mem ho
        exact itemsTracked_version hcon (hgrow.items (hw.orders r₀ hr₀))
    | inserted ctx o metas _ he hins =>
        obtain ⟨hdb, -⟩ := insertOrder_eq hins
        subst he
        rw [hdb] at ho
        rcases List.mem_append.mp ho with ho | ho
        · exact hgrow.items (hw.orders order ho)
        · rw [List.mem_singleton.mp ho]
          exact hgrow.items (itemsTracked_newOrder hd)
    | deleted o _ _ hdel =>
        obtain ⟨hdb, -⟩ := deleteOrder_eq hdel
        rw [hdb] at ho
        exact hgrow.items (hw.orders order (List.mem_of_mem_filter ho))
  · rcases asked_counterRows h hd hc hk with hold | hkey
    · exact hgrow.limit k (hw.counters k hold)
    · exact hgrow.limit k hkey

/-- So does every task. -/
theorem performed_rowsTracked {ch : Choice} {w w' : World} {t : Task} {res : TaskResult Task}
    (h : Performed ch w t w' res) (hw : RowsTracked w) : RowsTracked w' := by
  have hgrow := performed_keys h
  refine ⟨fun order ho => ?_, fun k hk => hgrow.limit k (hw.counters k ?_)⟩
  · exact hgrow.items (hw.orders order ((performed_orders h).1 ▸ ho))
  · cases h with
    | decremented t q pos db hdb => exact (decrementReserved_same hdb).2.2 ▸ hk
    | counterDecremented u t q pos db hdb => exact decrementCounter_rows hdb hk
    | _ => exact hk

/-! ## All runs -/

/-- Rows, calls and tasks are tracked. -/
structure KeysTracked (p : State) : Prop extends RowsTracked p.world where
  ops : ∀ prog ∈ p.ops, prog.All
    (fun d => AskTracked p.world.redis d ∧ AskCopies (ItemsTracked p.world.redis) d)
    (TaskTracked p.world.redis)

/-- A counter row that is still missing counts nothing. -/
theorem RowsTracked.counter_zero {w : World} (h : RowsTracked w) {u : UserId} {t : TicketTypeId}
    (hnone : w.redis.userLimit (u, t) = none) :
    w.db.counterPaid u t + w.db.counterReserved u t = 0 := by
  cases hc : w.db.counters (u, t) with
  | none => rw [counterPaid_of_none hc, counterReserved_of_none hc, add_zero]
  | some row =>
      have := h.counters (u, t) (by rw [hc]; rfl)
      rw [hnone] at this
      cases this

/-- **Every step** keeps everything tracked. -/
theorem KeysTracked.step {G : Condition} {p q : State} (hp : KeysTracked p)
    (h : backend.Step G p q) : KeysTracked q := by
  have hrows : RowsTracked q.world := by
    refine h.world (I := RowsTracked) hp.toRowsTracked ?_ ?_ ?_
    · intro ch d w' prog hmem _ hd
      have := hp.ops _ hmem
      exact asked_rowsTracked (dispatch_asked hd) this.1 this.2 hp.toRowsTracked
    · intro ch t w' res _ _ hperf
      exact performed_rowsTracked (perform_performed hperf) hp.toRowsTracked
    · intro ms _
      exact ⟨hp.orders, hp.counters⟩
  refine { toRowsTracked := hrows, ops := ?_ }
  refine System.Step.all
    (J := fun w d => AskTracked w.redis d ∧ AskCopies (ItemsTracked w.redis) d)
    (K := fun w => TaskTracked w.redis) h hp.ops ?_ ?_ ?_ ?_
  · intro r prog _ he
    have hs : OpTracked p.world.redis prog := (settled_enter he).opTracked
    exact (hs.and (opCopies_enter he)).mono (fun _ => id) fun _ => And.left
  · intro ch d w' prog _ hd _ hdec
    have hasked := dispatch_asked hdec
    have hgrow := asked_keys hasked
    have htracked := asked_opTracked hasked hd.1 hd.2 fun _ => hp.orders
    have hcopies : OpCopies (ItemsTracked w'.redis) prog :=
      dispatch_copies hdec (hd.2.mono fun _ => hgrow.items)
        fun ho => hgrow.items (hp.orders _ (RowTable.lookup_mem ho))
    exact ⟨(htracked.and hcopies).mono (fun _ => id) fun _ => And.left,
      fun d' hd' => ⟨hgrow.ask hd'.1, hd'.2.mono fun _ => hgrow.items⟩, fun t' => hgrow.task⟩
  · intro ch t w' res ht _ hperf
    have hgrow := performed_keys (perform_performed hperf)
    refine ⟨fun t' hres => ?_,
      fun d' hd' => ⟨hgrow.ask hd'.1, hd'.2.mono fun _ => hgrow.items⟩, fun t' => hgrow.task⟩
    subst hres
    cases perform_performed hperf with
    | looked _ _ _ howes hvalue =>
        by_cases hseeds : Task.seeds t' = true
        · cases t' with
          | setNxUserLimit u tt n =>
              intro hnone
              rw [hvalue u tt n rfl]
              exact hp.counter_zero hnone
          | setNxStock tt n => trivial
          | _ => cases hseeds
        · exact taskTracked_of_settled ⟨howes, by simpa using hseeds⟩
  · intro ms _
    exact ⟨fun d' => id, fun t' => id⟩

/-- At the start there is nothing to track. -/
theorem Opening.keysTracked {p : State} (h : Opening p) : KeysTracked p where
  orders order ho := by
    rw [h.orders_nil] at ho
    cases ho
  counters k hk := by
    rw [h.counters_none] at hk
    cases hk
  ops prog hp := by
    rw [h.ops_nil] at hp
    cases hp

end TicketBackend
