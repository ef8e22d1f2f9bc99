import TicketBox.IssueOnceProofs
import TicketBox.Inputs
import TicketBox.RedisKeys

/-! # The per-user limit

    Only `reserve-ticket.lua` compares with `maxPerUser`, on a counter in Redis.
    What a user's open orders and tickets take, plus what the operations in
    flight have reserved and not yet booked, never exceeds that counter as long
    as every release that takes effect gives back what is no longer booked.
    cancelOrder and expireOrder release before they write their status, so the
    counter runs ahead of the orders for a while; as long as no other order of
    the user is booked in that while, and nobody settles or issues an order
    between another operation's read of it and its write, the limit holds. -/

namespace TicketBackend

open Interleave TicketStore TicketRedis TicketDb TicketFlow TicketOrder TicketPayment

/-! ## The limit -/

/-- `maxPerUser` of a type. -/
def limitOf (db : Db) (t : TicketTypeId) : Int :=
  ((db.findTicketType t).map TicketType.maxPerUser).getD 0

/-- What the user's PENDING_PAYMENT orders ask for. -/
def pendingQty (u : UserId) (t : TicketTypeId) (db : Db) : Int :=
  (db.orders.map fun r =>
    if r.userId = u ∧ r.status = .pendingPayment then qtyOf r.items t else 0).sum

/-- The user's tickets of a type. -/
def userTickets (u : UserId) (t : TicketTypeId) (db : Db) : Int :=
  (db.tickets.filter fun k => k.ticketTypeId = t ∧ k.userId = u).length

/-- No user has more than `maxPerUser` of a type, ordered or issued. -/
def WithinLimit (db : Db) : Prop :=
  ∀ u t, pendingQty u t db + userTickets u t db ≤ limitOf db t

/-- What a user's open orders and tickets take of the limit. -/
def taken (u : UserId) (t : TicketTypeId) (db : Db) : Int :=
  held (.user u t) db + userTickets u t db

/-- Open orders are among the held ones. -/
theorem pending_le_held (u : UserId) (t : TicketTypeId) (db : Db) :
    pendingQty u t db ≤ held (.user u t) db := by
  refine List.sum_le_sum fun r _ => ?_
  by_cases h : r.userId = u ∧ r.status = .pendingPayment
  · rw [if_pos h, if_pos (show Holds db.tickets r from .inl h.2)]
    simp [Cell.weight, Cell.share, atUser, h.1]
  · rw [if_neg h]
    split
    · exact Cell.weight_nonneg ..
    · exact le_refl 0

/-- Moving inventory leaves the limits alone. -/
theorem limitOf_moves {db db' : Db} {s f : TicketTypeId → Int} {p : UserId → TicketTypeId → Int}
    (h : Moves db db' s f p) (t : TicketTypeId) : limitOf db' t = limitOf db t := by
  have := congrArg (fun o => (o.map TicketType.maxPerUser).getD 0) (h.catalogue t)
  simpa [limitOf, Function.comp_def, catalogueOf] using this

/-- So does every call of a sale. -/
theorem limitOf_asked {ch : Choice} {w w' : World} {d : Ask} {prog : Op}
    (h : Asked ch w d w' prog) (hk : Ask.kind d ≠ .updateTicketType) (t : TicketTypeId) :
    limitOf w'.db t = limitOf w.db t := by
  rcases asked_inventory h hk with ⟨r, -, hm, -⟩ | ⟨ctx, o, metas, -, -, hdb⟩ | ⟨order, -, -, hi⟩
  · exact limitOf_moves hm t
  · exact limitOf_moves (syncInventory_moves hdb) t
  · exact limitOf_moves hi.moves t

/-- So does every task. -/
theorem limitOf_performed {ch : Choice} {w w' : World} {t : Task} {res : TaskResult Task}
    (h : Performed ch w t w' res) (tt : TicketTypeId) : limitOf w'.db tt = limitOf w.db tt := by
  obtain ⟨r, -, hm, -⟩ := performed_inventory h
  exact limitOf_moves hm tt

/-! ## What a write takes -/

variable {u : UserId} {t : TicketTypeId}

/-- A user's tickets, counted by what they were issued for. -/
theorem userTickets_eq (u : UserId) (t : TicketTypeId) (db : Db) :
    userTickets u t db = countWhere (fun x => x.2.2.1 = t ∧ x.2.2.2 = u) db.tickets := rfl

/-- An order's tickets are its user's. -/
theorem userTickets_issued {order : Order} {items : List OrderItem} {db db' : Db}
    (h : Issued order items db db') :
    userTickets u t db' = userTickets u t db + (Cell.user u t).weight order.userId items := by
  obtain ⟨ts, hts, ho⟩ := h.tickets
  rw [userTickets_eq, userTickets_eq, hts, countWhere_append, countWhere_of_origins _ ho]
  congr 1
  simp only [itemOrigin, Cell.weight, Cell.share, atUser, qtyOf]
  by_cases hu : order.userId = u <;> simp [hu]

/-- The count depends on the tickets. -/
theorem userTickets_same {db db' : Db} (ht : db'.tickets = db.tickets) :
    userTickets u t db' = userTickets u t db := by
  simp only [userTickets, ht]

/-- What is taken depends on orders and tickets. -/
theorem taken_same {db db' : Db} (ho : db'.orders = db.orders) (ht : db'.tickets = db.tickets) :
    taken u t db' = taken u t db := by
  rw [taken, taken, held, held, heldSum_congr ho ht, userTickets_same ht]

/-- An unissued order that ends takes nothing more. -/
theorem taken_final {w : World} {db' : Db} {order : Order} {s : OrderStatus} (hw : WorldSound w)
    (hd : Drawn w order) (hset : OrderSet order.id s w.db db') (ht : db'.tickets = w.db.tickets)
    (hs : s ≠ .pendingPayment ∧ s ≠ .paid) (hu : Unissued order.id w.db) :
    taken u t db' = taken u t w.db - (Cell.user u t).weight order.userId order.items := by
  rw [taken, taken, held_final hw hd hset ht hs hu, userTickets_same ht]
  omega

/-! ## What is in flight -/

/-- The release gives back what its operation reserved or unbooked itself. -/
def ReleaseSite.owed : ReleaseSite → Bool
  | .rollback | .persistFailed | .cancel | .expire | .webhookFailed true | .cron true => true
  | .inventoryFailed | .gatewayFailed | .webhookFailed false | .cron false => false

/-- What a call has still to book, less what it has still to unbook. -/
def askOpen (c : Cell) : Ask → Int
  | .reserveTickets ctx _ slots => accepted c ctx slots
  | .persistOrder ctx _ metas => c.share ctx.userId (metaQty metas)
  | .markCancelled order | .markExpired order => -c.weight order.userId order.items
  | _ => 0

/-- What a task has still to take off the limit counter. -/
def taskOpen (c : Cell) : Task → Int
  | .releaseReservation site p =>
      if ReleaseSite.owed site then c.part p.userId p.ticketTypeId p.quantity else 0
  | _ => 0

/-- No operation has released tickets of the type that the user's orders still
    book: no cancelOrder or expireOrder is between its release and its status. -/
def NoneAhead (u : UserId) (t : TicketTypeId) (p : State) : Prop :=
  ∀ prog ∈ p.ops, 0 ≤ prog.total (askOpen (.user u t)) (taskOpen (.user u t))

/-- What is taken beyond the limit counter. -/
def excess (u : UserId) (t : TicketTypeId) (w : World) : Int :=
  taken u t w.db - userLimitOf w.redis u t

/-! ## The condition -/

/-- An order is booked while no release of the user runs ahead, and cancelOrder and
    expireOrder write their status. -/
def KeepsLimit (p : State) (ch : Choice) : Ask → Prop
  | .persistOrder ctx _ metas =>
      ch.fails = false → ∀ m ∈ metas, NoneAhead ctx.userId m.ticketTypeId p
  | .markCancelled _ | .markExpired _ => ch.fails = false
  | _ => True

/-- A release of an operation that has unbooked nothing finds no record: that of a FAILED
    webhook or of the cron that found the order settled, and those of a createOrder that
    fails behind its row, which stays.  cancelOrder and expireOrder carry out their
    batches. -/
def ReleasesOwn (w : World) (ch : Choice) : Task → Prop
  | .releaseReservation site p =>
      (site = .cancel ∨ site = .expire → ch.fails = false) ∧
        (ReleaseSite.owed site = false → ¬ Matches p w.now w.redis)
  | .decrementReserved t _ _ => ch.fails = false ∧ (w.db.findTicketType t).isSome
  | .decrementCounter u t _ _ => ch.fails = false ∧ (w.db.counters (u, t)).isSome
  | _ => True

/-- A sale whose releases give back only what is not booked, and in which nobody settles or
    issues an order between another operation's read of it and its write. -/
def releasingOwn : Condition where
  req _ r := Request.kind r ≠ .updateTicketType
  ask p ch d := settlingAlone.ask p ch d ∧ issuingAlone.ask p ch d ∧ KeepsLimit p ch d
  task p ch t := ReleasesOwn p.world ch t
  env _ _ := True

/-- The condition says more than that statuses are final. -/
theorem releasingOwn_settles : releasingOwn.Implies settlingAlone where
  req _ _ _ := trivial
  ask _ _ _ h := h.1
  task _ _ _ _ := trivial
  env _ _ := id

/-- It says more than that tickets are issued once. -/
theorem releasingOwn_issues : releasingOwn.Implies issuingAlone where
  req _ _ := id
  ask _ _ _ h := h.2.1
  task _ _ _ _ := trivial
  env _ _ := id

/-! ## One call -/

variable {c : Cell}

/-- A call that owes nothing has nothing open. -/
theorem askOpen_of_not_owes {d : Ask} (h : Ask.owes d = false) : askOpen c d = 0 := by
  unfold askOpen
  split
  all_goals first
    | rfl
    | cases h

/-- Nor has such a task. -/
theorem taskOpen_of_not_owes {t : Task} (h : Task.owes t = false) : taskOpen c t = 0 := by
  cases t with
  | releaseReservation site p =>
      cases site with
      | webhookFailed released =>
          cases released
          · rfl
          · cases h
      | cron released =>
          cases released
          · rfl
          · cases h
      | _ => cases h
  | _ => rfl

/-- A task takes off at least nothing. -/
theorem taskOpen_nonneg (t : Task) : 0 ≤ taskOpen c t := by
  cases t with
  | releaseReservation site p =>
      simp only [taskOpen]
      split
      · exact Cell.part_nonneg p.quantity_pos
      · exact le_refl 0
  | _ => exact le_refl 0

/-- Nor has what is left of such an operation. -/
theorem Settled.open_zero {k : Kind} {prog : Op} (h : Settled k prog) :
    prog.total (askOpen c) (taskOpen c) = 0 :=
  h.total (fun _ => askOpen_of_not_owes) fun _ => taskOpen_of_not_owes

/-- The releases of some validated items. -/
theorem open_metaReleases {site : ReleaseSite} (hsite : ReleaseSite.owed site = true)
    (ctx : CreateCtx) (o : OrderId) (metas : List TicketMeta) :
    ((metaReleases site ctx o metas).map (taskOpen c)).sum = c.share ctx.userId (metaQty metas) := by
  rw [Cell.share_metaQty, metaReleases, List.map_map]
  congr 1
  exact List.map_congr_left fun m _ => if_pos hsite

/-- The releases of an order. -/
theorem open_releases {site : ReleaseSite} (hsite : ReleaseSite.owed site = true) (order : Order) :
    ((releases site order).map (taskOpen c)).sum = c.weight order.userId order.items := by
  rw [Cell.weight_eq_sum, releases, List.map_map]
  congr 1
  exact List.map_congr_left fun i _ => if_pos hsite

/-- Releases that give back nothing of their own, and decrements. -/
theorem open_none {ts : List Task} (h : ∀ t ∈ ts, taskOpen c t = 0) :
    (ts.map (taskOpen c)).sum = 0 :=
  List.sum_eq_zero fun a ha => by
    obtain ⟨t, ht, rfl⟩ := List.mem_map.mp ha
    exact h t ht

/-- Decrements take nothing off the limit. -/
theorem open_decrements (order : Order) :
    ((typeDecrements order).map (taskOpen c)).sum = 0 ∧
      ((counterDecrements order).map (taskOpen c)).sum = 0 := by
  constructor
  all_goals
    refine open_none fun t ht => ?_
    obtain ⟨i, -, rfl⟩ := List.mem_map.mp ht
    rfl

/-- Behind the reservations at most what was accepted is open. -/
theorem open_awaitReserve (ctx : CreateCtx) (o : OrderId) (slots : List ReserveSlot) :
    (awaitReserve ctx o slots).total (askOpen c) (taskOpen c) ≤ accepted c ctx slots :=
  (total_awaitReserve (fun _ => rfl) (fun _ => rfl) (fun _ => rfl) slots).1


/-! ## One step of the counter -/

theorem atUser_atType (u u' : UserId) (t t' : TicketTypeId) (q : Int) :
    (Cell.user u t).part u' t' q = if (u', t') = (u, t) then q else 0 := by
  simp only [Cell.part, Cell.share, atUser, atType, Prod.mk.injEq]
  by_cases hu : u' = u
  · by_cases ht : t' = t <;> simp [hu, ht]
  · simp [hu]

/-- A reservation that takes effect counts its tickets. -/
theorem userLimitOf_reserved (p : ReserveParams) (now : Nat) (r : Redis) :
    userLimitOf (TicketRedis.reserved p now r) u t
      = userLimitOf r u t + (Cell.user u t).part p.userId p.ticketTypeId p.quantity := by
  rw [TicketRedis.userLimitOf_reserved, atUser_atType]
  simp only [Prod.mk.injEq]

/-- A release that takes effect takes its tickets off, and stops at zero. -/
theorem userLimitOf_released (p : ReleaseParams) (r : Redis) :
    userLimitOf r u t - (Cell.user u t).part p.userId p.ticketTypeId p.quantity
        ≤ userLimitOf (TicketRedis.released p r) u t ∧
      userLimitOf (TicketRedis.released p r) u t ≤ max 0 (userLimitOf r u t) := by
  have hq := p.quantity_pos
  rw [atUser_atType]
  by_cases h : (p.userId, p.ticketTypeId) = (u, t)
  · rw [if_pos h]
    cases h
    rw [userLimitOf_released_self]
    omega
  · rw [if_neg h, userLimitOf_released_ne fun he => h he.symm]
    omega

/-- A seed from no counter leaves the limit at zero. -/
theorem userLimitOf_setNx {u' : UserId} {t' : TicketTypeId} {n : Int} {r : Redis}
    (hzero : r.userLimit (u', t') = none → n = 0) :
    userLimitOf (setNxUserLimit u' t' n r) u t = userLimitOf r u t := by
  simp only [setNxUserLimit]
  split
  · rfl
  · next hnone =>
    simp only [userLimitOf]
    by_cases h : (u, t) = (u', t')
    · rw [h, Function.update_self, hnone, hzero hnone]
      rfl
    · rw [Function.update_of_ne h]

/-! ## Awaited calls -/

/-- What a call changes: it books `x`, counts what it reserves, and goes on with
    no more than it had. -/
structure Booked (u : UserId) (t : TicketTypeId) (ch : Choice) (w w' : World) (d : Ask)
    (prog : Op) (x : Int) : Prop where
  taken : taken u t w'.db = taken u t w.db + x
  open_le : x + prog.total (askOpen (.user u t)) (taskOpen (.user u t)) + userLimitOf w.redis u t
    ≤ askOpen (.user u t) d + userLimitOf w'.redis u t
  books : x ≤ 0 ∨ ∃ ctx o metas, ch.fails = false ∧ d = .persistOrder ctx o metas ∧
    x = (Cell.user u t).share ctx.userId (metaQty metas)

/-- A call that books nothing and leaves the counter alone. -/
theorem booked_plain {ch : Choice} {w w' : World} {d : Ask} {prog : Op}
    (ho : w'.db.orders = w.db.orders) (ht : w'.db.tickets = w.db.tickets)
    (hr : w'.redis.userLimit = w.redis.userLimit)
    (hle : prog.total (askOpen (.user u t)) (taskOpen (.user u t)) ≤ askOpen (.user u t) d) :
    Booked u t ch w w' d prog 0 where
  taken := by rw [taken_same ho ht, add_zero]
  open_le := by
    simp only [userLimitOf, hr]
    omega
  books := .inl (le_refl 0)

/-- A status that gives an unissued order's share back. -/
theorem booked_final {ch : Choice} {w : World} {d : Ask} {prog : Op} {db : Db} {order : Order}
    {s : OrderStatus} (hw : WorldSound w) (hd : Drawn w order)
    (hset : OrderSet order.id s w.db db) (ht : db.tickets = w.db.tickets)
    (hs : s ≠ .pendingPayment ∧ s ≠ .paid) (hu : Unissued order.id w.db)
    (hle : prog.total (askOpen (.user u t)) (taskOpen (.user u t))
      ≤ askOpen (.user u t) d + (Cell.user u t).weight order.userId order.items) :
    Booked u t ch w { w with db := db } d prog
      (-(Cell.user u t).weight order.userId order.items) where
  taken := taken_final hw hd hset ht hs hu
  open_le := by
    show _ + _ + userLimitOf w.redis u t ≤ _ + userLimitOf w.redis u t
    omega
  books := .inl (by have := Cell.weight_nonneg (Cell.user u t) order.userId order.items; omega)

/-- A batch of releases that are owed, with nothing behind it. -/
theorem total_releases {site : ReleaseSite} (hsite : ReleaseSite.owed site = true) (order : Order)
    {h rest : Op} (hrest : rest.total (askOpen c) (taskOpen c) = 0) :
    (Prog.par (releases site order) h rest).total (askOpen c) (taskOpen c)
      = c.weight order.userId order.items := by
  rw [Prog.total_par, open_releases hsite, hrest, add_zero]

/-- The gateway's calls and the reversal of the inventory owe nothing here. -/
theorem open_zero_of_paying {d : Ask} {x : CreateCtx × OrderId × List TicketMeta}
    (h : Ask.paying d = some x) : askOpen c d = 0 := by
  unfold Ask.paying at h
  split at h
  all_goals first
    | rfl
    | cases h

theorem open_metaDecrements (u : UserId) (metas : List TicketMeta) :
    ((metas.map (fun m => Task.decrementReserved m.ticketTypeId m.quantity m.quantity_pos)
      ++ metas.map (fun m => Task.decrementCounter u m.ticketTypeId m.quantity m.quantity_pos)).map
        (taskOpen c)).sum = 0 := by
  refine open_none fun t ht => ?_
  rcases List.mem_append.mp ht with ht | ht
  · obtain ⟨m, -, rfl⟩ := List.mem_map.mp ht
    rfl
  · obtain ⟨m, -, rfl⟩ := List.mem_map.mp ht
    rfl

/-- The releases of a reversal that gives back nothing of its own. -/
theorem open_reversal {site : ReleaseSite} (hsite : ReleaseSite.owed site = false)
    (ctx : CreateCtx) (o : OrderId) (metas : List TicketMeta) :
    ((metaReleases site ctx o metas).map (taskOpen c)).sum = 0 := by
  refine open_none fun t ht => ?_
  obtain ⟨m, -, rfl⟩ := List.mem_map.mp ht
  simp [taskOpen, hsite]

/-- Every call of a sale under the condition books what its operation had open. -/
theorem asked_booked {p : State} {ch : Choice} {w' : World} {d : Ask} {prog : Op}
    (h : Asked ch p.world d w' prog) (hk : Ask.kind d ≠ .updateTicketType)
    (hw : WorldSound p.world) (hs : AskSound p.world d) (honce : Once p.world.db)
    (hr : AskReady p.world d) (hg : KeepsLimit p ch d) :
    ∃ x, Booked u t ch p.world w' d prog x := by
  -- an order whose status is written was PENDING_PAYMENT, so it holds its share
  have hunissued : ∀ {o : OrderId} {s : OrderStatus} {db : Db}, Ask.settles d = some o →
      OrderSet o s p.world.db db → Unissued o p.world.db :=
    fun hd hset => hr.settled honce hd hset.1
  have hawait : ∀ {ctx o slots k s w''} (reply : Option (Except ApiError LuaScriptResult)),
      slots[k]? = some s → s.reply = none → w''.db = p.world.db →
      userLimitOf w''.redis u t = userLimitOf p.world.redis u t
        + (if ReserveSlot.accepted { s with reply := reply } then
            (Cell.user u t).part ctx.userId s.item.ticketTypeId s.item.quantity else 0) →
      Booked u t ch p.world w'' (.reserveTickets ctx o slots)
        (awaitReserve ctx o (slots.set k { s with reply := reply })) 0 := by
    intro ctx o slots k s w'' reply hk hnone hdb hlimit
    have hopen := open_awaitReserve (c := .user u t) ctx o (slots.set k { s with reply := reply })
    rw [accepted_set hk hnone] at hopen
    refine ⟨by rw [hdb, add_zero], ?_, .inl (le_refl 0)⟩
    rw [hlimit, askOpen]
    omega
  cases h with
  | idle _ _ _ _ _ howes hp =>
      exact ⟨0, booked_plain rfl rfl rfl (by rw [hp.open_zero, askOpen_of_not_owes howes])⟩
  | drawn ctx metas =>
      refine ⟨0, booked_plain rfl rfl rfl ?_⟩
      exact le_trans (open_awaitReserve ..) (by rw [accepted_started]; rfl)
  | reserveThrew ctx o slots s hslot hnone =>
      exact ⟨0, hawait _ hslot hnone rfl (by simp [ReserveSlot.accepted])⟩
  | reserved ctx o slots s redis res hslot hnone hres =>
      refine ⟨0, hawait _ hslot hnone rfl ?_⟩
      by_cases hc : CanReserve (reserveParams ctx o s.item) p.world.now p.world.redis
      · rw [reserveTicket_ok hc] at hres
        cases hres
        rw [if_pos (by rfl)]
        exact userLimitOf_reserved ..
      · obtain ⟨e, he⟩ := reserveTicket_error hc
        rw [he] at hres
        cases hres
        simp [ReserveSlot.accepted]
  | persisted ctx o metas db hf hdb =>
      obtain ⟨rfl, -⟩ := insertOrder_eq hdb
      have ht : userTickets u t { p.world.db with orders := p.world.db.orders ++
          [newOrder ctx o metas] } = userTickets u t p.world.db := rfl
      refine ⟨_, ?_, ?_, .inr ⟨ctx, o, metas, hf, rfl, rfl⟩⟩
      · rw [taken, taken, held_inserted, ht]
        omega
      · show _ + 0 + userLimitOf p.world.redis u t
          ≤ (Cell.user u t).share ctx.userId (metaQty metas) + userLimitOf p.world.redis u t
        omega
  | persistFailed ctx o metas =>
      refine ⟨0, booked_plain rfl rfl rfl ?_⟩
      rw [Prog.total_par, open_metaReleases rfl, Prog.total_ret, add_zero, askOpen]
  | synced ctx o metas db _ hdb =>
      obtain ⟨ho, ht⟩ := syncInventory_same hdb
      exact ⟨0, booked_plain ho ht rfl (le_refl 0)⟩
  | syncFailed ctx o metas e _ =>
      refine ⟨0, booked_plain rfl rfl rfl ?_⟩
      rw [inventoryRollback, Prog.total_par, open_reversal rfl, Prog.total_ask]
      rfl
  | paying _ ctx o metas payments d' hd hd' _ =>
      refine ⟨0, booked_plain rfl rfl rfl ?_⟩
      rw [open_zero_of_paying hd, Prog.total_ask]
      rcases hd' with hd' | hd'
      · rw [open_zero_of_paying hd']
      · rw [askOpen_of_not_owes hd']
  | payingFailed _ ctx o metas e hd _ =>
      refine ⟨0, booked_plain rfl rfl rfl ?_⟩
      rw [open_zero_of_paying hd, gatewayRollback, Prog.total_par, open_reversal rfl,
        Prog.total_par, open_metaDecrements, Prog.total_ask]
      rfl
  | deleted _ o e db hd _ hdb =>
      have hheld := held_deleted (c := .user u t) hw.keyed hdb
      obtain ⟨rfl, -⟩ := deleteOrder_eq hdb
      refine ⟨0, ?_, ?_, .inl (le_refl 0)⟩
      · rw [taken, taken, hheld, add_zero]
        rfl
      · rcases hd with rfl | rfl <;> exact le_refl _
  | deleteRefused _ o e e' hd =>
      exact ⟨0, booked_plain rfl rfl rfl (by rcases hd with rfl | rfl <;> exact le_refl 0)⟩
  | cancelling o u' order _ _ _ =>
      refine ⟨0, booked_plain rfl rfl rfl ?_⟩
      have hdec := open_decrements (c := .user u t) order
      rw [Prog.total_par, open_releases rfl, Prog.total_par, List.map_append, List.sum_append,
        hdec.1, hdec.2, Prog.total_ask]
      simp only [askOpen]
      omega
  | cancelled order db hf hdb =>
      obtain ⟨hset, ht, -, -⟩ := commitCancelled_set hdb
      refine ⟨_, booked_final hw hs.2 hset ht (by simp) (hunissued rfl hset) ?_⟩
      rw [Prog.total_ret, askOpen]
      omega
  | expiring o order _ _ =>
      refine ⟨0, booked_plain rfl rfl rfl ?_⟩
      have hdec := open_decrements (c := .user u t) order
      rw [Prog.total_par, open_releases rfl, Prog.total_par, Prog.total_par, hdec.1, hdec.2,
        Prog.total_ask]
      simp only [askOpen]
      omega
  | expired order db hf hdb =>
      obtain ⟨hset, ht, -, -⟩ := commitExpired_set hdb
      refine ⟨_, booked_final hw hs.2 hset ht (by simp) (hunissued rfl hset) ?_⟩
      rw [Prog.total_ret, askOpen]
      omega
  | markFailed _ order hd hf =>
      have hnil := hr.mark_failed hd hf (by rcases hd with rfl | rfl <;> exact hg)
      refine ⟨0, booked_plain rfl rfl rfl ?_⟩
      have hzero : askOpen (.user u t) d = 0 := by
        rcases hd with rfl | rfl <;> simp [askOpen, hnil]
      rw [hzero]
      exact le_refl 0
  | failed order db hf hdb =>
      have hrel := commitFailed_released hdb
      refine ⟨_, booked_final hw hs.2 hrel.set hrel.tickets (by simp) (hunissued rfl hrel.set) ?_⟩
      rw [afterFailed, total_releases rfl order rfl]
      exact le_of_eq (zero_add _).symm
  | succeeded dto order gateName db hf hdb =>
      obtain ⟨hset, hi⟩ := commitSuccess_issued hdb
      have hopen := hunissued rfl hset
      rw [← show order.id = dto.orderId from hs.2.1] at hset hopen
      have hheld := heldSum_issued_set (Cell.user u t).weight hw.keyed hset hi hopen
        (row_of_copy hw hs.2.2) fun _ => Cell.weight_nil ..
      refine ⟨0, ?_, le_refl _, .inl (le_refl 0)⟩
      rw [taken, taken, held, hheld, userTickets_issued hi, ← held]
      omega
  | recordDeleted order => exact ⟨0, booked_plain rfl rfl rfl (le_refl 0)⟩
  | cronPaid order rest db hf hdb =>
      obtain ⟨hset, ht, -, -⟩ := commitCronPaid_set hdb
      refine ⟨0, ?_, le_refl _, .inl (le_refl 0)⟩
      rw [taken, taken, held, heldSum_paid hw.keyed hset ht (hunissued rfl hset), ← held, userTickets_same ht,
        add_zero]
  | cronPaidSkipped order rest _ => exact ⟨0, booked_plain rfl rfl rfl (le_refl 0)⟩
  | enqueued order rest =>
      exact ⟨0, booked_plain rfl rfl rfl (le_of_eq (settled_cronNext rest).open_zero)⟩
  | enqueueFailed order rest _ => exact ⟨0, booked_plain rfl rfl rfl (le_refl 0)⟩
  | cronExpired order res rest db hf hdb =>
      have hrel := commitCronExpire_released hdb
      refine ⟨_, booked_final hw (hs.2 order List.mem_cons_self) hrel.set hrel.tickets
        (orderStatus_final res) (hunissued rfl hrel.set) ?_⟩
      rw [afterCronExpire, total_releases rfl order (settled_cronNext rest).open_zero]
      exact le_of_eq (zero_add _).symm
  | issued job order db hf hdb =>
      obtain ⟨ho, hi⟩ := commitIssue_issued hdb
      obtain ⟨hp, hno⟩ := hr.issued
      have hheld := heldSum_issued_same (Cell.user u t).weight hw.keyed ho hi hp hno
        (row_of_copy hw hs.2.2.2) fun _ => Cell.weight_nil ..
      refine ⟨0, ?_, le_refl _, .inl (le_refl 0)⟩
      rw [taken, taken, held, hheld, userTickets_issued hi, ← held]
      omega
  | completed job answer => exact ⟨0, booked_plain rfl rfl rfl (le_refl 0)⟩
  | typeWritten => exact absurd rfl hk
  | stockSeeded => exact absurd rfl hk
  | seedFailed => exact absurd rfl hk
  | soldOutSet => exact absurd rfl hk

/-- A call books no more than the operation had open. -/
theorem Booked.excess_le {ch : Choice} {w w' : World} {d : Ask} {prog : Op} {x : Int}
    (h : Booked u t ch w w' d prog x) :
    excess u t w' + prog.total (askOpen (.user u t)) (taskOpen (.user u t))
      ≤ excess u t w + askOpen (.user u t) d := by
  have := h.open_le
  rw [excess, excess, h.taken]
  omega

/-! ## Tasks -/

/-- What a task does to the excess. -/
theorem performed_excess {ch : Choice} {w w' : World} {task : Task} {res : TaskResult Task}
    (h : Performed ch w task w' res) (hres : res ≠ .threw) (hg : ReleasesOwn w ch task)
    (ht : TaskTracked w.redis task) :
    excess u t w' ≤ excess u t w + taskOpen (.user u t) task := by
  cases h with
  | threw task _ => exact absurd rfl hres
  | ended task howes => rw [taskOpen_of_not_owes howes, add_zero]
  | looked task task' howes _ _ => rw [taskOpen_of_not_owes howes, add_zero]
  | stockSet t' available =>
      have hlimit : userLimitOf (setNxStock t' available w.redis) u t = userLimitOf w.redis u t := by
        simp only [setNxStock]
        split <;> rfl
      simp [excess, hlimit, taskOpen]
  | limitSet u' t' n => simp [excess, userLimitOf_setNx ht, taskOpen]
  | released site p =>
      by_cases hm : Matches p w.now w.redis
      · have howed : ReleaseSite.owed site = true := by
          by_contra hno
          exact hg.2 (by simpa using hno) hm
        have hlimit := (userLimitOf_released (u := u) (t := t) p w.redis).1
        simp only [excess, (release_of_matches hm).1, taskOpen, howed, if_true]
        omega
      · simp only [excess, (release_of_not_matches hm).1]
        have := taskOpen_nonneg (c := .user u t) (.releaseReservation site p)
        omega
  | decremented t' q pos db hdb =>
      obtain ⟨ho, ht, -⟩ := decrementReserved_same hdb
      simp [excess, taken_same ho ht, taskOpen]
  | counterDecremented u' t' q pos db hdb =>
      obtain ⟨ho, ht, -⟩ := decrementCounter_same hdb
      simp [excess, taken_same ho ht, taskOpen]

/-- No task books anything. -/
theorem performed_taken {ch : Choice} {w w' : World} {task : Task} {res : TaskResult Task}
    (h : Performed ch w task w' res) : taken u t w'.db = taken u t w.db := by
  obtain ⟨-, -, -, ht⟩ := performed_inventory h
  exact taken_same (performed_orders h).1 ht

/-! ## Batches that may throw -/

/-- The condition does not let the task throw. -/
def Task.carried : Task → Bool
  | .releaseReservation site _ => decide (site = .cancel ∨ site = .expire)
  | .decrementReserved .. | .decrementCounter .. => true
  | _ => false

/-- A task that has to be carried out does not throw. -/
theorem carried_of_threw {ch : Choice} {w w' : World} {task : Task}
    (h : Performed ch w task w' .threw) (hg : ReleasesOwn w ch task) :
    Task.carried task = false := by
  cases h with
  | threw task hf =>
      cases task with
      | releaseReservation site p =>
          simp only [Task.carried, decide_eq_false_iff_not]
          intro hsite
          rcases hf with hf | ⟨t', q', pos', ⟨⟩, -⟩ | ⟨u, t', q', pos', ⟨⟩, -⟩
          rw [hg.1 hsite] at hf
          cases hf
      | decrementReserved t q pos =>
          obtain ⟨hok, hrow⟩ := hg
          rcases hf with hf | ⟨t', q', pos', ⟨⟩, hnone⟩ | ⟨u, t', q', pos', ⟨⟩, -⟩
          · rw [hok] at hf
            cases hf
          · rw [hnone] at hrow
            cases hrow
      | decrementCounter u t q pos =>
          obtain ⟨hok, hrow⟩ := hg
          rcases hf with hf | ⟨t', q', pos', ⟨⟩, -⟩ | ⟨u', t', q', pos', ⟨⟩, hnone⟩
          · rw [hok] at hf
            cases hf
          · rw [hnone] at hrow
            cases hrow
      | _ => rfl

/-- What stands behind a batch that may throw gives nothing back. -/
abbrev Unfailing (c : Cell) (prog : Op) : Prop :=
  prog.Sheltered (askOpen c) (taskOpen c) (fun t => Task.carried t = false) (fun x => 0 ≤ x)

theorem Settled.unfailing {k : Kind} {prog : Op} (h : Settled k prog) : Unfailing c prog := by
  induction prog with
  | ret a => trivial
  | ask d => trivial
  | par ts hd rest ihh ihr =>
      obtain ⟨-, hh, hr⟩ := settled_par.mp h
      exact ⟨hh.open_zero, fun _ => le_of_eq hr.open_zero.symm, ihh hh, ihr hr⟩

/-- A batch that is carried out. -/
theorem unfailing_carried {ts : List Task} {rest : Op}
    (hts : ∀ t ∈ ts, Task.carried t = true) (hrest : Unfailing c rest) :
    Unfailing c (.par ts thrown rest) := by
  refine .par (fun ⟨t, ht, hno⟩ => ?_) hrest
  rw [hts t ht] at hno
  cases hno

/-- The releases of a cancel and of an expiry have to be carried out. -/
theorem carried_releases {site : ReleaseSite} (hsite : site = .cancel ∨ site = .expire)
    (order : Order) : ∀ t ∈ releases site order, Task.carried t = true := by
  intro t ht
  obtain ⟨i, -, rfl⟩ := List.mem_map.mp ht
  simpa [Task.carried] using hsite

/-- So have all decrements. -/
theorem carried_decrements (order : Order) :
    (∀ t ∈ typeDecrements order, Task.carried t = true) ∧
      ∀ t ∈ counterDecrements order, Task.carried t = true := by
  constructor
  all_goals
    intro t ht
    obtain ⟨i, -, rfl⟩ := List.mem_map.mp ht
    rfl

theorem unfailing_awaitReserve (ctx : CreateCtx) (o : OrderId) (slots : List ReserveSlot) :
    Unfailing c (awaitReserve ctx o slots) := by
  simp only [awaitReserve]
  split
  · next hall =>
    have hsettles := afterReserve_settles ctx o slots (by simpa using hall)
    generalize afterReserve ctx o slots = prog at hsettles
    cases hsettles with
    | threw s _ _ => trivial
    | succeeded _ => trivial
    | rejected k s e _ _ _ =>
        generalize (slots.take k).reverse.map ReserveSlot.item = metas
        induction metas with
        | nil => trivial
        | cons m metas ih =>
            refine .par (fun _ => ?_) ih
            rw [total_rollback (c := c) (fun _ => rfl)]
            exact Cell.share_nonneg (metaQty_nonneg metas)
  · trivial

/-- What follows a call has no way out that leaves a release behind. -/
theorem asked_unfailing {ch : Choice} {w w' : World} {d : Ask} {prog : Op}
    (h : Asked ch w d w' prog) : Unfailing c prog := by
  cases h with
  | idle _ _ _ _ _ _ hp => exact hp.unfailing
  | drawn ctx metas => exact unfailing_awaitReserve ..
  | reserveThrew ctx o slots s _ _ => exact unfailing_awaitReserve ..
  | reserved ctx o slots s _ _ _ _ _ => exact unfailing_awaitReserve ..
  | persistFailed ctx o metas => exact .par (fun _ => le_refl 0) trivial
  | syncFailed ctx o metas e _ => exact .par (fun _ => le_refl 0) trivial
  | payingFailed _ ctx o metas e _ _ =>
      refine .par (fun _ => ?_) (.par (fun _ => le_refl 0) trivial)
      rw [Prog.total_par, open_metaDecrements, Prog.total_ask]
      exact le_refl 0
  | cancelling o u order _ _ _ =>
      refine unfailing_carried (carried_releases (.inl rfl) order)
        (unfailing_carried (fun t ht => ?_) trivial)
      rcases List.mem_append.mp ht with ht | ht
      · exact (carried_decrements order).1 t ht
      · exact (carried_decrements order).2 t ht
  | expiring o order _ _ =>
      exact unfailing_carried (carried_releases (.inr rfl) order)
        (unfailing_carried (carried_decrements order).2
          (unfailing_carried (carried_decrements order).1 trivial))
  | failed order db _ _ => exact .par (fun _ => le_refl 0) trivial
  | enqueued order rest => exact (settled_cronNext rest).unfailing
  | cronExpired order res rest db _ _ =>
      exact ⟨(settled_cronNext rest).open_zero,
        fun _ => le_of_eq (settled_cronNext rest).open_zero.symm,
        (settled_cronNext rest).unfailing, (settled_cronNext rest).unfailing⟩
  | typeWritten existing dto db row _ _ _ hp =>
      rcases hp with rfl | ⟨-, -, -, hp⟩
      · trivial
      · exact hp.unfailing
  | stockSeeded row _ hp => exact hp.unfailing
  | _ => trivial

/-! ## The limit a reservation is checked against -/

/-- The validated items carry the limits `lim`. -/
def HasLimits (lim : TicketTypeId → Int) (_todo : List OrderItemDto) (metas : List TicketMeta) :
    Prop :=
  ∀ m ∈ metas, m.maxPerUser = lim m.ticketTypeId

/-- The items of the call carry the limits. -/
abbrev OpLimits (lim : TicketTypeId → Int) (prog : Op) : Prop :=
  OpGiven (HasLimits lim) (fun _ => True) prog

/-- What was validated has the limit of its type. -/
theorem validateTicketType_limit {db : Db} {now : Nat} {cId : ConcertId} {item : OrderItemDto}
    {m : TicketMeta} (h : validateTicketType db now cId item = .ok m) :
    m.maxPerUser = limitOf db m.ticketTypeId := by
  simp only [validateTicketType] at h
  repeat' split at h
  all_goals first
    | cases h; done
    | skip
  cases h
  next htype _ _ _ _ => simp [limitOf, htype]

/-- So have all items of a request. -/
theorem limits_validated {db : Db} {now : Nat} {cId : ConcertId} {item : OrderItemDto}
    {todo : List OrderItemDto} {metas : List TicketMeta} {m : TicketMeta}
    (h : validateTicketType db now cId item = .ok m)
    (hm : HasLimits (limitOf db) (item :: todo) metas) :
    HasLimits (limitOf db) todo (metas ++ [m]) := by
  intro m' hm'
  rcases List.mem_append.mp hm' with hm' | hm'
  · exact hm m' hm'
  · rw [List.mem_singleton.mp hm']
    exact validateTicketType_limit h

/-- A request begins with nothing validated. -/
theorem requestGiven_limits (lim : TicketTypeId → Int) (r : Request) :
    RequestGiven (HasLimits lim) (fun _ => True) r := by
  cases r with
  | createOrder dto u => exact fun m hm => nomatch hm
  | _ => trivial

/-! ## All runs -/

/-- What holds in a run whose releases give back only what is not booked. -/
structure Limited (p : State) : Prop extends Uncontested p where
  keys : KeysTracked p
  limits : ∀ prog ∈ p.ops, OpLimits (limitOf p.world.db) prog
  unfailing : ∀ c, ∀ prog ∈ p.ops, Unfailing c prog
  nonneg : ∀ t, 0 ≤ limitOf p.world.db t
  balance : ∀ u t, excess u t p.world
    + p.total (askOpen (.user u t)) (taskOpen (.user u t)) ≤ 0
  counter : ∀ u t, userLimitOf p.world.redis u t ≤ limitOf p.world.db t
  booked : ∀ u t, taken u t p.world.db ≤ limitOf p.world.db t

/-- The counter after a call stays below the limit. -/
theorem asked_counter {ch : Choice} {w w' : World} {d : Ask} {prog : Op} (h : Asked ch w d w' prog)
    (hd : AskGiven (HasLimits (limitOf w.db)) (fun _ => True) d)
    (hc : userLimitOf w.redis u t ≤ limitOf w.db t) :
    userLimitOf w'.redis u t ≤ limitOf w.db t := by
  cases h with
  | reserved ctx o slots s redis res hs _ hres =>
      by_cases hcan : CanReserve (reserveParams ctx o s.item) w.now w.redis
      · rw [reserveTicket_ok hcan] at hres
        cases hres
        have hlim := hd s.item (List.mem_map_of_mem (List.mem_of_getElem? hs))
        have hle := hcan.2.1
        show userLimitOf (TicketRedis.reserved (reserveParams ctx o s.item) w.now w.redis) u t ≤ _
        rw [userLimitOf_reserved, atUser_atType]
        split
        · next he =>
          cases he
          exact hle.trans (le_of_eq hlim)
        · rwa [add_zero]
      · obtain ⟨e, he⟩ := reserveTicket_error hcan
        rw [he] at hres
        cases hres
        exact hc
  | _ => exact hc

/-- A task leaves the counter within the limit. -/
theorem performed_counter {ch : Choice} {w w' : World} {task : Task} {res : TaskResult Task}
    (h : Performed ch w task w' res) (ht : TaskTracked w.redis task) (hl : 0 ≤ limitOf w.db t)
    (hc : userLimitOf w.redis u t ≤ limitOf w.db t) :
    userLimitOf w'.redis u t ≤ limitOf w.db t := by
  cases h with
  | stockSet t' available =>
      have hlimit : userLimitOf (setNxStock t' available w.redis) u t = userLimitOf w.redis u t := by
        simp only [setNxStock]
        split <;> rfl
      exact hlimit ▸ hc
  | limitSet u' t' n => exact userLimitOf_setNx ht ▸ hc
  | released site p =>
      by_cases hm : Matches p w.now w.redis
      · simp only [(release_of_matches hm).1]
        have := (userLimitOf_released (u := u) (t := t) p w.redis).2
        omega
      · simp only [(release_of_not_matches hm).1]
        exact hc
  | _ => exact hc

/-- An order is booked within what its createOrder call has reserved. -/
theorem Limited.room {p : State} (hp : Limited p) {ctx : CreateCtx} {o : OrderId}
    {metas : List TicketMeta} (hmem : .ask (.persistOrder ctx o metas) ∈ p.ops)
    (hg : ∀ m ∈ metas, NoneAhead ctx.userId m.ticketTypeId p) :
    taken u t p.world.db + (Cell.user u t).share ctx.userId (metaQty metas)
      ≤ limitOf p.world.db t := by
  by_cases hin : ctx.userId = u ∧ ∃ m ∈ metas, m.ticketTypeId = t
  · obtain ⟨rfl, m, hm, rfl⟩ := hin
    have hnone := hg m hm
    have hle : (Cell.user ctx.userId m.ticketTypeId).share ctx.userId (metaQty metas)
        ≤ p.total (askOpen (.user ctx.userId m.ticketTypeId))
          (taskOpen (.user ctx.userId m.ticketTypeId)) :=
      List.single_le_sum (fun x hx => by
        obtain ⟨prog, hprog, rfl⟩ := List.mem_map.mp hx
        exact hnone prog hprog) _ (List.mem_map_of_mem hmem)
    have hbalance := hp.balance ctx.userId m.ticketTypeId
    have hcounter := hp.counter ctx.userId m.ticketTypeId
    rw [excess] at hbalance
    omega
  · have hzero : (Cell.user u t).share ctx.userId (metaQty metas) = 0 := by
      simp only [Cell.share, atUser]
      split
      · next hu =>
        refine List.sum_eq_zero fun x hx => ?_
        obtain ⟨m, hm, rfl⟩ := List.mem_map.mp hx
        exact if_neg fun ht => hin ⟨by simpa using hu, m, hm, ht⟩
      · rfl
    rw [hzero, add_zero]
    exact hp.booked u t

/-- Every step leaves it so. -/
theorem unfailing_step {p q : State} (hp : ∀ prog ∈ p.ops, Unfailing c prog)
    (h : backend.Step releasingOwn p q) : ∀ prog ∈ q.ops, Unfailing c prog := by
  refine h.sheltered hp (le_refl 0) ?_ ?_ ?_
  · intro r prog _ he
    exact (settled_enter he).unfailing
  · intro ch d w' prog _ _ hd
    exact asked_unfailing (dispatch_asked hd)
  · intro ch task task' w' hperf
    cases perform_performed hperf with
    | looked _ _ howes _ _ =>
        cases task with
        | releaseReservation site p =>
            cases site with
            | webhookFailed _ => rfl
            | cron _ => rfl
            | _ => cases howes
        | decrementReserved => cases howes
        | decrementCounter => cases howes
        | _ => rfl

/-- The rows of the ticket types keep their limits. -/
theorem limits_step {p q : State} (hkinds : OnlyKinds (· ≠ .updateTicketType) p)
    (h : backend.Step releasingOwn p q) (t : TicketTypeId) :
    limitOf q.world.db t = limitOf p.world.db t := by
  refine h.world (I := fun w : World => limitOf w.db t = limitOf p.world.db t) rfl ?_ ?_ ?_
  · intro ch d w' prog hmem _ hd
    exact limitOf_asked (dispatch_asked hd) (hkinds.ask hmem) t
  · intro ch task w' res _ _ hperf
    exact limitOf_performed (perform_performed hperf) t
  · exact fun _ _ => rfl

/-- The tasks of a batch find their keys. -/
theorem Limited.tracked {p : State} (hp : Limited p) {t : Task}
    (ht : ∃ ts hh rest, .par ts hh rest ∈ p.ops ∧ t ∈ ts) :
    TaskTracked p.world.redis t := by
  obtain ⟨ts, hh, rest, hmem, ht⟩ := ht
  exact (hp.keys.ops _ hmem).1 t ht

section Step

variable {p q : State} (hp : Limited p) (h : backend.Step releasingOwn p q)
include hp h

/-- A step leaves no excess but what is open. -/
theorem Limited.balance_step (u : UserId) (t : TicketTypeId) :
    excess u t q.world + q.total (askOpen (.user u t)) (taskOpen (.user u t)) ≤ 0 := by
  refine le_trans ?_ (hp.balance u t)
  refine h.balance (· ≤ ·) le_refl (fun a b c hab => by omega) (excess u t) ?_ ?_ ?_ ?_ ?_ ?_
  · intro r prog _ he
    exact le_of_eq (settled_enter he).open_zero
  · intro ch d w' prog hmem hg hd
    obtain ⟨x, hx⟩ := asked_booked (u := u) (t := t) (dispatch_asked hd)
      (hp.issuing.kinds.ask hmem) hp.final.sound.toWorldSound (hp.final.sound.ask hmem)
      hp.issuing.once (hp.ready hmem) hg.2.2
    exact hx.excess_le
  · intro ch task w' hin hg hperf
    exact performed_excess (perform_performed hperf) (by simp) hg (hp.tracked hin)
  · intro ch task task' w' hin hg hperf
    have hle := performed_excess (u := u) (t := t) (perform_performed hperf) (by simp) hg
      (hp.tracked hin)
    cases perform_performed hperf with
    | looked _ _ _ howes _ =>
        rw [taskOpen_of_not_owes howes, add_zero]
        exact hle
  · intro ch task w' ts hh rest hmem hts hg hperf
    have hno := carried_of_threw (perform_performed hperf) hg
    obtain ⟨hhandler, hrest, -⟩ := hp.unfailing (.user u t) _ hmem
    have hnonneg := taskOpen_nonneg (c := .user u t) task
    have hrest' := hrest ⟨task, hts, hno⟩
    cases perform_performed hperf with
    | threw =>
        rw [hhandler]
        omega
  · exact fun ms _ => le_refl _

/-- It leaves the counter within the limit. -/
theorem Limited.counter_step (u : UserId) (t : TicketTypeId) :
    userLimitOf q.world.redis u t ≤ limitOf p.world.db t := by
  refine h.world (I := fun w : World => userLimitOf w.redis u t ≤ limitOf p.world.db t)
    (hp.counter u t) ?_ ?_ ?_
  · intro ch d w' prog hmem _ hd
    exact asked_counter (dispatch_asked hd) (hp.limits _ hmem) (hp.counter u t)
  · intro ch task w' res hin _ hperf
    exact performed_counter (perform_performed hperf) (hp.tracked hin) (hp.nonneg t)
      (hp.counter u t)
  · exact fun _ _ => hp.counter u t

/-- It leaves what is booked within the limit. -/
theorem Limited.booked_step (u : UserId) (t : TicketTypeId) :
    taken u t q.world.db ≤ limitOf p.world.db t := by
  refine h.world (I := fun w : World => taken u t w.db ≤ limitOf p.world.db t) (hp.booked u t) ?_ ?_ ?_
  · intro ch d w' prog hmem hg hd
    obtain ⟨x, hx⟩ := asked_booked (u := u) (t := t) (dispatch_asked hd)
      (hp.issuing.kinds.ask hmem) hp.final.sound.toWorldSound (hp.final.sound.ask hmem)
      hp.issuing.once (hp.ready hmem) hg.2.2
    rw [hx.taken]
    rcases hx.books with hle | ⟨ctx, o, metas, hf, rfl, rfl⟩
    · have := hp.booked u t
      omega
    · exact hp.room hmem (hg.2.2 hf)
  · intro ch task w' res _ _ hperf
    rw [performed_taken (perform_performed hperf)]
    exact hp.booked u t
  · exact fun _ _ => hp.booked u t

/-- **Every step** keeps every user within the limit. -/
theorem Limited.step : Limited q where
  toUncontested := hp.toUncontested.step releasingOwn_settles releasingOwn_issues h
  keys := hp.keys.step h
  limits := by
    rw [funext (limits_step hp.issuing.kinds h)]
    exact given_step h hp.limits (fun r _ => requestGiven_limits _ r)
      fun _ _ _ _ _ => limits_validated
  unfailing := fun c => unfailing_step (hp.unfailing c) h
  nonneg := by
    intro t
    rw [limits_step hp.issuing.kinds h]
    exact hp.nonneg t
  balance := hp.balance_step h
  counter := by
    intro u t
    rw [limits_step hp.issuing.kinds h]
    exact hp.counter_step h u t
  booked := by
    intro u t
    rw [limits_step hp.issuing.kinds h]
    exact hp.booked_step h u t

end Step

/-- A limit is at least nothing. -/
theorem Opening.limit_nonneg {p : State} (h : Opening p) (t : TicketTypeId) :
    0 ≤ limitOf p.world.db t := by
  simp only [limitOf, Db.findTicketType]
  cases hr : RowTable.lookup TicketType.id t p.world.db.ticketTypes with
  | none => exact le_refl 0
  | some r => exact h.types_limit r (RowTable.lookup_mem hr)

/-- At the start nothing is booked. -/
theorem Opening.limited {p : State} (h : Opening p) : Limited p := by
  have htaken : ∀ u t, TicketBackend.taken u t p.world.db = 0 := by
    intro u t
    rw [TicketBackend.taken, held, heldSum, h.orders_nil, userTickets, h.tickets_nil]
    rfl
  have hlimit : ∀ u t, userLimitOf p.world.redis u t = 0 := by
    intro u t
    rw [userLimitOf, h.userLimit_none]
    rfl
  refine
    { toUncontested := h.uncontested
      keys := h.keysTracked
      limits := fun prog hp => ?_
      unfailing := fun c prog hp => ?_
      nonneg := h.limit_nonneg
      balance := fun u t => ?_
      counter := fun u t => by rw [hlimit]; exact h.limit_nonneg t
      booked := fun u t => by rw [htaken]; exact h.limit_nonneg t }
  · rw [h.ops_nil] at hp
    cases hp
  · rw [h.ops_nil] at hp
    cases hp
  · rw [excess, htaken, hlimit, Pool.total, h.ops_nil]
    exact le_refl 0

/-! ## The main result -/

/-- **The per-user limit**, in every run whose releases give back only what the user's
    orders do not book any more, and in which nobody settles or issues an order between
    another operation's read and write. -/
theorem user_limit_kept {p q : State} (hp : Opening p) (h : backend.Run releasingOwn p q) :
    WithinLimit q.world.db := by
  have hq : Limited q := h.inv (fun _ _ => Limited.step) hp.limited
  intro u t
  have htaken := hq.booked u t
  have hpending := pending_le_held u t q.world.db
  rw [TicketBackend.taken] at htaken
  omega

/-! ### Cancelled and ordered again -/

/-- The operations in flight are looked through. -/
instance (u : UserId) (t : TicketTypeId) (p : State) : Decidable (NoneAhead u t p) :=
  inferInstanceAs (Decidable (∀ prog ∈ p.ops, 0 ≤ _))

/-- Call by call. -/
instance (p : State) (ch : Choice) (d : Ask) : Decidable (KeepsLimit p ch d) := by
  induction d using Ask.casesOn <;> delta KeepsLimit <;> infer_instance

/-- Task by task. -/
instance (w : World) (ch : Choice) (t : Task) : Decidable (ReleasesOwn w ch t) := by
  induction t using TicketFlow.Task.casesOn <;> delta ReleasesOwn <;> infer_instance

/-- A run can be checked for this, step by step. -/
instance (p : State) (r : Request) : Decidable (releasingOwn.req p r) :=
  inferInstanceAs (Decidable (_ ≠ _))
instance (p : State) (ch : Choice) (d : Ask) : Decidable (releasingOwn.ask p ch d) :=
  inferInstanceAs (Decidable (settlingAlone.ask p ch d ∧ issuingAlone.ask p ch d ∧ KeepsLimit p ch d))
instance (p : State) (ch : Choice) (t : Task) : Decidable (releasingOwn.task p ch t) :=
  inferInstanceAs (Decidable (ReleasesOwn p.world ch t))
instance (p : State) (ms : Nat) : Decidable (releasingOwn.env p ms) :=
  inferInstanceAs (Decidable True)

/-- A customer cancels an order, orders again and pays. -/
def cancelAndReorder : List Move :=
  .start (.createOrder (oneTicket 1) 5) :: steps 0 18
    ++ .start (.cancelOrder 1 5) :: steps 1 7
    ++ .start (.createOrder (oneTicket 1) 5) :: steps 2 14
    ++ .start (.webhook (paid 2)) :: steps 3 5

/-- The customer has the one ticket the type allows. -/
theorem user_limit_kept_cancelAndReorder :
    ∃ q, backend.Run releasingOwn (shop [onSale 1 2 1]) q ∧ userTickets 5 1 q.world.db = 1 ∧
      WithinLimit q.world.db := by
  obtain ⟨q, hrun, hq⟩ : ∃ q, backend.Run releasingOwn (shop [onSale 1 2 1]) q ∧
      userTickets 5 1 q.world.db = 1 := exists_run cancelAndReorder _ (by decide)
  exact ⟨q, hrun, hq, user_limit_kept (shop_opening (by simp)) hrun⟩

/-! ## A FAILED webhook behind a SUCCESS webhook -/

/-- A FAILED webhook reads the order while it is PENDING_PAYMENT; a SUCCESS
    webhook issues its ticket; the release of the FAILED webhook, whose
    transaction finds the order PAID, still takes the ticket off the counter. -/
def failedAfterSuccess : List Move :=
  .start (.createOrder (oneTicket 1) 5) :: steps 0 18
    ++ .start (.webhook { paid 1 with result := .failed, providerTransactionId := 8 }) :: steps 1 1
    ++ .start (.webhook (paid 1)) :: steps 2 3
    ++ steps 1 3 ++ steps 2 2
    ++ .start (.createOrder (oneTicket 1) 5) :: steps 3 14

/-- The customer holds a ticket and orders a second one of a type that allows one. -/
theorem user_limit_broken_failedAfterSuccess :
    ¬ ∀ p q, Opening p → backend.Run selling p q → WithinLimit q.world.db := by
  intro h
  obtain ⟨q, hrun, hover⟩ : ∃ q, backend.Run selling (shop [onSale 1 2 1]) q ∧
      limitOf q.world.db 1 < pendingQty 5 1 q.world.db + userTickets 5 1 q.world.db :=
    exists_run failedAfterSuccess _ (by decide)
  have hwithin := h _ q (shop_opening (by simp)) hrun 5 1
  omega

end TicketBackend
