import TicketBox.RedisRecords
import TicketBox.StockProofs

/-! # Seeding the missing keys

    createOrder seeds the stock keys and its user's limit keys it finds missing:
    an existence check, a read of the database and a `SET NX`, with calls of
    other requests between any two of them.  No two requests can seed different
    values:

    * a type without its stock key cannot be reserved, so no order of the type
      gets as far as its inventory, and the row stays what it was;
    * a reservation comes after its request's batch of seeds, each of which has
      left its key (`AskPrepared`), so no counter row moves before its limit key
      is there;
    * a seed that comes late finds the key and leaves it.

    `seeds_race_free` puts this together for all interleavings of createOrder
    calls from any state in which nothing is in flight. -/

namespace TicketBackend

open Interleave TicketStore TicketRedis TicketDb TicketFlow TicketOrder TicketPayment
  TicketServices

/-! ## The setting -/

/-- Only createOrder runs, and no key expires. -/
def seeding : Condition where
  req _ r := Request.kind r = .createOrder
  ask _ _ _ := True
  task _ _ _ := True
  env p ms := ∀ o, p.world.redis.reservation (p.world.now + ms) o
    = p.world.redis.reservation p.world.now o

/-- The move creates the stock key of a type with a value. -/
structure CreatesStock (t : TicketTypeId) (n : Int) (p : State) (a : Move) (q : State) : Prop where
  missing : p.world.redis.stock t = none
  seed : p.taskAt a = some (.setNxStock t n)
  created : q.world.redis.stock t = some n

/-- The move creates the limit key of a user and a type with a value. -/
structure CreatesLimit (u : UserId) (t : TicketTypeId) (n : Int) (p : State) (a : Move)
    (q : State) : Prop where
  missing : p.world.redis.userLimit (u, t) = none
  seed : p.taskAt a = some (.setNxUserLimit u t n)
  created : q.world.redis.userLimit (u, t) = some n

/-! ## The calls before a reservation -/

/-- The limit keys a call relies on. -/
def Ask.limitKeys : Ask → UserId × TicketTypeId → Prop
  | .randomUUID ctx metas, k => ∃ m ∈ metas, k = (ctx.userId, m.ticketTypeId)
  | .reserveTickets ctx _ slots, k => ∃ s ∈ slots, k = (ctx.userId, s.item.ticketTypeId)
  | _, _ => False

/-- The limit key a seeding task leaves behind. -/
def Task.limitKey : Task → UserId × TicketTypeId → Prop
  | .ensureRedisUserLimit u t, k | .readCounterRow u t, k | .setNxUserLimit u t _, k => k = (u, t)
  | _, _ => False

/-- The window of a request that has still to reserve is not empty. -/
def Ask.windowed : Ask → Prop
  | .validateTicketType ctx _ _ | .randomUUID ctx _ | .reserveTickets ctx _ _ => 0 < ctx.ttl
  | _ => True

/-- The limit key exists. -/
def HasLimit (w : World) (k : UserId × TicketTypeId) : Prop := (w.redis.userLimit k).isSome

/-- The call has its window and its keys. -/
def AskPrepared (w : World) (d : Ask) : Prop :=
  Ask.windowed d ∧ ∀ k, Ask.limitKeys d k → HasLimit w k

/-- Every call the program may make has its window, and its keys or the tasks
    that leave them. -/
def Prepared (w : World) (prog : Op) : Prop :=
  prog.All Ask.windowed (fun _ => True) ∧ prog.Relies Ask.limitKeys Task.limitKey (HasLimit w)

/-- An operation is prepared if its calls are. -/
theorem prepared_of_all {w : World} {prog : Op} (h : prog.All (AskPrepared w) fun _ => True) :
    Prepared w prog :=
  ⟨h.mono (fun _ => And.left) fun _ => id,
    Prog.relies_of_all (h.mono (fun _ => And.right) fun _ => id)⟩

/-- A program of calls after the reservations. -/
theorem prepared_of_given {w : World} {prog : Op}
    (h : OpGiven (fun _ _ => False) (fun _ => True) prog) :
    Prepared w prog := by
  refine prepared_of_all (h.mono (fun d hd => ?_) fun _ => id)
  cases d with
  | validateTicketType ctx todo metas => cases hd
  | randomUUID ctx metas => cases hd
  | reserveTickets ctx o slots => cases hd
  | _ => exact ⟨trivial, fun k hk => hk.elim⟩

/-- A reservation of keys that are there is prepared. -/
theorem prepared_awaitReserve {w : World} {ctx : CreateCtx} {o : OrderId} {slots : List ReserveSlot}
    (httl : 0 < ctx.ttl) (hkeys : ∀ s ∈ slots, HasLimit w (ctx.userId, s.item.ticketTypeId)) :
    Prepared w (awaitReserve ctx o slots) := by
  refine prepared_of_all (all_awaitReserve ⟨httl, ?_⟩ (fun _ => ⟨trivial, fun k hk => hk.elim⟩)
    fun _ _ _ _ _ => trivial)
  rintro k ⟨s, hs, rfl⟩
  exact hkeys s hs

/-- The batch of seeds leaves the keys of the request's reservations. -/
theorem prepared_validateNext {w w' : World} {ctx : CreateCtx} {metas : List TicketMeta}
    {todo : List OrderItemDto} (httl : 0 < ctx.ttl) :
    Prepared w' (validateNext ctx w metas todo) := by
  cases todo with
  | nil =>
      refine ⟨⟨fun _ _ => trivial, trivial, httl⟩, trivial, ?_⟩
      rintro k ⟨m, hm, rfl⟩
      exact .inr ⟨.ensureRedisUserLimit ctx.userId m.ticketTypeId,
        List.mem_flatMap.mpr ⟨m, hm, by simp⟩, rfl⟩
  | cons item todo =>
      simp only [validateNext]
      split
      · exact ⟨trivial, trivial⟩
      · exact ⟨httl, fun k hk => hk.elim⟩

/-- A call goes on prepared. -/
theorem dispatch_prepared {ch : Choice} {w w' : World} {d : Ask} {prog : Op}
    (h : dispatch ch w d = some (w', prog)) (hd : AskPrepared w d) : Prepared w' prog := by
  have hgrow := asked_keys (dispatch_asked h)
  have hset : ∀ (ctx : CreateCtx) (slots : List ReserveSlot) (s : ReserveSlot)
      (reply : Option (Except ApiError LuaScriptResult)), slots[ch.slot]? = some s →
      (∀ s ∈ slots, HasLimit w (ctx.userId, s.item.ticketTypeId)) →
      ∀ s' ∈ slots.set ch.slot { s with reply := reply },
        HasLimit w' (ctx.userId, s'.item.ticketTypeId) := by
    intro ctx slots s reply hs hkeys
    exact all_of_set (fun s' hs' => hgrow.limit _ (hkeys s' hs'))
      (hgrow.limit _ (hkeys s (List.mem_of_getElem? hs)))
  cases d with
  | createOrder dto u =>
      cases h
      exact ⟨getReservationTtl_pos w.config, fun k hk => hk.elim⟩
  | validateTicketType ctx todo metas =>
      simp only [dispatch, reads, Option.some.injEq, Prod.mk.injEq] at h
      obtain ⟨rfl, rfl⟩ := h
      split
      · exact ⟨trivial, trivial⟩
      · exact prepared_validateNext hd.1
  | randomUUID ctx metas =>
      cases h
      refine prepared_awaitReserve hd.1 fun s hs => ?_
      obtain ⟨m, hm, rfl⟩ := List.mem_map.mp hs
      exact hd.2 _ ⟨m, hm, rfl⟩
  | reserveTickets ctx o slots =>
      have hkeys : ∀ s ∈ slots, HasLimit w (ctx.userId, s.item.ticketTypeId) :=
        fun s hs => hd.2 _ ⟨s, hs, rfl⟩
      cases dispatch_asked h with
      | idle _ _ _ _ _ howes _ => cases howes
      | reserveThrew _ _ _ s hs _ => exact prepared_awaitReserve hd.1 (hset ctx slots s _ hs hkeys)
      | reserved _ _ _ s redis res hs _ _ =>
          exact prepared_awaitReserve hd.1 (hset ctx slots s _ hs hkeys)
      | paying _ _ _ _ _ _ hp _ _ => cases hp
      | payingFailed _ _ _ _ _ hp _ => cases hp
      | deleted => exact ⟨trivial, trivial⟩
      | deleteRefused => exact ⟨trivial, trivial⟩
      | markFailed => exact ⟨trivial, trivial⟩
  | _ =>
      exact prepared_of_given (dispatch_given h trivial fun _ _ _ _ _ _ => False.elim)

/-! ## The tasks of a batch -/

/-- A seed that has ended has left its key. -/
theorem perform_limit {ch : Choice} {w w' : World} {t : Task} {k : UserId × TicketTypeId}
    (h : perform ch w t = some (w', .resolved)) (hk : Task.limitKey t k) : HasLimit w' k := by
  simp only [perform] at h
  split at h
  · cases h
  · cases t with
    | ensureRedisUserLimit u t =>
        simp only at h
        split at h
        · next hsome =>
          cases h
          cases hk
          exact hsome
        · cases h
    | readCounterRow u t => cases h
    | setNxUserLimit u t n =>
        cases h
        cases hk
        simp only [HasLimit, setNxUserLimit]
        split
        · next v hv => rw [hv]; rfl
        · simp
    | _ => exact hk.elim

/-- Looking keeps the key of a limit. -/
theorem Looked.limitKey {w : World} {t t' : Task} {k : UserId × TicketTypeId} (h : Looked w t t')
    (hk : Task.limitKey t k) : Task.limitKey t' k := by
  cases h with
  | stock t => exact hk.elim
  | stockRow t => exact hk.elim
  | limit u t => exact hk
  | counterRow u t => exact hk

/-- Calls and tasks stay prepared. -/
theorem prepared_step {p q : State} (h : backend.Step seeding p q)
    (hp : ∀ prog ∈ p.ops, Prepared p.world prog) : ∀ prog ∈ q.ops, Prepared q.world prog := by
  have hkeep : ∀ k, HasLimit p.world k → HasLimit q.world k := by
    intro k
    refine h.world (I := fun w => HasLimit p.world k → HasLimit w k) id ?_ ?_ ?_
    · exact fun ch d w' prog _ _ hd => (asked_keys (dispatch_asked hd)).limit k
    · exact fun ch t w' res _ _ hperf => (performed_keys (perform_performed hperf)).limit k
    · exact fun ms _ => id
  have hask : ∀ d, .ask d ∈ p.ops → AskPrepared p.world d := fun d hd => hp _ hd
  have hstart : ∀ r prog, enter p.world r = some prog → seeding.req p r →
      ∃ dto u, prog = .ask (.createOrder dto u) := by
    intro r prog he hr
    cases r with
    | createOrder dto u =>
        cases he
        exact ⟨dto, u, rfl⟩
    | _ => cases hr
  have hwindowed : ∀ prog ∈ q.ops, prog.All Ask.windowed fun _ => True := by
    refine System.Step.all (J := fun _ => Ask.windowed) (K := fun _ _ => True) h
      (fun prog hm => (hp prog hm).1) ?_ ?_ ?_ ?_
    · intro r prog hr he
      obtain ⟨dto, u, rfl⟩ := hstart r prog he hr
      trivial
    · intro ch d w' prog hmem _ _ hd
      exact ⟨(dispatch_prepared hd (hask d hmem)).1, fun _ => id, fun _ => id⟩
    · exact fun _ _ _ _ _ _ _ => ⟨fun _ _ => trivial, fun _ => id, fun _ => id⟩
    · exact fun _ _ => ⟨fun _ => id, fun _ => id⟩
  have hrelies : ∀ prog ∈ q.ops, prog.Relies Ask.limitKeys Task.limitKey (HasLimit q.world) := by
    refine System.Step.relies h (fun prog hm => (hp prog hm).2) hkeep ?_ ?_ ?_ ?_
    · intro r prog hr he
      obtain ⟨dto, u, rfl⟩ := hstart r prog he hr
      exact fun k hk => hk.elim
    · exact fun ch d w' prog hmem _ _ hd => (dispatch_prepared hd (hask d hmem)).2
    · exact fun ch t w' k hk _ hperf => perform_limit hperf hk
    · exact fun ch t t' w' k hk hperf => (perform_goOn hperf).2.limitKey hk
  exact fun prog hm => ⟨hwindowed prog hm, hrelies prog hm⟩

/-! ## Seeds in flight -/

/-- A seed carries the value of the start, unless its key is there already, and
    what a task takes back has its keys. -/
def TaskRight (w₀ : World) (r : Redis) : Task → Prop
  | .setNxStock t n => r.stock t = none → n = freshStock w₀ t
  | .setNxUserLimit u t n => r.userLimit (u, t) = none → n = freshCount w₀ u t
  | t => TaskTracked r t

variable {w₀ : World} {r r' : Redis}

/-- A task that seeds nothing is right if it is tracked. -/
theorem taskRight_iff_tracked {t : Task} (hseeds : Task.seeds t = false) :
    TaskRight w₀ r t ↔ TaskTracked r t := by
  cases t with
  | setNxStock t n => cases hseeds
  | setNxUserLimit u t n => cases hseeds
  | _ => exact Iff.rfl

/-- A limit key that is missing now was missing before. -/
theorem KeysGrow.limit_none (h : KeysGrow r r') {k : UserId × TicketTypeId}
    (hnone : r'.userLimit k = none) : r.userLimit k = none := by
  cases hr : r.userLimit k with
  | none => rfl
  | some n =>
      have := h.limit k (by rw [hr]; rfl)
      rw [hnone] at this
      cases this

/-- A task that is right stays so. -/
theorem KeysGrow.taskRight (h : KeysGrow r r') {t : Task} (ht : TaskRight w₀ r t) :
    TaskRight w₀ r' t := by
  cases t with
  | setNxStock t n => exact fun hnone => ht (h.stock_none hnone)
  | setNxUserLimit u t n => exact fun hnone => ht (h.limit_none hnone)
  | _ => exact (taskRight_iff_tracked rfl).mpr (h.task ((taskRight_iff_tracked rfl).mp ht))

/-- What was looked up is right. -/
theorem Looked.right {w : World} {t t' : Task} (h : Looked w t t')
    (hstock : ∀ t, w.redis.stock t = none → freshStock w t = freshStock w₀ t)
    (hlimit : ∀ u t, w.redis.userLimit (u, t) = none → freshCount w u t = freshCount w₀ u t) :
    TaskRight w₀ w.redis t' := by
  cases h with
  | stock t => trivial
  | stockRow t => exact hstock t
  | limit u t => trivial
  | counterRow u t => exact hlimit u t

/-! ## The rows of missing keys -/

/-- What a missing key would be seeded with stays. -/
structure RowsKept (w w' : World) : Prop where
  stock : ∀ t, w.redis.stock t = none → freshStock w' t = freshStock w t
  limit : ∀ u t, w.redis.userLimit (u, t) = none → freshCount w' u t = freshCount w u t

/-- The rows stay. -/
theorem RowsKept.of_eq {w w' : World} (htypes : w'.db.ticketTypes = w.db.ticketTypes)
    (hcounters : w'.db.counters = w.db.counters) : RowsKept w w' := by
  have h := Moves.of_eq htypes hcounters
  constructor
  · intro t _
    simp [freshStock, available, h.totalQty, h.soldQty, h.reservedQty]
  · intro u t _
    simp only [freshCount, Db.counterPaid, Db.counterReserved, hcounters]

/-- A write that reserves or gives back, where the keys exist. -/
theorem RowsKept.of_moves {w : World} {db : Db} {f : TicketTypeId → Int}
    {g : UserId → TicketTypeId → Int} (h : Moves w.db db 0 f 0)
    (hcounter : ∀ u t, db.counterReserved u t = w.db.counterReserved u t + g u t)
    (hf : ∀ t, w.redis.stock t = none → f t = 0)
    (hg : ∀ u t, w.redis.userLimit (u, t) = none → g u t = 0) : RowsKept w { w with db := db } := by
  constructor
  · intro t hnone
    simp [freshStock, available, h.totalQty, h.soldQty, h.reservedQty, hf t hnone]
  · intro u t hnone
    simp [freshCount, h.counterPaid, hcounter, hg u t hnone]

/-- No call of createOrder moves the rows of a missing key. -/
theorem asked_rowsKept {ch : Choice} {w w' : World} {d : Ask} {prog : Op} (h : Asked ch w d w' prog)
    (hk : Ask.kind d = .createOrder) (hd : AskTracked w.redis d) : RowsKept w w' := by
  cases h with
  | persisted ctx o metas db _ hdb =>
      obtain ⟨rfl, -⟩ := insertOrder_eq hdb
      exact .of_eq rfl rfl
  | synced ctx o metas db _ hdb =>
      have hzero : ∀ t, (∀ u, u = ctx.userId → w.redis.userLimit (u, t) = none) ∨
          w.redis.stock t = none → metaQty metas t = 0 := by
        intro t hnone
        refine metaQty_eq_zero fun m hm ht => ?_
        subst ht
        obtain ⟨hlimit, hstock⟩ := hd m hm
        rcases hnone with hnone | hnone
        · rw [hnone _ rfl] at hlimit
          cases hlimit
        · rw [hnone] at hstock
          cases hstock
      refine .of_moves (syncInventory_moves hdb) (syncInventory_counterReserved hdb)
        (fun t hnone => hzero t (.inr hnone)) fun u t hnone => ?_
      by_cases hu : ctx.userId = u
      · subst hu
        rw [atUser, if_pos rfl]
        exact hzero t (.inl fun u hu => hu ▸ hnone)
      · rw [atUser, if_neg hu]
  | deleted _ o e db _ _ hdb =>
      obtain ⟨rfl, -⟩ := deleteOrder_eq hdb
      exact .of_eq rfl rfl
  | cancelled => cases hk
  | expired => cases hk
  | failed => cases hk
  | succeeded => cases hk
  | cronPaid => cases hk
  | cronExpired => cases hk
  | issued => cases hk
  | typeWritten => cases hk
  | soldOutSet => cases hk
  | _ => exact .of_eq rfl rfl

/-- No task moves the rows of a missing key. -/
theorem performed_rowsKept {ch : Choice} {w w' : World} {t : Task} {res : TaskResult Task}
    (h : Performed ch w t w' res) (ht : TaskRight w₀ w.redis t) : RowsKept w w' := by
  cases h with
  | decremented t q pos db hdb =>
      have hsame := decrementReserved_same hdb
      refine .of_moves (g := 0) (decrementReserved_moves hdb) (fun u t' => ?_) (fun t' hnone => ?_)
        fun _ _ _ => rfl
      · simp [Db.counterReserved, hsame.2.2]
      · have hkey : (w.redis.stock t).isSome := ht
        rw [atType, if_neg]
        rintro rfl
        rw [hnone] at hkey
        cases hkey
  | counterDecremented u t q pos db hdb =>
      refine .of_moves (decrementCounter_moves hdb) (decrementCounter_counterReserved hdb)
        (fun _ _ => rfl) fun u' t' hnone => ?_
      have hkey : (w.redis.userLimit (u, t)).isSome := ht
      have hne : ¬ (u = u' ∧ t = t') := by
        rintro ⟨rfl, rfl⟩
        rw [hnone] at hkey
        cases hkey
      rw [atUser]
      split
      · next hu => rw [atType, if_neg fun ht' => hne ⟨hu, ht'⟩]
      · rfl
  | _ => exact .of_eq rfl rfl

/-! ## The keys a move writes -/

/-- What one move does to the keys, with the task it executes. -/
inductive KeysMoved (w₀ w : World) : Option Task → World → Prop where
  | kept (task : Option Task) (w' : World) :
      w'.redis = w.redis →
      (∀ o, w'.redis.reservation w'.now o = w.redis.reservation w.now o) → KeysMoved w₀ w task w'
  | reserved (p : ReserveParams) :
      CanReserve p w.now w.redis → 0 < p.ttlSeconds → HasLimit w (p.userId, p.ticketTypeId) →
      KeysMoved w₀ w none { w with redis := TicketRedis.reserved p w.now w.redis }
  | released (site : ReleaseSite) (p : ReleaseParams) :
      Matches p w.now w.redis →
      KeysMoved w₀ w (some (.releaseReservation site p))
        { w with redis := TicketRedis.released p w.redis }
  | stockSeeded (t : TicketTypeId) (n : Int) :
      (w.redis.stock t = none → n = freshStock w₀ t) →
      KeysMoved w₀ w (some (.setNxStock t n)) { w with redis := setNxStock t n w.redis }
  | limitSeeded (u : UserId) (t : TicketTypeId) (n : Int) :
      (w.redis.userLimit (u, t) = none → n = freshCount w₀ u t) →
      KeysMoved w₀ w (some (.setNxUserLimit u t n))
        { w with redis := setNxUserLimit u t n w.redis }

/-- What a call does to the counters. -/
theorem asked_keysMoved {ch : Choice} {w w' : World} {d : Ask} {prog : Op} (h : Asked ch w d w' prog)
    (hk : Ask.kind d = .createOrder) (hd : AskPrepared w d) : KeysMoved w₀ w none w' := by
  cases h with
  | reserved ctx o slots s redis res hs _ hres =>
      have hmem := List.mem_of_getElem? hs
      by_cases hcan : CanReserve (reserveParams ctx o s.item) w.now w.redis
      · rw [reserveTicket_ok hcan] at hres
        cases hres
        exact .reserved _ hcan hd.1 (hd.2 _ ⟨s, hmem, rfl⟩)
      · obtain ⟨e, he⟩ := reserveTicket_error hcan
        rw [he] at hres
        cases hres
        exact .kept _ _ rfl fun _ => rfl
  | recordDeleted => cases hk
  | stockSeeded => cases hk
  | _ => exact .kept _ _ rfl fun _ => rfl

/-- What a task does to them. -/
theorem performed_keysMoved {ch : Choice} {w w' : World} {t : Task} {res : TaskResult Task}
    (h : Performed ch w t w' res) (ht : TaskRight w₀ w.redis t) : KeysMoved w₀ w (some t) w' := by
  cases h with
  | stockSet t n => exact .stockSeeded t n ht
  | limitSet u t n => exact .limitSeeded u t n ht
  | released site p =>
      by_cases hm : Matches p w.now w.redis
      · rw [(release_of_matches hm).1]
        exact .released site p hm
      · exact .kept _ _ (release_of_not_matches hm).1 fun o => by
          rw [(release_of_not_matches hm).1]
  | _ => exact .kept _ _ rfl fun _ => rfl

section Moved

variable {w w' : World} {task : Option Task}

/-- A reservation finds its stock. -/
theorem stock_isSome_of_canReserve {p : ReserveParams} (h : CanReserve p w.now w.redis) :
    (w.redis.stock p.ticketTypeId).isSome := by
  have hq := p.quantity_pos
  have hle := h.1
  cases hs : w.redis.stock p.ticketTypeId with
  | none =>
      simp only [stockOf, hs, Option.getD_none] at hle
      omega
  | some s => rfl

/-- A key that a seed sets is there with the value, unless it was there before. -/
theorem setNxStock_stock (t t' : TicketTypeId) (n : Int) (r : Redis) :
    (setNxStock t n r).stock t'
      = if t' = t ∧ r.stock t = none then some n else r.stock t' := by
  simp only [setNxStock]
  split
  · next s hs => simp [hs]
  · next hs => by_cases ht : t' = t <;> simp [ht, hs]

/-- What seeding a limit changes. -/
theorem setNxUserLimit_limit (u : UserId) (t : TicketTypeId) (k : UserId × TicketTypeId) (n : Int)
    (r : Redis) : (setNxUserLimit u t n r).userLimit k
      = if k = (u, t) ∧ r.userLimit (u, t) = none then some n else r.userLimit k := by
  simp only [setNxUserLimit]
  split
  · next s hs => simp [hs]
  · next hs => by_cases hk : k = (u, t) <;> simp [hk, hs]

/-- A stock key that appears was written by a seed, with the value of the start. -/
theorem KeysMoved.creates_stock (h : KeysMoved w₀ w task w') (hw : RecordsSound w)
    {t : TicketTypeId} (hnone : w.redis.stock t = none) (hsome : w'.redis.stock t ≠ none) :
    task = some (.setNxStock t (freshStock w₀ t)) ∧
      w'.redis.stock t = some (freshStock w₀ t) := by
  have hother : ∀ {t' : TicketTypeId}, (w.redis.stock t').isSome → t ≠ t' := by
    rintro _ hkey rfl
    rw [hnone] at hkey
    cases hkey
  cases h with
  | kept _ _ hredis _ => exact absurd (hredis ▸ hnone) hsome
  | reserved p hcan _ _ =>
      refine absurd ?_ hsome
      exact (Function.update_of_ne (hother (stock_isSome_of_canReserve hcan)) _ _).trans hnone
  | released site p hm =>
      obtain ⟨e, he, -, hu, ht, -⟩ := hm
      refine absurd ?_ hsome
      have hkey := (hw.tracked _ e he).2
      rw [ht] at hkey
      exact (Function.update_of_ne (hother hkey) _ _).trans hnone
  | stockSeeded t' n hright =>
      by_cases ht : t = t'
      · subst ht
        rw [hright hnone]
        exact ⟨rfl, by simp [setNxStock_stock, hnone]⟩
      · simp [setNxStock_stock, ht, hnone] at hsome
  | limitSeeded u t' n _ =>
      refine absurd ?_ hsome
      simp only [setNxUserLimit]
      split <;> exact hnone

/-- A limit key that appears was written by a seed, with the value of the start. -/
theorem KeysMoved.creates_limit (h : KeysMoved w₀ w task w') (hw : RecordsSound w)
    {u : UserId} {t : TicketTypeId} (hnone : w.redis.userLimit (u, t) = none)
    (hsome : w'.redis.userLimit (u, t) ≠ none) :
    task = some (.setNxUserLimit u t (freshCount w₀ u t)) ∧
      w'.redis.userLimit (u, t) = some (freshCount w₀ u t) := by
  have hother : ∀ {k : UserId × TicketTypeId}, (w.redis.userLimit k).isSome → (u, t) ≠ k := by
    rintro _ hkey rfl
    rw [hnone] at hkey
    cases hkey
  cases h with
  | kept _ _ hredis _ => exact absurd (hredis ▸ hnone) hsome
  | reserved p _ _ hlimit =>
      refine absurd ?_ hsome
      exact (Function.update_of_ne (hother hlimit) _ _).trans hnone
  | released site p hm =>
      obtain ⟨e, he, -, hu, ht, -⟩ := hm
      refine absurd ?_ hsome
      have hkey := (hw.tracked _ e he).1
      rw [hu, ht] at hkey
      exact (Function.update_of_ne (hother hkey) _ _).trans hnone
  | stockSeeded t' n _ =>
      refine absurd ?_ hsome
      simp only [setNxStock]
      split <;> exact hnone
  | limitSeeded u' t' n hright =>
      by_cases hk : (u, t) = (u', t')
      · cases hk
        rw [hright hnone]
        exact ⟨rfl, by simp [setNxUserLimit_limit, hnone]⟩
      · simp [setNxUserLimit_limit, hk, hnone] at hsome

/-- A seed that finds its key leaves Redis as it is. -/
theorem KeysMoved.late_stock (h : KeysMoved w₀ w task w') {t : TicketTypeId} {n : Int}
    (htask : task = some (.setNxStock t n)) (hkey : w.redis.stock t ≠ none) :
    w'.redis = w.redis := by
  cases h with
  | kept _ _ hredis _ => exact hredis
  | stockSeeded t' n' _ =>
      cases htask
      obtain ⟨s, hs⟩ := Option.ne_none_iff_exists'.mp hkey
      simp [setNxStock, hs]
  | _ => cases htask

/-- A seed that is late changes nothing. -/
theorem KeysMoved.late_limit (h : KeysMoved w₀ w task w') {u : UserId} {t : TicketTypeId} {n : Int}
    (htask : task = some (.setNxUserLimit u t n)) (hkey : w.redis.userLimit (u, t) ≠ none) :
    w'.redis = w.redis := by
  cases h with
  | kept _ _ hredis _ => exact hredis
  | limitSeeded u' t' n' _ =>
      cases htask
      obtain ⟨s, hs⟩ := Option.ne_none_iff_exists'.mp hkey
      simp [setNxUserLimit, hs]
  | _ => cases htask

/-- The stock key of a type and its live records add up to the value of the start. -/
def AddsUp (w₀ : World) (t : TicketTypeId) (w : World) : Prop :=
  ∀ s, w.redis.stock t = some s → s + liveOf w.redis w.now t = freshStock w₀ t

/-- A type without its key has no live records. -/
theorem RecordsSound.live_zero (h : RecordsSound w) {t : TicketTypeId}
    (hnone : w.redis.stock t = none) : liveOf w.redis w.now t = 0 := by
  refine KeyTable.total_eq_zero fun o e he => ?_
  rw [ofType, if_neg]
  rintro rfl
  have hkey := (h.tracked o e he).2
  rw [hnone] at hkey
  cases hkey

/-- Every step keeps the counters adding up. -/
theorem KeysMoved.addsUp (h : KeysMoved w₀ w task w') (hw : RecordsSound w) {t : TicketTypeId}
    (hprev : AddsUp w₀ t w) : AddsUp w₀ t w' := by
  intro s hs
  -- a key that has just been seeded has no records yet
  by_cases hnone : w.redis.stock t = none
  · obtain ⟨htask, hvalue⟩ := h.creates_stock hw hnone (by rw [hs]; simp)
    have hlive : liveOf w'.redis w'.now t = 0 := by
      rw [← hw.live_zero hnone]
      cases h with
      | kept _ _ hredis hres => exact congrArg (KeyTable.total (ofType t)) (funext hres)
      | stockSeeded t' n _ =>
          exact congrArg (KeyTable.total (ofType t)) (funext (setNxStock_reservation t' n _ _))
      | _ => cases htask
    rw [hvalue] at hs
    cases hs
    rw [hlive, add_zero]
  · obtain ⟨s₀, hs₀⟩ := Option.ne_none_iff_exists'.mp hnone
    have hsum := hprev s₀ hs₀
    have hold : stockOf w.redis t = s₀ := by simp [stockOf, hs₀]
    have hnew : stockOf w'.redis t = s := by simp [stockOf, hs]
    simp only [liveOf] at hsum ⊢
    cases h with
    | kept _ _ hredis hres =>
        rw [hredis, hold] at hnew
        rw [show w'.redis.reservation w'.now = w.redis.reservation w.now from funext hres]
        omega
    | reserved p hcan httl _ =>
        rw [stockOf_reserved, hold] at hnew
        rw [live_reserved hw.live httl hcan.2.2, ofType_recordOf]
        omega
    | released site p hm =>
        obtain ⟨e, he, -, htype, -⟩ := hm.weights
        rw [stockOf_released, hold] at hnew
        rw [live_released hw.live he, htype]
        omega
    | stockSeeded t' n _ =>
        rw [setNxStock_stock, if_neg, hs₀] at hs
        · cases hs
          rwa [show (setNxStock t' n w.redis).reservation w.now = w.redis.reservation w.now from
            funext (setNxStock_reservation t' n _ _)]
        · rintro ⟨rfl, hn⟩
          exact hnone hn
    | limitSeeded u t' n _ =>
        have hstock : (setNxUserLimit u t' n w.redis).stock = w.redis.stock := by
          simp only [setNxUserLimit]
          split <;> rfl
        rw [show stockOf (setNxUserLimit u t' n w.redis) t = stockOf w.redis t by
          simp only [stockOf, hstock], hold] at hnew
        rw [show (setNxUserLimit u t' n w.redis).reservation w.now = w.redis.reservation w.now from
          funext (setNxUserLimit_reservation u t' n _ _)]
        omega

end Moved

/-! ## All runs -/

/-- What holds in every state that createOrder calls reach from `w₀`. -/
structure Seeding (w₀ : World) (p : State) : Prop where
  kinds : OnlyKinds (fun k => k = .createOrder) p
  records : RecordsSound p.world
  prepared : ∀ prog ∈ p.ops, Prepared p.world prog
  ops : ∀ prog ∈ p.ops, prog.All (AskTracked p.world.redis) (TaskRight w₀ p.world.redis)
  stock_row : ∀ t, p.world.redis.stock t = none → freshStock p.world t = freshStock w₀ t
  limit_row : ∀ u t, p.world.redis.userLimit (u, t) = none →
    freshCount p.world u t = freshCount w₀ u t
  addsUp : ∀ t, w₀.redis.stock t = none → AddsUp w₀ t p.world

/-- At the start nobody seeds. -/
theorem Seeding.start {p : State} (hquiet : p.Quiet) (hrecords : RecordsSound p.world) :
    Seeding p.world p where
  kinds prog hm := by
    obtain ⟨a, rfl⟩ := hquiet prog hm
    trivial
  records := hrecords
  prepared prog hm := by
    obtain ⟨a, rfl⟩ := hquiet prog hm
    exact ⟨trivial, trivial⟩
  ops prog hm := by
    obtain ⟨a, rfl⟩ := hquiet prog hm
    trivial
  stock_row _ _ := rfl
  limit_row _ _ _ := rfl
  addsUp t hnone s hs := by
    rw [hnone] at hs
    cases hs

/-- The tasks of a batch are right. -/
theorem Seeding.task {p : State} (hp : Seeding w₀ p) {t : Task}
    (h : ∃ ts h rest, .par ts h rest ∈ p.ops ∧ t ∈ ts) : TaskRight w₀ p.world.redis t := by
  obtain ⟨ts, _, _, hmem, ht⟩ := h
  exact (hp.ops _ hmem).1 t ht

/-- Every move writes the keys in one of the ways of `KeysMoved`. -/
theorem Seeding.moved {p : State} (hp : Seeding w₀ p) {task : Option Task} {w' : World}
    (h : backend.Wrote seeding p task w') : KeysMoved w₀ p.world task w' := by
  cases h with
  | kept => exact .kept _ _ rfl fun _ => rfl
  | asked ch d _ prog hmem _ hd =>
      have hprepared : AskPrepared p.world d := hp.prepared _ hmem
      exact asked_keysMoved (dispatch_asked hd) (hp.kinds.ask hmem) hprepared
  | performed ch t _ res hmem _ hperf =>
      exact performed_keysMoved (perform_performed hperf) (hp.task hmem)
  | moved ms hg => exact .kept _ _ rfl hg

/-- No step writes the rows. -/
theorem Seeding.rowsKept {p q : State} (hp : Seeding w₀ p) (h : backend.Step seeding p q) :
    RowsKept p.world q.world := by
  refine h.world (I := RowsKept p.world) (.of_eq rfl rfl) ?_ ?_ ?_
  · exact fun ch d w' prog hmem _ hd =>
      asked_rowsKept (dispatch_asked hd) (hp.kinds.ask hmem) (hp.ops _ hmem)
  · exact fun ch t w' res hmem _ hperf =>
      performed_rowsKept (perform_performed hperf) (hp.task hmem)
  · exact fun ms _ => .of_eq rfl rfl

/-- No step removes a counter. -/
theorem Seeding.keysGrow {p q : State} (h : backend.Step seeding p q) :
    KeysGrow p.world.redis q.world.redis := by
  refine h.world (I := fun w => KeysGrow p.world.redis w.redis) (.refl _) ?_ ?_ ?_
  · exact fun ch d w' prog _ _ hd => asked_keys (dispatch_asked hd)
  · exact fun ch t w' res _ _ hperf => performed_keys (perform_performed hperf)
  · exact fun ms _ => .refl _

/-- What a call of createOrder goes on with is tracked and right. -/
theorem Seeding.asked {p : State} (hp : Seeding w₀ p) {ch : Choice} {w' : World} {d : Ask}
    {prog : Op} (hmem : .ask d ∈ p.ops) (h : Asked ch p.world d w' prog) :
    prog.All (AskTracked w'.redis) (TaskRight w₀ w'.redis) := by
  have hk : Ask.kind d = .createOrder := hp.kinds.ask hmem
  have hcopies : AskCopies (ItemsTracked p.world.redis) d :=
    askCopies_of_copyless (by rw [hk]; rfl)
  have htracked : OpTracked w'.redis prog :=
    asked_opTracked h (hp.ops _ hmem) hcopies fun hne => absurd hk hne
  refine (htracked.and (asked_reads h)).mono (fun _ => And.left) fun t ht => ?_
  exact (taskRight_iff_tracked ht.2).mpr ht.1

/-- **Every step** keeps the seeds right. -/
theorem Seeding.step {p q : State} (hp : Seeding w₀ p) (h : backend.Step seeding p q) :
    Seeding w₀ q where
  kinds := hp.kinds.step (fun _ => id) h
  records := hp.records.step h
  prepared := prepared_step h hp.prepared
  ops := by
    refine System.Step.all (J := fun w => AskTracked w.redis) (K := fun w => TaskRight w₀ w.redis)
      h hp.ops ?_ ?_ ?_ ?_
    · intro r prog _ he
      exact (settled_enter he).mono (fun _ hd => askTracked_of_not_owes hd.1)
        fun _ ht => (taskRight_iff_tracked ht.2).mpr (taskTracked_of_settled ht)
    · intro ch d w' prog hmem _ _ hd
      have hasked := dispatch_asked hd
      have hgrow := asked_keys hasked
      exact ⟨hp.asked hmem hasked, fun _ => hgrow.ask, fun _ => hgrow.taskRight⟩
    · intro ch t w' res _ _ hperf
      have hgrow := performed_keys (perform_performed hperf)
      refine ⟨fun t' hres => ?_, fun _ => hgrow.ask, fun _ => hgrow.taskRight⟩
      subst hres
      exact hgrow.taskRight ((perform_goOn hperf).2.right hp.stock_row hp.limit_row)
    · exact fun ms _ => ⟨fun _ => id, fun _ => id⟩
  stock_row t hnone := by
    have hbefore := (Seeding.keysGrow h).stock_none hnone
    rw [(hp.rowsKept h).stock t hbefore, hp.stock_row t hbefore]
  limit_row u t hnone := by
    have hbefore := (Seeding.keysGrow h).limit_none hnone
    rw [(hp.rowsKept h).limit u t hbefore, hp.limit_row u t hbefore]
  addsUp t ht := by
    refine h.world (I := AddsUp w₀ t) (hp.addsUp t ht) ?_ ?_ ?_
    · exact fun ch d w' prog hmem hg hd =>
        (hp.moved (.asked ch d w' prog hmem hg hd)).addsUp hp.records (hp.addsUp t ht)
    · exact fun ch task w' res hmem hg hperf =>
        (hp.moved (.performed ch task w' res hmem hg hperf)).addsUp hp.records (hp.addsUp t ht)
    · exact fun ms hg => (hp.moved (.moved ms hg)).addsUp hp.records (hp.addsUp t ht)

/-- A move from `q` to `q'`, against the start `p`: a key that appears was
    created by the seed that the move executed, with the value the database had
    at the start; keys stay; and a seed that finds its key changes nothing. -/
structure SeedsRight (p q : State) (a : Move) (q' : State) : Prop where
  stock : ∀ t, q.world.redis.stock t = none → q'.world.redis.stock t ≠ none →
    CreatesStock t (freshStock p.world t) q a q'
  limit : ∀ u t, q.world.redis.userLimit (u, t) = none → q'.world.redis.userLimit (u, t) ≠ none →
    CreatesLimit u t (freshCount p.world u t) q a q'
  keys : KeysGrow q.world.redis q'.world.redis
  late_stock : ∀ t n, q.taskAt a = some (.setNxStock t n) → q.world.redis.stock t ≠ none →
    q'.world.redis = q.world.redis
  late_limit : ∀ u t n, q.taskAt a = some (.setNxUserLimit u t n) →
    q.world.redis.userLimit (u, t) ≠ none → q'.world.redis = q.world.redis

/-- What a step seeds is right. -/
theorem Seeding.next {p q q' : State} {a : Move} (hq : Seeding p.world q) (hok : seeding.ok q a)
    (hn : backend.next q a = some q') : SeedsRight p q a q' := by
  have hmoved := hq.moved (wrote_of_next hok hn)
  refine ⟨fun t hnone hsome => ?_, fun u t hnone hsome => ?_,
    Seeding.keysGrow (step_of_next hok hn), fun t n => hmoved.late_stock,
    fun u t n => hmoved.late_limit⟩
  · obtain ⟨hseed, hcreated⟩ := hmoved.creates_stock hq.records hnone hsome
    exact ⟨hnone, hseed, hcreated⟩
  · obtain ⟨hseed, hcreated⟩ := hmoved.creates_limit hq.records hnone hsome
    exact ⟨hnone, hseed, hcreated⟩

/-- **Seeding is race-free.**  From a state in which nothing is in flight, any
    interleaving of createOrder calls, with no other writer and no key expiring:
    the stock key of a type that had none and the live records of the type always
    add up to what was available at the start; a key created by then was created
    by one seed of the run, with the value of the start; and so it goes with
    every next move. -/
theorem seeds_race_free {p q : State} (hquiet : p.Quiet) (hrecords : RecordsSound p.world)
    (hr : backend.Run seeding p q) :
    (∀ t, p.world.redis.stock t = none → ∀ s, q.world.redis.stock t = some s →
      s + liveOf q.world.redis q.world.now t = max 0 (available p.world.db t)) ∧
    (∀ t, p.world.redis.stock t = none → q.world.redis.stock t ≠ none →
      ∃ p' a q', backend.Run seeding p p' ∧ backend.next p' a = some q' ∧
        CreatesStock t (freshStock p.world t) p' a q' ∧ backend.Run seeding q' q) ∧
    (∀ u t, p.world.redis.userLimit (u, t) = none → q.world.redis.userLimit (u, t) ≠ none →
      ∃ p' a q', backend.Run seeding p p' ∧ backend.next p' a = some q' ∧
        CreatesLimit u t (freshCount p.world u t) p' a q' ∧ backend.Run seeding q' q) ∧
    ∀ a q', seeding.ok q a → backend.next q a = some q' → SeedsRight p q a q' := by
  have hinv : ∀ {p'}, backend.Run seeding p p' → Seeding p.world p' := fun hr' =>
    hr'.inv (fun _ _ => Seeding.step) (.start hquiet hrecords)
  refine ⟨(hinv hr).addsUp, fun t hnone hsome => ?_, fun u t hnone hsome => ?_,
    fun a q' => (hinv hr).next⟩
  · obtain ⟨p', a, q', hrun, hmiss, hok, hn, hthere, hrest⟩ :=
      hr.exists_enters (P := fun s => s.world.redis.stock t ≠ none) (not_not.mpr hnone) hsome
    exact ⟨p', a, q', hrun, hn, ((hinv hrun).next hok hn).stock t (not_not.mp hmiss) hthere, hrest⟩
  · obtain ⟨p', a, q', hrun, hmiss, hok, hn, hthere, hrest⟩ :=
      hr.exists_enters (P := fun s => s.world.redis.userLimit (u, t) ≠ none) (not_not.mpr hnone) hsome
    exact ⟨p', a, q', hrun, hn, ((hinv hrun).next hok hn).limit u t (not_not.mp hmiss) hthere, hrest⟩

/-! ### Two requests and one key -/

/-- The clock stands still. -/
def seedingNow : Condition := { seeding with env := fun _ _ => False }

/-- The condition of the run says more. -/
theorem seedingNow_implies : seedingNow.Implies seeding where
  req _ _ := id
  ask _ _ _ := id
  task _ _ _ := id
  env _ _ := False.elim

/-- A run can be checked for this, step by step. -/
instance (p : State) (r : Request) : Decidable (seedingNow.req p r) :=
  inferInstanceAs (Decidable (_ = _))
instance (p : State) (ch : Choice) (d : Ask) : Decidable (seedingNow.ask p ch d) :=
  inferInstanceAs (Decidable True)
instance (p : State) (ch : Choice) (t : Task) : Decidable (seedingNow.task p ch t) :=
  inferInstanceAs (Decidable True)
instance (p : State) (ms : Nat) : Decidable (seedingNow.env p ms) :=
  inferInstanceAs (Decidable False)

/-- The second request reads the row before the first has seeded the key, and
    sets the key after the first has reserved and synchronised. -/
def lateSeed : List Move :=
  [.start (.createOrder (oneTicket 1) 1), .start (.createOrder (oneTicket 1) 2)]
    ++ steps 0 3 ++ steps 1 5 ++ steps 0 11 ++ steps 1 1

/-- The late seed leaves the four tickets that the first request left. -/
theorem seeds_race_free_late : ∃ q, backend.Run seeding (shop [onSale 1 5 4]) q ∧
    (q.world.redis.stock 1 = some 4 ∧ q.world.db.reservedQty 1 = 1) ∧
    liveOf q.world.redis q.world.now 1 = 1 := by
  obtain ⟨q, hr, hq⟩ := exists_run (S := backend) (G := seedingNow) (p := shop [onSale 1 5 4])
    lateSeed (fun q => q.world.redis.stock 1 = some 4 ∧ q.world.db.reservedQty 1 = 1) (by decide)
  have hrun := hr.weaken seedingNow_implies
  have hopening : Opening (shop [onSale 1 5 4]) := shop_opening fun r hr => by
    rw [List.mem_singleton.mp hr]
    exact ⟨1, 5, 4, rfl⟩
  have hfree := seeds_race_free (p := shop [onSale 1 5 4]) (fun prog hm => nomatch hm)
    hopening.recordsSound hrun
  have hsum := hfree.1 1 rfl 4 hq.1
  have hfive : max 0 (available (shop [onSale 1 5 4]).world.db 1) = 5 := by decide
  rw [hfive] at hsum
  exact ⟨q, hrun, hq, by omega⟩

end TicketBackend
