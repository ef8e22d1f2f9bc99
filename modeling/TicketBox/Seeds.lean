import TicketBox.RedisKeys

/-! # What a seed of a stock key carries

    A stock key is set from a row that was read before: by the batch of createOrder,
    which sets it only where it is missing, and by an update, which overwrites it.  An
    inventory written in between leaves the value behind what is available.  If the
    inventory of a type is written only while nobody stands between such a read and its
    set (`SeedsAlone`), then every seed carries what is available when it is made
    (`reads_step`). -/

namespace TicketBackend

open Interleave TicketStore TicketRedis TicketDb TicketFlow TicketOrder TicketPayment
  TicketServices

/-! ## What is available -/

/-- `totalQty - soldQty - reservedQty` -/
def available (db : Db) (t : TicketTypeId) : Int :=
  db.totalQty t - db.soldQty t - db.reservedQty t

variable {t : TicketTypeId}

/-- A row shows what is available of its type. -/
theorem available_of_row {db : Db} {row : TicketType} (hrow : db.findTicketType t = some row) :
    available db t = availableQty row := by
  simp [available, availableQty, Db.totalQty, Db.soldQty, Db.reservedQty, hrow]

/-- Counters that move take from what is available. -/
theorem available_moves {db db' : Db} {s f : TicketTypeId → Int} {p : UserId → TicketTypeId → Int}
    (h : Moves db db' s f p) : available db' t = available db t - (s t + f t) := by
  rw [available, available, h.totalQty, h.soldQty, h.reservedQty]
  omega

/-- A write of another row leaves what is available alone. -/
theorem available_other {t' : TicketTypeId} {f : TicketType → TicketType} {db db' : Db}
    (h : TicketDb.writeTicketType t' f db = .ok db') (hf : ∀ r, (f r).id = r.id) (hne : t ≠ t') :
    available db' t = available db t := by
  simp only [available, Db.totalQty, Db.soldQty, Db.reservedQty, (writeTicketType_find h hf).1 t hne]

/-- A write that keeps the counters of its row keeps what is available. -/
theorem available_kept {t' : TicketTypeId} {f : TicketType → TicketType} {db db' : Db}
    (h : TicketDb.writeTicketType t' f db = .ok db') (hf : ∀ r, (f r).id = r.id)
    (hcounts : ∀ r, availableQty (f r) = availableQty r) : available db' t = available db t := by
  by_cases hne : t = t'
  · subst hne
    obtain ⟨-, row, hrow, hrow'⟩ := writeTicketType_find h hf
    rw [available_of_row hrow, available_of_row hrow', hcounts row]
  · exact available_other h hf hne

/-! ## The values of the seeds -/

/-- The value that `ensureRedisStock` computes from the database. -/
def freshStock (w : World) (t : TicketTypeId) : Int := max 0 (available w.db t)

/-- The value that `ensureRedisUserLimit` computes from the database. -/
def freshCount (w : World) (u : UserId) (t : TicketTypeId) : Int :=
  w.db.counterPaid u t + w.db.counterReserved u t

/-- How a seed goes on from one of its commands to the next. -/
inductive Looked (w : World) : Task → Task → Prop where
  | stock (t : TicketTypeId) : Looked w (.ensureRedisStock t) (.readStockRow t)
  | stockRow (t : TicketTypeId) : Looked w (.readStockRow t) (.setNxStock t (freshStock w t))
  | limit (u : UserId) (t : TicketTypeId) :
      Looked w (.ensureRedisUserLimit u t) (.readCounterRow u t)
  | counterRow (u : UserId) (t : TicketTypeId) :
      Looked w (.readCounterRow u t) (.setNxUserLimit u t (freshCount w u t))

/-- A task that goes on has looked at the store and left it alone. -/
theorem perform_goOn {ch : Choice} {w w' : World} {t t' : Task}
    (h : perform ch w t = some (w', .goOn t')) : w' = w ∧ Looked w t t' := by
  simp only [perform] at h
  split at h
  · cases h
  · cases t with
    | ensureRedisStock t =>
        simp only at h
        split at h <;> cases h
        exact ⟨rfl, .stock t⟩
    | readStockRow t =>
        simp only at h
        split at h
        · cases h
        · next row hrow =>
          cases h
          rw [← available_of_row hrow]
          exact ⟨rfl, .stockRow t⟩
    | ensureRedisUserLimit u t =>
        simp only at h
        split at h <;> cases h
        exact ⟨rfl, .limit u t⟩
    | readCounterRow u t =>
        cases h
        rw [counter_sum]
        exact ⟨rfl, .counterRow u t⟩
    | decrementReserved t q pos =>
        simp only at h
        split at h <;> cases h
    | decrementCounter u t q pos =>
        simp only at h
        split at h <;> cases h
    | _ => cases h

/-- A key that is missing now was missing before. -/
theorem KeysGrow.stock_none {r r' : Redis} (h : KeysGrow r r') (hnone : r'.stock t = none) :
    r.stock t = none := by
  cases hr : r.stock t with
  | none => rfl
  | some n =>
      have := h.stock t (by rw [hr]; rfl)
      rw [hnone] at this
      cases this

/-! ## The inventory -/

/-- The types whose inventory the call writes. -/
def Ask.inventory : Ask → List TicketTypeId
  | .syncInventory _ _ metas => metas.map TicketMeta.ticketTypeId
  | .failedCommit order | .cronExpireCommit order .. => order.items.map OrderItem.ticketTypeId
  | .writeTicketType existing dto =>
      if dto.totalQty.isSome ∨ dto.soldQty.isSome ∨ dto.reservedQty.isSome then [existing.id] else []
  | _ => []

/-- The type whose inventory the task writes. -/
def Task.inventory : Task → List TicketTypeId
  | .decrementReserved t _ _ => [t]
  | _ => []

/-- A releasing transaction finds reserved what it releases. -/
def ReleasesHeld (db : Db) : Ask → Prop
  | .failedCommit order | .cronExpireCommit order .. => Fits order.userId order.items db
  | _ => True

/-- A call changes only what is available of the types whose inventory it writes. -/
theorem asked_available {ch : Choice} {w w' : World} {d : Ask} {prog : Op}
    (h : Asked ch w d w' prog) (hheld : ReleasesHeld w.db d) (hnot : t ∉ Ask.inventory d) :
    available w'.db t = available w.db t := by
  have hmoved : ∀ {db : Db} {s f : TicketTypeId → Int} {p : UserId → TicketTypeId → Int},
      Moves w.db db s f p → s t + f t = 0 → available db t = available w.db t := by
    intro db s f p hm hzero
    rw [available_moves hm, hzero, sub_zero]
  have hsame : ∀ {db : Db}, db.ticketTypes = w.db.ticketTypes → db.counters = w.db.counters →
      available db t = available w.db t := by
    intro db htt hcr
    exact hmoved (.of_eq htt hcr) (add_zero _)
  have hitems : ∀ {order : Order}, t ∉ order.items.map OrderItem.ticketTypeId →
      (0 : TicketTypeId → Int) t + (-qtyOf order.items) t = 0 := by
    intro order hno
    have hzero : qtyOf order.items t = 0 :=
      qtyOf_eq_zero fun i hi he => hno (List.mem_map.mpr ⟨i, hi, he⟩)
    rw [Pi.neg_apply, hzero, neg_zero]
    exact add_zero _
  cases h with
  | persisted ctx o metas db _ hdb =>
      obtain ⟨rfl, -⟩ := insertOrder_eq hdb
      rfl
  | synced ctx o metas db _ hdb =>
      refine hmoved (syncInventory_moves hdb) ?_
      have hzero : metaQty metas t = 0 :=
        metaQty_eq_zero fun m hm he => hnot (List.mem_map.mpr ⟨m, hm, he⟩)
      rw [hzero]
      exact add_zero _
  | deleted _ o e db _ _ hdb =>
      obtain ⟨rfl, -⟩ := deleteOrder_eq hdb
      rfl
  | cancelled order db _ hdb =>
      obtain ⟨-, -, htt, hcr⟩ := commitCancelled_set hdb
      exact hsame htt hcr
  | expired order db _ hdb =>
      obtain ⟨-, -, htt, hcr⟩ := commitExpired_set hdb
      exact hsame htt hcr
  | failed order db _ hdb =>
      exact hmoved ((commitFailed_released hdb).fits hheld).1 (hitems hnot)
  -- reserved becomes sold: what is available stays
  | succeeded dto order gateName db _ hdb =>
      exact hmoved (commitSuccess_issued hdb).2.moves (add_neg_cancel _)
  | cronPaid order rest db _ hdb =>
      obtain ⟨-, -, htt, hcr⟩ := commitCronPaid_set hdb
      exact hsame htt hcr
  | cronExpired order res rest db _ hdb =>
      exact hmoved ((commitCronExpire_released hdb).fits hheld).1 (hitems hnot)
  | issued job order db _ hdb => exact hmoved (commitIssue_issued hdb).2.moves (add_neg_cancel _)
  | typeWritten existing dto db row _ hdb _ _ =>
      -- an update without quantities writes none of them
      by_cases hgiven : dto.totalQty.isSome ∨ dto.soldQty.isSome ∨ dto.reservedQty.isSome
      · rw [Ask.inventory, if_pos hgiven, List.mem_singleton] at hnot
        exact available_other hdb (fun _ => rfl) hnot
      · simp only [not_or, Option.not_isSome_iff_eq_none] at hgiven
        obtain ⟨htotal, hsold, hreserved⟩ := hgiven
        refine available_kept hdb (fun _ => rfl) fun r => ?_
        simp [availableQty, updateData, htotal, hsold, hreserved]
  | soldOutSet row db hdb => exact available_kept hdb (fun _ => rfl) fun _ => rfl
  | _ => rfl

/-- So does a task. -/
theorem performed_available {ch : Choice} {w w' : World} {task : Task} {res : TaskResult Task}
    (h : Performed ch w task w' res) (hnot : t ∉ Task.inventory task) :
    available w'.db t = available w.db t := by
  cases h with
  | decremented t' q pos db hdb =>
      have hne : t' ≠ t := fun he => hnot (List.mem_singleton.mpr he.symm)
      rw [available_moves (decrementReserved_moves hdb), atType, if_neg hne]
      exact sub_zero _
  | counterDecremented u t' q pos db hdb =>
      rw [available_moves (decrementCounter_moves hdb)]
      exact sub_zero _
  | _ => rfl

/-! ## Between a read and its set -/

/-- The call overwrites the stock of the type with what its update has read. -/
def overwriting (t : TicketTypeId) : Ask → Bool
  | .seedStock row => decide (row.id = t)
  | _ => false

/-- The task sets the stock of the type, if it is missing, to what was read before. -/
def filling (t : TicketTypeId) : Task → Bool
  | .setNxStock t' _ => decide (t' = t)
  | _ => false

/-- Nobody stands between a read of these types and the set of their stock; where the key
    is there, no SET NX counts. -/
def SeedsAlone (p : State) (ts : List TicketTypeId) : Prop :=
  ∀ t ∈ ts, p.Nobody (overwriting t) noTask ∧
    (p.world.redis.stock t = none → p.Nobody noAsk (filling t))

/-- Type by type. -/
instance (p : State) (ts : List TicketTypeId) : Decidable (SeedsAlone p ts) :=
  inferInstanceAs (Decidable (∀ t ∈ ts, _ ∧ (_ → _)))

/-- What an update is about to set is available. -/
def AskRead (w : World) : Ask → Prop
  | .seedStock row => availableQty row = available w.db row.id
  | _ => True

/-- What a batch is about to set, if the key is missing, is available. -/
def TaskRead (w : World) : Task → Prop
  | .setNxStock t n => w.redis.stock t = none → n = freshStock w t
  | _ => True

/-- A call that owes nothing has read nothing. -/
theorem askRead_of_not_owes {w : World} {d : Ask} (h : Ask.owes d = false) : AskRead w d := by
  cases d with
  | seedStock row => cases h
  | _ => trivial

/-- Nor has a task that seeds nothing. -/
theorem taskRead_of_not_seeds {w : World} {task : Task} (h : Task.seeds task = false) :
    TaskRead w task := by
  cases task with
  | setNxStock t n => cases h
  | _ => trivial

/-- A settled program carries no value to seed. -/
theorem Settled.reads {k : Kind} {w : World} {prog : Op} (h : Settled k prog) :
    prog.All (AskRead w) fun task => Task.seeds task = false :=
  h.mono (fun _ hd => askRead_of_not_owes hd.1) fun _ => And.right

/-- Releases and decrements seed nothing. -/
theorem seedless_par {w : World} {ts : List Task} {rest : Op}
    (hts : ∀ task ∈ ts, Task.seeds task = false)
    (hrest : rest.All (AskRead w) fun task => Task.seeds task = false) :
    (Prog.par ts thrown rest).All (AskRead w) fun task => Task.seeds task = false :=
  ⟨hts, trivial, hrest⟩

/-- No release of a request seeds. -/
theorem seedless_metaReleases (site : ReleaseSite) (ctx : CreateCtx) (o : OrderId)
    (metas : List TicketMeta) : ∀ task ∈ metaReleases site ctx o metas, Task.seeds task = false := by
  intro task htask
  obtain ⟨m, -, rfl⟩ := List.mem_map.mp htask
  rfl

/-- No release of an order does. -/
theorem seedless_releases (site : ReleaseSite) (order : Order) :
    ∀ task ∈ releases site order, Task.seeds task = false := by
  intro task htask
  obtain ⟨i, -, rfl⟩ := List.mem_map.mp htask
  rfl

/-- Nor does a decrement of a type. -/
theorem seedless_typeDecrements (order : Order) :
    ∀ task ∈ typeDecrements order, Task.seeds task = false := by
  intro task htask
  obtain ⟨i, -, rfl⟩ := List.mem_map.mp htask
  rfl

/-- Nor does a decrement of a counter. -/
theorem seedless_counterDecrements (order : Order) :
    ∀ task ∈ counterDecrements order, Task.seeds task = false := by
  intro task htask
  obtain ⟨i, -, rfl⟩ := List.mem_map.mp htask
  rfl

/-- Behind the reservations nothing is seeded. -/
theorem reads_awaitReserve (w : World) (ctx : CreateCtx) (o : OrderId) (slots : List ReserveSlot) :
    (awaitReserve ctx o slots).All (AskRead w) fun task => Task.seeds task = false :=
  all_awaitReserve trivial (fun _ => trivial) fun s _ _ =>
    seedless_metaReleases .rollback ctx o [s.item]

/-- A call goes on with no value to seed, or an update with the one its write has left. -/
theorem asked_reads {ch : Choice} {w w' : World} {d : Ask} {prog : Op} (h : Asked ch w d w' prog) :
    prog.All (AskRead w') fun task => Task.seeds task = false := by
  cases h with
  | idle _ _ _ _ _ _ hp => exact hp.reads
  | drawn ctx metas => exact reads_awaitReserve ..
  | reserveThrew ctx o slots s _ _ => exact reads_awaitReserve ..
  | reserved ctx o slots s redis res _ _ _ => exact reads_awaitReserve ..
  | persistFailed ctx o metas => exact seedless_par (seedless_metaReleases _ _ _ _) trivial
  | syncFailed ctx o metas e _ => exact seedless_par (seedless_metaReleases _ _ _ _) trivial
  | paying _ ctx o metas _ d' _ _ hkind =>
      cases d' with
      | seedStock row => cases hkind
      | _ => trivial
  | payingFailed _ ctx o metas e _ _ =>
      refine seedless_par (seedless_metaReleases _ _ _ _) (seedless_par (fun task htask => ?_) trivial)
      rcases List.mem_append.mp htask with hmem | hmem
      all_goals
        obtain ⟨m, -, rfl⟩ := List.mem_map.mp hmem
        rfl
  | cancelling o u order _ _ _ =>
      refine seedless_par (seedless_releases _ _) (seedless_par (fun task htask => ?_) trivial)
      rcases List.mem_append.mp htask with hmem | hmem
      · exact seedless_typeDecrements order task hmem
      · exact seedless_counterDecrements order task hmem
  | expiring o order _ _ =>
      exact seedless_par (seedless_releases _ _) (seedless_par (seedless_counterDecrements order)
        (seedless_par (seedless_typeDecrements order) trivial))
  | failed order db _ _ => exact seedless_par (seedless_releases _ _) trivial
  | enqueued order rest => exact (settled_cronNext rest).reads
  | cronExpired order res rest db _ _ =>
      exact ⟨seedless_releases _ _, (settled_cronNext rest).reads, (settled_cronNext rest).reads⟩
  | typeWritten existing dto db row _ _ hrow hp =>
      rcases hp with rfl | ⟨-, -, -, hp⟩
      · -- the value is that of the row just written
        show availableQty row = available db row.id
        rw [RowTable.lookup_key hrow]
        exact (available_of_row hrow).symm
      · exact hp.reads
  | stockSeeded row _ hp => exact hp.reads
  | _ => trivial

/-- **Seeds are fresh.**  What was read for a seed stays what is available as long as the
    inventory of a type is written only while nobody stands between such a read and its set. -/
theorem reads_step {G : Condition} {p q : State} (h : backend.Step G p q)
    (hask : ∀ ch d, G.ask p ch d → SeedsAlone p (Ask.inventory d) ∧ ReleasesHeld p.world.db d)
    (htask : ∀ ch task, G.task p ch task → SeedsAlone p (Task.inventory task))
    (hp : ∀ prog ∈ p.ops, prog.All (AskRead p.world) (TaskRead p.world)) :
    ∀ prog ∈ q.ops, prog.All (AskRead q.world) (TaskRead q.world) := by
  have hread : ∀ {w : World} {prog : Op},
      prog.All (AskRead w) (fun task => Task.seeds task = false) →
      prog.All (AskRead w) (TaskRead w) :=
    fun hprog => hprog.mono (fun _ => id) fun _ => taskRead_of_not_seeds
  refine h.exclusive (J := AskRead) (K := TaskRead) hp ?_ ?_ ?_ ?_
  · intro r prog _ he
    exact hread (settled_enter he).reads
  · intro ch d w' prog _ _ hg hdec
    have hasked := dispatch_asked hdec
    obtain ⟨halone, hheld⟩ := hask ch d hg
    refine ⟨hread (asked_reads hasked), ?_, ?_⟩
    · intro d' hd'
      cases d' with
      | seedStock row =>
          -- the call writes the inventory, so no such read is in flight, or leaves it
          by_cases hin : row.id ∈ Ask.inventory d
          · exact .inr ⟨overwriting row.id, noTask, decide_eq_true rfl, (halone _ hin).1.onlyBy d⟩
          · exact .inl (hd'.trans (asked_available hasked hheld hin).symm)
      | _ => exact .inl trivial
    · intro task htr
      cases task with
      | setNxStock t n =>
          by_cases hin : t ∈ Ask.inventory d ∧ p.world.redis.stock t = none
          · exact .inr ⟨noAsk, filling t, decide_eq_true rfl, ((halone _ hin.1).2 hin.2).onlyBy d⟩
          · refine .inl fun hnone => ?_
            have hbefore := (asked_keys hasked).stock_none hnone
            have hout : t ∉ Ask.inventory d := fun hmem => hin ⟨hmem, hbefore⟩
            rw [htr hbefore, freshStock, freshStock, asked_available hasked hheld hout]
      | _ => exact .inl trivial
  · intro ch task w' res _ hg hperf
    have hperformed := perform_performed hperf
    have halone := htask ch task hg
    refine ⟨?_, ?_, ?_⟩
    · rintro task' rfl
      obtain ⟨rfl, hlooked⟩ := perform_goOn hperf
      cases hlooked with
      -- the read itself
      | stockRow t => exact fun _ => rfl
      | _ => trivial
    · intro d' hd'
      cases d' with
      | seedStock row =>
          by_cases hin : row.id ∈ Task.inventory task
          · exact .inr ⟨overwriting row.id, noTask, decide_eq_true rfl, (halone _ hin).1⟩
          · exact .inl (hd'.trans (performed_available hperformed hin).symm)
      | _ => exact .inl trivial
    · intro task' htr
      cases task' with
      | setNxStock t n =>
          by_cases hin : t ∈ Task.inventory task ∧ p.world.redis.stock t = none
          · exact .inr ⟨noAsk, filling t, decide_eq_true rfl, (halone _ hin.1).2 hin.2⟩
          · refine .inl fun hnone => ?_
            have hbefore := (performed_keys hperformed).stock_none hnone
            have hout : t ∉ Task.inventory task := fun hmem => hin ⟨hmem, hbefore⟩
            rw [htr hbefore, freshStock, freshStock, performed_available hperformed hout]
      | _ => exact .inl trivial
  · exact fun ms _ => ⟨fun _ => id, fun _ => id⟩

end TicketBackend
