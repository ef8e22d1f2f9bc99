import TicketBox.CreatedHold

/-! # Expired holds

    An order nobody pays runs into the end of its payment window, and the expiry
    job or the payment cron processes it.  Either of them gives the hold back with the
    release script, and the script gives back only what a live record of the order names.
    The record was written with the length of the window as its life, a little after the
    window was opened: the cron may still meet it, the job, which is queued later with
    the same delay, never does (`expired_hold_returned`). -/

namespace TicketBackend

open Interleave TicketStore TicketRedis TicketDb TicketFlow TicketOrder TicketPayment

/-! ## The setting -/

/-- The operations that process an order; what others do in between is the environment's
    move, to any store. -/
def beside : System World Ask Task Answer Choice Request World where
  decide := dispatch
  perform := perform
  enter := enter
  env := fun w _ => w
  detached := .detached

/-- What starts these operations. -/
def StartsProcessing (o : OrderId) (r : Request) : Prop :=
  match r with
  | .expireOrder o' => o' = o
  | .verifyStuckPendingPayments => True
  | _ => False

/-- A release is of this order, or of a ticket type the order does not hold. -/
def ReleasesApart (o : OrderId) (metas : List TicketMeta) (t : Task) : Prop :=
  match t with
  | .releaseReservation _ p => p.orderId ≠ o → ∀ m ∈ metas, p.ticketTypeId ≠ m.ticketTypeId
  | _ => True

/-- The expiry job of the order and the cron are at work, and nobody pays the order. -/
def expiring (ctx : CreateCtx) (o : OrderId) (metas : List TicketMeta) :
    Guard World Ask Task Answer Choice Request World where
  req := fun _ r => StartsProcessing o r
  ask := fun _ _ d => Ask.sets d ≠ some (o, .paid)
  task := fun _ _ t => ReleasesApart o metas t
  env := fun p w => Aside ctx o metas p.world w

/-- A release of the order runs before its record lapses; the cron's, which comes after
    the order has its new status, does not fail. -/
def ReleasedInTime (o : OrderId) (w : World) (ch : Choice) (t : Task) : Prop :=
  match t with
  | .releaseReservation site p =>
      p.orderId = o → (∀ e ∈ w.redis.reservations o, w.now < e.expireAt) ∧
        (site = .cron true → ch.fails = false)
  | _ => True

/-- The same, and every release of the order is in time. -/
def inTime (ctx : CreateCtx) (o : OrderId) (metas : List TicketMeta) :
    Guard World Ask Task Answer Choice Request World where
  req := (expiring ctx o metas).req
  ask := (expiring ctx o metas).ask
  task := fun p ch t => (expiring ctx o metas).task p ch t ∧ ReleasedInTime o p.world ch t
  env := (expiring ctx o metas).env

/-- The same, and only the expiry job is at work. -/
def byJob (ctx : CreateCtx) (o : OrderId) (metas : List TicketMeta) :
    Guard World Ask Task Answer Choice Request World where
  req := fun _ r => r = .expireOrder o
  ask := (expiring ctx o metas).ask
  task := (expiring ctx o metas).task
  env := (expiring ctx o metas).env

/-- The stock is back, and the user's counter as far as the release script's floor lets it. -/
structure KeysBack (w₀ : World) (ctx : CreateCtx) (o : OrderId) (m : TicketMeta) (w : World) :
    Prop where
  stock : stockOf w.redis m.ticketTypeId = stockOf w₀.redis m.ticketTypeId
  userLimit : userLimitOf w.redis ctx.userId m.ticketTypeId
    = max 0 (userLimitOf w₀.redis ctx.userId m.ticketTypeId)
  record : w.redis.reservations o = none

variable {w₀ w w' : World} {ctx : CreateCtx} {o : OrderId} {m : TicketMeta} {ch : Choice}

/-- What others do leaves the keys given back. -/
theorem KeysBack.aside (h : KeysBack w₀ ctx o m w) (ha : Aside ctx o [m] w w') :
    KeysBack w₀ ctx o m w' where
  stock := (ha.stock m (List.mem_singleton_self m)).trans h.stock
  userLimit := (ha.userLimit m (List.mem_singleton_self m)).trans h.userLimit
  record := ha.record.trans h.record

/-! ## The releases -/

/-- A release in time gives the hold back. -/
theorem KeysHeld.released (h : KeysHeld w₀ ctx o m w)
    (hlive : ∀ e ∈ w.redis.reservations o, w.now < e.expireAt) :
    KeysBack w₀ ctx o m
      { w with redis := (releaseReservation (releaseOf ctx o m) w.now w.redis).1 } := by
  obtain ⟨e, he, hrec⟩ := h.record
  have hmatches : Matches (releaseOf ctx o m) w.now w.redis := by
    refine ⟨e, ?_, hrec.orderId, hrec.userId, hrec.ticketTypeId, hrec.quantity⟩
    rw [Redis.reservation, show (releaseOf ctx o m).orderId = o from rfl, he, Option.filter_some,
      if_pos (by simpa using hlive e he)]
  rw [(release_of_matches hmatches).1]
  refine ⟨?_, ?_, Function.update_self ..⟩
  · have hback := stockOf_released_self (releaseOf ctx o m) w.redis
    have hheld := h.stock
    simp only [releaseOf] at hback ⊢
    omega
  · have hback := userLimitOf_released_self (releaseOf ctx o m) w.redis
    have hheld := h.userLimit
    simp only [releaseOf] at hback ⊢
    omega

/-- Without a live record a release does nothing. -/
theorem release_lapsed {p : ReleaseParams} (hp : p.orderId = o)
    (hlapsed : ∀ e ∈ w.redis.reservations o, e.expireAt ≤ w.now) :
    (releaseReservation p w.now w.redis).1 = w.redis := by
  refine (release_of_not_matches ?_).1
  rintro ⟨e, he, -⟩
  rw [hp, Redis.reservation, Option.filter_eq_some_iff] at he
  have hlive := he.2
  have := hlapsed e he.1
  simp only [decide_eq_true_eq] at hlive
  omega

/-- A release of another order and another type leaves the keys alone. -/
theorem aside_released {p : ReleaseParams} (ho : p.orderId ≠ o)
    (ht : p.ticketTypeId ≠ m.ticketTypeId) :
    Aside ctx o [m] w { w with redis := (releaseReservation p w.now w.redis).1 } := by
  by_cases hmatches : Matches p w.now w.redis
  · rw [(release_of_matches hmatches).1]
    refine ⟨le_refl _, fun m' hm' => ?_, fun m' hm' => ?_, ?_, rfl, fun _ hj _ => hj⟩
    · rw [List.mem_singleton.mp hm']
      exact stockOf_released_ne (Ne.symm ht)
    · rw [List.mem_singleton.mp hm']
      refine userLimitOf_released_ne fun heq => ht ?_
      exact (congrArg Prod.snd heq).symm
    · exact Function.update_of_ne (Ne.symm ho) ..
  · rw [(release_of_not_matches hmatches).1]
    exact ⟨le_refl _, fun _ _ => rfl, fun _ _ => rfl, rfl, rfl, fun _ hj _ => hj⟩

/-! ## The tasks of the two operations -/

/-- A copy of the order has its content. -/
def CopyOf (ctx : CreateCtx) (o : OrderId) (m : TicketMeta) (r : Order) : Prop :=
  r.id = o → SameContent (newOrder ctx o [m]) r

/-- What the expiry job and the cron put into their batches. -/
inductive Restores (ctx : CreateCtx) (o : OrderId) (m : TicketMeta) : Task → Prop where
  | own (site : ReleaseSite) : Restores ctx o m (.releaseReservation site (releaseOf ctx o m))
  | other (site : ReleaseSite) (p : ReleaseParams) : p.orderId ≠ o →
      Restores ctx o m (.releaseReservation site p)
  | typeDecrement (t : TicketTypeId) (q : Int) (pos : 0 < q) :
      Restores ctx o m (.decrementReserved t q pos)
  | counterDecrement (u : UserId) (t : TicketTypeId) (q : Int) (pos : 0 < q) :
      Restores ctx o m (.decrementCounter u t q pos)

/-- The one release of a copy of the order. -/
theorem releases_copy {order : Order} (h : SameContent (newOrder ctx o [m]) order)
    (site : ReleaseSite) :
    releases site order = [.releaseReservation site (releaseOf ctx o m)] := by
  rw [releases, h.items, h.userId, h.id]
  rfl

/-- The releases of the order restore its type. -/
theorem restores_releases {order : Order} (h : CopyOf ctx o m order) (site : ReleaseSite) :
    ∀ t ∈ releases site order, Restores ctx o m t := by
  intro t ht
  by_cases hid : order.id = o
  · rw [releases_copy (h hid) site, List.mem_singleton] at ht
    subst ht
    exact .own site
  · obtain ⟨i, -, rfl⟩ := List.mem_map.mp ht
    exact .other site _ hid

/-- So do its decrements. -/
theorem restores_decrements (order : Order) :
    (∀ t ∈ typeDecrements order, Restores ctx o m t) ∧
      ∀ t ∈ counterDecrements order, Restores ctx o m t := by
  constructor
  · intro t ht
    obtain ⟨i, -, rfl⟩ := List.mem_map.mp ht
    exact .typeDecrement _ _ _
  · intro t ht
    obtain ⟨i, -, rfl⟩ := List.mem_map.mp ht
    exact .counterDecrement _ _ _ _

/-- The expiry job or the cron. -/
def Processes (k : Kind) : Prop := k = .expireOrder ∨ k = .cron

/-- So does the rest of the cron's run. -/
theorem restores_cronNext (l : List Order) : (cronNext l).All (fun _ => True) (Restores ctx o m) := by
  cases l <;> trivial

/-- So does the cron behind its transaction. -/
theorem restores_afterCronExpire {order : Order} (h : CopyOf ctx o m order) (released : Bool)
    (rest : List Order) :
    (afterCronExpire order released rest).All (fun _ => True) (Restores ctx o m) :=
  ⟨restores_releases h _, restores_cronNext rest, restores_cronNext rest⟩

/-- A call of these operations goes on with such tasks only. -/
theorem dispatch_restores {d : Ask} {prog : Op} (h : dispatch ch w d = some (w', prog))
    (hk : Processes (Ask.kind d)) (hd : AskCopies (CopyOf ctx o m) d)
    (hfind : ∀ {o' : OrderId} {r : Order}, w.db.findOrder o' = some r → CopyOf ctx o m r) :
    prog.All (fun _ => True) (Restores ctx o m) := by
  have hreads : ∀ {q : Op}, reads ch w q = some (w', prog) →
      q.All (fun _ => True) (Restores ctx o m) → prog.All (fun _ => True) (Restores ctx o m) :=
    fun hq => prop_of_reads (P := fun _ prog => prog.All (fun _ => True) (Restores ctx o m)) hq
      trivial
  have hsome : ∀ {x : World × Op}, some x = some (w', prog) →
      x.2.All (fun _ => True) (Restores ctx o m) → prog.All (fun _ => True) (Restores ctx o m) :=
    fun hq => prop_of_some (P := fun _ prog => prog.All (fun _ => True) (Restores ctx o m)) hq
  cases d with
  -- every batch of the job gives back what the order has
  | expireOrder o' =>
      refine hreads h ?_
      simp only [TicketOrder.expireOrder]
      split
      · trivial
      · next order ho =>
        split
        · trivial
        · split
          · trivial
          · exact ⟨restores_releases (hfind ho) _, trivial, (restores_decrements order).2, trivial,
              (restores_decrements order).1, trivial, trivial⟩
  | markExpired order =>
      refine hsome h ?_
      simp only [TicketOrder.markExpired]
      split <;> trivial
  | verifyStuckPendingPayments => exact hreads h (restores_cronNext _)
  | verifyTransaction order rest =>
      refine hreads h ?_
      simp only [TicketPayment.verifyTransaction]
      split <;> trivial
  | cronPaidCheck order rest =>
      refine hreads h ?_
      simp only [TicketPayment.cronPaidCheck]
      repeat' split
      all_goals trivial
  | cronPaidCommit order rest =>
      refine hsome h ?_
      simp only [TicketPayment.cronPaidCommit]
      split <;> trivial
  | enqueueTicketIssue order rest =>
      refine hsome h ?_
      simp only [TicketPayment.enqueueTicketIssue]
      split
      · trivial
      · exact restores_cronNext rest
  | cronExpireCheck order res rest =>
      refine hreads h ?_
      have hown := hd order List.mem_cons_self
      simp only [TicketPayment.cronExpireCheck]
      repeat' split
      · trivial
      · exact restores_afterCronExpire hown false rest
      · exact restores_afterCronExpire hown false rest
  | cronExpireCommit order res rest =>
      refine hsome h ?_
      simp only [TicketPayment.cronExpireCommit]
      split
      · trivial
      · exact restores_afterCronExpire (hd order List.mem_cons_self) true rest
  -- the calls of other operations
  | createPaymentUrl caller _ _ => cases caller <;> rcases hk with hk | hk <;> cases hk
  | callGateway caller _ _ _ => cases caller <;> rcases hk with hk | hk <;> cases hk
  | savePaymentUrl caller _ _ _ _ => cases caller <;> rcases hk with hk | hk <;> cases hk
  | _ => rcases hk with hk | hk <;> cases hk

/-! ## What one step does to the keys -/

/-- A call of the operations that process an order leaves Redis alone. -/
theorem processes_redis {d : Ask} {prog : Op} (h : Asked ch w d w' prog)
    (hk : Processes (Ask.kind d)) : w'.redis = w.redis := by
  cases h with
  | reserved _ _ _ _ _ _ _ _ _ => rcases hk with hk | hk <;> cases hk
  | recordDeleted _ => rcases hk with hk | hk <;> cases hk
  | stockSeeded _ _ _ => rcases hk with hk | hk <;> cases hk
  | _ => rfl

/-- No task writes an order. -/
theorem performed_findOrder {t : Task} {res : TaskResult Task} (h : Performed ch w t w' res) :
    w'.db.findOrder o = w.db.findOrder o := by
  rw [Db.findOrder, (performed_orders h).1]
  rfl

/-- A task leaves the keys alone, or it is the release of the order. -/
theorem restores_performed {t : Task} {res : TaskResult Task} (h : Performed ch w t w' res)
    (ht : Restores ctx o m t) (hapart : ReleasesApart o [m] t) :
    Aside ctx o [m] w w' ∨ ∃ site, t = .releaseReservation site (releaseOf ctx o m) ∧
      w' = { w with redis := (releaseReservation (releaseOf ctx o m) w.now w.redis).1 } := by
  have hsame : Aside ctx o [m] w w :=
    ⟨le_refl _, fun _ _ => rfl, fun _ _ => rfl, rfl, rfl, fun _ hj _ => hj⟩
  have hfind : w'.db.findOrder o = w.db.findOrder o := performed_findOrder h
  cases ht with
  | own site =>
      cases h with
      | threw _ _ => exact .inl hsame
      | ended _ _ => exact .inl hsame
      | looked _ _ _ _ _ => exact .inl hsame
      | released _ _ => exact .inr ⟨site, rfl, rfl⟩
  | other site p hp =>
      cases h with
      | threw _ _ => exact .inl hsame
      | ended _ _ => exact .inl hsame
      | looked _ _ _ _ _ => exact .inl hsame
      | released _ _ => exact .inl (aside_released hp (hapart hp m (List.mem_singleton_self m)))
  | typeDecrement t q pos =>
      cases h with
      | decremented _ _ _ db hdb =>
          exact .inl ⟨le_refl _, fun _ _ => rfl, fun _ _ => rfl, rfl,
            hfind, fun _ hj _ => hj⟩
      | _ => exact .inl hsame
  | counterDecrement u t q pos =>
      cases h with
      | counterDecremented _ _ _ _ db hdb =>
          exact .inl ⟨le_refl _, fun _ _ => rfl, fun _ _ => rfl, rfl,
            hfind, fun _ hj _ => hj⟩
      | _ => exact .inl hsame

/-- The keys are held or back. -/
def HeldOrBack (w₀ : World) (ctx : CreateCtx) (o : OrderId) (m : TicketMeta) (w : World) : Prop :=
  KeysHeld w₀ ctx o m w ∨ KeysBack w₀ ctx o m w

/-- A release of a hold that is back does nothing. -/
theorem KeysBack.released (h : KeysBack w₀ ctx o m w) :
    KeysBack w₀ ctx o m
      { w with redis := (releaseReservation (releaseOf ctx o m) w.now w.redis).1 } := by
  have hnone : ∀ e ∈ w.redis.reservations o, e.expireAt ≤ w.now := by
    intro e he
    rw [h.record] at he
    cases he
  rw [release_lapsed rfl hnone]
  exact h

/-- A release of a live record gives the keys back. -/
theorem HeldOrBack.released (h : HeldOrBack w₀ ctx o m w)
    (hlive : ∀ e ∈ w.redis.reservations o, w.now < e.expireAt) :
    KeysBack w₀ ctx o m
      { w with redis := (releaseReservation (releaseOf ctx o m) w.now w.redis).1 } :=
  h.elim (fun hheld => hheld.released hlive) KeysBack.released

/-- How a call of these operations can end the wait for a payment. -/
theorem row_settles {d : Ask} {prog : Op} {row row' : Order} (h : Asked ch w d w' prog)
    (hk : Processes (Ask.kind d)) (hrow : w.db.findOrder o = some row)
    (hpending : row.status = .pendingPayment) (hrow' : w'.db.findOrder o = some row')
    (hsettled : row'.status ≠ .pendingPayment) :
    (∃ order, d = .markExpired order ∧ order.id = o) ∨ Ask.sets d = some (o, .paid) ∨
      ∃ order res rest, d = .cronExpireCommit order res rest ∧ order.id = o ∧
        prog = afterCronExpire order true rest := by
  have hmoved : w'.db.findOrder o ≠ w.db.findOrder o := by
    rw [hrow, hrow']
    rintro ⟨⟩
    exact hsettled hpending
  -- a write to another row leaves this one alone
  have hown : ∀ {o' : OrderId} {s : OrderStatus}, OrderSet o' s w.db w'.db → o' = o := by
    intro o' s hset
    by_contra hne
    exact hmoved (hset.find_ne (Ne.symm hne))
  cases h with
  | expired order db _ hdb => exact .inl ⟨order, rfl, hown (commitExpired_set hdb).1⟩
  | cronPaid order rest db _ hdb =>
      refine .inr (.inl ?_)
      rw [← hown (commitCronPaid_set hdb).1]
      rfl
  | cronExpired order res rest db _ hdb =>
      exact .inr (.inr ⟨order, res, rest, rfl, hown (commitCronExpire_released hdb).set, rfl⟩)
  | deleted _ _ _ _ hd _ _ => rcases hd with rfl | rfl <;> rcases hk with hk | hk <;> cases hk
  | persisted _ _ _ _ _ _ => rcases hk with hk | hk <;> cases hk
  | synced _ _ _ _ _ _ => rcases hk with hk | hk <;> cases hk
  | cancelled _ _ _ _ => rcases hk with hk | hk <;> cases hk
  | failed _ _ _ _ => rcases hk with hk | hk <;> cases hk
  | succeeded _ _ _ _ _ _ => rcases hk with hk | hk <;> cases hk
  | issued _ _ _ _ _ => rcases hk with hk | hk <;> cases hk
  | typeWritten _ _ _ _ _ _ _ _ => rcases hk with hk | hk <;> cases hk
  | soldOutSet _ _ _ => rcases hk with hk | hk <;> cases hk
  | _ => exact absurd rfl hmoved

/-! ## What every run carries -/

/-- What a run of these operations carries: versions of the order, and their tasks. -/
structure Carries (ctx : CreateCtx) (o : OrderId) (m : TicketMeta)
    (p : Pool World Ask Task Answer) : Prop where
  row : ∃ row, p.world.db.findOrder o = some row ∧ SameContent (newOrder ctx o [m]) row
  ops : ∀ prog ∈ p.ops, prog.All
    (fun d => Processes (Ask.kind d) ∧ AskCopies (CopyOf ctx o m) d) (Restores ctx o m)

variable {p q : Pool World Ask Task Answer}

/-- The rows of these operations' reads are copies of the order. -/
theorem copyOf_find (hrow : ∃ row, w.db.findOrder o = some row ∧
    SameContent (newOrder ctx o [m]) row) {o' : OrderId} {r : Order}
    (hr : w.db.findOrder o' = some r) : CopyOf ctx o m r := by
  intro hid
  obtain ⟨row, hrow, hcontent⟩ := hrow
  rw [← RowTable.lookup_key hr, hid, hrow] at hr
  cases hr
  exact hcontent

/-- A batch of these operations is one round of calls. -/
theorem restores_ends {t : Task} {res : TaskResult Task} (ht : Restores ctx o m t)
    (hperf : perform ch w t = some (w', res)) : ∀ t', res ≠ .goOn t' := by
  rintro t' rfl
  cases ht with
  | own site =>
      simp only [perform] at hperf
      split at hperf <;> cases hperf
  | other site p _ =>
      simp only [perform] at hperf
      split at hperf <;> cases hperf
  | typeDecrement t q pos =>
      simp only [perform] at hperf
      repeat' split at hperf
      all_goals cases hperf
  | counterDecrement u t q pos =>
      simp only [perform] at hperf
      repeat' split at hperf
      all_goals cases hperf

/-- The two requests. -/
theorem enter_processes {r : Request} {prog : Op} (hg : StartsProcessing o r)
    (he : enter w r = some prog) :
    ∃ d, prog = .ask d ∧ (d = .expireOrder o ∨ d = .verifyStuckPendingPayments) := by
  refine ⟨_, enter_call he, ?_⟩
  cases r with
  | expireOrder o' =>
      obtain rfl : o' = o := hg
      exact .inl rfl
  | verifyStuckPendingPayments => exact .inr rfl
  | _ => exact hg.elim

/-- Every step carries the order's copies along. -/
theorem Carries.step (hp : Carries ctx o m p) (hs : beside.Step (expiring ctx o [m]) p q) :
    Carries ctx o m q where
  row := by
    refine hs.world (I := fun w => ∃ row, w.db.findOrder o = some row ∧
      SameContent (newOrder ctx o [m]) row) hp.row ?_ ?_ ?_
    · intro ch d w' prog _ _ hdec
      obtain ⟨row, hrow, hcontent⟩ := hp.row
      obtain ⟨row', hrow', hcontent', -⟩ := (asked_orders (dispatch_asked hdec)).found hrow
        (.inl (by rw [hcontent.items]; exact List.cons_ne_nil _ _))
      exact ⟨row', hrow', hcontent.trans hcontent'⟩
    · intro ch t w' res _ _ hperf
      rw [performed_findOrder (perform_performed hperf)]
      exact hp.row
    · intro w' ha
      show ∃ row, w'.db.findOrder o = some row ∧ _
      rw [ha.order]
      exact hp.row
  ops := by
    refine hs.all (J := fun _ d => Processes (Ask.kind d) ∧ AskCopies (CopyOf ctx o m) d)
      (K := fun _ => Restores ctx o m) hp.ops ?_ ?_ ?_ fun _ _ => ⟨fun _ => id, fun _ => id⟩
    · intro r prog hg he
      obtain ⟨d, rfl, rfl | rfl⟩ := enter_processes hg he
      · exact ⟨.inl rfl, trivial⟩
      · exact ⟨.inr rfl, trivial⟩
    · intro ch d w' prog _ hd _ hdec
      refine ⟨?_, fun _ => id, fun _ => id⟩
      have hkind := asked_kind (dispatch_asked hdec)
      have hcopies := dispatch_copies hdec hd.2 (copyOf_find hp.row)
      have htasks := dispatch_restores hdec hd.1 hd.2 (copyOf_find hp.row)
      refine ((hkind.and hcopies).and htasks).mono (fun d' hd' => ?_) fun t ht => ht.2
      exact ⟨hd'.1.1 ▸ hd.1, hd'.1.2⟩
    · intro ch t w' res ht _ hperf
      exact ⟨fun t' hres => absurd hres (restores_ends ht hperf t'), fun _ => id, fun _ => id⟩

/-! ## Runs in which every release is in time -/

/-- The call that writes EXPIRED into the order needs its hold given back. -/
def needsBack (o : OrderId) (d : Ask) (_ : Unit) : Prop :=
  ∃ order, d = .markExpired order ∧ order.id = o

/-- The expiry job's release gives it back. -/
def yieldsBack (ctx : CreateCtx) (o : OrderId) (m : TicketMeta) (t : Task) (_ : Unit) : Prop :=
  t = .releaseReservation .expire (releaseOf ctx o m)

/-- The fact it yields. -/
def IsBack (w₀ : World) (ctx : CreateCtx) (o : OrderId) (m : TicketMeta) (w : World) (_ : Unit) :
    Prop :=
  KeysBack w₀ ctx o m w

/-- The cron's release of the order is in flight. -/
def CronReleasing (ctx : CreateCtx) (o : OrderId) (m : TicketMeta)
    (p : Pool World Ask Task Answer) : Prop :=
  ∃ ts h rest, .par ts h rest ∈ p.ops ∧
    .releaseReservation (.cron true) (releaseOf ctx o m) ∈ ts

/-- What a run in time keeps: once the order waits no longer for its payment, its hold is
    back or the cron is about to give it back. -/
structure Processing (w₀ : World) (ctx : CreateCtx) (o : OrderId) (m : TicketMeta)
    (p : Pool World Ask Task Answer) : Prop extends Carries ctx o m p where
  keys : HeldOrBack w₀ ctx o m p.world
  relies : ∀ prog ∈ p.ops, prog.Relies (needsBack o) (yieldsBack ctx o m)
    (IsBack w₀ ctx o m p.world)
  settled : ∀ row, p.world.db.findOrder o = some row → row.status ≠ .pendingPayment →
    KeysBack w₀ ctx o m p.world ∨ CronReleasing ctx o m p

/-- Releasing in time is releasing. -/
theorem inTime_implies {metas : List TicketMeta} :
    (inTime ctx o metas).Implies (expiring ctx o metas) where
  req := fun _ _ h => h
  ask := fun _ _ _ h => h
  task := fun _ _ _ h => h.1
  env := fun _ _ h => h

/-- Only the expiry job has a call that needs the hold given back. -/
theorem relies_of_kind {known : Unit → Prop} {k : Kind} {prog : Op} (h : OfKind k prog)
    (hk : k ≠ .expireOrder) : prog.Relies (needsBack o) (yieldsBack ctx o m) known := by
  refine Prog.relies_of_all (h.mono (fun d hd => ?_) fun _ => id)
  rintro _ ⟨order, rfl, -⟩
  exact absurd hd.symm hk

/-- A call of these operations goes on with what it relies on in order. -/
theorem dispatch_relies {known : Unit → Prop} {d : Ask} {prog : Op}
    (h : dispatch ch w d = some (w', prog)) (hk : Processes (Ask.kind d))
    (hfind : ∀ {o' : OrderId} {r : Order}, w.db.findOrder o' = some r → CopyOf ctx o m r) :
    prog.Relies (needsBack o) (yieldsBack ctx o m) known := by
  rcases hk with hk | hk
  · cases dispatch_asked h with
    | idle _ _ _ _ _ _ hp =>
        refine Prog.relies_of_all (hp.mono (fun d' hd' => ?_) fun _ _ => trivial)
        rintro _ ⟨order, rfl, -⟩
        cases hd'.1
    | expiring o' order hrow _ =>
        refine ⟨trivial, trivial, trivial, ?_⟩
        rintro _ ⟨_, ⟨⟩, hid⟩
        refine .inl (.inl (.inr ⟨_, ?_, rfl⟩))
        rw [releases_copy (hfind hrow hid) .expire]
        exact List.mem_singleton_self _
    | expired _ _ _ _ => trivial
    | markFailed _ _ _ _ => trivial
    | deleted _ _ _ _ _ _ _ => trivial
    | deleteRefused _ _ _ _ _ => trivial
    | paying _ _ _ _ _ _ hd _ _ =>
        rw [paying_kind hd] at hk
        cases hk
    | payingFailed _ _ _ _ _ hd _ =>
        rw [paying_kind hd] at hk
        cases hk
    | _ => cases hk
  · refine relies_of_kind (k := .cron) ?_ nofun
    rw [← hk]
    exact asked_kind (dispatch_asked h)

/-- Keys that are back stay back. -/
theorem Processing.moves (hp : Processing w₀ ctx o m p)
    (hs : beside.Step (inTime ctx o [m]) p q) :
    (KeysBack w₀ ctx o m p.world → KeysBack w₀ ctx o m q.world) ∧
      HeldOrBack w₀ ctx o m q.world := by
  have haside : ∀ {w' : World}, Aside ctx o [m] p.world w' →
      (KeysBack w₀ ctx o m p.world → KeysBack w₀ ctx o m w') ∧ HeldOrBack w₀ ctx o m w' := by
    intro w' ha
    refine ⟨fun h => h.aside ha, hp.keys.imp (fun h => ?_) fun h => h.aside ha⟩
    exact h.aside (List.mem_singleton_self m) ha
  refine hs.world (I := fun w' => (KeysBack w₀ ctx o m p.world → KeysBack w₀ ctx o m w') ∧
    HeldOrBack w₀ ctx o m w') ⟨id, hp.keys⟩ ?_ ?_ fun w' hw' => haside hw'
  · intro ch d w' prog hmem _ hdec
    have hasked := dispatch_asked hdec
    obtain ⟨hk, -⟩ : Processes (Ask.kind d) ∧ AskCopies (CopyOf ctx o m) d := hp.ops _ hmem
    have hredis := processes_redis hasked hk
    have hback : KeysBack w₀ ctx o m p.world → KeysBack w₀ ctx o m w' := fun h =>
      ⟨hredis ▸ h.stock, hredis ▸ h.userLimit, hredis ▸ h.record⟩
    exact ⟨hback, hp.keys.imp (fun h => h.same hredis (asked_now hasked)) hback⟩
  · rintro ch t w' res ⟨ts, hh, rest, hmem, ht⟩ ⟨hapart, htime⟩ hperf
    rcases restores_performed (perform_performed hperf) ((hp.ops _ hmem).1 t ht) hapart with
      ha | ⟨site, rfl, rfl⟩
    · exact haside ha
    · exact ⟨KeysBack.released, .inr (hp.keys.released (htime rfl).1)⟩

/-- The release of the order, executed in time. -/
theorem Processing.released (hp : Processing w₀ ctx o m p) {site : ReleaseSite}
    {res : TaskResult Task}
    (htime : ReleasedInTime o p.world ch (.releaseReservation site (releaseOf ctx o m)))
    (hf : ch.fails = false)
    (hperf : perform ch p.world (.releaseReservation site (releaseOf ctx o m)) = some (w', res)) :
    KeysBack w₀ ctx o m w' := by
  simp only [perform, hf] at hperf
  cases hperf
  exact hp.keys.released (htime rfl).1

/-- A task that is resolved has not failed. -/
theorem fails_of_resolved {t : Task} (hperf : perform ch w t = some (w', .resolved)) :
    ch.fails = false := by
  cases hf : ch.fails with
  | false => rfl
  | true =>
      simp only [perform, hf, if_true] at hperf
      cases hperf

/-- The step that ends the wait for the payment leaves the hold back or its release in
    flight. -/
theorem Processing.settles (hp : Processing w₀ ctx o m p)
    (hs : beside.Step (inTime ctx o [m]) p q) {row row' : Order}
    (hrow : p.world.db.findOrder o = some row) (hpending : row.status = .pendingPayment)
    (hrow' : q.world.db.findOrder o = some row') (hsettled : row'.status ≠ .pendingPayment)
    (hkeep : KeysBack w₀ ctx o m p.world → KeysBack w₀ ctx o m q.world) :
    KeysBack w₀ ctx o m q.world ∨ CronReleasing ctx o m q := by
  have hmoved : q.world.db.findOrder o ≠ p.world.db.findOrder o := by
    rw [hrow, hrow']
    rintro ⟨⟩
    exact hsettled hpending
  cases hs with
  | asked i ch d w' prog hi hg hdec =>
      have hmem := List.mem_of_getElem? hi
      have hd : Processes (Ask.kind d) ∧ AskCopies (CopyOf ctx o m) d := hp.ops _ hmem
      rcases row_settles (dispatch_asked hdec) hd.1 hrow hpending hrow' hsettled with
        ⟨order, rfl, hid⟩ | hpaid | ⟨order, res, rest, rfl, hid, rfl⟩
      · exact .inl (hkeep (hp.relies _ hmem () ⟨order, rfl, hid⟩))
      · exact absurd hpaid hg
      · refine .inr ⟨_, _, _, mem_set_self hi _, ?_⟩
        have hcontent : SameContent (newOrder ctx o [m]) order :=
          hd.2 order List.mem_cons_self hid
        rw [releases_copy hcontent]
        exact List.mem_singleton_self _
  | started _ _ _ _ => exact absurd rfl hmoved
  | settled _ _ _ _ => exact absurd rfl hmoved
  | resolved i k ch ts t h rest w' hi hk hg hperf =>
      exact absurd (performed_findOrder (perform_performed hperf)) hmoved
  | wentOn i k ch ts t t' h rest w' hi hk hg hperf =>
      exact absurd (performed_findOrder (perform_performed hperf)) hmoved
  | threw i k ch ts t h rest w' hi hk hg hperf =>
      exact absurd (performed_findOrder (perform_performed hperf)) hmoved
  | moved w' ha => exact absurd ha.order hmoved

/-- **One step of the processing.** -/
theorem Processing.step (hp : Processing w₀ ctx o m p)
    (hs : beside.Step (inTime ctx o [m]) p q) : Processing w₀ ctx o m q := by
  obtain ⟨hkeep, hkeys⟩ := hp.moves hs
  refine ⟨hp.toCarries.step (hs.weaken inTime_implies), hkeys, ?_, ?_⟩
  · have hkept : ∀ f, IsBack w₀ ctx o m p.world f → IsBack w₀ ctx o m q.world f := fun _ => hkeep
    refine System.Step.relies hs hp.relies hkept ?_ ?_ ?_ ?_
    · intro r prog hg he
      obtain ⟨d, rfl, rfl | rfl⟩ := enter_processes hg he
      all_goals
        rintro _ ⟨_, ⟨⟩, -⟩
    · intro ch d w' prog hmem _ _ hdec
      exact dispatch_relies hdec (hp.ops _ hmem).1 (copyOf_find hp.row)
    · rintro ch t w' _ rfl ⟨-, htime⟩ hperf
      have hperf' : perform ch p.world (.releaseReservation .expire (releaseOf ctx o m))
          = some (w', .resolved) := hperf
      exact hp.released htime (fails_of_resolved hperf') hperf'
    · rintro ch t t' w' _ rfl hperf
      exact absurd rfl (restores_ends (.own .expire) hperf t')
  · intro row' hrow' hsettled
    obtain ⟨row, hrow₀, -⟩ := hp.row
    by_cases hpending : row.status = .pendingPayment
    · exact hp.settles hs hrow₀ hpending hrow' hsettled hkeep
    · rcases hp.settled row hrow₀ hpending with hback | hreleasing
      · exact .inl (hkeep hback)
      · rcases hs.task_stays hreleasing with hstill | ⟨ch, res, ⟨-, htime⟩, hperf⟩
        · exact .inr hstill
        · exact .inl (hp.released htime ((htime rfl).2 rfl) hperf)

/-! ## Runs of the expiry job -/

/-- What runs of the job alone keep: the hold is in place, and whatever runs started no
    earlier than the end of its record. -/
structure Lapsing (w₀ : World) (ctx : CreateCtx) (o : OrderId) (m : TicketMeta)
    (p : Pool World Ask Task Answer) : Prop extends Carries ctx o m p where
  keys : KeysHeld w₀ ctx o m p.world
  jobs : JobsLate o p.world
  late : p.ops ≠ [] → ∀ e ∈ p.world.redis.reservations o, e.expireAt ≤ p.world.now

/-- An expiry by its job is an expiry. -/
theorem byJob_implies {metas : List TicketMeta} :
    (byJob ctx o metas).Implies (expiring ctx o metas) where
  req := by
    rintro _ _ rfl
    rfl
  ask := fun _ _ _ h => h
  task := fun _ _ _ h => h
  env := fun _ _ h => h

/-- No call of these operations queues an expiry job. -/
theorem processes_jobs {d : Ask} {prog : Op} (h : dispatch ch w d = some (w', prog))
    (hk : Processes (Ask.kind d)) : w'.expireJobs = w.expireJobs := by
  have hreads : ∀ {q : Op}, reads ch w q = some (w', prog) → w'.expireJobs = w.expireJobs :=
    fun hq => prop_of_reads (P := fun w' _ => w'.expireJobs = w.expireJobs) hq rfl rfl
  have hsome : ∀ {x : World × Op}, some x = some (w', prog) →
      x.1.expireJobs = w.expireJobs → w'.expireJobs = w.expireJobs :=
    fun hq => prop_of_some (P := fun w' _ => w'.expireJobs = w.expireJobs) hq
  cases d with
  | expireOrder o' => exact hreads h
  | markExpired order =>
      refine hsome h ?_
      simp only [TicketOrder.markExpired]
      split <;> rfl
  | verifyStuckPendingPayments => exact hreads h
  | verifyTransaction order rest => exact hreads h
  | cronPaidCheck order rest => exact hreads h
  | cronPaidCommit order rest =>
      refine hsome h ?_
      simp only [TicketPayment.cronPaidCommit]
      split <;> rfl
  | enqueueTicketIssue order rest =>
      refine hsome h ?_
      simp only [TicketPayment.enqueueTicketIssue]
      split <;> rfl
  | cronExpireCheck order res rest => exact hreads h
  | cronExpireCommit order res rest =>
      refine hsome h ?_
      simp only [TicketPayment.cronExpireCommit]
      split <;> rfl
  | createPaymentUrl caller _ _ => cases caller <;> rcases hk with hk | hk <;> cases hk
  | callGateway caller _ _ _ => cases caller <;> rcases hk with hk | hk <;> cases hk
  | savePaymentUrl caller _ _ _ _ => cases caller <;> rcases hk with hk | hk <;> cases hk
  | _ => rcases hk with hk | hk <;> cases hk

/-- The job's release finds no live record. -/
theorem Lapsing.step (hp : Lapsing w₀ ctx o m p) (hs : beside.Step (byJob ctx o [m]) p q) :
    Lapsing w₀ ctx o m q := by
  have haside : ∀ {w' : World} {ops : List Op}, Aside ctx o [m] p.world w' →
      (ops ≠ [] → p.ops ≠ []) → KeysHeld w₀ ctx o m w' ∧ JobsLate o w' ∧
        (ops ≠ [] → ∀ e ∈ w'.redis.reservations o, e.expireAt ≤ w'.now) := by
    intro w' ops ha hne
    refine ⟨hp.keys.aside (List.mem_singleton_self m) ha, hp.jobs.aside ha, fun hops e he => ?_⟩
    rw [ha.record] at he
    exact le_trans (hp.late (hne hops) e he) ha.now
  have htask : ∀ {ch : Choice} {t : Task} {w' : World} {res : TaskResult Task} {ops : List Op},
      (∃ ts h rest, .par ts h rest ∈ p.ops ∧ t ∈ ts) → (byJob ctx o [m]).task p ch t →
      beside.perform ch p.world t = some (w', res) → KeysHeld w₀ ctx o m w' ∧ JobsLate o w' ∧
        (ops ≠ [] → ∀ e ∈ w'.redis.reservations o, e.expireAt ≤ w'.now) := by
    rintro ch t w' res ops ⟨ts, hh, rest, hmem, ht⟩ hapart hperf
    have hne := List.ne_nil_of_mem hmem
    rcases restores_performed (perform_performed hperf) ((hp.ops _ hmem).1 t ht) hapart with
      ha | ⟨site, -, rfl⟩
    · exact haside ha fun _ => hne
    · rw [release_lapsed rfl (hp.late hne)]
      exact ⟨hp.keys, hp.jobs, fun _ => hp.late hne⟩
  suffices hq : KeysHeld w₀ ctx o m q.world ∧ JobsLate o q.world ∧
      (q.ops ≠ [] → ∀ e ∈ q.world.redis.reservations o, e.expireAt ≤ q.world.now) from
    ⟨hp.toCarries.step (hs.weaken byJob_implies), hq.1, hq.2.1, hq.2.2⟩
  cases hs with
  | started r prog hg he =>
      refine ⟨hp.keys, hp.jobs, fun _ e hrec => ?_⟩
      obtain rfl : r = .expireOrder o := hg
      -- the queue hands out a job that is due, and the record ended before that
      have he' : enter p.world (.expireOrder o) = some prog := he
      simp only [enter] at he'
      split at he'
      · next hdue =>
        obtain ⟨j, hj, hjo⟩ := List.any_eq_true.mp hdue
        simp only [decide_eq_true_eq] at hjo
        exact le_trans (hp.jobs e hrec j hj hjo.1) hjo.2
      · cases he'
  | asked i ch d w' prog hi hg hdec =>
      have hmem := List.mem_of_getElem? hi
      obtain ⟨hk, -⟩ : Processes (Ask.kind d) ∧ AskCopies (CopyOf ctx o m) d := hp.ops _ hmem
      have hasked := dispatch_asked hdec
      have hredis := processes_redis hasked hk
      have hnow := asked_now hasked
      refine ⟨hp.keys.same hredis hnow, ?_, fun _ => ?_⟩
      · rw [JobsLate, hredis, processes_jobs hdec hk]
        exact hp.jobs
      · show ∀ e ∈ w'.redis.reservations o, e.expireAt ≤ w'.now
        rw [hredis, hnow]
        exact hp.late (List.ne_nil_of_mem hmem)
  | settled i h rest hi =>
      exact ⟨hp.keys, hp.jobs, fun _ => hp.late (List.ne_nil_of_mem (List.mem_of_getElem? hi))⟩
  | resolved i k ch ts t h rest w' hi hk hg hperf =>
      exact htask ⟨ts, h, rest, List.mem_of_getElem? hi, List.mem_of_getElem? hk⟩ hg hperf
  | wentOn i k ch ts t t' h rest w' hi hk hg hperf =>
      exact htask ⟨ts, h, rest, List.mem_of_getElem? hi, List.mem_of_getElem? hk⟩ hg hperf
  | threw i k ch ts t h rest w' hi hk hg hperf =>
      exact htask ⟨ts, h, rest, List.mem_of_getElem? hi, List.mem_of_getElem? hk⟩ hg hperf
  | moved w' ha => exact haside ha id

/-! ## What comes back -/

/-- An order is created beside others at work. -/
def Created (w₀ : World) (ctx : CreateCtx) (o : OrderId) (metas : List TicketMeta) (w : World) :
    Prop :=
  ∃ tr url, backend.Alone (AsideLive ctx o metas) w₀ (awaitReserve ctx o (started metas)) tr w
    (.ret (.orderCreated o url))

/-- The order waits no longer for its payment, and whatever processed it has ended. -/
def Done (o : OrderId) (p : Pool World Ask Task Answer) : Prop :=
  p.Quiet ∧ ∃ row ∈ p.world.db.findOrder o, row.status ≠ .pendingPayment

/-- The keys hold what they held before the reservation. -/
def HoldBack (w₀ : World) (ctx : CreateCtx) (metas : List TicketMeta) (w : World) : Prop :=
  ∀ m ∈ metas, stockOf w.redis m.ticketTypeId = stockOf w₀.redis m.ticketTypeId ∧
    userLimitOf w.redis ctx.userId m.ticketTypeId
      = userLimitOf w₀.redis ctx.userId m.ticketTypeId

/-- A created order is where the processing starts. -/
theorem Held.processing (h : Held w₀ ctx o m w) : Processing w₀ ctx o m ⟨w, []⟩ where
  row := ⟨_, h.row, SameContent.refl _⟩
  ops := nofun
  keys := .inl h.keys
  relies := nofun
  settled := by
    intro row hrow hsettled
    have hrow' : w.db.findOrder o = some row := hrow
    rw [h.row] at hrow'
    cases hrow'
    exact absurd rfl hsettled

/-- **Expired holds.**  Where every release of the order runs before its record lapses, a
    processed order has its hold back (if the user's counter was not negative); where only
    the expiry job processes it, the hold never comes back. -/
theorem expired_hold_returned {metas : List TicketMeta} {w₁ : World} (hunused : Unused w₀ ctx o)
    (hcreated : Created w₀ ctx o metas w₁) :
    (∀ q, beside.Run (inTime ctx o metas) ⟨w₁, []⟩ q → Done o q →
      (HoldBack w₀ ctx metas q.world ↔
        ∀ m ∈ metas, 0 ≤ userLimitOf w₀.redis ctx.userId m.ticketTypeId)) ∧
    ∀ q, beside.Run (byJob ctx o metas) ⟨w₁, []⟩ q → metas ≠ [] →
      ¬ HoldBack w₀ ctx metas q.world := by
  obtain ⟨tr, url, hcreated⟩ := hcreated
  by_cases hne : metas = []
  · subst hne
    exact ⟨fun _ _ _ => iff_of_true nofun nofun, fun _ _ hne => absurd rfl hne⟩
  obtain ⟨m, rfl, hheld⟩ := held_of_created hne hunused hcreated
  constructor
  · rintro q hrun ⟨hquiet, row, hrow, hsettled⟩
    have hend : Processing w₀ ctx o m q :=
      hrun.inv (fun _ _ hp hs => hp.step hs) hheld.processing
    have hback : KeysBack w₀ ctx o m q.world := by
      rcases hend.settled row hrow hsettled with hback | ⟨ts, h, rest, hmem, -⟩
      · exact hback
      · obtain ⟨a, ha⟩ := hquiet _ hmem
        cases ha
    have hlimit := hback.userLimit
    constructor
    · intro h m' hm'
      obtain rfl := List.mem_singleton.mp hm'
      have := (h m' hm').2
      omega
    · intro hpos m' hm'
      obtain rfl := List.mem_singleton.mp hm'
      have := hpos m' hm'
      exact ⟨hback.stock, by omega⟩
  · intro q hrun _ hback
    have hstart : Lapsing w₀ ctx o m ⟨w₁, []⟩ :=
      ⟨hheld.processing.toCarries, hheld.keys, hheld.jobs, fun h => absurd rfl h⟩
    have hend : Lapsing w₀ ctx o m q := hrun.inv (fun _ _ hp hs => hp.step hs) hstart
    have hstock := (hback m (List.mem_singleton_self m)).1
    rw [hend.keys.stock] at hstock
    have := m.quantity_pos
    omega

/-! ## Two runs -/

section Instances

variable (ctx : CreateCtx) (o : OrderId) (metas : List TicketMeta)

/-- The keys and rows of the order are compared. -/
instance (w w' : World) : Decidable (Aside ctx o metas w w') :=
  decidable_of_iff (w.now ≤ w'.now ∧
      (∀ m ∈ metas, stockOf w'.redis m.ticketTypeId = stockOf w.redis m.ticketTypeId) ∧
      (∀ m ∈ metas, userLimitOf w'.redis ctx.userId m.ticketTypeId
        = userLimitOf w.redis ctx.userId m.ticketTypeId) ∧
      w'.redis.reservations o = w.redis.reservations o ∧
      w'.db.findOrder o = w.db.findOrder o ∧ ∀ j ∈ w'.expireJobs, j.1 = o → j ∈ w.expireJobs)
    ⟨fun ⟨h₁, h₂, h₃, h₄, h₅, h₆⟩ => ⟨h₁, h₂, h₃, h₄, h₅, h₆⟩,
      fun h => ⟨h.now, h.stock, h.userLimit, h.record, h.order, h.jobs⟩⟩

/-- The request names its order. -/
instance (r : Request) : Decidable (StartsProcessing o r) :=
  match r with
  | .expireOrder o' => inferInstanceAs (Decidable (o' = o))
  | .verifyStuckPendingPayments => isTrue trivial
  | .createOrder .. | .createPayment .. | .cancelOrder .. | .webhook .. | .ticketIssue ..
  | .updateTicketType .. => isFalse id

/-- A release names its order and type. -/
instance (t : Task) : Decidable (ReleasesApart o metas t) :=
  match t with
  | .releaseReservation _ p => inferInstanceAs
      (Decidable (p.orderId ≠ o → ∀ m ∈ metas, p.ticketTypeId ≠ m.ticketTypeId))
  | .ensureRedisStock .. | .readStockRow .. | .setNxStock .. | .ensureRedisUserLimit ..
  | .readCounterRow .. | .setNxUserLimit .. | .decrementReserved .. | .decrementCounter .. =>
      isTrue trivial

/-- The clock tells whether the record lives. -/
instance (w : World) (ch : Choice) (t : Task) : Decidable (ReleasedInTime o w ch t) :=
  match t with
  | .releaseReservation site p => inferInstanceAs
      (Decidable (p.orderId = o → (∀ e ∈ w.redis.reservations o, w.now < e.expireAt) ∧
        (site = .cron true → ch.fails = false)))
  | .ensureRedisStock .. | .readStockRow .. | .setNxStock .. | .ensureRedisUserLimit ..
  | .readCounterRow .. | .setNxUserLimit .. | .decrementReserved .. | .decrementCounter .. =>
      isTrue trivial

variable (p : Pool World Ask Task Answer) (r : Request) (ch : Choice) (d : Ask) (t : Task)
  (w : World)

/-- A run can be checked for this, step by step. -/
instance : Decidable ((expiring ctx o metas).req p r) :=
  inferInstanceAs (Decidable (StartsProcessing o r))
instance : Decidable ((expiring ctx o metas).ask p ch d) :=
  inferInstanceAs (Decidable (Ask.sets d ≠ some (o, .paid)))
instance : Decidable ((expiring ctx o metas).task p ch t) :=
  inferInstanceAs (Decidable (ReleasesApart o metas t))
instance : Decidable ((expiring ctx o metas).env p w) :=
  inferInstanceAs (Decidable (Aside ctx o metas p.world w))

/-- A run can be checked for this, step by step. -/
instance : Decidable ((inTime ctx o metas).req p r) :=
  inferInstanceAs (Decidable (StartsProcessing o r))
instance : Decidable ((inTime ctx o metas).ask p ch d) :=
  inferInstanceAs (Decidable (Ask.sets d ≠ some (o, .paid)))
instance : Decidable ((inTime ctx o metas).task p ch t) :=
  inferInstanceAs (Decidable (ReleasesApart o metas t ∧ ReleasedInTime o p.world ch t))
instance : Decidable ((inTime ctx o metas).env p w) :=
  inferInstanceAs (Decidable (Aside ctx o metas p.world w))

end Instances

/-- Both counters of every item are compared. -/
instance (w₀ : World) (ctx : CreateCtx) (metas : List TicketMeta) (w : World) :
    Decidable (HoldBack w₀ ctx metas w) :=
  inferInstanceAs (Decidable (∀ m ∈ metas, _ ∧ _))

/-- The end of the witness's run is checked for it. -/
instance (o : OrderId) (p : Pool World Ask Task Answer) : Decidable (Done o p) :=
  inferInstanceAs (Decidable (_ ∧ ∃ row ∈ p.world.db.findOrder o, _))

/-- The sale half a second after user 3 has started to order. -/
def halfASecond : World := { twoTypes with now := 500 }

/-- Nothing of the order is there yet. -/
theorem halfASecond_unused : Unused halfASecond buyer 1 := ⟨rfl, rfl, nofun⟩

/-- The user's order is created and processed by the moves, which `P` judges. -/
theorem exists_processed (G : Guard World Ask Task Answer Choice Request World)
    [∀ p r, Decidable (G.req p r)] [∀ p ch d, Decidable (G.ask p ch d)]
    [∀ p ch t, Decidable (G.task p ch t)] [∀ p e, Decidable (G.env p e)]
    (moves : World → List (Action Choice Request World))
    (P : Pool World Ask Task Answer → Prop) [DecidablePred P]
    (h : (backend.turns halfASecond (awaitReserve buyer 1 (started [oneMeta 1]))
      (List.replicate 7 (0, {}))).any (fun x => decide
        ((x.2.2.answer.any fun a => match a with | .orderCreated o _ => decide (o = 1) | _ => false)
            = true ∧
          (beside.exec G ⟨x.2.1, []⟩ (moves x.2.1)).any (fun q => decide (P q)) = true)) = true) :
    ∃ w₁ q, Created halfASecond buyer 1 [oneMeta 1] w₁ ∧ beside.Run G ⟨w₁, []⟩ q ∧ P q := by
  obtain ⟨tr, w₁, prog, hrun, hanswer, hmoves⟩ := exists_alone _ _ h
  obtain ⟨q, hq, hP⟩ := exists_run _ _ hmoves
  refine ⟨w₁, q, ?_, hq, hP⟩
  cases hans : prog.answer with
  | none => simp [hans] at hanswer
  | some a =>
      cases Prog.answer_eq hans
      simp only [Prog.answer, Option.any_some] at hanswer
      cases a with
      | orderCreated o url =>
          obtain rfl := of_decide_eq_true hanswer
          exact ⟨tr, url, hrun⟩
      | _ => cases hanswer

/-- Six moves of the cron, 100 ms after the payment window: it expires order 1. -/
def cronMoves (w : World) : List (Action Choice Request World) :=
  [.env (tick 899600 w), .start .verifyStuckPendingPayments, .step 0 0 { picked := [1] }]
    ++ List.replicate 5 (.step 0 0 {})

/-- The moves of the expiry job, at the time it is due. -/
def jobMoves (w : World) : List (Action Choice Request World) :=
  [.env (tick 900000 w), .start (.expireOrder 1)] ++ List.replicate 8 (.step 0 0 {})

/-- Between the end of the payment window and the end of the record the cron gives back. -/
theorem expired_hold_returned_byCron :
    ∃ w₁ q, beside.Run (inTime buyer 1 [oneMeta 1]) ⟨w₁, []⟩ q ∧ Done 1 q ∧
      HoldBack halfASecond buyer [oneMeta 1] q.world := by
  obtain ⟨w₁, q, hcreated, hrun, hdone⟩ :=
    exists_processed (inTime buyer 1 [oneMeta 1]) cronMoves (Done 1) (by decide +kernel)
  refine ⟨w₁, q, hrun, hdone, ?_⟩
  exact ((expired_hold_returned halfASecond_unused hcreated).1 q hrun hdone).mpr (by decide)

/-- The expiry job finds the record gone: the order is EXPIRED, its ticket still taken. -/
theorem expired_hold_kept :
    ∃ w₁ q, Created halfASecond buyer 1 [oneMeta 1] w₁ ∧
      beside.Run (expiring buyer 1 [oneMeta 1]) ⟨w₁, []⟩ q ∧ Done 1 q ∧
      ¬ HoldBack halfASecond buyer [oneMeta 1] q.world := by
  obtain ⟨w₁, q, hcreated, hrun, hdone, hkept⟩ :=
    exists_processed (expiring buyer 1 [oneMeta 1]) jobMoves
      (fun q => Done 1 q ∧ ¬ HoldBack halfASecond buyer [oneMeta 1] q.world) (by decide +kernel)
  exact ⟨w₁, q, hcreated, hrun, hdone, hkept⟩

end TicketBackend
