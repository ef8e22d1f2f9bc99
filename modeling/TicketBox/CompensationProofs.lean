import TicketBox.BookingSteps
import TicketBox.ReserveProofs

/-! # What a rejected createOrder leaves in the database

    The order row is written before the inventory is booked and the gateway is
    asked, and a catch block deletes it when one of these fails.  `OrderItem` refers
    to its order with `ON DELETE RESTRICT`, so the delete is refused whenever the
    request has an item: in the catch block of the inventory the refusal is
    swallowed, in that of the gateway it replaces the gateway's error.  All or
    nothing is kept for requests without items (`create_all_or_nothing`). -/

namespace TicketBackend

open Interleave TicketStore TicketRedis TicketDb TicketFlow TicketOrder TicketPayment

/-! ## What the catch blocks leave -/

/-- Nobody else runs, and what a catch block calls does not throw by itself. -/
def undoing : Condition where
  req := fun _ _ => False
  ask := fun _ ch d => (Ask.deletes d).isSome → ch.fails = false
  task := fun _ ch _ => ch.fails = false
  env := fun _ _ => True

/-- createOrder has just written its order row. -/
def inserted (w : World) (ctx : CreateCtx) (o : OrderId) (metas : List TicketMeta) (db : Db) :
    State :=
  ⟨{ w with db := db }, [.ask (.syncInventory ctx o metas)]⟩

/-- The catch block that a failed step enters with its error. -/
inductive Caught (ctx : CreateCtx) (o : OrderId) (metas : List TicketMeta) (e : ApiError) :
    Op → Prop where
  | inventory : Caught ctx o metas e (inventoryRollback ctx o metas e)
  | gateway : Caught ctx o metas e (gatewayRollback ctx o metas e)

/-- Nothing of the request is left: neither its order row, which holds its items, nor
    what it booked. -/
structure Undone (o : OrderId) (db db' : Db) : Prop where
  order : db'.findOrder o = none
  types : ∀ t, db'.reservedQty t = db.reservedQty t
  counters : ∀ u t, db'.counterReserved u t = db.counterReserved u t

/-- Whichever step fails behind the order row, a rejection leaves nothing and reports
    that step's error. -/
def AllOrNothing (w : World) (ctx : CreateCtx) (o : OrderId) (metas : List TicketMeta) (db : Db) :
    Prop :=
  ∀ p prog e, backend.Run undoing (inserted w ctx o metas db) p → p.ops[0]? = some prog →
    Caught ctx o metas e prog → ∀ q e', backend.Run undoing p q →
      q.ops[0]? = some (.ret (.error e')) → Undone o w.db q.world.db ∧ e' = e

/-- The foreign keys of `PaymentTransaction` and `Ticket` to their orders. -/
def Referred (db : Db) : Prop :=
  (∀ p ∈ db.payments, (db.findOrder p.orderId).isSome) ∧
    ∀ k ∈ db.tickets, (db.findOrder k.orderId).isSome

variable {w : World} {ctx : CreateCtx} {o : OrderId} {metas : List TicketMeta} {db : Db}

/-! ## An order with items stays -/

/-- **The order row stays**, whatever fails and whoever else is at work. -/
theorem order_stays (hne : metas ≠ []) (hins : insertOrder (newOrder ctx o metas) w.db = some db)
    {G : Condition} {p : State} (hrun : backend.Run G (inserted w ctx o metas db) p) :
    ∃ row, p.world.db.findOrder o = some row ∧ SameContent (newOrder ctx o metas) row := by
  have hitems : ∀ row, SameContent (newOrder ctx o metas) row → row.items ≠ [] := by
    intro row hrow hnil
    rw [hrow.items] at hnil
    exact hne (by simpa [newOrder, orderItems] using hnil)
  refine hrun.inv (I := fun p => ∃ row, p.world.db.findOrder o = some row ∧
    SameContent (newOrder ctx o metas) row) ?_
    ⟨_, findOrder_inserted hins, SameContent.refl _⟩
  intro p q hp hstep
  refine hstep.world (I := fun w => ∃ row, w.db.findOrder o = some row ∧
    SameContent (newOrder ctx o metas) row) hp ?_ ?_ ?_
  · intro ch d w' prog _ _ hd
    obtain ⟨row, hrow, hsame⟩ := hp
    obtain ⟨row', hrow', hsame', -⟩ :=
      (asked_orders (dispatch_asked hd)).found hrow (.inl (hitems row hsame))
    exact ⟨row', hrow', hsame.trans hsame'⟩
  · intro ch t w' res _ _ hperf
    obtain ⟨row, hrow, hsame⟩ := hp
    refine ⟨row, ?_, hsame⟩
    rw [Db.findOrder, (performed_orders (perform_performed hperf)).1]
    exact hrow
  · exact fun ms _ => hp

/-- A batch of releases runs to its end and leaves the database alone. -/
theorem exists_releases (ts : List Task) :
    (∀ t ∈ ts, ∃ site p, t = .releaseReservation site p) → ∀ (w : World) (h rest : Op),
      ∃ w', backend.Run undoing ⟨w, [.par ts h rest]⟩ ⟨w', [rest]⟩ ∧ w'.db = w.db := by
  induction ts with
  | nil =>
      intro _ w h rest
      exact ⟨w, System.Run.head (.step 0 0 {}) trivial rfl (System.Run.refl _), rfl⟩
  | cons t ts ih =>
      intro hts w h rest
      obtain ⟨site, p, rfl⟩ := hts t List.mem_cons_self
      obtain ⟨w', hrun, hdb⟩ := ih (fun t ht => hts t (List.mem_cons_of_mem _ ht))
        { w with redis := (releaseReservation p w.now w.redis).1 } h rest
      exact ⟨w', System.Run.head (.step 0 0 {}) rfl rfl hrun, hdb⟩

/-- The inventory transaction fails, and createOrder runs through its catch block to the
    rejection. -/
theorem exists_rejection (w : World) (ctx : CreateCtx) (o : OrderId) (metas : List TicketMeta)
    (db : Db) :
    ∃ p prog q, backend.Run undoing (inserted w ctx o metas db) p ∧ p.ops[0]? = some prog ∧
      Caught ctx o metas failedToCreate prog ∧ backend.Run undoing p q ∧
      q.ops[0]? = some (.ret (.error failedToCreate)) := by
  have hreleases : ∀ t ∈ metaReleases .inventoryFailed ctx o metas,
      ∃ site p, t = .releaseReservation site p := by
    intro t ht
    obtain ⟨m, -, rfl⟩ := List.mem_map.mp ht
    exact ⟨_, _, rfl⟩
  obtain ⟨w', hbatch, -⟩ := exists_releases _ hreleases { w with db := db } thrown
    (.ask (.deleteOrderQuietly o failedToCreate))
  have hdelete : (TicketOrder.deleteOrderQuietly o failedToCreate {} w').2
      = .ret (.error failedToCreate) := by
    simp only [TicketOrder.deleteOrderQuietly]
    split
    · rfl
    · split <;> rfl
  have hfailed : backend.Run undoing (inserted w ctx o metas db)
      ⟨{ w with db := db }, [inventoryRollback ctx o metas failedToCreate]⟩ :=
    System.Run.head (.step 0 0 { fails := true }) (by rintro ⟨⟩) rfl (System.Run.refl _)
  have hrejected : backend.Run undoing ⟨w', [.ask (.deleteOrderQuietly o failedToCreate)]⟩
      ⟨(TicketOrder.deleteOrderQuietly o failedToCreate {} w').1,
        [(TicketOrder.deleteOrderQuietly o failedToCreate {} w').2]⟩ :=
    System.Run.head (.step 0 0 {}) (fun _ => rfl) rfl (System.Run.refl _)
  rw [hdelete] at hrejected
  exact ⟨_, _, _, hfailed, rfl, .inventory, hbatch.trans hrejected, rfl⟩

/-! ## A request without items -/

/-- A program that has only the delete of the order row before it, and then the error. -/
inductive Rolls (o : OrderId) (e : ApiError) : Op → Prop where
  | quietly : Rolls o e (.ask (.deleteOrderQuietly o e))
  | loudly : Rolls o e (.ask (.deleteOrder o e))
  | settling (h rest : Op) : Rolls o e rest → Rolls o e (.par [] h rest)

/-- Where a createOrder call without items can be; `db` is what its insert left. -/
inductive Bare (db : Db) (ctx : CreateCtx) (o : OrderId) (w : World) : Op → Prop where
  | booking : w.db = db → Bare db ctx o w (.ask (.syncInventory ctx o []))
  | paying (d : Ask) :
      Ask.paying d = some (ctx, o, []) → w.db = db → Bare db ctx o w (.ask d)
  | rolling (e : ApiError) (prog : Op) : Rolls o e prog → w.db = db → Bare db ctx o w prog
  | queueing (url : String) : Bare db ctx o w (.ask (.scheduleExpiry ctx o url))
  | ended (a : Answer) : Bare db ctx o w (.ret a)

/-- The catch block with nothing to release. -/
theorem rolls_of_caught {e : ApiError} {prog : Op} (h : Caught ctx o [] e prog) :
    Rolls o e prog := by
  cases h with
  | inventory => exact .settling _ _ .quietly
  | gateway => exact .settling _ _ (.settling _ _ .loudly)

/-- A call of createOrder goes on to the next stage. -/
theorem Bare.asked {ch : Choice} {w' : World} {d : Ask} {prog : Op}
    (h : Bare db ctx o w (.ask d)) (hd : dispatch ch w d = some (w', prog)) :
    Bare db ctx o w' prog := by
  cases h with
  | booking hdb =>
      cases bookingStep_of_dispatch .syncInventory hd with
      | synced db' hsync =>
          cases hsync
          exact .paying _ rfl hdb
      | syncFailed e => exact .rolling e _ (rolls_of_caught .inventory) hdb
      | paying _ d' hpay _ => cases hpay
      | payingFailed _ e hpay => cases hpay
      | paid _ payments url hpay => cases hpay
  | paying _ hpay hdb =>
      cases bookingStep_of_dispatch (.paying d hpay) hd with
      | persisted db' _ => cases hpay
      | persistFailed => cases hpay
      | synced db' _ => cases hpay
      | syncFailed e => cases hpay
      | paying _ d' _ hpay' => exact .paying d' hpay' hdb
      | payingFailed _ e _ => exact .rolling e _ (rolls_of_caught .gateway) hdb
      | paid _ payments url _ => exact .queueing url
      | scheduled url => cases hpay
      | scheduleFailed url => cases hpay
  | rolling e _ hrolls hdb =>
      obtain ⟨e', rfl⟩ : ∃ e', prog = .ret (.error e') := by
        cases hrolls with
        | quietly => exact deletes_ends rfl hd
        | loudly => exact deletes_ends rfl hd
      exact .ended _
  | queueing url =>
      have hbooks : Books ctx o [] (.scheduleExpiry ctx o url) := .scheduleExpiry url
      cases bookingStep_of_dispatch hbooks hd with
      | paying _ d' hpay _ => cases hpay
      | payingFailed _ e hpay => cases hpay
      | paid _ payments url hpay => cases hpay
      | scheduled _ => exact .ended _
      | scheduleFailed _ => exact .ended _

/-- What an operation that runs by itself does in one step, where its batches are empty. -/
theorem step_single {G : Condition} (hreq : ∀ p r, ¬ G.req p r) {p q : State} {prog : Op}
    (hp : p.ops = [prog]) (hbatch : ∀ t ts h rest, prog ≠ .par (t :: ts) h rest)
    (hs : backend.Step G p q) :
    (∃ ch d w' prog', prog = .ask d ∧ G.ask p ch d ∧ dispatch ch p.world d = some (w', prog') ∧
        q = ⟨w', [prog']⟩) ∨
      (∃ h rest, prog = .par [] h rest ∧ q = ⟨p.world, [rest]⟩) ∨
      ∃ ms, q = ⟨tick ms p.world, [prog]⟩ := by
  have honly : ∀ {i : Nat} {prog' : Op}, p.ops[i]? = some prog' → i = 0 ∧ prog' = prog := by
    intro i prog' hi
    rw [hp] at hi
    cases i with
    | zero =>
        cases hi
        exact ⟨rfl, rfl⟩
    | succ i => cases hi
  have hempty : ∀ {i k : Nat} {ts : List Task} {t : Task} {h rest : Op},
      p.ops[i]? = some (.par ts h rest) → ts[k]? = some t → False := by
    intro i k ts t h rest hi hk
    obtain ⟨-, rfl⟩ := honly hi
    cases ts with
    | nil => cases hk
    | cons t' ts => exact hbatch t' ts h rest rfl
  cases hs with
  | started r _ hr _ => exact absurd hr (hreq p r)
  | asked i ch d w' prog' hi hg hd =>
      obtain ⟨rfl, rfl⟩ := honly hi
      exact .inl ⟨ch, d, w', prog', rfl, hg, hd, by rw [hp]; rfl⟩
  | settled i h rest hi =>
      obtain ⟨rfl, rfl⟩ := honly hi
      exact .inr (.inl ⟨h, rest, rfl, by rw [hp]; rfl⟩)
  | resolved i k ch ts t h rest w' hi hk _ _ => exact (hempty hi hk).elim
  | wentOn i k ch ts t t' h rest w' hi hk _ _ => exact (hempty hi hk).elim
  | threw i k ch ts t h rest w' hi hk _ _ => exact (hempty hi hk).elim
  | moved ms _ => exact .inr (.inr ⟨ms, by rw [← hp]; rfl⟩)

/-- What is left of it starts no batch. -/
theorem Rolls.no_batch {e : ApiError} {prog : Op} (h : Rolls o e prog) (t : Task) (ts : List Task)
    (hh rest : Op) : prog ≠ .par (t :: ts) hh rest := by
  cases h with
  | quietly => exact nofun
  | loudly => exact nofun
  | settling _ _ _ => exact nofun

/-- A createOrder of no items starts no batch. -/
theorem Bare.no_batch {prog : Op} (h : Bare db ctx o w prog) (t : Task) (ts : List Task)
    (hh rest : Op) : prog ≠ .par (t :: ts) hh rest := by
  cases h with
  | rolling e _ hrolls _ => exact hrolls.no_batch t ts hh rest
  | _ => exact nofun

/-- A call without items is in one of its stages. -/
theorem Bare.of_run {p : State} (hrun : backend.Run undoing (inserted w ctx o [] db) p) :
    ∃ prog, p.ops = [prog] ∧ Bare db ctx o p.world prog := by
  refine hrun.inv (I := fun p => ∃ prog, p.ops = [prog] ∧ Bare db ctx o p.world prog) ?_
    ⟨_, rfl, .booking rfl⟩
  rintro p q ⟨prog, hp, hbare⟩ hstep
  rcases step_single (fun _ _ => id) hp hbare.no_batch hstep with
    ⟨ch, d, w', prog', rfl, -, hd, rfl⟩ | ⟨h, rest, rfl, rfl⟩ | ⟨ms, rfl⟩
  · exact ⟨prog', rfl, hbare.asked hd⟩
  · refine ⟨rest, rfl, ?_⟩
    cases hbare with
    | rolling e _ hrolls hdb =>
        cases hrolls with
        | settling _ _ hrest => exact .rolling e rest hrest hdb
  · refine ⟨prog, rfl, ?_⟩
    cases hbare with
    | booking hdb => exact .booking hdb
    | paying d hpay hdb => exact .paying d hpay hdb
    | rolling e _ hrolls hdb => exact .rolling e _ hrolls hdb
    | queueing url => exact .queueing url
    | ended a => exact .ended a

/-- The foreign keys let an order without items go. -/
theorem deleteOrder_inserted (hrefs : Referred w.db)
    (hins : insertOrder (newOrder ctx o []) w.db = some db) :
    ∃ db', TicketDb.deleteOrder o db = .ok db' ∧ Undone o w.db db' := by
  have hrow : db.findOrder o = some (newOrder ctx o []) := findOrder_inserted hins
  obtain ⟨rfl, hnone⟩ := insertOrder_eq hins
  have hfree : ∀ o', (w.db.findOrder o').isSome → o' ≠ o := by
    rintro o' hsome rfl
    rw [show w.db.findOrder o' = none from hnone] at hsome
    cases hsome
  refine ⟨{ w.db with orders := RowTable.remove Order.id o (w.db.orders ++ [newOrder ctx o []]) },
    ?_, ⟨RowTable.lookup_remove_self, fun _ => rfl, fun _ _ => rfl⟩⟩
  simp only [TicketDb.deleteOrder, hrow]
  refine if_neg ?_
  rintro (hitems | ⟨p, hp, hpo⟩ | ⟨k, hk, hko⟩)
  · exact hitems rfl
  · exact hfree _ (hrefs.1 p hp) hpo
  · exact hfree _ (hrefs.2 k hk) hko

/-- From its catch block a call without items deletes its order row and rejects with the
    error it has caught. -/
theorem undone_of_rolls (hrefs : Referred w.db)
    (hins : insertOrder (newOrder ctx o []) w.db = some db) {e : ApiError} {p q : State} {prog : Op}
    (hp : p.ops = [prog]) (hrolls : Rolls o e prog) (hdb : p.world.db = db)
    (hrun : backend.Run undoing p q) :
    ∃ prog', q.ops = [prog'] ∧ (Rolls o e prog' ∧ q.world.db = db ∨
      prog' = .ret (.error e) ∧ Undone o w.db q.world.db) := by
  obtain ⟨db', hdelete, hundone⟩ := deleteOrder_inserted hrefs hins
  refine hrun.inv (I := fun q => ∃ prog', q.ops = [prog'] ∧
    (Rolls o e prog' ∧ q.world.db = db ∨ prog' = .ret (.error e) ∧ Undone o w.db q.world.db)) ?_
    ⟨prog, hp, .inl ⟨hrolls, hdb⟩⟩
  rintro p q ⟨prog, hp, ⟨hrolls, hdb⟩ | ⟨rfl, hundone⟩⟩ hstep
  · rcases step_single (fun _ _ => id) hp hrolls.no_batch hstep with
      ⟨ch, d, w', prog', rfl, hcalm, hd, rfl⟩ | ⟨h, rest, rfl, rfl⟩ | ⟨ms, rfl⟩
    · refine ⟨prog', rfl, .inr ?_⟩
      cases hrolls with
      | quietly =>
          have hf : ch.fails = false := hcalm rfl
          simp only [dispatch, TicketOrder.deleteOrderQuietly, hf, hdb, hdelete] at hd
          cases hd
          exact ⟨rfl, hundone⟩
      | loudly =>
          have hf : ch.fails = false := hcalm rfl
          simp only [dispatch, TicketOrder.deleteOrder, hf, hdb, hdelete] at hd
          cases hd
          exact ⟨rfl, hundone⟩
    · refine ⟨rest, rfl, .inl ?_⟩
      cases hrolls with
      | settling _ _ hrest => exact ⟨hrest, hdb⟩
    · exact ⟨prog, rfl, .inl ⟨hrolls, hdb⟩⟩
  · rcases step_single (fun _ _ => id) hp (by intro t ts h rest he; cases he) hstep with
      ⟨_, _, _, _, hd, -⟩ | ⟨_, _, hpar, -⟩ | ⟨ms, rfl⟩
    · cases hd
    · cases hpar
    · exact ⟨_, rfl, .inr ⟨rfl, hundone⟩⟩

/-- **All or nothing on the database** holds of the requests without items, and of no
    other. -/
theorem create_all_or_nothing (hrefs : Referred w.db)
    (hins : insertOrder (newOrder ctx o metas) w.db = some db) :
    AllOrNothing w ctx o metas db ↔ metas = [] := by
  constructor
  · intro hall
    by_contra hne
    obtain ⟨p, prog, q, hp, hprog, hcaught, hq, hret⟩ := exists_rejection w ctx o metas db
    obtain ⟨hundone, -⟩ := hall p prog _ hp hprog hcaught q _ hq hret
    obtain ⟨row, hrow, -⟩ := order_stays hne hins (hp.trans hq)
    rw [hundone.order] at hrow
    cases hrow
  · rintro rfl p prog e hp hprog hcaught q e' hq hret
    obtain ⟨prog₁, hops, hbare⟩ := Bare.of_run hp
    have hrolls := rolls_of_caught hcaught
    rw [hops] at hprog
    cases hprog
    have hdb : p.world.db = db := by
      cases hbare with
      | rolling _ _ _ hdb => exact hdb
      | booking hdb => exact hdb
      | paying _ _ hdb => exact hdb
      | queueing url => cases hrolls
      | ended a => cases hrolls
    obtain ⟨prog', hops', hend⟩ := undone_of_rolls hrefs hins hops hrolls hdb hq
    rw [hops'] at hret
    cases hret
    rcases hend with ⟨hrolls', -⟩ | ⟨heq, hundone⟩
    · cases hrolls'
    · cases heq
      exact ⟨hundone, rfl⟩

/-! ### The two catch blocks -/

/-- An order of no items is created or leaves nothing. -/
theorem create_all_or_nothing_empty :
    ∃ db, insertOrder (newOrder buyer 1 []) (shop []).world.db = some db ∧
      AllOrNothing (shop []).world buyer 1 [] db := by
  have hrefs : Referred (shop []).world.db := ⟨fun p hp => (List.not_mem_nil hp).elim,
    fun k hk => (List.not_mem_nil hk).elim⟩
  exact ⟨_, rfl, (create_all_or_nothing hrefs rfl).mpr rfl⟩

/-- A run can be checked for this, step by step. -/
instance (p : State) (ch : Choice) (d : Ask) : Decidable (undoing.ask p ch d) :=
  inferInstanceAs (Decidable ((Ask.deletes d).isSome → ch.fails = false))
instance (p : State) (ch : Choice) (t : Task) : Decidable (undoing.task p ch t) :=
  inferInstanceAs (Decidable (ch.fails = false))
instance (p : State) (r : Request) : Decidable (undoing.req p r) :=
  inferInstanceAs (Decidable False)
instance (p : State) (ms : Nat) : Decidable (undoing.env p ms) :=
  inferInstanceAs (Decidable True)

/-- The order row of one ticket, in a sale of one type with `total` tickets. -/
def oneOrdered (total : Nat) : Db :=
  { (shop [onSale 1 total 2]).world.db with orders := [newOrder buyer 1 [oneMeta 1]] }

/-- What is left of a catch block that runs to its rejection. -/
theorem exists_left {p : State} (bs : List Move) (e : ApiError)
    (h : (backend.exec undoing p bs).any (fun q => decide
      (q.ops[0]?.bind Prog.answer = some (.error e) ∧ (q.world.db.findOrder 1).isSome)) = true) :
    ∃ q, backend.Run undoing p q ∧ q.ops[0]? = some (.ret (.error e)) ∧
      (q.world.db.findOrder 1).isSome := by
  obtain ⟨q, hrun, hanswer, hrow⟩ := exists_run bs _ h
  obtain ⟨prog, hprog, hret⟩ := Option.bind_eq_some_iff.mp hanswer
  rw [Prog.answer_eq hret] at hprog
  exact ⟨q, hrun, hprog, hrow⟩

/-- The guarded update matches no row: the order row stays.  The gateway fails: the order
    row stays, and the rejection reports the foreign key. -/
theorem order_left_behind :
    insertOrder (newOrder buyer 1 [oneMeta 1]) (shop [onSale 1 0 2]).world.db
        = some (oneOrdered 0) ∧
    (∃ p prog e q, backend.Run undoing (inserted (shop [onSale 1 0 2]).world buyer 1 [oneMeta 1]
        (oneOrdered 0)) p ∧ p.ops[0]? = some prog ∧ Caught buyer 1 [oneMeta 1] e prog ∧
      backend.Run undoing p q ∧ q.ops[0]? = some (.ret (.error e)) ∧
      (q.world.db.findOrder 1).isSome) ∧
    insertOrder (newOrder buyer 1 [oneMeta 1]) (shop [onSale 1 5 2]).world.db
        = some (oneOrdered 5) ∧
    ∃ p prog e q e', backend.Run undoing (inserted (shop [onSale 1 5 2]).world buyer 1 [oneMeta 1]
        (oneOrdered 5)) p ∧ p.ops[0]? = some prog ∧ Caught buyer 1 [oneMeta 1] e prog ∧
      backend.Run undoing p q ∧ q.ops[0]? = some (.ret (.error e')) ∧
      (q.world.db.findOrder 1).isSome ∧ e' ≠ e := by
  refine ⟨rfl, ?_, rfl, ?_⟩
  · obtain ⟨q, hrun, hret, hrow⟩ := exists_left (p := ⟨{ (shop [onSale 1 0 2]).world with
        db := oneOrdered 0 }, [inventoryRollback buyer 1 [oneMeta 1]
          (.unprocessable "Not enough tickets available for ticket type \"1\"")]⟩)
      (steps 0 3) (.unprocessable "Not enough tickets available for ticket type \"1\"")
      (by decide +kernel)
    exact ⟨_, _, _, q, System.Run.head (.step 0 0 {}) (fun _ => rfl) rfl (System.Run.refl _), rfl,
      .inventory, hrun, hret, hrow⟩
  · let w := { (shop [onSale 1 5 2]).world with db := oneOrdered 5 }
    obtain ⟨q, hrun, hret, hrow⟩ := exists_left
      (p := ⟨(TicketOrder.syncInventory buyer 1 [oneMeta 1] {} w).1,
        [gatewayRollback buyer 1 [oneMeta 1]
          (.serviceUnavailable "Cổng thanh toán đang tạm gián đoạn, vui lòng thử lại sau")]⟩)
      (steps 0 6) .foreignKey (by decide +kernel)
    exact ⟨_, _, _, q, _, System.Run.head (.step 0 0 {}) (fun _ => rfl) rfl
      (System.Run.head (.step 0 0 {}) (fun _ => rfl) rfl
        (System.Run.head (.step 0 0 { fails := true }) (by rintro ⟨⟩) rfl (System.Run.refl _))),
      rfl, .gateway, hrun, hret, hrow, by decide⟩

end TicketBackend
