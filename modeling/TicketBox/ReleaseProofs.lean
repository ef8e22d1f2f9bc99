import TicketBox.Alone
import TicketBox.DbEffects
import TicketBox.System

/-! # The releasing paths, each by itself

    `cancelOrder`, `expireOrder`, the FAILED webhook and the cron give back what a
    pending order holds: in parallel or one item after the other, with plain or
    guarded decrements, before or after the status is written.  Run alone on an
    order whose counters cover it, each has one outcome, `settle`, and the four
    outcomes differ in how the order's row and the payments say why. -/

namespace TicketBackend

open Interleave TicketStore TicketRedis TicketDb TicketFlow TicketOrder TicketPayment

/-- No call throws. -/
def Calm (ch : Choice) : Prop := ch.fails = false

instance : DecidablePred Calm := fun ch => inferInstanceAs (Decidable (ch.fails = false))

/-- A call may succeed. -/
theorem exists_calm : ∃ ch, Calm ch := ⟨{}, rfl⟩

/-! ## What is given back -/

/-- `TicketType.reservedQty`, with the items of an order given back. -/
def giveBackTypes (items : List OrderItem) (db : Db) : Db :=
  { db with
    ticketTypes := db.ticketTypes.map fun r =>
      { r with reservedQty := r.reservedQty - qtyOf items r.id } }

/-- `UserTicketCounter.reservedQty`, with the items of an order given back. -/
def giveBackCounters (u : UserId) (items : List OrderItem) (db : Db) : Db :=
  { db with
    counters := fun k => (db.counters k).map fun c =>
      { c with reservedQty := c.reservedQty - if k.1 = u then qtyOf items k.2 else 0 } }

/-- The parameters of the `releaseReservation` call for an item. -/
def releaseParams (order : Order) (i : OrderItem) : ReleaseParams where
  ticketTypeId := i.ticketTypeId
  userId := order.userId
  orderId := order.id
  quantity := i.quantity
  quantity_pos := i.quantity_pos

/-- The Redis keys, with every item of an order released. -/
def releaseKeys (order : Order) (now : Nat) (r : Redis) : Redis :=
  order.items.foldl (fun r i => (releaseReservation (releaseParams order i) now r).1) r

/-- The row of an order whose counters one decrement lowered. -/
theorem giveBackTypes_cons (i : OrderItem) (items : List OrderItem) (db : Db) :
    giveBackTypes items (bumpType i.ticketTypeId 0 (-i.quantity) db)
      = giveBackTypes (i :: items) db := by
  simp only [giveBackTypes, bumpType, RowTable.modify, List.map_map]
  congr 1
  refine List.map_congr_left fun r _ => ?_
  by_cases h : r.id = i.ticketTypeId
  · simp only [Function.comp_apply, if_pos h, qtyOf_cons, if_pos h.symm, add_zero]
    congr 1
    omega
  · simp only [Function.comp_apply, if_neg h, qtyOf_cons, if_neg (Ne.symm h), zero_add]

/-- One decrement of a counter row, if there is one. -/
def lowerCounter (u : UserId) (t : TicketTypeId) (q : Int) (db : Db) : Db :=
  { db with
    counters := fun k => (db.counters k).map fun c =>
      { c with reservedQty := c.reservedQty - if k = (u, t) then q else 0 } }

/-- The decrement of a counter that is there. -/
theorem decrementCounter_eq {u : UserId} {t : TicketTypeId} {q : Int} {db : Db}
    (h : (db.counters (u, t)).isSome) :
    decrementCounter u t q db = some (lowerCounter u t q db) := by
  obtain ⟨c, hc⟩ := Option.isSome_iff_exists.mp h
  simp only [decrementCounter, hc, Option.map_some, putCounter, lowerCounter]
  congr 2
  funext k
  by_cases hk : k = (u, t)
  · subst hk
    simp [hc]
  · simp [hk]

/-- The first item and the rest. -/
theorem giveBackCounters_cons (u : UserId) (i : OrderItem) (items : List OrderItem) (db : Db) :
    giveBackCounters u items (lowerCounter u i.ticketTypeId i.quantity db)
      = giveBackCounters u (i :: items) db := by
  simp only [giveBackCounters, lowerCounter]
  congr 1
  funext ⟨u', t⟩
  rw [Option.map_map]
  congr 1
  funext c
  simp only [Function.comp_apply, Prod.mk.injEq, qtyOf_cons]
  congr 1
  by_cases hu : u' = u
  · by_cases ht : t = i.ticketTypeId
    · simp only [hu, ht, and_self, if_pos]
      omega
    · simp only [hu, ht, and_false, if_false, if_pos, if_neg (Ne.symm ht)]
      omega
  · simp only [hu, false_and, if_false]
    omega

/-! ### The guarded loop -/

/-- A guarded release where the item fits is unguarded. -/
theorem releaseGuarded_eq {u : UserId} {i : OrderItem} {items : List OrderItem} {db : Db}
    (h : Fits u (i :: items) db) :
    releaseGuarded u i.ticketTypeId i.quantity db
      = lowerCounter u i.ticketTypeId i.quantity
          (bumpType i.ticketTypeId 0 (-i.quantity) db) := by
  obtain ⟨htype, hcounter⟩ := h.head
  have hpos := i.quantity_pos
  obtain ⟨row, hrow⟩ :=
    Option.isSome_iff_exists.mp (findTicketType_isSome_of_pos (lt_of_lt_of_le hpos htype))
  have hsome := counters_isSome_of_pos (lt_of_lt_of_le hpos hcounter)
  obtain ⟨c, hc⟩ := Option.isSome_iff_exists.mp hsome
  rw [counterReserved_of_some hc] at hcounter
  simp only [Db.reservedQty, hrow, Option.map_some, Option.getD_some] at htype
  have hbump : (bumpType i.ticketTypeId 0 (-i.quantity) db).counters = db.counters := rfl
  have hdec := decrementCounter_eq (q := i.quantity)
    (show ((bumpType i.ticketTypeId 0 (-i.quantity) db).counters (u, i.ticketTypeId)).isSome
      from hsome)
  simp only [decrementCounter, hbump, hc, Option.map_some, Option.some.injEq] at hdec
  simp only [releaseGuarded, releaseType, hrow, if_pos htype, releaseCounter, hbump, hc,
    if_pos hcounter]
  exact hdec

/-- With every guard matched, the loop lowers every row by what the items ask for. -/
theorem releaseAllGuarded_eq {u : UserId} {items : List OrderItem} {db : Db}
    (h : Fits u items db) :
    releaseAllGuarded u items db = giveBackCounters u items (giveBackTypes items db) := by
  induction items generalizing db with
  | nil => simp [releaseAllGuarded, giveBackCounters, giveBackTypes]
  | cons i items ih =>
      rw [releaseAllGuarded, ih h.tail, releaseGuarded_eq h, ← giveBackCounters_cons,
        ← giveBackTypes_cons]
      rfl

/-! ## The batches of one order -/

/-- What a release or a decrement does to the store. -/
def giveBack : Task → World → World
  | .releaseReservation _ p, w => { w with redis := (releaseReservation p w.now w.redis).1 }
  | .decrementReserved t q _, w => { w with db := bumpType t 0 (-q) w.db }
  | .decrementCounter u t q _, w => { w with db := lowerCounter u t q w.db }
  | _, w => w

/-- The releases and decrements that cancelOrder and expireOrder batch for an order. -/
inductive GivesBack (order : Order) : Task → Prop where
  | release (site : ReleaseSite) (i : OrderItem) :
      GivesBack order (.releaseReservation site (releaseParams order i))
  | type (i : OrderItem) :
      i ∈ order.items →
      GivesBack order (.decrementReserved i.ticketTypeId i.quantity i.quantity_pos)
  | counter (i : OrderItem) :
      i ∈ order.items →
      GivesBack order (.decrementCounter order.userId i.ticketTypeId i.quantity i.quantity_pos)

/-- The releases give the order back. -/
theorem givesBack_releases {order : Order} {site : ReleaseSite} :
    ∀ t ∈ releases site order, GivesBack order t := by
  intro t ht
  obtain ⟨i, -, rfl⟩ := List.mem_map.mp ht
  exact .release site i

/-- So do the decrements of its types. -/
theorem givesBack_typeDecrements {order : Order} :
    ∀ t ∈ typeDecrements order, GivesBack order t := by
  intro t ht
  obtain ⟨i, hi, rfl⟩ := List.mem_map.mp ht
  exact .type i hi

/-- So do the decrements of its counters. -/
theorem givesBack_counterDecrements {order : Order} :
    ∀ t ∈ counterDecrements order, GivesBack order t := by
  intro t ht
  obtain ⟨i, hi, rfl⟩ := List.mem_map.mp ht
  exact .counter i hi

/-- An item asks for no more than all items of its type. -/
theorem quantity_le_qtyOf {i : OrderItem} {items : List OrderItem} (hi : i ∈ items) :
    i.quantity ≤ qtyOf items i.ticketTypeId := by
  induction items with
  | nil => cases hi
  | cons j items ih =>
      have hpos := j.quantity_pos
      have hrest := qtyOf_nonneg items i.ticketTypeId
      rw [qtyOf_cons]
      rcases List.mem_cons.mp hi with rfl | hi
      · rw [if_pos rfl]
        omega
      · have := ih hi
        split <;> omega

/-- The rows that the decrements of an order update are there. -/
def HasRows (order : Order) (w : World) : Prop :=
  ∀ i ∈ order.items, (w.db.findTicketType i.ticketTypeId).isSome ∧
    (w.db.counters (order.userId, i.ticketTypeId)).isSome

/-- Where the items fit, the rows are there. -/
theorem HasRows.of_fits {order : Order} {w : World} (h : Fits order.userId order.items w.db) :
    HasRows order w := by
  intro i hi
  have hpos := i.quantity_pos
  obtain ⟨htype, hcounter⟩ := h i hi
  have hle := quantity_le_qtyOf hi
  exact ⟨findTicketType_isSome_of_pos (by omega), counters_isSome_of_pos (by omega)⟩

/-- Giving back removes no row. -/
theorem HasRows.giveBack {order : Order} {w : World} (h : HasRows order w) (t : Task) :
    HasRows order (giveBack t w) := by
  intro i hi
  obtain ⟨htype, hcounter⟩ := h i hi
  cases t with
  | decrementReserved t q pos =>
      refine ⟨?_, hcounter⟩
      rw [show (TicketBackend.giveBack (.decrementReserved t q pos) w).db
        = bumpType t 0 (-q) w.db from rfl, bumpType_find, Option.isSome_map]
      exact htype
  | decrementCounter u t q pos =>
      refine ⟨htype, ?_⟩
      simp only [TicketBackend.giveBack, lowerCounter, Option.isSome_map]
      exact hcounter
  | _ => exact ⟨htype, hcounter⟩

/-- Where the rows are there, a task that does not throw resolves. -/
theorem GivesBack.perform {order : Order} {t : Task} (h : GivesBack order t) {w : World}
    (hw : HasRows order w) {ch : Choice} (hch : Calm ch) :
    backend.perform ch w t = some (giveBack t w, .resolved) := by
  have hfails : ch.fails = false := hch
  cases h with
  | release site i => simp [backend, TicketBackend.perform, hfails, giveBack]
  | type i hi =>
      obtain ⟨row, hrow⟩ := Option.isSome_iff_exists.mp (hw i hi).1
      simp [backend, TicketBackend.perform, hfails, giveBack, decrementReserved, hrow]
  | counter i hi =>
      simp [backend, TicketBackend.perform, hfails, giveBack, decrementCounter_eq (hw i hi).2]

/-- Two releases of one order: the first whose item the record names takes it. -/
theorem release_comm {order : Order} (i j : OrderItem) (now : Nat) (r : Redis) :
    (releaseReservation (releaseParams order j) now
        (releaseReservation (releaseParams order i) now r).1).1
      = (releaseReservation (releaseParams order i) now
          (releaseReservation (releaseParams order j) now r).1).1 := by
  have hgone : ∀ a b : OrderItem,
      ¬ Matches (releaseParams order a) now (released (releaseParams order b) r) := by
    rintro a b ⟨e, he, -⟩
    rw [show (releaseParams order a).orderId = (releaseParams order b).orderId from rfl,
      reservation_released_self] at he
    cases he
  by_cases hi : Matches (releaseParams order i) now r
  · by_cases hj : Matches (releaseParams order j) now r
    · -- both ask for what the record holds
      rw [(release_of_matches hi).1, (release_of_matches hj).1,
        (release_of_not_matches (hgone j i)).1, (release_of_not_matches (hgone i j)).1]
      obtain ⟨e, he, -, -, hti, hqi⟩ := hi
      obtain ⟨e', he', -, -, htj, hqj⟩ := hj
      have heq : e' = e := Option.some.inj (he'.symm.trans he)
      subst heq
      have ht : i.ticketTypeId = j.ticketTypeId := hti.symm.trans htj
      have hq : i.quantity = j.quantity := hqi.symm.trans hqj
      simp only [released, releaseParams, ht, hq]
    · rw [(release_of_matches hi).1, (release_of_not_matches hj).1,
        (release_of_not_matches (hgone j i)).1, (release_of_matches hi).1]
  · by_cases hj : Matches (releaseParams order j) now r
    · rw [(release_of_matches hj).1, (release_of_not_matches hi).1, (release_of_matches hj).1,
        (release_of_not_matches (hgone i j)).1]
    · rw [(release_of_not_matches hi).1, (release_of_not_matches hj).1,
        (release_of_not_matches hi).1]

/-- Two types are decremented in any order. -/
theorem bumpType_comm (t t' : TicketTypeId) (a b : Int) (db : Db) :
    bumpType t' 0 b (bumpType t 0 a db) = bumpType t 0 a (bumpType t' 0 b db) := by
  simp only [bumpType, RowTable.modify, List.map_map]
  congr 1
  refine List.map_congr_left fun r _ => ?_
  by_cases h : r.id = t
  · by_cases h' : r.id = t'
    · simp only [Function.comp_apply, if_pos h, if_pos h', add_right_comm]
    · simp only [Function.comp_apply, if_pos h, if_neg h']
  · by_cases h' : r.id = t'
    · simp only [Function.comp_apply, if_neg h, if_pos h']
    · simp only [Function.comp_apply, if_neg h, if_neg h']

/-- So are two counters. -/
theorem lowerCounter_comm (u u' : UserId) (t t' : TicketTypeId) (a b : Int) (db : Db) :
    lowerCounter u' t' b (lowerCounter u t a db) = lowerCounter u t a (lowerCounter u' t' b db) := by
  simp only [lowerCounter, Option.map_map]
  congr 1
  funext k
  congr 1
  funext c
  simp only [Function.comp_apply, sub_right_comm]

/-- The tasks of one order take effect in any order alike. -/
theorem GivesBack.comm {order : Order} {t t' : Task} (h : GivesBack order t)
    (h' : GivesBack order t') (w : World) :
    giveBack t' (giveBack t w) = giveBack t (giveBack t' w) := by
  cases h with
  | release site i =>
      cases h' with
      | release site' j =>
          simp only [giveBack]
          rw [release_comm]
      | type j _ => rfl
      | counter j _ => rfl
  | type i _ =>
      cases h' with
      | release site' j => rfl
      | type j _ =>
          simp only [giveBack]
          rw [bumpType_comm]
      | counter j _ => rfl
  | counter i _ =>
      cases h' with
      | release site' j => rfl
      | type j _ => rfl
      | counter j _ =>
          simp only [giveBack]
          rw [lowerCounter_comm]

/-- A batch of an order, alone, has one outcome. -/
theorem ends_giveBack {order : Order} {ts : List Task} {h rest : Op} {w w' : World} {a : Answer}
    (hw : HasRows order w) (hts : ∀ t ∈ ts, GivesBack order t) :
    backend.Ends Calm w (.par ts h rest) w' a ↔
      backend.Ends Calm (ts.foldl (fun w t => giveBack t w) w) rest w' a :=
  ends_par giveBack (HasRows order) exists_calm hw
    (fun t ht _ hw _ hch => (hts t ht).perform hw hch)
    (fun t _ _ hw => hw.giveBack t)
    (fun t ht t' ht' => (hts t ht).comm (hts t' ht'))

/-- Every item of the order released in Redis. -/
def withKeys (order : Order) (w : World) : World :=
  { w with redis := releaseKeys order w.now w.redis }

/-- Every item of the order given back to its type. -/
def withTypes (order : Order) (w : World) : World :=
  { w with db := giveBackTypes order.items w.db }

/-- Every item of the order given back to its user's counters. -/
def withCounters (order : Order) (w : World) : World :=
  { w with db := giveBackCounters order.userId order.items w.db }

/-- The order's row updated by `f`. -/
def withRow (o : OrderId) (f : Order → Order) (w : World) : World :=
  { w with db := { w.db with orders := RowTable.modify Order.id o f w.db.orders } }

/-- Other payment rows. -/
def withPayments (payments : List PaymentTransaction) (w : World) : World :=
  { w with db := { w.db with payments := payments } }

/-- All releases together. -/
theorem foldl_releases (site : ReleaseSite) (order : Order) (w : World) :
    (releases site order).foldl (fun w t => giveBack t w) w = withKeys order w := by
  simp only [releases, withKeys, releaseKeys, List.foldl_map]
  induction order.items generalizing w with
  | nil => rfl
  | cons i items ih =>
      simp only [List.foldl_cons]
      exact ih _

/-- All decrements of types together. -/
theorem foldl_typeDecrements (order : Order) (w : World) :
    (typeDecrements order).foldl (fun w t => giveBack t w) w = withTypes order w := by
  simp only [typeDecrements, withTypes, List.foldl_map]
  induction order.items generalizing w with
  | nil => simp [giveBackTypes]
  | cons i items ih =>
      rw [List.foldl_cons, ih, ← giveBackTypes_cons]
      rfl

/-- All decrements of counters together. -/
theorem foldl_counterDecrements (order : Order) (w : World) :
    (counterDecrements order).foldl (fun w t => giveBack t w) w = withCounters order w := by
  simp only [counterDecrements, withCounters, List.foldl_map]
  induction order.items generalizing w with
  | nil => simp [giveBackCounters]
  | cons i items ih =>
      rw [List.foldl_cons, ih, ← giveBackCounters_cons]
      rfl

/-- A batch leaves every row there. -/
theorem HasRows.foldl {order : Order} {w : World} (h : HasRows order w) (ts : List Task) :
    HasRows order (ts.foldl (fun w t => TicketBackend.giveBack t w) w) := by
  induction ts generalizing w with
  | nil => exact h
  | cons t ts ih => exact ih (h.giveBack t)

/-- They remove no row. -/
theorem HasRows.withCounters {order : Order} {w : World} (h : HasRows order w) :
    HasRows order (withCounters order w) := by
  rw [← foldl_counterDecrements]
  exact h.foldl _

/-- The rows are still there once a transaction has written the order. -/
theorem HasRows.settled {order : Order} {w : World} (h : HasRows order w) (f : Order → Order)
    (payments : List PaymentTransaction) :
    HasRows order (TicketBackend.withCounters order (withTypes order
      (withPayments payments (withRow order.id f w)))) := by
  refine HasRows.withCounters ?_
  rw [← foldl_typeDecrements]
  exact HasRows.foldl (w := withPayments payments (withRow order.id f w)) h _

/-! ## The four paths -/

/-- The order's row as cancelOrder leaves it. -/
def asCancelled (now : Nat) (r : Order) : Order :=
  { r with status := .cancelled, cancelledAt := some now, releaseReason := some "CANCELLED",
           inventoryReleasedAt := some now }

/-- The order's row as expireOrder leaves it. -/
def asExpired (now : Nat) (r : Order) : Order :=
  { r with status := .expired, inventoryReleasedAt := some now,
           releaseReason := some "PAYMENT_TIMEOUT" }

/-- The order's row as the FAILED webhook leaves it. -/
def asPaymentFailed (now : Nat) (r : Order) : Order :=
  { r with status := .paymentFailed, inventoryReleasedAt := some now,
           releaseReason := some "PAYMENT_FAILED" }

/-- The order's row as the cron leaves it. -/
def asCronExpired (res : VerifyResult) (now : Nat) (r : Order) : Order :=
  { r with status := res.orderStatus, inventoryReleasedAt := some now,
           releaseReason := some (if res = .failed then "CRON_VERIFY_PAYMENT_FAILED"
             else "PAYMENT_VERIFY_TIMEOUT") }

/-- What a releasing path leaves: everything given back, the order's row updated by
    `f` and these payments. -/
def settle (order : Order) (f : Order → Order) (payments : List PaymentTransaction) (w : World) :
    World :=
  withKeys order (withCounters order (withTypes order
    (withPayments payments (withRow order.id f w))))

/-- The update of an order that is there. -/
theorem updateOrder_eq {o : OrderId} {row : Order} {db : Db} (h : db.findOrder o = some row)
    (f : Order → Order) :
    updateOrder o f db = some { db with orders := RowTable.modify Order.id o f db.orders } := by
  simp only [updateOrder, h, Option.map_some]

variable {w w' : World} {order : Order} {a : Answer}

/-- How a cancel ends with nobody beside it. -/
theorem ends_cancelOrder (hrow : w.db.findOrder order.id = some order)
    (hpending : order.status = .pendingPayment) (hrows : HasRows order w) :
    backend.Ends Calm w (.ask (.cancelOrder order.id order.userId)) w' a ↔
      w' = settle order (asCancelled w.now) w.db.payments w ∧ a = .orderCancelled order.id := by
  have hstart : ∀ ch, Calm ch → backend.decide ch w (.cancelOrder order.id order.userId)
      = some (w, .par (releases .cancel order) thrown
          (.par (typeDecrements order ++ counterDecrements order) thrown
            (.ask (.markCancelled order)))) := by
    intro ch hch
    have hfails : ch.fails = false := hch
    simp [backend, dispatch, reads, hfails, TicketOrder.cancelOrder, hrow, hpending]
  have hdecrements : ∀ t ∈ typeDecrements order ++ counterDecrements order, GivesBack order t := by
    intro t ht
    rcases List.mem_append.mp ht with ht | ht
    · exact givesBack_typeDecrements t ht
    · exact givesBack_counterDecrements t ht
  have hmark : ∀ w₁ : World, w₁.db.findOrder order.id = some order → ∀ ch, Calm ch →
      backend.decide ch w₁ (.markCancelled order)
        = some (withRow order.id (asCancelled w₁.now) w₁, .ret (.orderCancelled order.id)) := by
    intro w₁ hw₁ ch hch
    have hfails : ch.fails = false := hch
    simp only [backend, dispatch, TicketOrder.markCancelled, hfails, commitCancelled,
      updateOrder_eq hw₁]
    rfl
  have hreleased : HasRows order (withKeys order w) := hrows
  have hgiven : (withCounters order (withTypes order (withKeys order w))).db.findOrder order.id
      = some order := hrow
  rw [ends_ask exists_calm hstart, ends_giveBack hrows givesBack_releases, foldl_releases,
    ends_giveBack hreleased hdecrements, List.foldl_append, foldl_typeDecrements,
    foldl_counterDecrements, ends_ask exists_calm (hmark _ hgiven), ends_ret]
  rfl

/-- How an expiry ends with nobody beside it. -/
theorem ends_expireOrder (hrow : w.db.findOrder order.id = some order)
    (hpending : order.status = .pendingPayment)
    (hover : order.expiresAt.any (fun e => decide (w.now < e)) = false) (hrows : HasRows order w) :
    backend.Ends Calm w (.ask (.expireOrder order.id)) w' a ↔
      w' = settle order (asExpired w.now) w.db.payments w ∧ a = .expireDone := by
  have hstart : ∀ ch, Calm ch → backend.decide ch w (.expireOrder order.id)
      = some (w, .par (releases .expire order) thrown
          (.par (counterDecrements order) thrown
            (.par (typeDecrements order) thrown (.ask (.markExpired order))))) := by
    intro ch hch
    have hfails : ch.fails = false := hch
    simp [backend, dispatch, reads, hfails, TicketOrder.expireOrder, hrow, hpending, hover]
  have hmark : ∀ w₁ : World, w₁.db.findOrder order.id = some order → ∀ ch, Calm ch →
      backend.decide ch w₁ (.markExpired order)
        = some (withRow order.id (asExpired w₁.now) w₁, .ret .expireDone) := by
    intro w₁ hw₁ ch hch
    have hfails : ch.fails = false := hch
    simp only [backend, dispatch, TicketOrder.markExpired, hfails, commitExpired,
      updateOrder_eq hw₁]
    rfl
  have hreleased : HasRows order (withKeys order w) := hrows
  have hgiven : (withTypes order (withCounters order (withKeys order w))).db.findOrder order.id
      = some order := hrow
  rw [ends_ask exists_calm hstart, ends_giveBack hrows givesBack_releases, foldl_releases,
    ends_giveBack hreleased givesBack_counterDecrements, foldl_counterDecrements,
    ends_giveBack hreleased.withCounters givesBack_typeDecrements, foldl_typeDecrements,
    ends_ask exists_calm (hmark _ hgiven), ends_ret]
  rfl

/-- The transaction of the webhook and of the cron, where the counters cover the order. -/
theorem releaseAllGuarded_db {w : World} (h : Fits order.userId order.items w.db) :
    releaseAllGuarded order.userId order.items w.db
      = (withCounters order (withTypes order w)).db :=
  releaseAllGuarded_eq h

/-- The payment rows after the FAILED webhook: the INITIATED ones of the order have failed. -/
def failedPayments (o : OrderId) (db : Db) : List PaymentTransaction := (failInitiated o db).payments

/-- The payment rows after the cron: one more, with what the gateway said. -/
def cronPayments (order : Order) (res : VerifyResult) (db : Db) : List PaymentTransaction :=
  db.payments ++ [{ id := db.payments.length, orderId := order.id,
                    status := if res = .failed then .failed else .timeout,
                    amount := order.totalAmountInVnd, providerTransactionId := none,
                    paymentUrl := none }]

/-- The transaction of a FAILED webhook, written out. -/
theorem commitFailed_eq (hrow : w.db.findOrder order.id = some order)
    (hfits : Fits order.userId order.items w.db) :
    commitFailed order w.now w.db = some (withCounters order (withTypes order
      (withPayments (failedPayments order.id w.db)
        (withRow order.id (asPaymentFailed w.now) w)))).db := by
  have hrow' : (failInitiated order.id w.db).findOrder order.id = some order := hrow
  have hloop := releaseAllGuarded_db (w := withPayments (failedPayments order.id w.db)
    (withRow order.id (asPaymentFailed w.now) w)) hfits
  simp only [commitFailed]
  rw [updateOrder_eq hrow']
  exact congrArg some hloop

/-- The cron's transaction, written out. -/
theorem commitCronExpire_eq {res : VerifyResult} (hrow : w.db.findOrder order.id = some order)
    (hfits : Fits order.userId order.items w.db) :
    commitCronExpire order res w.now w.db = some (withCounters order (withTypes order
      (withPayments (cronPayments order res w.db)
        (withRow order.id (asCronExpired res w.now) w)))).db := by
  have hrow' : (withRow order.id (asCronExpired res w.now) w).db.findOrder order.id
      = some (asCronExpired res w.now order) := by
    have hid : ∀ r, (asCronExpired res w.now r).id = r.id := fun _ => rfl
    exact (RowTable.lookup_modify_self hid).trans (congrArg (Option.map _) hrow)
  have hinsert : insertPayment order.id (if res = .failed then .failed else .timeout)
      order.totalAmountInVnd none none (withRow order.id (asCronExpired res w.now) w).db
        = some (withPayments (cronPayments order res w.db)
            (withRow order.id (asCronExpired res w.now) w)).db := by
    simp only [insertPayment, hrow']
    rfl
  have hloop := releaseAllGuarded_db (w := withPayments (cronPayments order res w.db)
    (withRow order.id (asCronExpired res w.now) w)) hfits
  simp only [commitCronExpire]
  rw [updateOrder_eq hrow, ← hloop]
  show Option.bind (insertPayment order.id _ order.totalAmountInVnd none none
    (withRow order.id (asCronExpired res w.now) w).db) _ = _
  rw [hinsert]
  rfl

/-- How a FAILED webhook ends with nobody beside it. -/
theorem ends_paymentFailed {dto : MockWebhookDto} (hsigned : dto.signed = true)
    (hfor : dto.orderId = order.id) (hamount : order.totalAmountInVnd = dto.amount)
    (hresult : dto.result = .failed) (hrow : w.db.findOrder order.id = some order)
    (hpending : order.status = .pendingPayment) (hfits : Fits order.userId order.items w.db) :
    backend.Ends Calm w (.ask (.handleMockWebhook dto)) w' a ↔
      w' = settle order (asPaymentFailed w.now) (failedPayments order.id w.db) w ∧
        a = .webhook "Thanh toán thất bại" (some .paymentFailed) := by
  have hstart : ∀ ch, Calm ch → backend.decide ch w (.handleMockWebhook dto)
      = some (w, .ask (.failedCheck order)) := by
    intro ch hch
    have hfails : ch.fails = false := hch
    simp [backend, dispatch, reads, hfails, TicketPayment.handleMockWebhook, hsigned, hfor, hamount,
      hresult, hrow, hpending]
  have hcheck : ∀ ch, Calm ch → backend.decide ch w (.failedCheck order)
      = some (w, .ask (.failedCommit order)) := by
    intro ch hch
    have hfails : ch.fails = false := hch
    simp [backend, dispatch, reads, hfails, TicketPayment.failedCheck, hrow, hpending]
  have hcommit : ∀ ch, Calm ch → backend.decide ch w (.failedCommit order)
      = some (withCounters order (withTypes order (withPayments (failedPayments order.id w.db)
          (withRow order.id (asPaymentFailed w.now) w))), afterFailed order true) := by
    intro ch hch
    have hfails : ch.fails = false := hch
    simp only [backend, dispatch, TicketPayment.failedCommit, hfails, commitFailed_eq hrow hfits]
    rfl
  have hrows := (HasRows.of_fits hfits).settled (asPaymentFailed w.now)
    (failedPayments order.id w.db)
  rw [ends_ask exists_calm hstart, ends_ask exists_calm hcheck, ends_ask exists_calm hcommit,
    afterFailed, ends_giveBack hrows givesBack_releases, foldl_releases, webhookAnswer, ends_ret]
  rfl

/-- How the cron's expiry ends with nobody beside it. -/
theorem ends_cronExpire {res : VerifyResult} (hrow : w.db.findOrder order.id = some order)
    (hpending : order.status = .pendingPayment) (hfits : Fits order.userId order.items w.db) :
    backend.Ends Calm w (.ask (.cronExpireCheck order res [])) w' a ↔
      w' = settle order (asCronExpired res w.now) (cronPayments order res w.db) w ∧
        a = .cronDone := by
  have hcheck : ∀ ch, Calm ch → backend.decide ch w (.cronExpireCheck order res [])
      = some (w, .ask (.cronExpireCommit order res [])) := by
    intro ch hch
    have hfails : ch.fails = false := hch
    simp [backend, dispatch, reads, hfails, TicketPayment.cronExpireCheck, hrow, hpending]
  have hcommit : ∀ ch, Calm ch → backend.decide ch w (.cronExpireCommit order res [])
      = some (withCounters order (withTypes order (withPayments (cronPayments order res w.db)
          (withRow order.id (asCronExpired res w.now) w))), afterCronExpire order true []) := by
    intro ch hch
    have hfails : ch.fails = false := hch
    simp only [backend, dispatch, TicketPayment.cronExpireCommit, hfails,
      commitCronExpire_eq hrow hfits]
    rfl
  have hrows := (HasRows.of_fits hfits).settled (asCronExpired res w.now)
    (cronPayments order res w.db)
  rw [ends_ask exists_calm hcheck, ends_ask exists_calm hcommit, afterCronExpire,
    ends_giveBack hrows givesBack_releases, foldl_releases, cronNext, ends_ret]
  rfl

/-! ## They agree -/

/-- The releasing paths for a pending order, with what each asks of it. -/
inductive ReleasePath (w : World) (order : Order) : Op → Prop where
  | cancelOrder : ReleasePath w order (.ask (.cancelOrder order.id order.userId))
  | expireOrder :
      order.expiresAt.any (fun e => decide (w.now < e)) = false →
      ReleasePath w order (.ask (.expireOrder order.id))
  | paymentFailed (dto : MockWebhookDto) :
      dto.signed = true → dto.orderId = order.id → order.totalAmountInVnd = dto.amount →
      dto.result = .failed → ReleasePath w order (.ask (.handleMockWebhook dto))
  /-- the cron takes up an order past its expiry that the gateway did not confirm -/
  | cronExpire (res : VerifyResult) :
      order.expiresAt.any (fun e => decide (e < w.now)) = true → res ≠ .success →
      ReleasePath w order (.ask (.cronExpireCheck order res []))

/-- The store without the payments and without what `erase` takes from an order's row. -/
def blur (erase : Order → Order) (o : OrderId) (w : World) : World :=
  withPayments [] (withRow o erase w)

/-- The row without its final status and its reason. -/
def eraseReason (r : Order) : Order := { r with status := .pendingPayment, releaseReason := none }

/-- The row without its final status, its reason and the time it was cancelled. -/
def eraseSettlement (r : Order) : Order := { eraseReason r with cancelledAt := none }

/-- The row of a released order without what the paths differ in. -/
def asReleased (now : Nat) (r : Order) : Order :=
  eraseSettlement { r with inventoryReleasedAt := some now }

/-- **What the paths leave in common.**  Whatever a path writes to the order's row, the
    rest of its outcome is the same. -/
theorem blur_settle (w : World) (order : Order) (f : Order → Order) (hid : ∀ r, (f r).id = r.id)
    (hf : ∀ r, eraseSettlement (f r) = asReleased w.now r) (payments : List PaymentTransaction) :
    blur eraseSettlement order.id (settle order f payments w)
      = settle order (asReleased w.now) [] w := by
  have hrow : withRow order.id eraseSettlement (withRow order.id f w)
      = withRow order.id (asReleased w.now) w := by
    simp only [withRow, RowTable.modify, List.map_map]
    congr 2
    refine List.map_congr_left fun r _ => ?_
    by_cases hr : r.id = order.id
    · simp only [Function.comp_apply, if_pos hr, hid, hf]
    · simp only [Function.comp_apply, if_neg hr]
  show withKeys order (withCounters order (withTypes order
    (withPayments [] (withRow order.id eraseSettlement (withRow order.id f w))))) = _
  rw [hrow, settle]

/-- Each path has one outcome. -/
theorem ReleasePath.outcome {prog : Op} (h : ReleasePath w order prog)
    (hrow : w.db.findOrder order.id = some order) (hpending : order.status = .pendingPayment)
    (hfits : Fits order.userId order.items w.db) :
    ∃ w₁ a₁, (∀ w' a, backend.Ends Calm w prog w' a ↔ w' = w₁ ∧ a = a₁) ∧
      blur eraseSettlement order.id w₁ = settle order (asReleased w.now) [] w := by
  have hrows := HasRows.of_fits hfits
  cases h with
  | cancelOrder =>
      have hblur := blur_settle w order (asCancelled w.now) (fun r => rfl)
        (fun r => rfl) w.db.payments
      exact ⟨_, _, fun w' a => ends_cancelOrder hrow hpending hrows, hblur⟩
  | expireOrder hover =>
      have hblur := blur_settle w order (asExpired w.now) (fun r => rfl)
        (fun r => rfl) w.db.payments
      exact ⟨_, _, fun w' a => ends_expireOrder hrow hpending hover hrows, hblur⟩
  | paymentFailed dto hsigned hfor hamount hresult =>
      have hblur := blur_settle w order (asPaymentFailed w.now) (fun r => rfl)
        (fun r => rfl) (failedPayments order.id w.db)
      exact ⟨_, _, fun w' a =>
        ends_paymentFailed hsigned hfor hamount hresult hrow hpending hfits, hblur⟩
  | cronExpire res _ _ =>
      have hblur := blur_settle w order (asCronExpired res w.now) (fun r => rfl)
        (fun r => rfl) (cronPayments order res w.db)
      exact ⟨_, _, fun w' a => ends_cronExpire hrow hpending hfits, hblur⟩

/-- **The releasing paths agree.**  Run alone on a pending order that its counters cover,
    any two of them end, each in one way, with the same counters, the same Redis keys and the
    same everything else but the payment rows and the order's final status, its reason and the
    time it was cancelled. -/
theorem releasing_paths_agree {w : World} {order : Order} {prog prog' : Op}
    (hrow : w.db.findOrder order.id = some order) (hpending : order.status = .pendingPayment)
    (hfits : Fits order.userId order.items w.db) (hp : ReleasePath w order prog)
    (hp' : ReleasePath w order prog') :
    ∃ w₁ a₁ w₂ a₂, (∀ w' a, backend.Ends Calm w prog w' a ↔ w' = w₁ ∧ a = a₁) ∧
      (∀ w' a, backend.Ends Calm w prog' w' a ↔ w' = w₂ ∧ a = a₂) ∧
      blur eraseSettlement order.id w₁ = blur eraseSettlement order.id w₂ := by
  obtain ⟨w₁, a₁, hends₁, hblur₁⟩ := hp.outcome hrow hpending hfits
  obtain ⟨w₂, a₂, hends₂, hblur₂⟩ := hp'.outcome hrow hpending hfits
  exact ⟨w₁, a₁, w₂, a₂, hends₁, hends₂, hblur₁.trans hblur₂.symm⟩

/-! ### An order past its expiry -/

/-- Two tickets are a quantity. -/
theorem two_tickets : (0 : Int) < 2 := by decide

/-- Order 1 of user 1: two tickets of type 1, to be paid until time 900. -/
def lateOrder : Order where
  id := 1
  userId := 1
  concertId := 1
  status := .pendingPayment
  totalAmountInVnd := 20
  expiresAt := some 900
  paidAt := none
  cancelledAt := none
  inventoryReleasedAt := none
  releaseReason := none
  items := [{ id := (1, 0), ticketTypeId := 1, quantity := 2, quantity_pos := two_tickets,
              unitPrice := 10, subtotal := 20 }]

/-- The order is past its expiry and its reservation record still there. -/
def lateShop : World :=
  let w := (shop [{ onSale 1 5 5 with reservedQty := 2 }]).world
  { w with
    now := 950
    db := { w.db with orders := [lateOrder]
                      counters := fun k => if k = (1, 1) then some ⟨0, 2⟩ else none }
    redis := { stock := fun t => if t = 1 then some 3 else none
               userLimit := fun k => if k = (1, 1) then some 2 else none
               reservations := fun o => if o = 1 then some
                 { orderId := 1, userId := 1, ticketTypeId := 1, quantity := 2, createdAt := 0,
                   expireAt := 1000 } else none } }

/-- The late order, cancelled and expired. -/
theorem releasing_paths_agree_late :
    ∃ w₁ a₁ w₂ a₂,
      (∀ w' a, backend.Ends Calm lateShop (.ask (.cancelOrder 1 1)) w' a ↔ w' = w₁ ∧ a = a₁) ∧
      (∀ w' a, backend.Ends Calm lateShop (.ask (.cronExpireCheck lateOrder .pending [])) w' a ↔
        w' = w₂ ∧ a = a₂) ∧
      blur eraseSettlement 1 w₁ = blur eraseSettlement 1 w₂ := by
  have hrow : lateShop.db.findOrder lateOrder.id = some lateOrder := rfl
  exact releasing_paths_agree hrow rfl (by decide) .cancelOrder
    (.cronExpire .pending (by decide) (by decide))

/-- cancelOrder also notes the time, so erasing status and reason does not make it agree with
    expireOrder. -/
theorem cancelled_at_differs :
    ∃ w order prog prog', w.db.findOrder order.id = some order ∧ order.status = .pendingPayment ∧
      Fits order.userId order.items w.db ∧ (w.redis.reservation w.now order.id).isSome ∧
      ReleasePath w order prog ∧ ReleasePath w order prog' ∧
      ∀ w₁ a₁ w₂ a₂, backend.Ends Calm w prog w₁ a₁ → backend.Ends Calm w prog' w₂ a₂ →
        blur eraseReason order.id w₁ ≠ blur eraseReason order.id w₂ := by
  refine ⟨lateShop, lateOrder, _, _, rfl, rfl, by decide, by decide, .cancelOrder,
    .expireOrder (by decide), ?_⟩
  intro w₁ a₁ w₂ a₂ h₁ h₂ heq
  obtain ⟨rfl, -⟩ := (ends_cancelOrder rfl rfl (HasRows.of_fits (by decide))).mp h₁
  obtain ⟨rfl, -⟩ :=
    (ends_expireOrder rfl rfl (by decide) (HasRows.of_fits (by decide))).mp h₂
  have hrows := congrArg (fun w => (w.db.findOrder 1).map Order.cancelledAt) heq
  revert hrows
  decide

end TicketBackend
