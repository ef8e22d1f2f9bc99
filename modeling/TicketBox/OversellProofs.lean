import TicketBox.Snapshots

/-! # No oversell

    Every ticket is issued by one of two transactions, the webhook's and the
    worker's.  Both move the order's quantities from `reservedQty` to `soldQty`
    and add as many tickets, so `soldQty` counts the tickets of a type in every
    run; and the only guarded write, createOrder's inventory transaction, keeps
    `soldQty + reservedQty <= totalQty` in every run.  Neither issuing
    transaction looks at `reservedQty`, so two of them for one order push
    `soldQty` past the total.  The tickets stay within the total in every run in
    which each issuing transaction finds what it issues reserved. -/

namespace TicketBackend

open Interleave TicketStore TicketRedis TicketDb TicketFlow

/-- No type has more tickets than its total, nor more sold and reserved. -/
def NoOversell (db : Db) : Prop :=
  ∀ t, db.ticketCount t ≤ db.totalQty t ∧ db.soldQty t + db.reservedQty t ≤ db.totalQty t

/-- The operations of a sale: all but the administration of ticket types. -/
def selling : Condition where
  req _ r := Request.kind r ≠ .updateTicketType
  ask _ _ _ := True
  task _ _ _ := True
  env _ _ := True

/-- The order whose tickets a call is about to issue. -/
def Ask.issues : Ask → Option Order
  | .successCommit _ order _ | .issueCommit _ order => some order
  | _ => none

/-- A sale whose issuing transactions find reserved what they issue. -/
def issuingReserved : Condition where
  req _ r := Request.kind r ≠ .updateTicketType
  ask p ch d := ch.fails = false → ∀ order ∈ Ask.issues d,
    ∀ i ∈ order.items, qtyOf order.items i.ticketTypeId ≤ p.world.db.reservedQty i.ticketTypeId
  task _ _ _ := True
  env _ _ := True

/-! ## Inventory under one step -/

/-- What a step of a sale does to the inventory counters and the tickets. -/
inductive InventoryMoved (ch : Choice) (w w' : World) (d : Ask) : Prop where
  | lowered (r : TicketTypeId → Int) :
      (∀ t, 0 ≤ r t) → Moves w.db w'.db 0 (-r) 0 → w'.db.tickets = w.db.tickets →
      InventoryMoved ch w w' d
  | reserved (ctx : CreateCtx) (o : OrderId) (metas : List TicketMeta) :
      ch.fails = false → d = .syncInventory ctx o metas →
      TicketDb.syncInventory ctx.userId metas w.db = .ok w'.db → InventoryMoved ch w w' d
  | issued (order : Order) :
      ch.fails = false → Ask.issues d = some order → Issued order order.items w.db w'.db →
      InventoryMoved ch w w' d

/-- A call that leaves types and counters alone moves no inventory. -/
theorem InventoryMoved.of_same {ch : Choice} {w w' : World} {d : Ask}
    (htt : w'.db.ticketTypes = w.db.ticketTypes) (hc : w'.db.counters = w.db.counters)
    (ht : w'.db.tickets = w.db.tickets) : InventoryMoved ch w w' d :=
  .lowered 0 (fun _ => le_refl 0) ((Moves.of_eq htt hc).cast rfl (by simp) rfl) ht

/-- What a call of a sale does to the inventory. -/
theorem asked_inventory {ch : Choice} {w w' : World} {d : Ask} {prog : Op}
    (h : Asked ch w d w' prog) (hk : Ask.kind d ≠ .updateTicketType) : InventoryMoved ch w w' d := by
  cases h with
  | persisted ctx o metas db _ hdb =>
      obtain ⟨rfl, -⟩ := insertOrder_eq hdb
      exact .of_same rfl rfl rfl
  | synced ctx o metas db hf hdb => exact .reserved ctx o metas hf rfl hdb
  | deleted _ o e db _ _ hdb =>
      obtain ⟨rfl, -⟩ := deleteOrder_eq hdb
      exact .of_same rfl rfl rfl
  | cancelled order db _ hdb =>
      obtain ⟨-, ht, htt, hc⟩ := commitCancelled_set hdb
      exact .of_same htt hc ht
  | expired order db _ hdb =>
      obtain ⟨-, ht, htt, hc⟩ := commitExpired_set hdb
      exact .of_same htt hc ht
  | failed order db _ hdb =>
      have hrel := commitFailed_released hdb
      obtain ⟨r, hr, hm⟩ := hrel.lower
      exact .lowered r hr hm hrel.tickets
  | succeeded dto order gateName db hf hdb =>
      exact .issued order hf rfl (commitSuccess_issued hdb).2
  | cronPaid order rest db _ hdb =>
      obtain ⟨-, ht, htt, hc⟩ := commitCronPaid_set hdb
      exact .of_same htt hc ht
  | cronExpired order res rest db _ hdb =>
      have hrel := commitCronExpire_released hdb
      obtain ⟨r, hr, hm⟩ := hrel.lower
      exact .lowered r hr hm hrel.tickets
  | issued job order db hf hdb => exact .issued order hf rfl (commitIssue_issued hdb).2
  | typeWritten => exact absurd rfl hk
  | stockSeeded => exact absurd rfl hk
  | soldOutSet => exact absurd rfl hk
  | _ => exact .of_same rfl rfl rfl

/-- A task takes off what was reserved, or moves nothing. -/
theorem performed_inventory {ch : Choice} {w w' : World} {t : Task} {res : TaskResult Task}
    (h : Performed ch w t w' res) :
    ∃ r : TicketTypeId → Int, (∀ t, 0 ≤ r t) ∧ Moves w.db w'.db 0 (-r) 0 ∧
      w'.db.tickets = w.db.tickets := by
  have hsame : ∃ r : TicketTypeId → Int, (∀ t, 0 ≤ r t) ∧ Moves w.db w.db 0 (-r) 0 ∧
      w.db.tickets = w.db.tickets :=
    ⟨0, fun _ => le_refl 0, (Moves.refl w.db).cast rfl (by simp) rfl, rfl⟩
  cases h with
  | decremented t q pos db hdb =>
      refine ⟨atType t q, fun t' => ?_, ?_, (decrementReserved_same hdb).2.1⟩
      · simp only [atType]
        split <;> omega
      · exact (decrementReserved_moves hdb).cast rfl (atType_neg t q) rfl
  | counterDecremented u t q pos db hdb =>
      exact ⟨0, fun _ => le_refl 0, (decrementCounter_moves hdb).cast rfl (by simp) rfl,
        (decrementCounter_same hdb).2.1⟩
  | _ => exact hsame

/-! ## The books of a type -/

/-- Tickets are what was sold, and sold and reserved stay within the total. -/
structure Counted (db : Db) : Prop where
  tickets : ∀ t, db.ticketCount t = db.soldQty t
  within : WithinTotal db

/-- A write that lowers reservations and adds no ticket. -/
theorem Counted.lowered {db db' : Db} {r : TicketTypeId → Int} (h : Counted db)
    (hm : Moves db db' 0 (-r) 0) (hr : ∀ t, 0 ≤ r t) (ht : db'.tickets = db.tickets) :
    Counted db' := by
  constructor
  · intro t
    rw [hm.soldQty, ← h.tickets t, Db.ticketCount, ht]
    simp [Db.ticketCount]
  · intro t
    have hw := h.within t
    have := hr t
    rw [hm.soldQty, hm.reservedQty, hm.totalQty]
    simp only [Pi.zero_apply, Pi.neg_apply]
    omega

/-- The tickets issued for some items, counted by type. -/
theorem issued_ticketCount {order : Order} {items : List OrderItem} {db db' : Db}
    (h : Issued order items db db') (t : TicketTypeId) :
    db'.ticketCount t = db.ticketCount t + qtyOf items t := by
  obtain ⟨ts, hts, ho⟩ := h.tickets
  rw [ticketCount_eq, ticketCount_eq, hts, countWhere_append, countWhere_of_origins _ ho]
  rfl

/-- Every such call keeps `soldQty` the count of tickets, and every type within its total. -/
theorem Counted.moved {ch : Choice} {w w' : World} {d : Ask} (h : Counted w.db)
    (hm : InventoryMoved ch w w' d) :
    Counted w'.db := by
  cases hm with
  | lowered r hr hm ht => exact h.lowered hm hr ht
  | reserved ctx o metas _ _ hdb =>
      have hm := syncInventory_moves hdb
      refine ⟨fun t => ?_, syncInventory_withinTotal hdb h.within⟩
      rw [hm.soldQty, ← h.tickets t, Db.ticketCount, (syncInventory_same hdb).2]
      simp [Db.ticketCount]
  | issued order _ _ hi =>
      refine ⟨fun t => ?_, fun t => ?_⟩
      · rw [issued_ticketCount hi, h.tickets, hi.moves.soldQty]
      · have hw := h.within t
        rw [hi.moves.soldQty, hi.moves.reservedQty, hi.moves.totalQty]
        simp only [Pi.neg_apply]
        omega

/-- One step of a sale. -/
theorem Counted.step {G : Condition} {p q : State} (hc : Counted p.world.db)
    (hk : OnlyKinds (· ≠ .updateTicketType) p) (h : backend.Step G p q) : Counted q.world.db := by
  refine h.world (I := fun w => Counted w.db) hc ?_ ?_ ?_
  · intro ch d w' prog hmem _ hd
    exact hc.moved (asked_inventory (dispatch_asked hd) (hk.ask hmem))
  · intro ch t w' res _ _ hp
    obtain ⟨r, hr, hm, ht⟩ := performed_inventory (perform_performed hp)
    exact hc.lowered hm hr ht
  · intro ms _
    exact hc

/-! ## Sold within total -/

/-- A step that finds reserved what it issues sells no more than there is. -/
theorem sold_le_moved {ch : Choice} {w w' : World} {d : Ask} (h : Counted w.db)
    (hle : ∀ t, w.db.soldQty t ≤ w.db.totalQty t) (hm : InventoryMoved ch w w' d)
    (hres : ch.fails = false → ∀ order, Ask.issues d = some order → ∀ i ∈ order.items,
      qtyOf order.items i.ticketTypeId ≤ w.db.reservedQty i.ticketTypeId) :
    ∀ t, w'.db.soldQty t ≤ w'.db.totalQty t := by
  intro t
  have hlet := hle t
  have hwithin := h.within t
  cases hm with
  | lowered r hr hm ht =>
      rw [hm.soldQty, hm.totalQty]
      simpa using hlet
  | reserved ctx o metas _ _ hdb =>
      have hm := syncInventory_moves hdb
      rw [hm.soldQty, hm.totalQty]
      simpa using hlet
  | issued order hf ho hi =>
      rw [hi.moves.soldQty, hi.moves.totalQty]
      by_cases hex : ∃ i ∈ order.items, i.ticketTypeId = t
      · obtain ⟨i, hmem, rfl⟩ := hex
        have := hres hf order ho i hmem
        omega
      · rw [qtyOf_eq_zero fun i hi he => hex ⟨i, hi, he⟩]
        omega

/-- A task never sells. -/
theorem sold_le_performed {ch : Choice} {w w' : World} {t : Task} {res : TaskResult Task}
    (h : Performed ch w t w' res) (hle : ∀ t, w.db.soldQty t ≤ w.db.totalQty t) :
    ∀ t, w'.db.soldQty t ≤ w'.db.totalQty t := by
  obtain ⟨r, -, hm, -⟩ := performed_inventory h
  intro t
  rw [hm.soldQty, hm.totalQty]
  simpa using hle t

/-! ## The main result -/

/-- Nothing is sold or reserved before the sale. -/
theorem Opening.quantities {p : State} (h : Opening p) (t : TicketTypeId) :
    p.world.db.soldQty t = 0 ∧ p.world.db.reservedQty t = 0 ∧ 0 ≤ p.world.db.totalQty t := by
  simp only [Db.soldQty, Db.reservedQty, Db.totalQty, Db.findTicketType]
  cases hr : RowTable.lookup TicketType.id t p.world.db.ticketTypes with
  | none => simp
  | some r =>
      have hmem := RowTable.lookup_mem hr
      exact ⟨(h.types_empty r hmem).1, (h.types_empty r hmem).2, h.types_total r hmem⟩

/-- At the start nothing is reserved or sold. -/
theorem Opening.counted {p : State} (h : Opening p) : Counted p.world.db ∧
    ∀ t, p.world.db.soldQty t ≤ p.world.db.totalQty t := by
  refine ⟨⟨fun t => ?_, fun t => ?_⟩, fun t => ?_⟩
  · rw [(h.quantities t).1, Db.ticketCount, h.tickets_nil]
    rfl
  · obtain ⟨h1, h2, h3⟩ := h.quantities t
    omega
  · obtain ⟨h1, -, h3⟩ := h.quantities t
    omega

/-- What a covered sale keeps: its books, and that no type is sold past its total. -/
structure Covered (p : State) : Prop where
  kinds : OnlyKinds (· ≠ .updateTicketType) p
  counted : Counted p.world.db
  sold : ∀ t, p.world.db.soldQty t ≤ p.world.db.totalQty t

/-- **Every step** keeps reserved and sold within the total. -/
theorem Covered.step {p q : State} (hp : Covered p) (h : backend.Step issuingReserved p q) :
    Covered q where
  kinds := hp.kinds.step (fun _ => id) h
  counted := hp.counted.step hp.kinds h
  sold := by
    refine h.world (I := fun w => ∀ t, w.db.soldQty t ≤ w.db.totalQty t) hp.sold ?_ ?_ ?_
    · intro ch d w' prog hmem hg hd
      exact sold_le_moved hp.counted hp.sold
        (asked_inventory (dispatch_asked hd) (hp.kinds.ask hmem)) hg
    · intro ch t w' res _ _ hp'
      exact sold_le_performed (perform_performed hp') hp.sold
    · intro ms _
      exact hp.sold

/-- **No oversell**, in every run in which each issuing transaction finds
    reserved what it issues. -/
theorem no_oversell {p q : State} (hp : Opening p) (h : backend.Run issuingReserved p q) :
    NoOversell q.world.db := by
  have hq : Covered q :=
    h.inv (fun _ _ => Covered.step) ⟨.of_nil hp.ops_nil, hp.counted.1, hp.counted.2⟩
  intro t
  exact ⟨by rw [hq.counted.tickets]; exact hq.sold t, hq.counted.within t⟩

/-! ### One order, one webhook -/

/-- A run can be checked for this, step by step. -/
instance (p : State) (r : Request) : Decidable (issuingReserved.req p r) :=
  inferInstanceAs (Decidable (_ ≠ _))
instance (p : State) (ch : Choice) (d : Ask) : Decidable (issuingReserved.ask p ch d) :=
  inferInstanceAs (Decidable (ch.fails = false → ∀ order ∈ Ask.issues d, ∀ i ∈ order.items, _))
instance (p : State) (ch : Choice) (t : Task) : Decidable (issuingReserved.task p ch t) :=
  inferInstanceAs (Decidable True)
instance (p : State) (ms : Nat) : Decidable (issuingReserved.env p ms) :=
  inferInstanceAs (Decidable True)

/-- One customer orders the only ticket and pays for it. -/
def orderAndPay : List Move :=
  .start (.createOrder (oneTicket 1) 5) :: steps 0 18 ++ .start (.webhook (paid 1)) :: steps 1 5

/-- The bought ticket exists and nothing is oversold. -/
theorem no_oversell_orderAndPay :
    ∃ q, backend.Run issuingReserved (shop [onSale 1 1 1]) q ∧ q.world.db.ticketCount 1 = 1 ∧
      NoOversell q.world.db := by
  obtain ⟨q, hrun, hq⟩ : ∃ q, backend.Run issuingReserved (shop [onSale 1 1 1]) q ∧
      q.world.db.ticketCount 1 = 1 := exists_run orderAndPay _ (by decide)
  exact ⟨q, hrun, hq, no_oversell (shop_opening (by simp)) hrun⟩

/-! ## Two SUCCESS webhooks for one order -/

/-- A run can be checked for this, step by step. -/
instance (p : State) (r : Request) : Decidable (selling.req p r) :=
  inferInstanceAs (Decidable (_ ≠ _))
instance (p : State) (ch : Choice) (d : Ask) : Decidable (selling.ask p ch d) :=
  inferInstanceAs (Decidable True)
instance (p : State) (ch : Choice) (t : Task) : Decidable (selling.task p ch t) :=
  inferInstanceAs (Decidable True)
instance (p : State) (ms : Nat) : Decidable (selling.env p ms) :=
  inferInstanceAs (Decidable True)

/-- One customer orders the only ticket; the gateway's SUCCESS arrives twice and
    both webhooks read the order while it is PENDING_PAYMENT. -/
def successTwice : List Move :=
  .start (.createOrder (oneTicket 1) 5) :: steps 0 18
    ++ .start (.webhook (paid 1)) :: .start (.webhook (paid 1)) :: steps 1 2 ++ steps 2 2
    ++ steps 1 1 ++ steps 2 1

/-- Two tickets of a type with one place. -/
theorem oversell_successTwice :
    ¬ ∀ p q, Opening p → backend.Run selling p q → NoOversell q.world.db := by
  intro h
  obtain ⟨q, hrun, hlt⟩ : ∃ q, backend.Run selling (shop [onSale 1 1 1]) q ∧
      q.world.db.totalQty 1 < q.world.db.ticketCount 1 := exists_run successTwice _ (by decide)
  have hle := (h _ q (shop_opening (by simp)) hrun 1).1
  omega

end TicketBackend
