import TicketBox.UserLimitProofs

/-! # Sold counters count tickets

    The webhook's transaction and the worker's are written separately and may
    both run for one order, more than once.  Each of them adds as many tickets
    as it adds to `soldQty` and to the buyer's `paidQty`, and no other step of
    the services touches either counter or a ticket, so both counters count
    tickets in every run in which nobody sets `soldQty` by hand. -/

namespace TicketBackend

open Interleave TicketStore TicketRedis TicketDb TicketFlow

/-- `soldQty` counts the tickets of a type, `paidQty` those of a user and a type. -/
structure SoldCounts (db : Db) : Prop where
  sold : ∀ t, db.soldQty t = db.ticketCount t
  paid : ∀ u t, db.counterPaid u t = userTickets u t db

/-- No update sets `soldQty`. -/
def SoldUntouched (dto : UpdateTicketTypeDto) : Prop := dto.soldQty = none

/-- Every operation of the backend, but no adjustment of `soldQty`. -/
def unadjusted : Condition where
  req _ r := RequestGiven (fun _ _ => True) SoldUntouched r
  ask _ _ _ := True
  task _ _ _ := True
  env _ _ := True

/-! ## One step -/

/-- What a step does to the tickets and to the counters of what was sold. -/
inductive SoldMoved (db db' : Db) : Prop where
  | kept : (∀ t, db'.soldQty t = db.soldQty t) → (∀ u t, db'.counterPaid u t = db.counterPaid u t) →
      db'.tickets = db.tickets → SoldMoved db db'
  | issued (order : Order) : Issued order order.items db db' → SoldMoved db db'

/-- A transaction that sells nothing. -/
theorem SoldMoved.of_moves {db db' : Db} {r : TicketTypeId → Int} (h : Moves db db' 0 r 0)
    (ht : db'.tickets = db.tickets) : SoldMoved db db' :=
  .kept h.sold_paid.1 h.sold_paid.2 ht

/-- An update of the catalogue that keeps the sold quantity of its row. -/
theorem SoldMoved.of_written {t : TicketTypeId} {f : TicketType → TicketType} {db db' : Db}
    (h : TicketDb.writeTicketType t f db = .ok db') (hid : ∀ r, (f r).id = r.id)
    (hsold : ∀ r, (f r).soldQty = r.soldQty) : SoldMoved db db' := by
  obtain ⟨-, ht, hc⟩ := writeTicketType_same h
  obtain ⟨hne, row, hrow, hrow'⟩ := writeTicketType_find h hid
  refine .kept (fun t' => ?_) (fun u t' => by simp only [Db.counterPaid, hc]) ht
  by_cases he : t' = t
  · subst he
    simp [Db.soldQty, hrow, hrow', hsold]
  · simp only [Db.soldQty, hne t' he]

/-- What a call does to `soldQty` and the tickets. -/
theorem asked_sold {ch : Choice} {w w' : World} {d : Ask} {prog : Op} (h : Asked ch w d w' prog)
    (hd : AskGiven (fun _ _ => True) SoldUntouched d) : SoldMoved w.db w'.db := by
  by_cases hk : Ask.kind d = .updateTicketType
  · -- the catalogue is written by two calls and read by the rest
    cases h with
    | typeWritten existing dto db row _ hdb _ _ =>
        have hsold : dto.soldQty = none := hd
        exact .of_written hdb (fun _ => rfl) fun r => by simp [updateData, hsold]
    | soldOutSet row db hdb => exact .of_written hdb (fun _ => rfl) fun _ => rfl
    | deleted d o e db hdel _ _ => rcases hdel with rfl | rfl <;> cases hk
    | persisted => cases hk
    | synced => cases hk
    | cancelled => cases hk
    | expired => cases hk
    | failed => cases hk
    | succeeded => cases hk
    | cronPaid => cases hk
    | cronExpired => cases hk
    | issued => cases hk
    | _ => exact .kept (fun _ => rfl) (fun _ _ => rfl) rfl
  · cases asked_inventory h hk with
    | lowered r _ hm ht => exact .of_moves hm ht
    | reserved ctx o metas _ _ hdb => exact .of_moves (syncInventory_moves hdb) (syncInventory_same hdb).2
    | issued order _ _ hi => exact .issued order hi

/-- A task sells nothing. -/
theorem performed_sold {ch : Choice} {w w' : World} {t : Task} {res : TaskResult Task}
    (h : Performed ch w t w' res) : SoldMoved w.db w'.db := by
  obtain ⟨r, -, hm, ht⟩ := performed_inventory h
  exact .of_moves hm ht

/-- Both move together. -/
theorem SoldCounts.moved {db db' : Db} (h : SoldCounts db) (hm : SoldMoved db db') :
    SoldCounts db' := by
  cases hm with
  | kept hs hp ht =>
      refine ⟨fun t => ?_, fun u t => ?_⟩
      · rw [hs, h.sold, Db.ticketCount, Db.ticketCount, ht]
      · rw [hp, h.paid, userTickets_same ht]
  | issued order hi =>
      refine ⟨fun t => ?_, fun u t => ?_⟩
      · rw [hi.moves.soldQty, h.sold, issued_ticketCount hi]
      · rw [hi.moves.counterPaid, h.paid, userTickets_issued hi]
        rfl

/-! ## Every run -/

/-- The counters count, and the updates under way leave them alone. -/
structure Counting (p : State) : Prop where
  counts : SoldCounts p.world.db
  given : ∀ prog ∈ p.ops, OpGiven (fun _ _ => True) SoldUntouched prog

/-- **Every step** keeps `soldQty` the count of tickets. -/
theorem Counting.step {p q : State} (hp : Counting p) (h : backend.Step unadjusted p q) :
    Counting q where
  counts := by
    refine h.world (I := fun w => SoldCounts w.db) hp.counts ?_ ?_ ?_
    · intro ch d w' prog hmem _ hdec
      exact hp.counts.moved (asked_sold (dispatch_asked hdec) (hp.given _ hmem))
    · intro ch t w' res _ _ hperf
      exact hp.counts.moved (performed_sold (perform_performed hperf))
    · intro ms _
      exact hp.counts
  given := given_step h hp.given (fun _ hr => hr) fun _ _ _ _ _ _ _ => trivial

/-- At the start nothing is sold. -/
theorem Opening.counting {p : State} (h : Opening p) : Counting p where
  counts := by
    refine ⟨fun t => ?_, fun u t => ?_⟩
    · rw [(h.quantities t).1, Db.ticketCount, h.tickets_nil]
      rfl
    · rw [counterPaid_of_none (h.counters_none _), userTickets, h.tickets_nil]
      rfl
  given prog hmem := by
    rw [h.ops_nil] at hmem
    cases hmem

/-- **Sold counters count tickets** in every run without an adjustment of `soldQty`. -/
theorem sold_counts_tickets {p q : State} (hp : Opening p) (h : backend.Run unadjusted p q) :
    SoldCounts q.world.db :=
  (h.inv (fun _ _ => Counting.step) hp.counting).counts

/-! ### One order, two webhooks -/

/-- A run can be checked for this, step by step. -/
instance (p : State) (r : Request) : Decidable (unadjusted.req p r) := by
  induction r using Request.casesOn <;> delta unadjusted RequestGiven SoldUntouched <;>
    infer_instance
instance (p : State) (ch : Choice) (d : Ask) : Decidable (unadjusted.ask p ch d) :=
  inferInstanceAs (Decidable True)
instance (p : State) (ch : Choice) (t : Task) : Decidable (unadjusted.task p ch t) :=
  inferInstanceAs (Decidable True)
instance (p : State) (ms : Nat) : Decidable (unadjusted.env p ms) :=
  inferInstanceAs (Decidable True)

/-- The two SUCCESS webhooks that oversell the type issue two tickets for its one
    place, and both counters say so. -/
theorem sold_counts_tickets_successTwice :
    ∃ q, backend.Run unadjusted (shop [onSale 1 1 1]) q ∧ q.world.db.ticketCount 1 = 2 ∧
      SoldCounts q.world.db := by
  obtain ⟨q, hrun, hq⟩ : ∃ q, backend.Run unadjusted (shop [onSale 1 1 1]) q ∧
      q.world.db.ticketCount 1 = 2 := exists_run successTwice _ (by decide)
  exact ⟨q, hrun, hq, sold_counts_tickets (shop_opening (by simp)) hrun⟩

end TicketBackend
