import TicketBox.ReleaseProofs
import TicketBox.HoldProofs
import TicketBox.OneByOne

/-! # Releasing an order again after a failure

    `cancelOrder` and `expireOrder` lower the counters item by item, in parallel,
    and write the status of the order last.  A failure in between leaves the order
    PENDING_PAYMENT with some counters lowered, and what a retry releases does not
    depend on what the attempts before it released.  Over runs of attempts that
    come one after the other, each counter ends lower by what the order holds if
    no attempt fails half done.

    The invariant, `Retries`, follows the attempt under way: what it has `done` and
    what is still `outstanding` are together the updates of the order. -/

namespace TicketBackend

open Interleave TicketStore TicketRedis TicketDb TicketFlow TicketOrder

/-! ## Attempts -/

/-- A request to release the order. -/
def Releases (order : Order) : Request → Prop
  | .cancelOrder o _ => o = order.id
  | .expireOrder o => o = order.id
  | _ => False

/-- Attempts to release the order come one after the other. -/
def Retrying (order : Order) (p : State) : Move → Prop
  | .start r => p.Idle ∧ Releases order r
  | _ => True

/-- The per-item updates an operation has still to make. -/
def outstanding : Op → List Task
  | .ret _ => []
  | .ask _ => []
  | .par ts _ rest => ts.filter Task.decrements ++ outstanding rest

/-- No per-item update of the attempt has been made: it is about to read the order, or
    both updates of every item are outstanding. -/
def Untouched (order : Order) : Op → Prop
  | .ask (.cancelOrder _ _) => True
  | .ask (.expireOrder _) => True
  | prog => (outstanding prog).length = 2 * order.items.length

/-- The statement of a task fails, or the row it updates is missing. -/
def Throws (w : World) (ch : Choice) (t : Task) : Prop := ch.fails = true ∨ ¬ Decrements w ch t

/-- An attempt fails only while it is untouched, and an update that a failed batch left
    behind, in an operation that asks nothing more, fails as well. -/
def FailsWhole (order : Order) (w : World) (k : Nat) (ch : Choice) : Op → Prop
  | .ret _ => True
  | .ask d => ch.fails = true → Untouched order (.ask d)
  | .par ts h rest =>
      ∀ t ∈ ts[k]?,
        if (Prog.par ts h rest).asks then Throws w ch t → Untouched order (.par ts h rest)
        else Task.decrements t = true → Throws w ch t

/-- Attempts one after the other, none of which fails half done. -/
def Careful (order : Order) (p : State) (a : Move) : Prop :=
  Retrying order p a ∧
    match a with
    | .step i k ch => ∀ prog ∈ p.ops[i]?, FailsWhole order p.world k ch prog
    | _ => True

/-! ## One task -/

/-- A decrement that fails throws. -/
theorem perform_of_throws {w : World} {ch : Choice} {t : Task} (h : Throws w ch t)
    (ht : Task.decrements t = true) : perform ch w t = some (w, .threw) := by
  by_cases hf : ch.fails = true
  · simp only [perform, hf, if_true]
  · have hno : ¬ Decrements w ch t := h.resolve_left hf
    have hfails : ch.fails = false := by simpa using hf
    cases t with
    | decrementReserved t q pos =>
        have hrow : w.db.findTicketType t = none := by
          simpa [Decrements, hfails] using hno
        simp [perform, hfails, decrementReserved, hrow]
    | decrementCounter u t q pos =>
        have hrow : w.db.counters (u, t) = none := by
          simpa [Decrements, hfails] using hno
        simp [perform, hfails, decrementCounter, hrow]
    | _ => cases ht

/-- What throws changes nothing. -/
theorem throws_of_performed {w w' : World} {ch : Choice} {t : Task}
    (h : Performed ch w t w' .threw) : w' = w ∧ Throws w ch t := by
  cases h with
  | threw t hf =>
      refine ⟨rfl, ?_⟩
      rcases hf with hf | ⟨t', q, pos, rfl, hnone⟩ | ⟨u, t', q, pos, rfl, hnone⟩
      · exact .inl hf
      · refine .inr fun hdec => ?_
        have hrow := hdec.2
        rw [hnone] at hrow
        cases hrow
      · refine .inr fun hdec => ?_
        have hrow := hdec.2
        rw [hnone] at hrow
        cases hrow

/-- A task of an attempt ends or throws. -/
theorem GivesBack.not_goOn {order : Order} {t t' : Task} {ch : Choice} {w w' : World}
    (h : GivesBack order t) : backend.perform ch w t ≠ some (w', .goOn t') := by
  intro hperf
  simp only [backend, TicketBackend.perform] at hperf
  split at hperf
  · cases hperf
  · cases h with
    | release site i => cases hperf
    | type i _ =>
        simp only at hperf
        split at hperf <;> cases hperf
    | counter i _ =>
        simp only at hperf
        split at hperf <;> cases hperf

/-- A task that decrements nothing leaves the database alone. -/
theorem db_of_performed {t : Task} {ch : Choice} {w w' : World} {res : TaskResult Task}
    (h : Performed ch w t w' res) (ht : Task.decrements t = false) : w'.db = w.db := by
  cases h with
  | decremented t q pos db _ => cases ht
  | counterDecremented u t q pos db _ => cases ht
  | _ => rfl

/-! ## Operations between the attempts -/

/-- The operation has answered, or it is what a failed batch left behind. -/
inductive Leftover (order : Order) : Op → Prop where
  | ret (a : Answer) : Leftover order (.ret a)
  | batch (ts : List Task) (a b : Answer) :
      (∀ t ∈ ts, GivesBack order t) → Leftover order (.par ts (.ret a) (.ret b))

/-- Left-over updates await nothing more. -/
theorem Leftover.asks {order : Order} {prog : Op} (h : Leftover order prog) :
    prog.asks = false := by
  cases h with
  | ret a => rfl
  | batch ts a b _ => rfl

/-- Where the left-behind updates fail, a step of such an operation writes nothing. -/
theorem Leftover.advanced {order : Order} {prog prog' : Op} {ch : Choice} {k : Nat}
    {w w' : World} {left : List Op} (h : Leftover order prog)
    (hadv : backend.Advanced ch k w prog w' prog' left)
    (hfails : ∀ ts hh rest, prog = .par ts hh rest → ∀ t ∈ ts[k]?, Task.decrements t = true →
      Throws w ch t) :
    w'.db = w.db ∧ Leftover order prog' ∧ ∀ x ∈ left, Leftover order x := by
  have hdb : ∀ {ts hh rest t res}, prog = .par ts hh rest → ts[k]? = some t →
      backend.perform ch w t = some (w', res) → w'.db = w.db := by
    intro ts hh rest t res hprog hk hperf
    cases hdec : Task.decrements t with
    | false => exact db_of_performed (perform_performed hperf) hdec
    | true =>
        have hthrew := perform_of_throws (hfails ts hh rest hprog t hk hdec) hdec
        cases hperf.symm.trans hthrew
        rfl
  cases h with
  | ret a => cases hadv
  | batch ts a b hts =>
      cases hadv with
      | settled => exact ⟨rfl, .ret b, by simp⟩
      | resolved _ t _ _ _ hk hperf =>
          refine ⟨hdb rfl hk hperf, .batch _ a b ?_, by simp⟩
          exact fun u hu => hts u (List.mem_of_mem_eraseIdx hu)
      | wentOn _ t t' _ _ _ hk hperf =>
          exact absurd hperf (hts t (List.mem_of_getElem? hk)).not_goOn
      | threw _ t _ _ _ hk hperf =>
          refine ⟨hdb rfl hk hperf, .ret a, ?_⟩
          intro x hx
          rw [List.mem_singleton.mp hx]
          exact .batch _ _ _ fun u hu => hts u (List.mem_of_mem_eraseIdx hu)

/-! ## The attempt under way -/

/-- The order and its counters between two attempts: nothing is released, or the order
    is settled and all of it is. -/
def Account (order : Order) (db₀ db : Db) : Prop :=
  (db.findOrder order.id = some order ∧ ∀ c : Cell, c.value db = c.value db₀) ∨
    ((∃ row ∈ db.findOrder order.id, row.status ≠ .pendingPayment) ∧
      ∀ c : Cell, c.value db = c.value db₀ - c.weight order.userId order.items)

/-- The batches of an attempt, down to the status it writes last. -/
inductive Releasing (order : Order) : Op → Prop where
  | cancelled : Releasing order (.ask (.markCancelled order))
  | expired : Releasing order (.ask (.markExpired order))
  | batch (ts : List Task) (rest : Op) :
      (∀ t ∈ ts, GivesBack order t) → Releasing order rest → Releasing order (.par ts thrown rest)

/-- A release goes on to a call. -/
theorem Releasing.asks {order : Order} {prog : Op} (h : Releasing order prog) :
    prog.asks = true := by
  induction h with
  | cancelled => rfl
  | expired => rfl
  | batch ts rest _ _ ih => exact ih

/-- All updates of the order: one of each kind for every item. -/
def updates (order : Order) : List Task := typeDecrements order ++ counterDecrements order

/-- An attempt past its read: the order is as it was read, and of its updates some are
    done, the others outstanding. -/
structure UnderWay (order : Order) (db₀ db : Db) (prog : Op) : Prop where
  releasing : Releasing order prog
  row : db.findOrder order.id = some order
  split : ∃ done, (done ++ outstanding prog).Perm (updates order) ∧
    ∀ c : Cell, c.value db = c.value db₀ + (done.map (taskDue c)).sum

variable {order : Order} {db₀ : Db}

/-- Two updates an item. -/
theorem length_updates : (updates order).length = 2 * order.items.length := by
  simp only [updates, typeDecrements, counterDecrements, List.length_append, List.length_map]
  omega

/-- An attempt with everything outstanding has released nothing. -/
theorem UnderWay.untouched {db : Db} {prog : Op} (h : UnderWay order db₀ db prog)
    (hlen : (outstanding prog).length = 2 * order.items.length) : Account order db₀ db := by
  obtain ⟨done, hperm, hvalue⟩ := h.split
  have hdone : done = [] := by
    have heq := hperm.length_eq
    rw [List.length_append, hlen, length_updates] at heq
    exact List.length_eq_zero_iff.mp (by omega)
  subst hdone
  refine .inl ⟨h.row, fun c => ?_⟩
  rw [hvalue c]
  exact add_zero _

/-- An attempt with nothing outstanding has released the order. -/
theorem UnderWay.value {db : Db} {prog : Op} (h : UnderWay order db₀ db prog)
    (hnil : outstanding prog = []) (c : Cell) :
    c.value db = c.value db₀ - c.weight order.userId order.items := by
  obtain ⟨done, hperm, hvalue⟩ := h.split
  rw [hnil, List.append_nil] at hperm
  have hsum : (done.map (taskDue c)).sum = -c.weight order.userId order.items := by
    rw [(hperm.map (taskDue c)).sum_eq]
    exact due_decrements order
  rw [hvalue c, hsum]
  rfl

/-- An attempt just past its read. -/
theorem UnderWay.start {db : Db} {prog : Op} (hrow : db.findOrder order.id = some order)
    (hcells : ∀ c : Cell, c.value db = c.value db₀) (hprog : Releasing order prog)
    (hall : (outstanding prog).Perm (updates order)) : UnderWay order db₀ db prog where
  releasing := hprog
  row := hrow
  split := ⟨[], hall, fun c => by rw [hcells c]; exact (add_zero _).symm⟩

/-- No release is a decrement. -/
theorem filter_releases (site : ReleaseSite) : (releases site order).filter Task.decrements = [] := by
  refine List.filter_eq_nil_iff.mpr fun t ht => ?_
  simp [releases_decrements site order t ht]

/-- The decrements of types are. -/
theorem filter_typeDecrements :
    (typeDecrements order).filter Task.decrements = typeDecrements order :=
  List.filter_eq_self.mpr (decrements_typeDecrements order)

/-- So are those of counters. -/
theorem filter_counterDecrements :
    (counterDecrements order).filter Task.decrements = counterDecrements order :=
  List.filter_eq_self.mpr (decrements_counterDecrements order)

/-- cancelOrder refuses, or it takes the whole order up. -/
theorem underWay_cancelOrder {w : World} (h : Account order db₀ w.db) (u : UserId) :
    UnderWay order db₀ w.db (TicketOrder.cancelOrder order.id u w) ∨
      Leftover order (TicketOrder.cancelOrder order.id u w) := by
  simp only [TicketOrder.cancelOrder]
  rcases h with ⟨hrow, hcells⟩ | ⟨⟨row, hrow, hne⟩, -⟩
  · rw [hrow]
    simp only
    split
    · exact .inr (.ret _)
    · split
      · exact .inr (.ret _)
      · refine .inl (.start hrow hcells ?_ ?_)
        · refine .batch _ _ givesBack_releases (.batch _ _ ?_ .cancelled)
          intro t ht
          rcases List.mem_append.mp ht with ht | ht
          · exact givesBack_typeDecrements t ht
          · exact givesBack_counterDecrements t ht
        · simp only [outstanding, filter_releases, List.filter_append, filter_typeDecrements,
            filter_counterDecrements, List.nil_append, List.append_nil]
          exact .refl _
  · have hfind : w.db.findOrder order.id = some row := hrow
    rw [hfind]
    simp only
    split
    · exact .inr (.ret _)
    · exact .inr (.ret _)

/-- expireOrder passes the order over, or it takes the whole order up. -/
theorem underWay_expireOrder {w : World} (h : Account order db₀ w.db) :
    UnderWay order db₀ w.db (TicketOrder.expireOrder order.id w) ∨
      Leftover order (TicketOrder.expireOrder order.id w) := by
  simp only [TicketOrder.expireOrder]
  rcases h with ⟨hrow, hcells⟩ | ⟨⟨row, hrow, hne⟩, -⟩
  · rw [hrow]
    simp only
    split
    · exact .inr (.ret _)
    · split
      · exact .inr (.ret _)
      · refine .inl (.start hrow hcells ?_ ?_)
        · exact .batch _ _ givesBack_releases (.batch _ _ givesBack_counterDecrements
            (.batch _ _ givesBack_typeDecrements .expired))
        · simp only [outstanding, filter_releases, filter_typeDecrements,
            filter_counterDecrements, List.nil_append, List.append_nil]
          exact List.perm_append_comm
  · have hfind : w.db.findOrder order.id = some row := hrow
    rw [hfind]
    simp only [if_pos hne]
    exact .inr (.ret _)

/-- The status write settles the order, or it fails. -/
theorem marked_of_asked {w w' : World} {d : Ask} {prog' : Op} {ch : Choice}
    (hd : d = .markCancelled order ∨ d = .markExpired order) (h : Asked ch w d w' prog') :
    (w' = w ∧ prog' = thrown ∧ (ch.fails = true ∨ w.db.findOrder order.id = none)) ∨
      ∃ a s, prog' = .ret a ∧ s ≠ .pendingPayment ∧ OrderSet order.id s w.db w'.db ∧
        w'.db.ticketTypes = w.db.ticketTypes ∧ w'.db.counters = w.db.counters := by
  cases h with
  | cancelled o db _ hdb =>
      obtain ⟨hset, -, htt, hcr⟩ := commitCancelled_set hdb
      rcases hd with heq | heq
      · cases heq
        exact .inr ⟨_, _, rfl, by simp, hset, htt, hcr⟩
      · cases heq
  | expired o db _ hdb =>
      obtain ⟨hset, -, htt, hcr⟩ := commitExpired_set hdb
      rcases hd with heq | heq
      · cases heq
      · cases heq
        exact .inr ⟨_, _, rfl, by simp, hset, htt, hcr⟩
  | markFailed _ o ho hf =>
      have heq : o = order := by
        rcases hd with rfl | rfl <;> rcases ho with ho | ho <;> cases ho <;> rfl
      subst heq
      exact .inl ⟨rfl, rfl, hf⟩
  | idle _ _ _ _ _ howes _ => rcases hd with rfl | rfl <;> cases howes
  | paying _ ctx o metas payments d' hpaying _ _ => rcases hd with rfl | rfl <;> cases hpaying
  | payingFailed _ ctx o metas e hpaying _ => rcases hd with rfl | rfl <;> cases hpaying
  | deleted _ o e db hdel _ _ =>
      rcases hd with rfl | rfl <;> rcases hdel with hdel | hdel <;> cases hdel
  | deleteRefused _ o e e' hdel =>
      rcases hd with rfl | rfl <;> rcases hdel with hdel | hdel <;> cases hdel
  | _ => rcases hd with hd | hd <;> cases hd

/-- The last statement of an attempt ends it. -/
theorem UnderWay.marked {w w' : World} {d : Ask} {prog' : Op} {ch : Choice}
    (h : UnderWay order db₀ w.db (.ask d)) (hd : d = .markCancelled order ∨ d = .markExpired order)
    (hasked : Asked ch w d w' prog')
    (hfails : ch.fails = true → (outstanding (.ask d)).length = 2 * order.items.length) :
    Leftover order prog' ∧ Account order db₀ w'.db := by
  rcases marked_of_asked hd hasked with ⟨rfl, rfl, hf⟩ | ⟨a, s, rfl, hs, hset, htt, hcr⟩
  · rcases hf with hf | hnone
    · exact ⟨.ret _, h.untouched (hfails hf)⟩
    · rw [h.row] at hnone
      cases hnone
  · refine ⟨.ret a, .inr ⟨?_, fun c => ?_⟩⟩
    · obtain ⟨row, row', -, hrow', -, hstatus⟩ := hset.find_self
      exact ⟨row', hrow', hstatus ▸ hs⟩
    · rw [Cell.value_same htt hcr]
      exact h.value rfl c

/-- A task of the attempt that ends moves from the outstanding updates to the done ones. -/
theorem UnderWay.resolved {w w' : World} {ts : List Task} {t : Task} {rest : Op} {ch : Choice}
    {k : Nat} (h : UnderWay order db₀ w.db (.par ts thrown rest)) (hts : ∀ t ∈ ts, GivesBack order t)
    (hrest : Releasing order rest) (hk : ts[k]? = some t)
    (hperf : Performed ch w t w' .resolved) :
    UnderWay order db₀ w'.db (.par (ts.eraseIdx k) thrown rest) where
  releasing := .batch _ _ (fun u hu => hts u (List.mem_of_mem_eraseIdx hu)) hrest
  row := by
    simp only [Db.findOrder, (performed_orders hperf).1]
    exact h.row
  split := by
    obtain ⟨done, hperm, hvalue⟩ := h.split
    obtain ⟨hlt, rfl⟩ := List.getElem?_eq_some_iff.mp hk
    have hcell : ∀ c : Cell, c.value w'.db = c.value w.db + taskDue c ts[k] :=
      fun c => performed_value hperf (by simp)
    have hbatch : (ts.filter Task.decrements).Perm ((ts[k] :: ts.eraseIdx k).filter Task.decrements) :=
      (List.getElem_cons_eraseIdx_perm hlt).symm.filter _
    cases hdec : Task.decrements ts[k] with
    | false =>
        rw [List.filter_cons_of_neg (by simp [hdec])] at hbatch
        refine ⟨done, ?_, fun c => ?_⟩
        · exact (List.Perm.append_left done (hbatch.symm.append_right _)).trans hperm
        · rw [hcell c, taskDue_of_not_decrements hdec, add_zero]
          exact hvalue c
    | true =>
        rw [List.filter_cons_of_pos hdec] at hbatch
        refine ⟨ts[k] :: done, ?_, fun c => ?_⟩
        · refine List.Perm.trans ?_ hperm
          refine List.Perm.trans ?_ (List.Perm.append_left done (hbatch.symm.append_right _))
          exact List.perm_middle.symm
        · rw [hcell c, hvalue c, List.map_cons, List.sum_cons]
          omega

/-- What a step of an attempt leads to: it goes on, or it is over. -/
def Continues (order : Order) (db₀ : Db) (db : Db) (prog : Op) : Prop :=
  UnderWay order db₀ db prog ∨ (Leftover order prog ∧ Account order db₀ db)

/-- A step of an attempt past its read, which fails only while it is untouched. -/
theorem UnderWay.advanced {w w' : World} {prog prog' : Op} {ch : Choice} {k : Nat}
    {left : List Op} (h : UnderWay order db₀ w.db prog)
    (hadv : backend.Advanced ch k w prog w' prog' left)
    (hask : ∀ d, prog = .ask d → ch.fails = true →
      (outstanding prog).length = 2 * order.items.length)
    (htask : ∀ ts hh rest, prog = .par ts hh rest → ∀ t ∈ ts[k]?, Throws w ch t →
      (outstanding prog).length = 2 * order.items.length) :
    Continues order db₀ w'.db prog' ∧ ∀ x ∈ left, Leftover order x := by
  cases hadv with
  | asked d _ _ hd =>
      have hmark : d = .markCancelled order ∨ d = .markExpired order := by
        cases h.releasing with
        | cancelled => exact .inl rfl
        | expired => exact .inr rfl
      exact ⟨.inr (h.marked hmark (dispatch_asked hd) (hask d rfl)), by simp⟩
  | settled hh rest =>
      cases h.releasing with
      | batch _ _ _ hrest => exact ⟨.inl ⟨hrest, h.row, h.split⟩, by simp⟩
  | resolved ts t hh rest _ hk hperf =>
      cases h.releasing with
      | batch _ _ hts hrest =>
          exact ⟨.inl (h.resolved hts hrest hk (perform_performed hperf)), by simp⟩
  | wentOn ts t t' hh rest _ hk hperf =>
      cases h.releasing with
      | batch _ _ hts _ => exact absurd hperf (hts t (List.mem_of_getElem? hk)).not_goOn
  | threw ts t hh rest _ hk hperf =>
      cases h.releasing with
      | batch _ _ hts _ =>
          obtain ⟨rfl, hthrows⟩ := throws_of_performed (perform_performed hperf)
          refine ⟨.inr ⟨.ret _, h.untouched (htask ts _ rest rfl t hk hthrows)⟩, ?_⟩
          intro x hx
          rw [List.mem_singleton.mp hx]
          exact .batch _ _ _ fun u hu => hts u (List.mem_of_mem_eraseIdx hu)

/-- An attempt that is still to read the order, or past that. -/
inductive Attempt (order : Order) (db₀ db : Db) : Op → Prop where
  | cancelOrder (u : UserId) :
      Account order db₀ db → Attempt order db₀ db (.ask (.cancelOrder order.id u))
  | expireOrder : Account order db₀ db → Attempt order db₀ db (.ask (.expireOrder order.id))
  | underWay (prog : Op) : UnderWay order db₀ db prog → Attempt order db₀ db prog

/-- An attempt goes on to a call. -/
theorem Attempt.asks {db : Db} {prog : Op} (h : Attempt order db₀ db prog) :
    prog.asks = true := by
  cases h with
  | cancelOrder u _ => rfl
  | expireOrder _ => rfl
  | underWay _ hway => exact hway.releasing.asks

/-- The condition, read at a step of an attempt past its read. -/
theorem Releasing.length_of_untouched {prog : Op} (h : Releasing order prog)
    (hu : Untouched order prog) : (outstanding prog).length = 2 * order.items.length := by
  cases h with
  | cancelled => exact hu
  | expired => exact hu
  | batch ts rest _ _ => exact hu

/-- A read that fails ends the attempt, one that does not takes the order up or ends it. -/
theorem continues_of_reads {w w' : World} {prog prog' : Op} {ch : Choice}
    (h : Account order db₀ w.db) (hprog : UnderWay order db₀ w.db prog ∨ Leftover order prog)
    (hreads : reads ch w prog = some (w', prog')) : Continues order db₀ w'.db prog' :=
  prop_of_reads (P := fun w prog => Continues order db₀ w.db prog) hreads (.inr ⟨.ret _, h⟩)
    (hprog.imp_right fun hover => ⟨hover, h⟩)

/-- A step of the attempt, under the condition. -/
theorem Attempt.advanced {w w' : World} {k : Nat} {ch : Choice} {prog prog' : Op}
    {left : List Op} (h : Attempt order db₀ w.db prog)
    (hadv : backend.Advanced ch k w prog w' prog' left)
    (hclean : FailsWhole order w k ch prog) :
    Continues order db₀ w'.db prog' ∧ ∀ x ∈ left, Leftover order x := by
  cases h with
  | cancelOrder u haccount =>
      cases hadv with
      | asked _ _ _ hd =>
          exact ⟨continues_of_reads haccount (underWay_cancelOrder haccount u) hd, by simp⟩
  | expireOrder haccount =>
      cases hadv with
      | asked _ _ _ hd =>
          exact ⟨continues_of_reads haccount (underWay_expireOrder haccount) hd, by simp⟩
  | underWay _ hway =>
      refine hway.advanced hadv ?_ ?_
      · rintro d rfl hf
        exact hway.releasing.length_of_untouched (hclean hf)
      · rintro ts hh rest rfl t ht hthrows
        have hhere := hclean t ht
        rw [if_pos hway.releasing.asks] at hhere
        exact hway.releasing.length_of_untouched (hhere hthrows)

/-! ## All runs -/

/-- What holds in a run of careful attempts: between two of them the account of the order
    is in order, and while one is under way the other operations are over. -/
inductive Retries (order : Order) (db₀ : Db) (p : State) : Prop where
  | between :
      (∀ prog ∈ p.ops, Leftover order prog) → Account order db₀ p.world.db → Retries order db₀ p
  | trying (i : Nat) (prog : Op) :
      p.ops[i]? = some prog →
      (∀ (j : Nat) (x : Op), p.ops[j]? = some x → j ≠ i → Leftover order x) →
      Attempt order db₀ p.world.db prog → Retries order db₀ p

/-- A retry begins an attempt. -/
theorem attempt_of_enter {w : World} {r : Request} {prog : Op} (hr : Releases order r)
    (he : enter w r = some prog) (h : Account order db₀ w.db) : Attempt order db₀ w.db prog := by
  rw [enter_call he]
  cases r with
  | cancelOrder o u =>
      have ho : o = order.id := hr
      exact ho ▸ .cancelOrder u h
  | expireOrder o =>
      have ho : o = order.id := hr
      exact ho ▸ .expireOrder h
  | _ => cases hr

/-- Under the condition, what a failed batch left behind fails as well. -/
theorem Leftover.fails {w : World} {k : Nat} {ch : Choice} {prog : Op}
    (h : Leftover order prog) (hclean : FailsWhole order w k ch prog) :
    ∀ ts hh rest, prog = .par ts hh rest → ∀ t ∈ ts[k]?, Task.decrements t = true →
      Throws w ch t := by
  rintro ts hh rest rfl t ht hdec
  have hhere := hclean t ht
  rw [if_neg (by simp [h.asks])] at hhere
  exact hhere hdec

/-- Every step keeps the account of the retries. -/
theorem Retries.step {p q : State} {a : Move} (h : Retries order db₀ p) (ha : Careful order p a)
    (hn : backend.next p a = some q) : Retries order db₀ q := by
  obtain ⟨hretry, hclean⟩ := ha
  cases a with
  | env ms =>
      cases hn
      cases h with
      | between hover haccount => exact .between hover haccount
      | trying i prog hi hothers hattempt => exact .trying i prog hi hothers hattempt
  | start r =>
      obtain ⟨hidle, hr⟩ := hretry
      simp only [System.next, Option.map_eq_some_iff] at hn
      obtain ⟨prog, he, rfl⟩ := hn
      cases h with
      | between hover haccount =>
          refine .trying p.ops.length prog ?_ ?_ (attempt_of_enter hr he haccount)
          · simp
          · intro j x hj hne
            rw [List.getElem?_append] at hj
            split at hj
            · exact hover x (List.mem_of_getElem? hj)
            · have hlt := (List.getElem?_eq_some_iff.mp hj).1
              simp only [List.length_singleton] at hlt
              omega
      | trying i old hi _ hattempt =>
          have hno := hidle old (List.mem_of_getElem? hi)
          rw [hattempt.asks] at hno
          cases hno
  | step i k ch =>
      obtain ⟨prog, w', prog', left, hi, hadv, rfl⟩ := advanced_of_next hn
      have hhere : FailsWhole order p.world k ch prog := hclean prog hi
      cases h with
      | between hover haccount =>
          have hleft := hover prog (List.mem_of_getElem? hi)
          obtain ⟨hdb, hprog, hnew⟩ := hleft.advanced hadv (hleft.fails hhere)
          refine .between ?_ (hdb ▸ haccount)
          intro x hx
          rcases List.mem_append.mp hx with hx | hx
          · exact all_of_set hover hprog x hx
          · exact hnew x hx
      | trying i₀ mine hmine hothers hattempt =>
          by_cases hii : i = i₀
          · -- the attempt itself moves
            subst hii
            cases hi.symm.trans hmine
            obtain ⟨hgo, hnew⟩ := hattempt.advanced hadv hhere
            have hlt := (List.getElem?_eq_some_iff.mp hi).1
            rcases hgo with hway | ⟨hover, haccount⟩
            · refine .trying i prog' ?_ (others_of_set hothers (fun hne => absurd rfl hne) hnew)
                (.underWay _ hway)
              rw [List.getElem?_append_left (by rwa [List.length_set])]
              exact List.getElem?_set_self hlt
            · refine .between ?_ haccount
              intro x hx
              obtain ⟨j, hj⟩ := List.getElem?_of_mem hx
              by_cases hji : j = i
              · subst hji
                rw [List.getElem?_append_left (by rwa [List.length_set]),
                  List.getElem?_set_self hlt] at hj
                cases hj
                exact hover
              · exact others_of_set hothers (fun hne => absurd rfl hne) hnew j x hj hji
          · -- another operation moves, and writes nothing
            have hleft := hothers i prog hi hii
            obtain ⟨hdb, hprog, hnew⟩ := hleft.advanced hadv (hleft.fails hhere)
            have hlt := (List.getElem?_eq_some_iff.mp hmine).1
            refine .trying i₀ mine ?_ (others_of_set hothers (fun _ => hprog) hnew) (hdb ▸ hattempt)
            rw [List.getElem?_append_left (by rwa [List.length_set]), List.getElem?_set_ne hii]
            exact hmine

/-! ## The main result -/

/-- Each counter of the order's items is lower by what the order holds. -/
def ReleasedOnce (order : Order) (db₀ db : Db) : Prop :=
  ∀ t, db.reservedQty t = db₀.reservedQty t - qtyOf order.items t ∧
    db.counterReserved order.userId t = db₀.counterReserved order.userId t - qtyOf order.items t

/-- The order is settled. -/
def IsSettled (o : OrderId) (db : Db) : Prop := ∃ row ∈ db.findOrder o, row.status ≠ .pendingPayment

/-- A settled order has been released once. -/
theorem Account.releasedOnce {db : Db} (h : Account order db₀ db)
    (hpending : order.status = .pendingPayment) (hsettled : IsSettled order.id db) :
    ReleasedOnce order db₀ db := by
  rcases h with ⟨hrow, -⟩ | ⟨-, hcells⟩
  · obtain ⟨row, hfind, hne⟩ := hsettled
    cases hrow.symm.trans hfind
    exact absurd hpending hne
  · intro t
    refine ⟨hcells (.type t), ?_⟩
    have huser := hcells (.user order.userId t)
    simpa only [Cell.value, Cell.weight, Cell.share, atUser, if_true] using huser

/-- **Failed attempts leave nothing released.**  Over every run of cancelOrder and expireOrder
    attempts, one after the other, none of which fails half done: once the order is settled,
    each counter of its items is lower by what the order holds than before the first attempt. -/
theorem released_once_after_retries {w : World} {order : Order} {q : State}
    (hrow : w.db.findOrder order.id = some order) (hpending : order.status = .pendingPayment)
    (hrun : backend.RunIf (Careful order) ⟨w, []⟩ q) (hsettled : IsSettled order.id q.world.db) :
    ReleasedOnce order w.db q.world.db := by
  have hstart : Retries order w.db ⟨w, []⟩ :=
    .between (by simp) (.inl ⟨hrow, fun _ => rfl⟩)
  have hq : Retries order w.db q :=
    hrun.inv (fun _ _ _ hp ha hn => hp.step ha hn) hstart
  cases hq with
  | between _ haccount => exact haccount.releasedOnce hpending hsettled
  | trying i prog _ _ hattempt =>
      cases hattempt with
      | cancelOrder u haccount => exact haccount.releasedOnce hpending hsettled
      | expireOrder haccount => exact haccount.releasedOnce hpending hsettled
      | underWay _ hway =>
          obtain ⟨row, hfind, hne⟩ := hsettled
          cases hway.row.symm.trans hfind
          exact absurd hpending hne

/-! ### A batch that fails whole -/

instance (order : Order) : (r : Request) → Decidable (Releases order r)
  | .cancelOrder o _ => inferInstanceAs (Decidable (o = order.id))
  | .expireOrder o => inferInstanceAs (Decidable (o = order.id))
  | .createOrder _ _ | .createPayment _ _ | .webhook _ | .verifyStuckPendingPayments
  | .ticketIssue _ | .updateTicketType _ _ _ _ => isFalse id

/-- A run can be checked for this, step by step. -/
instance (order : Order) (p : State) : (a : Move) → Decidable (Retrying order p a)
  | .start r => inferInstanceAs (Decidable (p.Idle ∧ Releases order r))
  | .step _ _ _ | .env _ => isTrue trivial

/-- A cancel that has released nothing yet. -/
instance (order : Order) (prog : Op) : Decidable (Untouched order prog) := by
  unfold Untouched
  split <;> infer_instance

/-- A task fails by its call or for want of a row. -/
instance (w : World) (ch : Choice) (t : Task) : Decidable (Throws w ch t) :=
  inferInstanceAs (Decidable (_ ∨ _))

/-- A run can be checked for this, step by step. -/
instance (order : Order) (w : World) (k : Nat) (ch : Choice) :
    (prog : Op) → Decidable (FailsWhole order w k ch prog)
  | .ret _ => isTrue trivial
  | .ask d => inferInstanceAs (Decidable (ch.fails = true → Untouched order (.ask d)))
  | .par ts h rest => inferInstanceAs (Decidable (∀ t ∈ ts[k]?,
      if (Prog.par ts h rest).asks then Throws w ch t → Untouched order (.par ts h rest)
      else Task.decrements t = true → Throws w ch t))

instance (order : Order) (p : State) : (a : Move) → Decidable (Careful order p a)
  | .start r => inferInstanceAs (Decidable (Retrying order p (.start r) ∧ True))
  | .step i k ch => inferInstanceAs (Decidable
      (True ∧ ∀ prog ∈ p.ops[i]?, FailsWhole order p.world k ch prog))
  | .env _ => isTrue ⟨trivial, trivial⟩

/-- The late order, with its expire job in the queue. -/
def queuedShop : World := { lateShop with expireJobs := [(1, 900)] }

/-- cancelOrder fails at its first update, the update left behind fails too, and the
    expire job releases the order. -/
def cancelThenExpire : List Move :=
  .start (.cancelOrder 1 1) :: steps 0 3 ++ [.step 0 0 { fails := true }, .step 1 0 { fails := true }]
    ++ .start (.expireOrder 1) :: steps 3 8

/-- A cancel that fails and an expiry behind it. -/
theorem released_once_cancelThenExpire :
    ∃ q : State, q.world.db.orders.map Order.status = [.expired] ∧
      ReleasedOnce lateOrder queuedShop.db q.world.db := by
  obtain ⟨q, hrun, hstatus, hsettled⟩ : ∃ q, backend.RunIf (Careful lateOrder) ⟨queuedShop, []⟩ q ∧
      q.world.db.orders.map Order.status = [.expired] ∧
      (∃ row ∈ q.world.db.findOrder lateOrder.id, row.status ≠ .pendingPayment) :=
    exists_runIf cancelThenExpire _ (by decide)
  exact ⟨q, hstatus, released_once_after_retries rfl rfl hrun hsettled⟩

/-! ### A batch that fails half done -/

/-- The type's update of a cancelOrder goes through and the counter's fails; the retry
    makes both. -/
def cancelHalfDone : List Move :=
  .start (.cancelOrder 1 1) :: steps 0 4 ++ [.step 0 0 { fails := true }]
    ++ .start (.cancelOrder 1 1) :: steps 2 7

/-- The two tickets of the order leave `TicketType.reservedQty` twice. -/
theorem released_twice_cancelHalfDone :
    ¬ ∀ (w : World) (order : Order) (q : State), w.db.findOrder order.id = some order →
      order.status = .pendingPayment → backend.RunIf (Retrying order) ⟨w, []⟩ q →
      IsSettled order.id q.world.db → ReleasedOnce order w.db q.world.db := by
  intro h
  obtain ⟨q, hrun, hqty, hsettled⟩ : ∃ q, backend.RunIf (Retrying lateOrder) ⟨lateShop, []⟩ q ∧
      q.world.db.reservedQty 1 = -2 ∧
      (∃ row ∈ q.world.db.findOrder lateOrder.id, row.status ≠ .pendingPayment) :=
    exists_runIf cancelHalfDone _ (by decide)
  have hone := (h lateShop lateOrder q rfl rfl hrun hsettled 1).1
  rw [hqty] at hone
  revert hone
  decide

end TicketBackend
