import TicketBox.StatusProofs
import TicketBox.IssueJobs

/-! # Tickets are issued once

    Two transactions issue the tickets of an order, the webhook's and the
    worker's.  Both decide "not yet issued" by a read made before: the webhook on
    the status of the row it read at its start, the worker on a count of the
    order's tickets.  If no tickets of an order are issued while another operation
    stands between such a check and its transaction (`issuingAlone`), each issuing
    transaction finds no ticket of its order, since an order with tickets is never
    PENDING_PAYMENT again.  Then an order has all its tickets or none, and
    `soldQty` and `paidQty` are the sums over the orders that have theirs.

    The second half follows an order that became PAID with no ticket.  A job for
    it is about to be queued or is queued, and no delivery of that job is past
    its checks; so once everything has ended the tickets are there. -/

namespace TicketBackend

open Interleave TicketStore TicketRedis TicketDb TicketFlow TicketOrder

/-- How many tickets an order item has. -/
def itemTickets (db : Db) (i : OrderItem) : Int :=
  countWhere (fun x => x.2.1 = i.id) db.tickets

/-- Every item has at most its quantity of tickets, and what was sold and paid
    is the sum over the orders with tickets, each counted once. -/
structure IssuedOnce (db : Db) : Prop where
  items : ∀ r ∈ db.orders, ∀ i ∈ r.items, itemTickets db i ≤ i.quantity
  sold : ∀ t, db.soldQty t = issuedSum (fun _ items => qtyOf items t) db
  paid : ∀ u t, db.counterPaid u t = issuedSum (fun u' items => atUser u' (qtyOf items) u t) db

/-- The order that the operation has found without tickets before this call and whose
    tickets it issues, by this call or a later one. -/
def Ask.toIssue : Ask → Option OrderId
  | .findGates dto _ | .countGateTickets dto _ _ | .successCommit dto _ _ => some dto.orderId
  | .issueCommit job _ => some job.orderId
  | _ => none

/-- The operation of the call has still to issue the tickets of order `o`. -/
def toIssue (o : OrderId) (d : Ask) : Bool := decide (Ask.toIssue d = some o)

/-- A sale in which no tickets of an order are issued while another operation stands
    between its check that the order has none and its own issuing transaction. -/
def issuingAlone : Condition where
  req _ r := Request.kind r ≠ .updateTicketType
  ask p ch d := ch.fails = false → ∀ order ∈ Ask.issues d, p.OnlyBy (toIssue order.id) noTask d
  task _ _ _ := True
  env _ _ := True

/-! ## The books under one step -/

/-- What a step of a sale does to orders, tickets and what was sold. -/
inductive IssueMoved (ch : Choice) (w w' : World) (d : Ask) : Prop where
  | issued (order : Order) :
      ch.fails = false → Ask.issues d = some order → Issued order order.items w.db w'.db →
      (w'.db.orders = w.db.orders ∧ order.status = .paid ∨
        Ask.sets d = some (order.id, .paid) ∧ OrderSet order.id .paid w.db w'.db) →
      IssueMoved ch w w' d
  | other :
      OrdersMoved ch w w' d → w'.db.tickets = w.db.tickets →
      (∀ t, w'.db.soldQty t = w.db.soldQty t) →
      (∀ u t, w'.db.counterPaid u t = w.db.counterPaid u t) → IssueMoved ch w w' d

/-- What a call of a sale does to the books. -/
theorem asked_issueMoved {ch : Choice} {w w' : World} {d : Ask} {prog : Op} {P : Order → Prop}
    (h : Asked ch w d w' prog) (hk : Ask.kind d ≠ .updateTicketType) (hc : AskCopies P d) :
    IssueMoved ch w w' d := by
  have hord := asked_orders h
  have hplain : Ask.issues d = none → IssueMoved ch w w' d := by
    intro hn
    rcases asked_inventory h hk with ⟨r, -, hm, ht⟩ | ⟨ctx, o, metas, -, -, hdb⟩ | ⟨order, -, hi, -⟩
    · exact .other hord ht hm.sold_paid.1 hm.sold_paid.2
    · have hm := (syncInventory_moves hdb).sold_paid
      exact .other hord (syncInventory_same hdb).2 hm.1 hm.2
    · rw [hn] at hi
      cases hi
  cases h with
  | succeeded dto order gateName db hf hdb =>
      obtain ⟨hset, hi⟩ := commitSuccess_issued hdb
      rw [← show order.id = dto.orderId from hc.1] at hset
      exact .issued order hf rfl hi (.inr ⟨by rw [hc.1]; rfl, hset⟩)
  | issued job order db hf hdb =>
      obtain ⟨ho, hi⟩ := commitIssue_issued hdb
      exact .issued order hf rfl hi (.inl ⟨ho, hc.2.1⟩)
  | deleted _ o e db hd _ _ => rcases hd with rfl | rfl <;> exact hplain rfl
  | _ =>
      first
        | exact hplain rfl
        | exact .other hord rfl (fun _ => rfl) fun _ _ => rfl

/-! ## All tickets or none -/

/-- Each order has all its tickets or none, with tickets it is not PENDING_PAYMENT, and the
    counters say which orders have theirs. -/
structure Once (db : Db) : Prop where
  owned : ∀ k ∈ db.tickets, ∃ row, db.findOrder k.orderId = some row ∧
    row.status ≠ .pendingPayment
  whole : ∀ r ∈ db.orders,
    NoTickets r.id db.tickets ∨ (db.ticketsOf r.id).map originOf = originsOf r r.items
  sold : ∀ t, db.soldQty t = issuedSum (fun _ items => qtyOf items t) db
  paid : ∀ u t, db.counterPaid u t = issuedSum (fun u' items => atUser u' (qtyOf items) u t) db

/-- An id without a row has no ticket. -/
theorem Once.noTickets {db : Db} (h : Once db) {o : OrderId} (ho : db.findOrder o = none) :
    NoTickets o db.tickets := by
  rintro k hk rfl
  obtain ⟨row, hrow, -⟩ := h.owned k hk
  rw [ho] at hrow
  cases hrow

/-- Neither has an order that is PENDING_PAYMENT. -/
theorem Once.noTickets_of_pending {db : Db} (h : Once db) {o : OrderId} {row : Order}
    (ho : db.findOrder o = some row) (hs : row.status = .pendingPayment) :
    NoTickets o db.tickets := by
  rintro k hk rfl
  obtain ⟨row', hrow', hs'⟩ := h.owned k hk
  rw [ho] at hrow'
  cases hrow'
  exact hs' hs

/-- The tickets of an order depend on the tickets. -/
theorem ticketsOf_congr {db db' : Db} (ht : db'.tickets = db.tickets) (o : OrderId) :
    db'.ticketsOf o = db.ticketsOf o := by
  simp only [Db.ticketsOf, ht]

/-- Order rows that move with no ticket issued. -/
theorem Once.orders {ch : Choice} {w w' : World} {d : Ask} (h : Once w.db)
    (hk : RowTable.Keyed Order.id w.db.orders) (hm : OrdersMoved ch w w' d)
    (ht : w'.db.tickets = w.db.tickets) (hsold : ∀ t, w'.db.soldQty t = w.db.soldQty t)
    (hpaid : ∀ u t, w'.db.counterPaid u t = w.db.counterPaid u t) : Once w'.db := by
  have hsum : ∀ weight, issuedSum weight w'.db = issuedSum weight w.db := by
    intro weight
    cases hm with
    | same ho => simp only [issuedSum, ho, ht]
    | set o s _ _ hset => exact issuedSum_set hset ht
    | inserted ctx o metas _ _ hins =>
        obtain ⟨hdb, hnone⟩ := insertOrder_eq hins
        rw [hdb]
        exact issuedSum_append (h.noTickets hnone)
    | deleted o _ _ hdel =>
        obtain ⟨hdb, row, hrow, -, hno⟩ := deleteOrder_eq hdel
        rw [hdb]
        exact issuedSum_remove hk hrow hno
  refine ⟨fun k hmem => ?_, fun r hr => ?_, fun t => by rw [hsold, h.sold, hsum],
    fun u t => by rw [hpaid, h.paid, hsum]⟩
  · rw [ht] at hmem
    obtain ⟨row, hrow, hs⟩ := h.owned k hmem
    obtain ⟨row', hrow', -, hleft⟩ := hm.found hrow (.inr ⟨k, hmem, rfl⟩)
    exact ⟨row', hrow', hleft hs⟩
  · rw [ht, ticketsOf_congr ht]
    cases hm with
    | same ho => exact h.whole r (ho ▸ hr)
    | set o s _ _ hset =>
        obtain ⟨r₀, hr₀, hc⟩ := hset.mem hr
        rw [hc.origins, hc.id]
        exact h.whole r₀ hr₀
    | inserted ctx o metas _ _ hins =>
        obtain ⟨hdb, hnone⟩ := insertOrder_eq hins
        rw [hdb] at hr
        rcases List.mem_append.mp hr with hr | hr
        · exact h.whole r hr
        · rw [List.mem_singleton.mp hr]
          exact .inl (h.noTickets hnone)
    | deleted o _ _ hdel =>
        obtain ⟨hdb, -⟩ := deleteOrder_eq hdel
        rw [hdb] at hr
        exact h.whole r (List.mem_of_mem_filter hr)

/-- Issuing an order that has no ticket, the rows left alone. -/
theorem Once.issue {order : Order} {db db' : Db} (h : Once db)
    (hk : RowTable.Keyed Order.id db.orders) (ho : db'.orders = db.orders)
    (hi : Issued order order.items db db') (hno : NoTickets order.id db.tickets)
    (hrow : order.items = [] ∨ ∃ row, db.findOrder order.id = some row ∧ SameContent row order ∧
      row.status ≠ .pendingPayment) :
    Once db' := by
  obtain ⟨ts, hts, hor⟩ := hi.tickets
  have hfrom := orderId_of_origins hor
  obtain ⟨hother, -⟩ := noTickets_append db.tickets hor
  have hrow' : order.items = [] ∨
      ∃ row, db.findOrder order.id = some row ∧ SameContent row order :=
    hrow.imp_right fun ⟨row, hfind, hc, _⟩ => ⟨row, hfind, hc⟩
  refine ⟨fun k hmem => ?_, fun r hr => ?_, fun t => ?_, fun u t => ?_⟩
  · rw [hts] at hmem
    simp only [Db.findOrder, ho]
    rcases List.mem_append.mp hmem with hmem | hmem
    · exact h.owned k hmem
    · rw [hfrom k hmem]
      rcases hrow with hnil | ⟨row, hrow, -, hs⟩
      · -- no item, so no ticket was added
        rw [eq_nil_of_origins hor hnil] at hmem
        cases hmem
      · exact ⟨row, hrow, hs⟩
  · rw [ho] at hr
    rw [hts, Db.ticketsOf, hts, List.filter_append]
    -- the order that is issued has all its tickets at once, the others keep theirs
    by_cases he : r.id = order.id
    · have hold : db.tickets.filter (fun k => decide (k.orderId = r.id)) = [] := by
        refine List.filter_eq_nil_iff.mpr fun k hk => ?_
        simpa [he] using hno k hk
      have hnew : ts.filter (fun k => decide (k.orderId = r.id)) = ts := by
        refine List.filter_eq_self.mpr fun k hk => ?_
        simpa [he] using hfrom k hk
      rw [hold, hnew, List.nil_append]
      rcases hrow with hnil | ⟨row, hrow, hc, -⟩
      · rw [eq_nil_of_origins hor hnil, List.append_nil, he]
        exact .inl hno
      · have hrr : r = row := by
          have := RowTable.lookup_of_mem hk hr
          rw [he] at this
          exact Option.some.inj (this.symm.trans hrow)
        rw [hrr, ← hc.origins]
        exact .inr hor
    · have hnew : ts.filter (fun k => decide (k.orderId = r.id)) = [] := by
        refine List.filter_eq_nil_iff.mpr fun k hk => ?_
        simpa using fun hkr => he (hkr.symm.trans (hfrom k hk))
      rw [hnew, List.append_nil, hother r.id he]
      exact h.whole r hr
  · rw [hi.moves.soldQty, h.sold]
    exact (issuedSum_issued hk ho hts hor hno hrow' fun _ => rfl).symm
  · rw [hi.moves.counterPaid, h.paid]
    refine (issuedSum_issued hk ho hts hor hno hrow' fun u' => ?_).symm
    simp [qtyOf_nil_eq]

/-! ## The items of a drawn order -/

/-- The ids of the items are their order's and their positions. -/
theorem orderItems_keyed (o : OrderId) (metas : List TicketMeta) :
    RowTable.Keyed OrderItem.id (orderItems o metas) := by
  refine List.nodup_iff_injective_getElem.mpr fun a b hab => ?_
  simp only [orderItems, List.getElem_map, List.getElem_mapIdx, Prod.mk.injEq, true_and] at hab
  exact Fin.ext hab

/-- The items of a new order carry its id. -/
theorem orderItems_id {o : OrderId} {metas : List TicketMeta} {i : OrderItem}
    (h : i ∈ orderItems o metas) : i.id.1 = o := by
  obtain ⟨n, -, rfl⟩ := List.mem_mapIdx.mp h
  rfl

/-- The items of an order are told apart. -/
theorem Drawn.items_keyed {w : World} {r : Order} (h : Drawn w r) :
    RowTable.Keyed OrderItem.id r.items ∧ ∀ i ∈ r.items, i.id.1 = r.id := by
  obtain ⟨ctx, metas, -, hc⟩ := h
  rw [hc.items]
  exact ⟨orderItems_keyed r.id metas, fun i => orderItems_id⟩

/-- An item has all its tickets once its order has any. -/
theorem Once.itemTickets_eq {w : World} (h : Once w.db) (hw : WorldSound w) {r : Order}
    (hr : r ∈ w.db.orders) {i : OrderItem} (hi : i ∈ r.items) :
    itemTickets w.db i = if NoTickets r.id w.db.tickets then 0 else i.quantity := by
  obtain ⟨hkeyed, hid⟩ := (hw.rows r hr).items_keyed
  -- tickets of the item are tickets of its order
  have hown : ∀ k ∈ w.db.tickets, (originOf k).2.1 = i.id → k.orderId = r.id := by
    intro k hk hki
    obtain ⟨row, hrow, -⟩ := h.owned k hk
    have hmem := RowTable.lookup_mem hrow
    have hrid : row.id = k.orderId := RowTable.lookup_key hrow
    rcases h.whole row hmem with hno | hall
    · exact absurd hrid.symm (hno k hk)
    · have hk' : originOf k ∈ originsOf row row.items := by
        rw [← hall]
        exact List.mem_map_of_mem (List.mem_filter.mpr ⟨hk, by simp [hrid]⟩)
      obtain ⟨j, hj, hkj⟩ := List.mem_flatMap.mp hk'
      have horig := (List.mem_replicate.mp hkj).2
      have hji : j.id = i.id := by
        rw [← hki, horig]
        rfl
      rw [← hrid, ← (hw.rows row hmem).items_keyed.2 j hj, hji]
      exact hid i hi
  have hcount : itemTickets w.db i = countWhere (fun x => x.2.1 = i.id) (w.db.ticketsOf r.id) := by
    simp only [itemTickets, countWhere, Db.ticketsOf, List.filter_filter]
    congr 2
    refine List.filter_congr fun k hk => ?_
    by_cases hki : (originOf k).2.1 = i.id
    · simp [hki, hown k hk hki]
    · simp [hki]
  rw [hcount]
  split
  · next hno =>
    have hnil : w.db.ticketsOf r.id = [] :=
      List.filter_eq_nil_iff.mpr fun k hk => by simpa using hno k hk
    rw [hnil, countWhere_nil]
  · next hsome =>
    rw [countWhere_of_origins _ ((h.whole r hr).resolve_left hsome)]
    exact RowTable.sum_single OrderItem.quantity hkeyed (RowTable.lookup_of_mem hkeyed hi)

/-- All of an order's tickets or none, per item. -/
theorem Once.issuedOnce {w : World} (h : Once w.db) (hw : WorldSound w) : IssuedOnce w.db := by
  refine ⟨fun r hr i hi => ?_, h.sold, h.paid⟩
  have := i.quantity_pos
  rw [h.itemTickets_eq hw hr hi]
  split <;> omega

/-! ## Between the check and the issuing -/

/-- The order whose tickets the operation has still to issue has none. -/
def AskUnissued (w : World) (d : Ask) : Prop :=
  ∀ o ∈ Ask.toIssue d, NoTickets o w.db.tickets

/-- Every order the program has still to issue has no tickets. -/
def OpUnissued (w : World) (prog : Op) : Prop := prog.All (AskUnissued w) fun _ => True

/-- A batch issues what follows it. -/
theorem opUnissued_par {w : World} {ts : List Task} {h rest : Op} :
    OpUnissued w (.par ts h rest) ↔ OpUnissued w h ∧ OpUnissued w rest := by
  simp [OpUnissued]

/-- A transaction that issues is one that was to issue. -/
theorem toIssue_of_issues {d : Ask} {order : Order} {P : Order → Prop} (hc : AskCopies P d)
    (h : Ask.issues d = some order) : Ask.toIssue d = some order.id := by
  unfold Ask.issues at h
  split at h <;> cases h
  · exact congrArg some hc.1.symm
  · exact congrArg some hc.1.symm

/-- The order a call issues is a copy it carries. -/
theorem issues_copy {d : Ask} {order : Order} {P : Order → Prop} (hc : AskCopies P d)
    (h : Ask.issues d = some order) : P order := by
  unfold Ask.issues at h
  split at h <;> cases h
  · exact hc.2
  · exact hc.2.2

/-- Only the webhook and the worker issue. -/
theorem toIssue_of_kind {d : Ask} (h : Ask.kind d ≠ .webhook ∧ Ask.kind d ≠ .ticketIssue) :
    Ask.toIssue d = none := by
  unfold Ask.toIssue
  split
  all_goals first
    | rfl
    | exact absurd rfl h.1
    | exact absurd rfl h.2

/-- A call that is not to issue relies on nothing. -/
theorem askUnissued_of_none {w : World} {d : Ask} (h : Ask.toIssue d = none) :
    AskUnissued w d := by
  intro o ho
  rw [h] at ho
  cases ho

/-- Where the order has no tickets, its issuing relies on that. -/
theorem askUnissued_of_noTickets {w : World} {d : Ask} {o : OrderId} (hd : Ask.toIssue d = some o)
    (h : NoTickets o w.db.tickets) : AskUnissued w d := by
  intro o' ho
  rw [hd] at ho
  cases ho
  exact h

/-- The count of none means none. -/
theorem noTickets_of_ticketsOf {db : Db} {o : OrderId} (h : db.ticketsOf o = []) :
    NoTickets o db.tickets := by
  intro k hk
  simpa using List.filter_eq_nil_iff.mp h k hk

/-- Every call goes on with what it has found without tickets. -/
theorem dispatch_unissued {ch : Choice} {w w' : World} {d : Ask} {prog : Op}
    (h : dispatch ch w d = some (w', prog)) (honce : Once w.db) (hd : AskUnissued w d) :
    OpUnissued w' prog := by
  by_cases hk : Ask.kind d ≠ .webhook ∧ Ask.kind d ≠ .ticketIssue
  · exact (asked_kind (dispatch_asked h)).mono
      (fun _ he => askUnissued_of_none (toIssue_of_kind (he ▸ hk))) fun _ => id
  -- calls that answer in every state, and those that may throw instead
  have hsome : ∀ {x : World × Op}, some x = some (w', prog) → OpUnissued x.1 x.2 →
      OpUnissued w' prog := fun hq => prop_of_some (P := OpUnissued) hq
  have hreads : ∀ {q : Op}, reads ch w q = some (w', prog) → OpUnissued w q →
      OpUnissued w' prog := fun hq => prop_of_reads (P := OpUnissued) hq trivial
  cases d with
  | handleMockWebhook dto =>
      refine hreads h ?_
      simp only [TicketPayment.handleMockWebhook]
      split
      · trivial
      · split
        · trivial
        · next order ho =>
          split
          · trivial
          · split
            · trivial
            · exact askUnissued_of_none rfl
            · next hs =>
              split
              · exact askUnissued_of_none rfl
              · exact askUnissued_of_none rfl
              · exact askUnissued_of_noTickets rfl (honce.noTickets_of_pending ho hs)
            · trivial
  | recordLateWebhook dto message =>
      refine hsome h ?_
      simp only [TicketPayment.recordLateWebhook]
      split <;> trivial
  | handlePaymentTimeout dto =>
      refine hsome h ?_
      simp only [TicketPayment.handlePaymentTimeout]
      split <;> trivial
  | failedCheck order =>
      refine hreads h ?_
      simp only [TicketPayment.failedCheck]
      repeat' split
      · exact askUnissued_of_none rfl
      · exact opUnissued_par.mpr ⟨trivial, trivial⟩
      · exact opUnissued_par.mpr ⟨trivial, trivial⟩
  | failedCommit order =>
      refine hsome h ?_
      simp only [TicketPayment.failedCommit]
      split
      · trivial
      · exact opUnissued_par.mpr ⟨trivial, trivial⟩
  | findGates dto order =>
      refine hreads h ?_
      simp only [TicketPayment.findGates]
      split <;> exact askUnissued_of_noTickets rfl (hd _ rfl)
  | countGateTickets dto order gates =>
      exact hreads h (askUnissued_of_noTickets rfl (hd _ rfl))
  | successCommit dto order gateName =>
      refine hsome h ?_
      simp only [TicketPayment.successCommit]
      split
      · trivial
      · exact askUnissued_of_none rfl
  | delReservation order =>
      refine hsome h ?_
      simp only [TicketPayment.delReservation]
      split
      · trivial
      · exact askUnissued_of_none rfl
  | sendOrderPaidEmail order =>
      refine hsome h ?_
      simp only [TicketPayment.sendOrderPaidEmail]
      split <;> trivial
  | issueJob job =>
      refine hreads h ?_
      simp only [TicketServices.issueJob]
      repeat' split
      all_goals trivial
  | countIssued job order =>
      refine hreads h ?_
      simp only [TicketServices.countIssued]
      split
      · exact askUnissued_of_none rfl
      · next hnone =>
        refine askUnissued_of_noTickets rfl ?_
        exact noTickets_of_ticketsOf (List.length_eq_zero_iff.mp (Nat.eq_zero_of_not_pos hnone))
  | issueCommit job order =>
      refine hsome h ?_
      simp only [TicketServices.issueCommit]
      split
      · trivial
      · exact askUnissued_of_none rfl
  | completeJob job answer =>
      refine hsome h ?_
      simp only [TicketServices.completeJob]
      split <;> trivial
  | createPaymentUrl caller o u =>
      cases caller <;> exact absurd (by simp [Ask.kind, callerKind]) hk
  | callGateway caller o amount existing =>
      cases caller <;> exact absurd (by simp [Ask.kind, callerKind]) hk
  | savePaymentUrl caller o amount existing url =>
      cases caller <;> exact absurd (by simp [Ask.kind, callerKind]) hk
  | _ => exact absurd (by simp [Ask.kind]) hk

/-- What one call disturbs: an order without tickets stays without them, or it is the one
    the call issues. -/
theorem unissued_moved {ch : Choice} {w w' : World} {d d' : Ask} (hm : IssueMoved ch w w' d)
    (h : AskUnissued w d') : AskUnissued w' d' ∨
      ch.fails = false ∧ ∃ order, Ask.issues d = some order ∧ toIssue order.id d' = true := by
  cases hm with
  | issued order hf ho hi _ =>
      by_cases he : Ask.toIssue d' = some order.id
      · exact .inr ⟨hf, order, ho, by simpa [toIssue] using he⟩
      · left
        obtain ⟨ts, hts, hor⟩ := hi.tickets
        intro o ho'
        rw [hts]
        have hne : o ≠ order.id := fun heq => he (heq ▸ ho')
        exact ((noTickets_append w.db.tickets hor).1 o hne).mpr (h o ho')
  | other _ ht _ _ =>
      left
      intro o ho
      rw [ht]
      exact h o ho

/-! ## All runs that issue an order once -/

/-- A copy of an order with items has a row, and one that was not PENDING_PAYMENT when it was
    read has a row that is not. -/
def Kept (w : World) (r : Order) : Prop :=
  Drawn w r ∧ (r.items = [] ∨ ∃ row, w.db.findOrder r.id = some row ∧
    (r.status ≠ .pendingPayment → row.status ≠ .pendingPayment))

/-- The row of a copy has the copy's content. -/
theorem Kept.row {w : World} (hw : WorldSound w) {r : Order} (h : Kept w r) :
    r.items = [] ∨ ∃ row, w.db.findOrder r.id = some row ∧ SameContent row r ∧
      (r.status ≠ .pendingPayment → row.status ≠ .pendingPayment) := by
  refine h.2.imp_right fun ⟨row, hrow, hs⟩ => ⟨row, hrow, ?_, hs⟩
  exact h.1.content (hw.rows row (RowTable.lookup_mem hrow)) (RowTable.lookup_key hrow)

/-- A row that was read stays a copy of what is there. -/
theorem Kept.moved {ch : Choice} {w w' : World} {d : Ask} (hm : OrdersMoved ch w w' d)
    (hg : Grows w w') (hw : WorldSound w) {r : Order} (h : Kept w r) : Kept w' r := by
  refine ⟨hg.drawn h.1, ?_⟩
  by_cases hnil : r.items = []
  · exact .inl hnil
  right
  obtain ⟨row, hrow, hc, hs⟩ := (h.row hw).resolve_left hnil
  obtain ⟨row', hrow', -, hleft⟩ := hm.found hrow (.inl (hc.items ▸ hnil))
  exact ⟨row', hrow', fun hr => hleft (hs hr)⟩

/-- A row just read has itself. -/
theorem kept_of_mem {w : World} (hw : WorldSound w) {r : Order} (hr : r ∈ w.db.orders) :
    Kept w r :=
  ⟨hw.rows r hr, .inr ⟨r, RowTable.lookup_of_mem hw.keyed hr, id⟩⟩

/-- One call of a run that issues each order once. -/
theorem Once.asked {ch : Choice} {w w' : World} {d : Ask} {prog : Op} (h : Once w.db)
    (hw : WorldSound w) (ha : Asked ch w d w' prog) (hk : Ask.kind d ≠ .updateTicketType)
    (hc : AskCopies (Kept w) d) (hu : AskUnissued w d) : Once w'.db := by
  rcases asked_issueMoved ha hk hc with ⟨order, hf, ho, hi, hrows⟩ | ⟨hm, ht, hsold, hpaid⟩
  · have hno : NoTickets order.id w.db.tickets := hu _ (toIssue_of_issues hc ho)
    rcases hrows with ⟨hsame, hs⟩ | ⟨hd, hset⟩
    · -- the worker's transaction: its copy was PAID when it was read
      refine h.issue hw.keyed hsame hi hno ?_
      refine ((issues_copy hc ho).row hw).imp_right fun ⟨row, hrow, hcon, hleft⟩ => ?_
      exact ⟨row, hrow, hcon, hleft (by rw [hs]; decide)⟩
    · -- the webhook's transaction: the status first, then the tickets
      have hset' : OrderSet order.id .paid w.db { w.db with orders := w'.db.orders } :=
        hset.congr rfl rfl
      have hmoved : OrdersMoved ch w { w with db := { w.db with orders := w'.db.orders } } d :=
        .set order.id .paid hf hd hset'
      have hmid : Once { w.db with orders := w'.db.orders } :=
        h.orders hw.keyed hmoved rfl (fun _ => rfl) fun _ _ => rfl
      refine hmid.issue (hset.keyed hw.keyed) rfl (hi.of_orders w'.db.orders) hno ?_
      refine ((issues_copy hc ho).row hw).imp_right fun ⟨row, hrow, hcon, _⟩ => ?_
      obtain ⟨row₀, row', hrow₀, hrow', hc', hs⟩ := hset.find_self
      rw [hrow] at hrow₀
      cases hrow₀
      exact ⟨row', hrow', hc'.symm.trans hcon, by rw [hs]; decide⟩
  · exact h.orders hw.keyed hm ht hsold hpaid

/-- A task issues nothing. -/
theorem Once.performed {ch : Choice} {w w' : World} {t : Task} {res : TaskResult Task}
    (h : Once w.db) (hp : Performed ch w t w' res) : Once w'.db := by
  obtain ⟨ho, ht, -⟩ := performed_orders hp
  obtain ⟨r, -, hm, -⟩ := performed_inventory hp
  have hsum : ∀ weight, issuedSum weight w'.db = issuedSum weight w.db := by
    intro weight
    simp only [issuedSum, ho, ht]
  refine ⟨fun k hk => ?_, fun r hr => ?_, fun t => ?_, fun u t => ?_⟩
  · simpa only [Db.findOrder, ho] using h.owned k (ht ▸ hk)
  · rw [ht, ticketsOf_congr ht]
    exact h.whole r (ho ▸ hr)
  · rw [hm.sold_paid.1, h.sold, hsum]
  · rw [hm.sold_paid.2, h.paid, hsum]

/-- A request has checked nothing yet. -/
theorem opUnissued_enter {w : World} {r : Request} {prog : Op} (h : enter w r = some prog) :
    OpUnissued w prog := by
  rw [enter_call h]
  cases r <;> exact askUnissued_of_none rfl

/-- What holds in a run that issues each order once. -/
structure IssuingOnce (p : State) : Prop where
  sound : Sound p
  kinds : OnlyKinds (· ≠ .updateTicketType) p
  copies : ∀ prog ∈ p.ops, OpCopies (Kept p.world) prog
  unissued : ∀ prog ∈ p.ops, OpUnissued p.world prog
  once : Once p.world.db

/-- **Every step** of such a sale keeps all of it. -/
theorem IssuingOnce.step {p q : State} (hp : IssuingOnce p) (h : backend.Step issuingAlone p q) :
    IssuingOnce q := by
  refine ⟨hp.sound.step h, hp.kinds.step (fun _ => id) h, ?_, ?_, ?_⟩
  -- the copies that operations work on stay those of the rows
  · refine System.Step.all (J := fun w => AskCopies (Kept w)) (K := fun _ _ => True)
      h hp.copies ?_ ?_ ?_ ?_
    · intro r prog _ he
      exact opCopies_enter he
    · intro ch d w' prog _ hd _ hdec
      have hasked := dispatch_asked hdec
      have hmoved : ∀ r, Kept p.world r → Kept w' r := fun r hr =>
        hr.moved (asked_orders hasked) (asked_grows hasked hp.sound.fresh).1 hp.sound.toWorldSound
      refine ⟨dispatch_copies hdec (hd.mono hmoved) fun hr => ?_,
        fun d' => AskCopies.mono hmoved, fun _ => id⟩
      exact hmoved _ (kept_of_mem hp.sound.toWorldSound (RowTable.lookup_mem hr))
    · intro ch t w' res _ _ hperf
      obtain ⟨ho, -, hdr, -⟩ := performed_orders (perform_performed hperf)
      have hmoved : ∀ r, Kept p.world r → Kept w' r := by
        rintro r ⟨hd, hrow⟩
        exact ⟨(Grows.of_eq hdr).drawn hd, by simpa only [Db.findOrder, ho] using hrow⟩
      exact ⟨fun _ _ => trivial, fun d' => AskCopies.mono hmoved, fun _ => id⟩
    · intro ms _
      exact ⟨fun d' => id, fun _ => id⟩
  -- a commit that issues is alone, so nobody else's check grows old by it
  · refine h.exclusive (J := AskUnissued) (K := fun _ _ => True) hp.unissued ?_ ?_ ?_ ?_
    · intro r prog _ he
      exact opUnissued_enter he
    · intro ch d w' prog hmem hd hg hdec
      refine ⟨dispatch_unissued hdec hp.once hd, fun d' hd' => ?_, fun _ _ => .inl trivial⟩
      have hmoved := asked_issueMoved (dispatch_asked hdec) (hp.kinds.ask hmem) (hp.copies _ hmem)
      rcases unissued_moved hmoved hd' with hkept | ⟨hf, order, ho, hwho⟩
      · exact .inl hkept
      · exact .inr ⟨_, _, hwho, hg hf order ho⟩
    · intro ch t w' res _ _ hperf
      have ht := (performed_orders (perform_performed hperf)).2.1
      refine ⟨fun _ _ => trivial, fun d' hd' => .inl ?_, fun _ _ => .inl trivial⟩
      intro o ho
      rw [ht]
      exact hd' o ho
    · intro ms _
      exact ⟨fun d' => id, fun _ => id⟩
  -- and with that check it is the first of its order
  · refine h.world (I := fun w => Once w.db) hp.once ?_ ?_ ?_
    · intro ch d w' prog hmem _ hd
      exact hp.once.asked hp.sound.toWorldSound (dispatch_asked hd) (hp.kinds.ask hmem)
        (hp.copies _ hmem) (hp.unissued _ hmem)
    · intro ch t w' res _ _ hperf
      exact hp.once.performed (perform_performed hperf)
    · intro ms _
      exact hp.once

/-- At the start there is nothing to keep. -/
theorem Opening.issuingOnce {p : State} (h : Opening p) : IssuingOnce p where
  sound := h.sound
  kinds := .of_nil h.ops_nil
  copies prog hp := by
    rw [h.ops_nil] at hp
    cases hp
  unissued prog hp := by
    rw [h.ops_nil] at hp
    cases hp
  once := by
    refine ⟨fun k hk => ?_, fun r hr => ?_, fun t => ?_, fun u t => ?_⟩
    · rw [h.tickets_nil] at hk
      cases hk
    · rw [h.orders_nil] at hr
      cases hr
    · rw [← h.counted.1.tickets, Db.ticketCount, h.tickets_nil, issuedSum, h.orders_nil]
      rfl
    · rw [counterPaid_of_none (h.counters_none _), issuedSum, h.orders_nil]
      rfl

/-! ## Orders settled and issued alone -/

/-- What the operation of a call has found out still holds. -/
structure AskReady (w : World) (d : Ask) : Prop where
  fresh : AskFresh w d
  unissued : AskUnissued w d
  kept : AskCopies (Kept w) d
  current : AskCopies (Current w) d

/-- An order about to be settled holds its inventory. -/
theorem AskReady.settled {w : World} {d : Ask} {o : OrderId} (h : AskReady w d)
    (honce : Once w.db) (hd : Ask.settles d = some o) (hrow : (w.db.findOrder o).isSome) :
    Unissued o w.db := by
  obtain ⟨row, hrow⟩ := Option.isSome_iff_exists.mp hrow
  have hs : row.status = .pendingPayment := h.fresh.settles o hd row hrow
  exact ⟨row, hrow, .inl hs, honce.noTickets_of_pending hrow hs⟩

/-- The worker issues a PAID order that has no tickets, or one without items. -/
theorem AskReady.issued {w : World} {job : TicketIssueJob} {order : Order}
    (h : AskReady w (.issueCommit job order)) :
    (∃ row, w.db.findOrder order.id = some row ∧ row.status = .paid) ∧
      NoTickets order.id w.db.tickets := by
  obtain ⟨hid, hs, hcur⟩ := h.current
  obtain ⟨row, hrow, hst⟩ := hcur (by rw [hs]; decide)
  exact ⟨⟨row, hrow, hst.trans hs⟩, h.unissued _ (congrArg some hid.symm)⟩

/-- A status that cannot be written is that of an order without items. -/
theorem AskReady.mark_failed {ch : Choice} {w : World} {d : Ask} {order : Order}
    (h : AskReady w d) (hd : d = .markCancelled order ∨ d = .markExpired order)
    (hf : ch.fails = true ∨ w.db.findOrder order.id = none) (hok : ch.fails = false) :
    order.items = [] := by
  have hkept : Kept w order := by
    rcases hd with rfl | rfl <;> exact h.kept
  obtain ⟨-, hnil | ⟨row, hrow, -⟩⟩ := hkept
  · exact hnil
  · rcases hf with hf | hf
    · rw [hok] at hf
      cases hf
    · rw [hrow] at hf
      cases hf

/-- What holds in a run in which nobody settles or issues an order between another
    operation's read of it and its write. -/
structure Uncontested (p : State) : Prop where
  final : StatusFinal p
  issuing : IssuingOnce p

/-- A call works on what its operation has read. -/
theorem Uncontested.ready {p : State} (hp : Uncontested p) {d : Ask} (hd : .ask d ∈ p.ops) :
    AskReady p.world d where
  fresh := hp.final.fresh.ask hd
  unissued := hp.issuing.unissued _ hd
  kept := hp.issuing.copies _ hd
  current := hp.final.copies _ hd

/-- Both conditions keep their invariants side by side. -/
theorem Uncontested.step {p q : State} {G : Condition} (hp : Uncontested p)
    (hsettles : G.Implies settlingAlone) (hissues : G.Implies issuingAlone)
    (h : backend.Step G p q) : Uncontested q :=
  ⟨hp.final.step (h.weaken hsettles), hp.issuing.step (h.weaken hissues)⟩

/-- At the start both hold. -/
theorem Opening.uncontested {p : State} (h : Opening p) : Uncontested p :=
  ⟨h.statusFinal, h.issuingOnce⟩

/-! ## An order that became PAID gets its tickets -/

/-- The order a call is about to queue a job for. -/
def Ask.enqueues : Ask → Option Order
  | .enqueueTicketIssue order _ => some order
  | _ => none

/-- A sale in which nobody issues tickets of an order or writes its status between
    another operation's read of the order and its own write, and no job for order `o`
    fails to be queued. -/
def issuingFully (o : OrderId) : Condition where
  req _ r := Request.kind r ≠ .updateTicketType
  ask p ch d := issuingAlone.ask p ch d ∧ settlingAlone.ask p ch d ∧
    ∀ order ∈ Ask.enqueues d, order.id = o → ch.fails = false
  task _ _ _ := True
  env _ _ := True

/-- The condition of the second half says more. -/
theorem issuingFully_issues (o : OrderId) : (issuingFully o).Implies issuingAlone where
  req _ _ := id
  ask _ _ _ h := h.1
  task _ _ _ := id
  env _ _ := id

/-- It also keeps statuses final. -/
theorem issuingFully_settles (o : OrderId) : (issuingFully o).Implies settlingAlone where
  req _ _ _ := trivial
  ask _ _ _ h := h.2.1
  task _ _ _ := id
  env _ _ := id

/-- The order is PAID and its tickets are still to be issued. -/
def Due (o : OrderId) (db : Db) : Prop :=
  ∃ row, db.findOrder o = some row ∧ row.status = .paid ∧ row.items ≠ [] ∧ NoTickets o db.tickets

/-- No call in flight is about to complete job `n`. -/
def NotCompleting (n : Nat) (prog : Op) : Prop :=
  prog.All (fun d => ∀ job answer, d = .completeJob job answer → job.id ≠ n) fun _ => True

/-- A job for the order is about to be queued, or is queued with no delivery of
    it past its checks. -/
def Queued (o : OrderId) (p : State) : Prop :=
  (∃ order rest, .ask (.enqueueTicketIssue order rest) ∈ p.ops ∧ order.id = o) ∨
    ∃ j ∈ p.world.ticketIssueJobs, j.orderId = o ∧ ∀ prog ∈ p.ops, NotCompleting j.id prog

/-- What is due depends on the order and its tickets. -/
theorem Due.congr {o : OrderId} {db db' : Db} (h : Due o db')
    (hrow : db'.findOrder o = db.findOrder o)
    (ht : NoTickets o db'.tickets → NoTickets o db.tickets) : Due o db := by
  obtain ⟨row, hfind, hs, hi, hno⟩ := h
  exact ⟨row, hrow ▸ hfind, hs, hi, ht hno⟩

/-- A status other than PAID makes no order due. -/
theorem Due.of_set {o o' : OrderId} {s : OrderStatus} {db db' : Db} (h : Due o db')
    (hset : OrderSet o' s db db') (hs : o = o' → s ≠ .paid) (ht : db'.tickets = db.tickets) :
    Due o db := by
  have hne : o ≠ o' := by
    rintro rfl
    obtain ⟨row, hrow, hpaid, -⟩ := h
    obtain ⟨-, row', -, hrow', -, hs'⟩ := hset.find_self
    rw [hrow] at hrow'
    cases hrow'
    exact hs rfl (hs'.symm.trans hpaid)
  exact h.congr (hset.find_ne hne) (ht ▸ id)

/-- Issuing leaves no order due that was not due before. -/
theorem Due.of_issued {order : Order} {o : OrderId} {db db' : Db} (h : Due o db')
    (hi : Issued order order.items db db')
    (hrows : o ≠ order.id → db'.findOrder o = db.findOrder o)
    (hcon : ∀ row, db'.findOrder order.id = some row → row.items = order.items) :
    Due o db := by
  obtain ⟨ts, hts, hor⟩ := hi.tickets
  obtain ⟨hother, hempty⟩ := noTickets_append db.tickets hor
  by_cases he : o = order.id
  · -- the order has items, so it has tickets now
    obtain ⟨row, hrow, -, hitems, hno⟩ := h
    subst he
    rw [hts] at hno
    exact absurd ((hcon row hrow).trans (hempty hno)) hitems
  · refine h.congr (hrows he) fun hno => ?_
    rw [hts] at hno
    exact (hother o he).mp hno

/-- The only call that makes an order due goes on to queue a job for it. -/
theorem due_asked {ch : Choice} {w w' : World} {d : Ask} {prog : Op} {o : OrderId}
    (h : Asked ch w d w' prog) (hs : AskSound w d) (hw : WorldSound w) (hw' : WorldSound w')
    (hdue : Due o w'.db) :
    Due o w.db ∨ ∃ order rest, prog = .ask (.enqueueTicketIssue order rest) ∧ order.id = o := by
  have hcontent : ∀ {order row : Order}, Drawn w order → w'.db.findOrder order.id = some row →
      row.items = order.items := by
    intro order row hd hrow
    have hd' : Drawn w' order := (asked_grows h hw.fresh).1.drawn hd
    exact (hd'.content (hw'.rows row (RowTable.lookup_mem hrow))
      (RowTable.lookup_key hrow)).items.symm
  cases h with
  -- a new row is not paid
  | persisted ctx o' metas db _ hdb =>
      obtain ⟨rfl, hnone⟩ := insertOrder_eq hdb
      obtain ⟨row, hrow, hpaid, hitems, hno⟩ := hdue
      refine .inl ⟨row, ?_, hpaid, hitems, hno⟩
      simp only [Db.findOrder, RowTable.lookup_append] at hrow
      rcases Option.or_eq_some_iff.mp hrow with hrow | ⟨-, hrow⟩
      · exact hrow
      · split at hrow
        · cases hrow
          cases hpaid
        · cases hrow
  | synced ctx o' metas db _ hdb =>
      obtain ⟨ho, ht⟩ := syncInventory_same hdb
      exact .inl (hdue.congr (by simp only [Db.findOrder, ho]) (ht ▸ id))
  | deleted _ o' e db _ _ hdb =>
      obtain ⟨rfl, -⟩ := deleteOrder_eq hdb
      obtain ⟨row, hrow, hpaid, hitems, hno⟩ := hdue
      have hne : o ≠ o' := by
        rintro rfl
        rw [Db.findOrder, RowTable.lookup_remove_self] at hrow
        cases hrow
      rw [Db.findOrder, RowTable.lookup_remove_ne hne] at hrow
      exact .inl ⟨row, hrow, hpaid, hitems, hno⟩
  | cancelled order db _ hdb =>
      obtain ⟨hset, ht, -⟩ := commitCancelled_set hdb
      exact .inl (hdue.of_set hset (fun _ => by simp) ht)
  | expired order db _ hdb =>
      obtain ⟨hset, ht, -⟩ := commitExpired_set hdb
      exact .inl (hdue.of_set hset (fun _ => by simp) ht)
  | failed order db _ hdb =>
      have hrel := commitFailed_released hdb
      exact .inl (hdue.of_set hrel.set (fun _ => by simp) hrel.tickets)
  | succeeded dto order gateName db _ hdb =>
      obtain ⟨hset, hi⟩ := commitSuccess_issued hdb
      rw [← show order.id = dto.orderId from hs.2.1] at hset
      exact .inl (hdue.of_issued hi hset.find_ne
        fun row => hcontent hs.2.2)
  -- the one write that makes an order due, and its job is the next call
  | cronPaid order rest db _ hdb =>
      obtain ⟨hset, ht, -⟩ := commitCronPaid_set hdb
      by_cases he : order.id = o
      · exact .inr ⟨order, rest, rfl, he⟩
      · exact .inl (hdue.of_set hset (fun ho => absurd ho.symm he) ht)
  | cronExpired order res rest db _ hdb =>
      have hrel := commitCronExpire_released hdb
      exact .inl (hdue.of_set hrel.set (fun _ => (orderStatus_final res).2) hrel.tickets)
  | issued job order db _ hdb =>
      obtain ⟨ho, hi⟩ := commitIssue_issued hdb
      exact .inl (hdue.of_issued hi
        (fun _ => by simp only [Db.findOrder, ho]) fun row => hcontent hs.2.2.2)
  | typeWritten existing dto db row _ hdb _ _ =>
      obtain ⟨ho, ht, -⟩ := writeTicketType_same hdb
      exact .inl (hdue.congr (by simp only [Db.findOrder, ho]) (ht ▸ id))
  | soldOutSet row db hdb =>
      obtain ⟨ho, ht, -⟩ := writeTicketType_same hdb
      exact .inl (hdue.congr (by simp only [Db.findOrder, ho]) (ht ▸ id))
  | _ => exact .inl hdue

/-- No task makes an order due. -/
theorem due_performed {ch : Choice} {w w' : World} {t : Task} {res : TaskResult Task}
    {o : OrderId} (h : Performed ch w t w' res) (hdue : Due o w'.db) : Due o w.db := by
  obtain ⟨ho, ht, -⟩ := performed_orders h
  exact hdue.congr (by simp only [Db.findOrder, ho]) (ht ▸ id)

/-- None means the count of none. -/
theorem ticketsOf_eq_nil {db : Db} {o : OrderId} (h : NoTickets o db.tickets) :
    db.ticketsOf o = [] :=
  List.filter_eq_nil_iff.mpr fun k hk => by simpa using h k hk

/-- While an order is due, no delivery of its queued job passes its checks and
    completes without having issued the tickets. -/
theorem notCompleting_dispatch {ch : Choice} {w w' : World} {d : Ask} {prog : Op}
    {j : TicketIssueJob} (h : dispatch ch w d = some (w', prog)) (hs : AskSound w d)
    (hw : WorldSound w) (hj : j ∈ w.ticketIssueJobs)
    (hknown : ∀ job ∈ Ask.job d, JobKnown w job) (hdue : Due j.orderId w.db)
    (hdue' : Due j.orderId w'.db) : NotCompleting j.id prog := by
  have hjobs := dispatch_job h
  by_cases hother : ∃ job ∈ Ask.job d, job.id = j.id
  swap
  · refine hjobs.mono (fun d' hd' job answer he hid => ?_) fun _ => id
    subst he
    exact hother ⟨job, hd' job rfl, hid⟩
  obtain ⟨job, hjob, hid⟩ := hother
  have heq : j = job := (hknown job hjob).2 j hj hid.symm
  subst heq
  clear hid hknown hj
  obtain ⟨row, hrow, hpaid, hitems, hno⟩ := hdue
  have hsome : ∀ {x : World × Op}, some x = some (w', prog) →
      NotCompleting j.id x.2 → NotCompleting j.id prog :=
    fun hq => prop_of_some (P := fun _ prog => NotCompleting j.id prog) hq
  have hreads : ∀ {q : Op}, reads ch w q = some (w', prog) →
      NotCompleting j.id q → NotCompleting j.id prog :=
    fun hq => prop_of_reads (P := fun _ prog => NotCompleting j.id prog) hq trivial
  unfold Ask.job at hjob
  split at hjob <;> cases hjob
  · -- the row it reads is PAID
    refine hreads h ?_
    simp only [TicketServices.issueJob, hrow, hpaid, ne_eq, not_true_eq_false, if_false]
    split
    · trivial
    · rintro job answer ⟨⟩
  · -- it counts no ticket
    refine hreads h ?_
    simp only [TicketServices.countIssued, ticketsOf_eq_nil hno, List.length_nil,
      Nat.lt_irrefl, if_false]
    rintro job answer ⟨⟩
  · -- had it issued the tickets, the order would not be due
    next order =>
    have hcon := hs.2.2.2.content (hw.rows row (RowTable.lookup_mem hrow))
      ((RowTable.lookup_key hrow).trans (show order.id = j.orderId from hs.2.1).symm)
    have hx : TicketServices.issueCommit j order ch w = (w', prog) := Option.some.inj h
    simp only [TicketServices.issueCommit] at hx
    split at hx <;> obtain ⟨rfl, rfl⟩ := Prod.mk.injEq .. ▸ hx
    · trivial
    · next db hdb =>
      split at hdb
      · cases hdb
      · obtain ⟨-, hi⟩ := commitIssue_issued hdb
        obtain ⟨ts, hts, hor⟩ := hi.tickets
        obtain ⟨-, -, -, -, hno'⟩ := hdue'
        rw [show db.tickets = w.db.tickets ++ ts from hts, ← show order.id = j.orderId from hs.2.1]
          at hno'
        exact absurd (hcon.items ▸ (noTickets_append _ hor).2 hno') hitems
  · refine hsome h ?_
    simp only [TicketServices.completeJob]
    split <;> trivial

/-- What holds in a run that issues order `o` fully. -/
structure IssuingFully (o : OrderId) (p : State) : Prop where
  once : IssuingOnce p
  fresh : Undisturbed p
  jobs : JobsKnown p
  queued : Due o p.world.db → Queued o p

/-- A job about to be queued gets queued. -/
theorem queued_of_enqueueing {o : OrderId} {p q : State} (hp : IssuingFully o p)
    (h : backend.Step (issuingFully o) p q) {order : Order} {rest : List Order}
    (hmem : .ask (.enqueueTicketIssue order rest) ∈ p.ops) (hid : order.id = o) : Queued o q := by
  rcases h.stays hmem with hstay | ⟨i, ch, w', prog, hi, hg, hdec, rfl⟩
  · exact .inl ⟨order, rest, hstay, hid⟩
  have hd : dispatch ch p.world (.enqueueTicketIssue order rest) = some (w', prog) := hdec
  -- the new id is above the ids of all jobs in delivery
  have hold : ∀ {prog' : Op}, prog'.All (fun d => ∀ job ∈ Ask.job d, JobKnown p.world job)
      (fun _ => True) → NotCompleting p.world.nextJobId prog' := fun hall =>
    hall.mono (fun d hd job answer he => by
      subst he
      exact Nat.ne_of_lt (hd job rfl).1) fun _ => id
  have hnew : ∀ prog' ∈ p.ops.set i prog, NotCompleting p.world.nextJobId prog' := by
    refine all_of_set (fun prog' hmem' => hold (hp.jobs.ops _ hmem')) (hold ?_)
    exact (dispatch_job hd).mono (fun d' hd' job hjob => nomatch hd' job hjob) fun _ => id
  have hok := hg.2.2 order rfl hid
  simp only [dispatch, TicketPayment.enqueueTicketIssue, hok, Bool.false_eq_true, if_false,
    Option.some.injEq, Prod.mk.injEq] at hd
  obtain ⟨rfl, -⟩ := hd
  refine .inr ⟨{ id := p.world.nextJobId, orderId := order.id }, ?_, hid, hnew⟩
  exact List.mem_append_right _ List.mem_cons_self

/-- An operation completes no job when it begins. -/
theorem notCompleting_enter {w : World} {r : Request} {prog : Op} (n : Nat)
    (h : enter w r = some prog) : NotCompleting n prog := by
  rw [enter_call h]
  cases r <;> rintro job answer ⟨⟩

/-- A queued job of an order that stays due stays queued. -/
theorem queued_of_queued {o : OrderId} {p q : State} (hp : IssuingFully o p)
    (h : backend.Step (issuingFully o) p q) {j : TicketIssueJob}
    (hj : j ∈ p.world.ticketIssueJobs) (hjo : j.orderId = o)
    (hnot : ∀ prog ∈ p.ops, NotCompleting j.id prog) (hdue : Due o p.world.db)
    (hdue' : Due o q.world.db) : Queued o q := by
  subst hjo
  refine .inr ⟨j, ?_, rfl, ?_⟩
  · refine h.world (I := fun w => j ∈ w.ticketIssueJobs) hj ?_ ?_ ?_
    · intro ch d w' prog hmem _ hd
      rcases asked_queue (dispatch_asked hd) with ⟨hq, -⟩ | ⟨order, rest, -, hq, -⟩ |
        ⟨job, answer, rfl, hq, -⟩
      · exact hq ▸ hj
      · rw [hq]
        exact List.mem_append_left _ hj
      · rw [hq]
        refine List.mem_filter.mpr ⟨hj, ?_⟩
        simpa using (hnot _ hmem job answer rfl).symm
    · intro ch t w' res _ _ hperf
      exact (performed_queue (perform_performed hperf)).1 ▸ hj
    · intro ms _
      exact hj
  · have hall := System.Step.all
      (J := fun w d => Due j.orderId w.db → ∀ job answer, d = .completeJob job answer →
        job.id ≠ j.id) (K := fun _ _ => True) h
      (fun prog hmem => (hnot prog hmem).mono (fun _ hd _ => hd) fun _ => id) ?_ ?_ ?_ ?_
    · exact fun prog hmem => (hall prog hmem).mono (fun _ hd => hd hdue') fun _ => id
    · intro r prog _ he
      exact (notCompleting_enter j.id he).mono (fun _ hd _ => hd) fun _ => id
    · intro ch d w' prog hmem hd _ hdec
      refine ⟨?_, fun d' hd' _ => hd' hdue, fun _ => id⟩
      by_cases hdue'' : Due j.orderId w'.db
      · exact (notCompleting_dispatch hdec (hp.once.sound.ask hmem) hp.once.sound.toWorldSound hj
          (hp.jobs.ops _ hmem) hdue hdue'').mono (fun _ hd' _ => hd') fun _ => id
      · exact (dispatch_job hdec).mono (fun _ _ hd' => absurd hd' hdue'') fun _ => id
    · intro ch t w' res _ _ _
      exact ⟨fun _ _ => trivial, fun d' hd' _ => hd' hdue, fun _ => id⟩
    · intro ms _
      exact ⟨fun d' => id, fun _ => id⟩

/-- **Every step** keeps an order that is due on its way to its tickets. -/
theorem IssuingFully.step {o : OrderId} {p q : State} (hp : IssuingFully o p)
    (h : backend.Step (issuingFully o) p q) : IssuingFully o q := by
  have honce := hp.once.step (h.weaken (issuingFully_issues o))
  refine ⟨honce, hp.fresh.step (h.weaken (issuingFully_settles o)), hp.jobs.step h,
    fun hdue' => ?_⟩
  by_cases hdue : Due o p.world.db
  · rcases hp.queued hdue with ⟨order, rest, hmem, hid⟩ | ⟨j, hj, hjo, hnot⟩
    · exact queued_of_enqueueing hp h hmem hid
    · exact queued_of_queued hp h hj hjo hnot hdue hdue'
  · -- the step made it due, so it was the cron's transaction
    cases h with
    | started r prog _ _ => exact absurd hdue' hdue
    | asked i ch d w' prog hi _ hdec =>
        rcases due_asked (dispatch_asked hdec) (hp.once.sound.ask (List.mem_of_getElem? hi))
          hp.once.sound.toWorldSound honce.sound.toWorldSound hdue' with hold | ⟨order, rest, rfl, hid⟩
        · exact absurd hold hdue
        · exact .inl ⟨order, rest, mem_set_self hi _, hid⟩
    | settled i h rest _ => exact absurd hdue' hdue
    | resolved i k ch ts t h rest w' _ _ _ hperf =>
        exact absurd (due_performed (perform_performed hperf) hdue') hdue
    | wentOn i k ch ts t t' h rest w' _ _ _ hperf =>
        exact absurd (due_performed (perform_performed hperf) hdue') hdue
    | threw i k ch ts t h rest w' _ _ _ hperf =>
        exact absurd (due_performed (perform_performed hperf) hdue') hdue
    | moved ms _ => exact absurd hdue' hdue

/-- The order has the content of `row` and is PAID. -/
def PaidAs (row : Order) (w : World) : Prop :=
  ∃ r, w.db.findOrder row.id = some r ∧ SameContent row r ∧ r.status = .paid

/-- A PAID order with items stays what it is, and PAID. -/
theorem PaidAs.step {row : Order} {p q : State} (h : PaidAs row p.world) (hitems : row.items ≠ [])
    (hfresh : Undisturbed p) {G : Condition} (hs : backend.Step G p q) : PaidAs row q.world := by
  obtain ⟨r, hr, hc, hpaid⟩ := h
  have hsame : ∃ r', q.world.db.findOrder row.id = some r' ∧ SameContent row r' := by
    refine hs.world (I := fun w => ∃ r', w.db.findOrder row.id = some r' ∧ SameContent row r')
      ⟨r, hr, hc⟩ ?_ ?_ ?_
    · intro ch d w' prog _ _ hd
      obtain ⟨r', hr', hc', -⟩ :=
        (asked_orders (dispatch_asked hd)).found hr (.inl (hc.items ▸ hitems))
      exact ⟨r', hr', hc.trans hc'⟩
    · intro ch t w' res _ _ hperf
      refine ⟨r, ?_, hc⟩
      simpa only [Db.findOrder, (performed_orders (perform_performed hperf)).1] using hr
    · intro ms _
      exact ⟨r, hr, hc⟩
  obtain ⟨r', hr', hc'⟩ := hsame
  obtain ⟨r'', hr'', hs''⟩ := statusKept_step hfresh hs row.id r hr (by rw [hpaid]; decide)
  rw [hr'] at hr''
  cases hr''
  exact ⟨r', hr', hc', hs''.trans hpaid⟩

/-! ## The main result -/

/-- **Tickets are issued once**, in every run in which no tickets of an order are
    issued between another operation's check and its issuing transaction; and once
    everything has ended and no job of the order is left, an order that became PAID,
    with nobody writing between another's read and write, has all of them. -/
theorem tickets_issued_once {p q : State} (hp : Opening p) :
    (backend.Run issuingAlone p q → IssuedOnce q.world.db) ∧
      ∀ r row, r.world.db.findOrder row.id = some row → row.status = .paid →
        backend.Run (issuingFully row.id) p r → backend.Run (issuingFully row.id) r q →
        q.Quiet → (∀ j ∈ q.world.ticketIssueJobs, j.orderId ≠ row.id) →
        ∀ i ∈ row.items, itemTickets q.world.db i = i.quantity := by
  refine ⟨fun h => ?_, fun r row hrow hpaid hpr hrq hquiet hjobs i hi => ?_⟩
  · have hq : IssuingOnce q := h.inv (fun _ _ => IssuingOnce.step) hp.issuingOnce
    exact hq.once.issuedOnce hq.sound.toWorldSound
  · have hitems : row.items ≠ [] := List.ne_nil_of_mem hi
    have hstart : IssuingFully row.id p := by
      refine ⟨hp.issuingOnce, hp.statusFinal.fresh, hp.jobsKnown, fun hdue => ?_⟩
      obtain ⟨r', hr', -⟩ := hdue
      rw [Db.findOrder, hp.orders_nil] at hr'
      cases hr'
    have hr : IssuingFully row.id r := hpr.inv (fun _ _ => IssuingFully.step) hstart
    obtain ⟨hq, hpaidq⟩ := hrq.inv (I := fun s => IssuingFully row.id s ∧ PaidAs row s.world)
      (fun _ _ hs hstep => ⟨hs.1.step hstep, hs.2.step hitems hs.1.fresh hstep⟩)
      ⟨hr, row, hrow, SameContent.refl row, hpaid⟩
    obtain ⟨row', hrow', hc, hpaid'⟩ := hpaidq
    have hmem := RowTable.lookup_mem hrow'
    rw [hq.once.once.itemTickets_eq hq.once.sound.toWorldSound hmem (hc.items ▸ hi), if_neg]
    -- an order still due would have a job queued or about to be
    intro hno
    rw [hc.id] at hno
    rcases hq.queued ⟨row', hrow', hpaid', hc.items ▸ hitems, hno⟩ with
      ⟨order, rest, hask, -⟩ | ⟨j, hj, hjo, -⟩
    · obtain ⟨a, ha⟩ := hquiet _ hask
      cases ha
    · exact hjobs j hj hjo

/-! ### An order the cron marked paid -/

/-- A run can be checked for this, step by step. -/
instance (p : State) (ch : Choice) (d : Ask) : Decidable (issuingAlone.ask p ch d) :=
  inferInstanceAs (Decidable (ch.fails = false → ∀ order ∈ Ask.issues d, _))

/-- A run can be checked for this, step by step. -/
instance (p : State) (r : Request) (o : OrderId) : Decidable ((issuingFully o).req p r) :=
  inferInstanceAs (Decidable (_ ≠ _))
instance (p : State) (ch : Choice) (d : Ask) (o : OrderId) : Decidable ((issuingFully o).ask p ch d) :=
  inferInstanceAs (Decidable (issuingAlone.ask p ch d ∧ settlingAlone.ask p ch d ∧
    ∀ order ∈ Ask.enqueues d, _))
instance (p : State) (ch : Choice) (t : Task) (o : OrderId) : Decidable ((issuingFully o).task p ch t) :=
  inferInstanceAs (Decidable True)
instance (p : State) (ms : Nat) (o : OrderId) : Decidable ((issuingFully o).env p ms) :=
  inferInstanceAs (Decidable True)

/-- One customer orders; after the payment window the cron learns that the
    gateway took the money and marks the order PAID. -/
def cronPays : List Move :=
  .start (.createOrder (oneTicket 1) 5) :: steps 0 18 ++
    [.env 900001, .start .verifyStuckPendingPayments, .step 1 0 { picked := [1] },
      .step 1 0 { verify := .success }, .step 1 0 {}, .step 1 0 {}]

/-- The cron queues the job; the queue hands it out twice, one delivery after
    the other has issued the ticket. -/
def jobTwice : List Move :=
  .step 1 0 {} :: .start (.ticketIssue { id := 0, orderId := 1 }) ::
    .start (.ticketIssue { id := 0, orderId := 1 }) :: steps 2 3 ++ steps 3 3 ++ steps 2 1

/-- Both deliveries end and the one item has its one ticket. -/
theorem tickets_issued_once_jobTwice : ∃ (q : State) (row : Order),
    IssuedOnce q.world.db ∧ row.items.length = 1 ∧
      ∀ i ∈ row.items, itemTickets q.world.db i = i.quantity := by
  obtain ⟨r, hpr, hr, hlater⟩ : ∃ r, backend.Run (issuingFully 1) (shop [onSale 1 1 1]) r ∧
      (r.world.db.findOrder 1).map (fun row => (row.status, row.items.length)) = some (.paid, 1) ∧
      (backend.exec (issuingFully 1) r jobTwice).any (fun q =>
        decide (q.Quiet ∧ ∀ j ∈ q.world.ticketIssueJobs, j.orderId ≠ 1)) = true :=
    exists_run cronPays _ (by decide)
  obtain ⟨q, hrq, hquiet, hjobs⟩ := exists_run _ _ hlater
  obtain ⟨row, hrow, hpaid⟩ := Option.map_eq_some_iff.mp hr
  obtain ⟨hs, hlen⟩ := Prod.mk.inj hpaid
  have hid : row.id = 1 := RowTable.lookup_key hrow
  have hopen : Opening (shop [onSale 1 1 1]) := shop_opening (by simp)
  refine ⟨q, row, ?_, hlen, ?_⟩
  · exact (tickets_issued_once hopen).1
      (System.Run.weaken (issuingFully_issues 1) (hpr.trans hrq))
  · refine (tickets_issued_once hopen).2 r row ?_ hs ?_ ?_ hquiet ?_
    all_goals
      rw [hid]
      assumption

/-! ## Two SUCCESS webhooks for one order -/

/-- After `successTwice` an item of quantity one has two tickets. -/
theorem tickets_twice_successTwice :
    ¬ ∀ p q, Opening p → backend.Run selling p q → IssuedOnce q.world.db := by
  intro h
  obtain ⟨q, hrun, hrow⟩ : ∃ q, backend.Run selling (shop [onSale 1 1 1]) q ∧
      ∃ r ∈ q.world.db.orders, ∃ i ∈ r.items, i.quantity < itemTickets q.world.db i :=
    exists_run successTwice _ (by decide)
  obtain ⟨r, hr, i, hi, hlt⟩ := hrow
  have hle := (h _ q (shop_opening (by simp)) hrun).items r hr i hi
  omega

end TicketBackend
