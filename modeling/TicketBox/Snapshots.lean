import TicketBox.Effects
import TicketBox.OrderEffects

/-! # The copies of an order that operations carry

    Every operation works on the order row it read at its start.  The row
    changes under it, but only in its status: which user ordered what under an
    id is settled when the id is drawn.  `Sound` states this for all runs, every
    interleaving and every failure included: each row and each copy in flight
    has the content its id was drawn for, so a copy and the row of its id agree
    (`Sound.content`). -/

namespace TicketBackend

open Interleave TicketStore TicketRedis TicketDb TicketFlow TicketOrder TicketPayment
  TicketServices

/-! ## Soundness of rows and copies -/

/-- The order has the content its id was drawn for. -/
def Drawn (w : World) (order : Order) : Prop :=
  ∃ ctx metas, w.drawnFor order.id = some (ctx, metas) ∧
    SameContent (newOrder ctx order.id metas) order

/-- A call of createOrder works on the items its id was drawn for. -/
def AskDrawn (w : World) : Ask → Prop
  | .reserveTickets ctx o slots => w.drawnFor o = some (ctx, slots.map ReserveSlot.item)
  | .persistOrder ctx o metas | .syncInventory ctx o metas
  | .createPaymentUrl (.createOrder ctx metas) o _
  | .callGateway (.createOrder ctx metas) o _ _
  | .savePaymentUrl (.createOrder ctx metas) o _ _ _ => w.drawnFor o = some (ctx, metas)
  | _ => True

/-- Every copy of an order the call carries satisfies `P`, and it is a copy of
    the order the call is about; the worker's copies were PAID when read. -/
def AskCopies (P : Order → Prop) : Ask → Prop
  | .markCancelled order | .markExpired order | .failedCheck order | .failedCommit order
  | .delReservation order | .sendOrderPaidEmail order => P order
  | .findGates dto order | .countGateTickets dto order _ | .successCommit dto order _ =>
      order.id = dto.orderId ∧ P order
  | .verifyTransaction order rest | .cronPaidCheck order rest | .cronPaidCommit order rest
  | .enqueueTicketIssue order rest | .cronExpireCheck order _ rest
  | .cronExpireCommit order _ rest => ∀ r ∈ order :: rest, P r
  | .countIssued job order | .issueCommit job order =>
      order.id = job.orderId ∧ order.status = .paid ∧ P order
  | _ => True

/-- What a call carries was drawn or read for it. -/
def AskSound (w : World) (d : Ask) : Prop := AskDrawn w d ∧ AskCopies (Drawn w) d

/-- Everything the program may still call is sound. -/
def OpSound (w : World) (prog : Op) : Prop := prog.All (AskSound w) fun _ => True

/-- The store's part: ids beyond the next one are free, no two rows share an
    id, and every row has the content its id was drawn for. -/
structure WorldSound (w : World) : Prop where
  fresh : ∀ o, w.nextOrderId ≤ o → w.drawnFor o = none
  keyed : RowTable.Keyed Order.id w.db.orders
  rows : ∀ r ∈ w.db.orders, Drawn w r

/-- The world is sound, and every row copied by an operation in flight comes from it. -/
structure Sound (p : State) : Prop extends WorldSound p.world where
  ops : ∀ prog ∈ p.ops, OpSound p.world prog

/-- Two rows drawn under one id share their content. -/
theorem Drawn.content {w : World} {order row : Order} (h : Drawn w order) (hr : Drawn w row)
    (hid : row.id = order.id) : SameContent row order := by
  obtain ⟨ctx, metas, hd, hc⟩ := h
  obtain ⟨ctx', metas', hd', hc'⟩ := hr
  rw [hid, hd] at hd'
  cases hd'
  rw [hid] at hc'
  exact hc'.symm.trans hc

/-- A copy in flight agrees with the row of its id. -/
theorem Sound.content {p : State} (hs : Sound p) {order row : Order} (h : Drawn p.world order)
    (hrow : p.world.db.findOrder order.id = some row) : SameContent row order :=
  h.content (hs.rows row (RowTable.lookup_mem hrow)) (RowTable.lookup_key hrow)

/-- The call that an operation awaits is sound. -/
theorem Sound.ask {p : State} (hs : Sound p) {d : Ask} (h : .ask d ∈ p.ops) :
    AskSound p.world d :=
  hs.ops _ h

/-- Every version of a drawn order is drawn. -/
theorem Drawn.version {w : World} {r r' : Order} (h : Drawn w r) (hc : SameContent r r') :
    Drawn w r' := by
  obtain ⟨ctx, metas, hd, hn⟩ := h
  refine ⟨ctx, metas, by rw [hc.id]; exact hd, ?_⟩
  rw [hc.id]
  exact hn.trans hc

/-! ## Growth of the draws -/

/-- Draws are never undone. -/
def Grows (w w' : World) : Prop := ∀ o x, w.drawnFor o = some x → w'.drawnFor o = some x

/-- Nothing is drawn. -/
theorem Grows.of_eq {w w' : World} (h : w'.drawnFor = w.drawnFor) : Grows w w' :=
  fun o x hx => by rw [h]; exact hx

/-- What is drawn stays so. -/
theorem Grows.drawn {w w' : World} (hg : Grows w w') {r : Order} (h : Drawn w r) : Drawn w' r := by
  obtain ⟨ctx, metas, hd, hc⟩ := h
  exact ⟨ctx, metas, hg _ _ hd, hc⟩

/-- So do the rows that a call carries. -/
theorem Grows.askDrawn {w w' : World} (hg : Grows w w') {d : Ask} (h : AskDrawn w d) :
    AskDrawn w' d := by
  unfold AskDrawn at h ⊢
  split at h
  all_goals first
    | exact hg _ _ h
    | trivial

/-- What holds of the copies, weakened. -/
theorem AskCopies.mono {P Q : Order → Prop} (hPQ : ∀ r, P r → Q r) {d : Ask}
    (h : AskCopies P d) : AskCopies Q d := by
  unfold AskCopies at h ⊢
  split at h
  all_goals first
    | exact hPQ _ h
    | exact ⟨h.1, hPQ _ h.2⟩
    | exact ⟨h.1, h.2.1, hPQ _ h.2.2⟩
    | exact fun r hr => hPQ r (h r hr)
    | trivial

/-- A sound call stays so. -/
theorem Grows.askSound {w w' : World} (hg : Grows w w') {d : Ask} (h : AskSound w d) :
    AskSound w' d :=
  ⟨hg.askDrawn h.1, h.2.mono fun _ => hg.drawn⟩

/-! ## The items of createOrder -/

/-- Every call of the program works on the items its id was drawn for. -/
def OpDrawn (w : World) (prog : Op) : Prop := prog.All (AskDrawn w) fun _ => True

/-- A batch carries what follows it. -/
theorem opDrawn_par {w : World} {ts : List Task} {h rest : Op} :
    OpDrawn w (.par ts h rest) ↔ OpDrawn w h ∧ OpDrawn w rest := by
  simp [OpDrawn]

/-- A call that owes nothing carries no row. -/
theorem askDrawn_of_not_owes {w : World} {d : Ask} (h : Ask.owes d = false) : AskDrawn w d := by
  unfold AskDrawn
  split
  all_goals trivial

/-- Nor does what is left of such an operation. -/
theorem Settled.opDrawn {k : Kind} {w : World} {prog : Op} (h : Settled k prog) : OpDrawn w prog :=
  h.mono (fun _ hd => askDrawn_of_not_owes hd.1) fun _ _ => trivial

theorem opDrawn_rollback (w : World) (ctx : CreateCtx) (o : OrderId) (e : ApiError)
    (metas : List TicketMeta) : OpDrawn w (rollback ctx o e metas) := by
  induction metas with
  | nil => trivial
  | cons m metas ih => exact opDrawn_par.mpr ⟨trivial, ih⟩

theorem opDrawn_awaitReserve {w : World} {ctx : CreateCtx} {o : OrderId} {slots : List ReserveSlot}
    (h : w.drawnFor o = some (ctx, slots.map ReserveSlot.item)) :
    OpDrawn w (awaitReserve ctx o slots) := by
  simp only [awaitReserve, afterReserve]
  split
  · split
    · trivial
    · split
      · exact h
      · split
        · trivial
        · split
          · trivial
          · exact opDrawn_rollback w ctx o _ _
  · exact h

/-- A reply filled in leaves the items of the slots alone. -/
theorem items_set {slots : List ReserveSlot} {k : Nat} {s : ReserveSlot}
    (hs : slots[k]? = some s) (reply : Option (Except ApiError LuaScriptResult)) :
    (slots.set k { s with reply := reply }).map ReserveSlot.item = slots.map ReserveSlot.item := by
  obtain ⟨hlt, rfl⟩ := List.getElem?_eq_some_iff.mp hs
  have hk : k < (slots.map ReserveSlot.item).length := by simpa using hlt
  have hself := List.set_getElem_self hk
  rw [List.getElem_map] at hself
  rw [List.map_set]
  exact hself

theorem paying_drawn {w : World} {d : Ask} {ctx : CreateCtx} {o : OrderId}
    {metas : List TicketMeta} (hd : Ask.paying d = some (ctx, o, metas)) :
    AskDrawn w d ↔ w.drawnFor o = some (ctx, metas) := by
  unfold Ask.paying at hd
  split at hd <;> cases hd <;> exact Iff.rfl

/-- A step that draws no id leaves the draws alone; a drawn id was free. -/
theorem asked_grows {ch : Choice} {w w' : World} {d : Ask} {prog : Op} (h : Asked ch w d w' prog)
    (hfresh : ∀ o, w.nextOrderId ≤ o → w.drawnFor o = none) :
    Grows w w' ∧ ∀ o, w'.nextOrderId ≤ o → w'.drawnFor o = none := by
  cases h with
  | drawn ctx metas =>
      constructor
      · intro o x hx
        have hne : o ≠ w.nextOrderId := by
          rintro rfl
          rw [hfresh _ (le_refl _)] at hx
          cases hx
        show Function.update w.drawnFor _ _ o = some x
        rw [Function.update_of_ne hne, hx]
      · intro o (ho : w.nextOrderId + 1 ≤ o)
        have hlt : w.nextOrderId < o := Nat.lt_of_succ_le ho
        show Function.update w.drawnFor _ _ o = none
        rw [Function.update_of_ne (Nat.ne_of_gt hlt), hfresh o (Nat.le_of_lt hlt)]
  | _ => exact ⟨.of_eq rfl, hfresh⟩

/-- What follows a call carries the rows that the call carried. -/
theorem asked_opDrawn {ch : Choice} {w w' : World} {d : Ask} {prog : Op}
    (h : Asked ch w d w' prog) (hd : AskDrawn w d) : OpDrawn w' prog := by
  cases h with
  | idle _ _ _ _ _ _ hp => exact hp.opDrawn
  | drawn ctx metas =>
      refine opDrawn_awaitReserve ?_
      simp [TicketOrder.randomUUID, Function.comp_def]
  | reserveThrew ctx o slots s hs _ => exact opDrawn_awaitReserve (by rw [items_set hs]; exact hd)
  | reserved ctx o slots s _ _ hs _ _ => exact opDrawn_awaitReserve (by rw [items_set hs]; exact hd)
  | persisted ctx o metas db _ _ => exact hd
  | persistFailed ctx o metas => exact opDrawn_par.mpr ⟨trivial, trivial⟩
  | synced ctx o metas db _ _ => exact hd
  | syncFailed ctx o metas e _ => exact opDrawn_par.mpr ⟨trivial, trivial⟩
  | paying _ ctx o metas _ d' hp hp' _ =>
      have hdr := (paying_drawn hp).mp hd
      rcases hp' with hp' | hp'
      · exact (paying_drawn hp').mpr hdr
      · exact askDrawn_of_not_owes hp'
  | payingFailed _ ctx o metas e _ _ =>
      exact opDrawn_par.mpr ⟨trivial, opDrawn_par.mpr ⟨trivial, trivial⟩⟩
  | cancelling o u order _ _ _ =>
      exact opDrawn_par.mpr ⟨trivial, opDrawn_par.mpr ⟨trivial, trivial⟩⟩
  | expiring o order _ _ =>
      exact opDrawn_par.mpr ⟨trivial, opDrawn_par.mpr ⟨trivial, opDrawn_par.mpr ⟨trivial, trivial⟩⟩⟩
  | failed order db _ _ => exact opDrawn_par.mpr ⟨trivial, trivial⟩
  | enqueued order rest => exact (settled_cronNext rest).opDrawn
  | cronExpired order res rest db _ _ =>
      exact opDrawn_par.mpr ⟨(settled_cronNext rest).opDrawn, (settled_cronNext rest).opDrawn⟩
  | typeWritten existing dto db row _ _ _ hp =>
      rcases hp with rfl | ⟨-, -, -, hp⟩
      · trivial
      · exact hp.opDrawn
  | stockSeeded row _ hp => exact hp.opDrawn
  | _ => trivial

/-! ## The copies of the other operations -/

/-- Every copy the program carries satisfies `P`. -/
def OpCopies (P : Order → Prop) (prog : Op) : Prop := prog.All (AskCopies P) fun _ => True

variable {P : Order → Prop}

theorem opCopies_ret (a : Answer) : OpCopies P (.ret a) := trivial

/-- A batch copies what follows it. -/
theorem opCopies_par {ts : List Task} {h rest : Op} :
    OpCopies P (.par ts h rest) ↔ OpCopies P h ∧ OpCopies P rest := by
  simp [OpCopies]

/-- The operations that carry no copy of an order. -/
def Kind.copyless : Kind → Bool
  | .createOrder | .createPayment | .updateTicketType => true
  | _ => false

/-- Some operations copy no row. -/
theorem askCopies_of_copyless {d : Ask} (h : (Ask.kind d).copyless = true) : AskCopies P d := by
  unfold AskCopies
  split
  all_goals trivial

/-- Nor does what is left of them. -/
theorem OfKind.opCopies {k : Kind} {prog : Op} (h : OfKind k prog) (hk : k.copyless = true) :
    OpCopies P prog :=
  h.mono (fun _ hd => askCopies_of_copyless (hd ▸ hk)) fun _ => id

theorem opCopies_cronNext {l : List Order} (h : ∀ r ∈ l, P r) : OpCopies P (cronNext l) := by
  cases l with
  | nil => trivial
  | cons order rest => exact h

theorem opCopies_afterFailed (order : Order) (released : Bool) :
    OpCopies P (afterFailed order released) :=
  opCopies_par.mpr ⟨trivial, trivial⟩

theorem opCopies_afterCronExpire (order : Order) (released : Bool) {rest : List Order}
    (h : ∀ r ∈ rest, P r) : OpCopies P (afterCronExpire order released rest) :=
  opCopies_par.mpr ⟨opCopies_cronNext h, opCopies_cronNext h⟩

/-- What a call goes on with carries the copies the call carried, or fresh reads. -/
theorem dispatch_copies {ch : Choice} {w w' : World} {d : Ask} {prog : Op}
    (h : dispatch ch w d = some (w', prog)) (hd : AskCopies P d)
    (hfind : ∀ {o : OrderId} {r : Order}, w.db.findOrder o = some r → P r) : OpCopies P prog := by
  by_cases hk : (Ask.kind d).copyless = true
  · exact (asked_kind (dispatch_asked h)).opCopies hk
  -- calls that answer in every state, and those that may throw instead
  have hsome : ∀ {x : World × Op}, some x = some (w', prog) → OpCopies P x.2 → OpCopies P prog :=
    fun hq => prop_of_some (P := fun _ prog => OpCopies P prog) hq
  have hreads : ∀ {q : Op}, reads ch w q = some (w', prog) → OpCopies P q → OpCopies P prog :=
    fun hq => prop_of_reads (P := fun _ prog => OpCopies P prog) hq trivial
  cases d with
  | cancelOrder o u =>
      refine hreads h ?_
      simp only [TicketOrder.cancelOrder]
      repeat' split
      all_goals first
        | exact opCopies_ret _
        | exact opCopies_par.mpr ⟨trivial, opCopies_par.mpr ⟨trivial, hfind ‹_›⟩⟩
  | markCancelled order =>
      refine hsome h ?_
      simp only [TicketOrder.markCancelled]
      split <;> trivial
  | expireOrder o =>
      refine hreads h ?_
      simp only [TicketOrder.expireOrder]
      repeat' split
      all_goals first
        | exact opCopies_ret _
        | exact opCopies_par.mpr ⟨trivial, opCopies_par.mpr ⟨trivial,
            opCopies_par.mpr ⟨trivial, hfind ‹_›⟩⟩⟩
  | markExpired order =>
      refine hsome h ?_
      simp only [TicketOrder.markExpired]
      split <;> trivial
  | handleMockWebhook dto =>
      refine hreads h ?_
      simp only [TicketPayment.handleMockWebhook]
      split
      · trivial
      · split
        · trivial
        · next order ho =>
          have hid : order.id = dto.orderId := RowTable.lookup_key ho
          repeat' split
          all_goals first
            | exact opCopies_ret _
            | exact hfind ho
            | exact ⟨hid, hfind ho⟩
            | trivial
  | recordLateWebhook dto message =>
      refine hsome h ?_
      simp only [TicketPayment.recordLateWebhook]
      split <;> trivial
  | handlePaymentTimeout dto =>
      refine hsome h ?_
      simp only [TicketPayment.handlePaymentTimeout]
      split <;> trivial
  | failedCheck order =>
      refine hreads h ?_
      simp only [TicketPayment.failedCheck]
      repeat' split
      · exact hd
      · exact opCopies_afterFailed ..
      · exact opCopies_afterFailed ..
  | failedCommit order =>
      refine hsome h ?_
      simp only [TicketPayment.failedCommit]
      split
      · trivial
      · exact opCopies_afterFailed ..
  | findGates dto order =>
      refine hreads h ?_
      simp only [TicketPayment.findGates]
      split <;> exact hd
  | countGateTickets dto order gates => exact hreads h hd
  | successCommit dto order gateName =>
      refine hsome h ?_
      simp only [TicketPayment.successCommit]
      split
      · trivial
      · exact hd.2
  | delReservation order =>
      refine hsome h ?_
      simp only [TicketPayment.delReservation]
      split
      · trivial
      · exact hd
  | sendOrderPaidEmail order =>
      refine hsome h ?_
      simp only [TicketPayment.sendOrderPaidEmail]
      split <;> trivial
  | verifyStuckPendingPayments =>
      refine hreads h (opCopies_cronNext fun r hr => ?_)
      obtain ⟨o, -, ho⟩ := List.mem_filterMap.mp (List.mem_of_mem_take hr)
      exact hfind (Option.eq_some_of_filter_eq_some ho)
  | verifyTransaction order rest =>
      refine hreads h ?_
      simp only [TicketPayment.verifyTransaction]
      split <;> exact hd
  | cronPaidCheck order rest =>
      refine hreads h ?_
      simp only [TicketPayment.cronPaidCheck]
      repeat' split
      all_goals exact hd
  | cronPaidCommit order rest =>
      refine hsome h ?_
      simp only [TicketPayment.cronPaidCommit]
      split
      · trivial
      · exact hd
  | enqueueTicketIssue order rest =>
      refine hsome h ?_
      simp only [TicketPayment.enqueueTicketIssue]
      split
      · trivial
      · exact opCopies_cronNext fun r hr => hd r (List.mem_cons_of_mem _ hr)
  | cronExpireCheck order res rest =>
      refine hreads h ?_
      have hrest : ∀ r ∈ rest, P r := fun r hr => hd r (List.mem_cons_of_mem _ hr)
      simp only [TicketPayment.cronExpireCheck]
      repeat' split
      · exact hd
      · exact opCopies_afterCronExpire order false hrest
      · exact opCopies_afterCronExpire order false hrest
  | cronExpireCommit order res rest =>
      refine hsome h ?_
      simp only [TicketPayment.cronExpireCommit]
      split
      · trivial
      · exact opCopies_afterCronExpire order true fun r hr => hd r (List.mem_cons_of_mem _ hr)
  | issueJob job =>
      refine hreads h ?_
      simp only [TicketServices.issueJob]
      split
      · trivial
      · next order ho =>
        split
        · trivial
        · next hs =>
          split
          · trivial
          · exact ⟨RowTable.lookup_key ho, not_not.mp hs, hfind ho⟩
  | countIssued job order =>
      refine hreads h ?_
      simp only [TicketServices.countIssued]
      split
      · trivial
      · exact hd
  | issueCommit job order =>
      refine hsome h ?_
      simp only [TicketServices.issueCommit]
      split <;> trivial
  | completeJob job answer =>
      refine hsome h ?_
      simp only [TicketServices.completeJob]
      split <;> trivial
  | createPaymentUrl caller o u => cases caller <;> exact absurd rfl hk
  | callGateway caller o amount existing => cases caller <;> exact absurd rfl hk
  | savePaymentUrl caller o amount existing url => cases caller <;> exact absurd rfl hk
  | _ => exact absurd rfl hk

/-! ## Order rows under one step -/

/-- The status a call is about to write, and the order it writes it to. -/
def Ask.sets : Ask → Option (OrderId × OrderStatus)
  | .markCancelled order => some (order.id, .cancelled)
  | .markExpired order => some (order.id, .expired)
  | .failedCommit order => some (order.id, .paymentFailed)
  | .successCommit dto _ _ => some (dto.orderId, .paid)
  | .cronPaidCommit order _ => some (order.id, .paid)
  | .cronExpireCommit order res _ => some (order.id, res.orderStatus)
  | _ => none

/-- The order a compensation is about to delete. -/
def Ask.deletes : Ask → Option OrderId
  | .deleteOrderQuietly o _ | .deleteOrder o _ => some o
  | _ => none

/-- What a step does to the order rows. -/
inductive OrdersMoved (ch : Choice) (w w' : World) (d : Ask) : Prop where
  | same : w'.db.orders = w.db.orders → OrdersMoved ch w w' d
  | set (o : OrderId) (s : OrderStatus) :
      ch.fails = false → Ask.sets d = some (o, s) → OrderSet o s w.db w'.db →
      OrdersMoved ch w w' d
  | inserted (ctx : CreateCtx) (o : OrderId) (metas : List TicketMeta) :
      ch.fails = false → d = .persistOrder ctx o metas →
      insertOrder (newOrder ctx o metas) w.db = some w'.db → OrdersMoved ch w w' d
  | deleted (o : OrderId) :
      ch.fails = false → Ask.deletes d = some o → TicketDb.deleteOrder o w.db = .ok w'.db →
      OrdersMoved ch w w' d

theorem writeTicketType_same {t : TicketTypeId} {f : TicketType → TicketType} {db db' : Db}
    (h : TicketDb.writeTicketType t f db = .ok db') :
    db'.orders = db.orders ∧ db'.tickets = db.tickets ∧ db'.counters = db.counters := by
  simp only [TicketDb.writeTicketType] at h
  split at h
  · cases h
  · split at h
    · cases h
    · cases h
      exact ⟨rfl, rfl, rfl⟩

/-- An update by id changes its row and no other. -/
theorem writeTicketType_find {t : TicketTypeId} {f : TicketType → TicketType} {db db' : Db}
    (h : TicketDb.writeTicketType t f db = .ok db') (hf : ∀ r, (f r).id = r.id) :
    (∀ t', t' ≠ t → db'.findTicketType t' = db.findTicketType t') ∧
      ∃ row, db.findTicketType t = some row ∧ db'.findTicketType t = some (f row) := by
  simp only [TicketDb.writeTicketType] at h
  split at h
  · cases h
  · next row hrow =>
    split at h
    · cases h
    · cases h
      refine ⟨fun t' hne => RowTable.lookup_modify_ne hf hne, row, hrow, ?_⟩
      simp only [Db.findTicketType] at hrow ⊢
      rw [RowTable.lookup_modify_self hf, hrow]
      rfl

/-- What a call does to the orders. -/
theorem asked_orders {ch : Choice} {w w' : World} {d : Ask} {prog : Op}
    (h : Asked ch w d w' prog) : OrdersMoved ch w w' d := by
  cases h with
  | persisted ctx o metas db hf hdb => exact .inserted ctx o metas hf rfl hdb
  | synced ctx o metas db _ hdb => exact .same (syncInventory_same hdb).1
  | deleted _ o e db hd hf hdb =>
      refine .deleted o hf ?_ hdb
      rcases hd with rfl | rfl <;> rfl
  | cancelled order db hf hdb => exact .set _ _ hf rfl (commitCancelled_set hdb).1
  | expired order db hf hdb => exact .set _ _ hf rfl (commitExpired_set hdb).1
  | failed order db hf hdb => exact .set _ _ hf rfl (commitFailed_released hdb).set
  | succeeded dto order gateName db hf hdb => exact .set _ _ hf rfl (commitSuccess_issued hdb).1
  | cronPaid order rest db hf hdb => exact .set _ _ hf rfl (commitCronPaid_set hdb).1
  | cronExpired order res rest db hf hdb => exact .set _ _ hf rfl (commitCronExpire_released hdb).set
  | issued job order db _ hdb => exact .same (commitIssue_issued hdb).1
  | typeWritten existing dto db row _ hdb _ _ => exact .same (writeTicketType_same hdb).1
  | soldOutSet row db hdb => exact .same (writeTicketType_same hdb).1
  | _ => exact .same rfl

/-- A task of a batch never touches the order rows. -/
theorem performed_orders {ch : Choice} {w w' : World} {t : Task} {res : TaskResult Task}
    (h : Performed ch w t w' res) :
    w'.db.orders = w.db.orders ∧ w'.db.tickets = w.db.tickets ∧ w'.drawnFor = w.drawnFor ∧
      w'.nextOrderId = w.nextOrderId := by
  cases h with
  | decremented t q pos db hdb =>
      obtain ⟨ho, ht, -⟩ := decrementReserved_same hdb
      exact ⟨ho, ht, rfl, rfl⟩
  | counterDecremented u t q pos db hdb =>
      obtain ⟨ho, ht, -⟩ := decrementCounter_same hdb
      exact ⟨ho, ht, rfl, rfl⟩
  | _ => exact ⟨rfl, rfl, rfl, rfl⟩

/-- It keeps their ids apart. -/
theorem OrdersMoved.keyed {ch : Choice} {w w' : World} {d : Ask} (h : OrdersMoved ch w w' d)
    (hk : RowTable.Keyed Order.id w.db.orders) : RowTable.Keyed Order.id w'.db.orders := by
  cases h with
  | same ho => rw [ho]; exact hk
  | set o s _ _ hset => exact hset.keyed hk
  | inserted ctx o metas _ _ hins =>
      obtain ⟨hdb, hnone⟩ := insertOrder_eq hins
      rw [hdb]
      exact hk.append hnone
  | deleted o _ _ hdel =>
      obtain ⟨hdb, -⟩ := deleteOrder_eq hdel
      rw [hdb]
      exact hk.remove

/-- Every order was drawn. -/
theorem OrdersMoved.drawn {ch : Choice} {w w' : World} {d : Ask} (h : OrdersMoved ch w w' d)
    (hg : Grows w w')
    (hd : AskSound w d) (hrows : ∀ r ∈ w.db.orders, Drawn w r) : ∀ r ∈ w'.db.orders, Drawn w' r := by
  intro r hr
  cases h with
  | same ho => exact hg.drawn (hrows r (ho ▸ hr))
  | set o s _ _ hset =>
      obtain ⟨r₀, hr₀, hc⟩ := hset.mem hr
      exact hg.drawn ((hrows r₀ hr₀).version hc)
  | inserted ctx o metas _ he hins =>
      obtain ⟨hdb, -⟩ := insertOrder_eq hins
      subst he
      rw [hdb] at hr
      rcases List.mem_append.mp hr with hr | hr
      · exact hg.drawn (hrows r hr)
      · rw [List.mem_singleton.mp hr]
        exact ⟨ctx, metas, hg _ _ hd.1, SameContent.refl _⟩
  | deleted o _ _ hdel =>
      obtain ⟨hdb, -⟩ := deleteOrder_eq hdel
      rw [hdb] at hr
      exact hg.drawn (hrows r (List.mem_of_mem_filter hr))

/-- The cron expires an order or marks its payment failed. -/
theorem orderStatus_final (res : VerifyResult) :
    res.orderStatus ≠ .pendingPayment ∧ res.orderStatus ≠ .paid := by
  cases res <;> simp [VerifyResult.orderStatus]

/-- No call sets an order back to PENDING_PAYMENT. -/
theorem sets_ne_pending {d : Ask} {x : OrderId × OrderStatus} (h : Ask.sets d = some x) :
    x.2 ≠ .pendingPayment := by
  unfold Ask.sets at h
  split at h
  all_goals cases h
  all_goals first
    | exact (orderStatus_final _).1
    | simp

/-- An order that has items or a ticket is never deleted, and no order is PENDING_PAYMENT
    again. -/
theorem OrdersMoved.found {ch : Choice} {w w' : World} {d : Ask} (h : OrdersMoved ch w w' d)
    {o : OrderId} {row : Order} (hrow : w.db.findOrder o = some row)
    (hrefs : row.items ≠ [] ∨ ∃ k ∈ w.db.tickets, k.orderId = o) :
    ∃ row', w'.db.findOrder o = some row' ∧ SameContent row row' ∧
      (row.status ≠ .pendingPayment → row'.status ≠ .pendingPayment) := by
  cases h with
  | same ho => exact ⟨row, by simpa only [Db.findOrder, ho] using hrow, SameContent.refl row, id⟩
  | set o' s _ hd hset =>
      by_cases he : o = o'
      · subst he
        obtain ⟨row₀, row', hrow₀, hrow', hc, hs⟩ := hset.find_self
        rw [hrow] at hrow₀
        cases hrow₀
        exact ⟨row', hrow', hc, fun _ => hs ▸ sets_ne_pending hd⟩
      · exact ⟨row, by rw [hset.find_ne he]; exact hrow, SameContent.refl row, id⟩
  | inserted ctx o' metas _ _ hins =>
      obtain ⟨hdb, -⟩ := insertOrder_eq hins
      refine ⟨row, ?_, SameContent.refl row, id⟩
      rw [Db.findOrder] at hrow
      rw [hdb, Db.findOrder, RowTable.lookup_append, hrow]
      rfl
  | deleted o' _ _ hdel =>
      obtain ⟨hdb, row', hrow', hnil, hno⟩ := deleteOrder_eq hdel
      have hne : o ≠ o' := by
        rintro rfl
        rw [hrow] at hrow'
        cases hrow'
        rcases hrefs with hitems | ⟨k, hk, hko⟩
        · exact hitems hnil
        · exact hno k hk hko
      refine ⟨row, ?_, SameContent.refl row, id⟩
      rw [hdb, Db.findOrder, RowTable.lookup_remove_ne hne]
      exact hrow

/-! ## All runs -/

/-- Every call keeps the world sound. -/
theorem asked_worldSound {ch : Choice} {w w' : World} {d : Ask} {prog : Op}
    (h : Asked ch w d w' prog) (hd : AskSound w d) (hw : WorldSound w) : WorldSound w' := by
  obtain ⟨hg, hfresh⟩ := asked_grows h hw.fresh
  exact ⟨hfresh, (asked_orders h).keyed hw.keyed, (asked_orders h).drawn hg hd hw.rows⟩

/-- So does every task. -/
theorem performed_worldSound {ch : Choice} {w w' : World} {t : Task} {res : TaskResult Task}
    (h : Performed ch w t w' res) (hw : WorldSound w) : WorldSound w' := by
  obtain ⟨ho, -, hdr, hn⟩ := performed_orders h
  refine ⟨fun o hle => ?_, by rw [ho]; exact hw.keyed, fun r hr => ?_⟩
  · rw [hdr]
    exact hw.fresh o (hn ▸ hle)
  · exact (Grows.of_eq hdr).drawn (hw.rows r (ho ▸ hr))

/-- A request carries no copy of an order. -/
theorem opCopies_enter {w : World} {r : Request} {prog : Op} (h : enter w r = some prog) :
    OpCopies P prog := by
  rw [enter_call h]
  cases r <;> trivial

/-- Both halves of soundness, put together. -/
theorem opSound_of {w : World} {prog : Op} (h₁ : OpDrawn w prog) (h₂ : OpCopies (Drawn w) prog) :
    OpSound w prog :=
  (h₁.and h₂).mono (fun _ => id) fun _ _ => trivial

/-- **Every step** keeps everything sound. -/
theorem Sound.step {G : Condition} {p q : State} (hs : Sound p) (h : backend.Step G p q) :
    Sound q := by
  have hworld : WorldSound q.world := by
    refine h.world hs.toWorldSound ?_ ?_ ?_
    · intro ch d w' prog hmem _ hd
      exact asked_worldSound (dispatch_asked hd) (hs.ask hmem) hs.toWorldSound
    · intro ch t w' res _ _ hp
      exact performed_worldSound (perform_performed hp) hs.toWorldSound
    · intro ms _
      exact ⟨hs.fresh, hs.keyed, hs.rows⟩
  refine { toWorldSound := hworld, ops := ?_ }
  refine System.Step.all (J := AskSound) (K := fun _ _ => True) h hs.ops ?_ ?_ ?_ ?_
  · intro r prog _ he
    exact opSound_of (settled_enter he).opDrawn (opCopies_enter he)
  · intro ch d w' prog _ hd _ hdec
    have hg := (asked_grows (dispatch_asked hdec) hs.fresh).1
    have hcopies : OpCopies (Drawn w') prog :=
      dispatch_copies hdec (hd.2.mono fun _ => hg.drawn)
        fun hr => hg.drawn (hs.rows _ (RowTable.lookup_mem hr))
    exact ⟨opSound_of (asked_opDrawn (dispatch_asked hdec) hd.1) hcopies,
      fun d' => hg.askSound, fun _ => id⟩
  · intro ch t w' res _ _ hp
    exact ⟨fun _ _ => trivial,
      fun d' => (Grows.of_eq (performed_orders (perform_performed hp)).2.2.1).askSound,
      fun _ => id⟩
  · intro ms _
    exact ⟨fun d' => (Grows.of_eq rfl).askSound, fun _ => id⟩

/-- Before the sale nothing is drawn and nothing runs. -/
theorem Opening.sound {p : State} (h : Opening p) : Sound p where
  fresh o _ := h.drawn_none o
  keyed := by
    rw [h.orders_nil]
    exact List.nodup_nil
  rows r hr := by
    rw [h.orders_nil] at hr
    cases hr
  ops prog hp := by
    rw [h.ops_nil] at hp
    cases hp

/-- Rows and copies agree after every run, whatever is interleaved and fails. -/
theorem Sound.run {G : Condition} {p q : State} (h : backend.Run G p q) (hp : Sound p) : Sound q :=
  h.inv (fun _ _ hs hstep => hs.step hstep) hp

end TicketBackend
