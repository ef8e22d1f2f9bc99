import TicketBox.Snapshots

/-! # Counters of one account

    Quantities of a user and a type are booked in two places, per type and per
    user and type.  A `Cell` is one such place, `share` what quantities weigh in
    it, so that one account serves both.  `held` is what the open orders hold of
    a cell; `accepted` is what the running reservations of a createOrder call
    have taken, and the last section says how much of it the call goes on with
    once its batch has settled. -/

namespace TicketBackend

open Interleave TicketStore TicketRedis TicketDb TicketFlow TicketOrder

/-! ## Cells -/

/-- A counter of reserved tickets. -/
inductive Cell where
  | type (t : TicketTypeId)
  | user (u : UserId) (t : TicketTypeId)

/-- `TicketType.reservedQty` or `UserTicketCounter.reservedQty`. -/
def Cell.value : Cell → Db → Int
  | .type t, db => db.reservedQty t
  | .user u t, db => db.counterReserved u t

/-- What quantities `f` of user `u` weigh in the cell. -/
def Cell.share : Cell → UserId → (TicketTypeId → Int) → Int
  | .type t, _, f => f t
  | .user u t, u', f => atUser u' f u t

variable {c : Cell}

theorem Cell.share_neg (c : Cell) (u : UserId) (f : TicketTypeId → Int) :
    c.share u (-f) = -c.share u f := by
  cases c with
  | type t => rfl
  | user u' t => exact congrFun (congrFun (atUser_neg u f) u') t

theorem Cell.share_add (c : Cell) (u : UserId) (f g : TicketTypeId → Int) :
    c.share u (f + g) = c.share u f + c.share u g := by
  cases c with
  | type t => rfl
  | user u' t => exact congrFun (congrFun (atUser_add u f g) u') t

@[simp] theorem Cell.share_zero (c : Cell) (u : UserId) : c.share u 0 = 0 := by
  cases c with
  | type t => rfl
  | user u' t => exact congrFun (congrFun (atUser_zero u) u') t

theorem Cell.share_nonneg {u : UserId} {f : TicketTypeId → Int} (h : ∀ t, 0 ≤ f t) :
    0 ≤ c.share u f := by
  cases c with
  | type t => exact h t
  | user u' t =>
      simp only [Cell.share, atUser]
      split
      · exact h t
      · exact le_refl 0

/-- What `q` tickets of one type weigh. -/
abbrev Cell.part (c : Cell) (u : UserId) (t : TicketTypeId) (q : Int) : Int :=
  c.share u (atType t q)

theorem Cell.part_nonneg {u : UserId} {t : TicketTypeId} {q : Int} (hq : 0 < q) :
    0 ≤ c.part u t q := by
  refine Cell.share_nonneg fun t' => ?_
  simp only [atType]
  split <;> omega

/-- The weight of an order in the cell. -/
def Cell.weight (c : Cell) (u : UserId) (items : List OrderItem) : Int := c.share u (qtyOf items)

@[simp] theorem Cell.weight_nil (c : Cell) (u : UserId) : c.weight u [] = 0 := by
  rw [Cell.weight, qtyOf_nil_eq, Cell.share_zero]

theorem Cell.weight_cons (c : Cell) (u : UserId) (i : OrderItem) (items : List OrderItem) :
    c.weight u (i :: items) = c.part u i.ticketTypeId i.quantity + c.weight u items := by
  rw [Cell.weight, qtyOf_cons_eq, Cell.share_add, ← Cell.weight]

theorem Cell.weight_nonneg (c : Cell) (u : UserId) (items : List OrderItem) :
    0 ≤ c.weight u items :=
  Cell.share_nonneg (qtyOf_nonneg items)

/-- The weight of an order, item by item. -/
theorem Cell.weight_eq_sum (c : Cell) (u : UserId) (items : List OrderItem) :
    c.weight u items = (items.map fun i => c.part u i.ticketTypeId i.quantity).sum := by
  induction items with
  | nil => exact Cell.weight_nil c u
  | cons i items ih => rw [Cell.weight_cons, ih, List.map_cons, List.sum_cons]

/-- The share of some validated items, item by item. -/
theorem Cell.share_metaQty (c : Cell) (u : UserId) (metas : List TicketMeta) :
    c.share u (metaQty metas)
      = (metas.map fun m => c.part u m.ticketTypeId m.quantity).sum := by
  induction metas with
  | nil => rw [metaQty_nil_eq, Cell.share_zero, List.map_nil, List.sum_nil]
  | cons m metas ih => rw [metaQty_cons_eq, Cell.share_add, ih, List.map_cons, List.sum_cons]

theorem Cell.value_same {db db' : Db} (htt : db'.ticketTypes = db.ticketTypes)
    (hc : db'.counters = db.counters) (c : Cell) : c.value db' = c.value db := by
  cases c with
  | type t => simp only [Cell.value, Db.reservedQty, Db.findTicketType, htt]
  | user u t => simp only [Cell.value, Db.counterReserved, hc]

/-! ## Holds -/

/-- What the open orders hold of the cell. -/
def held (c : Cell) (db : Db) : Int := heldSum c.weight db

theorem held_nonneg (c : Cell) (db : Db) : 0 ≤ held c db := by
  refine List.sum_nonneg fun x hx => ?_
  obtain ⟨r, -, rfl⟩ := List.mem_map.mp hx
  split
  · exact Cell.weight_nonneg ..
  · exact le_refl 0

theorem qtyOf_orderItems (o : OrderId) (metas : List TicketMeta) :
    qtyOf (orderItems o metas) = metaQty metas := by
  funext t
  rw [qtyOf, metaQty]
  congr 1
  refine List.ext_getElem (by simp [orderItems]) fun n _ _ => ?_
  simp [orderItems]

/-- A new order holds what was validated. -/
theorem held_inserted (ctx : CreateCtx) (o : OrderId) (metas : List TicketMeta) (db : Db) :
    held c { db with orders := db.orders ++ [newOrder ctx o metas] }
      = held c db + c.share ctx.userId (metaQty metas) := by
  rw [held, heldSum_append rfl, ← held]
  congr 1
  show c.share ctx.userId (qtyOf (orderItems o metas)) = _
  rw [qtyOf_orderItems]

/-- A deleted order has no item and held nothing. -/
theorem held_deleted {o : OrderId} {db db' : Db} (hk : RowTable.Keyed Order.id db.orders)
    (h : deleteOrder o db = .ok db') : held c db' = held c db := by
  obtain ⟨rfl, row, hrow, hnil, -⟩ := deleteOrder_eq h
  simp only [held, heldSum]
  rw [RowTable.sum_remove _ hk hrow, hnil, Cell.weight_nil, ite_self, sub_zero]

/-- The copy a call works on has the user and the items of its row. -/
theorem row_of_copy {w : World} (hw : WorldSound w) {order : Order} (h : Drawn w order) :
    ∀ row, w.db.findOrder order.id = some row →
      row.userId = order.userId ∧ row.items = order.items := by
  intro row hrow
  have hcon := h.content (hw.rows row (RowTable.lookup_mem hrow)) (RowTable.lookup_key hrow)
  exact ⟨hcon.userId.symm, hcon.items.symm⟩

/-- A status other than PENDING_PAYMENT and PAID gives an unissued order's share back. -/
theorem held_final {w : World} {db' : Db} {order : Order} {s : OrderStatus} (hw : WorldSound w)
    (hd : Drawn w order) (hset : OrderSet order.id s w.db db') (ht : db'.tickets = w.db.tickets)
    (hs : s ≠ .pendingPayment ∧ s ≠ .paid) (hu : Unissued order.id w.db) :
    held c db' = held c w.db - c.weight order.userId order.items := by
  obtain ⟨row, hrow, hheld⟩ := heldSum_final c.weight hw.keyed hset ht hs hu
  obtain ⟨hru, hri⟩ := row_of_copy hw hd row hrow
  rw [held, hheld, hru, hri]
  rfl

/-! ## Running reservations -/

/-- The reservation took effect. -/
def ReserveSlot.accepted (s : ReserveSlot) : Bool :=
  match s.reply with
  | some (.ok (.ok _)) => true
  | _ => false

/-- The share of the reservations that took effect. -/
def accepted (c : Cell) (ctx : CreateCtx) (slots : List ReserveSlot) : Int :=
  (slots.map fun s =>
    if ReserveSlot.accepted s then c.part ctx.userId s.item.ticketTypeId s.item.quantity else 0).sum

theorem accepted_nonneg (c : Cell) (ctx : CreateCtx) (slots : List ReserveSlot) :
    0 ≤ accepted c ctx slots := by
  refine List.sum_nonneg fun x hx => ?_
  obtain ⟨s, -, rfl⟩ := List.mem_map.mp hx
  split
  · exact Cell.part_nonneg s.item.quantity_pos
  · exact le_refl 0

theorem accepted_append (c : Cell) (ctx : CreateCtx) (slots slots' : List ReserveSlot) :
    accepted c ctx (slots ++ slots') = accepted c ctx slots + accepted c ctx slots' := by
  simp [accepted]

/-- A batch in which every reservation took effect. -/
theorem accepted_all {ctx : CreateCtx} {slots : List ReserveSlot}
    (h : ∀ s ∈ slots, ReserveSlot.accepted s = true) :
    accepted c ctx slots = c.share ctx.userId (metaQty (slots.map ReserveSlot.item)) := by
  rw [Cell.share_metaQty, List.map_map, accepted]
  congr 1
  exact List.map_congr_left fun s hs => if_pos (h s hs)

/-- A batch just started has taken nothing. -/
theorem accepted_started (c : Cell) (ctx : CreateCtx) (metas : List TicketMeta) :
    accepted c ctx (metas.map fun m => { item := m, reply := none }) = 0 := by
  refine List.sum_eq_zero fun x hx => ?_
  simp only [List.map_map] at hx
  obtain ⟨m, -, rfl⟩ := List.mem_map.mp hx
  rfl

/-- One reply filled in: its reservation takes effect, or not. -/
theorem accepted_set {ctx : CreateCtx} {slots : List ReserveSlot} {k : Nat} {s : ReserveSlot}
    (hs : slots[k]? = some s) (hnone : s.reply = none)
    (reply : Option (Except ApiError LuaScriptResult)) :
    accepted c ctx (slots.set k { s with reply := reply }) = accepted c ctx slots
      + (if ReserveSlot.accepted { s with reply := reply } then
          c.part ctx.userId s.item.ticketTypeId s.item.quantity else 0) := by
  rw [accepted, sum_map_set _ hs, ← accepted]
  have hno : ReserveSlot.accepted s = false := by
    simp only [ReserveSlot.accepted, hnone]
  rw [hno, if_neg Bool.false_ne_true, sub_zero]

/-! ## A settled batch -/

/-- The reservation neither threw nor was rejected. -/
theorem accepted_of_settled {s : ReserveSlot} (hsome : s.reply.isSome = true)
    (hok : ∀ e, s.reply ≠ some (.error e)) (hno : ReserveSlot.failure s = none) :
    ReserveSlot.accepted s = true := by
  simp only [ReserveSlot.accepted]
  cases hr : s.reply with
  | none => simp [hr] at hsome
  | some r =>
      cases r with
      | error e => exact absurd hr (hok e)
      | ok res =>
          cases res with
          | error e => simp [ReserveSlot.failure, hr] at hno
          | ok reply => rfl

/-- How a createOrder call goes on when its batch has settled. -/
inductive Settles (ctx : CreateCtx) (o : OrderId) (slots : List ReserveSlot) : Op → Prop where
  | threw (s : ReserveSlot) : s ∈ slots → (∃ e, s.reply = some (.error e)) →
      Settles ctx o slots thrown
  | succeeded : (∀ s ∈ slots, ReserveSlot.accepted s = true) →
      Settles ctx o slots (.ask (.persistOrder ctx o (slots.map ReserveSlot.item)))
  | rejected (k : Nat) (s : ReserveSlot) (e : ApiError) :
      slots[k]? = some s → ReserveSlot.accepted s = false →
      (∀ s' ∈ slots.take k, ReserveSlot.accepted s' = true) →
      Settles ctx o slots (rollback ctx o e ((slots.take k).reverse.map ReserveSlot.item))

theorem afterReserve_settles (ctx : CreateCtx) (o : OrderId) (slots : List ReserveSlot)
    (hall : ∀ s ∈ slots, s.reply.isSome = true) :
    Settles ctx o slots (afterReserve ctx o slots) := by
  simp only [afterReserve]
  split
  · next hthrew =>
    obtain ⟨s, hs, hr⟩ := List.any_eq_true.mp hthrew
    refine .threw s hs ?_
    split at hr
    · next e he => exact ⟨e, he⟩
    · cases hr
  · next hthrew =>
    have hok : ∀ s ∈ slots, ∀ e, s.reply ≠ some (.error e) := by
      intro s hs e he
      exact hthrew (List.any_eq_true.mpr ⟨s, hs, by rw [he]⟩)
    split
    · next hnone =>
      refine .succeeded fun s hs => accepted_of_settled (hall s hs) (hok s hs) ?_
      have := List.findIdx?_eq_none_iff.mp hnone s hs
      simpa using this
    · next k hk =>
      obtain ⟨hlt, hfail, hbefore⟩ := List.findIdx?_eq_some_iff_getElem.mp hk
      rw [List.getElem?_eq_getElem hlt]
      simp only
      split
      · next hnone => simp [hnone] at hfail
      · next e he =>
        refine .rejected k slots[k] _ (List.getElem?_eq_getElem hlt) ?_ fun s' hs' => ?_
        · simp only [ReserveSlot.accepted]
          split
          · next r hr => simp [ReserveSlot.failure, hr] at he
          · rfl
        · obtain ⟨n, hn, rfl⟩ := List.mem_take_iff_getElem.mp hs'
          have hn' : n < slots.length := by omega
          have hmem : slots[n] ∈ slots := List.getElem_mem hn'
          refine accepted_of_settled (hall _ hmem) (hok _ hmem) ?_
          have := hbefore n (by omega)
          simpa using this

/-- What holds of the running batch, of the order row it leads to and of the
    releases of what it took holds of the whole program. -/
theorem all_awaitReserve {jd : Ask → Prop} {jt : Task → Prop} {ctx : CreateCtx} {o : OrderId}
    {slots : List ReserveSlot} (hask : jd (.reserveTickets ctx o slots))
    (hpersist : (∀ s ∈ slots, ReserveSlot.accepted s = true) →
      jd (.persistOrder ctx o (slots.map ReserveSlot.item)))
    (hrelease : ∀ s ∈ slots, ReserveSlot.accepted s = true →
      ∀ t ∈ metaReleases .rollback ctx o [s.item], jt t) :
    (awaitReserve ctx o slots).All jd jt := by
  simp only [awaitReserve]
  split
  · next hall =>
    have hsettles := afterReserve_settles ctx o slots (by simpa using hall)
    generalize afterReserve ctx o slots = prog at hsettles
    cases hsettles with
    | threw s _ _ => trivial
    | succeeded hok => exact hpersist hok
    | rejected k s e _ _ hbefore =>
        have hmetas : ∀ m ∈ (slots.take k).reverse.map ReserveSlot.item,
            ∀ t ∈ metaReleases .rollback ctx o [m], jt t := by
          intro m hm
          obtain ⟨s', hs', rfl⟩ := List.mem_map.mp hm
          have hmem := List.mem_reverse.mp hs'
          exact hrelease s' (List.mem_of_mem_take hmem) (hbefore s' hmem)
        generalize (slots.take k).reverse.map ReserveSlot.item = metas at hmetas
        induction metas with
        | nil => trivial
        | cons m metas ih =>
            exact ⟨hmetas m List.mem_cons_self, trivial,
              ih fun m' hm' => hmetas m' (List.mem_cons_of_mem _ hm')⟩
  · exact hask

/-- What the rollback still releases. -/
theorem total_rollback {fd : Ask → Int} {ft : Task → Int}
    (hrelease : ∀ p, ft (.releaseReservation .rollback p)
      = c.part p.userId p.ticketTypeId p.quantity)
    (ctx : CreateCtx) (o : OrderId) (e : ApiError) (metas : List TicketMeta) :
    (rollback ctx o e metas).total fd ft = c.share ctx.userId (metaQty metas) := by
  induction metas with
  | nil => rw [metaQty_nil_eq, Cell.share_zero]; rfl
  | cons m metas ih =>
      rw [rollback, Prog.total_par, ih, metaQty_cons_eq, Cell.share_add]
      simp [metaReleases, hrelease]

/-- The only reservation of a call, if it is not accepted. -/
theorem accepted_single {ctx : CreateCtx} {slots : List ReserveSlot} {k : Nat} {s : ReserveSlot}
    (hk : slots[k]? = some s) (hs : ReserveSlot.accepted s = false) (hlen : slots.length ≤ 1) :
    accepted c ctx slots = 0 ∧ slots.take k = [] := by
  cases slots with
  | nil => cases hk
  | cons s' rest =>
      have hrest : rest = [] := by
        rw [← List.length_eq_zero_iff]
        rw [List.length_cons] at hlen
        omega
      subst hrest
      cases k with
      | zero =>
          cases hk
          simp [accepted, hs]
      | succ k => cases hk

/-- An account of what a createOrder call has taken: it goes on with at most
    that, and with exactly that if it reserves for one item. -/
theorem total_awaitReserve {fd : Ask → Int} {ft : Task → Int} {ctx : CreateCtx} {o : OrderId}
    (hreserve : ∀ slots, fd (.reserveTickets ctx o slots) = accepted c ctx slots)
    (hpersist : ∀ metas, fd (.persistOrder ctx o metas) = c.share ctx.userId (metaQty metas))
    (hrelease : ∀ p, ft (.releaseReservation .rollback p)
      = c.part p.userId p.ticketTypeId p.quantity) (slots : List ReserveSlot) :
    (awaitReserve ctx o slots).total fd ft ≤ accepted c ctx slots ∧
      (slots.length ≤ 1 → (awaitReserve ctx o slots).total fd ft = accepted c ctx slots) := by
  simp only [awaitReserve]
  split
  · next hall =>
    have hsome : ∀ s ∈ slots, s.reply.isSome = true := by simpa using hall
    generalize hprog : afterReserve ctx o slots = prog
    have hsettles := afterReserve_settles ctx o _ hsome
    rw [hprog] at hsettles
    cases hsettles with
    | threw s hs hthrew =>
        obtain ⟨e, he⟩ := hthrew
        have hno : ReserveSlot.accepted s = false := by
          simp only [ReserveSlot.accepted, he]
        obtain ⟨k, hk⟩ := List.getElem?_of_mem hs
        exact ⟨accepted_nonneg c ctx slots, fun hlen => (accepted_single hk hno hlen).1.symm⟩
    | succeeded hok =>
        rw [Prog.total_ask, hpersist, accepted_all hok]
        exact ⟨le_refl _, fun _ => rfl⟩
    | rejected k s e hk hno hbefore =>
        rw [total_rollback hrelease]
        -- what was taken before the rejected reservation
        have htake : c.share ctx.userId (metaQty ((slots.take k).reverse.map ReserveSlot.item))
            = accepted c ctx (slots.take k) := by
          rw [accepted_all hbefore, Cell.share_metaQty, Cell.share_metaQty, List.map_reverse,
            List.map_reverse, List.sum_reverse]
        rw [htake]
        constructor
        · have hsplit := accepted_append c ctx (slots.take k) (slots.drop k)
          rw [List.take_append_drop] at hsplit
          have := accepted_nonneg c ctx (slots.drop k)
          omega
        · intro hlen
          obtain ⟨hzero, hnil⟩ := accepted_single hk hno hlen
          rw [hzero, hnil]
          rfl
  · rw [Prog.total_ask, hreserve]
    exact ⟨le_refl _, fun _ => rfl⟩

end TicketBackend
