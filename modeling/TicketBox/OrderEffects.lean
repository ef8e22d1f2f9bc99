import TicketBox.DbEffects

/-! # Order rows, issued tickets and the inventory orders hold

    `OrderSet`, `Released` and `Issued` say what the status transactions do:
    which row gets which status, what goes back to the inventory, which tickets
    are added.  `heldSum` weighs the orders that hold inventory, those that are
    PENDING_PAYMENT or PAID with no ticket issued, and the last section says by
    how much each transaction moves it. -/

namespace TicketDb

open TicketStore

/-! ## Order rows -/

/-- Two versions of one order: all but its status and its release data. -/
structure SameContent (r r' : Order) : Prop where
  id : r'.id = r.id
  userId : r'.userId = r.userId
  concertId : r'.concertId = r.concertId
  totalAmountInVnd : r'.totalAmountInVnd = r.totalAmountInVnd
  expiresAt : r'.expiresAt = r.expiresAt
  items : r'.items = r.items

/-- An order has its own content. -/
theorem SameContent.refl (r : Order) : SameContent r r := ⟨rfl, rfl, rfl, rfl, rfl, rfl⟩

/-- Content is shared both ways. -/
theorem SameContent.symm {r r' : Order} (h : SameContent r r') : SameContent r' r :=
  ⟨h.id.symm, h.userId.symm, h.concertId.symm, h.totalAmountInVnd.symm, h.expiresAt.symm,
    h.items.symm⟩

/-- And along a chain. -/
theorem SameContent.trans {r r' r'' : Order} (h₁ : SameContent r r') (h₂ : SameContent r' r'') :
    SameContent r r'' :=
  ⟨h₂.id.trans h₁.id, h₂.userId.trans h₁.userId, h₂.concertId.trans h₁.concertId,
    h₂.totalAmountInVnd.trans h₁.totalAmountInVnd, h₂.expiresAt.trans h₁.expiresAt,
    h₂.items.trans h₁.items⟩

/-- The write gave the row of order `o` the status `s` and kept its content. -/
structure OrderSet (o : OrderId) (s : OrderStatus) (db db' : Db) : Prop where
  found : (db.findOrder o).isSome
  rows : ∃ f : Order → Order, (∀ r, SameContent r (f r) ∧ (f r).status = s) ∧
    db'.orders = RowTable.modify Order.id o f db.orders

/-- An update of the status changes nothing else. -/
theorem updateOrder_set {o : OrderId} {s : OrderStatus} {f : Order → Order} {db db' : Db}
    (h : updateOrder o f db = some db') (hf : ∀ r, SameContent r (f r) ∧ (f r).status = s) :
    OrderSet o s db db' ∧ db'.tickets = db.tickets ∧ db'.ticketTypes = db.ticketTypes ∧
      db'.counters = db.counters := by
  simp only [updateOrder, Option.map_eq_some_iff] at h
  obtain ⟨row, hrow, rfl⟩ := h
  refine ⟨⟨?_, f, hf, rfl⟩, rfl, rfl, rfl⟩
  rw [hrow]
  rfl

/-- Writes before and after that leave the order rows alone do not matter. -/
theorem OrderSet.congr {o : OrderId} {s : OrderStatus} {a a' b b' : Db} (h : OrderSet o s a' b')
    (ha : a'.orders = a.orders) (hb : b.orders = b'.orders) : OrderSet o s a b := by
  obtain ⟨hfound, f, hf, hrows⟩ := h
  refine ⟨?_, f, hf, ?_⟩
  · simpa only [Db.findOrder, ha] using hfound
  · rw [hb, hrows, ha]

/-- The order has its new status. -/
theorem OrderSet.find_self {o : OrderId} {s : OrderStatus} {db db' : Db} (h : OrderSet o s db db') :
    ∃ row row', db.findOrder o = some row ∧ db'.findOrder o = some row' ∧ SameContent row row' ∧
      row'.status = s := by
  obtain ⟨hfound, f, hf, hrows⟩ := h
  obtain ⟨row, hrow⟩ := Option.isSome_iff_exists.mp hfound
  refine ⟨row, f row, hrow, ?_, (hf row).1, (hf row).2⟩
  simp only [Db.findOrder] at hrow
  simp only [Db.findOrder, hrows, RowTable.lookup_modify_self fun r => (hf r).1.id, hrow,
    Option.map_some]

/-- The others have theirs. -/
theorem OrderSet.find_ne {o o' : OrderId} {s : OrderStatus} {db db' : Db} (h : OrderSet o s db db')
    (hne : o' ≠ o) : db'.findOrder o' = db.findOrder o' := by
  obtain ⟨-, f, hf, hrows⟩ := h
  simp only [Db.findOrder, hrows]
  exact RowTable.lookup_modify_ne (fun r => (hf r).1.id) hne

/-- The ids stay apart. -/
theorem OrderSet.keyed {o : OrderId} {s : OrderStatus} {db db' : Db} (h : OrderSet o s db db')
    (hk : RowTable.Keyed Order.id db.orders) : RowTable.Keyed Order.id db'.orders := by
  obtain ⟨-, f, hf, hrows⟩ := h
  rw [hrows]
  exact hk.modify fun r => (hf r).1.id

/-- Every row after the write is a version of a row before it. -/
theorem OrderSet.mem {o : OrderId} {s : OrderStatus} {db db' : Db} (h : OrderSet o s db db')
    {r' : Order} (hr : r' ∈ db'.orders) : ∃ r ∈ db.orders, SameContent r r' := by
  obtain ⟨-, f, hf, hrows⟩ := h
  rw [hrows] at hr
  obtain ⟨r, hmem, rfl⟩ := RowTable.mem_modify hr
  refine ⟨r, hmem, ?_⟩
  split
  · exact (hf r).1
  · exact SameContent.refl r

/-- `INSERT` adds a row of a new id. -/
theorem insertOrder_eq {row : Order} {db db' : Db} (h : insertOrder row db = some db') :
    db' = { db with orders := db.orders ++ [row] } ∧ db.findOrder row.id = none := by
  simp only [insertOrder] at h
  split at h
  · next hc =>
    cases h
    exact ⟨rfl, Option.isNone_iff_eq_none.mp hc.1⟩
  · cases h

/-- A row that is inserted fits its columns. -/
theorem insertOrder_fits {row : Order} {db db' : Db} (h : insertOrder row db = some db') :
    row.FitsColumns := by
  simp only [insertOrder] at h
  split at h
  · next hc => exact hc.2.2.2
  · cases h

/-- A delete that the foreign keys let through: the order has no item, no
    payment and no ticket. -/
theorem deleteOrder_eq {o : OrderId} {db db' : Db} (h : deleteOrder o db = .ok db') :
    db' = { db with orders := RowTable.remove Order.id o db.orders } ∧
      ∃ row, db.findOrder o = some row ∧ row.items = [] ∧ ∀ k ∈ db.tickets, k.orderId ≠ o := by
  simp only [deleteOrder] at h
  split at h
  · cases h
  · next row hrow =>
    split at h
    · cases h
    · next hc =>
      cases h
      simp only [not_or, not_exists, not_and, ne_eq, not_not] at hc
      exact ⟨rfl, row, hrow, hc.1, hc.2.2⟩

/-- `cancelOrder` writes the status only. -/
theorem commitCancelled_set {o : OrderId} {now : Nat} {db db' : Db}
    (h : commitCancelled o now db = some db') :
    OrderSet o .cancelled db db' ∧ db'.tickets = db.tickets ∧ db'.ticketTypes = db.ticketTypes ∧
      db'.counters = db.counters :=
  updateOrder_set h fun _ => ⟨⟨rfl, rfl, rfl, rfl, rfl, rfl⟩, rfl⟩

/-- So does `expireOrder`. -/
theorem commitExpired_set {o : OrderId} {now : Nat} {db db' : Db}
    (h : commitExpired o now db = some db') :
    OrderSet o .expired db db' ∧ db'.tickets = db.tickets ∧ db'.ticketTypes = db.ticketTypes ∧
      db'.counters = db.counters :=
  updateOrder_set h fun _ => ⟨⟨rfl, rfl, rfl, rfl, rfl, rfl⟩, rfl⟩

/-- A payment row added: nothing else changes. -/
theorem insertPayment_same {o : OrderId} {s : PaymentStatus} {a : Int}
    {p : Option ProviderTransactionId} {url : Option String} {db db' : Db}
    (h : insertPayment o s a p url db = some db') :
    db'.orders = db.orders ∧ db'.tickets = db.tickets ∧ db'.ticketTypes = db.ticketTypes ∧
      db'.counters = db.counters := by
  simp only [insertPayment, Option.map_eq_some_iff] at h
  obtain ⟨_, -, rfl⟩ := h
  exact ⟨rfl, rfl, rfl, rfl⟩

/-- So does the cron that marks an order paid. -/
theorem commitCronPaid_set {order : Order} {now : Nat} {db db' : Db}
    (h : commitCronPaid order now db = some db') :
    OrderSet order.id .paid db db' ∧ db'.tickets = db.tickets ∧ db'.ticketTypes = db.ticketTypes ∧
      db'.counters = db.counters := by
  simp only [commitCronPaid, Option.bind_eq_bind, Option.bind_eq_some_iff] at h
  obtain ⟨db₁, h₁, h₂⟩ := h
  obtain ⟨ho, ht, htt, hc⟩ := insertPayment_same h₁
  obtain ⟨hset, ht', htt', hc'⟩ := updateOrder_set (s := .paid) h₂
    fun _ => ⟨⟨rfl, rfl, rfl, rfl, rfl, rfl⟩, rfl⟩
  exact ⟨hset.congr ho rfl, ht'.trans ht, htt'.trans htt, hc'.trans hc⟩

/-! ## The releasing transactions -/

/-- The transaction gave the order a final status and its items back to the
    inventory, as far as its guards matched. -/
structure Released (order : Order) (s : OrderStatus) (db db' : Db) : Prop where
  set : OrderSet order.id s db db'
  tickets : db'.tickets = db.tickets
  lower : ∃ r : TicketTypeId → Int, (∀ t, 0 ≤ r t) ∧ Moves db db' 0 (-r) 0
  rows : ∀ k, (db'.counters k).isSome → (db.counters k).isSome
  fits : Fits order.userId order.items db → Moves db db' 0 (-qtyOf order.items) 0 ∧
    ∀ u t, db'.counterReserved u t = db.counterReserved u t
      + atUser order.userId (-qtyOf order.items) u t

/-- A status written, then the releasing loop. -/
theorem released_of_loop {order : Order} {s : OrderStatus} {db mid : Db}
    (hset : OrderSet order.id s db mid) (ht : mid.tickets = db.tickets)
    (htt : mid.ticketTypes = db.ticketTypes) (hc : mid.counters = db.counters) :
    Released order s db (releaseAllGuarded order.userId order.items mid) := by
  obtain ⟨hro, hrt⟩ := releaseAllGuarded_same order.userId order.items mid
  have hmid := Moves.of_eq htt hc
  refine ⟨hset.congr rfl hro, hrt.trans ht, ?_,
    fun k hk => hc ▸ releaseAllGuarded_rows hk, fun hfits => ?_⟩
  · obtain ⟨r, hr0, hm⟩ := releaseAllGuarded_moves order.userId order.items mid
    exact ⟨r, hr0, (hmid.trans hm).cast (zero_add _) (zero_add _) (zero_add _)⟩
  · have hsame : ∀ u t, mid.counterReserved u t = db.counterReserved u t := by
      intro u t
      simp [Db.counterReserved, hc]
    have hfits' : Fits order.userId order.items mid := by
      intro i hi
      rw [hmid.reservedQty, hsame]
      simpa using hfits i hi
    obtain ⟨hm, hcr⟩ := releaseAllGuarded_fits hfits'
    refine ⟨(hmid.trans hm).cast (zero_add _) (zero_add _) (zero_add _), fun u t => ?_⟩
    rw [hcr, hsame]

/-- The FAILED webhook gives the items back. -/
theorem commitFailed_released {order : Order} {now : Nat} {db db' : Db}
    (h : commitFailed order now db = some db') : Released order .paymentFailed db db' := by
  simp only [commitFailed, Option.bind_eq_bind, Option.bind_eq_some_iff, Option.some.injEq] at h
  obtain ⟨mid, hmid, rfl⟩ := h
  obtain ⟨hset, ht, htt, hc⟩ := updateOrder_set (s := .paymentFailed) hmid
    fun _ => ⟨⟨rfl, rfl, rfl, rfl, rfl, rfl⟩, rfl⟩
  exact released_of_loop (hset.congr rfl rfl) ht htt hc

/-- So does the cron that expires an order. -/
theorem commitCronExpire_released {order : Order} {res : VerifyResult} {now : Nat} {db db' : Db}
    (h : commitCronExpire order res now db = some db') :
    Released order res.orderStatus db db' := by
  simp only [commitCronExpire, Option.bind_eq_bind, Option.bind_eq_some_iff,
    Option.some.injEq] at h
  obtain ⟨db₁, h₁, mid, hmid, rfl⟩ := h
  obtain ⟨hset, ht, htt, hc⟩ := updateOrder_set (s := res.orderStatus) h₁
    fun _ => ⟨⟨rfl, rfl, rfl, rfl, rfl, rfl⟩, rfl⟩
  obtain ⟨ho', ht', htt', hc'⟩ := insertPayment_same hmid
  exact released_of_loop (hset.congr rfl ho') (ht'.trans ht) (htt'.trans htt) (hc'.trans hc)

/-! ## Issued tickets -/

/-- Where a ticket comes from: its order, its item, its type and its user. -/
abbrev Origin := OrderId × (OrderId × Nat) × TicketTypeId × UserId

/-- The order, item, type and user that a ticket was issued for. -/
def originOf (k : Ticket) : Origin := (k.orderId, k.orderItemId, k.ticketTypeId, k.userId)

/-- The origin of the tickets of an item. -/
def itemOrigin (order : Order) (i : OrderItem) : Origin :=
  (order.id, i.id, i.ticketTypeId, order.userId)

/-- One ticket for each unit of each item. -/
def originsOf (order : Order) (items : List OrderItem) : List Origin :=
  items.flatMap fun i => List.replicate i.quantity.toNat (itemOrigin order i)

/-- How many tickets have an origin that satisfies `p`. -/
def countWhere (p : Origin → Prop) [DecidablePred p] (ts : List Ticket) : Int :=
  (ts.filter fun k => p (originOf k)).length

@[simp] theorem countWhere_nil (p : Origin → Prop) [DecidablePred p] : countWhere p [] = 0 := rfl

/-- Tickets counted in two goes. -/
theorem countWhere_append (p : Origin → Prop) [DecidablePred p] (ts ts' : List Ticket) :
    countWhere p (ts ++ ts') = countWhere p ts + countWhere p ts' := by
  simp [countWhere]

/-- Tickets issued for some items count as the items' quantities. -/
theorem countWhere_of_origins (p : Origin → Prop) [DecidablePred p] {order : Order}
    {items : List OrderItem} {ts : List Ticket} (h : ts.map originOf = originsOf order items) :
    countWhere p ts
      = (items.map fun i => if p (itemOrigin order i) then i.quantity else 0).sum := by
  have hlen : countWhere p ts = ((originsOf order items).filter fun x => p x).length := by
    rw [← h, List.filter_map, List.length_map]
    rfl
  rw [hlen]
  clear h hlen
  induction items with
  | nil => rfl
  | cons i items ih =>
      have hq : (i.quantity.toNat : Int) = i.quantity := Int.toNat_of_nonneg i.quantity_pos.le
      simp only [originsOf, List.flatMap_cons, List.filter_append, List.length_append,
        Nat.cast_add, List.map_cons, List.sum_cons]
      rw [← originsOf, ih]
      by_cases hp : p (itemOrigin order i) <;> simp [hp, hq]

/-- The tickets of a type, counted. -/
theorem ticketCount_eq (db : Db) (t : TicketTypeId) :
    db.ticketCount t = countWhere (fun x => x.2.2.1 = t) db.tickets := rfl

/-- Issued tickets belong to the order they were issued for. -/
theorem orderId_of_origins {order : Order} {items : List OrderItem} {ts : List Ticket}
    (h : ts.map originOf = originsOf order items) : ∀ k ∈ ts, k.orderId = order.id := by
  intro k hk
  have hmem : originOf k ∈ originsOf order items := h ▸ List.mem_map_of_mem hk
  obtain ⟨i, -, hi⟩ := List.mem_flatMap.mp hmem
  exact congrArg Prod.fst (List.mem_replicate.mp hi).2

/-- No item, no ticket. -/
theorem eq_nil_of_origins {order : Order} {ts : List Ticket} {items : List OrderItem}
    (h : ts.map originOf = originsOf order items) (hnil : items = []) : ts = [] := by
  rw [hnil] at h
  exact List.map_eq_nil_iff.mp h

/-- Versions of one order own the same tickets. -/
theorem SameContent.origins {r r' : Order} (h : SameContent r r') :
    originsOf r' r'.items = originsOf r r.items := by
  have hitem : itemOrigin r' = itemOrigin r := by
    funext i
    simp only [itemOrigin, h.id, h.userId]
  simp only [originsOf, hitem, h.items]

/-- Some tickets were issued for `items` of the order and its inventory was
    moved from reserved to sold. -/
structure Issued (order : Order) (items : List OrderItem) (db db' : Db) : Prop where
  moves : Moves db db' (qtyOf items) (-qtyOf items) (atUser order.userId (qtyOf items))
  held : (∀ i ∈ items, (db.counters (order.userId, i.ticketTypeId)).isSome) →
    ∀ u t, db'.counterReserved u t = db.counterReserved u t + atUser order.userId (-qtyOf items) u t
  rows : ∀ k, (db'.counters k).isSome →
    (db.counters k).isSome ∨ ∃ i ∈ items, k = (order.userId, i.ticketTypeId)
  tickets : ∃ ts, db'.tickets = db.tickets ++ ts ∧ ts.map originOf = originsOf order items

/-- The order rows before the transaction do not matter. -/
theorem Issued.of_orders {order : Order} {items : List OrderItem} {db db' : Db}
    (h : Issued order items db db') (rows : List Order) :
    Issued order items { db with orders := rows } db' where
  moves := ((Moves.of_eq rfl rfl : Moves { db with orders := rows } db 0 0 0).trans h.moves).cast
    (zero_add _) (zero_add _) (zero_add _)
  held := h.held
  rows := h.rows
  tickets := h.tickets

/-- A sale moves the tickets from reserved to sold. -/
theorem moveToSold_moves {t : TicketTypeId} {q : Int} {db db' : Db}
    (h : moveToSold t q db = some db') : Moves db db' (atType t q) (atType t (-q)) 0 := by
  simp only [moveToSold, Option.map_eq_some_iff] at h
  obtain ⟨row, hrow, rfl⟩ := h
  exact bumpType_moves q (-q) (by rw [hrow]; rfl)

/-- It leaves everything else alone. -/
theorem moveToSold_same {t : TicketTypeId} {q : Int} {db db' : Db}
    (h : moveToSold t q db = some db') :
    db'.orders = db.orders ∧ db'.tickets = db.tickets ∧ db'.counters = db.counters := by
  simp only [moveToSold, Option.map_eq_some_iff] at h
  obtain ⟨row, hrow, rfl⟩ := h
  exact ⟨rfl, rfl, rfl⟩

/-- A count that is taken back. -/
theorem atType_neg (t : TicketTypeId) (q : Int) : atType t (-q) = -atType t q := by
  funext t'
  by_cases h : t = t' <;> simp [atType, h]

/-- The sale of all items. -/
theorem moveAllToSold_moves {items : List OrderItem} {db db' : Db}
    (h : moveAllToSold items db = some db') : Moves db db' (qtyOf items) (-qtyOf items) 0 := by
  induction items generalizing db with
  | nil =>
      simp only [moveAllToSold, Option.some.injEq] at h
      subst h
      exact (Moves.refl db).cast rfl (by simp [qtyOf_nil_eq]) rfl
  | cons i items ih =>
      simp only [moveAllToSold, Option.bind_eq_some_iff] at h
      obtain ⟨db₁, h₁, h₂⟩ := h
      refine ((moveToSold_moves h₁).trans (ih h₂)).cast rfl ?_ (add_zero _)
      rw [qtyOf_cons_eq, atType_neg, neg_add]

/-- It leaves everything else alone. -/
theorem moveAllToSold_same {items : List OrderItem} {db db' : Db}
    (h : moveAllToSold items db = some db') :
    db'.orders = db.orders ∧ db'.tickets = db.tickets ∧ db'.counters = db.counters := by
  induction items generalizing db with
  | nil =>
      simp only [moveAllToSold, Option.some.injEq] at h
      exact h ▸ ⟨rfl, rfl, rfl⟩
  | cons i items ih =>
      simp only [moveAllToSold, Option.bind_eq_some_iff] at h
      obtain ⟨db₁, h₁, h₂⟩ := h
      obtain ⟨ho₁, ht₁, hc₁⟩ := moveToSold_same h₁
      obtain ⟨ho, ht, hc⟩ := ih h₂
      exact ⟨ho.trans ho₁, ht.trans ht₁, hc.trans hc₁⟩

/-- The upsert leaves orders and tickets alone. -/
theorem upsertPaid_same (u : UserId) (t : TicketTypeId) (q : Int) (db : Db) :
    (upsertPaid u t q db).orders = db.orders ∧ (upsertPaid u t q db).tickets = db.tickets := by
  simp only [upsertPaid]
  split <;> exact ⟨rfl, rfl⟩

/-- The upserts of all items add to what the user has paid for. -/
theorem upsertAllPaid_moves (u : UserId) (items : List OrderItem) (db : Db) :
    Moves db (upsertAllPaid u items db) 0 0 (atUser u (qtyOf items)) := by
  induction items generalizing db with
  | nil => exact (Moves.refl db).cast rfl rfl (by rw [qtyOf_nil_eq, atUser_zero])
  | cons i items ih =>
      refine ((upsertPaid_moves u i.ticketTypeId i.quantity db).trans (ih _)).cast
        (add_zero _) (add_zero _) ?_
      rw [qtyOf_cons_eq, atUser_add]

/-- They leave orders and tickets alone. -/
theorem upsertAllPaid_same (u : UserId) (items : List OrderItem) (db : Db) :
    (upsertAllPaid u items db).orders = db.orders ∧
      (upsertAllPaid u items db).tickets = db.tickets := by
  induction items generalizing db with
  | nil => exact ⟨rfl, rfl⟩
  | cons i items ih =>
      obtain ⟨ho, ht⟩ := upsertPaid_same u i.ticketTypeId i.quantity db
      obtain ⟨ho', ht'⟩ := ih (upsertPaid u i.ticketTypeId i.quantity db)
      exact ⟨ho'.trans ho, ht'.trans ht⟩

/-- Where the counters are there, they take off what was reserved. -/
theorem upsertAllPaid_counterReserved {u : UserId} {items : List OrderItem} {db : Db}
    (h : ∀ i ∈ items, (db.counters (u, i.ticketTypeId)).isSome) (u' : UserId) (t' : TicketTypeId) :
    (upsertAllPaid u items db).counterReserved u' t'
      = db.counterReserved u' t' + atUser u (-qtyOf items) u' t' := by
  induction items generalizing db with
  | nil => simp [upsertAllPaid, qtyOf_nil_eq]
  | cons i items ih =>
      have hhead := h i List.mem_cons_self
      have hm := upsertPaid_moves u i.ticketTypeId i.quantity db
      rw [upsertAllPaid, ih fun j hj => hm.counters _ (h j (List.mem_cons_of_mem _ hj)),
        upsertPaid_counterReserved i.quantity hhead, qtyOf_cons_eq, atType_neg, neg_add, atUser_add]
      simp only [Pi.add_apply]
      omega

/-- They add at most the counters of the items. -/
theorem upsertAllPaid_rows {u : UserId} {items : List OrderItem} {db : Db}
    {k : UserId × TicketTypeId} (h : ((upsertAllPaid u items db).counters k).isSome) :
    (db.counters k).isSome ∨ ∃ i ∈ items, k = (u, i.ticketTypeId) := by
  induction items generalizing db with
  | nil => exact .inl h
  | cons i items ih =>
      rcases ih h with h | ⟨j, hj, hk⟩
      · exact (upsertPaid_rows h).imp_right fun hk => ⟨i, List.mem_cons_self, hk⟩
      · exact .inr ⟨j, List.mem_cons_of_mem _ hj, hk⟩

/-- The plan has the tickets of the items. -/
theorem planTickets_origins (order : Order) (gateName : String) (items : List OrderItem) :
    (planTickets order gateName items).map originOf = originsOf order items := by
  induction items with
  | nil => rfl
  | cons i items ih =>
      simp only [planTickets, originsOf, List.flatMap_cons, List.map_append, List.map_replicate]
      exact congrArg₂ (· ++ ·) rfl ih

/-- A payment's upsert leaves the rest alone. -/
theorem upsertPayment_same {dto : MockWebhookDto} {c : PaymentStatus} {u : Option PaymentStatus}
    {db db' : Db} (h : upsertPayment dto c u db = some db') :
    db'.orders = db.orders ∧ db'.tickets = db.tickets ∧ db'.ticketTypes = db.ticketTypes ∧
      db'.counters = db.counters := by
  simp only [upsertPayment] at h
  split at h
  · cases h
    exact ⟨rfl, rfl, rfl, rfl⟩
  · exact insertPayment_same h

/-- The transaction of a SUCCESS webhook issues every item and marks the order paid. -/
theorem commitSuccess_issued {dto : MockWebhookDto} {order : Order} {gateName : String} {now : Nat}
    {db db' : Db} (h : commitSuccess dto order gateName now db = some db') :
    OrderSet dto.orderId .paid db db' ∧ Issued order order.items db db' := by
  simp only [commitSuccess, Option.bind_eq_bind, Option.bind_eq_some_iff, Option.some.injEq] at h
  obtain ⟨db₁, h₁, db₂, h₂, db₃, h₃, rfl⟩ := h
  obtain ⟨ho₁, ht₁, htt₁, hc₁⟩ := upsertPayment_same h₁
  obtain ⟨hset, ht₂, htt₂, hc₂⟩ := updateOrder_set (s := .paid) h₂
    fun _ => ⟨⟨rfl, rfl, rfl, rfl, rfl, rfl⟩, rfl⟩
  have hsold := moveAllToSold_moves h₃
  obtain ⟨ho₃, ht₃, hc₃⟩ := moveAllToSold_same h₃
  obtain ⟨ho₄, ht₄⟩ := upsertAllPaid_same order.userId order.items db₃
  have hbefore : Moves db db₂ 0 0 0 := Moves.of_eq (htt₂.trans htt₁) (hc₂.trans hc₁)
  have hsold' : Moves db₂ db₃ (qtyOf order.items) (-qtyOf order.items) 0 :=
    ((Moves.of_eq rfl rfl : Moves db₂ (addTickets _ db₂) 0 0 0).trans hsold).cast
      (zero_add _) (zero_add _) (zero_add _)
  refine ⟨hset.congr ho₁ (ho₄.trans ho₃), ⟨?_, fun hrows u t => ?_, fun k hk => ?_, ?_⟩⟩
  · exact ((hbefore.trans hsold').trans (upsertAllPaid_moves order.userId order.items db₃)).cast
      (by simp) (by simp) (by simp)
  · have hc : db₃.counters = db.counters := hc₃.trans (hc₂.trans hc₁)
    rw [upsertAllPaid_counterReserved fun i hi => by rw [hc]; exact hrows i hi]
    simp [Db.counterReserved, hc]
  · rw [← hc₁, ← hc₂, ← show db₃.counters = db₂.counters from hc₃]
    exact upsertAllPaid_rows hk
  · refine ⟨planTickets order gateName order.items, ?_, planTickets_origins ..⟩
    rw [ht₄, ht₃]
    simp only [addTickets]
    rw [ht₂, ht₁]

/-- Issuing leaves the rest alone. -/
theorem issueTickets_same (order : Order) (item : OrderItem) (n : Nat) (db : Db) :
    (issueTickets order item n db).orders = db.orders ∧
      (issueTickets order item n db).ticketTypes = db.ticketTypes ∧
      (issueTickets order item n db).counters = db.counters := by
  induction n generalizing db with
  | zero => exact ⟨rfl, rfl, rfl⟩
  | succ n ih =>
      simp only [issueTickets]
      exact ih _

/-- The worker's inner loop adds one ticket for each unit, whatever gates it picks. -/
theorem issueTickets_tickets (order : Order) (item : OrderItem) (n : Nat) (db : Db) :
    ∃ ts, (issueTickets order item n db).tickets = db.tickets ++ ts ∧
      ts.map originOf = List.replicate n (itemOrigin order item) := by
  induction n generalizing db with
  | zero => exact ⟨[], by simp [issueTickets], rfl⟩
  | succ n ih =>
      simp only [issueTickets]
      generalize leastLoadedGateName (gateCount db order.concertId) (gatesOf db order.concertId)
        = gateName
      obtain ⟨ts, hts, ho⟩ := ih (addTickets [newTicket order item gateName] db)
      refine ⟨newTicket order item gateName :: ts, ?_, ?_⟩
      · rw [hts]
        simp only [addTickets, List.append_assoc, List.singleton_append]
      · rw [List.map_cons, ho, List.replicate_succ]
        rfl

/-- The worker's transaction issues every item and leaves the order row alone. -/
theorem commitIssue_issued {order : Order} {items : List OrderItem} {db db' : Db}
    (h : commitIssue order items db = some db') :
    db'.orders = db.orders ∧ Issued order items db db' := by
  induction items generalizing db with
  | nil =>
      simp only [commitIssue, Option.some.injEq] at h
      subst h
      refine ⟨rfl, ⟨(Moves.refl db).cast rfl ?_ ?_, fun _ u t => ?_, fun _ => .inl, [], ?_, rfl⟩⟩
      · simp [qtyOf_nil_eq]
      · rw [qtyOf_nil_eq, atUser_zero]
      · simp [qtyOf_nil_eq]
      · simp
  | cons i items ih =>
      simp only [commitIssue, Option.bind_eq_bind, Option.bind_eq_some_iff] at h
      obtain ⟨db₁, h₁, h₂⟩ := h
      obtain ⟨ho₁, ht₁, hc₁⟩ := moveToSold_same h₁
      obtain ⟨ho₂, ht₂⟩ := upsertPaid_same order.userId i.ticketTypeId i.quantity db₁
      generalize hdb₂ : upsertPaid order.userId i.ticketTypeId i.quantity db₁ = db₂ at *
      have hp : Moves db₁ db₂ 0 0 (atUser order.userId (atType i.ticketTypeId i.quantity)) :=
        hdb₂ ▸ upsertPaid_moves order.userId i.ticketTypeId i.quantity db₁
      obtain ⟨ho₃, htt₃, hc₃⟩ := issueTickets_same order i i.quantity.toNat db₂
      obtain ⟨ts, hts, hos⟩ := issueTickets_tickets order i i.quantity.toNat db₂
      obtain ⟨ho₄, hrest⟩ := ih h₂
      have hhead := ((moveToSold_moves h₁).trans hp).trans (Moves.of_eq htt₃ hc₃)
      refine ⟨ho₄.trans (ho₃.trans (ho₂.trans ho₁)),
        ⟨?_, fun hrows u t => ?_, fun k hk => ?_, ?_⟩⟩
      · refine (hhead.trans hrest.moves).cast ?_ ?_ ?_
        · simp [qtyOf_cons_eq]
        · simp [qtyOf_cons_eq, atType_neg, add_comm]
        · simp [qtyOf_cons_eq, atUser_add]
      · have hrow := hrows i List.mem_cons_self
        have hcr : db₂.counterReserved u t
            = db₁.counterReserved u t + atUser order.userId (atType i.ticketTypeId (-i.quantity)) u t :=
          hdb₂ ▸ upsertPaid_counterReserved i.quantity (by rw [hc₁]; exact hrow) u t
        rw [hrest.held fun j hj => hhead.counters _ (hrows j (List.mem_cons_of_mem _ hj))]
        have hsame₃ : (issueTickets order i i.quantity.toNat db₂).counterReserved u t
            = db₂.counterReserved u t := by simp [Db.counterReserved, hc₃]
        have hsame₁ : db₁.counterReserved u t = db.counterReserved u t := by
          simp [Db.counterReserved, hc₁]
        rw [hsame₃, hcr, hsame₁, qtyOf_cons_eq, atType_neg, neg_add, atUser_add]
        simp only [Pi.add_apply]
        omega
      · rcases hrest.rows k hk with hk | ⟨j, hj, hk⟩
        · rw [hc₃, ← hdb₂] at hk
          rcases upsertPaid_rows hk with hk | hk
          · exact .inl (hc₁ ▸ hk)
          · exact .inr ⟨i, List.mem_cons_self, hk⟩
        · exact .inr ⟨j, List.mem_cons_of_mem _ hj, hk⟩
      · obtain ⟨ts', hts', hos'⟩ := hrest.tickets
        refine ⟨ts ++ ts', ?_, ?_⟩
        · rw [hts', hts, ht₂, ht₁, List.append_assoc]
        · rw [List.map_append, hos, hos']
          rfl

/-! ## What the orders hold -/

/-- No ticket of order `o` was issued. -/
def NoTickets (o : OrderId) (ts : List Ticket) : Prop := ∀ k ∈ ts, k.orderId ≠ o

/-- The worker counts them. -/
instance (o : OrderId) (ts : List Ticket) : Decidable (NoTickets o ts) :=
  inferInstanceAs (Decidable (∀ k ∈ ts, k.orderId ≠ o))

/-- The order holds inventory: it is PENDING_PAYMENT, or PAID with its tickets
    not yet issued. -/
def Holds (ts : List Ticket) (r : Order) : Prop :=
  r.status = .pendingPayment ∨ (r.status = .paid ∧ NoTickets r.id ts)

/-- Status and tickets of the order tell. -/
instance (ts : List Ticket) (r : Order) : Decidable (Holds ts r) :=
  inferInstanceAs (Decidable (_ ∨ _))

/-- The total weight of the orders that hold inventory. -/
def heldSum (weight : UserId → List OrderItem → Int) (db : Db) : Int :=
  (db.orders.map fun r => if Holds db.tickets r then weight r.userId r.items else 0).sum

/-- The order is PENDING_PAYMENT or PAID and none of its tickets was issued. -/
def Unissued (o : OrderId) (db : Db) : Prop :=
  ∃ row, db.findOrder o = some row ∧ (row.status = .pendingPayment ∨ row.status = .paid) ∧
    NoTickets o db.tickets

/-- So do they whether it is to be issued. -/
instance (o : OrderId) (db : Db) : Decidable (Unissued o db) :=
  inferInstanceAs (Decidable (∃ row ∈ db.findOrder o, _ ∧ _))

/-- An order without tickets that is open or paid holds its items. -/
theorem Unissued.holds {o : OrderId} {db : Db} (h : Unissued o db) :
    ∃ row, db.findOrder o = some row ∧ NoTickets o db.tickets ∧ Holds db.tickets row := by
  obtain ⟨row, hrow, hs, hno⟩ := h
  have hid : row.id = o := RowTable.lookup_key hrow
  refine ⟨row, hrow, hno, ?_⟩
  rcases hs with hs | hs
  · exact .inl hs
  · exact .inr ⟨hs, by rw [hid]; exact hno⟩

variable {weight : UserId → List OrderItem → Int}

/-- What is held depends on orders and tickets. -/
theorem heldSum_congr {db db' : Db} (ho : db'.orders = db.orders) (ht : db'.tickets = db.tickets) :
    heldSum weight db' = heldSum weight db := by
  simp only [heldSum, ho, ht]

/-- A new PENDING_PAYMENT row adds its weight. -/
theorem heldSum_append {db : Db} {row : Order} (hs : row.status = .pendingPayment) :
    heldSum weight { db with orders := db.orders ++ [row] }
      = heldSum weight db + weight row.userId row.items := by
  simp [heldSum, Holds, hs]

/-- The general change of one row and of the tickets of its order. -/
theorem heldSum_change {o : OrderId} {s : OrderStatus} {db db' : Db} {row : Order}
    (hk : RowTable.Keyed Order.id db.orders) (hset : OrderSet o s db db')
    (hrow : db.findOrder o = some row)
    (hother : ∀ o', o' ≠ o → (NoTickets o' db'.tickets ↔ NoTickets o' db.tickets)) :
    heldSum weight db' = heldSum weight db
      + ((if s = .pendingPayment ∨ (s = .paid ∧ NoTickets o db'.tickets)
            then weight row.userId row.items else 0)
        - (if Holds db.tickets row then weight row.userId row.items else 0)) := by
  obtain ⟨-, f, hf, hrows⟩ := hset
  have hid : row.id = o := RowTable.lookup_key hrow
  obtain ⟨hsame, hst⟩ := hf row
  have hg : ∀ x ∈ db.orders, x.id ≠ o →
      (if Holds db'.tickets x then weight x.userId x.items else 0)
        = (if Holds db.tickets x then weight x.userId x.items else 0) := by
    intro x _ hx
    refine if_congr ?_ rfl rfl
    simp only [Holds, hother x.id hx]
  simp only [heldSum, hrows]
  rw [RowTable.sum_modify_at hk hrow hg]
  simp only [Holds, hst, hsame.id, hsame.userId, hsame.items, hid]

variable (weight) in
/-- A final status other than PAID takes the weight of an unissued order away. -/
theorem heldSum_final {o : OrderId} {s : OrderStatus} {db db' : Db}
    (hk : RowTable.Keyed Order.id db.orders) (hset : OrderSet o s db db')
    (ht : db'.tickets = db.tickets) (hs : s ≠ .pendingPayment ∧ s ≠ .paid) (hu : Unissued o db) :
    ∃ row, db.findOrder o = some row ∧
      heldSum weight db' = heldSum weight db - weight row.userId row.items := by
  obtain ⟨row, hrow, -, hh⟩ := hu.holds
  refine ⟨row, hrow, ?_⟩
  rw [heldSum_change hk hset hrow fun _ _ => by rw [ht], if_neg (by simp [hs]), if_pos hh]
  omega

/-- PAID without a ticket still holds. -/
theorem heldSum_paid {o : OrderId} {db db' : Db} (hk : RowTable.Keyed Order.id db.orders)
    (hset : OrderSet o .paid db db') (ht : db'.tickets = db.tickets) (hu : Unissued o db) :
    heldSum weight db' = heldSum weight db := by
  obtain ⟨row, hrow, hno, hh⟩ := hu.holds
  rw [heldSum_change hk hset hrow fun _ _ => by rw [ht], if_pos (by simp [ht, hno]), if_pos hh]
  omega

/-- New tickets of one order leave the other orders' tickets alone. -/
theorem noTickets_append {order : Order} {items : List OrderItem} (ts : List Ticket)
    {ts' : List Ticket} (h : ts'.map originOf = originsOf order items) :
    (∀ o, o ≠ order.id → (NoTickets o (ts ++ ts') ↔ NoTickets o ts)) ∧
      (NoTickets order.id (ts ++ ts') → items = []) := by
  have horig := orderId_of_origins h
  refine ⟨fun o hne => ?_, fun hno => ?_⟩
  · constructor
    · exact fun hall k hk => hall k (List.mem_append_left _ hk)
    · intro hall k hk
      rcases List.mem_append.mp hk with hk | hk
      · exact hall k hk
      · exact fun he => hne (he ▸ horig k hk)
  · cases items with
    | nil => rfl
    | cons i items =>
        -- the first item has a positive quantity, so a ticket of it was added
        have hpos := i.quantity_pos
        have hmem : itemOrigin order i ∈ ts'.map originOf := by
          rw [h]
          refine List.mem_flatMap.mpr ⟨i, List.mem_cons_self, List.mem_replicate.mpr ⟨?_, rfl⟩⟩
          omega
        obtain ⟨k, hk, hko⟩ := List.mem_map.mp hmem
        exact absurd (congrArg Prod.fst hko) (hno k (List.mem_append_right _ hk))

variable (weight) in
/-- Issuing an unissued order takes its weight away. -/
theorem heldSum_issued_set {order : Order} {db db' : Db}
    (hk : RowTable.Keyed Order.id db.orders) (hset : OrderSet order.id .paid db db')
    (hi : Issued order order.items db db') (hu : Unissued order.id db)
    (hitems : ∀ row, db.findOrder order.id = some row →
      row.userId = order.userId ∧ row.items = order.items)
    (hw : ∀ u, weight u [] = 0) :
    heldSum weight db' = heldSum weight db - weight order.userId order.items := by
  obtain ⟨row, hrow, -, hh⟩ := hu.holds
  obtain ⟨ts, hts, hor⟩ := hi.tickets
  obtain ⟨hother, hempty⟩ := noTickets_append db.tickets hor
  obtain ⟨hru, hri⟩ := hitems row hrow
  rw [heldSum_change hk hset hrow (by rw [hts]; exact hother), if_pos hh, hru, hri]
  split
  · next hp =>
    have hnil : order.items = [] := by
      rcases hp with hp | ⟨-, hp⟩
      · cases hp
      · exact hempty (hts ▸ hp)
    rw [hnil, hw]
    omega
  · omega

variable (weight) in
/-- The same by a transaction that leaves a PAID row alone. -/
theorem heldSum_issued_same {order : Order} {db db' : Db}
    (hk : RowTable.Keyed Order.id db.orders) (ho : db'.orders = db.orders)
    (hi : Issued order order.items db db')
    (hp : ∃ row, db.findOrder order.id = some row ∧ row.status = .paid)
    (hno : NoTickets order.id db.tickets)
    (hitems : ∀ row, db.findOrder order.id = some row →
      row.userId = order.userId ∧ row.items = order.items)
    (hw : ∀ u, weight u [] = 0) :
    heldSum weight db' = heldSum weight db - weight order.userId order.items := by
  obtain ⟨row, hrow, hs⟩ := hp
  have hid : row.id = order.id := RowTable.lookup_key hrow
  -- the row is rewritten by itself
  have hset : OrderSet order.id .paid db db' := by
    refine ⟨by rw [hrow]; rfl, fun r => { r with status := .paid },
      fun r => ⟨⟨rfl, rfl, rfl, rfl, rfl, rfl⟩, rfl⟩, ?_⟩
    rw [ho]
    refine (List.map_id _).symm.trans (List.map_congr_left fun x hx => ?_)
    split
    · next hxid =>
      have hxr : x = row := by
        have := RowTable.lookup_of_mem hk hx
        rw [hxid] at this
        exact Option.some.inj (this.symm.trans hrow)
      subst hxr
      cases x
      simp_all
    · rfl
  exact heldSum_issued_set weight hk hset hi ⟨row, hrow, .inr hs, hno⟩ hitems hw

/-! ## What was issued -/

/-- The total weight of the orders whose tickets were issued, each counted once. -/
def issuedSum (weight : UserId → List OrderItem → Int) (db : Db) : Int :=
  (db.orders.map fun r => if NoTickets r.id db.tickets then 0 else weight r.userId r.items).sum

/-- A status changes nothing of what was issued. -/
theorem issuedSum_set {o : OrderId} {s : OrderStatus} {db db' : Db}
    (hset : OrderSet o s db db') (ht : db'.tickets = db.tickets) :
    issuedSum weight db' = issuedSum weight db := by
  obtain ⟨-, f, hf, hrows⟩ := hset
  simp only [issuedSum, hrows, ht]
  refine RowTable.sum_modify_same _ fun r _ _ => ?_
  rw [(hf r).1.id, (hf r).1.userId, (hf r).1.items]

/-- A new order without tickets adds nothing. -/
theorem issuedSum_append {db : Db} {row : Order} (hno : NoTickets row.id db.tickets) :
    issuedSum weight { db with orders := db.orders ++ [row] } = issuedSum weight db := by
  simp [issuedSum, hno]

/-- A deleted order without tickets takes nothing away. -/
theorem issuedSum_remove {o : OrderId} {db : Db} {row : Order}
    (hk : RowTable.Keyed Order.id db.orders) (hrow : db.findOrder o = some row)
    (hno : NoTickets o db.tickets) :
    issuedSum weight { db with orders := RowTable.remove Order.id o db.orders }
      = issuedSum weight db := by
  have hid : row.id = o := RowTable.lookup_key hrow
  have hno' : NoTickets row.id db.tickets := by
    rw [hid]
    exact hno
  simp only [issuedSum]
  rw [RowTable.sum_remove _ hk hrow, if_pos hno', sub_zero]

/-- The first issuing of an order adds its weight. -/
theorem issuedSum_issued {order : Order} {db db' : Db} {ts : List Ticket}
    (hk : RowTable.Keyed Order.id db.orders) (ho : db'.orders = db.orders)
    (hts : db'.tickets = db.tickets ++ ts) (hor : ts.map originOf = originsOf order order.items)
    (hno : NoTickets order.id db.tickets)
    (hrow : order.items = [] ∨ ∃ row, db.findOrder order.id = some row ∧ SameContent row order)
    (hw : ∀ u, weight u [] = 0) :
    issuedSum weight db' = issuedSum weight db + weight order.userId order.items := by
  obtain ⟨hother, hempty⟩ := noTickets_append db.tickets hor
  by_cases hnil : order.items = []
  · have hts' : ts = [] := eq_nil_of_origins hor hnil
    rw [hnil, hw, add_zero]
    simp only [issuedSum, ho, hts, hts', List.append_nil]
  · rcases hrow with hrow | ⟨row, hrow, hc⟩
    · exact absurd hrow hnil
    · have hid : row.id = order.id := RowTable.lookup_key hrow
      have hafter : ¬ NoTickets row.id db'.tickets := by
        rw [hid, hts]
        exact fun hn => hnil (hempty hn)
      have hbefore : NoTickets row.id db.tickets := by
        rw [hid]
        exact hno
      have hg : ∀ x ∈ db.orders, x.id ≠ order.id →
          (if NoTickets x.id db'.tickets then 0 else weight x.userId x.items)
            = (if NoTickets x.id db.tickets then 0 else weight x.userId x.items) := by
        intro x _ hx
        refine if_congr ?_ rfl rfl
        rw [hts]
        exact hother x.id hx
      simp only [issuedSum, ho]
      rw [RowTable.sum_at hk hrow hg, if_neg hafter, if_pos hbefore, hc.userId, hc.items, sub_zero]

end TicketDb
