import TicketBox.DbWrites

/-! # What the writes do to the books

    One lemma for each write, in terms of the observables of `Store`: `Moves`
    says by how much a write moves `soldQty`, `reservedQty` and the per-user
    counters and that nothing else of the catalogue changes; `OrderSet` says that
    it gave one order row a new status and kept its contents; `Issued` says
    which tickets it added.  Loops are composed with `Moves.trans`.

    The last section weighs the orders that hold inventory (`heldSum`). -/

namespace TicketDb

open TicketStore

/-! ## Deltas -/

/-- `q` at type `t`, nothing elsewhere. -/
def atType (t : TicketTypeId) (q : Int) : TicketTypeId → Int := fun t' => if t = t' then q else 0

/-- `q` at user `u` and type `t`, nothing elsewhere. -/
def atUser (u : UserId) (f : TicketTypeId → Int) : UserId → TicketTypeId → Int :=
  fun u' t => if u = u' then f t else 0

@[simp] theorem atUser_zero (u : UserId) : atUser u 0 = 0 := by
  funext u' t
  simp [atUser]

/-- Counts of one user add up. -/
theorem atUser_add (u : UserId) (f g : TicketTypeId → Int) :
    atUser u (f + g) = atUser u f + atUser u g := by
  funext u' t
  by_cases h : u = u' <;> simp [atUser, h]

/-- A count that is taken back. -/
theorem atUser_neg (u : UserId) (f : TicketTypeId → Int) : atUser u (-f) = -atUser u f := by
  funext u' t
  by_cases h : u = u' <;> simp [atUser, h]

/-- The quantity of one more item. -/
theorem qtyOf_cons_eq (i : OrderItem) (items : List OrderItem) :
    qtyOf (i :: items) = atType i.ticketTypeId i.quantity + qtyOf items := rfl

/-- The quantity of one more item of a request. -/
theorem metaQty_cons_eq (m : TicketMeta) (metas : List TicketMeta) :
    metaQty (m :: metas) = atType m.ticketTypeId m.quantity + metaQty metas := rfl

theorem qtyOf_nil_eq : qtyOf [] = 0 := rfl

theorem metaQty_nil_eq : metaQty [] = 0 := rfl

/-- A type that no item names is not asked for. -/
theorem qtyOf_eq_zero {items : List OrderItem} {t : TicketTypeId}
    (h : ∀ i ∈ items, i.ticketTypeId ≠ t) : qtyOf items t = 0 := by
  refine List.sum_eq_zero fun x hx => ?_
  obtain ⟨i, hi, rfl⟩ := List.mem_map.mp hx
  exact if_neg (h i hi)

/-- A request without the type asks for none of it. -/
theorem metaQty_eq_zero {metas : List TicketMeta} {t : TicketTypeId}
    (h : ∀ m ∈ metas, m.ticketTypeId ≠ t) : metaQty metas t = 0 := by
  refine List.sum_eq_zero fun x hx => ?_
  obtain ⟨m, hm, rfl⟩ := List.mem_map.mp hx
  exact if_neg (h m hm)

/-! ## Moves -/

/-- What no sale changes of a ticket type. -/
def catalogueOf (r : TicketType) : TicketType := { r with soldQty := 0, reservedQty := 0 }

/-- The write moved the counters by these amounts and left the catalogue alone. -/
structure Moves (db db' : Db) (sold reserved : TicketTypeId → Int)
    (paid : UserId → TicketTypeId → Int) : Prop where
  catalogue : ∀ t, (db'.findTicketType t).map catalogueOf = (db.findTicketType t).map catalogueOf
  soldQty : ∀ t, db'.soldQty t = db.soldQty t + sold t
  reservedQty : ∀ t, db'.reservedQty t = db.reservedQty t + reserved t
  counterPaid : ∀ u t, db'.counterPaid u t = db.counterPaid u t + paid u t
  counters : ∀ k, (db.counters k).isSome → (db'.counters k).isSome

/-- A transaction that moves nothing. -/
theorem Moves.refl (db : Db) : Moves db db 0 0 0 :=
  ⟨fun _ => rfl, fun _ => by simp, fun _ => by simp, fun _ _ => by simp, fun _ h => h⟩

/-- Two transactions, one after the other. -/
theorem Moves.trans {a b c : Db} {s s' r r' : TicketTypeId → Int}
    {p p' : UserId → TicketTypeId → Int} (h₁ : Moves a b s r p) (h₂ : Moves b c s' r' p') :
    Moves a c (s + s') (r + r') (p + p') where
  catalogue t := (h₂.catalogue t).trans (h₁.catalogue t)
  soldQty t := by rw [h₂.soldQty, h₁.soldQty, Pi.add_apply, add_assoc]
  reservedQty t := by rw [h₂.reservedQty, h₁.reservedQty, Pi.add_apply, add_assoc]
  counterPaid u t := by rw [h₂.counterPaid, h₁.counterPaid, Pi.add_apply, Pi.add_apply, add_assoc]
  counters k h := h₂.counters k (h₁.counters k h)

/-- Deltas are read up to equality. -/
theorem Moves.cast {a b : Db} {s s' r r' : TicketTypeId → Int} {p p' : UserId → TicketTypeId → Int}
    (h : Moves a b s r p) (hs : s = s') (hr : r = r') (hp : p = p') : Moves a b s' r' p' := by
  subst hs hr hp
  exact h

/-- Observables do not see the tables a write leaves alone. -/
theorem Moves.of_eq {db db' : Db} (ht : db'.ticketTypes = db.ticketTypes)
    (hc : db'.counters = db.counters) : Moves db db' 0 0 0 := by
  constructor
  · intro t
    simp only [Db.findTicketType, ht]
  · intro t
    simp [Db.soldQty, Db.findTicketType, ht]
  · intro t
    simp [Db.reservedQty, Db.findTicketType, ht]
  · intro u t
    simp [Db.counterPaid, hc]
  · intro k h
    rw [hc]
    exact h

/-- No type appears or goes. -/
theorem Moves.isSome {db db' : Db} {s r : TicketTypeId → Int} {p : UserId → TicketTypeId → Int}
    (h : Moves db db' s r p) (t : TicketTypeId) :
    (db'.findTicketType t).isSome = (db.findTicketType t).isSome := by
  have := congrArg Option.isSome (h.catalogue t)
  simpa using this

/-- `totalQty` stays what it is. -/
theorem Moves.totalQty {db db' : Db} {s r : TicketTypeId → Int} {p : UserId → TicketTypeId → Int}
    (h : Moves db db' s r p) (t : TicketTypeId) : db'.totalQty t = db.totalQty t := by
  have := congrArg (fun o => (o.map TicketType.totalQty).getD 0) (h.catalogue t)
  simpa [Db.totalQty, Function.comp_def, catalogueOf] using this

/-- A write that moves reservations only. -/
theorem Moves.sold_paid {db db' : Db} {r : TicketTypeId → Int} (h : Moves db db' 0 r 0) :
    (∀ t, db'.soldQty t = db.soldQty t) ∧ ∀ u t, db'.counterPaid u t = db.counterPaid u t :=
  ⟨fun t => by simpa using h.soldQty t, fun u t => by simpa using h.counterPaid u t⟩

/-- A user without a counter has reserved nothing. -/
theorem counterReserved_of_none {db : Db} {u : UserId} {t : TicketTypeId}
    (h : db.counters (u, t) = none) : db.counterReserved u t = 0 := by
  simp [Db.counterReserved, h]

/-- A counter that stands above zero has a row. -/
theorem counters_isSome_of_pos {db : Db} {u : UserId} {t : TicketTypeId}
    (h : 0 < db.counterReserved u t) : (db.counters (u, t)).isSome := by
  cases hc : db.counters (u, t) with
  | none => rw [counterReserved_of_none hc] at h; omega
  | some c => rfl

/-- A type with something reserved has a row. -/
theorem findTicketType_isSome_of_pos {db : Db} {t : TicketTypeId} (h : 0 < db.reservedQty t) :
    (db.findTicketType t).isSome := by
  cases hc : db.findTicketType t with
  | none => simp [Db.reservedQty, hc] at h
  | some c => rfl

/-! ## Single statements -/

/-- What incrementing a type changes. -/
theorem bumpType_find (t t' : TicketTypeId) (a b : Int) (db : Db) :
    (bumpType t a b db).findTicketType t' = (db.findTicketType t').map fun r =>
      if t = t' then { r with soldQty := r.soldQty + a, reservedQty := r.reservedQty + b } else r := by
  by_cases h : t = t'
  · subst h
    simp only [bumpType, Db.findTicketType, if_pos]
    exact RowTable.lookup_modify_self fun r => rfl
  · simp only [bumpType, Db.findTicketType, if_neg h, Option.map_id']
    exact RowTable.lookup_modify_ne (fun r => rfl) (Ne.symm h)

/-- It moves the two counts of the type. -/
theorem bumpType_moves {t : TicketTypeId} {db : Db} (a b : Int)
    (h : (db.findTicketType t).isSome) :
    Moves db (bumpType t a b db) (atType t a) (atType t b) 0 := by
  obtain ⟨row, hrow⟩ := Option.isSome_iff_exists.mp h
  constructor
  · intro t'
    rw [bumpType_find, Option.map_map]
    congr 1
    funext r
    by_cases ht : t = t' <;> simp [ht, catalogueOf]
  · intro t'
    by_cases ht : t = t'
    · subst ht
      simp [Db.soldQty, bumpType_find, hrow, atType]
    · simp [Db.soldQty, bumpType_find, ht, atType]
  · intro t'
    by_cases ht : t = t'
    · subst ht
      simp [Db.reservedQty, bumpType_find, hrow, atType]
    · simp [Db.reservedQty, bumpType_find, ht, atType]
  · intro u t'
    simp [Db.counterPaid, bumpType]
  · intro k hk
    exact hk

@[simp] theorem bumpType_counterReserved (t : TicketTypeId) (a b : Int) (db : Db) (u : UserId)
    (t' : TicketTypeId) : (bumpType t a b db).counterReserved u t' = db.counterReserved u t' := rfl

/-- What writing a counter changes. -/
theorem putCounter_counters (u : UserId) (t : TicketTypeId) (row : UserTicketCounter) (db : Db)
    (u' : UserId) (t' : TicketTypeId) :
    (putCounter u t row db).counters (u', t')
      = if u = u' ∧ t = t' then some row else db.counters (u', t') := by
  by_cases h : u = u' ∧ t = t'
  · obtain ⟨rfl, rfl⟩ := h
    simp [putCounter]
  · rw [if_neg h]
    refine Function.update_of_ne (fun he => h ?_) _ _
    exact ⟨(congrArg Prod.fst he).symm, (congrArg Prod.snd he).symm⟩

/-- A counter row overwritten: what it moves. -/
theorem putCounter_moves (u : UserId) (t : TicketTypeId) (row : UserTicketCounter) (db : Db) :
    Moves db (putCounter u t row db) 0 0
      (atUser u (atType t (row.paidQty - db.counterPaid u t))) := by
  constructor
  · intro t'
    rfl
  · intro t'
    simp [Db.soldQty, Db.findTicketType, putCounter]
  · intro t'
    simp [Db.reservedQty, Db.findTicketType, putCounter]
  · intro u' t'
    simp only [Db.counterPaid, putCounter_counters]
    by_cases hu : u = u'
    · by_cases ht : t = t'
      · subst hu ht
        simp [atUser, atType]
      · simp [atUser, atType, ht]
    · simp [atUser, hu]
  · intro k hk
    obtain ⟨u', t'⟩ := k
    rw [putCounter_counters]
    split
    · rfl
    · exact hk

/-- It moves the user's reserved count by the difference. -/
theorem putCounter_counterReserved (u : UserId) (t : TicketTypeId) (row : UserTicketCounter)
    (db : Db) (u' : UserId) (t' : TicketTypeId) :
    (putCounter u t row db).counterReserved u' t' = db.counterReserved u' t'
      + atUser u (atType t (row.reservedQty - db.counterReserved u t)) u' t' := by
  simp only [Db.counterReserved, putCounter_counters]
  by_cases hu : u = u'
  · by_cases ht : t = t'
    · subst hu ht
      simp [atUser, atType]
    · simp [atUser, atType, ht]
  · simp [atUser, hu]

/-- The counter of a present row, read off it. -/
theorem counterPaid_of_some {db : Db} {u : UserId} {t : TicketTypeId} {c : UserTicketCounter}
    (h : db.counters (u, t) = some c) : db.counterPaid u t = c.paidQty := by
  simp [Db.counterPaid, h]

/-- A user without a counter has paid for nothing. -/
theorem counterPaid_of_none {db : Db} {u : UserId} {t : TicketTypeId}
    (h : db.counters (u, t) = none) : db.counterPaid u t = 0 := by
  simp [Db.counterPaid, h]

/-- The counter's own count. -/
theorem counterReserved_of_some {db : Db} {u : UserId} {t : TicketTypeId} {c : UserTicketCounter}
    (h : db.counters (u, t) = some c) : db.counterReserved u t = c.reservedQty := by
  simp [Db.counterReserved, h]

/-- The upsert of the counter moves nothing of the type. -/
theorem upsertReserved_moves (u : UserId) (t : TicketTypeId) (q : Int) (db : Db) :
    Moves db (upsertReserved u t q db) 0 0 0 := by
  simp only [upsertReserved]
  split
  · next h =>
    refine (putCounter_moves u t _ db).cast rfl rfl ?_
    funext u' t'
    simp [counterPaid_of_none h, atUser, atType]
  · next c h =>
    refine (putCounter_moves u t _ db).cast rfl rfl ?_
    funext u' t'
    simp [counterPaid_of_some h, atUser, atType]

/-- It adds to what the user has reserved. -/
theorem upsertReserved_counterReserved (u : UserId) (t : TicketTypeId) (q : Int) (db : Db)
    (u' : UserId) (t' : TicketTypeId) :
    (upsertReserved u t q db).counterReserved u' t'
      = db.counterReserved u' t' + atUser u (atType t q) u' t' := by
  simp only [upsertReserved]
  split
  · next h => rw [putCounter_counterReserved, counterReserved_of_none h, sub_zero]
  · next c h =>
    rw [putCounter_counterReserved, counterReserved_of_some h]
    simp

/-- The upsert behind the tickets adds to what the user has paid for. -/
theorem upsertPaid_moves (u : UserId) (t : TicketTypeId) (q : Int) (db : Db) :
    Moves db (upsertPaid u t q db) 0 0 (atUser u (atType t q)) := by
  simp only [upsertPaid]
  split
  · next h =>
    refine (putCounter_moves u t _ db).cast rfl rfl ?_
    rw [counterPaid_of_none h, sub_zero]
  · next c h =>
    refine (putCounter_moves u t _ db).cast rfl rfl ?_
    rw [counterPaid_of_some h]
    simp

/-- An existing counter row gives up what was reserved; a missing one starts at
    zero and gives up nothing. -/
theorem upsertPaid_counterReserved {u : UserId} {t : TicketTypeId} {db : Db} (q : Int)
    (h : (db.counters (u, t)).isSome) (u' : UserId) (t' : TicketTypeId) :
    (upsertPaid u t q db).counterReserved u' t'
      = db.counterReserved u' t' + atUser u (atType t (-q)) u' t' := by
  obtain ⟨c, hc⟩ := Option.isSome_iff_exists.mp h
  simp only [upsertPaid, hc]
  rw [putCounter_counterReserved, counterReserved_of_some hc]
  congr 3
  show c.reservedQty - q - c.reservedQty = -q
  omega

/-- The decrement of `reservedQty` moves it down. -/
theorem decrementReserved_moves {t : TicketTypeId} {q : Int} {db db' : Db}
    (h : decrementReserved t q db = some db') : Moves db db' 0 (atType t (-q)) 0 := by
  simp only [decrementReserved, Option.map_eq_some_iff] at h
  obtain ⟨row, hrow, rfl⟩ := h
  refine (bumpType_moves 0 (-q) (by rw [hrow]; rfl)).cast ?_ rfl rfl
  funext t'
  simp [atType]

/-- It leaves everything else alone. -/
theorem decrementReserved_same {t : TicketTypeId} {q : Int} {db db' : Db}
    (h : decrementReserved t q db = some db') :
    db'.orders = db.orders ∧ db'.tickets = db.tickets ∧ db'.counters = db.counters := by
  simp only [decrementReserved, Option.map_eq_some_iff] at h
  obtain ⟨row, -, rfl⟩ := h
  exact ⟨rfl, rfl, rfl⟩

/-- The decrement of the counter moves nothing of the type. -/
theorem decrementCounter_moves {u : UserId} {t : TicketTypeId} {q : Int} {db db' : Db}
    (h : decrementCounter u t q db = some db') : Moves db db' 0 0 0 := by
  simp only [decrementCounter, Option.map_eq_some_iff] at h
  obtain ⟨c, hc, rfl⟩ := h
  refine (putCounter_moves u t _ db).cast rfl rfl ?_
  funext u' t'
  simp [counterPaid_of_some hc, atUser, atType]

/-- It takes off what the user has reserved. -/
theorem decrementCounter_counterReserved {u : UserId} {t : TicketTypeId} {q : Int} {db db' : Db}
    (h : decrementCounter u t q db = some db') (u' : UserId) (t' : TicketTypeId) :
    db'.counterReserved u' t' = db.counterReserved u' t' + atUser u (atType t (-q)) u' t' := by
  simp only [decrementCounter, Option.map_eq_some_iff] at h
  obtain ⟨c, hc, rfl⟩ := h
  rw [putCounter_counterReserved, counterReserved_of_some hc]
  congr 3
  show c.reservedQty - q - c.reservedQty = -q
  omega

/-- It leaves everything else alone. -/
theorem decrementCounter_same {u : UserId} {t : TicketTypeId} {q : Int} {db db' : Db}
    (h : decrementCounter u t q db = some db') :
    db'.orders = db.orders ∧ db'.tickets = db.tickets ∧ db'.ticketTypes = db.ticketTypes := by
  simp only [decrementCounter, Option.map_eq_some_iff] at h
  obtain ⟨c, -, rfl⟩ := h
  exact ⟨rfl, rfl, rfl⟩

/-! ## createOrder's inventory transaction -/

/-- `soldQty + reservedQty <= totalQty` of a type. -/
def Within (t : TicketTypeId) (db : Db) : Prop := db.soldQty t + db.reservedQty t ≤ db.totalQty t

/-- `soldQty + reservedQty <= totalQty` for every type. -/
def WithinTotal (db : Db) : Prop := ∀ t, db.soldQty t + db.reservedQty t ≤ db.totalQty t

/-- Reserving an item moves `reservedQty` up. -/
theorem reserveInventory_moves {u : UserId} {t : TicketTypeId} {q : Int} {db db' : Db}
    (h : reserveInventory u t q db = some db') : Moves db db' 0 (atType t q) 0 := by
  simp only [reserveInventory] at h
  split at h
  · cases h
  · next row hrow =>
    split at h
    · cases h
      have hb : Moves db (bumpType t 0 q db) (atType t 0) (atType t q) 0 :=
        bumpType_moves 0 q (by rw [hrow]; rfl)
      refine (hb.trans (upsertReserved_moves u t q _)).cast ?_ (add_zero _) (add_zero _)
      funext t'
      simp [atType]
    · cases h

/-- The user's counter goes up with it. -/
theorem reserveInventory_counterReserved {u : UserId} {t : TicketTypeId} {q : Int} {db db' : Db}
    (h : reserveInventory u t q db = some db') (u' : UserId) (t' : TicketTypeId) :
    db'.counterReserved u' t' = db.counterReserved u' t' + atUser u (atType t q) u' t' := by
  simp only [reserveInventory] at h
  split at h
  · cases h
  · split at h
    · cases h
      rw [upsertReserved_counterReserved, bumpType_counterReserved]
    · cases h

/-- The guard of the raw `UPDATE` keeps the type within its total. -/
theorem reserveInventory_within {u : UserId} {t t' : TicketTypeId} {q : Int} {db db' : Db}
    (h : reserveInventory u t q db = some db') (hw : Within t' db) : Within t' db' := by
  have hm := reserveInventory_moves h
  rw [Within, hm.soldQty, hm.reservedQty, hm.totalQty]
  by_cases ht : t = t'
  · subst ht
    simp only [reserveInventory] at h
    split at h
    · cases h
    · next row hrow =>
      split at h
      · next hguard =>
        simp only [Db.soldQty, Db.reservedQty, Db.totalQty, hrow, Option.map_some,
          Option.getD_some, atType, if_pos, Pi.zero_apply]
        omega
      · cases h
  · simp only [atType, if_neg ht, Pi.zero_apply, add_zero]
    exact hw

/-- Orders and tickets stay. -/
theorem reserveInventory_same {u : UserId} {t : TicketTypeId} {q : Int} {db db' : Db}
    (h : reserveInventory u t q db = some db') :
    db'.orders = db.orders ∧ db'.tickets = db.tickets := by
  simp only [reserveInventory] at h
  split at h
  · cases h
  · split at h
    · cases h
      simp only [upsertReserved]
      split <;> exact ⟨rfl, rfl⟩
    · cases h

/-- What the whole transaction moves. -/
theorem syncInventory_moves {u : UserId} {metas : List TicketMeta} {db db' : Db}
    (h : syncInventory u metas db = .ok db') : Moves db db' 0 (metaQty metas) 0 := by
  induction metas generalizing db with
  | nil =>
      simp only [syncInventory, Except.ok.injEq] at h
      subst h
      exact (Moves.refl db).cast rfl rfl rfl
  | cons m metas ih =>
      simp only [syncInventory] at h
      split at h
      · cases h
      · next db₁ h₁ =>
        exact ((reserveInventory_moves h₁).trans (ih h)).cast (add_zero _) rfl (add_zero _)

/-- The inventory transaction counts what the request asks for. -/
theorem syncInventory_counterReserved {u : UserId} {metas : List TicketMeta} {db db' : Db}
    (h : syncInventory u metas db = .ok db') (u' : UserId) (t' : TicketTypeId) :
    db'.counterReserved u' t' = db.counterReserved u' t' + atUser u (metaQty metas) u' t' := by
  induction metas generalizing db with
  | nil =>
      simp only [syncInventory, Except.ok.injEq] at h
      subst h
      simp [metaQty_nil_eq]
  | cons m metas ih =>
      simp only [syncInventory] at h
      split at h
      · cases h
      · next db₁ h₁ =>
        rw [ih h, reserveInventory_counterReserved h₁, metaQty_cons_eq, atUser_add]
        simp only [Pi.add_apply]
        omega

/-- It keeps a type within its total. -/
theorem syncInventory_within {u : UserId} {metas : List TicketMeta} {t : TicketTypeId} {db db' : Db}
    (h : syncInventory u metas db = .ok db') (hw : Within t db) : Within t db' := by
  induction metas generalizing db with
  | nil =>
      simp only [syncInventory, Except.ok.injEq] at h
      exact h ▸ hw
  | cons m metas ih =>
      simp only [syncInventory] at h
      split at h
      · cases h
      · next db₁ h₁ => exact ih h (reserveInventory_within h₁ hw)

/-- It keeps every type within its total. -/
theorem syncInventory_withinTotal {u : UserId} {metas : List TicketMeta} {db db' : Db}
    (h : syncInventory u metas db = .ok db') (hw : WithinTotal db) : WithinTotal db' :=
  fun t => syncInventory_within h (hw t)

/-- It leaves orders and tickets alone. -/
theorem syncInventory_same {u : UserId} {metas : List TicketMeta} {db db' : Db}
    (h : syncInventory u metas db = .ok db') :
    db'.orders = db.orders ∧ db'.tickets = db.tickets := by
  induction metas generalizing db with
  | nil =>
      simp only [syncInventory, Except.ok.injEq] at h
      exact h ▸ ⟨rfl, rfl⟩
  | cons m metas ih =>
      simp only [syncInventory] at h
      split at h
      · cases h
      · next db₁ h₁ =>
        obtain ⟨ho, ht⟩ := ih h
        obtain ⟨ho₁, ht₁⟩ := reserveInventory_same h₁
        exact ⟨ho.trans ho₁, ht.trans ht₁⟩

/-- The upsert adds at most the row of its own counter. -/
theorem upsertReserved_rows {u : UserId} {t : TicketTypeId} {q : Int} {db : Db}
    {k : UserId × TicketTypeId} (h : ((upsertReserved u t q db).counters k).isSome) :
    (db.counters k).isSome ∨ k = (u, t) := by
  by_cases hk : k = (u, t)
  · exact .inr hk
  · simp only [upsertReserved] at h
    split at h
    all_goals exact .inl (by simpa [putCounter, Function.update_of_ne hk] using h)

/-- The transaction creates counter rows only for the types it reserves. -/
theorem syncInventory_rows {u : UserId} {metas : List TicketMeta} {db db' : Db}
    (h : syncInventory u metas db = .ok db') {k : UserId × TicketTypeId}
    (hk : (db'.counters k).isSome) :
    (db.counters k).isSome ∨ ∃ m ∈ metas, k = (u, m.ticketTypeId) := by
  induction metas generalizing db with
  | nil =>
      simp only [syncInventory, Except.ok.injEq] at h
      exact .inl (h ▸ hk)
  | cons m metas ih =>
      simp only [syncInventory] at h
      split at h
      · cases h
      · next db₁ h₁ =>
        rcases ih h with hold | ⟨m', hm', hk'⟩
        · simp only [reserveInventory] at h₁
          split at h₁
          · cases h₁
          · split at h₁
            · cases h₁
              rcases upsertReserved_rows hold with hold | hk'
              · exact .inl hold
              · exact .inr ⟨m, List.mem_cons_self, hk'⟩
            · cases h₁
        · exact .inr ⟨m', List.mem_cons_of_mem _ hm', hk'⟩

/-! ## The guarded releases -/

/-- Both guards of the releasing transactions match for every item: the type
    and the user's counter still have reserved what the items ask for. -/
def Fits (u : UserId) (items : List OrderItem) (db : Db) : Prop :=
  ∀ i ∈ items, qtyOf items i.ticketTypeId ≤ db.reservedQty i.ticketTypeId ∧
    qtyOf items i.ticketTypeId ≤ db.counterReserved u i.ticketTypeId

/-- The counters tell whether the items fit. -/
instance (u : UserId) (items : List OrderItem) (db : Db) : Decidable (Fits u items db) :=
  inferInstanceAs (Decidable (∀ i ∈ items, _ ∧ _))

/-- Releasing a type touches only the type. -/
theorem releaseType_same (t : TicketTypeId) (q : Int) (db : Db) :
    (releaseType t q db).orders = db.orders ∧ (releaseType t q db).tickets = db.tickets ∧
      (releaseType t q db).counters = db.counters := by
  simp only [releaseType]
  repeat' split
  all_goals exact ⟨rfl, rfl, rfl⟩

/-- A guarded release leaves orders and tickets alone. -/
theorem releaseGuarded_same (u : UserId) (t : TicketTypeId) (q : Int) (db : Db) :
    (releaseGuarded u t q db).orders = db.orders ∧ (releaseGuarded u t q db).tickets = db.tickets := by
  obtain ⟨ho, ht, -⟩ := releaseType_same t q db
  simp only [releaseGuarded, releaseCounter]
  repeat' split
  all_goals exact ⟨ho, ht⟩

/-- So do the releases of all items. -/
theorem releaseAllGuarded_same (u : UserId) (items : List OrderItem) (db : Db) :
    (releaseAllGuarded u items db).orders = db.orders ∧
      (releaseAllGuarded u items db).tickets = db.tickets := by
  induction items generalizing db with
  | nil => exact ⟨rfl, rfl⟩
  | cons i items ih =>
      obtain ⟨ho, ht⟩ := ih (releaseGuarded u i.ticketTypeId i.quantity db)
      obtain ⟨ho₁, ht₁⟩ := releaseGuarded_same u i.ticketTypeId i.quantity db
      exact ⟨ho.trans ho₁, ht.trans ht₁⟩

/-- The update of the type matches, or moves nothing. -/
theorem releaseType_moves (t : TicketTypeId) {q : Int} (hq : 0 < q) (db : Db) :
    ∃ r, 0 ≤ r ∧ (q ≤ db.reservedQty t → r = q) ∧
      Moves db (releaseType t q db) 0 (atType t (-r)) 0 := by
  have hzero : Moves db db 0 (atType t (-0)) 0 :=
    (Moves.refl db).cast rfl (by funext t'; simp [atType]) rfl
  simp only [releaseType]
  split
  · next row hrow =>
    have hres : db.reservedQty t = row.reservedQty := by simp [Db.reservedQty, hrow]
    split
    · refine ⟨q, hq.le, fun _ => rfl, ?_⟩
      refine (bumpType_moves 0 (-q) (by rw [hrow]; rfl)).cast ?_ rfl rfl
      funext t'
      simp [atType]
    · exact ⟨0, le_refl 0, fun h => by omega, hzero⟩
  · next hnone =>
    have hres : db.reservedQty t = 0 := by simp [Db.reservedQty, hnone]
    exact ⟨0, le_refl 0, fun h => by omega, hzero⟩

/-- The update of the counter moves nothing that `Moves` speaks of. -/
theorem releaseCounter_moves (u : UserId) (t : TicketTypeId) (q : Int) (db : Db) :
    Moves db (releaseCounter u t q db) 0 0 0 := by
  simp only [releaseCounter]
  split
  · next c hc =>
    split
    · refine (putCounter_moves u t _ db).cast rfl rfl ?_
      funext u' t'
      simp [counterPaid_of_some hc, atUser, atType]
    · exact Moves.refl db
  · exact Moves.refl db

/-- A guarded release takes off its quantity where there is that much. -/
theorem releaseGuarded_moves (u : UserId) (t : TicketTypeId) {q : Int} (hq : 0 < q) (db : Db) :
    ∃ r, 0 ≤ r ∧ (q ≤ db.reservedQty t → r = q) ∧
      Moves db (releaseGuarded u t q db) 0 (atType t (-r)) 0 := by
  obtain ⟨r, hr0, hr, hm⟩ := releaseType_moves t hq db
  exact ⟨r, hr0, hr, (hm.trans (releaseCounter_moves u t q _)).cast (add_zero _) (add_zero _)
    (add_zero _)⟩

/-- With its guard matched the counter gives back the quantity. -/
theorem releaseGuarded_counterReserved {u : UserId} {t : TicketTypeId} {q : Int} (hq : 0 < q)
    {db : Db} (h : q ≤ db.counterReserved u t) (u' : UserId) (t' : TicketTypeId) :
    (releaseGuarded u t q db).counterReserved u' t'
      = db.counterReserved u' t' + atUser u (atType t (-q)) u' t' := by
  obtain ⟨c, hc⟩ := Option.isSome_iff_exists.mp (counters_isSome_of_pos (lt_of_lt_of_le hq h))
  rw [counterReserved_of_some hc] at h
  obtain ⟨-, -, hcounters⟩ := releaseType_same t q db
  have hc' : (releaseType t q db).counters (u, t) = some c := by rw [hcounters, hc]
  have hsame : (releaseType t q db).counterReserved u' t' = db.counterReserved u' t' := by
    simp [Db.counterReserved, hcounters]
  simp only [releaseGuarded, releaseCounter, hc', if_pos h]
  rw [putCounter_counterReserved, counterReserved_of_some hc', hsame]
  congr 3
  show c.reservedQty - q - c.reservedQty = -q
  omega

/-- A releasing loop never raises `reservedQty`. -/
theorem releaseAllGuarded_moves (u : UserId) (items : List OrderItem) (db : Db) :
    ∃ r : TicketTypeId → Int, (∀ t, 0 ≤ r t) ∧
      Moves db (releaseAllGuarded u items db) 0 (-r) 0 := by
  induction items generalizing db with
  | nil =>
      refine ⟨0, fun t => le_refl 0, (Moves.refl db).cast rfl ?_ rfl⟩
      simp
  | cons i items ih =>
      obtain ⟨q, hq0, -, hm⟩ := releaseGuarded_moves u i.ticketTypeId i.quantity_pos db
      obtain ⟨r, hr0, hms⟩ := ih (releaseGuarded u i.ticketTypeId i.quantity db)
      refine ⟨atType i.ticketTypeId q + r, fun t => ?_, ?_⟩
      · have := hr0 t
        simp only [Pi.add_apply, atType]
        split <;> omega
      · refine (hm.trans hms).cast (add_zero _) ?_ (add_zero _)
        funext t
        simp only [Pi.add_apply, Pi.neg_apply, atType]
        split <;> omega

/-- With its guards matched, the first item is given back. -/
theorem Fits.head {u : UserId} {i : OrderItem} {items : List OrderItem} {db : Db}
    (h : Fits u (i :: items) db) :
    i.quantity ≤ db.reservedQty i.ticketTypeId ∧ i.quantity ≤ db.counterReserved u i.ticketTypeId := by
  have hhead := h i List.mem_cons_self
  have hrest := qtyOf_nonneg items i.ticketTypeId
  simp only [qtyOf_cons, if_pos] at hhead
  constructor <;> omega

/-- Where the items fit, it takes off all of its quantity. -/
theorem Fits.releaseGuarded_moves {u : UserId} {i : OrderItem} {items : List OrderItem} {db : Db}
    (h : Fits u (i :: items) db) :
    Moves db (releaseGuarded u i.ticketTypeId i.quantity db) 0
      (atType i.ticketTypeId (-i.quantity)) 0 := by
  obtain ⟨r, -, hr, hm⟩ := TicketDb.releaseGuarded_moves u i.ticketTypeId i.quantity_pos db
  have hrq : r = i.quantity := hr h.head.1
  rwa [hrq] at hm

/-- The remaining items still fit after the first one was given back. -/
theorem Fits.tail {u : UserId} {i : OrderItem} {items : List OrderItem} {db : Db}
    (h : Fits u (i :: items) db) :
    Fits u items (releaseGuarded u i.ticketTypeId i.quantity db) := by
  intro j hj
  have ht := h j (List.mem_cons_of_mem _ hj)
  rw [h.releaseGuarded_moves.reservedQty,
    releaseGuarded_counterReserved i.quantity_pos h.head.2 u j.ticketTypeId]
  simp only [qtyOf_cons, atUser, atType, if_pos] at ht ⊢
  by_cases he : i.ticketTypeId = j.ticketTypeId
  · simp only [if_pos he] at ht ⊢
    omega
  · simp only [if_neg he] at ht ⊢
    omega

/-- With every guard matched, the loop gives back exactly the items. -/
theorem releaseAllGuarded_fits {u : UserId} {items : List OrderItem} {db : Db}
    (h : Fits u items db) :
    Moves db (releaseAllGuarded u items db) 0 (-qtyOf items) 0 ∧
      ∀ u' t', (releaseAllGuarded u items db).counterReserved u' t'
        = db.counterReserved u' t' + atUser u (-qtyOf items) u' t' := by
  induction items generalizing db with
  | nil =>
      refine ⟨(Moves.refl db).cast rfl ?_ rfl, fun u' t' => ?_⟩
      · simp [qtyOf_nil_eq]
      · simp [qtyOf_nil_eq, releaseAllGuarded]
  | cons i items ih =>
      have hc := releaseGuarded_counterReserved (u := u) i.quantity_pos h.head.2
      obtain ⟨hms, hcs⟩ := ih h.tail
      refine ⟨(h.releaseGuarded_moves.trans hms).cast (add_zero _) ?_ (add_zero _),
        fun u' t' => ?_⟩
      · funext t
        simp only [Pi.add_apply, Pi.neg_apply, atType, qtyOf_cons]
        split <;> omega
      · have := hcs u' t'
        simp only [releaseAllGuarded]
        rw [this, hc u' t']
        simp only [atUser, atType, Pi.neg_apply, qtyOf_cons]
        by_cases hu : u = u'
        · simp only [if_pos hu]
          split <;> omega
        · simp only [if_neg hu]
          omega

/-- A releasing loop creates no counter row. -/
theorem releaseAllGuarded_rows {u : UserId} {items : List OrderItem} {db : Db}
    {k : UserId × TicketTypeId} (h : ((releaseAllGuarded u items db).counters k).isSome) :
    (db.counters k).isSome := by
  induction items generalizing db with
  | nil => exact h
  | cons i items ih =>
      have h' := ih h
      obtain ⟨-, -, hsame⟩ := releaseType_same i.ticketTypeId i.quantity db
      simp only [releaseGuarded, releaseCounter] at h'
      split at h'
      · next c hc =>
        split at h'
        · by_cases hk : k = (u, i.ticketTypeId)
          · rw [hk, ← hsame, hc]
            rfl
          · simpa [putCounter, Function.update_of_ne hk, hsame] using h'
        · rwa [hsame] at h'
      · rwa [hsame] at h'

/-- The decrement adds no counter. -/
theorem decrementCounter_rows {u : UserId} {t : TicketTypeId} {q : Int} {db db' : Db}
    (h : decrementCounter u t q db = some db') {k : UserId × TicketTypeId}
    (hk : (db'.counters k).isSome) : (db.counters k).isSome := by
  simp only [decrementCounter, Option.map_eq_some_iff] at h
  obtain ⟨c, hc, rfl⟩ := h
  by_cases hk' : k = (u, t)
  · rw [hk', hc]
    rfl
  · simpa [putCounter, Function.update_of_ne hk'] using hk

/-- The upsert behind the tickets adds at most its own counter. -/
theorem upsertPaid_rows {u : UserId} {t : TicketTypeId} {q : Int} {db : Db}
    {k : UserId × TicketTypeId} (h : ((upsertPaid u t q db).counters k).isSome) :
    (db.counters k).isSome ∨ k = (u, t) := by
  by_cases hk : k = (u, t)
  · exact .inr hk
  · simp only [upsertPaid] at h
    split at h
    all_goals exact .inl (by simpa [putCounter, Function.update_of_ne hk] using h)

end TicketDb
