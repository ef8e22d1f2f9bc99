import TicketBox.TypeUpdateProofs
import TicketBox.Inputs
import TicketBox.OneByOne

/-! # How long a ticket type stays SOLD_OUT

    `TicketTypeService.update` marks a type SOLD_OUT when its write leaves nothing
    available, and no operation takes the mark off: a later update that adds
    capacity, a cancel, an expiry and a failed payment leave it where it is, so
    that a type may be refused with tickets to sell (`soldOut_outlives_shortage`).
    The mark is set after the write that it is computed from; if nothing is freed or
    added from then on, there is nothing to sell when the mark is set (`AskShort`) nor
    later, and the status tells the truth (`soldOut_means_short`). -/

namespace TicketBackend

open Interleave TicketStore TicketRedis TicketDb TicketFlow TicketServices

/-! ## The runs -/

/-- No update sets the status. -/
def LeavesStatus : Request → Prop
  | .updateTicketType _ dto _ _ => dto.status = none
  | _ => True

/-- An update tells whether it sets the status. -/
instance (r : Request) : Decidable (LeavesStatus r) := by
  induction r using Request.casesOn <;> delta LeavesStatus <;> infer_instance

/-- No two operations overlap, and no update sets the status. -/
def statusLeft : Condition where
  req p r := p.Idle ∧ LeavesStatus r
  ask _ _ _ := True
  task _ _ _ := True
  env _ _ := True

/-- The unique index on `(concertId, name)` lets the row be written. -/
def NameFree (row : TicketType) (db : Db) : Prop :=
  ∀ r ∈ db.ticketTypes, r.id ≠ row.id → r.concertId = row.concertId → r.name ≠ row.name

/-- No item of the type is given back: the guard `reservedQty >= quantity` refuses it. -/
def NoneReleased (order : Order) (row : TicketType) : Prop :=
  ∀ i ∈ order.items, i.ticketTypeId = row.id → row.reservedQty < i.quantity

/-- What an update gives leaves nothing of the row to sell. -/
def TotalTaken (dto : UpdateTicketTypeDto) (row : TicketType) : Prop :=
  dto.totalQty.getD row.totalQty
    = dto.soldQty.getD row.soldQty + dto.reservedQty.getD row.reservedQty

/-- The call frees nothing of the row's type, and a write of the row adds nothing. -/
def KeepsShort (db : Db) (row : TicketType) : Ask → Prop
  | .writeTicketType existing dto =>
      existing.id = row.id → NameFree (updateData dto row) db → TotalTaken dto row
  | .failedCommit order | .cronExpireCommit order _ _ =>
      (db.findOrder order.id).isSome → NoneReleased order row
  | _ => True

/-- The task gives nothing of the type back. -/
def FreesNone (t : TicketTypeId) : Task → Prop
  | .decrementReserved t' _ _ => t' ≠ t
  | _ => True

/-- The call belongs to an update that is about to mark the type: its write has left
    nothing available. -/
def marking (t : TicketTypeId) : Ask → Bool
  | .seedStock row | .setSoldOut row => decide (row.id = t ∧ availableQty row = 0)
  | _ => false

/-- The type is SOLD_OUT, or an update is about to mark it so. -/
def Marked (t : TicketTypeId) (p : State) : Prop :=
  (∃ row ∈ p.world.db.findTicketType t, row.status = .soldOut) ∨ ¬ p.Nobody (marking t) noTask

/-- Runs in which nothing of type `t` is freed or added while it is SOLD_OUT or about to be
    marked so. -/
def unfreed (t : TicketTypeId) : Condition where
  req _ r := LeavesStatus r
  ask p ch d := ch.fails = false → Marked t p →
    ∀ row ∈ p.world.db.findTicketType t, KeepsShort p.world.db row d
  task p ch task := ch.fails = false → Marked t p → FreesNone t task
  env _ _ := True

/-! ## Nothing to sell -/

/-- The row of the type is there and leaves nothing to sell. -/
def Short (t : TicketTypeId) (db : Db) : Prop :=
  ∃ row, db.findTicketType t = some row ∧ availableQty row = 0

/-- The type is short by its row. -/
theorem Short.of_find {t : TicketTypeId} {db db' : Db} (h : Short t db)
    (hfind : db'.findTicketType t = db.findTicketType t) : Short t db' := by
  obtain ⟨row, hrow, hnone⟩ := h
  exact ⟨row, hfind.trans hrow, hnone⟩

/-- A write that moves counters keeps the status of the row. -/
theorem moves_row {db db' : Db} {s r : TicketTypeId → Int} {p : UserId → TicketTypeId → Int}
    (h : Moves db db' s r p) {t : TicketTypeId} {row : TicketType}
    (hrow : db.findTicketType t = some row) :
    ∃ row', db'.findTicketType t = some row' ∧ row'.status = row.status ∧
      availableQty row' = availableQty row - (s t + r t) := by
  have hcat := h.catalogue t
  rw [hrow, Option.map_some, Option.map_eq_some_iff] at hcat
  obtain ⟨row', hrow', hsame⟩ := hcat
  refine ⟨row', hrow', ?_, ?_⟩
  · show (catalogueOf row').status = (catalogueOf row).status
    rw [hsame]
  · rw [← available_of_row hrow, ← available_of_row hrow', available_moves h]

/-- Counters may move as long as nothing is freed or taken of the type. -/
theorem Short.moved {t : TicketTypeId} {db db' : Db} {s r : TicketTypeId → Int}
    {p : UserId → TicketTypeId → Int} (h : Short t db) (hm : Moves db db' s r p)
    (hkept : s t + r t = 0) : Short t db' := by
  obtain ⟨row, hrow, hnone⟩ := h
  obtain ⟨row', hrow', -, havail⟩ := moves_row hm hrow
  refine ⟨row', hrow', ?_⟩
  rw [havail, hnone, hkept]
  rfl

/-- The guard of the inventory transaction reserves nothing of a type without tickets. -/
theorem Short.reserved {t : TicketTypeId} {u : UserId} {metas : List TicketMeta} {db db' : Db}
    (h : Short t db) (hs : TicketDb.syncInventory u metas db = .ok db') : Short t db' := by
  have hm := syncInventory_moves hs
  refine h.moved hm ?_
  obtain ⟨row, hrow, hnone⟩ := h
  rw [availableQty] at hnone
  have hfull : Within t db := by
    rw [within_of_row hrow]
    omega
  -- the transaction stays within the total, which is reached
  have hafter := syncInventory_within hs hfull
  have hq := metaQty_nonneg metas t
  rw [Within, hm.soldQty, hm.reservedQty, hm.totalQty] at hafter
  simp only [Db.soldQty, Db.reservedQty, Db.totalQty, hrow, Option.map_some,
    Option.getD_some, Pi.zero_apply] at hafter
  simp only [Pi.zero_apply]
  omega

/-- A row that was written had its name to itself. -/
theorem nameFree_of_write {t : TicketTypeId} {f : TicketType → TicketType} {db db' : Db}
    {row : TicketType} (h : TicketDb.writeTicketType t f db = .ok db') (hf : ∀ r, (f r).id = r.id)
    (hrow : db.findTicketType t = some row) : NameFree (f row) db := by
  simp only [TicketDb.writeTicketType, hrow] at h
  split at h
  · cases h
  · next hfree =>
    intro r hr hid hconcert hname
    refine hfree ⟨r, hr, ?_, hconcert, hname⟩
    rw [hf row, RowTable.lookup_key hrow] at hid
    exact hid

/-- A write of the row, or of another one. -/
theorem Short.written {t t' : TicketTypeId} {f : TicketType → TicketType} {db db' : Db}
    (h : Short t db) (hw : TicketDb.writeTicketType t' f db = .ok db')
    (hf : ∀ r, (f r).id = r.id)
    (hkeeps : ∀ row, db.findTicketType t = some row → t' = row.id → availableQty row = 0 →
      availableQty (f row) = 0) : Short t db' := by
  obtain ⟨hother, row, hrow, hrow'⟩ := writeTicketType_find hw hf
  by_cases ht : t' = t
  · subst ht
    obtain ⟨row₀, hrow₀, hnone⟩ := h
    rw [hrow] at hrow₀
    cases hrow₀
    exact ⟨f row, hrow', hkeeps row hrow (RowTable.lookup_key hrow).symm hnone⟩
  · exact h.of_find (hother t (Ne.symm ht))

/-- A total that is taken leaves nothing to sell. -/
theorem TotalTaken.available {dto : UpdateTicketTypeDto} {row : TicketType}
    (h : TotalTaken dto row) : availableQty (updateData dto row) = 0 := by
  rw [TotalTaken] at h
  simp only [availableQty, updateData]
  omega

/-- A call of an update that meets the condition. -/
theorem Short.updated {t : TicketTypeId} {ch : Choice} {w w' : World} {d : Ask} {prog : Op}
    (h : Short t w.db) (hk : Ask.kind d = .updateTicketType)
    (hd : dispatch ch w d = some (w', prog))
    (hkeeps : ch.fails = false → ∀ row ∈ w.db.findTicketType t, KeepsShort w.db row d) :
    Short t w'.db := by
  by_cases hf : ch.fails = true
  · rw [fails_unchanged hf hk hd]
    exact h
  have hkeeps := hkeeps (Bool.eq_false_iff.mpr hf)
  cases dispatch_asked hd with
  | typeWritten existing dto db row₁ _ hdb _ _ =>
      refine h.written hdb (fun _ => rfl) ?_
      intro row hrow hid _
      have htaken : TotalTaken dto row := by
        refine hkeeps row hrow hid ?_
        rw [hid, RowTable.lookup_key hrow] at hdb
        exact nameFree_of_write hdb (fun _ => rfl) hrow
      exact htaken.available
  | soldOutSet marked db hdb => exact h.written hdb (fun _ => rfl) fun row _ _ hnone => hnone
  | deleted d o e db he _ _ => rcases he with rfl | rfl <;> cases hk
  | idle _ _ _ _ _ _ _ => exact h
  | paying _ _ _ _ _ _ _ _ _ => exact h
  | payingFailed _ _ _ _ _ _ _ => exact h
  | deleteRefused _ _ _ _ _ => exact h
  | markFailed _ _ _ _ => exact h
  | stockSeeded _ _ _ => exact h
  | seedFailed _ _ => exact h
  | _ => cases hk

/-! ## Releases -/

/-- A loop whose guards all refuse the items of a type leaves its row alone. -/
theorem releaseAllGuarded_find (u : UserId) {t : TicketTypeId} {row : TicketType} :
    ∀ (items : List OrderItem) (db : Db), db.findTicketType t = some row →
      (∀ i ∈ items, i.ticketTypeId = t → row.reservedQty < i.quantity) →
      (releaseAllGuarded u items db).findTicketType t = some row := by
  intro items
  induction items with
  | nil =>
      intro db hrow _
      exact hrow
  | cons i items ih =>
      intro db hrow hnone
      refine ih _ ?_ fun j hj => hnone j (List.mem_cons_of_mem _ hj)
      -- the counter's update does not touch the types
      have hcounter : (releaseGuarded u i.ticketTypeId i.quantity db).findTicketType t
          = (releaseType i.ticketTypeId i.quantity db).findTicketType t := by
        simp only [releaseGuarded, releaseCounter]
        repeat' split
        all_goals rfl
      rw [hcounter, releaseType]
      by_cases ht : i.ticketTypeId = t
      · have hguard : ¬ i.quantity ≤ row.reservedQty := by
          have := hnone i List.mem_cons_self ht
          omega
        rw [ht, hrow]
        simp only [if_neg hguard]
        exact hrow
      · split
        · split
          · rw [bumpType_find, hrow, Option.map_some, if_neg ht]
          · exact hrow
        · exact hrow

/-- One of the two transactions that give an order's items back. -/
theorem Short.released {t : TicketTypeId} {db mid : Db} {order : Order} {s : OrderStatus}
    (h : Short t db) (hset : OrderSet order.id s db mid)
    (hmid : mid.ticketTypes = db.ticketTypes)
    (hnone : ∀ row ∈ db.findTicketType t, (db.findOrder order.id).isSome → NoneReleased order row) :
    Short t (releaseAllGuarded order.userId order.items mid) := by
  obtain ⟨row, hrow, hfull⟩ := h
  have hfind : mid.findTicketType t = some row := by
    rw [Db.findTicketType, hmid]
    exact hrow
  have hrefused := hnone row hrow hset.1
  refine ⟨row, releaseAllGuarded_find _ _ _ hfind ?_, hfull⟩
  intro i hi hid
  exact hrefused i hi (hid.trans (RowTable.lookup_key hrow).symm)

/-- A call of another operation that meets the condition. -/
theorem Short.asked {t : TicketTypeId} {ch : Choice} {w w' : World} {d : Ask} {prog : Op}
    (h : Short t w.db) (ha : Asked ch w d w' prog) (hk : Ask.kind d ≠ .updateTicketType)
    (hkeeps : ch.fails = false → ∀ row ∈ w.db.findTicketType t, KeepsShort w.db row d) :
    Short t w'.db := by
  have hsame : ∀ {db' : Db}, db'.ticketTypes = w.db.ticketTypes → Short t db' := by
    intro db' htt
    refine h.of_find ?_
    rw [Db.findTicketType, Db.findTicketType, htt]
  cases ha with
  | persisted ctx o metas db _ hdb =>
      obtain ⟨rfl, -⟩ := insertOrder_eq hdb
      exact hsame rfl
  | synced ctx o metas db _ hdb => exact h.reserved hdb
  | deleted _ o e db _ _ hdb =>
      obtain ⟨rfl, -⟩ := deleteOrder_eq hdb
      exact hsame rfl
  | cancelled order db _ hdb => exact hsame (commitCancelled_set hdb).2.2.1
  | expired order db _ hdb => exact hsame (commitExpired_set hdb).2.2.1
  | failed order db hf hdb =>
      simp only [commitFailed, Option.bind_eq_bind, Option.bind_eq_some_iff,
        Option.some.injEq] at hdb
      obtain ⟨mid, hmid, rfl⟩ := hdb
      obtain ⟨hset, -, htt, -⟩ := updateOrder_set (s := .paymentFailed) hmid
        fun _ => ⟨⟨rfl, rfl, rfl, rfl, rfl, rfl⟩, rfl⟩
      exact h.released (hset.congr rfl rfl) htt (hkeeps hf)
  | succeeded dto order gateName db _ hdb =>
      exact h.moved (commitSuccess_issued hdb).2.moves (add_neg_cancel _)
  | cronPaid order rest db _ hdb => exact hsame (commitCronPaid_set hdb).2.2.1
  | cronExpired order res rest db hf hdb =>
      simp only [commitCronExpire, Option.bind_eq_bind, Option.bind_eq_some_iff,
        Option.some.injEq] at hdb
      obtain ⟨db₁, h₁, mid, hmid, rfl⟩ := hdb
      obtain ⟨hset, -, htt, -⟩ := updateOrder_set (s := res.orderStatus) h₁
        fun _ => ⟨⟨rfl, rfl, rfl, rfl, rfl, rfl⟩, rfl⟩
      obtain ⟨horders, -, htypes, -⟩ := insertPayment_same hmid
      exact h.released (hset.congr rfl horders) (htypes.trans htt) (hkeeps hf)
  | issued job order db _ hdb => exact h.moved (commitIssue_issued hdb).2.moves (add_neg_cancel _)
  | typeWritten => exact absurd rfl hk
  | stockSeeded => exact absurd rfl hk
  | soldOutSet => exact absurd rfl hk
  | _ => exact hsame rfl

/-- Any call that meets the condition. -/
theorem Short.dispatched {t : TicketTypeId} {ch : Choice} {w w' : World} {d : Ask} {prog : Op}
    (h : Short t w.db) (hd : dispatch ch w d = some (w', prog))
    (hkeeps : ch.fails = false → ∀ row ∈ w.db.findTicketType t, KeepsShort w.db row d) :
    Short t w'.db := by
  by_cases hk : Ask.kind d = .updateTicketType
  · exact h.updated hk hd hkeeps
  · exact h.asked (dispatch_asked hd) hk hkeeps

/-- A task that meets the condition. -/
theorem Short.performed {t : TicketTypeId} {ch : Choice} {w w' : World} {task : Task}
    {res : TaskResult Task} (h : Short t w.db) (hp : perform ch w task = some (w', res))
    (hfrees : ch.fails = false → FreesNone t task) : Short t w'.db := by
  by_cases hf : ch.fails = true
  · simp only [perform, if_pos hf] at hp
    cases hp
    exact h
  have hfrees := hfrees (Bool.eq_false_iff.mpr hf)
  cases perform_performed hp with
  | decremented t' q pos db hdb =>
      have hne : t' ≠ t := hfrees
      refine h.moved (decrementReserved_moves hdb) ?_
      show 0 + atType t' (-q) t = 0
      rw [atType, if_neg hne, add_zero]
  | counterDecremented u t' q pos db hdb => exact h.moved (decrementCounter_moves hdb) rfl
  | threw _ _ => exact h
  | ended _ _ => exact h
  | looked _ _ _ _ _ => exact h
  | stockSet _ _ => exact h
  | limitSet _ _ _ => exact h
  | released _ _ => exact h

/-! ## About to mark -/

/-- An update that is about to mark the type marks one with nothing to sell, and it marks a
    type only if its own write has left nothing. -/
structure AskShort (t : TicketTypeId) (w : World) (d : Ask) : Prop where
  short : marking t d = true → Short t w.db
  test : ∀ row, d = .setSoldOut row → availableQty row = 0

/-- The calls of an update behind its write. -/
def Ask.behindWrite : Ask → Bool
  | .seedStock _ | .setSoldOut _ => true
  | _ => false

/-- Every other call marks nothing. -/
theorem askShort_of_not_behind {t : TicketTypeId} {w : World} {d : Ask}
    (h : Ask.behindWrite d = false) : AskShort t w d := by
  constructor
  · intro hm
    cases d with
    | seedStock row => cases h
    | setSoldOut row => cases h
    | _ => cases hm
  · intro row he
    subst he
    cases h

/-- Nor does a call of another operation. -/
theorem askShort_of_kind {t : TicketTypeId} {w : World} {d : Ask}
    (hk : Ask.kind d ≠ .updateTicketType) : AskShort t w d := by
  refine askShort_of_not_behind ?_
  cases d with
  | seedStock row => exact absurd rfl hk
  | setSoldOut row => exact absurd rfl hk
  | _ => rfl

/-- The auto SOLD_OUT step tests the row that the update returned. -/
theorem short_afterWrite {t : TicketTypeId} {w : World} {row : TicketType}
    (h : row.id = t → availableQty row = 0 → Short t w.db) :
    (TicketServices.afterWrite row).All (AskShort t w) fun _ => True := by
  rw [TicketServices.afterWrite]
  split
  · next htest =>
    refine AskShort.mk (fun hm => ?_) ?_
    · have hid : row.id = t ∧ availableQty row = 0 := by simpa [marking] using hm
      exact h hid.1 hid.2
    · rintro _ ⟨⟩
      exact htest.1
  · trivial

/-- What an update is about to mark it has found short. -/
theorem update_short {t : TicketTypeId} {ch : Choice} {w w' : World} {d : Ask} {prog : Op}
    (hk : Ask.kind d = .updateTicketType) (hd : dispatch ch w d = some (w', prog))
    (hshort : AskShort t w d) : prog.All (AskShort t w') fun _ => True := by
  have hreads : ∀ {prog₁ : Op}, reads ch w prog₁ = some (w', prog) →
      prog₁.All (AskShort t w) (fun _ => True) → prog.All (AskShort t w') fun _ => True :=
    fun h => prop_of_reads (P := fun w prog => prog.All (AskShort t w) fun _ => True) h trivial
  cases updateCall_of_kind hk with
  | updateTicketType t' dto u role =>
      refine hreads hd ?_
      simp only [TicketServices.updateTicketType]
      split
      · trivial
      · exact askShort_of_not_behind rfl
  | checkOwnership existing dto u role =>
      refine hreads hd ?_
      simp only [TicketServices.checkOwnership, TicketServices.afterDuplicate]
      repeat' split
      all_goals first
        | trivial
        | exact askShort_of_not_behind rfl
  | checkDuplicate existing dto role =>
      refine hreads hd ?_
      simp only [TicketServices.checkDuplicate, TicketServices.afterDuplicate]
      repeat' split
      all_goals first
        | trivial
        | exact askShort_of_not_behind rfl
  | writeTicketType existing dto =>
      simp only [dispatch, TicketServices.writeTicketType, Option.some.injEq] at hd
      split at hd
      · cases hd
        trivial
      split at hd
      · cases hd
        trivial
      split at hd
      · cases hd
        trivial
      · next db _ _ row hrow =>
        cases hd
        -- the row returned is the one that stands after the write
        have hreturned : row.id = t → availableQty row = 0 → Short t db := by
          intro hid hnone
          refine ⟨row, ?_, hnone⟩
          rw [← hid, RowTable.lookup_key hrow]
          exact hrow
        split
        · refine AskShort.mk (fun hm => ?_) fun _ he => by cases he
          have hid : row.id = t ∧ availableQty row = 0 := by simpa [marking] using hm
          exact hreturned hid.1 hid.2
        · exact short_afterWrite hreturned
  | seedStock row =>
      simp only [dispatch, TicketServices.seedStock, Option.some.injEq] at hd
      split at hd
      · cases hd
        trivial
      · cases hd
        refine short_afterWrite fun hid hnone => hshort.short ?_
        simp [marking, hid, hnone]
  | setSoldOut row =>
      simp only [dispatch, TicketServices.setSoldOut, Option.some.injEq] at hd
      split at hd
      · cases hd
        trivial
      · split at hd
        · cases hd
          trivial
        · cases hd
          trivial

/-- A started operation marks nothing at once. -/
theorem askShort_enter {t : TicketTypeId} {w : World} {r : Request} {prog : Op}
    (h : enter w r = some prog) : prog.All (AskShort t w) fun _ => True := by
  rw [enter_call h]
  cases r <;> exact askShort_of_not_behind rfl

/-- **About to mark.**  Until an update has marked the type nothing of it becomes
    available. -/
theorem short_step {t : TicketTypeId} {p q : State}
    (hp : ∀ prog ∈ p.ops, prog.All (AskShort t p.world) fun _ => True)
    (h : backend.Step (unfreed t) p q) :
    ∀ prog ∈ q.ops, prog.All (AskShort t q.world) fun _ => True := by
  -- a call is left as it is if nobody is about to mark, else the step keeps the type short
  have hkept : ∀ {w' : World} {d' : Ask}, (Marked t p → Short t p.world.db → Short t w'.db) →
      AskShort t p.world d' →
      AskShort t w' d' ∨ (marking t d' = true ∧ p.Nobody (marking t) noTask) := by
    intro w' d' hkeep hd'
    by_cases hm : marking t d' = true
    · by_cases hno : p.Nobody (marking t) noTask
      · exact .inr ⟨hm, hno⟩
      · exact .inl ⟨fun _ => hkeep (.inr hno) (hd'.short hm), hd'.test⟩
    · exact .inl ⟨fun hm' => absurd hm' hm, hd'.test⟩
  refine h.exclusive (J := AskShort t) (K := fun _ _ => True) hp ?_ ?_ ?_ ?_
  · intro r prog _ he
    exact askShort_enter he
  · intro ch d w' prog _ hb hg hd
    refine ⟨?_, fun d' hd' => ?_, fun _ _ => .inl trivial⟩
    · by_cases hk : Ask.kind d = .updateTicketType
      · exact update_short hk hd hb
      · refine (asked_kind (dispatch_asked hd)).mono (fun d' hd' => ?_) fun _ _ => trivial
        exact askShort_of_kind (by rw [hd']; exact hk)
    · refine (hkept (fun hmarked hs => hs.dispatched hd fun hf => hg hf hmarked) hd').imp_right ?_
      rintro ⟨hm, hno⟩
      exact ⟨marking t, noTask, hm, hno.onlyBy d⟩
  · intro ch task w' res _ hg hperf
    refine ⟨fun _ _ => trivial, fun d' hd' => ?_, fun _ _ => .inl trivial⟩
    refine (hkept (fun hmarked hs => hs.performed hperf fun hf => hg hf hmarked) hd').imp_right ?_
    rintro ⟨hm, hno⟩
    exact ⟨marking t, noTask, hm, hno⟩
  · exact fun ms _ => ⟨fun d' hd' => ⟨hd'.short, hd'.test⟩, fun _ _ => trivial⟩

/-! ## The status -/

/-- The row of the type keeps its status. -/
def StatusStays (t : TicketTypeId) (db db' : Db) : Prop :=
  ∀ row, db.findTicketType t = some row →
    ∃ row', db'.findTicketType t = some row' ∧ row'.status = row.status

/-- Nothing is written. -/
theorem statusStays_refl (t : TicketTypeId) (db : Db) : StatusStays t db db :=
  fun row hrow => ⟨row, hrow, rfl⟩

/-- Moving inventory leaves the status alone. -/
theorem statusStays_moves {t : TicketTypeId} {db db' : Db} {s r : TicketTypeId → Int}
    {p : UserId → TicketTypeId → Int} (hm : Moves db db' s r p) : StatusStays t db db' := by
  intro row hrow
  obtain ⟨row', hrow', hstatus, -⟩ := moves_row hm hrow
  exact ⟨row', hrow', hstatus⟩

/-- So does a write that leaves it alone. -/
theorem statusStays_written {t t' : TicketTypeId} {f : TicketType → TicketType} {db db' : Db}
    (hw : TicketDb.writeTicketType t' f db = .ok db') (hf : ∀ r, (f r).id = r.id)
    (hkeeps : t' = t → ∀ r, (f r).status = r.status) : StatusStays t db db' := by
  intro row hrow
  obtain ⟨hother, row₁, hrow₁, hrow'⟩ := writeTicketType_find hw hf
  by_cases ht : t' = t
  · subst ht
    rw [hrow] at hrow₁
    cases hrow₁
    exact ⟨f row, hrow', hkeeps rfl row⟩
  · exact ⟨row, (hother t (Ne.symm ht)).trans hrow, rfl⟩

/-- Only the auto SOLD_OUT step of an update without a status writes one. -/
theorem status_dispatched {t : TicketTypeId} {ch : Choice} {w w' : World} {d : Ask} {prog : Op}
    (hd : dispatch ch w d = some (w', prog))
    (hleaves : ∀ existing dto, d = .writeTicketType existing dto → dto.status = none)
    (hmark : ∀ marked, d = .setSoldOut marked → marked.id ≠ t) : StatusStays t w.db w'.db := by
  by_cases hk : Ask.kind d = .updateTicketType
  · cases dispatch_asked hd with
    | typeWritten existing dto db row _ hdb _ _ =>
        refine statusStays_written hdb (fun _ => rfl) fun _ r => ?_
        rw [updateData, hleaves existing dto rfl]
        rfl
    | soldOutSet marked db hdb =>
        exact statusStays_written hdb (fun _ => rfl) fun hid => absurd hid (hmark marked rfl)
    | deleted d o e db he _ _ => rcases he with rfl | rfl <;> cases hk
    | idle _ _ _ _ _ _ _ => exact statusStays_refl t w.db
    | paying _ _ _ _ _ _ _ _ _ => exact statusStays_refl t w.db
    | payingFailed _ _ _ _ _ _ _ => exact statusStays_refl t w.db
    | deleteRefused _ _ _ _ _ => exact statusStays_refl t w.db
    | markFailed _ _ _ _ => exact statusStays_refl t w.db
    | stockSeeded _ _ _ => exact statusStays_refl t w.db
    | seedFailed _ _ => exact statusStays_refl t w.db
    | _ => cases hk
  · cases asked_inventory (dispatch_asked hd) hk with
    | lowered r _ hm _ => exact statusStays_moves hm
    | reserved ctx o metas _ _ hdb => exact statusStays_moves (syncInventory_moves hdb)
    | issued order _ _ hi => exact statusStays_moves hi.moves

/-- The type is on sale, or marked SOLD_OUT with nothing to sell. -/
def Truthful (row : TicketType) : Prop :=
  row.status = .active ∨ row.status = .soldOut ∧ availableQty row = 0

/-- The row of the type is there and its status tells the truth. -/
def StatusTrue (t : TicketTypeId) (db : Db) : Prop :=
  ∃ row, db.findTicketType t = some row ∧ Truthful row

/-- A status that stays tells the truth if a marked type stays short. -/
theorem StatusTrue.kept {t : TicketTypeId} {db db' : Db} (h : StatusTrue t db)
    (hstays : StatusStays t db db')
    (hshort : (∃ row ∈ db.findTicketType t, row.status = .soldOut) → Short t db → Short t db') :
    StatusTrue t db' := by
  obtain ⟨row, hrow, htrue⟩ := h
  obtain ⟨row', hrow', hstatus⟩ := hstays row hrow
  refine ⟨row', hrow', ?_⟩
  rcases htrue with hactive | ⟨hsold, hnone⟩
  · exact .inl (hstatus.trans hactive)
  · obtain ⟨row₁, hrow₁, hnone₁⟩ := hshort ⟨row, hrow, hsold⟩ ⟨row, hrow, hnone⟩
    rw [hrow'] at hrow₁
    cases hrow₁
    exact .inr ⟨hstatus.trans hsold, hnone₁⟩

/-- The mark is set on a type with nothing to sell. -/
theorem StatusTrue.marked {t : TicketTypeId} {w : World} {db : Db} {marked : TicketType}
    (hshort : AskShort t w (.setSoldOut marked)) (hid : marked.id = t)
    (hdb : TicketDb.writeTicketType marked.id (fun r => { r with status := .soldOut }) w.db
      = .ok db) : StatusTrue t db := by
  subst hid
  obtain ⟨-, row, hrow, hrow'⟩ := writeTicketType_find hdb fun _ => rfl
  obtain ⟨row₁, hrow₁, hnone⟩ := hshort.short (by simp [marking, hshort.test marked rfl])
  rw [hrow] at hrow₁
  cases hrow₁
  exact ⟨_, hrow', .inr ⟨rfl, hnone⟩⟩

/-! ## One step -/

/-- The updates in flight set no status. -/
def UpdatesLeave (p : State) : Prop :=
  ∀ prog ∈ p.ops, OpGiven (fun _ _ => True) (fun dto => dto.status = none) prog

/-- No step lets an update write the status. -/
theorem UpdatesLeave.step {t : TicketTypeId} {p q : State} (h : UpdatesLeave p)
    (hs : backend.Step (unfreed t) p q) : UpdatesLeave q := by
  refine given_step hs h ?_ fun _ _ _ _ _ _ _ => trivial
  intro r hr
  cases r with
  | updateTicketType t' dto u role => exact hr
  | _ => trivial

/-- What holds in a run that frees and adds nothing of the type while it is marked. -/
structure Unfreed (t : TicketTypeId) (p : State) : Prop where
  leave : UpdatesLeave p
  short : ∀ prog ∈ p.ops, prog.All (AskShort t p.world) fun _ => True
  status : StatusTrue t p.world.db

/-- **One step** of the backend. -/
theorem Unfreed.step {t : TicketTypeId} {p q : State} (hp : Unfreed t p)
    (hs : backend.Step (unfreed t) p q) : Unfreed t q := by
  refine ⟨hp.leave.step hs, short_step hp.short hs, ?_⟩
  refine hs.world (I := fun w => StatusTrue t w.db) hp.status ?_ ?_ ?_
  · intro ch d w' prog hmem hg hd
    have hkeeps : (∃ row ∈ p.world.db.findTicketType t, row.status = .soldOut) →
        Short t p.world.db → Short t w'.db :=
      fun hsold hshort => hshort.dispatched hd fun hf => hg hf (.inl hsold)
    have hleaves : ∀ existing dto, d = .writeTicketType existing dto → dto.status = none := by
      rintro existing dto rfl
      exact hp.leave _ hmem
    by_cases hmark : ∃ marked, d = .setSoldOut marked ∧ marked.id = t
    · obtain ⟨marked, rfl, hid⟩ := hmark
      have hasked : Asked ch p.world (.setSoldOut marked) w' prog := dispatch_asked hd
      -- the write either fails or marks the row
      cases hasked with
      | soldOutSet _ db hdb => exact .marked (hp.short _ hmem) hid hdb
      | deleted _ _ _ _ he => rcases he with he | he <;> cases he
      | idle _ _ _ _ _ _ _ => exact hp.status
      | paying _ _ _ _ _ _ _ _ _ => exact hp.status
      | payingFailed _ _ _ _ _ _ _ => exact hp.status
      | deleteRefused _ _ _ _ _ => exact hp.status
      | markFailed _ _ _ _ => exact hp.status
    · refine hp.status.kept (status_dispatched hd hleaves ?_) hkeeps
      intro marked he hid
      exact hmark ⟨marked, he, hid⟩
  · intro ch task w' res _ hg hperf
    obtain ⟨r, -, hm, -⟩ := performed_inventory (perform_performed hperf)
    refine hp.status.kept (statusStays_moves hm) fun hsold hshort => ?_
    exact hshort.performed hperf fun hf => hg hf (.inl hsold)
  · intro ms _
    exact hp.status

/-! ## The run -/

/-- The concert of the type sells, and the type's sale window is open. -/
def OpenForSale (db : Db) (now : Nat) (row : TicketType) : Prop :=
  (∃ concert ∈ db.findConcert row.concertId,
    concert.status = .published ∨ concert.status = .saleOpen) ∧
  row.saleStartsAt ≤ now ∧ ∀ ends ∈ row.saleEndsAt, now ≤ ends

/-- `validateTicketType` accepts an ACTIVE type whose sale is open. -/
theorem validate_accepts {db : Db} {now : Nat} {row : TicketType} {item : OrderItemDto}
    (hrow : db.findTicketType item.ticketTypeId = some row) (hactive : row.status = .active)
    (hopen : OpenForSale db now row) :
    ∃ m, TicketOrder.validateTicketType db now row.concertId item = .ok m := by
  obtain ⟨⟨concert, hconcert, hsells⟩, hstarts, hends⟩ := hopen
  have hselling : ¬ (concert.status ≠ .published ∧ concert.status ≠ .saleOpen) := by
    rintro ⟨hpublished, hsaleOpen⟩
    exact hsells.elim hpublished hsaleOpen
  have hended : row.saleEndsAt.any (fun e => decide (e < now)) ≠ true := by
    cases hcase : row.saleEndsAt with
    | none => exact Bool.false_ne_true
    | some ends =>
        have := hends ends hcase
        simp only [Option.any_some, ne_eq, decide_eq_true_eq]
        omega
  rw [TicketOrder.validateTicketType, Option.mem_def.mp hconcert]
  simp only [if_neg hselling, hrow]
  rw [if_neg fun hne => hne rfl, if_neg fun hne => hne hactive, if_neg (Nat.not_lt.mpr hstarts),
    if_neg hended]
  exact ⟨_, rfl⟩

/-- **SOLD_OUT means short.**  A type that is ACTIVE while nothing is under way keeps a true
    status in every run that frees and adds none of it while it is SOLD_OUT or about to be
    marked: when it is marked it has no ticket available, and with some available it is
    accepted in its sale. -/
theorem soldOut_means_short (t : TicketTypeId) {p q : State} {row : TicketType} (hidle : p.Idle)
    (hrow : p.world.db.findTicketType t = some row) (hactive : row.status = .active)
    (hrun : backend.Run (unfreed t) p q) :
    ∃ row', q.world.db.findTicketType t = some row' ∧
      (row'.status = .soldOut → availableQty row' = 0) ∧
      (availableQty row' ≠ 0 → OpenForSale q.world.db q.world.now row' →
        ∀ item : OrderItemDto, item.ticketTypeId = t →
          ∃ m, TicketOrder.validateTicketType q.world.db q.world.now row'.concertId item = .ok m) := by
  have hq : Unfreed t q := by
    refine hrun.inv (fun _ _ hx hs => hx.step hs) ⟨fun prog hmem => ?_, fun prog hmem => ?_, ?_⟩
    · exact Prog.all_of_not_asks (hidle prog hmem)
    · exact Prog.all_of_not_asks (hidle prog hmem)
    · exact ⟨row, hrow, .inl hactive⟩
  obtain ⟨row', hrow', htrue⟩ := hq.status
  refine ⟨row', hrow', ?_, ?_⟩
  · intro hsold
    rcases htrue with hon | ⟨-, hnone⟩
    · rw [hon] at hsold
      cases hsold
    · exact hnone
  · intro havail hopen item hitem
    rcases htrue with hon | ⟨-, hnone⟩
    · exact validate_accepts (by rw [hitem]; exact hrow') hon hopen
    · exact absurd hnone havail

/-! ### Marked and paid, marked and cancelled -/

/-- The other rows are looked at. -/
instance (row : TicketType) (db : Db) : Decidable (NameFree row db) :=
  inferInstanceAs (Decidable (∀ r ∈ db.ticketTypes, _))

/-- The items of the order are looked at. -/
instance (order : Order) (row : TicketType) : Decidable (NoneReleased order row) :=
  inferInstanceAs (Decidable (∀ i ∈ order.items, _))

instance (dto : UpdateTicketTypeDto) (row : TicketType) : Decidable (TotalTaken dto row) :=
  inferInstanceAs (Decidable (_ = _))

/-- Call by call. -/
instance (db : Db) (row : TicketType) (d : Ask) : Decidable (KeepsShort db row d) := by
  induction d using Ask.casesOn <;> delta KeepsShort <;> infer_instance

/-- Task by task. -/
instance (t : TicketTypeId) (task : Task) : Decidable (FreesNone t task) := by
  induction task using TicketFlow.Task.casesOn <;> delta FreesNone <;> infer_instance

/-- Whether a type is marked, or about to be, is seen in the row and in the calls in flight. -/
instance (t : TicketTypeId) (p : State) : Decidable (Marked t p) :=
  inferInstanceAs (Decidable ((∃ row ∈ p.world.db.findTicketType t, _) ∨ _))

/-- A run can be checked for this, step by step. -/
instance (t : TicketTypeId) (p : State) (r : Request) : Decidable ((unfreed t).req p r) :=
  inferInstanceAs (Decidable (LeavesStatus r))
instance (t : TicketTypeId) (p : State) (ch : Choice) (d : Ask) :
    Decidable ((unfreed t).ask p ch d) :=
  inferInstanceAs (Decidable (_ = false → Marked t p → ∀ row ∈ p.world.db.findTicketType t, _))
instance (t : TicketTypeId) (p : State) (ch : Choice) (task : Task) :
    Decidable ((unfreed t).task p ch task) :=
  inferInstanceAs (Decidable (_ = false → Marked t p → FreesNone t task))
instance (t : TicketTypeId) (p : State) (ms : Nat) : Decidable ((unfreed t).env p ms) :=
  inferInstanceAs (Decidable True)

/-- A run can be checked for this, step by step. -/
instance (p : State) (r : Request) : Decidable (statusLeft.req p r) :=
  inferInstanceAs (Decidable (p.Idle ∧ LeavesStatus r))
instance (p : State) (ch : Choice) (d : Ask) : Decidable (statusLeft.ask p ch d) :=
  inferInstanceAs (Decidable True)
instance (p : State) (ch : Choice) (task : Task) : Decidable (statusLeft.task p ch task) :=
  inferInstanceAs (Decidable True)
instance (p : State) (ms : Nat) : Decidable (statusLeft.env p ms) :=
  inferInstanceAs (Decidable True)

/-- Concert, status and window are looked at. -/
instance (db : Db) (now : Nat) (row : TicketType) : Decidable (OpenForSale db now row) :=
  inferInstanceAs (Decidable ((∃ concert ∈ db.findConcert row.concertId, _) ∧ _ ∧ _))

/-- One of two tickets is ordered and the total is lowered to one. -/
def orderThenLower : List Move :=
  .start (.createOrder (oneTicket 1) 5) :: steps 0 18
    ++ .start (.updateTicketType 1 (totalTo 1 one_le_one) 1 .organizer) :: steps 1 5

/-- The order is paid: the type is SOLD_OUT and has nothing to sell. -/
theorem soldOut_means_short_paid :
    ∃ q, backend.Run (unfreed 1) (shop [onSale 1 2 1]) q ∧
      (q.world.db.findTicketType 1).any (fun row => decide (row.status = .soldOut)) = true ∧
      ∃ row', q.world.db.findTicketType 1 = some row' ∧
        (row'.status = .soldOut → availableQty row' = 0) := by
  obtain ⟨q, hrun, hsold⟩ : ∃ q, backend.Run (unfreed 1) (shop [onSale 1 2 1]) q ∧
      (q.world.db.findTicketType 1).any (fun row => decide (row.status = .soldOut)) = true :=
    exists_run (orderThenLower ++ .start (.webhook (paid 1)) :: steps 2 5) _ (by decide +kernel)
  have hrow : (shop [onSale 1 2 1]).world.db.findTicketType 1 = some (onSale 1 2 1) := rfl
  obtain ⟨row', hrow', hshort, -⟩ := soldOut_means_short 1 (by decide) hrow rfl hrun
  exact ⟨q, hrun, hsold, row', hrow', hshort⟩

/-- The order is cancelled: nobody is at work, a ticket is available in an open sale, and
    the type is refused as SOLD_OUT. -/
theorem soldOut_outlives_shortage :
    ∃ q, backend.Run statusLeft (shop [onSale 1 2 1]) q ∧ q.Idle ∧
      ∃ row ∈ q.world.db.findTicketType 1, row.status = .soldOut ∧ availableQty row = 1 ∧
        OpenForSale q.world.db q.world.now row ∧
        TicketOrder.validateTicketType q.world.db q.world.now 1
            { ticketTypeId := 1, quantity := 1, quantity_pos := by decide }
          = .error (.badRequest "Ticket type is not active (status: SOLD_OUT)") := by
  refine exists_run (orderThenLower ++ .start (.cancelOrder 1 5) :: steps 2 7) _ ?_
  decide +kernel

end TicketBackend
