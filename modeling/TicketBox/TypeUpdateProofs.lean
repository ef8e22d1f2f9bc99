import TicketBox.OversellProofs
import TicketBox.StockProofs

/-! # What an update of a ticket type may do to its capacity

    `TicketTypeService.update` checks `totalQty` on a row it has read before, and only
    if it is given; its write then goes through whatever the row has become.  If nothing
    of the type is reserved or sold and no counter of it is written between that read and
    the write, the row has not grown beyond what was checked (`AskBounded`), and the total
    stays above what is sold and reserved.  An update that one of its own checks refuses
    has written nothing (`update_within`). -/

namespace TicketBackend

open Interleave TicketStore TicketRedis TicketDb TicketFlow

/-! ## The condition -/

/-- The types of which the call reserves or sells tickets or writes a counter. -/
def Ask.takes : Ask → List TicketTypeId
  | .syncInventory _ _ metas => metas.map TicketMeta.ticketTypeId
  | .successCommit _ order _ | .issueCommit _ order => order.items.map OrderItem.ticketTypeId
  | .writeTicketType existing dto =>
      if dto.soldQty.isSome ∨ dto.reservedQty.isSome then [existing.id] else []
  | _ => []

/-- The row that an update has read, and what it is to write. -/
def Ask.existing : Ask → Option (TicketType × UpdateTicketTypeDto)
  | .checkOwnership existing dto _ _ | .checkDuplicate existing dto _
  | .writeTicketType existing dto => some (existing, dto)
  | _ => none

/-- The operation of the call has read the type and has still to write its total. -/
def updating (t : TicketTypeId) (d : Ask) : Bool :=
  (Ask.existing d).any fun x => decide (x.1.id = t) && x.2.totalQty.isSome

/-- Counters of the type are given only with a total. -/
def TotalGiven (t : TicketTypeId) : Ask → Prop
  | .writeTicketType existing dto =>
      existing.id = t → dto.totalQty = none → dto.soldQty = none ∧ dto.reservedQty = none
  | _ => True

/-- All operations; nothing of type `t` is reserved or sold, and no counter of it written,
    while another update stands between its read of the type and its write. -/
def updatingAlone (t : TicketTypeId) : Condition where
  req _ _ := True
  ask p ch d := (ch.fails = false → t ∈ Ask.takes d → p.OnlyBy (updating t) noTask d) ∧
    TotalGiven t d
  task _ _ _ := True
  env _ _ := True

/-! ## One write -/

/-- A type is within its total by its row. -/
theorem within_of_row {t : TicketTypeId} {db : Db} {row : TicketType}
    (hrow : db.findTicketType t = some row) :
    Within t db ↔ row.soldQty + row.reservedQty ≤ row.totalQty := by
  simp only [Within, Db.soldQty, Db.reservedQty, Db.totalQty, hrow, Option.map_some, Option.getD_some]

/-- So only the row counts. -/
theorem within_of_find {t : TicketTypeId} {db db' : Db}
    (h : db'.findTicketType t = db.findTicketType t) : Within t db' ↔ Within t db := by
  simp only [Within, Db.soldQty, Db.reservedQty, Db.totalQty, h]

/-- The check of `totalQty` passes on this row, and counters that are given without
    `totalQty` fit into the row's. -/
def Fits (dto : UpdateTicketTypeDto) (row : TicketType) : Prop :=
  (∀ total ∈ dto.totalQty,
    dto.soldQty.getD row.soldQty + dto.reservedQty.getD row.reservedQty ≤ total) ∧
  (dto.totalQty = none → dto.soldQty.isSome ∨ dto.reservedQty.isSome →
    dto.soldQty.getD row.soldQty + dto.reservedQty.getD row.reservedQty ≤ row.totalQty)

/-- **One write.**  It keeps the row within its total exactly if it fits. -/
theorem updateData_within_iff {dto : UpdateTicketTypeDto} {row : TicketType}
    (hrow : row.soldQty + row.reservedQty ≤ row.totalQty) :
    (updateData dto row).soldQty + (updateData dto row).reservedQty ≤ (updateData dto row).totalQty ↔
      Fits dto row := by
  rw [Fits]
  cases htotal : dto.totalQty with
  | some total => simp [updateData, htotal]
  | none =>
      by_cases hgiven : dto.soldQty.isSome ∨ dto.reservedQty.isSome
      · simp [updateData, htotal, hgiven]
      · -- no counter is given
        have hsold : dto.soldQty = none := by
          by_contra hne
          exact hgiven (.inl (Option.isSome_iff_ne_none.mpr hne))
        have hreserved : dto.reservedQty = none := by
          by_contra hne
          exact hgiven (.inr (Option.isSome_iff_ne_none.mpr hne))
        simp [updateData, htotal, hsold, hreserved, hrow]

/-- A write that leaves the counts covered. -/
theorem within_written {t t' : TicketTypeId} {f : TicketType → TicketType} {db db' : Db}
    (hw : Within t db) (h : TicketDb.writeTicketType t' f db = .ok db') (hf : ∀ r, (f r).id = r.id)
    (hkeeps : t' = t → ∀ row ∈ db.findTicketType t, row.soldQty + row.reservedQty ≤ row.totalQty →
      (f row).soldQty + (f row).reservedQty ≤ (f row).totalQty) : Within t db' := by
  obtain ⟨hother, row, hrow, hrow'⟩ := writeTicketType_find h hf
  by_cases ht : t' = t
  · subst ht
    rw [within_of_row hrow']
    exact hkeeps rfl row hrow ((within_of_row hrow).mp hw)
  · exact (within_of_find (hother t (Ne.symm ht))).mpr hw

/-- A step of a sale keeps a type within its total. -/
theorem within_moved {t : TicketTypeId} {ch : Choice} {w w' : World} {d : Ask} (h : Within t w.db)
    (hm : InventoryMoved ch w w' d) : Within t w'.db := by
  cases hm with
  | lowered r hr hm _ =>
      have := hr t
      rw [Within] at h ⊢
      rw [hm.soldQty, hm.reservedQty, hm.totalQty]
      simp only [Pi.zero_apply, Pi.neg_apply]
      omega
  | reserved ctx o metas _ _ hdb => exact syncInventory_within hdb h
  | issued order _ _ hi =>
      rw [Within] at h ⊢
      rw [hi.moves.soldQty, hi.moves.reservedQty, hi.moves.totalQty]
      simp only [Pi.neg_apply]
      omega

/-- A call of an update that fits the row it writes. -/
theorem within_updated {t : TicketTypeId} {ch : Choice} {w w' : World} {d : Ask} {prog : Op}
    (h : Within t w.db) (hk : Ask.kind d = .updateTicketType) (hd : dispatch ch w d = some (w', prog))
    (hfits : ∀ existing dto, d = .writeTicketType existing dto → existing.id = t →
      ∀ row ∈ w.db.findTicketType t, Fits dto row) : Within t w'.db := by
  cases dispatch_asked hd with
  | typeWritten existing dto db row _ hdb _ _ =>
      refine within_written h hdb (fun _ => rfl) fun ht old hold hle => ?_
      exact (updateData_within_iff hle).mpr (hfits existing dto rfl ht old hold)
  | soldOutSet row db hdb => exact within_written h hdb (fun _ => rfl) fun _ _ _ hle => hle
  | deleted d o e db he _ _ => rcases he with rfl | rfl <;> cases hk
  | idle _ _ _ _ _ _ _ => exact h
  | paying _ _ _ _ _ _ _ _ _ => exact h
  | payingFailed _ _ _ _ _ _ _ => exact h
  | deleteRefused _ _ _ _ _ => exact h
  | markFailed _ _ _ _ => exact h
  | stockSeeded _ _ _ => exact h
  | seedFailed _ _ => exact h
  | _ => cases hk

/-! ## Between the read and the write -/

/-- The calls of an update of a ticket type. -/
inductive UpdateCall : Ask → Prop where
  | updateTicketType (t : TicketTypeId) (dto : UpdateTicketTypeDto) (u : UserId) (role : Role) :
      UpdateCall (.updateTicketType t dto u role)
  | checkOwnership (existing : TicketType) (dto : UpdateTicketTypeDto) (u : UserId) (role : Role) :
      UpdateCall (.checkOwnership existing dto u role)
  | checkDuplicate (existing : TicketType) (dto : UpdateTicketTypeDto) (role : Role) :
      UpdateCall (.checkDuplicate existing dto role)
  | writeTicketType (existing : TicketType) (dto : UpdateTicketTypeDto) :
      UpdateCall (.writeTicketType existing dto)
  | seedStock (row : TicketType) : UpdateCall (.seedStock row)
  | setSoldOut (row : TicketType) : UpdateCall (.setSoldOut row)

/-- The calls of an update. -/
theorem updateCall_of_kind {d : Ask} (hk : Ask.kind d = .updateTicketType) : UpdateCall d := by
  cases d with
  | updateTicketType t dto u role => exact .updateTicketType t dto u role
  | checkOwnership existing dto u role => exact .checkOwnership existing dto u role
  | checkDuplicate existing dto role => exact .checkDuplicate existing dto role
  | writeTicketType existing dto => exact .writeTicketType existing dto
  | seedStock row => exact .seedStock row
  | setSoldOut row => exact .setSoldOut row
  | createPaymentUrl caller o u => cases caller <;> cases hk
  | callGateway caller o amount existing => cases caller <;> cases hk
  | savePaymentUrl caller o amount existing url => cases caller <;> cases hk
  | _ => cases hk

/-- A call of an update that fails writes nothing. -/
theorem fails_unchanged {ch : Choice} {w w' : World} {d : Ask} {prog : Op} (hf : ch.fails = true)
    (hk : Ask.kind d = .updateTicketType) (hd : dispatch ch w d = some (w', prog)) : w' = w := by
  cases updateCall_of_kind hk with
  | writeTicketType existing dto =>
      simp only [dispatch, TicketServices.writeTicketType, hf, if_pos] at hd
      cases hd
      rfl
  | seedStock row =>
      simp only [dispatch, TicketServices.seedStock, hf, if_pos] at hd
      cases hd
      rfl
  | setSoldOut row =>
      simp only [dispatch, TicketServices.setSoldOut, hf, if_pos] at hd
      cases hd
      rfl
  | updateTicketType t dto u role =>
      cases hd
      rfl
  | checkOwnership existing dto u role =>
      cases hd
      rfl
  | checkDuplicate existing dto role =>
      cases hd
      rfl

/-- The row's counters are at most those that were read. -/
def CountersRead (db : Db) (existing : TicketType) : Prop :=
  db.soldQty existing.id ≤ existing.soldQty ∧ db.reservedQty existing.id ≤ existing.reservedQty

/-- The total that is given covers the counters, given or read. -/
def TotalCovers (existing : TicketType) (dto : UpdateTicketTypeDto) : Prop :=
  ∀ total ∈ dto.totalQty,
    dto.soldQty.getD existing.soldQty + dto.reservedQty.getD existing.reservedQty ≤ total

/-- What an update of the type works with still bounds the row, and at its write the check
    of `totalQty` has passed. -/
structure AskBounded (t : TicketTypeId) (w : World) (d : Ask) : Prop where
  read : ∀ existing dto, Ask.existing d = some (existing, dto) → updating t d = true →
    CountersRead w.db existing
  check : ∀ existing dto, d = .writeTicketType existing dto → updating t d = true →
    TotalCovers existing dto

/-- A call that is not about the total is bounded. -/
theorem askBounded_of_not_updating {t : TicketTypeId} {w : World} {d : Ask}
    (h : updating t d = false) : AskBounded t w d := by
  refine ⟨fun existing dto _ hu => ?_, fun existing dto _ hu => ?_⟩
  all_goals
    rw [h] at hu
    cases hu

/-- A call that is no update's. -/
theorem updating_of_kind {t : TicketTypeId} {d : Ask} (hk : Ask.kind d ≠ .updateTicketType) :
    updating t d = false := by
  cases d with
  | checkOwnership existing dto u role => exact absurd rfl hk
  | checkDuplicate existing dto role => exact absurd rfl hk
  | writeTicketType existing dto => exact absurd rfl hk
  | _ => rfl

/-- Once the row is written there is nothing left to bound. -/
theorem bounded_afterWrite {t : TicketTypeId} {w : World} (row : TicketType) :
    (TicketServices.afterWrite row).All (AskBounded t w) fun _ => True := by
  rw [TicketServices.afterWrite]
  split
  · exact askBounded_of_not_updating rfl
  · trivial

/-- The check of `totalQty`, passed on the row that was read. -/
theorem totalCovers_of_updateChecks {existing : TicketType} {dto : UpdateTicketTypeDto} {role : Role}
    (h : TicketServices.updateChecks existing dto role = none) : TotalCovers existing dto := by
  intro total htotal
  rw [TicketServices.updateChecks] at h
  split at h
  · cases h
  · next hpass =>
    rw [Option.mem_def.mp htotal, Option.any_some, decide_eq_true_eq] at hpass
    exact Int.not_lt.mp hpass

/-- What an update has checked is bounded. -/
theorem bounded_afterDuplicate {t : TicketTypeId} {w : World} {existing : TicketType}
    {dto : UpdateTicketTypeDto} {role : Role}
    (hread : existing.id = t → dto.totalQty.isSome → CountersRead w.db existing) :
    (TicketServices.afterDuplicate existing dto role).All (AskBounded t w) fun _ => True := by
  rw [TicketServices.afterDuplicate]
  split
  · trivial
  · next hchecks =>
    refine AskBounded.mk ?_ ?_
    · rintro _ _ ⟨⟩ hu
      simp only [updating, Ask.existing, Option.any_some, Bool.and_eq_true, decide_eq_true_eq] at hu
      exact hread hu.1 hu.2
    · rintro _ _ ⟨⟩ -
      exact totalCovers_of_updateChecks hchecks

/-- What an update has read it hands on, and it writes after its check. -/
theorem update_bounded {t : TicketTypeId} {ch : Choice} {w w' : World} {d : Ask} {prog : Op}
    (hk : Ask.kind d = .updateTicketType) (hd : dispatch ch w d = some (w', prog))
    (hb : AskBounded t w d) : prog.All (AskBounded t w') fun _ => True := by
  have hreads : ∀ {prog₁ : Op}, reads ch w prog₁ = some (w', prog) →
      prog₁.All (AskBounded t w) (fun _ => True) → prog.All (AskBounded t w') fun _ => True :=
    fun h => prop_of_reads (P := fun w prog => prog.All (AskBounded t w) fun _ => True) h trivial
  cases updateCall_of_kind hk with
  -- what an update starts with is the row as it stands
  | updateTicketType t' dto u role =>
      refine hreads hd ?_
      simp only [TicketServices.updateTicketType]
      split
      · trivial
      · next existing hrow =>
        refine AskBounded.mk ?_ ?_
        · rintro _ _ ⟨⟩ -
          rw [← RowTable.lookup_key hrow] at hrow
          simp only [CountersRead, Db.soldQty, Db.reservedQty, hrow, Option.map_some,
            Option.getD_some, le_refl, and_self]
        · rintro _ _ ⟨⟩
  -- the checks hand on the row that was read, and the last one compares its total
  | checkOwnership existing dto u role =>
      have hread : existing.id = t → dto.totalQty.isSome → CountersRead w.db existing := by
        intro hid hsome
        exact hb.read existing dto rfl (by simp [updating, Ask.existing, hid, hsome])
      refine hreads hd ?_
      simp only [TicketServices.checkOwnership]
      split
      · trivial
      · split
        · trivial
        · split
          · refine AskBounded.mk ?_ ?_
            · rintro _ _ ⟨⟩ hu
              exact hb.read existing dto rfl hu
            · rintro _ _ ⟨⟩
          · exact bounded_afterDuplicate hread
  | checkDuplicate existing dto role =>
      refine hreads hd ?_
      simp only [TicketServices.checkDuplicate]
      split
      · trivial
      · refine bounded_afterDuplicate fun hid hsome => ?_
        exact hb.read existing dto rfl (by simp [updating, Ask.existing, hid, hsome])
  -- behind its write an update carries no total any more
  | writeTicketType existing dto =>
      simp only [dispatch, TicketServices.writeTicketType, Option.some.injEq] at hd
      split at hd
      · cases hd
        trivial
      split at hd
      · cases hd
        trivial
      split at hd
      · cases hd
        trivial
      · next row hrow =>
        cases hd
        split
        · exact askBounded_of_not_updating rfl
        · exact bounded_afterWrite row
  | seedStock row =>
      simp only [dispatch, TicketServices.seedStock, Option.some.injEq] at hd
      split at hd
      · cases hd
        trivial
      · cases hd
        exact bounded_afterWrite row
  | setSoldOut row =>
      simp only [dispatch, TicketServices.setSoldOut, Option.some.injEq] at hd
      split at hd
      · cases hd
        trivial
      · split at hd
        · cases hd
          trivial
        · cases hd
          trivial

/-! ### What takes nothing raises no counter -/

/-- The counters of the type have not grown. -/
def NotRaised (t : TicketTypeId) (db db' : Db) : Prop :=
  db'.soldQty t ≤ db.soldQty t ∧ db'.reservedQty t ≤ db.reservedQty t

/-- Nothing is taken. -/
theorem notRaised_of_find {t : TicketTypeId} {db db' : Db}
    (h : db'.findTicketType t = db.findTicketType t) : NotRaised t db db' := by
  rw [NotRaised, Db.soldQty, Db.soldQty, Db.reservedQty, Db.reservedQty, h]
  exact ⟨le_refl _, le_refl _⟩

/-- A write that keeps the counters of its row raises none. -/
theorem notRaised_written {t t' : TicketTypeId} {f : TicketType → TicketType} {db db' : Db}
    (h : TicketDb.writeTicketType t' f db = .ok db') (hf : ∀ r, (f r).id = r.id)
    (hkeeps : t' = t → ∀ r, (f r).soldQty = r.soldQty ∧ (f r).reservedQty = r.reservedQty) :
    NotRaised t db db' := by
  obtain ⟨hother, row, hrow, hrow'⟩ := writeTicketType_find h hf
  by_cases ht : t' = t
  · subst ht
    obtain ⟨hsold, hreserved⟩ := hkeeps rfl row
    simp only [NotRaised, Db.soldQty, Db.reservedQty, hrow, hrow', Option.map_some,
      Option.getD_some, hsold, hreserved, le_refl, and_self]
  · exact notRaised_of_find (hother t (Ne.symm ht))

/-- What is given back raises nothing. -/
theorem notRaised_lowered {t : TicketTypeId} {db db' : Db} {r : TicketTypeId → Int}
    (hr : ∀ t, 0 ≤ r t) (hm : Moves db db' 0 (-r) 0) : NotRaised t db db' := by
  have := hr t
  rw [NotRaised, hm.soldQty, hm.reservedQty]
  simp only [Pi.zero_apply, Pi.neg_apply]
  omega

/-- A step of a sale raises the counters of the types it takes only. -/
theorem notRaised_moved {t : TicketTypeId} {ch : Choice} {w w' : World} {d : Ask}
    (hm : InventoryMoved ch w w' d) (hnot : ch.fails = false → t ∉ Ask.takes d) :
    NotRaised t w.db w'.db := by
  cases hm with
  | lowered r hr hm _ => exact notRaised_lowered hr hm
  | reserved ctx o metas hf hd hdb =>
      have hm := syncInventory_moves hdb
      have hzero : metaQty metas t = 0 := by
        refine metaQty_eq_zero fun m hmem he => hnot hf ?_
        rw [hd]
        exact List.mem_map.mpr ⟨m, hmem, he⟩
      rw [NotRaised, hm.soldQty, hm.reservedQty, hzero]
      simp
  | issued order hf hd hi =>
      have hzero : qtyOf order.items t = 0 := by
        refine qtyOf_eq_zero fun i hmem he => hnot hf ?_
        unfold Ask.issues at hd
        split at hd
        all_goals cases hd
        all_goals exact List.mem_map.mpr ⟨i, hmem, he⟩
      rw [NotRaised, hi.moves.soldQty, hi.moves.reservedQty, Pi.neg_apply, hzero]
      simp

/-- Nor does an update of another type, or one that leaves the counts. -/
theorem notRaised_updated {t : TicketTypeId} {ch : Choice} {w w' : World} {d : Ask} {prog : Op}
    (hk : Ask.kind d = .updateTicketType) (hd : dispatch ch w d = some (w', prog))
    (hnot : ch.fails = false → t ∉ Ask.takes d) : NotRaised t w.db w'.db := by
  by_cases hf : ch.fails = true
  · rw [fails_unchanged hf hk hd]
    exact notRaised_of_find rfl
  have hnot := hnot (Bool.eq_false_iff.mpr hf)
  cases dispatch_asked hd with
  | typeWritten existing dto db row _ hdb _ _ =>
      refine notRaised_written hdb (fun _ => rfl) fun hid r => ?_
      -- counters given would be among what the call takes
      have hnone : ¬ (dto.soldQty.isSome ∨ dto.reservedQty.isSome) := by
        intro hgiven
        rw [Ask.takes, if_pos hgiven, List.mem_singleton] at hnot
        exact hnot hid.symm
      simp only [not_or, Option.not_isSome_iff_eq_none] at hnone
      simp [updateData, hnone.1, hnone.2]
  | soldOutSet row db hdb => exact notRaised_written hdb (fun _ => rfl) fun _ _ => ⟨rfl, rfl⟩
  | deleted d o e db he _ _ => rcases he with rfl | rfl <;> cases hk
  | idle _ _ _ _ _ _ _ => exact notRaised_of_find rfl
  | paying _ _ _ _ _ _ _ _ _ => exact notRaised_of_find rfl
  | payingFailed _ _ _ _ _ _ _ => exact notRaised_of_find rfl
  | deleteRefused _ _ _ _ _ => exact notRaised_of_find rfl
  | markFailed _ _ _ _ => exact notRaised_of_find rfl
  | stockSeeded _ _ _ => exact notRaised_of_find rfl
  | seedFailed _ _ => exact notRaised_of_find rfl
  | _ => cases hk

/-- What was read bounds the counters as long as they are not raised. -/
theorem AskBounded.notRaised {t : TicketTypeId} {w w' : World} {d : Ask} (h : AskBounded t w d)
    (hr : NotRaised t w.db w'.db) : AskBounded t w' d := by
  refine ⟨fun existing dto he hu => ?_, h.check⟩
  obtain ⟨hsold, hreserved⟩ := h.read existing dto he hu
  have hid : existing.id = t := by
    simp only [updating, he, Option.any_some, Bool.and_eq_true, decide_eq_true_eq] at hu
    exact hu.1
  subst hid
  exact ⟨hr.1.trans hsold, hr.2.trans hreserved⟩

/-! ## One step -/

/-- No update of type `t` works with less than the row counts. -/
def Bounded (t : TicketTypeId) (p : State) : Prop :=
  ∀ prog ∈ p.ops, prog.All (AskBounded t p.world) fun _ => True

/-- A started operation has read nothing. -/
theorem bounded_enter {t : TicketTypeId} {w : World} {r : Request} {prog : Op}
    (h : enter w r = some prog) : prog.All (AskBounded t w) fun _ => True := by
  rw [enter_call h]
  cases r <;> exact askBounded_of_not_updating rfl

/-- **Between its read and its write** an update stays bounded. -/
theorem bounded_step {t : TicketTypeId} {p q : State} (hp : Bounded t p)
    (h : backend.Step (updatingAlone t) p q) : Bounded t q := by
  refine h.exclusive (J := AskBounded t) (K := fun _ _ => True) hp ?_ ?_ ?_ ?_
  · intro r prog _ he
    exact bounded_enter he
  · intro ch d w' prog _ hb hg hd
    refine ⟨?_, fun d' hd' => ?_, fun _ _ => .inl trivial⟩
    · by_cases hk : Ask.kind d = .updateTicketType
      · exact update_bounded hk hd hb
      · refine (asked_kind (dispatch_asked hd)).mono (fun d' hd' => ?_) fun _ _ => trivial
        exact askBounded_of_not_updating (updating_of_kind (by rw [hd']; exact hk))
    · by_cases htake : ch.fails = false ∧ t ∈ Ask.takes d
      · by_cases hu : updating t d' = true
        · exact .inr ⟨updating t, noTask, hu, hg.1 htake.1 htake.2⟩
        · exact .inl (askBounded_of_not_updating (Bool.eq_false_iff.mpr hu))
      · have hnot : ch.fails = false → t ∉ Ask.takes d := fun hf hmem => htake ⟨hf, hmem⟩
        refine .inl (hd'.notRaised ?_)
        by_cases hk : Ask.kind d = .updateTicketType
        · exact notRaised_updated hk hd hnot
        · exact notRaised_moved (asked_inventory (dispatch_asked hd) hk) hnot
  · intro ch task w' res _ _ hperf
    obtain ⟨r, hr, hm, -⟩ := performed_inventory (perform_performed hperf)
    exact ⟨fun _ _ => trivial, fun d' hd' => .inl (hd'.notRaised (notRaised_lowered hr hm)),
      fun _ _ => .inl trivial⟩
  · exact fun ms _ => ⟨fun d' hd' => hd'.notRaised (notRaised_of_find rfl), fun _ _ => trivial⟩

/-- The write of an update that is bounded fits the row it finds. -/
theorem AskBounded.fits {t : TicketTypeId} {w : World} {existing row : TicketType}
    {dto : UpdateTicketTypeDto} (h : AskBounded t w (.writeTicketType existing dto))
    (hgiven : TotalGiven t (.writeTicketType existing dto)) (hid : existing.id = t)
    (hrow : w.db.findTicketType t = some row) : Fits dto row := by
  subst hid
  refine ⟨fun total htotal => ?_, fun hnone hsome => ?_⟩
  · have hu : updating existing.id (.writeTicketType existing dto) = true := by
      simp [updating, Ask.existing, Option.mem_def.mp htotal]
    have hcheck := h.check existing dto rfl hu total htotal
    obtain ⟨hsold, hreserved⟩ := h.read existing dto rfl hu
    simp only [Db.soldQty, Db.reservedQty, hrow, Option.map_some, Option.getD_some] at hsold hreserved
    have hs : dto.soldQty.getD row.soldQty ≤ dto.soldQty.getD existing.soldQty := by
      cases dto.soldQty with
      | none => exact hsold
      | some n => exact le_refl n
    have hr : dto.reservedQty.getD row.reservedQty ≤ dto.reservedQty.getD existing.reservedQty := by
      cases dto.reservedQty with
      | none => exact hreserved
      | some n => exact le_refl n
    omega
  · obtain ⟨hs, hr⟩ := hgiven rfl hnone
    rw [hs, hr] at hsome
    rcases hsome with hsome | hsome <;> cases hsome

/-- **One step** of the backend. -/
theorem within_step {t : TicketTypeId} {p q : State} (hp : Bounded t p) (hw : Within t p.world.db)
    (h : backend.Step (updatingAlone t) p q) : Within t q.world.db := by
  refine h.world (I := fun w => Within t w.db) hw ?_ ?_ ?_
  · intro ch d w' prog hmem hg hd
    by_cases hk : Ask.kind d = .updateTicketType
    · refine within_updated hw hk hd ?_
      rintro existing dto rfl hid row hrow
      have hbounded : AskBounded t p.world (.writeTicketType existing dto) := hp _ hmem
      exact hbounded.fits hg.2 hid hrow
    · exact within_moved hw (asked_inventory (dispatch_asked hd) hk)
  · intro ch task w' res _ _ hp
    obtain ⟨r, hr, hm, -⟩ := performed_inventory (perform_performed hp)
    have := hr t
    rw [Within] at hw ⊢
    rw [hm.soldQty, hm.reservedQty, hm.totalQty]
    simp only [Pi.zero_apply, Pi.neg_apply]
    omega
  · intro ms _
    exact hw

/-! ## A refusal -/

/-- The exceptions of the update's own checks. -/
def IsCheck : ApiError → Prop
  | .notFound _ | .forbidden _ | .conflict _ | .badRequest _ => True
  | _ => False

/-- The operation has written the row: no check is left that could refuse it. -/
def Wrote : Op → Prop
  | .ask (.seedStock _) | .ask (.setSoldOut _) | .ret (.ticketTypeUpdated _) => True
  | .ret (.error e) => ¬ IsCheck e
  | _ => False

/-- An update that fails has written nothing more. -/
theorem wrote_thrown : Wrote thrown := id

/-- Behind its write an update may still fail, but not for the row. -/
theorem wrote_afterWrite (row : TicketType) : Wrote (TicketServices.afterWrite row) := by
  rw [TicketServices.afterWrite]
  split <;> trivial

/-- What an update has written it goes on from. -/
theorem wrote_asked {ch : Choice} {w w' : World} {d : Ask} {prog : Op} (h : Wrote (.ask d))
    (hd : dispatch ch w d = some (w', prog)) : Wrote prog := by
  cases d with
  | seedStock row =>
      simp only [dispatch, TicketServices.seedStock, Option.some.injEq] at hd
      split at hd
      · cases hd
        exact wrote_thrown
      · cases hd
        exact wrote_afterWrite row
  | setSoldOut row =>
      simp only [dispatch, TicketServices.setSoldOut, Option.some.injEq] at hd
      split at hd
      · cases hd
        exact wrote_thrown
      · split at hd
        · next e he =>
          cases hd
          rw [TicketDb.writeTicketType] at he
          split at he
          · cases he
            exact id
          · split at he
            · cases he
              exact id
            · cases he
        · cases hd
          trivial
  | _ => exact h.elim

/-- A call of an update either changes nothing or has written the row. -/
theorem unchanged_or_wrote {ch : Choice} {w w' : World} {d : Ask} {prog : Op}
    (hk : Ask.kind d = .updateTicketType) (hd : dispatch ch w d = some (w', prog)) :
    w' = w ∨ Wrote prog := by
  have hreads : ∀ {prog₁ : Op}, reads ch w prog₁ = some (w', prog) → w' = w ∨ Wrote prog := by
    intro prog₁ h
    cases h
    exact .inl rfl
  cases updateCall_of_kind hk with
  | updateTicketType t dto u role => exact hreads hd
  | checkOwnership existing dto u role => exact hreads hd
  | checkDuplicate existing dto role => exact hreads hd
  | writeTicketType existing dto =>
      simp only [dispatch, TicketServices.writeTicketType, Option.some.injEq] at hd
      split at hd
      · cases hd
        exact .inl rfl
      split at hd
      · cases hd
        exact .inl rfl
      split at hd
      · cases hd
        exact .inl rfl
      · next row hrow =>
        cases hd
        right
        split
        · trivial
        · exact wrote_afterWrite row
  | seedStock row => exact .inr (wrote_asked (d := .seedStock row) trivial hd)
  | setSoldOut row => exact .inr (wrote_asked (d := .setSoldOut row) trivial hd)

/-- **A refusal.**  The steps of an update that ends with one of its own exceptions change
    nothing. -/
theorem refused_unchanged {p q r : State} {i k : Nat} {ch : Choice} {d : Ask} {e : ApiError}
    (hi : p.ops[i]? = some (.ask d)) (hk : Ask.kind d = .updateTicketType)
    (hnext : backend.next p (.step i k ch) = some q) (hrun : backend.Run Guard.any q r)
    (hend : r.ops[i]? = some (.ret (.error e))) (he : IsCheck e) : q.world = p.world := by
  obtain ⟨prog, w', prog', left, hi', hadv, rfl⟩ := advanced_of_next hnext
  rw [hi] at hi'
  cases hi'
  cases hadv with
  | asked _ _ _ hd =>
      rcases unchanged_or_wrote hk hd with hsame | hwrote
      · exact hsame
      · -- the operation would never get to a refusal
        obtain ⟨hlt, -⟩ := List.getElem?_eq_some_iff.mp hi
        have hstart : ∃ prog, (p.ops.set i prog' ++ [])[i]? = some prog ∧ Wrote prog := by
          refine ⟨prog', ?_, hwrote⟩
          rw [List.append_nil]
          exact List.getElem?_set_self hlt
        have hinv : ∃ prog, r.ops[i]? = some prog ∧ Wrote prog := by
          refine System.Run.inv (I := fun x : State => ∃ prog, x.ops[i]? = some prog ∧ Wrote prog)
            (fun x y hx hs => ?_) hrun hstart
          refine hs.shape_at hx (fun _ _ _ h => h) ?_
          intro ch d w' prog h hdec
          exact wrote_asked h hdec
        obtain ⟨prog, hr, hw⟩ := hinv
        rw [hend] at hr
        cases hr
        exact absurd he hw

/-- **Updates.**  From any state in which no update of the type is past its read, a type
    within its total stays so in every run in which nothing of it is reserved or sold
    between an update's read and its write; and an update that one of its checks refuses
    changes nothing at any of its steps. -/
theorem update_within (t : TicketTypeId) :
    (∀ p q : State, p.Nobody (updating t) noTask → backend.Run (updatingAlone t) p q →
      Within t p.world.db → Within t q.world.db) ∧
    ∀ (p q r : State) (i k : Nat) (ch : Choice) (d : Ask) (e : ApiError),
      p.ops[i]? = some (.ask d) → Ask.kind d = .updateTicketType →
      backend.next p (.step i k ch) = some q → backend.Run Guard.any q r →
      r.ops[i]? = some (.ret (.error e)) → IsCheck e → q.world = p.world := by
  refine ⟨fun p q hnobody hrun hw => ?_, fun p q r i k ch d e => ?_⟩
  · have hstart : Bounded t p := by
      intro prog hmem
      refine (Prog.all_of_not_may (hnobody prog hmem)).mono (fun d hd => ?_) fun _ _ => trivial
      exact askBounded_of_not_updating hd
    have hinv : Bounded t q ∧ Within t q.world.db := by
      refine hrun.inv (I := fun x : State => Bounded t x ∧ Within t x.world.db) ?_ ⟨hstart, hw⟩
      rintro x y ⟨hbounded, hwithin⟩ hs
      exact ⟨bounded_step hbounded hs, within_step hbounded hwithin hs⟩
    exact hinv.2
  · exact refused_unchanged

/-! ### Raising the total beside an order, and lowering it across two -/

instance (t : TicketTypeId) (db : Db) : Decidable (Within t db) :=
  inferInstanceAs (Decidable (_ ≤ _))

/-- An update tells what it writes. -/
instance (t : TicketTypeId) (d : Ask) : Decidable (TotalGiven t d) := by
  induction d using Ask.casesOn <;> delta TotalGiven <;> infer_instance

/-- A run can be checked for this, step by step. -/
instance (t : TicketTypeId) (p : State) (r : Request) : Decidable ((updatingAlone t).req p r) :=
  inferInstanceAs (Decidable True)
instance (t : TicketTypeId) (p : State) (ch : Choice) (d : Ask) :
    Decidable ((updatingAlone t).ask p ch d) :=
  inferInstanceAs (Decidable ((_ = _ → _ ∈ _ → p.OnlyBy (updating t) noTask d) ∧ TotalGiven t d))
instance (t : TicketTypeId) (p : State) (ch : Choice) (task : Task) :
    Decidable ((updatingAlone t).task p ch task) :=
  inferInstanceAs (Decidable True)
instance (t : TicketTypeId) (p : State) (ms : Nat) : Decidable ((updatingAlone t).env p ms) :=
  inferInstanceAs (Decidable True)

/-- The operation has updated a ticket type. -/
def Updated : Op → Bool
  | .ret (.ticketTypeUpdated _) => true
  | _ => false

/-- The total to come. -/
theorem one_le_three : (1 : Int) ≤ 3 := by decide

/-- The total as it is. -/
theorem one_le_one : (1 : Int) ≤ 1 := Int.le_refl 1

/-- The total is raised between an order's reservation and its inventory; another order
    is under way when the update has read its row. -/
def raiseBesideOrders : List Move :=
  .start (.createOrder (oneTicket 1) 5) :: steps 0 12
    ++ .start (.updateTicketType 1 (totalTo 3 one_le_three) 1 .organizer) :: steps 1 2
    ++ .start (.createOrder (oneTicket 1) 6) :: steps 2 3 ++ steps 1 2 ++ steps 0 6

/-- Somebody else's request is refused at its second step. -/
def foreignUpdate (prog : Op) : State := ⟨(shop [onSale 1 1 1]).world, [prog]⟩

/-- The total is raised beside two orders, and one below what is reserved is refused. -/
theorem update_within_raised :
    (∃ q, backend.Run (updatingAlone 1) (shop [onSale 1 1 1]) q ∧ q.ops.any Updated = true ∧
      Within 1 q.world.db) ∧
    ∃ q r e, backend.next (foreignUpdate
        (.ask (.updateTicketType 1 (totalTo 3 (by decide)) 2 .organizer))) (.step 0 0 {}) = some q ∧
      backend.Run Guard.any q r ∧ r.ops[0]? = some (.ret (.error (.forbidden e))) ∧
      q.world = (shop [onSale 1 1 1]).world := by
  constructor
  · obtain ⟨q, hrun, hq⟩ : ∃ q, backend.Run (updatingAlone 1) (shop [onSale 1 1 1]) q ∧
        q.ops.any Updated = true := exists_run raiseBesideOrders _ (by decide)
    exact ⟨q, hrun, hq, (update_within 1).1 _ q (by decide) hrun (by decide)⟩
  · have hnext : backend.next (foreignUpdate
        (.ask (.updateTicketType 1 (totalTo 3 (by decide)) 2 .organizer))) (.step 0 0 {})
        = some (foreignUpdate
          (.ask (.checkOwnership (onSale 1 1 1) (totalTo 3 (by decide)) 2 .organizer))) := rfl
    have hrun : backend.Run Guard.any
        (foreignUpdate (.ask (.checkOwnership (onSale 1 1 1) (totalTo 3 (by decide)) 2 .organizer)))
        (foreignUpdate (.ret (.error (.forbidden
          "You do not have permission to manage ticket types for this concert")))) :=
      System.Run.head (.step 0 0 {}) trivial rfl (System.Run.refl _)
    refine ⟨_, _, _, hnext, hrun, rfl, ?_⟩
    exact (update_within 1).2 (foreignUpdate _) _ _ 0 0 {} _ _ rfl rfl hnext hrun rfl trivial

/-- The update has read its row when two tickets are reserved; then it writes the total
    of one it has checked against that row. -/
def lowerAcrossOrders : List Move :=
  .start (.updateTicketType 1 (totalTo 1 one_le_one) 1 .organizer) :: steps 0 2
    ++ .start (.createOrder (oneTicket 1) 5) :: steps 1 18
    ++ .start (.createOrder (oneTicket 1) 6) :: steps 2 16 ++ steps 0 2

/-- The update succeeds, and two of one ticket are reserved. -/
theorem update_overcommits : Within 1 (shop [onSale 1 2 1]).world.db ∧
    ∃ q, backend.Run Guard.any (shop [onSale 1 2 1]) q ∧
      (q.ops.any Updated = true ∧ ¬ Within 1 q.world.db) :=
  ⟨by decide, exists_run lowerAcrossOrders _ (by decide)⟩

end TicketBackend
