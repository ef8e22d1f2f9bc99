import TicketBox.SeatSelection
import TicketBox.SeatMapViewProofs

/-! # The effects of the seat page

    `Round` says once what one round of effects can do to a page.  Four rounds bring it to
    rest: `settle_stable`. -/

namespace SeatSelection

open SeatMapView
open TicketSeatmap (ZoneStatus)
open Machine (RestsAfter)

variable {r s : State} {sel : ZoneSelection} {entry : ZoneEntry} {quantity : Int}

/-! ## Setting the quantity -/

/-- A quantity that the customer may have is set. -/
theorem setQuantity_eq (hsel : r.selection = some sel) (hentry : r.selectedEntry = some entry)
    (hpos : 0 < quantity) (hle : quantity ≤ r.cap entry) :
    setQuantity r quantity s =
      { s with limitWarning := none, selection := some { sel with quantity := quantity } } := by
  obtain ⟨⟨havailable, hmax⟩, hallowance⟩ :
      (quantity ≤ entry.zone.availableCount ∧ quantity ≤ entry.ticketType.maxPerUser) ∧
        quantity ≤ r.getRemainingAllowance entry.ticketType := by
    rw [State.cap, le_min_iff, le_min_iff] at hle
    exact hle
  have hnext : max 0 (min quantity (r.cap entry)) = quantity := by
    rw [min_eq_left hle, max_eq_right hpos.le]
  simp only [setQuantity, hsel, hentry, hnext]
  rw [if_neg (by omega), if_neg (by omega), if_neg (by omega), if_neg (by omega)]

/-- What setting the quantity can do. -/
theorem setQuantity_cases (r : State) (quantity : Int) (s : State) :
    (∃ warning, setQuantity r quantity s = { s with limitWarning := warning }) ∨
      ∃ sel entry, r.selection = some sel ∧ r.selectedEntry = some entry ∧
        setQuantity r quantity s =
          { s with
            limitWarning := none
            selection := some { sel with quantity := max 0 (min quantity (r.cap entry)) } } := by
  cases hsel : r.selection with
  | none => exact .inl ⟨s.limitWarning, by simp only [setQuantity, hsel]⟩
  | some sel =>
      cases hentry : r.selectedEntry with
      | none => exact .inl ⟨s.limitWarning, by simp only [setQuantity, hsel, hentry]⟩
      | some entry =>
          simp only [setQuantity, hsel, hentry]
          split
          · exact .inl ⟨_, rfl⟩
          · split
            · exact .inl ⟨_, rfl⟩
            · split
              · exact .inl ⟨_, rfl⟩
              · split
                · exact .inl ⟨_, rfl⟩
                · exact .inr ⟨sel, entry, rfl, rfl, rfl⟩

/-! ## One round of effects -/

/-- A page that has not restored its selection yet has none. -/
def Fresh (s : State) : Prop :=
  s.restoredSelection = false → s.selection = none ∧ s.lastZoneKey = none

/-- What one round of effects does to the page `r`. -/
inductive Round (r : State) : State → Prop where
  | idle (hselection : r.selection = none) (hlast : r.lastZoneKey = none)
      (hrestored : r.data = none ∨ r.restoredSelection = true) : Round r r
  | refused (hpending : r.restoredSelection = false) (hdata : r.data ≠ none)
      (hselection : r.selection = none) (hlast : r.lastZoneKey = none) :
      Round r { r with restoredSelection := true }
  | restored {sel : ZoneSelection} {entry : ZoneEntry} (hpending : r.restoredSelection = false)
      (hdata : r.data ≠ none) (hselection : r.selection = none) (hlast : r.lastZoneKey = none)
      (hsaved : r.savedSelection = some sel)
      (hentry : r.zoneLookup sel.key = some entry) (hstatus : entry.zone.status = .available)
      (hle : sel.quantity ≤ entry.zone.availableCount) :
      Round r { r with selection := some sel, restoredSelection := true }
  | cleared (hrestored : r.restoredSelection = true) (hselection : r.selection = none)
      (hlast : r.lastZoneKey ≠ none) :
      Round r { r with lastZoneKey := none, selectedSeats := [], savedSeats := [] }
  | kept {sel : ZoneSelection} (hrestored : r.restoredSelection = true)
      (hselection : r.selection = some sel)
      (hlast : r.lastZoneKey = some sel.key ∨ r.lastZoneKey = none) (hvisible : Visible r sel) :
      Round r
        { r with
          savedSelection := some sel
          selection := some sel
          lastZoneKey := some sel.key }
  | hidden {sel : ZoneSelection} (hrestored : r.restoredSelection = true)
      (hselection : r.selection = some sel)
      (hlast : r.lastZoneKey = some sel.key ∨ r.lastZoneKey = none) (hhidden : ¬ Visible r sel) :
      Round r
        { r with
          savedSelection := some sel
          selection := none
          lastZoneKey := some sel.key }
  | moved {sel : ZoneSelection} (hrestored : r.restoredSelection = true)
      (hselection : r.selection = some sel)
      (hlast : ¬ (r.lastZoneKey = some sel.key ∨ r.lastZoneKey = none))
      (selection : Option ZoneSelection) (warning : Option String)
      (hmoved : ∀ sel' ∈ selection, sel' = sel ∨ sel' = { sel with quantity := 0 }) :
      Round r
        { r with
          savedSelection := some sel
          selection := selection
          lastZoneKey := some sel.key
          selectedSeats := []
          savedSeats := []
          limitWarning := warning }

theorem restore_done (h : r.data = none ∨ r.restoredSelection = true) : restore r s = s := by
  rw [restore, if_pos]
  rcases h with h | h
  · exact .inl (by rw [h]; rfl)
  · exact .inr h

theorem effects_of_none (hselection : r.selection = none) (hlast : r.lastZoneKey = none) :
    effects r = restore r r := by
  have hkey : r.selectedZoneKey = r.lastZoneKey := by
    rw [State.selectedZoneKey, hselection, hlast]
    rfl
  simp only [effects, save, dropHidden, hselection, zoneChanged, if_pos hkey]

theorem round_of_pending (hdata : r.data ≠ none) (hrestored : r.restoredSelection = false)
    (hselection : r.selection = none) (hlast : r.lastZoneKey = none) : Round r (effects r) := by
  have hpending : ¬ (r.data.isNone ∨ r.restoredSelection) := by
    rw [Option.isNone_iff_eq_none, hrestored]
    simpa using hdata
  rw [effects_of_none hselection hlast, restore, if_neg hpending]
  split
  · exact .refused hrestored hdata hselection hlast
  · next saved hsaved =>
    split
    · next entry hentry =>
      split
      · next havailable =>
        exact .restored hrestored hdata hselection hlast hsaved hentry havailable.1 havailable.2
      · exact .refused hrestored hdata hselection hlast
    · exact .refused hrestored hdata hselection hlast

theorem round_of_none (hrestored : r.data = none ∨ r.restoredSelection = true) (hfresh : Fresh r)
    (hselection : r.selection = none) : Round r (effects r) := by
  by_cases hlast : r.lastZoneKey = none
  · rw [effects_of_none hselection hlast, restore_done hrestored]
    exact .idle hselection hlast hrestored
  · have hkey : none ≠ r.lastZoneKey := fun h => hlast h.symm
    have hdone : r.restoredSelection = true := by
      by_contra hpending
      exact hlast (hfresh (Bool.not_eq_true _ ▸ hpending)).2
    have hround : effects r =
        { r with lastZoneKey := none, selectedSeats := [], savedSeats := [] } := by
      simp only [effects, restore_done hrestored, save, dropHidden, hselection, zoneChanged,
        State.selectedZoneKey, Option.map_none, if_neg hkey, if_neg hlast, setQuantity]
    rw [hround]
    exact .cleared hdone hselection hlast

theorem round_of_some (hfresh : Fresh r) (hselection : r.selection = some sel) :
    Round r (effects r) := by
  have hrestored : r.restoredSelection = true := by
    by_contra hpending
    have hnone := (hfresh (Bool.not_eq_true _ ▸ hpending)).1
    rw [hselection] at hnone
    cases hnone
  have hkey : r.selectedZoneKey = some sel.key := by
    rw [State.selectedZoneKey, hselection]
    rfl
  have hdrop : dropHidden r (save r (restore r r)) =
      { r with
        savedSelection := some sel
        selection := if Visible r sel then some sel else none } := by
    by_cases hvisible : Visible r sel
    · simp only [dropHidden, save, restore_done (.inr hrestored), hselection, if_pos hvisible]
    · simp only [dropHidden, save, restore_done (.inr hrestored), hselection, if_neg hvisible]
  rw [effects, hdrop]
  by_cases hlast : r.lastZoneKey = some sel.key ∨ r.lastZoneKey = none
  · have hchanged : zoneChanged r
          { r with
            savedSelection := some sel
            selection := if Visible r sel then some sel else none } =
        { r with
          savedSelection := some sel
          selection := if Visible r sel then some sel else none
          lastZoneKey := some sel.key } := by
      rcases hlast with hsame | hnone
      · rw [zoneChanged, if_pos (hkey.trans hsame.symm), ← hsame]
      · simp only [zoneChanged, hkey, hnone, reduceCtorEq, if_false, if_true]
    rw [hchanged]
    by_cases hvisible : Visible r sel
    · rw [if_pos hvisible]
      exact .kept hrestored hselection hlast hvisible
    · rw [if_neg hvisible]
      exact .hidden hrestored hselection hlast hvisible
  · obtain ⟨hother, hsome⟩ := not_or.mp hlast
    rw [zoneChanged, if_neg (fun h => hother (h.symm.trans hkey)), if_neg hsome, hkey]
    rcases setQuantity_cases r 0 _ with ⟨warning, hset⟩ | ⟨sel', entry, hsel', -, hset⟩
    · rw [hset]
      refine .moved hrestored hselection hlast _ warning fun sel' hsel' => ?_
      split at hsel'
      · exact .inl (Option.some.inj hsel').symm
      · cases hsel'
    · rw [hset]
      refine .moved hrestored hselection hlast _ none fun sel'' hsel'' => ?_
      cases hsel''
      rw [hselection] at hsel'
      cases hsel'
      right
      have hzero : max 0 (min 0 (r.cap entry)) = 0 := by omega
      rw [hzero]

theorem effects_round (hfresh : Fresh r) : Round r (effects r) := by
  cases hselection : r.selection with
  | some sel => exact round_of_some hfresh hselection
  | none =>
      by_cases hrestored : r.data = none ∨ r.restoredSelection = true
      · exact round_of_none hrestored hfresh hselection
      · obtain ⟨hdata, hpending⟩ := not_or.mp hrestored
        have hlast := (hfresh (by simpa using hpending)).2
        exact round_of_pending hdata (by simpa using hpending) hselection hlast

/-! ## Coming to rest -/

theorem Round.fresh (h : Round r s) (hfresh : Fresh r) : Fresh s := by
  cases h with
  | idle => exact hfresh
  | refused => exact fun h => by cases h
  | restored => exact fun h => by cases h
  | cleared hrestored | kept hrestored | hidden hrestored | moved hrestored =>
      intro hpending
      rw [show r.restoredSelection = false from hpending] at hrestored
      cases hrestored

theorem effects_fresh (hfresh : Fresh s) : Fresh (effects s) := (effects_round hfresh).fresh hfresh

theorem rests_of_round {n : Nat} (hfresh : Fresh s)
    (h : ∀ s', Round s s' → RestsAfter effects n s') : RestsAfter effects (n + 1) s :=
  (h _ (effects_round hfresh)).succ

theorem fresh_of_restored (h : s.restoredSelection = true) : Fresh s := by
  intro hpending
  rw [h] at hpending
  cases hpending

/-- Nothing is selected, and nothing was when the effects ran last. -/
theorem rests_unselected (hrestored : s.data = none ∨ s.restoredSelection = true)
    (hselection : s.selection = none) (hlast : s.lastZoneKey = none) : RestsAfter effects 0 s := by
  rw [RestsAfter, Function.iterate_zero_apply, effects_of_none hselection hlast,
    restore_done hrestored]

theorem rests_of_none (hrestored : s.restoredSelection = true) (hselection : s.selection = none) :
    RestsAfter effects 1 s := by
  refine rests_of_round (fresh_of_restored hrestored) fun s' hround => ?_
  cases hround with
  | idle _ hlast => exact rests_unselected (.inr hrestored) hselection hlast
  | cleared => exact rests_unselected (.inr hrestored) hselection rfl
  | refused hpending | restored hpending =>
      rw [hrestored] at hpending
      cases hpending
  | kept _ hsel | hidden _ hsel | moved _ hsel =>
      rw [hselection] at hsel
      cases hsel

/-- A selection that is saved and whose zone has not changed. -/
theorem rests_saved (hrestored : s.restoredSelection = true) (hselection : s.selection = some sel)
    (hlast : s.lastZoneKey = some sel.key) (hvisible : Visible s sel)
    (hsaved : s.savedSelection = some sel) : RestsAfter effects 0 s := by
  have hround := effects_round (fresh_of_restored hrestored)
  rw [RestsAfter, Function.iterate_zero_apply]
  generalize effects s = s' at hround ⊢
  cases hround with
  | idle => rfl
  | refused hpending | restored hpending =>
      rw [hrestored] at hpending
      cases hpending
  | cleared _ hsel =>
      rw [hselection] at hsel
      cases hsel
  | kept _ hsel =>
      rw [hselection] at hsel
      cases hsel
      cases s
      cases hselection
      cases hlast
      cases hsaved
      rfl
  | hidden _ hsel _ hhidden =>
      rw [hselection] at hsel
      cases hsel
      exact absurd hvisible hhidden
  | moved _ hsel hmoved =>
      rw [hselection] at hsel
      cases hsel
      exact absurd (.inl hlast) hmoved

theorem rests_unmoved (hrestored : s.restoredSelection = true) (hselection : s.selection = some sel)
    (hlast : s.lastZoneKey = some sel.key ∨ s.lastZoneKey = none) : RestsAfter effects 2 s := by
  refine rests_of_round (fresh_of_restored hrestored) fun s' hround => ?_
  cases hround with
  | idle hsel | cleared _ hsel =>
      rw [hselection] at hsel
      cases hsel
  | refused hpending | restored hpending =>
      rw [hrestored] at hpending
      cases hpending
  | kept _ hsel _ hvisible =>
      rw [hselection] at hsel
      cases hsel
      exact RestsAfter.mono (rests_saved hrestored rfl rfl hvisible rfl) (Nat.zero_le 1)
  | hidden => exact rests_of_none hrestored rfl
  | moved _ hsel hmoved =>
      rw [hselection] at hsel
      cases hsel
      exact absurd hlast hmoved

theorem rests_of_some (hrestored : s.restoredSelection = true)
    (hselection : s.selection = some sel) : RestsAfter effects 3 s := by
  by_cases hlast : s.lastZoneKey = some sel.key ∨ s.lastZoneKey = none
  · exact RestsAfter.mono (rests_unmoved hrestored hselection hlast) (by decide)
  · refine rests_of_round (fresh_of_restored hrestored) fun s' hround => ?_
    cases hround with
    | idle hsel | cleared _ hsel =>
        rw [hselection] at hsel
        cases hsel
    | refused hpending | restored hpending =>
        rw [hrestored] at hpending
        cases hpending
    | kept _ hsel hlast' | hidden _ hsel hlast' =>
        rw [hselection] at hsel
        cases hsel
        exact absurd hlast' hlast
    | moved _ hsel _ selection warning hmoved =>
        rw [hselection] at hsel
        cases hsel
        cases selection with
        | none => exact RestsAfter.mono (rests_of_none hrestored rfl) (by decide)
        | some sel' =>
            refine rests_unmoved hrestored rfl (.inl ?_)
            rcases hmoved sel' rfl with rfl | rfl
            · rfl
            · rfl

/-- **The effects come to rest**: after the rounds of `settle` nothing changes. -/
theorem settle_stable (hfresh : Fresh s) : effects (settle s) = settle s := by
  suffices hrest : RestsAfter effects 4 s from hrest
  refine rests_of_round hfresh fun s' hround => ?_
  cases hround with
  | idle hselection hlast hrestored =>
      exact RestsAfter.mono (rests_unselected hrestored hselection hlast) (by decide)
  | refused _ _ hselection =>
      exact RestsAfter.mono (rests_of_none rfl hselection) (by decide)
  | restored => exact rests_of_some rfl rfl
  | cleared hrestored hselection =>
      exact RestsAfter.mono (rests_of_none hrestored hselection) (by decide)
  | kept hrestored => exact rests_of_some hrestored rfl
  | hidden hrestored => exact RestsAfter.mono (rests_of_none hrestored rfl) (by decide)
  | moved hrestored _ _ selection =>
      cases selection with
      | none => exact RestsAfter.mono (rests_of_none hrestored rfl) (by decide)
      | some sel' => exact rests_of_some hrestored rfl

end SeatSelection
