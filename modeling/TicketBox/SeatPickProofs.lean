import TicketBox.SeatSelectionProofs
import TicketBox.RowTable

/-! # The seats and their number

    `Picked` ties the quantity of the selection to the seats, in the page and in the
    storage.  It holds before and after each round of effects, so that an event has to keep
    it only up to the first (`Picked.event`), from a page at rest (`Rested`). -/

namespace SeatSelection

open SeatMapView
open TicketSeatmap (ZoneStatus)

variable {r s s' : State} {sel : ZoneSelection} {entry : ZoneEntry} {m : Move}

/-! ## A page at rest -/

/-- What an event finds. -/
structure Rested (s : State) : Prop where
  saved : ∀ sel, s.selection = some sel → s.savedSelection = some sel
  visible : ∀ sel, s.selection = some sel → Visible s sel
  restored : s.data ≠ none → s.restoredSelection = true

/-- A page whose effects change nothing is at rest. -/
theorem rested_of_stable (hfresh : Fresh s) (h : effects s = s) : Rested s := by
  have hround := effects_round hfresh
  generalize effects s = s' at hround h
  cases hround with
  | idle hselection hlast hrestored =>
      refine ⟨?_, ?_, hrestored.resolve_left⟩
      · intro sel hsel
        rw [hselection] at hsel
        cases hsel
      · intro sel hsel
        rw [hselection] at hsel
        cases hsel
  | refused hpending | restored hpending =>
      have hdone := congrArg State.restoredSelection h
      rw [hpending] at hdone
      cases hdone
  | cleared _ _ hlast =>
      have hcleared := congrArg State.lastZoneKey h
      exact absurd hcleared.symm hlast
  | kept hrestored hselection _ hvisible =>
      have hsaved := congrArg State.savedSelection h
      refine ⟨?_, ?_, fun _ => hrestored⟩
      · intro sel hsel
        rw [← hsaved, ← hselection]
        exact hsel
      · intro sel hsel
        rw [hselection] at hsel
        cases hsel
        exact hvisible
  | hidden _ hselection =>
      have hdropped := congrArg State.selection h
      rw [hselection] at hdropped
      cases hdropped
  | moved _ _ hlast =>
      have hmoved := congrArg State.lastZoneKey h
      exact absurd (.inl hmoved.symm) hlast

/-! ## Quantity and seats -/

/-- The quantity is the number of the seats, unless one of the two is none. -/
def Fits (seats : List String) (sel : ZoneSelection) : Prop :=
  sel.quantity = 0 ∨ seats = [] ∨ sel.quantity = seats.length

/-- The selection is what the stored seats say, on the page and in the storage. -/
structure Picked (s : State) : Prop where
  fresh : Fresh s
  away : s.onPage = false → s.data = none ∧ s.lastZoneKey = none
  unloaded : s.data = none → s.selection = none
  seats : s.onPage = true → s.selectedSeats = s.savedSeats
  nodup : s.savedSeats.Nodup
  selection : ∀ sel, s.selection = some sel → Fits s.savedSeats sel
  saved : s.selection = none → ∀ sel, s.savedSelection = some sel → Fits s.savedSeats sel

/-- A selection needs a map. -/
theorem Picked.data_ne (h : Picked s) (hselection : s.selection = some sel) : s.data ≠ none := by
  intro hnone
  have hunselected := h.unloaded hnone
  rw [hselection] at hunselected
  cases hunselected

/-- The seats shown are the seats stored. -/
theorem Picked.saved_seats (h : Picked s) (hselection : s.selection = some sel) :
    s.selectedSeats = s.savedSeats := by
  refine h.seats ?_
  by_contra haway
  exact h.data_ne hselection (h.away (by simpa using haway)).1

/-- A rendering keeps the selection in line with the seats. -/
theorem Picked.round (h : Picked r) (hround : Round r s) : Picked s := by
  have hfresh := hround.fresh h.fresh
  cases hround with
  | idle => exact h
  | refused => exact ⟨hfresh, h.away, h.unloaded, h.seats, h.nodup, h.selection, h.saved⟩
  | restored _ hdata hselection _ hsaved =>
      refine ⟨hfresh, h.away, fun hnone => absurd hnone hdata, h.seats, h.nodup, ?_, ?_⟩
      · intro sel hsel
        cases hsel
        exact h.saved hselection _ hsaved
      · intro hnone
        cases hnone
  | cleared _ hselection =>
      refine ⟨hfresh, fun haway => ⟨(h.away haway).1, rfl⟩, h.unloaded, fun _ => rfl,
        List.nodup_nil, ?_, fun _ _ _ => .inr (.inl rfl)⟩
      exact fun _ _ => .inr (.inl rfl)
  | kept hrestored hselection =>
      have hdata := h.data_ne hselection
      refine ⟨hfresh, fun haway => absurd (h.away haway).1 hdata, fun hnone => absurd hnone hdata,
        h.seats, h.nodup, ?_, ?_⟩
      · intro sel hsel
        cases hsel
        exact h.selection _ hselection
      · intro hnone
        cases hnone
  | hidden hrestored hselection =>
      have hdata := h.data_ne hselection
      refine ⟨hfresh, fun haway => absurd (h.away haway).1 hdata, fun _ => rfl, h.seats, h.nodup,
        ?_, ?_⟩
      · intro sel hsel
        cases hsel
      · intro _ sel hsel
        cases hsel
        exact h.selection _ hselection
  | moved hrestored hselection =>
      have hdata := h.data_ne hselection
      exact ⟨hfresh, fun haway => absurd (h.away haway).1 hdata, fun hnone => absurd hnone hdata,
        fun _ => rfl, List.nodup_nil, fun _ _ => .inr (.inl rfl), fun _ _ _ => .inr (.inl rfl)⟩

/-- So do all renderings. -/
theorem Picked.settle (h : Picked s) : Picked (settle s) := by
  have hone : ∀ s, Picked s → Picked (effects s) := fun s h => h.round (effects_round h.fresh)
  exact hone _ (hone _ (hone _ (hone _ h)))

/-- What the storage has fits. -/
theorem Picked.saved_fits (h : Picked s) (hrested : Rested s) :
    ∀ sel, s.savedSelection = some sel → Fits s.savedSeats sel := by
  intro sel hsaved
  cases hselection : s.selection with
  | none => exact h.saved hselection sel hsaved
  | some sel' =>
      have heq := hrested.saved sel' hselection
      rw [hsaved] at heq
      cases heq
      exact h.selection sel hselection

/-! ## What the events do -/

/-- The data takes the updates. -/
def State.refreshed (updates : List ZoneUpdate) (s : State) : State :=
  { s with data := s.data.map fun data => applyZoneAvailabilityUpdates data updates }

/-- The updates leave the selection what it asks for. -/
def Spared (updates : List ZoneUpdate) (sel : ZoneSelection) : Prop :=
  ∀ current, updates.find? (fun update =>
      update.ticketTypeId = sel.ticketTypeId ∧ update.zoneId = sel.zoneId) = some current →
    current.status ≠ .soldOut ∧ sel.quantity ≤ current.availableCount

/-- What an update does to the page. -/
theorem applyUpdates_cases (updates : List ZoneUpdate) (s : State) :
    applyUpdates updates s = s ∨ updates.length ≠ 0 ∧
      ((applyUpdates updates s = s.refreshed updates ∧
        ∀ sel, s.selection = some sel → Spared updates sel) ∨
      ∃ notice, applyUpdates updates s =
        { s.refreshed updates with selection := none, availabilityNotice := notice }) := by
  by_cases hnone : updates.length = 0
  · exact .inl (by rw [applyUpdates, if_pos hnone])
  · refine .inr ⟨hnone, ?_⟩
    simp only [applyUpdates, if_neg hnone]
    split
    · next hselection =>
      refine .inl ⟨rfl, fun sel hsel => ?_⟩
      rw [hselection] at hsel
      cases hsel
    · next selection hselection =>
      split
      · next hfind =>
        refine .inl ⟨rfl, fun sel hsel current hcurrent => ?_⟩
        rw [hselection] at hsel
        cases hsel
        rw [hfind] at hcurrent
        cases hcurrent
      · next current hfind =>
        split
        · exact .inr ⟨_, rfl⟩
        · next hspared =>
          refine .inl ⟨rfl, fun sel hsel current' hcurrent => ?_⟩
          rw [hselection] at hsel
          cases hsel
          rw [hfind] at hcurrent
          cases hcurrent
          exact ⟨fun hsold => hspared (.inl hsold), Int.not_lt.mp fun hlt => hspared (.inr hlt)⟩

/-- What selecting a zone does. -/
theorem selectZone_cases (ticketTypeId zoneId : String) (s : State) :
    (∃ warning, selectZone ticketTypeId zoneId s = { s with limitWarning := warning }) ∨
      ∃ entry, s.zoneLookup (zoneKey ticketTypeId zoneId) = some entry ∧
        entry.zone.status ≠ .soldOut ∧ ∃ selection, selectZone ticketTypeId zoneId s =
          { s with limitWarning := none, availabilityNotice := none, selection := selection } ∧
            ∀ sel, selection = some sel → sel.ticketTypeId = entry.ticketType.id ∧
              sel.zoneId = entry.zone.zoneId ∧ sel.quantity = 0 := by
  simp only [selectZone]
  split
  · exact .inl ⟨s.limitWarning, rfl⟩
  · next ticketType zone hentry =>
    split
    · exact .inl ⟨_, rfl⟩
    · next hstatus =>
      split
      · exact .inl ⟨_, rfl⟩
      · refine .inr ⟨_, hentry, hstatus, ?_⟩
        split
        · exact ⟨none, rfl, fun sel hsel => by cases hsel⟩
        · refine ⟨_, rfl, fun sel hsel => ?_⟩
          cases hsel
          exact ⟨rfl, rfl, rfl⟩

/-- A seat is only taken back while no more are left than the customer may have, no update
    comes twice for a zone, and no id of a ticket type has a colon. -/
def Careful (s : State) : Move → Prop
  | .load data => ∀ ticketType ∈ data.ticketTypes, ':' ∉ ticketType.id.toList
  | .updates updates =>
      RowTable.Keyed (fun update => zoneKey update.ticketTypeId update.zoneId) updates ∧
        ∀ update ∈ updates, ':' ∉ update.ticketTypeId.toList
  | .clickSeat rowIndex seatNum => seatName rowIndex seatNum ∈ s.selectedSeats →
      s.selectedSeats.length ≤ s.maxQuantityForSelection + 1
  | _ => True

/-- A run can be checked for a careful customer. -/
instance (s : State) (m : Move) : Decidable (Careful s m) :=
  match m with
  | .load data =>
      inferInstanceAs (Decidable (∀ ticketType ∈ data.ticketTypes, ':' ∉ ticketType.id.toList))
  | .updates updates =>
      inferInstanceAs (Decidable (RowTable.Keyed
        (fun update : ZoneUpdate => zoneKey update.ticketTypeId update.zoneId) updates ∧
          ∀ update ∈ updates, ':' ∉ update.ticketTypeId.toList))
  | .clickSeat rowIndex seatNum =>
      inferInstanceAs (Decidable (seatName rowIndex seatNum ∈ s.selectedSeats →
        (s.selectedSeats.length : Int) ≤ s.maxQuantityForSelection + 1))
  | .open _ | .leave | .auth _ | .usage _ | .setTicketTypeFilter _ | .setZoneFilter _
  | .clickZone .. | .clock _ | .proceed | .ordered => inferInstanceAs (Decidable True)

/-- A zone needs a map. -/
theorem zones_ne_nil (h : entry ∈ s.filteredZones) : s.data ≠ none := by
  intro hnone
  rw [State.filteredZones, State.zones, hnone] at h
  cases h

/-- The zone of the selection. -/
theorem selectedEntry_eq (h : s.selectedEntry = some entry) :
    ∃ sel, s.selection = some sel ∧ s.zoneLookup sel.key = some entry :=
  Option.bind_eq_some_iff.mp h

/-- Its largest quantity. -/
theorem maxQuantity_eq (h : s.selectedEntry = some entry) :
    s.maxQuantityForSelection = s.cap entry := by
  rw [State.maxQuantityForSelection, h]
  rfl

/-- As many seats are picked as the customer may have. -/
theorem pick_eq {nextSeats : List String} (hsel : s.selection = some sel)
    (hentry : s.selectedEntry = some entry) (hpos : nextSeats ≠ [])
    (hle : nextSeats.length ≤ s.cap entry) :
    s.pick nextSeats =
      { s with
        selectedSeats := nextSeats
        savedSeats := nextSeats
        limitWarning := none
        selection := some { sel with quantity := nextSeats.length } } := by
  have hlength : (0 : Int) < nextSeats.length := by
    exact_mod_cast List.length_pos_of_ne_nil hpos
  rw [State.pick, setQuantity_eq hsel hentry hlength hle]

/-- What picking can do, whatever the number. -/
theorem pick_cases (nextSeats : List String) (s : State) :
    (∃ warning, s.pick nextSeats =
      { s with selectedSeats := nextSeats, savedSeats := nextSeats, limitWarning := warning }) ∨
      ∃ sel entry, s.selection = some sel ∧ s.selectedEntry = some entry ∧
        s.pick nextSeats =
          { s with
            selectedSeats := nextSeats
            savedSeats := nextSeats
            limitWarning := none
            selection := some
              { sel with quantity := max 0 (min (nextSeats.length : Int) (s.cap entry)) } } :=
  setQuantity_cases s nextSeats.length
    { s with selectedSeats := nextSeats, savedSeats := nextSeats }

/-- Picking no more seats than there are. -/
theorem Picked.pick (h : Picked s) {nextSeats : List String} (hnodup : nextSeats.Nodup)
    (hentry : s.selectedEntry = some entry) (hle : nextSeats.length ≤ s.cap entry) :
    Picked (s.pick nextSeats) := by
  obtain ⟨sel, hsel, -⟩ := selectedEntry_eq hentry
  have hdata := h.data_ne hsel
  have hfresh : s.restoredSelection = true := by
    by_contra hpending
    have hnone := (h.fresh (by simpa using hpending)).1
    rw [hsel] at hnone
    cases hnone
  by_cases hnil : nextSeats = []
  · subst hnil
    rcases pick_cases [] s with ⟨warning, hpick⟩ | ⟨sel', entry', -, -, hpick⟩
    all_goals
      rw [hpick]
      exact ⟨fresh_of_restored hfresh, fun haway => absurd (h.away haway).1 hdata,
        fun hnone => absurd hnone hdata, fun _ => rfl, List.nodup_nil,
        fun _ _ => .inr (.inl rfl), fun _ _ _ => .inr (.inl rfl)⟩
  · rw [pick_eq hsel hentry hnil hle]
    refine ⟨fresh_of_restored hfresh, fun haway => absurd (h.away haway).1 hdata,
      fun hnone => absurd hnone hdata, fun _ => rfl, hnodup, ?_, ?_⟩
    · intro sel' hsel'
      cases hsel'
      exact .inr (.inr rfl)
    · intro hnone
      cases hnone

/-- A click picks at most one more. -/
theorem Picked.clickSeat (h : Picked s) {seat : String} (hentry : s.selectedEntry = some entry)
    (hback : seat ∈ s.selectedSeats → s.selectedSeats.length ≤ s.maxQuantityForSelection + 1) :
    Picked (handleSelectSeat seat s) := by
  obtain ⟨sel, hsel, -⟩ := selectedEntry_eq hentry
  have hseats := h.saved_seats hsel
  have hnodup : s.selectedSeats.Nodup := hseats ▸ h.nodup
  rw [maxQuantity_eq hentry] at hback
  rw [handleSelectSeat, maxQuantity_eq hentry]
  by_cases hmem : seat ∈ s.selectedSeats
  · rw [if_pos hmem]
    refine h.pick (hnodup.filter _) hentry ?_
    have hfewer : (s.selectedSeats.filter fun x => x ≠ seat).length < s.selectedSeats.length :=
      List.length_filter_lt_length_iff_exists.mpr ⟨seat, hmem, by simp⟩
    have hle := hback hmem
    omega
  · rw [if_neg hmem]
    by_cases hfull : s.cap entry ≤ s.selectedSeats.length
    · rw [if_pos hfull]
      exact h
    · rw [if_neg hfull]
      refine h.pick ?_ hentry ?_
      · exact List.nodup_append.mpr ⟨hnodup, by simp, by
          rintro x hx y hy rfl
          exact hmem (List.mem_singleton.mp hy ▸ hx)⟩
      · rw [List.length_append, List.length_singleton]
        push_cast
        omega

/-- A tab without the page. -/
theorem picked_away {saved : Option ZoneSelection} {seats : List String} (hnodup : seats.Nodup)
    (hsaved : ∀ sel, saved = some sel → Fits seats sel) :
    Picked { savedSelection := saved, savedSeats := seats } where
  fresh _ := ⟨rfl, rfl⟩
  away _ := ⟨rfl, rfl⟩
  unloaded _ := rfl
  seats honPage := by cases honPage
  nodup := hnodup
  selection _ hsel := by cases hsel
  saved _ := hsaved

/-- Every event keeps the selection in line with the seats. -/
theorem Picked.event (h : Picked s) (hrested : Rested s) (hm : Careful s m)
    (hs : event s m = some s') : Picked s' := by
  cases m with
  | «open» isAuthenticated =>
      cases hs
      exact ⟨fun _ => ⟨rfl, rfl⟩, fun haway => (by cases haway), fun _ => rfl, fun _ => rfl,
        h.nodup, fun _ hsel => (by cases hsel), fun _ => h.saved_fits hrested⟩
  | leave =>
      cases hs
      exact picked_away h.nodup (h.saved_fits hrested)
  | load data =>
      simp only [SeatSelection.event] at hs
      split at hs
      · next hload =>
        cases hs
        have hnone : s.selection = none := h.unloaded (Option.isNone_iff_eq_none.mp hload.2)
        refine ⟨h.fresh, fun haway => ?_, fun _ => hnone, h.seats, h.nodup, h.selection, h.saved⟩
        rw [show s.onPage = false from haway] at hload
        cases hload.1
      · cases hs
  | auth isAuthenticated =>
      simp only [SeatSelection.event] at hs
      split at hs
      · split at hs <;> cases hs
        all_goals exact ⟨h.fresh, h.away, h.unloaded, h.seats, h.nodup, h.selection, h.saved⟩
      · cases hs
  | usage usage | setTicketTypeFilter id | setZoneFilter zoneId | clock isOpen =>
      simp only [SeatSelection.event] at hs
      split at hs <;> cases hs
      exact ⟨h.fresh, h.away, h.unloaded, h.seats, h.nodup, h.selection, h.saved⟩
  | updates updates =>
      simp only [SeatSelection.event] at hs
      split at hs
      · next hloaded =>
        cases hs
        have honPage : s.onPage ≠ false := by simp [hloaded.1]
        rcases applyUpdates_cases updates s with heq | ⟨-, ⟨heq, -⟩ | ⟨notice, heq⟩⟩
        -- an empty batch changes nothing
        · rw [heq]
          exact h
        · rw [heq]
          refine ⟨h.fresh, fun haway => absurd haway honPage, fun hnone => ?_, h.seats, h.nodup,
            h.selection, h.saved⟩
          exact h.unloaded (Option.map_eq_none_iff.mp hnone)
        · rw [heq]
          exact ⟨fun hpending => ⟨rfl, (h.fresh hpending).2⟩, fun haway => absurd haway honPage,
            fun _ => rfl, h.seats, h.nodup, fun _ hsel => (by cases hsel),
            fun _ => h.saved_fits hrested⟩
      · cases hs
  -- a zone that is selected anew starts with no ticket
  | clickZone ticketTypeId zoneId =>
      simp only [SeatSelection.event] at hs
      split at hs
      · next hoffered =>
        cases hs
        obtain ⟨entry, hentry, -⟩ := hoffered
        have hdata := zones_ne_nil hentry
        have hrestored := hrested.restored hdata
        rcases selectZone_cases ticketTypeId zoneId s with
          ⟨warning, heq⟩ | ⟨entry, -, -, selection, heq, hnew⟩
        · rw [heq]
          exact ⟨h.fresh, h.away, h.unloaded, h.seats, h.nodup, h.selection, h.saved⟩
        · rw [heq]
          refine ⟨fresh_of_restored hrestored, fun haway => absurd (h.away haway).1 hdata,
            fun hnone => absurd hnone hdata, h.seats, h.nodup, ?_, fun _ => h.saved_fits hrested⟩
          exact fun sel hsel => .inl (hnew sel hsel).2.2
      · cases hs
  | clickSeat rowIndex seatNum =>
      obtain ⟨entry, hentry, hs⟩ := Option.bind_eq_some_iff.mp hs
      split at hs
      · cases hs
        exact h.clickSeat hentry hm
      · cases hs
  -- the page goes, and its selection is what is stored
  | proceed =>
      simp only [SeatSelection.event] at hs
      split at hs
      · cases hs
        exact picked_away h.nodup h.selection
      · cases hs
  | ordered =>
      simp only [SeatSelection.event] at hs
      split at hs
      · cases hs
      · cases hs
        exact picked_away List.nodup_nil fun _ hsel => by cases hsel

end SeatSelection
