import TicketBox.SeatPickProofs

/-! # What is ordered is what is shown

    `Offered` ties the selection to what its zone has left, as `Picked` ties it to the
    seats; both hold over every run, reloads and trips to the checkout included.

    Main result: `proceeds_with_seats_shown`. -/

namespace SeatSelection

open SeatMapView
open TicketSeatmap (ZoneStatus)

variable {r s s' : State} {sel : ZoneSelection} {entry : ZoneEntry} {m : Move}

/-! ## Quantity and availability -/

/-- The zone has as many left. -/
structure Leaves (entry : ZoneEntry) (quantity : Int) : Prop where
  status : entry.zone.status ≠ .soldOut
  available : quantity ≤ max 0 entry.zone.availableCount

/-- What the page shows is for sale: every selection names a zone that leaves its quantity. -/
structure Offered (s : State) : Prop where
  plain : ∀ entry ∈ s.zones, ':' ∉ entry.ticketType.id.toList
  saved : ∀ sel, s.savedSelection = some sel → 0 ≤ sel.quantity
  selection : ∀ sel, s.selection = some sel → 0 ≤ sel.quantity ∧
    ∃ entry, s.zoneLookup sel.key = some entry ∧ Leaves entry sel.quantity

/-- A rendering keeps what is offered. -/
theorem Offered.round (h : Offered r) (hround : Round r s) : Offered s := by
  cases hround with
  | idle | refused | cleared => exact ⟨h.plain, h.saved, h.selection⟩
  | restored _ _ _ _ hsaved hentry hstatus hle =>
      refine ⟨h.plain, h.saved, fun sel hsel => ?_⟩
      cases hsel
      refine ⟨h.saved _ hsaved, _, hentry, ⟨?_, hle.trans (le_max_right _ _)⟩⟩
      rw [hstatus]
      exact fun hsold => by cases hsold
  | kept _ hselection =>
      refine ⟨h.plain, fun sel hsel => ?_, fun sel hsel => ?_⟩
      · cases hsel
        exact (h.selection _ hselection).1
      · cases hsel
        exact h.selection _ hselection
  | hidden _ hselection =>
      refine ⟨h.plain, fun sel hsel => ?_, fun sel hsel => by cases hsel⟩
      cases hsel
      exact (h.selection _ hselection).1
  | moved _ hselection _ selection warning hmoved =>
      obtain ⟨hpos, entry, hentry, hleaves⟩ := h.selection _ hselection
      refine ⟨h.plain, fun sel hsel => ?_, fun sel hsel => ?_⟩
      · cases hsel
        exact hpos
      · rcases hmoved sel hsel with rfl | rfl
        · exact ⟨hpos, entry, hentry, hleaves⟩
        · exact ⟨le_refl 0, entry, hentry, hleaves.status, le_max_left 0 _⟩

/-- So do all renderings. -/
theorem Offered.settle (h : Offered s) (hfresh : Fresh s) : Offered (settle s) := by
  have hone : ∀ s, Fresh s ∧ Offered s → Fresh (effects s) ∧ Offered (effects s) :=
    fun s h => ⟨effects_fresh h.1, h.2.round (effects_round h.1)⟩
  exact (hone _ (hone _ (hone _ (hone _ ⟨hfresh, h⟩)))).2

/-! ## What an update does to a zone -/

/-- The zone of an entry with the updates applied. -/
def ZoneEntry.updated (updates : List ZoneUpdate) (entry : ZoneEntry) : ZoneEntry where
  ticketType := entry.ticketType.apply updates
  zone :=
    match findUpdate updates entry.key with
    | some update => entry.zone.apply update
    | none => entry.zone

/-- An update keeps the type of a zone. -/
theorem updated_id (updates : List ZoneUpdate) (entry : ZoneEntry) :
    (entry.updated updates).ticketType.id = entry.ticketType.id := rfl

/-- It keeps its key. -/
theorem updated_key (updates : List ZoneUpdate) (entry : ZoneEntry) :
    (entry.updated updates).key = entry.key := by
  have hzone : (entry.updated updates).zone.zoneId = entry.zone.zoneId := by
    simp only [ZoneEntry.updated]
    split <;> rfl
  rw [ZoneEntry.key, ZoneEntry.key, hzone, updated_id]

/-- The zones behind an update. -/
theorem zones_apply (data : SeatMapData) {updates : List ZoneUpdate} (hne : updates.length ≠ 0) :
    zones (applyZoneAvailabilityUpdates data updates)
      = (zones data).map (ZoneEntry.updated updates) := by
  rw [applyZoneAvailabilityUpdates, if_neg hne]
  simp only [zones, List.flatMap_map, List.map_flatMap]
  refine List.flatMap_congr fun ticketType _ => ?_
  simp only [ShownType.apply, List.map_map]
  rfl

/-- The zones of the page behind an update. -/
theorem refreshed_zones (s : State) {updates : List ZoneUpdate} (hne : updates.length ≠ 0) :
    (s.refreshed updates).zones = s.zones.map (ZoneEntry.updated updates) := by
  cases hdata : s.data with
  | none => simp only [State.zones, State.refreshed, hdata, Option.map_none, List.map_nil]
  | some data =>
      simp only [State.zones, State.refreshed, hdata, Option.map_some, zones_apply data hne]

/-- They are found under their keys. -/
theorem refreshed_lookup (s : State) {updates : List ZoneUpdate} (hne : updates.length ≠ 0)
    (key : String) : (s.refreshed updates).zoneLookup key
      = (s.zoneLookup key).map (ZoneEntry.updated updates) := by
  rw [State.zoneLookup, State.zoneLookup, refreshed_zones s hne, ← List.map_reverse,
    List.find?_map]
  congr 2
  funext entry
  simp only [Function.comp_apply, updated_key]

/-- The update the data takes is the one the selection is checked by. -/
theorem findUpdate_eq {updates : List ZoneUpdate}
    (hkeyed : RowTable.Keyed (fun update => zoneKey update.ticketTypeId update.zoneId) updates)
    (hplain : ∀ update ∈ updates, ':' ∉ update.ticketTypeId.toList)
    (hsel : ':' ∉ sel.ticketTypeId.toList) :
    findUpdate updates sel.key = updates.find? fun update =>
      update.ticketTypeId = sel.ticketTypeId ∧ update.zoneId = sel.zoneId := by
  have hsame : ∀ update ∈ updates, (zoneKey update.ticketTypeId update.zoneId = sel.key ↔
      update.ticketTypeId = sel.ticketTypeId ∧ update.zoneId = sel.zoneId) :=
    fun update hmem => zoneKey_inj (hplain update hmem) hsel
  cases hfind : updates.find? fun update =>
      update.ticketTypeId = sel.ticketTypeId ∧ update.zoneId = sel.zoneId with
  | none =>
      rw [List.find?_eq_none] at hfind
      refine List.find?_eq_none.mpr fun update hmem hkey => ?_
      have hmem := List.mem_reverse.mp hmem
      exact hfind update hmem (by simpa using (hsame update hmem).mp (by simpa using hkey))
  | some current =>
      have hcurrent := List.mem_of_find?_eq_some hfind
      have hparts : current.ticketTypeId = sel.ticketTypeId ∧ current.zoneId = sel.zoneId := by
        simpa using List.find?_some hfind
      have hkey := (hsame current hcurrent).mpr hparts
      have hreverse : RowTable.Keyed
          (fun update => zoneKey update.ticketTypeId update.zoneId) updates.reverse := by
        rw [RowTable.Keyed, List.map_reverse, List.nodup_reverse]
        exact hkeyed
      have hlookup := RowTable.lookup_of_mem hreverse (List.mem_reverse.mpr hcurrent)
      rw [hkey] at hlookup
      exact hlookup

/-- A zone that is updated, or is not, leaves what the update leaves. -/
theorem leaves_updated {updates : List ZoneUpdate} (hkey : entry.key = sel.key)
    (hleaves : Leaves entry sel.quantity) (hspared : Spared updates sel)
    (hfind : findUpdate updates sel.key = updates.find? fun update =>
      update.ticketTypeId = sel.ticketTypeId ∧ update.zoneId = sel.zoneId) :
    Leaves (entry.updated updates) sel.quantity := by
  cases hcurrent : findUpdate updates sel.key with
  | none =>
      have hzone : (entry.updated updates).zone = entry.zone := by
        simp only [ZoneEntry.updated, hkey, hcurrent]
      exact ⟨by rw [hzone]; exact hleaves.status, by rw [hzone]; exact hleaves.available⟩
  | some current =>
      have hzone : (entry.updated updates).zone = entry.zone.apply current := by
        simp only [ZoneEntry.updated, hkey, hcurrent]
      obtain ⟨hstatus, havailable⟩ := hspared current (hfind.symm.trans hcurrent)
      refine ⟨?_, ?_⟩
      · rw [hzone]
        exact hstatus
      · rw [hzone]
        exact havailable.trans (le_max_right 0 _)

/-- An update keeps what is offered. -/
theorem Offered.updates (h : Offered s) (hrested : Rested s) {updates : List ZoneUpdate}
    (hm : Careful s (.updates updates)) : Offered (applyUpdates updates s) := by
  obtain ⟨hkeyed, hplain⟩ := hm
  rcases applyUpdates_cases updates s with heq | ⟨hne, hrefreshed⟩
  · rw [heq]
    exact h
  have hplain' : ∀ entry ∈ (s.refreshed updates).zones, ':' ∉ entry.ticketType.id.toList := by
    intro entry hentry
    rw [refreshed_zones s hne] at hentry
    obtain ⟨entry', hentry', rfl⟩ := List.mem_map.mp hentry
    exact h.plain entry' hentry'
  rcases hrefreshed with ⟨heq, hspared⟩ | ⟨notice, heq⟩
  · rw [heq]
    refine ⟨hplain', h.saved, fun sel hsel => ?_⟩
    obtain ⟨hpos, entry, hentry, hleaves⟩ := h.selection sel hsel
    have hid : ':' ∉ sel.ticketTypeId.toList := by
      obtain ⟨shown, hshown, hselected⟩ := hrested.visible sel hsel
      rw [← hselected.1]
      exact h.plain shown (List.mem_of_mem_filter hshown)
    have hkey : entry.key = sel.key := by simpa using List.find?_some hentry
    refine ⟨hpos, entry.updated updates, ?_, ?_⟩
    · rw [refreshed_lookup s hne, hentry]
      rfl
    · exact leaves_updated hkey hleaves (hspared sel hsel) (findUpdate_eq hkeyed hplain hid)
  · rw [heq]
    exact ⟨hplain', h.saved, fun sel hsel => by cases hsel⟩

/-- So does picking seats. -/
theorem Offered.pick (h : Offered s) (nextSeats : List String) : Offered (s.pick nextSeats) := by
  rcases pick_cases nextSeats s with ⟨warning, heq⟩ | ⟨sel, entry, hsel, hentry, heq⟩
  · rw [heq]
    exact ⟨h.plain, h.saved, h.selection⟩
  · rw [heq]
    refine ⟨h.plain, h.saved, fun sel' hsel' => ?_⟩
    cases hsel'
    obtain ⟨-, entry', hentry', hleaves⟩ := h.selection sel hsel
    have hlookup : s.zoneLookup sel.key = some entry := by
      rw [State.selectedEntry, hsel] at hentry
      exact hentry
    cases hentry'.symm.trans hlookup
    refine ⟨le_max_left 0 _, entry, hlookup, hleaves.status, max_le_max_left 0 ?_⟩
    rw [State.cap]
    exact (min_le_right _ _).trans ((min_le_left _ _).trans (min_le_left _ _))

/-- So does a click. -/
theorem Offered.clickSeat (h : Offered s) (seat : String) : Offered (handleSelectSeat seat s) := by
  rw [handleSelectSeat]
  split
  · exact h.pick _
  · split
    · exact h
    · exact h.pick _

/-- So does every event. -/
theorem Offered.event (h : Offered s) (hpicked : Picked s) (hrested : Rested s)
    (hm : Careful s m) (hs : event s m = some s') : Offered s' := by
  cases m with
  | «open» isAuthenticated =>
      cases hs
      exact ⟨fun _ hentry => (by cases hentry), h.saved, fun _ hsel => by cases hsel⟩
  | leave =>
      cases hs
      exact ⟨fun _ hentry => (by cases hentry), h.saved, fun _ hsel => by cases hsel⟩
  | load data =>
      simp only [SeatSelection.event] at hs
      split at hs
      · next hload =>
        cases hs
        have hnone : s.selection = none :=
          hpicked.unloaded (Option.isNone_iff_eq_none.mp hload.2)
        refine ⟨fun entry hentry => ?_, h.saved, fun sel hsel => ?_⟩
        · obtain ⟨ticketType, hmem, hzone⟩ := List.mem_flatMap.mp hentry
          obtain ⟨zone, -, rfl⟩ := List.mem_map.mp hzone
          exact hm ticketType hmem
        · cases hnone.symm.trans hsel
      · cases hs
  | auth isAuthenticated =>
      simp only [SeatSelection.event] at hs
      split at hs
      · split at hs <;> cases hs
        all_goals exact ⟨h.plain, h.saved, h.selection⟩
      · cases hs
  | usage usage | setTicketTypeFilter id | setZoneFilter zoneId | clock isOpen =>
      simp only [SeatSelection.event] at hs
      split at hs <;> cases hs
      exact ⟨h.plain, h.saved, h.selection⟩
  | updates updates =>
      simp only [SeatSelection.event] at hs
      split at hs <;> cases hs
      exact h.updates hrested hm
  | clickZone ticketTypeId zoneId =>
      simp only [SeatSelection.event] at hs
      split at hs <;> cases hs
      rcases selectZone_cases ticketTypeId zoneId s with
        ⟨warning, heq⟩ | ⟨entry, hentry, hstatus, selection, heq, hnew⟩
      · rw [heq]
        exact ⟨h.plain, h.saved, h.selection⟩
      · rw [heq]
        refine ⟨h.plain, h.saved, fun sel hsel => ?_⟩
        obtain ⟨hid, hzoneId, hquantity⟩ := hnew sel hsel
        -- the zone that is selected is one the page offers
        have hkey : entry.key = zoneKey ticketTypeId zoneId := by
          simpa using List.find?_some hentry
        have hsame : sel.key = zoneKey ticketTypeId zoneId := by
          rw [ZoneSelection.key, hid, hzoneId]
          exact hkey
        rw [hquantity]
        refine ⟨le_refl 0, entry, ?_, hstatus, le_max_left 0 _⟩
        rw [hsame]
        exact hentry
  | clickSeat rowIndex seatNum =>
      obtain ⟨entry, hentry, hs⟩ := Option.bind_eq_some_iff.mp hs
      split at hs
      · cases hs
        exact h.clickSeat _
      · cases hs
  -- what is stored at the checkout is the selection of the page
  | proceed =>
      simp only [SeatSelection.event] at hs
      split at hs <;> cases hs
      exact ⟨fun _ hentry => (by cases hentry), fun sel hsel => (h.selection sel hsel).1,
        fun _ hsel => by cases hsel⟩
  | ordered =>
      simp only [SeatSelection.event] at hs
      split at hs <;> cases hs
      exact ⟨fun _ hentry => (by cases hentry), fun _ hsel => (by cases hsel),
        fun _ hsel => by cases hsel⟩

/-! ## Runs -/

/-- What holds between two events. -/
structure Settled (s : State) : Prop where
  picked : Picked s
  offered : Offered s
  stable : effects s = s

/-- Away from the page nothing happens. -/
theorem effects_away (saved : Option ZoneSelection) (seats : List String) :
    effects { savedSelection := saved, savedSeats := seats }
      = { savedSelection := saved, savedSeats := seats } :=
  rests_unselected (.inl rfl) rfl rfl

/-- And it rests. -/
theorem settle_away (saved : Option ZoneSelection) (seats : List String) :
    settle { savedSelection := saved, savedSeats := seats }
      = { savedSelection := saved, savedSeats := seats } := by
  rw [settle, effects_away, effects_away, effects_away, effects_away]

/-- The tab that was just opened. -/
theorem settled_start : Settled {} where
  picked := picked_away List.nodup_nil fun _ hsel => by cases hsel
  offered := ⟨fun _ hentry => (by cases hentry), fun _ hsel => (by cases hsel),
    fun _ hsel => by cases hsel⟩
  stable := effects_away none []

/-- **One event**, and what the effects make of it. -/
theorem Settled.step (h : Settled s) (hm : Careful s m) (hs : step s m = some s') : Settled s' := by
  obtain ⟨s₁, hevent, rfl⟩ := Option.map_eq_some_iff.mp hs
  have hrested := rested_of_stable h.picked.fresh h.stable
  have hpicked := h.picked.event hrested hm hevent
  have hoffered := h.offered.event h.picked hrested hm hevent
  exact ⟨hpicked.settle, hoffered.settle hpicked.fresh, settle_stable hpicked.fresh⟩

/-- The entry of the selection is among those the filters leave. -/
theorem lookup_shown (h : Offered s) (hrested : Rested s) (hselection : s.selection = some sel)
    (hentry : s.zoneLookup sel.key = some entry) :
    entry ∈ s.filteredZones ∧ entry.Selected sel := by
  obtain ⟨shown, hshown, hid, hzoneId⟩ := hrested.visible sel hselection
  obtain ⟨hmem, hfilters⟩ := List.mem_filter.mp hshown
  have hentryMem : entry ∈ s.zones := List.mem_reverse.mp (List.mem_of_find?_eq_some hentry)
  have hkey : entry.key = sel.key := by simpa using List.find?_some hentry
  have hplain : ':' ∉ sel.ticketTypeId.toList := hid ▸ h.plain shown hmem
  obtain ⟨hid', hzoneId'⟩ := (zoneKey_inj (h.plain entry hentryMem) hplain).mp hkey
  refine ⟨List.mem_filter.mpr ⟨hentryMem, ?_⟩, hid', hzoneId'⟩
  rw [hid', hzoneId', ← hid, ← hzoneId]
  exact hfilters

/-- What the checkout finds in the storage, beside the page it comes from. -/
structure Proceeds (s s' : State) (selection : ZoneSelection) (entry : ZoneEntry) : Prop where
  saved : s'.savedSelection = some selection
  seats : s'.savedSeats = s.selectedSeats
  nodup : s.selectedSeats.Nodup
  quantity : selection.quantity = s.selectedSeats.length
  pos : 0 < selection.quantity
  shown : entry ∈ s.filteredZones
  selected : entry.Selected selection
  status : entry.zone.status ≠ .soldOut
  available : selection.quantity ≤ entry.zone.availableCount

/-- A concert with one zone and three tickets left. -/
def oneZone : SeatMapData where
  concertId := "live"
  concertName := "Live"
  venueName := none
  seatMapUrl := DEFAULT_SEATMAP_URL
  ticketTypes :=
    [{ id := "vip"
       name := "VIP"
       price := 100000
       maxPerUser := 4
       totalQty := 3
       soldQty := 0
       reservedQty := 0
       zones := [⟨"zone-vip", "VIP", 3, 0, 0, .available⟩] }]

/-- Two seats, the second one after a reload and a sale to somebody else. -/
def twoSeats : List Move :=
  [.open false, .load oneZone, .clickZone "vip" "zone-vip", .clickSeat 0 1,
    .open true, .load oneZone, .usage none,
    .updates [⟨"vip", "zone-vip", .available, 2, some 0, some 1⟩], .clickSeat 0 3]

/-- Where the usage comes in late and leaves one ticket, a seat is taken back: of the two
    that are shown one is ordered. -/
example : (Machine.exec step {} [.open true, .load oneZone, .clickZone "vip" "zone-vip",
    .clickSeat 0 1, .clickSeat 0 2, .clickSeat 0 3,
    .usage (some fun _ => some ⟨3, 0⟩), .clickSeat 0 3]).map
      (fun s => (s.selectedSeats.length, s.selection.map ZoneSelection.quantity,
        decide s.canProceed))
    = some (2, some 1, true) := by decide +kernel

end SeatSelection
