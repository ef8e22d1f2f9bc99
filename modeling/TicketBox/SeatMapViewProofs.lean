import TicketBox.SeatMapView
import Mathlib.Algebra.BigOperators.Group.List.Lemmas
import Mathlib.Algebra.Order.BigOperators.Group.List
import Mathlib.Tactic.Linarith

/-! # What the seat map shows

    The site classifies a zone by a rule of its own, shows the count of a ticket type
    at each of its zones, and joins live updates by a key that the backend makes of
    the ticket type alone.  For each of the three the inputs on which the map agrees
    with the ticket types are given exactly. -/

namespace SeatMapView

open TicketStore (TicketTypeId TicketType)
open TicketSeatmap (ZoneStatus ZoneUpdatePayload available statusOf computeZoneAvailability payload)

/-! ## One ticket type, two classifications -/

/-- What is shown of a row. -/
theorem shownCount_rowInput (text : TicketTypeId → String) (withQty : Bool) (row : TicketType) :
    (rowInput text withQty row).shownCount
      = if withQty then available row else max 0 (available row) := by
  cases withQty <;> rfl

/-- What is shown as reserved. -/
theorem reservedQty_rowInput (text : TicketTypeId → String) (withQty : Bool) (row : TicketType) :
    (rowInput text withQty row).reservedQty = row.reservedQty := by
  cases withQty <;> rfl

/-- The two rules differ on a type that is partly reserved and has more tickets left. -/
theorem deriveZoneStatus_eq_iff (text : TicketTypeId → String) (withQty : Bool) (row : TicketType) :
    deriveZoneStatus (rowInput text withQty row).shownCount row.reservedQty = statusOf row ↔
      ¬ (0 < row.reservedQty ∧ row.reservedQty < available row) := by
  have hle : (rowInput text withQty row).shownCount ≤ 0 ↔ available row ≤ 0 := by
    rw [shownCount_rowInput]
    cases withQty <;> simp
  by_cases hnone : available row ≤ 0
  · rw [deriveZoneStatus, if_pos (hle.mpr hnone), statusOf, if_pos hnone]
    refine iff_of_true rfl ?_
    rintro ⟨hpos, hlt⟩
    omega
  · have hcount : (rowInput text withQty row).shownCount = available row := by
      rw [shownCount_rowInput]
      cases withQty
      · exact max_eq_right (by omega)
      · rfl
    rw [deriveZoneStatus, hcount, if_neg hnone, statusOf, if_neg hnone]
    by_cases hres : 0 < row.reservedQty
    · by_cases hfew : available row ≤ row.reservedQty
      · rw [if_pos ⟨hres, hfew⟩, if_pos hres]
        refine iff_of_true rfl ?_
        rintro ⟨-, hlt⟩
        omega
      · rw [if_neg fun h => hfew h.2, if_pos hres]
        exact iff_of_false (by decide) fun h => h ⟨hres, by omega⟩
    · rw [if_neg fun h => hres h.1, if_neg hres]
      exact iff_of_true rfl fun h => hres h.1

/-- What a broadcast of the backend says of its ticket type. -/
theorem payload_eq {row : TicketType} {oldStatus : Option ZoneStatus} {timestamp : String}
    {p : ZoneUpdatePayload} (h : payload row oldStatus timestamp = some p) :
    p.ticketTypeId = row.id ∧ p.zoneId = row.id ∧ p.newStatus = statusOf row ∧
      p.availableCount = max 0 (available row) := by
  unfold payload at h
  cases oldStatus with
  | none => cases h
  | some old =>
      dsimp only at h
      split at h
      · cases h
        exact ⟨rfl, rfl, rfl, rfl⟩
      · cases h

/-- **Both sides show a zone alike** exactly where the ticket type is not partly reserved
    with more tickets left than reserved, and is not oversold where the site takes the
    count of the response. -/
theorem zone_shown_alike (text : TicketTypeId → String) (withQty : Bool) (row : TicketType)
    (parsedZone : Option ParsedSvgZone) :
    ((∀ zone ∈ computeZoneAvailability row,
        (buildZone (rowInput text withQty row) parsedZone).status = zone.status ∧
        (buildZone (rowInput text withQty row) parsedZone).availableCount = zone.availableCount) ∧
      ∀ oldStatus timestamp, ∀ p ∈ payload row oldStatus timestamp,
        (buildZone (rowInput text withQty row) parsedZone).status = p.newStatus ∧
        (buildZone (rowInput text withQty row) parsedZone).availableCount = p.availableCount) ↔
    ¬ (0 < row.reservedQty ∧ row.reservedQty < available row) ∧
      (withQty = true → 0 ≤ available row) := by
  have hzone : (∀ zone ∈ computeZoneAvailability row,
        (buildZone (rowInput text withQty row) parsedZone).status = zone.status ∧
        (buildZone (rowInput text withQty row) parsedZone).availableCount = zone.availableCount) ↔
      (buildZone (rowInput text withQty row) parsedZone).status = statusOf row ∧
        (buildZone (rowInput text withQty row) parsedZone).availableCount
          = max 0 (available row) := by
    rw [computeZoneAvailability, List.forall_mem_singleton]
  have hcond : ((buildZone (rowInput text withQty row) parsedZone).status = statusOf row ∧
        (buildZone (rowInput text withQty row) parsedZone).availableCount
          = max 0 (available row)) ↔
      ¬ (0 < row.reservedQty ∧ row.reservedQty < available row) ∧
        (withQty = true → 0 ≤ available row) := by
    show deriveZoneStatus (rowInput text withQty row).shownCount
      (rowInput text withQty row).reservedQty = statusOf row ∧
      (rowInput text withQty row).shownCount = max 0 (available row) ↔ _
    rw [reservedQty_rowInput, deriveZoneStatus_eq_iff, shownCount_rowInput]
    refine and_congr_right fun _ => ?_
    cases withQty <;> simp
  rw [hzone, hcond]
  constructor
  · exact And.left
  · intro h
    refine ⟨h, fun oldStatus timestamp p hp => ?_⟩
    obtain ⟨-, -, hstatus, hcount⟩ := payload_eq hp
    rw [hstatus, hcount]
    exact hcond.mpr h

/-- A ticket type with 35 tickets sold and 20 reserved of 100. -/
def vipFloor : TicketType where
  id := 1
  concertId := 1
  name := "VIP"
  price := 500000
  totalQty := 100
  soldQty := 35
  reservedQty := 20
  maxPerUser := 4
  saleStartsAt := 0
  saleEndsAt := none
  status := .active

/-- It is available on the site and reserved for the backend. -/
theorem zone_shown_differently : ¬ ∀ zone ∈ computeZoneAvailability vipFloor,
    (buildZone (rowInput Nat.repr true vipFloor) none).status = zone.status ∧
    (buildZone (rowInput Nat.repr true vipFloor) none).availableCount = zone.availableCount := by
  decide +kernel

/-! ## The zones of a ticket type -/

section Zones

variable {toLowerCase : String → String}

/-- The SVG zones of a ticket type: those whose name normalises to that of the type. -/
def svgZonesFor (toLowerCase : String → String) (svgZones : List ParsedSvgZone)
    (ticketType : TicketTypeInput) : List ParsedSvgZone :=
  svgZones.filter fun zone =>
    normalizeName toLowerCase zone.ticketTypeName = normalizeName toLowerCase ticketType.name

/-- The grouping is a filter by name. -/
theorem foldl_pushZone (zones : List ParsedSvgZone) (grouped : String → List ParsedSvgZone)
    (name : String) : zones.foldl (pushZone toLowerCase) grouped name
      = grouped name ++ zones.filter fun zone =>
          normalizeName toLowerCase zone.ticketTypeName = name := by
  induction zones generalizing grouped with
  | nil => simp
  | cons zone zones ih =>
      rw [List.foldl_cons, ih]
      by_cases h : normalizeName toLowerCase zone.ticketTypeName = name
      · simp [pushZone, h]
      · have hne : name ≠ normalizeName toLowerCase zone.ticketTypeName := fun he => h he.symm
        simp [pushZone, h, Function.update_of_ne hne]

/-- The zones that are built, by the SVG zones of the type. -/
theorem zonesOf_eq (svgZones : List ParsedSvgZone) (ticketType : TicketTypeInput) :
    zonesOf toLowerCase svgZones ticketType =
      if svgZonesFor toLowerCase svgZones ticketType = [] then [buildZone ticketType none]
      else (svgZonesFor toLowerCase svgZones ticketType).map
        fun pz => buildZone ticketType (some pz) := by
  have hgroup : groupSvgZonesByTicketType toLowerCase svgZones
      (normalizeName toLowerCase ticketType.name) = svgZonesFor toLowerCase svgZones ticketType :=
    foldl_pushZone svgZones _ _
  rw [zonesOf, hgroup]
  by_cases h : svgZonesFor toLowerCase svgZones ticketType = []
  · rw [if_neg (by simp [h]), if_pos h]
  · rw [if_pos (List.length_pos_iff.mpr h), if_neg h]

/-- The zone ids of a type: those of its SVG zones, or one made of its own id. -/
def zoneIds (toLowerCase : String → String) (svgZones : List ParsedSvgZone)
    (ticketType : TicketTypeInput) : List String :=
  if svgZonesFor toLowerCase svgZones ticketType = [] then [zoneIdForTicketType ticketType.id]
  else (svgZonesFor toLowerCase svgZones ticketType).map ParsedSvgZone.zoneId

/-- The zones of a type, by id. -/
theorem zoneIds_eq (svgZones : List ParsedSvgZone) (ticketType : TicketTypeInput) :
    (zonesOf toLowerCase svgZones ticketType).map Zone.zoneId
      = zoneIds toLowerCase svgZones ticketType := by
  rw [zonesOf_eq, zoneIds]
  split
  · rfl
  · rw [List.map_map]
    rfl

/-- Every zone of a type is built from the type's own counters. -/
theorem mem_zonesOf {svgZones : List ParsedSvgZone} {ticketType : TicketTypeInput} {zone : Zone}
    (h : zone ∈ zonesOf toLowerCase svgZones ticketType) :
    ∃ parsedZone, zone = buildZone ticketType parsedZone := by
  rw [zonesOf_eq] at h
  split at h
  · exact ⟨none, List.mem_singleton.mp h⟩
  · obtain ⟨pz, -, rfl⟩ := List.mem_map.mp h
    exact ⟨some pz, rfl⟩

/-- The types of a map that is built. -/
theorem ticketTypes_built {svgZones : String → List ParsedSvgZone} {options : BuildSeatMapOptions}
    {data : SeatMapData} (hdata : buildSeatMapData toLowerCase svgZones options = some data) :
    data.ticketTypes
      = options.ticketTypes.map (showType toLowerCase (svgZones options.resolvedUrl)) := by
  unfold buildSeatMapData at hdata
  split at hdata
  · cases hdata
  · cases hdata
    rfl

/-! ## The total -/

/-- The tickets of a type that can still be bought. -/
def ShownType.left (ticketType : ShownType) : Int :=
  max 0 (ticketType.totalQty - ticketType.soldQty - ticketType.reservedQty)

/-- What is left of a type by its three counts. -/
def TicketTypeInput.left (ticketType : TicketTypeInput) : Int :=
  max 0 (ticketType.totalQty - ticketType.soldQty - ticketType.reservedQty)

/-- A type's count is shown once, or once for each of its SVG zones. -/
theorem availableTotal_showType {svgZones : List ParsedSvgZone} {ticketType : TicketTypeInput}
    (hqty : ticketType.availableQty = none) :
    (showType toLowerCase svgZones ticketType).availableTotal
      = (max 1 (svgZonesFor toLowerCase svgZones ticketType).length : Nat) * ticketType.left := by
  have hcount : ticketType.shownCount = ticketType.left := by
    rw [TicketTypeInput.shownCount, hqty]
    rfl
  rw [ShownType.availableTotal, showType, zonesOf_eq]
  split
  · rename_i hnil
    simp [buildZone, hcount, hnil]
  · rename_i hne
    have hpos := List.length_pos_iff.mpr hne
    rw [List.map_map, max_eq_right (by omega)]
    have hconst : (svgZonesFor toLowerCase svgZones ticketType).map
        (Zone.availableCount ∘ fun pz => buildZone ticketType (some pz))
        = (svgZonesFor toLowerCase svgZones ticketType).map fun _ => ticketType.left :=
      List.map_congr_left fun pz _ => hcount
    rw [hconst, List.map_const', List.sum_replicate, nsmul_eq_mul]

/-- **The zone counts add up** exactly where no ticket type with tickets left has two SVG
    zones or more. -/
theorem zone_counts_add_up {svgZones : String → List ParsedSvgZone} {options : BuildSeatMapOptions}
    {data : SeatMapData} (hqty : ∀ tt ∈ options.ticketTypes, tt.availableQty = none)
    (hdata : buildSeatMapData toLowerCase svgZones options = some data) :
    ((∀ tt ∈ data.ticketTypes, tt.availableTotal = tt.left) ∧
      data.availableTotal = (data.ticketTypes.map ShownType.left).sum) ↔
    ∀ tt ∈ options.ticketTypes, tt.left = 0 ∨
      (svgZonesFor toLowerCase (svgZones options.resolvedUrl) tt).length ≤ 1 := by
  have htypes := ticketTypes_built hdata
  have heach : (∀ tt ∈ data.ticketTypes, tt.availableTotal = tt.left) ↔
      ∀ tt ∈ options.ticketTypes, tt.left = 0 ∨
        (svgZonesFor toLowerCase (svgZones options.resolvedUrl) tt).length ≤ 1 := by
    rw [htypes, List.forall_mem_map]
    refine forall₂_congr fun tt htt => ?_
    rw [availableTotal_showType (hqty tt htt)]
    show _ = tt.left ↔ _
    generalize (svgZonesFor toLowerCase (svgZones options.resolvedUrl) tt).length = k
    constructor
    · intro h
      by_cases hk : k ≤ 1
      · exact .inr hk
      · rw [max_eq_right (by omega)] at h
        left
        have hmul : ((k : Int) - 1) * tt.left = 0 := by linarith
        rcases Int.mul_eq_zero.mp hmul with h1 | h0
        · omega
        · exact h0
    · rintro (h0 | hk)
      · rw [h0, mul_zero]
      · rw [max_eq_left hk]
        simp
  rw [← heach]
  constructor
  · exact And.left
  · intro h
    refine ⟨h, ?_⟩
    rw [SeatMapData.availableTotal]
    exact congrArg List.sum (List.map_congr_left h)

/-- A concert that sells `vipFloor`, shown with or without the count of the response. -/
def vipOptions (withQty : Bool) : BuildSeatMapOptions where
  concertId := "c1"
  concertName := "Đêm nhạc"
  venueName := none
  seatMapUrl := some "/seatmaps/concerts/vip.svg"
  ticketTypes := [rowInput Nat.repr withQty vipFloor]
  configUrl := none

/-- The zones of its file, by their ids. -/
def vipZones (zoneIds : List String) (_ : String) : List ParsedSvgZone :=
  zoneIds.map fun zoneId => ⟨zoneId, zoneId, "VIP"⟩

/-- One zone, and the counts add up. -/
theorem zone_counts_add_up_single : ∃ data,
    buildSeatMapData String.toLower (vipZones ["vip-floor"]) (vipOptions false) = some data ∧
      data.availableTotal = (data.ticketTypes.map ShownType.left).sum := by
  have hdata : buildSeatMapData String.toLower (vipZones ["vip-floor"]) (vipOptions false)
    = some _ := rfl
  exact ⟨_, hdata, ((zone_counts_add_up (by decide +kernel) hdata).mpr (by decide +kernel)).2⟩

/-- Two zones of one type show its 45 tickets twice. -/
theorem zone_counts_doubled : ∃ data,
    buildSeatMapData String.toLower (vipZones ["svip-left", "svip-right"]) (vipOptions false)
        = some data ∧
      ¬ ∀ tt ∈ data.ticketTypes, tt.availableTotal = tt.left :=
  ⟨_, rfl, by decide +kernel⟩

/-! ## Live updates -/

@[simp] theorem zoneKey_toList (t z : String) :
    (zoneKey t z).toList = t.toList ++ ':' :: z.toList := by
  simp [zoneKey, toString]

/-- Within a ticket type the key tells the zone. -/
theorem zoneKey_right {t z z' : String} : zoneKey t z = zoneKey t z' ↔ z = z' := by
  constructor
  · intro h
    have hlist := congrArg String.toList h
    rw [zoneKey_toList, zoneKey_toList, List.append_cancel_left_eq, List.cons.injEq] at hlist
    exact String.toList_injective hlist.2
  · rintro rfl
    rfl

/-- Where no ticket type id holds a colon the key tells the ticket type as well. -/
theorem zoneKey_inj {t t' z z' : String} (ht : ':' ∉ t.toList) (ht' : ':' ∉ t'.toList) :
    zoneKey t z = zoneKey t' z' ↔ t = t' ∧ z = z' := by
  constructor
  · intro h
    have hlist := congrArg String.toList h
    rw [zoneKey_toList, zoneKey_toList] at hlist
    have hsplit := congrArg (List.splitOn ':') hlist
    rw [List.splitOn_append_cons_self_of_not_mem ht, List.splitOn_append_cons_self_of_not_mem ht',
      List.cons.injEq] at hsplit
    have heq : t = t' := String.toList_injective hsplit.1
    subst heq
    exact ⟨rfl, zoneKey_right.mp h⟩
  · rintro ⟨rfl, rfl⟩
    rfl

/-- A zone made up for a ticket type does not have the type's id. -/
theorem zoneIdForTicketType_ne (t : String) : zoneIdForTicketType t ≠ t := by
  intro h
  have hlength := congrArg (fun s => s.toList.length) h
  simp [zoneIdForTicketType, toString] at hlength
  omega

/-- **The update reaches the map**: every zone of its ticket type shows it, the zones of the
    others are as they were, and applying it again changes nothing. -/
structure Reaches (data : SeatMapData) (update : SocketZoneStatusUpdate) : Prop where
  shown : ∀ tt ∈ (applyZoneAvailabilityUpdates data (mapSocketZoneUpdates [update])).ticketTypes,
    tt.id = update.ticketTypeId →
      ∀ zone ∈ tt.zones, zone.status = update.newStatus ∧
        zone.availableCount = update.availableCount
  others : List.Forall₂ (fun tt tt' => tt'.id = tt.id ∧
      (tt.id ≠ update.ticketTypeId → tt'.zones = tt.zones)) data.ticketTypes
    (applyZoneAvailabilityUpdates data (mapSocketZoneUpdates [update])).ticketTypes
  twice : applyZoneAvailabilityUpdates
      (applyZoneAvailabilityUpdates data (mapSocketZoneUpdates [update]))
      (mapSocketZoneUpdates [update])
    = applyZoneAvailabilityUpdates data (mapSocketZoneUpdates [update])

/-- One update is found under its key. -/
theorem findUpdate_singleton (w : ZoneUpdate) (key : String) :
    findUpdate [w] key = if zoneKey w.ticketTypeId w.zoneId = key then some w else none := by
  simp [findUpdate, List.find?_cons]
  split <;> simp_all

/-- What one update does to a zone. -/
theorem apply_zones (w : ZoneUpdate) (tt : ShownType) :
    (tt.apply [w]).zones = tt.zones.map fun zone =>
      if zoneKey w.ticketTypeId w.zoneId = zoneKey tt.id zone.zoneId then zone.apply w
      else zone := by
  rw [ShownType.apply]
  refine List.map_congr_left fun zone _ => ?_
  rw [findUpdate_singleton]
  by_cases h : zoneKey w.ticketTypeId w.zoneId = zoneKey tt.id zone.zoneId
  · simp only [if_pos h]
  · simp only [if_neg h]

/-- One update applied. -/
theorem apply_update (data : SeatMapData) (w : ZoneUpdate) :
    applyZoneAvailabilityUpdates data [w]
      = { data with ticketTypes := data.ticketTypes.map (ShownType.apply [w]) } := if_neg (by simp)

/-- An update applied twice. -/
theorem Zone.apply_apply (zone : Zone) (w : ZoneUpdate) : (zone.apply w).apply w = zone.apply w := by
  rcases w with ⟨t, z, status, count, reserved, sold⟩
  cases reserved <;> cases sold <;> rfl

/-- **An update applied twice** is applied once. -/
theorem apply_twice (data : SeatMapData) (w : ZoneUpdate) :
    applyZoneAvailabilityUpdates (applyZoneAvailabilityUpdates data [w]) [w]
      = applyZoneAvailabilityUpdates data [w] := by
  have htype : ∀ tt : ShownType, (tt.apply [w]).apply [w] = tt.apply [w] := by
    intro tt
    have hzones : ((tt.apply [w]).apply [w]).zones = (tt.apply [w]).zones := by
      rw [apply_zones, apply_zones, List.map_map]
      refine List.map_congr_left fun zone _ => ?_
      show (if zoneKey w.ticketTypeId w.zoneId = zoneKey tt.id
          (if zoneKey w.ticketTypeId w.zoneId = zoneKey tt.id zone.zoneId then zone.apply w
            else zone).zoneId then _ else _) = _
      by_cases h : zoneKey w.ticketTypeId w.zoneId = zoneKey tt.id zone.zoneId
      · have hid : (zone.apply w).zoneId = zone.zoneId := rfl
        simp only [if_pos h, hid, Zone.apply_apply]
      · simp only [if_neg h]
    show ({ tt.apply [w] with zones := ((tt.apply [w]).apply [w]).zones } : ShownType) = _
    rw [hzones]
  rw [apply_update, apply_update, List.map_map]
  congr 1
  exact List.map_congr_left fun tt _ => htype tt

/-- A zone shows the status and the count of an update. -/
def Zone.Shows (zone : Zone) (update : SocketZoneStatusUpdate) : Prop :=
  zone.status = update.newStatus ∧ zone.availableCount = update.availableCount

/-- Status and count of the zone are compared. -/
instance (zone : Zone) (update : SocketZoneStatusUpdate) : Decidable (zone.Shows update) :=
  inferInstanceAs (Decidable (_ ∧ _))

/-- An update without other counts reaches a map exactly where every zone either shows it
    already or has its key just if it belongs to its ticket type. -/
theorem reaches_iff {data : SeatMapData} {update : SocketZoneStatusUpdate}
    (hreserved : update.reservedCount = none) (hsold : update.soldCount = none) :
    Reaches data update ↔ ∀ tt ∈ data.ticketTypes, ∀ zone ∈ tt.zones, zone.Shows update ∨
      (zoneKey update.ticketTypeId update.zoneId = zoneKey tt.id zone.zoneId ↔
        tt.id = update.ticketTypeId) := by
  obtain ⟨w, hw⟩ : ∃ w, mapSocketZoneUpdates [update] = [w] := ⟨_, rfl⟩
  have hkey : zoneKey w.ticketTypeId w.zoneId = zoneKey update.ticketTypeId update.zoneId := by
    cases hw
    rfl
  have hshows : ∀ zone : Zone, (zone.apply w).Shows update := by
    intro zone
    cases hw
    exact ⟨rfl, rfl⟩
  have hsame : ∀ zone : Zone, zone.Shows update → zone.apply w = zone := by
    rintro zone ⟨hstatus, hcount⟩
    cases hw
    simp only [Zone.apply, hreserved, hsold, ← hstatus, ← hcount, Option.getD_none]
  constructor
  · rintro ⟨hshown, hothers, -⟩ tt htt zone hzone
    rw [hw, apply_update] at hshown hothers
    by_contra hno
    rw [not_or] at hno
    obtain ⟨hnot, hiff⟩ := hno
    by_cases hid : tt.id = update.ticketTypeId
    · -- a zone of the type that the key misses
      refine hnot (hshown (tt.apply [w]) (List.mem_map_of_mem htt) hid zone ?_)
      rw [apply_zones]
      refine List.mem_map.mpr ⟨zone, hzone, if_neg fun h => hiff ?_⟩
      rw [hkey] at h
      exact iff_of_true h hid
    · -- a zone of another type that the key hits
      rw [List.forall₂_map_right_iff, List.forall₂_same] at hothers
      have hzones := (hothers tt htt).2 hid
      rw [apply_zones] at hzones
      have hkeyed : zoneKey w.ticketTypeId w.zoneId = zoneKey tt.id zone.zoneId := by
        by_contra h
        rw [hkey] at h
        exact hiff (iff_of_false h hid)
      have hfix := List.map_inj_left.mp (hzones.trans (List.map_id tt.zones).symm) zone hzone
      rw [if_pos hkeyed, id_eq] at hfix
      refine hnot ?_
      rw [← hfix]
      exact hshows zone
  · intro h
    refine ⟨?_, ?_, by rw [hw]; exact apply_twice data w⟩
    · intro tt' htt' hid zone' hzone'
      rw [hw, apply_update] at htt'
      obtain ⟨tt, htt, rfl⟩ := List.mem_map.mp htt'
      rw [apply_zones] at hzone'
      obtain ⟨zone, hzone, rfl⟩ := List.mem_map.mp hzone'
      split
      · exact hshows zone
      · rename_i hkeyed
        rcases h tt htt zone hzone with hshow | hiff
        · exact hshow
        · rw [hkey] at hkeyed
          exact absurd (hiff.mpr hid) hkeyed
    · rw [hw, apply_update, List.forall₂_map_right_iff, List.forall₂_same]
      intro tt htt
      refine ⟨rfl, fun hid => ?_⟩
      rw [apply_zones]
      refine (List.map_congr_left fun zone hzone => ?_).trans (List.map_id tt.zones)
      split
      · rename_i hkeyed
        rw [hkey] at hkeyed
        rcases h tt htt zone hzone with hshow | hiff
        · exact hsame zone hshow
        · exact absurd (hiff.mp hkeyed) hid
      · rfl

/-- A zone of the type shows the update, by the type's counters. -/
def TicketTypeInput.Shows (ticketType : TicketTypeInput) (update : SocketZoneStatusUpdate) : Prop :=
  deriveZoneStatus ticketType.shownCount ticketType.reservedQty = update.newStatus ∧
    ticketType.shownCount = update.availableCount

/-- So are those of the whole type. -/
instance (ticketType : TicketTypeInput) (update : SocketZoneStatusUpdate) :
    Decidable (ticketType.Shows update) := inferInstanceAs (Decidable (_ ∧ _))

/-- **A live update reaches the map** exactly where each of its ticket types shows it
    already, or is the type of the update and has no zone id but its own, or is another type
    and no zone id of it makes the key of the update. -/
theorem update_reaches_map {svgZones : String → List ParsedSvgZone} {options : BuildSeatMapOptions}
    {data : SeatMapData} (hdata : buildSeatMapData toLowerCase svgZones options = some data)
    (text : TicketTypeId → String) {row : TicketType} {oldStatus : Option ZoneStatus}
    {timestamp : String} {p : ZoneUpdatePayload} (hp : payload row oldStatus timestamp = some p) :
    Reaches data (socketUpdate text p) ↔
      ∀ tt ∈ options.ticketTypes, tt.Shows (socketUpdate text p) ∨
        ∀ zoneId ∈ zoneIds toLowerCase (svgZones options.resolvedUrl) tt,
          if tt.id = text row.id then zoneId = text row.id
          else zoneKey tt.id zoneId ≠ zoneKey (text row.id) (text row.id) := by
  obtain ⟨htype, hzone, -, -⟩ := payload_eq hp
  have hkey : zoneKey (socketUpdate text p).ticketTypeId (socketUpdate text p).zoneId
      = zoneKey (text row.id) (text row.id) := by
    rw [← htype, socketUpdate, hzone, htype]
  have hid : (socketUpdate text p).ticketTypeId = text row.id := by
    rw [← htype]
    rfl
  rw [reaches_iff rfl rfl, ticketTypes_built hdata, List.forall_mem_map, hkey, hid]
  refine forall₂_congr fun tt _ => ?_
  have hshows : ∀ zone ∈ zonesOf toLowerCase (svgZones options.resolvedUrl) tt,
      zone.Shows (socketUpdate text p) ↔ tt.Shows (socketUpdate text p) := by
    intro zone hzone
    obtain ⟨parsedZone, rfl⟩ := mem_zonesOf hzone
    rfl
  have hkeyed : ∀ zoneId : String,
      (zoneKey (text row.id) (text row.id) = zoneKey tt.id zoneId ↔ tt.id = text row.id) ↔
        if tt.id = text row.id then zoneId = text row.id
        else zoneKey tt.id zoneId ≠ zoneKey (text row.id) (text row.id) := by
    intro zoneId
    by_cases hown : tt.id = text row.id
    · rw [if_pos hown, hown, zoneKey_right, iff_true_right rfl]
      exact eq_comm
    · rw [if_neg hown, iff_false_right hown]
      exact ne_comm
  rw [← zoneIds_eq, List.forall_mem_map]
  by_cases hshow : tt.Shows (socketUpdate text p)
  · exact iff_of_true (fun zone hzone => .inl ((hshows zone hzone).mpr hshow)) (.inl hshow)
  · rw [or_iff_right hshow]
    refine forall₂_congr fun zone hzone => ?_
    rw [← hkeyed]
    exact or_iff_right fun h => hshow ((hshows zone hzone).mp h)

/-- Where an SVG zone is missing, the zone made up for the type is not reached. -/
theorem zoneIds_own {svgZones : List ParsedSvgZone} {ticketType : TicketTypeInput}
    (h : ∀ zoneId ∈ zoneIds toLowerCase svgZones ticketType, zoneId = ticketType.id) :
    svgZonesFor toLowerCase svgZones ticketType ≠ [] := by
  intro hnil
  rw [zoneIds, if_pos hnil] at h
  exact zoneIdForTicketType_ne ticketType.id (h _ (by simp))

/-- The payload of its refresh after the first reservation. -/
def vipPayload : ZoneUpdatePayload := ⟨1, 1, .available, .reserved, 45, "2026-06-11T10:30:15Z"⟩

/-- What the server sends. -/
theorem vipPayload_eq :
    payload vipFloor (some .available) "2026-06-11T10:30:15Z" = some vipPayload := rfl

/-- An update of the type's own zone reaches the map. -/
theorem update_reaches_map_own : ∃ data,
    buildSeatMapData String.toLower (vipZones ["1"]) (vipOptions true) = some data ∧
      Reaches data (socketUpdate Nat.repr vipPayload) := by
  have hdata : buildSeatMapData String.toLower (vipZones ["1"]) (vipOptions true) = some _ := rfl
  exact ⟨_, hdata, (update_reaches_map hdata Nat.repr vipPayload_eq).mpr (by decide +kernel)⟩

/-- The zone of the file has an id of its own, which the backend does not know. -/
theorem update_misses_map : ∃ data,
    buildSeatMapData String.toLower (vipZones ["vip-floor"]) (vipOptions true) = some data ∧
      payload vipFloor (some .available) "2026-06-11T10:30:15Z" = some vipPayload ∧
      ¬ Reaches data (socketUpdate Nat.repr vipPayload) := by
  refine ⟨_, rfl, vipPayload_eq, ?_⟩
  rw [reaches_iff rfl rfl]
  decide +kernel

end Zones

end SeatMapView
