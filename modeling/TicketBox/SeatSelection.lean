import TicketBox.SeatMapView
import TicketBox.Machine

/-! # Picking seats

    `useSeatMap.ts` and `SeatMapPage.tsx`: what a customer has picked for one concert, in the
    state of the page and in the session storage of the tab.  After every event the page is
    rendered, and the effects run in the order they are declared in: each sees what was
    rendered, and its updates come on top of those before.  What they change is rendered
    again, until nothing changes (`settle`); then the next event comes. -/

namespace SeatSelection

open SeatMapView
open TicketSeatmap (ZoneStatus)

/-- `ZoneSelection`: the zone a customer has picked, with the quantity. -/
structure ZoneSelection where
  ticketTypeId : String
  zoneId : String
  ticketTypeName : String
  zoneName : String
  quantity : Int
  unitPrice : Int
  deriving DecidableEq

/-- `TicketTypeUsage`: what the customer has bought and reserved of a type. -/
structure TicketTypeUsage where
  paidQty : Int
  reservedQty : Int

/-- The customer's usage, by type. -/
abbrev TicketTypeUsageMap := String → Option TicketTypeUsage

/-- `ZoneEntry`: a zone of the map with its ticket type. -/
structure ZoneEntry where
  ticketType : ShownType
  zone : Zone
  deriving DecidableEq

/-- The key of an entry. -/
def ZoneEntry.key (entry : ZoneEntry) : String := zoneKey entry.ticketType.id entry.zone.zoneId

/-- The key of the zone that is selected. -/
def ZoneSelection.key (selection : ZoneSelection) : String :=
  zoneKey selection.ticketTypeId selection.zoneId

/-- The entry is the zone of the selection. -/
def ZoneEntry.Selected (entry : ZoneEntry) (selection : ZoneSelection) : Prop :=
  entry.ticketType.id = selection.ticketTypeId ∧ entry.zone.zoneId = selection.zoneId

/-- Both keys are compared. -/
instance (entry : ZoneEntry) (selection : ZoneSelection) : Decidable (entry.Selected selection) :=
  inferInstanceAs (Decidable (_ ∧ _))

/-- The filter that hides no type. -/
def ALL_TICKET_TYPES : String := "all"

/-- The filter that hides no zone. -/
def ALL_ZONES : String := "all"

/-! ## The page and the storage -/

/-- The seat map page, with what the tab stores for it. -/
structure State where
  /-- `zone-selection:` of the session storage -/
  savedSelection : Option ZoneSelection := none
  /-- `selected-seats:` of the session storage, where a missing item counts as no seats -/
  savedSeats : List String := []
  onPage : Bool := false
  data : Option SeatMapData := none
  isAuthenticated : Bool := false
  userTicketUsage : TicketTypeUsageMap := fun _ => none
  /-- `restoredSelectionRef` -/
  restoredSelection : Bool := false
  selection : Option ZoneSelection := none
  ticketTypeFilter : String := ALL_TICKET_TYPES
  zoneFilter : String := ALL_ZONES
  limitWarning : Option String := none
  availabilityNotice : Option String := none
  selectedSeats : List String := []
  lastZoneKey : Option String := none
  /-- `saleInfo.isOpen` -/
  saleIsOpen : Bool := true

/-- The zones of all types, in order. -/
def zones (data : SeatMapData) : List ZoneEntry :=
  data.ticketTypes.flatMap fun ticketType => ticketType.zones.map fun zone => ⟨ticketType, zone⟩

/-- The zones that the page knows. -/
def State.zones (s : State) : List ZoneEntry :=
  match s.data with
  | none => []
  | some data => SeatSelection.zones data

/-- `zoneLookup.get(key)`: of several zones with a key the last one is kept. -/
def State.zoneLookup (s : State) (key : String) : Option ZoneEntry :=
  s.zones.reverse.find? fun entry => entry.key = key

/-- The availability filter has no control on the page. -/
def State.filteredZones (s : State) : List ZoneEntry :=
  s.zones.filter fun entry =>
    (s.ticketTypeFilter = ALL_TICKET_TYPES ∨ entry.ticketType.id = s.ticketTypeFilter) ∧
      (s.zoneFilter = ALL_ZONES ∨ entry.zone.zoneId = s.zoneFilter)

/-- `remainingTicketAllowance`: what the customer may still buy of a type. -/
def remainingTicketAllowance (ticketTypeId : String) (maxPerUser : Int)
    (usage : TicketTypeUsageMap) : Int :=
  let current := usage ticketTypeId
  let used := (current.map TicketTypeUsage.paidQty).getD 0 +
    (current.map TicketTypeUsage.reservedQty).getD 0
  max 0 (maxPerUser - used)

/-- `getRemainingAllowance`: a visitor may buy all that one user may. -/
def State.getRemainingAllowance (s : State) (ticketType : ShownType) : Int :=
  if s.isAuthenticated then
    remainingTicketAllowance ticketType.id ticketType.maxPerUser s.userTicketUsage
  else ticketType.maxPerUser

/-- The most tickets of the zone. -/
def State.cap (s : State) (entry : ZoneEntry) : Int :=
  min (min entry.zone.availableCount entry.ticketType.maxPerUser)
    (s.getRemainingAllowance entry.ticketType)

/-- The zone that is selected. -/
def State.selectedEntry (s : State) : Option ZoneEntry :=
  s.selection.bind fun selection => s.zoneLookup selection.key

/-- The largest quantity of the selected zone. -/
def State.maxQuantityForSelection (s : State) : Int :=
  (s.selectedEntry.map s.cap).getD 1

/-- The key of the selection. -/
def State.selectedZoneKey (s : State) : Option String := s.selection.map ZoneSelection.key

/-! ## What the handlers do -/

/-- What a customer is told who may buy no more of a type. -/
def limitReached (ticketType : ShownType) : String :=
  s!"Bạn đã đạt giới hạn {ticketType.maxPerUser} vé {ticketType.name} cho sự kiện này"

/-- What a customer is told who wants more than one user may buy. -/
def tooMany (ticketType : ShownType) : String :=
  s!"Tối đa {ticketType.maxPerUser} vé {ticketType.name} mỗi người"

/-- `setQuantity` of the render `r`. -/
def setQuantity (r : State) (quantity : Int) (s : State) : State :=
  match r.selection, r.selectedEntry with
  | some selection, some entry =>
      let allowance := r.getRemainingAllowance entry.ticketType
      let nextQuantity := max 0 (min quantity (r.cap entry))
      if allowance ≤ 0 then { s with limitWarning := some (limitReached entry.ticketType) }
      else if allowance < nextQuantity then
        { s with
          limitWarning :=
            some s!"Bạn chỉ còn được mua thêm {allowance} vé {entry.ticketType.name}" }
      else if entry.ticketType.maxPerUser < nextQuantity then
        { s with limitWarning := some (tooMany entry.ticketType) }
      else if entry.zone.availableCount < nextQuantity then
        { s with
          limitWarning := some s!"Chỉ còn {entry.zone.availableCount} vé trong khu vực này" }
      else
        { s with
          limitWarning := none
          selection := some { selection with quantity := nextQuantity } }
  | _, _ => s

/-- `selectZone`. -/
def selectZone (ticketTypeId zoneId : String) (s : State) : State :=
  match s.zoneLookup (zoneKey ticketTypeId zoneId) with
  | none => s
  | some ⟨ticketType, zone⟩ =>
      if zone.status = .soldOut then { s with limitWarning := some "Khu vực này đã hết vé" }
      else if s.getRemainingAllowance ticketType ≤ 0 then
        { s with limitWarning := some (limitReached ticketType) }
      else
        let s := { s with limitWarning := none, availabilityNotice := none }
        if ∃ selection ∈ s.selection,
            selection.ticketTypeId = ticketTypeId ∧ selection.zoneId = zoneId then
          { s with selection := none }
        else
          { s with
            selection := some
              { ticketTypeId := ticketType.id
                zoneId := zone.zoneId
                ticketTypeName := ticketType.name
                zoneName := zone.zoneName
                quantity := 0
                unitPrice := ticketType.price } }

/-- The seats change, in the state and in the storage, and the quantity is set to their
    number. -/
def State.pick (s : State) (nextSeats : List String) : State :=
  setQuantity s nextSeats.length { s with selectedSeats := nextSeats, savedSeats := nextSeats }

/-- `handleSelectSeat`: a seat is picked, or given up. -/
def handleSelectSeat (seatName : String) (s : State) : State :=
  if seatName ∈ s.selectedSeats then s.pick (s.selectedSeats.filter fun seat => seat ≠ seatName)
  else if s.maxQuantityForSelection ≤ s.selectedSeats.length then s
  else s.pick (s.selectedSeats ++ [seatName])

/-- `applyUpdatesAndValidateSelection` -/
def applyUpdates (updates : List ZoneUpdate) (s : State) : State :=
  if updates.length = 0 then s
  else
    let s := { s with data := s.data.map fun data => applyZoneAvailabilityUpdates data updates }
    match s.selection with
    | none => s
    | some selection =>
        match updates.find? fun update =>
          update.ticketTypeId = selection.ticketTypeId ∧ update.zoneId = selection.zoneId with
        | none => s
        | some current =>
            if current.status = .soldOut ∨ current.availableCount < selection.quantity then
              { s with
                selection := none
                availabilityNotice := some
                  (if current.status = .soldOut then
                    "Khu vực này vừa hết chỗ. Vui lòng chọn khu vực khác."
                  else "Số vé còn lại đã thay đổi. Vui lòng kiểm tra lại số lượng.") }
            else s

/-! ## The effects -/

/-- The saved selection is restored, once, if its zone has as many left. -/
def restore (r s : State) : State :=
  if r.data.isNone ∨ r.restoredSelection then s
  else
    match r.savedSelection with
    | none => { s with restoredSelection := true }
    | some saved =>
        match r.zoneLookup saved.key with
        | some entry =>
            if entry.zone.status = .available ∧ saved.quantity ≤ entry.zone.availableCount then
              { s with selection := some saved, restoredSelection := true }
            else { s with restoredSelection := true }
        | none => { s with restoredSelection := true }

/-- The effect that stores the selection. -/
def save (r s : State) : State :=
  match r.selection with
  | none => s
  | some selection => { s with savedSelection := some selection }

/-- The filters leave the zone of the selection: `isStillFiltered`. -/
def Visible (s : State) (sel : ZoneSelection) : Prop :=
  ∃ entry ∈ s.filteredZones, entry.Selected sel

/-- The page looks for the zone under its filters. -/
instance (s : State) (sel : ZoneSelection) : Decidable (Visible s sel) :=
  inferInstanceAs (Decidable (∃ entry ∈ s.filteredZones, entry.Selected sel))

/-- A selection that the filters hide is dropped. -/
def dropHidden (r s : State) : State :=
  match r.selection with
  | none => s
  | some selection =>
      if Visible r selection then s
      else { s with selection := none }

/-- Another zone: the seats go, and the quantity is set to none. -/
def zoneChanged (r s : State) : State :=
  if r.selectedZoneKey = r.lastZoneKey then s
  else
    let s := { s with lastZoneKey := r.selectedZoneKey }
    if r.lastZoneKey = none then s
    else setQuantity r 0 { s with selectedSeats := [], savedSeats := [] }

/-- The effects of a rendering, in the order of the component. -/
def effects (r : State) : State := zoneChanged r (dropHidden r (save r (restore r r)))

/-- Four rounds: `settle_stable`. -/
def settle (s : State) : State := effects (effects (effects (effects s)))

/-! ## The seats of the panel -/

/-- How a seat of the layout is shown. -/
inductive SeatStatus where
  | emptySlot | sold | reserved | available
  deriving DecidableEq

/-- The seats of one row. -/
def seatsPerRow : Nat := 10

/-- `getSeatStatus`: the sold seats come first, then the reserved ones. -/
def getSeatStatus (zone : Zone) (rowIndex seatNum : Nat) : SeatStatus :=
  let totalSeats := zone.availableCount + zone.reservedCount + zone.soldCount
  let flatIndex : Int := rowIndex * seatsPerRow + (seatNum - 1)
  if totalSeats ≤ flatIndex then .emptySlot
  else if flatIndex < zone.soldCount then .sold
  else if flatIndex < zone.soldCount + zone.reservedCount then .reserved
  else .available

/-- The name of a seat: a letter for its row, and its number. -/
def seatName (rowIndex seatNum : Nat) : String := s!"{Char.ofNat (65 + rowIndex)}-{seatNum}"

/-! ## The machine -/

/-- The button of the summary bar is not disabled. -/
def State.canProceed (s : State) : Prop :=
  s.saleIsOpen = true ∧ s.selectedSeats.length ≠ 0 ∧
    ∃ selection ∈ s.selection, 0 < selection.quantity

/-- The button depends on it. -/
instance (s : State) : Decidable s.canProceed := inferInstanceAs (Decidable (_ ∧ _ ∧ _))

/-- One step of the customer or of the page. -/
inductive Move where
  /-- the page is opened, or loaded anew -/
  | open (isAuthenticated : Bool)
  | leave
  /-- the seat map has been fetched -/
  | load (data : SeatMapData)
  /-- the customer is signed in or out -/
  | auth (isAuthenticated : Bool)
  /-- `fetchUserTicketUsage` has answered, or failed -/
  | usage (usage : Option TicketTypeUsageMap)
  /-- availability of the socket, or of a poll -/
  | updates (updates : List ZoneUpdate)
  | setTicketTypeFilter (id : String)
  | setZoneFilter (zoneId : String)
  | clickZone (ticketTypeId zoneId : String)
  | clickSeat (rowIndex seatNum : Nat)
  /-- the sale window opens or closes -/
  | clock (isOpen : Bool)
  | proceed
  /-- the checkout page has its order and clears the two items -/
  | ordered

/-- A page that is mounted, with what the storage has of the seats. -/
def State.mount (s : State) (isAuthenticated : Bool) : State :=
  { savedSelection := s.savedSelection
    savedSeats := s.savedSeats
    onPage := true
    isAuthenticated := isAuthenticated
    selectedSeats := s.savedSeats }

/-- What the storage keeps of a page that is left. -/
def State.unmount (s : State) : State :=
  { savedSelection := s.savedSelection
    savedSeats := s.savedSeats }

/-- What an event does before the page is rendered. -/
def event (s : State) : Move → Option State
  | .open isAuthenticated => some (s.mount isAuthenticated)
  | .leave => some s.unmount
  | .load data =>
      if s.onPage ∧ s.data.isNone then
        some { s with
          data := some data
          ticketTypeFilter := ALL_TICKET_TYPES
          zoneFilter := ALL_ZONES }
      else none
  | .auth isAuthenticated =>
      if s.onPage then
        if isAuthenticated then some { s with isAuthenticated := true }
        else some { s with isAuthenticated := false, userTicketUsage := fun _ => none }
      else none
  | .usage usage =>
      if s.onPage ∧ s.isAuthenticated then
        some { s with userTicketUsage := usage.getD fun _ => none }
      else none
  | .updates updates =>
      if s.onPage ∧ s.data.isSome then some (applyUpdates updates s) else none
  | .setTicketTypeFilter id => if s.onPage then some { s with ticketTypeFilter := id } else none
  | .setZoneFilter zoneId => if s.onPage then some { s with zoneFilter := zoneId } else none
  | .clickZone ticketTypeId zoneId =>
      -- the map and the list of zones offer what the filters leave
      if ∃ entry ∈ s.filteredZones,
          entry.ticketType.id = ticketTypeId ∧ entry.zone.zoneId = zoneId then
        some (selectZone ticketTypeId zoneId s)
      else none
  | .clickSeat rowIndex seatNum =>
      s.selectedEntry.bind fun entry =>
        if s.saleIsOpen ∧ 1 ≤ seatNum ∧ seatNum ≤ seatsPerRow ∧
            getSeatStatus entry.zone rowIndex seatNum = .available then
          some (handleSelectSeat (seatName rowIndex seatNum) s)
        else none
  | .clock isOpen => if s.onPage then some { s with saleIsOpen := isOpen } else none
  | .proceed =>
      if s.canProceed then some { s.unmount with savedSelection := s.selection } else none
  | .ordered => if s.onPage then none else some { savedSelection := none, savedSeats := [] }

/-- One step of the page with the effects it triggers. -/
def step (s : State) (m : Move) : Option State := (event s m).map settle

end SeatSelection
