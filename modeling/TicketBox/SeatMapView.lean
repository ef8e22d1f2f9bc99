import TicketBox.Seatmap
import TicketBox.SaleListing
import TicketBox.Pwa

/-! # The seat map of the customer site

    `seatmap-data.ts`, `seatmap-data.server.ts` and `resolveSeatMapUrl`: the map that
    is built from a concert's ticket types and the zones of its SVG file, and what a
    live update of the backend does to it.  The zones of a file are given as they are
    parsed.  `toLowerCase` stands for the built-in one, and `text` for the ids as
    they read. -/

namespace SeatMapView

open TicketStore (TicketTypeId TicketType)
open TicketSeatmap (ZoneStatus ZoneUpdatePayload)
open TicketSale (TicketTypeResponse toResponse)

/-- `ParsedSvgZone`: a zone found in the SVG. -/
structure ParsedSvgZone where
  zoneId : String
  zoneName : String
  ticketTypeName : String
  deriving DecidableEq

/-- `TicketTypeInput`: a type as the API returns it. -/
structure TicketTypeInput where
  id : String
  name : String
  price : Int
  maxPerUser : Int
  totalQty : Int
  soldQty : Int
  reservedQty : Int
  availableQty : Option Int
  deriving DecidableEq

/-- `Zone`: a zone as the map shows it. -/
structure Zone where
  zoneId : String
  zoneName : String
  availableCount : Int
  reservedCount : Int
  soldCount : Int
  status : ZoneStatus
  deriving DecidableEq

/-- `TicketType` of the site: the type with its zones. -/
structure ShownType where
  id : String
  name : String
  price : Int
  maxPerUser : Int
  totalQty : Int
  soldQty : Int
  reservedQty : Int
  zones : List Zone
  deriving DecidableEq

/-- `SeatMapData`: what the map is drawn from. -/
structure SeatMapData where
  concertId : String
  concertName : String
  venueName : Option String
  seatMapUrl : String
  ticketTypes : List ShownType
  deriving DecidableEq

/-- `BuildSeatMapOptions`: the arguments of `buildSeatMapData`. -/
structure BuildSeatMapOptions where
  concertId : String
  concertName : String
  venueName : Option String
  seatMapUrl : Option String
  ticketTypes : List TicketTypeInput
  /-- `seatmapConfig.seatMapUrl` -/
  configUrl : Option String

/-! ## Building the map -/

/-- `DEFAULT_SEATMAP_URL`. -/
def DEFAULT_SEATMAP_URL : String := "/seatmaps/concerts/theater-tiered.svg"

/-- `resolveSeatMapUrl`: the configured address goes before the backend's. -/
def resolveSeatMapUrl (backendSeatMapUrl configUrl : Option String) : String :=
  ((configUrl.filter fun url => url ≠ "").or
    (backendSeatMapUrl.filter fun url => url ≠ "")).getD DEFAULT_SEATMAP_URL

/-- The address that the map is drawn from. -/
def BuildSeatMapOptions.resolvedUrl (options : BuildSeatMapOptions) : String :=
  resolveSeatMapUrl options.seatMapUrl options.configUrl

/-- `zoneIdForTicketType`: the zone of a type that the SVG does not show. -/
def zoneIdForTicketType (ticketTypeId : String) : String := s!"zone-{ticketTypeId}"

/-- `deriveZoneStatus`. -/
def deriveZoneStatus (availableCount reservedCount : Int) : ZoneStatus :=
  if availableCount ≤ 0 then .soldOut
  else if 0 < reservedCount ∧ availableCount ≤ reservedCount then .reserved
  else .available

/-- The count a zone of the type shows. -/
def TicketTypeInput.shownCount (ticketType : TicketTypeInput) : Int :=
  ticketType.availableQty.getD
    (max 0 (ticketType.totalQty - ticketType.soldQty - ticketType.reservedQty))

/-- `buildZone`: a type as one zone of the map. -/
def buildZone (ticketType : TicketTypeInput) (parsedZone : Option ParsedSvgZone) : Zone where
  zoneId := (parsedZone.map ParsedSvgZone.zoneId).getD (zoneIdForTicketType ticketType.id)
  zoneName := (parsedZone.map ParsedSvgZone.zoneName).getD ticketType.name
  availableCount := ticketType.shownCount
  reservedCount := ticketType.reservedQty
  soldCount := ticketType.soldQty
  status := deriveZoneStatus ticketType.shownCount ticketType.reservedQty

section Build

variable (toLowerCase : String → String)

/-- `normalizeName`. -/
def normalizeName (name : String) : String :=
  toLowerCase (String.ofList (CheckinPwa.trim name.toList))

/-- A turn of the grouping: the zone is pushed to the list of its name, which is made
    where there is none. -/
def pushZone (grouped : String → List ParsedSvgZone) (zone : ParsedSvgZone) :
    String → List ParsedSvgZone :=
  let name := normalizeName toLowerCase zone.ticketTypeName
  Function.update grouped name (grouped name ++ [zone])

/-- `groupSvgZonesByTicketType`: the zones under their type's name. -/
def groupSvgZonesByTicketType (zones : List ParsedSvgZone) : String → List ParsedSvgZone :=
  zones.foldl (pushZone toLowerCase) fun _ => []

/-- The zones of a ticket type: those parsed for its name, or one of its own. -/
def zonesOf (svgZones : List ParsedSvgZone) (ticketType : TicketTypeInput) : List Zone :=
  let parsedZones :=
    groupSvgZonesByTicketType toLowerCase svgZones (normalizeName toLowerCase ticketType.name)
  if 0 < parsedZones.length then parsedZones.map fun pz => buildZone ticketType (some pz)
  else [buildZone ticketType none]

/-- A type with the zones it has on the map. -/
def showType (svgZones : List ParsedSvgZone) (ticketType : TicketTypeInput) : ShownType where
  id := ticketType.id
  name := ticketType.name
  price := ticketType.price
  maxPerUser := ticketType.maxPerUser
  totalQty := ticketType.totalQty
  soldQty := ticketType.soldQty
  reservedQty := ticketType.reservedQty
  zones := zonesOf toLowerCase svgZones ticketType

/-- `svgZones` gives the zones of the file at an address, none where there is no file. -/
def buildSeatMapData (svgZones : String → List ParsedSvgZone) (options : BuildSeatMapOptions) :
    Option SeatMapData :=
  if options.ticketTypes = [] then none
  else
    let seatMapUrl := options.resolvedUrl
    some
      { concertId := options.concertId
        concertName := options.concertName
        venueName := options.venueName
        seatMapUrl := seatMapUrl
        ticketTypes := options.ticketTypes.map (showType toLowerCase (svgZones seatMapUrl)) }

end Build

/-- The tickets left, as the page adds them up for a ticket type. -/
def ShownType.availableTotal (ticketType : ShownType) : Int :=
  (ticketType.zones.map Zone.availableCount).sum

/-- The total of the page. -/
def SeatMapData.availableTotal (data : SeatMapData) : Int :=
  (data.ticketTypes.map ShownType.availableTotal).sum

/-! ## Live updates -/

/-- An update as it comes from the socket. -/
structure SocketZoneStatusUpdate where
  ticketTypeId : String
  zoneId : String
  oldStatus : ZoneStatus
  newStatus : ZoneStatus
  availableCount : Int
  reservedCount : Option Int
  soldCount : Option Int
  timestamp : String

/-- What the backend broadcasts has no other counts. -/
def socketUpdate (text : TicketTypeId → String) (p : ZoneUpdatePayload) :
    SocketZoneStatusUpdate where
  ticketTypeId := text p.ticketTypeId
  zoneId := text p.zoneId
  oldStatus := p.oldStatus
  newStatus := p.newStatus
  availableCount := p.availableCount
  reservedCount := none
  soldCount := none
  timestamp := p.timestamp

/-- `ZoneUpdate`: a `zone:update` event as the app reads it. -/
structure ZoneUpdate where
  ticketTypeId : String
  zoneId : String
  status : ZoneStatus
  availableCount : Int
  reservedCount : Option Int
  soldCount : Option Int

/-- `mapSocketZoneUpdates`. -/
def mapSocketZoneUpdates (updates : List SocketZoneStatusUpdate) : List ZoneUpdate :=
  updates.map fun update =>
    { ticketTypeId := update.ticketTypeId
      zoneId := update.zoneId
      status := update.newStatus
      availableCount := update.availableCount
      reservedCount := update.reservedCount
      soldCount := update.soldCount }

/-- The key updates and zones are joined by. -/
def zoneKey (ticketTypeId zoneId : String) : String := s!"{ticketTypeId}:{zoneId}"

/-- `updateMap.get(key)`: of several updates with a key the last one is kept. -/
def findUpdate (updates : List ZoneUpdate) (key : String) : Option ZoneUpdate :=
  updates.reverse.find? fun update => zoneKey update.ticketTypeId update.zoneId = key

/-- A zone with an update applied. -/
def Zone.apply (zone : Zone) (update : ZoneUpdate) : Zone :=
  { zone with
    status := update.status
    availableCount := update.availableCount
    reservedCount := update.reservedCount.getD zone.reservedCount
    soldCount := update.soldCount.getD zone.soldCount }

/-- A type with the updates of its zones applied. -/
def ShownType.apply (updates : List ZoneUpdate) (ticketType : ShownType) : ShownType :=
  { ticketType with
    zones := ticketType.zones.map fun zone =>
      match findUpdate updates (zoneKey ticketType.id zone.zoneId) with
      | some update => zone.apply update
      | none => zone }

/-- `applyZoneAvailabilityUpdates`. -/
def applyZoneAvailabilityUpdates (data : SeatMapData) (updates : List ZoneUpdate) : SeatMapData :=
  if updates.length = 0 then data
  else { data with ticketTypes := data.ticketTypes.map (ShownType.apply updates) }

/-! ## The rows behind the map -/

/-- The type as the API returns it. -/
def toTicketTypeInput (text : TicketTypeId → String) (ticketType : TicketTypeResponse) :
    TicketTypeInput where
  id := text ticketType.id
  name := ticketType.name
  price := ticketType.price
  maxPerUser := ticketType.maxPerUser
  totalQty := ticketType.totalQty
  soldQty := ticketType.soldQty
  reservedQty := ticketType.reservedQty
  availableQty := some ticketType.availableQty

/-- The input of a row, as the backend's response gives it or with the counters alone. -/
def rowInput (text : TicketTypeId → String) (withQty : Bool) (row : TicketType) :
    TicketTypeInput :=
  let input := toTicketTypeInput text (toResponse row)
  if withQty then input else { input with availableQty := none }

end SeatMapView
