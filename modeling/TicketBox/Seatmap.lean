import TicketBox.Interleave
import TicketBox.Store

/-! # `seatmap.service.ts` and `seatmap-broadcast.service.ts`

    `getAvailability`, `invalidateAndBroadcast` and what `refreshAndBroadcast`
    sends, cut at their awaits; what follows an await up to the next one happens
    with it.  The inventory is changed by other services, each change followed by
    the refresh of its ticket type.  A cached entry may expire at any time, and a
    subscriber joins the room of a concert when it starts to load the map. -/

namespace TicketSeatmap

open Interleave
open TicketStore (ConcertId TicketTypeId TicketType)

/-! ## Zones -/

/-- The status of a zone. -/
inductive ZoneStatus where
  | available | reserved | soldOut
  deriving DecidableEq

/-- `ZoneAvailability`: a zone of the cached seat map. -/
structure ZoneAvailability where
  zoneId : TicketTypeId
  zoneName : String
  availableCount : Int
  reservedCount : Int
  soldCount : Int
  status : ZoneStatus
  deriving DecidableEq

/-- `ZoneUpdatePayload`: what a `zone:update` event carries. -/
structure ZoneUpdatePayload where
  ticketTypeId : TicketTypeId
  zoneId : TicketTypeId
  oldStatus : ZoneStatus
  newStatus : ZoneStatus
  availableCount : Int
  timestamp : String
  deriving DecidableEq

/-- `totalQty - soldQty - reservedQty` -/
def available (ticketType : TicketType) : Int :=
  ticketType.totalQty - ticketType.soldQty - ticketType.reservedQty

/-- The status of a type's zone. -/
def statusOf (ticketType : TicketType) : ZoneStatus :=
  if available ticketType ≤ 0 then .soldOut
  else if 0 < ticketType.reservedQty then .reserved
  else .available

/-- A ticket type is one synthetic zone. -/
def computeZoneAvailability (ticketType : TicketType) : List ZoneAvailability :=
  [{ zoneId := ticketType.id
     zoneName := ticketType.name
     availableCount := max 0 (available ticketType)
     reservedCount := ticketType.reservedQty
     soldCount := ticketType.soldQty
     status := statusOf ticketType }]

/-! ## The store -/

/-- The types, the seat map cache and the broadcasts. -/
structure World where
  ticketTypes : List TicketType
  /-- the entries `seatmap:{concertId}:{ticketTypeId}:zones` -/
  cache : ConcertId × TicketTypeId → Option (List ZoneAvailability)
  /-- what was broadcast, with the concert of its room -/
  sent : List (ConcertId × ZoneUpdatePayload)

/-- `prisma.ticketType.findUnique` by id. -/
def World.findType (t : TicketTypeId) (w : World) : Option TicketType :=
  RowTable.lookup TicketType.id t w.ticketTypes

/-- `ticketType.findMany({ where: { concertId }, select: { id: true } })` -/
def World.typesOf (c : ConcertId) (w : World) : List TicketTypeId :=
  (w.ticketTypes.filter fun tt => tt.concertId = c).map TicketType.id

/-- `[0]?.status` of a cached entry. -/
def World.cachedStatus (c : ConcertId) (t : TicketTypeId) (w : World) : Option ZoneStatus :=
  (w.cache (c, t)).bind fun zones => zones.head?.map ZoneAvailability.status

/-- `redisService.set(key, JSON.stringify(zones), AVAILABILITY_TTL_SEC)` -/
def World.set (c : ConcertId) (t : TicketTypeId) (zones : List ZoneAvailability) (w : World) :
    World :=
  { w with cache := Function.update w.cache (c, t) (some zones) }

/-- `DEL` of a type's entry. -/
def World.del (c : ConcertId) (t : TicketTypeId) (w : World) : World :=
  { w with cache := Function.update w.cache (c, t) none }

/-- What an inventory change writes. -/
structure Quantities where
  totalQty : Int
  soldQty : Int
  reservedQty : Int
  deriving DecidableEq

/-- The row with its counts written. -/
def Quantities.apply (q : Quantities) (tt : TicketType) : TicketType :=
  { tt with totalQty := q.totalQty, soldQty := q.soldQty, reservedQty := q.reservedQty }

/-! ## Statements -/

/-- A subscriber loading the map: how many broadcasts had been sent when it joined,
    and the zones collected so far. -/
structure Load where
  concertId : ConcertId
  since : Nat
  allZones : List ZoneAvailability
  deriving DecidableEq

/-- The awaited calls of `SeatmapService` and of the services that write inventory. -/
inductive Ask where
  /-- the write of another service -/
  | change (t : TicketTypeId) (q : Quantities)
  | refreshFind (c : ConcertId) (t : TicketTypeId)
  | refreshOld (c : ConcertId) (ticketType : TicketType)
  | refreshDel (c : ConcertId) (ticketType : TicketType) (oldStatus : Option ZoneStatus)
  | refreshSet (c : ConcertId) (ticketType : TicketType) (oldStatus : Option ZoneStatus)
  | listTypes (load : Load)
  | readCached (load : Load) (t : TicketTypeId) (rest : List TicketTypeId)
  | readFind (load : Load) (t : TicketTypeId) (rest : List TicketTypeId)
  | readSet (load : Load) (ticketType : TicketType) (rest : List TicketTypeId)
  deriving DecidableEq

/-- What an operation ends with. -/
inductive Answer where
  | refreshed (payload : Option ZoneUpdatePayload)
  | loaded (load : Load)
  | notFound
  /-- the answer of a batch nobody awaits; there is none here -/
  | detached
  deriving DecidableEq

/-- An operation on the seat map in flight. -/
abbrev Op := Prog Ask Empty Answer

/-- The payload of a refresh: only for a status that was cached and has changed. -/
def payload (ticketType : TicketType) (oldStatus : Option ZoneStatus) (timestamp : String) :
    Option ZoneUpdatePayload :=
  match oldStatus with
  | some old =>
      if old ≠ statusOf ticketType then
        some { ticketTypeId := ticketType.id
               zoneId := ticketType.id
               oldStatus := old
               newStatus := statusOf ticketType
               availableCount := max 0 (available ticketType)
               timestamp := timestamp }
      else none
  | none => none

/-- `broadcastZoneUpdate`, if there is a payload. -/
def World.broadcast (c : ConcertId) (payload : Option ZoneUpdatePayload) (w : World) : World :=
  { w with sent := w.sent ++ (payload.map fun p => (c, p)).toList }

/-- The loop of `getAvailability`. -/
def Load.next (load : Load) : List TicketTypeId → Op
  | t :: rest => .ask (.readCached load t rest)
  | [] => .ret (.loaded load)

/-- The zones of one more type. -/
def Load.push (load : Load) (zones : List ZoneAvailability) : Load :=
  { load with allZones := load.allZones ++ zones }

/-- Each statement, carried out at a time that prints as `timestamp`. -/
def carryOut (timestamp : String) (w : World) : Ask → World × Op
  | .change t q =>
      match w.findType t with
      | none => (w, .ret .notFound)
      | some tt =>
          ({ w with ticketTypes := RowTable.modify TicketType.id t q.apply w.ticketTypes },
            .ask (.refreshFind tt.concertId t))
  | .refreshFind c t =>
      match w.findType t with
      | none => (w, .ret (.refreshed none))
      | some tt => (w, .ask (.refreshOld c tt))
  | .refreshOld c tt => (w, .ask (.refreshDel c tt (w.cachedStatus c tt.id)))
  | .refreshDel c tt old => (w.del c tt.id, .ask (.refreshSet c tt old))
  | .refreshSet c tt old =>
      let payload := payload tt old timestamp
      ((w.set c tt.id (computeZoneAvailability tt)).broadcast c payload, .ret (.refreshed payload))
  | .listTypes load => (w, load.next (w.typesOf load.concertId))
  | .readCached load t rest =>
      match w.cache (load.concertId, t) with
      | some zones => (w, (load.push zones).next rest)
      | none => (w, .ask (.readFind load t rest))
  | .readFind load t rest =>
      match w.findType t with
      | some tt => (w, .ask (.readSet load tt rest))
      | none => (w, load.next rest)
  | .readSet load tt rest =>
      (w.set load.concertId tt.id (computeZoneAvailability tt),
        (load.push (computeZoneAvailability tt)).next rest)

/-! ## The system -/

/-- What starts an operation on the seat map. -/
inductive Request where
  /-- an inventory change, with `refreshAndBroadcast` after it -/
  | change (t : TicketTypeId) (q : Quantities)
  /-- a subscriber joins the room and loads the map -/
  | load (c : ConcertId)

/-- How an operation begins. -/
def Request.enter (w : World) : Request → Op
  | .change t q => .ask (.change t q)
  | .load c => .ask (.listTypes ⟨c, w.sent.length, []⟩)

/-- A cached entry expires. -/
structure Expiry where
  concertId : ConcertId
  ticketTypeId : TicketTypeId

/-- The seat map with any number of loads and inventory changes, interleaved at every await. -/
def seatmap : System World Ask Empty Answer String Request Expiry where
  decide := fun timestamp w d => some (carryOut timestamp w d)
  perform := fun _ _ t => nomatch t
  enter := fun w r => some (r.enter w)
  env := fun e w => w.del e.concertId e.ticketTypeId
  detached := .detached

/-- The rows and the cache with the operations in flight. -/
abbrev State := Pool World Ask Empty Answer

/-- A condition on the steps of the seat map. -/
abbrev Condition := Guard World Ask Empty Answer String Request Expiry

/-! ## What a subscriber shows -/

/-- The status of each zone, as far as it is known. -/
abbrev View := TicketTypeId → Option ZoneStatus

/-- The map as it was loaded. -/
def Load.view (load : Load) : View :=
  fun t => (load.allZones.find? fun z => z.zoneId = t).map ZoneAvailability.status

/-- The subscriber's map with an update applied. -/
def View.apply (v : View) (p : ZoneUpdatePayload) : View :=
  Function.update v p.zoneId (some p.newStatus)

/-- The broadcasts a subscriber of concert `c` got since it joined. -/
def World.received (c : ConcertId) (since : Nat) (w : World) : List ZoneUpdatePayload :=
  ((w.sent.drop since).filter fun x => x.1 = c).map Prod.snd

/-- **What a subscriber shows**: what it loaded, then every broadcast since. -/
def Load.shows (load : Load) (w : World) : View :=
  (w.received load.concertId load.since).foldl View.apply load.view

end TicketSeatmap
