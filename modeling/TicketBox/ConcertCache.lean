import TicketBox.ConcertService
import TicketBox.Interleave

/-! # The cache of `concert.service.ts`

    `findAll`, `findOne`, `update` and `remove`, cut at their awaits, over the
    tables and the two kinds of cache entries.  `invalidateCache` is not awaited by
    the request; here an operation ends when its deletions have been carried out.
    Scheduling the reminder and logging are left out.

    The clock counts the updates and deletions that have committed.  What is read
    from the database carries the clock of its first read, and what is cached or
    answered keeps it.  The clock, these stamps and `clearedList` and
    `clearedDetail` are history variables: no operation reads them. -/

namespace TicketConcertCache

open Interleave
open TicketStore (ConcertId UserId ConcertStatus OrderStatus TicketType Order Role ApiError)
open TicketConcerts

/-! ## Requests and responses -/

/-- `ConcertQueryDto`, as the validation pipe lets it through. -/
structure ConcertQueryDto where
  status : Option ConcertStatus := none
  page : Option Nat := none
  limit : Option Nat := none
  page_pos : ∀ x ∈ page, 1 ≤ x := by intro x hx; cases hx <;> decide
  limit_pos : ∀ x ∈ limit, 1 ≤ x ∧ x ≤ 100 := by intro x hx; cases hx <;> decide

/-- `status || ConcertStatus.PUBLISHED` -/
def ConcertQueryDto.statusFilter (q : ConcertQueryDto) : ConcertStatus := q.status.getD .published

/-- The page of a query, 1 where it names none. -/
def ConcertQueryDto.pageOr (q : ConcertQueryDto) : Nat := q.page.getD 1

/-- The limit of a query, 20 where it names none. -/
def ConcertQueryDto.limitOr (q : ConcertQueryDto) : Nat := q.limit.getD 20

/-- `ConcertListResponseDto`: a page of concerts. -/
structure ConcertListResponseDto where
  data : List ConcertResponseDto
  total : Nat
  page : Nat
  limit : Nat
  totalPages : Nat
  deriving DecidableEq

/-- The key of a list: `cache:concert:list`, or that with status, page and limit. -/
abbrev ListKey := Option (ConcertStatus × Nat × Nat)

/-- The key of a list: that of the first page of the published concerts is a plain name. -/
def listCacheKey (q : ConcertQueryDto) : ListKey :=
  if q.statusFilter = .published ∧ q.pageOr = 1 ∧ q.limitOr = 20 then none
  else some (q.statusFilter, q.pageOr, q.limitOr)

/-! ## The store -/

/-- What a key holds, and the clock of the rows it was made from. -/
structure Entry (K V : Type) where
  key : K
  asOf : Nat
  value : V
  deriving DecidableEq

/-- An entry under a list key. -/
abbrev ListEntry := Entry ListKey ConcertListResponseDto

/-- An entry under `cache:concert:{id}`. -/
abbrev DetailEntry := Entry ConcertId ConcertResponseDto

/-- The rows, both caches and a count of the writes. -/
structure World where
  concerts : List Concert
  ticketTypes : List TicketType
  orders : List Order
  fullName : UserId → Option String
  lists : List ListEntry
  details : List DetailEntry
  clock : Nat
  /-- the newest write whose deletion of `cache:concert:list` has been carried out -/
  clearedList : Nat
  /-- the newest write of the concert whose deletion of its detail has been -/
  clearedDetail : ConcertId → Nat

/-- `redis.get` -/
def cacheGet {K V : Type} [DecidableEq K] (k : K) (entries : List (Entry K V)) :
    Option (Entry K V) := RowTable.lookup Entry.key k entries

/-- `redis.set` -/
def cacheSet {K V : Type} [DecidableEq K] (e : Entry K V) (entries : List (Entry K V)) :
    List (Entry K V) := RowTable.remove Entry.key e.key entries ++ [e]

/-- `redis.del` -/
def cacheDel {K V : Type} [DecidableEq K] (k : K) (entries : List (Entry K V)) :
    List (Entry K V) := RowTable.remove Entry.key k entries

/-! ## Queries -/

/-- The organizer and the ticket types a detail includes. -/
def World.payload (c : Concert) (w : World) : ConcertPayload where
  concert := c
  organizer := some { fullName := w.fullName c.organizerId }
  ticketTypes := some (byPrice (w.ticketTypes.filter fun tt => tt.concertId = c.id))

/-- `concert.findMany`, as `toResponse` maps it. -/
def World.findMany (q : ConcertQueryDto) (w : World) : List ConcertResponseDto :=
  let rows := (w.concerts.filter fun c => c.status = q.statusFilter).insertionSort
    fun a b => a.startsAt ≤ b.startsAt
  ((rows.drop ((q.pageOr - 1) * q.limitOr)).take q.limitOr).map fun c =>
    toResponse ⟨c, some { fullName := w.fullName c.organizerId }, none⟩

/-- `prisma.concert.count` of a query. -/
def World.count (q : ConcertQueryDto) (w : World) : Nat :=
  (w.concerts.filter fun c => c.status = q.statusFilter).length

/-- What `findAll` stores and returns. -/
def listEntry (q : ConcertQueryDto) (asOf : Nat) (data : List ConcertResponseDto) (total : Nat) :
    ListEntry :=
  ⟨listCacheKey q, asOf, ⟨data, total, q.pageOr, q.limitOr, (total + q.limitOr - 1) / q.limitOr⟩⟩

/-- The orders that keep a concert from being removed. -/
def World.activeOrders (id : ConcertId) (w : World) : Nat :=
  (w.orders.filter fun o => o.concertId = id ∧
    (o.status = .pendingPayment ∨ o.status = .paid)).length

/-! ## Statements -/

/-- What a write of a concert is answered. -/
inductive WriteResponse where
  | updated (concert : ConcertResponseDto)
  | removed (message : String)
  deriving DecidableEq

/-- A committed update or deletion, with the clock after it. -/
structure Written where
  concertId : ConcertId
  asOf : Nat
  response : WriteResponse
  deriving DecidableEq

/-- The awaited calls of `ConcertService`. -/
inductive Ask where
  | listGet (q : ConcertQueryDto)
  /-- both queries of `findAll`: either may be carried out first -/
  | listQueries (q : ConcertQueryDto)
  | listCount (q : ConcertQueryDto) (asOf : Nat) (data : List ConcertResponseDto)
  | listRows (q : ConcertQueryDto) (asOf : Nat) (total : Nat)
  | listSet (entry : ListEntry)
  | detailGet (id : ConcertId)
  | detailRead (id : ConcertId)
  | detailSet (entry : DetailEntry)
  | updateFind (id : ConcertId) (dto : UpdateConcertDto) (userId : UserId) (userRole : Role)
  | updateSlug (existing : Concert) (dto : UpdateConcertDto) (slug : String)
  | updateWrite (existing : Concert) (dto : UpdateConcertDto)
  | removeFind (id : ConcertId)
  | removeDelete (concert : Concert)
  | delList (written : Written)
  | delDetail (written : Written)

/-- What a request ends with. -/
inductive Answer where
  | listed (asOf : Nat) (result : ConcertListResponseDto)
  | found (asOf : Nat) (result : ConcertResponseDto)
  | written (written : Written)
  | refused (e : ApiError)
  /-- the answer of a batch nobody awaits; there is none here -/
  | detached
  deriving DecidableEq

/-- A request of the concerts in flight. -/
abbrev Op := Prog Ask Empty Answer

/-- What the scheduler resolves: whether the statement fails, which of two queries
    comes first, and the time. -/
structure Choice where
  fails : Bool := false
  countFirst : Bool := false
  now : Int := 0

/-- The calls of Redis. -/
def Ask.redis : Ask → Bool
  | .listGet _ | .listSet _ | .detailGet _ | .detailSet _ | .delList _ | .delDetail _ => true
  | _ => false

/-- What a request for a missing concert is answered. -/
def notFound (id : ConcertId) : Answer :=
  .refused (.notFound s!"Concert with ID \"{id}\" not found")

/-- What follows the row of `update`. -/
def afterFind (existing : Concert) (dto : UpdateConcertDto) : Op :=
  match dto.newSlug existing with
  | some slug => .ask (.updateSlug existing dto slug)
  | none => .ask (.updateWrite existing dto)

/-- A call of Redis that fails: a read is a miss, a write is not made. -/
def redisFailed : Ask → Op
  | .listGet q => .ask (.listQueries q)
  | .listSet entry => .ret (.listed entry.asOf entry.value)
  | .detailGet id => .ask (.detailRead id)
  | .detailSet entry => .ret (.found entry.asOf entry.value)
  | .delList written => .ask (.delDetail written)
  | .delDetail written => .ret (.written written)
  | _ => .ret (.refused .unavailable)

/-- Each statement, carried out. -/
def carryOut (ch : Choice) (w : World) : Ask → World × Op
  | .listGet q =>
      match cacheGet (listCacheKey q) w.lists with
      | some cached => (w, .ret (.listed cached.asOf cached.value))
      | none => (w, .ask (.listQueries q))
  | .listQueries q =>
      if ch.countFirst then (w, .ask (.listRows q w.clock (w.count q)))
      else (w, .ask (.listCount q w.clock (w.findMany q)))
  | .listCount q asOf data => (w, .ask (.listSet (listEntry q asOf data (w.count q))))
  | .listRows q asOf total => (w, .ask (.listSet (listEntry q asOf (w.findMany q) total)))
  | .listSet entry =>
      ({ w with lists := cacheSet entry w.lists }, .ret (.listed entry.asOf entry.value))
  | .detailGet id =>
      match cacheGet id w.details with
      | some cached => (w, .ret (.found cached.asOf cached.value))
      | none => (w, .ask (.detailRead id))
  | .detailRead id =>
      match findConcert id w.concerts with
      | none => (w, .ret (notFound id))
      | some concert =>
          if concert.status = .draft then (w, .ret (notFound id))
          else (w, .ask (.detailSet ⟨id, w.clock, toResponse (w.payload concert)⟩))
  | .detailSet entry =>
      ({ w with details := cacheSet entry w.details }, .ret (.found entry.asOf entry.value))
  | .updateFind id dto u r =>
      match readExisting id u r w.concerts with
      | .error e => (w, .ret (.refused e))
      | .ok existing => (w, afterFind existing dto)
  | .updateSlug existing dto slug =>
      match checkSlug slug w.concerts with
      | .error e => (w, .ret (.refused e))
      | .ok () => (w, .ask (.updateWrite existing dto))
  | .updateWrite existing dto =>
      match findConcert existing.id w.concerts with
      | none => (w, .ret (.refused .recordNotFound))
      | some row =>
          match writeConcert row dto ch.now w.concerts with
          | .error e => (w, .ret (.refused e))
          | .ok concerts =>
              let concert := toResponse (w.payload (dto.apply ch.now row))
              ({ w with concerts := concerts, clock := w.clock + 1 },
                .ask (.delList ⟨existing.id, w.clock + 1, .updated concert⟩))
  | .removeFind id =>
      match findConcert id w.concerts with
      | none => (w, .ret (notFound id))
      | some concert =>
          let active := w.activeOrders id
          if 0 < active then (w, .ret (.refused (.badRequest
            s!"Cannot delete concert with {active} active orders. Cancel orders first.")))
          else (w, .ask (.removeDelete concert))
  | .removeDelete concert =>
      match findConcert concert.id w.concerts with
      | none => (w, .ret (.refused .recordNotFound))
      | some _ =>
          ({ w with
              concerts := RowTable.remove (fun c : Concert => c.id) concert.id w.concerts
              ticketTypes := w.ticketTypes.filter fun tt => tt.concertId ≠ concert.id
              orders := w.orders.filter fun o => o.concertId ≠ concert.id
              clock := w.clock + 1 },
            .ask (.delList ⟨concert.id, w.clock + 1,
              .removed s!"Concert \"{concert.title}\" deleted successfully"⟩))
  | .delList written =>
      ({ w with lists := cacheDel none w.lists
                clearedList := max w.clearedList written.asOf },
        .ask (.delDetail written))
  | .delDetail written =>
      ({ w with details := cacheDel written.concertId w.details
                clearedDetail := Function.update w.clearedDetail written.concertId
                  (max (w.clearedDetail written.concertId) written.asOf) },
        .ret (.written written))

/-! ## The system -/

/-- The routes of `ConcertController` that touch the cache. -/
inductive Request where
  | findAll (q : ConcertQueryDto)
  | findOne (id : ConcertId)
  | update (id : ConcertId) (dto : UpdateConcertDto) (userId : UserId) (userRole : Role)
  | remove (id : ConcertId)

/-- How a request begins: a read asks the cache first, a write its row. -/
def Request.enter : Request → Op
  | .findAll q => .ask (.listGet q)
  | .findOne id => .ask (.detailGet id)
  | .update id dto u r => .ask (.updateFind id dto u r)
  | .remove id => .ask (.removeFind id)

/-- Entries expire; other services write ticket types, orders and new concerts. -/
inductive Event where
  | expireList (key : ListKey)
  | expireDetail (id : ConcertId)
  | others (ticketTypes : List TicketType) (orders : List Order)
  | created (concert : Concert)

/-- What happens beside the requests: entries expire and other services write. -/
def Event.happen (w : World) : Event → World
  | .expireList key => { w with lists := cacheDel key w.lists }
  | .expireDetail id => { w with details := cacheDel id w.details }
  | .others tts orders => { w with ticketTypes := tts, orders := orders }
  | .created concert => { w with concerts := w.concerts ++ [concert] }

/-- The public reads of concerts, and their updates. -/
def concerts : System World Ask Empty Answer Choice Request Event where
  decide := fun ch w d => some <|
    if ch.fails then (w, if d.redis then redisFailed d else .ret (.refused .unavailable))
    else carryOut ch w d
  perform := fun _ _ t => nomatch t
  enter := fun _ r => some r.enter
  env := fun e w => e.happen w
  detached := .detached

/-- The rows and caches with the requests in flight. -/
abbrev State := Pool World Ask Empty Answer

/-- A condition on the steps of the concert requests. -/
abbrev Condition := Guard World Ask Empty Answer Choice Request Event

end TicketConcertCache
