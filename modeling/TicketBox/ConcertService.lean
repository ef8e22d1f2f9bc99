import Mathlib.Data.List.Sort
import TicketBox.Store

/-! # The rows and checks of `concert.service.ts`

    The `Concert` row with all its columns, the DTOs, what `create` and `update`
    check and write, and `toResponse`.  The concerts are one table; the services
    that call these functions keep it in a store of their own.  The table of users
    is left out, and so is the foreign key to it. -/

namespace TicketConcerts

open TicketStore (ConcertId UserId TicketTypeId ConcertStatus TicketTypeStatus TicketType Role
  ApiError)

/-! ## Rows and DTOs -/

/-- A row of `Concert`; times are in milliseconds. -/
structure Concert extends TicketStore.Concert where
  title : String
  slug : String
  description : Option String
  artistBio : Option String
  venue : String
  startsAt : Int
  saleStartsAt : Option Int
  saleEndsAt : Option Int
  seatMapUrl : Option String
  coverImageUrl : Option String
  reminderJobId : Option String
  createdAt : Int
  updatedAt : Int
  deriving DecidableEq

/-- `CreateConcertDto`, as the validation pipe lets it through. -/
structure CreateConcertDto where
  title : String
  slug : String
  description : Option String := none
  artistBio : Option String := none
  venue : String
  startsAt : Int
  saleStartsAt : Option Int := none
  saleEndsAt : Option Int := none
  status : Option ConcertStatus := none
  seatMapUrl : Option String := none
  coverImageUrl : Option String := none
  organizerId : Option UserId := none
  title_ne : title ≠ ""
  slug_ne : slug ≠ ""
  venue_ne : venue ≠ ""

/-- Every field may be left out; a nullable column may also be given as null. -/
structure UpdateConcertDto where
  title : Option String := none
  slug : Option String := none
  description : Option (Option String) := none
  artistBio : Option (Option String) := none
  venue : Option String := none
  startsAt : Option Int := none
  saleStartsAt : Option (Option Int) := none
  saleEndsAt : Option (Option Int) := none
  status : Option ConcertStatus := none
  seatMapUrl : Option (Option String) := none
  coverImageUrl : Option (Option String) := none

/-- `PUBLISHED` or `SALE_OPEN` -/
def isOpen : ConcertStatus → Bool
  | .published | .saleOpen => true
  | _ => false

/-! ## Lookups -/

/-- `prisma.concert.findUnique` by id. -/
def findConcert (id : ConcertId) (rows : List Concert) : Option Concert :=
  RowTable.lookup (fun c : Concert => c.id) id rows

/-- `concert.findUnique({ where: { slug } })` -/
def findSlug (slug : String) (rows : List Concert) : Option Concert :=
  rows.find? fun c => c.slug = slug

/-- `prisma.concert.update` by id. -/
def modifyConcert (id : ConcertId) (f : Concert → Concert) (rows : List Concert) : List Concert :=
  RowTable.modify (fun c : Concert => c.id) id f rows

section Lookups

variable {id id' : ConcertId} {c : Concert} {rows : List Concert} {f : Concert → Concert}

/-- The concert that is found is a row. -/
theorem findConcert_mem (h : findConcert id rows = some c) : c ∈ rows := by
  unfold findConcert at h
  exact RowTable.lookup_mem h

/-- It has the id that was asked for. -/
theorem findConcert_key (h : findConcert id rows = some c) : c.id = id := by
  unfold findConcert at h
  have hkey := RowTable.lookup_key h
  exact hkey

/-- A new concert is found behind those that were there. -/
theorem findConcert_append : findConcert id (rows ++ [c])
    = (findConcert id rows).or (if c.id = id then some c else none) := by
  unfold findConcert
  rw [RowTable.lookup_append]

/-- An update changes the row of its id. -/
theorem findConcert_modify_self (hf : ∀ c, (f c).id = c.id) :
    findConcert id (modifyConcert id f rows) = (findConcert id rows).map f := by
  unfold findConcert modifyConcert
  exact RowTable.lookup_modify_self hf

/-- It leaves the others alone. -/
theorem findConcert_modify_ne (hf : ∀ c, (f c).id = c.id) (hne : id' ≠ id) :
    findConcert id' (modifyConcert id f rows) = findConcert id' rows := by
  unfold findConcert modifyConcert
  exact RowTable.lookup_modify_ne hf hne

/-- It keeps the ids. -/
theorem keys_modifyConcert (hf : ∀ c, (f c).id = c.id) :
    (modifyConcert id f rows).map (fun c => c.id) = rows.map fun c => c.id := by
  unfold modifyConcert
  exact RowTable.keys_modify hf

end Lookups

/-! ## create -/

/-- `dto.status || ConcertStatus.DRAFT` -/
def CreateConcertDto.initialStatus (dto : CreateConcertDto) : ConcertStatus :=
  dto.status.getD .draft

/-- The row `create` writes. -/
def CreateConcertDto.row (dto : CreateConcertDto) (id : ConcertId) (fallbackOrganizerId : UserId)
    (now : Int) : Concert where
  id := id
  organizerId := dto.organizerId.getD fallbackOrganizerId
  status := dto.initialStatus
  title := dto.title
  slug := dto.slug
  description := dto.description
  artistBio := dto.artistBio
  venue := dto.venue
  startsAt := dto.startsAt
  saleStartsAt := dto.saleStartsAt
  saleEndsAt := dto.saleEndsAt
  seatMapUrl := dto.seatMapUrl
  coverImageUrl := dto.coverImageUrl
  reminderJobId := none
  createdAt := now
  updatedAt := now

/-- `create` up to its row, with the id the database draws. -/
def createConcert (dto : CreateConcertDto) (fallbackOrganizerId : UserId) (id : ConcertId)
    (now : Int) (rows : List Concert) : Except ApiError (List Concert) :=
  if (findSlug dto.slug rows).isSome then
    .error (.conflict s!"Concert with slug \"{dto.slug}\" already exists")
  else if (findConcert id rows).isSome then .error .uniqueViolation
  else .ok (rows ++ [dto.row id fallbackOrganizerId now])

/-! ## update -/

/-- The row `update` reads, if the caller may change it. -/
def readExisting (id : ConcertId) (userId : UserId) (userRole : Role) (rows : List Concert) :
    Except ApiError Concert :=
  match findConcert id rows with
  | none => .error (.notFound s!"Concert with ID \"{id}\" not found")
  | some existing =>
      if userRole = .organizer ∧ existing.organizerId ≠ userId then
        .error (.forbidden "Bạn không có quyền cập nhật concert này")
      else .ok existing

/-- `dto.slug && dto.slug !== existing.slug` -/
def UpdateConcertDto.newSlug (dto : UpdateConcertDto) (existing : Concert) : Option String :=
  dto.slug.filter fun slug => slug ≠ "" ∧ slug ≠ existing.slug

/-- The check of a new slug. -/
def checkSlug (slug : String) (rows : List Concert) : Except ApiError Unit :=
  if (findSlug slug rows).isSome then
    .error (.conflict s!"Concert with slug \"{slug}\" already exists")
  else .ok ()

/-- The checks of `update`, in their order; they return the row read. -/
def updateChecks (id : ConcertId) (dto : UpdateConcertDto) (userId : UserId) (userRole : Role)
    (rows : List Concert) : Except ApiError Concert :=
  match readExisting id userId userRole rows with
  | .error e => .error e
  | .ok existing =>
      match dto.newSlug existing with
      | some slug =>
          match checkSlug slug rows with
          | .error e => .error e
          | .ok () => .ok existing
      | none => .ok existing

/-- The `data` of `concert.update`: a field that is left out keeps its value. -/
def UpdateConcertDto.apply (dto : UpdateConcertDto) (now : Int) (c : Concert) : Concert :=
  { c with
    title := dto.title.getD c.title
    slug := dto.slug.getD c.slug
    description := dto.description.getD c.description
    artistBio := dto.artistBio.getD c.artistBio
    venue := dto.venue.getD c.venue
    startsAt := dto.startsAt.getD c.startsAt
    saleStartsAt := dto.saleStartsAt.getD c.saleStartsAt
    saleEndsAt := dto.saleEndsAt.getD c.saleEndsAt
    status := dto.status.getD c.status
    seatMapUrl := dto.seatMapUrl.getD c.seatMapUrl
    coverImageUrl := dto.coverImageUrl.getD c.coverImageUrl
    updatedAt := now }

/-- `concert.update({ where: { id } })` under the unique index on the slug. -/
def writeConcert (existing : Concert) (dto : UpdateConcertDto) (now : Int)
    (rows : List Concert) : Except ApiError (List Concert) :=
  if ∃ c ∈ rows, c.id ≠ existing.id ∧ c.slug = (dto.apply now existing).slug then
    .error .uniqueViolation
  else .ok (modifyConcert existing.id (dto.apply now) rows)

/-- `update` up to its row: the row read and the table after the write. -/
def updateConcert (id : ConcertId) (dto : UpdateConcertDto) (userId : UserId) (userRole : Role)
    (now : Int) (rows : List Concert) : Except ApiError (Concert × List Concert) := do
  let existing ← updateChecks id dto userId userRole rows
  let rows ← writeConcert existing dto now rows
  .ok (existing, rows)

/-- `startsAtChanged || statusChanged` -/
def UpdateConcertDto.reschedules (dto : UpdateConcertDto) (existing : Concert) : Bool :=
  dto.startsAt.any (fun t => t ≠ existing.startsAt) ||
    dto.status.any fun s => s ≠ existing.status

/-! ## toResponse -/

/-- What is selected of the organizer. -/
structure Organizer where
  id : Option UserId := none
  email : Option String := none
  fullName : Option String
  deriving DecidableEq

/-- A row with what its query includes. -/
structure ConcertPayload where
  concert : Concert
  organizer : Option Organizer
  ticketTypes : Option (List TicketType)

/-- A ticket type as it stands in the response of a concert. -/
structure TicketTypeSummary where
  id : TicketTypeId
  name : String
  price : Int
  totalQty : Int
  soldQty : Int
  reservedQty : Int
  maxPerUser : Int
  status : TicketTypeStatus
  saleStartsAt : Nat
  saleEndsAt : Option Nat
  deriving DecidableEq

/-- The organizer of a response; an id or an address that was not selected is empty. -/
structure OrganizerDto where
  id : String
  fullName : Option String
  email : String
  deriving DecidableEq

/-- `ConcertResponseDto`, without the uploaded files no query here includes. -/
structure ConcertResponseDto where
  id : ConcertId
  title : String
  slug : String
  description : Option String
  artistBio : Option String
  venue : String
  startsAt : Int
  saleStartsAt : Option Int
  saleEndsAt : Option Int
  status : ConcertStatus
  seatMapUrl : Option String
  coverImageUrl : Option String
  organizerId : UserId
  organizerName : Option String
  createdAt : Int
  updatedAt : Int
  ticketTypes : Option (List TicketTypeSummary)
  organizer : Option OrganizerDto
  deriving DecidableEq

/-- A ticket type in the response of its concert. -/
def summary (tt : TicketType) : TicketTypeSummary :=
  ⟨tt.id, tt.name, tt.price, tt.totalQty, tt.soldQty, tt.reservedQty, tt.maxPerUser, tt.status,
    tt.saleStartsAt, tt.saleEndsAt⟩

/-- `toResponse`: the concert as the routes show it. -/
def toResponse (payload : ConcertPayload) : ConcertResponseDto :=
  let concert := payload.concert
  { id := concert.id
    title := concert.title
    slug := concert.slug
    description := concert.description
    artistBio := concert.artistBio
    venue := concert.venue
    startsAt := concert.startsAt
    saleStartsAt := concert.saleStartsAt
    saleEndsAt := concert.saleEndsAt
    status := concert.status
    seatMapUrl := concert.seatMapUrl
    coverImageUrl := concert.coverImageUrl
    organizerId := concert.organizerId
    organizerName := payload.organizer.bind fun o => o.fullName
    createdAt := concert.createdAt
    updatedAt := concert.updatedAt
    ticketTypes := payload.ticketTypes.map fun tts => tts.map summary
    organizer := payload.organizer.map fun o =>
      ⟨(o.id.map toString).getD "", o.fullName, o.email.getD ""⟩ }

/-- `orderBy: { price: 'desc' }` -/
def byPrice (tts : List TicketType) : List TicketType :=
  tts.insertionSort fun a b => b.price ≤ a.price

/-! ### What they say -/

@[simp] theorem UpdateConcertDto.apply_id (dto : UpdateConcertDto) (now : Int) (c : Concert) :
    (dto.apply now c).id = c.id := rfl

@[simp] theorem UpdateConcertDto.apply_organizerId (dto : UpdateConcertDto) (now : Int)
    (c : Concert) : (dto.apply now c).organizerId = c.organizerId := rfl

@[simp] theorem UpdateConcertDto.apply_reminderJobId (dto : UpdateConcertDto) (now : Int)
    (c : Concert) : (dto.apply now c).reminderJobId = c.reminderJobId := rfl

/-- An update that reschedules nothing leaves the start and the status. -/
theorem UpdateConcertDto.kept_of_not_reschedules {dto : UpdateConcertDto} {c : Concert}
    (h : dto.reschedules c = false) (now : Int) :
    (dto.apply now c).startsAt = c.startsAt ∧ (dto.apply now c).status = c.status := by
  simp only [reschedules, Bool.or_eq_false_iff] at h
  constructor
  · show dto.startsAt.getD c.startsAt = c.startsAt
    cases hs : dto.startsAt with
    | none => rfl
    | some t => simpa [hs] using h.1
  · show dto.status.getD c.status = c.status
    cases hs : dto.status with
    | none => rfl
    | some s => simpa [hs] using h.2

/-- The row that is found belongs to the organizer who asks. -/
theorem readExisting_ok {id : ConcertId} {u : UserId} {r : Role} {rows : List Concert}
    {existing : Concert} (h : readExisting id u r rows = .ok existing) :
    findConcert id rows = some existing ∧ (r = .organizer → existing.organizerId = u) := by
  unfold readExisting at h
  split at h
  · cases h
  · next c hc =>
    split at h
    · cases h
    · next hown =>
      cases h
      refine ⟨hc, fun hr => ?_⟩
      by_contra hne
      exact hown ⟨hr, hne⟩

/-- What `update` read is a row of the table under the id asked for, and an
    organizer's own. -/
theorem updateChecks_ok {id : ConcertId} {dto : UpdateConcertDto} {u : UserId} {r : Role}
    {rows : List Concert} {existing : Concert}
    (h : updateChecks id dto u r rows = .ok existing) :
    findConcert id rows = some existing ∧ (r = .organizer → existing.organizerId = u) := by
  unfold updateChecks at h
  split at h
  · cases h
  · next c hc =>
    have hce : c = existing := by
      split at h
      · split at h
        · cases h
        · exact Except.ok.inj h
      · exact Except.ok.inj h
    subst hce
    exact readExisting_ok hc

/-- What a successful `update` read and wrote. -/
theorem updateConcert_ok {id : ConcertId} {dto : UpdateConcertDto} {u : UserId} {r : Role}
    {now : Int} {rows rows' : List Concert} {existing : Concert}
    (h : updateConcert id dto u r now rows = .ok (existing, rows')) :
    findConcert id rows = some existing ∧ (r = .organizer → existing.organizerId = u) ∧
      existing.id = id ∧ rows' = modifyConcert id (dto.apply now) rows := by
  simp only [updateConcert] at h
  cases hc : updateChecks id dto u r rows with
  | error e => simp [hc, bind, Except.bind] at h
  | ok c =>
      obtain ⟨hfind, hown⟩ := updateChecks_ok hc
      simp only [hc, bind, Except.bind, writeConcert] at h
      split at h
      · cases h
      · next hw =>
        cases h
        split at hw
        · cases hw
        · cases hw
          have hid : existing.id = id := findConcert_key hfind
          rw [hid]
          exact ⟨hfind, hown, rfl, rfl⟩

end TicketConcerts
