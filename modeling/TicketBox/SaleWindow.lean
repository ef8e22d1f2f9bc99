import TicketBox.Machine
import TicketBox.Store

/-! # Sale windows

    `create` and `update` of the ticket type service with their DTOs as they come in:
    a field may be omitted, null or given, and a date may parse to no time.  The
    validator compares `saleEndsAt` with `saleStartsAt` where the request gives both;
    a request that gives one of them is never compared with the other one stored.
    `windows_wellFormed` says that windows stay well-formed as long as each update
    `Fits` the row it changes, `data_wellFormed_iff` that nothing less will do. -/

namespace TicketWindow

open TicketStore (UserId ConcertId TicketTypeId Role ApiError TicketTypeStatus Concert)

/-! ## Requests -/

/-- A property of a request's body. -/
inductive Field (α : Type) where
  | omitted
  | null
  | given (a : α)
  deriving DecidableEq

namespace Field

variable {α : Type}

/-- `field ?? a` -/
def orElse (field : Field α) (a : α) : α :=
  match field with
  | .given b => b
  | _ => a

/-- What a column that is not nullable is set to; null is refused. -/
def write (field : Field α) (old : α) : Option α :=
  match field with
  | .omitted => some old
  | .null => none
  | .given a => some a

/-- `@IsOptional()` before a check. -/
def All (P : α → Prop) (field : Field α) : Prop := ∀ a, field = .given a → P a

end Field

/-- `new Date(text).getTime()` of a text `@IsDateString()` admits: milliseconds, or none
    for an invalid date. -/
abbrev DateString := Option Int

/-- `SaleWindowValidConstraint` on `saleEndsAt`. -/
def SaleWindowValid (saleStartsAt saleEndsAt : Field DateString) : Prop :=
  match saleStartsAt, saleEndsAt with
  -- a comparison with an invalid date is false
  | .given s, .given e => ∃ x ∈ s, ∃ y ∈ e, x < y
  | _, _ => True

/-- `CreateTicketTypeDto`, as the validation pipe lets it through. -/
structure CreateTicketTypeDto where
  name : String
  price : Int
  totalQty : Int
  maxPerUser : Int
  saleStartsAt : DateString
  saleEndsAt : Field DateString
  status : Field TicketTypeStatus
  name_ne : name ≠ ""
  price_nonneg : 0 ≤ price
  totalQty_pos : 1 ≤ totalQty
  maxPerUser_pos : 1 ≤ maxPerUser
  saleWindow : SaleWindowValid (.given saleStartsAt) saleEndsAt

/-- `UpdateTicketTypeDto`, where any field may be absent or null. -/
structure UpdateTicketTypeDto where
  name : Field String
  price : Field Int
  totalQty : Field Int
  soldQty : Field Int
  reservedQty : Field Int
  maxPerUser : Field Int
  saleStartsAt : Field DateString
  saleEndsAt : Field DateString
  status : Field TicketTypeStatus
  price_nonneg : price.All fun x => 0 ≤ x
  totalQty_pos : totalQty.All fun x => 1 ≤ x
  soldQty_nonneg : soldQty.All fun x => 0 ≤ x
  reservedQty_nonneg : reservedQty.All fun x => 0 ≤ x
  maxPerUser_pos : maxPerUser.All fun x => 1 ≤ x
  saleWindow : SaleWindowValid saleStartsAt saleEndsAt

/-! ## Rows -/

/-- `saleStartsAt` and `saleEndsAt` of a row. -/
structure Window where
  saleStartsAt : Int
  saleEndsAt : Option Int
  deriving DecidableEq

/-- The sale never ends, or later than it starts. -/
def Window.WellFormed (x : Window) : Prop := ∀ e ∈ x.saleEndsAt, x.saleStartsAt < e

/-- The two instants are compared. -/
instance (x : Window) : Decidable x.WellFormed :=
  inferInstanceAs (Decidable (∀ e ∈ x.saleEndsAt, _))

/-- A row of `TicketType`, with its sale window. -/
structure TicketType extends Window where
  id : TicketTypeId
  concertId : ConcertId
  name : String
  price : Int
  totalQty : Int
  soldQty : Int
  reservedQty : Int
  maxPerUser : Int
  status : TicketTypeStatus
  deriving DecidableEq

/-- The tables that `TicketTypeService` reads and writes here. -/
structure Db where
  concerts : List Concert
  ticketTypes : List TicketType

/-- How a create or an update fails. -/
inductive Failure where
  | api (e : ApiError)
  /-- Prisma refuses null or an invalid date in the data of a write. -/
  | invalidData
  deriving DecidableEq

/-- `prisma.concert.findUnique` by id. -/
def Db.findConcert (c : ConcertId) (db : Db) : Option Concert :=
  RowTable.lookup Concert.id c db.concerts

/-- `prisma.ticketType.findUnique` by id. -/
def Db.findType (id : TicketTypeId) (db : Db) : Option TicketType :=
  RowTable.lookup TicketType.id id db.ticketTypes

/-- Another row of the concert has the name. -/
def Db.Taken (id : TicketTypeId) (c : ConcertId) (name : String) (db : Db) : Prop :=
  ∃ tt ∈ db.ticketTypes, tt.id ≠ id ∧ tt.concertId = c ∧ tt.name = name

/-- The unique index finds out. -/
instance (id : TicketTypeId) (c : ConcertId) (name : String) (db : Db) :
    Decidable (db.Taken id c name) :=
  inferInstanceAs (Decidable (∃ _ ∈ _, _))

/-- The error of `checkConcertOwnership`, if it throws one. -/
def checkConcertOwnership (c : ConcertId) (u : UserId) (role : Role) (db : Db) : Option ApiError :=
  match db.findConcert c with
  | none => some (.notFound s!"Concert with ID \"{c}\" not found")
  | some concert =>
      if role ≠ .admin ∧ concert.organizerId ≠ u then
        some (.forbidden "You do not have permission to manage ticket types for this concert")
      else none

/-! ## create -/

/-- `new Date(dto.saleStartsAt)` and `dto.saleEndsAt ? new Date(dto.saleEndsAt) : null`. -/
def CreateTicketTypeDto.window (dto : CreateTicketTypeDto) : Option Window :=
  match dto.saleStartsAt, dto.saleEndsAt with
  | some s, .given (some e) => some ⟨s, some e⟩
  | some s, .omitted => some ⟨s, none⟩
  | some s, .null => some ⟨s, none⟩
  | _, _ => none

/-- The row, with the id it is given. -/
def CreateTicketTypeDto.row (dto : CreateTicketTypeDto) (id : TicketTypeId) (c : ConcertId)
    (window : Window) : TicketType :=
  { window with
    id := id
    concertId := c
    name := dto.name
    price := dto.price
    totalQty := dto.totalQty
    soldQty := 0
    reservedQty := 0
    maxPerUser := dto.maxPerUser
    status := dto.status.orElse .active }

/-- `TicketTypeService.create`. -/
def create (id : TicketTypeId) (c : ConcertId) (dto : CreateTicketTypeDto) (u : UserId) (role : Role)
    (db : Db) : Db × Except Failure TicketType :=
  match checkConcertOwnership c u role db with
  | some e => (db, .error (.api e))
  | none =>
      if ∃ tt ∈ db.ticketTypes, tt.concertId = c ∧ tt.name = dto.name then
        (db, .error (.api (.conflict s!"Ticket type \"{dto.name}\" already exists for this concert")))
      else if (db.findConcert c).any (fun x => x.status = .completed ∨ x.status = .cancelled) then
        (db, .error (.api (.badRequest
          "Cannot add ticket types to a completed or cancelled concert")))
      else
        match dto.window with
        | none => (db, .error .invalidData)
        | some window =>
            if (db.findType id).isSome then (db, .error (.api .uniqueViolation))
            else ({ db with ticketTypes := db.ticketTypes ++ [dto.row id c window] },
              .ok (dto.row id c window))

/-! ## update -/

/-- The look-up of a new name: the failure it ends with, if any. -/
def duplicateCheck (existing : TicketType) (dto : UpdateTicketTypeDto) (db : Db) : Option Failure :=
  match dto.name with
  | .omitted => none
  | .null => some .invalidData
  | .given name =>
      if name ≠ existing.name ∧
          ∃ tt ∈ db.ticketTypes, tt.concertId = existing.concertId ∧ tt.name = name then
        some (.api (.conflict s!"Ticket type \"{name}\" already exists for this concert"))
      else none

/-- Prevents `totalQty` below `soldQty + reservedQty`; null compares as 0. -/
def totalCheck (existing : TicketType) (dto : UpdateTicketTypeDto) : Option Failure :=
  let sold := dto.soldQty.orElse existing.soldQty
  let reserved := dto.reservedQty.orElse existing.reservedQty
  let refusal (total : String) : Failure :=
    .api (.badRequest ("Cannot reduce total quantity to " ++ total ++ ". Already sold: "
      ++ toString sold ++ ", reserved: " ++ toString reserved
      ++ ". Minimum allowed: " ++ toString (sold + reserved)))
  match dto.totalQty with
  | .omitted => none
  | .null => if 0 < sold + reserved then some (refusal "null") else none
  | .given total => if total < sold + reserved then some (refusal (toString total)) else none

/-- `soldQty` and `reservedQty` are an administrator's to adjust. -/
def adjustCheck (dto : UpdateTicketTypeDto) (role : Role) : Option Failure :=
  if (dto.soldQty ≠ .omitted ∨ dto.reservedQty ≠ .omitted) ∧ role ≠ .admin then
    some (.api (.forbidden "Only ADMIN can manually adjust soldQty or reservedQty"))
  else none

/-- `new Date(dto.saleStartsAt)`, which is the epoch for null. -/
def UpdateTicketTypeDto.starts (dto : UpdateTicketTypeDto) (old : Int) : Option Int :=
  match dto.saleStartsAt with
  | .omitted => some old
  | .null => some 0
  | .given s => s

/-- `dto.saleEndsAt ? new Date(dto.saleEndsAt) : null` -/
def UpdateTicketTypeDto.ends (dto : UpdateTicketTypeDto) (old : Option Int) : Option (Option Int) :=
  match dto.saleEndsAt with
  | .omitted => some old
  | .null => some none
  | .given e => e.map some

/-- The row `updateData` makes of a row, if Prisma takes the data. -/
def UpdateTicketTypeDto.data (dto : UpdateTicketTypeDto) (row : TicketType) : Option TicketType := do
  let name ← dto.name.write row.name
  let price ← dto.price.write row.price
  let totalQty ← dto.totalQty.write row.totalQty
  let soldQty ← dto.soldQty.write row.soldQty
  let reservedQty ← dto.reservedQty.write row.reservedQty
  let maxPerUser ← dto.maxPerUser.write row.maxPerUser
  let saleStartsAt ← dto.starts row.saleStartsAt
  let saleEndsAt ← dto.ends row.saleEndsAt
  let status ← dto.status.write row.status
  let data : TicketType :=
    { row with
      name, price, totalQty, soldQty, reservedQty, maxPerUser, saleStartsAt, saleEndsAt, status }
  return data

/-- The SOLD_OUT step. -/
def TicketType.soldOut (row : TicketType) : TicketType :=
  if row.totalQty - row.soldQty - row.reservedQty = 0 then { row with status := .soldOut } else row

/-- The first check of an update that fails. -/
def updateRefusal (existing : TicketType) (dto : UpdateTicketTypeDto) (u : UserId) (role : Role)
    (db : Db) : Option Failure :=
  ((checkConcertOwnership existing.concertId u role db).map .api).or
    ((duplicateCheck existing dto db).or ((totalCheck existing dto).or (adjustCheck dto role)))

/-- `TicketTypeService.update`. -/
def update (id : TicketTypeId) (dto : UpdateTicketTypeDto) (u : UserId) (role : Role) (db : Db) :
    Db × Except Failure TicketType :=
  match db.findType id with
  | none => (db, .error (.api (.notFound s!"Ticket type with ID \"{id}\" not found")))
  | some existing =>
      match updateRefusal existing dto u role db with
      | some e => (db, .error e)
      | none =>
          match dto.data existing with
          | none => (db, .error .invalidData)
          | some row =>
              if db.Taken id row.concertId row.name then (db, .error (.api .uniqueViolation))
              else ({ db with ticketTypes :=
                  RowTable.modify TicketType.id id (fun _ => row.soldOut) db.ticketTypes },
                .ok row.soldOut)

/-! ## What an update does to a window -/

/-- The bound a request gives without the other one keeps to the stored one; null for
    `saleStartsAt`, which the validator skips, starts the sale at the epoch. -/
def UpdateTicketTypeDto.Fits (dto : UpdateTicketTypeDto) (row : Window) : Prop :=
  match dto.saleStartsAt, dto.saleEndsAt with
  | .omitted, .given (some e) => row.saleStartsAt < e
  | .given (some s), .omitted => ∀ e ∈ row.saleEndsAt, s < e
  | .null, .omitted => ∀ e ∈ row.saleEndsAt, 0 < e
  | .null, .given (some e) => 0 < e
  | _, _ => True

/-- The new instants are compared with the old. -/
instance (dto : UpdateTicketTypeDto) (row : Window) : Decidable (dto.Fits row) := by
  unfold UpdateTicketTypeDto.Fits
  split <;> infer_instance

/-- The columns that an update writes. -/
theorem data_columns {dto : UpdateTicketTypeDto} {row row' : TicketType}
    (h : dto.data row = some row') :
    row'.id = row.id ∧ dto.starts row.saleStartsAt = some row'.saleStartsAt ∧
      dto.ends row.saleEndsAt = some row'.saleEndsAt := by
  simp only [UpdateTicketTypeDto.data, Option.bind_eq_bind, Option.bind_eq_some_iff,
    Option.pure_def, Option.some.injEq] at h
  obtain ⟨name, -, price, -, totalQty, -, soldQty, -, reservedQty, -, maxPerUser, -, s, hs, e, he,
    status, -, rfl⟩ := h
  exact ⟨rfl, hs, he⟩

/-- The window a request makes of a well-formed one is well-formed exactly if it fits. -/
theorem fits_iff {dto : UpdateTicketTypeDto} {x : Window} {s : Int} {e : Option Int}
    (hx : x.WellFormed) (hs : dto.starts x.saleStartsAt = some s)
    (he : dto.ends x.saleEndsAt = some e) : (Window.mk s e).WellFormed ↔ dto.Fits x := by
  have hvalid := dto.saleWindow
  rw [Window.WellFormed, UpdateTicketTypeDto.Fits]
  rw [UpdateTicketTypeDto.starts] at hs
  rw [UpdateTicketTypeDto.ends] at he
  cases hstarts : dto.saleStartsAt with
  | omitted =>
      rw [hstarts] at hs
      obtain rfl := Option.some.inj hs
      cases hends : dto.saleEndsAt with
      | omitted =>
          rw [hends] at he
          obtain rfl := Option.some.inj he
          exact iff_of_true hx trivial
      | null =>
          rw [hends] at he
          obtain rfl := Option.some.inj he
          exact iff_of_true (fun y hy => by cases hy) trivial
      | given d =>
          rw [hends] at he
          obtain ⟨y, rfl, rfl⟩ := Option.map_eq_some_iff.mp he
          simp
  | null =>
      rw [hstarts] at hs
      obtain rfl := Option.some.inj hs
      cases hends : dto.saleEndsAt with
      | omitted =>
          rw [hends] at he
          obtain rfl := Option.some.inj he
          exact Iff.rfl
      | null =>
          rw [hends] at he
          obtain rfl := Option.some.inj he
          exact iff_of_true (fun y hy => by cases hy) trivial
      | given d =>
          rw [hends] at he
          obtain ⟨y, rfl, rfl⟩ := Option.map_eq_some_iff.mp he
          simp
  | given d =>
      rw [hstarts] at hs
      obtain rfl : d = some s := hs
      cases hends : dto.saleEndsAt with
      | omitted =>
          rw [hends] at he
          obtain rfl := Option.some.inj he
          exact Iff.rfl
      | null =>
          rw [hends] at he
          obtain rfl := Option.some.inj he
          exact iff_of_true (fun y hy => by cases hy) trivial
      | given d' =>
          -- the validator has compared the two
          rw [hends] at he
          obtain ⟨y, rfl, rfl⟩ := Option.map_eq_some_iff.mp he
          rw [hstarts, hends] at hvalid
          obtain ⟨_, ⟨⟩, _, ⟨⟩, hlt⟩ := hvalid
          refine iff_of_true (fun z hz => ?_) trivial
          cases hz
          exact hlt

/-- **One update.**  The window it writes is well-formed exactly if the request fits the
    row it changes. -/
theorem data_wellFormed_iff {dto : UpdateTicketTypeDto} {row row' : TicketType}
    (hrow : row.WellFormed) (h : dto.data row = some row') :
    row'.WellFormed ↔ dto.Fits row.toWindow := by
  obtain ⟨-, hs, he⟩ := data_columns h
  exact fits_iff hrow hs he

/-- The validator of a new row leaves no other window. -/
theorem CreateTicketTypeDto.window_wellFormed {dto : CreateTicketTypeDto} {x : Window}
    (h : dto.window = some x) : x.WellFormed := by
  have hvalid := dto.saleWindow
  rw [CreateTicketTypeDto.window] at h
  split at h
  · next s e hs he =>
    cases h
    rw [hs, he] at hvalid
    obtain ⟨_, ⟨⟩, _, ⟨⟩, hlt⟩ := hvalid
    intro z hz
    cases hz
    exact hlt
  · cases h
    intro z hz
    cases hz
  · cases h
    intro z hz
    cases hz
  · cases h

@[simp] theorem TicketType.soldOut_window (row : TicketType) :
    row.soldOut.toWindow = row.toWindow := by
  rw [TicketType.soldOut]
  split <;> rfl

@[simp] theorem TicketType.soldOut_id (row : TicketType) : row.soldOut.id = row.id := by
  rw [TicketType.soldOut]
  split <;> rfl

/-! ## Runs -/

/-- The two routes that write a ticket type. -/
inductive Call where
  | create (id : TicketTypeId) (c : ConcertId) (dto : CreateTicketTypeDto) (u : UserId) (role : Role)
  | update (id : TicketTypeId) (dto : UpdateTicketTypeDto) (u : UserId) (role : Role)

/-- What a call writes and answers. -/
def Call.result (db : Db) : Call → Db × Except Failure TicketType
  | .create id c dto u role => TicketWindow.create id c dto u role db
  | .update id dto u role => TicketWindow.update id dto u role db

/-- One call after the other. -/
def next (db : Db) (call : Call) : Option Db := some (call.result db).1

/-- Every window is well-formed. -/
def WellFormed (db : Db) : Prop := ∀ tt ∈ db.ticketTypes, tt.WellFormed

/-- Row by row. -/
instance (db : Db) : Decidable (WellFormed db) :=
  inferInstanceAs (Decidable (∀ _ ∈ _, _))

/-- An update fits the row it changes. -/
def Fitting (db : Db) : Call → Prop
  | .create .. => True
  | .update id dto _ _ => ∀ row ∈ db.findType id, dto.Fits row.toWindow

/-- A run can be checked for updates that fit. -/
instance (db : Db) (call : Call) : Decidable (Fitting db call) := by
  cases call with
  | create => exact inferInstanceAs (Decidable True)
  | update id dto u role => exact inferInstanceAs (Decidable (∀ _ ∈ _, _))

/-- A create keeps the windows well formed. -/
theorem create_wellFormed {db : Db} (h : WellFormed db) (id : TicketTypeId) (c : ConcertId)
    (dto : CreateTicketTypeDto) (u : UserId) (role : Role) :
    WellFormed (create id c dto u role db).1 := by
  rw [create]
  split
  · exact h
  split
  · exact h
  split
  · exact h
  split
  · exact h
  · next x hx =>
    split
    · exact h
    · -- the new row is the last one
      intro tt htt
      rcases List.mem_append.mp htt with htt | htt
      · exact h tt htt
      · rw [List.mem_singleton.mp htt]
        exact dto.window_wellFormed hx

/-- So does an update that fits. -/
theorem update_wellFormed {db : Db} (h : WellFormed db) {id : TicketTypeId}
    {dto : UpdateTicketTypeDto} (u : UserId) (role : Role)
    (hfits : ∀ row ∈ db.findType id, dto.Fits row.toWindow) :
    WellFormed (update id dto u role db).1 := by
  rw [update]
  split
  · exact h
  · next existing hfind =>
    split
    · exact h
    split
    · exact h
    · next row hdata =>
      split
      · exact h
      · have hexisting : existing.WellFormed := h existing (RowTable.lookup_mem hfind)
        have hrow : row.soldOut.toWindow.WellFormed := by
          rw [TicketType.soldOut_window]
          exact (data_wellFormed_iff hexisting hdata).mpr (hfits existing hfind)
        intro tt htt
        obtain ⟨old, hold, rfl⟩ := List.mem_map.mp htt
        split
        · exact hrow
        · exact h old hold

/-- **A run.**  From well-formed windows, calls of `create` and of fitting updates lead to
    well-formed windows only. -/
theorem windows_wellFormed {db db' : Db} (h : WellFormed db)
    (hrun : Machine.RunIf next Fitting db db') : WellFormed db' := by
  refine Machine.RunIf.inv (fun db call db' hdb hfits hnext => ?_) hrun h
  obtain rfl := Option.some.inj hnext
  cases call with
  | create id c dto u role => exact create_wellFormed hdb id c dto u role
  | update id dto u role => exact update_wellFormed hdb u role hfits

/-! ### A sale that ends before it starts -/

/-- A field that is absent meets every condition. -/
theorem Field.All.of_omitted {α : Type} {P : α → Prop} : (Field.omitted : Field α).All P := by
  intro a h
  cases h

theorem sampleWindow : SaleWindowValid (.given (some 100)) (.given (some 200)) :=
  ⟨100, rfl, 200, rfl, by decide⟩

theorem sampleName : "VIP" ≠ "" := by
  decide

theorem samplePrice : (0 : Int) ≤ 10 := by
  decide

theorem sampleTotal : (1 : Int) ≤ 5 := by
  decide

theorem sampleMax : (1 : Int) ≤ 2 := by
  decide

/-- A type whose sale runs from 100 to 200. -/
def sampleCreate : CreateTicketTypeDto where
  name := "VIP"
  price := 10
  totalQty := 5
  maxPerUser := 2
  saleStartsAt := some 100
  saleEndsAt := .given (some 200)
  status := .omitted
  name_ne := sampleName
  price_nonneg := samplePrice
  totalQty_pos := sampleTotal
  maxPerUser_pos := sampleMax
  saleWindow := sampleWindow

/-- A request that gives `saleEndsAt` alone. -/
def endsOnly (e : Int) : UpdateTicketTypeDto where
  name := .omitted
  price := .omitted
  totalQty := .omitted
  soldQty := .omitted
  reservedQty := .omitted
  maxPerUser := .omitted
  saleStartsAt := .omitted
  saleEndsAt := .given (some e)
  status := .omitted
  price_nonneg := Field.All.of_omitted
  totalQty_pos := Field.All.of_omitted
  soldQty_nonneg := Field.All.of_omitted
  reservedQty_nonneg := Field.All.of_omitted
  maxPerUser_pos := Field.All.of_omitted
  saleWindow := trivial

/-- A concert that sells, before it has ticket types. -/
def emptyDb : Db := ⟨[⟨1, 1, .saleOpen⟩], []⟩

/-- The window is extended and stays well formed. -/
theorem windows_wellFormed_extended : ∃ db', Machine.RunIf next Fitting emptyDb db' ∧
    (db'.ticketTypes.map TicketType.toWindow = [⟨100, some 300⟩]) ∧ WellFormed db' := by
  have hend : ∃ db', Machine.RunIf next Fitting emptyDb db' ∧
      db'.ticketTypes.map TicketType.toWindow = [⟨100, some 300⟩] :=
    Machine.exists_runIf
      [Call.create 1 1 sampleCreate 1 .organizer, Call.update 1 (endsOnly 300) 1 .organizer]
      (fun db : Db => db.ticketTypes.map TicketType.toWindow = [⟨100, some 300⟩]) (by decide +kernel)
  obtain ⟨db', hrun, hwindows⟩ := hend
  exact ⟨db', hrun, hwindows, windows_wellFormed (by decide) hrun⟩

/-- The organizer moves the end of the sale before its start. -/
theorem update_breaks_window : WellFormed emptyDb ∧
    ∃ db', Machine.RunIf next (fun _ _ => True) emptyDb db' ∧ ¬ WellFormed db' :=
  ⟨by decide, Machine.exists_runIf
    [Call.create 1 1 sampleCreate 1 .organizer, Call.update 1 (endsOnly 50) 1 .organizer]
    (fun db => ¬ WellFormed db) (by decide +kernel)⟩

end TicketWindow
