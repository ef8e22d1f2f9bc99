import TicketBox.Pwa
import TicketBox.RowTable
import Mathlib.Data.Finset.Insert

/-! # The guest list import

    `csv-parse.service.ts` and `csv-import.processor.ts`: one pass over the rows
    of an uploaded file, which reports its errors and keeps every row with a name,
    and the job of the import queue, which writes the kept rows to the concert's
    guest list.  The rows are what the CSV library returns for the file.  A call
    of the job may fail, and then it has no effect; the queue runs the job again. -/

namespace GuestImport

open TicketStore (ConcertId)

/-- A row as the library returns it, by the columns the parser reads. -/
structure RawCsvRow where
  fullName : Option String
  name : Option String
  email : Option String
  phone : Option String
  sponsorName : Option String
  sponsor : Option String
  deriving DecidableEq

/-- `CsvRowResult`: a row as the parser returns it. -/
structure CsvRowResult where
  fullName : String
  email : Option String
  phone : Option String
  sponsorName : Option String
  deriving DecidableEq

/-- `x || y`, for strings that may be undefined. -/
def orElse (x y : Option String) : Option String :=
  match x with
  | some s => if s = "" then y else some s
  | none => y

/-- `row.fullName || row.name || ''` -/
def RawCsvRow.givenName (row : RawCsvRow) : String :=
  (orElse row.fullName (orElse row.name none)).getD ""

/-- `value?.trim() || null` -/
def trimmed (value : Option String) : Option String :=
  orElse (value.map fun s => String.ofList (CheckinPwa.trim s.toList)) none

/-- The e-mail of a row, trimmed; none where nothing is left. -/
def RawCsvRow.givenEmail (row : RawCsvRow) : Option String := trimmed row.email

/-- The phone of a row, trimmed; none where nothing is left. -/
def RawCsvRow.givenPhone (row : RawCsvRow) : Option String := trimmed row.phone

/-- The sponsor of a row, under either of its headings. -/
def RawCsvRow.givenSponsor (row : RawCsvRow) : Option String :=
  orElse row.sponsorName (orElse row.sponsor none)

/-! ## The two patterns -/

/-- `[^\s@]` -/
def isAddressChar (c : Char) : Bool := !CheckinPwa.isTrimmed c && c != '@'

/-- `^[^\s@]+@[^\s@]+\.[^\s@]+$`: one `@` with something before it, and a dot
    inside what follows it. -/
def emailRegex (s : String) : Bool :=
  match s.toList.splitOn '@' with
  | [account, domain] =>
      account.length != 0 && (account ++ domain).all isAddressChar
        && domain.tail.dropLast.contains '.'
  | _ => false

/-- `^[0-9]{10,11}$` -/
def phoneRegex (s : String) : Bool :=
  s.toList.all Char.isDigit && (s.toList.length == 10 || s.toList.length == 11)

/-! ## `parseBuffer` -/

/-- One of the two checks of a row's contact data: the value has to be accepted
    and not seen before; whatever it is, it is seen from now on. -/
def checkValue (accepts : String → Bool) (malformed duplicate : String → String)
    (given : Option String) (seen : Finset String) : List String × Finset String :=
  match given with
  | none => ([], seen)
  | some v =>
      (if accepts v = false then [malformed v] else if v ∈ seen then [duplicate v] else [],
        insert v seen)

/-- The line of the file a row stands on: the header is line 1. -/
def lineOf (i : Nat) : Nat := i + 2

/-- The checks of an e-mail, with those seen so far. -/
def checkEmail (i : Nat) : Option String → Finset String → List String × Finset String :=
  checkValue emailRegex (fun v => s!"Dòng {lineOf i}: Email sai định dạng ({v})")
    (fun v => s!"Dòng {lineOf i}: Email bị trùng lặp trong file ({v})")

/-- The checks of a phone, with those seen so far. -/
def checkPhone (i : Nat) : Option String → Finset String → List String × Finset String :=
  checkValue phoneRegex (fun v => s!"Dòng {lineOf i}: Số điện thoại sai định dạng ({v})")
    (fun v => s!"Dòng {lineOf i}: Số điện thoại bị trùng lặp trong file ({v})")

/-- The variables of the loop. -/
structure ParseState where
  validRecords : List CsvRowResult
  errors : List String
  seenEmails : Finset String
  seenPhones : Finset String

/-- What the parser returns of a row. -/
def RawCsvRow.result (row : RawCsvRow) : CsvRowResult where
  fullName := row.givenName
  email := row.givenEmail
  phone := row.givenPhone
  sponsorName := row.givenSponsor

/-- One turn of the parser's loop: errors are noted, and the row is kept all the same. -/
def parseRow (i : Nat) (row : RawCsvRow) (st : ParseState) : ParseState :=
  if row.givenName = "" then
    { st with errors := st.errors ++ [s!"Dòng {lineOf i}: Thiếu thông tin bắt buộc (Họ Tên)"] }
  else
    let (emailErrors, seenEmails) := checkEmail i row.givenEmail st.seenEmails
    let (phoneErrors, seenPhones) := checkPhone i row.givenPhone st.seenPhones
    -- a row with errors is kept too, so that the list can show it as invalid
    { validRecords := st.validRecords ++ [row.result]
      errors := st.errors ++ emailErrors ++ phoneErrors
      seenEmails, seenPhones }

/-- The parser's loop, from row `i`. -/
def parseRows : Nat → List RawCsvRow → ParseState → ParseState
  | _, [], st => st
  | i, row :: rows, st => parseRows (i + 1) rows (parseRow i row st)

/-- What `CsvParseService` makes of a file. -/
structure ParseResult where
  total : Nat
  validRecords : List CsvRowResult
  errors : List String

/-- `parseBuffer`, on the records that `csv-parse` returns. -/
def parseBuffer (records : List RawCsvRow) : ParseResult :=
  let st := parseRows 0 records ⟨[], [], ∅, ∅⟩
  { total := records.length, validRecords := st.validRecords, errors := st.errors }

/-! ## The job -/

/-- A row of `GuestListEntry`. -/
structure GuestListEntry where
  concertId : ConcertId
  fullName : String
  email : Option String
  phone : Option String
  sponsorName : Option String
  sourceFile : Option String
  deriving DecidableEq

/-- `FileStatus` of the schema. -/
inductive FileStatus where
  | pending | processing | completed | completedWithErrors | failed
  deriving DecidableEq

/-- `UploadedFile.errorMessage`: the list of the errors, or the message of what
    was thrown. -/
inductive ErrorMessage where
  | lines (errors : List String)
  | text (message : String)
  deriving DecidableEq

/-- A row of `UploadedFile`, of which the import writes these columns. -/
structure UploadedFile where
  id : String
  status : FileStatus
  errorMessage : Option ErrorMessage
  deriving DecidableEq

/-- The tables of the import. -/
structure Db where
  guestListEntries : List GuestListEntry
  uploadedFiles : List UploadedFile

/-- A job of the queue `csv-import`. -/
structure ImportJob where
  concertId : ConcertId
  uploadedFileId : String
  objectKey : String
  /-- `job.opts.attempts || 1` -/
  attempts : Nat

/-- What a failed call throws: the message, where it is an `Error`. -/
abbrev Thrown := Option String

/-- The awaited calls of the `try` block. -/
inductive ImportStep where
  | markProcessing | download | existingQuery | insertGuests | finalStatus
  deriving DecidableEq

/-- An attempt that is disturbed: the call that fails, and whether the write of
    `FAILED` after it fails too. -/
structure Failure where
  step : ImportStep
  thrown : Thrown
  markFailed : Bool

/-- An awaited call. -/
def await (failure : Option Failure) (step : ImportStep) : Except Thrown Unit :=
  match failure with
  | some f => if f.step = step then .error f.thrown else .ok ()
  | none => .ok ()

/-- `prisma.uploadedFile.findUnique` by id. -/
def Db.findFile (id : String) (db : Db) : Option UploadedFile :=
  RowTable.lookup UploadedFile.id id db.uploadedFiles

/-- `uploadedFile.update`, which throws for a missing row. -/
def Db.updateFile (id : String) (status : FileStatus) (errorMessage : Option ErrorMessage)
    (db : Db) : Except Thrown Db :=
  match db.findFile id with
  | none => .error (some "Record to update not found.")
  | some _ => .ok { db with
      uploadedFiles := RowTable.modify UploadedFile.id id
        (fun file => { file with status, errorMessage }) db.uploadedFiles }

/-- The concert's guest list. -/
def Db.guestList (concertId : ConcertId) (db : Db) : List GuestListEntry :=
  db.guestListEntries.filter fun entry => entry.concertId = concertId

/-- `existingEmailsSet`: the addresses among `emailsToCheck` that the concert's
    guest list has. -/
def Db.existingEmails (concertId : ConcertId) (emailsToCheck : List String) (db : Db) :
    List String :=
  let entries := (db.guestList concertId).filter fun entry =>
    entry.email.any fun e => emailsToCheck.contains e
  (entries.filterMap GuestListEntry.email).filter fun e => e != ""

/-- `row.email && existingEmailsSet.has(row.email)` -/
def CsvRowResult.isExisting (existing : List String) (row : CsvRowResult) : Bool :=
  row.email.any fun e => e != "" && existing.contains e

/-- The row that `createMany` inserts. -/
def CsvRowResult.entry (job : ImportJob) (row : CsvRowResult) : GuestListEntry where
  concertId := job.concertId
  fullName := row.fullName
  email := row.email
  phone := row.phone
  sponsorName := row.sponsorName
  sourceFile := some job.objectKey

/-- The kept rows whose address is listed already. -/
def skippedRecords (job : ImportJob) (validRecords : List CsvRowResult) (db : Db) :
    List CsvRowResult :=
  let existing := db.existingEmails job.concertId (validRecords.filterMap CsvRowResult.email)
  validRecords.filter fun row => row.isExisting existing

/-- The rows of the file that the concert's list does not have yet. -/
def recordsToInsert (job : ImportJob) (validRecords : List CsvRowResult) (db : Db) :
    List CsvRowResult :=
  let existing := db.existingEmails job.concertId (validRecords.filterMap CsvRowResult.email)
  validRecords.filter fun row => !row.isExisting existing

/-- The note about a row whose e-mail is there already. -/
def duplicateError (row : CsvRowResult) : String :=
  let email := row.email.getD ""
  s!"Bỏ qua: Email {email} đã tồn tại trong danh sách."

/-- What the insertion leaves: the database, the errors it adds and its counts. -/
structure Inserted where
  db : Db
  errors : List String
  insertedCount : Nat
  duplicateCount : Nat

/-- The block under `if (validRecords.length > 0)`; `createMany` inserts all of its
    rows or none. -/
def insertRecords (job : ImportJob) (validRecords : List CsvRowResult)
    (failure : Option Failure) (db : Db) : Except Thrown Inserted :=
  if validRecords = [] then .ok ⟨db, [], 0, 0⟩
  else
    match await failure .existingQuery with
    | .error e => .error e
    | .ok () =>
        let skipped := skippedRecords job validRecords db
        let records := recordsToInsert job validRecords db
        let errors := skipped.map duplicateError
        if records = [] then .ok ⟨db, errors, 0, skipped.length⟩
        else
          match await failure .insertGuests with
          | .error e => .error e
          | .ok () =>
              let entries := db.guestListEntries ++ records.map (CsvRowResult.entry job)
              .ok ⟨{ db with guestListEntries := entries }, errors, records.length, skipped.length⟩

/-- What a job that ends tells of its file. -/
structure ImportResult where
  status : FileStatus
  insertedCount : Nat
  duplicateCount : Nat
  deriving DecidableEq

/-- The status an import ends with. -/
def finalStatusOf (errors : List String) : FileStatus :=
  if errors.length > 0 then .completedWithErrors else .completed

/-- At most 50 errors are stored. -/
def errorMessageOf (errors : List String) : Option ErrorMessage :=
  if errors.length > 0 then some (.lines (errors.take 50)) else none

/-- The `try` block: the database as it leaves it, and what it returns or throws. -/
def tryImport (job : ImportJob) (rows : List RawCsvRow) (failure : Option Failure) (db : Db) :
    Db × Except Thrown ImportResult :=
  match await failure .markProcessing, db.updateFile job.uploadedFileId .processing none with
  | .error e, _ | _, .error e => (db, .error e)
  | .ok (), .ok db =>
      match await failure .download with
      | .error e => (db, .error e)
      | .ok () =>
          let parsed := parseBuffer rows
          if parsed.total = 0 then
            (db, .error (some "File CSV rỗng hoặc không đúng định dạng cột."))
          else
            match insertRecords job parsed.validRecords failure db with
            | .error e => (db, .error e)
            | .ok inserted =>
                let errors := parsed.errors ++ inserted.errors
                match await failure .finalStatus,
                    inserted.db.updateFile job.uploadedFileId (finalStatusOf errors)
                      (errorMessageOf errors) with
                | .error e, _ | _, .error e => (inserted.db, .error e)
                | .ok (), .ok db =>
                    (db, .ok ⟨finalStatusOf errors, inserted.insertedCount,
                      inserted.duplicateCount⟩)

/-- `process`: where the last attempt throws, the file is marked as failed. -/
def process (job : ImportJob) (rows : List RawCsvRow) (attemptsMade : Nat)
    (failure : Option Failure) (db : Db) : Db × Except Thrown ImportResult :=
  match tryImport job rows failure db with
  | (db, .ok result) => (db, .ok result)
  | (db, .error e) =>
      if attemptsMade + 1 ≥ job.attempts && !(failure.any Failure.markFailed) then
        match db.updateFile job.uploadedFileId .failed
            (some (.text (e.getD "UNKNOWN_CSV_ERROR"))) with
        | .ok db => (db, .error e)
        | .error e => (db, .error e)
      else (db, .error e)

/-- The attempts of a job, the last of which completes: how each is disturbed, and
    the databases before the first and after the last. -/
inductive Completes (job : ImportJob) (rows : List RawCsvRow) :
    Nat → List (Option Failure) → Db → Db → Prop where
  | completed {n failure db db' result}
      (h : process job rows n failure db = (db', .ok result)) :
      Completes job rows n [failure] db db'
  | retried {n failure failures db db' db'' e}
      (h : process job rows n failure db = (db', .error e))
      (next : Completes job rows (n + 1) failures db' db'') :
      Completes job rows n (failure :: failures) db db''

/-- The database an import leaves in which nothing fails. -/
def undisturbed (job : ImportJob) (rows : List RawCsvRow) (db : Db) : Db :=
  (process job rows 0 none db).1

end GuestImport
