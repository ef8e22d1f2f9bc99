import TicketBox.Machine
import TicketBox.Pwa

/-! # Uploads, and the artist's biography from a press kit

    `uploads.service.ts` stores a file, writes its row and adds a job to a queue;
    `ai-bio.processor.ts` works on the jobs of press kits: it loads the file, takes the
    text out of the PDF, has a biography written and saves it with the file's status.
    An upload and an attempt of a job go on call by call, in any order with the others.
    The queue gives a job three attempts; a worker that stalls loses its attempt.  A guest
    list has a queue of its own, and of its import there is what it writes on the row of
    its file.  The PDF library and the model that writes are parameters
    (`Platform`, `Choice`). -/

namespace PressKit

open TicketStore (ConcertId UserId Role)

/-- `UploadedFile.id`. -/
abbrev FileId := String

/-- The bytes of a file. -/
abbrev Buffer := List UInt8

/-! ## Text -/

/-- `text.length`, in UTF-16 code units. -/
def jsLength (text : String) : Nat :=
  (text.toList.map fun c => if 0x10000 ≤ c.toNat then 2 else 1).sum

/-- The characters that fit into the code units left. -/
def takeUnits : Nat → List Char → List Char
  | _, [] => []
  | n, c :: cs =>
      let units := if 0x10000 ≤ c.toNat then 2 else 1
      if units ≤ n then c :: takeUnits (n - units) cs else []

/-- `text.slice(0, n)`, up to half a character at the end. -/
def sliceUnits (n : Nat) (text : String) : String := String.ofList (takeUnits n text.toList)

/-- `String.prototype.trim`. -/
def trim (text : String) : String := String.ofList (CheckinPwa.trim text.toList)

/-- `replace(/[^\w.-]+/g, '_')`; `inRun` says that the run has its underscore. -/
def replaceUnsafe : Bool → List Char → List Char
  | _, [] => []
  | inRun, c :: cs =>
      if c.isAlphanum || c = '_' || c = '.' || c = '-' then c :: replaceUnsafe false cs
      else if inRun then replaceUnsafe true cs
      else '_' :: replaceUnsafe true cs

/-- `replace(/\s+/g, ' ')` -/
def collapseSpace : Bool → List Char → List Char
  | _, [] => []
  | inRun, c :: cs =>
      if !CheckinPwa.isTrimmed c then c :: collapseSpace false cs
      else if inRun then collapseSpace true cs
      else ' ' :: collapseSpace true cs

/-- `cleanText` -/
def cleanText (text : String) : String :=
  let collapsed := collapseSpace false text.toList
  String.ofList (CheckinPwa.trim (collapsed.filter fun c => c.toNat ≠ 0))

/-! ## Rows -/

/-- A row of `Concert`, of which uploads and the AI job use these columns. -/
structure Concert where
  id : ConcertId
  organizerId : UserId
  artistBio : Option String
  deriving DecidableEq

/-- `FileStatus` of the schema. -/
inductive FileStatus where
  | pending | processing | completed | completedWithErrors | failed
  deriving DecidableEq

/-- A row of `UploadedFile`. -/
structure UploadedFile where
  id : FileId
  concertId : Option ConcertId
  objectKey : String
  fileName : String
  mimeType : String
  purpose : String
  status : FileStatus
  errorMessage : Option String
  deriving DecidableEq

/-- `MulterFile` -/
structure MulterFile where
  originalname : String
  mimetype : String
  size : Nat
  buffer : Buffer
  deriving DecidableEq

/-! ## The two uploads -/

/-- What the two uploads differ in. -/
structure UploadKind where
  accepts : String → Bool
  badType : String
  maxSizeInBytes : Nat
  tooLarge : String
  forbidden : String
  folder : String
  purpose : String

/-- `uploadGuestListCsv` -/
def guestListCsv : UploadKind where
  accepts := fun mimetype =>
    decide ("csv".toList <:+: mimetype.toList) || decide ("excel".toList <:+: mimetype.toList)
  badType := "File phải là định dạng CSV"
  maxSizeInBytes := 5 * 1024 * 1024
  tooLarge := "File CSV không được vượt quá 5MB"
  forbidden := "Bạn không có quyền import danh sách cho concert này"
  folder := "guest-list"
  purpose := "GUEST_LIST_CSV"

/-- `uploadArtistPdf` -/
def artistPdf : UploadKind where
  accepts := fun mimetype => mimetype = "application/pdf"
  badType := "File phải là PDF"
  maxSizeInBytes := 10 * 1024 * 1024
  tooLarge := "File PDF không được vượt quá 10MB"
  forbidden := "Bạn không có quyền upload PDF cho concert này"
  folder := "artist-bio"
  purpose := "ARTIST_PRESS_KIT"

/-- The two routes that take a file. -/
inductive Route where
  | guestList | pressKit
  deriving DecidableEq

/-- What a route lets through. -/
def Route.kind : Route → UploadKind
  | .guestList => guestListCsv
  | .pressKit => artistPdf

/-- The arguments of `UploadService.upload`. -/
structure UploadParams where
  route : Route
  concertId : ConcertId
  file : MulterFile
  userId : UserId
  role : Role
  deriving DecidableEq

/-- `concerts/{concertId}/{folder}/{uuid}-{safeFileName}` -/
def objectKeyOf (params : UploadParams) (uuid : String) : String :=
  let safeFileName := String.ofList (replaceUnsafe false params.file.originalname.toList)
  s!"concerts/{params.concertId}/{params.route.kind.folder}/{uuid}-{safeFileName}"

/-- The exceptions of an upload. -/
inductive UploadError where
  | badRequest (message : String)
  | notFound (message : String)
  | forbidden (message : String)
  | internal
  deriving DecidableEq

/-- The awaited call an upload is at, or what it ended with. -/
inductive UploadStage where
  | findConcert
  | store (objectKey : String)
  | createFile (objectKey : String)
  | addJob (objectKey : String) (fileId : FileId)
  | done (answer : Except UploadError FileId)

/-- An upload in flight: its arguments and the call it awaits. -/
structure Upload where
  params : UploadParams
  stage : UploadStage

/-- The checks before the first call. -/
def UploadParams.start (params : UploadParams) : UploadStage :=
  let kind := params.route.kind
  if kind.accepts params.file.mimetype = false then .done (.error (.badRequest kind.badType))
  else if kind.maxSizeInBytes < params.file.size then .done (.error (.badRequest kind.tooLarge))
  else .findConcert

/-! ## Jobs -/

/-- The awaited call an attempt is at; `markFailed` is the one of the `catch` block, and at
    `rethrow` the error goes on to the queue, which gives the job up. -/
inductive Stage where
  | markProcessing
  | download
  | extract (buffer : Buffer)
  | generate (limitedText : String)
  | save (artistBio : String)
  | invalidate (left : Nat)
  | markFailed (thrown : Option String)
  | rethrow
  deriving DecidableEq

/-- Between attempts a job waits; after the last one it is kept as failed. -/
inductive Phase where
  | waiting
  | active (stage : Stage)
  | failed
  deriving DecidableEq

/-- A job of the queue; there is one for each file. -/
structure Job where
  uploadedFileId : FileId
  concertId : ConcertId
  objectKey : String
  attemptsMade : Nat
  phase : Phase
  deriving DecidableEq

/-- `attempts: 3` -/
def maxAttempts : Nat := 3

/-! ## The state -/

/-- The rows, the object store, the queues and what is in flight. -/
structure State where
  concerts : List Concert
  files : List UploadedFile
  objects : String → Option Buffer
  jobs : List Job
  /-- the guest lists handed to the import queue -/
  csvJobs : List FileId
  uploads : List Upload
  /-- bookkeeping: the ids of rows generated so far -/
  generated : List FileId
  /-- bookkeeping: the files stored, with their keys -/
  stored : List (String × UploadParams)
  /-- bookkeeping: the biographies entered by hand -/
  entered : List (ConcertId × String)
  /-- bookkeeping: the files whose biography has been saved -/
  saved : List FileId
  /-- bookkeeping: those of which an attempt ended early after it had saved -/
  cutShort : List FileId
  /-- bookkeeping: those whose job was not added, or whose failure was not recorded -/
  lost : List FileId
  /-- bookkeeping: those whose worker stalled between the end of its last attempt and the
      queue's notice of it -/
  unended : List FileId

/-- `prisma.concert.findUnique` by id. -/
def State.findConcert (id : ConcertId) (s : State) : Option Concert :=
  RowTable.lookup Concert.id id s.concerts

/-- `prisma.uploadedFile.findUnique` by id. -/
def State.findFile (id : FileId) (s : State) : Option UploadedFile :=
  RowTable.lookup UploadedFile.id id s.files

/-- The job of a file in the queue. -/
def State.findJob (id : FileId) (s : State) : Option Job :=
  RowTable.lookup Job.uploadedFileId id s.jobs

/-- The status and the error of a file's row written. -/
def State.setStatus (id : FileId) (status : FileStatus) (errorMessage : Option String)
    (s : State) : State :=
  { s with
    files := RowTable.modify UploadedFile.id id
      (fun file => { file with status, errorMessage }) s.files }

/-- `prisma.concert.update` of the biography. -/
def State.setBio (id : ConcertId) (artistBio : Option String) (s : State) : State :=
  { s with concerts := RowTable.modify Concert.id id (fun c => { c with artistBio }) s.concerts }

/-- A job of the queue replaced. -/
def State.setJob (job : Job) (s : State) : State :=
  { s with jobs := RowTable.modify Job.uploadedFileId job.uploadedFileId (fun _ => job) s.jobs }

/-- Upload `i` replaced. -/
def State.setUpload (i : Nat) (upload : Upload) (s : State) : State :=
  { s with uploads := s.uploads.set i upload }

/-! ## A call of an upload -/

/-- What is resolved for a call: whether it fails, what it throws (`none` where that is no
    `Error`), the uuid that is generated and what the model replies. -/
structure Choice where
  fails : Bool := false
  thrown : Option String := none
  uuid : String := ""
  reply : Option String := none

/-- The call that `upload` is at, carried out; ids are generated once. -/
def State.uploadCall (i : Nat) (upload : Upload) (ch : Choice) (s : State) : Option State :=
  let params := upload.params
  let kind := params.route.kind
  let goTo := fun stage => { upload with stage }
  match upload.stage with
  | .done _ => none
  | .findConcert =>
      if ch.fails then some (s.setUpload i (goTo (.done (.error .internal))))
      else
        match s.findConcert params.concertId with
        | none =>
            some (s.setUpload i (goTo (.done (.error (.notFound "Không tìm thấy concert")))))
        | some concert =>
            if params.role ≠ .admin ∧ concert.organizerId ≠ params.userId then
              some (s.setUpload i (goTo (.done (.error (.forbidden kind.forbidden)))))
            else some (s.setUpload i (goTo (.store (objectKeyOf params ch.uuid))))
  | .store objectKey =>
      if ch.fails then some (s.setUpload i (goTo (.done (.error .internal))))
      else if (s.objects objectKey).isSome then none
      else
        some { s.setUpload i (goTo (.createFile objectKey)) with
          objects := Function.update s.objects objectKey (some params.file.buffer)
          stored := (objectKey, params) :: s.stored }
  | .createFile objectKey =>
      -- the foreign key refuses the row of a concert that is gone
      if ch.fails ∨ s.findConcert params.concertId = none then
        some (s.setUpload i (goTo (.done (.error .internal))))
      else if ch.uuid ∈ s.generated then none
      else
        let file : UploadedFile :=
          { id := ch.uuid
            concertId := some params.concertId
            objectKey := objectKey
            fileName := params.file.originalname
            mimeType := params.file.mimetype
            purpose := kind.purpose
            status := .pending
            errorMessage := none }
        some { s.setUpload i (goTo (.addJob objectKey ch.uuid)) with
          files := s.files ++ [file], generated := ch.uuid :: s.generated }
  | .addJob objectKey fileId =>
      if ch.fails then
        some { s.setUpload i (goTo (.done (.error .internal))) with lost := fileId :: s.lost }
      else
        let s := s.setUpload i (goTo (.done (.ok fileId)))
        match params.route with
        | .guestList => some { s with csvJobs := s.csvJobs ++ [fileId] }
        | .pressKit =>
            let job : Job :=
              { uploadedFileId := fileId
                concertId := params.concertId
                objectKey := objectKey
                attemptsMade := 0
                phase := .waiting }
            some { s with jobs := s.jobs ++ [job] }

/-! ## A call of an attempt -/

/-- The libraries that the AI job calls. -/
structure Platform where
  /-- `pdf-parse`; `none` where it throws -/
  pdfParse : Buffer → Option String
  /-- `GEMINI_API_KEY` is set -/
  genAI : Bool

/-- `extractText` -/
def Platform.extractText (platform : Platform) (buffer : Buffer) : Option String :=
  (platform.pdfParse buffer).map cleanText

/-- What is returned without the model. -/
def mockBio (cleaned : String) : String :=
  "\n".intercalate
    ["Đây là phần giới thiệu nghệ sĩ được sinh tự động từ press kit PDF.", "",
      s!"Tóm tắt: {sliceUnits 900 cleaned}", "",
      "Nội dung được rút gọn để phù hợp hiển thị trên trang chi tiết concert."]

/-- `generateArtistBio`, with the model's reply, or what its call throws. -/
def Platform.generateArtistBio (platform : Platform) (text : String)
    (reply : Except (Option String) String) : Except (Option String) String :=
  let cleaned := trim text
  if cleaned = "" then .error (some "AI_INPUT_EMPTY")
  else if platform.genAI then reply.map trim
  else .ok (mockBio cleaned)

/-- An attempt ends with an error: the job waits for its next one, or is kept as failed. -/
def State.endAttempt (job : Job) (s : State) : State :=
  let attemptsMade := job.attemptsMade + 1
  let phase := if attemptsMade < maxAttempts then Phase.waiting else Phase.failed
  s.setJob { job with attemptsMade, phase }

/-- The `catch` block: only the last attempt records its failure. -/
def State.catchError (job : Job) (thrown : Option String) (s : State) : State :=
  if maxAttempts ≤ job.attemptsMade + 1 then
    s.setJob { job with phase := .active (.markFailed thrown) }
  else s.endAttempt job

/-- The job goes on to another call. -/
def State.goTo (job : Job) (stage : Stage) (s : State) : State :=
  s.setJob { job with phase := .active stage }

/-- The call that an attempt is at, carried out. -/
def State.jobCall (platform : Platform) (job : Job) (ch : Choice) (s : State) : Stage → State
  | .markProcessing =>
      if ch.fails ∨ s.findFile job.uploadedFileId = none then s.catchError job ch.thrown
      else (s.setStatus job.uploadedFileId .processing none).goTo job .download
  | .download =>
      match s.objects job.objectKey with
      | none => s.catchError job ch.thrown
      | some buffer =>
          if ch.fails then s.catchError job ch.thrown else s.goTo job (.extract buffer)
  | .extract buffer =>
      match platform.extractText buffer with
      | none => s.catchError job ch.thrown
      | some extractedText =>
          -- the parser may also time out
          if ch.fails then s.catchError job (some "PDF_PARSE_TIMEOUT")
          else if jsLength extractedText < 20 then
            s.catchError job (some "PDF_TEXT_EXTRACTION_FAILED")
          else s.goTo job (.generate (sliceUnits 8000 extractedText))
  | .generate limitedText =>
      let reply := match ch.reply with
        | some text => .ok text
        | none => .error ch.thrown
      match platform.generateArtistBio limitedText reply with
      | .error thrown => s.catchError job thrown
      | .ok artistBio =>
          if jsLength (trim artistBio) < 20 then s.catchError job (some "AI_BIO_EMPTY")
          else s.goTo job (.save artistBio)
  | .save artistBio =>
      if ch.fails ∨ s.findConcert job.concertId = none ∨ s.findFile job.uploadedFileId = none then
        s.catchError job ch.thrown
      else
        let s := s.setBio job.concertId (some artistBio)
        let s := s.setStatus job.uploadedFileId .completed none
        { s.goTo job (.invalidate 3) with saved := job.uploadedFileId :: s.saved }
  | .invalidate left =>
      if ch.fails then
        { s.catchError job ch.thrown with cutShort := job.uploadedFileId :: s.cutShort }
      else
        match left with
        | n + 2 => s.goTo job (.invalidate (n + 1))
        -- a job that is done is removed from the queue
        | _ => { s with jobs := RowTable.remove Job.uploadedFileId job.uploadedFileId s.jobs }
  | .markFailed thrown =>
      -- where the row cannot be written, this error takes the place of the first one
      if ch.fails ∨ s.findFile job.uploadedFileId = none then
        { s.goTo job .rethrow with lost := job.uploadedFileId :: s.lost }
      else
        (s.setStatus job.uploadedFileId .failed
          (some (thrown.getD "UNKNOWN_AI_BIO_ERROR"))).goTo job .rethrow
  | .rethrow => s.endAttempt job

/-- What is cut short when the attempt ends at this stage. -/
def State.cutBy (s : State) (job : Job) : Stage → List FileId
  | .invalidate _ => job.uploadedFileId :: s.cutShort
  | _ => s.cutShort

/-- What the queue has not been told of when the worker stalls at this stage. -/
def State.unendedBy (s : State) (job : Job) : Stage → List FileId
  | .rethrow => job.uploadedFileId :: s.unended
  | _ => s.unended

/-- A worker stalls: its job waits again, or has stalled too often and is failed. -/
def State.stall (job : Job) (requeued : Bool) (stage : Stage) (s : State) : State :=
  let cutShort := s.cutBy job stage
  let unended := s.unendedBy job stage
  if requeued then { s.setJob { job with phase := .waiting } with cutShort, unended }
  else
    { s.setJob { job with phase := .failed } with
      cutShort, unended, lost := job.uploadedFileId :: s.lost }

/-! ## The import of a guest list -/

/-- What `csv-import.processor.ts` writes on the row of its file: at its start, at its end
    with the lines that were refused, and in the `catch` block. -/
inductive ImportWrite where
  | started
  | ended (errorMsg : Option String)
  | caught (thrown : Option String)
  deriving DecidableEq

/-- The status that a write of the guest-list processor sets. -/
def ImportWrite.status : ImportWrite → FileStatus
  | .started => .processing
  | .ended none => .completed
  | .ended (some _) => .completedWithErrors
  | .caught _ => .failed

/-- The error that a write of the guest-list processor sets. -/
def ImportWrite.errorMessage : ImportWrite → Option String
  | .started => none
  | .ended errorMsg => errorMsg
  | .caught thrown => some (thrown.getD "UNKNOWN_CSV_ERROR")

/-! ## The machine -/

/-- One step of a client, of the worker or of the queue. -/
inductive Move where
  | upload (params : UploadParams)
  | uploadCall (i : Nat) (ch : Choice)
  /-- a worker takes a job that waits -/
  | take (id : FileId)
  | jobCall (id : FileId) (ch : Choice)
  | stall (id : FileId) (requeued : Bool)
  /-- the concert's biography is edited by hand -/
  | edit (id : ConcertId) (artistBio : Option String)
  /-- the import of a guest list writes the status of its file -/
  | importCall (id : FileId) (write : ImportWrite)
  /-- a concert is removed, and its files' rows with it -/
  | removeConcert (id : ConcertId)

/-- `ConcertService.remove`, with the rows of the concert's files. -/
def State.removeConcert (id : ConcertId) (s : State) : State :=
  { s with
    concerts := RowTable.remove Concert.id id s.concerts
    files := s.files.filter fun file => file.concertId ≠ some id }

/-- `update` of a concert, as far as it writes the biography. -/
def State.edit (id : ConcertId) (artistBio : Option String) (s : State) : State :=
  { s.setBio id artistBio with
    entered := (artistBio.map fun bio => (id, bio)).toList ++ s.entered }

/-- One step; none where it is not possible. -/
def next (platform : Platform) (s : State) : Move → Option State
  | .upload params => some { s with uploads := s.uploads ++ [⟨params, params.start⟩] }
  | .uploadCall i ch => s.uploads[i]?.bind fun upload => s.uploadCall i upload ch
  | .take id =>
      match s.findJob id with
      | some job => if job.phase = .waiting then some (s.goTo job .markProcessing) else none
      | none => none
  | .jobCall id ch =>
      match s.findJob id with
      | some job =>
          match job.phase with
          | .active stage => some (s.jobCall platform job ch stage)
          | _ => none
      | none => none
  | .stall id requeued =>
      match s.findJob id with
      | some job =>
          match job.phase with
          | .active stage => some (s.stall job requeued stage)
          | _ => none
      | none => none
  | .edit id artistBio => some (s.edit id artistBio)
  | .importCall id write =>
      if id ∈ s.csvJobs then some (s.setStatus id write.status write.errorMessage) else none
  | .removeConcert id => some (s.removeConcert id)

/-- Concerts, and nothing uploaded yet. -/
structure Opening (s : State) : Prop where
  concerts : RowTable.Keyed Concert.id s.concerts
  files : s.files = []
  objects : ∀ objectKey, s.objects objectKey = none
  jobs : s.jobs = []
  csvJobs : s.csvJobs = []
  uploads : s.uploads = []
  stored : s.stored = []
  entered : s.entered = []
  saved : s.saved = []
  cutShort : s.cutShort = []
  lost : s.lost = []

end PressKit
