import TicketBox.PressKitProofs

/-! # The status of an uploaded file

    The row of a press kit says what became of it: `COMPLETED` that its biography has been
    saved, `FAILED` that its job was at its last attempt (`status_settled`).  While it is
    `PENDING` or `PROCESSING`, its job is in the queue or about to be added, unless a call
    was lost (`unsettled_has_job`).  The two follow from what the row and the job of a file
    have to do with each other (`State.Tells`), which every move keeps (`Tracked`). -/

namespace PressKit

open Machine
open TicketStore (ConcertId UserId Role)

variable {platform : Platform} {s s' s₀ : State} {job job' : Job} {stage : Stage} {ch : Choice}
  {id : FileId} {file : UploadedFile}

/-- The purpose of press kits. -/
abbrev pressKitPurpose : String := artistPdf.purpose

/-- The job of the file has not been given up. -/
def State.Live (s : State) (id : FileId) : Prop :=
  ∃ job ∈ s.jobs, job.uploadedFileId = id ∧ job.phase ≠ .failed

/-- An upload has made the file's row and is about to add the job. -/
def State.Adding (s : State) (id : FileId) : Prop :=
  ∃ (i : Nat) (upload : Upload) (objectKey : String),
    s.uploads[i]? = some upload ∧ upload.stage = .addJob objectKey id

/-- The job is to delete cache entries. -/
def Job.Invalidating (job : Job) : Prop := ∃ left, job.phase = .active (.invalidate left)

/-- The job has been given up after its last attempt, or is about to be, or its worker
    stalled in between. -/
def Job.GivenUp (job : Job) (unended : List FileId) : Prop :=
  maxAttempts ≤ job.attemptsMade + 1 ∧
    (job.phase = .failed ∧ job.attemptsMade = maxAttempts ∨ job.phase = .active .rethrow ∨
      job.uploadedFileId ∈ unended)

/-- A job given up stays so. -/
theorem Job.GivenUp.mono {unended unended' : List FileId} (h : job.GivenUp unended)
    (hsub : unended ⊆ unended') : job.GivenUp unended' :=
  ⟨h.1, h.2.imp_right (Or.imp_right (@hsub _))⟩

/-- What the row of a press kit has to do with its job. -/
structure State.Tells (s : State) (file : UploadedFile) : Prop where
  completed : file.status = .completed → file.id ∈ s.saved
  failed : file.status = .failed → file.errorMessage.isSome ∧
    ∃ job ∈ s.jobs, job.uploadedFileId = file.id ∧ job.GivenUp s.unended
  unsettled : file.status = .pending ∨ file.status = .processing →
    s.Live file.id ∨ s.Adding file.id ∨ file.id ∈ s.lost
  cut : file.id ∈ s.saved → file.id ∈ s.cutShort ∨
    ∀ job ∈ s.jobs, job.uploadedFileId = file.id → job.Invalidating
  invalidating : ∀ job ∈ s.jobs, job.uploadedFileId = file.id → job.Invalidating →
    file.status = .completed
  rethrown : ∀ job ∈ s.jobs, job.uploadedFileId = file.id → job.phase = .active .rethrow →
    file.status = .failed ∨ file.id ∈ s.lost

/-- How often a job has been tried, by its phase. -/
structure Job.Counted (job : Job) : Prop where
  live : job.phase ≠ .failed → job.attemptsMade < maxAttempts
  last : ∀ message, job.phase = .active (.markFailed message) → maxAttempts ≤ job.attemptsMade + 1
  rethrown : job.phase = .active .rethrow → maxAttempts ≤ job.attemptsMade + 1

/-- A job that is neither marking its failure nor through with it. -/
theorem counted_of_phase (hlive : job.phase ≠ .failed → job.attemptsMade < maxAttempts)
    (hmark : ∀ message, job.phase ≠ .active (.markFailed message))
    (hrethrow : job.phase ≠ .active .rethrow) : job.Counted :=
  ⟨hlive, fun message hphase => absurd hphase (hmark message),
    fun hphase => absurd hphase hrethrow⟩

/-- What is true of an upload that is about to add the job of `id`. -/
structure State.Ready (s : State) (upload : Upload) (id : FileId) : Prop where
  new : ∀ job ∈ s.jobs, job.uploadedFileId ≠ id
  unsaved : id ∉ s.saved
  unlisted : id ∉ s.csvJobs
  generated : id ∈ s.generated
  row : ∀ file ∈ s.files, file.id = id → file.status = .pending ∧
    file.purpose = upload.params.route.kind.purpose

/-- What every state of a run keeps: ids are generated once, a job and its upload do not
    meet, the guest lists are no press kits, and the rows of these tell the truth. -/
structure Tracked (s : State) : Prop where
  files : RowTable.Keyed UploadedFile.id s.files
  jobs : RowTable.Keyed Job.uploadedFileId s.jobs
  counted : ∀ job ∈ s.jobs, job.Counted
  filesKnown : ∀ file ∈ s.files, file.id ∈ s.generated
  known : ∀ job ∈ s.jobs, job.uploadedFileId ∈ s.generated
  savedKnown : ∀ id ∈ s.saved, id ∈ s.generated
  listsKnown : ∀ id ∈ s.csvJobs, id ∈ s.generated
  lists : ∀ file ∈ s.files, file.id ∈ s.csvJobs → file.purpose ≠ pressKitPurpose
  once : ∀ (i j : Nat) (upload upload' : Upload) (key key' : String) (id : FileId),
    s.uploads[i]? = some upload → s.uploads[j]? = some upload' →
    upload.stage = .addJob key id → upload'.stage = .addJob key' id → i = j
  ready : ∀ upload ∈ s.uploads, ∀ objectKey id, upload.stage = .addJob objectKey id →
    s.Ready upload id
  tells : ∀ file ∈ s.files, file.purpose = pressKitPurpose → s.Tells file

/-- At the start there are no files. -/
theorem Opening.tracked (h : Opening s) : Tracked s where
  files := by
    rw [h.files]
    exact List.nodup_nil
  jobs := by
    rw [h.jobs]
    exact List.nodup_nil
  counted job hjob := by
    rw [h.jobs] at hjob
    cases hjob
  filesKnown file hfile := by
    rw [h.files] at hfile
    cases hfile
  known job hjob := by
    rw [h.jobs] at hjob
    cases hjob
  savedKnown id hid := by
    rw [h.saved] at hid
    cases hid
  listsKnown id hid := by
    rw [h.csvJobs] at hid
    cases hid
  lists file hfile := by
    rw [h.files] at hfile
    cases hfile
  once i j upload upload' key key' id hi := by
    rw [h.uploads] at hi
    cases hi
  ready upload hupload := by
    rw [h.uploads] at hupload
    cases hupload
  tells file hfile := by
    rw [h.files] at hfile
    cases hfile

/-! ## A job goes on -/

/-- A row whose job and bookkeeping stay as they are still tells the truth. -/
theorem State.Tells.frame (h : s.Tells file)
    (hjobs : ∀ job, job.uploadedFileId = file.id → (job ∈ s.jobs ↔ job ∈ s'.jobs))
    (hsaved : file.id ∈ s'.saved ↔ file.id ∈ s.saved) (hcut : s.cutShort ⊆ s'.cutShort)
    (hlost : s.lost ⊆ s'.lost) (hunended : s.unended ⊆ s'.unended)
    (hadding : s.Adding file.id → s'.Adding file.id) : s'.Tells file where
  completed hstatus := hsaved.mpr (h.completed hstatus)
  failed hstatus := by
    obtain ⟨hmessage, job, hjob, hid, hgiven⟩ := h.failed hstatus
    exact ⟨hmessage, job, (hjobs job hid).mp hjob, hid, hgiven.mono hunended⟩
  unsettled hstatus := by
    rcases h.unsettled hstatus with ⟨job, hjob, hid, hlive⟩ | hadd | hmem
    · exact .inl ⟨job, (hjobs job hid).mp hjob, hid, hlive⟩
    · exact .inr (.inl (hadding hadd))
    · exact .inr (.inr (hlost hmem))
  cut hsaved' := by
    rcases h.cut (hsaved.mp hsaved') with hmem | hall
    · exact .inl (hcut hmem)
    · exact .inr fun job hjob hid => hall job ((hjobs job hid).mpr hjob) hid
  invalidating job hjob hid := h.invalidating job ((hjobs job hid).mpr hjob) hid
  rethrown job hjob hid hphase :=
    (h.rethrown job ((hjobs job hid).mpr hjob) hid hphase).imp_right (@hlost _)

/-- The rows after the status of one file may have been written. -/
structure Rewritten (files files' : List UploadedFile) (id : FileId) : Prop where
  ids : files'.map UploadedFile.id = files.map UploadedFile.id
  others : ∀ file ∈ files', file.id ≠ id → file ∈ files
  purposes : ∀ file' ∈ files', ∃ file ∈ files, file.id = file'.id ∧ file.purpose = file'.purpose

/-- No row is written. -/
theorem Rewritten.refl (files : List UploadedFile) (id : FileId) : Rewritten files files id :=
  ⟨rfl, fun _ hfile _ => hfile, fun file hfile => ⟨file, hfile, rfl, rfl⟩⟩

/-- One row is written. -/
theorem Rewritten.setStatus (s : State) (id : FileId) (status : FileStatus)
    (errorMessage : Option String) :
    Rewritten s.files (s.setStatus id status errorMessage).files id where
  ids := RowTable.keys_modify fun _ => rfl
  others file hfile hne := by
    obtain ⟨file₀, hfile₀, rfl⟩ := RowTable.mem_modify hfile
    by_cases hid : file₀.id = id
    · rw [if_pos hid] at hne
      exact absurd hid hne
    · rw [if_neg hid]
      exact hfile₀
  purposes file hfile := by
    obtain ⟨file₀, hfile₀, rfl⟩ := RowTable.mem_modify hfile
    refine ⟨file₀, hfile₀, ?_, ?_⟩ <;> split <;> rfl

/-- What a call may do to the job it belongs to, to its file and to the bookkeeping: the
    other files and jobs stay, and the file's row still tells the truth. -/
structure Acted (s s' : State) (job : Job) : Prop where
  rewritten : Rewritten s.files s'.files job.uploadedFileId
  jobs : RowTable.Keyed Job.uploadedFileId s'.jobs
  counted : ∀ job' ∈ s'.jobs, job'.Counted
  others : ∀ job', job'.uploadedFileId ≠ job.uploadedFileId → (job' ∈ s.jobs ↔ job' ∈ s'.jobs)
  known : ∀ job' ∈ s'.jobs, ∃ job₀ ∈ s.jobs, job₀.uploadedFileId = job'.uploadedFileId
  saved : ∀ id, id ≠ job.uploadedFileId → (id ∈ s'.saved ↔ id ∈ s.saved)
  cutShort : s.cutShort ⊆ s'.cutShort
  lost : s.lost ⊆ s'.lost
  unended : s.unended ⊆ s'.unended
  uploads : s'.uploads = s.uploads
  generated : s'.generated = s.generated
  csvJobs : s'.csvJobs = s.csvJobs
  tells : ∀ file ∈ s'.files, file.id = job.uploadedFileId → file.purpose = pressKitPurpose →
    s'.Tells file

/-- A call of the job keeps its file tracked. -/
theorem Tracked.acted (h : Tracked s) (hjob : job ∈ s.jobs) (hacted : Acted s s' job) :
    Tracked s' where
  files := by
    rw [RowTable.Keyed, hacted.rewritten.ids]
    exact h.files
  jobs := hacted.jobs
  counted := hacted.counted
  filesKnown file hfile := by
    obtain ⟨file₀, hfile₀, hid, -⟩ := hacted.rewritten.purposes file hfile
    rw [hacted.generated, ← hid]
    exact h.filesKnown file₀ hfile₀
  known job' hjob' := by
    obtain ⟨job₀, hjob₀, hid⟩ := hacted.known job' hjob'
    rw [hacted.generated, ← hid]
    exact h.known job₀ hjob₀
  savedKnown id hid := by
    rw [hacted.generated]
    by_cases hown : id = job.uploadedFileId
    · rw [hown]
      exact h.known job hjob
    · exact h.savedKnown id ((hacted.saved id hown).mp hid)
  listsKnown id hid := by
    rw [hacted.csvJobs] at hid
    rw [hacted.generated]
    exact h.listsKnown id hid
  lists file hfile hid := by
    obtain ⟨file₀, hfile₀, hfid, hpurpose⟩ := hacted.rewritten.purposes file hfile
    rw [hacted.csvJobs, ← hfid] at hid
    rw [← hpurpose]
    exact h.lists file₀ hfile₀ hid
  once := by
    rw [hacted.uploads]
    exact h.once
  ready upload hupload objectKey id hstage := by
    rw [hacted.uploads] at hupload
    have hready := h.ready upload hupload objectKey id hstage
    have hown : id ≠ job.uploadedFileId := fun heq => hready.new job hjob heq.symm
    refine ⟨fun job' hjob' hid => ?_, fun hsaved => ?_, ?_, ?_, fun file hfile hfid => ?_⟩
    · have hold : job' ∈ s.jobs := (hacted.others job' (hid ▸ hown)).mpr hjob'
      exact hready.new job' hold hid
    · exact hready.unsaved ((hacted.saved id hown).mp hsaved)
    · rw [hacted.csvJobs]
      exact hready.unlisted
    · rw [hacted.generated]
      exact hready.generated
    · -- the row of another file stays
      exact hready.row file (hacted.rewritten.others file hfile (hfid ▸ hown)) hfid
  tells file hfile hkit := by
    by_cases hown : file.id = job.uploadedFileId
    · exact hacted.tells file hfile hown hkit
    · refine (h.tells file (hacted.rewritten.others file hfile hown) hkit).frame ?_
        (hacted.saved file.id hown) hacted.cutShort hacted.lost hacted.unended ?_
      · intro job' hid
        exact hacted.others job' (hid ▸ hown)
      · rintro ⟨i, upload, objectKey, hi, hstage⟩
        rw [← hacted.uploads] at hi
        exact ⟨i, upload, objectKey, hi, hstage⟩

/-- The concerts and the stored files have no part in it. -/
theorem Tracked.ignore (h : Tracked s) (concerts : List Concert)
    (objects : String → Option Buffer) (stored : List (String × UploadParams))
    (entered : List (ConcertId × String)) :
    Tracked { s with concerts, objects, stored, entered } where
  files := h.files
  jobs := h.jobs
  counted := h.counted
  filesKnown := h.filesKnown
  known := h.known
  savedKnown := h.savedKnown
  listsKnown := h.listsKnown
  lists := h.lists
  once := h.once
  ready upload hupload objectKey id hstage :=
    { h.ready upload hupload objectKey id hstage with }
  tells file hfile hkit := (h.tells file hfile hkit).frame (fun _ _ => Iff.rfl) Iff.rfl
    (List.Subset.refl _) (List.Subset.refl _) (List.Subset.refl _) id

/-! ### The job and its own file -/

/-- What the row of the job's own file has to say. -/
structure Own (file : UploadedFile) (job : Job) (saved cutShort lost unended : List FileId) :
    Prop where
  completed : file.status = .completed → file.id ∈ saved
  failed : file.status = .failed → file.errorMessage.isSome ∧ job.GivenUp unended
  unsettled : file.status = .pending ∨ file.status = .processing →
    job.phase ≠ .failed ∨ file.id ∈ lost
  cut : file.id ∈ saved → file.id ∈ cutShort ∨ job.Invalidating
  invalidating : job.Invalidating → file.status = .completed
  rethrown : job.phase = .active .rethrow → file.status = .failed ∨ file.id ∈ lost

/-- Before the call, while the job is live. -/
theorem Tracked.own (h : Tracked s) (hjob : job ∈ s.jobs) (hlive : job.phase ≠ .failed)
    (hfile : file ∈ s.files) (hkit : file.purpose = pressKitPurpose)
    (hid : file.id = job.uploadedFileId) :
    Own file job s.saved s.cutShort s.lost s.unended where
  completed := (h.tells file hfile hkit).completed
  failed hstatus := by
    obtain ⟨hmessage, job', hjob', hid', hgiven⟩ := (h.tells file hfile hkit).failed hstatus
    rw [RowTable.eq_of_key h.jobs hjob' hjob (hid'.trans hid)] at hgiven
    exact ⟨hmessage, hgiven⟩
  unsettled _ := .inl hlive
  cut hsaved :=
    ((h.tells file hfile hkit).cut hsaved).imp_right fun hall => hall job hjob hid.symm
  invalidating := (h.tells file hfile hkit).invalidating job hjob hid.symm
  rethrown := (h.tells file hfile hkit).rethrown job hjob hid.symm

/-- The queue after one job has been replaced. -/
theorem mem_setJob {job'' : Job} (h : Tracked s) (hjob : job ∈ s.jobs)
    (hid : job'.uploadedFileId = job.uploadedFileId) :
    job'' ∈ (s.setJob job').jobs ↔
      job'' = job' ∨ job'' ∈ s.jobs ∧ job''.uploadedFileId ≠ job.uploadedFileId := by
  constructor
  · intro hmem
    obtain ⟨job₀, hjob₀, rfl⟩ := RowTable.mem_modify hmem
    by_cases hown : job₀.uploadedFileId = job'.uploadedFileId
    · rw [if_pos hown]
      exact .inl rfl
    · rw [if_neg hown]
      exact .inr ⟨hjob₀, fun heq => hown (heq.trans hid.symm)⟩
  · rintro (rfl | ⟨hmem, hne⟩)
    · have hfind : RowTable.lookup Job.uploadedFileId job''.uploadedFileId s.jobs = some job := by
        rw [hid]
        exact RowTable.lookup_of_mem h.jobs hjob
      exact RowTable.mem_modify_self (f := fun _ => job'') hfind
    · exact RowTable.mem_modify_of_ne hmem fun heq => hne (heq.trans hid)

/-- The job goes to another phase while its file's row is written or stays. -/
theorem Tracked.setJob (h : Tracked s) (hjob : job ∈ s.jobs) (hcounted : job'.Counted)
    (hid : job'.uploadedFileId = job.uploadedFileId)
    {files : List UploadedFile} {saved cutShort lost unended : List FileId}
    (hfiles : Rewritten s.files files job.uploadedFileId)
    (hsaved : ∀ id, id ≠ job.uploadedFileId → (id ∈ saved ↔ id ∈ s.saved))
    (hcut : s.cutShort ⊆ cutShort) (hlost : s.lost ⊆ lost) (hunended : s.unended ⊆ unended)
    (hown : ∀ file ∈ files, file.id = job.uploadedFileId → file.purpose = pressKitPurpose →
      Own file job' saved cutShort lost unended) :
    Tracked { s.setJob job' with files, saved, cutShort, lost, unended } := by
  have hmem : ∀ job'', job'' ∈ (s.setJob job').jobs ↔
      job'' = job' ∨ job'' ∈ s.jobs ∧ job''.uploadedFileId ≠ job.uploadedFileId :=
    fun _ => mem_setJob h hjob hid
  refine h.acted hjob
    ⟨hfiles, ?_, ?_, ?_, ?_, hsaved, hcut, hlost, hunended, rfl, rfl, rfl, ?_⟩
  · -- a row that is replaced has the key of `job'`
    have hkeys : (s.setJob job').jobs.map Job.uploadedFileId = s.jobs.map Job.uploadedFileId := by
      simp only [State.setJob, RowTable.modify, List.map_map]
      refine List.map_congr_left fun job₀ _ => ?_
      by_cases heq : job₀.uploadedFileId = job'.uploadedFileId <;> simp [heq]
    show ((s.setJob job').jobs.map Job.uploadedFileId).Nodup
    rw [hkeys]
    exact h.jobs
  · intro job'' hjob''
    rcases (hmem job'').mp hjob'' with rfl | ⟨hold, -⟩
    · exact hcounted
    · exact h.counted job'' hold
  · intro job'' hne
    constructor
    · exact fun hold => (hmem job'').mpr (.inr ⟨hold, hne⟩)
    · intro hnew
      rcases (hmem job'').mp hnew with rfl | ⟨hold, -⟩
      · exact absurd hid hne
      · exact hold
  · intro job'' hjob''
    rcases (hmem job'').mp hjob'' with rfl | ⟨hold, -⟩
    · exact ⟨job, hjob, hid.symm⟩
    · exact ⟨job'', hold, rfl⟩
  · intro file hfile hfid hkit
    have htell := hown file hfile hfid hkit
    have hsame : ∀ job'' ∈ (s.setJob job').jobs, job''.uploadedFileId = file.id → job'' = job' := by
      intro job'' hjob'' hid''
      rcases (hmem job'').mp hjob'' with heq | ⟨-, hne⟩
      · exact heq
      · exact absurd (hid''.trans hfid) hne
    have hmine : job' ∈ (s.setJob job').jobs := (hmem job').mpr (.inl rfl)
    refine ⟨htell.completed, ?_, ?_, ?_, ?_, ?_⟩
    · intro hstatus
      obtain ⟨hmessage, hgiven⟩ := htell.failed hstatus
      exact ⟨hmessage, job', hmine, hid.trans hfid.symm, hgiven⟩
    · intro hstatus
      rcases htell.unsettled hstatus with hlive | hmissed
      · exact .inl ⟨job', hmine, hid.trans hfid.symm, hlive⟩
      · exact .inr (.inr hmissed)
    · intro hmem'
      refine (htell.cut hmem').imp_right fun hinv job'' hjob'' hid'' => ?_
      rw [hsame job'' hjob'' hid'']
      exact hinv
    · intro job'' hjob'' hid'' hinv
      rw [hsame job'' hjob'' hid''] at hinv
      exact htell.invalidating hinv
    · intro job'' hjob'' hid'' hphase
      rw [hsame job'' hjob'' hid''] at hphase
      exact htell.rethrown hphase

/-- How a job may go to another phase while its file's row stays: one that is given up
    before its failure has been recorded is among the lost, and so is one whose failure
    could not be. -/
structure Job.Goes (job : Job) (attemptsMade : Nat) (phase : Phase)
    (cutShort lost unended : List FileId) : Prop where
  made : job.attemptsMade ≤ attemptsMade
  given : phase = .failed → job.phase = .active .rethrow ∨ job.uploadedFileId ∈ lost
  thrown : phase = .active .rethrow → job.uploadedFileId ∈ lost
  stay : job.phase = .active .rethrow →
    phase = .failed ∧ attemptsMade = maxAttempts ∨ job.uploadedFileId ∈ unended
  invalidating : Job.Invalidating { job with attemptsMade, phase } → job.Invalidating
  short : job.Invalidating →
    Job.Invalidating { job with attemptsMade, phase } ∨ job.uploadedFileId ∈ cutShort

/-- A live job that has not thrown goes to a phase in which it is still to do so. -/
theorem goes_of_live {attemptsMade : Nat} {phase : Phase} {cutShort lost unended : List FileId}
    (hmade : job.attemptsMade ≤ attemptsMade) (hthrew : job.phase ≠ .active .rethrow)
    (hlive : phase ≠ .failed) (hthrow : phase ≠ .active .rethrow)
    (hinv : ∀ left, phase ≠ .active (.invalidate left))
    (hshort : job.Invalidating → job.uploadedFileId ∈ cutShort) :
    job.Goes attemptsMade phase cutShort lost unended where
  made := hmade
  given hphase := absurd hphase hlive
  thrown hphase := absurd hphase hthrow
  stay hphase := absurd hphase hthrew
  invalidating := fun ⟨left, hphase⟩ => absurd hphase (hinv left)
  short h := .inr (hshort h)

/-- The job goes on and the row stays. -/
theorem Tracked.progress (h : Tracked s) (hjob : job ∈ s.jobs) (hlive : job.phase ≠ .failed)
    (attemptsMade : Nat) (phase : Phase)
    (hcounted : Job.Counted { job with attemptsMade, phase })
    {cutShort lost unended : List FileId} (hcut : s.cutShort ⊆ cutShort) (hlost : s.lost ⊆ lost)
    (hunended : s.unended ⊆ unended)
    (hgoes : job.Goes attemptsMade phase cutShort lost unended) :
    Tracked { s.setJob { job with attemptsMade, phase } with cutShort, lost, unended } := by
  refine h.setJob hjob hcounted rfl (Rewritten.refl s.files _) (fun _ _ => Iff.rfl) hcut hlost
    hunended ?_
  intro file hfile hfid hkit
  have hown := h.own hjob hlive hfile hkit hfid
  refine ⟨hown.completed, ?_, ?_, ?_, fun hnew => hown.invalidating (hgoes.invalidating hnew), ?_⟩
  · intro hstatus
    obtain ⟨hmessage, hlast, hwhere⟩ := hown.failed hstatus
    refine ⟨hmessage, hlast.trans (Nat.succ_le_succ hgoes.made), ?_⟩
    rcases hwhere with ⟨hphase, -⟩ | hphase | hstalled
    · exact absurd hphase hlive
    · exact (hgoes.stay hphase).imp_right .inr
    · exact .inr (.inr (hunended hstalled))
  · intro hstatus
    by_cases hfailed : phase = .failed
    · refine .inr ?_
      rcases hgoes.given hfailed with hphase | hmissed
      · rcases hown.rethrown hphase with hrecorded | hmissed
        · rw [hrecorded] at hstatus
          rcases hstatus with hstatus | hstatus <;> cases hstatus
        · exact hlost hmissed
      · rw [hfid]
        exact hmissed
    · exact .inl hfailed
  · intro hsaved
    rcases hown.cut hsaved with hmem | hinvalidating
    · exact .inl (hcut hmem)
    · rw [hfid]
      exact (hgoes.short hinvalidating).symm
  · intro hphase
    rw [hfid]
    exact .inr (hgoes.thrown hphase)

/-- The job goes on and the file's status is written. -/
theorem Tracked.setStatus (h : Tracked s) (hjob : job ∈ s.jobs)
    (attemptsMade : Nat) (phase : Phase)
    (hcounted : Job.Counted { job with attemptsMade, phase })
    {status : FileStatus} {errorMessage : Option String} {saved : List FileId}
    (hsaved : ∀ id, id ≠ job.uploadedFileId → (id ∈ saved ↔ id ∈ s.saved))
    (hown : ∀ file ∈ s.files, file.purpose = pressKitPurpose → file.id = job.uploadedFileId →
      Own { file with status, errorMessage } { job with attemptsMade, phase } saved s.cutShort
        s.lost s.unended) :
    Tracked { (s.setStatus job.uploadedFileId status errorMessage).setJob
      { job with attemptsMade, phase } with saved } := by
  refine h.setJob hjob hcounted rfl (Rewritten.setStatus s _ status errorMessage) hsaved
    (List.Subset.refl _) (List.Subset.refl _) (List.Subset.refl _) ?_
  intro file hfile hfid hkit
  obtain ⟨file₀, hfile₀, rfl⟩ := RowTable.mem_modify hfile
  by_cases heq : file₀.id = job.uploadedFileId
  · rw [if_pos heq] at hkit ⊢
    exact hown file₀ hfile₀ hkit heq
  · rw [if_neg heq] at hfid
    exact absurd hfid heq

/-! ### The calls of an attempt -/

/-- A job elsewhere deletes no entry. -/
theorem not_invalidating {phase : Phase} (hphase : job.phase = phase)
    (hne : ∀ left, phase ≠ .active (.invalidate left)) : ¬ job.Invalidating := by
  rintro ⟨left, hinv⟩
  exact hne left (hphase.symm.trans hinv)

/-- A job that is tried again or marks its failure stays as live as it was. -/
theorem Tracked.catchError (h : Tracked s) (hjob : job ∈ s.jobs) (hlive : job.phase ≠ .failed)
    (hthrew : job.phase ≠ .active .rethrow) (message : Option String) {cutShort : List FileId}
    (hcut : s.cutShort ⊆ cutShort)
    (hshort : job.Invalidating → job.uploadedFileId ∈ cutShort) :
    Tracked { s.catchError job message with cutShort } := by
  have hmade := (h.counted job hjob).live hlive
  unfold State.catchError
  by_cases hlast : maxAttempts ≤ job.attemptsMade + 1
  · rw [if_pos hlast]
    exact h.progress hjob hlive job.attemptsMade (.active (.markFailed message))
      ⟨fun _ => hmade, fun _ _ => hlast, fun _ => hlast⟩ hcut (List.Subset.refl _)
      (List.Subset.refl _) (goes_of_live le_rfl hthrew (by simp) (by simp) (by simp) hshort)
  · rw [if_neg hlast]
    have hmore : job.attemptsMade + 1 < maxAttempts := Nat.lt_of_not_le hlast
    have hended : s.endAttempt job
        = s.setJob { job with attemptsMade := job.attemptsMade + 1, phase := .waiting } := by
      simp only [State.endAttempt, if_pos hmore]
    rw [hended]
    exact h.progress hjob hlive (job.attemptsMade + 1) .waiting
      (counted_of_phase (fun _ => hmore) (by simp) (by simp)) hcut (List.Subset.refl _)
      (List.Subset.refl _)
      (goes_of_live (Nat.le_succ _) hthrew (by simp) (by simp) (by simp) hshort)

/-- The job goes to the next call, having saved nothing. -/
theorem Tracked.goTo (h : Tracked s) (hjob : job ∈ s.jobs) (hlive : job.phase ≠ .failed)
    (hthrew : job.phase ≠ .active .rethrow) (hnot : ¬ job.Invalidating) (stage : Stage)
    (hstage : ∀ left, stage ≠ .invalidate left) (hmark : ∀ message, stage ≠ .markFailed message)
    (hrethrow : stage ≠ .rethrow) : Tracked (s.goTo job stage) := by
  refine h.progress hjob hlive job.attemptsMade (.active stage)
    (counted_of_phase (fun _ => (h.counted job hjob).live hlive) ?_ ?_) (List.Subset.refl _)
    (List.Subset.refl _) (List.Subset.refl _) (goes_of_live le_rfl hthrew ?_ ?_ ?_ ?_)
  · intro message hphase
    exact hmark message (Phase.active.inj hphase)
  · intro hphase
    exact hrethrow (Phase.active.inj hphase)
  · exact Phase.noConfusion
  · intro hphase
    exact hrethrow (Phase.active.inj hphase)
  · intro left hphase
    exact hstage left (Phase.active.inj hphase)
  · intro hinv
    exact absurd hinv hnot

/-- The job of a file is done: it is removed from the queue. -/
theorem Tracked.complete (h : Tracked s) (hjob : job ∈ s.jobs) (hinv : job.Invalidating)
    (hlive : job.phase ≠ .failed) :
    Tracked { s with
      jobs := RowTable.remove Job.uploadedFileId job.uploadedFileId s.jobs } := by
  have hgone : ∀ job' ∈ RowTable.remove Job.uploadedFileId job.uploadedFileId s.jobs,
      job' ∈ s.jobs ∧ job'.uploadedFileId ≠ job.uploadedFileId := by
    intro job' hjob'
    simpa [RowTable.remove] using hjob'
  refine h.acted hjob ⟨Rewritten.refl s.files _, h.jobs.remove, ?_, ?_, ?_, fun _ _ => Iff.rfl,
    List.Subset.refl _, List.Subset.refl _, List.Subset.refl _, rfl, rfl, rfl, ?_⟩
  · exact fun job' hjob' => h.counted job' (hgone job' hjob').1
  · intro job' hne
    constructor
    · exact fun hmem => List.mem_filter.mpr ⟨hmem, by simpa using hne⟩
    · exact fun hmem => (hgone job' hmem).1
  · exact fun job' hjob' => ⟨job', (hgone job' hjob').1, rfl⟩
  · intro file hfile hfid hkit
    have hdone : file.status = .completed :=
      (h.own hjob hlive hfile hkit hfid).invalidating hinv
    have hnone : ∀ job' ∈ RowTable.remove Job.uploadedFileId job.uploadedFileId s.jobs,
        job'.uploadedFileId ≠ file.id := by
      intro job' hjob' heq
      exact (hgone job' hjob').2 (heq.trans hfid)
    refine ⟨(h.tells file hfile hkit).completed, ?_, ?_, ?_, ?_, ?_⟩
    · intro hstatus
      rw [hdone] at hstatus
      cases hstatus
    · rintro (hstatus | hstatus) <;> (rw [hdone] at hstatus; cases hstatus)
    · exact fun _ => .inr fun job' hjob' heq => absurd heq (hnone job' hjob')
    · exact fun _ _ _ _ => hdone
    · exact fun job' hjob' heq _ => absurd heq (hnone job' hjob')

/-- Every call of the job keeps every file tracked. -/
theorem Tracked.called (h : Tracked s) (hjob : job ∈ s.jobs) (hphase : job.phase = .active stage)
    (hcalled : Called platform job s stage s') : Tracked s' := by
  have hlive : job.phase ≠ .failed := by
    rw [hphase]
    exact Phase.noConfusion
  have hmade := (h.counted job hjob).live hlive
  have hthrew : stage ≠ .rethrow → job.phase ≠ .active .rethrow := by
    intro hstage hthrown
    rw [hphase] at hthrown
    exact hstage (Phase.active.inj hthrown)
  cases hcalled with
  -- an attempt that fails saves nothing more
  | thrown stage message _ hstage =>
      refine h.catchError hjob hlive (hthrew hstage) message ?_ ?_
      · unfold State.cutBy
        split
        · exact List.subset_cons_self _ _
        · exact List.Subset.refl _
      · rintro ⟨left, hinv⟩
        rw [hphase] at hinv
        rw [Phase.active.inj hinv]
        exact List.mem_cons_self
  | started =>
      have hnot := not_invalidating hphase (by simp)
      refine h.setStatus hjob job.attemptsMade (.active .download)
        (counted_of_phase (fun _ => hmade) (by simp) (by simp)) (fun _ _ => Iff.rfl)
        fun file hfile hkit hfid => ?_
      refine ⟨?_, ?_, ?_, ?_, ?_, ?_⟩
      · exact fun hstatus => FileStatus.noConfusion hstatus
      · exact fun hstatus => FileStatus.noConfusion hstatus
      · exact fun _ => .inl Phase.noConfusion
      · intro hsaved
        exact .inl (((h.own hjob hlive hfile hkit hfid).cut hsaved).resolve_right hnot)
      · rintro ⟨left, hinv⟩
        cases hinv
      · intro hphase'
        cases hphase'
  | loaded buffer _ =>
      exact h.goTo hjob hlive (hthrew (by simp)) (not_invalidating hphase (by simp)) _ (by simp)
        (by simp) (by simp)
  | extracted buffer text _ _ =>
      exact h.goTo hjob hlive (hthrew (by simp)) (not_invalidating hphase (by simp)) _ (by simp)
        (by simp) (by simp)
  | generated text reply artistBio _ _ =>
      exact h.goTo hjob hlive (hthrew (by simp)) (not_invalidating hphase (by simp)) _ (by simp)
        (by simp) (by simp)
  -- the biography and COMPLETED are one transaction
  | saved artistBio =>
      have hset := h.ignore (s.setBio job.concertId (some artistBio)).concerts s.objects s.stored
        s.entered
      refine hset.setStatus hjob job.attemptsMade (.active (.invalidate 3))
        (counted_of_phase (fun _ => hmade) (by simp) (by simp)) ?_ fun file hfile hkit hfid => ?_
      · intro id hne
        simp [hne]
      · refine ⟨?_, ?_, ?_, ?_, ?_, ?_⟩
        · exact fun _ => hfid ▸ List.mem_cons_self
        · exact fun hstatus => FileStatus.noConfusion hstatus
        · rintro (hstatus | hstatus) <;> cases hstatus
        · exact fun _ => .inr ⟨3, rfl⟩
        · exact fun _ => rfl
        · intro hphase'
          cases hphase'
  | invalidated left n =>
      refine h.progress hjob hlive job.attemptsMade (.active (.invalidate n))
        (counted_of_phase (fun _ => hmade) (by simp) (by simp)) (List.Subset.refl _)
        (List.Subset.refl _) (List.Subset.refl _)
        ⟨le_rfl, ?_, ?_, fun hthrown => absurd hthrown (hthrew (by simp)),
          fun _ => ⟨left, hphase⟩, fun _ => .inl ⟨n, rfl⟩⟩
      · intro hfailed
        cases hfailed
      · intro hthrow
        cases hthrow
  | completed left => exact h.complete hjob ⟨left, hphase⟩ hlive
  -- FAILED is written, and the queue has yet to hear of the failure
  | recorded message =>
      have hnot := not_invalidating hphase (by simp)
      have hlast := (h.counted job hjob).last message hphase
      refine h.setStatus hjob job.attemptsMade (.active .rethrow)
        ⟨fun _ => hmade, fun _ _ => hlast, fun _ => hlast⟩ (fun _ _ => Iff.rfl)
        fun file hfile hkit hfid => ?_
      refine ⟨?_, ?_, ?_, ?_, ?_, ?_⟩
      · exact fun hstatus => FileStatus.noConfusion hstatus
      · exact fun _ => ⟨rfl, hlast, .inr (.inl rfl)⟩
      · rintro (hstatus | hstatus) <;> cases hstatus
      · intro hsaved
        exact .inl (((h.own hjob hlive hfile hkit hfid).cut hsaved).resolve_right hnot)
      · rintro ⟨left, hinv⟩
        cases hinv
      · exact fun _ => .inl rfl
  -- the row could not be written, which `lost` keeps
  | unrecorded message =>
      have hnot := not_invalidating hphase (by simp)
      have hlast := (h.counted job hjob).last message hphase
      refine h.progress hjob hlive job.attemptsMade (.active .rethrow)
        ⟨fun _ => hmade, fun _ _ => hlast, fun _ => hlast⟩ (List.Subset.refl _)
        (List.subset_cons_self _ _) (List.Subset.refl _)
        ⟨le_rfl, ?_, fun _ => List.mem_cons_self,
          fun hthrown => absurd hthrown (hthrew (by simp)), ?_, fun hinv => absurd hinv hnot⟩
      · intro hfailed
        cases hfailed
      · rintro ⟨left, hinv⟩
        cases hinv
  -- the last attempt: the queue gives the job up
  | ended =>
      have hnot := not_invalidating hphase (by simp)
      have hlast := (h.counted job hjob).rethrown hphase
      have hthird : job.attemptsMade + 1 = maxAttempts := by omega
      have hended : s.endAttempt job
          = s.setJob { job with attemptsMade := maxAttempts, phase := .failed } := by
        simp only [State.endAttempt, hthird, if_neg (lt_irrefl maxAttempts)]
      rw [hended]
      refine h.progress hjob hlive maxAttempts .failed
        (counted_of_phase (fun hne => absurd rfl hne) (by simp) (by simp)) (List.Subset.refl _)
        (List.Subset.refl _) (List.Subset.refl _)
        ⟨hmade.le, fun _ => .inl hphase, ?_, fun _ => .inl ⟨rfl, rfl⟩, ?_,
          fun hinv => absurd hinv hnot⟩
      · intro hthrow
        cases hthrow
      · rintro ⟨left, hinv⟩
        cases hinv

/-! ## Uploads -/

/-- An upload goes on; the others are where they were. -/
theorem getElem?_setUpload {upload upload' : Upload} {i j : Nat}
    (h : (s.setUpload i upload).uploads[j]? = some upload') :
    (j = i ∧ upload' = upload) ∨ (j ≠ i ∧ s.uploads[j]? = some upload') := by
  by_cases hij : i = j
  · subst hij
    have hlt : i < s.uploads.length := by
      have hlt := (List.getElem?_eq_some_iff.mp h).1
      rwa [State.setUpload, List.length_set] at hlt
    simp only [State.setUpload, List.getElem?_set_self hlt, Option.some.injEq] at h
    exact .inl ⟨rfl, h.symm⟩
  · rw [State.setUpload, List.getElem?_set_ne hij] at h
    exact .inr ⟨fun heq => hij heq.symm, h⟩

/-- Who is about to add another job still is. -/
theorem adding_setUpload {upload upload' : Upload} {i : Nat}
    (hget : s.uploads[i]? = some upload) (hne : ∀ key, upload.stage ≠ .addJob key id)
    (h : s.Adding id) : (s.setUpload i upload').Adding id := by
  obtain ⟨j, other, key, hj, hstage⟩ := h
  have hij : i ≠ j := by
    rintro rfl
    rw [hget] at hj
    rw [← Option.some.inj hj] at hstage
    exact hne key hstage
  refine ⟨j, other, key, ?_, hstage⟩
  rw [State.setUpload, List.getElem?_set_ne hij]
  exact hj

/-- An upload that goes on does so too. -/
theorem Tracked.setUpload {i : Nat} {upload upload' : Upload} (h : Tracked s)
    (hget : s.uploads[i]? = some upload) (hold : ∀ key id, upload.stage ≠ .addJob key id)
    (hnew : ∀ key id, upload'.stage ≠ .addJob key id) : Tracked (s.setUpload i upload') where
  files := h.files
  jobs := h.jobs
  counted := h.counted
  filesKnown := h.filesKnown
  known := h.known
  savedKnown := h.savedKnown
  listsKnown := h.listsKnown
  lists := h.lists
  once j k other other' key key' id hj hk hstage hstage' := by
    rcases getElem?_setUpload hj with ⟨-, rfl⟩ | ⟨-, hj⟩
    · exact absurd hstage (hnew key id)
    · rcases getElem?_setUpload hk with ⟨-, rfl⟩ | ⟨-, hk⟩
      · exact absurd hstage' (hnew key' id)
      · exact h.once j k other other' key key' id hj hk hstage hstage'
  ready other hother objectKey id hstage := by
    obtain ⟨j, hj⟩ := List.mem_iff_getElem?.mp hother
    rcases getElem?_setUpload hj with ⟨-, rfl⟩ | ⟨-, hj⟩
    · exact absurd hstage (hnew objectKey id)
    · exact { h.ready other (List.mem_of_getElem? hj) objectKey id hstage with }
  tells file hfile hkit := (h.tells file hfile hkit).frame (fun _ _ => Iff.rfl) Iff.rfl
    (List.Subset.refl _) (List.Subset.refl _) (List.Subset.refl _)
    (adding_setUpload hget fun key => hold key _)

/-- The row of a new file is written; its job is added next. -/
theorem Tracked.createFile {i : Nat} {params : UploadParams} {objectKey : String}
    (h : Tracked s) (hget : s.uploads[i]? = some ⟨params, .createFile objectKey⟩)
    (hfree : file.id ∉ s.generated) (hpending : file.status = .pending)
    (hpurpose : file.purpose = params.route.kind.purpose) :
    Tracked { s.setUpload i ⟨params, .addJob objectKey file.id⟩ with
      files := s.files ++ [file], generated := file.id :: s.generated } := by
  have hlt : i < s.uploads.length := (List.getElem?_eq_some_iff.mp hget).1
  have hnojob : ∀ job ∈ s.jobs, job.uploadedFileId ≠ file.id := by
    intro job hjob hid
    exact hfree (hid ▸ h.known job hjob)
  have hnorow : ∀ file' ∈ s.files, file'.id ≠ file.id := by
    intro file' hfile' hid
    exact hfree (hid ▸ h.filesKnown file' hfile')
  have hunsaved : file.id ∉ s.saved := fun hsaved => hfree (h.savedKnown file.id hsaved)
  have hunlisted : file.id ∉ s.csvJobs := fun hlisted => hfree (h.listsKnown file.id hlisted)
  -- nobody else is about to add a job for the new id
  have hnobody : ∀ upload ∈ s.uploads, ∀ key, upload.stage ≠ .addJob key file.id := by
    intro upload hupload key hstage
    exact hfree (h.ready upload hupload key file.id hstage).generated
  refine ⟨?_, h.jobs, h.counted, ?_, ?_, ?_, ?_, ?_, ?_, ?_, ?_⟩
  · exact h.files.append (RowTable.lookup_eq_none.mpr hnorow)
  · intro file' hfile'
    rcases List.mem_append.mp hfile' with hold | hnew
    · exact List.mem_cons_of_mem _ (h.filesKnown file' hold)
    · rw [List.mem_singleton.mp hnew]
      exact List.mem_cons_self
  · exact fun job hjob => List.mem_cons_of_mem _ (h.known job hjob)
  · exact fun id hid => List.mem_cons_of_mem _ (h.savedKnown id hid)
  · exact fun id hid => List.mem_cons_of_mem _ (h.listsKnown id hid)
  · intro file' hfile' hlisted
    rcases List.mem_append.mp hfile' with hold | hnew
    · exact h.lists file' hold hlisted
    · rw [List.mem_singleton.mp hnew] at hlisted
      exact absurd hlisted hunlisted
  · intro j k other other' key key' id hj hk hstage hstage'
    rcases getElem?_setUpload hj with ⟨rfl, rfl⟩ | ⟨hji, hj₀⟩
    · rcases getElem?_setUpload hk with ⟨rfl, rfl⟩ | ⟨hki, hk⟩
      · rfl
      · obtain ⟨-, rfl⟩ := UploadStage.addJob.inj hstage
        exact absurd hstage' (hnobody other' (List.mem_of_getElem? hk) key')
    · rcases getElem?_setUpload hk with ⟨rfl, rfl⟩ | ⟨hki, hk⟩
      · obtain ⟨-, rfl⟩ := UploadStage.addJob.inj hstage'
        exact absurd hstage (hnobody other (List.mem_of_getElem? hj₀) key)
      · exact h.once j k other other' key key' id hj₀ hk hstage hstage'
  · intro other hother key id hstage
    obtain ⟨j, hj⟩ := List.mem_iff_getElem?.mp hother
    rcases getElem?_setUpload hj with ⟨rfl, rfl⟩ | ⟨hji, hj⟩
    · obtain ⟨-, rfl⟩ := UploadStage.addJob.inj hstage
      refine ⟨hnojob, hunsaved, hunlisted, List.mem_cons_self, fun file' hfile' hid => ?_⟩
      rcases List.mem_append.mp hfile' with hold | hnew
      · exact absurd hid (hnorow file' hold)
      · rw [List.mem_singleton.mp hnew]
        exact ⟨hpending, hpurpose⟩
    · have hupload := List.mem_of_getElem? hj
      have hready := h.ready other hupload key id hstage
      refine ⟨hready.new, hready.unsaved, hready.unlisted,
        List.mem_cons_of_mem _ hready.generated, fun file' hfile' hid => ?_⟩
      rcases List.mem_append.mp hfile' with hold | hnew
      · exact hready.row file' hold hid
      · rw [List.mem_singleton.mp hnew] at hid
        rw [← hid] at hstage
        exact absurd hstage (hnobody other hupload key)
  · intro file' hfile' hkit
    rcases List.mem_append.mp hfile' with hold | hnew
    · refine (h.tells file' hold hkit).frame (fun _ _ => Iff.rfl) Iff.rfl
        (List.Subset.refl _) (List.Subset.refl _) (List.Subset.refl _) ?_
      exact adding_setUpload hget fun key hstage => UploadStage.noConfusion hstage
    · rw [List.mem_singleton.mp hnew]
      refine ⟨?_, ?_, ?_, fun hsaved => absurd hsaved hunsaved, ?_, ?_⟩
      · intro hstatus
        rw [hpending] at hstatus
        cases hstatus
      · intro hstatus
        rw [hpending] at hstatus
        cases hstatus
      · intro _
        refine .inr (.inl ⟨i, ⟨params, .addJob objectKey file.id⟩, objectKey, ?_, rfl⟩)
        exact List.getElem?_set_self hlt
      · exact fun job hjob hid => absurd hid (hnojob job hjob)
      · exact fun job hjob hid => absurd hid (hnojob job hjob)

/-- The job of the file is added, or lost, or the file goes to the import queue. -/
theorem Tracked.addJob {i : Nat} {params : UploadParams} {objectKey : String} {fileId : FileId}
    (h : Tracked s) (hget : s.uploads[i]? = some ⟨params, .addJob objectKey fileId⟩)
    (answer : Except UploadError FileId) {jobs : List Job} {csvJobs lost : List FileId}
    (hjobs : jobs = s.jobs ∨ params.route = .pressKit ∧
      jobs = s.jobs ++ [⟨fileId, params.concertId, objectKey, 0, .waiting⟩])
    (hlists : csvJobs = s.csvJobs ∨ params.route = .guestList ∧ csvJobs = s.csvJobs ++ [fileId])
    (hlost : s.lost ⊆ lost)
    (hkit : jobs = s.jobs → params.route = .pressKit → fileId ∈ lost) :
    Tracked { s.setUpload i ⟨params, .done answer⟩ with jobs, csvJobs, lost } := by
  have hmine := h.ready _ (List.mem_of_getElem? hget) objectKey fileId rfl
  obtain ⟨hnew, hunsaved, hunlisted, hgenerated, hrow₀⟩ := hmine
  have hnoother : ∀ j other key, j ≠ i → s.uploads[j]? = some other →
      other.stage ≠ .addJob key fileId := by
    intro j other key hne hj hstage
    exact hne (h.once j i other _ key objectKey fileId hj hget hstage rfl)
  have hmem : ∀ job ∈ jobs, job ∈ s.jobs ∨
      job = ⟨fileId, params.concertId, objectKey, 0, .waiting⟩ := by
    intro job hjob
    rcases hjobs with rfl | ⟨-, rfl⟩
    · exact .inl hjob
    · exact (List.mem_append.mp hjob).imp_right List.mem_singleton.mp
  have hsub : s.jobs ⊆ jobs := by
    rcases hjobs with rfl | ⟨-, rfl⟩
    · exact List.Subset.refl _
    · exact List.subset_append_left _ _
  have hlisted : ∀ id ∈ csvJobs, id ∈ s.csvJobs ∨ id = fileId ∧ params.route = .guestList := by
    intro id hid
    rcases hlists with rfl | ⟨hroute, rfl⟩
    · exact .inl hid
    · exact (List.mem_append.mp hid).imp_right fun hid => ⟨List.mem_singleton.mp hid, hroute⟩
  refine ⟨h.files, ?_, ?_, h.filesKnown, ?_, h.savedKnown, ?_, ?_, ?_, ?_, ?_⟩
  · rcases hjobs with rfl | ⟨-, rfl⟩
    · exact h.jobs
    · exact h.jobs.append (RowTable.lookup_eq_none.mpr hnew)
  -- the new job counts no attempt yet
  · intro job hjob
    rcases hmem job hjob with hold | rfl
    · exact h.counted job hold
    · exact counted_of_phase (fun _ => Nat.succ_pos 2) (by simp) (by simp)
  · intro job hjob
    rcases hmem job hjob with hold | rfl
    · exact h.known job hold
    · exact hgenerated
  · intro id hid
    rcases hlisted id hid with hold | ⟨rfl, -⟩
    · exact h.listsKnown id hold
    · exact hgenerated
  · intro file hfile hid
    rcases hlisted file.id hid with hold | ⟨hown, hroute⟩
    · exact h.lists file hfile hold
    · rw [(hrow₀ file hfile hown).2, hroute]
      decide
  · intro j k other other' key key' id hj hk hstage hstage'
    rcases getElem?_setUpload hj with ⟨-, rfl⟩ | ⟨-, hj₀⟩
    · cases hstage
    · rcases getElem?_setUpload hk with ⟨-, rfl⟩ | ⟨-, hk₀⟩
      · cases hstage'
      · exact h.once j k other other' key key' id hj₀ hk₀ hstage hstage'
  · intro other hother key id hstage
    obtain ⟨j, hj⟩ := List.mem_iff_getElem?.mp hother
    rcases getElem?_setUpload hj with ⟨-, rfl⟩ | ⟨hji, hj₀⟩
    · cases hstage
    · have hready := h.ready other (List.mem_of_getElem? hj₀) key id hstage
      have hne : fileId ≠ id := by
        rintro rfl
        exact hnoother j other key hji hj₀ hstage
      refine ⟨fun job hjob => ?_, hready.unsaved, fun hid => ?_, hready.generated, hready.row⟩
      · rcases hmem job hjob with hold | rfl
        · exact hready.new job hold
        · exact hne
      · rcases hlisted id hid with hold | ⟨heq, -⟩
        · exact hready.unlisted hold
        · exact hne heq.symm
  · intro file hfile hkitRow
    by_cases hid : file.id = fileId
    · -- the row of the upload itself: it has just been written
      obtain ⟨hpending, hpurpose⟩ := hrow₀ file hfile hid
      refine ⟨?_, ?_, ?_, ?_, ?_, ?_⟩
      · intro hstatus
        rw [hpending] at hstatus
        cases hstatus
      · intro hstatus
        rw [hpending] at hstatus
        cases hstatus
      · intro _
        have hroute : params.route = .pressKit := by
          cases hr : params.route with
          | pressKit => rfl
          | guestList =>
              rw [hpurpose, hr] at hkitRow
              exact absurd hkitRow (by decide)
        by_cases hsame : jobs = s.jobs
        · rw [hid]
          exact .inr (.inr (hkit hsame hroute))
        · obtain ⟨-, rfl⟩ := hjobs.resolve_left hsame
          exact .inl ⟨_, List.mem_append_right _ (List.mem_singleton_self _), hid.symm,
            Phase.noConfusion⟩
      · intro hsaved
        rw [hid] at hsaved
        exact absurd hsaved hunsaved
      · intro job hjob hjid hinv
        rcases hmem job hjob with hold | rfl
        · exact absurd (hjid.trans hid) (hnew job hold)
        · obtain ⟨left, hphase⟩ := hinv
          cases hphase
      · intro job hjob hjid hphase
        rcases hmem job hjob with hold | rfl
        · exact absurd (hjid.trans hid) (hnew job hold)
        · cases hphase
    · refine (h.tells file hfile hkitRow).frame ?_ Iff.rfl (List.Subset.refl _) hlost
        (List.Subset.refl _) ?_
      · intro job hjid
        refine ⟨fun hold => hsub hold, fun hjob => ?_⟩
        rcases hmem job hjob with hold | rfl
        · exact hold
        · exact absurd hjid.symm hid
      · refine adding_setUpload hget fun key hstage => ?_
        exact hid (UploadStage.addJob.inj hstage).2.symm

/-- So does every call of an upload. -/
theorem Tracked.uploadCall {i : Nat} {upload : Upload} (h : Tracked s)
    (hget : s.uploads[i]? = some upload) (hs : s.uploadCall i upload ch = some s') :
    Tracked s' := by
  obtain ⟨params, stage⟩ := upload
  unfold State.uploadCall at hs
  cases stage with
  | done answer => cases hs
  | findConcert =>
      have hgo : ∀ stage, (∀ key id, stage ≠ .addJob key id) →
          Tracked (s.setUpload i ⟨params, stage⟩) :=
        fun stage hstage => h.setUpload hget (by simp) hstage
      simp only at hs
      split at hs
      · cases hs
        exact hgo _ (by simp)
      · split at hs
        · cases hs
          exact hgo _ (by simp)
        · split at hs <;> (cases hs; exact hgo _ (by simp))
  | store objectKey =>
      simp only at hs
      split at hs
      · cases hs
        exact h.setUpload hget (by simp) (by simp)
      · split at hs
        · cases hs
        · cases hs
          have hset : Tracked (s.setUpload i ⟨params, .createFile objectKey⟩) :=
            h.setUpload hget (by simp) (by simp)
          exact hset.ignore s.concerts _ _ s.entered
  | createFile objectKey =>
      simp only at hs
      split at hs
      · cases hs
        exact h.setUpload hget (by simp) (by simp)
      · split at hs
        · cases hs
        · rename_i hfree
          cases hs
          exact h.createFile hget hfree rfl rfl
  | addJob objectKey fileId =>
      simp only at hs
      split at hs
      · cases hs
        exact h.addJob hget _ (.inl rfl) (.inl rfl) (List.subset_cons_self _ _)
          fun _ _ => List.mem_cons_self
      · split at hs
        · rename_i hroute
          cases hs
          refine h.addJob hget _ (.inl rfl) (.inr ⟨hroute, rfl⟩) (List.Subset.refl _) fun _ hkit => ?_
          rw [hroute] at hkit
          cases hkit
        · rename_i hroute
          cases hs
          refine h.addJob hget _ (.inr ⟨hroute, rfl⟩) (.inl rfl) (List.Subset.refl _)
            fun hsame => ?_
          -- the queue has grown
          have hlength : s.jobs.length + 1 = s.jobs.length := by
            simpa [State.setUpload] using congrArg List.length hsame
          omega

/-! ## Runs -/

/-- So does a stall. -/
theorem Tracked.stall (h : Tracked s) (hjob : job ∈ s.jobs) (hphase : job.phase = .active stage)
    (requeued : Bool) : Tracked (s.stall job requeued stage) := by
  have hlive : job.phase ≠ .failed := by
    rw [hphase]
    exact Phase.noConfusion
  have hcut : s.cutShort ⊆ s.cutBy job stage := by
    unfold State.cutBy
    split
    · exact List.subset_cons_self _ _
    · exact List.Subset.refl _
  have hshort : job.Invalidating → job.uploadedFileId ∈ s.cutBy job stage := by
    rintro ⟨left, hinv⟩
    rw [hphase] at hinv
    rw [Phase.active.inj hinv]
    exact List.mem_cons_self
  have hunended : s.unended ⊆ s.unendedBy job stage := by
    unfold State.unendedBy
    split
    · exact List.subset_cons_self _ _
    · exact List.Subset.refl _
  have hthrown : job.phase = .active .rethrow → job.uploadedFileId ∈ s.unendedBy job stage := by
    intro hthrow
    rw [hphase] at hthrow
    rw [Phase.active.inj hthrow]
    exact List.mem_cons_self
  cases requeued with
  | true =>
      refine h.progress hjob hlive job.attemptsMade .waiting
        (counted_of_phase (fun _ => (h.counted job hjob).live hlive) (by simp) (by simp)) hcut
        (List.Subset.refl _) hunended
        ⟨le_rfl, ?_, ?_, fun hthrow => .inr (hthrown hthrow), ?_, fun hinv => .inr (hshort hinv)⟩
      · intro hfailed
        cases hfailed
      · intro hthrow
        cases hthrow
      · rintro ⟨left, hinv⟩
        cases hinv
  | false =>
      refine h.progress hjob hlive job.attemptsMade .failed
        (counted_of_phase (fun hne => absurd rfl hne) (by simp) (by simp)) hcut
        (List.subset_cons_self _ _) hunended
        ⟨le_rfl, fun _ => .inr List.mem_cons_self, ?_, fun hthrow => .inr (hthrown hthrow), ?_,
          fun hinv => .inr (hshort hinv)⟩
      · intro hthrow
        cases hthrow
      · rintro ⟨left, hinv⟩
        cases hinv

/-- So does a new upload. -/
theorem Tracked.upload (h : Tracked s) (params : UploadParams) :
    Tracked { s with uploads := s.uploads ++ [⟨params, params.start⟩] } := by
  have hstart : ∀ key id, params.start ≠ .addJob key id := by
    intro key id
    unfold UploadParams.start
    dsimp only
    split_ifs <;> exact UploadStage.noConfusion
  have hold : ∀ (j : Nat) (other : Upload) (key : String) (id : FileId),
      (s.uploads ++ [⟨params, params.start⟩])[j]? = some other → other.stage = .addJob key id →
      s.uploads[j]? = some other := by
    intro j other key id hj hstage
    rcases List.mem_append.mp (List.mem_of_getElem? hj) with hmem | hnew
    · by_cases hlt : j < s.uploads.length
      · rwa [List.getElem?_append_left hlt] at hj
      · rw [List.getElem?_append_right (Nat.le_of_not_lt hlt)] at hj
        have hother := List.mem_singleton.mp (List.mem_of_getElem? hj)
        rw [hother] at hstage
        exact absurd hstage (hstart key id)
    · rw [List.mem_singleton.mp hnew] at hstage
      exact absurd hstage (hstart key id)
  refine ⟨h.files, h.jobs, h.counted, h.filesKnown, h.known, h.savedKnown, h.listsKnown, h.lists,
    ?_, ?_, ?_⟩
  · intro j k other other' key key' id hj hk hstage hstage'
    exact h.once j k other other' key key' id (hold j other key id hj hstage)
      (hold k other' key' id hk hstage') hstage hstage'
  · intro other hother key id hstage
    obtain ⟨j, hj⟩ := List.mem_iff_getElem?.mp hother
    have hmem := List.mem_of_getElem? (hold j other key id hj hstage)
    exact { h.ready other hmem key id hstage with }
  · intro file hfile hkit
    refine (h.tells file hfile hkit).frame (fun _ _ => Iff.rfl) Iff.rfl
      (List.Subset.refl _) (List.Subset.refl _) (List.Subset.refl _) ?_
    rintro ⟨j, other, key, hj, hstage⟩
    refine ⟨j, other, key, ?_, hstage⟩
    rw [List.getElem?_append_left (List.getElem?_eq_some_iff.mp hj).1]
    exact hj

/-- Rows go; the jobs of their files stay. -/
theorem Tracked.removeConcert (h : Tracked s) (concertId : ConcertId) :
    Tracked (s.removeConcert concertId) where
  files := h.files.sublist (List.filter_sublist.map UploadedFile.id)
  jobs := h.jobs
  counted := h.counted
  filesKnown file hfile := h.filesKnown file (List.mem_of_mem_filter hfile)
  known := h.known
  savedKnown := h.savedKnown
  listsKnown := h.listsKnown
  lists file hfile := h.lists file (List.mem_of_mem_filter hfile)
  once := h.once
  ready upload hupload key id hstage :=
    { h.ready upload hupload key id hstage with
      row := fun file hfile =>
        (h.ready upload hupload key id hstage).row file (List.mem_of_mem_filter hfile) }
  tells file hfile hkit :=
    (h.tells file (List.mem_of_mem_filter hfile) hkit).frame (fun _ _ => Iff.rfl) Iff.rfl
      (List.Subset.refl _) (List.Subset.refl _) (List.Subset.refl _) id

/-- The import writes the row of a guest list, which is no press kit. -/
theorem Tracked.importCall (h : Tracked s) (hlisted : id ∈ s.csvJobs) (write : ImportWrite) :
    Tracked (s.setStatus id write.status write.errorMessage) := by
  have hrewritten := Rewritten.setStatus s id write.status write.errorMessage
  have hrow : ∀ file ∈ (s.setStatus id write.status write.errorMessage).files,
      file.id ∉ s.csvJobs → file ∈ s.files :=
    fun file hfile hnot => hrewritten.others file hfile fun heq => hnot (heq ▸ hlisted)
  have hlists : ∀ file ∈ (s.setStatus id write.status write.errorMessage).files,
      file.id ∈ s.csvJobs → file.purpose ≠ pressKitPurpose := by
    intro file hfile hid
    obtain ⟨file₀, hfile₀, hfid, hpurpose⟩ := hrewritten.purposes file hfile
    rw [← hpurpose]
    exact h.lists file₀ hfile₀ (hfid ▸ hid)
  refine ⟨?_, h.jobs, h.counted, ?_, h.known, h.savedKnown, h.listsKnown, hlists, h.once, ?_, ?_⟩
  · rw [RowTable.Keyed, hrewritten.ids]
    exact h.files
  · intro file hfile
    obtain ⟨file₀, hfile₀, hfid, -⟩ := hrewritten.purposes file hfile
    exact hfid ▸ h.filesKnown file₀ hfile₀
  · intro upload hupload key id' hstage
    have hready := h.ready upload hupload key id' hstage
    exact { hready with
      row := fun file hfile hfid =>
        hready.row file (hrow file hfile (hfid ▸ hready.unlisted)) hfid }
  · intro file hfile hkit
    have hnot : file.id ∉ s.csvJobs := fun hid => hlists file hfile hid hkit
    exact (h.tells file (hrow file hfile hnot) hkit).frame (fun _ _ => Iff.rfl) Iff.rfl
      (List.Subset.refl _) (List.Subset.refl _) (List.Subset.refl _) fun hadding => hadding

/-- So does every step. -/
theorem Tracked.next {m : Move} (h : Tracked s) (hs : next platform s m = some s') :
    Tracked s' := by
  cases m with
  | upload params =>
      cases hs
      exact h.upload params
  | uploadCall i ch =>
      obtain ⟨upload, hget, hcall⟩ := Option.bind_eq_some_iff.mp hs
      exact h.uploadCall hget hcall
  | take id =>
      simp only [PressKit.next] at hs
      split at hs
      · rename_i job hfind
        split at hs
        · rename_i hwaiting
          cases hs
          have hlive : job.phase ≠ .failed := by
            rw [hwaiting]
            exact Phase.noConfusion
          have hthrew : job.phase ≠ .active .rethrow := by
            rw [hwaiting]
            exact Phase.noConfusion
          exact h.goTo (RowTable.lookup_mem hfind) hlive hthrew
            (not_invalidating hwaiting (by simp)) _ (by simp) (by simp) (by simp)
        · cases hs
      · cases hs
  | jobCall id ch =>
      simp only [PressKit.next] at hs
      split at hs
      · rename_i job hfind
        split at hs
        · rename_i stage hphase
          cases hs
          exact h.called (RowTable.lookup_mem hfind) hphase (jobCall_called platform job ch s stage)
        · cases hs
      · cases hs
  | stall id requeued =>
      simp only [PressKit.next] at hs
      split at hs
      · rename_i job hfind
        split at hs
        · rename_i stage hphase
          cases hs
          exact h.stall (RowTable.lookup_mem hfind) hphase requeued
        · cases hs
      · cases hs
  | edit id artistBio =>
      cases hs
      exact h.ignore _ s.objects s.stored _
  | importCall id write =>
      simp only [PressKit.next] at hs
      split at hs
      · rename_i hlisted
        cases hs
        exact h.importCall hlisted write
      · cases hs
  | removeConcert id =>
      cases hs
      exact h.removeConcert id

/-- So does a whole run. -/
theorem tracked_run (hopening : Opening s₀) (hrun : Run (next platform) (fun _ => True) s₀ s) :
    Tracked s :=
  hrun.inv (fun _ _ _ h _ hs => h.next hs) hopening.tracked

/-- **What a settled status means.**  After any run, a press kit that is `COMPLETED` has had
    its biography saved.  One that is `FAILED` has a message, and its job is at its last
    attempt: given up after three, about to be, or its worker stalled in between.  If its
    biography has been saved all the same, an attempt that had saved it was cut short, by a
    cache that could not be reached or a worker that stalled. -/
theorem status_settled (hopening : Opening s₀)
    (hrun : Run (next platform) (fun _ => True) s₀ s) (file : UploadedFile)
    (hfile : file ∈ s.files) (hkit : file.purpose = "ARTIST_PRESS_KIT") :
    (file.status = .completed → file.id ∈ s.saved) ∧
    (file.status = .failed → file.errorMessage.isSome ∧
      (∃ job ∈ s.jobs, job.uploadedFileId = file.id ∧ 3 ≤ job.attemptsMade + 1 ∧
        (job.phase = .failed ∧ job.attemptsMade = 3 ∨ job.phase = .active .rethrow ∨
          file.id ∈ s.unended)) ∧
      (file.id ∈ s.saved → file.id ∈ s.cutShort)) := by
  have htells := (tracked_run hopening hrun).tells file hfile hkit
  refine ⟨htells.completed, fun hstatus => ?_⟩
  obtain ⟨hmessage, job, hjob, hid, hgiven⟩ := htells.failed hstatus
  refine ⟨hmessage, ⟨job, hjob, hid, hid ▸ hgiven⟩, fun hsaved => ?_⟩
  -- a job that is about to invalidate the cache has just completed its file
  refine (htells.cut hsaved).resolve_right fun hall => ?_
  have hdone := htells.invalidating job hjob hid (hall job hjob hid)
  rw [hstatus] at hdone
  cases hdone

/-- Three attempts that save the biography and cannot reach the cache. -/
def unreachableCache : List Move :=
  let fails := Move.jobCall "f1" { fails := true }
  uploading ++ attempt ++ [fails] ++ attempt ++ [fails] ++ attempt ++
    [fails, .jobCall "f1" {}, .jobCall "f1" {}]

/-- The cache cannot be reached, and the status is settled all the same. -/
theorem status_settled_unreachableCache :
    ∃ s, Run (next rockBand) (fun _ => True) quietOpening s ∧ ∃ file ∈ s.files,
      (file.purpose = "ARTIST_PRESS_KIT" ∧ file.status = .failed ∧ file.id ∈ s.saved) ∧
      (file.status = .completed → file.id ∈ s.saved) ∧
      (file.status = .failed → file.errorMessage.isSome ∧
        (∃ job ∈ s.jobs, job.uploadedFileId = file.id ∧ 3 ≤ job.attemptsMade + 1 ∧
          (job.phase = .failed ∧ job.attemptsMade = 3 ∨ job.phase = .active .rethrow ∨
            file.id ∈ s.unended)) ∧
        (file.id ∈ s.saved → file.id ∈ s.cutShort)) := by
  have hfailed : ∃ s, Run (next rockBand) (fun _ => True) quietOpening s ∧
      ∃ file ∈ s.files, file.purpose = "ARTIST_PRESS_KIT" ∧ file.status = .failed ∧
        file.id ∈ s.saved :=
    exists_run unreachableCache (fun _ _ => trivial) _ (by decide +kernel)
  obtain ⟨s, hrun, file, hfile, hkit, hstatus⟩ := hfailed
  exact ⟨s, hrun, file, hfile, ⟨hkit, hstatus⟩,
    status_settled quietOpening_opening hrun file hfile hkit⟩

/-- The worker stalls once the failure is recorded, and the attempt made again succeeds. -/
example : (exec (next rockBand) quietOpening (uploading ++ attempt ++
    [.jobCall "f1" { fails := true }] ++ attempt ++ [.jobCall "f1" { fails := true }] ++ attempt ++
    [.jobCall "f1" { fails := true }, .jobCall "f1" {}, .stall "f1" true] ++ attempt)).map
      (fun s => s.files.map UploadedFile.status) = some [.completed] := by decide +kernel

/-- **No press kit is forgotten.**  After any run, the job of a press kit that is `PENDING`
    or `PROCESSING` is in the queue and not given up, or its upload is about to add it, or
    a call was lost: the job was not added, its failure could not be recorded, or its
    worker stalled too often. -/
theorem unsettled_has_job (hopening : Opening s₀)
    (hrun : Run (next platform) (fun _ => True) s₀ s) (file : UploadedFile)
    (hfile : file ∈ s.files) (hkit : file.purpose = "ARTIST_PRESS_KIT")
    (hstatus : file.status = .pending ∨ file.status = .processing) :
    (∃ job ∈ s.jobs, job.uploadedFileId = file.id ∧ job.phase ≠ .failed) ∨
    (∃ (i : Nat) (upload : Upload) (objectKey : String),
      s.uploads[i]? = some upload ∧ upload.stage = .addJob objectKey file.id) ∨
    file.id ∈ s.lost :=
  ((tracked_run hopening hrun).tells file hfile hkit).unsettled hstatus

/-- The job is added and its first attempt stalls. -/
theorem unsettled_has_job_stalled :
    ∃ s, Run (next rockBand) (fun _ => True) quietOpening s ∧ ∃ file ∈ s.files,
      (file.purpose = "ARTIST_PRESS_KIT" ∧ file.status = .processing) ∧
      ((∃ job ∈ s.jobs, job.uploadedFileId = file.id ∧ job.phase ≠ .failed) ∨
        (∃ (i : Nat) (upload : Upload) (objectKey : String),
          s.uploads[i]? = some upload ∧ upload.stage = .addJob objectKey file.id) ∨
        file.id ∈ s.lost) := by
  have hstalled : ∃ s, Run (next rockBand) (fun _ => True) quietOpening s ∧
      ∃ file ∈ s.files, file.purpose = "ARTIST_PRESS_KIT" ∧ file.status = .processing :=
    exists_run (uploading ++ [.take "f1", .jobCall "f1" {}, .stall "f1" true])
      (fun _ _ => trivial) _ (by decide +kernel)
  obtain ⟨s, hrun, file, hfile, hkit, hstatus⟩ := hstalled
  exact ⟨s, hrun, file, hfile, ⟨hkit, hstatus⟩,
    unsettled_has_job quietOpening_opening hrun file hfile hkit (.inr hstatus)⟩

end PressKit
