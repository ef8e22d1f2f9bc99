import TicketBox.PressKit

/-! # Where a biography comes from, and what becomes of an upload

    One call of an attempt is said once (`Called`): it throws, or goes on to the next call
    with what it found.  From it, what a stage holds is what its calls have computed from
    the stored file (`Sources`), so a biography on a concert's page was there before, was
    entered by hand, or was written from a press kit of that concert (`biography_source`).
    The status of a file follows its job (`Tracked`). -/

namespace PressKit

open Machine
open TicketStore (ConcertId UserId Role)

variable {platform : Platform} {s s' s₀ : State} {job : Job} {stage : Stage} {ch : Choice}

/-! ## What a call of an attempt does -/

/-- The effects of a call, by the stage it is made at. -/
inductive Called (platform : Platform) (job : Job) (s : State) : Stage → State → Prop where
  | thrown (stage : Stage) (message : Option String) :
      (∀ message', stage ≠ .markFailed message') → stage ≠ .rethrow →
      Called platform job s stage
        { s.catchError job message with cutShort := s.cutBy job stage }
  | started : Called platform job s .markProcessing
      ((s.setStatus job.uploadedFileId .processing none).goTo job .download)
  | loaded (buffer : Buffer) : s.objects job.objectKey = some buffer →
      Called platform job s .download (s.goTo job (.extract buffer))
  | extracted (buffer : Buffer) (text : String) : platform.extractText buffer = some text →
      20 ≤ jsLength text →
      Called platform job s (.extract buffer) (s.goTo job (.generate (sliceUnits 8000 text)))
  | generated (text : String) (reply : Except (Option String) String) (artistBio : String) :
      platform.generateArtistBio text reply = .ok artistBio → 20 ≤ jsLength (trim artistBio) →
      Called platform job s (.generate text) (s.goTo job (.save artistBio))
  | saved (artistBio : String) : Called platform job s (.save artistBio)
      { ((s.setBio job.concertId (some artistBio)).setStatus job.uploadedFileId .completed
          none).goTo job (.invalidate 3) with saved := job.uploadedFileId :: s.saved }
  | invalidated (left n : Nat) :
      Called platform job s (.invalidate left) (s.goTo job (.invalidate n))
  | completed (left : Nat) : Called platform job s (.invalidate left)
      { s with jobs := RowTable.remove Job.uploadedFileId job.uploadedFileId s.jobs }
  | recorded (message : Option String) : Called platform job s (.markFailed message)
      ((s.setStatus job.uploadedFileId .failed
        (some (message.getD "UNKNOWN_AI_BIO_ERROR"))).goTo job .rethrow)
  | unrecorded (message : Option String) : Called platform job s (.markFailed message)
      { s.goTo job .rethrow with lost := job.uploadedFileId :: s.lost }
  | ended : Called platform job s .rethrow (s.endAttempt job)

/-- The catch block leaves the list of attempts cut short. -/
theorem catchError_cutShort (job : Job) (message : Option String) (s : State) :
    { s.catchError job message with cutShort := s.cutShort } = s.catchError job message := by
  unfold State.catchError
  split <;> rfl

/-- A stage that has saved nothing cuts nothing short. -/
theorem called_thrown (message : Option String) (hcut : s.cutBy job stage = s.cutShort)
    (hstage : ∀ message', stage ≠ .markFailed message') (hrethrow : stage ≠ .rethrow) :
    Called platform job s stage (s.catchError job message) := by
  have hthrown : Called platform job s stage
      { s.catchError job message with cutShort := s.cutBy job stage } :=
    .thrown stage message hstage hrethrow
  rw [hcut, catchError_cutShort] at hthrown
  exact hthrown

/-- Every call of the job is one of the cases. -/
theorem jobCall_called (platform : Platform) (job : Job) (ch : Choice) (s : State)
    (stage : Stage) : Called platform job s stage (s.jobCall platform job ch stage) := by
  cases stage with
  | markProcessing =>
      simp only [State.jobCall]
      split
      · exact called_thrown ch.thrown rfl (by simp) (by simp)
      · exact .started
  | download =>
      simp only [State.jobCall]
      split
      · exact called_thrown ch.thrown rfl (by simp) (by simp)
      · rename_i buffer hbuffer
        split
        · exact called_thrown ch.thrown rfl (by simp) (by simp)
        · exact .loaded buffer hbuffer
  | extract buffer =>
      simp only [State.jobCall]
      split
      · exact called_thrown ch.thrown rfl (by simp) (by simp)
      · rename_i text htext
        split
        · exact called_thrown _ rfl (by simp) (by simp)
        · split
          · exact called_thrown _ rfl (by simp) (by simp)
          · rename_i hlong
            exact .extracted buffer text htext (by omega)
  | generate text =>
      simp only [State.jobCall]
      split
      · exact called_thrown _ rfl (by simp) (by simp)
      · rename_i artistBio hbio
        split
        · exact called_thrown _ rfl (by simp) (by simp)
        · rename_i hlong
          exact .generated text _ artistBio hbio (by omega)
  | save artistBio =>
      simp only [State.jobCall]
      split
      · exact called_thrown ch.thrown rfl (by simp) (by simp)
      · exact .saved artistBio
  | invalidate left =>
      simp only [State.jobCall]
      split
      · exact .thrown (.invalidate left) ch.thrown (by simp) (by simp)
      · split
        · exact .invalidated _ _
        · exact .completed left
  | markFailed message =>
      simp only [State.jobCall]
      split
      · exact .unrecorded message
      · exact .recorded message
  | rethrow => exact .ended

/-! ## What the stages hold -/

/-- An upload that is let through: the file passes the checks of its route, and the user may
    manage the concert. -/
structure Rightful (start : List Concert) (params : UploadParams) : Prop where
  accepts : params.route.kind.accepts params.file.mimetype = true
  size : params.file.size ≤ params.route.kind.maxSizeInBytes
  manages : ∃ concert ∈ start, concert.id = params.concertId ∧
    (params.role = .admin ∨ concert.organizerId = params.userId)

/-- A biography that the processor writes from the bytes of a press kit. -/
def Written (platform : Platform) (buffer : Buffer) (artistBio : String) : Prop :=
  ∃ text reply, platform.extractText buffer = some text ∧ 20 ≤ jsLength text ∧
    platform.generateArtistBio (sliceUnits 8000 text) reply = .ok artistBio ∧
    20 ≤ jsLength (trim artistBio)

/-- What an upload knows at its stage. -/
def Upload.Holds (start : List Concert) (stored : List (String × UploadParams))
    (upload : Upload) : Prop :=
  match upload.stage with
  | .findConcert => upload.params.route.kind.accepts upload.params.file.mimetype = true ∧
      upload.params.file.size ≤ upload.params.route.kind.maxSizeInBytes
  | .store _ => Rightful start upload.params
  | .createFile objectKey => (objectKey, upload.params) ∈ stored
  | .addJob objectKey _ => (objectKey, upload.params) ∈ stored
  | .done _ => True

/-- What an attempt on the file `buffer` has computed at its stage. -/
def Phase.Holds (platform : Platform) (buffer : Buffer) : Phase → Prop
  | .active (.extract buffer') => buffer' = buffer
  | .active (.generate limitedText) => ∃ text, platform.extractText buffer = some text ∧
      20 ≤ jsLength text ∧ limitedText = sliceUnits 8000 text
  | .active (.save artistBio) => Written platform buffer artistBio
  | _ => True

/-- The job works on a press kit that is stored for its concert. -/
def Job.Holds (platform : Platform) (stored : List (String × UploadParams)) (job : Job) : Prop :=
  ∃ params, (job.objectKey, params) ∈ stored ∧ params.route = .pressKit ∧
    params.concertId = job.concertId ∧ job.phase.Holds platform params.file.buffer

/-- The biography was there at the start, was entered by hand, or was written from a press
    kit that somebody who may manage the concert has uploaded for it. -/
def Sourced (platform : Platform) (start : List Concert) (s : State) (id : ConcertId)
    (artistBio : String) : Prop :=
  (∃ concert ∈ start, concert.id = id ∧ concert.artistBio = some artistBio) ∨
  (id, artistBio) ∈ s.entered ∨
  ∃ objectKey params, (objectKey, params) ∈ s.stored ∧ params.route = .pressKit ∧
    params.concertId = id ∧ Rightful start params ∧ Written platform params.file.buffer artistBio

/-- The invariant: what is stored, what the uploads and the jobs know, and where the
    biographies come from. -/
structure Sources (platform : Platform) (start : List Concert) (s : State) : Prop where
  managers : ∀ concert ∈ s.concerts, ∃ concert₀ ∈ start,
    concert₀.id = concert.id ∧ concert₀.organizerId = concert.organizerId
  objects : ∀ objectKey buffer, s.objects objectKey = some buffer →
    ∃ params, (objectKey, params) ∈ s.stored ∧ params.file.buffer = buffer
  kept : ∀ entry ∈ s.stored, (s.objects entry.1).isSome
  once : RowTable.Keyed Prod.fst s.stored
  rightful : ∀ entry ∈ s.stored, Rightful start entry.2
  uploads : ∀ upload ∈ s.uploads, upload.Holds start s.stored
  jobs : ∀ job ∈ s.jobs, job.Holds platform s.stored
  bios : ∀ concert ∈ s.concerts, ∀ artistBio, concert.artistBio = some artistBio →
    Sourced platform start s concert.id artistBio

/-- At the start every biography is the concert's own. -/
theorem Opening.sources (h : Opening s) : Sources platform s.concerts s where
  managers concert hconcert := ⟨concert, hconcert, rfl, rfl⟩
  objects objectKey buffer hbuffer := by
    rw [h.objects] at hbuffer
    cases hbuffer
  kept entry hentry := by
    rw [h.stored] at hentry
    cases hentry
  once := by
    rw [h.stored]
    exact List.nodup_nil
  rightful entry hentry := by
    rw [h.stored] at hentry
    cases hentry
  uploads upload hupload := by
    rw [h.uploads] at hupload
    cases hupload
  jobs job hjob := by
    rw [h.jobs] at hjob
    cases hjob
  bios concert hconcert artistBio hbio := .inl ⟨concert, hconcert, rfl, hbio⟩

variable {start : List Concert}

/-! ### Jobs -/

/-- A change of the queue and of the files' statuses. -/
theorem Sources.requeue (h : Sources platform start s) (jobs : List Job)
    (files : List UploadedFile) (saved cutShort lost unended : List FileId)
    (hjobs : ∀ job ∈ jobs, job.Holds platform s.stored) :
    Sources platform start { s with jobs, files, saved, cutShort, lost, unended } :=
  { managers := h.managers, objects := h.objects, kept := h.kept, once := h.once
    rightful := h.rightful, uploads := h.uploads, jobs := hjobs, bios := h.bios }

/-- The jobs after one of them goes on to another phase. -/
theorem holds_of_modify {stored : List (String × UploadParams)} {jobs : List Job} {job' : Job}
    (hjobs : ∀ job ∈ jobs, job.Holds platform stored) (hjob' : job'.Holds platform stored) :
    ∀ job ∈ RowTable.modify Job.uploadedFileId job'.uploadedFileId (fun _ => job') jobs,
      job.Holds platform stored := by
  intro job hjob
  obtain ⟨job₀, hjob₀, rfl⟩ := RowTable.mem_modify hjob
  split
  · exact hjob'
  · exact hjobs job₀ hjob₀

/-- The same job in a phase that says nothing about the file. -/
theorem Job.Holds.rest {stored : List (String × UploadParams)}
    (h : job.Holds platform stored) {phase : Phase} (attemptsMade : Nat)
    (hphase : ∀ buffer, phase.Holds platform buffer) :
    Job.Holds platform stored { job with attemptsMade, phase } := by
  obtain ⟨params, hstored, hroute, hid, -⟩ := h
  exact ⟨params, hstored, hroute, hid, hphase params.file.buffer⟩

/-- An attempt that ends writes no biography. -/
theorem Sources.endAttempt (h : Sources platform start s)
    (hjob : job.Holds platform s.stored) : Sources platform start (s.endAttempt job) := by
  refine h.requeue _ s.files s.saved s.cutShort s.lost s.unended ?_
  refine holds_of_modify h.jobs (hjob.rest _ fun buffer => ?_)
  show Phase.Holds platform buffer (if _ then Phase.waiting else Phase.failed)
  split <;> trivial

/-- Nor does the catch block. -/
theorem Sources.catchError (h : Sources platform start s) (hjob : job.Holds platform s.stored)
    (message : Option String) : Sources platform start (s.catchError job message) := by
  unfold State.catchError
  split
  · refine h.requeue _ s.files s.saved s.cutShort s.lost s.unended ?_
    exact holds_of_modify h.jobs (hjob.rest _ fun _ => trivial)
  · exact h.endAttempt hjob

/-- The saving of a biography that is written from the job's file. -/
theorem Sources.setBio (h : Sources platform start s) {id : ConcertId} {artistBio : String}
    (hbio : Sourced platform start s id artistBio) :
    Sources platform start (s.setBio id (some artistBio)) := by
  refine ⟨?_, h.objects, h.kept, h.once, h.rightful, h.uploads, h.jobs, ?_⟩
  · intro concert hconcert
    obtain ⟨concert₁, hconcert₁, rfl⟩ := RowTable.mem_modify hconcert
    obtain ⟨concert₀, hconcert₀, hid, horganizer⟩ := h.managers concert₁ hconcert₁
    refine ⟨concert₀, hconcert₀, ?_, ?_⟩ <;> split <;> assumption
  · intro concert hconcert bio hcbio
    obtain ⟨concert₁, hconcert₁, rfl⟩ := RowTable.mem_modify hconcert
    split at hcbio
    · rename_i hid
      rw [if_pos hid]
      show Sourced platform start s concert₁.id bio
      rw [hid, ← Option.some.inj hcbio]
      exact hbio
    · rename_i hid
      rw [if_neg hid]
      exact h.bios concert₁ hconcert₁ bio hcbio

/-- A call of the job writes a biography from its own file. -/
theorem Sources.called (h : Sources platform start s) (hjob : job ∈ s.jobs)
    (hphase : job.phase = .active stage) (hcalled : Called platform job s stage s') :
    Sources platform start s' := by
  have hholds := h.jobs job hjob
  obtain ⟨params, hstored, hroute, hid, hknown⟩ := h.jobs job hjob
  rw [hphase] at hknown
  cases hcalled with
  | thrown _ message _ _ =>
      have hcaught := h.catchError hholds message
      exact hcaught.requeue _ _ _ _ _ _ hcaught.jobs
  | started =>
      refine h.requeue _ _ s.saved s.cutShort s.lost s.unended ?_
      exact holds_of_modify h.jobs (hholds.rest _ fun _ => trivial)
  | loaded buffer hbuffer =>
      refine h.requeue _ s.files s.saved s.cutShort s.lost s.unended ?_
      refine holds_of_modify h.jobs ⟨params, hstored, hroute, hid, ?_⟩
      -- the key is stored once
      obtain ⟨params', hstored', hbuffer'⟩ := h.objects job.objectKey buffer hbuffer
      have hsame := RowTable.eq_of_key h.once hstored hstored' rfl
      show buffer = params.file.buffer
      rw [← hbuffer', (Prod.mk.inj hsame).2]
  | extracted buffer text htext hlong =>
      refine h.requeue _ s.files s.saved s.cutShort s.lost s.unended ?_
      refine holds_of_modify h.jobs ⟨params, hstored, hroute, hid, text, ?_, hlong, rfl⟩
      rw [← (hknown : buffer = params.file.buffer)]
      exact htext
  | generated limitedText reply artistBio hbio hlong =>
      refine h.requeue _ s.files s.saved s.cutShort s.lost s.unended ?_
      obtain ⟨text, htext, hlength, rfl⟩ := hknown
      exact holds_of_modify h.jobs
        ⟨params, hstored, hroute, hid, text, reply, htext, hlength, hbio, hlong⟩
  | saved artistBio =>
      have hsourced : Sourced platform start s job.concertId artistBio :=
        .inr (.inr ⟨job.objectKey, params, hstored, hroute, hid, h.rightful _ hstored, hknown⟩)
      refine (h.setBio hsourced).requeue _ _ _ s.cutShort s.lost s.unended ?_
      exact holds_of_modify h.jobs (hholds.rest _ fun _ => trivial)
  | invalidated left n =>
      refine h.requeue _ s.files s.saved s.cutShort s.lost s.unended ?_
      exact holds_of_modify h.jobs (hholds.rest _ fun _ => trivial)
  | completed left =>
      refine h.requeue _ s.files s.saved s.cutShort s.lost s.unended fun job' hjob' => ?_
      exact h.jobs job' (List.mem_of_mem_filter hjob')
  | recorded message =>
      have hset : Sources platform start (s.setStatus job.uploadedFileId .failed
          (some (message.getD "UNKNOWN_AI_BIO_ERROR"))) :=
        h.requeue s.jobs _ s.saved s.cutShort s.lost s.unended h.jobs
      refine hset.requeue _ _ _ _ _ _ ?_
      exact holds_of_modify h.jobs (hholds.rest _ fun _ => trivial)
  | unrecorded message =>
      refine h.requeue _ s.files s.saved s.cutShort _ s.unended ?_
      exact holds_of_modify h.jobs (hholds.rest _ fun _ => trivial)
  | ended => exact h.endAttempt hholds

/-! ### Uploads -/

/-- What an upload knows stays so while more is stored. -/
theorem Upload.Holds.mono {stored stored' : List (String × UploadParams)} {upload : Upload}
    (h : upload.Holds start stored) (hsub : stored ⊆ stored') : upload.Holds start stored' := by
  unfold Upload.Holds at h ⊢
  split at h
  · exact h
  · exact h
  · exact hsub h
  · exact hsub h
  · trivial

/-- What a job holds it holds when more is stored. -/
theorem Job.Holds.mono {stored stored' : List (String × UploadParams)}
    (h : job.Holds platform stored) (hsub : stored ⊆ stored') : job.Holds platform stored' := by
  obtain ⟨params, hstored, hrest⟩ := h
  exact ⟨params, hsub hstored, hrest⟩

/-- An upload goes on, and nothing else happens. -/
theorem Sources.setUpload (h : Sources platform start s) (i : Nat) {upload : Upload}
    (hupload : upload.Holds start s.stored) :
    Sources platform start (s.setUpload i upload) := by
  refine { h with uploads := fun upload' hupload' => ?_ }
  rcases List.mem_or_eq_of_mem_set hupload' with hold | rfl
  · exact h.uploads upload' hold
  · exact hupload

/-- A file is stored under a key that is free. -/
theorem Sources.store (h : Sources platform start s) {objectKey : String} {params : UploadParams}
    (hfree : s.objects objectKey = none) (hright : Rightful start params) :
    Sources platform start { s with
      objects := Function.update s.objects objectKey (some params.file.buffer)
      stored := (objectKey, params) :: s.stored } where
  managers := h.managers
  objects key buffer hbuffer := by
    change Function.update s.objects objectKey (some params.file.buffer) key = some buffer
      at hbuffer
    by_cases hkey : key = objectKey
    · subst hkey
      rw [Function.update_self] at hbuffer
      exact ⟨params, List.mem_cons_self, Option.some.inj hbuffer⟩
    · rw [Function.update_of_ne hkey] at hbuffer
      obtain ⟨params', hstored, hbytes⟩ := h.objects key buffer hbuffer
      exact ⟨params', List.mem_cons_of_mem _ hstored, hbytes⟩
  kept entry hentry := by
    show (Function.update s.objects objectKey (some params.file.buffer) entry.1).isSome
    by_cases hkey : entry.1 = objectKey
    · rw [hkey, Function.update_self]
      rfl
    · rw [Function.update_of_ne hkey]
      rcases List.mem_cons.mp hentry with rfl | hold
      · exact absurd rfl hkey
      · exact h.kept entry hold
  once := by
    have hnew : objectKey ∉ s.stored.map Prod.fst := by
      intro hmem
      obtain ⟨entry, hentry, rfl⟩ := List.mem_map.mp hmem
      have hkept := h.kept entry hentry
      rw [hfree] at hkept
      cases hkept
    exact List.nodup_cons.mpr ⟨hnew, h.once⟩
  rightful entry hentry := by
    rcases List.mem_cons.mp hentry with rfl | hold
    · exact hright
    · exact h.rightful entry hold
  uploads upload hupload := (h.uploads upload hupload).mono (List.subset_cons_self _ _)
  jobs job hjob := (h.jobs job hjob).mono (List.subset_cons_self _ _)
  bios concert hconcert artistBio hbio := by
    rcases h.bios concert hconcert artistBio hbio with hold | hhand | ⟨key, params', hstored, hrest⟩
    · exact .inl hold
    · exact .inr (.inl hhand)
    · exact .inr (.inr ⟨key, params', List.mem_cons_of_mem _ hstored, hrest⟩)

/-- A call of an upload writes no biography. -/
theorem Sources.uploadCall {i : Nat} {upload : Upload} (h : Sources platform start s)
    (hupload : upload ∈ s.uploads) (hs : s.uploadCall i upload ch = some s') :
    Sources platform start s' := by
  obtain ⟨params, stage⟩ := upload
  have hknown := h.uploads _ hupload
  have hended : ∀ answer, Sources platform start (s.setUpload i ⟨params, .done answer⟩) :=
    fun answer => h.setUpload i trivial
  unfold State.uploadCall at hs
  cases stage with
  | done answer => cases hs
  | findConcert =>
      simp only at hs
      split at hs
      · cases hs
        exact hended _
      · split at hs
        · cases hs
          exact hended _
        · rename_i concert hfind
          split at hs
          · cases hs
            exact hended _
          · rename_i hmay
            cases hs
            have hid := RowTable.lookup_key hfind
            obtain ⟨concert₀, hmem, hid₀, horganizer⟩ :=
              h.managers concert (RowTable.lookup_mem hfind)
            -- who passes the check manages the concert
            have hmanages : params.role = .admin ∨ concert₀.organizerId = params.userId := by
              rw [horganizer]
              by_contra hnot
              exact hmay (not_or.mp hnot)
            exact h.setUpload i
              ⟨hknown.1, hknown.2, concert₀, hmem, hid₀.trans hid, hmanages⟩
  | store objectKey =>
      simp only at hs
      split at hs
      · cases hs
        exact hended _
      · split at hs
        · cases hs
        · rename_i hfree
          cases hs
          rw [Bool.not_eq_true, Option.isSome_eq_false_iff, Option.isNone_iff_eq_none] at hfree
          exact (h.store hfree hknown).setUpload i List.mem_cons_self
  | createFile objectKey =>
      simp only at hs
      split at hs
      · cases hs
        exact hended _
      · split at hs
        · cases hs
        · cases hs
          have hset := h.setUpload i
            (show Upload.Holds start s.stored ⟨params, .addJob objectKey ch.uuid⟩ from hknown)
          exact { hset with }
  | addJob objectKey fileId =>
      simp only at hs
      split at hs
      · cases hs
        exact { hended _ with }
      · split at hs
        · cases hs
          exact { hended (.ok fileId) with }
        · rename_i hroute
          cases hs
          refine { hended (.ok fileId) with jobs := fun job hjob => ?_ }
          -- the job works on what this upload has stored
          rcases List.mem_append.mp hjob with hold | hnew
          · exact h.jobs job hold
          · rw [List.mem_singleton.mp hnew]
            exact ⟨params, hknown, hroute, rfl, trivial⟩

/-- An upload holds nothing when it begins. -/
theorem start_holds (params : UploadParams) (stored : List (String × UploadParams)) :
    Upload.Holds start stored ⟨params, params.start⟩ := by
  unfold Upload.Holds UploadParams.start
  dsimp only
  split_ifs with htype hsize
  · trivial
  · trivial
  · exact ⟨Bool.eq_true_of_not_eq_false htype, Nat.le_of_not_lt hsize⟩

/-! ### The other moves -/

/-- A stall writes no biography. -/
theorem Sources.stall (h : Sources platform start s) (hjob : job ∈ s.jobs) (requeued : Bool)
    (stage : Stage) : Sources platform start (s.stall job requeued stage) := by
  have hholds := h.jobs job hjob
  cases requeued with
  | true =>
      refine h.requeue _ s.files s.saved _ s.lost _ ?_
      exact holds_of_modify h.jobs (hholds.rest _ fun _ => trivial)
  | false =>
      refine h.requeue _ s.files s.saved _ _ _ ?_
      exact holds_of_modify h.jobs (hholds.rest _ fun _ => trivial)

/-- An edit by hand is noted as one. -/
theorem Sources.edit (h : Sources platform start s) (id : ConcertId)
    (artistBio : Option String) : Sources platform start (s.edit id artistBio) := by
  have hmono : ∀ id' bio, Sourced platform start s id' bio →
      Sourced platform start (s.edit id artistBio) id' bio := by
    rintro id' bio (hold | hhand | hkit)
    · exact .inl hold
    · exact .inr (.inl (List.mem_append_right _ hhand))
    · exact .inr (.inr hkit)
  refine ⟨?_, h.objects, h.kept, h.once, h.rightful, h.uploads, h.jobs, ?_⟩
  · intro concert hconcert
    obtain ⟨concert₁, hconcert₁, rfl⟩ := RowTable.mem_modify hconcert
    obtain ⟨concert₀, hconcert₀, hid, horganizer⟩ := h.managers concert₁ hconcert₁
    refine ⟨concert₀, hconcert₀, ?_, ?_⟩ <;> split <;> assumption
  · intro concert hconcert bio hcbio
    obtain ⟨concert₁, hconcert₁, rfl⟩ := RowTable.mem_modify hconcert
    split at hcbio
    · rename_i hid
      rw [if_pos hid]
      refine .inr (.inl (List.mem_append_left _ ?_))
      have hwritten : artistBio = some bio := hcbio
      show (concert₁.id, bio) ∈ (artistBio.map fun bio => (id, bio)).toList
      subst hwritten
      rw [hid]
      exact List.mem_singleton_self _
    · rename_i hid
      rw [if_neg hid]
      exact hmono concert₁.id bio (h.bios concert₁ hconcert₁ bio hcbio)

/-- A removal writes none. -/
theorem Sources.removeConcert (h : Sources platform start s) (id : ConcertId) :
    Sources platform start (s.removeConcert id) :=
  { managers := fun concert hconcert => h.managers concert (List.mem_of_mem_filter hconcert)
    objects := h.objects, kept := h.kept, once := h.once, rightful := h.rightful
    uploads := h.uploads, jobs := h.jobs
    bios := fun concert hconcert => h.bios concert (List.mem_of_mem_filter hconcert) }

/-- Every step keeps the source of each biography. -/
theorem Sources.next {m : Move} (h : Sources platform start s)
    (hs : next platform s m = some s') : Sources platform start s' := by
  cases m with
  | upload params =>
      cases hs
      refine { h with uploads := fun upload hupload => ?_ }
      rcases List.mem_append.mp hupload with hold | hnew
      · exact h.uploads upload hold
      · rw [List.mem_singleton.mp hnew]
        exact start_holds params s.stored
  | uploadCall i ch =>
      obtain ⟨upload, hget, hcall⟩ := Option.bind_eq_some_iff.mp hs
      exact h.uploadCall (List.mem_of_getElem? hget) hcall
  | take id =>
      simp only [PressKit.next] at hs
      split at hs
      · rename_i job hfind
        split at hs
        · cases hs
          refine h.requeue _ s.files s.saved s.cutShort s.lost s.unended ?_
          exact holds_of_modify h.jobs
            ((h.jobs job (RowTable.lookup_mem hfind)).rest _ fun _ => trivial)
        · cases hs
      · cases hs
  | jobCall id ch =>
      simp only [PressKit.next] at hs
      split at hs
      · rename_i job hfind
        split at hs
        · rename_i stage hphase
          cases hs
          exact h.called (RowTable.lookup_mem hfind) hphase (jobCall_called platform job ch s stage)
        · cases hs
      · cases hs
  | stall id requeued =>
      simp only [PressKit.next] at hs
      split at hs
      · rename_i job hfind
        split at hs
        · cases hs
          exact h.stall (RowTable.lookup_mem hfind) requeued _
        · cases hs
      · cases hs
  | edit id artistBio =>
      cases hs
      exact h.edit id artistBio
  | importCall id write =>
      simp only [PressKit.next] at hs
      split at hs
      · cases hs
        exact h.requeue s.jobs _ s.saved s.cutShort s.lost s.unended h.jobs
      · cases hs
  | removeConcert id =>
      cases hs
      exact h.removeConcert id

/-- **Where a biography comes from.**  After any run, a biography on a concert was there at
    the start, was entered by hand for this concert, or was written from the text of a PDF
    that was stored for this very concert, by an upload that passed the checks and whose
    user may manage the concert. -/
theorem biography_source (hopening : Opening s₀)
    (hrun : Run (next platform) (fun _ => True) s₀ s) (concert : Concert)
    (hconcert : concert ∈ s.concerts) (artistBio : String)
    (hbio : concert.artistBio = some artistBio) :
    (∃ concert₀ ∈ s₀.concerts, concert₀.id = concert.id ∧ concert₀.artistBio = some artistBio) ∨
    (concert.id, artistBio) ∈ s.entered ∨
    ∃ objectKey params, (objectKey, params) ∈ s.stored ∧ params.route = .pressKit ∧
      params.concertId = concert.id ∧ Rightful s₀.concerts params ∧
      Written platform params.file.buffer artistBio := by
  have hsources : Sources platform s₀.concerts s :=
    hrun.inv (I := fun s => Sources platform s₀.concerts s)
      (fun _ _ _ h _ hs => h.next hs) hopening.sources
  exact hsources.bios concert hconcert artistBio hbio

/-! ## An example run -/

/-- One concert, of the organizer `1`. -/
def quietOpening : State where
  concerts := [⟨1, 1, none⟩]
  files := []
  objects := fun _ => none
  jobs := []
  csvJobs := []
  uploads := []
  generated := []
  stored := []
  entered := []
  saved := []
  cutShort := []
  lost := []
  unended := []

/-- The quiet platform is a start. -/
theorem quietOpening_opening : Opening quietOpening where
  concerts := by decide
  files := rfl
  objects _ := rfl
  jobs := rfl
  csvJobs := rfl
  uploads := rfl
  stored := rfl
  entered := rfl
  saved := rfl
  cutShort := rfl
  lost := rfl

/-- A platform that reads the text of every file. -/
def rockBand : Platform := ⟨fun _ => some "Ban nhạc rock từ Hà Nội", true⟩

/-- The upload of a press kit. -/
def rockBandKit : UploadParams where
  route := .pressKit
  concertId := 1
  file := ⟨"kit.pdf", "application/pdf", 4, [37, 80, 68, 70]⟩
  userId := 1
  role := .organizer

/-- The upload with its calls carried out. -/
def uploading : List Move :=
  [.upload rockBandKit, .uploadCall 0 {}, .uploadCall 0 {}, .uploadCall 0 { uuid := "f1" },
    .uploadCall 0 {}]

/-- An attempt, up to the saving of what the model replies. -/
def attempt : List Move :=
  [.take "f1", .jobCall "f1" {}, .jobCall "f1" {}, .jobCall "f1" {},
    .jobCall "f1" { reply := some "Nhóm thành lập năm 2011" }, .jobCall "f1" {}]

/-- The band's biography comes from its press kit. -/
theorem biography_source_rockBand :
    ∃ s, Run (next rockBand) (fun _ => True) quietOpening s ∧
      ∃ concert ∈ s.concerts, ∃ artistBio, concert.artistBio = some artistBio ∧
        ((∃ concert₀ ∈ quietOpening.concerts, concert₀.id = concert.id ∧
            concert₀.artistBio = some artistBio) ∨
          (concert.id, artistBio) ∈ s.entered ∨
          ∃ objectKey params, (objectKey, params) ∈ s.stored ∧ params.route = .pressKit ∧
            params.concertId = concert.id ∧ Rightful quietOpening.concerts params ∧
            Written rockBand params.file.buffer artistBio) := by
  have hwritten : ∃ s, Run (next rockBand) (fun _ => True) quietOpening s ∧
      ∃ concert ∈ s.concerts, concert.artistBio.isSome :=
    exists_run (uploading ++ attempt) (fun _ _ => trivial) _ (by decide +kernel)
  obtain ⟨s, hrun, concert, hconcert, hsome⟩ := hwritten
  obtain ⟨artistBio, hbio⟩ := Option.isSome_iff_exists.mp hsome
  exact ⟨s, hrun, concert, hconcert, artistBio, hbio,
    biography_source quietOpening_opening hrun concert hconcert artistBio hbio⟩

end PressKit
