import TicketBox.GuestImport
import Mathlib.Data.Finset.Basic

/-! # What an import reports and what it writes

    The loop of the parser is followed row by row: its errors stay empty exactly
    while every row has a name and every contact value is accepted and new.  An
    attempt of the job ends in one of three ways, told by the guest list and the
    call that failed; a run of attempts adds the rows of an undisturbed import, and
    the rows without an address once more for every attempt after them. -/

namespace GuestImport

open TicketStore (ConcertId)

/-! ## The e-mail pattern -/

/-- An element inside a list, with something on either side. -/
theorem mem_inside {α : Type} {c : α} {cs : List α} :
    c ∈ cs.tail.dropLast ↔ ∃ l r, cs = l ++ c :: r ∧ l ≠ [] ∧ r ≠ [] := by
  constructor
  · intro h
    cases cs with
    | nil => cases h
    | cons a t =>
        obtain ⟨l, r, hlr⟩ := List.append_of_mem h
        have ht : t ≠ [] := by
          rintro rfl
          cases h
        have hsplit : t = l ++ c :: (r ++ [t.getLast ht]) := by
          have hlast := (List.dropLast_append_getLast ht).symm
          rw [List.tail_cons] at hlr
          rw [hlr] at hlast
          simpa using hlast
        refine ⟨a :: l, r ++ [t.getLast ht], ?_, by simp, by simp⟩
        rw [List.cons_append, ← hsplit]
  · rintro ⟨l, r, rfl, hl, hr⟩
    cases l with
    | nil => exact absurd rfl hl
    | cons a l =>
        rw [List.cons_append, List.tail_cons, List.dropLast_append_of_ne_nil (by simp),
          List.dropLast_cons_of_ne_nil hr]
        simp

/-- The pattern as it is written: a text, `@`, a text, a dot and a text, each of one
    character or more that is neither white space nor `@`. -/
theorem emailRegex_iff {s : String} :
    emailRegex s = true ↔ ∃ account sub top : List Char,
      s.toList = account ++ '@' :: (sub ++ '.' :: top) ∧
        account ≠ [] ∧ sub ≠ [] ∧ top ≠ [] ∧ ∀ c ∈ account ++ sub ++ top, isAddressChar c := by
  have hat : ∀ {cs : List Char}, (∀ c ∈ cs, isAddressChar c = true) → '@' ∉ cs := by
    intro cs h hmem
    exact absurd (h _ hmem) (by decide)
  constructor
  · intro h
    unfold emailRegex at h
    split at h
    · rename_i account domain hsplit
      have hjoin : ['@'].intercalate (s.toList.splitOn '@') = s.toList :=
        List.intercalate_splitOn '@'
      rw [hsplit] at hjoin
      simp only [Bool.and_eq_true, bne_iff_ne, List.all_eq_true, List.contains_iff_mem,
        List.mem_append] at h
      obtain ⟨⟨hne, hchars⟩, hdot⟩ := h
      obtain ⟨sub, top, rfl, hsub, htop⟩ := mem_inside.mp hdot
      refine ⟨account, sub, top, by simpa using hjoin.symm, ?_, hsub, htop, ?_⟩
      · rintro rfl
        exact hne rfl
      · intro c hc
        refine hchars c ?_
        simp only [List.mem_append, List.mem_cons] at hc ⊢
        tauto
    · cases h
  · rintro ⟨account, sub, top, hs, haccount, hsub, htop, hchars⟩
    have hdomain : ∀ c ∈ sub ++ '.' :: top, isAddressChar c = true := by
      intro c hc
      rcases List.mem_append.mp hc with hc | hc
      · exact hchars c (by simp [hc])
      · rcases List.mem_cons.mp hc with rfl | hc
        · decide
        · exact hchars c (by simp [hc])
    have hsplit : s.toList.splitOn '@' = [account, sub ++ '.' :: top] := by
      rw [hs, List.splitOn_append_cons_self_of_not_mem (hat fun c hc => hchars c (by simp [hc])),
        List.splitOn_eq_singleton (hat hdomain)]
    unfold emailRegex
    rw [hsplit]
    simp only [Bool.and_eq_true, bne_iff_ne, List.all_eq_true, List.contains_iff_mem]
    refine ⟨⟨by simpa using haccount, ?_⟩, mem_inside.mpr ⟨sub, top, rfl, hsub, htop⟩⟩
    intro c hc
    rcases List.mem_append.mp hc with hc | hc
    · exact hchars c (by simp [hc])
    · exact hdomain c hc

/-! ## One pass over the rows -/

/-- Values that raise no error after those seen. -/
def Admitted (accepts : String → Bool) (seen : Finset String) (vs : List String) : Prop :=
  (∀ v ∈ vs, accepts v = true ∧ v ∉ seen) ∧ vs.Nodup

/-- No value is refused of none. -/
theorem admitted_nil (accepts : String → Bool) (seen : Finset String) :
    Admitted accepts seen [] := ⟨by simp, .nil⟩

/-- The first value is accepted and new, and so are those behind it. -/
theorem admitted_cons {accepts : String → Bool} {seen : Finset String} {v : String}
    {vs : List String} : Admitted accepts seen (v :: vs) ↔
      (accepts v = true ∧ v ∉ seen) ∧ Admitted accepts (insert v seen) vs := by
  constructor
  · rintro ⟨hvs, hnodup⟩
    rw [List.nodup_cons] at hnodup
    refine ⟨hvs v (by simp), fun v' hv' => ⟨(hvs v' (by simp [hv'])).1, ?_⟩, hnodup.2⟩
    intro hmem
    rcases Finset.mem_insert.mp hmem with rfl | hmem
    · exact hnodup.1 hv'
    · exact (hvs v' (by simp [hv'])).2 hmem
  · rintro ⟨hv, hvs, hnodup⟩
    refine ⟨?_, List.nodup_cons.mpr ⟨fun hmem => (hvs v hmem).2 (by simp), hnodup⟩⟩
    intro v' hv'
    rcases List.mem_cons.mp hv' with rfl | hv'
    · exact hv
    · exact ⟨(hvs v' hv').1, fun hmem => (hvs v' hv').2 (by simp [hmem])⟩

/-- One check of a row raises no error, and the later rows none after it, exactly where
    its value and theirs are admitted. -/
theorem checkValue_admitted {accepts : String → Bool} {malformed duplicate : String → String}
    {given : Option String} {seen : Finset String} {vs : List String} :
    ((checkValue accepts malformed duplicate given seen).1 = [] ∧
      Admitted accepts (checkValue accepts malformed duplicate given seen).2 vs) ↔
      Admitted accepts seen (given.toList ++ vs) := by
  cases given with
  | none => simp [checkValue]
  | some v =>
      rw [Option.toList_some, List.singleton_append, admitted_cons]
      refine and_congr_left fun _ => ?_
      simp only [checkValue]
      by_cases hacc : accepts v <;> by_cases hmem : v ∈ seen <;> simp [hacc, hmem]

/-- A row with a name is kept. -/
theorem parseRow_named {i : Nat} {row : RawCsvRow} {st : ParseState} (h : row.givenName ≠ "") :
    parseRow i row st =
      { validRecords := st.validRecords ++ [row.result]
        errors := st.errors ++ (checkEmail i row.givenEmail st.seenEmails).1
          ++ (checkPhone i row.givenPhone st.seenPhones).1
        seenEmails := (checkEmail i row.givenEmail st.seenEmails).2
        seenPhones := (checkPhone i row.givenPhone st.seenPhones).2 } := by
  rw [parseRow, if_neg h]

/-- The rows the parser keeps. -/
theorem parseRows_validRecords (rows : List RawCsvRow) (i : Nat) (st : ParseState) :
    (parseRows i rows st).validRecords
      = st.validRecords ++ (rows.filter fun row => row.givenName ≠ "").map RawCsvRow.result := by
  induction rows generalizing i st with
  | nil => simp [parseRows]
  | cons row rows ih =>
      rw [parseRows, ih]
      by_cases h : row.givenName = ""
      · simp [parseRow, h]
      · simp [parseRow_named h, h]

/-- **The errors of the loop** stay empty exactly where every row has a name and the
    contact values of the rows are admitted. -/
theorem parseRows_errors (rows : List RawCsvRow) (i : Nat) (st : ParseState) :
    (parseRows i rows st).errors = [] ↔ st.errors = [] ∧
      (∀ row ∈ rows, row.givenName ≠ "") ∧
      Admitted emailRegex st.seenEmails (rows.filterMap RawCsvRow.givenEmail) ∧
      Admitted phoneRegex st.seenPhones (rows.filterMap RawCsvRow.givenPhone) := by
  induction rows generalizing i st with
  | nil => simp [parseRows, admitted_nil]
  | cons row rows ih =>
      have hmap : ∀ f : RawCsvRow → Option String,
          (row :: rows).filterMap f = (f row).toList ++ rows.filterMap f := by
        intro f
        rw [List.filterMap_cons]
        cases f row <;> rfl
      rw [parseRows, ih, hmap, hmap]
      by_cases h : row.givenName = ""
      · simp [parseRow, h]
      · rw [parseRow_named h, ← checkValue_admitted, ← checkValue_admitted, List.append_eq_nil_iff,
          List.append_eq_nil_iff, List.forall_mem_cons]
        simp only [checkEmail, checkPhone]
        tauto

/-- No two rows give the same value. -/
theorem nodup_given {given : RawCsvRow → Option String} {rows : List RawCsvRow} :
    (rows.filterMap given).Nodup ↔
      rows.Pairwise fun row row' => ∀ v, given row = some v → given row' ≠ some v := by
  rw [List.Nodup, List.pairwise_filterMap]
  constructor
  · intro h
    refine h.imp fun hne v hv hv' => ?_
    exact hne v hv v hv' rfl
  · intro h
    refine h.imp fun hne v hv v' hv' heq => ?_
    exact hne v hv (heq ▸ hv')

/-- All given values are accepted, and no two are the same. -/
theorem admitted_given {accepts : String → Bool} {given : RawCsvRow → Option String}
    {rows : List RawCsvRow} :
    Admitted accepts ∅ (rows.filterMap given) ↔
      (∀ row ∈ rows, ∀ v, given row = some v → accepts v = true) ∧
      rows.Pairwise fun row row' => ∀ v, given row = some v → given row' ≠ some v := by
  rw [Admitted, nodup_given]
  refine and_congr_left fun _ => ?_
  constructor
  · intro h row hrow v hv
    exact (h v (List.mem_filterMap.mpr ⟨row, hrow, hv⟩)).1
  · intro h v hv
    obtain ⟨row, hrow, hv⟩ := List.mem_filterMap.mp hv
    exact ⟨h row hrow v hv, by simp⟩

/-! ## The rows of the database -/

variable {job : ImportJob} {rows : List RawCsvRow} {failure : Option Failure} {db db' : Db}

/-- What an update of the file leaves. -/
theorem updateFile_ok {id : String} {status : FileStatus} {message : Option ErrorMessage}
    (h : db.updateFile id status message = .ok db') :
    (db.findFile id).isSome ∧ db'.guestListEntries = db.guestListEntries ∧
      db'.findFile id = some ⟨id, status, message⟩ := by
  unfold Db.updateFile at h
  cases hfile : db.findFile id with
  | none =>
      rw [hfile] at h
      cases h
  | some file =>
      rw [hfile] at h
      cases h
      refine ⟨rfl, rfl, ?_⟩
      have hid : file.id = id := RowTable.lookup_key hfile
      rw [Db.findFile, RowTable.lookup_modify_self (by intro r; rfl)]
      rw [Db.findFile] at hfile
      rw [hfile, ← hid]
      rfl

/-- The row of a file that is there can be written. -/
theorem updateFile_exists {id : String} (status : FileStatus) (message : Option ErrorMessage)
    (hfile : (db.findFile id).isSome) : ∃ db', db.updateFile id status message = .ok db' := by
  obtain ⟨file, hfile⟩ := Option.isSome_iff_exists.mp hfile
  exact ⟨_, by rw [Db.updateFile, hfile]⟩

/-- The address is in the concert's guest list. -/
def Listed (job : ImportJob) (db : Db) (email : String) : Prop :=
  ∃ entry ∈ db.guestList job.concertId, entry.email = some email

/-- A row the parser keeps is taken for a guest already listed exactly by its address. -/
theorem isExisting_iff {validRecords : List CsvRowResult} {row : CsvRowResult}
    (hrow : row ∈ validRecords) :
    row.isExisting (db.existingEmails job.concertId (validRecords.filterMap CsvRowResult.email))
        = true ↔ ∃ e, row.email = some e ∧ e ≠ "" ∧ Listed job db e := by
  rw [CsvRowResult.isExisting, Option.any_eq_true]
  refine exists_congr fun e => and_congr_right fun he => ?_
  rw [Bool.and_eq_true, bne_iff_ne, List.contains_iff_mem]
  refine and_congr_right fun hne => ?_
  simp only [Db.existingEmails, List.mem_filter, List.mem_filterMap, Option.any_eq_true, Listed,
    bne_iff_ne, List.contains_iff_mem]
  constructor
  · rintro ⟨⟨entry, ⟨hentry, -⟩, hemail⟩, -⟩
    exact ⟨entry, hentry, hemail⟩
  · rintro ⟨entry, hentry, hemail⟩
    exact ⟨⟨entry, ⟨hentry, e, hemail, row, hrow, he⟩, hemail⟩, hne⟩

/-- Given values are not empty. -/
theorem given_ne {value : Option String} {s : String} (h : trimmed value = some s) : s ≠ "" := by
  unfold trimmed orElse at h
  split at h
  · split at h
    · cases h
    · rename_i hne
      cases h
      exact hne
  · cases h

/-! ## The insertion -/

/-- The entries an insertion adds. -/
def added (job : ImportJob) (validRecords : List CsvRowResult) (db : Db) : List GuestListEntry :=
  (recordsToInsert job validRecords db).map (CsvRowResult.entry job)

/-- A call goes through or is the one that fails. -/
theorem await_cases (failure : Option Failure) (step : ImportStep) :
    await failure step = .ok () ∨
      ∃ f, failure = some f ∧ f.step = step ∧ await failure step = .error f.thrown := by
  cases failure with
  | none => exact .inl rfl
  | some f =>
      by_cases h : f.step = step
      · exact .inr ⟨f, rfl, h, by simp [await, h]⟩
      · exact .inl (by simp [await, h])

/-- An insertion fails at one of its own two calls, or adds its rows and reports the
    others. -/
theorem insertRecords_cases (job : ImportJob) (validRecords : List CsvRowResult)
    (failure : Option Failure) (db : Db) :
    (∃ f, failure = some f ∧ (f.step = .existingQuery ∨ f.step = .insertGuests) ∧
      insertRecords job validRecords failure db = .error f.thrown) ∨
    ∃ inserted, insertRecords job validRecords failure db = .ok inserted ∧
      inserted.db = { db with
        guestListEntries := db.guestListEntries ++ added job validRecords db } ∧
      (inserted.errors = [] ↔ skippedRecords job validRecords db = []) := by
  by_cases hvalid : validRecords = []
  · refine .inr ⟨⟨db, [], 0, 0⟩, by rw [insertRecords, if_pos hvalid], ?_, ?_⟩
    · simp [added, recordsToInsert, hvalid]
    · simp [skippedRecords, hvalid]
  · rw [insertRecords, if_neg hvalid]
    rcases await_cases failure .existingQuery with hquery | ⟨f, rfl, hstep, hquery⟩
    · rw [hquery]
      by_cases hnone : recordsToInsert job validRecords db = []
      · refine .inr ⟨⟨db, (skippedRecords job validRecords db).map duplicateError, 0, _⟩,
          if_pos hnone, ?_, List.map_eq_nil_iff⟩
        simp [added, hnone]
      · simp only [if_neg hnone]
        rcases await_cases failure .insertGuests with hinsert | ⟨f, rfl, hstep, hinsert⟩
        · rw [hinsert]
          exact .inr ⟨_, rfl, rfl, List.map_eq_nil_iff⟩
        · rw [hinsert]
          exact .inl ⟨f, rfl, .inr hstep, rfl⟩
    · rw [hquery]
      exact .inl ⟨f, rfl, .inl hstep, rfl⟩

/-! ## One attempt -/

/-- The attempt fails at the write of the final status. -/
def FailsLast (failure : Option Failure) : Prop := failure.map Failure.step = some .finalStatus

instance (failure : Option Failure) : Decidable (FailsLast failure) :=
  inferInstanceAs (Decidable (_ = _))

/-- What is added depends on the list only. -/
theorem added_congr (job : ImportJob) (validRecords : List CsvRowResult)
    (h : db'.guestListEntries = db.guestListEntries) :
    added job validRecords db' = added job validRecords db ∧
      skippedRecords job validRecords db' = skippedRecords job validRecords db := by
  simp only [added, recordsToInsert, skippedRecords, Db.existingEmails, Db.guestList, h, and_self]

/-- How an attempt ends: before its rows are written, after that, or with a result. -/
inductive Attempted (job : ImportJob) (rows : List RawCsvRow) (failure : Option Failure) (db : Db) :
    Db → Except Thrown ImportResult → Prop where
  | stopped {after : Db} (e : Thrown) (guests : after.guestListEntries = db.guestListEntries)
      (file : (after.findFile job.uploadedFileId).isSome) (disturbed : failure ≠ none)
      (last : ¬ FailsLast failure) : Attempted job rows failure db after (.error e)
  | unfinished {after : Db} (e : Thrown)
      (guests : after.guestListEntries
        = db.guestListEntries ++ added job (parseBuffer rows).validRecords db)
      (file : (after.findFile job.uploadedFileId).isSome) (last : FailsLast failure) :
      Attempted job rows failure db after (.error e)
  | finished {after : Db} (result : ImportResult) (message : Option ErrorMessage)
      (guests : after.guestListEntries
        = db.guestListEntries ++ added job (parseBuffer rows).validRecords db)
      (file : after.findFile job.uploadedFileId = some ⟨job.uploadedFileId, result.status, message⟩)
      (last : ¬ FailsLast failure)
      (status : result.status = .completed ↔ (parseBuffer rows).errors = [] ∧
        skippedRecords job (parseBuffer rows).validRecords db = []) :
      Attempted job rows failure db after (.ok result)

/-- COMPLETED means that there are no errors. -/
theorem finalStatusOf_completed {errors : List String} :
    finalStatusOf errors = .completed ↔ errors = [] := by
  cases errors <;> simp [finalStatusOf]

/-- A failure before the last write is not one of it. -/
theorem not_failsLast {step : ImportStep} (h : ∃ f, failure = some f ∧ f.step = step)
    (hne : step ≠ .finalStatus) : ¬ FailsLast failure := by
  intro hlast
  obtain ⟨f, rfl, hstep⟩ := h
  exact hne (hstep.symm.trans (Option.some.inj hlast))

/-- **An attempt** on a file with rows. -/
theorem tryImport_attempted (failure : Option Failure) (hrows : rows ≠ [])
    (hfile : (db.findFile job.uploadedFileId).isSome) :
    Attempted job rows failure db (tryImport job rows failure db).1
      (tryImport job rows failure db).2 := by
  unfold tryImport
  obtain ⟨db₁, hdb₁⟩ := updateFile_exists .processing none hfile
  obtain ⟨-, hguests₁, hfile₁⟩ := updateFile_ok hdb₁
  have hfile₁' : (db₁.findFile job.uploadedFileId).isSome := by
    rw [hfile₁]
    rfl
  have htotal : (parseBuffer rows).total ≠ 0 := by
    rw [parseBuffer]
    exact fun h => hrows (List.length_eq_zero_iff.mp h)
  rcases await_cases failure .markProcessing with hmark | ⟨f, hf, hstep, hmark⟩
  · rw [hmark, hdb₁]
    rcases await_cases failure .download with hdown | ⟨f, hf, hstep, hdown⟩
    · simp only [hdown, if_neg htotal]
      rcases insertRecords_cases job (parseBuffer rows).validRecords failure db₁ with
        ⟨f, hf, hstep, hins⟩ | ⟨inserted, hins, hdb, herrors⟩
      · simp only [hins]
        refine .stopped _ hguests₁ hfile₁' (by simp [hf]) (not_failsLast ⟨f, hf, rfl⟩ ?_)
        rcases hstep with hstep | hstep <;> simp [hstep]
      · obtain ⟨hadded, hskipped⟩ := added_congr job (parseBuffer rows).validRecords hguests₁
        have hguests : inserted.db.guestListEntries
            = db.guestListEntries ++ added job (parseBuffer rows).validRecords db := by
          rw [hdb, hguests₁, hadded]
        have hfile₂ : (inserted.db.findFile job.uploadedFileId).isSome := by
          rw [hdb]
          exact hfile₁'
        rw [hskipped] at herrors
        obtain ⟨db₃, hdb₃⟩ := updateFile_exists
          (finalStatusOf ((parseBuffer rows).errors ++ inserted.errors))
          (errorMessageOf ((parseBuffer rows).errors ++ inserted.errors)) hfile₂
        obtain ⟨-, hguests₃, hfile₃⟩ := updateFile_ok hdb₃
        simp only [hins]
        rcases await_cases failure .finalStatus with hlast | ⟨f, hf, hstep, hlast⟩
        · simp only [hlast, hdb₃]
          refine .finished _ _ (hguests₃.trans hguests) hfile₃ ?_ ?_
          · intro hfails
            obtain ⟨f, rfl, hstep⟩ := Option.map_eq_some_iff.mp hfails
            simp [await, hstep] at hlast
          · rw [finalStatusOf_completed, List.append_eq_nil_iff, herrors]
        · simp only [hlast]
          exact .unfinished _ hguests hfile₂ (Option.map_eq_some_iff.mpr ⟨f, hf, hstep⟩)
    · simp only [hdown]
      exact .stopped _ hguests₁ hfile₁' (by simp [hf]) (not_failsLast ⟨f, hf, hstep⟩ (by decide))
  · rw [hmark]
    exact .stopped _ rfl hfile (by simp [hf]) (not_failsLast ⟨f, hf, hstep⟩ (by decide))

/-- An attempt that ends is the whole job. -/
theorem process_ok {n : Nat} {result : ImportResult}
    (h : (tryImport job rows failure db).2 = .ok result) :
    process job rows n failure db = tryImport job rows failure db := by
  unfold process
  split
  · rename_i heq
    exact heq.symm
  · rename_i heq
    rw [heq] at h
    cases h

/-- The `catch` block changes the status of the file at most. -/
theorem process_error {n : Nat} {e : Thrown} (h : tryImport job rows failure db = (db', .error e))
    (hfile : (db'.findFile job.uploadedFileId).isSome) :
    ∃ after, process job rows n failure db = (after, .error e) ∧
      after.guestListEntries = db'.guestListEntries ∧
      (after.findFile job.uploadedFileId).isSome := by
  unfold process
  rw [h]
  split
  · rename_i heq
    cases heq
  · rename_i heq
    cases heq
    split
    · obtain ⟨after, hafter⟩ := updateFile_exists .failed
        (some (.text (e.getD "UNKNOWN_CSV_ERROR"))) hfile
      obtain ⟨-, hguests, hfound⟩ := updateFile_ok hafter
      rw [hafter]
      exact ⟨after, rfl, hguests, by rw [hfound]; rfl⟩
    · exact ⟨db', rfl, rfl, hfile⟩

/-- An attempt that fails is followed by the status write. -/
theorem process_attempted (n : Nat) (failure : Option Failure) (hrows : rows ≠ [])
    (hfile : (db.findFile job.uploadedFileId).isSome) :
    Attempted job rows failure db (process job rows n failure db).1
      (process job rows n failure db).2 := by
  have htry := tryImport_attempted failure hrows hfile
  rcases hres : tryImport job rows failure db with ⟨after, e | result⟩
  · rw [hres] at htry
    cases htry with
    | stopped _ hguests hfound hdisturbed hlast =>
        obtain ⟨last, hprocess, hsame, hfound⟩ := process_error (n := n) hres hfound
        rw [hprocess]
        exact .stopped e (hsame.trans hguests) hfound hdisturbed hlast
    | unfinished _ hguests hfound hlast =>
        obtain ⟨last, hprocess, hsame, hfound⟩ := process_error (n := n) hres hfound
        rw [hprocess]
        exact .unfinished e (hsame.trans hguests) hfound hlast
  · rw [process_ok (by rw [hres]), hres]
    rw [hres] at htry
    exact htry

/-- An attempt without the row of the file throws and changes nothing. -/
theorem process_missing (rows : List RawCsvRow) (n : Nat) (failure : Option Failure)
    (h : db.findFile job.uploadedFileId = none) :
    ∃ e, process job rows n failure db = (db, .error e) := by
  have hupdate : ∀ status message, db.updateFile job.uploadedFileId status message
      = .error (some "Record to update not found.") := by
    intro status message
    rw [Db.updateFile, h]
  have htry : ∃ e, tryImport job rows failure db = (db, .error e) := by
    unfold tryImport
    rw [hupdate]
    cases await failure .markProcessing <;> exact ⟨_, rfl⟩
  obtain ⟨e, htry⟩ := htry
  unfold process
  rw [htry]
  simp only [hupdate]
  split
  · exact ⟨_, rfl⟩
  · exact ⟨_, rfl⟩

/-- An attempt on a file without rows throws. -/
theorem process_empty (job : ImportJob) (n : Nat) (failure : Option Failure) (db : Db)
    (h : rows = []) :
    ∃ e, (process job rows n failure db).2 = .error e := by
  have htry : ∃ e, (tryImport job rows failure db).2 = .error e := by
    subst h
    unfold tryImport
    split
    · exact ⟨_, rfl⟩
    · exact ⟨_, rfl⟩
    · split
      · exact ⟨_, rfl⟩
      · exact ⟨_, rfl⟩
  obtain ⟨e, htry⟩ := htry
  unfold process
  rcases hres : tryImport job rows failure db with ⟨after, e' | result⟩
  · dsimp only
    split
    · split <;> exact ⟨_, rfl⟩
    · exact ⟨_, rfl⟩
  · rw [hres] at htry
    cases htry

/-- An attempt in which nothing fails. -/
theorem process_undisturbed (n : Nat) (hrows : rows ≠ [])
    (hfile : (db.findFile job.uploadedFileId).isSome) :
    ∃ after result message, process job rows n none db = (after, .ok result) ∧
      after.guestListEntries
        = db.guestListEntries ++ added job (parseBuffer rows).validRecords db ∧
      after.findFile job.uploadedFileId = some ⟨job.uploadedFileId, result.status, message⟩ ∧
      (result.status = .completed ↔ (parseBuffer rows).errors = [] ∧
        skippedRecords job (parseBuffer rows).validRecords db = []) := by
  have hatt := process_attempted n none hrows hfile
  rcases hres : process job rows n none db with ⟨after, e | result⟩
  · rw [hres] at hatt
    -- an attempt throws only where a call of it fails
    cases hatt with
    | stopped _ _ _ hdisturbed _ => exact absurd rfl hdisturbed
    | unfinished _ _ _ hlast => cases hlast
  · rw [hres] at hatt
    cases hatt with
    | finished _ message hguests hfound _ hstatus =>
        exact ⟨after, result, message, rfl, hguests, hfound, hstatus⟩

/-! ## A run of attempts -/

/-- A job that completes had rows and a file. -/
theorem Completes.proper {n : Nat} {failures : List (Option Failure)}
    (h : Completes job rows n failures db db') :
    rows ≠ [] ∧ (db.findFile job.uploadedFileId).isSome := by
  induction h with
  | completed h =>
      rename_i n failure db db' result
      constructor
      · intro hrows
        obtain ⟨e, he⟩ := process_empty job n failure db hrows
        rw [h] at he
        cases he
      · by_contra hnone
        rw [Option.not_isSome_iff_eq_none] at hnone
        obtain ⟨e, he⟩ := process_missing rows n failure hnone
        rw [h] at he
        cases he
  | retried h next ih =>
      rename_i n failure failures db db' db'' e
      refine ⟨ih.1, ?_⟩
      by_contra hnone
      rw [Option.not_isSome_iff_eq_none] at hnone
      obtain ⟨e', he⟩ := process_missing rows n failure hnone
      rw [h] at he
      cases he
      rw [hnone] at ih
      exact absurd ih.2 (by simp)

/-- The rows a file has without an address, as entries. -/
def anonymous (job : ImportJob) (rows : List RawCsvRow) : List GuestListEntry :=
  ((parseBuffer rows).validRecords.filter fun row => row.email = none).map (CsvRowResult.entry job)

/-- The valid records are the rows with a name. -/
theorem validRecords_eq (rows : List RawCsvRow) : (parseBuffer rows).validRecords
    = (rows.filter fun row => row.givenName ≠ "").map RawCsvRow.result := by
  rw [parseBuffer, parseRows_validRecords, List.nil_append]

/-- A kept row that the import skips is one with a listed address. -/
theorem isExisting_result {row : CsvRowResult} (hrow : row ∈ (parseBuffer rows).validRecords) :
    row.isExisting (db.existingEmails job.concertId
        ((parseBuffer rows).validRecords.filterMap CsvRowResult.email)) = true ↔
      ∃ e, row.email = some e ∧ Listed job db e := by
  rw [isExisting_iff hrow]
  rw [validRecords_eq] at hrow
  obtain ⟨raw, -, rfl⟩ := List.mem_map.mp hrow
  refine exists_congr fun e => and_congr_right fun he => ?_
  exact and_iff_right (given_ne he)

/-- Every address of the file is in the guest list. -/
def Settled (job : ImportJob) (rows : List RawCsvRow) (db : Db) : Prop :=
  ∀ row ∈ (parseBuffer rows).validRecords, ∀ e, row.email = some e → Listed job db e

/-- From there on an attempt adds the rows without an address, and no others. -/
theorem added_settled (h : Settled job rows db) :
    added job (parseBuffer rows).validRecords db = anonymous job rows := by
  rw [added, anonymous, recordsToInsert]
  congr 1
  refine List.filter_congr fun row hrow => ?_
  rw [Bool.eq_iff_iff, Bool.not_eq_true', ← Bool.not_eq_true, isExisting_result hrow,
    decide_eq_true_eq]
  constructor
  · intro hno
    by_contra hne
    obtain ⟨e, he⟩ := Option.ne_none_iff_exists'.mp hne
    exact hno ⟨e, he, h row hrow e he⟩
  · rintro hnone ⟨e, he, -⟩
    rw [hnone] at he
    cases he

/-- Once written, every address is there. -/
theorem settled_of_added (h : db'.guestListEntries
    = db.guestListEntries ++ added job (parseBuffer rows).validRecords db) :
    Settled job rows db' := by
  intro row hrow e he
  by_cases hlisted : Listed job db e
  · obtain ⟨entry, hentry, hemail⟩ := hlisted
    refine ⟨entry, ?_, hemail⟩
    rw [Db.guestList, h, List.filter_append]
    exact List.mem_append_left _ hentry
  · refine ⟨row.entry job, ?_, he⟩
    rw [Db.guestList, h, List.filter_append]
    refine List.mem_append_right _ (List.mem_filter.mpr ⟨List.mem_map_of_mem ?_, by
      simp [CsvRowResult.entry]⟩)
    refine List.mem_filter.mpr ⟨hrow, ?_⟩
    rw [Bool.not_eq_true', ← Bool.not_eq_true, isExisting_result hrow]
    rintro ⟨e', he', hlisted'⟩
    rw [he] at he'
    cases he'
    exact hlisted hlisted'

/-- **What a run writes**: the rows of one import, and the rows without an address again
    for every attempt that failed at its last write. -/
theorem Completes.guests {n : Nat} {failures : List (Option Failure)}
    (h : Completes job rows n failures db db') :
    db'.guestListEntries = db.guestListEntries ++ added job (parseBuffer rows).validRecords db
      ++ (List.replicate (failures.countP fun f => FailsLast f) (anonymous job rows)).flatten := by
  obtain ⟨hrows, hfile⟩ := h.proper
  induction h with
  | completed h =>
      rename_i n failure db db' result
      have hatt := process_attempted n failure hrows hfile
      rw [h] at hatt
      cases hatt with
      | finished _ _ hguests _ hlast _ => simpa [hlast] using hguests
  | retried h next ih =>
      rename_i n failure failures db db' db'' e
      have hatt := process_attempted n failure hrows hfile
      rw [h] at hatt
      cases hatt with
      | stopped _ hguests hfound _ hlast =>
          rw [ih hfound, (added_congr job _ hguests).1, hguests]
          simp [hlast]
      | unfinished _ hguests hfound hlast =>
          rw [ih hfound, added_settled (settled_of_added hguests), hguests,
            List.countP_cons_of_pos (by simpa using hlast), List.replicate_succ, List.flatten_cons]
          simp only [List.append_assoc]

/-! ## The report is exact -/

/-- **Validation is exact.**  The errors of the file are empty exactly where every row has
    a name, every given address and number has its format and no two rows give the same
    one; the rows with a name are kept; and an import in which nothing fails is completed
    without errors exactly where there are none and no row's address is listed already. -/
theorem csv_validation_exact (job : ImportJob) (rows : List RawCsvRow) (db : Db) (n : Nat)
    (hrows : rows ≠ []) (hfile : (db.findFile job.uploadedFileId).isSome) :
    ((parseBuffer rows).errors = [] ↔
      (∀ row ∈ rows, row.givenName ≠ "") ∧
      (∀ row ∈ rows, ∀ e, row.givenEmail = some e → emailRegex e = true) ∧
      (∀ row ∈ rows, ∀ p, row.givenPhone = some p → phoneRegex p = true) ∧
      (rows.Pairwise fun row row' => ∀ e, row.givenEmail = some e → row'.givenEmail ≠ some e) ∧
      rows.Pairwise fun row row' => ∀ p, row.givenPhone = some p → row'.givenPhone ≠ some p) ∧
    (parseBuffer rows).validRecords
      = (rows.filter fun row => row.givenName ≠ "").map RawCsvRow.result ∧
    ∃ after result message, process job rows n none db = (after, .ok result) ∧
      after.findFile job.uploadedFileId = some ⟨job.uploadedFileId, result.status, message⟩ ∧
      (result.status = .completed ↔ (parseBuffer rows).errors = [] ∧
        ∀ row ∈ rows, ∀ e, row.givenEmail = some e →
          ∀ entry ∈ db.guestList job.concertId, entry.email ≠ some e) := by
  have herrors : (parseBuffer rows).errors = [] ↔ (∀ row ∈ rows, row.givenName ≠ "") ∧
      Admitted emailRegex ∅ (rows.filterMap RawCsvRow.givenEmail) ∧
      Admitted phoneRegex ∅ (rows.filterMap RawCsvRow.givenPhone) := by
    rw [parseBuffer, parseRows_errors]
    exact and_iff_right rfl
  refine ⟨?_, validRecords_eq rows, ?_⟩
  · rw [herrors, admitted_given, admitted_given]
    tauto
  · obtain ⟨after, result, message, hres, -, hfound, hstatus⟩ := process_undisturbed n hrows hfile
    refine ⟨after, result, message, hres, hfound, hstatus.trans (and_congr_right fun hno => ?_)⟩
    have hnamed := (herrors.mp hno).1
    rw [skippedRecords, List.filter_eq_nil_iff]
    constructor
    · intro hskip row hrow e he entry hentry hemail
      have hkept : row.result ∈ (parseBuffer rows).validRecords := by
        rw [validRecords_eq]
        exact List.mem_map_of_mem (List.mem_filter.mpr ⟨hrow, by simpa using hnamed row hrow⟩)
      exact hskip row.result hkept ((isExisting_result hkept).mpr ⟨e, he, entry, hentry, hemail⟩)
    · intro hnew row hkept hex
      obtain ⟨e, he, entry, hentry, hemail⟩ := (isExisting_result hkept).mp hex
      rw [validRecords_eq] at hkept
      obtain ⟨raw, hraw, rfl⟩ := List.mem_map.mp hkept
      exact hnew raw (List.mem_of_mem_filter hraw) e he entry hentry hemail

/-- A row with a name and an address. -/
def guestRow (name email : String) : RawCsvRow := ⟨some name, none, some email, none, none, none⟩

/-- The job of a guest list, with three attempts. -/
def vipJob : ImportJob := ⟨7, "f1", "concerts/7/guest-list/vip.csv", 3⟩

/-- The file has just been uploaded. -/
def vipDb : Db := ⟨[], [⟨"f1", .pending, none⟩]⟩

/-- A file with one address twice is told of. -/
theorem csv_validation_exact_repeated :
    (parseBuffer [guestRow "An" "an@vip.vn", guestRow "Anh" "an@vip.vn"]).errors ≠ [] := by
  intro h
  have hexact := csv_validation_exact vipJob [guestRow "An" "an@vip.vn", guestRow "Anh" "an@vip.vn"]
    vipDb 0 (by simp) rfl
  obtain ⟨-, -, -, hemails, -⟩ := hexact.1.mp h
  have hgiven : ∀ name, (guestRow name "an@vip.vn").givenEmail = some "an@vip.vn" := by
    intro name
    show trimmed (some "an@vip.vn") = some "an@vip.vn"
    decide +kernel
  rw [List.pairwise_cons] at hemails
  exact hemails.1 (guestRow "Anh" "an@vip.vn") (by simp) _ (hgiven _) (hgiven _)

/-! ## An import that is tried again -/

/-- Entries are added behind those of the concert. -/
theorem guestList_added {entries : List GuestListEntry} {concertId : ConcertId}
    (h : db'.guestListEntries = db.guestListEntries ++ entries)
    (hentries : ∀ entry ∈ entries, entry.concertId = concertId) :
    db'.guestList concertId = db.guestList concertId ++ entries := by
  have hall : entries.filter (fun entry => entry.concertId = concertId) = entries :=
    List.filter_eq_self.mpr fun entry hentry => decide_eq_true (hentries entry hentry)
  rw [Db.guestList, h, List.filter_append, hall]
  rfl

/-- The rows without an address, where there are none. -/
theorem anonymous_eq_nil (job : ImportJob) :
    anonymous job rows = [] ↔ ∀ row ∈ rows, row.givenName ≠ "" → row.givenEmail ≠ none := by
  rw [anonymous, List.map_eq_nil_iff, validRecords_eq, List.filter_eq_nil_iff]
  constructor
  · intro h row hrow hname hnone
    refine h row.result (List.mem_map_of_mem (List.mem_filter.mpr ⟨hrow, by simpa using hname⟩)) ?_
    exact decide_eq_true hnone
  · intro h row hrow hnone
    obtain ⟨raw, hraw, rfl⟩ := List.mem_map.mp hrow
    obtain ⟨hraw, hname⟩ := List.mem_filter.mp hraw
    exact h raw hraw (of_decide_eq_true hname) (of_decide_eq_true hnone)

/-- **The import is idempotent** exactly where no attempt failed at its last write or every
    named row has an address. -/
theorem import_idempotent {n : Nat} {failures : List (Option Failure)}
    (h : Completes job rows n failures db db') :
    (db'.guestList job.concertId).Perm ((undisturbed job rows db).guestList job.concertId) ↔
      (∀ failure ∈ failures, ¬ FailsLast failure) ∨
      ∀ row ∈ rows, row.givenName ≠ "" → row.givenEmail ≠ none := by
  obtain ⟨hrows, hfile⟩ := h.proper
  have hentries : ∀ entry ∈ added job (parseBuffer rows).validRecords db,
      entry.concertId = job.concertId := by
    intro entry hentry
    obtain ⟨row, -, rfl⟩ := List.mem_map.mp hentry
    rfl
  have hagain : ∀ entry ∈ (List.replicate (failures.countP fun f => FailsLast f)
      (anonymous job rows)).flatten, entry.concertId = job.concertId := by
    intro entry hentry
    obtain ⟨l, hl, hentry⟩ := List.mem_flatten.mp hentry
    rw [List.eq_of_mem_replicate hl] at hentry
    obtain ⟨row, -, rfl⟩ := List.mem_map.mp hentry
    rfl
  have honce : (undisturbed job rows db).guestList job.concertId
      = db.guestList job.concertId ++ added job (parseBuffer rows).validRecords db := by
    obtain ⟨after, result, -, hres, hguests, -⟩ := process_undisturbed 0 hrows hfile
    rw [undisturbed, hres]
    exact guestList_added hguests hentries
  have hrun := h.guests
  rw [List.append_assoc] at hrun
  rw [guestList_added hrun fun entry hentry =>
    (List.mem_append.mp hentry).elim (hentries entry) (hagain entry), honce, ← List.append_assoc,
    ← anonymous_eq_nil job]
  have hnone : (∀ failure ∈ failures, ¬ FailsLast failure) ↔
      failures.countP (fun f => FailsLast f) = 0 := by
    rw [List.countP_eq_zero]
    simp
  -- the list differs by the rows without an address, once for each attempt that failed behind them
  rw [hnone]
  constructor
  · intro hperm
    have hlength := hperm.length_eq
    rw [List.length_append, Nat.add_eq_left, List.length_flatten, List.map_replicate,
      List.sum_replicate, nsmul_eq_mul, Nat.cast_id, Nat.mul_eq_zero] at hlength
    exact hlength.imp_right List.length_eq_zero_iff.mp
  · intro hno
    have hnil : (List.replicate (failures.countP fun f => FailsLast f)
        (anonymous job rows)).flatten = [] := by
      rcases hno with hzero | hnil
      · rw [hzero]
        rfl
      · rw [hnil]
        simp
    rw [hnil, List.append_nil]

/-- The write of the final status fails. -/
def lastWrite : Failure := ⟨.finalStatus, some "Connection terminated unexpectedly", false⟩

/-- A guest with an address is imported once by two attempts. -/
theorem import_idempotent_addressed :
    ∃ after, Completes vipJob [guestRow "An" "an@vip.vn"] 0 [some lastWrite, none] vipDb after ∧
      (after.guestList 7).Perm
        ((undisturbed vipJob [guestRow "An" "an@vip.vn"] vipDb).guestList 7) := by
  have hrun : Completes vipJob [guestRow "An" "an@vip.vn"] 0 [some lastWrite, none] vipDb _ :=
    .retried (by rfl) (.completed (by rfl))
  exact ⟨_, hrun, (import_idempotent hrun).mpr (.inr (by decide +kernel))⟩

/-- A guest without an address is inserted again. -/
theorem import_doubled :
    ∃ after, Completes vipJob [guestRow "An" ""] 0 [some lastWrite, none] vipDb after ∧
      ¬ (after.guestList 7).Perm ((undisturbed vipJob [guestRow "An" ""] vipDb).guestList 7) :=
  ⟨_, .retried (by rfl) (.completed (by rfl)), by decide +kernel⟩

end GuestImport
