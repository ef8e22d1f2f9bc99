import TicketBox.Reminder

/-! # The reminder of a concert

    Of each concert an operation reads and writes two things: its row, and the
    job stored under the concert's job id.  `Stored` is what every operation
    keeps of these tables, `Right` says that the two agree, and
    `reminders_in_step` that every step keeps them in agreement exactly when it
    does not leave a job behind (`LeavesJob`) and is not `Blocked` by a failed
    one. -/

namespace TicketReminder

open TicketStore (ConcertId UserId Role ApiError)
open TicketConcerts

/-! ## What is to hold -/

/-- The row of a concert and its pending jobs agree. -/
structure InStepAt (w : World) (c : Concert) : Prop where
  atMostOne : (w.pending c.id).length ≤ 1
  wanted : ∀ j ∈ w.pending c.id, isOpen c.status = true ∧
    j.fireAt = c.startsAt - REMINDER_DELAY_MS
  scheduled : isOpen c.status = true → w.now < c.startsAt - REMINDER_DELAY_MS →
    w.pending c.id ≠ []

/-- The reminder of every concert is as its row says. -/
def InStep (w : World) : Prop := ∀ c ∈ w.concerts, InStepAt w c

/-- An update leaves the reminder of a concert that is no longer open. -/
def LeavesJob (w : World) (c : Concert) : Prop :=
  isOpen c.status = false ∧ w.pending c.id ≠ []

/-- An update schedules a reminder under an id that a failed job still holds. -/
def Blocked (w : World) (c : Concert) : Prop :=
  isOpen c.status = true ∧ w.now < reminderTime c ∧
    (w.getJob (jobIdOf c.id)).any (fun j => j.failed) = true

/-- Row and job of the concert are looked at. -/
instance (w : World) (c : Concert) : Decidable (LeavesJob w c) :=
  inferInstanceAs (Decidable (_ ∧ _))

/-- So they are for a job that has failed. -/
instance (w : World) (c : Concert) : Decidable (Blocked w c) :=
  inferInstanceAs (Decidable (_ ∧ _ ∧ _))

/-- The condition on an update that is carried out: it neither leaves a job behind
    nor is blocked. -/
def Allows (w : World) (dto : UpdateConcertDto) (existing : Concert) : Prop :=
  ¬ LeavesJob w (dto.apply w.now existing) ∧
    (dto.reschedules existing = true → ¬ Blocked w (dto.apply w.now existing))

/-- An update is checked before it is made. -/
instance (w : World) (dto : UpdateConcertDto) (existing : Concert) :
    Decidable (Allows w dto existing) := inferInstanceAs (Decidable (_ ∧ _))

/-- The condition on a step. -/
def Meets (w : World) : Input → Prop
  | .update id dto u r =>
      ∀ x ∈ (updateConcert id dto u r w.now w.concerts).toOption, Allows w dto x.1
  | _ => True

instance (w : World) : (m : Input) → Decidable (Meets w m)
  | .update .. => inferInstanceAs (Decidable (∀ _ ∈ _, _))
  | .create .. => inferInstanceAs (Decidable True)
  | .fired _ => inferInstanceAs (Decidable True)
  | .failed _ => inferInstanceAs (Decidable True)
  | .tick _ => inferInstanceAs (Decidable True)

/-! ## Job ids -/

/-- Two concerts have two job ids. -/
theorem jobIdOf_injective {c c' : ConcertId} (h : jobIdOf c = jobIdOf c') : c = c' := by
  have hrepr : (Nat.repr c).toList = (Nat.repr c').toList :=
    congrArg String.toList (String.append_right_inj _ |>.mp h)
  rw [Nat.toList_repr, Nat.toList_repr] at hrepr
  have hread := congrArg (fun l => Nat.ofDigitChars 10 l 0) hrepr
  simpa only [Nat.ofDigitChars_ten_toDigits] using hread

/-- A job id is not the empty text. -/
theorem jobIdOf_ne (c : ConcertId) : jobIdOf c ≠ "" := by
  intro h
  have hlen := congrArg String.length h
  simp [jobIdOf] at hlen

/-! ## The tables -/

/-- What every operation keeps of the two tables. -/
structure Stored (w : World) : Prop where
  concerts : RowTable.Keyed (fun c : Concert => c.id) w.concerts
  jobs : RowTable.Keyed Job.id w.jobs
  /-- a job is stored under the id of its concert, which exists -/
  owned : ∀ j ∈ w.jobs, j.id = jobIdOf j.concertId ∧ (w.findConcert j.concertId).isSome = true
  /-- a pending job is recorded in the row of its concert -/
  recorded : ∀ id c j, w.findConcert id = some c → w.getJob (jobIdOf id) = some j →
    j.failed = false → c.reminderJobId = some (jobIdOf id)
  /-- a row records no other job id -/
  ids : ∀ id c x, w.findConcert id = some c → c.reminderJobId = some x → x = jobIdOf id

/-- The row of a concert agrees with the job stored under its id. -/
structure Right (now : Int) (c : Concert) (job : Option Job) : Prop where
  wanted : ∀ j, job = some j → j.failed = false →
    isOpen c.status = true ∧ j.fireAt = reminderTime c
  scheduled : isOpen c.status = true → now < reminderTime c →
    ∃ j, job = some j ∧ j.failed = false

section

variable {w w' w'' : World} {id : ConcertId} {c : Concert}

/-- A job has failed or has not. -/
theorem getState_ne_failed {j : Job} {now : Int} : j.getState now ≠ .failed ↔ j.failed = false := by
  unfold Job.getState
  cases j.failed with
  | true => simp
  | false =>
      by_cases h : now < j.fireAt
      · simp [h]
      · simp [h]

/-- The concert has the id that was asked for. -/
theorem findConcert_id (h : w.findConcert id = some c) : c.id = id :=
  findConcert_key h

/-- So has the job. -/
theorem getJob_id {x : String} {j : Job} (h : w.getJob x = some j) : j.id = x :=
  RowTable.lookup_key h

/-- A concert is found under its id. -/
theorem Stored.found (h : Stored w) (hc : c ∈ w.concerts) : w.findConcert c.id = some c :=
  RowTable.lookup_of_mem h.concerts hc

/-- The pending jobs of a concert are the one under its id, if that has not failed. -/
theorem Stored.mem_pending (h : Stored w) {j : Job} :
    j ∈ w.pending id ↔ w.getJob (jobIdOf id) = some j ∧ j.failed = false := by
  simp only [World.pending, List.mem_filter, decide_eq_true_eq, getState_ne_failed]
  constructor
  · rintro ⟨hmem, hid, hfailed⟩
    refine ⟨?_, hfailed⟩
    rw [← hid, ← (h.owned j hmem).1]
    exact RowTable.lookup_of_mem h.jobs hmem
  · rintro ⟨hget, hfailed⟩
    have hmem : j ∈ w.jobs := RowTable.lookup_mem hget
    refine ⟨hmem, ?_, hfailed⟩
    exact jobIdOf_injective ((h.owned j hmem).1.symm.trans (getJob_id hget))

/-- A concert has at most one pending job. -/
theorem Stored.pending_length (h : Stored w) : (w.pending id).length ≤ 1 := by
  have hnodup : (w.pending id).Nodup := (List.Nodup.of_map _ h.jobs).filter _
  match hp : w.pending id with
  | [] => simp
  | [_] => simp
  | a :: b :: rest =>
      have ha : w.getJob (jobIdOf id) = some a := (h.mem_pending.mp (hp ▸ by simp)).1
      have hb : w.getJob (jobIdOf id) = some b := (h.mem_pending.mp (hp ▸ by simp)).1
      have hab : a = b := Option.some.inj (ha.symm.trans hb)
      rw [hp, hab] at hnodup
      simp at hnodup

/-- It has one if its job has not failed. -/
theorem Stored.pending_ne_nil (h : Stored w) :
    w.pending id ≠ [] ↔ ∃ j, w.getJob (jobIdOf id) = some j ∧ j.failed = false := by
  constructor
  · intro hne
    obtain ⟨j, hj⟩ := List.exists_mem_of_ne_nil _ hne
    exact ⟨j, h.mem_pending.mp hj⟩
  · rintro ⟨j, hj⟩
    exact List.ne_nil_of_mem (h.mem_pending.mpr hj)

/-- Being in step, concert by concert. -/
theorem Stored.inStep (h : Stored w) :
    InStep w ↔ ∀ id c, w.findConcert id = some c → Right w.now c (w.getJob (jobIdOf id)) := by
  constructor
  · intro hin id c hc
    have hid := findConcert_id hc
    have hat := hin c (findConcert_mem hc)
    constructor
    · intro j hj hfailed
      exact hat.wanted j (h.mem_pending.mpr ⟨hid ▸ hj, hfailed⟩)
    · intro hopen hlt
      exact hid ▸ h.pending_ne_nil.mp (hat.scheduled hopen hlt)
  · intro hright c hc
    have hat := hright c.id c (h.found hc)
    constructor
    · exact h.pending_length
    · intro j hj
      obtain ⟨hget, hfailed⟩ := h.mem_pending.mp hj
      exact hat.wanted j hget hfailed
    · intro hopen hlt
      exact h.pending_ne_nil.mpr (hat.scheduled hopen hlt)

/-! ## What one concert's operation leaves alone -/

/-- A request about one concert leaves the rows and jobs of the others alone. -/
structure Frame (id : ConcertId) (w w' : World) : Prop where
  now : w'.now = w.now
  keys : w'.concerts.map (fun c => c.id) = w.concerts.map fun c => c.id
  jobs : RowTable.Keyed Job.id w.jobs → RowTable.Keyed Job.id w'.jobs
  new : ∀ j ∈ w'.jobs, j.concertId ≠ id ∨ j.id ≠ jobIdOf id → j ∈ w.jobs
  concert : ∀ k, k ≠ id → w'.findConcert k = w.findConcert k
  job : ∀ k, k ≠ jobIdOf id → w'.getJob k = w.getJob k

/-- Nothing is written. -/
theorem Frame.refl (id : ConcertId) (w : World) : Frame id w w :=
  ⟨rfl, rfl, fun h => h, fun _ hj _ => hj, fun _ _ => rfl, fun _ _ => rfl⟩

/-- Two writes about one concert. -/
theorem Frame.trans (h : Frame id w w') (h' : Frame id w' w'') : Frame id w w'' where
  now := h'.now.trans h.now
  keys := h'.keys.trans h.keys
  jobs := fun hk => h'.jobs (h.jobs hk)
  new := fun j hj hne => h.new j (h'.new j hj hne) hne
  concert := fun k hk => (h'.concert k hk).trans (h.concert k hk)
  job := fun k hk => (h'.job k hk).trans (h.job k hk)

/-- A concert is found if its id is there. -/
theorem findConcert_isSome : (w.findConcert id).isSome = true ↔
    id ∈ w.concerts.map fun c => c.id := by
  simp [World.findConcert, TicketConcerts.findConcert, RowTable.lookup, List.find?_isSome]

/-- The rows of `id` are rewritten by a function that keeps ids. -/
theorem frame_modify {f : Concert → Concert} (hf : ∀ c, (f c).id = c.id) :
    Frame id w { w with concerts := modifyConcert id f w.concerts } where
  now := rfl
  keys := keys_modifyConcert hf
  jobs := fun h => h
  new := fun _ hj _ => hj
  concert := fun _ hk => findConcert_modify_ne hf hk
  job := fun _ _ => rfl

/-- The row as it was written. -/
theorem findConcert_modify {f : Concert → Concert} (hf : ∀ c, (f c).id = c.id)
    (hc : w.findConcert id = some c) :
    ({ w with concerts := modifyConcert id f w.concerts } : World).findConcert id
      = some (f c) := by
  have hc' : TicketConcerts.findConcert id w.concerts = some c := hc
  show TicketConcerts.findConcert id (modifyConcert id f w.concerts) = some (f c)
  rw [findConcert_modify_self hf, hc']
  rfl

/-- Tables that agree with `Stored` ones away from a concert, and at it, are stored. -/
theorem Stored.frame (h : Stored w) (hf : Frame id w w') (hid : (w.findConcert id).isSome = true)
    (hrec : ∀ c j, w'.findConcert id = some c → w'.getJob (jobIdOf id) = some j →
      j.failed = false → c.reminderJobId = some (jobIdOf id))
    (hids : ∀ c x, w'.findConcert id = some c → c.reminderJobId = some x → x = jobIdOf id) :
    Stored w' where
  concerts := by
    have hk : (w.concerts.map fun c => c.id).Nodup := h.concerts
    show (w'.concerts.map fun c => c.id).Nodup
    rw [hf.keys]
    exact hk
  jobs := hf.jobs h.jobs
  owned := by
    intro j hj
    rw [findConcert_isSome, hf.keys, ← findConcert_isSome]
    by_cases hnew : j.concertId = id ∧ j.id = jobIdOf id
    · rw [hnew.1]
      exact ⟨hnew.2, hid⟩
    · exact h.owned j (hf.new j hj (not_and_or.mp hnew))
  recorded := by
    intro k c j hc hj hfailed
    by_cases hk : k = id
    · subst hk
      exact hrec c j hc hj hfailed
    · rw [hf.concert k hk] at hc
      rw [hf.job _ fun he => hk (jobIdOf_injective he)] at hj
      exact h.recorded k c j hc hj hfailed
  ids := by
    intro k c x hc hx
    by_cases hk : k = id
    · subst hk
      exact hids c x hc hx
    · rw [hf.concert k hk] at hc
      exact h.ids k c x hc hx

/-- Where the other concerts stay in step, only the concert itself matters. -/
theorem Stored.inStep_frame (h : Stored w) (h' : Stored w') (hin : InStep w)
    (hf : Frame id w w') (hc : w'.findConcert id = some c) :
    InStep w' ↔ Right w'.now c (w'.getJob (jobIdOf id)) := by
  rw [h'.inStep]
  rw [h.inStep] at hin
  constructor
  · intro hright
    exact hright id c hc
  · intro hright k c' hc'
    by_cases hk : k = id
    · subst hk
      rw [hc] at hc'
      cases hc'
      exact hright
    · rw [hf.concert k hk] at hc'
      rw [hf.job _ fun he => hk (jobIdOf_injective he), hf.now]
      exact hin k c' hc'

/-! ## cancelReminder and scheduleReminder -/

/-- The job left under the id after `job.remove()`: a failed one. -/
def leftAfter (job : Option Job) : Option Job := job.filter fun j => j.failed

/-- What a removal leaves is a failed job. -/
theorem leftAfter_some {job : Option Job} {j : Job} :
    leftAfter job = some j ↔ job = some j ∧ j.failed = true :=
  Option.filter_eq_some_iff

/-- A pending job is removed. -/
theorem leftAfter_of_pending {j : Job} (h : j.failed = false) : leftAfter (some j) = none := by
  simp [leftAfter, h]

/-- What is left of the concert's job. -/
theorem removePending_job : (w.removePending (jobIdOf id)).getJob (jobIdOf id)
    = leftAfter (w.getJob (jobIdOf id)) := by
  unfold World.removePending
  cases hj : w.getJob (jobIdOf id) with
  | none => exact hj
  | some j =>
      simp only [getState_ne_failed]
      cases hf : j.failed with
      | true =>
          rw [if_neg (by simp), hj]
          exact (leftAfter_some.mpr ⟨rfl, hf⟩).symm
      | false =>
          rw [if_pos rfl]
          have hnone : RowTable.lookup Job.id (jobIdOf id)
              (RowTable.remove Job.id (jobIdOf id) w.jobs) = none := RowTable.lookup_remove_self
          rw [leftAfter_of_pending hf]
          exact hnone

/-- The rows stay. -/
theorem removePending_concerts (x : String) : (w.removePending x).concerts = w.concerts := by
  unfold World.removePending
  split
  · split <;> rfl
  · rfl

/-- Other concerts' jobs stay. -/
theorem frame_removePending : Frame id w (w.removePending (jobIdOf id)) := by
  unfold World.removePending
  cases w.getJob (jobIdOf id) with
  | none => exact Frame.refl id w
  | some j =>
      show Frame id w (if j.getState w.now ≠ .failed then _ else w)
      split
      · exact {
          now := rfl
          keys := rfl
          jobs := fun h => h.remove
          new := fun _ hj _ => (List.mem_filter.mp hj).1
          concert := fun _ _ => rfl
          job := fun _ hk => RowTable.lookup_remove_ne hk }
      · exact Frame.refl id w

/-- The write of the job id is about one concert. -/
theorem frame_setReminderJobId (x : Option String) : Frame id w (w.setReminderJobId id x) :=
  frame_modify fun _ => rfl

/-- The row has the new job id. -/
theorem findConcert_setReminderJobId (x : Option String) (hc : w.findConcert id = some c) :
    (w.setReminderJobId id x).findConcert id = some { c with reminderJobId := x } :=
  findConcert_modify (fun _ => rfl) hc

/-- `cancelReminder` leaves no pending job and clears the row. -/
theorem cancelReminder_spec (h : Stored w) (hc : w.findConcert id = some c) :
    Frame id w (cancelReminder id w) ∧
      (cancelReminder id w).findConcert id = some { c with reminderJobId := none } ∧
      (cancelReminder id w).getJob (jobIdOf id) = leftAfter (w.getJob (jobIdOf id)) := by
  unfold cancelReminder
  simp only [hc, Option.bind_some]
  cases hx : c.reminderJobId with
  | none =>
      -- an empty row has no pending job to lose
      refine ⟨Frame.refl id w, ?_, ?_⟩
      · have hrow : { c with reminderJobId := none } = c := by rw [← hx]
        rw [hrow]
        exact hc
      · cases hj : w.getJob (jobIdOf id) with
        | none => exact hj
        | some j =>
            cases hf : j.failed with
            | true => exact hj.trans (leftAfter_some.mpr ⟨rfl, hf⟩).symm
            | false =>
                have hrec := h.recorded id c j hc hj hf
                rw [hx] at hrec
                cases hrec
  | some x =>
      have hid : x = jobIdOf id := h.ids id c x hc hx
      subst hid
      have hkeep : (some (jobIdOf id)).filter (fun id => id ≠ "") = some (jobIdOf id) := by
        simp [jobIdOf_ne]
      rw [hkeep]
      refine ⟨frame_removePending.trans (frame_setReminderJobId none), ?_, removePending_job⟩
      refine findConcert_setReminderJobId none ?_
      show findConcert id (w.removePending (jobIdOf id)).concerts = some c
      rw [removePending_concerts]
      exact hc

/-- A job that is there already stays. -/
theorem add_job (job : Job) : (w.add job).getJob job.id = some ((w.getJob job.id).getD job) := by
  unfold World.add
  cases hj : w.getJob job.id with
  | some j => exact hj
  | none =>
      show RowTable.lookup Job.id job.id (w.jobs ++ [job]) = some job
      have hj' : RowTable.lookup Job.id job.id w.jobs = none := hj
      rw [RowTable.lookup_append, hj', if_pos rfl]
      rfl

/-- The rows stay. -/
theorem add_concerts (job : Job) : (w.add job).concerts = w.concerts := by
  unfold World.add
  split <;> rfl

/-- A new job is about one concert. -/
theorem frame_add {job : Job} (hid : job.id = jobIdOf id) (hown : job.concertId = id) :
    Frame id w (w.add job) := by
  unfold World.add
  cases hj : w.getJob job.id with
  | some j => exact Frame.refl id w
  | none =>
      refine ⟨rfl, rfl, fun hk => hk.append hj, ?_, fun _ _ => rfl, ?_⟩
      · intro j' hj' hne
        rcases List.mem_append.mp hj' with hold | hnew
        · exact hold
        · rw [List.mem_singleton.mp hnew] at hne
          rcases hne with hne | hne
          · exact absurd hown hne
          · exact absurd hid hne
      · intro k hk
        show RowTable.lookup Job.id k (w.jobs ++ [job]) = RowTable.lookup Job.id k w.jobs
        rw [RowTable.lookup_append, if_neg fun he => hk (he.symm.trans hid), Option.or_none]

/-- The job stored after `scheduleReminder`. -/
def jobAfter (now : Int) (c : Concert) (job : Option Job) : Option Job :=
  if isOpen c.status = false then job
  else if reminderTime c ≤ now then leftAfter job
  else some ((leftAfter job).getD ⟨jobIdOf c.id, c.id, reminderTime c, false⟩)

/-- **What `scheduleReminder` does**: the job as said, the row as before but for the
    id it records, which is that of every pending job. -/
theorem scheduleReminder_spec (h : Stored w) (hc : w.findConcert id = some c) :
    Frame id w (scheduleReminder id w) ∧
      (∃ x, (scheduleReminder id w).findConcert id = some { c with reminderJobId := x } ∧
        (x = none ∨ x = some (jobIdOf id)) ∧
        ∀ j, jobAfter w.now c (w.getJob (jobIdOf id)) = some j → j.failed = false →
          x = some (jobIdOf id)) ∧
      (scheduleReminder id w).getJob (jobIdOf id)
        = jobAfter w.now c (w.getJob (jobIdOf id)) := by
  have hcid : c.id = id := findConcert_id hc
  have hx : c.reminderJobId = none ∨ c.reminderJobId = some (jobIdOf id) := by
    cases hx : c.reminderJobId with
    | none => exact .inl rfl
    | some x => exact .inr (congrArg some (h.ids id c x hc hx))
  unfold scheduleReminder jobAfter
  simp only [hc]
  by_cases hopen : isOpen c.status = false
  · rw [if_pos hopen, if_pos hopen]
    exact ⟨Frame.refl id w, ⟨_, hc, hx, fun j hj => h.recorded id c j hc hj⟩, rfl⟩
  obtain ⟨hframe, hrow, hjob⟩ := cancelReminder_spec h hc
  rw [if_neg hopen, if_neg hopen]
  by_cases hlate : reminderTime c ≤ w.now
  · rw [if_pos hlate, if_pos hlate]
    refine ⟨hframe, ⟨none, hrow, .inl rfl, ?_⟩, hjob⟩
    intro j hj hfailed
    rw [(leftAfter_some.mp hj).2] at hfailed
    cases hfailed
  · rw [if_neg hlate, if_neg hlate]
    have hfire : (cancelReminder id w).now + (reminderTime c - (cancelReminder id w).now)
        = reminderTime c := by omega
    simp only [hfire, hcid]
    have hadd := add_job (w := cancelReminder id w) ⟨jobIdOf id, id, reminderTime c, false⟩
    refine ⟨(hframe.trans (frame_add rfl rfl)).trans (frame_setReminderJobId _),
      ⟨some (jobIdOf id), ?_, .inr rfl, fun _ _ _ => rfl⟩, ?_⟩
    · refine findConcert_setReminderJobId (c := { c with reminderJobId := none }) _ ?_
      show findConcert id (World.add _ _).concerts = _
      rw [add_concerts]
      exact hrow
    · rw [hjob] at hadd
      exact hadd

/-- `scheduleReminder` keeps the tables. -/
theorem Stored.schedule (h : Stored w) (hc : w.findConcert id = some c) :
    Stored (scheduleReminder id w) := by
  obtain ⟨hframe, ⟨x, hrow, hx, hrec⟩, hjob⟩ := scheduleReminder_spec h hc
  refine h.frame hframe (by rw [hc]; rfl) ?_ ?_
  · intro c' j hc' hj hfailed
    rw [hrow] at hc'
    cases hc'
    rw [hjob] at hj
    exact hrec j hj hfailed
  · intro c' y hc' hy
    rw [hrow] at hc'
    cases hc'
    rcases hx with rfl | rfl
    · cases hy
    · exact (Option.some.inj hy).symm

/-- Which id a row records is nothing to `Right`. -/
theorem right_setReminderJobId {now : Int} {job : Option Job} (x : Option String) :
    Right now { c with reminderJobId := x } job ↔ Right now c job :=
  ⟨fun h => ⟨h.wanted, h.scheduled⟩, fun h => ⟨h.wanted, h.scheduled⟩⟩

/-- Rescheduling puts a concert in step unless a job stays behind or a failed one
    is in the way. -/
theorem right_jobAfter {now : Int} {job : Option Job} :
    Right now c (jobAfter now c job) ↔
      ¬ (isOpen c.status = false ∧ ∃ j, job = some j ∧ j.failed = false) ∧
        ¬ (isOpen c.status = true ∧ now < reminderTime c ∧ job.any (fun j => j.failed) = true) := by
  unfold jobAfter
  cases hopen : isOpen c.status with
  -- a concert that is not open should have no job that can still run
  | false =>
      rw [if_pos rfl]
      constructor
      · intro h
        refine ⟨?_, by simp⟩
        rintro ⟨-, j, hj, hfailed⟩
        rw [(h.wanted j hj hfailed).1] at hopen
        cases hopen
      · rintro ⟨hnone, -⟩
        constructor
        · intro j hj hfailed
          exact absurd ⟨rfl, j, hj, hfailed⟩ hnone
        · intro ho
          rw [ho] at hopen
          cases hopen
  | true =>
      rw [if_neg (by simp)]
      -- too late for a reminder: none is added
      by_cases hlate : reminderTime c ≤ now
      · rw [if_pos hlate]
        constructor
        · intro _
          exact ⟨by simp, fun hb => absurd hb.2.1 (by omega)⟩
        · intro _
          constructor
          · intro j hj hfailed
            rw [(leftAfter_some.mp hj).2] at hfailed
            cases hfailed
          · intro _ hlt
            omega
      · rw [if_neg hlate]
        have hlt : now < reminderTime c := by omega
        cases hleft : leftAfter job with
        -- no job of the name is left, so a new one is added
        | none =>
            constructor
            · intro _
              refine ⟨by simp, ?_⟩
              rintro ⟨-, -, hany⟩
              cases hj : job with
              | none => simp [hj] at hany
              | some j =>
                  rw [hj] at hany
                  rw [leftAfter_some.mpr ⟨hj, hany⟩] at hleft
                  cases hleft
            · intro _
              refine ⟨?_, fun _ _ => ⟨_, rfl, rfl⟩⟩
              intro j hj _
              cases hj
              exact ⟨hopen, rfl⟩
        -- a failed job is left, and its name keeps the new one out
        | some j =>
            obtain ⟨hj, hfailed⟩ := leftAfter_some.mp hleft
            constructor
            · intro h
              obtain ⟨j', hj', hfailed'⟩ := h.scheduled hopen hlt
              cases hj'
              rw [Option.getD_some, hfailed] at hfailed'
              cases hfailed'
            · rintro ⟨-, hblocked⟩
              refine absurd ⟨rfl, hlt, ?_⟩ hblocked
              rw [hj]
              exact hfailed

/-! ## The steps -/

/-- A rewrite of the row that leaves the ids alone keeps the tables. -/
theorem Stored.modify {f : Concert → Concert} (h : Stored w) (hc : w.findConcert id = some c)
    (hf : ∀ c, (f c).id = c.id) (hj : ∀ c, (f c).reminderJobId = c.reminderJobId) :
    Stored { w with concerts := modifyConcert id f w.concerts } := by
  have hrow := findConcert_modify hf hc
  refine h.frame (frame_modify hf) (by rw [hc]; rfl) ?_ ?_
  · intro c' j hc' hget hfailed
    rw [hrow] at hc'
    cases hc'
    rw [hj]
    exact h.recorded id c j hc hget hfailed
  · intro c' x hc' hx
    rw [hrow] at hc'
    cases hc'
    rw [hj] at hx
    exact h.ids id c x hc hx

/-- The condition on an update, read off the job under the concert's id. -/
theorem Stored.allows (h : Stored w) {dto : UpdateConcertDto} :
    Allows w dto c ↔
      ¬ (isOpen (dto.apply w.now c).status = false ∧
        ∃ j, w.getJob (jobIdOf c.id) = some j ∧ j.failed = false) ∧
      (dto.reschedules c = true → ¬ (isOpen (dto.apply w.now c).status = true ∧
        w.now < reminderTime (dto.apply w.now c) ∧
        (w.getJob (jobIdOf c.id)).any (fun j => j.failed) = true)) := by
  simp only [Allows, LeavesJob, Blocked, UpdateConcertDto.apply_id, h.pending_ne_nil]

/-- **An update.**  The tables are kept, and the concerts stay in step exactly under
    the condition. -/
theorem Stored.update (h : Stored w) (hin : InStep w) {dto : UpdateConcertDto}
    (hc : w.findConcert id = some c) :
    let w₁ := { w with concerts := modifyConcert id (dto.apply w.now) w.concerts }
    let w' := if dto.reschedules c then scheduleReminder id w₁ else w₁
    Stored w' ∧ (InStep w' ↔ Allows w dto c) := by
  intro w₁ w'
  have hcid : c.id = id := findConcert_id hc
  have hframe : Frame id w w₁ := frame_modify fun _ => rfl
  have hrow : w₁.findConcert id = some (dto.apply w.now c) := findConcert_modify (fun _ => rfl) hc
  have h₁ : Stored w₁ := h.modify hc (fun _ => rfl) fun _ => rfl
  cases hre : dto.reschedules c with
  | true =>
      have hw' : w' = scheduleReminder id w₁ := if_pos hre
      rw [hw']
      have h' : Stored (scheduleReminder id w₁) := h₁.schedule hrow
      obtain ⟨hsched, ⟨x, hrow', -, -⟩, hjob⟩ := scheduleReminder_spec h₁ hrow
      refine ⟨h', ?_⟩
      rw [h.inStep_frame h' hin (hframe.trans hsched) hrow', right_setReminderJobId, hjob,
        hsched.now, right_jobAfter, h.allows, hcid]
      exact and_congr_right fun _ => ⟨fun hb _ => hb, fun hb => hb hre⟩
  | false =>
      have hw' : w' = w₁ := if_neg (by simp [hre])
      rw [hw']
      refine ⟨h₁, ?_⟩
      -- start and status are as before, and so is the job
      obtain ⟨hstart, hstatus⟩ := dto.kept_of_not_reschedules hre w.now
      have hright : Right w.now c (w.getJob (jobIdOf id)) := (h.inStep.mp hin) id c hc
      have htime : reminderTime (dto.apply w.now c) = reminderTime c := by
        rw [reminderTime, hstart, reminderTime]
      rw [h.inStep_frame h₁ hin hframe hrow, h.allows, hcid, hre, hstatus]
      constructor
      · intro _
        refine ⟨?_, fun hfalse => absurd hfalse (by simp)⟩
        rintro ⟨hopen, j, hj, hfailed⟩
        rw [(hright.wanted j hj hfailed).1] at hopen
        cases hopen
      · intro _
        refine ⟨?_, ?_⟩
        · rw [hstatus, htime]
          exact hright.wanted
        · rw [hstatus, htime]
          exact hright.scheduled

/-- **A creation** keeps the tables, and the concerts in step. -/
theorem Stored.create (h : Stored w) (hin : InStep w) (hnew : w.findConcert c.id = none)
    (hnone : c.reminderJobId = none) {status : Bool} (hstatus : status = isOpen c.status) :
    let w₁ := { w with concerts := w.concerts ++ [c] }
    let w' := if status then scheduleReminder c.id w₁ else w₁
    Stored w' ∧ InStep w' := by
  intro w₁ w'
  have hfind : ∀ k, w₁.findConcert k = (w.findConcert k).or (if c.id = k then some c else none) :=
    fun _ => findConcert_append
  have hrow : w₁.findConcert c.id = some c := by
    rw [hfind, hnew, if_pos rfl]
    rfl
  have hother : ∀ k, k ≠ c.id → w₁.findConcert k = w.findConcert k := by
    intro k hk
    rw [hfind, if_neg (Ne.symm hk), Option.or_none]
  have hjob : w₁.getJob (jobIdOf c.id) = none := by
    cases hj : w.getJob (jobIdOf c.id) with
    | none => exact hj
    | some j =>
        obtain ⟨hid, hsome⟩ := h.owned j (RowTable.lookup_mem hj)
        have hcj : j.concertId = c.id := jobIdOf_injective (hid.symm.trans (getJob_id hj))
        rw [hcj, hnew] at hsome
        cases hsome
  have h₁ : Stored w₁ := by
    refine ⟨h.concerts.append hnew, h.jobs, ?_, ?_, ?_⟩
    · intro j hj
      obtain ⟨hid, hsome⟩ := h.owned j hj
      refine ⟨hid, ?_⟩
      rw [hfind, Option.isSome_or, hsome, Bool.true_or]
    · intro k c' j hc' hj hfailed
      by_cases hk : k = c.id
      · subst hk
        rw [hjob] at hj
        cases hj
      · rw [hother k hk] at hc'
        exact h.recorded k c' j hc' hj hfailed
    · intro k c' x hc' hx
      by_cases hk : k = c.id
      · subst hk
        rw [hrow] at hc'
        cases hc'
        rw [hnone] at hx
        cases hx
      · rw [hother k hk] at hc'
        exact h.ids k c' x hc' hx
  -- the other concerts, before and after the reminder is scheduled
  have hothers : ∀ k c', k ≠ c.id → w₁.findConcert k = some c' →
      Right w₁.now c' (w₁.getJob (jobIdOf k)) := by
    intro k c' hk hc'
    rw [hother k hk] at hc'
    exact (h.inStep.mp hin) k c' hc'
  cases hs : status with
  | false =>
      have hw' : w' = w₁ := if_neg (by simp [hs])
      rw [hw']
      refine ⟨h₁, h₁.inStep.mpr fun k c' hc' => ?_⟩
      by_cases hk : k = c.id
      · subst hk
        rw [hrow] at hc'
        cases hc'
        rw [hjob]
        constructor
        · intro j hj
          cases hj
        · intro hopen
          rw [← hstatus, hs] at hopen
          cases hopen
      · exact hothers k c' hk hc'
  | true =>
      have hw' : w' = scheduleReminder c.id w₁ := if_pos hs
      rw [hw']
      have h' : Stored (scheduleReminder c.id w₁) := h₁.schedule hrow
      obtain ⟨hsched, ⟨x, hrow', -, -⟩, hjob'⟩ := scheduleReminder_spec h₁ hrow
      refine ⟨h', h'.inStep.mpr fun k c' hc' => ?_⟩
      by_cases hk : k = c.id
      · subst hk
        rw [hrow'] at hc'
        cases hc'
        rw [right_setReminderJobId, hjob', hsched.now, right_jobAfter, hjob, ← hstatus, hs]
        exact ⟨by simp, by simp⟩
      · rw [hsched.concert k hk] at hc'
        rw [hsched.job _ fun he => hk (jobIdOf_injective he), hsched.now]
        exact hothers k c' hk hc'

/-- **A due job** completes or fails: what is stored under its id afterwards is no
    pending job, and none is wanted any more. -/
theorem Stored.due (h : Stored w) (hin : InStep w) {j : Job} (hdue : w.due (jobIdOf id) = some j)
    {jobs : List Job} (hc : w.findConcert id = some c)
    (hf : Frame id w { w with jobs := jobs })
    (hafter : ∀ j', ({ w with jobs := jobs } : World).getJob (jobIdOf id) = some j' →
      j'.failed = true) :
    Stored { w with jobs := jobs } ∧ InStep { w with jobs := jobs } := by
  obtain ⟨hget, hwaiting⟩ := Option.filter_eq_some_iff.mp hdue
  rw [decide_eq_true_eq] at hwaiting
  have hpending : j.failed = false := getState_ne_failed.mp (by rw [hwaiting]; simp)
  have hlate : j.fireAt ≤ w.now := by
    unfold Job.getState at hwaiting
    rw [if_neg (by simp [hpending])] at hwaiting
    split at hwaiting
    · cases hwaiting
    · next hlt => omega
  have h' : Stored { w with jobs := jobs } := by
    refine h.frame hf (by rw [hc]; rfl) ?_ (h.ids id)
    intro c' j' _ hj' hfailed
    rw [hafter j' hj'] at hfailed
    cases hfailed
  refine ⟨h', (h.inStep_frame h' hin hf hc).mpr ⟨?_, ?_⟩⟩
  · intro j' hj' hfailed
    rw [hafter j' hj'] at hfailed
    cases hfailed
  · intro hopen hlt
    have hfire := (((h.inStep.mp hin) id c hc).wanted j hget hpending).2
    have hlt' : w.now < reminderTime c := hlt
    omega

/-- The queue without the job of a concert. -/
theorem frame_remove :
    Frame id w { w with jobs := RowTable.remove Job.id (jobIdOf id) w.jobs } :=
  ⟨rfl, rfl, fun hk => hk.remove, fun _ hj _ => (List.mem_filter.mp hj).1,
    fun _ _ => rfl, fun _ hk => RowTable.lookup_remove_ne hk⟩

/-- The job is gone. -/
theorem getJob_remove :
    ({ w with jobs := RowTable.remove Job.id (jobIdOf id) w.jobs } : World).getJob (jobIdOf id)
      = none :=
  RowTable.lookup_remove_self

/-- The queue after the job of a concert has failed its attempts. -/
def failJob (id : String) (jobs : List Job) : List Job :=
  RowTable.modify Job.id id (fun j => { j with failed := true }) jobs

/-- A failure is about one concert. -/
theorem Stored.frame_fail (h : Stored w) :
    Frame id w { w with jobs := failJob (jobIdOf id) w.jobs } := by
  have hid : ∀ j : Job, ({ j with failed := true } : Job).id = j.id := fun _ => rfl
  refine ⟨rfl, rfl, fun hk => hk.modify hid, ?_, fun _ _ => rfl,
    fun _ hk => RowTable.lookup_modify_ne hid hk⟩
  intro j hj hne
  obtain ⟨j₀, hmem, rfl⟩ := RowTable.mem_modify hj
  by_cases hj₀ : j₀.id = jobIdOf id
  · rw [if_pos hj₀] at hne
    have hcid : j₀.concertId = id := jobIdOf_injective ((h.owned j₀ hmem).1.symm.trans hj₀)
    rcases hne with hne | hne
    · exact absurd hcid hne
    · exact absurd hj₀ hne
  · rw [if_neg hj₀]
    exact hmem

/-- The job has failed. -/
theorem getJob_fail :
    ({ w with jobs := failJob (jobIdOf id) w.jobs } : World).getJob (jobIdOf id)
      = (w.getJob (jobIdOf id)).map fun j => { j with failed := true } :=
  RowTable.lookup_modify_self fun _ => rfl

/-- Time passing keeps the concerts in step. -/
theorem Stored.tick (h : Stored w) (hin : InStep w) {now : Int} (hle : w.now ≤ now) :
    Stored { w with now := now } ∧ InStep { w with now := now } := by
  have h' : Stored { w with now := now } := ⟨h.concerts, h.jobs, h.owned, h.recorded, h.ids⟩
  refine ⟨h', h'.inStep.mpr fun k c' hc' => ?_⟩
  have hright := (h.inStep.mp hin) k c' hc'
  exact ⟨hright.wanted, fun hopen hlt => hright.scheduled hopen (lt_of_le_of_lt hle hlt)⟩

/-- A due job is stored under the id of a concert. -/
theorem Stored.due_owned (h : Stored w) {x : String} {j : Job} (hdue : w.due x = some j) :
    x = jobIdOf j.concertId ∧ ∃ c, w.findConcert j.concertId = some c := by
  obtain ⟨hget, -⟩ := Option.filter_eq_some_iff.mp hdue
  obtain ⟨hid, hsome⟩ := h.owned j (RowTable.lookup_mem hget)
  exact ⟨(getJob_id hget).symm.trans hid, Option.isSome_iff_exists.mp hsome⟩

/-- A create adds a row of a new id. -/
theorem createConcert_ok {dto : CreateConcertDto} {u : UserId} {now : Int}
    {rows rows' : List Concert} (h : createConcert dto u id now rows = .ok rows') :
    findConcert id rows = none ∧ rows' = rows ++ [dto.row id u now] := by
  unfold createConcert at h
  split at h
  · cases h
  · split at h
    · cases h
    · next hnone =>
      cases h
      exact ⟨by simpa using hnone, rfl⟩

/-- **One step.**  The tables are kept, and the concerts stay in step exactly when the
    step meets the condition. -/
theorem Stored.next (h : Stored w) (hin : InStep w) {m : Input} (hn : next w m = some w') :
    Stored w' ∧ (InStep w' ↔ Meets w m) := by
  cases m with
  | create dto u id =>
      cases hn
      unfold TicketReminder.create
      cases hc : createConcert dto u id w.now w.concerts with
      | error e => exact ⟨h, ⟨fun _ => trivial, fun _ => hin⟩⟩
      | ok rows =>
          obtain ⟨hnew, rfl⟩ := createConcert_ok hc
          obtain ⟨h', hin'⟩ := h.create hin (c := dto.row id u w.now) hnew rfl
            rfl
          exact ⟨h', ⟨fun _ => trivial, fun _ => hin'⟩⟩
  | update id dto u r =>
      cases hn
      unfold TicketReminder.update
      cases hu : updateConcert id dto u r w.now w.concerts with
      | error e =>
          refine ⟨h, ⟨fun _ x hx => ?_, fun _ => hin⟩⟩
          rw [hu] at hx
          cases hx
      | ok y =>
          obtain ⟨existing, rows⟩ := y
          obtain ⟨hfind, -, -, rfl⟩ := updateConcert_ok hu
          obtain ⟨h', hiff⟩ := h.update hin hfind
          refine ⟨h', hiff.trans ⟨fun ha x hx => ?_, fun hm => ?_⟩⟩
          · rw [hu] at hx
            cases hx
            exact ha
          · exact hm _ (by rw [hu]; rfl)
  | fired x =>
      obtain ⟨j, hdue, rfl⟩ := Option.map_eq_some_iff.mp hn
      obtain ⟨rfl, c, hc⟩ := h.due_owned hdue
      obtain ⟨h', hin'⟩ := h.due hin hdue hc frame_remove fun j' hj' => by
        rw [getJob_remove] at hj'
        cases hj'
      exact ⟨h', ⟨fun _ => trivial, fun _ => hin'⟩⟩
  | failed x =>
      obtain ⟨j, hdue, rfl⟩ := Option.map_eq_some_iff.mp hn
      obtain ⟨rfl, c, hc⟩ := h.due_owned hdue
      obtain ⟨h', hin'⟩ := h.due hin hdue hc h.frame_fail fun j' hj' => by
        rw [getJob_fail] at hj'
        obtain ⟨_, -, rfl⟩ := Option.map_eq_some_iff.mp hj'
        rfl
      exact ⟨h', ⟨fun _ => trivial, fun _ => hin'⟩⟩
  | tick now =>
      simp only [TicketReminder.next] at hn
      split at hn
      · next hle =>
        cases hn
        obtain ⟨h', hin'⟩ := h.tick hin hle
        exact ⟨h', ⟨fun _ => trivial, fun _ => hin'⟩⟩
      · cases hn

end

/-! ## Runs -/

/-- Before the first concert is created. -/
structure Opening (w : World) : Prop where
  concerts : w.concerts = []
  jobs : w.jobs = []

/-- At the start there is nothing stored. -/
theorem Opening.stored {w : World} (h : Opening w) : Stored w := by
  have hrow : ∀ id, w.findConcert id = none := by
    intro id
    rw [World.findConcert, h.concerts]
    rfl
  refine ⟨?_, ?_, ?_, ?_, ?_⟩
  · rw [h.concerts]
    exact List.nodup_nil
  · rw [h.jobs]
    exact List.nodup_nil
  · intro j hj
    rw [h.jobs] at hj
    cases hj
  · intro id c j hc
    rw [hrow] at hc
    cases hc
  · intro id c x hc
    rw [hrow] at hc
    cases hc

/-- At the start everything is in step. -/
theorem Opening.inStep {w : World} (h : Opening w) : InStep w := by
  intro c hc
  rw [h.concerts] at hc
  cases hc

/-- **Reminders and concerts.**  After every run whose steps meet the condition each
    concert has at most one pending reminder, only while it is PUBLISHED or
    SALE_OPEN and 24 hours before its start, and has it while that is still to come;
    and the next step keeps this exactly when it meets the condition too. -/
theorem reminders_in_step {w₀ w : World} (h₀ : Opening w₀)
    (hr : Machine.RunIf next Meets w₀ w) :
    InStep w ∧ ∀ m w', next w m = some w' → (InStep w' ↔ Meets w m) := by
  have hinv : Stored w ∧ InStep w := by
    refine hr.inv (I := fun w => Stored w ∧ InStep w) ?_ ⟨h₀.stored, h₀.inStep⟩
    rintro s m s' ⟨hs, hin⟩ hm hn
    obtain ⟨hs', hiff⟩ := hs.next hin hn
    exact ⟨hs', hiff.mpr hm⟩
  exact ⟨hinv.2, fun m w' hn => (hinv.1.next hinv.2 hn).2⟩

/-! ### Runs of one concert -/

/-- Row and pending jobs are compared. -/
instance (w : World) (c : Concert) : Decidable (InStepAt w c) :=
  decidable_of_iff ((w.pending c.id).length ≤ 1 ∧
      (∀ j ∈ w.pending c.id, isOpen c.status = true ∧
        j.fireAt = c.startsAt - REMINDER_DELAY_MS) ∧
      (isOpen c.status = true → w.now < c.startsAt - REMINDER_DELAY_MS → w.pending c.id ≠ []))
    ⟨fun h => ⟨h.1, h.2.1, h.2.2⟩, fun h => ⟨h.atMostOne, h.wanted, h.scheduled⟩⟩

/-- Concert by concert. -/
instance (w : World) : Decidable (InStep w) := inferInstanceAs (Decidable (∀ _ ∈ _, _))

/-- How long before its start a concert is reminded of. -/
def day : Int := REMINDER_DELAY_MS

/-- A concert published ten days ahead. -/
def published : Input :=
  .create { title := "Live", slug := "live", venue := "Arena", startsAt := 10 * day,
            status := some .published, title_ne := by decide, slug_ne := by decide,
            venue_ne := by decide } 1 7

/-- The organizer moves the concert. -/
def moved (startsAt : Int) : Input := .update 7 { startsAt := some startsAt } 1 .organizer

/-- The organizer cancels the concert. -/
def cancelled : Input := .update 7 { status := some .cancelled } 1 .organizer

/-- No concert yet. -/
def empty : World := ⟨[], [], 0⟩

/-- The concert is moved, reminded of, and moved once more, to a day already near:
    the step that comes then, a cancellation, keeps the order. -/
theorem reminders_in_step_moved :
    Opening empty ∧ ∃ w, Machine.RunIf next Meets empty w ∧ w.jobs = [] ∧
      (InStep (settle w (update 7 { status := some .cancelled } 1 .organizer w)) ↔
        Meets w cancelled) := by
  have hopening : Opening empty := ⟨rfl, rfl⟩
  obtain ⟨w, hrun, hw⟩ : ∃ w, Machine.RunIf next Meets empty w ∧ w.jobs = [] :=
    Machine.exists_runIf
      [published, moved (5 * day), .tick (4 * day), .fired (jobIdOf 7),
        moved (4 * day + 1000)] _ (by decide +kernel)
  exact ⟨hopening, w, hrun, hw, (reminders_in_step hopening hrun).2 cancelled _ rfl⟩

/-- A cancelled concert keeps its reminder; and where a reminder has failed, none is
    scheduled again. -/
theorem reminder_left_or_blocked :
    (∃ w, Machine.Run next (fun _ => True) empty w ∧ ¬ InStep w ∧
      w.jobs = [⟨jobIdOf 7, 7, 9 * day, false⟩] ∧
      (w.findConcert 7).map (fun c => c.status) = some .cancelled) ∧
    ∃ w, Machine.Run next (fun _ => True) empty w ∧ ¬ InStep w ∧ w.pending 7 = [] ∧
      (w.findConcert 7).map (fun c => (c.status, reminderTime c)) = some (.published, 19 * day) :=
  ⟨Machine.exists_run [published, cancelled] (fun _ _ => trivial) _ (by decide +kernel),
    Machine.exists_run
      [published, .tick (9 * day), .failed (jobIdOf 7), moved (20 * day)]
      (fun _ _ => trivial) _ (by decide +kernel)⟩

end TicketReminder
