import TicketBox.Snapshots

/-! # The queue of ticket-issue jobs

    A job stays in the queue until a delivery of it completes, and it may be
    delivered several times meanwhile.  `JobsKnown` states for all runs that ids
    are never reused: a delivery in flight and a queued job of the same id are
    the same job. -/

namespace TicketBackend

open Interleave TicketStore TicketDb TicketFlow TicketOrder TicketPayment TicketServices

/-- The job a call of the worker works on. -/
def Ask.job : Ask → Option TicketIssueJob
  | .issueJob job | .countIssued job _ | .issueCommit job _ | .completeJob job _ => some job
  | _ => none

/-- The id was given out, and a queued job of this id is this one. -/
def JobKnown (w : World) (job : TicketIssueJob) : Prop :=
  job.id < w.nextJobId ∧ ∀ j ∈ w.ticketIssueJobs, j.id = job.id → j = job

/-- Every queued job and every job in delivery is known. -/
structure JobsKnown (p : State) : Prop where
  queued : ∀ j ∈ p.world.ticketIssueJobs, JobKnown p.world j
  ops : ∀ prog ∈ p.ops, prog.All (fun d => ∀ job ∈ Ask.job d, JobKnown p.world job) fun _ => True

/-! ## One step -/

/-- Only the worker's calls are about a job. -/
theorem job_kind {d : Ask} {job : TicketIssueJob} (h : Ask.job d = some job) :
    Ask.kind d = .ticketIssue := by
  unfold Ask.job at h
  split at h
  all_goals first
    | rfl
    | cases h

/-- A call of the worker goes on with the job it works on; no other call takes one up. -/
theorem dispatch_job {ch : Choice} {w w' : World} {d : Ask} {prog : Op}
    (h : dispatch ch w d = some (w', prog)) :
    prog.All (fun d' => ∀ job ∈ Ask.job d', Ask.job d = some job) fun _ => True := by
  by_cases hk : Ask.kind d = .ticketIssue
  swap
  · -- no other operation becomes a worker's
    refine (asked_kind (dispatch_asked h)).mono (fun d' hd' job hjob => ?_) fun _ => id
    exact absurd (hd'.symm.trans (job_kind hjob)) hk
  have hsome : ∀ {x : World × Op}, some x = some (w', prog) →
      x.2.All (fun d' => ∀ job ∈ Ask.job d', Ask.job d = some job) (fun _ => True) →
      prog.All (fun d' => ∀ job ∈ Ask.job d', Ask.job d = some job) fun _ => True :=
    fun hq => prop_of_some (P := fun _ prog =>
      prog.All (fun d' => ∀ job ∈ Ask.job d', Ask.job d = some job) fun _ => True) hq
  have hreads : ∀ {q : Op}, reads ch w q = some (w', prog) →
      q.All (fun d' => ∀ job ∈ Ask.job d', Ask.job d = some job) (fun _ => True) →
      prog.All (fun d' => ∀ job ∈ Ask.job d', Ask.job d = some job) fun _ => True :=
    fun hq => prop_of_reads (P := fun _ prog =>
      prog.All (fun d' => ∀ job ∈ Ask.job d', Ask.job d = some job) fun _ => True) hq trivial
  cases d with
  | issueJob job =>
      refine hreads h ?_
      simp only [TicketServices.issueJob]
      repeat' split
      all_goals first
        | trivial
        | exact fun _ => id
  | countIssued job order =>
      refine hreads h ?_
      simp only [TicketServices.countIssued]
      split <;> exact fun _ => id
  | issueCommit job order =>
      refine hsome h ?_
      simp only [TicketServices.issueCommit]
      split
      · trivial
      · exact fun _ => id
  | completeJob job answer =>
      refine hsome h ?_
      simp only [TicketServices.completeJob]
      split <;> trivial
  | createPaymentUrl caller o u => cases caller <;> cases hk
  | callGateway caller o amount existing => cases caller <;> cases hk
  | savePaymentUrl caller o amount existing url => cases caller <;> cases hk
  | _ => cases hk

/-- A delivery hands out a queued job. -/
theorem enter_job {w : World} {r : Request} {prog : Op} (h : enter w r = some prog) :
    prog.All (fun d => ∀ job ∈ Ask.job d, job ∈ w.ticketIssueJobs) fun _ => True := by
  have hother : Request.kind r ≠ .ticketIssue →
      prog.All (fun d => ∀ job ∈ Ask.job d, job ∈ w.ticketIssueJobs) fun _ => True := fun hk =>
    (settled_enter h).mono (fun d hd job hjob => absurd (hd.2.symm.trans (job_kind hjob)) hk)
      fun _ _ => trivial
  cases r with
  | ticketIssue job =>
      simp only [enter] at h
      split at h
      · next hmem =>
        cases h
        rintro job' ⟨⟩
        exact hmem
      · cases h
  | _ => exact hother (by simp [Request.kind])

/-- What a call does to the queue. -/
inductive QueueMoved (w w' : World) (d : Ask) : Prop where
  | same : w'.ticketIssueJobs = w.ticketIssueJobs → w'.nextJobId = w.nextJobId → QueueMoved w w' d
  | added (order : Order) (rest : List Order) :
      d = .enqueueTicketIssue order rest →
      w'.ticketIssueJobs = w.ticketIssueJobs ++ [{ id := w.nextJobId, orderId := order.id }] →
      w'.nextJobId = w.nextJobId + 1 → QueueMoved w w' d
  | completed (job : TicketIssueJob) (answer : Answer) :
      d = .completeJob job answer →
      w'.ticketIssueJobs = w.ticketIssueJobs.filter (fun j => j.id ≠ job.id) →
      w'.nextJobId = w.nextJobId → QueueMoved w w' d

/-- What a call does to the queue. -/
theorem asked_queue {ch : Choice} {w w' : World} {d : Ask} {prog : Op}
    (h : Asked ch w d w' prog) : QueueMoved w w' d := by
  cases h with
  | enqueued order rest => exact .added order rest rfl rfl rfl
  | completed job answer => exact .completed job answer rfl rfl rfl
  | _ => exact .same rfl rfl

/-- No task touches the queue. -/
theorem performed_queue {ch : Choice} {w w' : World} {t : Task} {res : TaskResult Task}
    (h : Performed ch w t w' res) :
    w'.ticketIssueJobs = w.ticketIssueJobs ∧ w'.nextJobId = w.nextJobId := by
  cases h <;> exact ⟨rfl, rfl⟩

/-- A job is known by the queue and the next id. -/
theorem JobKnown.of_eq {w w' : World} (hq : w'.ticketIssueJobs = w.ticketIssueJobs)
    (hn : w'.nextJobId = w.nextJobId) {job : TicketIssueJob} (h : JobKnown w job) :
    JobKnown w' job := by
  rw [JobKnown, hq, hn]
  exact h

/-- A job that is known stays known. -/
theorem JobKnown.moved {w w' : World} {d : Ask} (hm : QueueMoved w w' d) {job : TicketIssueJob}
    (h : JobKnown w job) : JobKnown w' job := by
  obtain ⟨hlt, huniq⟩ := h
  cases hm with
  | same hq hn => exact JobKnown.of_eq hq hn ⟨hlt, huniq⟩
  | added order rest _ hq hn =>
      refine ⟨by omega, fun j hj hid => ?_⟩
      rw [hq] at hj
      rcases List.mem_append.mp hj with hj | hj
      · exact huniq j hj hid
      · -- the new id was not given out
        rw [List.mem_singleton.mp hj] at hid
        have hid' : w.nextJobId = job.id := hid
        omega
  | completed done answer _ hq hn =>
      refine ⟨by omega, fun j hj => ?_⟩
      rw [hq] at hj
      exact huniq j (List.mem_of_mem_filter hj)

/-- The queue keeps only known jobs. -/
theorem queued_moved {w w' : World} {d : Ask} (hm : QueueMoved w w' d)
    (h : ∀ j ∈ w.ticketIssueJobs, JobKnown w j) : ∀ j ∈ w'.ticketIssueJobs, JobKnown w' j := by
  intro j hj
  have hm' := hm
  cases hm with
  | same hq _ => exact (h j (hq ▸ hj)).moved hm'
  | added order rest _ hq hn =>
      rw [hq] at hj
      rcases List.mem_append.mp hj with hj | hj
      · exact (h j hj).moved hm'
      · rw [List.mem_singleton] at hj
        subst hj
        refine ⟨by rw [hn]; exact Nat.lt_succ_self _, fun j' hj' hid => ?_⟩
        rw [hq] at hj'
        rcases List.mem_append.mp hj' with hj' | hj'
        · have := (h j' hj').1
          have hid' : j'.id = w.nextJobId := hid
          omega
        · exact List.mem_singleton.mp hj'
  | completed done answer _ hq _ =>
      rw [hq] at hj
      exact (h j (List.mem_of_mem_filter hj)).moved hm'

/-! ## All runs -/

/-- Every step keeps the jobs known. -/
theorem JobsKnown.step {G : Condition} {p q : State} (hp : JobsKnown p)
    (h : backend.Step G p q) : JobsKnown q := by
  constructor
  · refine h.world (I := fun w => ∀ j ∈ w.ticketIssueJobs, JobKnown w j) hp.queued ?_ ?_ ?_
    · intro ch d w' prog _ _ hd
      exact queued_moved (asked_queue (dispatch_asked hd)) hp.queued
    · intro ch t w' res _ _ hperf j hj
      obtain ⟨hq, hn⟩ := performed_queue (perform_performed hperf)
      exact (hp.queued j (hq ▸ hj)).of_eq hq hn
    · intro ms _
      exact hp.queued
  · refine System.Step.all (J := fun w d => ∀ job ∈ Ask.job d, JobKnown w job)
      (K := fun _ _ => True) h hp.ops ?_ ?_ ?_ ?_
    · intro r prog _ he
      exact (enter_job he).mono (fun d hd job hjob => hp.queued job (hd job hjob)) fun _ => id
    · intro ch d w' prog _ hd _ hdec
      have hm := asked_queue (dispatch_asked hdec)
      refine ⟨(dispatch_job hdec).mono (fun d' hd' job hjob => ?_) fun _ => id,
        fun d' hd' job hjob => (hd' job hjob).moved hm, fun _ => id⟩
      exact (hd job (hd' job hjob)).moved hm
    · intro ch t w' res _ _ hperf
      obtain ⟨hq, hn⟩ := performed_queue (perform_performed hperf)
      exact ⟨fun _ _ => trivial, fun d' hd' job hjob => (hd' job hjob).of_eq hq hn, fun _ => id⟩
    · intro ms _
      exact ⟨fun d' => id, fun _ => id⟩

/-- At the start the queue is empty. -/
theorem Opening.jobsKnown {p : State} (h : Opening p) : JobsKnown p where
  queued j hj := by
    rw [h.jobs_nil] at hj
    cases hj
  ops prog hp := by
    rw [h.ops_nil] at hp
    cases hp

end TicketBackend
