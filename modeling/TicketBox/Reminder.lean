import TicketBox.ConcertService
import TicketBox.Machine

/-! # `reminder.service.ts`

    The reminder jobs of the notification queue, `scheduleReminder` and
    `cancelReminder`, and the two operations of `concert.service.ts` that call
    them.  An operation runs to its end before the next one starts, so each is
    one function of the store; nothing fails but by the checks of the code.  The
    queue keeps a failed job (`removeOnFail: false`) and drops a completed one. -/

namespace TicketReminder

open TicketStore (ConcertId UserId Role ApiError)
open TicketConcerts

/-- 24 hours. -/
def REMINDER_DELAY_MS : Int := 24 * 60 * 60 * 1000

/-- A job `concert-reminder-24h` with the time its delay ends. -/
structure Job where
  id : String
  concertId : ConcertId
  fireAt : Int
  /-- its attempts have failed -/
  failed : Bool
  deriving DecidableEq

/-- Where BullMQ keeps a job. -/
inductive JobState where
  | delayed | waiting | failed
  deriving DecidableEq

/-- `job.getState()`, of a job that no worker is running. -/
def Job.getState (job : Job) (now : Int) : JobState :=
  if job.failed then .failed else if now < job.fireAt then .delayed else .waiting

/-- The concerts, the reminder jobs and the clock. -/
structure World where
  concerts : List Concert
  jobs : List Job
  now : Int

/-- `prisma.concert.findUnique` by id. -/
def World.findConcert (id : ConcertId) (w : World) : Option Concert :=
  TicketConcerts.findConcert id w.concerts

/-- `notificationQueue.getJob(id)` -/
def World.getJob (id : String) (w : World) : Option Job := RowTable.lookup Job.id id w.jobs

/-- `notificationQueue.add` with a job id of its own: where a job with that id is
    still stored nothing happens. -/
def World.add (job : Job) (w : World) : World :=
  match w.getJob job.id with
  | some _ => w
  | none => { w with jobs := w.jobs ++ [job] }

/-- `concert.update({ where: { id }, data: { reminderJobId } })` -/
def World.setReminderJobId (id : ConcertId) (jobId : Option String) (w : World) : World :=
  { w with concerts := modifyConcert id (fun c => { c with reminderJobId := jobId }) w.concerts }

/-- The custom job id. -/
def jobIdOf (concertId : ConcertId) : String := s!"reminder-{concertId}"

/-- `job.remove()`, unless the job is completed or failed. -/
def World.removePending (jobId : String) (w : World) : World :=
  match w.getJob jobId with
  | some job =>
      if job.getState w.now ≠ .failed then { w with jobs := RowTable.remove Job.id jobId w.jobs }
      else w
  | none => w

/-- `cancelReminder`. -/
def cancelReminder (concertId : ConcertId) (w : World) : World :=
  match (w.findConcert concertId).bind fun c => c.reminderJobId.filter fun id => id ≠ "" with
  | none => w
  | some jobId => (w.removePending jobId).setReminderJobId concertId none

/-- When the reminder of a concert is due. -/
def reminderTime (c : Concert) : Int := c.startsAt - REMINDER_DELAY_MS

/-- `scheduleReminder`. -/
def scheduleReminder (concertId : ConcertId) (w : World) : World :=
  match w.findConcert concertId with
  | none => w
  | some concert =>
      if isOpen concert.status = false then w
      else if reminderTime concert ≤ w.now then cancelReminder concertId w
      else
        let w := cancelReminder concertId w
        let delay := reminderTime concert - w.now
        let job : Job := ⟨jobIdOf concertId, concertId, w.now + delay, false⟩
        (w.add job).setReminderJobId concertId (some job.id)

/-! ## The operations -/

/-- `create`, with the id the database draws. -/
def create (dto : CreateConcertDto) (fallbackOrganizerId : UserId) (id : ConcertId) (w : World) :
    Except ApiError World := do
  let concerts ← createConcert dto fallbackOrganizerId id w.now w.concerts
  let w := { w with concerts := concerts }
  .ok (if isOpen dto.initialStatus then scheduleReminder id w else w)

/-- `ConcertService.update` with the reminder behind it. -/
def update (id : ConcertId) (dto : UpdateConcertDto) (userId : UserId) (userRole : Role)
    (w : World) : Except ApiError World := do
  let (existing, concerts) ← updateConcert id dto userId userRole w.now w.concerts
  let w := { w with concerts := concerts }
  .ok (if dto.reschedules existing then scheduleReminder id w else w)

/-- A request that is refused changes nothing. -/
def settle (w : World) (r : Except ApiError World) : World :=
  match r with
  | .ok w' => w'
  | .error _ => w

/-- What happens between two moments at which nothing is under way. -/
inductive Input where
  | create (dto : CreateConcertDto) (fallbackOrganizerId : UserId) (id : ConcertId)
  | update (id : ConcertId) (dto : UpdateConcertDto) (userId : UserId) (userRole : Role)
  /-- a due job is run and completes -/
  | fired (jobId : String)
  /-- a due job fails its attempts -/
  | failed (jobId : String)
  | tick (now : Int)

/-- A job whose delay has ended and which has not failed. -/
def World.due (jobId : String) (w : World) : Option Job :=
  (w.getJob jobId).filter fun job => job.getState w.now = .waiting

/-- One request, or one event of the queue. -/
def next (w : World) : Input → Option World
  | .create dto u id => some (settle w (create dto u id w))
  | .update id dto u r => some (settle w (update id dto u r w))
  | .fired jobId =>
      (w.due jobId).map fun _ => { w with jobs := RowTable.remove Job.id jobId w.jobs }
  | .failed jobId =>
      (w.due jobId).map fun _ =>
        { w with jobs := RowTable.modify Job.id jobId (fun j => { j with failed := true }) w.jobs }
  | .tick now => if w.now ≤ now then some { w with now := now } else none

/-- The pending reminder jobs of a concert. -/
def World.pending (c : ConcertId) (w : World) : List Job :=
  w.jobs.filter fun j => j.concertId = c ∧ j.getState w.now ≠ .failed

end TicketReminder
