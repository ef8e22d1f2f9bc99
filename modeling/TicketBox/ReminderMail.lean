import TicketBox.ConcertService
import TicketBox.Machine

/-! # The concert reminder job

    `handleConcertReminder` of `notification.processor.ts`: it reads the concert,
    then its ticket holders page by page, and mails every holder of a page.  A mail
    may fail, which the job only counts; a database call that fails ends the attempt,
    and the queue starts the job again from its beginning.  The tables stay as they
    are while the job runs. -/

namespace ReminderMail

open TicketStore (ConcertId UserId TicketStatus)
open TicketConcerts (Concert)

/-- The holders of one page. -/
def BATCH_SIZE : Nat := 100

/-- A holder, as the page query returns him. -/
structure User where
  id : UserId
  email : String
  deriving DecidableEq

/-- A ticket, by the columns the job reads. -/
structure Ticket where
  userId : UserId
  concertId : ConcertId
  status : TicketStatus
  deriving DecidableEq

/-- The tables.  The users are listed in the order of the query
    (`orderBy: { createdAt: 'asc' }`); their id is the primary key. -/
structure Db where
  concerts : List Concert
  users : List User
  tickets : List Ticket
  users_nodup : (users.map User.id).Nodup

/-- `{ concertId, status: { in: ['ISSUED', 'CHECKED_IN'] } }` -/
def Ticket.isValidFor (concertId : ConcertId) (ticket : Ticket) : Bool :=
  ticket.concertId = concertId && (ticket.status = .issued || ticket.status = .checkedIn)

/-- The valid tickets of a user. -/
def Db.ticketsOf (concertId : ConcertId) (user : User) (db : Db) : List Ticket :=
  db.tickets.filter fun ticket => ticket.userId = user.id && ticket.isValidFor concertId

/-- The users that the query selects. -/
def Db.holders (concertId : ConcertId) (db : Db) : List User :=
  db.users.filter fun user => db.ticketsOf concertId user != []

/-- A page of the query: the first users, or those that follow the cursor (`skip: 1`). -/
def page (cursor : Option UserId) (users : List User) : List User :=
  match cursor with
  | none => users.take BATCH_SIZE
  | some id => ((users.dropWhile fun user => user.id ≠ id).drop 1).take BATCH_SIZE

/-- What a reminder says. -/
structure Reminder where
  email : String
  concertTitle : String
  concertVenue : String
  concertStartsAt : Int
  ticketCount : Nat
  deriving DecidableEq

/-- A mail that was tried. -/
structure Mail where
  userId : UserId
  reminder : Reminder
  sent : Bool
  deriving DecidableEq

/-- What the processor returns. -/
inductive Result where
  | skipped (reason : String)
  | sent (totalSent totalSkipped : Nat)
  deriving DecidableEq

/-- Where an attempt of the job stands: before each of its database calls, or at its
    end. -/
inductive Phase where
  | findConcert
  | checkStatus (concert : Concert)
  | fetch (concert : Concert) (cursor : Option UserId) (totalSent totalSkipped : Nat)
  | completed (result : Result)
  deriving DecidableEq

/-- A reminder job over its attempts. -/
structure State where
  phase : Phase
  /-- every mail that was tried, by any attempt -/
  mails : List Mail
  deriving DecidableEq

/-- The database call that is awaited fails, or it answers; then the mails of a page
    go out, each sent or not. -/
inductive Event where
  | fails
  | answers (sends : UserId → Bool)

/-- The mail that a holder gets. -/
def Db.reminderFor (concert : Concert) (user : User) (db : Db) : Reminder where
  email := user.email
  concertTitle := concert.title
  concertVenue := concert.venue
  concertStartsAt := concert.startsAt
  ticketCount := (db.ticketsOf concert.id user).length

/-- `Promise.allSettled` over a page. -/
def Db.sendPage (concert : Concert) (sends : UserId → Bool) (users : List User) (db : Db) :
    List Mail :=
  users.map fun user => ⟨user.id, db.reminderFor concert user, sends user.id⟩

/-- An awaited call that answers. -/
def Db.answer (concertId : ConcertId) (sends : UserId → Bool) (s : State) (db : Db) :
    Option State :=
  match s.phase with
  | .findConcert =>
      match TicketConcerts.findConcert concertId db.concerts with
      | none => some { s with phase := .completed (.skipped "Concert not found") }
      | some concert => some { s with phase := .checkStatus concert }
  | .checkStatus concert =>
      match TicketConcerts.findConcert concertId db.concerts with
      | none => some { s with phase := .completed (.skipped "Concert cancelled") }
      | some freshConcert =>
          if freshConcert.status = .cancelled then
            some { s with phase := .completed (.skipped "Concert cancelled") }
          else some { s with phase := .fetch concert none 0 0 }
  | .fetch concert cursor totalSent totalSkipped =>
      let users := page cursor (db.holders concertId)
      match users.getLast? with
      | none => some { s with phase := .completed (.sent totalSent totalSkipped) }
      | some last =>
          let results := db.sendPage concert sends users
          let sent := (results.filter Mail.sent).length
          some
            { phase := .fetch concert (some last.id) (totalSent + sent)
                (totalSkipped + (results.length - sent))
              mails := s.mails ++ results }
  | .completed _ => none

/-- A step of the job.  After a failure it starts again. -/
def Db.next (concertId : ConcertId) (db : Db) (s : State) : Event → Option State
  | .answers sends => db.answer concertId sends s
  | .fails =>
      match s.phase with
      | .completed _ => none
      | _ => some { s with phase := .findConcert }

/-- The job as it is queued. -/
def start : State := ⟨.findConcert, []⟩

end ReminderMail
