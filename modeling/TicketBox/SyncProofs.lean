import TicketBox.CheckinProofs
import TicketBox.CheckinResults

/-! # One offline event, delivered again and again

    A delivery of an event reads the log, moves the ticket and writes its log
    row in three statements.  Between the second and the third, the window, the
    event has moved the ticket and nothing says so yet.  A crash in the window
    and a delivery that logs during another's window both leave a row that calls
    the event a conflict with itself.

    The file shows both, and that nothing else goes wrong: in every run that
    keeps the windows undisturbed, the events' rows, the ticket's mover and the
    answers agree once the deliveries have ended.  The route: `windows` counts
    the deliveries in their window and equals 1 exactly while the event has
    moved the ticket without a row (`Carried.windowed`); what has been told or
    logged of the event then never changes. -/

namespace TicketCheckin

open Interleave TicketStore

/-! ## What is said of an event -/

/-- The log rows of the event. -/
def eventLogs (dev : DeviceId) (e : EventId) (db : Db) : List CheckinLog :=
  db.logs.filter fun l => l.OfEvent dev e

/-- The event is the one that moved a ticket to CHECKED_IN. -/
def Moved (dev : DeviceId) (e : EventId) (w : World) : Prop :=
  ∃ x ∈ w.checkedInBy, x.2 = some (dev, e)

/-- The notes of the status writes are searched. -/
instance (dev : DeviceId) (e : EventId) (w : World) : Decidable (Moved dev e w) :=
  inferInstanceAs (Decidable (∃ x ∈ w.checkedInBy, _))

/-- What the deliveries of the event were answered. -/
def told (dev : DeviceId) (e : EventId) (p : State) : List SyncCheckinResultDto :=
  p.ops.flatMap fun
    | .ret (.synced dto response) =>
        ((dto.records.zip response.results).filter fun x => x.1.OfEvent dev e).map Prod.snd
    | _ => []

/-- The call belongs to a batch that holds the event. -/
def Ask.Delivers (dev : DeviceId) (e : EventId) : Ask → Prop
  | .syncFindLog loop _ => ∃ r ∈ loop.dto.records, r.OfEvent dev e
  | .syncFindTicket loop _ => ∃ r ∈ loop.dto.records, r.OfEvent dev e
  | .syncUpdate loop _ _ => ∃ r ∈ loop.dto.records, r.OfEvent dev e
  | .syncLog loop _ _ => ∃ r ∈ loop.dto.records, r.OfEvent dev e
  | _ => False

/-- All deliveries of the event have ended. -/
def DeliveriesEnded (dev : DeviceId) (e : EventId) (p : State) : Prop :=
  ∀ prog ∈ p.ops, prog.Meets (fun d => ¬ d.Delivers dev e) fun _ => True

/-- An event that was answered or moved its ticket has exactly one row; the row
    is SUCCESS exactly if the event moved the ticket; and an event that did is
    not answered as a conflict. -/
structure EventSettled (dev : DeviceId) (e : EventId) (p : State) : Prop where
  one_row : told dev e p ≠ [] ∨ Moved dev e p.world →
    (eventLogs dev e p.world.db).length = 1
  status : ∀ l ∈ eventLogs dev e p.world.db, l.status = .success ↔ Moved dev e p.world
  no_conflict : ∀ r ∈ told dev e p, r.conflict = true → ¬ Moved dev e p.world

/-! ## The runs -/

/-- Every batch names the event with the one ticket. -/
def deliveries (dev : DeviceId) (e : EventId) (t : TicketId) : Condition where
  req _ r :=
    match r with
    | .verify _ _ => True
    | .sync dto _ => ∀ record ∈ dto.records, record.OfEvent dev e → record.ticketId = t
  ask _ _ _ := True
  task _ _ _ := True
  env _ _ := True

/-- The delivery has moved the ticket and stands before its SUCCESS row. -/
def Ask.InWindow (dev : DeviceId) (e : EventId) : Ask → Prop
  | .syncLog _ params _ => params.OfEvent dev e ∧ params.status = .success
  | _ => False

/-- No request stands between the event's status write and its log row. -/
def NoWindow (dev : DeviceId) (e : EventId) (p : State) : Prop :=
  ∀ prog ∈ p.ops, prog.Meets (fun d => ¬ d.InWindow dev e) fun _ => True

/-- No window of the event is disturbed: its SUCCESS row is written without a
    failure, no other row of the event is written meanwhile, and no delivery
    moves the ticket after the event was logged.  A statement that fails writes
    nothing, so nothing else is asked of it. -/
def windowed (dev : DeviceId) (e : EventId) (t : TicketId) : Condition where
  req := (deliveries dev e t).req
  ask p ch d :=
    match d with
    | .syncUpdate _ record _ =>
        record.OfEvent dev e → ch.fails = false → Closed record.ticketId p.world ∨ ¬ Logged dev e p.world.db
    | .syncLog _ params _ =>
        params.OfEvent dev e →
          if params.status = .success then ch.fails = false
          else ch.fails = false → NoWindow dev e p
    | _ => True
  task _ _ _ := True
  env _ _ := True

/-! ## The window -/

variable {dev : DeviceId} {e : EventId} {t : TicketId}

/-- A call tells whether its request stands there. -/
instance (d : Ask) : Decidable (d.InWindow dev e) := by
  induction d using Ask.casesOn <;> delta Ask.InWindow <;> infer_instance

/-- Deliveries in their window. -/
def inWindow (dev : DeviceId) (e : EventId) (d : Ask) : Int := if d.InWindow dev e then 1 else 0

/-- How many requests stand there. -/
def windows (dev : DeviceId) (e : EventId) (p : State) : Int :=
  p.worth (inWindow dev e) fun _ => 0

/-- The event has moved its ticket and has no row. -/
def Unlogged (dev : DeviceId) (e : EventId) (w : World) : Prop :=
  Moved dev e w ∧ ¬ Logged dev e w.db

/-- Notes and log are compared. -/
instance (w : World) : Decidable (Unlogged dev e w) := inferInstanceAs (Decidable (_ ∧ _))

/-- Whether the event still lacks its log row, as a number. -/
def unlogged (dev : DeviceId) (e : EventId) (w : World) : Int :=
  if Unlogged dev e w then 1 else 0

/-- The status write moves its own event. -/
theorem moved_moved (id : TicketId) (src : Option (DeviceId × EventId)) (w : World) :
    Moved dev e (w.moved id src) ↔ Moved dev e w ∨ src = some (dev, e) := by
  simp [Moved, or_and_right, exists_or]

/-- A log row logs its own event. -/
theorem logged_logged (params : LogParams) (w : World) :
    Logged dev e (w.logged params).db ↔ Logged dev e w.db ∨ params.OfEvent dev e :=
  logged_append

/-- It moves none. -/
theorem moved_logged (params : LogParams) (w : World) :
    Moved dev e (w.logged params) ↔ Moved dev e w := Iff.rfl

@[simp] theorem next_inWindow (loop : SyncLoop) :
    loop.next.worth (inWindow dev e) (fun _ => (0 : Int)) = 0 := by
  simp only [SyncLoop.next]
  split <;> rfl

/-- No window is open. -/
theorem NoWindow.windows {p : State} (h : NoWindow dev e p) : windows dev e p = 0 :=
  Pool.worth_eq_zero fun prog hmem =>
    (h prog hmem).mono (fun _ hd => if_neg hd) fun _ _ => rfl

/-! ## What every request in flight knows -/

/-- What a result says of the event: it is logged, and if the result calls it a
    conflict, it has not moved the ticket. -/
def EventRight (dev : DeviceId) (e : EventId) (w : World) (record : SyncCheckinRecordDto)
    (result : SyncCheckinResultDto) : Prop :=
  record.OfEvent dev e → Logged dev e w.db ∧ (result.conflict = true → ¬ Moved dev e w)

/-- The batch names the event with its ticket. -/
def Names (dev : DeviceId) (e : EventId) (t : TicketId) (dto : SyncCheckinDto) : Prop :=
  ∀ record ∈ dto.records, record.OfEvent dev e → record.ticketId = t

/-- What the request knows, at a call. -/
def AskKnows (dev : DeviceId) (e : EventId) (t : TicketId) (w : World) : Ask → Prop :=
  AskTold (Names dev e t) (EventRight dev e w)

/-- What the request knows, when it has ended. -/
def AnswerKnows (dev : DeviceId) (e : EventId) (t : TicketId) (w : World) : Answer → Prop :=
  AnswerTold (Names dev e t) (EventRight dev e w)

/-- A logged event stays logged, and nothing moves a ticket for it any more. -/
structure Kept (dev : DeviceId) (e : EventId) (w w' : World) : Prop where
  logged : Logged dev e w.db → Logged dev e w'.db
  moved : Logged dev e w.db → Moved dev e w' → Moved dev e w

/-- What was told of an event stays right. -/
theorem EventRight.kept {w w' : World} (hk : Kept dev e w w') (record : SyncCheckinRecordDto)
    (result : SyncCheckinResultDto) (h : EventRight dev e w record result) :
    EventRight dev e w' record result := by
  intro hev
  obtain ⟨hlog, hno⟩ := h hev
  exact ⟨hk.logged hlog, fun hc hm => hno hc (hk.moved hlog hm)⟩

theorem ticketId_of_told {P : SyncCheckinRecordDto → SyncCheckinResultDto → Prop}
    {loop : SyncLoop} {record : SyncCheckinRecordDto} (h : LoopTold (Names dev e t) P loop record)
    (hev : record.OfEvent dev e) : record.ticketId = t :=
  h.names record h.mem hev

theorem not_ofEvent_src {record : SyncCheckinRecordDto} (h : ¬ record.OfEvent dev e) :
    some (record.deviceId, record.offlineEventId) ≠ some (dev, e) := by
  intro he
  cases he
  exact h ⟨rfl, rfl⟩

/-- Under the condition no statement moves a ticket for a logged event. -/
theorem Carried.kept {p : State} {ch : Choice} {w' : World} {d : Ask} {prog : Op}
    (h : Carried ch p.world d w' prog) (hg : (windowed dev e t).ask p ch d) :
    Kept dev e p.world w' := by
  have hlogged : ∀ params, Kept dev e p.world (p.world.logged params) := fun params =>
    ⟨fun hl => (logged_logged params p.world).mpr (.inl hl), fun _ hm => hm⟩
  cases h with
  | verifyWon dto staffId ticket hopen =>
      refine ⟨fun hl => hl, fun _ hm => ?_⟩
      rcases (moved_moved dto.ticketId none p.world).mp hm with hm | hsrc
      · exact hm
      · cases hsrc
  | syncWon loop record ticket hf hopen =>
      refine ⟨fun hl => hl, fun hl hm => ?_⟩
      rcases (moved_moved _ _ p.world).mp hm with hm | hsrc
      · exact hm
      · cases hsrc
        rcases hg ⟨rfl, rfl⟩ hf with hclosed | hnot
        · exact absurd hclosed hopen
        · exact absurd hl hnot
  | verifyLogged params answer _ => exact hlogged params
  | syncLogged loop params result _ _ => exact hlogged params
  | _ => exact ⟨fun hl => hl, fun _ hm => hm⟩

/-- Nothing beside the requests touches an event. -/
theorem happen_kept (ev : Event) (w : World) : Kept dev e w (ev.happen w) where
  logged hl := by rwa [Logged, happen_logs]
  moved _ hm := by rwa [Moved, happen_by] at hm

/-! ## The rows of the event -/

/-- What the log rows of the event say: there is at most one, SUCCESS exactly if
    the event moved the ticket, and its ticket is CHECKED_IN then. -/
structure RowsRight (dev : DeviceId) (e : EventId) (t : TicketId) (w : World) : Prop where
  keyed : w.db.Keyed
  one : (eventLogs dev e w.db).length ≤ 1
  status : ∀ l ∈ eventLogs dev e w.db, l.status = .success ↔ Moved dev e w
  conflict : ∀ l ∈ eventLogs dev e w.db, l.conflict = true → ¬ Moved dev e w
  mover : Moved dev e w → ∃ r, findTicket t w.db = some r ∧ r.status = .checkedIn

/-- The log rows of an event. -/
theorem mem_eventLogs {db : Db} {l : CheckinLog} :
    l ∈ eventLogs dev e db ↔ l ∈ db.logs ∧ l.OfEvent dev e := by
  simp [eventLogs]

/-- There are none before it is logged. -/
theorem eventLogs_eq_nil {db : Db} : eventLogs dev e db = [] ↔ ¬ Logged dev e db := by
  simp [eventLogs, Logged, List.filter_eq_nil_iff]

/-- One more row, of the event or not. -/
theorem eventLogs_logged (params : LogParams) (w : World) :
    eventLogs dev e (w.logged params).db
      = eventLogs dev e w.db ++ if params.OfEvent dev e then [params.row w.now] else [] := by
  have hrow : (params.row w.now).OfEvent dev e ↔ params.OfEvent dev e := Iff.rfl
  simp only [eventLogs, logged_logs, List.filter_append, List.filter_cons, List.filter_nil, hrow,
    decide_eq_true_eq]

/-! ### The writes, for the rows -/

/-- A checked-in row is what any further statement leaves. -/
theorem moved_checkedIn {id : TicketId} {src : Option (DeviceId × EventId)} {w : World}
    {r : Ticket} (hr : findTicket t w.db = some r) (hs : r.status = .checkedIn) :
    findTicket t (w.moved id src).db = some r := by
  rw [moved_findTicket, hr, Option.map_some, if_neg]
  rintro ⟨-, hissued⟩
  rw [hs] at hissued
  cases hissued

/-- Another event's status write leaves the rows right. -/
theorem RowsRight.moved_other {w : World} {id : TicketId} {src : Option (DeviceId × EventId)}
    (h : RowsRight dev e t w) (hsrc : src ≠ some (dev, e)) :
    RowsRight dev e t (w.moved id src) := by
  have hmoved : Moved dev e (w.moved id src) ↔ Moved dev e w := by
    rw [moved_moved]
    simp [hsrc]
  refine ⟨keyed_updateIssued h.keyed, h.one, fun l hl => ?_, fun l hl hc => ?_, fun hm => ?_⟩
  · rw [hmoved]
    exact h.status l hl
  · rw [hmoved]
    exact h.conflict l hl hc
  · obtain ⟨r, hr, hs⟩ := h.mover (hmoved.mp hm)
    exact ⟨r, moved_checkedIn hr hs, hs⟩

/-- The event moves its ticket while it has no row. -/
theorem RowsRight.moved_own {w : World} (h : RowsRight dev e t w) (hopen : ¬ Closed t w)
    (hnot : ¬ Logged dev e w.db) : RowsRight dev e t (w.moved t (some (dev, e))) := by
  have hnil : eventLogs dev e (w.moved t (some (dev, e))).db = [] := eventLogs_eq_nil.mpr hnot
  refine ⟨keyed_updateIssued h.keyed, ?_, ?_, ?_, ?_⟩
  · simp [hnil]
  · simp [hnil]
  · simp [hnil]
  · intro _
    rw [closed_iff h.keyed] at hopen
    push Not at hopen
    obtain ⟨r, hr, hissued⟩ := hopen
    refine ⟨r.checkIn w.now, ?_, rfl⟩
    rw [moved_findTicket, hr, Option.map_some, if_pos ⟨findTicket_id hr, hissued⟩]

/-- So does another event's log row. -/
theorem RowsRight.logged_other {w : World} {params : LogParams} (h : RowsRight dev e t w)
    (hpar : ¬ params.OfEvent dev e) : RowsRight dev e t (w.logged params) := by
  have hsame : eventLogs dev e (w.logged params).db = eventLogs dev e w.db := by
    rw [eventLogs_logged, if_neg hpar, List.append_nil]
  refine ⟨h.keyed, ?_, ?_, ?_, h.mover⟩
  · rw [hsame]
    exact h.one
  · rw [hsame]
    exact h.status
  · rw [hsame]
    exact h.conflict

/-- The first row of the event. -/
theorem RowsRight.logged_own {w : World} {params : LogParams} (h : RowsRight dev e t w)
    (hpar : params.OfEvent dev e) (hnot : ¬ Logged dev e w.db)
    (hstatus : params.status = .success ↔ Moved dev e w)
    (hconflict : params.conflict = true → ¬ Moved dev e w) :
    RowsRight dev e t (w.logged params) := by
  have hone : eventLogs dev e (w.logged params).db = [params.row w.now] := by
    rw [eventLogs_logged, eventLogs_eq_nil.mpr hnot, if_pos hpar, List.nil_append]
  refine ⟨h.keyed, ?_, ?_, ?_, h.mover⟩
  · simp [hone]
  · rw [hone]
    intro l hl
    cases List.mem_singleton.mp hl
    exact hstatus
  · rw [hone]
    intro l hl hc
    cases List.mem_singleton.mp hl
    exact hconflict hc

/-! ## The invariant -/

/-- The rows of an event are right, and every one not yet logged has its window open. -/
structure Windowed (dev : DeviceId) (e : EventId) (t : TicketId) (p : State) : Prop where
  rows : RowsRight dev e t p.world
  known : ∀ prog ∈ p.ops, prog.Meets (AskKnows dev e t p.world) (AnswerKnows dev e t p.world)
  account : windows dev e p = unlogged dev e p.world

/-- A call is in the window or not. -/
theorem inWindow_nonneg (d : Ask) : 0 ≤ inWindow dev e d := by
  simp only [inWindow]
  split <;> decide

/-- A delivery in its window has moved the ticket, and the event has no row. -/
theorem Windowed.of_window {p : State} (hp : Windowed dev e t p) {d : Ask}
    (hmem : .ask d ∈ p.ops) (hd : d.InWindow dev e) : Unlogged dev e p.world := by
  have hle : inWindow dev e d ≤ windows dev e p :=
    Pool.le_worth inWindow_nonneg (fun _ => le_refl _) hmem
  rw [hp.account, inWindow, if_pos hd, unlogged] at hle
  by_contra hno
  rw [if_neg hno] at hle
  omega

/-- Where no window is open, an event that moved the ticket is logged. -/
theorem Windowed.no_window {p : State} (hp : Windowed dev e t p) (h : NoWindow dev e p) :
    ¬ Unlogged dev e p.world := by
  intro hu
  have hacc := hp.account
  rw [h.windows, unlogged, if_pos hu] at hacc
  cases hacc

/-- An event that moved its ticket cannot find it ISSUED again. -/
theorem RowsRight.not_moved {w : World} (h : RowsRight dev e t w) (hopen : ¬ Closed t w) :
    ¬ Moved dev e w := by
  intro hm
  obtain ⟨r, hr, hs⟩ := h.mover hm
  refine hopen ((closed_iff h.keyed).mpr fun r' hr' => ?_)
  rw [hr] at hr'
  cases hr'
  rw [hs]
  intro hc
  cases hc

/-- What an admitted row of the event says is right. -/
theorem Windowed.logs_right {p : State} {ch : Choice} (hp : Windowed dev e t p)
    {loop : SyncLoop} {params : LogParams} {result : SyncCheckinResultDto}
    (hmem : .ask (.syncLog loop params result) ∈ p.ops)
    (hg : (windowed dev e t).ask p ch (.syncLog loop params result)) (hf : ch.fails = false)
    (hpar : params.OfEvent dev e) (hnot : ¬ Logged dev e p.world.db) :
    params.status = .success ↔ Moved dev e p.world := by
  constructor
  · intro hs
    exact (hp.of_window hmem ⟨hpar, hs⟩).1
  · intro hm
    by_contra hs
    have hquiet : NoWindow dev e p := by
      have hg' := hg hpar
      rw [if_neg hs] at hg'
      exact hg' hf
    exact hp.no_window hquiet ⟨hm, hnot⟩

/-- Every call keeps the rows right. -/
theorem Windowed.rows_carried {p : State} {ch : Choice} {w' : World} {d : Ask} {prog : Op}
    (hp : Windowed dev e t p) (hmem : .ask d ∈ p.ops) (hg : (windowed dev e t).ask p ch d)
    (h : Carried ch p.world d w' prog) : RowsRight dev e t w' := by
  have hd : AskKnows dev e t p.world d := hp.known _ hmem
  cases h with
  | verifyWon dto staffId ticket hopen => exact hp.rows.moved_other (by simp)
  | syncWon loop record ticket hf hopen =>
      by_cases hev : record.OfEvent dev e
      · have hid : record.ticketId = t := ticketId_of_told hd hev
        obtain ⟨rfl, rfl⟩ := hev
        subst hid
        rcases hg ⟨rfl, rfl⟩ hf with hclosed | hnot
        · exact absurd hclosed hopen
        · exact hp.rows.moved_own hopen hnot
      · exact hp.rows.moved_other (not_ofEvent_src hev)
  | verifyLogged params answer _ =>
      refine hp.rows.logged_other fun hpar => ?_
      have hnone : params.offlineEventId = none := hd.1
      rw [hpar.2] at hnone
      cases hnone
  | syncLogged loop params result hf hadm =>
      by_cases hpar : params.OfEvent dev e
      · obtain ⟨record, hl, hlog⟩ := hd
        have hnot : ¬ Logged dev e p.world.db := by
          have := hadm.2 e hpar.2
          rwa [show (params.row p.world.now).deviceId = dev from hpar.1] at this
        have hright := hp.logs_right hmem hg hf hpar hnot
        exact hp.rows.logged_own hpar hnot hright fun hc hm =>
          hlog.conflict_status hc (hright.mpr hm)
      · exact hp.rows.logged_other hpar
  | _ => exact hp.rows

theorem unlogged_congr {w w' : World} (hm : Moved dev e w' ↔ Moved dev e w)
    (hl : Logged dev e w'.db ↔ Logged dev e w.db) : unlogged dev e w' = unlogged dev e w := by
  have hiff : Unlogged dev e w' ↔ Unlogged dev e w := by rw [Unlogged, Unlogged, hm, hl]
  simp only [unlogged, hiff]

/-- The row a delivery in its window is about to write is admitted. -/
theorem Windowed.admissible {p : State} (hp : Windowed dev e t p) {loop : SyncLoop}
    {params : LogParams} {result : SyncCheckinResultDto}
    (hmem : .ask (.syncLog loop params result) ∈ p.ops)
    (hwin : (Ask.syncLog loop params result).InWindow dev e) :
    Admissible (params.row p.world.now) p.world.db := by
  obtain ⟨record, hl, hlog⟩ := hp.known _ hmem
  obtain ⟨hm, hnot⟩ := hp.of_window hmem hwin
  obtain ⟨r, hr, -⟩ := hp.rows.mover hm
  have hid : record.ticketId = t := ticketId_of_told hl ((hlog.event dev e).mp hwin.1)
  refine ⟨fun t' ht' => ?_, fun e' he' => ?_⟩
  · have ht : params.ticketId = some t' := ht'
    rw [hlog.ticketId, hid] at ht
    cases ht
    rw [hr]
    rfl
  · have he : params.offlineEventId = some e' := he'
    rw [hwin.1.2] at he
    cases he
    rwa [show (params.row p.world.now).deviceId = dev from hwin.1.1]

/-- **The window's account.**  A delivery enters its window by moving the ticket
    and leaves it by logging. -/
theorem Windowed.account_carried {p : State} {ch : Choice} {w' : World} {d : Ask} {prog : Op}
    (hp : Windowed dev e t p) (hmem : .ask d ∈ p.ops) (hg : (windowed dev e t).ask p ch d)
    (h : Carried ch p.world d w' prog) :
    -unlogged dev e w' + prog.worth (inWindow dev e) (fun _ => 0)
      = -unlogged dev e p.world + inWindow dev e d := by
  have hd : AskKnows dev e t p.world d := hp.known _ hmem
  have hout : ∀ {loop params result}, ¬ (Ask.syncLog loop params result).InWindow dev e →
      (Prog.ask (Ask.syncLog loop params result) : Op).worth (inWindow dev e)
        (fun _ => (0 : Int)) = 0 := fun hno => if_neg hno
  cases h with
  -- the condition lets no delivery fail in its window
  | failed d hf =>
      have hno : ¬ d.InWindow dev e := by
        intro hwin
        cases d with
        | syncLog loop params result =>
            have hg' := hg hwin.1
            rw [if_pos hwin.2, hf] at hg'
            cases hg'
        | _ => exact hwin
      rw [inWindow, if_neg hno]
      rfl
  | verifyRejected dto staffId params err _ => rfl
  | verifyPassed dto staffId ticket _ => rfl
  | verifyLost dto staffId ticket _ => rfl
  -- a check-in at the gate belongs to no event
  | verifyWon dto staffId ticket _ =>
      have hmoved : Moved dev e (p.world.moved dto.ticketId none) ↔ Moved dev e p.world := by
        rw [moved_moved]
        simp
      rw [unlogged_congr hmoved Iff.rfl]
      rfl
  | verifyCurrent dto staffId current _ => rfl
  | verifyLogRefused params answer _ => rfl
  | verifyLogged params answer _ =>
      have hpar : ¬ params.OfEvent dev e := by
        intro hpar
        have hnone : params.offlineEventId = none := hd.1
        rw [hpar.2] at hnone
        cases hnone
      have hsame : Logged dev e (p.world.logged params).db ↔ Logged dev e p.world.db := by
        rw [logged_logged]
        simp [hpar]
      rw [unlogged_congr (moved_logged params p.world) hsame]
      rfl
  | replayed loop record existingLog _ => rw [next_inWindow]; rfl
  | notSeen loop record _ => rfl
  -- a refused record is logged, but not as a success
  | syncRejected loop record params result hc =>
      have hno : ¬ (Ask.syncLog loop params result).InWindow dev e := by
        rintro ⟨-, hs⟩
        obtain ⟨⟨reason, rfl⟩, -, hstatus⟩ := syncChecks_error hc
        have hs' : result.status = .success := hs
        rcases hstatus with h | h <;> rw [h] at hs' <;> cases hs'
      rw [hout hno]
      rfl
  | syncPassed loop record ticket _ => rfl
  | syncLost loop record ticket _ =>
      have hno : ¬ (Ask.syncLog loop (syncConflict record loop.staffId).1
          (syncConflict record loop.staffId).2).InWindow dev e := by
        rintro ⟨-, hs⟩
        cases hs
      rw [hout hno]
      rfl
  | syncWon loop record ticket hf hopen =>
      by_cases hev : record.OfEvent dev e
      · -- the delivery enters its window
        have hid : record.ticketId = t := ticketId_of_told hd hev
        obtain ⟨rfl, rfl⟩ := hev
        subst hid
        have hnot : ¬ Logged record.deviceId record.offlineEventId p.world.db :=
          (hg ⟨rfl, rfl⟩ hf).resolve_left hopen
        have hbefore : ¬ Unlogged record.deviceId record.offlineEventId p.world :=
          fun hu => hp.rows.not_moved hopen hu.1
        have hafter : Unlogged record.deviceId record.offlineEventId
            (p.world.moved record.ticketId (some (record.deviceId, record.offlineEventId))) :=
          ⟨(moved_moved _ _ _).mpr (.inr rfl), hnot⟩
        have hwin : (Ask.syncLog loop (syncSuccess record loop.staffId ticket).1
            (syncSuccess record loop.staffId ticket).2).InWindow
              record.deviceId record.offlineEventId := ⟨⟨rfl, rfl⟩, rfl⟩
        rw [unlogged, unlogged, if_pos hafter, if_neg hbefore, Prog.worth_ask, inWindow,
          if_pos hwin]
        rfl
      · have hmoved : Moved dev e (p.world.moved record.ticketId
            (some (record.deviceId, record.offlineEventId))) ↔ Moved dev e p.world := by
          rw [moved_moved]
          simp only [or_iff_left_iff_imp]
          exact fun he => absurd he (not_ofEvent_src hev)
        have hno : ¬ (Ask.syncLog loop (syncSuccess record loop.staffId ticket).1
            (syncSuccess record loop.staffId ticket).2).InWindow dev e :=
          fun hwin => hev (((syncSuccess_logOf record loop.staffId ticket).event dev e).mp hwin.1)
        rw [unlogged_congr hmoved Iff.rfl, hout hno]
        rfl
  | syncLogRefused loop params result hadm =>
      have hno : ¬ (Ask.syncLog loop params result).InWindow dev e :=
        fun hwin => hadm (hp.admissible hmem hwin)
      rw [inWindow, if_neg hno]
      rfl
  -- the delivery leaves its window as its row appears
  | syncLogged loop params result hf hadm =>
      rw [next_inWindow]
      by_cases hpar : params.OfEvent dev e
      · have hnot : ¬ Logged dev e p.world.db := by
          have := hadm.2 e hpar.2
          rwa [show (params.row p.world.now).deviceId = dev from hpar.1] at this
        have hright := hp.logs_right hmem hg hf hpar hnot
        have hafter : ¬ Unlogged dev e (p.world.logged params) :=
          fun hu => hu.2 ((logged_logged params p.world).mpr (.inr hpar))
        have hbefore : Unlogged dev e p.world
            ↔ (Ask.syncLog loop params result).InWindow dev e :=
          ⟨fun hu => ⟨hpar, hright.mpr hu.1⟩, fun hwin => ⟨hright.mp hwin.2, hnot⟩⟩
        rw [unlogged, if_neg hafter, unlogged, inWindow]
        simp only [hbefore]
        split <;> rfl
      · have hsame : Logged dev e (p.world.logged params).db ↔ Logged dev e p.world.db := by
          rw [logged_logged]
          simp [hpar]
        have hno : ¬ (Ask.syncLog loop params result).InWindow dev e := fun hwin => hpar hwin.1
        rw [unlogged_congr (moved_logged params p.world) hsame, inWindow, if_neg hno]

/-- **Every step** keeps one window for every event not yet logged. -/
theorem Windowed.step {p q : State} (hp : Windowed dev e t p)
    (hs : checkin.Step (windowed dev e t) p q) : Windowed dev e t q where
  rows := by
    refine hs.world hp.rows ?_ (fun _ t => nomatch t) ?_
    · intro ch d w' prog hmem hg hdec
      exact hp.rows_carried hmem hg (carried_of_decide hdec)
    · intro ev _
      have hlogs : eventLogs dev e (ev.happen p.world).db = eventLogs dev e p.world.db := by
        simp [eventLogs]
      have hmoved : Moved dev e (ev.happen p.world) ↔ Moved dev e p.world := by
        rw [Moved, Moved, happen_by]
      refine ⟨happen_keyed ev hp.rows.keyed, ?_, ?_, ?_, ?_⟩
      · show (eventLogs dev e (ev.happen p.world).db).length ≤ 1
        rw [hlogs]
        exact hp.rows.one
      · show ∀ l ∈ eventLogs dev e (ev.happen p.world).db, _ ↔ Moved dev e (ev.happen p.world)
        rw [hlogs, hmoved]
        exact hp.rows.status
      · show ∀ l ∈ eventLogs dev e (ev.happen p.world).db, _ → ¬ Moved dev e (ev.happen p.world)
        rw [hlogs, hmoved]
        exact hp.rows.conflict
      · intro hm
        obtain ⟨r, hr, hstatus⟩ := hp.rows.mover (hmoved.mp hm)
        exact ⟨r, happen_findTicket ev hr, hstatus⟩
  known := by
    refine told_step hs hp.known (fun _ _ hg => hg) ?_ ?_ ?_ ?_
    · intro ch d w' prog _ hg hc
      exact EventRight.kept (hc.kept hg)
    · rintro record l hfound ⟨rfl, rfl⟩
      obtain ⟨hmem, hof⟩ := findLog_some hfound
      exact ⟨⟨l, hmem, hof⟩, hp.rows.conflict l (mem_eventLogs.mpr ⟨hmem, hof⟩)⟩
    · intro ch loop params result record hmem hg hf hadm hlog hev
      have hpar : params.OfEvent dev e := (hlog.event dev e).mpr hev
      have hrows := hp.rows_carried hmem hg (.syncLogged loop params result hf hadm)
      refine ⟨(logged_logged params p.world).mpr (.inr hpar), fun hc => ?_⟩
      refine hrows.conflict (params.row p.world.now) (mem_eventLogs.mpr ⟨by simp, hpar⟩) ?_
      rw [hlog.conflict] at hc
      exact hc
    · intro ev _
      exact EventRight.kept (happen_kept ev p.world)
  account := by
    have hbal : -unlogged dev e q.world + windows dev e q
        = -unlogged dev e p.world + windows dev e p := by
      refine hs.weigh (· = ·) (fun _ => rfl) (fun _ _ _ h => by rw [h])
        (fun w => -unlogged dev e w) ?_ ?_ ?_
      · intro r prog _ he
        cases he
        cases r with
        | verify dto staffId => rfl
        | sync dto staffId => exact next_inWindow _
      · intro ch d w' prog hmem hg hdec
        exact hp.account_carried hmem hg (carried_of_decide hdec)
      · intro ev _
        have hsame : unlogged dev e (ev.happen p.world) = unlogged dev e p.world := by
          refine unlogged_congr ?_ ?_
          · rw [Moved, Moved, happen_by]
          · rw [Logged, Logged, happen_logs]
        exact congrArg Neg.neg hsame
    have := hp.account
    omega

/-- At the start nothing is moved. -/
theorem Opening.windowed {p : State} (h : Opening p) : Windowed dev e t p where
  rows := by
    have hnot : ¬ Moved dev e p.world := by simp [Moved, h.checkedInBy_nil]
    have hnil : eventLogs dev e p.world.db = [] := by simp [eventLogs, h.logs_nil]
    refine ⟨h.keyed, ?_, ?_, ?_, fun hm => absurd hm hnot⟩ <;> simp [hnil]
  known prog hmem := by
    rw [h.ops_nil] at hmem
    cases hmem
  account := by
    simp [windows, Pool.worth, h.ops_nil, unlogged, Unlogged, Moved, h.checkedInBy_nil]

/-! ## When the deliveries have ended -/

/-- A window belongs to a delivery. -/
theorem AskKnows.delivers {w : World} {d : Ask} (h : AskKnows dev e t w d)
    (hwin : d.InWindow dev e) : d.Delivers dev e := by
  cases d with
  | syncLog loop params result =>
      obtain ⟨record, hl, hlog⟩ := h
      exact ⟨record, hl.mem, (hlog.event dev e).mp hwin.1⟩
  | _ => exact hwin.elim

/-- When the deliveries have ended no window is open. -/
theorem Windowed.noWindow {p : State} (hp : Windowed dev e t p)
    (hended : DeliveriesEnded dev e p) : NoWindow dev e p := by
  intro prog hmem
  have hk := hp.known prog hmem
  have he := hended prog hmem
  clear hmem
  induction prog with
  | ret r => trivial
  | ask d => exact fun hwin => he (AskKnows.delivers hk hwin)
  | par ts h rest _ ih => exact ih hk he

theorem mem_told {p : State} {r : SyncCheckinResultDto} (h : r ∈ told dev e p) :
    ∃ dto response, .ret (.synced dto response) ∈ p.ops ∧
      ∃ x ∈ dto.records.zip response.results, x.1.OfEvent dev e ∧ x.2 = r := by
  obtain ⟨prog, hmem, hr⟩ := List.mem_flatMap.mp h
  split at hr
  · next dto response =>
    obtain ⟨x, hx, rfl⟩ := List.mem_map.mp hr
    obtain ⟨hx, hev⟩ := List.mem_filter.mp hx
    exact ⟨dto, response, hmem, x, hx, by simpa using hev, rfl⟩
  · cases hr

/-- **Redelivery is harmless while the windows are undisturbed**: in every run
    whose steps meet the condition, an event whose deliveries have ended has one
    row, which is SUCCESS exactly if the event moved the ticket, and none of its
    deliveries was told of a conflict with itself. -/
theorem sync_settles_events {p q : State} (dev : DeviceId) (e : EventId) (t : TicketId)
    (hp : Opening p) (h : checkin.Run (windowed dev e t) p q) (hended : DeliveriesEnded dev e q) :
    EventSettled dev e q := by
  have hq : Windowed dev e t q := h.inv (fun _ _ => Windowed.step) hp.windowed
  have hanswer : ∀ r ∈ told dev e q,
      Logged dev e q.world.db ∧ (r.conflict = true → ¬ Moved dev e q.world) := by
    intro r hr
    obtain ⟨dto, response, hmem, x, hx, hev, rfl⟩ := mem_told hr
    have hknows : AnswerKnows dev e t q.world (.synced dto response) := hq.known _ hmem
    exact hknows.2.each x hx hev
  refine ⟨fun hany => ?_, hq.rows.status, fun r hr => (hanswer r hr).2⟩
  have hlogged : Logged dev e q.world.db := by
    rcases hany with htold | hmoved
    · obtain ⟨r, hr⟩ := List.exists_mem_of_ne_nil _ htold
      exact (hanswer r hr).1
    · by_contra hnot
      exact hq.no_window (hq.noWindow hended) ⟨hmoved, hnot⟩
  have hne : eventLogs dev e q.world.db ≠ [] := fun hnil => eventLogs_eq_nil.mp hnil hlogged
  have hpos := List.length_pos_iff.mpr hne
  have hone := hq.rows.one
  omega

/-! ### Disturbed windows -/

/-- A call tells which event its request delivers. -/
instance (d : Ask) : Decidable (d.Delivers dev e) := by
  induction d using Ask.casesOn <;> delta Ask.Delivers <;> infer_instance

/-- The requests in flight are looked through. -/
instance (p : State) : Decidable (DeliveriesEnded dev e p) :=
  inferInstanceAs (Decidable (∀ prog ∈ p.ops, _))

/-- They are looked through for one in the window. -/
instance (p : State) : Decidable (NoWindow dev e p) :=
  inferInstanceAs (Decidable (∀ prog ∈ p.ops, _))

/-- The end of the witness's run is checked for it. -/
instance (p : State) : Decidable (EventSettled dev e p) :=
  decidable_of_iff
    ((told dev e p ≠ [] ∨ Moved dev e p.world → (eventLogs dev e p.world.db).length = 1) ∧
      (∀ l ∈ eventLogs dev e p.world.db, l.status = .success ↔ Moved dev e p.world) ∧
      ∀ r ∈ told dev e p, r.conflict = true → ¬ Moved dev e p.world)
    ⟨fun h => ⟨h.1, h.2.1, h.2.2⟩, fun h => ⟨h.one_row, h.status, h.no_conflict⟩⟩

/-- The deliveries of the event, with no failure of any statement. -/
def faultless (dev : DeviceId) (e : EventId) (t : TicketId) : Condition :=
  { deliveries dev e t with ask := fun _ ch _ => ch.fails = false }

/-- A run can be checked for this, step by step. -/
instance (p : State) (r : Request) : Decidable ((deliveries dev e t).req p r) := by
  induction r using Request.casesOn <;> delta deliveries <;> infer_instance
instance (p : State) (ch : Choice) (d : Ask) : Decidable ((deliveries dev e t).ask p ch d) :=
  inferInstanceAs (Decidable True)
instance (p : State) (ch : Choice) (u : Empty) : Decidable ((deliveries dev e t).task p ch u) :=
  inferInstanceAs (Decidable True)
instance (p : State) (ev : Event) : Decidable ((deliveries dev e t).env p ev) :=
  inferInstanceAs (Decidable True)

/-- A run can be checked for this, step by step. -/
instance (p : State) (r : Request) : Decidable ((faultless dev e t).req p r) :=
  inferInstanceAs (Decidable ((deliveries dev e t).req p r))
instance (p : State) (ch : Choice) (d : Ask) : Decidable ((faultless dev e t).ask p ch d) :=
  inferInstanceAs (Decidable (ch.fails = false))
instance (p : State) (ch : Choice) (u : Empty) : Decidable ((faultless dev e t).task p ch u) :=
  inferInstanceAs (Decidable True)
instance (p : State) (ev : Event) : Decidable ((faultless dev e t).env p ev) :=
  inferInstanceAs (Decidable True)

/-- A run can be checked for this, step by step. -/
instance (p : State) (r : Request) : Decidable ((windowed dev e t).req p r) :=
  inferInstanceAs (Decidable ((deliveries dev e t).req p r))
instance (p : State) (ch : Choice) (d : Ask) : Decidable ((windowed dev e t).ask p ch d) := by
  induction d using Ask.casesOn <;> delta windowed <;> infer_instance
instance (p : State) (ch : Choice) (u : Empty) : Decidable ((windowed dev e t).task p ch u) :=
  inferInstanceAs (Decidable True)
instance (p : State) (ev : Event) : Decidable ((windowed dev e t).env p ev) :=
  inferInstanceAs (Decidable True)

/-- A batch with the one event. -/
def delivery : Action Choice Request Event :=
  .start (.sync ⟨[offlineScan "e1" e1_ne]⟩ 1)

/-- The process crashes between the update and the log; the app sends the batch
    again. -/
def crashInWindow : List (Action Choice Request Event) :=
  [delivery, .step 0 0 {}, .step 0 0 {}, .step 0 0 {}, .step 0 0 { fails := true },
   delivery, .step 1 0 {}, .step 1 0 {}, .step 1 0 {}, .step 1 0 {}]

/-- Two deliveries pass the duplicate check together; the one that lost the
    update logs first. -/
def logInWindow : List (Action Choice Request Event) :=
  [delivery, delivery, .step 0 0 {}, .step 0 0 {}, .step 1 0 {}, .step 1 0 {},
   .step 0 0 {}, .step 1 0 {}, .step 1 0 {}, .step 0 0 {}]

/-- An event can be logged and answered as a conflict with itself, after a crash
    and without any failure. -/
theorem sync_conflicts_with_itself :
    (∃ q, checkin.Run (deliveries "d1" "e1" "t1") (hall ["t1"]) q ∧
      DeliveriesEnded "d1" "e1" q ∧ ¬ EventSettled "d1" "e1" q) ∧
    ∃ q, checkin.Run (faultless "d1" "e1" "t1") (hall ["t1"]) q ∧
      DeliveriesEnded "d1" "e1" q ∧ ¬ EventSettled "d1" "e1" q :=
  ⟨exists_run crashInWindow _ (by decide), exists_run logInWindow _ (by decide)⟩

/-- A crash before the update, the redelivery and a second one leave one SUCCESS
    row and no conflict. -/
def crashBeforeWindow : List (Action Choice Request Event) :=
  [delivery, .step 0 0 {}, .step 0 0 {}, .step 0 0 { fails := true },
   delivery, .step 1 0 {}, delivery, .step 2 0 {}, .step 1 0 {}, .step 1 0 {}, .step 1 0 {},
   .step 2 0 {}, .step 2 0 {}, .step 2 0 {}]

/-- A delivery crashes before its window, and the retry settles the event. -/
theorem sync_settles_events_crashBeforeWindow :
    ∃ q, checkin.Run (windowed "d1" "e1" "t1") (hall ["t1"]) q ∧
      (told "d1" "e1" q).length = 1 ∧ EventSettled "d1" "e1" q := by
  obtain ⟨q, hrun, hended, htold⟩ :
      ∃ q, checkin.Run (windowed "d1" "e1" "t1") (hall ["t1"]) q ∧
        (DeliveriesEnded "d1" "e1" q ∧ (told "d1" "e1" q).length = 1) :=
    exists_run crashBeforeWindow _ (by decide)
  exact ⟨q, hrun, htold,
    sync_settles_events "d1" "e1" "t1" (hall_opening (by decide)) hrun hended⟩

end TicketCheckin
