import TicketBox.CheckinProofs
import TicketBox.Alone

/-! # One batch by itself

    `syncCheckin` as one function: the statements of a batch, nobody in between
    and none of them failing by itself.  `syncCheckin_solo` connects it to the
    service: these are the turns the batch takes alone.

    The records of a batch are meant to be independent, but every rejected record
    writes a log row, the row of a ticket that does not exist is refused by the
    foreign key, and nothing catches that: the batch ends there.
    `sync_independent_iff` says exactly which batches are independent. -/

namespace TicketCheckin

open Interleave TicketStore

/-! ## The batch as a function -/

/-- The log is written, or its exception ends the request. -/
def logAndReturn {α : Type} (params : LogParams) (result : α) (w : World) :
    World × Except CheckinError α :=
  match logCheckinAttempt params w with
  | none => (w, .error .internal)
  | some w => (w, .ok result)

/-- `processSyncRecord` with nobody beside it. -/
def processSyncRecord (record : SyncCheckinRecordDto) (staffId : UserId) (w : World) :
    World × Except CheckinError SyncCheckinResultDto :=
  match findLog record.deviceId record.offlineEventId w.db with
  | some existingLog => (w, .ok (replayResult record existingLog))
  | none =>
      match syncChecks w.config record staffId (findTicket record.ticketId w.db) with
      | .error (params, result) => logAndReturn params result w
      | .ok ticket =>
          let (count, w) :=
            tryCheckIn record.ticketId (some (record.deviceId, record.offlineEventId)) w
          let (params, result) :=
            if count = 0 then syncConflict record staffId
            else syncSuccess record staffId ticket
          logAndReturn params result w

/-- The `for` loop over the records still to come. -/
def syncRecords : SyncLoop → List SyncCheckinRecordDto → World → World × Except CheckinError SyncLoop
  | loop, [], w => (w, .ok loop)
  | loop, record :: rest, w =>
      match processSyncRecord record loop.staffId w with
      | (w, .error e) => (w, .error e)
      | (w, .ok result) => syncRecords (loop.push result) rest w

/-- `syncCheckin` with nobody beside it. -/
def syncCheckin (dto : SyncCheckinDto) (staffId : UserId) (w : World) :
    World × Except CheckinError SyncCheckinResponseDto :=
  let (w, loop) := syncRecords (SyncLoop.start dto staffId) dto.records w
  (w, loop.map SyncLoop.response)

/-- The answer of the route. -/
def syncAnswer (dto : SyncCheckinDto) : Except CheckinError SyncCheckinResponseDto → Answer
  | .ok response => .synced dto response
  | .error e => .refused e

/-! ## The function is what the service does -/

/-- Nothing fails by itself. -/
def smooth : Choice := { fails := false }

/-- One call and the rest of it. -/
theorem solo_step {w : World} {d : Ask} {y : World × Op} (h : checkin.Solo smooth (carryOut w d) y) :
    checkin.Solo smooth (w, .ask d) y :=
  Relation.ReflTransGen.head (by rfl) h

/-- The log row of a record with nobody beside it. -/
theorem logAndReturn_solo (loop : SyncLoop) (params : LogParams)
    (result : SyncCheckinResultDto) (w : World) :
    checkin.Solo smooth (w, .ask (.syncLog loop params result))
      ((logAndReturn params result w).1,
        match (logAndReturn params result w).2 with
        | .ok result => (loop.push result).next
        | .error e => .ret (.refused e)) := by
  refine solo_step ?_
  simp only [carryOut, logAndReturn]
  cases logCheckinAttempt params w with
  | none => exact Relation.ReflTransGen.refl
  | some w' => exact Relation.ReflTransGen.refl

/-- One record with nobody beside it. -/
theorem processSyncRecord_solo (loop : SyncLoop) (record : SyncCheckinRecordDto) (w : World) :
    checkin.Solo smooth (w, .ask (.syncFindLog loop record))
      ((processSyncRecord record loop.staffId w).1,
        match (processSyncRecord record loop.staffId w).2 with
        | .ok result => (loop.push result).next
        | .error e => .ret (.refused e)) := by
  refine solo_step ?_
  simp only [carryOut, processSyncRecord]
  cases findLog record.deviceId record.offlineEventId w.db with
  | some existingLog => exact Relation.ReflTransGen.refl
  | none =>
      refine solo_step ?_
      simp only [carryOut]
      cases hc : syncChecks w.config record loop.staffId (findTicket record.ticketId w.db) with
      | error rejected => exact logAndReturn_solo loop rejected.1 rejected.2 w
      | ok ticket =>
          refine solo_step ?_
          exact logAndReturn_solo loop _ _ _

@[simp] theorem push_staffId (loop : SyncLoop) (result : SyncCheckinResultDto) :
    (loop.push result).staffId = loop.staffId := by
  simp only [SyncLoop.push]
  split
  · rfl
  · split <;> rfl

/-- What is left of the batch starts with the record the loop stands at. -/
theorem current_of_drop {loop : SyncLoop} {rest : List SyncCheckinRecordDto}
    (h : loop.dto.records.drop loop.results.length = rest) : loop.current = rest.head? := by
  rw [← h, List.head?_drop]
  rfl

/-- What is left of the batch after a record. -/
theorem drop_push {loop : SyncLoop} {record : SyncCheckinRecordDto}
    {rest : List SyncCheckinRecordDto} (result : SyncCheckinResultDto)
    (h : loop.dto.records.drop loop.results.length = record :: rest) :
    (loop.push result).dto.records.drop (loop.push result).results.length = rest := by
  rw [push_dto, push_results, List.length_append, List.length_singleton, ← List.tail_drop, h,
    List.tail_cons]

/-- The loop with nobody beside it. -/
theorem syncRecords_solo (records : List SyncCheckinRecordDto) :
    ∀ (loop : SyncLoop) (w : World),
      loop.dto.records.drop loop.results.length = records →
      checkin.Solo smooth (w, loop.next)
        ((syncRecords loop records w).1,
          .ret (syncAnswer loop.dto ((syncRecords loop records w).2.map SyncLoop.response))) := by
  induction records with
  | nil =>
      intro loop w h
      have hcur : loop.current = none := current_of_drop h
      simp only [SyncLoop.next, hcur, syncRecords]
      exact Relation.ReflTransGen.refl
  | cons record rest ih =>
      intro loop w h
      have hcur : loop.current = some record := current_of_drop h
      have hone := processSyncRecord_solo loop record w
      simp only [SyncLoop.next, hcur, syncRecords]
      cases hp : processSyncRecord record loop.staffId w with
      | mk w₁ res =>
          rw [hp] at hone
          cases res with
          | error e => exact hone
          | ok result =>
              have hrest := ih (loop.push result) w₁ (drop_push result h)
              rw [push_dto] at hrest
              exact hone.trans hrest

/-- **The batch alone** takes its turns and answers what the function says. -/
theorem syncCheckin_solo (dto : SyncCheckinDto) (staffId : UserId) (w : World) :
    checkin.Solo smooth (w, (Request.sync dto staffId).enter)
      ((syncCheckin dto staffId w).1, .ret (syncAnswer dto (syncCheckin dto staffId w).2)) :=
  syncRecords_solo dto.records (SyncLoop.start dto staffId) w rfl

/-! ## Independence -/

/-- The records synced one at a time, each in a request of its own. -/
def syncEach (staffId : UserId) :
    List SyncCheckinRecordDto → World → World × List (Except CheckinError SyncCheckinResponseDto)
  | [], w => (w, [])
  | record :: rest, w =>
      let (w, response) := syncCheckin ⟨[record]⟩ staffId w
      let (w, responses) := syncEach staffId rest w
      (w, response :: responses)

/-- The batch has a result for every record, in order; the results and the
    tickets are those of syncing the records one at a time. -/
def Independent (dto : SyncCheckinDto) (staffId : UserId) (w : World) : Prop :=
  ∃ response, (syncCheckin dto staffId w).2 = .ok response ∧
    List.Forall₂ SyncCheckinResultDto.Answers dto.records response.results ∧
    (syncEach staffId dto.records w).2.map (Except.map SyncCheckinResponseDto.results)
      = response.results.map (fun r => .ok [r]) ∧
    (syncCheckin dto staffId w).1.db.tickets = (syncEach staffId dto.records w).1.db.tickets

/-- The record can be logged: its ticket exists, or its event has its row. -/
def Loggable (db : Db) (record : SyncCheckinRecordDto) : Prop :=
  (findTicket record.ticketId db).isSome ∨ Logged record.deviceId record.offlineEventId db

/-- Every record can be logged when its turn comes: its ticket exists, or its
    event was logged before the batch or by an earlier record of it. -/
def AllLoggable (db : Db) (records : List SyncCheckinRecordDto) : Prop :=
  ∀ pre record post, records = pre ++ record :: post →
    Loggable db record ∨
      ∃ r ∈ pre, r.deviceId = record.deviceId ∧ r.offlineEventId = record.offlineEventId

/-! ### One record -/

/-- What a processed record leaves: the same tickets with the same ids, and its
    own event logged besides those that were. -/
structure Processed (record : SyncCheckinRecordDto) (w w' : World) : Prop where
  tickets : ∀ t, (findTicket t w'.db).isSome = (findTicket t w.db).isSome
  logged : ∀ dev e, Logged dev e w'.db ↔
    Logged dev e w.db ∨ (record.deviceId = dev ∧ record.offlineEventId = e)

/-- The record is told its result where its log row is admissible. -/
theorem logAndReturn_ok {α : Type} {params : LogParams} {w : World}
    (h : Admissible (params.row w.now) w.db) (result : α) :
    logAndReturn params result w = (w.logged params, .ok result) := by
  simp only [logAndReturn, logCheckinAttempt, createLog_of h]
  rfl

/-- Elsewhere the batch ends with an error. -/
theorem logAndReturn_error {α : Type} {params : LogParams} {w : World}
    (h : ¬ Admissible (params.row w.now) w.db) (result : α) :
    logAndReturn params result w = (w, .error .internal) := by
  simp only [logAndReturn, logCheckinAttempt, createLog_none h]
  rfl

/-- The row of a record is written after what happened to its ticket. -/
theorem LogOf.processed {record : SyncCheckinRecordDto} {params : LogParams}
    {result : SyncCheckinResultDto} (h : LogOf record params result) {w w₁ : World}
    (htickets : ∀ t, (findTicket t w₁.db).isSome = (findTicket t w.db).isSome)
    (hlogs : w₁.db.logs = w.db.logs) (hsome : (findTicket record.ticketId w.db).isSome)
    (hnew : ¬ Logged record.deviceId record.offlineEventId w.db) :
    logAndReturn params result w₁ = (w₁.logged params, .ok result) ∧
      Processed record w (w₁.logged params) := by
  have hsame : ∀ dev e, Logged dev e w₁.db ↔ Logged dev e w.db := fun dev e => by
    rw [Logged, Logged, hlogs]
  have hadm : Admissible (params.row w₁.now) w₁.db := by
    rw [h.admissible, htickets, hsame]
    exact ⟨hsome, hnew⟩
  refine ⟨logAndReturn_ok hadm result, fun t => htickets t, fun dev e => ?_⟩
  have happ : Logged dev e (w₁.logged params).db ↔ Logged dev e w₁.db ∨ params.OfEvent dev e :=
    logged_append
  rw [happ, hsame, h.event dev e]
  rfl

/-- The status write keeps the rows and the log. -/
theorem tryCheckIn_kept (id : TicketId) (src : Option (DeviceId × EventId)) (w : World) :
    (∀ t, (findTicket t (tryCheckIn id src w).2.db).isSome = (findTicket t w.db).isSome) ∧
      (tryCheckIn id src w).2.db.logs = w.db.logs := by
  by_cases hclosed : Closed id w
  · rw [tryCheckIn_closed hclosed]
    exact ⟨fun _ => rfl, rfl⟩
  · rw [(tryCheckIn_open hclosed src).2]
    refine ⟨fun t => ?_, rfl⟩
    rw [moved_findTicket, Option.isSome_map]

/-- A record that can be logged is processed. -/
theorem processSyncRecord_ok {record : SyncCheckinRecordDto} {w : World} (staffId : UserId)
    (h : Loggable w.db record) :
    ∃ w' result, processSyncRecord record staffId w = (w', .ok result) ∧
      result.Answers record ∧ Processed record w w' := by
  simp only [processSyncRecord]
  cases hfound : findLog record.deviceId record.offlineEventId w.db with
  | some existingLog =>
      refine ⟨w, _, rfl, ⟨rfl, rfl⟩, fun _ => rfl, fun dev e => ?_⟩
      obtain ⟨hmem, hof⟩ := findLog_some hfound
      refine ⟨fun hl => .inl hl, ?_⟩
      rintro (hl | ⟨rfl, rfl⟩)
      · exact hl
      · exact ⟨existingLog, hmem, hof⟩
  | none =>
      have hnew := findLog_none.mp hfound
      have hsome := h.resolve_right hnew
      cases hc : syncChecks w.config record staffId (findTicket record.ticketId w.db) with
      | error rejected =>
          have hlog : LogOf record rejected.1 rejected.2 := (syncChecks_error hc).logOf
          obtain ⟨heq, hproc⟩ := hlog.processed (fun _ => rfl) rfl hsome hnew
          exact ⟨_, _, heq, hlog.answers, hproc⟩
      | ok ticket =>
          obtain ⟨htickets, hlogs⟩ := tryCheckIn_kept record.ticketId
            (some (record.deviceId, record.offlineEventId)) w
          have hlog : ∀ count : Nat, LogOf record
              (if count = 0 then syncConflict record staffId
                else syncSuccess record staffId ticket).1
              (if count = 0 then syncConflict record staffId
                else syncSuccess record staffId ticket).2 := by
            intro count
            split
            · exact syncConflict_logOf record staffId
            · exact syncSuccess_logOf record staffId ticket
          obtain ⟨heq, hproc⟩ := (hlog _).processed htickets hlogs hsome hnew
          exact ⟨_, _, heq, (hlog _).answers, hproc⟩

/-- A record of a missing ticket whose event is new breaks the foreign key. -/
theorem processSyncRecord_error {record : SyncCheckinRecordDto} {w : World} (staffId : UserId)
    (h : ¬ Loggable w.db record) :
    processSyncRecord record staffId w = (w, .error .internal) := by
  simp only [Loggable, not_or, Bool.not_eq_true, Option.isSome_eq_false_iff,
    Option.isNone_iff_eq_none] at h
  have hfound := findLog_none.mpr h.2
  simp only [processSyncRecord, hfound, h.1, syncChecks]
  refine logAndReturn_error (fun hadm => ?_) _
  have := hadm.1 record.ticketId rfl
  rw [h.1] at this
  cases this

/-! ### The whole batch -/

/-- The first record is logged now, the others find it logged. -/
theorem allLoggable_cons {record : SyncCheckinRecordDto} {rest : List SyncCheckinRecordDto}
    {w w' : World} (h : Processed record w w') :
    AllLoggable w.db (record :: rest) ↔ Loggable w.db record ∧ AllLoggable w'.db rest := by
  have hlog : ∀ r : SyncCheckinRecordDto, Loggable w'.db r ↔ Loggable w.db r ∨
      (record.deviceId = r.deviceId ∧ record.offlineEventId = r.offlineEventId) := by
    intro r
    rw [Loggable, Loggable, h.tickets, h.logged, or_assoc]
  constructor
  · intro hall
    refine ⟨(hall [] record rest rfl).resolve_right (by simp), ?_⟩
    rintro pre r post rfl
    rw [hlog]
    rcases hall (record :: pre) r post rfl with hr | ⟨x, hx, hsame⟩
    · exact .inl (.inl hr)
    · rcases List.mem_cons.mp hx with rfl | hx
      · exact .inl (.inr hsame)
      · exact .inr ⟨x, hx, hsame⟩
  · rintro ⟨hhead, hrest⟩ pre r post hsplit
    cases pre with
    | nil =>
        cases hsplit
        exact .inl hhead
    | cons x pre =>
        obtain ⟨rfl, rfl⟩ := List.cons.inj hsplit
        rcases hrest pre r post rfl with hr | ⟨y, hy, hsame⟩
        · rcases (hlog r).mp hr with hr | hsame
          · exact .inl hr
          · exact .inr ⟨_, List.mem_cons_self, hsame⟩
        · exact .inr ⟨y, List.mem_cons_of_mem _ hy, hsame⟩

/-- A batch of one record. -/
theorem syncCheckin_single {record : SyncCheckinRecordDto} {staffId : UserId} {w w' : World}
    {result : SyncCheckinResultDto}
    (h : processSyncRecord record staffId w = (w', .ok result)) :
    ∃ response, syncCheckin ⟨[record]⟩ staffId w = (w', .ok response) ∧
      response.results = [result] := by
  refine ⟨((SyncLoop.start ⟨[record]⟩ staffId).push result).response, ?_, ?_⟩
  · have hstart : (SyncLoop.start ⟨[record]⟩ staffId).staffId = staffId := rfl
    simp only [syncCheckin, syncRecords, hstart, h]
    rfl
  · exact push_results _ _

/-- A batch whose records can all be logged does what its records do one at a
    time. -/
theorem syncRecords_each (records : List SyncCheckinRecordDto) :
    ∀ (loop : SyncLoop) (w : World), AllLoggable w.db records →
      ∃ loop' results, syncRecords loop records w
          = ((syncEach loop.staffId records w).1, .ok loop') ∧
        loop'.results = loop.results ++ results ∧
        List.Forall₂ SyncCheckinResultDto.Answers records results ∧
        (syncEach loop.staffId records w).2.map (Except.map SyncCheckinResponseDto.results)
          = results.map (fun r => .ok [r]) := by
  induction records with
  | nil =>
      intro loop w _
      exact ⟨loop, [], rfl, by simp, .nil, rfl⟩
  | cons record rest ih =>
      intro loop w hall
      have hhead : Loggable w.db record := (hall [] record rest rfl).resolve_right (by simp)
      obtain ⟨w₁, result, hone, hanswers, hproc⟩ := processSyncRecord_ok loop.staffId hhead
      obtain ⟨response, hsingle, hresults⟩ := syncCheckin_single hone
      obtain ⟨loop', results, hrest, happ, hforall, hmap⟩ :=
        ih (loop.push result) w₁ ((allLoggable_cons hproc).mp hall).2
      rw [push_staffId] at hrest hmap
      refine ⟨loop', result :: results, ?_, ?_, .cons hanswers hforall, ?_⟩
      · simp only [syncRecords, syncEach, hone, hsingle, hrest]
      · rw [happ, push_results, List.append_assoc]
        rfl
      · simp only [syncEach, hsingle, List.map_cons, hmap, Except.map, hresults]

/-- A batch with a record that cannot be logged ends there. -/
theorem syncRecords_error (records : List SyncCheckinRecordDto) :
    ∀ (loop : SyncLoop) (w : World), ¬ AllLoggable w.db records →
      (syncRecords loop records w).2 = .error .internal := by
  induction records with
  | nil =>
      intro loop w h
      exact absurd (fun pre record post hsplit => by simp at hsplit) h
  | cons record rest ih =>
      intro loop w h
      by_cases hhead : Loggable w.db record
      · obtain ⟨w₁, result, hone, -, hproc⟩ := processSyncRecord_ok loop.staffId hhead
        simp only [syncRecords, hone]
        exact ih _ _ fun hrest => h ((allLoggable_cons hproc).mpr ⟨hhead, hrest⟩)
      · simp only [syncRecords, processSyncRecord_error loop.staffId hhead]

/-- **A batch is independent exactly when every record can be logged**: when no
    record names a missing ticket under an event that is new at its turn. -/
theorem sync_independent_iff (dto : SyncCheckinDto) (staffId : UserId) (w : World) :
    Independent dto staffId w ↔ AllLoggable w.db dto.records := by
  constructor
  · rintro ⟨response, hok, -⟩
    by_contra hno
    have herr := syncRecords_error dto.records (SyncLoop.start dto staffId) w hno
    simp only [syncCheckin, herr] at hok
    cases hok
  · intro hall
    obtain ⟨loop', results, hrun, happ, hforall, hmap⟩ :=
      syncRecords_each dto.records (SyncLoop.start dto staffId) w hall
    have hresults : loop'.results = results := happ
    refine ⟨loop'.response, ?_, ?_, ?_, ?_⟩
    · simp only [syncCheckin, hrun]
      rfl
    · show List.Forall₂ _ _ loop'.results
      rw [hresults]
      exact hforall
    · show _ = loop'.results.map _
      rw [hresults]
      exact hmap
    · simp only [syncCheckin, hrun]
      rfl

/-! ### A ticket that does not exist -/

/-- An offline scan of a QR code whose ticket the database does not have. -/
def unknownScan : SyncCheckinRecordDto :=
  { offlineScan "e0" (by decide) with ticketId := "t0", ticketId_ne := by decide }

/-- The unknown ticket in front makes the whole batch fail, and the valid record
    behind it is not processed. -/
theorem sync_poisoned :
    ¬ Independent ⟨[unknownScan, offlineScan "e1" e1_ne]⟩ 1 (hall ["t1"]).world := by
  rw [Independent]
  rintro ⟨response, hok, -⟩
  revert hok
  have herr : (syncCheckin ⟨[unknownScan, offlineScan "e1" e1_ne]⟩ 1
      (hall ["t1"]).world).2 = .error .internal := by rfl
  rw [herr]
  intro hok
  cases hok

end TicketCheckin
