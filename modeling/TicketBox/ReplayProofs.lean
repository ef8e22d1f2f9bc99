import TicketBox.CheckinResults
import TicketBox.AgreeProofs

/-! # What a replayed event is told

    An event that has its log row is answered from that row alone.  The row keeps
    the status and the conflict flag of the first answer, and neither the rows nor
    the lookup change any more (`Recorded`), so a replay repeats both whatever
    happened in between.  The success flag is not in the row: a replay always
    says `true`, a rejected scan's too. -/

namespace TicketCheckin

open Interleave TicketStore

/-! ## The row an answer stands for -/

/-- The event's row says the result's status and conflict flag. -/
def Recorded (w : World) (record : SyncCheckinRecordDto) (result : SyncCheckinResultDto) : Prop :=
  ∃ l, findLog record.deviceId record.offlineEventId w.db = some l ∧
    l.status = result.status ∧ l.conflict = result.conflict

/-- A row found stays the row found when others are added. -/
theorem findLog_logged {dev : DeviceId} {e : EventId} {w : World} {l : CheckinLog}
    (params : LogParams) (h : findLog dev e w.db = some l) :
    findLog dev e (w.logged params).db = some l := by
  rw [findLog] at h
  simp only [findLog, logged_logs, List.find?_append, h, Option.some_or]

/-- The row of a new event is the one it finds from now on. -/
theorem findLog_new {dev : DeviceId} {e : EventId} {w : World} {params : LogParams}
    (hnew : ¬ Logged dev e w.db) (hof : params.OfEvent dev e) :
    findLog dev e (w.logged params).db = some (params.row w.now) := by
  have hnone := findLog_none.mpr hnew
  have hrow : (params.row w.now).OfEvent dev e := hof
  rw [findLog] at hnone
  simp only [findLog, logged_logs, List.find?_append, hnone, Option.none_or]
  simp [hrow]

theorem Recorded.logged {w : World} {record : SyncCheckinRecordDto}
    {result : SyncCheckinResultDto} (h : Recorded w record result) (params : LogParams) :
    Recorded (w.logged params) record result := by
  obtain ⟨l, hfound, hl⟩ := h
  exact ⟨l, findLog_logged params hfound, hl⟩

theorem Recorded.carried {ch : Choice} {w w' : World} {d : Ask} {prog : Op}
    {record : SyncCheckinRecordDto} {result : SyncCheckinResultDto}
    (h : Recorded w record result) (hc : Carried ch w d w' prog) : Recorded w' record result := by
  cases hc with
  | verifyLogged params answer _ => exact h.logged params
  | syncLogged loop params _ _ _ => exact h.logged params
  | verifyWon dto staffId ticket _ => exact h
  | syncWon loop record ticket _ _ => exact h
  | _ => exact h

theorem Recorded.happened {w : World} {record : SyncCheckinRecordDto}
    {result : SyncCheckinResultDto} (h : Recorded w record result) (ev : Event) :
    Recorded (ev.happen w) record result := by
  rw [Recorded, findLog, happen_logs]
  exact h

/-! ## The invariant -/

/-- A log row about to be written says what its result says. -/
def Ask.SaysStatus : Ask → Prop
  | .syncLog _ params result => params.status = result.status
  | _ => True

theorem next_saysStatus (loop : SyncLoop) : loop.next.Meets Ask.SaysStatus fun _ => True := by
  simp only [SyncLoop.next]
  cases loop.current with
  | none => trivial
  | some record => trivial

theorem Carried.saysStatus {ch : Choice} {w w' : World} {d : Ask} {prog : Op}
    (h : Carried ch w d w' prog) : prog.Meets Ask.SaysStatus fun _ => True := by
  cases h with
  | replayed loop record existingLog _ => exact next_saysStatus _
  | syncLogged loop params result _ _ => exact next_saysStatus _
  | syncRejected loop record params result hc =>
      obtain ⟨⟨reason, rfl⟩, -, -⟩ := syncChecks_error hc
      exact rfl
  | syncLost loop record ticket _ => exact rfl
  | syncWon loop record ticket _ _ => exact rfl
  | _ => trivial

/-- Every answered result, and every one still being collected, is recorded. -/
structure Recording (p : State) : Prop where
  statuses : ∀ prog ∈ p.ops, prog.Meets Ask.SaysStatus fun _ => True
  told : ∀ prog ∈ p.ops, prog.Meets (AskTold (fun _ => True) (Recorded p.world))
    (AnswerTold (fun _ => True) (Recorded p.world))

theorem Recording.step {p q : State} (hp : Recording p) (hs : checkin.Step Guard.any p q) :
    Recording q where
  statuses := by
    refine hs.meets (J := fun _ => Ask.SaysStatus) (K := fun _ _ => True) hp.statuses ?_ ?_ ?_
    · intro r prog _ he
      cases he
      cases r with
      | verify dto staffId => trivial
      | sync dto staffId => exact next_saysStatus _
    · intro ch d w' prog _ _ _ hdec
      exact ⟨(carried_of_decide hdec).saysStatus, fun _ h => h, fun _ h => h⟩
    · intro ev _
      exact ⟨fun _ h => h, fun _ h => h⟩
  told := by
    refine told_step hs hp.told (fun _ _ _ => trivial) ?_ ?_ ?_ ?_
    · intro ch d w' prog _ _ hc record result h
      exact h.carried hc
    · -- a replay is told what the row says
      intro record l hfound
      exact ⟨l, hfound, rfl, rfl⟩
    · intro ch loop params result record hmem _ _ hadm hlog
      have hstatus : params.status = result.status := hp.statuses _ hmem
      have hnew := ((hlog.admissible p.world.now p.world.db).mp hadm).2
      refine ⟨_, findLog_new hnew ⟨hlog.deviceId, hlog.offlineEventId⟩, hstatus, ?_⟩
      exact hlog.conflict.symm
    · intro ev _ record result h
      exact h.happened ev

theorem recording_nil {p : State} (h : p.ops = []) : Recording p where
  statuses prog hmem := by
    rw [h] at hmem
    cases hmem
  told prog hmem := by
    rw [h] at hmem
    cases hmem

/-! ## The replay -/

/-- A record whose event is recorded is answered from its row, and nothing
    happens to the tables. -/
theorem Recorded.replayed {w : World} {record : SyncCheckinRecordDto}
    {result : SyncCheckinResultDto} (h : Recorded w record result) (staffId : UserId) :
    processSyncRecord record staffId w
      = (w, .ok (syncResult record true result.status result.conflict alreadySynced)) := by
  obtain ⟨l, hfound, hstatus, hconflict⟩ := h
  simp only [processSyncRecord, hfound, replayResult, hstatus, hconflict]

/-- The two results go to the same counter of any batch. -/
def SameCounts (a b : SyncCheckinResultDto) : Prop :=
  ∀ loop : SyncLoop, (loop.push a).success = (loop.push b).success ∧
    (loop.push a).failed = (loop.push b).failed ∧
    (loop.push a).conflicts = (loop.push b).conflicts

/-- A replay counts as its first result did, unless that was a failure. -/
theorem sameCounts_replay {replay result : SyncCheckinResultDto} (hs : replay.success = true)
    (hc : replay.conflict = result.conflict) :
    SameCounts replay result ↔ result.success = true ∨ result.conflict = true := by
  cases hconflict : result.conflict with
  | true =>
      -- a conflict is counted as one, with either success flag
      refine iff_of_true (fun loop => ?_) (.inr rfl)
      simp [SyncLoop.push, hs, hc, hconflict]
  | false =>
      cases hsuccess : result.success with
      | true =>
          refine iff_of_true (fun loop => ?_) (.inl rfl)
          simp [SyncLoop.push, hs, hc, hconflict, hsuccess]
      | false =>
          refine iff_of_false (fun h => ?_) (by simp)
          have hcount := (h (SyncLoop.start ⟨[]⟩ 0)).1
          simp [SyncLoop.push, SyncLoop.start, hs, hc, hconflict, hsuccess] at hcount

/-- The record's event is answered once more, as it was the first time. -/
def Repeats (record : SyncCheckinRecordDto) (first : SyncCheckinResultDto) (staffId : UserId)
    (w : World) : Prop :=
  ∃ replay, processSyncRecord record staffId w = (w, .ok replay) ∧
    replay.success = first.success ∧ replay.status = first.status ∧
    replay.conflict = first.conflict ∧ SameCounts replay first

/-- A scan at the wrong gate is rejected when it is synced, and accepted when it is
    synced again. -/
theorem rejected_replayed_success :
    ∃ w first, processSyncRecord atOtherGateOffline 8 gateNight = (w, .ok first) ∧
      first.success = false ∧ first.status = .gateMismatch ∧
      ¬ Repeats atOtherGateOffline first 8 w := by
  refine ⟨_, _, rfl, rfl, rfl, ?_⟩
  rintro ⟨replay, hreplay, hsuccess, -⟩
  have htrue : replay.success = true := by
    cases hreplay
    rfl
  rw [htrue] at hsuccess
  cases hsuccess

/-- **What a replay is told**: whenever a batch was answered, in any run from any
    database, its record synced again is a success with the status and the
    conflict flag of its first result; it counts as that did unless that was a
    failure, and changes nothing. -/
theorem sync_replayed {p q : State} (hp : p.ops = []) (hrun : checkin.Run Guard.any p q)
    {dto : SyncCheckinDto} {response : SyncCheckinResponseDto}
    (hanswer : .ret (.synced dto response) ∈ q.ops) {k : Nat} {record : SyncCheckinRecordDto}
    {result : SyncCheckinResultDto} (hrecord : dto.records[k]? = some record)
    (hresult : response.results[k]? = some result) (staffId : UserId) :
    ∃ replay, processSyncRecord record staffId q.world = (q.world, .ok replay) ∧
      replay.success = true ∧ replay.status = result.status ∧
      replay.conflict = result.conflict ∧
      (SameCounts replay result ↔ result.success = true ∨ result.conflict = true) := by
  have hq : Recording q := hrun.inv (fun _ _ => Recording.step) (recording_nil hp)
  have htold : AnswerTold (fun _ => True) (Recorded q.world) (.synced dto response) :=
    hq.told _ hanswer
  have hzip : (record, result) ∈ dto.records.zip response.results := by
    refine List.mem_of_getElem? (i := k) ?_
    rw [List.getElem?_zip_eq_some]
    exact ⟨hrecord, hresult⟩
  have hrecorded : Recorded q.world record result := htold.2.each _ hzip
  exact ⟨_, hrecorded.replayed staffId, rfl, rfl, rfl, sameCounts_replay rfl rfl⟩

/-- A batch with the scan at the wrong gate. -/
def gateBatch : List (Action Choice Request Event) :=
  [.start (.sync ⟨[atOtherGateOffline]⟩ 8), .step 0 0 {}, .step 0 0 {}, .step 0 0 {}]

/-- What the scan at the wrong gate is told when it is synced. -/
def gateResult : SyncCheckinResultDto :=
  syncResult atOtherGateOffline false .gateMismatch false
    "Vé này thuộc cổng A, bạn đang ở cổng khác"

theorem sync_replayed_rejected :
    ∃ q, checkin.Run Guard.any ⟨gateNight, []⟩ q ∧ gateResult.success = false ∧
      ∃ replay, processSyncRecord atOtherGateOffline 9 q.world = (q.world, .ok replay) ∧
        replay.success = true ∧ replay.status = gateResult.status ∧
        replay.conflict = gateResult.conflict ∧
        (SameCounts replay gateResult ↔
          gateResult.success = true ∨ gateResult.conflict = true) := by
  have hexec : checkin.exec Guard.any ⟨gateNight, []⟩ gateBatch
      = some ⟨(processSyncRecord atOtherGateOffline 8 gateNight).1,
        [.ret (.synced ⟨[atOtherGateOffline]⟩ ⟨1, 0, 1, 0, [gateResult]⟩)]⟩ := rfl
  exact ⟨_, run_of_exec hexec, rfl,
    sync_replayed (k := 0) rfl (run_of_exec hexec) List.mem_cons_self rfl rfl 9⟩

end TicketCheckin
