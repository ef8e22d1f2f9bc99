import TicketBox.CheckinSteps

/-! # What the results of a batch say

    A batch collects one result for each record, in order, so that its results
    and its records zip.  Whatever a result says of its record when it is
    collected (`Carried.told`) and whatever stays true of it afterwards is true of
    every result in flight and of every answered one (`told_step`).  The file is
    generic in what is said (`P`) and in what is known of the batch itself (`N`). -/

namespace TicketCheckin

open Interleave TicketStore

variable {N : SyncCheckinDto → Prop}
  {P P' : SyncCheckinRecordDto → SyncCheckinResultDto → Prop}

/-- Every result so far says `P` of its record. -/
structure Told (P : SyncCheckinRecordDto → SyncCheckinResultDto → Prop) (dto : SyncCheckinDto)
    (results : List SyncCheckinResultDto) : Prop where
  length : results.length ≤ dto.records.length
  each : ∀ x ∈ dto.records.zip results, P x.1 x.2

/-- What the loop of `syncCheckin` has told so far, beside its current record. -/
structure LoopTold (N : SyncCheckinDto → Prop)
    (P : SyncCheckinRecordDto → SyncCheckinResultDto → Prop) (loop : SyncLoop)
    (record : SyncCheckinRecordDto) : Prop where
  names : N loop.dto
  current : loop.current = some record
  told : Told P loop.dto loop.results

/-- A batch's answer names the batch and tells of its records. -/
def AnswerTold (N : SyncCheckinDto → Prop)
    (P : SyncCheckinRecordDto → SyncCheckinResultDto → Prop) : Answer → Prop
  | .synced dto response => N dto ∧ Told P dto response.results
  | _ => True

/-- The same of a request in flight; an online one logs no offline event. -/
def AskTold (N : SyncCheckinDto → Prop)
    (P : SyncCheckinRecordDto → SyncCheckinResultDto → Prop) : Ask → Prop
  | .syncFindLog loop record => LoopTold N P loop record
  | .syncFindTicket loop record => LoopTold N P loop record
  | .syncUpdate loop record _ => LoopTold N P loop record
  | .syncLog loop params result =>
      ∃ record, LoopTold N P loop record ∧ LogOf record params result
  | .verifyLog params answer => params.offlineEventId = none ∧ AnswerTold N P answer
  | _ => True

/-! ## What stays true -/

/-- What has been told of a batch stays true. -/
theorem Told.mono {dto : SyncCheckinDto} {results : List SyncCheckinResultDto}
    (h : Told P dto results) (hP : ∀ record result, P record result → P' record result) :
    Told P' dto results :=
  ⟨h.length, fun x hx => hP _ _ (h.each x hx)⟩

/-- So does what the loop has told. -/
theorem LoopTold.mono {loop : SyncLoop} {record : SyncCheckinRecordDto}
    (h : LoopTold N P loop record) (hP : ∀ record result, P record result → P' record result) :
    LoopTold N P' loop record :=
  ⟨h.names, h.current, h.told.mono hP⟩

/-- So does what an answer tells. -/
theorem AnswerTold.mono {r : Answer} (h : AnswerTold N P r)
    (hP : ∀ record result, P record result → P' record result) : AnswerTold N P' r := by
  cases r with
  | synced dto response => exact ⟨h.1, h.2.mono hP⟩
  | verified response => trivial
  | refused err => trivial
  | received => trivial

/-- So does what a call carries. -/
theorem AskTold.mono {d : Ask} (h : AskTold N P d)
    (hP : ∀ record result, P record result → P' record result) : AskTold N P' d := by
  cases d with
  | syncFindLog loop record => exact LoopTold.mono h hP
  | syncFindTicket loop record => exact LoopTold.mono h hP
  | syncUpdate loop record ticket => exact LoopTold.mono h hP
  | syncLog loop params result =>
      obtain ⟨record, hl, hlog⟩ := h
      exact ⟨record, hl.mono hP, hlog⟩
  | verifyLog params answer => exact ⟨h.1, h.2.mono hP⟩
  | verifyFind dto staffId => trivial
  | verifyUpdate dto staffId ticket => trivial
  | verifyCurrent dto staffId => trivial

/-- The record the loop stands at is one of the batch. -/
theorem LoopTold.mem {loop : SyncLoop} {record : SyncCheckinRecordDto}
    (h : LoopTold N P loop record) : record ∈ loop.dto.records :=
  List.mem_of_getElem? h.current

/-- Every result answers some record of its batch. -/
theorem Told.of_mem {dto : SyncCheckinDto} {results : List SyncCheckinResultDto}
    (h : Told P dto results) {r : SyncCheckinResultDto} (hr : r ∈ results) :
    ∃ record ∈ dto.records, P record r := by
  obtain ⟨i, hi, rfl⟩ := List.getElem_of_mem hr
  have hlt : i < dto.records.length := lt_of_lt_of_le hi h.length
  have hzip : (dto.records[i], results[i]) ∈ dto.records.zip results := by
    refine List.mem_of_getElem? (i := i) ?_
    rw [List.getElem?_zip_eq_some]
    exact ⟨List.getElem?_eq_getElem hlt, List.getElem?_eq_getElem hi⟩
  exact ⟨_, List.getElem_mem hlt, h.each _ hzip⟩

/-! ## What is collected -/

theorem zip_concat {α β : Type} {l : List α} {m : List β} {a : α} (h : l[m.length]? = some a)
    (b : β) : l.zip (m ++ [b]) = l.zip m ++ [(a, b)] := by
  induction m generalizing l with
  | nil =>
      cases l with
      | nil => cases h
      | cons x xs =>
          cases h
          simp
  | cons y ys ih =>
      cases l with
      | nil => cases h
      | cons x xs =>
          have hxs : xs[ys.length]? = some a := by simpa using h
          simp [ih hxs]

/-- One more result. -/
theorem Told.push {loop : SyncLoop} {record : SyncCheckinRecordDto}
    {result : SyncCheckinResultDto} (h : Told P loop.dto loop.results)
    (hcur : loop.current = some record) (hnew : P record result) :
    Told P (loop.push result).dto (loop.push result).results := by
  rw [push_dto, push_results]
  refine ⟨?_, fun x hx => ?_⟩
  · obtain ⟨hlt, -⟩ := List.getElem?_eq_some_iff.mp hcur
    rw [List.length_append, List.length_singleton]
    exact hlt
  · rw [zip_concat hcur] at hx
    rcases List.mem_append.mp hx with hx | hx
    · exact h.each x hx
    · cases List.mem_singleton.mp hx
      exact hnew

/-- The loop goes on with what it has told. -/
theorem next_told {loop : SyncLoop} (hnames : N loop.dto)
    (htold : Told P loop.dto loop.results) :
    loop.next.Meets (AskTold N P) (AnswerTold N P) := by
  simp only [SyncLoop.next]
  split
  · exact ⟨hnames, htold⟩
  · next record hcur => exact ⟨hnames, hcur, htold⟩

/-- It begins with nothing told. -/
theorem start_told {dto : SyncCheckinDto} (hnames : N dto) (staffId : UserId) :
    (SyncLoop.start dto staffId).next.Meets (AskTold N P) (AnswerTold N P) := by
  refine next_told hnames ⟨Nat.zero_le _, ?_⟩
  intro x hx
  simp [SyncLoop.start] at hx

/-- A statement of a batch keeps what its results say, if a replay and a new log
    row say it. -/
theorem Carried.told {ch : Choice} {w w' : World} {d : Ask} {prog : Op}
    (h : Carried ch w d w' prog) (hd : AskTold N P d)
    (hP : ∀ record result, P record result → P' record result)
    (hreplay : ∀ record l, findLog record.deviceId record.offlineEventId w.db = some l →
      P record (replayResult record l))
    (hlog : ∀ loop params result record, d = .syncLog loop params result →
      w' = w.logged params → ch.fails = false → Admissible (params.row w.now) w.db →
      LogOf record params result → P' record result) :
    prog.Meets (AskTold N P') (AnswerTold N P') := by
  cases h with
  | failed d _ => trivial
  | verifyRejected dto staffId params err hc =>
      obtain ⟨status, reason, rfl, -⟩ := verifyChecks_error hc
      exact ⟨rfl, trivial⟩
  | verifyPassed dto staffId ticket _ => trivial
  | verifyLost dto staffId ticket _ => trivial
  | verifyWon dto staffId ticket _ => exact ⟨rfl, trivial⟩
  | verifyCurrent dto staffId current _ => exact ⟨rfl, trivial⟩
  | verifyLogRefused params answer _ => trivial
  | verifyLogged params answer _ => exact AnswerTold.mono hd.2 hP
  | replayed loop record existingLog hfound =>
      have hl : LoopTold N P loop record := hd
      refine next_told (by rw [push_dto]; exact hl.names) ?_
      exact (hl.told.push hl.current (hreplay record existingLog hfound)).mono hP
  | notSeen loop record _ => exact LoopTold.mono hd hP
  | syncRejected loop record params result hc =>
      exact ⟨record, LoopTold.mono hd hP, (syncChecks_error hc).logOf⟩
  | syncPassed loop record ticket _ => exact LoopTold.mono hd hP
  | syncLost loop record ticket _ =>
      exact ⟨record, LoopTold.mono hd hP, syncConflict_logOf record _⟩
  | syncWon loop record ticket _ _ =>
      exact ⟨record, LoopTold.mono hd hP, syncSuccess_logOf record _ ticket⟩
  | syncLogRefused loop params result _ => trivial
  | syncLogged loop params result hf hadm =>
      obtain ⟨record, hl, hof⟩ := hd
      refine next_told (by rw [push_dto]; exact hl.names) ?_
      exact (hl.told.mono hP).push hl.current (hlog loop params result record rfl rfl hf hadm hof)

/-- **The rule for what results say.** -/
theorem told_step {P : World → SyncCheckinRecordDto → SyncCheckinResultDto → Prop}
    {G : Condition} {p q : State} (hs : checkin.Step G p q)
    (hp : ∀ prog ∈ p.ops, prog.Meets (AskTold N (P p.world)) (AnswerTold N (P p.world)))
    (hreq : ∀ dto staffId, G.req p (.sync dto staffId) → N dto)
    (hkeep : ∀ ch d w' prog, .ask d ∈ p.ops → G.ask p ch d → Carried ch p.world d w' prog →
      ∀ record result, P p.world record result → P w' record result)
    (hreplay : ∀ record l, findLog record.deviceId record.offlineEventId p.world.db = some l →
      P p.world record (replayResult record l))
    (hlog : ∀ ch loop params result record, .ask (.syncLog loop params result) ∈ p.ops →
      G.ask p ch (.syncLog loop params result) → ch.fails = false →
      Admissible (params.row p.world.now) p.world.db → LogOf record params result →
      P (p.world.logged params) record result)
    (henv : ∀ ev, G.env p ev → ∀ record result, P p.world record result →
      P (ev.happen p.world) record result) :
    ∀ prog ∈ q.ops, prog.Meets (AskTold N (P q.world)) (AnswerTold N (P q.world)) := by
  refine hs.meets (J := fun w => AskTold N (P w)) (K := fun w => AnswerTold N (P w)) hp ?_ ?_ ?_
  · intro r prog hg he
    cases he
    cases r with
    | verify dto staffId => trivial
    | sync dto staffId => exact start_told (hreq dto staffId hg) staffId
  · intro ch d w' prog hmem hd hg hdec
    have hc := carried_of_decide hdec
    have hP := hkeep ch d w' prog hmem hg hc
    refine ⟨hc.told hd hP hreplay ?_, fun _ h => h.mono hP, fun _ h => h.mono hP⟩
    rintro loop params result record rfl rfl hf hadm hof
    exact hlog ch loop params result record hmem hg hf hadm hof
  · intro ev hg
    exact ⟨fun _ h => h.mono (henv ev hg), fun _ h => h.mono (henv ev hg)⟩

end TicketCheckin
