import TicketBox.Pwa
import TicketBox.CheckinProofs
import TicketBox.CheckinResults

/-! # What can happen to the app

    The inversion of `CheckinPwa.next` for runs whose IndexedDB transactions
    succeed (`Happened`), and what the device's own two dealings with the
    service, a request that arrives and an answer that is taken, leave of the
    service's invariants. -/

namespace CheckinPwa

open Interleave TicketCheckin

/-- No transaction of the device fails. -/
def Reliable : Move → Prop
  | .scanStep luck => luck.idbFails = false
  | .syncStep luck => luck.idbFails = false
  | _ => True

/-- The scan is over: its ticket is guarded and let in. -/
def Device.letIn (d : Device) (record : OfflineScanRecord) : Device :=
  (markTicketScanned (d.scannedEntry record) d).show (offlineResult d record)
    (some record.offlineEventId)

/-- What a move can do. -/
inductive Happened (s : Pwa) : Pwa → Prop where
  | served (p : State) : checkin.Step Guard.any s.server p → Happened s { s with server := p }
  | switched (b : Bool) : Happened s { s with device := { s.device with isOnline := b } }
  | triggered (b : Bool) :
      Happened s { s with device := { s.device with isOnline := b, sync := .reading } }
  | scanned (parsed : ParsedQrPayload) (uuid : Uuid) :
      Happened s { s with device := { s.device with scan := .sending parsed uuid } }
  | refused (r : ScanResult) : r.status = .invalid →
      Happened s { s with device := s.device.show r none }
  | sent (parsed : ParsedQrPayload) (uuid : Uuid) :
      Happened s
        { server := arrive (.verify (s.device.verifyRequest parsed) s.device.staffId) s.server
          device := { s.device with scan := .verifying parsed uuid s.server.ops.length } }
  | answered (parsed : ParsedQrPayload) (uuid : Uuid) (i : Nat) (answer : Answer) :
      s.device.scan = .verifying parsed uuid i → s.server.ops[i]? = some (.ret answer) →
      Happened s
        { server := ⟨s.server.world, s.server.ops.set i (.ret .received)⟩
          device := s.device.show (onlineResult s.device parsed answer) none }
  | wentOffline (parsed : ParsedQrPayload) (uuid : Uuid) :
      Happened s { s with device := { s.device with scan := .checkingDuplicate parsed uuid } }
  | passed (parsed : ParsedQrPayload) (uuid : Uuid) :
      hasTicketBeenScanned parsed.ticketId s.device = false →
      Happened s { s with device :=
        { s.device with scan := .saving (s.device.offlineRecord parsed uuid) } }
  | saved (record : OfflineScanRecord) : s.device.scan = .saving record →
      Happened s { s with device :=
        { saveCheckinLog record s.device with scan := .marking record } }
  | marked (record : OfflineScanRecord) : s.device.scan = .marking record →
      Happened s { s with device := s.device.letIn record }
  | stopped : Happened s { s with device := { s.device with sync := .idle } }
  | read : Happened s { s with device :=
      { s.device with sync := .posting (getUnsynced s.device) } }
  | posted (unsynced : List OfflineScanRecord) : s.device.sync = .posting unsynced →
      Happened s
        { server := arrive (.sync (syncRequest unsynced) s.device.staffId) s.server
          device := { s.device with sync := .waiting unsynced s.server.ops.length } }
  | failed (i : Nat) (answer : Answer) : s.server.ops[i]? = some (.ret answer) →
      Happened s
        { server := ⟨s.server.world, s.server.ops.set i (.ret .received)⟩
          device := { s.device with sync := .idle } }
  | responded (unsynced : List OfflineScanRecord) (i : Nat) (dto : SyncCheckinDto)
      (response : SyncCheckinResponseDto) :
      s.device.sync = .waiting unsynced i →
      s.server.ops[i]? = some (.ret (.synced dto response)) →
      Happened s
        { server := ⟨s.server.world, s.server.ops.set i (.ret .received)⟩
          device := { s.device with sync := .marking unsynced response } }
  | markedSynced (unsynced : List OfflineScanRecord) (response : SyncCheckinResponseDto) :
      s.device.sync = .marking unsynced response →
      Happened s { s with device :=
        { markSynced (syncedIds response) s.device with
          sync := .clearing unsynced (conflictResults response) } }
  | skipped (unsynced : List OfflineScanRecord) (rest : List SyncCheckinResultDto) :
      Happened s { s with device := { s.device with sync := .clearing unsynced rest } }
  | cleared (t : TicketId) (unsynced : List OfflineScanRecord)
      (rest : List SyncCheckinResultDto) :
      Happened s { s with device :=
        { clearScannedTicket t s.device with sync := .clearing unsynced rest } }
  | reloaded (b : Bool) :
      Happened s { s with device :=
        { s.device with isOnline := b, scan := .idle, sync := .idle } }

/-- Going online triggers a delivery, or switches only. -/
theorem triggered_or_switched (d : Device) (b : Bool) :
    triggerSync { d with isOnline := b } = { d with isOnline := b } ∨
      triggerSync { d with isOnline := b } = { d with isOnline := b, sync := .reading } := by
  simp only [triggerSync]
  split
  · exact .inr rfl
  · exact .inl rfl

/-- The device takes an answer that is there. -/
theorem take_some {i : Nat} {p p' : State} {answer : Answer} (h : take i p = some (answer, p')) :
    p.ops[i]? = some (.ret answer) ∧ p' = ⟨p.world, p.ops.set i (.ret .received)⟩ := by
  simp only [take] at h
  split at h
  · next heq =>
    cases h
    exact ⟨heq, rfl⟩
  · cases h

/-- Every step of a scan is one of the cases. -/
theorem happened_of_scanNext {luck : Luck} (hluck : luck.idbFails = false) {s s' : Pwa}
    (h : scanNext luck s = some s') : Happened s s' := by
  simp only [scanNext] at h
  split at h
  · cases h
  · next parsed uuid hphase =>
    split at h
    · cases h
      exact .wentOffline parsed uuid
    · split at h
      · cases h
        exact .refused _ rfl
      · cases h
        exact .sent parsed uuid
  · next parsed uuid i hphase =>
    split at h
    · cases h
      exact .wentOffline parsed uuid
    · obtain ⟨⟨answer, p'⟩, ht, rfl⟩ := Option.map_eq_some_iff.mp h
      obtain ⟨hi, rfl⟩ := take_some ht
      exact .answered parsed uuid i answer hphase hi
  · next parsed uuid hphase =>
    rw [hluck, Bool.not_false, Bool.true_and] at h
    split at h
    · cases h
      exact .refused _ rfl
    · next hno =>
      cases h
      exact .passed parsed uuid (by simpa using hno)
  · next record hphase =>
    rw [hluck] at h
    cases h
    exact .saved record hphase
  · next record hphase =>
    rw [hluck] at h
    cases h
    exact .marked record hphase

/-- So is every step of a delivery. -/
theorem happened_of_syncNext {luck : Luck} (hluck : luck.idbFails = false) {s s' : Pwa}
    (h : syncNext luck s = some s') : Happened s s' := by
  simp only [syncNext] at h
  split at h
  · cases h
  · split at h
    · cases h
      exact .stopped
    · cases h
      exact .read
  · next unsynced hphase =>
    split at h
    · cases h
      exact .stopped
    · cases h
      exact .posted unsynced hphase
  · next unsynced i hphase =>
    split at h
    · cases h
      exact .stopped
    · obtain ⟨⟨answer, p'⟩, ht, rfl⟩ := Option.map_eq_some_iff.mp h
      obtain ⟨hi, rfl⟩ := take_some ht
      cases answer with
      | synced dto response => exact .responded unsynced i dto response hphase hi
      | verified response => exact .failed i _ hi
      | refused e => exact .failed i _ hi
      | received => exact .failed i _ hi
  · next unsynced response hphase =>
    rw [hluck, Bool.false_and] at h
    cases h
    exact .markedSynced unsynced response hphase
  · cases h
    exact .stopped
  · next unsynced conflict rest hphase =>
    rw [hluck] at h
    split at h
    · cases h
      exact .cleared _ unsynced rest
    · cases h
      exact .skipped unsynced rest

/-- So is every step. -/
theorem happened_of_next {s s' : Pwa} {m : Move} (hm : Reliable m) (h : next s m = some s') :
    Happened s s' := by
  cases m with
  | server a =>
      obtain ⟨p, hp, rfl⟩ := Option.map_eq_some_iff.mp h
      refine .served p (step_of_next ?_ hp)
      cases a with
      | start r => trivial
      | env e => trivial
      | step i k ch =>
          simp only [Guard.ok]
          split
          · trivial
          · split <;> trivial
          · trivial
  | goOnline =>
      cases h
      rcases triggered_or_switched s.device true with heq | heq
      · rw [heq]
        exact .switched true
      · rw [heq]
        exact .triggered true
  | goOffline =>
      cases h
      exact .switched false
  | scan raw uuid =>
      simp only [next] at h
      split at h
      · cases h
        simp only [handleScan]
        split
        · exact .refused _ rfl
        · next parsed _ =>
          split
          · exact .scanned parsed uuid
          · exact .wentOffline parsed uuid
      · cases h
  | scanStep luck => exact happened_of_scanNext hm h
  | triggerSync =>
      cases h
      rcases triggered_or_switched s.device s.device.isOnline with heq | heq
      · have hsame : triggerSync s.device = s.device := heq
        rw [hsame]
        exact .switched s.device.isOnline
      · have hread : triggerSync s.device = { s.device with sync := .reading } := heq
        rw [hread]
        exact .triggered s.device.isOnline
  | syncStep luck => exact happened_of_syncNext hm h
  | reload isOnline =>
      cases h
      exact .reloaded isOnline

/-! ## Dealings with the service -/

/-- A request that arrives is a step of the service. -/
theorem arrive_step (r : Request) (p : State) : checkin.Step Guard.any p (arrive r p) :=
  .started r r.enter trivial rfl

/-- The new request is the last operation of the pool. -/
theorem arrive_at (r : Request) (p : State) : (arrive r p).ops[p.ops.length]? = some r.enter := by
  simp [arrive]

/-- What is logged stays so. -/
theorem logged_step {dev : DeviceId} {e : EventId} {G : Condition} {p q : State}
    (hs : checkin.Step G p q) (h : Logged dev e p.world.db) : Logged dev e q.world.db := by
  refine hs.world (I := fun w => Logged dev e w.db) h ?_ (fun _ t => nomatch t) ?_
  · intro ch d w' prog _ _ hdec
    have hlogged : ∀ params, Logged dev e (p.world.logged params).db :=
      fun params => logged_append.mpr (.inl h)
    cases carried_of_decide hdec with
    | verifyLogged params answer _ => exact hlogged params
    | syncLogged loop params result _ _ => exact hlogged params
    | _ => exact h
  · intro ev _
    show Logged dev e (ev.happen p.world).db
    rwa [Logged, happen_logs]

/-- Taking an answer leaves an assertion about any operation alone. -/
theorem taken_at {J : Ask → Prop} {K : Answer → Prop} (hK : K .received) {p : State} {i j : Nat}
    (h : ∃ prog, p.ops[j]? = some prog ∧ prog.Meets J K) :
    ∃ prog, (p.ops.set i (.ret .received))[j]? = some prog ∧ prog.Meets J K := by
  obtain ⟨prog, hj, hm⟩ := h
  by_cases hij : i = j
  · subst hij
    obtain ⟨hlt, -⟩ := List.getElem?_eq_some_iff.mp hj
    exact ⟨_, List.getElem?_set_self hlt, hK⟩
  · exact ⟨prog, by rw [List.getElem?_set_ne hij]; exact hj, hm⟩

/-! ## A device at the door -/

instance : DecidablePred Reliable
  | .server _ => inferInstanceAs (Decidable True)
  | .goOnline => inferInstanceAs (Decidable True)
  | .goOffline => inferInstanceAs (Decidable True)
  | .scan _ _ => inferInstanceAs (Decidable True)
  | .scanStep luck => inferInstanceAs (Decidable (luck.idbFails = false))
  | .triggerSync => inferInstanceAs (Decidable True)
  | .syncStep luck => inferInstanceAs (Decidable (luck.idbFails = false))
  | .reload _ => inferInstanceAs (Decidable True)

/-- A device that has scanned nothing yet, at the hall with ticket `t1`. -/
def doorDevice (isOnline : Bool) : Pwa where
  server := hall ["t1"]
  device :=
    { deviceId := "d1"
      deviceId_ne := (offlineScan "e1" e1_ne).deviceId_ne
      staffId := 2
      gate := "GATE-A"
      isOnline := isOnline
      checkinLogs := []
      scannedTickets := []
      scan := .idle
      sync := .idle
      shown := []
      cleared := [] }

/-- The device at the door is a start. -/
theorem doorDevice_start (isOnline : Bool) : Start (doorDevice isOnline) where
  opening := hall_opening (by decide)
  scan_idle := rfl
  sync_idle := rfl
  shown_nil := rfl
  cleared_nil := rfl
  own_logs r hr := by cases hr

end CheckinPwa
