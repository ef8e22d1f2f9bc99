import TicketBox.PwaSteps

/-! # How often a device lets a ticket in

    An online verdict is one of the service's own admissions, and those are
    counted (`unfounded`).  An offline verdict passes the duplicate guard, which
    the scan then closes behind itself; only the clearing after a conflict opens
    it again.  The two are not checked against each other: a ticket let in
    online may be let in once more offline. -/

namespace CheckinPwa

open Interleave TicketCheckin

/-! ## What is counted -/

/-- The screen lets the ticket in. -/
def ScanResult.Valid (t : TicketId) (r : ScanResult) : Prop := r.id = t ∧ r.status = .valid

/-- The result tells whether it admits the ticket. -/
instance (t : TicketId) (r : ScanResult) : Decidable (r.Valid t) :=
  inferInstanceAs (Decidable (_ ∧ _))

/-- It does so on the word of the service, or offline. -/
def ScanResult.ValidIn (offline : Bool) (t : TicketId) (r : ScanResult) : Prop :=
  r.Valid t ∧ r.isOffline = some offline

/-- It also tells in which mode. -/
instance (offline : Bool) (t : TicketId) (r : ScanResult) : Decidable (r.ValidIn offline t) :=
  inferInstanceAs (Decidable (_ ∧ _))

/-- How often the device has shown the ticket as valid. -/
def valids (t : TicketId) (d : Device) : Nat := d.shown.countP fun x => x.1.Valid t

/-- How often it has done so in one mode. -/
def validsIn (offline : Bool) (t : TicketId) (d : Device) : Nat :=
  d.shown.countP fun x => x.1.ValidIn offline t

@[simp] theorem validsIn_show (offline : Bool) (t : TicketId) (d : Device) (r : ScanResult)
    (event : Option EventId) :
    validsIn offline t (d.show r event)
      = validsIn offline t d + if r.ValidIn offline t then 1 else 0 := by
  simp [validsIn, Device.show, List.countP_append, List.countP_singleton]

@[simp] theorem valids_show (t : TicketId) (d : Device) (r : ScanResult)
    (event : Option EventId) :
    valids t (d.show r event) = valids t d + if r.Valid t then 1 else 0 := by
  simp [valids, Device.show, List.countP_append, List.countP_singleton]

/-- An invalid scan is not valid in either mode. -/
theorem not_validIn_of_invalid {offline : Bool} {t : TicketId} {r : ScanResult}
    (h : r.status = .invalid) : ¬ r.ValidIn offline t := by
  rintro ⟨⟨-, hv⟩, -⟩
  rw [h] at hv
  cases hv

/-- The result of an online scan says that it was online. -/
theorem onlineResult_offline (d : Device) (parsed : ParsedQrPayload) (answer : Answer) :
    (onlineResult d parsed answer).isOffline = some false := by
  cases answer <;> rfl

/-- It names the ticket that was scanned. -/
theorem onlineResult_id (d : Device) (parsed : ParsedQrPayload) (answer : Answer) :
    (onlineResult d parsed answer).id = parsed.ticketId := by
  cases answer <;> rfl

/-! ## The ticket a verification is about -/

/-- The answer, if it verifies a ticket at all, verifies this one. -/
def AnswerAbout (t : TicketId) : Answer → Prop
  | .verified response => response.ticketId = t
  | _ => True

/-- The call belongs to the verification of this ticket. -/
def AskAbout (t : TicketId) : Ask → Prop
  | .verifyFind dto _ => dto.ticketId = t
  | .verifyUpdate dto _ ticket => dto.ticketId = t ∧ ticket.id = t
  | .verifyCurrent dto _ => dto.ticketId = t
  | .verifyLog _ answer => AnswerAbout t answer
  | _ => False

/-- A call about a ticket goes on about it. -/
theorem Carried.about {ch : Choice} {w w' : World} {d : Ask} {prog : Op} {t : TicketId}
    (h : Carried ch w d w' prog) (hd : AskAbout t d) : prog.Meets (AskAbout t) (AnswerAbout t) := by
  cases h with
  | failed d _ => trivial
  | verifyRejected dto staffId params e _ => trivial
  | verifyPassed dto staffId ticket hc => exact ⟨hd, (findTicket_id (verifyChecks_ok hc)).trans hd⟩
  | verifyLost dto staffId ticket _ => exact hd.1
  | verifyWon dto staffId ticket _ => exact hd.2
  | verifyCurrent dto staffId current _ => trivial
  | verifyLogRefused params answer _ => trivial
  | verifyLogged params answer _ => exact hd
  | replayed loop record existingLog _ => exact hd.elim
  | notSeen loop record _ => exact hd.elim
  | syncRejected loop record params result _ => exact hd.elim
  | syncPassed loop record ticket _ => exact hd.elim
  | syncLost loop record ticket _ => exact hd.elim
  | syncWon loop record ticket _ _ => exact hd.elim
  | syncLogRefused loop params result _ => exact hd.elim
  | syncLogged loop params result _ _ => exact hd.elim

/-- Operation `i` of the service verifies this ticket. -/
def VerifiedBy (t : TicketId) (i : Nat) (p : State) : Prop :=
  ∃ prog, p.ops[i]? = some prog ∧ prog.Meets (AskAbout t) (AnswerAbout t)

/-- A request of the device stays its own. -/
theorem VerifiedBy.step {t : TicketId} {i : Nat} {p q : State} (h : VerifiedBy t i p)
    (hs : checkin.Step Guard.any p q) : VerifiedBy t i q := by
  refine hs.meets_at (J := fun _ => AskAbout t) (K := fun _ => AnswerAbout t) h ?_
    ⟨fun _ h => h, fun _ h => h⟩
  intro ch d w' prog hd hdec
  exact Carried.about (carried_of_decide hdec) hd

/-- A verdict is at most what the answer says of the ticket. -/
theorem onlineResult_valids {d : Device} {parsed : ParsedQrPayload} {answer : Answer}
    (h : AnswerAbout parsed.ticketId answer) (t : TicketId) :
    (if (onlineResult d parsed answer).ValidIn false t then 1 else 0) ≤ answer.acceptances t := by
  split
  · next hv =>
    obtain ⟨⟨hid, hvalid⟩, -⟩ := hv
    rw [onlineResult_id] at hid
    cases answer with
    | verified response =>
        have hsuccess : response.success = true := by
          by_contra hno
          simp [onlineResult, hno] at hvalid
        have habout : response.ticketId = t := h.trans hid
        simp [Answer.acceptances, habout, hsuccess]
    | synced dto response => cases hvalid
    | refused e => cases hvalid
    | received => cases hvalid
  · exact Nat.zero_le _

/-! ## Answers that are taken -/

/-- The answer that the device takes leaves the account even. -/
theorem Admitted.taken {t : TicketId} {p : State} {i : Nat} {answer : Answer}
    (h : Admitted t p) (hi : p.ops[i]? = some (.ret answer)) :
    Admitted t ⟨p.world, p.ops.set i (.ret .received)⟩ where
  keyed := h.keyed
  matched := all_of_set h.matched trivial
  admission := by
    have hadm := h.admission
    rw [Pool.worth_set hi]
    simpa using hadm

/-- What an answer said leaves with it. -/
theorem unfounded_taken {t : TicketId} {p : State} {i : Nat} {answer : Answer}
    (hi : p.ops[i]? = some (.ret answer)) :
    unfounded t ⟨p.world, p.ops.set i (.ret .received)⟩
      = unfounded t p - (answer.acceptances t : Int) := by
  have htaken : (Prog.ret Answer.received : Op).worth (said t) (fun a => (a.acceptances t : Int))
      = 0 := rfl
  rw [unfounded, unfounded, Pool.worth_set hi, htaken, Prog.worth_ret]
  show -(successLogs t p.world.db : Int) + _ = _
  omega

/-! ## Online: the service's admissions -/

/-- The ticket's valid online scans on this device, against what the server has told. -/
structure OnlineOnce (t : TicketId) (s : Pwa) : Prop where
  server : Admitted t s.server
  told : unfounded t s.server + validsIn false t s.device ≤ 0
  mine : ∀ parsed uuid i, s.device.scan = .verifying parsed uuid i →
    VerifiedBy parsed.ticketId i s.server

/-- A step of the server leaves the device's scans in line. -/
theorem OnlineOnce.served {t : TicketId} {s : Pwa} {p : State} (h : OnlineOnce t s)
    (hs : checkin.Step Guard.any s.server p) : OnlineOnce t { s with server := p } where
  server := h.server.step hs
  told := (Int.add_le_add_right (unfounded_step h.server.matched hs) _).trans h.told
  mine parsed uuid i hv := (h.mine parsed uuid i hv).step hs

/-- An answer is taken, and no more is shown than it said. -/
theorem OnlineOnce.taken {t : TicketId} {s : Pwa} {d : Device} {i : Nat} {answer : Answer}
    (h : OnlineOnce t s) (hi : s.server.ops[i]? = some (.ret answer))
    (hshown : validsIn false t d ≤ validsIn false t s.device + answer.acceptances t)
    (hscan : ∀ parsed uuid j, d.scan = .verifying parsed uuid j → s.device.scan = d.scan) :
    OnlineOnce t { server := ⟨s.server.world, s.server.ops.set i (.ret .received)⟩, device := d } where
  server := Admitted.taken h.server hi
  told := by
    have htold := h.told
    rw [unfounded_taken hi]
    show _ + (validsIn false t d : Int) ≤ 0
    omega
  mine parsed uuid j hv :=
    taken_at trivial (h.mine parsed uuid j ((hscan parsed uuid j hv).trans hv))

/-- A move of the device alone that shows no online verdict. -/
theorem OnlineOnce.frame {t : TicketId} {s : Pwa} {d : Device} (h : OnlineOnce t s)
    (hshown : validsIn false t d = validsIn false t s.device)
    (hscan : ∀ parsed uuid i, d.scan = .verifying parsed uuid i → s.device.scan = d.scan) :
    OnlineOnce t { s with device := d } where
  server := h.server
  told := by
    show _ + (validsIn false t d : Int) ≤ 0
    rw [hshown]
    exact h.told
  mine parsed uuid i hv := h.mine parsed uuid i ((hscan parsed uuid i hv).trans hv)

/-- **One move.** -/
theorem OnlineOnce.step {t : TicketId} {s s' : Pwa} (h : OnlineOnce t s) (hs : Happened s s') :
    OnlineOnce t s' := by
  cases hs with
  | served p hp => exact h.served hp
  | refused r hr =>
      exact h.frame (by simp [not_validIn_of_invalid hr]) fun _ _ _ hv => nomatch hv
  | sent parsed uuid =>
      have harr := h.served (arrive_step (.verify (s.device.verifyRequest parsed) s.device.staffId)
        s.server)
      refine ⟨harr.server, harr.told, ?_⟩
      intro parsed' uuid' i hv
      cases hv
      exact ⟨_, arrive_at _ _, rfl⟩
  | answered parsed uuid i answer hphase hi =>
      refine h.taken hi ?_ fun _ _ _ hv => nomatch hv
      obtain ⟨prog, hprog, habout⟩ := h.mine parsed uuid i hphase
      rw [hi] at hprog
      cases hprog
      rw [validsIn_show]
      exact Nat.add_le_add_left (onlineResult_valids habout t) _
  | marked record _ =>
      refine h.frame ?_ fun _ _ _ hv => nomatch hv
      have hno : ¬ (offlineResult s.device record).ValidIn false t := fun hv => nomatch hv.2
      rw [Device.letIn, validsIn_show, if_neg hno]
      rfl
  | posted unsynced _ =>
      have harr := h.served (arrive_step (.sync (syncRequest unsynced) s.device.staffId) s.server)
      exact ⟨harr.server, harr.told, harr.mine⟩
  | failed i answer hi => exact h.taken hi (Nat.le_add_right _ _) fun _ _ _ _ => rfl
  | responded unsynced i dto response _ hi =>
      exact h.taken hi (Nat.le_add_right _ _) fun _ _ _ _ => rfl
  | scanned parsed uuid => exact h.frame rfl fun _ _ _ hv => nomatch hv
  | wentOffline parsed uuid => exact h.frame rfl fun _ _ _ hv => nomatch hv
  | passed parsed uuid _ => exact h.frame rfl fun _ _ _ hv => nomatch hv
  | saved record _ => exact h.frame rfl fun _ _ _ hv => nomatch hv
  | reloaded b => exact h.frame rfl fun _ _ _ hv => nomatch hv
  | switched b => exact h.frame rfl fun _ _ _ _ => rfl
  | triggered b => exact h.frame rfl fun _ _ _ _ => rfl
  | stopped => exact h.frame rfl fun _ _ _ _ => rfl
  | read => exact h.frame rfl fun _ _ _ _ => rfl
  | markedSynced unsynced response _ => exact h.frame rfl fun _ _ _ _ => rfl
  | skipped unsynced rest => exact h.frame rfl fun _ _ _ _ => rfl
  | cleared t' unsynced rest => exact h.frame rfl fun _ _ _ _ => rfl

/-- At the start nothing has been shown. -/
theorem Start.onlineOnce {s : Pwa} (h : Start s) (t : TicketId) : OnlineOnce t s where
  server := h.opening.admitted t
  told := by
    rw [h.opening.unfounded t]
    simp [validsIn, h.shown_nil]
  mine parsed uuid i hv := by
    rw [h.scan_idle] at hv
    cases hv

/-- A ticket is shown as valid online at most once. -/
theorem OnlineOnce.validsIn_le {t : TicketId} {s : Pwa} (h : OnlineOnce t s) :
    validsIn false t s.device ≤ 1 := by
  have htold := h.told
  have hlogs := h.server.successLogs_le
  have hsaid : 0 ≤ s.server.worth (said t) fun a => (a.acceptances t : Int) :=
    s.server.worth_nonneg (said_nonneg t) fun _ => Int.natCast_nonneg _
  rw [unfounded] at htold
  omega

/-! ## Offline: the duplicate guard -/

/-- The guard of a ticket is closed. -/
def guarding (t : TicketId) (d : Device) : Nat := if hasTicketBeenScanned t d then 1 else 0

/-- The record `handleScan` is about to let in. -/
def ScanPhase.record? : ScanPhase → Option OfflineScanRecord
  | .saving record => some record
  | .marking record => some record
  | _ => none

/-- The ticket's valid offline scans, against what the guard has recorded. -/
structure OfflineGuarded (t : TicketId) (d : Device) : Prop where
  passed : ∀ record, d.scan.record? = some record →
    hasTicketBeenScanned record.ticketId d = false
  guarded : validsIn true t d ≤ d.cleared.count t + guarding t d
  split : valids t d = validsIn false t d + validsIn true t d

/-- The guard knows the ticket that is marked. -/
theorem hasTicketBeenScanned_mark (t : TicketId) (entry : ScannedTicketEntry) (d : Device) :
    hasTicketBeenScanned t (markTicketScanned entry d)
      = (decide (entry.ticketId = t) || hasTicketBeenScanned t d) := by
  rw [Bool.eq_iff_iff]
  simp only [hasTicketBeenScanned, markTicketScanned, List.any_eq_true, List.mem_orderedInsert,
    List.mem_filter, decide_eq_true_eq, Bool.or_eq_true]
  constructor
  · rintro ⟨x, rfl | ⟨hx, -⟩, hid⟩
    · exact .inl hid
    · exact .inr ⟨x, hx, hid⟩
  · rintro (hid | ⟨x, hx, hid⟩)
    · exact ⟨entry, .inl rfl, hid⟩
    · by_cases hsame : x.ticketId = entry.ticketId
      · exact ⟨entry, .inl rfl, hsame.symm.trans hid⟩
      · exact ⟨x, .inr ⟨hx, hsame⟩, hid⟩

/-- It forgets the ticket that is cleared. -/
theorem hasTicketBeenScanned_clear (t t' : TicketId) (d : Device) :
    hasTicketBeenScanned t (clearScannedTicket t' d)
      = (hasTicketBeenScanned t d && decide (t ≠ t')) := by
  rw [Bool.eq_iff_iff]
  simp only [hasTicketBeenScanned, clearScannedTicket, List.any_eq_true, List.mem_filter,
    decide_eq_true_eq, Bool.and_eq_true]
  constructor
  · rintro ⟨x, ⟨hx, hne⟩, rfl⟩
    exact ⟨⟨x, hx, rfl⟩, hne⟩
  · rintro ⟨⟨x, hx, rfl⟩, hne⟩
    exact ⟨x, ⟨hx, hne⟩, rfl⟩

/-- A move that shows and guards nothing new. -/
theorem OfflineGuarded.frame {t : TicketId} {d d' : Device} (h : OfflineGuarded t d)
    (hshown : d'.shown = d.shown) (hguard : d'.scannedTickets = d.scannedTickets)
    (hcleared : d'.cleared = d.cleared)
    (hscan : ∀ record, d'.scan.record? = some record →
      d.scan.record? = some record ∨ hasTicketBeenScanned record.ticketId d = false) :
    OfflineGuarded t d' where
  passed record hr := by
    have hbefore : hasTicketBeenScanned record.ticketId d = false :=
      (hscan record hr).elim (h.passed record) id
    rwa [hasTicketBeenScanned, hguard]
  guarded := by
    have hg := h.guarded
    rwa [validsIn, guarding, hasTicketBeenScanned, hshown, hguard, hcleared]
  split := by
    have hsplit := h.split
    rwa [valids, validsIn, validsIn, hshown]

/-- A verdict that is no offline admission. -/
theorem OfflineGuarded.shows {t : TicketId} {d : Device} (h : OfflineGuarded t d)
    {r : ScanResult} (hr : r.status = .valid → r.isOffline = some false) :
    OfflineGuarded t (d.show r none) where
  passed record hrec := nomatch hrec
  guarded := by
    have hno : ¬ r.ValidIn true t := by
      rintro ⟨hv, hoff⟩
      rw [hr hv.2] at hoff
      cases hoff
    rw [validsIn_show, if_neg hno]
    exact h.guarded
  split := by
    have hiff : r.ValidIn false t ↔ r.Valid t := ⟨And.left, fun hv => ⟨hv, hr hv.2⟩⟩
    have hno : ¬ r.ValidIn true t := by
      rintro ⟨hv, hoff⟩
      rw [hr hv.2] at hoff
      cases hoff
    rw [valids_show, validsIn_show, validsIn_show, if_neg hno, h.split]
    simp only [hiff]
    omega

/-- The scan closes the guard behind itself. -/
theorem OfflineGuarded.letIn {t : TicketId} {d : Device} {record : OfflineScanRecord}
    (h : OfflineGuarded t d) (hphase : d.scan = .marking record) :
    OfflineGuarded t (d.letIn record) := by
  have hopen : hasTicketBeenScanned record.ticketId d = false :=
    h.passed record (by rw [hphase]; rfl)
  have honline : ¬ (offlineResult d record).ValidIn false t := fun hv => nomatch hv.2
  have hiff : (offlineResult d record).Valid t ↔ (offlineResult d record).ValidIn true t :=
    ⟨fun hv => ⟨hv, rfl⟩, And.left⟩
  refine ⟨fun _ hrec => (nomatch hrec), ?_, ?_⟩
  · have hg := h.guarded
    have hmark := hasTicketBeenScanned_mark t (d.scannedEntry record) d
    rw [Device.letIn, validsIn_show]
    show validsIn true t d + _ ≤ d.cleared.count t
      + (if hasTicketBeenScanned t (markTicketScanned (d.scannedEntry record) d) then 1 else 0)
    rw [hmark]
    by_cases hid : record.ticketId = t
    · subst hid
      rw [guarding, hopen] at hg
      simpa [Device.scannedEntry] using Nat.add_le_add hg (by split <;> decide)
    · have hnot : ¬ (offlineResult d record).ValidIn true t := fun hv => hid hv.1.1
      rw [if_neg hnot]
      simpa [Device.scannedEntry, hid, guarding] using hg
  · rw [Device.letIn, valids_show, validsIn_show, validsIn_show, if_neg honline]
    simp only [hiff]
    show valids t d + _ = validsIn false t d + 0 + (validsIn true t d + _)
    rw [h.split]
    omega

/-- Clearing opens the guard, and is counted. -/
theorem OfflineGuarded.cleared {t : TicketId} {d : Device} (h : OfflineGuarded t d)
    (t' : TicketId) (phase : SyncPhase) :
    OfflineGuarded t { clearScannedTicket t' d with sync := phase } where
  passed record hr := by
    have hopen := h.passed record hr
    show hasTicketBeenScanned record.ticketId (clearScannedTicket t' d) = false
    rw [hasTicketBeenScanned_clear, hopen, Bool.false_and]
  guarded := by
    have hg := h.guarded
    show validsIn true t d ≤ (d.cleared ++ [t']).count t
      + (if hasTicketBeenScanned t (clearScannedTicket t' d) then 1 else 0)
    rw [hasTicketBeenScanned_clear, List.count_append, List.count_singleton]
    rw [guarding] at hg
    by_cases hid : t = t'
    · subst hid
      simp only [ne_eq, not_true_eq_false, decide_false, Bool.and_false, beq_self_eq_true]
      split at hg <;> simp <;> omega
    · have hne : (t' == t) = false := by simpa using fun he => hid he.symm
      simpa [hid, hne] using hg
  split := h.split

/-- **One move.** -/
theorem OfflineGuarded.step {t : TicketId} {s s' : Pwa} (h : OfflineGuarded t s.device)
    (hs : Happened s s') : OfflineGuarded t s'.device := by
  cases hs with
  | served p _ => exact h
  | refused r hr => exact h.shows fun hv => by rw [hr] at hv; cases hv
  | answered parsed uuid i answer _ _ => exact h.shows fun _ => onlineResult_offline _ _ _
  | passed parsed uuid hopen =>
      refine h.frame rfl rfl rfl fun record hr => .inr ?_
      cases hr
      exact hopen
  | saved record hphase =>
      refine h.frame rfl rfl rfl fun record' hr => .inl ?_
      rw [hphase]
      exact hr
  | marked record hphase => exact h.letIn hphase
  | cleared t' unsynced rest => exact h.cleared t' _
  | switched b => exact h.frame rfl rfl rfl fun _ hr => .inl hr
  | triggered b => exact h.frame rfl rfl rfl fun _ hr => .inl hr
  | scanned parsed uuid => exact h.frame rfl rfl rfl fun _ hr => nomatch hr
  | sent parsed uuid => exact h.frame rfl rfl rfl fun _ hr => nomatch hr
  | wentOffline parsed uuid => exact h.frame rfl rfl rfl fun _ hr => nomatch hr
  | stopped => exact h.frame rfl rfl rfl fun _ hr => .inl hr
  | read => exact h.frame rfl rfl rfl fun _ hr => .inl hr
  | posted unsynced _ => exact h.frame rfl rfl rfl fun _ hr => .inl hr
  | failed i answer _ => exact h.frame rfl rfl rfl fun _ hr => .inl hr
  | responded unsynced i dto response _ _ => exact h.frame rfl rfl rfl fun _ hr => .inl hr
  | markedSynced unsynced response _ => exact h.frame rfl rfl rfl fun _ hr => .inl hr
  | skipped unsynced rest => exact h.frame rfl rfl rfl fun _ hr => .inl hr
  | reloaded b => exact h.frame rfl rfl rfl fun _ hr => nomatch hr

/-- At the start the guard is empty. -/
theorem Start.offlineGuarded {s : Pwa} (h : Start s) (t : TicketId) :
    OfflineGuarded t s.device where
  passed record hr := by
    rw [h.scan_idle] at hr
    cases hr
  guarded := by simp [validsIn, h.shown_nil]
  split := by simp [valids, validsIn, h.shown_nil]

/-! ## Every run -/

/-- **A device lets a ticket in** at most once online, and offline at most once
    more often than its guard was cleared after a conflict. -/
theorem device_admissions {s s' : Pwa} (hs : Start s) (h : Machine.Run next Reliable s s')
    (t : TicketId) :
    valids t s'.device = validsIn false t s'.device + validsIn true t s'.device ∧
      validsIn false t s'.device ≤ 1 ∧
      validsIn true t s'.device ≤ s'.device.cleared.count t + 1 := by
  have honline : OnlineOnce t s' :=
    h.inv (fun _ _ _ hI hok hn => OnlineOnce.step hI (happened_of_next hok hn)) (hs.onlineOnce t)
  have hoffline : OfflineGuarded t s'.device :=
    h.inv (I := fun s => OfflineGuarded t s.device)
      (fun _ _ _ hI hok hn => OfflineGuarded.step hI (happened_of_next hok hn))
      (hs.offlineGuarded t)
  refine ⟨hoffline.split, honline.validsIn_le, hoffline.guarded.trans ?_⟩
  rw [guarding]
  split <;> omega

/-! ### Let in twice -/

/-- A scan of the ticket with no connection. -/
def scanOffline (uuid : Uuid) : List Move :=
  [.scan "t1:token:GATE-A" uuid, .scanStep {}, .scanStep {}, .scanStep {}]

/-- Scanned online, the network goes, scanned again. -/
def switchMode : List Move :=
  [.scan "t1:token:GATE-A" ⟨"e1", e1_ne⟩, .scanStep {}, .server (.step 0 0 {}),
   .server (.step 0 0 {}), .server (.step 0 0 {}), .scanStep {}, .goOffline]
    ++ scanOffline ⟨"e2", by decide⟩

/-- Another device has let the ticket in: the offline scan of this one ends in a
    conflict, its guard is cleared, and it lets the ticket in again. -/
def clearGuard : List Move :=
  [.server (.start (.verify onlineScan 1)), .server (.step 0 0 {}), .server (.step 0 0 {}),
   .server (.step 0 0 {})]
    ++ scanOffline ⟨"e1", e1_ne⟩
    ++ [.goOnline, .syncStep {}, .syncStep {}, .server (.step 1 0 {}), .server (.step 1 0 {}),
      .server (.step 1 0 {}), .server (.step 1 0 {}), .syncStep {}, .syncStep {}, .syncStep {},
      .syncStep {}, .goOffline]
    ++ scanOffline ⟨"e2", by decide⟩

/-- The guard is cleared, and the ticket is shown as valid offline again. -/
theorem device_admissions_clearGuard :
    ∃ s', Machine.Run next Reliable (doorDevice false) s' ∧
      (validsIn true "t1" s'.device = 2 ∧ s'.device.cleared = ["t1"]) ∧
      valids "t1" s'.device = validsIn false "t1" s'.device + validsIn true "t1" s'.device ∧
      validsIn false "t1" s'.device ≤ 1 ∧
      validsIn true "t1" s'.device ≤ s'.device.cleared.count "t1" + 1 := by
  obtain ⟨s', hrun, hs'⟩ : ∃ s', Machine.Run next Reliable (doorDevice false) s' ∧
      (validsIn true "t1" s'.device = 2 ∧ s'.device.cleared = ["t1"]) :=
    Machine.exists_run clearGuard (by decide) _ (by decide)
  exact ⟨s', hrun, hs', device_admissions (doorDevice_start false) hrun "t1"⟩

/-- A device lets one ticket in twice: once in each mode, or twice offline. -/
theorem device_admits_twice :
    (Start (doorDevice true) ∧ ∃ s', Machine.Run next Reliable (doorDevice true) s' ∧
      valids "t1" s'.device = 2 ∧ s'.device.cleared = []) ∧
    Start (doorDevice false) ∧ ∃ s', Machine.Run next Reliable (doorDevice false) s' ∧
      valids "t1" s'.device = 2 ∧ validsIn false "t1" s'.device = 0 :=
  ⟨⟨doorDevice_start true, Machine.exists_run switchMode (by decide) _ (by decide)⟩,
    doorDevice_start false, Machine.exists_run clearGuard (by decide) _ (by decide)⟩

end CheckinPwa
