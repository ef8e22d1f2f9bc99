import TicketBox.PwaSteps

/-! # No offline scan is lost

    The device marks an event as synced only when a result of its own batch calls
    it a success, and every such result, a replay included, stands for a log row
    of the event (`Acks`).  So an event that was let in offline stays in
    `checkin_logs` as unsynced until the service has its row, whatever is lost on
    the way and wherever a batch aborts. -/

namespace CheckinPwa

open Interleave TicketCheckin

/-! ## What the service's results stand for -/

/-- The result would make its device mark the event as synced. -/
def Confirms (result : SyncCheckinResultDto) : Prop :=
  result.success = true ∨ result.status = .alreadyCheckedIn

/-- A result names its record, and a confirmed event is logged. -/
def Acks (w : World) (record : SyncCheckinRecordDto) (result : SyncCheckinResultDto) : Prop :=
  result.Answers record ∧
    (Confirms result → Logged record.deviceId record.offlineEventId w.db)

/-- Every result of the service, given or still being collected, acknowledges. -/
def Acknowledging (p : State) : Prop :=
  ∀ prog ∈ p.ops, prog.Meets (AskTold (fun _ => True) (Acks p.world))
    (AnswerTold (fun _ => True) (Acks p.world))

/-- Every step of the server confirms only what it has logged. -/
theorem Acknowledging.step {p q : State} (hp : Acknowledging p)
    (hs : checkin.Step Guard.any p q) : Acknowledging q := by
  refine told_step hs hp (fun _ _ _ => trivial) ?_ ?_ ?_ ?_
  · rintro ch d w' prog - - hc record result ⟨hanswers, hlog⟩
    refine ⟨hanswers, fun hconf => ?_⟩
    have hl := hlog hconf
    have hlogged : ∀ params,
        Logged record.deviceId record.offlineEventId (p.world.logged params).db :=
      fun params => logged_append.mpr (.inl hl)
    cases hc with
    | verifyLogged params answer _ => exact hlogged params
    | syncLogged loop params result _ _ => exact hlogged params
    | _ => exact hl
  · intro record l hfound
    obtain ⟨hmem, hof⟩ := findLog_some hfound
    exact ⟨⟨rfl, rfl⟩, fun _ => ⟨l, hmem, hof⟩⟩
  · intro ch loop params result record _ _ _ _ hlog
    refine ⟨hlog.answers, fun _ => logged_append.mpr (.inr ?_)⟩
    exact ⟨hlog.deviceId, hlog.offlineEventId⟩
  · rintro ev - record result ⟨hanswers, hlog⟩
    refine ⟨hanswers, fun hconf => ?_⟩
    have hl := hlog hconf
    rwa [Logged, happen_logs]

/-- So does the device when it takes an answer. -/
theorem Acknowledging.taken {p : State} (hp : Acknowledging p) (i : Nat) :
    Acknowledging ⟨p.world, p.ops.set i (.ret .received)⟩ :=
  all_of_set hp trivial

/-! ## The invariant -/

/-- The event is still to be synced, or the service has its row. -/
def Covered (e : EventId) (s : Pwa) : Prop :=
  (∃ r ∈ s.device.checkinLogs, r.offlineEventId = e ∧ r.synced = false) ∨
    Logged s.device.deviceId e s.server.world.db

/-- The records the device holds or sends carry its own id. -/
def Owned (d : Device) (records : List OfflineScanRecord) : Prop :=
  ∀ r ∈ records, r.deviceId = d.deviceId

/-- The batch that a sync is about. -/
def SyncPhase.batch : SyncPhase → List OfflineScanRecord
  | .posting unsynced => unsynced
  | .waiting unsynced _ => unsynced
  | _ => []

/-- Operation `i` of the service is the sync of this batch. -/
def SyncedBy (unsynced : List OfflineScanRecord) (i : Nat) (p : State) : Prop :=
  ∃ prog, p.ops[i]? = some prog ∧
    prog.Meets (AskTold (fun dto => dto = syncRequest unsynced) fun _ _ => True)
      (AnswerTold (fun dto => dto = syncRequest unsynced) fun _ _ => True)

/-- An offline scan that the screen called valid. -/
def ValidOffline (r : ScanResult) : Prop := r.status = .valid ∧ r.isOffline = some true

/-- The result tells. -/
instance (r : ScanResult) : Decidable (ValidOffline r) := inferInstanceAs (Decidable (_ ∧ _))

/-- Every scan the device owes the server is on the device, under way or logged. -/
structure NothingLost (s : Pwa) : Prop where
  own : Owned s.device s.device.checkinLogs
  acks : Acknowledging s.server
  batch : Owned s.device s.device.sync.batch
  waiting : ∀ unsynced i, s.device.sync = .waiting unsynced i → SyncedBy unsynced i s.server
  response : ∀ unsynced response, s.device.sync = .marking unsynced response →
    ∀ r ∈ response.results, Confirms r →
      Logged s.device.deviceId r.offlineEventId s.server.world.db
  saving : ∀ record, s.device.scan = .saving record →
    record.deviceId = s.device.deviceId ∧ record.synced = false
  marking : ∀ record, s.device.scan = .marking record → Covered record.offlineEventId s
  shown : ∀ x ∈ s.device.shown, ValidOffline x.1 → ∃ e, x.2 = some e ∧ Covered e s

/-! ## Steps of the service -/

/-- A delivery of the device stays its own. -/
theorem SyncedBy.step {unsynced : List OfflineScanRecord} {i : Nat} {p q : State}
    (h : SyncedBy unsynced i p) (hs : checkin.Step Guard.any p q) : SyncedBy unsynced i q := by
  refine hs.meets_at (J := fun _ => AskTold _ _) (K := fun _ => AnswerTold _ _) h ?_
    ⟨fun _ h => h, fun _ h => h⟩
  intro ch d w' prog hd hdec
  exact (carried_of_decide hdec).told hd (fun _ _ _ => trivial) (fun _ _ _ => trivial)
    fun _ _ _ _ _ _ _ _ _ => trivial

/-- A scan stays on the device, under way or logged while the server works. -/
theorem Covered.step {e : EventId} {s : Pwa} {p : State} (h : Covered e s)
    (hs : checkin.Step Guard.any s.server p) : Covered e { s with server := p } :=
  h.imp_right fun hl => logged_step hs hl

/-- The service may do anything. -/
theorem NothingLost.served {s : Pwa} {p : State} (h : NothingLost s)
    (hs : checkin.Step Guard.any s.server p) : NothingLost { s with server := p } where
  own := h.own
  acks := h.acks.step hs
  batch := h.batch
  waiting unsynced i hw := (h.waiting unsynced i hw).step hs
  response unsynced response hr r hmem hc := logged_step hs (h.response unsynced response hr r hmem hc)
  saving := h.saving
  marking record hm := (h.marking record hm).step hs
  shown x hx hv := by
    obtain ⟨e, he, hc⟩ := h.shown x hx hv
    exact ⟨e, he, hc.step hs⟩

/-- An answer may be taken. -/
theorem NothingLost.taken {s : Pwa} (h : NothingLost s) (i : Nat) :
    NothingLost { s with server := ⟨s.server.world, s.server.ops.set i (.ret .received)⟩ } where
  own := h.own
  acks := h.acks.taken i
  batch := h.batch
  waiting unsynced j hw := taken_at trivial (h.waiting unsynced j hw)
  response := h.response
  saving := h.saving
  marking := h.marking
  shown := h.shown

/-! ## Steps of the device -/

/-- Saving a record covers its event and uncovers none. -/
theorem Covered.saved {e : EventId} {s : Pwa} {record : OfflineScanRecord}
    (hnew : record.synced = false) (h : Covered e s ∨ e = record.offlineEventId)
    (phase : ScanPhase) :
    Covered e { s with device := { saveCheckinLog record s.device with scan := phase } } := by
  by_cases he : e = record.offlineEventId
  · exact .inl ⟨record, (List.mem_orderedInsert _).mpr (.inl rfl), he.symm, hnew⟩
  · rcases h.resolve_right he with ⟨r, hr, hre, hsync⟩ | hl
    · refine .inl ⟨r, (List.mem_orderedInsert _).mpr (.inr ?_), hre, hsync⟩
      exact List.mem_filter.mpr ⟨hr, by simpa [hre] using he⟩
    · exact .inr hl

/-- An event is marked only when the service has its row. -/
theorem Covered.markedSynced {e : EventId} {s : Pwa} {response : SyncCheckinResponseDto}
    (h : Covered e s) (hresp : ∀ r ∈ response.results, Confirms r →
      Logged s.device.deviceId r.offlineEventId s.server.world.db) (phase : SyncPhase) :
    Covered e
      { s with device := { markSynced (syncedIds response) s.device with sync := phase } } := by
  rcases h with ⟨r, hr, rfl, hsync⟩ | hl
  · by_cases hin : r.offlineEventId ∈ syncedIds response
    · obtain ⟨res, hres, heq⟩ := List.mem_map.mp hin
      obtain ⟨hmem, hconf⟩ := List.mem_filter.mp hres
      have hconfirms : Confirms res := by
        simp only [Bool.or_eq_true, decide_eq_true_eq] at hconf
        exact hconf
      refine .inr ?_
      have hl := hresp res hmem hconfirms
      rwa [heq] at hl
    · refine .inl ⟨r, ?_, rfl, hsync⟩
      exact List.mem_map.mpr ⟨r, hr, if_neg hin⟩
  · exact .inr hl

/-- A move that leaves the store, the service and what was shown alone, and whose
    phases ask for nothing new. -/
theorem NothingLost.frame {s : Pwa} {d : Device} (h : NothingLost s)
    (hlogs : d.checkinLogs = s.device.checkinLogs) (hid : d.deviceId = s.device.deviceId)
    (hshown : ∀ x ∈ d.shown, ValidOffline x.1 →
      x ∈ s.device.shown ∨ ∃ record, s.device.scan = .marking record ∧
        x.2 = some record.offlineEventId)
    (hbatch : Owned s.device d.sync.batch)
    (hwaiting : ∀ unsynced i, d.sync = .waiting unsynced i → s.device.sync = d.sync)
    (hresponse : ∀ unsynced response, d.sync = .marking unsynced response →
      s.device.sync = d.sync)
    (hsaving : ∀ record, d.scan = .saving record →
      record.deviceId = s.device.deviceId ∧ record.synced = false)
    (hmarking : ∀ record, d.scan = .marking record → s.device.scan = d.scan) :
    NothingLost { s with device := d } where
  own := by
    intro r hr
    show r.deviceId = d.deviceId
    rw [hid]
    exact h.own r (hlogs ▸ hr)
  acks := h.acks
  batch := by
    intro r hr
    show r.deviceId = d.deviceId
    rw [hid]
    exact hbatch r hr
  waiting unsynced i hw := h.waiting unsynced i ((hwaiting unsynced i hw).trans hw)
  response unsynced response hr r hmem hc := by
    show Logged d.deviceId _ _
    rw [hid]
    exact h.response unsynced response ((hresponse unsynced response hr).trans hr) r hmem hc
  saving record hs := by
    show _ = d.deviceId ∧ _
    rw [hid]
    exact hsaving record hs
  marking record hm := by
    have hc := h.marking record ((hmarking record hm).trans hm)
    rw [Covered] at hc ⊢
    show (∃ r ∈ d.checkinLogs, _) ∨ Logged d.deviceId _ _
    rwa [hlogs, hid]
  shown x hx hv := by
    have hcov : ∀ e, Covered e s → Covered e { s with device := d } := by
      intro e hc
      rw [Covered] at hc ⊢
      show (∃ r ∈ d.checkinLogs, _) ∨ Logged d.deviceId _ _
      rwa [hlogs, hid]
    rcases hshown x hx hv with hold | ⟨record, hm, he⟩
    · obtain ⟨e, he, hc⟩ := h.shown x hold hv
      exact ⟨e, he, hcov e hc⟩
    · exact ⟨_, he, hcov _ (h.marking record hm)⟩

/-- A move of the scan alone. -/
theorem NothingLost.scanned {s : Pwa} (h : NothingLost s) (phase : ScanPhase)
    (hsaving : ∀ record, phase = .saving record →
      record.deviceId = s.device.deviceId ∧ record.synced = false)
    (hmarking : ∀ record, phase ≠ .marking record) :
    NothingLost { s with device := { s.device with scan := phase } } :=
  h.frame rfl rfl (fun _ hx _ => .inl hx) h.batch (fun _ _ _ => rfl) (fun _ _ _ => rfl) hsaving
    fun record hm => absurd hm (hmarking record)

/-- A move of the sync to a phase that awaits nothing of the service. -/
theorem NothingLost.synced {s : Pwa} (h : NothingLost s) (b : Bool) (phase : SyncPhase)
    (hbatch : Owned s.device phase.batch) (hwaiting : ∀ unsynced i, phase ≠ .waiting unsynced i)
    (hmarking : ∀ unsynced response, phase ≠ .marking unsynced response) :
    NothingLost { s with device := { s.device with isOnline := b, sync := phase } } :=
  h.frame rfl rfl (fun _ hx _ => .inl hx) hbatch
    (fun unsynced i hw => absurd hw (hwaiting unsynced i))
    (fun unsynced response hr => absurd hr (hmarking unsynced response)) h.saving
    fun _ _ => rfl

/-- Nothing is owned by nobody. -/
theorem owned_nil (d : Device) : Owned d [] := by
  intro r hr
  cases hr

/-- The scan ends with a result that is no offline admission. -/
theorem NothingLost.refused {s : Pwa} (h : NothingLost s) (r : ScanResult)
    (hr : ¬ ValidOffline r) : NothingLost { s with device := s.device.show r none } := by
  refine h.frame rfl rfl (fun x hx hv => ?_) h.batch (fun _ _ _ => rfl) (fun _ _ _ => rfl)
    (fun record hs => (by cases hs)) fun record hs => (by cases hs)
  rcases List.mem_append.mp hx with hx | hx
  · exact .inl hx
  · cases List.mem_singleton.mp hx
    exact absurd hv hr

/-- An online scan is not a valid offline one. -/
theorem onlineResult_not_offline (d : Device) (parsed : ParsedQrPayload) (answer : Answer) :
    ¬ ValidOffline (onlineResult d parsed answer) := by
  rintro ⟨-, hoff⟩
  cases answer <;> cases hoff

/-- A batch's results, taken by the device that sent it. -/
theorem NothingLost.responded {s : Pwa} (h : NothingLost s) {unsynced : List OfflineScanRecord}
    {i : Nat} {dto : SyncCheckinDto} {response : SyncCheckinResponseDto}
    (hphase : s.device.sync = .waiting unsynced i)
    (hi : s.server.ops[i]? = some (.ret (.synced dto response))) :
    ∀ r ∈ response.results, Confirms r →
      Logged s.device.deviceId r.offlineEventId s.server.world.db := by
  intro r hr hconf
  have hacks : AnswerTold (fun _ => True) (Acks s.server.world) (.synced dto response) :=
    h.acks _ (List.mem_of_getElem? hi)
  obtain ⟨prog, hprog, hmeets⟩ := h.waiting unsynced i hphase
  rw [hi] at hprog
  cases hprog
  have hdto : dto = syncRequest unsynced := hmeets.1
  obtain ⟨record, hrec, hanswers, hlog⟩ := hacks.2.of_mem hr
  rw [hdto] at hrec
  obtain ⟨u, hu, rfl⟩ := List.mem_map.mp hrec
  have hown : u.deviceId = s.device.deviceId := by
    refine h.batch u ?_
    rw [hphase]
    exact hu
  have hl := hlog hconf
  rwa [hown, ← hanswers.2] at hl

/-- **One move.** -/
theorem NothingLost.step {s s' : Pwa} (h : NothingLost s) (hs : Happened s s') :
    NothingLost s' := by
  cases hs with
  | served p hp => exact h.served hp
  | switched b =>
      exact h.frame rfl rfl (fun _ hx _ => .inl hx) h.batch (fun _ _ _ => rfl)
        (fun _ _ _ => rfl) h.saving fun _ _ => rfl
  | triggered b =>
      exact h.synced b .reading (owned_nil _) (fun _ _ hw => (by cases hw)) fun _ _ hr => (by cases hr)
  | scanned parsed uuid =>
      exact h.scanned _ (fun _ hs => (by cases hs)) fun _ hs => (by cases hs)
  | refused r hr => exact h.refused r fun hv => by rw [hv.1] at hr; cases hr
  | sent parsed uuid =>
      exact (h.served (arrive_step _ _)).scanned _ (fun _ hs => (by cases hs)) fun _ hs => (by cases hs)
  | answered parsed uuid i answer _ _ =>
      exact (h.taken i).refused _ (onlineResult_not_offline s.device parsed answer)
  | wentOffline parsed uuid =>
      exact h.scanned _ (fun _ hs => (by cases hs)) fun _ hs => (by cases hs)
  | passed parsed uuid _ =>
      refine h.scanned _ (fun record hs => ?_) fun _ hs => (by cases hs)
      cases hs
      exact ⟨rfl, rfl⟩
  -- the record is in IndexedDB before the screen shows it
  | saved record hphase =>
      obtain ⟨hown, hnew⟩ := h.saving record hphase
      refine ⟨?_, h.acks, h.batch, h.waiting, h.response, fun _ hs => (by cases hs), ?_, ?_⟩
      · intro r hr
        rcases (List.mem_orderedInsert _).mp hr with rfl | hr
        · exact hown
        · exact h.own r (List.mem_filter.mp hr).1
      · intro record' hm
        cases hm
        exact Covered.saved hnew (.inr rfl) _
      · intro x hx hv
        obtain ⟨e, he, hc⟩ := h.shown x hx hv
        exact ⟨e, he, Covered.saved hnew (.inl hc) _⟩
  | marked record hphase =>
      refine h.frame rfl rfl (fun x hx hv => ?_) h.batch (fun _ _ _ => rfl) (fun _ _ _ => rfl)
        (fun _ hs => (by cases hs)) fun _ hs => (by cases hs)
      rcases List.mem_append.mp hx with hx | hx
      · exact .inl hx
      · cases List.mem_singleton.mp hx
        exact .inr ⟨record, hphase, rfl⟩
  | stopped =>
      exact h.synced _ .idle (owned_nil _) (fun _ _ hw => (by cases hw)) fun _ _ hr => (by cases hr)
  | read =>
      exact h.synced _ (.posting (getUnsynced s.device))
        (fun r hr => h.own r (List.mem_filter.mp hr).1) (fun _ _ hw => (by cases hw))
        fun _ _ hr => (by cases hr)
  -- the request carries what was read as unsynced
  | posted unsynced hphase =>
      have harr := h.served (arrive_step (.sync (syncRequest unsynced) s.device.staffId) s.server)
      refine ⟨harr.own, harr.acks, ?_, ?_, fun _ _ hr => (by cases hr), harr.saving, harr.marking,
        harr.shown⟩
      · have hb := h.batch
        rw [hphase] at hb
        exact hb
      · intro unsynced' i hw
        cases hw
        exact ⟨_, arrive_at _ _, start_told (N := fun dto => dto = syncRequest unsynced) rfl _⟩
  | failed i answer _ =>
      exact (h.taken i).synced _ .idle (owned_nil _) (fun _ _ hw => (by cases hw))
        fun _ _ hr => (by cases hr)
  | responded unsynced i dto response hphase hi =>
      have ht := h.taken i
      refine ⟨ht.own, ht.acks, owned_nil _, fun _ _ hw => (by cases hw), ?_, ht.saving, ht.marking,
        ht.shown⟩
      intro unsynced' response' hr
      cases hr
      exact h.responded hphase hi
  -- marked only what the server has answered
  | markedSynced unsynced response hphase =>
      have hresp := h.response unsynced response hphase
      refine ⟨?_, h.acks, owned_nil _, fun _ _ hw => (by cases hw), fun _ _ hr => (by cases hr),
        h.saving, ?_, ?_⟩
      · intro r hr
        obtain ⟨r₀, hr₀, rfl⟩ := List.mem_map.mp hr
        have hown := h.own r₀ hr₀
        split <;> exact hown
      · intro record hm
        exact (h.marking record hm).markedSynced hresp _
      · intro x hx hv
        obtain ⟨e, he, hc⟩ := h.shown x hx hv
        exact ⟨e, he, hc.markedSynced hresp _⟩
  | skipped unsynced rest =>
      exact h.synced _ (.clearing unsynced rest) (owned_nil _) (fun _ _ hw => (by cases hw))
        fun _ _ hr => (by cases hr)
  | cleared t unsynced rest =>
      exact h.frame rfl rfl (fun _ hx _ => .inl hx) (owned_nil _) (fun _ _ hw => (by cases hw))
        (fun _ _ hr => (by cases hr)) h.saving fun _ _ => rfl
  -- a reload forgets calls, not records
  | reloaded b =>
      exact h.frame rfl rfl (fun _ hx _ => .inl hx) (owned_nil _) (fun _ _ hw => (by cases hw))
        (fun _ _ hr => (by cases hr)) (fun _ hs => (by cases hs)) fun _ hs => (by cases hs)

/-- At the start there is nothing to lose. -/
theorem Start.nothingLost {s : Pwa} (h : Start s) : NothingLost s where
  own := h.own_logs
  acks prog hmem := by
    rw [h.opening.ops_nil] at hmem
    cases hmem
  batch := by
    rw [h.sync_idle]
    exact owned_nil _
  waiting unsynced i hw := by
    rw [h.sync_idle] at hw
    cases hw
  response unsynced response hr := by
    rw [h.sync_idle] at hr
    cases hr
  saving record hs := by
    rw [h.scan_idle] at hs
    cases hs
  marking record hs := by
    rw [h.scan_idle] at hs
    cases hs
  shown x hx := by
    rw [h.shown_nil] at hx
    cases hx

/-- **No offline scan is lost**: in every run whose transactions succeed, every
    scan the device called valid in offline mode was given an event, and that
    event is still unsynced on the device or has its row at the service. -/
theorem offline_scans_kept {s s' : Pwa} (hs : Start s)
    (h : Machine.Run next Reliable s s') :
    ∀ x ∈ s'.device.shown, ValidOffline x.1 → ∃ e, x.2 = some e ∧
      ((∃ r ∈ s'.device.checkinLogs, r.offlineEventId = e ∧ r.synced = false) ∨
        Logged s'.device.deviceId e s'.server.world.db) :=
  (h.inv (fun _ _ _ hI hok hn => NothingLost.step hI (happened_of_next hok hn))
    hs.nothingLost).shown

/-- The batch of an offline scan commits, but its response is lost; the retry is
    answered as a replay. -/
def lostResponse : List Move :=
  [.scan "t1:token:GATE-A" ⟨"e1", e1_ne⟩, .scanStep {}, .scanStep {}, .scanStep {},
   .goOnline, .syncStep {}, .syncStep {},
   .server (.step 0 0 {}), .server (.step 0 0 {}), .server (.step 0 0 {}),
   .server (.step 0 0 {}), .syncStep { lost := true },
   .triggerSync, .syncStep {}, .syncStep {}, .server (.step 1 0 {}),
   .syncStep {}, .syncStep {}, .syncStep {}]

/-- The response of a delivery is lost, and the scan is there to be delivered again. -/
theorem offline_scans_kept_lostResponse :
    ∃ s', Machine.Run next Reliable (doorDevice false) s' ∧
      (s'.device.shown.map Prod.snd = [some "e1"] ∧ getUnsynced s'.device = []) ∧
      ∀ x ∈ s'.device.shown, ValidOffline x.1 → ∃ e, x.2 = some e ∧
        ((∃ r ∈ s'.device.checkinLogs, r.offlineEventId = e ∧ r.synced = false) ∨
          Logged s'.device.deviceId e s'.server.world.db) := by
  obtain ⟨s', hrun, hs'⟩ : ∃ s', Machine.Run next Reliable (doorDevice false) s' ∧
      (s'.device.shown.map Prod.snd = [some "e1"] ∧ getUnsynced s'.device = []) :=
    Machine.exists_run lostResponse (by decide) _ (by decide)
  exact ⟨s', hrun, hs', offline_scans_kept (doorDevice_start false) hrun⟩

end CheckinPwa
