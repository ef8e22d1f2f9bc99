import TicketBox.WaitingRoomProofs

/-! # Who waits, and at which place

    The room counts its load by two records of its own, the join times and the sessions
    that still wait.  The join times of a load window are the sessions created in it
    (`Indexed`), so what a join meets is a fact about sessions: who is let in at once
    (`waits_iff`), and how many are in any window (`admitted_at_once_bounded`).

    The queue is ordered by the time of admission, which is drawn at random; a session
    that comes later may be let in before.  The longest and the shortest wait bound this:
    nobody who comes more than their difference later gets ahead
    (`position_rises_by_joins`), and the longest wait is when everybody is let in
    (`admitted_by_longest_wait`). -/

namespace WaitingRoom

open Machine

variable {config : Config} {room room' : Room} {record : WaitingSessionRecord} {s s' s₀ : State}
  {concertId : ConcertId} {now now' : Nat}

/-! ## What a request does to the room -/

/-- A request leaves the room as it is, polls a session or lets a new one join. -/
inductive RoomStep (config : Config) (now : Nat) (room : Room) : Room → Prop where
  | same : RoomStep config now room room
  | polled (sessionId : SessionId) (token : Token) : RoomStep config now room
      { room with
        sessions := RowTable.modify WaitingSessionRecord.sessionId sessionId
          (WaitingSessionRecord.polled token now) room.sessions }
  | joined (concertId : ConcertId) (draw : Draw) :
      RoomStep config now room (room.join config concertId none draw now).2

/-- A join is a step of the room. -/
theorem join_roomStep (config : Config) (concertId : ConcertId) (existing : Option SessionId)
    (draw : Draw) (now : Nat) (room : Room) :
    RoomStep config now room (room.join config concertId existing draw now).2 := by
  by_cases hfound : ((existing.filter fun id => id ≠ "").bind fun id => room.find id).filter
      (fun existing => existing.concertId = concertId) = none
  · have hjoin : room.join config concertId existing draw now
        = room.join config concertId none draw now := by
      unfold Room.join
      rw [hfound]
      rfl
    rw [hjoin]
    exact .joined concertId draw
  · obtain ⟨found, hfound⟩ := Option.ne_none_iff_exists'.mp hfound
    unfold Room.join
    rw [hfound]
    exact .same

/-- So is a poll. -/
theorem poll_roomStep (config : Config) {sessionId : SessionId} {token : Token}
    {answer : WaitingSessionRecord × Room} (h : room.poll sessionId token now = some answer) :
    RoomStep config now room answer.2 := by
  obtain ⟨record, -, rfl⟩ := Option.map_eq_some_iff.mp h
  exact .polled sessionId token

/-- So is an access. -/
theorem access_roomStep (config : Config) (concertId : ConcertId) (requireToken : Bool)
    (token : Token) (now : Nat) (s : State) :
    (s.requestPurchaseAccess concertId requireToken token now).2.now = now ∧
      RoomStep config now s.room
        (s.requestPurchaseAccess concertId requireToken token now).2.room := by
  unfold State.requestPurchaseAccess
  split
  · exact ⟨rfl, .same⟩
  · rename_i browser _
    by_cases hrequire : requireToken = false
    · rw [if_pos hrequire]
      exact ⟨rfl, .same⟩
    · rw [if_neg hrequire]
      cases hid : (browser.session concertId).filter fun id => id ≠ "" with
      | none => exact ⟨rfl, .same⟩
      | some sessionId =>
          dsimp only
          cases hpoll : s.room.poll sessionId token now with
          | none => exact ⟨rfl, .same⟩
          | some answer =>
              dsimp only
              have hstep := poll_roomStep config hpoll
              split
              · exact ⟨rfl, hstep⟩
              · split <;> exact ⟨rfl, hstep⟩

/-- The inversion of a request: the clock does not go back, and the room makes a step at
    its new time. -/
theorem next_roomStep {input : Input} (hnext : next config s input = some s') :
    s.now ≤ s'.now ∧ RoomStep config s'.now s.room s'.room := by
  unfold next at hnext
  split at hnext
  · rename_i hguard
    cases hnext
    obtain ⟨hle, -⟩ := hguard
    rcases input with ⟨request, draw, now⟩
    cases request with
    | join concertId =>
        exact ⟨hle, join_roomStep config concertId (s.browser.session concertId) draw now s.room⟩
    | poll concertId sessionId =>
        show s.now ≤ (s.pollQueue concertId sessionId draw.token now).now ∧
          RoomStep config (s.pollQueue concertId sessionId draw.token now).now s.room
            (s.pollQueue concertId sessionId draw.token now).room
        unfold State.pollQueue
        cases hpoll : s.room.poll sessionId draw.token now with
        | none => exact ⟨hle, .same⟩
        | some answer => exact ⟨hle, poll_roomStep config hpoll⟩
    | access concertId requireToken =>
        obtain ⟨hnow, hstep⟩ := access_roomStep config concertId requireToken draw.token now s
        show s.now ≤ (s.requestPurchaseAccess concertId requireToken draw.token now).2.now ∧
          RoomStep config (s.requestPurchaseAccess concertId requireToken draw.token now).2.now
            s.room (s.requestPurchaseAccess concertId requireToken draw.token now).2.room
        rw [hnow]
        exact ⟨hle, hstep⟩
    | otherJoin concertId existing =>
        exact ⟨hle, join_roomStep config concertId existing draw now s.room⟩
    | otherPoll sessionId =>
        show s.now ≤ now ∧ RoomStep config now s.room
          (((s.room.poll sessionId draw.token now).map Prod.snd).getD s.room)
        cases hpoll : s.room.poll sessionId draw.token now with
        | none => exact ⟨hle, .same⟩
        | some answer => exact ⟨hle, poll_roomStep config hpoll⟩
  · cases hnext

/-! ## The sessions of a window -/

/-- The times of a session: it was created at a time that has come; one that has to wait
    does so for at least the shortest and less than the longest wait, any other is in. -/
structure Timed (now : Nat) (record : WaitingSessionRecord) : Prop where
  created : record.createdAt ≤ now
  shortest : record.waitingRoomRequired = true → record.createdAt + MIN_WAIT_MS ≤ record.admitAt
  longest : record.waitingRoomRequired = true → record.admitAt < record.createdAt + MAX_WAIT_MS
  atOnce : record.waitingRoomRequired = false → record.admitted = true

/-- A session of the past is one later on. -/
theorem Timed.later (h : Timed now record) (hle : now ≤ now') : Timed now' record :=
  ⟨h.created.trans hle, h.shortest, h.longest, h.atOnce⟩

/-- The join times of a concert that lie in the load window. -/
def Room.recentJoins (concertId : ConcertId) (now : Nat) (room : Room) : List Nat :=
  (room.joinTimestamps concertId).filter fun timestamp => now - timestamp < LOAD_WINDOW_MS

/-- What a new session of a concert is, and what the room is after it. -/
structure Joined (config : Config) (concertId : ConcertId) (now : Nat) (room : Room)
    (answer : WaitingSessionRecord × Room) : Prop where
  concert : answer.1.concertId = concertId
  created : answer.1.createdAt = now
  timed : Timed now answer.1
  sessions : answer.2.sessions = room.sessions ++ [answer.1]
  joins : ∀ c, answer.2.joinTimestamps c
    = if c = concertId then room.recentJoins concertId now ++ [now] else room.joinTimestamps c
  required : answer.1.waitingRoomRequired = true ↔ config.isForceWaitingRoom = true ∨
    config.joinThreshold ≤
      (room.recentJoins concertId now).length + room.countActiveWaitingSessions concertId
  waiting : (answer.2.toPollResponse answer.1 now).status = .waiting ↔
    answer.1.waitingRoomRequired = true

theorem waitingRecord_timed (concertId : ConcertId) (draw : Draw) (now : Nat) :
    Timed now (waitingRecord concertId draw now) := by
  have hlt := draw.wait.isLt
  refine ⟨Nat.le_refl now, fun _ => ?_, fun _ => ?_, ?_⟩
  · show now + MIN_WAIT_MS ≤ now + (MIN_WAIT_MS + draw.wait)
    omega
  · show now + (MIN_WAIT_MS + draw.wait) < now + MAX_WAIT_MS
    have hle : MIN_WAIT_MS ≤ MAX_WAIT_MS := by decide
    omega
  · intro h
    cases h

theorem admitImmediately_timed (concertId : ConcertId) (draw : Draw) (now : Nat) :
    Timed now (admitImmediately concertId false draw now) := by
  refine ⟨Nat.le_refl now, ?_, ?_, fun _ => rfl⟩
  · intro h
    cases h
  · intro h
    cases h

/-- Reading the load: the answer, and what it leaves of the join times. -/
theorem isWaitingRoomRequired_spec (config : Config) (concertId : ConcertId) (now : Nat)
    (room : Room) :
    ((room.isWaitingRoomRequired config concertId now).1 = true ↔
      config.isForceWaitingRoom = true ∨ config.joinThreshold ≤
        (room.recentJoins concertId now).length + room.countActiveWaitingSessions concertId) ∧
    ((room.isWaitingRoomRequired config concertId now).2 = room ∨
      (room.isWaitingRoomRequired config concertId now).2
        = room.pruneJoinTimestamps concertId now) := by
  unfold Room.isWaitingRoomRequired
  by_cases hforce : config.isForceWaitingRoom = true
  · rw [if_pos hforce]
    exact ⟨⟨fun _ => .inl hforce, fun _ => rfl⟩, .inl rfl⟩
  · rw [if_neg hforce]
    refine ⟨?_, .inr rfl⟩
    dsimp only
    rw [decide_eq_true_eq, or_iff_right hforce]
    simp only [Room.pruneJoinTimestamps, Function.update_self, Room.recentJoins,
      Room.countActiveWaitingSessions]

/-- A second look at the join times prunes nothing more. -/
theorem pruneJoinTimestamps_twice (concertId : ConcertId) (now : Nat) (room : Room) :
    (room.pruneJoinTimestamps concertId now).pruneJoinTimestamps concertId now
      = room.pruneJoinTimestamps concertId now := by
  simp [Room.pruneJoinTimestamps]

/-- A join is counted for its concert. -/
theorem recordJoin_joins (concertId : ConcertId) (now : Nat) (room : Room) (c : ConcertId) :
    (room.recordJoin concertId now).joinTimestamps c
      = if c = concertId then room.recentJoins concertId now ++ [now]
        else room.joinTimestamps c := by
  by_cases hc : c = concertId
  · rw [if_pos hc, hc]
    simp [Room.recordJoin, Room.pruneJoinTimestamps, Room.recentJoins]
  · rw [if_neg hc]
    simp [Room.recordJoin, Room.pruneJoinTimestamps, Function.update_of_ne hc]

/-- A join adds one session. -/
theorem join_joined (config : Config) (concertId : ConcertId) (draw : Draw) (now : Nat)
    (room : Room) :
    Joined config concertId now room (room.join config concertId none draw now) := by
  obtain ⟨hrequired, hroom⟩ := isWaitingRoomRequired_spec config concertId now room
  -- pruning twice at one time is pruning once
  have hrecord : ((room.isWaitingRoomRequired config concertId now).2).recordJoin concertId now
      = room.recordJoin concertId now := by
    rcases hroom with hroom | hroom
    · rw [hroom]
    · rw [hroom]
      unfold Room.recordJoin
      rw [pruneJoinTimestamps_twice]
  have hjoin : room.join config concertId none draw now
      = (if (room.isWaitingRoomRequired config concertId now).1 = true
          then waitingRecord concertId draw now else admitImmediately concertId false draw now,
        (room.recordJoin concertId now).add
          (if (room.isWaitingRoomRequired config concertId now).1 = true
            then waitingRecord concertId draw now
            else admitImmediately concertId false draw now)) := by
    rw [← hrecord]
    rfl
  rw [hjoin]
  -- the threshold decides between waiting and being let in at once
  by_cases hwait : (room.isWaitingRoomRequired config concertId now).1 = true
  · rw [if_pos hwait]
    exact ⟨rfl, rfl, waitingRecord_timed concertId draw now, rfl,
      recordJoin_joins concertId now room, ⟨fun _ => hrequired.mp hwait, fun _ => rfl⟩,
      ⟨fun _ => rfl, fun _ => rfl⟩⟩
  · rw [if_neg hwait]
    refine ⟨rfl, rfl, admitImmediately_timed concertId draw now, rfl,
      recordJoin_joins concertId now room, ⟨?_, fun h => absurd (hrequired.mpr h) hwait⟩, ?_⟩
    · intro h
      cases h
    · constructor
      · intro h
        cases h
      · intro h
        cases h

/-! ### Polls keep who came when -/

theorem polled_concertId (token : Token) (now : Nat) (record : WaitingSessionRecord) :
    (record.polled token now).concertId = record.concertId := by
  unfold WaitingSessionRecord.polled
  split <;> rfl

theorem polled_createdAt (token : Token) (now : Nat) (record : WaitingSessionRecord) :
    (record.polled token now).createdAt = record.createdAt := by
  unfold WaitingSessionRecord.polled
  split <;> rfl

theorem polled_required (token : Token) (now : Nat) (record : WaitingSessionRecord) :
    (record.polled token now).waitingRoomRequired = record.waitingRoomRequired := by
  unfold WaitingSessionRecord.polled
  split <;> rfl

theorem polled_admitAt (token : Token) (now : Nat) (record : WaitingSessionRecord) :
    (record.polled token now).admitAt = record.admitAt := by
  unfold WaitingSessionRecord.polled
  split <;> rfl

/-- A poll leaves the times of a session. -/
theorem Timed.polled (h : Timed now record) (token : Token) (now' : Nat) :
    Timed now (record.polled token now') := by
  constructor
  · rw [polled_createdAt]
    exact h.created
  · rw [polled_required, polled_createdAt, polled_admitAt]
    exact h.shortest
  · rw [polled_required, polled_createdAt, polled_admitAt]
    exact h.longest
  · rw [polled_required]
    intro hrequired
    rw [polled_of_admitted token now' (h.atOnce hrequired)]
    exact h.atOnce hrequired

/-- A count that does not look at the admission counts the same after a poll. -/
theorem countP_polled {p : WaitingSessionRecord → Bool} {token : Token} {sessionId : SessionId}
    (hp : ∀ r, p (WaitingSessionRecord.polled token now r) = p r)
    (sessions : List WaitingSessionRecord) :
    (RowTable.modify WaitingSessionRecord.sessionId sessionId
      (WaitingSessionRecord.polled token now) sessions).countP p = sessions.countP p := by
  rw [RowTable.modify, List.countP_map]
  congr 1
  funext r
  show p (if r.sessionId = sessionId then r.polled token now else r) = p r
  by_cases hid : r.sessionId = sessionId
  · rw [if_pos hid, hp]
  · rw [if_neg hid]

/-- The sessions of a concert created from a time on. -/
def cameSince (concertId : ConcertId) (a : Nat) (record : WaitingSessionRecord) : Bool :=
  record.concertId = concertId && a ≤ record.createdAt

theorem cameSince_polled (a : Nat) (token : Token) (now : Nat) (r : WaitingSessionRecord) :
    cameSince concertId a (r.polled token now) = cameSince concertId a r := by
  rw [cameSince, polled_concertId, polled_createdAt, cameSince]

/-- The join times are an index of the sessions: for a window that has not passed, the two
    agree on how many came in it. -/
structure Room.Indexed (now : Nat) (room : Room) : Prop where
  timed : ∀ record ∈ room.sessions, Timed now record
  past : ∀ c, ∀ t ∈ room.joinTimestamps c, t ≤ now
  counted : ∀ c a, now < a + LOAD_WINDOW_MS →
    room.sessions.countP (cameSince c a) = (room.joinTimestamps c).countP (a ≤ ·)

/-- The room stays in order while time passes. -/
theorem Room.Indexed.later (h : room.Indexed now) (hle : now ≤ now') : room.Indexed now' := by
  refine ⟨fun r hr => (h.timed r hr).later hle, fun c t ht => (h.past c t ht).trans hle, ?_⟩
  intro c a hwindow
  exact h.counted c a (by omega)

/-- The join times that a window still open has are recent. -/
theorem recentJoins_countP {a : Nat} (hwindow : now < a + LOAD_WINDOW_MS) (room : Room)
    (concertId : ConcertId) :
    (room.recentJoins concertId now).countP (a ≤ ·)
      = (room.joinTimestamps concertId).countP (a ≤ ·) := by
  rw [Room.recentJoins, List.countP_filter]
  refine List.countP_congr fun t _ => ?_
  simp only [Bool.and_eq_true, decide_eq_true_eq, and_iff_left_iff_imp]
  intro hat
  unfold LOAD_WINDOW_MS at hwindow ⊢
  omega

/-- A join keeps it in order. -/
theorem Joined.indexed {answer : WaitingSessionRecord × Room} (h : room.Indexed now)
    (hjoined : Joined config concertId now room answer) : answer.2.Indexed now := by
  refine ⟨?_, ?_, ?_⟩
  · rw [hjoined.sessions]
    exact List.forall_mem_append.mpr ⟨h.timed, List.forall_mem_singleton.mpr hjoined.timed⟩
  · intro c t ht
    rw [hjoined.joins] at ht
    by_cases hc : c = concertId
    · rw [if_pos hc] at ht
      rcases List.mem_append.mp ht with ht | ht
      · exact h.past concertId t (List.mem_filter.mp ht).1
      · exact Nat.le_of_eq (List.mem_singleton.mp ht)
    · rw [if_neg hc] at ht
      exact h.past c t ht
  · intro c a hwindow
    rw [hjoined.sessions, hjoined.joins, List.countP_append, h.counted c a hwindow]
    by_cases hc : c = concertId
    · subst hc
      rw [if_pos rfl, List.countP_append, recentJoins_countP hwindow, List.countP_singleton,
        List.countP_singleton, cameSince, hjoined.concert, hjoined.created]
      simp
    · have hother : cameSince c a answer.1 = false := by
        rw [cameSince, hjoined.concert]
        simp [Ne.symm hc]
      rw [if_neg hc, List.countP_singleton, hother]
      rfl

/-- So does every step. -/
theorem RoomStep.indexed (h : room.Indexed now) (hstep : RoomStep config now room room') :
    room'.Indexed now := by
  cases hstep with
  | same => exact h
  | joined concertId draw => exact (join_joined config concertId draw now room).indexed h
  | polled sessionId token =>
      refine ⟨?_, h.past, ?_⟩
      · intro r' hr'
        obtain ⟨r, hr, rfl⟩ := RowTable.mem_modify hr'
        split
        · exact (h.timed r hr).polled token now
        · exact h.timed r hr
      · intro c a hwindow
        rw [countP_polled (fun r => cameSince_polled a token now r)]
        exact h.counted c a hwindow

/-- A server that has just been started. -/
def Room.unused : Room := ⟨[], fun _ => []⟩

theorem unused_indexed (now : Nat) : Room.unused.Indexed now := by
  refine ⟨?_, ?_, fun _ _ _ => rfl⟩
  · intro record hrecord
    cases hrecord
  · intro c t ht
    cases ht

/-- So does a whole run. -/
theorem run_indexed (h₀ : s₀.room = Room.unused)
    (hr : Run (next config) (fun _ => True) s₀ s) :
    s.room.Indexed s.now := by
  refine hr.inv (I := fun s => s.room.Indexed s.now) ?_ (h₀ ▸ unused_indexed s₀.now)
  intro s input s' hs _ hnext
  obtain ⟨hle, hstep⟩ := next_roomStep hnext
  exact hstep.indexed (hs.later hle)

/-- The recent joins are the sessions created in the load window. -/
theorem recentJoins_length (h : room.Indexed now) (concertId : ConcertId) :
    (room.recentJoins concertId now).length
      = room.sessions.countP (cameSince concertId (now + 1 - LOAD_WINDOW_MS)) := by
  rw [h.counted concertId _ (by unfold LOAD_WINDOW_MS; omega), Room.recentJoins,
    ← List.countP_eq_length_filter]
  refine List.countP_congr fun t _ => ?_
  rw [decide_eq_true_eq, decide_eq_true_eq]
  unfold LOAD_WINDOW_MS
  omega

/-! ## Who is let in at once -/

/-- The client has no session of the concert to come back to. -/
def Unknown (concertId : ConcertId) (existing : Option SessionId) (room : Room) : Prop :=
  ∀ id ∈ existing, ∀ record ∈ room.find id, record.concertId ≠ concertId

/-- A join with an unknown session begins anew. -/
theorem join_of_unknown {existing : Option SessionId} (h : Unknown concertId existing room)
    (draw : Draw) (now : Nat) :
    room.join config concertId existing draw now = room.join config concertId none draw now := by
  have hnone : ((existing.filter fun id => id ≠ "").bind fun id => room.find id).filter
      (fun existing => existing.concertId = concertId) = none := by
    rw [Option.filter_eq_none_iff]
    intro record hrecord
    obtain ⟨id, hid, hfind⟩ := Option.bind_eq_some_iff.mp hrecord
    have hother := h id (Option.filter_eq_some_iff.mp hid).1 record hfind
    simpa using hother
  unfold Room.join
  rw [hnone]
  rfl

/-- **Who has to wait**: after every run of requests to a server, a client that joins anew is
    told to wait exactly where waiting is forced, or the sessions of the concert created in
    the last five minutes and its sessions that still wait, each counted by itself, reach the
    threshold.  A session that came lately and waits counts twice. -/
theorem waits_iff (h₀ : s₀.room = Room.unused) (hr : Run (next config) (fun _ => True) s₀ s)
    (hle : s.now ≤ now) {existing : Option SessionId} (hnew : Unknown concertId existing s.room)
    (draw : Draw) :
    ((s.room.join config concertId existing draw now).2.toPollResponse
        (s.room.join config concertId existing draw now).1 now).status = .waiting ↔
      config.isForceWaitingRoom = true ∨ config.joinThreshold ≤
        s.room.sessions.countP (cameSince concertId (now + 1 - LOAD_WINDOW_MS)) +
          s.room.countActiveWaitingSessions concertId := by
  have hjoined := join_joined config concertId draw now s.room
  have hindexed : s.room.Indexed now := (run_indexed h₀ hr).later hle
  rw [join_of_unknown hnew, hjoined.waiting, hjoined.required, recentJoins_length hindexed]

/-- A waiting room that lets in one session at a time. -/
def oneAtATime : Config := ⟨false, 1⟩

/-- The first client is let in. -/
def letIn : State := empty.serve oneAtATime ⟨.join "c1", drawOf "s1" firstToken, 0⟩

theorem letIn_run : Run (next oneAtATime) (fun _ => True) empty letIn :=
  Relation.ReflTransGen.single ⟨⟨.join "c1", drawOf "s1" firstToken, 0⟩, trivial, rfl⟩

theorem waits_iff_letIn :
    ((letIn.room.join oneAtATime "c1" none (drawOf "s2" secondToken) 1000).2.toPollResponse
      (letIn.room.join oneAtATime "c1" none (drawOf "s2" secondToken) 1000).1 1000).status
        = .waiting := by
  have hnew : Unknown "c1" none letIn.room := by
    intro id hid
    cases hid
  exact (waits_iff rfl letIn_run (by decide) hnew (drawOf "s2" secondToken)).mpr (by decide)

/-- The sessions of a concert let in without waiting, created in the window from `a` on. -/
def letInAtOnce (concertId : ConcertId) (a : Nat) (record : WaitingSessionRecord) : Bool :=
  record.concertId = concertId && !record.waitingRoomRequired &&
    (a ≤ record.createdAt && record.createdAt < a + LOAD_WINDOW_MS)

theorem letInAtOnce_polled (a : Nat) (token : Token) (now : Nat) (r : WaitingSessionRecord) :
    letInAtOnce concertId a (r.polled token now) = letInAtOnce concertId a r := by
  rw [letInAtOnce, polled_concertId, polled_required, polled_createdAt, letInAtOnce]

/-- No window holds more sessions let in at once than the threshold. -/
def Room.Bounded (config : Config) (room : Room) : Prop :=
  ∀ c a, room.sessions.countP (letInAtOnce c a) ≤ config.joinThreshold

/-- One more is let in at once only while the window has room. -/
theorem Joined.bounded {answer : WaitingSessionRecord × Room} (h : room.Indexed now)
    (hbounded : room.Bounded config) (hjoined : Joined config concertId now room answer) :
    answer.2.Bounded config := by
  intro c a
  rw [hjoined.sessions, List.countP_append, List.countP_singleton]
  by_cases hin : letInAtOnce c a answer.1 = true
  · rw [if_pos hin]
    simp only [letInAtOnce, hjoined.concert, hjoined.created, Bool.and_eq_true, decide_eq_true_eq,
      Bool.not_eq_eq_eq_not, Bool.not_true] at hin
    obtain ⟨⟨rfl, hrequired⟩, hle, hwindow⟩ := hin
    have hload : ¬ config.joinThreshold ≤ (room.recentJoins concertId now).length +
        room.countActiveWaitingSessions concertId := by
      intro hfull
      rw [hjoined.required.mpr (.inr hfull)] at hrequired
      cases hrequired
    have hcount : room.sessions.countP (letInAtOnce concertId a)
        ≤ (room.recentJoins concertId now).length := by
      calc room.sessions.countP (letInAtOnce concertId a)
          ≤ room.sessions.countP (cameSince concertId a) := by
            refine List.countP_mono_left fun r _ hr => ?_
            simp only [letInAtOnce, cameSince, Bool.and_eq_true, decide_eq_true_eq] at hr ⊢
            exact ⟨hr.1.1, hr.2.1⟩
        _ = (room.recentJoins concertId now).countP (a ≤ ·) := by
            rw [h.counted concertId a hwindow, recentJoins_countP hwindow]
        _ ≤ (room.recentJoins concertId now).length := List.countP_le_length
    omega
  · rw [if_neg hin]
    exact hbounded c a

/-- Every step keeps those admitted at once bounded. -/
theorem RoomStep.bounded (h : room.Indexed now) (hbounded : room.Bounded config)
    (hstep : RoomStep config now room room') : room'.Bounded config := by
  cases hstep with
  | same => exact hbounded
  | polled sessionId token =>
      intro c a
      rw [countP_polled (fun r => letInAtOnce_polled a token now r)]
      exact hbounded c a
  | joined concertId draw =>
      exact (join_joined config concertId draw now room).bounded h hbounded

/-- **The door is not rushed**: after every run of requests to a server, for every concert and
    every window of five minutes, at most as many of the sessions created in it were let in
    without waiting as the join threshold says. -/
theorem admitted_at_once_bounded (h₀ : s₀.room = Room.unused)
    (hr : Run (next config) (fun _ => True) s₀ s) (concertId : ConcertId) (a : Nat) :
    s.room.sessions.countP (letInAtOnce concertId a) ≤ config.joinThreshold := by
  have hinv : s.room.Indexed s.now ∧ s.room.Bounded config := by
    refine hr.inv (I := fun s => s.room.Indexed s.now ∧ s.room.Bounded config) ?_ ?_
    · intro s input s' hs _ hnext
      obtain ⟨hle, hstep⟩ := next_roomStep hnext
      have hindexed := hs.1.later hle
      exact ⟨hstep.indexed hindexed, hstep.bounded hindexed hs.2⟩
    · rw [h₀]
      exact ⟨unused_indexed s₀.now, fun _ _ => Nat.zero_le _⟩
  exact hinv.2 concertId a

theorem admitted_at_once_bounded_letIn :
    letIn.room.sessions.countP (letInAtOnce "c1" 0) = 1 ∧
      letIn.room.sessions.countP (letInAtOnce "c1" 0) ≤ 1 :=
  ⟨by decide, admitted_at_once_bounded rfl letIn_run "c1" 0⟩

/-! ## Places in the queue -/

/-- What `getQueuePosition` counts. -/
def WaitingSessionRecord.isAhead (record other : WaitingSessionRecord) : Bool :=
  other.concertId = record.concertId && other.waitingRoomRequired && !other.admitted &&
    (other.admitAt < record.admitAt ||
      other.admitAt = record.admitAt && other.createdAt < record.createdAt)

/-- The position is one more than those ahead. -/
theorem getQueuePosition_eq (record : WaitingSessionRecord) (room : Room) :
    room.getQueuePosition record = 1 + room.sessions.countP record.isAhead := rfl

/-- A session that may still get ahead: it came before the difference of the waits was up. -/
def WaitingSessionRecord.overtaker (record other : WaitingSessionRecord) : Bool :=
  other.concertId = record.concertId &&
    other.createdAt < record.createdAt + (MAX_WAIT_MS - MIN_WAIT_MS)

theorem overtaker_polled (record : WaitingSessionRecord) (token : Token) (now : Nat)
    (r : WaitingSessionRecord) : record.overtaker (r.polled token now) = record.overtaker r := by
  unfold WaitingSessionRecord.overtaker
  rw [polled_concertId, polled_createdAt]

/-- A poll takes nobody ahead. -/
theorem isAhead_of_polled {token : Token} {r : WaitingSessionRecord}
    (h : record.isAhead (r.polled token now) = true) : record.isAhead r = true := by
  by_cases hdue : (!r.admitted && r.waitingRoomRequired && r.admitAt ≤ now) = true
  · rw [WaitingSessionRecord.polled, if_pos hdue] at h
    simp [WaitingSessionRecord.isAhead] at h
  · rw [WaitingSessionRecord.polled, if_neg hdue] at h
    exact h

/-- Who joins after and gets ahead has come before the difference of the waits was up. -/
theorem overtaker_of_ahead {other : WaitingSessionRecord} (hrecord : Timed now record)
    (hrequired : record.waitingRoomRequired = true) (hother : Timed now' other)
    (hlater : now ≤ other.createdAt) (h : record.isAhead other = true) :
    record.overtaker other = true := by
  simp only [WaitingSessionRecord.isAhead, WaitingSessionRecord.overtaker, Bool.and_eq_true,
    Bool.or_eq_true, decide_eq_true_eq] at h ⊢
  obtain ⟨⟨⟨hconcert, hwaits⟩, -⟩, hbefore⟩ := h
  have hshortest := hother.shortest hwaits
  have hlongest := hrecord.longest hrequired
  have hcreated := hrecord.created
  refine ⟨hconcert, ?_⟩
  have hle : MIN_WAIT_MS ≤ MAX_WAIT_MS := by decide
  rcases hbefore with hbefore | ⟨-, hbefore⟩
  · omega
  · omega

/-- What requests from a time on do to the queue before a session: the sessions stay in
    their order, and only overtakers among the new ones get ahead of it. -/
structure Behind (record : WaitingSessionRecord) (start : Nat) (room room' : Room) : Prop where
  length : room.sessions.length ≤ room'.sessions.length
  new : ∀ r ∈ room'.sessions.drop room.sessions.length, start ≤ r.createdAt
  ahead : room'.sessions.countP record.isAhead ≤ room.sessions.countP record.isAhead +
    (room'.sessions.drop room.sessions.length).countP record.overtaker

/-- Nobody has come since. -/
theorem Behind.refl (record : WaitingSessionRecord) (start : Nat) (room : Room) :
    Behind record start room room := by
  refine ⟨Nat.le_refl _, ?_, Nat.le_add_right _ _⟩
  intro r hr
  rw [List.drop_length] at hr
  cases hr

theorem modify_drop (sessionId : SessionId) (f : WaitingSessionRecord → WaitingSessionRecord)
    (n : Nat) (sessions : List WaitingSessionRecord) :
    (RowTable.modify WaitingSessionRecord.sessionId sessionId f sessions).drop n
      = RowTable.modify WaitingSessionRecord.sessionId sessionId f (sessions.drop n) :=
  List.map_drop.symm

variable {room₀ : Room} {start : Nat}

/-- A poll brings nobody ahead. -/
theorem Behind.polled (h : Behind record start room₀ room) (sessionId : SessionId)
    (token : Token) (now : Nat) :
    Behind record start room₀ { room with
      sessions := RowTable.modify WaitingSessionRecord.sessionId sessionId
        (WaitingSessionRecord.polled token now) room.sessions } := by
  refine ⟨?_, ?_, ?_⟩
  · show room₀.sessions.length ≤ (RowTable.modify _ _ _ room.sessions).length
    rw [RowTable.modify, List.length_map]
    exact h.length
  · intro r' hr'
    rw [modify_drop] at hr'
    obtain ⟨r, hr, rfl⟩ := RowTable.mem_modify hr'
    split
    · rw [polled_createdAt]
      exact h.new r hr
    · exact h.new r hr
  · have hfewer : (RowTable.modify WaitingSessionRecord.sessionId sessionId
        (WaitingSessionRecord.polled token now) room.sessions).countP record.isAhead
        ≤ room.sessions.countP record.isAhead := by
      rw [RowTable.modify, List.countP_map]
      refine List.countP_mono_left fun r _ hr => ?_
      have hr : record.isAhead (if r.sessionId = sessionId then r.polled token now else r) = true :=
        hr
      split at hr
      · exact isAhead_of_polled hr
      · exact hr
    rw [modify_drop, countP_polled (fun r => overtaker_polled record token now r)]
    exact hfewer.trans h.ahead

/-- A join brings at most its own session. -/
theorem Behind.joined {answer : WaitingSessionRecord × Room} (hle : start ≤ now)
    (hrecord : Timed start record) (hrequired : record.waitingRoomRequired = true)
    (h : Behind record start room₀ room) (hjoined : Joined config concertId now room answer) :
    Behind record start room₀ answer.2 := by
  refine ⟨?_, ?_, ?_⟩
  · rw [hjoined.sessions, List.length_append]
    exact h.length.trans (Nat.le_add_right _ _)
  · rw [hjoined.sessions, List.drop_append_of_le_length h.length]
    exact List.forall_mem_append.mpr
      ⟨h.new, List.forall_mem_singleton.mpr (hjoined.created ▸ hle)⟩
  · rw [hjoined.sessions, List.drop_append_of_le_length h.length, List.countP_append,
      List.countP_append]
    have hnew : [answer.1].countP record.isAhead ≤ [answer.1].countP record.overtaker := by
      refine List.countP_mono_left fun r hr hahead => ?_
      rw [List.mem_singleton] at hr
      subst hr
      exact overtaker_of_ahead hrecord hrequired hjoined.timed (hjoined.created ▸ hle) hahead
    have hahead := h.ahead
    omega

/-- So does every step. -/
theorem Behind.step (hle : start ≤ now) (hrecord : Timed start record)
    (hrequired : record.waitingRoomRequired = true) (h : Behind record start room₀ room)
    (hstep : RoomStep config now room room') : Behind record start room₀ room' := by
  cases hstep with
  | same => exact h
  | polled sessionId token => exact h.polled sessionId token now
  | joined concertId draw =>
      exact h.joined hle hrecord hrequired (join_joined config concertId draw now room)

/-- **Overtaking ends**: over every run of a server on which a session waits, its place in the
    queue gets worse by at most the clients of the concert that joined in the run and within
    26 seconds of it; so from then on it never gets worse. -/
theorem position_rises_by_joins (h₀ : s₀.room = Room.unused)
    (hr₀ : Run (next config) (fun _ => True) s₀ s) (hr : Run (next config) (fun _ => True) s s')
    (hmem : record ∈ s.room.sessions) (hrequired : record.waitingRoomRequired = true) :
    s'.room.getQueuePosition record ≤ s.room.getQueuePosition record +
        (s'.room.sessions.drop s.room.sessions.length).countP record.overtaker ∧
      (record.createdAt + (MAX_WAIT_MS - MIN_WAIT_MS) ≤ s.now →
        s'.room.getQueuePosition record ≤ s.room.getQueuePosition record) := by
  have hrecord : Timed s.now record := (run_indexed h₀ hr₀).timed record hmem
  have hinv : s.now ≤ s'.now ∧ Behind record s.now s.room s'.room := by
    refine hr.inv (I := fun s' => s.now ≤ s'.now ∧ Behind record s.now s.room s'.room) ?_
      ⟨Nat.le_refl _, Behind.refl record s.now s.room⟩
    intro s₁ input s₂ hs _ hnext
    obtain ⟨hle, hstep⟩ := next_roomStep hnext
    have hle := hs.1.trans hle
    exact ⟨hle, hs.2.step hle hrecord hrequired hstep⟩
  have hahead := hinv.2.ahead
  rw [getQueuePosition_eq, getQueuePosition_eq]
  refine ⟨by omega, fun hold => ?_⟩
  have hnone : (s'.room.sessions.drop s.room.sessions.length).countP record.overtaker = 0 := by
    rw [List.countP_eq_zero]
    intro r hr hovertaker
    have hcreated := hinv.2.new r hr
    simp only [WaitingSessionRecord.overtaker, Bool.and_eq_true, decide_eq_true_eq] at hovertaker
    omega
  omega

theorem five_lt : 5000 < MAX_WAIT_MS - MIN_WAIT_MS := by decide

/-- The third token that is drawn. -/
def thirdToken : Token := ⟨"wr_3", by decide⟩

/-- The fourth token that is drawn. -/
def fourthToken : Token := ⟨"wr_4", by decide⟩

/-- What the second client's join draws. -/
def secondDraw : Draw := ⟨"s2", secondToken, ⟨5000, five_lt⟩⟩

/-- A second client waits, for 17 seconds. -/
def queued : State := letIn.serve oneAtATime ⟨.otherJoin "c1" none, secondDraw, 1000⟩

/-- The session of the second client. -/
def second : WaitingSessionRecord := waitingRecord "c1" secondDraw 1000

/-- A third comes a second later, and waits for 12. -/
def overtaken : State :=
  queued.serve oneAtATime ⟨.otherJoin "c1" none, drawOf "s3" thirdToken, 2000⟩

theorem queued_run : Run (next oneAtATime) (fun _ => True) empty queued :=
  letIn_run.tail ⟨⟨.otherJoin "c1" none, secondDraw, 1000⟩, trivial, rfl⟩

theorem overtaken_run : Run (next oneAtATime) (fun _ => True) queued overtaken :=
  Relation.ReflTransGen.single
    ⟨⟨.otherJoin "c1" none, drawOf "s3" thirdToken, 2000⟩, trivial, rfl⟩

theorem position_rises_by_joins_overtaken :
    queued.room.getQueuePosition second = 1 ∧ overtaken.room.getQueuePosition second = 2 ∧
      overtaken.room.getQueuePosition second ≤ queued.room.getQueuePosition second +
        (overtaken.room.sessions.drop queued.room.sessions.length).countP second.overtaker :=
  ⟨by decide, by decide,
    (position_rises_by_joins rfl queued_run overtaken_run (by decide) rfl).1⟩

/-- A session that is due has a token after its poll. -/
theorem polled_of_due (hok : Proper record) (htimed : Timed now record)
    (hdue : record.waitingRoomRequired = true → record.admitAt ≤ now') (token : Token) :
    ∃ token', (record.polled token now').token = some token' := by
  by_cases hadmitted : record.admitted = true
  · rw [polled_of_admitted token now' hadmitted]
    rw [hok.admitted] at hadmitted
    exact Option.isSome_iff_exists.mp hadmitted
  · have hrequired : record.waitingRoomRequired = true := by
      by_contra hnot
      exact hadmitted (htimed.atOnce (Bool.eq_false_iff.mpr hnot))
    refine ⟨token, ?_⟩
    unfold WaitingSessionRecord.polled
    rw [if_pos (by simp [hadmitted, hrequired, hdue hrequired])]

/-- **Everybody gets in**: in every state of a server, whoever polls for a session that was
    created at least the longest wait ago is answered with a token. -/
theorem admitted_by_longest_wait (h₀ : s₀.room = Room.unused)
    (hr : Run (next config) (fun _ => True) s₀ s) (hmem : record ∈ s.room.sessions)
    (hlate : record.createdAt + MAX_WAIT_MS ≤ now) (token : Token) :
    ∃ answer, s.room.poll record.sessionId token now = some answer ∧
      (answer.2.toPollResponse answer.1 now).status = .admitted ∧
      (answer.2.toPollResponse answer.1 now).token.isSome = true := by
  have htimed := (run_indexed h₀ hr).timed record hmem
  have hok₀ : s₀.room.Ok := by
    rw [h₀]
    exact empty_ok
  have hok := (run_follows hok₀ hr).ok
  have hproper := hok.proper hmem
  have hpolled : Proper (record.polled token now) := polled_proper hproper
  have hfind : s.room.find record.sessionId = some record :=
    RowTable.lookup_of_mem hok.keyed hmem
  have hdue : record.waitingRoomRequired = true → record.admitAt ≤ now := by
    intro hrequired
    have hlongest := htimed.longest hrequired
    omega
  obtain ⟨token', htoken⟩ := polled_of_due hproper htimed hdue token
  unfold Room.poll
  rw [hfind]
  refine ⟨_, rfl, ?_⟩
  obtain ⟨hstatus, hanswer, -⟩ :=
    toPollResponse_admitted _ now hpolled htoken
  refine ⟨hstatus, ?_⟩
  rw [hanswer]
  rfl

theorem admitted_by_longest_wait_second :
    ∃ answer, queued.room.poll "s2" fourthToken 39000 = some answer ∧
      (answer.2.toPollResponse answer.1 39000).status = .admitted ∧
      (answer.2.toPollResponse answer.1 39000).token.isSome = true :=
  have hmem : second ∈ queued.room.sessions := by decide
  admitted_by_longest_wait rfl queued_run hmem (by decide) fourthToken

end WaitingRoom
