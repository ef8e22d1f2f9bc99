import TicketBox.WaitingRoom
import Mathlib.Data.List.Basic

/-! # Access on a token

    The room gives each token one expiry and never changes it, and what the browser
    stores of a token is what the room keeps (`Follows`).  So a live record is safe.
    Without one the room is asked for the stored session, and answers for an admitted
    session with its token, whether that has expired or not (`Stale`). -/

namespace WaitingRoom

open Machine

variable {room room' : Room} {record : WaitingSessionRecord}

/-! ## What the room keeps -/

/-- The room keeps a token with an expiry. -/
def Room.Keeps (room : Room) (token : Token) (expiresAt : Nat) : Prop :=
  ∃ record ∈ room.sessions, record.token = some token ∧ record.tokenExpiresAt = some expiresAt

/-- A room as its requests leave it: the admitted sessions are those with a token, each
    with an expiry and a token of its own. -/
structure Room.Ok (room : Room) : Prop where
  keyed : RowTable.Keyed WaitingSessionRecord.sessionId room.sessions
  admitted : ∀ record ∈ room.sessions, record.admitted = record.token.isSome
  expires : ∀ record ∈ room.sessions, record.tokenExpiresAt.isSome = record.token.isSome
  once : ∀ record ∈ room.sessions, ∀ record' ∈ room.sessions, ∀ token,
    record.token = some token → record'.token = some token → record = record'

/-- A token has one expiry. -/
theorem Room.Keeps.unique {token : Token} {e e' : Nat} (hok : room.Ok) (h : room.Keeps token e)
    (h' : room.Keeps token e') : e = e' := by
  obtain ⟨record, hmem, htoken, he⟩ := h
  obtain ⟨record', hmem', htoken', he'⟩ := h'
  rw [hok.once record hmem record' hmem' token htoken htoken', he'] at he
  exact (Option.some.inj he).symm

/-- What a request of the room leaves: a room in order that keeps every token it kept,
    and the record it answers with. -/
structure Served (room : Room) (answer : WaitingSessionRecord × Room) : Prop where
  ok : answer.2.Ok
  keeps : ∀ token e, room.Keeps token e → answer.2.Keeps token e
  mem : answer.1 ∈ answer.2.sessions

/-- The token of the record that is answered is kept. -/
theorem Served.keeps_of_mem {answer : WaitingSessionRecord × Room} {token : Token} {e : Nat}
    (h : Served room answer) (htoken : answer.1.token = some token)
    (he : answer.1.tokenExpiresAt = some e) : answer.2.Keeps token e :=
  ⟨answer.1, h.mem, htoken, he⟩

/-- A new record is in order by itself. -/
structure Proper (record : WaitingSessionRecord) : Prop where
  admitted : record.admitted = record.token.isSome
  expires : record.tokenExpiresAt.isSome = record.token.isSome

theorem waitingRecord_proper (concertId : ConcertId) (draw : Draw) (now : Nat) :
    Proper (waitingRecord concertId draw now) := ⟨rfl, rfl⟩

theorem admitImmediately_proper (concertId : ConcertId) (required : Bool) (draw : Draw) (now : Nat) :
    Proper (admitImmediately concertId required draw now) := ⟨rfl, rfl⟩

/-- A new session is served. -/
theorem add_served (hok : room.Ok) (hproper : Proper record)
    (hid : ∀ r ∈ room.sessions, r.sessionId ≠ record.sessionId)
    (htoken : ∀ r ∈ room.sessions, ∀ token, record.token = some token → r.token ≠ some token) :
    Served room (record, room.add record) := by
  refine ⟨⟨?_, ?_, ?_, ?_⟩, ?_, List.mem_append_right _ (List.mem_singleton_self _)⟩
  · exact hok.keyed.append (RowTable.lookup_eq_none.mpr hid)
  · exact List.forall_mem_append.mpr ⟨hok.admitted, List.forall_mem_singleton.mpr hproper.admitted⟩
  · exact List.forall_mem_append.mpr ⟨hok.expires, List.forall_mem_singleton.mpr hproper.expires⟩
  · intro r hr r' hr' token hrt hrt'
    rcases List.mem_append.mp hr with hr | hr <;> rcases List.mem_append.mp hr' with hr' | hr'
    · exact hok.once r hr r' hr' token hrt hrt'
    · rw [List.mem_singleton] at hr'
      exact absurd hrt (htoken r hr token (hr' ▸ hrt'))
    · rw [List.mem_singleton] at hr
      exact absurd hrt' (htoken r' hr' token (hr ▸ hrt))
    · rw [List.mem_singleton] at hr hr'
      exact hr.trans hr'.symm
  · rintro token e ⟨r, hr, hkept⟩
    exact ⟨r, List.mem_append_left _ hr, hkept⟩

theorem isWaitingRoomRequired_sessions (config : Config) (concertId : ConcertId) (now : Nat)
    (room : Room) : (room.isWaitingRoomRequired config concertId now).2.sessions = room.sessions := by
  unfold Room.isWaitingRoomRequired
  split <;> rfl

/-- Of the room only its sessions count. -/
theorem Served.of_sessions {answer : WaitingSessionRecord × Room} (h : Served room' answer)
    (hsessions : room'.sessions = room.sessions) : Served room answer := by
  refine ⟨h.ok, fun token e hkept => h.keeps token e ?_, h.mem⟩
  rw [Room.Keeps, hsessions]
  exact hkept

theorem Room.Ok.of_sessions (h : room.Ok) (hsessions : room'.sessions = room.sessions) :
    room'.Ok := by
  constructor
  · rw [hsessions]
    exact h.keyed
  · rw [hsessions]
    exact h.admitted
  · rw [hsessions]
    exact h.expires
  · rw [hsessions]
    exact h.once

/-- A join is served by a session of the room. -/
theorem join_served (config : Config) (concertId : ConcertId) (existing : Option SessionId)
    {draw : Draw} (now : Nat) (hok : room.Ok) (hfresh : draw.Fresh room) :
    Served room (room.join config concertId existing draw now) := by
  unfold Room.join
  split
  · rename_i found hfound
    obtain ⟨hbind, -⟩ := Option.filter_eq_some_iff.mp hfound
    obtain ⟨id, -, hfind⟩ := Option.bind_eq_some_iff.mp hbind
    exact ⟨hok, fun _ _ h => h, RowTable.lookup_mem hfind⟩
  · have hsessions : ((room.isWaitingRoomRequired config concertId now).2.recordJoin concertId
        now).sessions = room.sessions := isWaitingRoomRequired_sessions config concertId now room
    have hfresh' : ∀ r ∈ ((room.isWaitingRoomRequired config concertId now).2.recordJoin concertId
        now).sessions, r.sessionId ≠ draw.sessionId ∧ r.token ≠ some draw.token := by
      rw [hsessions]
      exact hfresh
    refine Served.of_sessions (add_served (hok.of_sessions hsessions) ?_ ?_ ?_) hsessions
    · split
      · exact waitingRecord_proper concertId draw now
      · exact admitImmediately_proper concertId false draw now
    · intro r hr
      split <;> exact (hfresh' r hr).1
    · intro r hr token htoken
      split at htoken
      · cases htoken
      · cases htoken
        exact (hfresh' r hr).2

/-! ## Polls of the room -/

theorem polled_sessionId (token : Token) (now : Nat) (record : WaitingSessionRecord) :
    (record.polled token now).sessionId = record.sessionId := by
  unfold WaitingSessionRecord.polled
  split <;> rfl

/-- A session that is admitted stays as it is. -/
theorem polled_of_admitted (token : Token) (now : Nat) (h : record.admitted = true) :
    record.polled token now = record := by
  simp [WaitingSessionRecord.polled, h]

theorem polled_proper {token : Token} {now : Nat} (h : Proper record) :
    Proper (record.polled token now) := by
  unfold WaitingSessionRecord.polled
  split
  · exact ⟨rfl, rfl⟩
  · exact h

/-- The token a session has after a poll is the one it had, or the new one. -/
theorem polled_token {token token' : Token} {now : Nat} (h : Proper record)
    (htoken : (record.polled token now).token = some token') :
    record.token = some token' ∧ record.polled token now = record ∨ token' = token := by
  by_cases hadmitted : record.admitted = true
  · rw [polled_of_admitted token now hadmitted] at htoken
    exact .inl ⟨htoken, polled_of_admitted token now hadmitted⟩
  · unfold WaitingSessionRecord.polled at htoken
    split at htoken
    · cases htoken
      exact .inr rfl
    · rw [h.admitted, htoken] at hadmitted
      exact absurd rfl hadmitted

/-- An expiry a session has stays; a new one is a lifetime away. -/
theorem polled_expiry {token : Token} {now e : Nat} (h : Proper record)
    (he : (record.polled token now).tokenExpiresAt = some e) :
    record.tokenExpiresAt = some e ∨ record.tokenExpiresAt = none ∧ e = now + TOKEN_TTL_MS := by
  by_cases hadmitted : record.admitted = true
  · rw [polled_of_admitted token now hadmitted] at he
    exact .inl he
  · have hnone : record.tokenExpiresAt = none := by
      have hexpires := h.expires
      rw [← h.admitted] at hexpires
      simpa [hadmitted] using hexpires
    unfold WaitingSessionRecord.polled at he
    split at he
    · cases he
      exact .inr ⟨hnone, rfl⟩
    · exact .inl he

/-- Every session of the room is proper. -/
theorem Room.Ok.proper (hok : room.Ok) (hmem : record ∈ room.sessions) : Proper record :=
  ⟨hok.admitted record hmem, hok.expires record hmem⟩

/-- So is a poll. -/
theorem poll_served {sessionId : SessionId} {token : Token} {now : Nat}
    {answer : WaitingSessionRecord × Room} (hok : room.Ok)
    (hfresh : ∀ r ∈ room.sessions, r.token ≠ some token)
    (h : room.poll sessionId token now = some answer) : Served room answer := by
  obtain ⟨record, hfind, rfl⟩ := Option.map_eq_some_iff.mp h
  have hrecord : record ∈ room.sessions := RowTable.lookup_mem hfind
  have hkey : record.sessionId = sessionId := RowTable.lookup_key hfind
  -- the only row that is changed is the one looked up
  have hrow : ∀ r ∈ room.sessions, (if r.sessionId = sessionId then r.polled token now else r)
      = if r = record then record.polled token now else r := by
    intro r hr
    by_cases hid : r.sessionId = sessionId
    · have heq := RowTable.eq_of_key hok.keyed hr hrecord (hid.trans hkey.symm)
      rw [if_pos hid, if_pos heq, heq]
    · have hne : r ≠ record := by
        rintro rfl
        exact hid hkey
      rw [if_neg hid, if_neg hne]
  have hmem : ∀ {r'}, r' ∈ RowTable.modify WaitingSessionRecord.sessionId sessionId
      (WaitingSessionRecord.polled token now) room.sessions →
      ∃ r ∈ room.sessions, r' = if r = record then record.polled token now else r := by
    intro r' hr'
    obtain ⟨r, hr, rfl⟩ := RowTable.mem_modify hr'
    exact ⟨r, hr, hrow r hr⟩
  have hproper : ∀ r ∈ room.sessions, Proper (if r = record then record.polled token now else r) := by
    intro r hr
    split
    · exact polled_proper (hok.proper hrecord)
    · exact hok.proper hr
  refine ⟨⟨hok.keyed.modify fun r => polled_sessionId token now r, ?_, ?_, ?_⟩, ?_,
    RowTable.mem_modify_self hfind⟩
  · intro r' hr'
    obtain ⟨r, hr, rfl⟩ := hmem hr'
    exact (hproper r hr).admitted
  · intro r' hr'
    obtain ⟨r, hr, rfl⟩ := hmem hr'
    exact (hproper r hr).expires
  · have hold : ∀ r ∈ room.sessions, ∀ token', token' ≠ token →
        (if r = record then record.polled token now else r).token = some token' →
        r.token = some token' ∧ (if r = record then record.polled token now else r) = r := by
      intro r hr token' hne htoken'
      split at htoken'
      · rename_i heq
        obtain ⟨hsame, hadmit⟩ :=
          (polled_token (hok.proper hrecord) htoken').resolve_right hne
        exact ⟨heq ▸ hsame, by rw [if_pos heq, hadmit, heq]⟩
      · rename_i hne'
        exact ⟨htoken', if_neg hne'⟩
    have hnew : ∀ r ∈ room.sessions,
        (if r = record then record.polled token now else r).token = some token → r = record := by
      intro r hr htoken
      by_contra hne
      rw [if_neg hne] at htoken
      exact hfresh r hr htoken
    intro r₁' hr₁' r₂' hr₂' token' h₁ h₂
    obtain ⟨r₁, hr₁, rfl⟩ := hmem hr₁'
    obtain ⟨r₂, hr₂, rfl⟩ := hmem hr₂'
    by_cases htoken : token' = token
    · subst htoken
      rw [hnew r₁ hr₁ h₁, hnew r₂ hr₂ h₂]
    · obtain ⟨ht₁, he₁⟩ := hold r₁ hr₁ token' htoken h₁
      obtain ⟨ht₂, he₂⟩ := hold r₂ hr₂ token' htoken h₂
      rw [he₁, he₂]
      exact hok.once r₁ hr₁ r₂ hr₂ token' ht₁ ht₂
  · rintro token' e ⟨r, hr, htoken', he⟩
    have hadmitted : r.admitted = true := by
      rw [hok.admitted r hr, htoken']
      rfl
    refine ⟨r, List.mem_map.mpr ⟨r, hr, ?_⟩, htoken', he⟩
    split
    · exact polled_of_admitted token now hadmitted
    · rfl

/-! ## The browser -/

/-- The room keeps every token record of the browser. -/
def Stored (room : Room) (browser : Browser) : Prop :=
  ∀ concertId, ∀ stored ∈ browser.tokenRecord concertId,
    room.Keeps stored.token stored.tokenExpiresAt

/-- What a request leaves: a room in order, which keeps what the browser has stored where
    it did before. -/
structure Follows (s s' : State) : Prop where
  ok : s'.room.Ok
  stored : Stored s.room s.browser → Stored s'.room s'.browser

/-- An admitted session is answered with its token. -/
theorem toPollResponse_admitted {token : Token} (room : Room) (now : Nat) (hproper : Proper record)
    (htoken : record.token = some token) :
    (room.toPollResponse record now).status = .admitted ∧
      (room.toPollResponse record now).token = some token ∧
      (room.toPollResponse record now).tokenExpiresAt = record.tokenExpiresAt := by
  have hadmitted : record.admitted = true := by
    rw [hproper.admitted, htoken]
    rfl
  simp only [Room.toPollResponse, hadmitted, htoken, and_self]

/-- A session without a token waits. -/
theorem toPollResponse_waiting (room : Room) (now : Nat) (htoken : record.token = none) :
    (room.toPollResponse record now).status = .waiting ∧
      (room.toPollResponse record now).token = none := by
  cases hadmitted : record.admitted <;> simp [Room.toPollResponse, hadmitted, htoken]

/-- A token has an expiry. -/
theorem Proper.expiry {token : Token} (hproper : Proper record)
    (htoken : record.token = some token) : ∃ e, record.tokenExpiresAt = some e := by
  have hexpires := hproper.expires
  rw [htoken] at hexpires
  exact Option.isSome_iff_exists.mp hexpires

/-- What the browser stores of an answer the room keeps. -/
theorem Stored.store {browser : Browser} {concertId : ConcertId} {token : Token} {e now : Nat}
    (h : Stored room browser) (hkept : room.Keeps token e) :
    Stored room (browser.storeAdmittedToken concertId token (some e) now) := by
  intro c stored hstored
  by_cases hc : c = concertId
  · subst hc
    simp only [Browser.storeAdmittedToken, Function.update_self] at hstored
    cases hstored
    exact hkept
  · simp only [Browser.storeAdmittedToken, Function.update_of_ne hc] at hstored
    exact h c stored hstored

/-- The browser stores what it was answered. -/
theorem Stored.onAnswer {browser : Browser} {concertId : ConcertId} {now : Nat}
    (h : Stored room browser) (hok : room.Ok) (hmem : record ∈ room.sessions) :
    Stored room (browser.onAnswer concertId (room.toPollResponse record now) now) := by
  have hproper := hok.proper hmem
  cases htoken : record.token with
  | none =>
      obtain ⟨hstatus, hnone⟩ := toPollResponse_waiting room now htoken
      simpa only [Browser.onAnswer, hstatus, hnone] using h
  | some token =>
      obtain ⟨hstatus, hsome, hexpires⟩ :=
        toPollResponse_admitted room now hproper htoken
      obtain ⟨e, he⟩ := hproper.expiry htoken
      simp only [Browser.onAnswer, hstatus, hsome, hexpires, he]
      exact h.store ⟨record, hmem, htoken, he⟩

/-- What it has stored stays known to the room. -/
theorem Stored.served {browser : Browser} {answer : WaitingSessionRecord × Room}
    (h : Stored room browser) (hserved : Served room answer) : Stored answer.2 browser :=
  fun concertId stored hstored => hserved.keeps _ _ (h concertId stored hstored)

/-- A record that is read stays, or has expired and is removed. -/
theorem readAdmittedTokenRecord_cases (concertId : ConcertId) (now : Nat) (browser : Browser) :
    (∃ stored, browser.tokenRecord concertId = some stored ∧ now ≤ stored.tokenExpiresAt ∧
      browser.readAdmittedTokenRecord concertId now = (some stored, browser)) ∨
    ∃ browser', (∀ stored ∈ browser.tokenRecord concertId, stored.tokenExpiresAt < now) ∧
      browser.readAdmittedTokenRecord concertId now = (none, browser') ∧
      browser'.session = browser.session ∧
      ∀ c, ∀ stored ∈ browser'.tokenRecord c, stored ∈ browser.tokenRecord c := by
  unfold Browser.readAdmittedTokenRecord
  cases hstored : browser.tokenRecord concertId with
  | none => exact .inr ⟨browser, by simp, rfl, rfl, fun _ _ h => h⟩
  | some stored =>
      dsimp only
      split
      · rename_i hexpired
        refine .inr ⟨_, by simpa using hexpired, rfl, rfl, fun c kept hkept => ?_⟩
        by_cases hc : c = concertId
        · subst hc
          simp only [Function.update_self] at hkept
          cases hkept
        · simpa only [Function.update_of_ne hc] using hkept
      · rename_i hlive
        exact .inl ⟨stored, rfl, Nat.le_of_not_lt hlive, rfl⟩

/-! ## Access -/

variable {s : State} {concertId : ConcertId} {token : Token} {now : Nat}

/-- **An access is stale**: the browser has no live token record, and its stored session
    has been admitted with a token that has expired. -/
def Stale (concertId : ConcertId) (now : Nat) (s : State) : Prop :=
  (∀ stored ∈ s.browser.tokenRecord concertId, stored.tokenExpiresAt < now) ∧
    ∃ sessionId ∈ (s.browser.session concertId).filter fun id => id ≠ "",
      ∃ record ∈ s.room.find sessionId, ∃ e ∈ record.tokenExpiresAt, e < now

/-- The stored session and its record are looked at. -/
instance (concertId : ConcertId) (now : Nat) (s : State) : Decidable (Stale concertId now s) :=
  inferInstanceAs (Decidable (_ ∧ _))

/-- The room keeps the token of a live record of the browser, unexpired. -/
def Vouched (concertId : ConcertId) (now : Nat) (s : State) : Prop :=
  ∀ stored ∈ s.browser.tokenRecord concertId, now ≤ stored.tokenExpiresAt →
    ∃ e, s.room.Keeps stored.token e ∧ now ≤ e

/-- Of a token record the room keeps there is no more to ask. -/
theorem Stored.vouched (h : Stored s.room s.browser) (concertId : ConcertId) (now : Nat) :
    Vouched concertId now s :=
  fun stored hstored hlive => ⟨stored.tokenExpiresAt, h concertId stored hstored, hlive⟩

/-- What an access may grant. -/
def Unexpired (s : State) (now : Nat) (result : PurchaseAccessResult) : Prop :=
  ∀ granted, result = .granted granted →
    ∃ token e, granted = some token ∧ s.room.Keeps token e ∧ now ≤ e

/-- What a poll answers has not expired exactly where the session polled had no expired
    token before. -/
theorem answer_unexpired (hproper : Proper record)
    (hserved : Served room (record.polled token now, room')) :
    (∀ granted, (record.polled token now).token = some granted →
      ∃ e, room'.Keeps granted e ∧ now ≤ e) ↔ ¬ ∃ e ∈ record.tokenExpiresAt, e < now := by
  constructor
  · rintro hall ⟨e, he, hlate⟩
    have hadmitted : record.admitted = true := by
      rw [hproper.admitted, ← hproper.expires, Option.mem_def.mp he]
      rfl
    have hsame := polled_of_admitted token now hadmitted
    obtain ⟨granted, htoken⟩ := Option.isSome_iff_exists.mp (hproper.admitted ▸ hadmitted)
    obtain ⟨e', hkept, hlive⟩ := hall granted (by rw [hsame]; exact htoken)
    have hkeeps : room'.Keeps granted e :=
      hserved.keeps_of_mem (by rw [hsame]; exact htoken) (by rw [hsame]; exact he)
    have heq := hkeeps.unique hserved.ok hkept
    omega
  · intro hnot granted htoken
    obtain ⟨e, he⟩ := (polled_proper hproper).expiry htoken
    refine ⟨e, hserved.keeps_of_mem htoken he, ?_⟩
    rcases polled_expiry hproper he with hsame | ⟨-, rfl⟩
    · by_contra hlt
      exact hnot ⟨e, hsame, by omega⟩
    · omega

theorem unexpired_required (s : State) : Unexpired s now .waitingRoomRequired := by
  intro granted hno
  cases hno

/-- Access was granted with a token that has not expired. -/
theorem unexpired_granted :
    Unexpired s now (.granted (some token)) ↔ ∃ e, s.room.Keeps token e ∧ now ≤ e := by
  constructor
  · intro h
    obtain ⟨token', e, heq, hkeeps, hle⟩ := h (some token) rfl
    cases heq
    exact ⟨e, hkeeps, hle⟩
  · rintro ⟨e, hkeeps, hle⟩ granted hgranted
    cases hgranted
    exact ⟨token, e, rfl, hkeeps, hle⟩

/-- Without a live record the stored session decides. -/
theorem stale_iff {sessionId : SessionId}
    (hexpired : ∀ stored ∈ s.browser.tokenRecord concertId, stored.tokenExpiresAt < now)
    (hid : (s.browser.session concertId).filter (fun id => id ≠ "") = some sessionId)
    (hfind : s.room.find sessionId = some record) :
    Stale concertId now s ↔ ∃ e ∈ record.tokenExpiresAt, e < now := by
  constructor
  · rintro ⟨-, sessionId', hmem, record', hrecord, hlate⟩
    rw [hid] at hmem
    cases hmem
    rw [hfind] at hrecord
    cases hrecord
    exact hlate
  · intro hlate
    exact ⟨hexpired, sessionId, hid, record, hfind, hlate⟩

/-- A live record is granted. -/
theorem access_live (token : Token) {stored : AdmittedTokenRecord}
    (hstored : s.browser.tokenRecord concertId = some stored) (hlive : now ≤ stored.tokenExpiresAt)
    (hread : s.browser.readAdmittedTokenRecord concertId now = (some stored, s.browser)) :
    (s.requestPurchaseAccess concertId true token now).2 = ⟨s.room, s.browser, now⟩ ∧
      (Unexpired (s.requestPurchaseAccess concertId true token now).2 now
        (s.requestPurchaseAccess concertId true token now).1 ↔
        Vouched concertId now s ∧ ¬ Stale concertId now s) := by
  have hfresh : ¬ Stale concertId now s := by
    rintro ⟨hall, -⟩
    have hlt := hall stored hstored
    omega
  rw [State.requestPurchaseAccess, hread]
  refine ⟨rfl, ?_⟩
  rw [unexpired_granted, and_iff_left hfresh]
  constructor
  · intro hkept stored' hstored' _
    rw [hstored] at hstored'
    cases hstored'
    exact hkept
  · exact fun hvouched => hvouched stored hstored hlive

/-- An access that asks for a token: what it leaves, and that what it grants has not
    expired exactly where a live record is vouched for and the access is not stale. -/
theorem access_spec (hok : s.room.Ok) (hfresh : ∀ r ∈ s.room.sessions, r.token ≠ some token) :
    Follows s (s.requestPurchaseAccess concertId true token now).2 ∧
      (Unexpired (s.requestPurchaseAccess concertId true token now).2 now
        (s.requestPurchaseAccess concertId true token now).1 ↔
        Vouched concertId now s ∧ ¬ Stale concertId now s) := by
  rcases readAdmittedTokenRecord_cases concertId now s.browser with
    ⟨stored, hstored, hlive, hread⟩ | ⟨browser, hexpired, hread, hsession, hkept⟩
  -- a stored token that is still valid lets in at once
  · obtain ⟨hleft, hgranted⟩ := access_live token hstored hlive hread
    refine ⟨?_, hgranted⟩
    rw [hleft]
    exact ⟨hok, id⟩
  · have hbrowser : Stored s.room s.browser → Stored s.room browser :=
      fun h c stored hmem => h c stored (hkept c stored hmem)
    have hvouched : Vouched concertId now s := by
      intro stored hstored hlive
      have hlt := hexpired stored hstored
      omega
    rw [State.requestPurchaseAccess, hread, and_iff_right hvouched]
    dsimp only
    rw [if_neg (by decide), hsession]
    cases hid : (s.browser.session concertId).filter fun id => id ≠ "" with
    -- no session: the visitor is sent to the waiting room
    | none =>
        refine ⟨⟨hok, hbrowser⟩, iff_of_true (unexpired_required _) ?_⟩
        rintro ⟨-, sessionId, hmem, -⟩
        rw [hid] at hmem
        cases hmem
    | some sessionId =>
        dsimp only
        cases hfind : s.room.find sessionId with
        -- a session the server has forgotten counts as none
        | none =>
            have hpoll : s.room.poll sessionId token now = none := by
              rw [Room.poll, hfind]
              rfl
            rw [hpoll]
            refine ⟨⟨hok, hbrowser⟩, iff_of_true (unexpired_required _) ?_⟩
            rintro ⟨-, sessionId', hmem, record, hrecord, -⟩
            rw [hid] at hmem
            cases hmem
            rw [hfind] at hrecord
            cases hrecord
        | some record =>
            obtain ⟨room', hpoll⟩ : ∃ room', s.room.poll sessionId token now
                = some (record.polled token now, room') := by
              rw [Room.poll, hfind]
              exact ⟨_, rfl⟩
            have hserved := poll_served hok hfresh hpoll
            have hstored : Stored s.room s.browser → Stored room' browser :=
              fun h => (hbrowser h).served hserved
            have hproper := hok.proper (RowTable.lookup_mem hfind)
            rw [hpoll, stale_iff hexpired hid hfind, ← answer_unexpired hproper hserved]
            dsimp only
            cases htoken : (record.polled token now).token with
            -- still waiting
            | none =>
                obtain ⟨hstatus, hnone⟩ := toPollResponse_waiting room' now htoken
                have hno : ∀ granted, none = some granted →
                    ∃ e, room'.Keeps granted e ∧ now ≤ e := by
                  intro granted hgranted
                  cases hgranted
                rw [hstatus, hnone]
                dsimp only
                split
                · exact ⟨⟨hserved.ok, hstored⟩, iff_of_true (unexpired_required _) hno⟩
                · exact ⟨⟨hserved.ok, hstored⟩, iff_of_true (unexpired_required _) hno⟩
            -- admitted: the token is stored with the expiry that the room keeps for it
            | some granted =>
                obtain ⟨hstatus, hsome, hexpires⟩ :=
                  toPollResponse_admitted room' now (polled_proper hproper) htoken
                obtain ⟨e, he⟩ := (polled_proper hproper).expiry htoken
                rw [hstatus, hsome, hexpires, he]
                have hkeeps := hserved.keeps_of_mem htoken he
                refine ⟨⟨hserved.ok, fun h => (hstored h).store hkeeps⟩, ?_⟩
                rw [unexpired_granted]
                constructor
                · rintro hlive granted' hgranted
                  cases hgranted
                  exact hlive
                · exact fun hall => hall granted rfl

/-! ## Runs -/

/-- An access follows from what room and browser have. -/
theorem access_follows (hok : s.room.Ok) (requireToken : Bool)
    (hfresh : ∀ r ∈ s.room.sessions, r.token ≠ some token) :
    Follows s (s.requestPurchaseAccess concertId requireToken token now).2 := by
  cases requireToken with
  | true => exact (access_spec hok hfresh).1
  | false =>
      rcases readAdmittedTokenRecord_cases concertId now s.browser with
        ⟨stored, -, -, hread⟩ | ⟨browser, -, hread, -, hkept⟩
      · rw [State.requestPurchaseAccess, hread]
        exact ⟨hok, id⟩
      · rw [State.requestPurchaseAccess, hread]
        exact ⟨hok, fun h c stored hmem => h c stored (hkept c stored hmem)⟩

/-- **Every request** leaves a room in order, which keeps what the browser has stored where
    it did before. -/
theorem serve_follows {config : Config} {input : Input} (hok : s.room.Ok)
    (hfresh : input.draw.Fresh s.room) : Follows s (s.serve config input) := by
  have htokens : ∀ r ∈ s.room.sessions, r.token ≠ some input.draw.token :=
    fun r hr => (hfresh r hr).2
  rcases input with ⟨request, draw, now⟩
  cases request with
  | join concertId =>
      have hserved := join_served config concertId (s.browser.session concertId) now hok hfresh
      refine ⟨hserved.ok, fun h => Stored.onAnswer ?_ hserved.ok hserved.mem⟩
      exact h.served hserved
  | poll concertId sessionId =>
      show Follows s (s.pollQueue concertId sessionId draw.token now)
      unfold State.pollQueue
      cases hpoll : s.room.poll sessionId draw.token now with
      | none => exact ⟨hok, id⟩
      | some answer =>
          have hserved := poll_served hok htokens hpoll
          exact ⟨hserved.ok, fun h => (h.served hserved).onAnswer hserved.ok hserved.mem⟩
  | access concertId requireToken => exact access_follows hok requireToken htokens
  | otherJoin concertId existing =>
      have hserved := join_served config concertId existing now hok hfresh
      exact ⟨hserved.ok, fun h => h.served hserved⟩
  | otherPoll sessionId =>
      show Follows s
        ⟨((s.room.poll sessionId draw.token now).map Prod.snd).getD s.room, s.browser, now⟩
      cases hpoll : s.room.poll sessionId draw.token now with
      | none => exact ⟨hok, id⟩
      | some answer =>
          have hserved := poll_served hok htokens hpoll
          exact ⟨hserved.ok, fun h => h.served hserved⟩

/-- So does every request. -/
theorem next_follows {config : Config} {input : Input} {s' : State} (hok : s.room.Ok)
    (hnext : next config s input = some s') : input.draw.Fresh s.room ∧
      s' = s.serve config input ∧ Follows s s' := by
  unfold next at hnext
  split at hnext
  · rename_i hguard
    cases hnext
    exact ⟨hguard.2, rfl, serve_follows hok hguard.2⟩
  · cases hnext

/-- A room in order stays so, and keeps what the browser stores. -/
theorem run_follows {config : Config} {s₀ : State} (h₀ : s₀.room.Ok)
    (hr : Run (next config) (fun _ => True) s₀ s) : Follows s₀ s := by
  refine hr.inv (I := Follows s₀) ?_ ⟨h₀, id⟩
  intro s input s' hs _ hnext
  obtain ⟨-, -, hfollows⟩ := next_follows hs.ok hnext
  exact ⟨hfollows.ok, fun h => hfollows.stored (hs.stored h)⟩

/-- **Access is granted on an unexpired token**, after every run of requests from a room in
    order, exactly where the room vouches for a live record of the browser and the access
    is not stale. -/
theorem access_unexpired_iff {config : Config} {s₀ s' : State} (h₀ : s₀.room.Ok)
    (hr : Run (next config) (fun _ => True) s₀ s) {draw : Draw}
    (hnext : next config s ⟨.access concertId true, draw, now⟩ = some s') :
    Unexpired s' now (s.requestPurchaseAccess concertId true draw.token now).1 ↔
      Vouched concertId now s ∧ ¬ Stale concertId now s := by
  have hok := (run_follows h₀ hr).ok
  obtain ⟨hfresh, rfl, -⟩ := next_follows hok hnext
  exact (access_spec hok fun r hr => (hfresh r hr).2).2

/-- What the browser has stored during the run needs nobody to vouch for it. -/
theorem vouched_of_run {config : Config} {s₀ : State} (h₀ : s₀.room.Ok)
    (hstored : Stored s₀.room s₀.browser) (hr : Run (next config) (fun _ => True) s₀ s)
    (concertId : ConcertId) (now : Nat) : Vouched concertId now s :=
  ((run_follows h₀ hr).stored hstored).vouched concertId now

/-- A room nobody has joined and a browser that has stored nothing. -/
def empty : State := ⟨⟨[], fun _ => []⟩, ⟨fun _ => none, fun _ => none⟩, 0⟩

theorem empty_ok : empty.room.Ok := by
  refine ⟨List.nodup_nil, ?_, ?_, ?_⟩
  · intro record hrecord
    cases hrecord
  · intro record hrecord
    cases hrecord
  · intro record hrecord
    cases hrecord

theorem empty_stored : Stored empty.room empty.browser := by
  intro concertId stored hstored
  cases hstored

/-- A waiting room that opens at twelve joins. -/
def quiet : Config := ⟨false, 12⟩

theorem wait_pos : 0 < MAX_WAIT_MS - MIN_WAIT_MS := by decide

/-- The first token that is drawn. -/
def firstToken : Token := ⟨"wr_1", by decide⟩

/-- The second token that is drawn. -/
def secondToken : Token := ⟨"wr_2", by decide⟩

/-- What is generated, with the shortest wait. -/
def drawOf (sessionId : SessionId) (token : Token) : Draw := ⟨sessionId, token, ⟨0, wait_pos⟩⟩

/-- The browser joins and is admitted, until 300000. -/
def joined : State := empty.serve quiet ⟨.join "c1", drawOf "s1" firstToken, 0⟩

theorem joined_run : Run (next quiet) (fun _ => True) empty joined :=
  Relation.ReflTransGen.single ⟨⟨.join "c1", drawOf "s1" firstToken, 0⟩, trivial, rfl⟩

theorem access_unexpired_joined :
    (joined.requestPurchaseAccess "c1" true secondToken 300000).1 = .granted (some firstToken) ∧
      Unexpired (joined.requestPurchaseAccess "c1" true secondToken 300000).2 300000
        (.granted (some firstToken)) := by
  have hnext : next quiet joined ⟨.access "c1" true, drawOf "s2" secondToken, 300000⟩ = some _ := rfl
  have hiff := access_unexpired_iff empty_ok joined_run hnext
  have hvouched := vouched_of_run empty_ok empty_stored joined_run "c1" 300000
  exact ⟨by decide, hiff.mpr ⟨hvouched, by decide⟩⟩

/-- A millisecond later the same token is granted again. -/
theorem access_expired :
    Run (next quiet) (fun _ => True) empty joined ∧
      (joined.requestPurchaseAccess "c1" true secondToken 300001).1 = .granted (some firstToken) ∧
      ¬ Unexpired (joined.requestPurchaseAccess "c1" true secondToken 300001).2 300001
        (joined.requestPurchaseAccess "c1" true secondToken 300001).1 := by
  refine ⟨joined_run, by decide, fun h => ?_⟩
  have hok := (run_follows empty_ok joined_run).ok
  exact ((access_spec hok (by decide)).2.mp h).2 (by decide)

end WaitingRoom
