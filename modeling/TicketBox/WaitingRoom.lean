import TicketBox.Machine
import TicketBox.RowTable
import Mathlib.Logic.Function.Basic

/-! # The waiting room and a browser before it

    `mock-waiting-room.ts` with its sessions and join times, `waiting-room-storage.ts`
    with the session and the token record that a browser keeps for a concert, and the
    requests of the browser: `useWaitingRoom` joins and polls, `requestPurchaseAccess`
    asks whether tickets may be bought.  Other clients join and poll as well.  Ids and
    tokens are given as they are generated; everything is read off one clock. -/

namespace WaitingRoom

open Machine

/-- Ids of concerts. -/
abbrev ConcertId := String

/-- Ids of sessions. -/
abbrev SessionId := String
/-- The code takes an empty token for none. -/
abbrev Token := { token : String // token ≠ "" }

/-- `TOKEN_TTL_MS`: five minutes. -/
def TOKEN_TTL_MS : Nat := 5 * 60 * 1000

/-- `MIN_WAIT_MS`: the shortest wait. -/
def MIN_WAIT_MS : Nat := 12000

/-- `MAX_WAIT_MS`: the longest wait. -/
def MAX_WAIT_MS : Nat := 38000

/-- `LOAD_WINDOW_MS`: how long a join counts. -/
def LOAD_WINDOW_MS : Nat := 5 * 60 * 1000

/-! ## The room -/

/-- `WaitingSessionRecord`: a session of the waiting room. -/
structure WaitingSessionRecord where
  sessionId : SessionId
  concertId : ConcertId
  createdAt : Nat
  admitAt : Nat
  admitted : Bool
  waitingRoomRequired : Bool
  token : Option Token
  tokenExpiresAt : Option Nat
  deriving DecidableEq

/-- The sessions and the joins that the server remembers. -/
structure Room where
  sessions : List WaitingSessionRecord
  joinTimestamps : ConcertId → List Nat

/-- `FORCE_WAITING_ROOM` and `WAITING_ROOM_JOIN_THRESHOLD`. -/
structure Config where
  isForceWaitingRoom : Bool
  joinThreshold : Nat

/-- `sessions.get`. -/
def Room.find (sessionId : SessionId) (room : Room) : Option WaitingSessionRecord :=
  RowTable.lookup WaitingSessionRecord.sessionId sessionId room.sessions

/-- `pruneJoinTimestamps`. -/
def Room.pruneJoinTimestamps (concertId : ConcertId) (now : Nat) (room : Room) : Room :=
  let entries :=
    (room.joinTimestamps concertId).filter fun timestamp => now - timestamp < LOAD_WINDOW_MS
  { room with joinTimestamps := Function.update room.joinTimestamps concertId entries }

/-- `countActiveWaitingSessions`. -/
def Room.countActiveWaitingSessions (concertId : ConcertId) (room : Room) : Nat :=
  room.sessions.countP fun record =>
    record.concertId = concertId && !record.admitted && record.waitingRoomRequired

/-- The load before a user comes in; reading it prunes the join times. -/
def Room.isWaitingRoomRequired (config : Config) (concertId : ConcertId) (now : Nat)
    (room : Room) : Bool × Room :=
  if config.isForceWaitingRoom then (true, room)
  else
    let room := room.pruneJoinTimestamps concertId now
    let recentJoins := (room.joinTimestamps concertId).length
    let activeWaiting := room.countActiveWaitingSessions concertId
    (config.joinThreshold ≤ recentJoins + activeWaiting, room)

/-- `recordJoin`. -/
def Room.recordJoin (concertId : ConcertId) (now : Nat) (room : Room) : Room :=
  let room := room.pruneJoinTimestamps concertId now
  let entries := room.joinTimestamps concertId ++ [now]
  { room with joinTimestamps := Function.update room.joinTimestamps concertId entries }

/-- `sessions.set` of a new session. -/
def Room.add (record : WaitingSessionRecord) (room : Room) : Room :=
  { room with sessions := room.sessions ++ [record] }

/-- Whether a session is still waiting. -/
inductive WaitingRoomStatus where
  | waiting | admitted
  deriving DecidableEq

/-- `WaitingRoomPollResponse`: the answer of a poll. -/
structure WaitingRoomPollResponse where
  status : WaitingRoomStatus
  waitingRoomRequired : Bool
  position : Option Nat
  estimatedWaitSeconds : Option Nat
  token : Option Token
  tokenExpiresAt : Option Nat
  deriving DecidableEq

/-- The sessions of the concert that are admitted before. -/
def Room.getQueuePosition (record : WaitingSessionRecord) (room : Room) : Nat :=
  1 + room.sessions.countP fun other =>
    other.concertId = record.concertId && other.waitingRoomRequired && !other.admitted &&
      (other.admitAt < record.admitAt ||
        other.admitAt = record.admitAt && other.createdAt < record.createdAt)

/-- `toPollResponse`; an admitted session is answered as such whatever its token's
    expiry. -/
def Room.toPollResponse (record : WaitingSessionRecord) (now : Nat) (room : Room) :
    WaitingRoomPollResponse :=
  match record.admitted, record.token with
  | true, some token =>
      { status := .admitted
        waitingRoomRequired := record.waitingRoomRequired
        position := none
        estimatedWaitSeconds := none
        token := some token
        tokenExpiresAt := record.tokenExpiresAt }
  | _, _ =>
      let estimatedWaitSeconds := (record.admitAt - now + 999) / 1000
      { status := .waiting
        waitingRoomRequired := record.waitingRoomRequired
        position :=
          if record.waitingRoomRequired then some (room.getQueuePosition record) else none
        estimatedWaitSeconds :=
          if record.waitingRoomRequired then some estimatedWaitSeconds else none
        token := none
        tokenExpiresAt := none }

/-- What is generated for a request: a session id, a token and the part of the longest
    wait that a session waits beyond the shortest. -/
structure Draw where
  sessionId : SessionId
  token : Token
  wait : Fin (MAX_WAIT_MS - MIN_WAIT_MS)

/-- `randomWaitMs`. -/
def randomWaitMs (draw : Draw) : Nat := MIN_WAIT_MS + draw.wait

/-- `admitImmediately`: the record of a session that does not wait. -/
def admitImmediately (concertId : ConcertId) (waitingRoomRequired : Bool) (draw : Draw) (now : Nat) :
    WaitingSessionRecord where
  sessionId := draw.sessionId
  concertId := concertId
  createdAt := now
  admitAt := now
  admitted := true
  waitingRoomRequired := waitingRoomRequired
  token := some draw.token
  tokenExpiresAt := some (now + TOKEN_TTL_MS)

/-- The record of a session that waits. -/
def waitingRecord (concertId : ConcertId) (draw : Draw) (now : Nat) : WaitingSessionRecord where
  sessionId := draw.sessionId
  concertId := concertId
  createdAt := now
  admitAt := now + randomWaitMs draw
  admitted := false
  waitingRoomRequired := true
  token := none
  tokenExpiresAt := none

/-- `joinWaitingRoom`: the session the client has, or a new one; the record that is
    answered, and the room after it. -/
def Room.join (config : Config) (concertId : ConcertId) (existingSessionId : Option SessionId)
    (draw : Draw) (now : Nat) (room : Room) : WaitingSessionRecord × Room :=
  match ((existingSessionId.filter fun id => id ≠ "").bind fun id => room.find id).filter
      fun existing => existing.concertId = concertId with
  | some existing => (existing, room)
  | none =>
      let (waitingRoomRequired, room) := room.isWaitingRoomRequired config concertId now
      let room := room.recordJoin concertId now
      let record :=
        if waitingRoomRequired then waitingRecord concertId draw now
        else admitImmediately concertId false draw now
      (record, room.add record)

/-- A session that is due is admitted, with a token. -/
def WaitingSessionRecord.polled (token : Token) (now : Nat) (record : WaitingSessionRecord) :
    WaitingSessionRecord :=
  if !record.admitted && record.waitingRoomRequired && record.admitAt ≤ now then
    { record with
      admitted := true, token := some token, tokenExpiresAt := some (now + TOKEN_TTL_MS) }
  else record

/-- `pollWaitingRoom`, for a session of any concert. -/
def Room.poll (sessionId : SessionId) (token : Token) (now : Nat) (room : Room) :
    Option (WaitingSessionRecord × Room) :=
  (room.find sessionId).map fun record =>
    (record.polled token now,
      { room with
        sessions := RowTable.modify WaitingSessionRecord.sessionId sessionId
          (WaitingSessionRecord.polled token now) room.sessions })

/-! ## The browser -/

/-- `AdmittedTokenRecord`: the token that the browser stores. -/
structure AdmittedTokenRecord where
  token : Token
  tokenExpiresAt : Nat
  deriving DecidableEq

/-- What `sessionStorage` has for each concert. -/
structure Browser where
  session : ConcertId → Option SessionId
  tokenRecord : ConcertId → Option AdmittedTokenRecord

/-- `readAdmittedTokenRecord`: an expired record is removed. -/
def Browser.readAdmittedTokenRecord (concertId : ConcertId) (now : Nat) (browser : Browser) :
    Option AdmittedTokenRecord × Browser :=
  match browser.tokenRecord concertId with
  | none => (none, browser)
  | some parsed =>
      if parsed.tokenExpiresAt < now then
        (none, { browser with tokenRecord := Function.update browser.tokenRecord concertId none })
      else (some parsed, browser)

/-- `storeAdmittedToken`. -/
def Browser.storeAdmittedToken (concertId : ConcertId) (token : Token) (tokenExpiresAt : Option Nat)
    (now : Nat) (browser : Browser) : Browser :=
  let record : AdmittedTokenRecord := ⟨token, tokenExpiresAt.getD (now + TOKEN_TTL_MS)⟩
  { browser with tokenRecord := Function.update browser.tokenRecord concertId (some record) }

/-- `writeWaitingSession`. -/
def Browser.writeWaitingSession (concertId : ConcertId) (sessionId : SessionId)
    (browser : Browser) : Browser :=
  { browser with session := Function.update browser.session concertId (some sessionId) }

/-- `clearWaitingSession`. -/
def Browser.clearWaitingSession (concertId : ConcertId) (browser : Browser) : Browser :=
  { browser with session := Function.update browser.session concertId none }

/-- What the page does with an answer: the token of an admitted session is stored. -/
def Browser.onAnswer (concertId : ConcertId) (response : WaitingRoomPollResponse) (now : Nat)
    (browser : Browser) : Browser :=
  match response.status, response.token with
  | .admitted, some token => browser.storeAdmittedToken concertId token response.tokenExpiresAt now
  | _, _ => browser

/-! ## Requests -/

/-- The room, one client's browser and the clock. -/
structure State where
  room : Room
  browser : Browser
  now : Nat

/-- What `ensurePurchaseAccess` lets the client do. -/
inductive PurchaseAccessResult where
  | granted (token : Option Token)
  | waitingRoomRequired
  deriving DecidableEq

/-- `joinQueue`: the stored session is sent along and replaced by the one answered. -/
def State.joinQueue (config : Config) (concertId : ConcertId) (draw : Draw) (now : Nat) (s : State) :
    State :=
  let (record, room) := s.room.join config concertId (s.browser.session concertId) draw now
  let browser := s.browser.writeWaitingSession concertId record.sessionId
  ⟨room, browser.onAnswer concertId (room.toPollResponse record now) now, now⟩

/-- A poll of the waiting page, for the session it was given. -/
def State.pollQueue (concertId : ConcertId) (sessionId : SessionId) (token : Token) (now : Nat)
    (s : State) : State :=
  match s.room.poll sessionId token now with
  | none => { s with now := now }
  | some (record, room) =>
      ⟨room, s.browser.onAnswer concertId (room.toPollResponse record now) now, now⟩

/-- `requestPurchaseAccess` -/
def State.requestPurchaseAccess (concertId : ConcertId) (requireToken : Bool) (token : Token)
    (now : Nat) (s : State) : PurchaseAccessResult × State :=
  match s.browser.readAdmittedTokenRecord concertId now with
  | (some existing, browser) => (.granted (some existing.token), ⟨s.room, browser, now⟩)
  | (none, browser) =>
      if requireToken = false then (.granted none, ⟨s.room, browser, now⟩)
      else
        match (browser.session concertId).filter fun id => id ≠ "" with
        | none => (.waitingRoomRequired, ⟨s.room, browser, now⟩)
        | some sessionId =>
            match s.room.poll sessionId token now with
            | none =>
                (.waitingRoomRequired, ⟨s.room, browser.clearWaitingSession concertId, now⟩)
            | some (record, room) =>
                let data := room.toPollResponse record now
                match data.status, data.token with
                | .admitted, some token =>
                    (.granted (some token),
                      ⟨room, browser.storeAdmittedToken concertId token data.tokenExpiresAt now,
                        now⟩)
                | _, _ =>
                    if data.status = .waiting ∧ data.waitingRoomRequired ≠ false then
                      (.waitingRoomRequired, ⟨room, browser, now⟩)
                    else (.waitingRoomRequired, ⟨room, browser.clearWaitingSession concertId, now⟩)

/-- What this client or another one asks of the room. -/
inductive Request where
  | join (concertId : ConcertId)
  | poll (concertId : ConcertId) (sessionId : SessionId)
  | access (concertId : ConcertId) (requireToken : Bool)
  /-- another client joins -/
  | otherJoin (concertId : ConcertId) (existingSessionId : Option SessionId)
  /-- another client polls, or an answer to this one is lost -/
  | otherPoll (sessionId : SessionId)

/-- A request at a time, with what is generated for it. -/
structure Input where
  request : Request
  draw : Draw
  now : Nat

/-- Ids and tokens are generated once. -/
def Draw.Fresh (draw : Draw) (room : Room) : Prop :=
  ∀ record ∈ room.sessions, record.sessionId ≠ draw.sessionId ∧ record.token ≠ some draw.token

/-- What is drawn is compared with the sessions. -/
instance (draw : Draw) (room : Room) : Decidable (draw.Fresh room) :=
  inferInstanceAs (Decidable (∀ _ ∈ _, _))

/-- One request served. -/
def State.serve (config : Config) (input : Input) (s : State) : State :=
  match input.request with
  | .join concertId => s.joinQueue config concertId input.draw input.now
  | .poll concertId sessionId => s.pollQueue concertId sessionId input.draw.token input.now
  | .access concertId requireToken =>
      (s.requestPurchaseAccess concertId requireToken input.draw.token input.now).2
  | .otherJoin concertId existingSessionId =>
      ⟨(s.room.join config concertId existingSessionId input.draw input.now).2, s.browser, input.now⟩
  | .otherPoll sessionId =>
      ⟨((s.room.poll sessionId input.draw.token input.now).map Prod.snd).getD s.room, s.browser,
        input.now⟩

/-- Requests come at times that do not decrease. -/
def next (config : Config) (s : State) (input : Input) : Option State :=
  if s.now ≤ input.now ∧ input.draw.Fresh s.room then some (s.serve config input) else none

end WaitingRoom
