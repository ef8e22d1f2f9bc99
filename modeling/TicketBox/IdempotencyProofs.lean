import TicketBox.Idempotency

/-! # At most one run of the handler per key

    A request that finds no record goes on to claim the key; until its `SET` is
    in, another request finds none either, and both run the handler.  A response
    that is falsy lets the next request through as well.

    In every run in which no request reads an empty slot while another one
    stands before its claim, and the interceptor reads no falsy response, a key
    whose record has neither failed nor expired has one token: it is the vacant
    slot's, the claiming request's or the handler's run (`Carried.account`). -/

namespace TicketIdempotency

open Interleave

variable {Body : Type}

/-! ## What is promised -/

/-- The runs of the handler under a key. -/
def handlerRuns (k : String) (w : World Body) : Nat := w.runs.countP fun x => x.1 = k

/-- The responses these runs have returned. -/
def handlerResponses (k : String) (w : World Body) : Nat := w.responses.countP fun x => x.1 = k

/-- A request's answer is its own run's response, the run's cached response, or a
    rejection: as in progress, or for a body that is not the one the handler ran
    on.  `error` is what its own handler or Redis call threw. -/
def OutcomeRight (r : Params) (w : World Body) : Outcome Body → Prop
  | .processed body =>
      (r.redisKey, r.requestHash) ∈ w.runs ∧ (r.redisKey, body) ∈ w.responses
  | .cached body =>
      (r.redisKey, r.requestHash) ∈ w.runs ∧ ∃ b, body = some b ∧ (r.redisKey, b) ∈ w.responses
  | .rejected .inProgress _ => True
  | .rejected .otherRequest _ => ∃ hash, (r.redisKey, hash) ∈ w.runs ∧ hash ≠ r.requestHash
  | .rejected .failedBefore _ => False
  | .error => True

/-- The handler has run at most once under the key, and every answer is its response. -/
structure AtMostOnce (k : String) (p : State Body) : Prop where
  one_run : handlerRuns k p.world ≤ 1
  one_response : handlerResponses k p.world ≤ 1
  one_body : ∀ hash hash', (k, hash) ∈ p.world.runs → (k, hash') ∈ p.world.runs → hash = hash'
  answers : ∀ r outcome, .ret (.answered r outcome) ∈ p.ops → r.redisKey = k →
    OutcomeRight r p.world outcome

/-! ## The runs -/

/-- The request has read its slot and stands before its claim. -/
def Ask.Claims (k : String) : Ask Body → Prop
  | .set _ r => r.redisKey = k
  | _ => False

/-- No request in flight is to claim the key. -/
def NoClaim (k : String) (p : State Body) : Prop :=
  ∀ prog ∈ p.ops, prog.Meets (fun d => ¬ d.Claims k) fun _ => True

/-- A disciplined read: it does not find its slot empty while another request
    stands before its claim of it, and the interceptor finds no response that is
    falsy. -/
def ReadsInTurn (truthy : Body → Bool) (p : State Body) (route : Route) (r : Params) : Prop :=
  (p.world.records r.redisKey = none → NoClaim r.redisKey p) ∧
    (route = .order → ∀ cached ∈ p.world.records r.redisKey,
      cached.status = .completed → cached.responseBody.any truthy = true)

/-- Every GET that returns is a disciplined read. -/
def disciplined (truthy : Body → Bool) : Condition Body where
  req _ _ := True
  ask p ch d :=
    match d with
    | .get route r => ch.crashes = false → ch.fails = false → ReadsInTurn truthy p route r
    | _ => True
  task _ _ _ := True
  env _ _ := True

/-! ## What a call can do -/

/-- Why a record makes a request be rejected. -/
def Rejects (r : Params) (cached : IdempotencyRecord Body) : Rejection → Prop
  | .inProgress => cached.status = .processing
  | .otherRequest => cached.requestHash ≠ r.requestHash
  | .failedBefore => cached.status = .failed

/-- What one call of the interceptor does, a case for each way through it. -/
inductive Carried (truthy : Body → Bool) (w : World Body) :
    Ask Body → World Body → Op Body → Prop where
  | stopped (d : Ask Body) : Carried truthy w d w (.ret (.answered d.params .error))
  | vacant (route : Route) (r : Params) : w.records r.redisKey = none →
      Carried truthy w (.get route r) w (.ask (.set route r))
  | rejected (route : Route) (r : Params) (cached : IdempotencyRecord Body) (reason : Rejection)
      (message : String) : w.records r.redisKey = some cached → Rejects r cached reason →
      Carried truthy w (.get route r) w (.ret (.answered r (.rejected reason message)))
  | replayed (route : Route) (r : Params) (cached : IdempotencyRecord Body) :
      w.records r.redisKey = some cached → cached.status = .completed →
      cached.requestHash = r.requestHash →
      Carried truthy w (.get route r) w (.ret (.answered r (.cached cached.responseBody)))
  | letThrough (r : Params) (cached : IdempotencyRecord Body) :
      w.records r.redisKey = some cached → cached.status ≠ .processing →
      (cached.status = .completed → cached.responseBody.any truthy ≠ true) →
      Carried truthy w (.get .order r) w (.ask (.set .order r))
  | claimed (route : Route) (r : Params) :
      Carried truthy w (.set route r) (w.claim route r) (.ask (.handle route r))
  | returned (route : Route) (r : Params) (body : Body) :
      Carried truthy w (.handle route r) (w.respond r body) (.ask (.complete route r body))
  | threw (route : Route) (r : Params) :
      Carried truthy w (.handle route r) w (.ask (.fail route r))
  | completed (route : Route) (r : Params) (body : Body) :
      Carried truthy w (.complete route r body) (w.complete r body)
        (.ret (.answered r (.processed body)))
  | unmarked (r : Params) (body : Body) :
      Carried truthy w (.complete .order r body) w (.ret (.answered r (.processed body)))
  | notCompleted (r : Params) (body : Body) :
      Carried truthy w (.complete .payment r body) w (.ask (.fail .payment r))
  | failed (route : Route) (r : Params) :
      Carried truthy w (.fail route r) (w.fail route r) (.ret (.answered r .error))

variable {truthy : Body → Bool}

/-- What the interceptor of orders does with the record it reads. -/
theorem carried_of_intercept {w : World Body} {r : Params} :
    Carried truthy w (.get .order r) w (intercept truthy r (w.records r.redisKey)) := by
  cases hrec : w.records r.redisKey with
  | none => exact .vacant .order r hrec
  | some cached =>
      simp only [intercept]
      split
      · next hstatus => exact .rejected .order r cached .inProgress _ hrec hstatus
      · next hstatus =>
        split
        · next hhash => exact .rejected .order r cached .otherRequest _ hrec hhash.2
        · next hhash =>
          have hsame : cached.requestHash = r.requestHash := by
            by_contra hne
            exact hhash ⟨cached.requestHash.2, hne⟩
          split
          · next hdone => exact .replayed .order r cached hrec hdone.1 hsame
          · next hdone =>
            exact .letThrough r cached hrec hstatus fun hc hany => hdone ⟨hc, hany⟩

/-- What `createPayment` does with the record it reads. -/
theorem carried_of_start {w : World Body} {r : Params} :
    Carried truthy w (.get .payment r) w (start r (w.records r.redisKey)) := by
  cases hrec : w.records r.redisKey with
  | none => exact .vacant .payment r hrec
  | some parsed =>
      simp only [start]
      split
      · next hhash => exact .rejected .payment r parsed .otherRequest _ hrec hhash
      · next hhash =>
        have hsame : parsed.requestHash = r.requestHash := not_not.mp hhash
        split
        · next hstatus => exact .rejected .payment r parsed .inProgress _ hrec hstatus
        · next hstatus => exact .replayed .payment r parsed hrec hstatus hsame
        · next hstatus => exact .rejected .payment r parsed .failedBefore _ hrec hstatus

/-- Every call that succeeds is one of the cases. -/
theorem carried_of_carryOut {ch : Choice Body} {w w' : World Body} {d : Ask Body}
    {prog : Op Body} (h : carryOut truthy ch w d = (w', prog)) : Carried truthy w d w' prog := by
  cases d with
  | get route r =>
      simp only [carryOut] at h
      split at h
      · cases h
        exact .stopped (.get route r)
      · cases route with
        | order =>
            cases h
            exact carried_of_intercept
        | payment =>
            cases h
            exact carried_of_start
  | set route r =>
      simp only [carryOut] at h
      split at h
      · cases h
        exact .stopped (.set route r)
      · cases h
        exact .claimed route r
  | handle route r =>
      simp only [carryOut] at h
      split at h
      · next body _ =>
        cases h
        exact .returned route r body
      · cases h
        exact .threw route r
  | complete route r body =>
      simp only [carryOut] at h
      split at h
      · cases route with
        | order =>
            cases h
            exact .unmarked r body
        | payment =>
            cases h
            exact .notCompleted r body
      · cases h
        exact .completed route r body
  | fail route r =>
      simp only [carryOut] at h
      split at h
      · cases h
        exact .stopped (.fail route r)
      · cases h
        exact .failed route r

/-- So is every call. -/
theorem carried_of_decide {ch : Choice Body} {w w' : World Body} {d : Ask Body}
    {prog : Op Body} (h : (idempotency truthy).decide ch w d = some (w', prog)) :
    Carried truthy w d w' prog := by
  simp only [idempotency, Option.some.injEq] at h
  split at h
  · cases h
    exact .stopped d
  · exact carried_of_carryOut h

/-- A request that goes on to its claim has read its slot in turn. -/
theorem reads_inTurn {p : State Body} {ch : Choice Body} {d : Ask Body} {w' : World Body}
    {prog : Op Body} (h : (idempotency truthy).decide ch p.world d = some (w', prog))
    (hg : (disciplined truthy).ask p ch d) (route : Route) (r : Params) (hd : d = .get route r)
    (hprog : ∃ d', prog = .ask d') : ReadsInTurn truthy p route r := by
  subst hd
  obtain ⟨d', rfl⟩ := hprog
  simp only [idempotency, carryOut, Option.some.injEq] at h
  split at h
  · cases h
  · next hcrashes =>
    split at h
    · cases h
    · next hfails =>
      exact hg (Bool.eq_false_of_not_eq_true hcrashes) (Bool.eq_false_of_not_eq_true hfails)

/-! ## The writes, key by key -/

@[simp] theorem claim_runs (route : Route) (r : Params) (w : World Body) :
    (w.claim route r).runs = w.runs ++ [(r.redisKey, r.requestHash)] := by
  cases route with
  | order => rfl
  | payment =>
      simp only [World.claim]
      split <;> rfl

@[simp] theorem claim_responses (route : Route) (r : Params) (w : World Body) :
    (w.claim route r).responses = w.responses := by
  cases route with
  | order => rfl
  | payment =>
      simp only [World.claim]
      split <;> rfl

@[simp] theorem claim_reopened (route : Route) (r : Params) (w : World Body) :
    (w.claim route r).reopened = w.reopened := by
  cases route with
  | order => rfl
  | payment =>
      simp only [World.claim]
      split <;> rfl

theorem setRecord_self (k : String) (record : Option (IdempotencyRecord Body)) (w : World Body) :
    (w.setRecord k record).records k = record :=
  Function.update_self ..

theorem setRecord_ne {k k' : String} (h : k' ≠ k) (record : Option (IdempotencyRecord Body))
    (w : World Body) : (w.setRecord k' record).records k = w.records k :=
  Function.update_of_ne h.symm ..

/-- A claim leaves other keys alone. -/
theorem claim_ne {k : String} {r : Params} (h : r.redisKey ≠ k) (route : Route)
    (w : World Body) : (w.claim route r).records k = w.records k := by
  cases route with
  | order => exact setRecord_ne h _ w
  | payment =>
      simp only [World.claim]
      split
      · rfl
      · exact setRecord_ne h _ w

/-- A claim of an empty slot fills it. -/
theorem claim_self {r : Params} {w : World Body} (h : w.records r.redisKey = none)
    (route : Route) :
    (w.claim route r).records r.redisKey = some ⟨.processing, r.requestHash, none⟩ := by
  cases route with
  | order => exact setRecord_self ..
  | payment =>
      simp only [World.claim, h, Option.isSome_none, if_false, Bool.false_eq_true]
      exact setRecord_self ..

/-- What the bookkeeping holds, it keeps. -/
structure Grows (w w' : World Body) : Prop where
  runs : ∀ x ∈ w.runs, x ∈ w'.runs
  responses : ∀ x ∈ w.responses, x ∈ w'.responses
  reopened : ∀ k ∈ w.reopened, k ∈ w'.reopened

/-- Nothing has happened. -/
theorem Grows.refl (w : World Body) : Grows w w :=
  ⟨fun _ h => h, fun _ h => h, fun _ h => h⟩

/-- No call forgets a run or a response. -/
theorem Carried.grows {w w' : World Body} {d : Ask Body} {prog : Op Body}
    (h : Carried truthy w d w' prog) : Grows w w' := by
  cases h with
  | claimed route r => exact ⟨by simp +contextual, by simp, by simp⟩
  | returned route r body =>
      exact ⟨fun _ h => h, fun _ h => List.mem_append_left _ h, fun _ h => h⟩
  | completed route r body => exact ⟨fun _ h => h, fun _ h => h, fun _ h => h⟩
  | failed route r =>
      exact ⟨fun _ h => h, fun _ h => h, fun _ h => List.mem_append_left _ h⟩
  | _ => exact Grows.refl w

/-- Nor does an expiry. -/
theorem Event.grows (e : Event) (w : World Body) : Grows w (e.happen w) := by
  simp only [Event.happen]
  split
  · exact ⟨fun _ h => h, fun _ h => h, fun _ h => List.mem_append_left _ h⟩
  · exact Grows.refl w

/-- What is answered stays a response of the handler. -/
theorem OutcomeRight.grows {r : Params} {w w' : World Body} {outcome : Outcome Body}
    (hg : Grows w w') (h : OutcomeRight r w outcome) : OutcomeRight r w' outcome := by
  cases outcome with
  | processed body => exact ⟨hg.runs _ h.1, hg.responses _ h.2⟩
  | cached body =>
      obtain ⟨hrun, b, hb, hmem⟩ := h
      exact ⟨hg.runs _ hrun, b, hb, hg.responses _ hmem⟩
  | rejected reason message =>
      cases reason with
      | inProgress => trivial
      | otherRequest =>
          obtain ⟨hash, hrun, hne⟩ := h
          exact ⟨hash, hg.runs _ hrun, hne⟩
      | failedBefore => exact h
  | error => trivial

/-! ## What the requests of a key know -/

variable {k : String}

/-- A record stands for a run of the handler on its body hash, and a completed
    one holds a response of it. -/
structure RecordRight (k : String) (w : World Body) (record : IdempotencyRecord Body) : Prop where
  run : (k, record.requestHash) ∈ w.runs
  not_failed : record.status ≠ .failed
  response : record.status = .completed →
    ∃ body, record.responseBody = some body ∧ (k, body) ∈ w.responses

/-- So does what a record stores. -/
theorem RecordRight.grows {w w' : World Body} {record : IdempotencyRecord Body}
    (hg : Grows w w') (h : RecordRight k w record) : RecordRight k w' record where
  run := hg.runs _ h.run
  not_failed := h.not_failed
  response hc := by
    obtain ⟨body, hb, hmem⟩ := h.response hc
    exact ⟨body, hb, hg.responses _ hmem⟩

/-- Behind its claim a request has a run of the handler, then a response of it. -/
def AskRight (k : String) (w : World Body) : Ask Body → Prop
  | .handle _ r => r.redisKey = k → (k, r.requestHash) ∈ w.runs
  | .complete _ r body =>
      r.redisKey = k → (k, r.requestHash) ∈ w.runs ∧ (k, body) ∈ w.responses
  | _ => True

/-- An answer under the key is the response of a run of the handler. -/
def AnswerRight (k : String) (w : World Body) : Answer Body → Prop
  | .answered r outcome => r.redisKey = k → OutcomeRight r w outcome
  | .badRequest _ => True

/-- So does what a call carries. -/
theorem AskRight.grows {w w' : World Body} (hg : Grows w w') (d : Ask Body)
    (h : AskRight k w d) : AskRight k w' d := by
  cases d with
  | get route r => trivial
  | set route r => trivial
  | handle route r => exact fun hk => hg.runs _ (h hk)
  | complete route r body => exact fun hk => ⟨hg.runs _ (h hk).1, hg.responses _ (h hk).2⟩
  | fail route r => trivial

/-- So does what an answer tells. -/
theorem AnswerRight.grows {w w' : World Body} (hg : Grows w w') (a : Answer Body)
    (h : AnswerRight k w a) : AnswerRight k w' a := by
  cases a with
  | answered r outcome => exact fun hk => (h hk).grows hg
  | badRequest message => trivial

/-- What a request goes on with is right, if the record it reads is. -/
theorem Carried.right {w w' : World Body} {d : Ask Body} {prog : Op Body}
    (h : Carried truthy w d w' prog) (hd : AskRight k w d)
    (hrec : ∀ record, w.records k = some record → RecordRight k w record) :
    prog.Meets (AskRight k w') (AnswerRight k w') := by
  cases h with
  | stopped d => exact fun _ => trivial
  | vacant route r _ => trivial
  | rejected route r cached reason message hcached hrej =>
      intro hk
      subst hk
      have hright := hrec cached hcached
      cases reason with
      | inProgress => trivial
      | otherRequest => exact ⟨cached.requestHash, hright.run, hrej⟩
      | failedBefore => exact absurd hrej hright.not_failed
  | replayed route r cached hcached hstatus hhash =>
      intro hk
      subst hk
      have hright := hrec cached hcached
      exact ⟨hhash ▸ hright.run, hright.response hstatus⟩
  | letThrough r cached _ _ _ => trivial
  | claimed route r =>
      rintro rfl
      rw [claim_runs]
      exact List.mem_append_right _ (List.mem_singleton_self _)
  | returned route r body =>
      intro hk
      refine ⟨hd hk, ?_⟩
      rw [← hk]
      exact List.mem_append_right _ (List.mem_singleton_self _)
  | threw route r => trivial
  | completed route r body =>
      rintro rfl
      exact hd rfl
  | unmarked r body =>
      rintro rfl
      exact hd rfl
  | notCompleted r body => trivial
  | failed route r => exact fun _ => trivial

/-! ## The token -/

/-- A call tells whether it claims the key. -/
instance (k : String) (d : Ask Body) : Decidable (d.Claims k) := by
  induction d using Ask.casesOn <;> delta Ask.Claims <;> infer_instance

/-- Requests that stand before their claim of the key. -/
def claiming (k : String) (d : Ask Body) : Int := if d.Claims k then 1 else 0

/-- How many claims of the key are in flight. -/
def claims (k : String) (p : State Body) : Int := p.worth (claiming k) fun _ => 0

/-- A call is at least no claim. -/
theorem claiming_nonneg (d : Ask Body) : 0 ≤ claiming k d := by
  simp only [claiming]
  split <;> decide

/-- The claims in flight are at least none. -/
theorem claims_nonneg (p : State Body) : 0 ≤ claims k p :=
  p.worth_nonneg claiming_nonneg fun _ => le_refl _

/-- Nobody in flight claims the key. -/
theorem NoClaim.claims {p : State Body} (h : NoClaim k p) : claims k p = 0 :=
  Pool.worth_eq_zero fun prog hmem =>
    (h prog hmem).mono (fun _ hd => if_neg hd) fun _ _ => rfl

/-- A claim runs the handler once more under its key. -/
theorem handlerRuns_claim (route : Route) (r : Params) (w : World Body) :
    handlerRuns k (w.claim route r) = handlerRuns k w + if r.redisKey = k then 1 else 0 := by
  simp [handlerRuns, List.countP_append, List.countP_singleton]

/-- A response is one more under its key. -/
theorem handlerResponses_respond (r : Params) (body : Body) (w : World Body) :
    handlerResponses k (w.respond r body)
      = handlerResponses k w + if r.redisKey = k then 1 else 0 := by
  simp [handlerResponses, World.respond, List.countP_append, List.countP_singleton]

/-- The key has one token: the empty slot has it, a claim, or a run. -/
structure Token (k : String) (p : State Body) : Prop where
  one : claims k p + handlerRuns k p.world ≤ 1
  vacant : p.world.records k = none → handlerRuns k p.world = 0
  claimed : p.world.records k ≠ none → claims k p = 0
  record : ∀ record, p.world.records k = some record → RecordRight k p.world record

/-- While a claim is in flight the handler has not run. -/
theorem Token.no_run {p : State Body} (h : Token k p) (hclaim : 1 ≤ claims k p) :
    p.world.records k = none ∧ handlerRuns k p.world = 0 := by
  refine ⟨?_, ?_⟩
  · by_contra hrec
    have := h.claimed hrec
    omega
  · have := h.one
    omega

/-- A run that is noted is counted. -/
theorem handlerRuns_pos {w : World Body} {hash : RequestHash} (h : (k, hash) ∈ w.runs) :
    1 ≤ handlerRuns k w :=
  List.countP_pos_iff.mpr ⟨_, h, by simp⟩

/-- Nothing claimed, nothing run, and the slot as it was. -/
theorem Token.frame {p q : State Body} (h : Token k p) (hclaims : claims k q ≤ claims k p)
    (hruns : handlerRuns k q.world = handlerRuns k p.world)
    (hrecords : q.world.records k = p.world.records k) (hg : Grows p.world q.world) :
    Token k q where
  one := by
    have hone := h.one
    omega
  vacant hnone := by
    rw [hruns]
    exact h.vacant (hrecords ▸ hnone)
  claimed hsome := by
    have hzero := h.claimed (hrecords ▸ hsome)
    have hnonneg := claims_nonneg (k := k) q
    omega
  record record hrec := (h.record record (hrecords ▸ hrec)).grows hg

/-- A request reads the empty slot and goes on to claim it. -/
theorem Token.read {p q : State Body} (h : Token k p) (hworld : q.world = p.world)
    (hnone : p.world.records k = none) (hclaims : claims k q ≤ 1) : Token k q where
  one := by
    rw [hworld, h.vacant hnone]
    simpa using hclaims
  vacant hn := by
    rw [hworld]
    exact h.vacant hnone
  claimed hsome := absurd hnone (hworld ▸ hsome)
  record record hrec := by
    rw [hworld, hnone] at hrec
    cases hrec

/-- The claim fills the slot and starts the handler. -/
theorem Token.claim {p q : State Body} {route : Route} {r : Params} (h : Token r.redisKey p)
    (hbefore : 1 ≤ claims r.redisKey p) (hworld : q.world = p.world.claim route r)
    (hclaims : claims r.redisKey q = claims r.redisKey p - 1) : Token r.redisKey q := by
  obtain ⟨hnone, hruns⟩ := h.no_run hbefore
  have hone := h.one
  have hfilled : q.world.records r.redisKey = some ⟨.processing, r.requestHash, none⟩ := by
    rw [hworld]
    exact claim_self hnone route
  refine ⟨?_, fun hrec => ?_, fun _ => ?_, fun record hrec => ?_⟩
  · rw [hclaims, hworld, handlerRuns_claim, hruns, if_pos rfl]
    omega
  · rw [hfilled] at hrec
    cases hrec
  · omega
  · rw [hfilled] at hrec
    cases hrec
    refine ⟨?_, fun hs => (by cases hs), fun hs => (by cases hs)⟩
    rw [hworld, claim_runs]
    exact List.mem_append_right _ (List.mem_singleton_self _)

/-- A response of the run fills the slot. -/
theorem Token.complete {p q : State Body} {r : Params} {body : Body} (h : Token r.redisKey p)
    (hrun : (r.redisKey, r.requestHash) ∈ p.world.runs)
    (hresponse : (r.redisKey, body) ∈ p.world.responses)
    (hworld : q.world = p.world.complete r body)
    (hclaims : claims r.redisKey q = claims r.redisKey p) : Token r.redisKey q := by
  have hfilled : q.world.records r.redisKey = some ⟨.completed, r.requestHash, some body⟩ := by
    rw [hworld]
    exact setRecord_self ..
  have hruns : handlerRuns r.redisKey q.world = handlerRuns r.redisKey p.world := by
    rw [hworld]
    rfl
  have hone := h.one
  have hpos := handlerRuns_pos hrun
  have hnonneg := claims_nonneg (k := r.redisKey) p
  refine ⟨by rw [hclaims, hruns]; exact hone, fun hrec => ?_, fun _ => by omega,
    fun record hrec => ?_⟩
  · rw [hfilled] at hrec
    cases hrec
  · rw [hfilled] at hrec
    cases hrec
    rw [hworld]
    exact ⟨hrun, fun hs => (by cases hs), fun _ => ⟨body, rfl, hresponse⟩⟩

/-- **The token is passed on**: a call that is allowed leaves the key's token
    with one of its holders, unless it reopens the key. -/
theorem Token.asked {p : State Body} {i : Nat} {d : Ask Body} {w' : World Body}
    {prog : Op Body} (h : Token k p) (hright : AskRight k p.world d)
    (hi : p.ops[i]? = some (.ask d))
    (hg : ∀ route r, d = .get route r → (∃ d', prog = .ask d') → ReadsInTurn truthy p route r)
    (hc : Carried truthy p.world d w' prog) (hopen : k ∉ w'.reopened) :
    Token k ⟨w', p.ops.set i prog⟩ := by
  have hset : claims k ⟨w', p.ops.set i prog⟩
      = claims k p + (prog.worth (claiming k) (fun _ => 0) - claiming k d) :=
    Pool.worth_set hi w' prog
  have hle : claiming k d ≤ claims k p :=
    Pool.le_worth claiming_nonneg (fun _ => le_refl _) (List.mem_of_getElem? hi)
  have hkeep : prog.worth (claiming k) (fun _ => 0) ≤ claiming k d →
      claims k ⟨w', p.ops.set i prog⟩ ≤ claims k p := by
    intro hworth
    omega
  have hgrows := hc.grows
  cases hc with
  | stopped d => exact h.frame (hkeep (claiming_nonneg d)) rfl rfl hgrows
  -- the read that leads to a claim: nobody else may be about to claim
  | vacant route r hnone =>
      by_cases hk : r.redisKey = k
      · subst hk
        refine h.read rfl hnone ?_
        rw [hset, ((hg route r rfl ⟨_, rfl⟩).1 hnone).claims]
        simp [claiming, Ask.Claims]
      · exact h.frame (by simp [hset, claiming, Ask.Claims, hk]) rfl rfl hgrows
  | rejected route r cached reason message _ _ => exact h.frame (hkeep (le_refl _)) rfl rfl hgrows
  | replayed route r cached _ _ _ => exact h.frame (hkeep (le_refl _)) rfl rfl hgrows
  -- a stored response that is falsy would let the request through
  | letThrough r cached hcached hnot hfalsy =>
      by_cases hk : r.redisKey = k
      · subst hk
        have hdone : cached.status = .completed := by
          cases hstatus : cached.status with
          | processing => exact absurd hstatus hnot
          | completed => rfl
          | failed => exact absurd hstatus (h.record cached hcached).not_failed
        exact absurd ((hg .order r rfl ⟨_, rfl⟩).2 rfl cached hcached hdone) (hfalsy hdone)
      · exact h.frame (by simp [hset, claiming, Ask.Claims, hk]) rfl rfl hgrows
  -- the claim becomes a run of the handler
  | claimed route r =>
      by_cases hk : r.redisKey = k
      · subst hk
        have hthis : claiming r.redisKey (.set route r : Ask Body) = 1 := by
          simp [claiming, Ask.Claims]
        refine h.claim (hthis ▸ hle) rfl ?_
        rw [hset, hthis]
        simp [claiming, Ask.Claims, sub_eq_add_neg]
      · refine h.frame (by simp [hset, claiming, Ask.Claims, hk]) ?_
          (claim_ne hk route p.world) hgrows
        rw [handlerRuns_claim, if_neg hk, Nat.add_zero]
  | returned route r body => exact h.frame (hkeep (le_refl _)) rfl rfl hgrows
  | threw route r => exact h.frame (hkeep (le_refl _)) rfl rfl hgrows
  | completed route r body =>
      by_cases hk : r.redisKey = k
      · subst hk
        obtain ⟨hrun, hresponse⟩ := hright rfl
        exact h.complete hrun hresponse rfl (by simp [hset, claiming, Ask.Claims])
      · exact h.frame (hkeep (le_refl _)) rfl (setRecord_ne hk _ _) hgrows
  | unmarked r body => exact h.frame (hkeep (le_refl _)) rfl rfl hgrows
  | notCompleted r body => exact h.frame (hkeep (le_refl _)) rfl rfl hgrows
  -- a failed record would open the key again
  | failed route r =>
      have hk : r.redisKey ≠ k := by
        rintro rfl
        exact hopen (List.mem_append_right _ (List.mem_singleton_self _))
      exact h.frame (hkeep (le_refl _)) rfl (setRecord_ne hk _ _) hgrows

/-! ## Every run -/

/-- A request claims nothing when it begins. -/
theorem enter_claims (request : Request) :
    (request.enter : Op Body).worth (claiming k) (fun _ => 0) = 0 := by
  simp only [Request.enter]
  split <;> rfl

/-- A step in turn leaves one claim or one run. -/
theorem Token.step {p q : State Body} (h : Token k p)
    (hright : ∀ prog ∈ p.ops, prog.Meets (AskRight k p.world) (AnswerRight k p.world))
    (hs : (idempotency truthy).Step (disciplined truthy) p q) (hopen : k ∉ q.world.reopened) :
    Token k q := by
  cases hs with
  | started request prog _ he =>
      cases he
      refine h.frame (le_of_eq ?_) rfl rfl (Grows.refl _)
      rw [claims, Pool.worth_append, enter_claims, add_zero]
      rfl
  | asked i ch d w' prog hi hg hd =>
      exact h.asked (hright _ (List.mem_of_getElem? hi)) hi (reads_inTurn hd hg)
        (carried_of_decide hd) hopen
  | settled i hh rest hi =>
      refine h.frame (le_of_eq ?_) rfl rfl (Grows.refl _)
      have hset : claims k ⟨p.world, p.ops.set i rest⟩
          = claims k p + (rest.worth (claiming k) (fun _ => 0)
            - rest.worth (claiming k) (fun _ => 0)) :=
        Pool.worth_set hi p.world rest
      rw [hset, sub_self, add_zero]
  | resolved i j ch ts t hh rest w' _ _ _ _ => exact nomatch t
  | wentOn i j ch ts t t' hh rest w' _ _ _ _ => exact nomatch t
  | threw i j ch ts t hh rest w' _ _ _ _ => exact nomatch t
  | moved e _ =>
      have hgrows := e.grows p.world
      have hruns : handlerRuns k (e.happen p.world) = handlerRuns k p.world := by
        simp only [Event.happen]
        split <;> rfl
      refine h.frame (le_refl _) hruns ?_ hgrows
      show (e.happen p.world).records k = p.world.records k
      have hopen' : k ∉ (e.happen p.world).reopened := hopen
      simp only [Event.happen] at hopen' ⊢
      split
      · next hsome =>
        rw [if_pos hsome] at hopen'
        have hne : e.expired ≠ k := by
          rintro rfl
          exact hopen' (List.mem_append_right _ (List.mem_singleton_self _))
        exact setRecord_ne hne none p.world
      · rfl

/-- Every step keeps what is carried right. -/
theorem right_step {p q : State Body}
    (hrec : ∀ record, p.world.records k = some record → RecordRight k p.world record)
    (hright : ∀ prog ∈ p.ops, prog.Meets (AskRight k p.world) (AnswerRight k p.world))
    (hs : (idempotency truthy).Step (disciplined truthy) p q) :
    ∀ prog ∈ q.ops, prog.Meets (AskRight k q.world) (AnswerRight k q.world) := by
  refine hs.meets (J := AskRight k) (K := AnswerRight k) hright ?_ ?_ ?_
  · intro request prog _ he
    cases he
    simp only [Request.enter]
    split <;> trivial
  · intro ch d w' prog _ hd _ hdec
    have hc := carried_of_decide hdec
    exact ⟨hc.right hd hrec, AskRight.grows hc.grows, AnswerRight.grows hc.grows⟩
  · intro e _
    exact ⟨AskRight.grows (e.grows p.world), AnswerRight.grows (e.grows p.world)⟩

/-- A key that was reopened stays so. -/
theorem reopened_step {p q : State Body} (hs : (idempotency truthy).Step (disciplined truthy) p q)
    (hk : k ∈ p.world.reopened) : k ∈ q.world.reopened :=
  hs.world (I := fun w => k ∈ w.reopened) hk
    (fun _ _ _ _ _ _ hd => (carried_of_decide hd).grows.reopened k hk) (fun _ t => nomatch t)
    fun e _ => (e.grows p.world).reopened k hk

/-- Handlers that are running. -/
def running (k : String) : Ask Body → Int
  | .handle _ r => if r.redisKey = k then 1 else 0
  | _ => 0

/-- A call has at least no response to give. -/
theorem running_nonneg (d : Ask Body) : 0 ≤ running k d := by
  cases d <;> simp only [running] <;> first | exact le_refl _ | split <;> decide

/-- The responses of a key and its running handlers, beyond its runs. -/
def surplus (k : String) (p : State Body) : Int :=
  (handlerResponses k p.world - handlerRuns k p.world : Int) + p.worth (running k) fun _ => 0

/-- **A run responds once.** -/
theorem Carried.responses {w w' : World Body} {d : Ask Body} {prog : Op Body}
    (h : Carried truthy w d w' prog) :
    (handlerResponses k w' - handlerRuns k w' : Int) + prog.worth (running k) (fun _ => 0)
      ≤ (handlerResponses k w - handlerRuns k w : Int) + running k d := by
  cases h with
  | stopped d =>
      have hnonneg := running_nonneg (k := k) d
      simpa using hnonneg
  | vacant route r _ => exact le_refl _
  | rejected route r cached reason message _ _ => exact le_refl _
  | replayed route r cached _ _ _ => exact le_refl _
  | letThrough r cached _ _ _ => exact le_refl _
  | claimed route r =>
      have hresponses : handlerResponses k (w.claim route r) = handlerResponses k w := by
        rw [handlerResponses, claim_responses]
        rfl
      rw [hresponses, handlerRuns_claim]
      simp only [Prog.worth_ask, running]
      split <;> omega
  | returned route r body =>
      have hruns : handlerRuns k (w.respond r body) = handlerRuns k w := rfl
      rw [hruns, handlerResponses_respond]
      simp only [Prog.worth_ask, running]
      split <;> omega
  | threw route r =>
      have hnonneg := running_nonneg (k := k) (.handle route r : Ask Body)
      simp only [Prog.worth_ask]
      show _ + (0 : Int) ≤ _
      omega
  | completed route r body => exact le_refl _
  | unmarked r body => exact le_refl _
  | notCompleted r body => exact le_refl _
  | failed route r => exact le_refl _

/-- No step gives a response without a run. -/
theorem surplus_step {p q : State Body}
    (hs : (idempotency truthy).Step (disciplined truthy) p q) : surplus k q ≤ surplus k p := by
  refine hs.weigh (· ≤ ·) le_refl (fun _ _ c h => add_le_add_left h c)
    (fun w => (handlerResponses k w - handlerRuns k w : Int)) ?_ ?_ ?_
  · intro request prog _ he
    cases he
    simp only [Request.enter]
    split <;> exact le_refl _
  · intro ch d w' prog _ _ hdec
    exact (carried_of_decide hdec).responses
  · intro e _
    show (handlerResponses k (e.happen p.world) - handlerRuns k (e.happen p.world) : Int) ≤ _
    simp only [Event.happen]
    split <;> exact le_refl _

/-- A key nobody has reopened: its token, and what its requests know. -/
structure Held (k : String) (p : State Body) : Prop where
  token : Token k p
  right : ∀ prog ∈ p.ops, prog.Meets (AskRight k p.world) (AnswerRight k p.world)

/-- At the start the key is unused. -/
theorem unused_held (k : String) : Held k (unused : State Body) where
  token := ⟨Int.zero_le_ofNat 1, fun _ => rfl, fun hrec => absurd rfl hrec,
    fun _ hrec => by cases hrec⟩
  right prog hmem := by cases hmem

/-- Where the handler has run at most once, it was for one body. -/
theorem mem_unique {runs : List (String × RequestHash)} {hash hash' : RequestHash}
    (hone : (runs.countP fun x => x.1 = k) ≤ 1) (h : (k, hash) ∈ runs) (h' : (k, hash') ∈ runs) :
    hash = hash' := by
  rw [List.countP_eq_length_filter] at hone
  have hmem : ∀ {x}, (k, x) ∈ runs → (k, x) ∈ runs.filter fun x => x.1 = k := fun hx =>
    List.mem_filter.mpr ⟨hx, by simp⟩
  have hin := hmem h
  have hin' := hmem h'
  match hfilter : runs.filter fun x => x.1 = k with
  | [] =>
      rw [hfilter] at hin
      cases hin
  | [x] =>
      rw [hfilter, List.mem_singleton] at hin hin'
      exact (Prod.ext_iff.mp (hin.trans hin'.symm)).2
  | x :: y :: rest =>
      rw [hfilter] at hone
      simp at hone

/-- **At most once per key**: in every run that keeps the discipline, a key whose
    record has neither failed nor expired has had one run of the handler at
    most, on one body, and every other request was rejected or answered with the
    response of that run. -/
theorem idempotency_at_most_once {q : State Body}
    (h : (idempotency truthy).Run (disciplined truthy) unused q) (k : String)
    (hk : k ∉ q.world.reopened) : AtMostOnce k q := by
  have hheld : k ∉ q.world.reopened → Held k q := by
    refine h.inv (I := fun p => k ∉ p.world.reopened → Held k p) ?_ fun _ => unused_held k
    intro p q' hp hs hopen
    have hp' := hp fun hmem => hopen (reopened_step hs hmem)
    exact ⟨hp'.token.step hp'.right hs hopen, right_step hp'.token.record hp'.right hs⟩
  have hsurplus : surplus k q ≤ 0 :=
    h.inv (I := fun p => surplus k p ≤ 0) (fun _ _ hp hs => (surplus_step hs).trans hp)
      (le_refl (0 : Int))
  obtain ⟨htoken, hright⟩ := hheld hk
  have hone : handlerRuns k q.world ≤ 1 := by
    have htok := htoken.one
    have hnonneg := claims_nonneg (k := k) q
    omega
  refine ⟨hone, ?_, fun hash hash' => mem_unique hone, fun r outcome hmem => hright _ hmem⟩
  have hrunning : 0 ≤ q.worth (running k) fun _ => (0 : Int) :=
    q.worth_nonneg running_nonneg fun _ => le_refl _
  rw [surplus] at hsurplus
  omega

/-! ### One key, several requests -/

section Examples

/-- A text is falsy when it is empty. -/
def nonempty (body : String) : Bool := body ≠ ""

/-- `POST /orders` of one customer. -/
def orderRequest : Request := ⟨.order, "u1", "key", ⟨"h1", by decide⟩⟩

/-- `POST /payments` under the same key. -/
def paymentRequest (hash : RequestHash) : Request := ⟨.payment, "u1", "key", hash⟩

/-- The requests in flight are looked through. -/
instance (k : String) (p : State String) : Decidable (NoClaim k p) :=
  inferInstanceAs (Decidable (∀ prog ∈ p.ops, _))

/-- The record and the requests in flight tell. -/
instance (p : State String) (route : Route) (r : Params) :
    Decidable (ReadsInTurn nonempty p route r) :=
  inferInstanceAs (Decidable ((_ → _) ∧ (_ → ∀ cached ∈ _, _ → _)))

/-- A run can be checked for this, step by step. -/
instance (p : State String) (r : Request) : Decidable ((disciplined nonempty).req p r) :=
  inferInstanceAs (Decidable True)
instance (p : State String) (ch : Choice String) (d : Ask String) :
    Decidable ((disciplined nonempty).ask p ch d) := by
  induction d using Ask.casesOn <;> delta disciplined <;> infer_instance
instance (p : State String) (ch : Choice String) (t : Empty) :
    Decidable ((disciplined nonempty).task p ch t) :=
  inferInstanceAs (Decidable True)
instance (p : State String) (e : Event) : Decidable ((disciplined nonempty).env p e) :=
  inferInstanceAs (Decidable True)

/-- A repeated request comes while the first one is processed, another one after. -/
def repeated : List (Action (Choice String) Request Event) :=
  [.start orderRequest, .step 0 0 {}, .step 0 0 {}, .start orderRequest, .step 1 0 {},
   .step 0 0 { response := some "order 1" }, .step 0 0 {}, .start orderRequest, .step 2 0 {}]

/-- The handler runs once for three requests with the key. -/
theorem idempotency_at_most_once_repeated :
    ∃ q, (idempotency nonempty).Run (disciplined nonempty) unused q ∧
      ("idem:u1:key" ∉ q.world.reopened ∧ q.ops.length = 3 ∧
        handlerRuns "idem:u1:key" q.world = 1) ∧
      AtMostOnce "idem:u1:key" q := by
  obtain ⟨q, hrun, hq⟩ : ∃ q, (idempotency nonempty).Run (disciplined nonempty) unused q ∧
      ("idem:u1:key" ∉ q.world.reopened ∧ q.ops.length = 3 ∧
        handlerRuns "idem:u1:key" q.world = 1) :=
    exists_run repeated _ (by decide)
  exact ⟨q, hrun, hq, idempotency_at_most_once hrun "idem:u1:key" hq.1⟩

/-- Both requests read before either has claimed. -/
def doubleClick (request request' : Request) : List (Action (Choice String) Request Event) :=
  [.start request, .start request', .step 0 0 {}, .step 1 0 {}, .step 0 0 {}, .step 1 0 {}]

/-- The first request is answered with an empty response, then the second comes. -/
def emptyResponse : List (Action (Choice String) Request Event) :=
  [.start orderRequest, .step 0 0 {}, .step 0 0 {}, .step 0 0 { response := some "" },
   .step 0 0 {}, .start orderRequest, .step 1 0 {}, .step 1 0 {}]

/-- The handler runs twice under one key: for a double click, on two bodies, and
    after a response that is falsy. -/
theorem idempotency_runs_twice :
    (∃ q, (idempotency nonempty).Run Guard.any unused q ∧
      "idem:u1:key" ∉ q.world.reopened ∧ handlerRuns "idem:u1:key" q.world = 2) ∧
    (∃ q, (idempotency nonempty).Run Guard.any unused q ∧
      "idem:u1:key" ∉ q.world.reopened ∧
        q.world.runs.map (fun x => x.2.1) = ["h1", "h2"]) ∧
    ∃ q, (idempotency nonempty).Run Guard.any unused q ∧
      "idem:u1:key" ∉ q.world.reopened ∧ q.world.responses = [("idem:u1:key", "")] ∧
        handlerRuns "idem:u1:key" q.world = 2 :=
  ⟨exists_run (doubleClick orderRequest orderRequest) _ (by decide),
    exists_run (doubleClick (paymentRequest ⟨"h1", by decide⟩) (paymentRequest ⟨"h2", by decide⟩))
      _ (by decide),
    exists_run emptyResponse _ (by decide)⟩

end Examples

end TicketIdempotency
