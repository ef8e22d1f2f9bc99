import TicketBox.IdempotencyProofs

/-! # Requests that are repeated

    A client repeats a request under its key until it has an answer; a handler that throws
    makes the next one run.  Where no request is started while another one of its key
    stands before its claim, and the record does not expire, one of them responds in the
    end, and every answer is its response (`Served.step`).  Whatever the clients do, a
    record that is settled decides every request that comes after it (`Settled.step`). -/

namespace TicketIdempotency

open Interleave

variable {Body : Type} {name : String} {w w' : World Body} {p q : State Body} {d : Ask Body}
  {prog : Op Body}

/-! ## Where a request stands -/

/-- The route of the call's request. -/
def Ask.route : Ask Body → Route
  | .get route _ => route
  | .set route _ => route
  | .handle route _ => route
  | .complete route _ _ => route
  | .fail route _ => route

/-- The request has not claimed its key. -/
def Ask.BeforeClaim (name : String) : Ask Body → Prop
  | .get _ r => r.redisKey = name
  | .set _ r => r.redisKey = name
  | _ => False

/-- The handler of the request is running, or has thrown. -/
def Ask.AtWork (name : String) : Ask Body → Prop
  | .handle _ r => r.redisKey = name
  | .fail _ r => r.redisKey = name
  | _ => False

/-- A call tells how far its request is. -/
instance (d : Ask Body) : Decidable (d.BeforeClaim name) := by
  induction d using Ask.casesOn <;> delta Ask.BeforeClaim <;> infer_instance

/-- It tells whether its request has claimed. -/
instance (d : Ask Body) : Decidable (d.AtWork name) := by
  induction d using Ask.casesOn <;> delta Ask.AtWork <;> infer_instance

/-- Whether the call comes before the claim, as a number. -/
def beforeClaim (name : String) (d : Ask Body) : Int := if d.BeforeClaim name then 1 else 0

/-- Whether the call comes after the claim, as a number. -/
def atWork (name : String) (d : Ask Body) : Int := if d.AtWork name then 1 else 0

theorem beforeClaim_nonneg (name : String) (d : Ask Body) : 0 ≤ beforeClaim name d := by
  unfold beforeClaim
  split <;> decide

theorem atWork_nonneg (name : String) (d : Ask Body) : 0 ≤ atWork name d := by
  unfold atWork
  split <;> decide

/-- Requests before their claim of the key. -/
def waiting (name : String) (p : State Body) : Int := p.worth (beforeClaim name) fun _ => 0

/-- Handlers at work under the key. -/
def working (name : String) (p : State Body) : Int := p.worth (atWork name) fun _ => 0

/-- The calls behind the claim are at least none. -/
theorem working_nonneg (name : String) (p : State Body) : 0 ≤ working name p :=
  p.worth_nonneg (atWork_nonneg name) fun _ => le_refl _

/-- A call behind the claim is one of them. -/
theorem atWork_le_working (h : .ask d ∈ p.ops) : atWork name d ≤ working name p :=
  Pool.le_worth (atWork_nonneg name) (fun _ => le_refl _) h

/-! ## One request of the key at a time -/

/-- No request of the key stands before its claim. -/
def Clear (name : String) (p : State Body) : Prop :=
  ∀ prog ∈ p.ops, prog.Meets (fun d => ¬ d.BeforeClaim name) fun _ => True

/-- The requests in flight are looked through. -/
instance (p : State Body) : Decidable (Clear name p) :=
  inferInstanceAs (Decidable (∀ prog ∈ p.ops, _))

/-- Nobody is before the claim. -/
theorem Clear.waiting (h : Clear name p) : waiting name p = 0 :=
  Pool.worth_eq_zero fun prog hmem => (h prog hmem).mono (fun _ hd => if_neg hd) fun _ _ => rfl

/-- A request of the key, behind the interceptor, comes when no other one stands before its
    claim; its record does not expire. -/
def inTurn (name : String) : Condition Body where
  req := fun p r => r.recordName = name → r.route = .order ∧ Clear name p
  ask := fun _ _ _ => True
  task := fun _ _ _ => True
  env := fun _ e => e.expired ≠ name

/-- What is known of a call once `won` is the response of the key, with the hash of the
    request that got it. -/
def Ask.Knows (name : String) (won : Option (RequestHash × Body)) (w : World Body)
    (d : Ask Body) : Prop :=
  d.params.redisKey = name → d.route = .order ∧
    match d with
    | .set _ _ => w.records name = none
    | .complete _ r body => won = some (r.requestHash, body)
    | _ => True

/-- An answer with a response tells the response that won. -/
def Answer.Knows (name : String) (won : Option (RequestHash × Body)) : Answer Body → Prop
  | .answered r (.processed body) => r.redisKey = name → won = some (r.requestHash, body)
  | .answered r (.cached (some body)) => r.redisKey = name → won = some (r.requestHash, body)
  | _ => True

/-- The state of a key: `won` is the response that its requests have got, if any. -/
structure Served (name : String) (won : Option (RequestHash × Body)) (p : State Body) :
    Prop where
  waits : waiting name p ≤ 1
  works : working name p ≤ 1
  vacant : p.world.records name = none → working name p = 0 ∧ won = none
  idle : won.isSome → working name p = 0
  record : ∀ record, p.world.records name = some record → record.status ≠ .failed ∧
    (record.status = .completed →
      ∃ body, record.responseBody = some body ∧ won = some (record.requestHash, body))
  responses : handlerResponses name p.world = if won.isSome then 1 else 0
  knows : ∀ prog ∈ p.ops, prog.Meets (Ask.Knows name won p.world) (Answer.Knows name won)

/-- At the start the key has served nobody. -/
theorem unused_served (name : String) : Served name none (unused : State Body) where
  waits := zero_le_one
  works := zero_le_one
  vacant _ := ⟨rfl, rfl⟩
  idle h := by cases h
  record record h := by cases h
  responses := rfl
  knows prog h := by cases h

/-! ### Calls of other keys -/

/-- A call goes on for its own request. -/
theorem Carried.plain {truthy : Body → Bool} (h : Carried truthy w d w' prog) :
    prog.Meets (fun d' => d'.params = d.params ∧ (d'.route = d.route))
      (fun a => ∃ outcome, a = .answered d.params outcome) := by
  cases h with
  | stopped d => exact ⟨.error, rfl⟩
  | vacant route r _ => exact ⟨rfl, rfl⟩
  | rejected route r cached reason message _ _ => exact ⟨.rejected reason message, rfl⟩
  | replayed route r cached _ _ _ => exact ⟨.cached cached.responseBody, rfl⟩
  | letThrough r cached _ _ _ => exact ⟨rfl, rfl⟩
  | claimed route r => exact ⟨rfl, rfl⟩
  | returned route r body => exact ⟨rfl, rfl⟩
  | threw route r => exact ⟨rfl, rfl⟩
  | completed route r body => exact ⟨.processed body, rfl⟩
  | unmarked r body => exact ⟨.processed body, rfl⟩
  | notCompleted r body => exact ⟨rfl, rfl⟩
  | failed route r => exact ⟨.error, rfl⟩

/-- A call writes under its own key only. -/
theorem Carried.elsewhere {truthy : Body → Bool} (h : Carried truthy w d w' prog)
    (hne : d.params.redisKey ≠ name) : w'.records name = w.records name ∧
      handlerResponses name w' = handlerResponses name w := by
  cases h with
  | stopped d => exact ⟨rfl, rfl⟩
  | vacant route r _ => exact ⟨rfl, rfl⟩
  | rejected route r cached reason message _ _ => exact ⟨rfl, rfl⟩
  | replayed route r cached _ _ _ => exact ⟨rfl, rfl⟩
  | letThrough r cached _ _ _ => exact ⟨rfl, rfl⟩
  | claimed route r =>
      refine ⟨claim_ne hne route w, ?_⟩
      rw [handlerResponses, claim_responses]
      rfl
  | returned route r body =>
      have hother : r.redisKey ≠ name := hne
      refine ⟨rfl, ?_⟩
      rw [handlerResponses_respond, if_neg hother, add_zero]
  | threw route r => exact ⟨rfl, rfl⟩
  | completed route r body => exact ⟨setRecord_ne hne _ w, rfl⟩
  | unmarked r body => exact ⟨rfl, rfl⟩
  | notCompleted r body => exact ⟨rfl, rfl⟩
  | failed route r => exact ⟨setRecord_ne hne _ w, rfl⟩

/-- A request of another key does not come before the claim. -/
theorem beforeClaim_of_ne (hne : d.params.redisKey ≠ name) : beforeClaim name d = 0 := by
  refine if_neg fun h => ?_
  cases d <;> first | exact hne h | exact h

/-- Nor behind it. -/
theorem atWork_of_ne (hne : d.params.redisKey ≠ name) : atWork name d = 0 := by
  refine if_neg fun h => ?_
  cases d <;> first | exact hne h | exact h

/-- A call of another request counts nothing. -/
theorem worth_of_plain {fd : Ask Body → Int} {r : Params} (hzero : ∀ d, d.params = r → fd d = 0)
    {jr : Answer Body → Prop} (h : prog.Meets (fun d' => d'.params = r) jr) :
    prog.worth fd (fun _ => 0) = 0 := by
  induction prog with
  | ret a => rfl
  | ask d' => exact hzero d' h
  | par ts hh rest _ ih => exact ih h

/-- What a call knows depends on the record only. -/
theorem Ask.Knows.congr {won : Option (RequestHash × Body)}
    (hrecords : w'.records name = w.records name) (h : d.Knows name won w) :
    d.Knows name won w' := by
  intro hname
  obtain ⟨hroute, hd⟩ := h hname
  refine ⟨hroute, ?_⟩
  cases d with
  | set route r => exact hrecords.trans hd
  | get _ _ => trivial
  | handle _ _ => trivial
  | complete _ r body => exact hd
  | fail _ _ => trivial

/-! ### One step -/

variable {won : Option (RequestHash × Body)} {i : Nat}

/-- What a call changes of those before the claim. -/
theorem waiting_set (name : String) (hi : p.ops[i]? = some (.ask d)) (w' : World Body)
    (prog : Op Body) :
    waiting name ⟨w', p.ops.set i prog⟩
      = waiting name p + (prog.worth (beforeClaim name) (fun _ => 0) - beforeClaim name d) :=
  Pool.worth_set hi w' prog

/-- What it changes of those behind it. -/
theorem working_set (name : String) (hi : p.ops[i]? = some (.ask d)) (w' : World Body)
    (prog : Op Body) :
    working name ⟨w', p.ops.set i prog⟩
      = working name p + (prog.worth (atWork name) (fun _ => 0) - atWork name d) :=
  Pool.worth_set hi w' prog

/-- A call after which the record and the responses of the key are as they were. -/
theorem Served.goOn (h : Served name won p) (hi : p.ops[i]? = some (.ask d))
    (hrecords : w'.records name = p.world.records name)
    (hresponses : handlerResponses name w' = handlerResponses name p.world)
    (hwait : prog.worth (beforeClaim name) (fun _ => 0) ≤ beforeClaim name d)
    (hwork : prog.worth (atWork name) (fun _ => 0) ≤ atWork name d)
    (hknows : prog.Meets (Ask.Knows name won w') (Answer.Knows name won)) :
    Served name won ⟨w', p.ops.set i prog⟩ := by
  have hwaits := waiting_set name hi w' prog
  have hworks := working_set name hi w' prog
  have hnonneg := working_nonneg name (⟨w', p.ops.set i prog⟩ : State Body)
  refine ⟨?_, ?_, ?_, ?_, ?_, ?_, ?_⟩
  · have hone := h.waits
    omega
  · have hone := h.works
    omega
  · intro hnone
    obtain ⟨hzero, hwon⟩ := h.vacant (hrecords ▸ hnone)
    exact ⟨by omega, hwon⟩
  · intro hwon
    have hzero := h.idle hwon
    omega
  · intro record hrec
    exact h.record record (hrecords ▸ hrec)
  · exact hresponses.trans h.responses
  · refine all_of_set (fun x hx => ?_) hknows
    exact (h.knows x hx).mono (fun _ hd => hd.congr hrecords) fun _ ha => ha

/-- The request that finds the slot empty claims it; nobody else is about to. -/
theorem Served.claim {r : Params} (h : Served r.redisKey won p) {route : Route}
    (hi : p.ops[i]? = some (.ask (.set route r))) :
    Served r.redisKey won ⟨p.world.claim route r, p.ops.set i (.ask (.handle route r))⟩ := by
  have hmem : Prog.ask (.set route r) ∈ p.ops := List.mem_of_getElem? hi
  obtain ⟨hroute, hnone⟩ : route = .order ∧ p.world.records r.redisKey = none :=
    h.knows _ hmem rfl
  subst hroute
  obtain ⟨hzero, hwon⟩ := h.vacant hnone
  have hclaimed : (p.world.claim .order r).records r.redisKey
      = some ⟨.processing, r.requestHash, none⟩ := setRecord_self _ _ _
  have hwaits := waiting_set r.redisKey hi (p.world.claim .order r)
    (.ask (.handle .order r))
  have hworks := working_set r.redisKey hi (p.world.claim .order r)
    (.ask (.handle .order r))
  have hset : beforeClaim r.redisKey (.set .order r : Ask Body) = 1 := if_pos rfl
  have hhandle : beforeClaim r.redisKey (.handle .order r : Ask Body) = 0 := if_neg id
  have hset' : atWork r.redisKey (.set .order r : Ask Body) = 0 := if_neg id
  have hhandle' : atWork r.redisKey (.handle .order r : Ask Body) = 1 := if_pos rfl
  simp only [Prog.worth_ask, hset, hhandle] at hwaits
  simp only [Prog.worth_ask, hset', hhandle'] at hworks
  have hone := h.waits
  subst hwon
  refine ⟨by omega, by omega, ?_, ?_, ?_, ?_, ?_⟩
  · intro hempty
    rw [hclaimed] at hempty
    cases hempty
  · intro hsome
    cases hsome
  · intro record hrec
    rw [hclaimed] at hrec
    cases hrec
    refine ⟨IdempotencyStatus.noConfusion, fun hdone => ?_⟩
    cases hdone
  · rw [handlerResponses, claim_responses]
    exact h.responses
  -- nobody else is before a claim: the one place was this operation's
  · intro x hx
    have hx₀ : x = .ask (.handle .order r) ∨ x ∈ p.ops := (List.mem_or_eq_of_mem_set hx).symm
    have hold : x.Meets (Ask.Knows r.redisKey none p.world) (Answer.Knows r.redisKey none) := by
      rcases hx₀ with rfl | hmem
      · exact fun _ => ⟨rfl, trivial⟩
      · exact h.knows x hmem
    have hless : x.worth (beforeClaim r.redisKey) (fun _ => 0) ≤ 0 := by
      have hle := Pool.le_worth (p := ⟨p.world.claim .order r, p.ops.set i (.ask (.handle .order r))⟩)
        (beforeClaim_nonneg r.redisKey) (fun _ : Answer Body => le_refl (0 : Int)) hx
      have hsum : waiting r.redisKey
          ⟨p.world.claim .order r, p.ops.set i (.ask (.handle .order r))⟩ ≤ 0 := by omega
      exact le_trans hle hsum
    clear hx hx₀
    induction x with
    | ret a => exact hold
    | ask d' =>
        intro hname
        obtain ⟨hroute, hd⟩ := hold hname
        refine ⟨hroute, ?_⟩
        cases d' with
        | set route' r' =>
            have hpos : beforeClaim r.redisKey (.set route' r' : Ask Body) = 1 := if_pos hname
            rw [Prog.worth_ask, hpos] at hless
            omega
        | get _ _ => trivial
        | handle _ _ => trivial
        | complete _ r body => exact hd
        | fail _ _ => trivial
    | par ts hh rest _ ih => exact ih hold hless

/-- The handler responds: this is the response of the key. -/
theorem Served.respond {r : Params} {route : Route} (h : Served r.redisKey won p)
    (hi : p.ops[i]? = some (.ask (.handle route r))) (body : Body) :
    won = none ∧ Served r.redisKey (some (r.requestHash, body))
      ⟨p.world.respond r body, p.ops.set i (.ask (.complete route r body))⟩ := by
  have hmem : Prog.ask (.handle route r) ∈ p.ops := List.mem_of_getElem? hi
  obtain ⟨hroute, -⟩ := h.knows _ hmem rfl
  have hhandle : atWork r.redisKey (.handle route r : Ask Body) = 1 := if_pos rfl
  have hcomplete : atWork r.redisKey (.complete route r body : Ask Body) = 0 := if_neg id
  have hhandle' : beforeClaim r.redisKey (.handle route r : Ask Body) = 0 := if_neg id
  have hcomplete' : beforeClaim r.redisKey (.complete route r body : Ask Body) = 0 := if_neg id
  have hbusy : 1 ≤ working r.redisKey p := by
    rw [← hhandle]
    exact atWork_le_working hmem
  -- a handler at work means that none has responded yet
  have hwon : won = none := by
    cases won with
    | none => rfl
    | some x =>
        have hzero := h.idle rfl
        omega
  subst hwon
  refine ⟨rfl, ?_⟩
  have hwaits := waiting_set r.redisKey hi (p.world.respond r body)
    (.ask (.complete route r body))
  have hworks := working_set r.redisKey hi (p.world.respond r body)
    (.ask (.complete route r body))
  simp only [Prog.worth_ask, hhandle', hcomplete'] at hwaits
  simp only [Prog.worth_ask, hhandle, hcomplete] at hworks
  have hone := h.waits
  have hone' := h.works
  refine ⟨by omega, by omega, ?_, fun _ => by omega, ?_, ?_, ?_⟩
  · intro hnone
    have hzero := (h.vacant hnone).1
    omega
  · intro record hrec
    refine ⟨(h.record record hrec).1, fun hdone => ?_⟩
    obtain ⟨body', -, hnone⟩ := (h.record record hrec).2 hdone
    cases hnone
  · rw [handlerResponses_respond, h.responses]
    simp
  · refine all_of_set (fun x hx => ?_) fun _ => ⟨hroute, rfl⟩
    refine (h.knows x hx).mono (fun d' hd hname => ?_) fun a ha => ?_
    · obtain ⟨hroute', hd'⟩ := hd hname
      refine ⟨hroute', ?_⟩
      cases d' with
      | set route' r' => exact hd'
      | get _ _ => trivial
      | handle _ _ => trivial
      | complete _ r' body' => cases hd'
      | fail _ _ => trivial
    · -- nobody has been answered with a response yet
      unfold Answer.Knows at ha ⊢
      split
      · exact fun hname => absurd (ha hname) (Option.some_ne_none _).symm
      · exact fun hname => absurd (ha hname) (Option.some_ne_none _).symm
      · trivial

/-- The response is kept in the record. -/
theorem Served.complete {r : Params} {route : Route} {body : Body} (h : Served r.redisKey won p)
    (hi : p.ops[i]? = some (.ask (.complete route r body))) :
    Served r.redisKey won ⟨p.world.complete r body,
      p.ops.set i (.ret (.answered r (.processed body)))⟩ := by
  have hmem : Prog.ask (.complete route r body) ∈ p.ops := List.mem_of_getElem? hi
  obtain ⟨hroute, hwon⟩ : route = .order ∧ won = some (r.requestHash, body) :=
    h.knows _ hmem rfl
  have hrecord : (p.world.complete r body).records r.redisKey
      = some ⟨.completed, r.requestHash, some body⟩ := setRecord_self _ _ _
  have hcomplete : atWork r.redisKey (.complete route r body : Ask Body) = 0 := if_neg id
  have hcomplete' : beforeClaim r.redisKey (.complete route r body : Ask Body) = 0 := if_neg id
  have hwaits := waiting_set r.redisKey hi (p.world.complete r body)
    (.ret (.answered r (.processed body)))
  have hworks := working_set r.redisKey hi (p.world.complete r body)
    (.ret (.answered r (.processed body)))
  simp only [Prog.worth_ret, hcomplete'] at hwaits
  simp only [Prog.worth_ret, hcomplete] at hworks
  have hone := h.waits
  have hone' := h.works
  refine ⟨by omega, by omega, ?_, ?_, ?_, h.responses, ?_⟩
  · intro hnone
    rw [hrecord] at hnone
    cases hnone
  · intro hsome
    have hzero := h.idle hsome
    omega
  · intro record hrec
    rw [hrecord] at hrec
    cases hrec
    exact ⟨IdempotencyStatus.noConfusion, fun _ => ⟨body, rfl, hwon⟩⟩
  · refine all_of_set (fun x hx => ?_) fun _ => hwon
    refine (h.knows x hx).mono (fun d' hd hname => ?_) fun _ ha => ha
    obtain ⟨hroute', hd'⟩ := hd hname
    refine ⟨hroute', ?_⟩
    cases d' with
    | set route' r' =>
        -- a request about to claim has found the slot empty: nobody has won
        have hnone := (h.vacant hd').2
        rw [hwon] at hnone
        cases hnone
    | get _ _ => trivial
    | handle _ _ => trivial
    | complete _ r' body' => exact hd'
    | fail _ _ => trivial

/-- The handler has thrown: the record is deleted, and the next request may claim. -/
theorem Served.fail {r : Params} {route : Route} (h : Served r.redisKey won p)
    (hi : p.ops[i]? = some (.ask (.fail route r))) :
    Served r.redisKey won ⟨p.world.fail route r, p.ops.set i (.ret (.answered r .error))⟩ := by
  have hmem : Prog.ask (.fail route r) ∈ p.ops := List.mem_of_getElem? hi
  obtain ⟨hroute, -⟩ : route = .order ∧ True := h.knows _ hmem rfl
  subst hroute
  have hfail : atWork r.redisKey (.fail .order r : Ask Body) = 1 := if_pos rfl
  have hfail' : beforeClaim r.redisKey (.fail .order r : Ask Body) = 0 := if_neg id
  have hbusy : 1 ≤ working r.redisKey p := by
    rw [← hfail]
    exact atWork_le_working hmem
  have hwon : won = none := by
    cases won with
    | none => rfl
    | some x =>
        have hzero := h.idle rfl
        omega
  have hempty : (p.world.fail .order r).records r.redisKey = none := setRecord_self _ _ _
  have hwaits := waiting_set r.redisKey hi (p.world.fail .order r) (.ret (.answered r .error))
  have hworks := working_set r.redisKey hi (p.world.fail .order r) (.ret (.answered r .error))
  simp only [Prog.worth_ret, hfail'] at hwaits
  simp only [Prog.worth_ret, hfail] at hworks
  have hone := h.waits
  have hone' := h.works
  refine ⟨by omega, by omega, fun _ => ⟨by omega, hwon⟩, fun _ => by omega, ?_, h.responses, ?_⟩
  · intro record hrec
    rw [hempty] at hrec
    cases hrec
  · refine all_of_set (fun x hx => ?_) trivial
    refine (h.knows x hx).mono (fun d' hd hname => ?_) fun _ ha => ha
    obtain ⟨hroute', hd'⟩ := hd hname
    refine ⟨hroute', ?_⟩
    cases d' with
    | set route' r' => exact hempty
    | get _ _ => trivial
    | handle _ _ => trivial
    | complete _ r' body' => exact hd'
    | fail _ _ => trivial

/-- Every call keeps what the key has served. -/
theorem Served.asked (h : Served name won p) {ch : Choice Body}
    (hi : p.ops[i]? = some (.ask d))
    (hd : (truthful Body).decide ch p.world d = some (w', prog)) :
    ∃ won', Served name won' ⟨w', p.ops.set i prog⟩ ∧ (won.isSome → won' = won) := by
  have hcarried := carried_of_decide hd
  have hknown := h.knows _ (List.mem_of_getElem? hi)
  by_cases hname : d.params.redisKey = name
  · subst hname
    cases hcarried with
    | stopped d =>
        exact ⟨won, h.goOn hi rfl rfl (beforeClaim_nonneg _ d) (atWork_nonneg _ d) trivial,
          fun _ => rfl⟩
    | vacant route r hnone =>
        refine ⟨won, h.goOn hi rfl rfl (le_refl _) (le_refl _) fun hname => ?_, fun _ => rfl⟩
        exact ⟨(hknown hname).1, hnone⟩
    | rejected route r cached reason message _ _ =>
        exact ⟨won, h.goOn hi rfl rfl (beforeClaim_nonneg _ _) (atWork_nonneg _ _) trivial,
          fun _ => rfl⟩
    | replayed route r cached hrec hdone hhash =>
        obtain ⟨body, hbody, hwon⟩ := (h.record cached hrec).2 hdone
        refine ⟨won, h.goOn hi rfl rfl (beforeClaim_nonneg _ _) (atWork_nonneg _ _) ?_,
          fun _ => rfl⟩
        rw [hbody]
        intro _
        rw [hwon, hhash]
    | letThrough r cached hrec hstatus hfalsy =>
        -- a settled record is completed, with a response
        have hdone : cached.status = .completed := by
          have hfailed := (h.record cached hrec).1
          cases hs : cached.status with
          | processing => exact absurd hs hstatus
          | completed => rfl
          | failed => exact absurd hs hfailed
        obtain ⟨body, hbody, -⟩ := (h.record cached hrec).2 hdone
        exact absurd (by rw [hbody]; rfl) (hfalsy hdone)
    | claimed route r => exact ⟨won, h.claim hi, fun _ => rfl⟩
    | returned route r body =>
        obtain ⟨hwon, hserved⟩ := h.respond hi body
        refine ⟨_, hserved, fun hsome => ?_⟩
        rw [hwon] at hsome
        cases hsome
    | threw route r =>
        refine ⟨won, h.goOn hi rfl rfl (le_refl _) (le_refl _) fun hname => ?_, fun _ => rfl⟩
        exact ⟨(hknown hname).1, trivial⟩
    | completed route r body => exact ⟨won, h.complete hi, fun _ => rfl⟩
    | unmarked r body =>
        refine ⟨won, h.goOn hi rfl rfl (beforeClaim_nonneg _ _) (atWork_nonneg _ _) fun hname => ?_,
          fun _ => rfl⟩
        exact (hknown hname).2
    | notCompleted r body => exact absurd (hknown rfl).1 Route.noConfusion
    | failed route r => exact ⟨won, h.fail hi, fun _ => rfl⟩
  · obtain ⟨hrecords, hresponses⟩ := hcarried.elsewhere hname
    have hplain := hcarried.plain
    have hparams : prog.Meets (fun d' => d'.params = d.params) fun _ => True :=
      hplain.mono (fun _ hd => hd.1) fun _ _ => trivial
    have hzero : ∀ d' : Ask Body, d'.params = d.params → beforeClaim name d' = 0 := by
      intro d' hd'
      refine beforeClaim_of_ne ?_
      rw [hd']
      exact hname
    have hzero' : ∀ d' : Ask Body, d'.params = d.params → atWork name d' = 0 := by
      intro d' hd'
      refine atWork_of_ne ?_
      rw [hd']
      exact hname
    refine ⟨won, h.goOn hi hrecords hresponses ?_ ?_ ?_, fun _ => rfl⟩
    · rw [worth_of_plain hzero hparams]
      exact beforeClaim_nonneg name d
    · rw [worth_of_plain hzero' hparams]
      exact atWork_nonneg name d
    · refine hplain.mono (fun d' hd' hname' => absurd ?_ hname) ?_
      · rw [← hd'.1]
        exact hname'
      · rintro a ⟨outcome, rfl⟩
        unfold Answer.Knows
        split
        · rename_i heq
          cases heq
          exact fun hname' => absurd hname' hname
        · rename_i heq
          cases heq
          exact fun hname' => absurd hname' hname
        · trivial

/-- What a request enters with. -/
theorem enter_meets (request : Request) :
    (request.enter : Op Body).Meets
      (fun d => ∃ r : Params, d = .get request.route r ∧ r.redisKey = request.recordName ∧
        r.requestHash = request.requestHash)
      fun a => ∃ message, a = .badRequest message := by
  unfold Request.enter
  split
  · exact ⟨_, rfl, rfl, rfl⟩
  · exact ⟨_, rfl⟩

/-- A request of another key begins with no claim of this one. -/
theorem enter_beforeClaim (Body : Type) (name : String) (request : Request) :
    (request.enter : Op Body).worth (beforeClaim name) (fun _ => 0) ≤ 1 ∧
    (request.recordName ≠ name →
      (request.enter : Op Body).worth (beforeClaim name) (fun _ => 0) = 0) := by
  unfold Request.enter
  split
  · rename_i hkey
    refine ⟨?_, fun hne => beforeClaim_of_ne hne⟩
    show beforeClaim name _ ≤ 1
    unfold beforeClaim
    split <;> decide
  · exact ⟨zero_le_one, fun _ => rfl⟩

/-- A request begins before its claim. -/
theorem enter_atWork (request : Request) :
    (request.enter : Op Body).worth (atWork name) (fun _ => 0) = 0 := by
  unfold Request.enter
  split
  · show atWork name (.get request.route _) = 0
    exact if_neg id
  · rfl

/-- An expiry leaves the other records. -/
theorem happen_elsewhere {e : Event} (hne : e.expired ≠ name) (w : World Body) :
    (e.happen w).records name = w.records name ∧
    handlerResponses name (e.happen w) = handlerResponses name w := by
  unfold Event.happen
  split
  · exact ⟨setRecord_ne hne none w, rfl⟩
  · exact ⟨rfl, rfl⟩

/-- Other operations, and a world in which the key is as it was. -/
theorem Served.frame (h : Served name won p)
    (hrecords : q.world.records name = p.world.records name)
    (hresponses : handlerResponses name q.world = handlerResponses name p.world)
    (hwaits : waiting name q ≤ 1) (hworks : working name q = working name p)
    (hknows : ∀ prog ∈ q.ops, prog.Meets (Ask.Knows name won q.world) (Answer.Knows name won)) :
    Served name won q where
  waits := hwaits
  works := hworks ▸ h.works
  vacant hnone := by
    rw [hworks]
    exact h.vacant (hrecords ▸ hnone)
  idle hwon := by
    rw [hworks]
    exact h.idle hwon
  record record hrec := h.record record (hrecords ▸ hrec)
  responses := hresponses.trans h.responses
  knows := hknows

/-- **A key has one response.**  Every step keeps what is known of a key: once a handler has
    responded, its response is that of the key, for every later request. -/
theorem Served.step (h : Served name won p) (hs : (truthful Body).Step (inTurn name) p q) :
    ∃ won', Served name won' q ∧ (won.isSome → won' = won) := by
  cases hs with
  | started request prog hturn he =>
      cases he
      have hwaits : waiting name ⟨p.world, p.ops ++ [request.enter]⟩
          = waiting name p + (request.enter : Op Body).worth (beforeClaim name) fun _ => 0 :=
        Pool.worth_append p request.enter
      have hworks : working name ⟨p.world, p.ops ++ [request.enter]⟩
          = working name p + (request.enter : Op Body).worth (atWork name) fun _ => 0 :=
        Pool.worth_append p request.enter
      rw [enter_atWork, add_zero] at hworks
      have hone := h.waits
      obtain ⟨hless, hzero⟩ := enter_beforeClaim Body name request
      refine ⟨won, h.frame rfl rfl ?_ hworks fun x hx => ?_, fun _ => rfl⟩
      · by_cases hname : request.recordName = name
        · have hclear := (hturn hname).2.waiting
          omega
        · rw [hwaits, hzero hname]
          omega
      · rcases List.mem_append.mp hx with hold | hnew
        · exact h.knows x hold
        · rw [List.mem_singleton.mp hnew]
          refine (enter_meets request).mono ?_ ?_
          · rintro d ⟨r, rfl, hr, -⟩ hname
            exact ⟨(hturn (hr.symm.trans hname)).1, trivial⟩
          · rintro a ⟨message, rfl⟩
            trivial
  | asked i ch d w' prog hi _ hd => exact h.asked hi hd
  | settled i hh rest hi =>
      have hmem : Prog.par [] hh rest ∈ p.ops := List.mem_of_getElem? hi
      have hsame : ∀ fd : Ask Body → Int,
          (⟨p.world, p.ops.set i rest⟩ : State Body).worth fd (fun _ => 0)
            = p.worth fd fun _ => 0 := by
        intro fd
        rw [Pool.worth_set hi]
        show _ + (rest.worth fd _ - rest.worth fd _) = _
        abel
      refine ⟨won, h.frame rfl rfl ?_ (hsame _) ?_, fun _ => rfl⟩
      · exact (hsame _).trans_le h.waits
      · have hrest : rest.Meets (Ask.Knows name won p.world) (Answer.Knows name won) :=
          h.knows (.par [] hh rest) hmem
        exact all_of_set h.knows hrest
  | resolved i k ch ts t hh rest w' _ _ _ _ => exact isEmptyElim t
  | wentOn i k ch ts t t' hh rest w' _ _ _ _ => exact isEmptyElim t
  | threw i k ch ts t hh rest w' _ _ _ _ => exact isEmptyElim t
  | moved e hne =>
      obtain ⟨hrecords, hresponses⟩ := happen_elsewhere hne p.world
      refine ⟨won, h.frame hrecords hresponses h.waits rfl fun x hx => ?_, fun _ => rfl⟩
      exact (h.knows x hx).mono (fun _ hd => hd.congr hrecords) fun _ ha => ha

/-! ## A settled record -/

/-- The record is `COMPLETED` with a response, or the payment's record is `FAILED`. -/
inductive Settles : Route → IdempotencyRecord Body → Option (RequestHash × Body) → Prop where
  | completed (requestHash : RequestHash) (body : Body) :
      Settles .order ⟨.completed, requestHash, some body⟩ (some (requestHash, body))
  | failed (requestHash : RequestHash) (responseBody : Option Body) :
      Settles .payment ⟨.failed, requestHash, responseBody⟩ none

/-- What the requests of a settled key can be told. -/
def Answer.Told (name : String) (verdict : Option (RequestHash × Body)) : Answer Body → Prop
  | .answered r (.processed _) => r.redisKey ≠ name
  | .answered r (.cached (some body)) => r.redisKey = name → verdict = some (r.requestHash, body)
  | _ => True

/-- Requests of the key stand before their read only, and those that came after `before`
    have been told the verdict. -/
structure Settled (name : String) (route : Route) (record : IdempotencyRecord Body)
    (verdict : Option (RequestHash × Body)) (before : Nat) (p : State Body) : Prop where
  settles : Settles route record verdict
  record : p.world.records name = some record
  reads : ∀ prog ∈ p.ops, prog.Meets
    (fun d => d.params.redisKey = name → ∃ r, d = .get route r) fun _ => True
  told : ∀ i, before ≤ i → ∀ prog, p.ops[i]? = some prog → prog.Meets (fun _ => True)
    (Answer.Told name verdict)

/-- Requests of the key use the route; its record does not expire. -/
def onRoute (name : String) (route : Route) : Condition Body where
  req := fun _ r => r.recordName = name → r.route = route
  ask := fun _ _ _ => True
  task := fun _ _ _ => True
  env := fun _ e => e.expired ≠ name

variable {route : Route} {record : IdempotencyRecord Body}
  {verdict : Option (RequestHash × Body)} {before : Nat}

/-- A request that reads a settled record is told at once. -/
theorem Settled.read {r : Params} (h : Settled r.redisKey route record verdict before p)
    (hcarried : Carried (fun _ : Body => true) p.world (.get route r) w' prog) :
    w' = p.world ∧ ∃ a, prog = .ret a ∧ a.Told r.redisKey verdict := by
  have hrecord := h.record
  have hsettles := h.settles
  cases hcarried with
  | stopped _ => exact ⟨rfl, _, rfl, trivial⟩
  | vacant _ _ hnone =>
      rw [hrecord] at hnone
      cases hnone
  | rejected _ _ cached reason message _ _ => exact ⟨rfl, _, rfl, trivial⟩
  | replayed _ _ cached hrec hdone hhash =>
      rw [hrecord] at hrec
      cases hrec
      cases hsettles with
      | completed requestHash body =>
          refine ⟨rfl, _, rfl, fun _ => ?_⟩
          rw [← hhash]
      | failed requestHash responseBody => cases hdone
  | letThrough _ cached hrec hstatus hfalsy =>
      rw [hrecord] at hrec
      cases hrec
      cases hsettles with
      | completed requestHash body => exact absurd rfl (hfalsy rfl)

/-- **A settled record decides.**  It stays as it is, and whoever comes later is told its
    response, if the request has its hash, or nothing. -/
theorem Settled.step (h : Settled name route record verdict before p)
    (hs : (truthful Body).Step (onRoute name route) p q) :
    Settled name route record verdict before q := by
  cases hs with
  | started request prog hroute he =>
      cases he
      refine ⟨h.settles, h.record, fun x hx => ?_, fun i hi x hx => ?_⟩
      · rcases List.mem_append.mp hx with hold | hnew
        · exact h.reads x hold
        · rw [List.mem_singleton.mp hnew]
          refine (enter_meets request).mono ?_ fun _ _ => trivial
          rintro d ⟨r, rfl, hr, -⟩ hname
          exact ⟨r, by rw [hroute (hr.symm.trans hname)]⟩
      · by_cases hlt : i < p.ops.length
        · rw [List.getElem?_append_left hlt] at hx
          exact h.told i hi x hx
        · rw [List.getElem?_append_right (Nat.le_of_not_lt hlt)] at hx
          rw [List.mem_singleton.mp (List.mem_of_getElem? hx)]
          refine (enter_meets request).mono (fun _ _ => trivial) ?_
          rintro a ⟨message, rfl⟩
          trivial
  | asked i ch d w' prog hi _ hd =>
      have hcarried := carried_of_decide hd
      have hread := h.reads _ (List.mem_of_getElem? hi)
      -- a read of the settled record, and calls under other names
      by_cases hname : d.params.redisKey = name
      · obtain ⟨r, rfl⟩ := hread hname
        obtain rfl : r.redisKey = name := hname
        obtain ⟨rfl, a, rfl, htold⟩ := h.read hcarried
        refine ⟨h.settles, h.record, all_of_set h.reads trivial, fun j hj x hx => ?_⟩
        -- the operation that moved, and the others
        by_cases hij : i = j
        · subst hij
          rw [List.getElem?_set_self (List.getElem?_eq_some_iff.mp hi).1] at hx
          cases hx
          exact htold
        · rw [List.getElem?_set_ne hij] at hx
          exact h.told j hj x hx
      · have hplain := hcarried.plain
        have hrecords := (hcarried.elsewhere hname).1
        refine ⟨h.settles, hrecords.trans h.record, all_of_set h.reads ?_, fun j hj x hx => ?_⟩
        · refine hplain.mono (fun d' hd' hname' => absurd ?_ hname) fun _ _ => trivial
          rw [← hd'.1]
          exact hname'
        · by_cases hij : i = j
          · subst hij
            rw [List.getElem?_set_self (List.getElem?_eq_some_iff.mp hi).1] at hx
            cases hx
            refine hplain.mono (fun _ _ => trivial) ?_
            rintro a ⟨outcome, rfl⟩
            unfold Answer.Told
            split
            · rename_i heq
              cases heq
              exact hname
            · rename_i heq
              cases heq
              exact fun hname' => absurd hname' hname
            · trivial
          · rw [List.getElem?_set_ne hij] at hx
            exact h.told j hj x hx
  | settled i hh rest hi =>
      have hrest : rest.Meets (fun d => d.params.redisKey = name → ∃ r, d = .get route r)
          fun _ => True :=
        h.reads (.par [] hh rest) (List.mem_of_getElem? hi)
      refine ⟨h.settles, h.record, all_of_set h.reads hrest, fun j hj x hx => ?_⟩
      by_cases hij : i = j
      · subst hij
        rw [List.getElem?_set_self (List.getElem?_eq_some_iff.mp hi).1] at hx
        cases hx
        exact h.told i hj (.par [] hh rest) hi
      · rw [List.getElem?_set_ne hij] at hx
        exact h.told j hj x hx
  | resolved i k ch ts t hh rest w' _ _ _ _ => exact isEmptyElim t
  | wentOn i k ch ts t t' hh rest w' _ _ _ _ => exact isEmptyElim t
  | threw i k ch ts t hh rest w' _ _ _ _ => exact isEmptyElim t
  -- the record does not expire by the condition
  | moved e hne =>
      exact ⟨h.settles, (happen_elsewhere hne p.world).1.trans h.record, h.reads, h.told⟩

end TicketIdempotency
