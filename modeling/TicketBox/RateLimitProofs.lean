import Mathlib.Algebra.Order.Ring.Rat
import TicketBox.RateLimit
import TicketBox.TokenBucket

/-! # What a bucket grants in a window

    A bucket that denies keeps what it gained and the time it last gained at, so
    the same time is credited again at the next check.  A run in which no denial
    does so is a history of the abstract bucket, and the rate bound holds of it. -/

namespace TicketRateLimit

open TokenBucket

/-- A user's key is never an address's. -/
theorem userKey_ne_ipKey (q q' : Request) : q.userKey ≠ q'.ipKey := by
  intro h
  have hchars := congrArg String.toList h
  unfold Request.userKey Request.ipKey at hchars
  split at hchars <;> simp [String.toList_append] at hchars

/-! ## One check -/

/-- A bucket allows what it does not deny. -/
theorem route_allowed (a : Args) (b : Option Bucket) :
    (route a b).allowed = true ↔ ¬ Denies a b := by
  cases b with
  | none => simp [route, Denies]
  | some b =>
      by_cases h : a.tokensNeeded ≤ refill b.tokens b.lastRefill a
      · simp [route, Denies, h]
      · simp [route, Denies, h, not_le.mp h]

/-- What a check grants, and the bucket it leaves. -/
theorem route_grants {a : Args} {b : Option Bucket} (h : ¬ Denies a b) :
    (route a b).saved =
      ⟨(b.elim a.maxCapacity fun x => refill x.tokens x.lastRefill a) - a.tokensNeeded, a.now⟩ := by
  cases b with
  | none => rfl
  | some b =>
      have hle : a.tokensNeeded ≤ refill b.tokens b.lastRefill a :=
        not_lt.mp fun hlt => h ⟨b, rfl, hlt⟩
      simp [route, Route.saved, hle]

/-- A denial saves what was gained without the time of the gain. -/
theorem route_denies {a : Args} {b : Bucket} (h : Denies a (some b)) :
    (route a (some b)).saved = ⟨refill b.tokens b.lastRefill a, b.lastRefill⟩ := by
  obtain ⟨x, hx, hlt⟩ := h
  cases hx
  simp [route, Route.saved, not_le.mpr hlt]

/-- Where nothing is below zero, clamping is a minimum. -/
theorem clamp_eq_min {val maxVal : ℚ} (h : 0 ≤ val) : clamp val 0 maxVal = min val maxVal := by
  unfold clamp
  rw [if_neg (not_lt.mpr h)]
  split
  · rename_i hlt
    exact (min_eq_right (le_of_lt hlt)).symm
  · rename_i hle
    exact (min_eq_left (not_lt.mp hle)).symm

/-- The script's refill is the level of the abstract bucket. -/
theorem refill_eq_at {a : Args} {b : Bucket} (hr : 0 ≤ a.refillRate) (htokens : 0 ≤ b.tokens)
    (hnow : b.lastRefill ≤ a.now) :
    refill b.tokens b.lastRefill a =
      (Level.mk b.tokens b.lastRefill).at a.maxCapacity a.refillRate a.now := by
  have helapsed : 0 ≤ a.now - b.lastRefill := sub_nonneg.mpr hnow
  have hgain : 0 ≤ (a.now - b.lastRefill) * a.refillRate := mul_nonneg helapsed hr
  simp only [refill, if_neg (not_lt.mpr helapsed)]
  rw [clamp_eq_min (add_nonneg htokens hgain), min_comm, mul_comm]
  rfl

/-! ## One call -/

/-- A denial by the user's bucket ends the call. -/
theorem call_user_denied {c : Call}
    (h : Denies c.request.args (c.redis c.request.userKey)) :
    c.result.bucketType = .user ∧ (checkAndConsume c.request c.redis).2 =
      saveBucket c.request.userKey (route c.request.args (c.redis c.request.userKey)).saved
        c.redis := by
  have hallowed := mt (route_allowed _ _).mp (not_not.mpr h)
  simp only [Call.result, checkAndConsume, tokenBucket, if_neg hallowed, and_self]

/-- Otherwise both buckets are checked, and the IP's decides. -/
theorem call_user_allowed {c : Call}
    (h : ¬ Denies c.request.args (c.redis c.request.userKey)) :
    (c.result.bucketType = if Denies c.request.args (c.redis c.request.ipKey) then .ip else .both) ∧
      (checkAndConsume c.request c.redis).2 =
        saveBucket c.request.ipKey (route c.request.args (c.redis c.request.ipKey)).saved
          (saveBucket c.request.userKey
            (route c.request.args (c.redis c.request.userKey)).saved c.redis) := by
  have hallowed := (route_allowed _ _).mpr h
  have hip := route_allowed c.request.args (c.redis c.request.ipKey)
  -- the IP's bucket is read after the user's was saved
  have hseen : saveBucket c.request.userKey
      (route c.request.args (c.redis c.request.userKey)).saved c.redis c.request.ipKey =
      c.redis c.request.ipKey :=
    Function.update_of_ne (userKey_ne_ipKey c.request c.request).symm _ _
  simp only [Call.result, checkAndConsume, tokenBucket, if_pos hallowed, hseen]
  by_cases hd : Denies c.request.args (c.redis c.request.ipKey)
  · simp [mt hip.mp (not_not.mpr hd), hd]
  · simp [hip.mpr hd, hd]

/-- A bucket a call checks is left as its check saves it, and grants unless it
    denies. -/
theorem Call.Checks.spec {key : String} {c : Call} (h : c.Checks key) :
    (checkAndConsume c.request c.redis).2 key =
        some (route c.request.args (c.redis key)).saved ∧
      (c.Grants key ↔ ¬ Denies c.request.args (c.redis key)) := by
  have hne := userKey_ne_ipKey c.request c.request
  rcases h with rfl | ⟨rfl, huser⟩
  · by_cases hd : Denies c.request.args (c.redis c.request.userKey)
    · obtain ⟨htype, hredis⟩ := call_user_denied hd
      rw [hredis]
      simp [saveBucket, Call.Grants, htype, hd]
    · obtain ⟨htype, hredis⟩ := call_user_allowed hd
      rw [hredis]
      refine ⟨by simp [saveBucket, Function.update_of_ne hne], iff_of_true (.inl ⟨rfl, ?_⟩) hd⟩
      rw [htype]
      split <;> simp
  · obtain ⟨htype, hredis⟩ := call_user_allowed huser
    rw [hredis]
    refine ⟨by simp [saveBucket], ?_⟩
    by_cases hd : Denies c.request.args (c.redis c.request.ipKey)
    · simp [Call.Grants, htype, hd, hne]
    · simp [Call.Grants, htype, hd]

/-- A bucket a call does not check is left alone and grants nothing. -/
theorem Call.Checks.frame {key : String} {c : Call} (h : ¬ c.Checks key) :
    (checkAndConsume c.request c.redis).2 key = c.redis key ∧ ¬ c.Grants key := by
  have huser : c.request.userKey ≠ key := fun he => h (.inl he)
  by_cases hd : Denies c.request.args (c.redis c.request.userKey)
  · obtain ⟨htype, hredis⟩ := call_user_denied hd
    rw [hredis]
    simp [saveBucket, Function.update_of_ne huser.symm, Call.Grants, huser, htype]
  · have hip : c.request.ipKey ≠ key := fun he => h (.inr ⟨he, hd⟩)
    obtain ⟨-, hredis⟩ := call_user_allowed hd
    rw [hredis]
    simp [saveBucket, Function.update_of_ne huser.symm, Function.update_of_ne hip.symm,
      Call.Grants, huser, hip]

/-! ## Runs -/

/-- The call's arguments, as far as it checks the bucket. -/
def Call.Fits (key : String) (C r : ℚ) (c : Call) : Prop :=
  c.Checks key → c.request.capacity = C ∧ c.request.refillRate = r ∧
    1 ≤ c.request.args.tokensNeeded ∧ c.request.args.tokensNeeded ≤ C

/-- The bucket denies at a time after its last refill: what it gained is saved, and
    the time it gained it in will be credited again. -/
def Call.Credits (key : String) (c : Call) : Prop :=
  c.Checks key ∧ Denies c.request.args (c.redis key) ∧
    ∃ b ∈ c.redis key, b.lastRefill < c.request.now

instance (key : String) (C r : ℚ) (c : Call) : Decidable (c.Fits key C r) :=
  inferInstanceAs (Decidable (_ → _))

/-- A call tells whether it takes from the bucket. -/
instance (key : String) (c : Call) : Decidable (c.Credits key) :=
  inferInstanceAs (Decidable (_ ∧ _))

/-- The bucket's hash is the abstract bucket after its grants. -/
structure Refines (C r : ℚ) (grants : List (ℚ × ℚ)) (b : Option Bucket) : Prop where
  costs : ∀ g ∈ grants, 0 ≤ g.2
  absent : b = none → grants = []
  present : ∀ x ∈ b, History C r grants ⟨x.tokens, x.lastRefill⟩

/-- The last refill is not after `t`. -/
def RefilledBy (t : ℚ) (b : Option Bucket) : Prop := ∀ x ∈ b, x.lastRefill ≤ t

@[simp] theorem grantsOf_nil (key : String) : grantsOf key [] = [] := rfl

/-- The first call and the rest. -/
theorem grantsOf_cons (key : String) (c : Call) (cs : List Call) :
    grantsOf key (c :: cs) = grantsOf key cs ++
      if c.Grants key then [(c.request.now, c.request.args.tokensNeeded)] else [] := by
  unfold grantsOf
  by_cases h : c.Grants key
  · simp [h, Request.args]
  · simp [h]

variable {key : String} {C r : ℚ} {c : Call} {grants : List (ℚ × ℚ)}

/-- A check that denies at the time of the last refill changes nothing. -/
theorem Refines.denied (hr : 0 < r) (hc : c.Checks key) (hfits : c.Fits key C r)
    (hcredits : ¬ c.Credits key) (hby : RefilledBy c.request.now (c.redis key))
    (h : Refines C r grants (c.redis key)) (hd : Denies c.request.args (c.redis key)) :
    some (route c.request.args (c.redis key)).saved = c.redis key := by
  obtain ⟨hC, hrate, -, -⟩ := hfits hc
  have hrate0 : 0 ≤ c.request.args.refillRate := hr.le.trans_eq hrate.symm
  obtain ⟨b, hb, -⟩ := id hd
  have hhist := h.present b hb
  have htime : b.lastRefill = c.request.now :=
    le_antisymm (hby b hb) (not_lt.mp fun hlt => hcredits ⟨hc, hd, b, hb, hlt⟩)
  have hfull : refill b.tokens b.lastRefill c.request.args = b.tokens := by
    rw [refill_eq_at hrate0 hhist.tokens_nonneg htime.le]
    simpa [Level.at, htime, Request.args, hC] using hhist.tokens_le h.costs
  rw [Option.mem_def.mp hb] at hd ⊢
  rw [route_denies hd, hfull]

/-- A check that grants is a step of the abstract bucket. -/
theorem Refines.granted (hr : 0 < r) (hc : c.Checks key) (hfits : c.Fits key C r)
    (hby : RefilledBy c.request.now (c.redis key)) (h : Refines C r grants (c.redis key))
    (hd : ¬ Denies c.request.args (c.redis key)) :
    Refines C r ((c.request.now, c.request.args.tokensNeeded) :: grants)
      (some (route c.request.args (c.redis key)).saved) := by
  obtain ⟨hC, hrate, hone, hcost⟩ := hfits hc
  have hrate0 : 0 ≤ c.request.args.refillRate := hr.le.trans_eq hrate.symm
  refine ⟨?_, nofun, ?_⟩
  · intro g hg
    rcases List.mem_cons.mp hg with rfl | hg
    · exact le_trans zero_le_one hone
    · exact h.costs g hg
  · rintro _ ⟨⟩
    rw [route_grants hd]
    cases hb : c.redis key with
    | none =>
        -- the first grant, out of a full bucket
        rw [h.absent hb, ← hC]
        exact .first _ _ (hC ▸ hcost)
    | some b =>
        have hhist := h.present b hb
        have hle := hby b hb
        have hrefill : refill b.tokens b.lastRefill c.request.args =
            (Level.mk b.tokens b.lastRefill).at C r c.request.now := by
          rw [refill_eq_at hrate0 hhist.tokens_nonneg hle]
          simp [Request.args, hC, hrate]
        have henough : c.request.args.tokensNeeded ≤
            (Level.mk b.tokens b.lastRefill).at C r c.request.now := by
          rw [← hrefill]
          exact not_lt.mp fun hlt => hd ⟨b, hb, hlt⟩
        show History C r _ ⟨refill b.tokens b.lastRefill c.request.args - _, c.request.now⟩
        rw [hrefill]
        exact .grant grants _ _ _ hhist hle henough

/-- **One call** keeps the refinement. -/
theorem Refines.step (hr : 0 < r) (hfits : c.Fits key C r) (hcredits : ¬ c.Credits key)
    (hby : c.Checks key → RefilledBy c.request.now (c.redis key))
    (h : Refines C r grants (c.redis key)) :
    Refines C r (grantsOf key [c] ++ grants) ((checkAndConsume c.request c.redis).2 key) := by
  rw [grantsOf_cons]
  by_cases hc : c.Checks key
  · obtain ⟨hredis, hgrants⟩ := hc.spec
    rw [hredis]
    by_cases hd : Denies c.request.args (c.redis key)
    · rw [if_neg (mt hgrants.mp (not_not.mpr hd)), h.denied hr hc hfits hcredits (hby hc) hd]
      exact h
    · rw [if_pos (hgrants.mpr hd)]
      exact h.granted hr hc hfits (hby hc) hd
  · obtain ⟨hredis, hgrants⟩ := Call.Checks.frame hc
    rw [hredis, if_neg hgrants]
    exact h

/-- A call refills to its own time at most. -/
theorem RefilledBy.step {t : ℚ} (ht : c.Checks key → c.request.now ≤ t)
    (h : RefilledBy t (c.redis key)) :
    RefilledBy t ((checkAndConsume c.request c.redis).2 key) := by
  by_cases hc : c.Checks key
  · rw [hc.spec.1]
    rintro _ ⟨⟩
    by_cases hd : Denies c.request.args (c.redis key)
    · obtain ⟨b, hb, -⟩ := id hd
      have hle := h b hb
      rw [Option.mem_def.mp hb] at hd ⊢
      rw [route_denies hd]
      exact hle
    · rw [route_grants hd]
      exact ht hc
  · rw [(Call.Checks.frame hc).1]
    exact h

/-- **A run** keeps the refinement. -/
theorem Refines.run (hr : 0 < r) (qs : List Request) :
    ∀ (redis : Redis) (grants : List (ℚ × ℚ)),
      (∀ c ∈ calls qs redis, c.Fits key C r ∧ ¬ c.Credits key) →
      (∀ c ∈ calls qs redis, c.Checks key → RefilledBy c.request.now (redis key)) →
      ((calls qs redis).filter fun c => c.Checks key).Pairwise
        (fun c c' => c.request.now ≤ c'.request.now) →
      Refines C r grants (redis key) →
      ∃ b, Refines C r (grantsOf key (calls qs redis) ++ grants) b := by
  induction qs with
  | nil =>
      intro redis grants _ _ _ h
      exact ⟨redis key, h⟩
  | cons q qs ih =>
      intro redis grants hcalls hby htimes h
      simp only [calls, List.forall_mem_cons] at hcalls hby htimes
      obtain ⟨⟨hfits, hcredits⟩, hcalls⟩ := hcalls
      obtain ⟨hnow, hby⟩ := hby
      have hstep := h.step hr hfits hcredits hnow
      have hlater : ∀ c ∈ calls qs (checkAndConsume q redis).2, c.Checks key →
          (Call.mk redis q).Checks key → q.now ≤ c.request.now := by
        intro c hc hchecks hq
        rw [List.filter_cons_of_pos (by simpa using hq), List.pairwise_cons] at htimes
        exact htimes.1 c (List.mem_filter.mpr ⟨hc, by simpa using hchecks⟩)
      have hrest := ih _ _ hcalls
        (fun c hc hchecks => RefilledBy.step (hlater c hc hchecks) (hby c hc hchecks))
        (by
          rw [List.filter_cons] at htimes
          split at htimes
          · exact (List.pairwise_cons.mp htimes).2
          · exact htimes) hstep
      rw [calls, grantsOf_cons, List.append_assoc]
      rwa [grantsOf_cons, grantsOf_nil, List.nil_append] at hrest

/-- **The rate bound.**  A bucket that starts absent and is checked with one
    capacity, one rate and costs from 1 to the capacity, at non-decreasing times,
    grants at most `C + r * (t - s)` in a window, in every run in which no denial
    credits it. -/
theorem grantedIn_le (hC : 0 ≤ C) (hr : 0 < r) (qs : List Request) (redis : Redis)
    (habsent : redis key = none)
    (hfits : ∀ c ∈ calls qs redis, c.Fits key C r)
    (htimes : ((calls qs redis).filter fun c => c.Checks key).Pairwise
      fun c c' => c.request.now ≤ c'.request.now)
    (hcredits : ∀ c ∈ calls qs redis, ¬ c.Credits key) {s t : ℚ} (hst : s ≤ t) :
    grantedIn s t (grantsOf key (calls qs redis)) ≤ C + r * (t - s) := by
  have hstart : Refines C r [] (redis key) := by
    rw [habsent]
    exact ⟨nofun, fun _ => rfl, nofun⟩
  have hby : ∀ c ∈ calls qs redis, c.Checks key → RefilledBy c.request.now (redis key) := by
    intro _ _ _ x hx
    rw [habsent] at hx
    exact nomatch hx
  obtain ⟨b, hb⟩ := hstart.run hr qs redis [] (fun c hc => ⟨hfits c hc, hcredits c hc⟩) hby htimes
  rw [List.append_nil] at hb
  cases b with
  | none =>
      rw [hb.absent rfl, grantedIn_nil]
      exact add_nonneg hC (mul_nonneg hr.le (sub_nonneg.mpr hst))
  | some x => exact (hb.present x rfl).bound hr.le hb.costs hst

/-- A user's requests of one route with capacity 10 and one token per second. -/
def burst (costs : List (ℚ × ℚ)) : List Request :=
  costs.map fun g => ⟨some "u1", "ip1", "/orders", 10, 1, some g.2, g.1⟩

/-- A denial between the grants credits nothing when no time has passed. -/
theorem grantedIn_le_burst :
    grantedIn 0 5 (grantsOf "rate-limit:user:u1:/orders"
      (calls (burst [(0, 10), (0, 1), (5, 5)]) fun _ => none)) ≤ 10 + 1 * (5 - 0) :=
  grantedIn_le (by decide +kernel) (by decide +kernel) _ _ rfl (by decide +kernel)
    (by decide +kernel) (by decide +kernel) (by decide +kernel)

/-- The denial at time 5 saves the five tokens gained since time 0, and the check at
    time 6 gains six more for the same six units of time. -/
theorem denial_credits_twice :
    (∀ c ∈ calls (burst [(0, 10), (5, 10), (6, 10)]) fun _ => none,
      c.Fits "rate-limit:user:u1:/orders" 10 1) ∧
    ((calls (burst [(0, 10), (5, 10), (6, 10)]) fun _ => none).filter fun c =>
      c.Checks "rate-limit:user:u1:/orders").Pairwise
        (fun c c' => c.request.now ≤ c'.request.now) ∧
    ¬ grantedIn 0 6 (grantsOf "rate-limit:user:u1:/orders"
      (calls (burst [(0, 10), (5, 10), (6, 10)]) fun _ => none)) ≤ 10 + 1 * (6 - 0) := by
  decide +kernel

end TicketRateLimit
