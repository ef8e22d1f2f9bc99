import TicketBox.RateLimitProofs

/-! # What a denial leaves

    A denial takes nothing from the bucket that denies (`Denied.gains`), and the
    wait it asks for is long enough (`retryAfter_suffices`).  The user's bucket is
    settled before the IP's is read, so a denial by the IP comes after the user
    has paid (`denied_takes`). -/

namespace TicketRateLimit

variable {a : Args} {b : Bucket}

/-! ## The refill -/

/-- Clamping is a maximum of a minimum. -/
theorem clamp_eq {val maxVal : ℚ} (hC : 0 ≤ maxVal) :
    clamp val 0 maxVal = max 0 (min val maxVal) := by
  by_cases hval : 0 ≤ val
  · rw [clamp_eq_min hval, max_eq_right (le_min hval hC)]
  · have hlt : val < 0 := not_le.mp hval
    rw [clamp, if_pos hlt, max_eq_left]
    exact le_trans (min_le_left _ _) hlt.le

/-- The refill, without its branches. -/
theorem refill_eq {tokens lastRefill : ℚ} (hC : 0 ≤ a.maxCapacity) :
    refill tokens lastRefill a =
      max 0 (min (tokens + max 0 (a.now - lastRefill) * a.refillRate) a.maxCapacity) := by
  have helapsed : (if a.now - lastRefill < 0 then 0 else a.now - lastRefill)
      = max 0 (a.now - lastRefill) := by
    split
    · next hlt => exact (max_eq_left hlt.le).symm
    · next hnot => exact (max_eq_right (not_lt.mp hnot)).symm
  rw [refill, clamp_eq hC, helapsed]

/-- What a bucket has at a time; an absent one is full. -/
def available (a : Args) (bucket : Option Bucket) (t : ℚ) : ℚ :=
  bucket.elim a.maxCapacity fun b => refill b.tokens b.lastRefill { a with now := t }

/-- What a bucket has at an instant. -/
theorem available_some (hC : 0 ≤ a.maxCapacity) (b : Bucket) (t : ℚ) :
    available a (some b) t =
      max 0 (min (b.tokens + max 0 (t - b.lastRefill) * a.refillRate) a.maxCapacity) :=
  refill_eq (a := { a with now := t }) hC

/-- Its hash as the check that denies leaves it. -/
def deniedBucket (a : Args) (b : Bucket) : Bucket := ⟨refill b.tokens b.lastRefill a, b.lastRefill⟩

/-- A denial takes nothing: what was gained is kept. -/
theorem available_denied_ge (hC : 0 ≤ a.maxCapacity) (hr : 0 < a.refillRate) (t : ℚ) :
    available a (some b) t ≤ available a (some (deniedBucket a b)) t := by
  have hgain : 0 ≤ max 0 (a.now - b.lastRefill) * a.refillRate :=
    mul_nonneg (le_max_left _ _) hr.le
  have hlater : 0 ≤ max 0 (t - b.lastRefill) * a.refillRate :=
    mul_nonneg (le_max_left _ _) hr.le
  have hkept : min b.tokens a.maxCapacity ≤ (deniedBucket a b).tokens := by
    rw [deniedBucket, refill_eq hC]
    exact le_trans (min_le_min_right _ (le_add_of_nonneg_right hgain)) (le_max_right _ _)
  rw [available_some hC, available_some hC]
  refine max_le_max_left _ (le_min ?_ (min_le_right _ _))
  rcases le_total b.tokens a.maxCapacity with hle | hle
  · rw [min_eq_left hle] at hkept
    exact le_trans (min_le_left _ _) (add_le_add_left hkept _)
  · rw [min_eq_right hle] at hkept
    exact le_trans (min_le_right _ _) (le_trans hkept (le_add_of_nonneg_right hlater))

/-- It leaves the bucket as it was, if no time has passed since the last refill. -/
theorem available_denied_eq (hC : 0 ≤ a.maxCapacity) (hr : 0 < a.refillRate)
    (htokens : 0 ≤ b.tokens) (hnow : a.now ≤ b.lastRefill) (t : ℚ) :
    available a (some (deniedBucket a b)) t = available a (some b) t := by
  have hlater : 0 ≤ max 0 (t - b.lastRefill) * a.refillRate :=
    mul_nonneg (le_max_left _ _) hr.le
  have hkept : (deniedBucket a b).tokens = min b.tokens a.maxCapacity := by
    rw [deniedBucket, refill_eq hC, max_eq_left (sub_nonpos.mpr hnow), zero_mul, add_zero]
    exact max_eq_right (le_min htokens hC)
  have hsince : (deniedBucket a b).lastRefill = b.lastRefill := rfl
  rw [available_some hC, available_some hC, hkept, hsince]
  rcases le_total b.tokens a.maxCapacity with hle | hle
  · rw [min_eq_left hle]
  · -- a bucket above its capacity counts as full
    rw [min_eq_right hle, min_eq_right (le_add_of_nonneg_right hlater),
      min_eq_right (le_add_of_le_of_nonneg hle hlater)]

/-! ## A call that is denied -/

/-- A checked bucket that denies: what it asks to wait for and how it is left. -/
theorem denies_spec {c : Call} {key : String} (hchecks : c.Checks key)
    (hdenies : Denies c.request.args (c.redis key)) :
    ∃ b, c.redis key = some b ∧
      refill b.tokens b.lastRefill c.request.args < c.request.args.tokensNeeded ∧
      (route c.request.args (c.redis key)).retryAfter = max 1 ⌈(c.request.args.tokensNeeded
        - refill b.tokens b.lastRefill c.request.args) / c.request.args.refillRate⌉ ∧
      (checkAndConsume c.request c.redis).2 key = some (deniedBucket c.request.args b) := by
  obtain ⟨b, hb, hlt⟩ := id hdenies
  refine ⟨b, hb, hlt, ?_, ?_⟩
  · rw [Option.mem_def.mp hb, route, if_neg (not_le.mpr hlt)]
  · rw [hchecks.spec.1, Option.mem_def.mp hb, route_denies (Option.mem_def.mp hb ▸ hdenies)]
    rfl

/-- The bucket that denies, what it asks to wait for and how it is left. -/
theorem denied_spec {c : Call} (h : c.result.allowed = false) :
    c.Checks c.result.key ∧ ∃ b, c.redis c.result.key = some b ∧
      refill b.tokens b.lastRefill c.request.args < c.request.args.tokensNeeded ∧
      c.result.retryAfter = max 1 ⌈(c.request.args.tokensNeeded
        - refill b.tokens b.lastRefill c.request.args) / c.request.args.refillRate⌉ ∧
      (checkAndConsume c.request c.redis).2 c.result.key = some (deniedBucket c.request.args b) ∧
      (Denies c.request.args (c.redis c.request.userKey) ∧ c.result.bucketType = .user ∧
          c.result.key = c.request.userKey ∨
        ¬ Denies c.request.args (c.redis c.request.userKey) ∧ c.result.bucketType = .ip ∧
          c.result.key = c.request.ipKey) := by
  have hip := Function.update_of_ne (userKey_ne_ipKey c.request c.request).symm
    (route c.request.args (c.redis c.request.userKey)).saved c.redis
  -- the bucket of the user is asked first
  by_cases huser : Denies c.request.args (c.redis c.request.userKey)
  · have hroute := mt (route_allowed _ _).mp (not_not.mpr huser)
    have hresult : c.result = ⟨false, 0, (route c.request.args (c.redis c.request.userKey)).retryAfter,
        .user, c.request.userKey⟩ := by
      simp only [Call.result, checkAndConsume, tokenBucket, if_neg hroute]
    have hchecks : c.Checks c.request.userKey := .inl rfl
    obtain ⟨b, hb, hlt, hretry, hafter⟩ := denies_spec hchecks huser
    rw [hresult]
    exact ⟨hchecks, b, hb, hlt, hretry, hafter, .inl ⟨huser, rfl, rfl⟩⟩
  · have hroute := (route_allowed _ _).mpr huser
    -- and that of the address only behind it
    by_cases hdenies : Denies c.request.args (c.redis c.request.ipKey)
    · have hiproute := mt (route_allowed _ _).mp (not_not.mpr hdenies)
      have hresult : c.result = ⟨false, 0, (route c.request.args (c.redis c.request.ipKey)).retryAfter,
          .ip, c.request.ipKey⟩ := by
        simp only [Call.result, checkAndConsume, tokenBucket, if_pos hroute, saveBucket, hip,
          if_neg hiproute]
      have hchecks : c.Checks c.request.ipKey := .inr ⟨rfl, huser⟩
      obtain ⟨b, hb, hlt, hretry, hafter⟩ := denies_spec hchecks hdenies
      rw [hresult]
      exact ⟨hchecks, b, hb, hlt, hretry, hafter, .inr ⟨huser, rfl, rfl⟩⟩
    · -- neither bucket denies
      have hiproute := (route_allowed _ _).mpr hdenies
      have hallowed : c.result.allowed = true := by
        simp only [Call.result, checkAndConsume, tokenBucket, if_pos hroute, saveBucket, hip,
          if_pos hiproute]
      rw [hallowed] at h
      cases h

/-- **A denial.**  The bucket that denies never has fewer tokens later than without the
    call, and as many where no time had passed since its last refill.  The others are
    left alone, apart from the user's bucket under a denial by the IP's: it has paid. -/
theorem denied_takes {c : Call} (hC : 0 ≤ c.request.capacity) (hr : 0 < c.request.refillRate)
    (hdenied : c.result.allowed = false) :
    (∀ t, available c.request.args (c.redis c.result.key) t
      ≤ available c.request.args ((checkAndConsume c.request c.redis).2 c.result.key) t) ∧
    (∀ b, c.redis c.result.key = some b → 0 ≤ b.tokens → c.request.now ≤ b.lastRefill → ∀ t,
      available c.request.args ((checkAndConsume c.request c.redis).2 c.result.key) t
        = available c.request.args (c.redis c.result.key) t) ∧
    (∀ key, key ≠ c.result.key → (c.result.bucketType = .ip → key ≠ c.request.userKey) →
      (checkAndConsume c.request c.redis).2 key = c.redis key) ∧
    (c.result.bucketType = .ip → (checkAndConsume c.request c.redis).2 c.request.userKey
      = some ⟨available c.request.args (c.redis c.request.userKey) c.request.now
          - c.request.args.tokensNeeded, c.request.now⟩) := by
  obtain ⟨-, b, hb, -, -, hafter, hkey⟩ := denied_spec hdenied
  refine ⟨fun t => ?_, fun x hx htokens hnow t => ?_, fun key hne hpaid => ?_, fun htype => ?_⟩
  · rw [hafter, hb]
    exact available_denied_ge hC hr t
  · rw [hb] at hx
    cases hx
    rw [hafter, hb]
    exact available_denied_eq hC hr htokens hnow t
  · rcases hkey with ⟨huser, -, hkey⟩ | ⟨huser, htype, hkey⟩
    · rw [hkey] at hne
      rw [(call_user_denied huser).2]
      exact Function.update_of_ne hne _ _
    · rw [hkey] at hne
      rw [(call_user_allowed huser).2]
      exact (Function.update_of_ne hne _ _).trans (Function.update_of_ne (hpaid htype) _ _)
  · have huser : ¬ Denies c.request.args (c.redis c.request.userKey) := by
      intro hd
      rw [(call_user_denied hd).1] at htype
      cases htype
    -- the user's check has granted before the IP's denies
    have hchecks : c.Checks c.request.userKey := .inl rfl
    rw [hchecks.spec.1, route_grants huser]
    rfl

/-- The IP's bucket is empty and the user's full. -/
def emptyIp : Call where
  redis := Function.update (fun _ => none) "rate-limit:ip:ip1:/orders" (some ⟨0, 0⟩)
  request := ⟨some "u1", "ip1", "/orders", 5, 5 / 60, some 1, 0⟩

/-- The user's bucket has lost a token to a request that was denied for its address. -/
theorem denied_takes_emptyIp : (checkAndConsume emptyIp.request emptyIp.redis).2
    "rate-limit:user:u1:/orders" = some ⟨5 - 1, 0⟩ :=
  (denied_takes (c := emptyIp) (by decide +kernel) (by decide +kernel) (by decide +kernel)).2.2.2
    (by decide +kernel)

/-- The request is denied, and the user's bucket has one token less. -/
theorem denied_by_ip_pays : emptyIp.result.allowed = false ∧ ¬ ∀ t, emptyIp.request.now ≤ t →
    available emptyIp.request.args ((checkAndConsume emptyIp.request emptyIp.redis).2
      emptyIp.request.userKey) t
      = available emptyIp.request.args (emptyIp.redis emptyIp.request.userKey) t := by
  refine ⟨by decide +kernel, fun h => ?_⟩
  exact absurd (h 0 (le_refl 0)) (by decide +kernel)

/-! ## The wait -/

/-- The time the caller passes, of `Date.now()`. -/
def secondsOf (dateNow : ℚ) : ℚ := ⌊dateNow / 1000⌋

/-- The buckets after some calls. -/
def callAll (qs : List Request) (redis : Redis) : Redis :=
  qs.foldl (fun redis q => (checkAndConsume q redis).2) redis

/-- Calls that do not check a bucket leave it alone. -/
theorem callAll_frame {key : String} (qs : List Request) :
    ∀ redis, (∀ c ∈ calls qs redis, ¬ c.Checks key) → callAll qs redis key = redis key := by
  induction qs with
  | nil => exact fun _ _ => rfl
  | cons q qs ih =>
      intro redis hcalls
      obtain ⟨hq, hqs⟩ := List.forall_mem_cons.mp hcalls
      exact (ih _ hqs).trans (Call.Checks.frame hq).1

/-- Waiting as many seconds moves the clock of the script on by them. -/
theorem secondsOf_add {dateNow dateNow' : ℚ} {d : ℤ} (h : dateNow + 1000 * d ≤ dateNow') :
    secondsOf dateNow + d ≤ secondsOf dateNow' := by
  have hle : dateNow / 1000 + d ≤ dateNow' / 1000 := by linarith
  have hfloor : ⌊dateNow / 1000⌋ + d ≤ ⌊dateNow' / 1000⌋ := by
    rw [← Int.floor_add_intCast]
    exact Int.floor_le_floor hle
  rw [secondsOf, secondsOf]
  exact_mod_cast hfloor

/-- After the wait the bucket has enough. -/
theorem waited_enough {d : ℤ} {t : ℚ} (hr : 0 < a.refillRate) (hcost : a.tokensNeeded ≤ a.maxCapacity)
    (hC : 0 ≤ a.maxCapacity) (hnow : b.lastRefill ≤ a.now)
    (hd : ⌈(a.tokensNeeded - refill b.tokens b.lastRefill a) / a.refillRate⌉ ≤ d)
    (ht : a.now + d ≤ t) : a.tokensNeeded ≤ available a (some (deniedBucket a b)) t := by
  have hwait : (a.tokensNeeded - refill b.tokens b.lastRefill a) / a.refillRate ≤ d :=
    le_trans (Int.le_ceil _) (by exact_mod_cast hd)
  have hmissing : a.tokensNeeded - refill b.tokens b.lastRefill a ≤ d * a.refillRate :=
    (div_le_iff₀ hr).mp hwait
  have helapsed : (d : ℚ) ≤ max 0 (t - b.lastRefill) := by
    refine le_trans ?_ (le_max_right _ _)
    linarith
  have hgain : d * a.refillRate ≤ max 0 (t - b.lastRefill) * a.refillRate :=
    mul_le_mul_of_nonneg_right helapsed hr.le
  rw [available_some hC]
  refine le_trans (le_min ?_ hcost) (le_max_right _ _)
  show a.tokensNeeded ≤ refill b.tokens b.lastRefill a + max 0 (t - b.lastRefill) * a.refillRate
  linarith

/-- **The wait is enough.**  A call of the same cost at least `retryAfter` seconds after
    the denial, with no other call that checks the bucket in between, is not denied by
    it, where the caller passes the clock in whole seconds. -/
theorem retryAfter_suffices {c : Call} {q : Request} {key : String} (dateNow dateNow' : ℚ)
    (hr : 0 < c.request.refillRate) (hcost : 0 < c.request.args.tokensNeeded)
    (hcapacity : c.request.args.tokensNeeded ≤ c.request.capacity)
    (hnow : c.request.now = secondsOf dateNow) (hby : RefilledBy c.request.now (c.redis key))
    (hdenied : c.result.allowed = false) (hkey : c.result.key = key) (qs : List Request)
    (hother : ∀ c' ∈ calls qs (checkAndConsume c.request c.redis).2, ¬ c'.Checks key)
    (hsame : q.args = { c.request.args with now := secondsOf dateNow' })
    (hlater : dateNow + 1000 * c.result.retryAfter ≤ dateNow') :
    ¬ ((Call.mk (callAll qs (checkAndConsume c.request c.redis).2) q).result.allowed = false ∧
      (Call.mk (callAll qs (checkAndConsume c.request c.redis).2) q).result.key = key) := by
  rintro ⟨hagain, hkey'⟩
  obtain ⟨-, b, hb, -, hretry, hafter, -⟩ := denied_spec hdenied
  obtain ⟨-, b', hb', hlt, -, -, -⟩ := denied_spec hagain
  rw [hkey'] at hb'
  rw [hkey] at hb hafter
  -- the bucket is as the first denial left it
  have hkept : callAll qs (checkAndConsume c.request c.redis).2 key
      = some (deniedBucket c.request.args b) := by
    rw [callAll_frame qs _ hother, hafter]
  have hbucket : b' = deniedBucket c.request.args b := by
    have heq := hb'.symm.trans hkept
    exact Option.some.inj heq
  have henough : c.request.args.tokensNeeded
      ≤ available c.request.args (some (deniedBucket c.request.args b)) (secondsOf dateNow') := by
    refine waited_enough hr hcapacity (hcost.le.trans hcapacity) (hby b hb) (d := c.result.retryAfter)
      ?_ ?_
    · rw [hretry]
      exact le_max_right _ _
    · have hseconds := secondsOf_add hlater
      rw [← hnow] at hseconds
      exact hseconds
  have hargs : (Call.mk (callAll qs (checkAndConsume c.request c.redis).2) q).request.args
      = { c.request.args with now := secondsOf dateNow' } := hsame
  rw [hargs, hbucket] at hlt
  exact absurd hlt (not_lt.mpr henough)

/-- The IP is denied at second 1 and asked to wait for 11 seconds; another user and
    another IP come in between. -/
theorem retryAfter_suffices_emptyIp :
    let at1 : Request := { emptyIp.request with now := 1 }
    let later : Request := { emptyIp.request with now := 12 }
    let between : Request := ⟨some "u2", "ip2", "/orders", 5, 5 / 60, some 1, 7⟩
    ¬ ((Call.mk (callAll [between] (checkAndConsume at1 emptyIp.redis).2) later).result.allowed = false ∧
      (Call.mk (callAll [between] (checkAndConsume at1 emptyIp.redis).2) later).result.key
        = "rate-limit:ip:ip1:/orders") := by
  intro at1 later between
  exact retryAfter_suffices (c := ⟨emptyIp.redis, at1⟩) (q := later) 1999 12999
    (by decide +kernel) (by decide +kernel) (by decide +kernel)
    (by decide +kernel)
    (by
      intro b hb
      have hbucket : emptyIp.redis "rate-limit:ip:ip1:/orders" = some ⟨0, 0⟩ := by decide +kernel
      rw [show (Call.mk emptyIp.redis at1).redis "rate-limit:ip:ip1:/orders" = _ from hbucket] at hb
      cases hb
      exact zero_le_one)
    (by decide +kernel) (by decide +kernel) [between] (by decide +kernel)
    (by
      have hseconds : secondsOf 12999 = 12 := by decide +kernel
      rw [hseconds]
      rfl)
    (by decide +kernel)

end TicketRateLimit
