import TicketBox.RateLimitProofs
import TicketBox.Unwinding

/-! # Anonymous callers share a bucket

    A request without a user is checked against the bucket of its IP and, before that,
    against one bucket for all such requests of all routes.  So what others do can
    deny a caller.  Two histories that agree on what concerns an IP on a route give it
    the same verdicts if the shared bucket denies the same of its requests. -/

namespace TicketRateLimit

open Unwinding

/-! ## Keys -/

/-- The routes of the decorated handlers can be read off the end of a key. -/
theorem routes_suffix_free : ∀ c ∈ rateLimits, ∀ c' ∈ rateLimits,
    (':' :: c.route.toList) <:+ (':' :: c'.route.toList) → c.route = c'.route := by
  decide

/-- A key splits into address and route in one way. -/
theorem split_route {c c' : RateLimitConfig} (hc : c ∈ rateLimits) (hc' : c' ∈ rateLimits)
    {l l' : List Char}
    (h : l ++ ':' :: c.route.toList = l' ++ ':' :: c'.route.toList) :
    l = l' ∧ c.route = c'.route := by
  have hroute : c.route = c'.route := by
    have hs : (':' :: c.route.toList) <:+ l ++ ':' :: c.route.toList := List.suffix_append l _
    have hs' : (':' :: c'.route.toList) <:+ l ++ ':' :: c.route.toList :=
      h ▸ List.suffix_append l' _
    rcases List.suffix_or_suffix_of_suffix hs hs' with hle | hle
    · exact routes_suffix_free c hc c' hc' hle
    · exact (routes_suffix_free c' hc' c hc hle).symm
  rw [hroute] at h
  exact ⟨List.append_cancel_right h, hroute⟩

/-- The key of an address on a route. -/
theorem ipKey_eq (x : HttpRequest) :
    x.request.ipKey = "rate-limit:ip:" ++ x.ip ++ ":" ++ x.config.route := rfl

/-- The key of an IP's bucket on a route names both. -/
theorem ipKey_inj {x y : HttpRequest} (h : x.request.ipKey = y.request.ipKey) :
    x.ip = y.ip ∧ x.config.route = y.config.route := by
  rw [ipKey_eq, ipKey_eq] at h
  have hchars := congrArg String.toList h
  simp only [String.toList_append, List.append_assoc] at hchars
  obtain ⟨hip, hroute⟩ := split_route x.decorated y.decorated (List.append_cancel_left hchars)
  exact ⟨String.toList_inj.mp hip, hroute⟩

/-- No user: the guard's `null`, and an empty id. -/
def HttpRequest.anonymous (x : HttpRequest) : Bool := x.userId.getD "" == ""

/-- A request without a user has this key in place of its own. -/
theorem userKey_anonymous {x : HttpRequest} (h : x.anonymous = true) :
    x.request.userKey = "__none__" := by
  simp only [HttpRequest.anonymous, beq_iff_eq] at h
  cases hu : x.userId with
  | none => simp [Request.userKey, HttpRequest.request, hu]
  | some u =>
      rw [hu, Option.getD_some] at h
      simp [Request.userKey, HttpRequest.request, hu, h]

/-- The key of a user's bucket on a route names both. -/
theorem userKey_inj {x y : HttpRequest} (hx : x.anonymous = false)
    (h : y.request.userKey = x.request.userKey) :
    y.anonymous = false ∧ y.config.route = x.config.route := by
  have hkey : ∀ z : HttpRequest, z.anonymous = false → ∃ u, z.request.userKey =
      "rate-limit:user:" ++ u ++ ":" ++ z.config.route := by
    intro z hz
    cases hu : z.userId with
    | none => simp [HttpRequest.anonymous, hu] at hz
    | some u =>
        have hne : u ≠ "" := by simpa [HttpRequest.anonymous, hu] using hz
        exact ⟨u, by simp [Request.userKey, HttpRequest.request, hu]⟩
  obtain ⟨u, hu⟩ := hkey x hx
  cases hy : y.anonymous with
  | true =>
      rw [userKey_anonymous hy, hu] at h
      have hchars := congrArg (fun key => key.toList.head?) h
      simp only [String.toList_append, List.head?_append] at hchars
      cases hchars
  | false =>
      obtain ⟨u', hu'⟩ := hkey y hy
      rw [hu, hu'] at h
      have hchars := congrArg String.toList h
      simp only [String.toList_append, List.append_assoc] at hchars
      exact ⟨rfl, (split_route y.decorated x.decorated (List.append_cancel_left hchars)).2⟩

/-! ## What concerns an IP on a route -/

/-- A request of the route that is not an anonymous one of another IP. -/
def concerns (ip route : String) (x : HttpRequest) : Bool :=
  x.config.route == route && (!x.anonymous || x.ip == ip)

/-- An anonymous request of the IP on the route. -/
def ofCaller (ip route : String) (x : HttpRequest) : Bool :=
  x.config.route == route && (x.anonymous && x.ip == ip)

/-- The buckets after a request. -/
def after (x : HttpRequest) (redis : Redis) : Redis := (canActivate x redis).2

/-- The verdicts given to the anonymous requests of the IP on the route. -/
def verdicts (ip route : String) (h : List HttpRequest) (redis : Redis) : List Bool :=
  view after (ofCaller ip route) (fun redis x => (canActivate x redis).1) h redis

/-- Which of them find too little in the bucket of all anonymous requests. -/
def sharedDenials (ip route : String) (h : List HttpRequest) (redis : Redis) : List Bool :=
  view after (ofCaller ip route)
    (fun redis x => decide (Denies x.request.args (redis "__none__"))) h redis

/-- The bucket of a user on the route, or the one of the IP. -/
def Private (ip route key : String) : Prop :=
  ∃ x : HttpRequest, x.config.route = route ∧
    (x.anonymous = false ∧ key = x.request.userKey ∨ x.ip = ip ∧ key = x.request.ipKey)

/-- Two stores that hold the same in the private buckets. -/
def SamePrivate (ip route : String) (r r' : Redis) : Prop :=
  ∀ key, Private ip route key → r key = r' key

variable {ip route key : String} {x : HttpRequest} {r r' : Redis}

/-- Other requests check no private bucket. -/
theorem not_checks_of_hidden (hx : concerns ip route x = false) (hkey : Private ip route key) :
    ¬ (Call.mk r x.request).Checks key := by
  obtain ⟨y, hroute, ⟨hy, rfl⟩ | ⟨hip, rfl⟩⟩ := hkey
  · rintro (huser | ⟨hother, -⟩)
    · obtain ⟨hauth, hsame⟩ := userKey_inj hy huser
      simp [concerns, hauth, hsame.trans hroute] at hx
    · exact userKey_ne_ipKey y.request x.request hother.symm
  · rintro (huser | ⟨hother, -⟩)
    · exact userKey_ne_ipKey x.request y.request huser
    · obtain ⟨hsame, hsameRoute⟩ := ipKey_inj hother
      simp [concerns, hsameRoute.trans hroute, hsame.trans hip] at hx

/-- A request that does not concern the address leaves its bucket alone. -/
theorem after_of_hidden (hx : concerns ip route x = false) (hkey : Private ip route key) :
    after x r key = r key :=
  (Call.Checks.frame (not_checks_of_hidden hx hkey)).1

/-- A request passes where neither of its buckets denies it. -/
theorem canActivate_iff :
    (canActivate x r).1 = true ↔ ¬ Denies x.request.args (r x.request.userKey) ∧
      ¬ Denies x.request.args (r x.request.ipKey) := by
  have hseen : saveBucket x.request.userKey
      (route x.request.args (r x.request.userKey)).saved r x.request.ipKey = r x.request.ipKey :=
    Function.update_of_ne (userKey_ne_ipKey x.request x.request).symm _ _
  simp only [canActivate, checkAndConsume, tokenBucket]
  by_cases huser : Denies x.request.args (r x.request.userKey)
  · rw [if_neg (mt (route_allowed _ _).mp (not_not.mpr huser))]
    simp [huser]
  · rw [if_pos ((route_allowed _ _).mpr huser), hseen]
    by_cases hip : Denies x.request.args (r x.request.ipKey)
    · rw [if_neg (mt (route_allowed _ _).mp (not_not.mpr hip))]
      simp [hip]
    · rw [if_pos ((route_allowed _ _).mpr hip)]
      simp [huser, hip]

/-- The first bucket of a request that concerns the IP denies it in both stores or in
    neither. -/
theorem denies_same (hx : concerns ip route x = true) (hsame : SamePrivate ip route r r')
    (hshared : ofCaller ip route x = true → decide (Denies x.request.args (r "__none__"))
      = decide (Denies x.request.args ( r' "__none__"))) :
    Denies x.request.args (r x.request.userKey) ↔ Denies x.request.args (r' x.request.userKey) := by
  simp only [concerns, Bool.and_eq_true, beq_iff_eq, Bool.or_eq_true] at hx
  obtain ⟨hroute, hwho⟩ := hx
  cases hanon : x.anonymous with
  | false =>
      rw [hsame x.request.userKey ⟨x, hroute, .inl ⟨hanon, rfl⟩⟩]
  | true =>
      have hip : x.ip = ip := by simpa [hanon] using hwho
      have hof : ofCaller ip route x = true := by simp [ofCaller, hroute, hanon, hip]
      rw [userKey_anonymous hanon]
      exact decide_eq_decide.mp (hshared hof)

/-- A request in both histories keeps the private buckets alike. -/
theorem SamePrivate.both (hx : concerns ip route x = true) (hsame : SamePrivate ip route r r')
    (hshared : ofCaller ip route x = true → decide (Denies x.request.args (r "__none__"))
      = decide (Denies x.request.args ( r' "__none__"))) :
    SamePrivate ip route (after x r) (after x r') := by
  have hdenies := denies_same hx hsame hshared
  intro key hkey
  have hchecks : (Call.mk r x.request).Checks key ↔ (Call.mk r' x.request).Checks key := by
    simp only [Call.Checks, hdenies]
  by_cases hc : (Call.mk r x.request).Checks key
  · show (checkAndConsume x.request r).2 key = (checkAndConsume x.request r').2 key
    rw [hc.spec.1, (hchecks.mp hc).spec.1]
    exact congrArg (fun b => some (TicketRateLimit.route x.request.args b).saved) (hsame key hkey)
  · show (checkAndConsume x.request r).2 key = (checkAndConsume x.request r').2 key
    rw [(Call.Checks.frame hc).1, (Call.Checks.frame (mt hchecks.mpr hc)).1]
    exact hsame key hkey

/-- Given what the shared bucket denies, the private buckets decide. -/
theorem alike (ip route : String) :
    Alike after (concerns ip route) (ofCaller ip route)
      (fun redis x => decide (Denies x.request.args (redis "__none__")))
      (fun redis x => (canActivate x redis).1) (SamePrivate ip route) where
  observed_visible x hx := by
    simp only [ofCaller, Bool.and_eq_true] at hx
    simp [concerns, hx]
  left x r r' hx hsame key hkey := by
    rw [after_of_hidden hx hkey]
    exact hsame key hkey
  right x r r' hx hsame key hkey := by
    rw [after_of_hidden hx hkey]
    exact hsame key hkey
  both x r r' hx hsame hshared := by
    refine ⟨hsame.both hx hshared, fun hof => ?_⟩
    have huser := denies_same hx hsame hshared
    have hip : r x.request.ipKey = r' x.request.ipKey := by
      simp only [ofCaller, Bool.and_eq_true, beq_iff_eq] at hof
      exact hsame _ ⟨x, hof.1, .inr ⟨hof.2.2, rfl⟩⟩
    rw [Bool.eq_iff_iff, canActivate_iff, canActivate_iff, huser, hip]

/-- **Anonymous callers, but for the bucket they share.**  Two histories that differ in
    anonymous requests of other IPs and in requests to other routes only give an IP the
    same verdicts on a route, if the bucket of all anonymous requests denies the same of
    its requests there. -/
theorem anonymous_isolated (ip route : String) (redis : Redis) {h h' : List HttpRequest}
    (hagree : h.filter (concerns ip route) = h'.filter (concerns ip route))
    (hshared : sharedDenials ip route h redis = sharedDenials ip route h' redis) :
    verdicts ip route h redis = verdicts ip route h' redis :=
  (alike ip route).view_eq (fun _ _ => rfl) hagree hshared

/-! ## One history with a burst, one without -/

/-- The route of the list of concerts is limited. -/
theorem concerts_decorated : (⟨"/concerts", 60, 1, some 1⟩ : RateLimitConfig) ∈ rateLimits := by
  simp [rateLimits]

/-- Somebody reads the list of concerts.  No guard but the rate limit stands before that
    handler, so the request has no user. -/
def listing (ip : String) (now : ℚ) : HttpRequest :=
  ⟨⟨"/concerts", 60, 1, some 1⟩, concerts_decorated, none, ip, now⟩

/-- A burst of 59 from elsewhere leaves a token in the shared bucket. -/
theorem anonymous_isolated_smallBurst :
    verdicts "b" "/concerts" (List.replicate 59 (listing "a" 0) ++ [listing "b" 0])
        (fun _ => none) =
      verdicts "b" "/concerts" [listing "b" 0] (fun _ => none) :=
  anonymous_isolated "b" "/concerts" _ (by decide +kernel) (by decide +kernel)

/-- A burst of 60 from elsewhere leaves none, and the first request of the IP is denied. -/
theorem anonymous_denied_burst :
    ¬ ∀ (ip route : String) (redis : Redis) (h h' : List HttpRequest),
      h.filter (concerns ip route) = h'.filter (concerns ip route) →
        verdicts ip route h redis = verdicts ip route h' redis := by
  intro hall
  have hsame := hall "b" "/concerts" (fun _ => none)
    (List.replicate 60 (listing "a" 0) ++ [listing "b" 0]) [listing "b" 0]
    (by decide +kernel)
  revert hsame
  decide +kernel

end TicketRateLimit
