import Mathlib.Data.Rat.Floor

/-! # The rate limiter

    `token-bucket.lua` and `checkAndConsume` of `rate-limit.service.ts`.  Tokens
    and times are exact rationals.  The script runs atomically, so a run is the
    list of its calls.  A refill rate of 0 is on no route: Lua's division by it is
    not modelled. -/

namespace TicketRateLimit

/-- The hash under a bucket's key. -/
structure Bucket where
  tokens : ℚ
  lastRefill : ℚ
  deriving DecidableEq

/-- The buckets in Redis; their keys have no TTL. -/
abbrev Redis := String → Option Bucket

/-- `ARGV` of the script. -/
structure Args where
  maxCapacity : ℚ
  refillRate : ℚ
  tokensNeeded : ℚ
  now : ℚ

/-- `clamp` of the script. -/
def clamp (val minVal maxVal : ℚ) : ℚ :=
  if val < minVal then minVal else if maxVal < val then maxVal else val

/-- `refill` of the script: the tokens of a bucket as of now. -/
def refill (tokens lastRefill : ℚ) (a : Args) : ℚ :=
  let elapsed := a.now - lastRefill
  let elapsed := if elapsed < 0 then 0 else elapsed
  clamp (tokens + elapsed * a.refillRate) 0 a.maxCapacity

/-- The locals of one route of the script, and the bucket it saves. -/
structure Route where
  allowed : Bool
  remaining : ℚ
  retryAfter : ℤ
  lastRefill : ℚ

/-- What the script stores for a bucket. -/
def Route.saved (x : Route) : Bucket := ⟨x.remaining, x.lastRefill⟩

/-- Routes 1 and 2 of the script are this check of their own bucket. -/
def route (a : Args) : Option Bucket → Route
  | some b =>
      let refilled := refill b.tokens b.lastRefill a
      if a.tokensNeeded ≤ refilled then
        { allowed := true, remaining := refilled - a.tokensNeeded, retryAfter := 0,
          lastRefill := a.now }
      else
        -- what was refilled is saved, the time it was refilled at is not
        { allowed := false, remaining := refilled,
          retryAfter := max 1 ⌈(a.tokensNeeded - refilled) / a.refillRate⌉,
          lastRefill := b.lastRefill }
  | none =>
      { allowed := true, remaining := a.maxCapacity - a.tokensNeeded, retryAfter := 0,
        lastRefill := a.now }

/-- `HSET` of a bucket. -/
def saveBucket (key : String) (b : Bucket) (redis : Redis) : Redis := Function.update redis key b

/-- Which of the two buckets denied the request. -/
inductive BucketType where
  | user | ip | both
  deriving DecidableEq

/-- `TokenBucketResult`: the answer of the limiter. -/
structure TokenBucketResult where
  allowed : Bool
  remaining : ℚ
  retryAfter : ℤ
  bucketType : BucketType
  key : String
  deriving DecidableEq

/-- `token-bucket.lua`. -/
def tokenBucket (bucketKey ipKey : String) (a : Args) (redis : Redis) :
    TokenBucketResult × Redis :=
  let user := route a (redis bucketKey)
  let redis := saveBucket bucketKey user.saved redis
  if user.allowed then
    let ip := route a (redis ipKey)
    let redis := saveBucket ipKey ip.saved redis
    if ip.allowed then
      (⟨true, user.remaining, 0, .both, bucketKey⟩, redis)
    else
      (⟨false, 0, ip.retryAfter, .ip, ipKey⟩, redis)
  else
    (⟨false, 0, user.retryAfter, .user, bucketKey⟩, redis)

/-- One call of `checkAndConsume`, with the time it reads. -/
structure Request where
  userId : Option String
  ip : String
  route : String
  capacity : ℚ
  refillRate : ℚ
  tokensNeeded : Option ℚ
  now : ℚ

/-- A missing or empty user id falls on one key for all such requests. -/
def Request.userKey (q : Request) : String :=
  match q.userId with
  | none | some "" => "__none__"
  | some userId => "rate-limit:user:" ++ userId ++ ":" ++ q.route

/-- The key of the address's bucket. -/
def Request.ipKey (q : Request) : String := "rate-limit:ip:" ++ q.ip ++ ":" ++ q.route

/-- The arguments of the script. -/
def Request.args (q : Request) : Args :=
  ⟨q.capacity, q.refillRate, q.tokensNeeded.getD 1, q.now⟩

/-- `checkAndConsume`. -/
def checkAndConsume (q : Request) (redis : Redis) : TokenBucketResult × Redis :=
  tokenBucket q.userKey q.ipKey q.args redis

/-- A call as it happens: the buckets it finds and its request. -/
structure Call where
  redis : Redis
  request : Request

/-- The answer of a call. -/
def Call.result (c : Call) : TokenBucketResult := (checkAndConsume c.request c.redis).1

/-- The calls of a run, the first one first. -/
def calls : List Request → Redis → List Call
  | [], _ => []
  | q :: qs, redis => ⟨redis, q⟩ :: calls qs (checkAndConsume q redis).2

/-- A bucket that holds too little for the call, also with what it gained. -/
def Denies (a : Args) (b : Option Bucket) : Prop :=
  ∃ x ∈ b, refill x.tokens x.lastRefill a < a.tokensNeeded

/-- The call checks the bucket of `key`: a denial by the user's bucket ends the
    call before the other one. -/
def Call.Checks (key : String) (c : Call) : Prop :=
  c.request.userKey = key ∨
    c.request.ipKey = key ∧ ¬ Denies c.request.args (c.redis c.request.userKey)

/-- The bucket of `key` gave its tokens. -/
def Call.Grants (key : String) (c : Call) : Prop :=
  c.request.userKey = key ∧ c.result.bucketType ≠ .user ∨
    c.request.ipKey = key ∧ c.result.bucketType = .both

/-- The script branches on it. -/
instance (a : Args) (b : Option Bucket) : Decidable (Denies a b) :=
  inferInstanceAs (Decidable (∃ _, _ ∧ _))

/-- A call names its two buckets. -/
instance (key : String) (c : Call) : Decidable (c.Checks key) :=
  inferInstanceAs (Decidable (_ ∨ _))

/-- Its answer tells the rest. -/
instance (key : String) (c : Call) : Decidable (c.Grants key) :=
  inferInstanceAs (Decidable (_ ∨ _))

/-- Times and costs of what the bucket of `key` granted, the last grant first. -/
def grantsOf (key : String) (cs : List Call) : List (ℚ × ℚ) :=
  ((cs.filter fun c => c.Grants key).map fun c =>
    (c.request.args.now, c.request.args.tokensNeeded)).reverse

/-! ## The guard -/

/-- What `@RateLimit` gives a handler. -/
structure RateLimitConfig where
  route : String
  capacity : ℚ
  refillRate : ℚ
  tokensPerRequest : Option ℚ
  deriving DecidableEq

/-- The decorated handlers, with the values of `RATE_LIMIT_DEFAULTS`. -/
def rateLimits : List RateLimitConfig :=
  [⟨"/concerts", 60, 1, some 1⟩, ⟨"/concerts/:id", 120, 2, some 1⟩, ⟨"/orders", 5, 5 / 60, some 1⟩,
    ⟨"/checkin/verify", 30, 30 / 60, some 1⟩, ⟨"/checkin/sync", 10, 10 / 60, some 1⟩]

/-- A request to a decorated handler: what the guard reads of it, and the time.  Only
    the two handlers of concerts are reached without a user; the others have `AuthGuard`
    before the limit. -/
structure HttpRequest where
  config : RateLimitConfig
  decorated : config ∈ rateLimits
  userId : Option String
  ip : String
  now : ℚ
  deriving DecidableEq

/-- The guard's call of `checkAndConsume`. -/
def HttpRequest.request (x : HttpRequest) : Request :=
  ⟨x.userId, x.ip, x.config.route, x.config.capacity, x.config.refillRate,
    x.config.tokensPerRequest, x.now⟩

/-- `canActivate` of a decorated handler, with the buckets after it. -/
def canActivate (x : HttpRequest) (redis : Redis) : Bool × Redis :=
  let (result, redis) := checkAndConsume x.request redis
  (result.allowed, redis)

end TicketRateLimit
