import TicketBox.Sequential
import Mathlib.Logic.Function.Basic

/-! # Idempotency keys

    `idempotency.interceptor.ts` in front of `POST /orders` and
    `idempotency.service.ts` around `POST /payments/create`.  Both keep one
    Redis record per user and key, under the same name; both read it and claim
    it in two commands.  Each Redis command and the business handler is one call
    of `Ask`. -/

namespace TicketIdempotency

open Interleave

/-! ## Records -/

/-- The status of a record under an idempotency key. -/
inductive IdempotencyStatus where
  | processing | completed | failed
  deriving DecidableEq

/-- A SHA-256 digest in hexadecimal. -/
abbrev RequestHash := { digest : String // digest ≠ "" }

/-- `IdempotencyRecord`: the value stored under a key. -/
structure IdempotencyRecord (Body : Type) where
  status : IdempotencyStatus
  requestHash : RequestHash
  responseBody : Option Body

/-- A request under its key; a request without one gets no further. -/
@[ext]
structure Params where
  userId : String
  idempotencyKey : String
  requestHash : RequestHash
  idempotencyKey_ne : idempotencyKey ≠ ""

instance : DecidableEq Params := fun _ _ => decidable_of_iff _ Params.ext_iff.symm

/-- `idem:{userId}:{idempotencyKey}`. -/
def Params.redisKey (r : Params) : String := s!"idem:{r.userId}:{r.idempotencyKey}"

/-! ## Outcomes -/

/-- Why the interceptor turns a request away. -/
inductive Rejection where
  | inProgress | otherRequest | failedBefore
  deriving DecidableEq

/-- What a request was answered: the response of its own run of the handler, a
    cached one, a `ConflictException`, or whatever its handler or Redis threw. -/
inductive Outcome (Body : Type) where
  | processed (body : Body)
  | cached (body : Option Body)
  | rejected (reason : Rejection) (message : String)
  | error
  deriving DecidableEq

/-- What a request ends with. -/
inductive Answer (Body : Type) where
  | answered (r : Params) (outcome : Outcome Body)
  | badRequest (message : String)
  deriving DecidableEq

/-! ## Statements -/

/-- The two routes: `order` behind the interceptor, `payment` between `start` and
    `complete` or `fail`. -/
inductive Route where
  | order | payment
  deriving DecidableEq

/-- The awaited calls of a request, in their order; `handle` is the business
    handler. -/
inductive Ask (Body : Type) where
  | get (route : Route) (r : Params)
  | set (route : Route) (r : Params)
  | handle (route : Route) (r : Params)
  | complete (route : Route) (r : Params) (body : Body)
  | fail (route : Route) (r : Params)
  deriving DecidableEq

/-- A request on its way through the interceptor. -/
abbrev Op (Body : Type) := Prog (Ask Body) Empty (Answer Body)

/-- What every call knows of its request. -/
def Ask.params {Body : Type} : Ask Body → Params
  | .get _ r => r
  | .set _ r => r
  | .handle _ r => r
  | .complete _ r _ => r
  | .fail _ r => r

/-- What the scheduler resolves: whether the process crashes, whether the Redis
    command fails, and what the handler returns (`none` where it throws). -/
structure Choice (Body : Type) where
  crashes : Bool := false
  fails : Bool := false
  response : Option Body := none

/-- The records, and what the handler has been run for. -/
structure World (Body : Type) where
  records : String → Option (IdempotencyRecord Body)
  /-- bookkeeping: the runs of the handler, by key and body hash -/
  runs : List (String × RequestHash)
  /-- bookkeeping: the responses of these runs -/
  responses : List (String × Body)
  /-- bookkeeping: the keys whose record has failed or expired -/
  reopened : List String

variable {Body : Type}

/-! ## The writes -/

/-- The value under a key replaced. -/
def World.setRecord (k : String) (record : Option (IdempotencyRecord Body)) (w : World Body) :
    World Body :=
  { w with records := Function.update w.records k record }

/-- The claim, and the handler starts: the interceptor's plain `SET`, or the
    service's `SET NX`, whose answer is not looked at. -/
def World.claim (route : Route) (r : Params) (w : World Body) : World Body :=
  let record : IdempotencyRecord Body := ⟨.processing, r.requestHash, none⟩
  let w : World Body :=
    match route with
    | .order => w.setRecord r.redisKey (some record)
    | .payment =>
        if (w.records r.redisKey).isSome then w else w.setRecord r.redisKey (some record)
  { w with runs := w.runs ++ [(r.redisKey, r.requestHash)] }

/-- The handler's response noted. -/
def World.respond (r : Params) (body : Body) (w : World Body) : World Body :=
  { w with responses := w.responses ++ [(r.redisKey, body)] }

/-- The record with the response stored in it. -/
def World.complete (r : Params) (body : Body) (w : World Body) : World Body :=
  w.setRecord r.redisKey (some ⟨.completed, r.requestHash, some body⟩)

/-- The interceptor deletes the record, the service keeps it as FAILED. -/
def World.fail (route : Route) (r : Params) (w : World Body) : World Body :=
  let record : Option (IdempotencyRecord Body) :=
    match route with
    | .order => none
    | .payment => some ⟨.failed, r.requestHash, none⟩
  { w.setRecord r.redisKey record with reopened := w.reopened ++ [r.redisKey] }

/-! ## What a request makes of the record -/

/-- `intercept`, after its `GET`: a response that is falsy in JavaScript does not
    count as one. -/
def intercept (truthy : Body → Bool) (r : Params) :
    Option (IdempotencyRecord Body) → Op Body
  | none => .ask (.set .order r)
  | some cached =>
      if cached.status = .processing then
        .ret (.answered r (.rejected .inProgress "Request đang được xử lý"))
      else if cached.requestHash.1 ≠ "" ∧ cached.requestHash ≠ r.requestHash then
        .ret (.answered r (.rejected .otherRequest
          "Idempotency key was already used with a different request"))
      else if cached.status = .completed ∧ cached.responseBody.any truthy then
        .ret (.answered r (.cached cached.responseBody))
      else .ask (.set .order r)

/-- `start`, after its `GET`. -/
def start (r : Params) : Option (IdempotencyRecord Body) → Op Body
  | none => .ask (.set .payment r)
  | some parsed =>
      if parsed.requestHash ≠ r.requestHash then
        .ret (.answered r (.rejected .otherRequest
          "Idempotency-Key đã được dùng cho request khác"))
      else
        match parsed.status with
        | .processing =>
            .ret (.answered r (.rejected .inProgress "Request đang được xử lý, vui lòng chờ"))
        | .completed => .ret (.answered r (.cached parsed.responseBody))
        | .failed =>
            .ret (.answered r (.rejected .failedBefore
              "Giao dịch trước đó với Idempotency-Key này đã thất bại. Vui lòng bấm lại để tạo thao tác mới với Idempotency-Key mới."))

/-- Each call, carried out. -/
def carryOut (truthy : Body → Bool) (ch : Choice Body) (w : World Body) :
    Ask Body → World Body × Op Body
  | .get route r =>
      if ch.fails then (w, .ret (.answered r .error))
      else
        match route with
        | .order => (w, intercept truthy r (w.records r.redisKey))
        | .payment => (w, start r (w.records r.redisKey))
  | .set route r =>
      if ch.fails then (w, .ret (.answered r .error))
      else (w.claim route r, .ask (.handle route r))
  | .handle route r =>
      match ch.response with
      | some body => (w.respond r body, .ask (.complete route r body))
      | none => (w, .ask (.fail route r))
  | .complete route r body =>
      if ch.fails then
        match route with
        -- nobody awaits the interceptor's write: its failure is logged
        | .order => (w, .ret (.answered r (.processed body)))
        | .payment => (w, .ask (.fail .payment r))
      else (w.complete r body, .ret (.answered r (.processed body)))
  | .fail route r =>
      (if ch.fails then w else w.fail route r, .ret (.answered r .error))

/-! ## The system -/

/-- A request on one of the routes; an empty key stands for a missing header. -/
structure Request where
  route : Route
  userId : String
  idempotencyKey : String
  requestHash : RequestHash

/-- The name of the record that a request uses. -/
def Request.recordName (request : Request) : String :=
  s!"idem:{request.userId}:{request.idempotencyKey}"

/-- How a request begins: without its header it is refused. -/
def Request.enter (request : Request) : Op Body :=
  if h : request.idempotencyKey ≠ "" then
    .ask (.get request.route ⟨request.userId, request.idempotencyKey, request.requestHash, h⟩)
  else .ret (.badRequest "Thiếu header Idempotency-Key")

/-- A record's TTL ends. -/
structure Event where
  expired : String

/-- The TTL of a record runs out. -/
def Event.happen (e : Event) (w : World Body) : World Body :=
  if (w.records e.expired).isSome then
    { w.setRecord e.expired none with reopened := w.reopened ++ [e.expired] }
  else w

/-- The two routes over one Redis. -/
def idempotency (truthy : Body → Bool) :
    System (World Body) (Ask Body) Empty (Answer Body) (Choice Body) Request Event where
  decide := fun ch w d =>
    some (if ch.crashes then (w, .ret (.answered d.params .error)) else carryOut truthy ch w d)
  perform := fun _ _ t => nomatch t
  enter := fun _ request => some request.enter
  env := fun e w => e.happen w
  detached := .badRequest ""

/-- The two routes with responses that are objects. -/
abbrev truthful (Body : Type) := idempotency fun _ : Body => true

/-- The records with the requests in flight. -/
abbrev State (Body : Type) := Pool (World Body) (Ask Body) Empty (Answer Body)

/-- A condition on the steps of the interceptor. -/
abbrev Condition (Body : Type) :=
  Guard (World Body) (Ask Body) Empty (Answer Body) (Choice Body) Request Event

/-- No key is in use. -/
def unused : State Body where
  world := { records := fun _ => none, runs := [], responses := [], reopened := [] }
  ops := []

end TicketIdempotency
