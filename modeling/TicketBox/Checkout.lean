import TicketBox.Idempotency

/-! # Checkout in the customer's tab

    `CheckoutPage.tsx` and `PaymentWaitingPage.tsx` send their requests under an idempotency
    key that `lib/idempotency.ts` keeps for the concert, or for the order: in a map of the
    tab and in its session storage.  A checkout repeats a request that is answered `409`
    (`lib/create-order-retry.ts`) and drops its key once it has the order.  The requests go
    to the server of `Idempotency`, call by call; a connection may be lost while the server
    goes on.  A page that is left behind goes on too, and may be opened again. -/

namespace TicketCheckout

open Interleave
open TicketIdempotency (RequestHash Route Answer Outcome Choice)

/-- Ids of concerts, as the path of a page has them. -/
abbrev ConcertId := String

/-- Ids of orders. -/
abbrev OrderId := String

/-- Ids of ticket types. -/
abbrev TicketTypeId := String

/-- A key of `createIdempotencyKey`. -/
abbrev Key := { key : String // key ≠ "" }

/-! ## Data -/

/-- `ZoneSelection`, of which the checkout sends these fields. -/
structure ZoneSelection where
  ticketTypeId : TicketTypeId
  ticketTypeName : String
  quantity : Nat
  deriving DecidableEq

/-- A ticket type as `fetchTicketTypes` returns it. -/
structure TicketTypeAvailability where
  id : TicketTypeId
  name : String
  deriving DecidableEq

/-- An item of the body of `POST /orders`. -/
structure OrderItem where
  ticketTypeId : TicketTypeId
  quantity : Nat
  deriving DecidableEq

/-- The body of `POST /orders`, or of `POST /payments/create`. -/
inductive RequestBody where
  | order (concertId : ConcertId) (items : List OrderItem)
  | payment (orderId : OrderId)
  deriving DecidableEq

/-- `CreateOrderResponse` and `CreatePaymentResponse`, as far as they are read. -/
structure Response where
  orderId : OrderId
  paymentUrl : Option String
  deriving DecidableEq

/-- What a key is kept for: the two maps, or the two prefixes in the session storage. -/
inductive Scope where
  | checkout (concertId : ConcertId)
  | payment (orderId : OrderId)
  deriving DecidableEq

/-- The route that a scope's requests go to. -/
def Scope.route : Scope → Route
  | .checkout _ => .order
  | .payment _ => .payment

/-- What the checkout takes as given: the customer and the pure functions it calls. -/
structure Platform where
  userId : String
  toLowerCase : String → String
  resolveBackendConcertId : ConcertId → ConcertId
  requestHash : RequestBody → RequestHash

variable (platform : Platform)

/-- `mapZoneSelectionToOrderItems`; of ticket types with one name the last one counts. -/
def Platform.mapZoneSelectionToOrderItems (selection : ZoneSelection)
    (backendTicketTypes : List TicketTypeAvailability) : Option (List OrderItem) :=
  let byId := backendTicketTypes.reverse.find? fun t => t.id = selection.ticketTypeId
  let byName := backendTicketTypes.reverse.find? fun t =>
    platform.toLowerCase t.name = platform.toLowerCase selection.ticketTypeName
  (byId.or byName).map fun t => [⟨t.id, selection.quantity⟩]

/-! ## The tab -/

/-- How far a page has come; `round` is bookkeeping and says how often the scope had dropped
    its key when the page fetched it. -/
inductive Stage where
  | review
  | loading (key : Key) (round : Nat)
  | waiting (key : Key) (round : Nat) (body : RequestBody) (attempt : Nat) (op : Nat)
  | sleeping (key : Key) (round : Nat) (body : RequestBody) (attempt : Nat)
  /-- the lock of a page that has succeeded is kept -/
  | done
  deriving DecidableEq

/-- A page with its button. -/
structure Page where
  scope : Scope
  selection : Option ZoneSelection
  stage : Stage
  deriving DecidableEq

/-- A browser tab: what it stores and the pages it shows. -/
structure Tab where
  keyMemory : Scope → Option Key
  /-- the keys in the session storage -/
  sessionKeys : Scope → Option Key
  selections : ConcertId → Option ZoneSelection
  pendingOrders : ConcertId → Option OrderId
  pages : List Page

/-- `getOrCreateScopedKey` -/
def Tab.getOrCreateScopedKey (scope : Scope) (uuid : Key) (tab : Tab) : Key × Tab :=
  match tab.keyMemory scope with
  | some cached => (cached, tab)
  | none =>
      match tab.sessionKeys scope with
      | some existing =>
          (existing, { tab with
            keyMemory := Function.update tab.keyMemory scope (some existing) })
      | none =>
          (uuid, { tab with
            keyMemory := Function.update tab.keyMemory scope (some uuid)
            sessionKeys := Function.update tab.sessionKeys scope (some uuid) })

/-- `clearScopedKey` -/
def Tab.clearScopedKey (scope : Scope) (tab : Tab) : Tab :=
  { tab with
    keyMemory := Function.update tab.keyMemory scope none
    sessionKeys := Function.update tab.sessionKeys scope none }

/-- The tab with its page `i` replaced. -/
def Tab.setPage (i : Nat) (page : Page) (tab : Tab) : Tab :=
  { tab with pages := tab.pages.set i page }

/-! ## The tab and the server -/

/-- A key that the tab has made, with the round of its scope. -/
structure Issued where
  key : Key
  scope : Scope
  round : Nat
  deriving DecidableEq

/-- A request that the tab has sent. -/
structure Sent where
  scope : Scope
  key : Key
  round : Nat
  body : RequestBody
  deriving DecidableEq

/-- A request of the tab that has been answered. -/
structure Finished where
  scope : Scope
  key : Key
  body : RequestBody
  response : Response
  deriving DecidableEq

/-- The tab and the idempotency interceptor of the server. -/
structure State where
  tab : Tab
  server : TicketIdempotency.State Response
  /-- bookkeeping: how often each scope has dropped its key -/
  rounds : Scope → Nat
  /-- bookkeeping: the keys of this tab -/
  issued : List Issued
  /-- bookkeeping: the records that others have used -/
  others : List String
  /-- bookkeeping: the requests that have been sent -/
  sent : List Sent
  /-- bookkeeping: what the pages have got -/
  finished : List Finished

/-- The name of the record under a key. -/
def Platform.redisKey (key : Key) : String := s!"idem:{platform.userId}:{key.1}"

/-- A uuid is generated once. -/
def State.Fresh (uuid : Key) (s : State) : Prop :=
  (∀ issued ∈ s.issued, platform.redisKey issued.key ≠ platform.redisKey uuid) ∧
    platform.redisKey uuid ∉ s.others

/-- A drawn key is compared with those made so far. -/
instance (uuid : Key) (s : State) : Decidable (s.Fresh platform uuid) :=
  inferInstanceAs (Decidable (_ ∧ _))

/-- The key of a scope is fetched. -/
def State.getKey (scope : Scope) (uuid : Key) (s : State) : Key × State :=
  let (key, tab) := s.tab.getOrCreateScopedKey scope uuid
  let issued :=
    if s.tab.keyMemory scope = none ∧ s.tab.sessionKeys scope = none then
      ⟨uuid, scope, s.rounds scope⟩ :: s.issued
    else s.issued
  (key, { s with tab, issued })

/-- `clearScopedIdempotencyKey`, which begins a new round of the scope. -/
def State.clearKey (scope : Scope) (s : State) : State :=
  { s with
    tab := s.tab.clearScopedKey scope
    rounds := Function.update s.rounds scope (s.rounds scope + 1) }

/-- Page `i` at another stage. -/
def State.setStage (i : Nat) (page : Page) (stage : Stage) (s : State) : State :=
  { s with tab := s.tab.setPage i { page with stage } }

/-- A request is sent, and arrives or not. -/
def State.send (i : Nat) (page : Page) (key : Key) (round : Nat) (body : RequestBody)
    (attempt : Nat) (arrives : Bool) (s : State) : State :=
  if arrives then
    let request : TicketIdempotency.Request :=
      ⟨page.scope.route, platform.userId, key.1, platform.requestHash body⟩
    { s.setStage i page (.waiting key round body attempt s.server.ops.length) with
      server := ⟨s.server.world, s.server.ops ++ [request.enter]⟩
      sent := ⟨page.scope, key, round, body⟩ :: s.sent }
  else s.setStage i page .review

/-! ## Answers -/

/-- What a page does once it has what it asked for. -/
def State.succeed (i : Nat) (page : Page) (key : Key) (body : RequestBody) (response : Response)
    (s : State) : State :=
  let s := { s.setStage i page .done with
    finished := ⟨page.scope, key, body, response⟩ :: s.finished }
  match page.scope with
  | .checkout concertId =>
      let s := s.clearKey page.scope
      { s with
        tab := { s.tab with
          selections := Function.update s.tab.selections concertId none
          pendingOrders :=
            Function.update s.tab.pendingOrders concertId (some response.orderId) } }
  | .payment _ => s

/-- The page gets a response; a checkout wants a payment url. -/
def State.received (i : Nat) (page : Page) (key : Key) (body : RequestBody) (response : Response)
    (s : State) : State :=
  match page.scope, response.paymentUrl with
  | .checkout _, none => s.setStage i page .review
  | _, _ => s.succeed i page key body response

/-- A `409`: the checkout sleeps and tries again, the payment page shows it. -/
def State.conflict (i : Nat) (page : Page) (key : Key) (round : Nat) (body : RequestBody)
    (attempt : Nat) (s : State) : State :=
  match page.scope with
  | .checkout _ => s.setStage i page (.sleeping key round body attempt)
  | .payment _ => s.setStage i page .review

/-- The answer to the request; whether what the handler threw is a `409` is `conflicts`. -/
def State.answer (i : Nat) (page : Page) (key : Key) (round : Nat) (body : RequestBody)
    (attempt : Nat) (conflicts : Bool) (s : State) : Answer Response → State
  | .answered _ (.processed response) => s.received i page key body response
  | .answered _ (.cached (some response)) => s.received i page key body response
  -- a cached record without a body: the page reads a field of `undefined`
  | .answered _ (.cached none) => s.setStage i page .review
  | .answered _ (.rejected _ _) => s.conflict i page key round body attempt
  | .answered _ .error =>
      if conflicts then s.conflict i page key round body attempt else s.setStage i page .review
  | .badRequest _ => s.setStage i page .review

/-! ## The machine -/

/-- One step of the customer, of the network or of the server. -/
inductive Move where
  /-- the seat map stores a selection -/
  | select (concertId : ConcertId) (selection : ZoneSelection)
  /-- a checkout page is opened -/
  | openCheckout (concertId : ConcertId) (uuid : Key)
  /-- a payment page is opened -/
  | openPayment (orderId : OrderId)
  /-- the button of page `i` is pressed; a checkout needs a token of the waiting room -/
  | press (i : Nat) (uuid : Key) (admitted arrives : Bool)
  /-- the ticket types have been fetched, or not -/
  | loaded (i : Nat) (types : Option (List TicketTypeAvailability)) (arrives : Bool)
  | answer (i : Nat) (conflicts : Bool)
  | disconnect (i : Nat)
  /-- `PROCESSING_RETRY_DELAY_MS` is over -/
  | wake (i : Nat) (arrives : Bool)
  | reload
  /-- a payment page sees its order settled, or cancels it -/
  | settle (orderId : OrderId) (concertId : Option ConcertId)
  | serve (op : Nat) (ch : Choice Response)
  | expire (name : String)
  /-- a request of somebody else -/
  | other (request : TicketIdempotency.Request)

/-- `MAX_PROCESSING_RETRIES` of the order hook. -/
def MAX_PROCESSING_RETRIES : Nat := 15

/-- The server. -/
abbrev interceptor := TicketIdempotency.truthful Response

/-- One step of the checkout; none where it is not possible. -/
def next (s : State) : Move → Option State
  | .select concertId selection =>
      some { s with
        tab := { s.tab with
          selections := Function.update s.tab.selections concertId (some selection) } }
  | .openCheckout concertId uuid =>
      if s.Fresh platform uuid then
        let (_, s) := s.getKey (.checkout concertId) uuid
        match s.tab.selections concertId with
        | none => some s
        | some selection =>
            let page : Page := ⟨.checkout concertId, some selection, .review⟩
            some { s with tab := { s.tab with pages := s.tab.pages ++ [page] } }
      else none
  | .openPayment orderId =>
      some { s with
        tab := { s.tab with pages := s.tab.pages ++ [⟨.payment orderId, none, .review⟩] } }
  | .press i uuid admitted arrives =>
      if s.Fresh platform uuid then
        s.tab.pages[i]?.bind fun page =>
          if page.stage = .review then
            match page.scope with
            | .checkout _ =>
                if admitted then
                  let (key, s) := s.getKey page.scope uuid
                  some (s.setStage i page (.loading key (s.rounds page.scope)))
                else some s
            | .payment orderId =>
                let (key, s) := s.getKey page.scope uuid
                some (s.send platform i page key (s.rounds page.scope) (.payment orderId) 0 arrives)
          else none
      else none
  | .loaded i types arrives =>
      s.tab.pages[i]?.bind fun page =>
        match page.stage, page.scope, page.selection with
        | .loading key round, .checkout concertId, some selection =>
            match types.bind (platform.mapZoneSelectionToOrderItems selection) with
            | none => some (s.setStage i page .review)
            | some items =>
                let body := RequestBody.order (platform.resolveBackendConcertId concertId) items
                some (s.send platform i page key round body 0 arrives)
        | _, _, _ => none
  | .answer i conflicts =>
      s.tab.pages[i]?.bind fun page =>
        match page.stage with
        | .waiting key round body attempt op =>
            match s.server.ops[op]? with
            | some (.ret answer) =>
                some (s.answer i page key round body attempt conflicts answer)
            | _ => none
        | _ => none
  | .disconnect i =>
      s.tab.pages[i]?.bind fun page =>
        match page.stage with
        | .waiting _ _ _ _ _ => some (s.setStage i page .review)
        | _ => none
  | .wake i arrives =>
      s.tab.pages[i]?.bind fun page =>
        match page.stage with
        | .sleeping key round body attempt =>
            if attempt + 1 < MAX_PROCESSING_RETRIES then
              some (s.send platform i page key round body (attempt + 1) arrives)
            else some (s.setStage i page .review)
        | _ => none
  | .reload =>
      some { s with tab := { s.tab with keyMemory := fun _ => none, pages := [] } }
  | .settle orderId concertId =>
      let s := s.clearKey (.payment orderId)
      match concertId with
      | none => some s
      | some concertId =>
          some { s with
            tab := { s.tab with
              pendingOrders := Function.update s.tab.pendingOrders concertId none } }
  | .serve op ch =>
      (interceptor.next s.server (.step op 0 ch)).map fun server => { s with server }
  | .expire name =>
      (interceptor.next s.server (.env ⟨name⟩)).map fun server => { s with server }
  | .other request =>
      if ∀ issued ∈ s.issued, platform.redisKey issued.key ≠ request.recordName then
        (interceptor.next s.server (.start request)).map fun server =>
          { s with server, others := request.recordName :: s.others }
      else none

/-- A tab that has just been opened; the server knows nothing yet. -/
def opened : State where
  tab := ⟨fun _ => none, fun _ => none, fun _ => none, fun _ => none, []⟩
  server := TicketIdempotency.unused
  rounds := fun _ => 0
  issued := []
  others := []
  sent := []
  finished := []

end TicketCheckout
