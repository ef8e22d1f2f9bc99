import TicketBox.System

/-! # What one step can do

    The inversions of the two step functions: `Asked` for an awaited call,
    `Performed` for a task of a batch.  Each constructor is one thing a step can
    do, with its guards; calls that touch neither the books (orders, inventory,
    tickets, counters, the ticket queue) nor Redis are all one constructor,
    `idle`.  Every invariant of the later files is a case analysis on these two
    relations and never unfolds the services again. -/

namespace TicketBackend

open Interleave TicketStore TicketRedis TicketDb TicketFlow TicketOrder TicketPayment
  TicketServices

/-! ## Calls with nothing outstanding -/

/-- The call belongs to an operation that has taken something and not yet
    written it down, or owes a later write: what the books of the later files
    have to carry in flight. -/
def Ask.owes : Ask → Bool
  | .reserveTickets .. | .persistOrder .. | .syncInventory ..
  | .deleteOrderQuietly .. | .deleteOrder ..
  | .createPaymentUrl (.createOrder ..) .. | .callGateway (.createOrder ..) ..
  | .savePaymentUrl (.createOrder ..) ..
  | .markCancelled .. | .markExpired .. | .enqueueTicketIssue .. | .seedStock .. => true
  | _ => false

/-- The task owes nothing: it seeds a key, or it is the release of a payment
    path whose transaction found the order settled. -/
def Task.owes : Task → Bool
  | .ensureRedisStock .. | .readStockRow .. | .setNxStock .. | .ensureRedisUserLimit ..
  | .readCounterRow .. | .setNxUserLimit .. => false
  | .releaseReservation (.webhookFailed false) _ | .releaseReservation (.cron false) _ => false
  | _ => true

/-- The task sets a key to a value read before. -/
def Task.seeds : Task → Bool
  | .setNxStock .. | .setNxUserLimit .. => true
  | _ => false

/-- No element of a batch: the operations are told apart by their calls. -/
def noTask (_ : Task) : Bool := false

/-- No call: the operations are told apart by the elements of their batches. -/
def noAsk (_ : Ask) : Bool := false

/-- The operations. -/
inductive Kind where
  | createOrder | createPayment | cancelOrder | expireOrder | webhook | cron | ticketIssue
  | updateTicketType
  deriving DecidableEq

/-- The operation that awaits `createPaymentUrl`. -/
def callerKind : PaymentCaller → Kind
  | .createPayment => .createPayment
  | .createOrder .. => .createOrder

/-- The operation a call belongs to. -/
def Ask.kind : Ask → Kind
  | .createOrder .. | .validateTicketType .. | .randomUUID .. | .reserveTickets ..
  | .persistOrder .. | .syncInventory .. | .deleteOrderQuietly .. | .deleteOrder ..
  | .scheduleExpiry .. => .createOrder
  | .createPaymentUrl caller .. | .callGateway caller .. | .savePaymentUrl caller .. =>
      callerKind caller
  | .cancelOrder .. | .markCancelled .. => .cancelOrder
  | .expireOrder .. | .markExpired .. => .expireOrder
  | .handleMockWebhook .. | .recordLateWebhook .. | .handlePaymentTimeout .. | .failedCheck ..
  | .failedCommit .. | .findGates .. | .countGateTickets .. | .successCommit ..
  | .delReservation .. | .sendOrderPaidEmail .. => .webhook
  | .verifyStuckPendingPayments | .verifyTransaction .. | .cronPaidCheck .. | .cronPaidCommit ..
  | .enqueueTicketIssue .. | .cronExpireCheck .. | .cronExpireCommit .. => .cron
  | .issueJob .. | .countIssued .. | .issueCommit .. | .completeJob .. => .ticketIssue
  | .updateTicketType .. | .checkOwnership .. | .checkDuplicate .. | .writeTicketType ..
  | .seedStock .. | .setSoldOut .. => .updateTicketType

/-- The operation a request starts. -/
def Request.kind : Request → Kind
  | .createOrder .. => .createOrder
  | .createPayment .. => .createPayment
  | .cancelOrder .. => .cancelOrder
  | .expireOrder .. => .expireOrder
  | .webhook .. => .webhook
  | .verifyStuckPendingPayments => .cron
  | .ticketIssue .. => .ticketIssue
  | .updateTicketType .. => .updateTicketType

/-- The program belongs to an operation of kind `k`, no call it may still make
    owes anything, and none carries a value to seed. -/
def Settled (k : Kind) (prog : Op) : Prop :=
  prog.All (fun d => Ask.owes d = false ∧ Ask.kind d = k)
    (fun t => Task.owes t = false ∧ Task.seeds t = false)

variable {k : Kind}

@[simp] theorem settled_ret (a : Answer) : Settled k (.ret a) := trivial
@[simp] theorem settled_thrown : Settled k thrown := trivial
@[simp] theorem settled_ask (d : Ask) :
    Settled k (.ask d) ↔ Ask.owes d = false ∧ Ask.kind d = k := Iff.rfl
@[simp] theorem settled_webhookAnswer (m : String) (s : Option OrderStatus) :
    Settled k (webhookAnswer m s) := trivial

/-- A batch owes nothing if neither its tasks nor what follows does. -/
theorem settled_par {ts : List Task} {h rest : Op} :
    Settled k (.par ts h rest) ↔
      (∀ t ∈ ts, Task.owes t = false ∧ Task.seeds t = false) ∧ Settled k h ∧ Settled k rest :=
  Iff.rfl

/-- A settled program has nothing in flight under any account that charges only
    the owing calls. -/
theorem Settled.total {A : Type} [AddCommGroup A] {fd : Ask → A} {ft : Task → A}
    (hfd : ∀ d, Ask.owes d = false → fd d = 0) (hft : ∀ t, Task.owes t = false → ft t = 0) :
    ∀ {prog : Op}, Settled k prog → prog.total fd ft = 0 := by
  intro prog
  induction prog with
  | ret a => exact fun _ => rfl
  | ask d => exact fun h => hfd d h.1
  | par ts h rest _ ihr =>
      intro hs
      obtain ⟨hts, -, hrest⟩ := settled_par.mp hs
      have hsum : (ts.map ft).sum = 0 := List.sum_eq_zero fun a ha => by
        obtain ⟨t, ht, rfl⟩ := List.mem_map.mp ha
        exact hft t (hts t ht).1
      rw [Prog.total_par, hsum, ihr hrest, add_zero]

@[simp] theorem settled_cronNext (l : List Order) : Settled .cron (cronNext l) := by
  cases l <;> simp [cronNext, Ask.owes, Ask.kind]

theorem settled_afterFailed_skipped (order : Order) : Settled .webhook (afterFailed order false) := by
  refine settled_par.mpr ⟨fun t ht => ?_, trivial, trivial⟩
  obtain ⟨i, -, rfl⟩ := List.mem_map.mp ht
  exact ⟨rfl, rfl⟩

theorem settled_afterCronExpire_skipped (order : Order) (rest : List Order) :
    Settled .cron (afterCronExpire order false rest) := by
  refine settled_par.mpr ⟨fun t ht => ?_, settled_cronNext rest, settled_cronNext rest⟩
  obtain ⟨i, -, rfl⟩ := List.mem_map.mp ht
  exact ⟨rfl, rfl⟩

theorem settled_validateNext (ctx : CreateCtx) (w : World) (metas : List TicketMeta)
    (todo : List OrderItemDto) : Settled .createOrder (validateNext ctx w metas todo) := by
  cases todo with
  | nil =>
      refine settled_par.mpr ⟨fun t ht => ?_, trivial, rfl, rfl⟩
      obtain ⟨m, -, hm⟩ := List.mem_flatMap.mp ht
      simp only [List.mem_cons, List.not_mem_nil, or_false] at hm
      rcases hm with rfl | rfl <;> exact ⟨rfl, rfl⟩
  | cons item todo =>
      simp only [validateNext]
      split <;> simp [Ask.owes, Ask.kind]

theorem settled_createPaymentUrl (o : OrderId) (u : UserId) (w : World) :
    Settled .createPayment (TicketPayment.createPaymentUrl .createPayment o u w) := by
  simp only [TicketPayment.createPaymentUrl, paymentError, paymentDone]
  repeat' split
  all_goals simp [Ask.owes, Ask.kind, callerKind]

theorem settled_handleMockWebhook (dto : MockWebhookDto) (w : World) :
    Settled .webhook (TicketPayment.handleMockWebhook dto w) := by
  simp only [TicketPayment.handleMockWebhook]
  repeat' split
  all_goals simp [Ask.owes, Ask.kind]

/-! ## Awaited calls -/

/-- The store after a call that wrote payments or queued an expiry or an e-mail. -/
def noted (w : World) (payments : List PaymentTransaction)
    (expireJobs : List (OrderId × Nat)) (emailJobs : List (OrderId × UserId)) : World :=
  { w with db := { w.db with payments := payments }, expireJobs := expireJobs,
           emailJobs := emailJobs }

/-- The catch block around the gateway can be entered from these calls. -/
def Ask.paying : Ask → Option (CreateCtx × OrderId × List TicketMeta)
  | .createPaymentUrl (.createOrder ctx metas) o _
  | .callGateway (.createOrder ctx metas) o _ _
  | .savePaymentUrl (.createOrder ctx metas) o _ _ _ => some (ctx, o, metas)
  | _ => none

/-- What one awaited call can do. -/
inductive Asked (ch : Choice) (w : World) : Ask → World → Op → Prop where
  | idle (d : Ask) (payments : List PaymentTransaction) (expireJobs : List (OrderId × Nat))
      (emailJobs : List (OrderId × UserId)) (prog : Op) :
      Ask.owes d = false → Settled (Ask.kind d) prog → Asked ch w d (noted w payments expireJobs emailJobs) prog
  -- createOrder
  | drawn (ctx : CreateCtx) (metas : List TicketMeta) :
      Asked ch w (.randomUUID ctx metas) (TicketOrder.randomUUID ctx metas w).1
        (awaitReserve ctx w.nextOrderId (metas.map fun m => { item := m, reply := none }))
  | reserveThrew (ctx : CreateCtx) (o : OrderId) (slots : List ReserveSlot) (s : ReserveSlot) :
      slots[ch.slot]? = some s → s.reply = none →
      Asked ch w (.reserveTickets ctx o slots) w
        (awaitReserve ctx o (slots.set ch.slot { s with reply := some (.error .unavailable) }))
  | reserved (ctx : CreateCtx) (o : OrderId) (slots : List ReserveSlot) (s : ReserveSlot)
      (redis : Redis) (res : LuaScriptResult) :
      slots[ch.slot]? = some s → s.reply = none →
      TicketRedis.reserveTicket (reserveParams ctx o s.item) w.now w.redis = (redis, res) →
      Asked ch w (.reserveTickets ctx o slots) { w with redis := redis }
        (awaitReserve ctx o (slots.set ch.slot { s with reply := some (.ok res) }))
  | persisted (ctx : CreateCtx) (o : OrderId) (metas : List TicketMeta) (db : Db) :
      ch.fails = false → insertOrder (newOrder ctx o metas) w.db = some db →
      Asked ch w (.persistOrder ctx o metas) { w with db := db } (.ask (.syncInventory ctx o metas))
  | persistFailed (ctx : CreateCtx) (o : OrderId) (metas : List TicketMeta) :
      Asked ch w (.persistOrder ctx o metas) w
        (.par (metaReleases .persistFailed ctx o metas) thrown (.ret (.error failedToCreate)))
  | synced (ctx : CreateCtx) (o : OrderId) (metas : List TicketMeta) (db : Db) :
      ch.fails = false → TicketDb.syncInventory ctx.userId metas w.db = .ok db →
      Asked ch w (.syncInventory ctx o metas) { w with db := db }
        (.ask (.createPaymentUrl (.createOrder ctx metas) o ctx.userId))
  | syncFailed (ctx : CreateCtx) (o : OrderId) (metas : List TicketMeta) (e : ApiError) :
      (ch.fails = true ∨ ∃ t, TicketDb.syncInventory ctx.userId metas w.db = .error t) →
      Asked ch w (.syncInventory ctx o metas) w (inventoryRollback ctx o metas e)
  | paying (d : Ask) (ctx : CreateCtx) (o : OrderId) (metas : List TicketMeta)
      (payments : List PaymentTransaction) (d' : Ask) :
      Ask.paying d = some (ctx, o, metas) →
      (Ask.paying d' = some (ctx, o, metas) ∨ Ask.owes d' = false) → Ask.kind d' = .createOrder →
      Asked ch w d (noted w payments w.expireJobs w.emailJobs) (.ask d')
  | payingFailed (d : Ask) (ctx : CreateCtx) (o : OrderId) (metas : List TicketMeta) (e : ApiError) :
      Ask.paying d = some (ctx, o, metas) →
      (ch.fails = true ∨
        (∃ u, d = .createPaymentUrl (.createOrder ctx metas) o u ∧
          ∀ r, w.db.findOrder o = some r → r.userId ≠ u ∨ r.status ≠ .pendingPayment) ∨
        (∃ amount existing url, d = .savePaymentUrl (.createOrder ctx metas) o amount existing url ∧
          writePaymentUrl o amount existing url w.db = none)) →
      Asked ch w d w (gatewayRollback ctx o metas e)
  | deleted (d : Ask) (o : OrderId) (e : ApiError) (db : Db) :
      (d = .deleteOrderQuietly o e ∨ d = .deleteOrder o e) →
      ch.fails = false → TicketDb.deleteOrder o w.db = .ok db →
      Asked ch w d { w with db := db } (.ret (.error e))
  | deleteRefused (d : Ask) (o : OrderId) (e e' : ApiError) :
      (d = .deleteOrderQuietly o e ∨ d = .deleteOrder o e) → Asked ch w d w (.ret (.error e'))
  -- cancelOrder and expireOrder
  | cancelling (o : OrderId) (u : UserId) (order : Order) :
      w.db.findOrder o = some order → order.userId = u → order.status = .pendingPayment →
      Asked ch w (.cancelOrder o u) w
        (.par (releases .cancel order) thrown
          (.par (typeDecrements order ++ counterDecrements order) thrown
            (.ask (.markCancelled order))))
  | cancelled (order : Order) (db : Db) :
      ch.fails = false → commitCancelled order.id w.now w.db = some db →
      Asked ch w (.markCancelled order) { w with db := db } (.ret (.orderCancelled order.id))
  | expiring (o : OrderId) (order : Order) :
      w.db.findOrder o = some order → order.status = .pendingPayment →
      Asked ch w (.expireOrder o) w
        (.par (releases .expire order) thrown
          (.par (counterDecrements order) thrown
            (.par (typeDecrements order) thrown (.ask (.markExpired order)))))
  | expired (order : Order) (db : Db) :
      ch.fails = false → commitExpired order.id w.now w.db = some db →
      Asked ch w (.markExpired order) { w with db := db } (.ret .expireDone)
  | markFailed (d : Ask) (order : Order) :
      (d = .markCancelled order ∨ d = .markExpired order) →
      (ch.fails = true ∨ w.db.findOrder order.id = none) →
      Asked ch w d w thrown
  -- the webhook
  | failed (order : Order) (db : Db) :
      ch.fails = false → commitFailed order w.now w.db = some db →
      Asked ch w (.failedCommit order) { w with db := db } (afterFailed order true)
  | succeeded (dto : MockWebhookDto) (order : Order) (gateName : String) (db : Db) :
      ch.fails = false → commitSuccess dto order gateName w.now w.db = some db →
      Asked ch w (.successCommit dto order gateName) { w with db := db }
        (.ask (.delReservation order))
  | recordDeleted (order : Order) :
      Asked ch w (.delReservation order)
        { w with redis := TicketRedis.delReservation order.id w.redis }
        (.ask (.sendOrderPaidEmail order))
  -- the cron
  | cronPaid (order : Order) (rest : List Order) (db : Db) :
      ch.fails = false → commitCronPaid order w.now w.db = some db →
      Asked ch w (.cronPaidCommit order rest) { w with db := db }
        (.ask (.enqueueTicketIssue order rest))
  | cronPaidSkipped (order : Order) (rest : List Order) :
      (∀ r, w.db.findOrder order.id = some r → r.status ≠ .pendingPayment) →
      Asked ch w (.cronPaidCheck order rest) w (.ask (.enqueueTicketIssue order rest))
  | enqueued (order : Order) (rest : List Order) :
      Asked ch w (.enqueueTicketIssue order rest)
        { w with ticketIssueJobs := w.ticketIssueJobs ++ [{ id := w.nextJobId, orderId := order.id }]
                 nextJobId := w.nextJobId + 1 }
        (cronNext rest)
  | enqueueFailed (order : Order) (rest : List Order) :
      ch.fails = true → Asked ch w (.enqueueTicketIssue order rest) w thrown
  | cronExpired (order : Order) (res : VerifyResult) (rest : List Order) (db : Db) :
      ch.fails = false → commitCronExpire order res w.now w.db = some db →
      Asked ch w (.cronExpireCommit order res rest) { w with db := db }
        (afterCronExpire order true rest)
  -- the worker
  | issued (job : TicketIssueJob) (order : Order) (db : Db) :
      ch.fails = false → commitIssue order order.items w.db = some db →
      Asked ch w (.issueCommit job order) { w with db := db }
        (.ask (.completeJob job
          (.ticketsIssued (order.items.map fun i => i.quantity.toNat).sum)))
  | completed (job : TicketIssueJob) (answer : Answer) :
      Asked ch w (.completeJob job answer)
        { w with ticketIssueJobs := w.ticketIssueJobs.filter fun j => j.id ≠ job.id } (.ret answer)
  -- TicketTypeService.update
  | typeWritten (existing : TicketType) (dto : UpdateTicketTypeDto) (db : Db) (row : TicketType)
      (prog : Op) :
      TicketDb.writeTicketType existing.id (updateData dto) w.db = .ok db →
      db.findTicketType existing.id = some row →
      (prog = .ask (.seedStock row) ∨
        (dto.totalQty = none ∧ dto.soldQty = none ∧ dto.reservedQty = none ∧ Settled .updateTicketType prog)) →
      Asked ch w (.writeTicketType existing dto) { w with db := db } prog
  | stockSeeded (row : TicketType) (prog : Op) :
      Settled .updateTicketType prog →
      Asked ch w (.seedStock row)
        { w with redis := TicketRedis.seedStock row.id (availableQty row) w.redis } prog
  | seedFailed (row : TicketType) :
      ch.fails = true → Asked ch w (.seedStock row) w thrown
  | soldOutSet (row : TicketType) (db : Db) :
      TicketDb.writeTicketType row.id (fun r => { r with status := .soldOut }) w.db = .ok db →
      Asked ch w (.setSoldOut row) { w with db := db }
        (.ret (.ticketTypeUpdated { row with status := .soldOut }))

/-- A call that owes nothing leaves the world alone. -/
theorem idle_same {ch : Choice} {w : World} {d : Ask} {prog : Op} (hd : Ask.owes d = false)
    (h : Settled (Ask.kind d) prog) : Asked ch w d w prog :=
  .idle d w.db.payments w.expireJobs w.emailJobs prog hd h

/-- What holds of a read, and where it throws, holds after it. -/
theorem prop_of_reads {P : World → Op → Prop} {ch : Choice} {w w' : World} {prog prog' : Op}
    (h : reads ch w prog = some (w', prog')) (hthrown : P w thrown) (hprog : P w prog) :
    P w' prog' := by
  simp only [reads, Option.some.injEq, Prod.mk.injEq] at h
  obtain ⟨rfl, rfl⟩ := h
  split
  · exact hthrown
  · exact hprog

/-- What holds of a call that answers in every state holds after it. -/
theorem prop_of_some {P : World → Op → Prop} {w' : World} {prog : Op} {x : World × Op}
    (h : some x = some (w', prog)) (hx : P x.1 x.2) : P w' prog := by
  cases h
  exact hx

/-- The inversion of a call that only reads. -/
theorem asked_of_reads {ch : Choice} {w w' : World} {d : Ask} {prog prog' : Op}
    (h : reads ch w prog = some (w', prog')) (hd : Ask.owes d = false) (hp : Asked ch w d w prog) :
    Asked ch w d w' prog' :=
  prop_of_reads h (idle_same hd trivial) hp

/-- The inversion of a call that answers in every state. -/
theorem asked_of_some {ch : Choice} {w w' : World} {d : Ask} {prog : Op} {x : World × Op}
    (h : some x = some (w', prog)) (hx : Asked ch w d x.1 x.2) : Asked ch w d w' prog :=
  prop_of_some h hx

variable {ch : Choice} {w : World}

/-! ### createOrder -/

theorem asked_persistOrder (ctx : CreateCtx) (o : OrderId) (metas : List TicketMeta) :
    Asked ch w (.persistOrder ctx o metas) (TicketOrder.persistOrder ctx o metas ch w).1
      (TicketOrder.persistOrder ctx o metas ch w).2 := by
  simp only [TicketOrder.persistOrder]
  split
  · next db hdb =>
    split at hdb
    · cases hdb
    · next hf => exact .persisted ctx o metas db (Bool.eq_false_iff.mpr hf) hdb
  · exact .persistFailed ctx o metas

theorem asked_syncInventory (ctx : CreateCtx) (o : OrderId) (metas : List TicketMeta) :
    Asked ch w (.syncInventory ctx o metas) (TicketOrder.syncInventory ctx o metas ch w).1
      (TicketOrder.syncInventory ctx o metas ch w).2 := by
  simp only [TicketOrder.syncInventory]
  split
  · next hf => exact .syncFailed ctx o metas _ (.inl hf)
  · next hf =>
    split
    · next db hdb => exact .synced ctx o metas db (Bool.eq_false_iff.mpr hf) hdb
    · next t ht => exact .syncFailed ctx o metas _ (.inr ⟨t, ht⟩)

theorem asked_deleteOrderQuietly (o : OrderId) (e : ApiError) :
    Asked ch w (.deleteOrderQuietly o e) (TicketOrder.deleteOrderQuietly o e ch w).1
      (TicketOrder.deleteOrderQuietly o e ch w).2 := by
  simp only [TicketOrder.deleteOrderQuietly]
  split
  · exact .deleteRefused _ o e _ (.inl rfl)
  · next hf =>
    split
    · next db hdb => exact .deleted _ o e db (.inl rfl) (Bool.eq_false_iff.mpr hf) hdb
    · exact .deleteRefused _ o e _ (.inl rfl)

theorem asked_deleteOrder (o : OrderId) (e : ApiError) :
    Asked ch w (.deleteOrder o e) (TicketOrder.deleteOrder o e ch w).1
      (TicketOrder.deleteOrder o e ch w).2 := by
  simp only [TicketOrder.deleteOrder]
  split
  · exact .deleteRefused _ o e _ (.inr rfl)
  · next hf =>
    split
    · next db hdb => exact .deleted _ o e db (.inr rfl) (Bool.eq_false_iff.mpr hf) hdb
    · exact .deleteRefused _ o e _ (.inr rfl)

theorem asked_scheduleExpiry (ctx : CreateCtx) (o : OrderId) (url : String) :
    Asked ch w (.scheduleExpiry ctx o url) (TicketOrder.scheduleExpiry ctx o url ch w).1
      (TicketOrder.scheduleExpiry ctx o url ch w).2 := by
  simp only [TicketOrder.scheduleExpiry]
  split
  · exact idle_same rfl trivial
  · exact .idle _ w.db.payments _ w.emailJobs _ rfl trivial

/-! ### The payment URL -/

theorem asked_paymentDone {d : Ask} {ctx : CreateCtx} {o : OrderId} {metas : List TicketMeta}
    (hd : Ask.paying d = some (ctx, o, metas)) (payments : List PaymentTransaction) (url : String)
    (reused : Bool) :
    Asked ch w d (noted w payments w.expireJobs w.emailJobs)
      (paymentDone (.createOrder ctx metas) o url reused) :=
  .paying d ctx o metas payments _ hd (.inr rfl) rfl

theorem asked_createPaymentUrl (caller : PaymentCaller) (o : OrderId) (u : UserId) :
    Asked ch w (.createPaymentUrl caller o u) w
      (if ch.fails then paymentError caller o .unavailable
        else TicketPayment.createPaymentUrl caller o u w) := by
  cases caller with
  | createPayment =>
      split
      · exact idle_same rfl trivial
      · exact idle_same rfl (settled_createPaymentUrl o u w)
  | createOrder ctx metas =>
      split
      · next hf => exact .payingFailed _ ctx o metas _ rfl (.inl hf)
      · simp only [TicketPayment.createPaymentUrl]
        cases ho : w.db.findOrder o with
        | none =>
            refine .payingFailed _ ctx o metas _ rfl (.inr (.inl ⟨u, rfl, fun r hr => ?_⟩))
            rw [ho] at hr
            cases hr
        | some order =>
            simp only
            split
            · next hu =>
              refine .payingFailed _ ctx o metas _ rfl (.inr (.inl ⟨u, rfl, fun r hr => ?_⟩))
              rw [ho] at hr
              cases hr
              exact .inl hu
            · split
              · next hs =>
                refine .payingFailed _ ctx o metas _ rfl (.inr (.inl ⟨u, rfl, fun r hr => ?_⟩))
                rw [ho] at hr
                cases hr
                exact .inr hs
              · split
                · split
                  · exact .paying _ ctx o metas w.db.payments _ rfl (.inl rfl) rfl
                  · exact asked_paymentDone rfl w.db.payments _ true
                · exact .paying _ ctx o metas w.db.payments _ rfl (.inl rfl) rfl

theorem asked_callGateway (caller : PaymentCaller) (o : OrderId) (amount : Int)
    (existing : Option PaymentTransaction) :
    Asked ch w (.callGateway caller o amount existing) w
      (TicketPayment.callGateway caller o amount existing ch w) := by
  simp only [TicketPayment.callGateway]
  cases caller with
  | createPayment => split <;> exact idle_same rfl (by simp [paymentError, Ask.owes, Ask.kind])
  | createOrder ctx metas =>
      split
      · next hf => exact .payingFailed _ ctx o metas _ rfl (.inl hf)
      · exact .paying _ ctx o metas w.db.payments _ rfl (.inl rfl) rfl

/-- The payment url changes payments only. -/
theorem writePaymentUrl_db {o : OrderId} {amount : Int} {existing : Option PaymentTransaction}
    {url : String} {db db' : Db} (h : writePaymentUrl o amount existing url db = some db') :
    ∃ payments, db' = { db with payments := payments } := by
  cases existing with
  | none =>
      simp only [writePaymentUrl, insertPayment, Option.map_eq_some_iff] at h
      obtain ⟨_, -, rfl⟩ := h
      exact ⟨_, rfl⟩
  | some p =>
      simp only [writePaymentUrl, setPaymentUrl] at h
      split at h
      · cases h
        exact ⟨_, rfl⟩
      · cases h

theorem asked_savePaymentUrl (caller : PaymentCaller) (o : OrderId) (amount : Int)
    (existing : Option PaymentTransaction) (url : String) :
    Asked ch w (.savePaymentUrl caller o amount existing url)
      (TicketPayment.savePaymentUrl caller o amount existing url ch w).1
      (TicketPayment.savePaymentUrl caller o amount existing url ch w).2 := by
  simp only [TicketPayment.savePaymentUrl]
  split
  · next hnone =>
    cases caller with
    | createPayment => exact idle_same rfl trivial
    | createOrder ctx metas =>
        split at hnone
        · next hf => exact .payingFailed _ ctx o metas _ rfl (.inl hf)
        · exact .payingFailed _ ctx o metas _ rfl
            (.inr (.inr ⟨amount, existing, url, rfl, hnone⟩))
  · next db hdb =>
    split at hdb
    · cases hdb
    · obtain ⟨payments, rfl⟩ := writePaymentUrl_db hdb
      cases caller with
      | createPayment => exact .idle _ payments w.expireJobs w.emailJobs _ rfl trivial
      | createOrder ctx metas => exact asked_paymentDone rfl payments url false

/-! ### cancelOrder and expireOrder -/

theorem asked_cancelOrder (o : OrderId) (u : UserId) :
    Asked ch w (.cancelOrder o u) w (TicketOrder.cancelOrder o u w) := by
  simp only [TicketOrder.cancelOrder]
  split
  · exact idle_same rfl trivial
  · next order ho =>
    split
    · exact idle_same rfl trivial
    · next hu =>
      split
      · exact idle_same rfl trivial
      · next hs => exact .cancelling o u order ho (not_not.mp hu) (not_not.mp hs)

theorem asked_expireOrder (o : OrderId) :
    Asked ch w (.expireOrder o) w (TicketOrder.expireOrder o w) := by
  simp only [TicketOrder.expireOrder]
  split
  · exact idle_same rfl trivial
  · next order ho =>
    split
    · exact idle_same rfl trivial
    · next hs =>
      split
      · exact idle_same rfl trivial
      · exact .expiring o order ho (not_not.mp hs)

/-- An update by id fails only on a missing row. -/
theorem updateOrder_none {o : OrderId} {f : Order → Order} {db : Db}
    (h : updateOrder o f db = none) : db.findOrder o = none := by
  simpa [updateOrder] using h

theorem asked_markCancelled (order : Order) :
    Asked ch w (.markCancelled order) (TicketOrder.markCancelled order ch w).1
      (TicketOrder.markCancelled order ch w).2 := by
  simp only [TicketOrder.markCancelled]
  split
  · next hnone =>
    split at hnone
    · next hf => exact .markFailed _ order (.inl rfl) (.inl hf)
    · exact .markFailed _ order (.inl rfl) (.inr (updateOrder_none hnone))
  · next db hdb =>
    split at hdb
    · cases hdb
    · next hf => exact .cancelled order db (Bool.eq_false_iff.mpr hf) hdb

theorem asked_markExpired (order : Order) :
    Asked ch w (.markExpired order) (TicketOrder.markExpired order ch w).1
      (TicketOrder.markExpired order ch w).2 := by
  simp only [TicketOrder.markExpired]
  split
  · next hnone =>
    split at hnone
    · next hf => exact .markFailed _ order (.inr rfl) (.inl hf)
    · exact .markFailed _ order (.inr rfl) (.inr (updateOrder_none hnone))
  · next db hdb =>
    split at hdb
    · cases hdb
    · next hf => exact .expired order db (Bool.eq_false_iff.mpr hf) hdb

/-! ### The webhook -/

/-- So does a payment's upsert. -/
theorem upsertPayment_db {dto : MockWebhookDto} {c : PaymentStatus} {u : Option PaymentStatus}
    {db db' : Db} (h : upsertPayment dto c u db = some db') :
    ∃ payments, db' = { db with payments := payments } := by
  simp only [upsertPayment] at h
  split at h
  · cases h
    exact ⟨_, rfl⟩
  · simp only [insertPayment, Option.map_eq_some_iff] at h
    obtain ⟨_, -, rfl⟩ := h
    exact ⟨_, rfl⟩

/-- A payment row written alone, and the webhook's answer. -/
theorem asked_payment {d : Ask} {saved : Option Db} {prog : Op} {dto : MockWebhookDto}
    {c : PaymentStatus} {u : Option PaymentStatus} (hd : Ask.owes d = false) (hp : Settled (Ask.kind d) prog)
    (hs : saved = if ch.fails then none else upsertPayment dto c u w.db) :
    Asked ch w d (match saved with | none => (w, thrown) | some db => ({ w with db := db }, prog)).1
      (match saved with | none => (w, thrown) | some db => ({ w with db := db }, prog)).2 := by
  split
  · exact idle_same hd trivial
  · next db =>
    split at hs
    · cases hs
    · obtain ⟨payments, rfl⟩ := upsertPayment_db hs.symm
      exact .idle _ payments w.expireJobs w.emailJobs _ hd hp

theorem asked_failedCheck (order : Order) :
    Asked ch w (.failedCheck order) w (TicketPayment.failedCheck order w) := by
  simp only [TicketPayment.failedCheck]
  repeat' split
  · exact idle_same rfl ⟨rfl, rfl⟩
  · exact idle_same rfl (settled_afterFailed_skipped order)
  · exact idle_same rfl (settled_afterFailed_skipped order)

theorem asked_failedCommit (order : Order) :
    Asked ch w (.failedCommit order) (TicketPayment.failedCommit order ch w).1
      (TicketPayment.failedCommit order ch w).2 := by
  simp only [TicketPayment.failedCommit]
  split
  · exact idle_same rfl trivial
  · next db hdb =>
    split at hdb
    · cases hdb
    · next hf => exact .failed order db (Bool.eq_false_iff.mpr hf) hdb

theorem asked_findGates (dto : MockWebhookDto) (order : Order) :
    Asked ch w (.findGates dto order) w (TicketPayment.findGates dto order w) := by
  simp only [TicketPayment.findGates]
  split <;> exact idle_same rfl ⟨rfl, rfl⟩

theorem asked_successCommit (dto : MockWebhookDto) (order : Order) (gateName : String) :
    Asked ch w (.successCommit dto order gateName)
      (TicketPayment.successCommit dto order gateName ch w).1
      (TicketPayment.successCommit dto order gateName ch w).2 := by
  simp only [TicketPayment.successCommit]
  split
  · exact idle_same rfl trivial
  · next db hdb =>
    split at hdb
    · cases hdb
    · next hf => exact .succeeded dto order gateName db (Bool.eq_false_iff.mpr hf) hdb

theorem asked_delReservation (order : Order) :
    Asked ch w (.delReservation order) (TicketPayment.delReservation order ch w).1
      (TicketPayment.delReservation order ch w).2 := by
  simp only [TicketPayment.delReservation]
  split
  · exact idle_same rfl trivial
  · exact .recordDeleted order

theorem asked_sendOrderPaidEmail (order : Order) :
    Asked ch w (.sendOrderPaidEmail order) (TicketPayment.sendOrderPaidEmail order ch w).1
      (TicketPayment.sendOrderPaidEmail order ch w).2 := by
  simp only [TicketPayment.sendOrderPaidEmail]
  split
  · exact idle_same rfl trivial
  · exact .idle _ w.db.payments w.expireJobs _ _ rfl trivial

/-! ### The cron -/

theorem asked_verifyTransaction (order : Order) (rest : List Order) :
    Asked ch w (.verifyTransaction order rest) w
      (TicketPayment.verifyTransaction order rest ch) := by
  simp only [TicketPayment.verifyTransaction]
  split <;> exact idle_same rfl ⟨rfl, rfl⟩

theorem asked_cronPaidCheck (order : Order) (rest : List Order) :
    Asked ch w (.cronPaidCheck order rest) w (TicketPayment.cronPaidCheck order rest w) := by
  simp only [TicketPayment.cronPaidCheck]
  split
  · next latest hl =>
    split
    · exact idle_same rfl ⟨rfl, rfl⟩
    · next hs =>
      refine .cronPaidSkipped order rest fun r hr => ?_
      rw [hl] at hr
      cases hr
      exact hs
  · next hl =>
    refine .cronPaidSkipped order rest fun r hr => ?_
    rw [hl] at hr
    cases hr

theorem asked_cronPaidCommit (order : Order) (rest : List Order) :
    Asked ch w (.cronPaidCommit order rest) (TicketPayment.cronPaidCommit order rest ch w).1
      (TicketPayment.cronPaidCommit order rest ch w).2 := by
  simp only [TicketPayment.cronPaidCommit]
  split
  · exact idle_same rfl trivial
  · next db hdb =>
    split at hdb
    · cases hdb
    · next hf => exact .cronPaid order rest db (Bool.eq_false_iff.mpr hf) hdb

theorem asked_enqueueTicketIssue (order : Order) (rest : List Order) :
    Asked ch w (.enqueueTicketIssue order rest)
      (TicketPayment.enqueueTicketIssue order rest ch w).1
      (TicketPayment.enqueueTicketIssue order rest ch w).2 := by
  simp only [TicketPayment.enqueueTicketIssue]
  split
  · next hf => exact .enqueueFailed order rest hf
  · exact .enqueued order rest

theorem asked_cronExpireCheck (order : Order) (res : VerifyResult) (rest : List Order) :
    Asked ch w (.cronExpireCheck order res rest) w
      (TicketPayment.cronExpireCheck order res rest w) := by
  simp only [TicketPayment.cronExpireCheck]
  repeat' split
  · exact idle_same rfl ⟨rfl, rfl⟩
  · exact idle_same rfl (settled_afterCronExpire_skipped order rest)
  · exact idle_same rfl (settled_afterCronExpire_skipped order rest)

theorem asked_cronExpireCommit (order : Order) (res : VerifyResult) (rest : List Order) :
    Asked ch w (.cronExpireCommit order res rest)
      (TicketPayment.cronExpireCommit order res rest ch w).1
      (TicketPayment.cronExpireCommit order res rest ch w).2 := by
  simp only [TicketPayment.cronExpireCommit]
  split
  · exact idle_same rfl trivial
  · next db hdb =>
    split at hdb
    · cases hdb
    · next hf => exact .cronExpired order res rest db (Bool.eq_false_iff.mpr hf) hdb

/-! ### The worker and TicketTypeService -/

theorem settled_issueJob (job : TicketIssueJob) (w : World) :
    Settled .ticketIssue (TicketServices.issueJob job w) := by
  simp only [TicketServices.issueJob]
  repeat' split
  all_goals simp [Ask.owes, Ask.kind]

theorem settled_countIssued (job : TicketIssueJob) (order : Order) (w : World) :
    Settled .ticketIssue (TicketServices.countIssued job order w) := by
  simp only [TicketServices.countIssued]
  split <;> exact ⟨rfl, rfl⟩

theorem asked_issueCommit (job : TicketIssueJob) (order : Order) :
    Asked ch w (.issueCommit job order) (TicketServices.issueCommit job order ch w).1
      (TicketServices.issueCommit job order ch w).2 := by
  simp only [TicketServices.issueCommit]
  split
  · exact idle_same rfl trivial
  · next db hdb =>
    split at hdb
    · cases hdb
    · next hf => exact .issued job order db (Bool.eq_false_iff.mpr hf) hdb

theorem asked_completeJob (job : TicketIssueJob) (answer : Answer) :
    Asked ch w (.completeJob job answer) (TicketServices.completeJob job answer ch w).1
      (TicketServices.completeJob job answer ch w).2 := by
  simp only [TicketServices.completeJob]
  split
  · exact idle_same rfl trivial
  · exact .completed job answer

theorem settled_afterDuplicate (existing : TicketType) (dto : UpdateTicketTypeDto) (role : Role) :
    Settled .updateTicketType (afterDuplicate existing dto role) := by
  simp only [afterDuplicate]
  split
  · trivial
  · exact ⟨rfl, rfl⟩

theorem settled_checkOwnership (existing : TicketType) (dto : UpdateTicketTypeDto) (u : UserId)
    (role : Role) (w : World) :
    Settled .updateTicketType (TicketServices.checkOwnership existing dto u role w) := by
  simp only [TicketServices.checkOwnership]
  split
  · trivial
  · split
    · trivial
    · split
      · exact ⟨rfl, rfl⟩
      · exact settled_afterDuplicate existing dto role

theorem settled_afterWrite (row : TicketType) : Settled .updateTicketType (afterWrite row) := by
  simp only [afterWrite]
  split
  · exact ⟨rfl, rfl⟩
  · trivial

theorem asked_writeTicketType (existing : TicketType) (dto : UpdateTicketTypeDto) :
    Asked ch w (.writeTicketType existing dto) (TicketServices.writeTicketType existing dto ch w).1
      (TicketServices.writeTicketType existing dto ch w).2 := by
  simp only [TicketServices.writeTicketType]
  split
  · exact idle_same rfl trivial
  · split
    · exact idle_same rfl trivial
    · next db hdb =>
      split
      · exact idle_same rfl trivial
      · next row hrow =>
        refine .typeWritten existing dto db row _ hdb hrow ?_
        split
        · exact .inl rfl
        · next hn =>
          simp only [not_or, Option.not_isSome_iff_eq_none] at hn
          exact .inr ⟨hn.1, hn.2.1, hn.2.2, settled_afterWrite row⟩

theorem asked_seedStock (row : TicketType) :
    Asked ch w (.seedStock row) (TicketServices.seedStock row ch w).1
      (TicketServices.seedStock row ch w).2 := by
  simp only [TicketServices.seedStock]
  split
  · next hf => exact .seedFailed row hf
  · exact .stockSeeded row _ (settled_afterWrite row)

theorem asked_setSoldOut (row : TicketType) :
    Asked ch w (.setSoldOut row) (TicketServices.setSoldOut row ch w).1
      (TicketServices.setSoldOut row ch w).2 := by
  simp only [TicketServices.setSoldOut]
  split
  · exact idle_same rfl trivial
  · split
    · exact idle_same rfl trivial
    · next db hdb => exact .soldOutSet row db hdb

theorem asked_reserveTickets {ctx : CreateCtx} {o : OrderId} {slots : List ReserveSlot}
    {w' : World} {prog : Op} (h : TicketOrder.reserveTickets ctx o slots ch w = some (w', prog)) :
    Asked ch w (.reserveTickets ctx o slots) w' prog := by
  simp only [TicketOrder.reserveTickets] at h
  cases hs : slots[ch.slot]? with
  | none => simp [hs] at h
  | some s =>
      cases hr : s.reply with
      | some r => simp [hs, hr] at h
      | none =>
          simp only [hs, hr] at h
          split at h <;> obtain ⟨rfl, rfl⟩ := h
          · exact .reserveThrew ctx o slots s hs hr
          · exact .reserved ctx o slots s _ _ hs hr rfl

/-- Every awaited call does one of the things `Asked` lists. -/
theorem dispatch_asked {w' : World} {d : Ask} {prog : Op}
    (h : dispatch ch w d = some (w', prog)) : Asked ch w d w' prog := by
  cases d with
  | reserveTickets ctx o slots => exact asked_reserveTickets h
  | validateTicketType ctx todo metas =>
      exact asked_of_reads h rfl (idle_same rfl (settled_validateNext ..))
  | cancelOrder o u => exact asked_of_reads h rfl (asked_cancelOrder o u)
  | expireOrder o => exact asked_of_reads h rfl (asked_expireOrder o)
  | handleMockWebhook dto =>
      exact asked_of_reads h rfl (idle_same rfl (settled_handleMockWebhook dto w))
  | failedCheck order => exact asked_of_reads h rfl (asked_failedCheck order)
  | findGates dto order => exact asked_of_reads h rfl (asked_findGates dto order)
  | countGateTickets dto order gates => exact asked_of_reads h rfl (idle_same rfl ⟨rfl, rfl⟩)
  | verifyStuckPendingPayments => exact asked_of_reads h rfl (idle_same rfl (settled_cronNext _))
  | verifyTransaction order rest => exact asked_of_reads h rfl (asked_verifyTransaction order rest)
  | cronPaidCheck order rest => exact asked_of_reads h rfl (asked_cronPaidCheck order rest)
  | cronExpireCheck order res rest => exact asked_of_reads h rfl (asked_cronExpireCheck order res rest)
  | issueJob job => exact asked_of_reads h rfl (idle_same rfl (settled_issueJob job w))
  | countIssued job order =>
      exact asked_of_reads h rfl (idle_same rfl (settled_countIssued job order w))
  | updateTicketType t dto u role =>
      refine asked_of_reads h rfl (idle_same rfl ?_)
      simp only [TicketServices.updateTicketType]
      split
      · trivial
      · exact ⟨rfl, rfl⟩
  | checkOwnership existing dto u role =>
      exact asked_of_reads h rfl (idle_same rfl (settled_checkOwnership ..))
  | checkDuplicate existing dto role =>
      refine asked_of_reads h rfl (idle_same rfl ?_)
      simp only [TicketServices.checkDuplicate]
      split
      · trivial
      · exact settled_afterDuplicate existing dto role
  | recordLateWebhook dto message =>
      exact asked_of_some h (asked_payment rfl (settled_webhookAnswer _ _) rfl)
  | handlePaymentTimeout dto =>
      exact asked_of_some h (asked_payment rfl (settled_webhookAnswer _ _) rfl)
  | createOrder dto u => cases h; exact idle_same rfl ⟨rfl, rfl⟩
  | randomUUID ctx metas => cases h; exact .drawn ctx metas
  | createPaymentUrl caller o u => exact asked_of_some h (asked_createPaymentUrl caller o u)
  | callGateway caller o amount existing =>
      exact asked_of_some h (asked_callGateway caller o amount existing)
  | persistOrder ctx o metas => exact asked_of_some h (asked_persistOrder ctx o metas)
  | syncInventory ctx o metas => exact asked_of_some h (asked_syncInventory ctx o metas)
  | deleteOrderQuietly o e => exact asked_of_some h (asked_deleteOrderQuietly o e)
  | deleteOrder o e => exact asked_of_some h (asked_deleteOrder o e)
  | scheduleExpiry ctx o url => exact asked_of_some h (asked_scheduleExpiry ctx o url)
  | savePaymentUrl caller o amount existing url =>
      exact asked_of_some h (asked_savePaymentUrl caller o amount existing url)
  | markCancelled order => exact asked_of_some h (asked_markCancelled order)
  | markExpired order => exact asked_of_some h (asked_markExpired order)
  | failedCommit order => exact asked_of_some h (asked_failedCommit order)
  | successCommit dto order gateName => exact asked_of_some h (asked_successCommit dto order gateName)
  | delReservation order => exact asked_of_some h (asked_delReservation order)
  | sendOrderPaidEmail order => exact asked_of_some h (asked_sendOrderPaidEmail order)
  | cronPaidCommit order rest => exact asked_of_some h (asked_cronPaidCommit order rest)
  | enqueueTicketIssue order rest => exact asked_of_some h (asked_enqueueTicketIssue order rest)
  | cronExpireCommit order res rest => exact asked_of_some h (asked_cronExpireCommit order res rest)
  | issueCommit job order => exact asked_of_some h (asked_issueCommit job order)
  | completeJob job answer => exact asked_of_some h (asked_completeJob job answer)
  | writeTicketType existing dto => exact asked_of_some h (asked_writeTicketType existing dto)
  | seedStock row => exact asked_of_some h (asked_seedStock row)
  | setSoldOut row => exact asked_of_some h (asked_setSoldOut row)

/-! ## Tasks of a batch -/

/-- What one task of a batch can do. -/
inductive Performed (ch : Choice) (w : World) : Task → World → TaskResult Task → Prop where
  | threw (t : Task) :
      (ch.fails = true ∨ (∃ t' q pos, t = .decrementReserved t' q pos ∧
          w.db.findTicketType t' = none) ∨
        (∃ u t' q pos, t = .decrementCounter u t' q pos ∧ w.db.counters (u, t') = none)) →
      Performed ch w t w .threw
  | ended (t : Task) : Task.owes t = false → Performed ch w t w .resolved
  | looked (t t' : Task) :
      Task.owes t = false → Task.owes t' = false →
      (∀ u tt c, t' = .setNxUserLimit u tt c →
        c = w.db.counterPaid u tt + w.db.counterReserved u tt) →
      Performed ch w t w (.goOn t')
  | stockSet (t : TicketTypeId) (available : Int) :
      Performed ch w (.setNxStock t available)
        { w with redis := setNxStock t available w.redis } .resolved
  | limitSet (u : UserId) (t : TicketTypeId) (currentCount : Int) :
      Performed ch w (.setNxUserLimit u t currentCount)
        { w with redis := setNxUserLimit u t currentCount w.redis } .resolved
  | released (site : ReleaseSite) (p : ReleaseParams) :
      Performed ch w (.releaseReservation site p)
        { w with redis := (releaseReservation p w.now w.redis).1 } .resolved
  | decremented (t : TicketTypeId) (q : Int) (pos : 0 < q) (db : Db) :
      decrementReserved t q w.db = some db →
      Performed ch w (.decrementReserved t q pos) { w with db := db } .resolved
  | counterDecremented (u : UserId) (t : TicketTypeId) (q : Int) (pos : 0 < q) (db : Db) :
      decrementCounter u t q w.db = some db →
      Performed ch w (.decrementCounter u t q pos) { w with db := db } .resolved

/-- The value `ensureRedisUserLimit` seeds. -/
theorem counter_sum (db : Db) (u : UserId) (t : TicketTypeId) :
    ((db.counters (u, t)).map fun c => c.paidQty + c.reservedQty).getD 0
      = db.counterPaid u t + db.counterReserved u t := by
  cases h : db.counters (u, t) <;> simp [Db.counterPaid, Db.counterReserved, h]

/-- Every task does one of the things `Performed` lists. -/
theorem perform_performed {w' : World} {t : Task} {res : TaskResult Task}
    (h : perform ch w t = some (w', res)) : Performed ch w t w' res := by
  simp only [perform] at h
  split at h
  · next hf =>
    cases h
    exact .threw t (.inl hf)
  · cases t with
    | ensureRedisStock t =>
        simp only at h
        split at h <;> cases h
        · exact .ended _ rfl
        · exact .looked _ _ rfl rfl (by rintro _ _ _ ⟨⟩)
    | readStockRow t =>
        simp only at h
        split at h <;> cases h
        · exact .ended _ rfl
        · exact .looked _ _ rfl rfl (by rintro _ _ _ ⟨⟩)
    | setNxStock t available => cases h; exact .stockSet t available
    | ensureRedisUserLimit u t =>
        simp only at h
        split at h <;> cases h
        · exact .ended _ rfl
        · exact .looked _ _ rfl rfl (by rintro _ _ _ ⟨⟩)
    | readCounterRow u t =>
        cases h
        refine .looked _ _ rfl rfl ?_
        rintro u' t' c ⟨⟩
        exact counter_sum w.db u t
    | setNxUserLimit u t currentCount => cases h; exact .limitSet u t currentCount
    | releaseReservation site p => cases h; exact .released site p
    | decrementReserved t q pos =>
        simp only at h
        split at h
        · next hd =>
          cases h
          refine .threw _ (.inr (.inl ⟨t, q, pos, rfl, ?_⟩))
          simpa [decrementReserved] using hd
        · next db hd =>
          cases h
          exact .decremented t q pos db hd
    | decrementCounter u t q pos =>
        simp only at h
        split at h
        · next hd =>
          cases h
          refine .threw _ (.inr (.inr ⟨u, t, q, pos, rfl, ?_⟩))
          simpa [decrementCounter] using hd
        · next db hd =>
          cases h
          exact .counterDecremented u t q pos db hd

/-! ## The clock -/

/-- No call moves the clock. -/
theorem asked_now {ch : Choice} {w w' : World} {d : Ask} {prog : Op} (h : Asked ch w d w' prog) :
    w'.now = w.now := by
  cases h <;> rfl

/-- No task takes time. -/
theorem performed_now {ch : Choice} {w w' : World} {t : Task} {res : TaskResult Task}
    (h : Performed ch w t w' res) : w'.now = w.now := by
  cases h <;> rfl

/-! ## Steps of the backend -/

/-- The call that an operation starts with. -/
def Request.call : Request → Ask
  | .createOrder dto u => .createOrder dto u
  | .createPayment o u => .createPaymentUrl .createPayment o u
  | .cancelOrder o u => .cancelOrder o u
  | .expireOrder o => .expireOrder o
  | .webhook dto => .handleMockWebhook dto
  | .verifyStuckPendingPayments => .verifyStuckPendingPayments
  | .ticketIssue job => .issueJob job
  | .updateTicketType t dto u role => .updateTicketType t dto u role

/-- **An operation starts** with one call, a delivery out of a queue included. -/
theorem enter_call {r : Request} {prog : Op} (h : enter w r = some prog) : prog = .ask r.call := by
  cases r with
  | expireOrder o =>
      simp only [enter] at h
      split at h
      · exact (Option.some.inj h).symm
      · cases h
  | ticketIssue job =>
      simp only [enter] at h
      split at h
      · exact (Option.some.inj h).symm
      · cases h
  | _ => exact (Option.some.inj h).symm

/-- A request starts with nothing outstanding. -/
theorem settled_enter {r : Request} {prog : Op} (h : enter w r = some prog) :
    Settled (Request.kind r) prog := by
  rw [enter_call h]
  cases r <;> exact ⟨rfl, rfl⟩

/-! ## Operations stay what they are -/

/-- The program belongs to an operation of kind `k`. -/
def OfKind (k : Kind) (prog : Op) : Prop := prog.All (fun d => Ask.kind d = k) fun _ => True

/-- What is left of an operation is of its kind. -/
theorem Settled.ofKind {k : Kind} {prog : Op} (h : Settled k prog) : OfKind k prog :=
  h.mono (fun _ hd => hd.2) fun _ _ => trivial

/-- A batch is of the kind of what follows it. -/
theorem ofKind_par {k : Kind} {ts : List Task} {h rest : Op} :
    OfKind k (.par ts h rest) ↔ OfKind k h ∧ OfKind k rest := by
  simp [OfKind]

theorem ofKind_rollback (ctx : CreateCtx) (o : OrderId) (e : ApiError) (metas : List TicketMeta) :
    OfKind .createOrder (rollback ctx o e metas) := by
  induction metas with
  | nil => trivial
  | cons m metas ih => exact ofKind_par.mpr ⟨trivial, ih⟩

theorem ofKind_awaitReserve (ctx : CreateCtx) (o : OrderId) (slots : List ReserveSlot) :
    OfKind .createOrder (awaitReserve ctx o slots) := by
  simp only [awaitReserve, afterReserve]
  split
  · split
    · trivial
    · split
      · rfl
      · split
        · trivial
        · split
          · trivial
          · exact ofKind_rollback ctx o _ _
  · rfl

/-- Only createOrder awaits a payment with a compensation. -/
theorem paying_kind {d : Ask} {x : CreateCtx × OrderId × List TicketMeta}
    (h : Ask.paying d = some x) : Ask.kind d = .createOrder := by
  unfold Ask.paying at h
  split at h
  all_goals first
    | rfl
    | cases h

/-- An operation goes on as the operation it is. -/
theorem asked_kind {ch : Choice} {w w' : World} {d : Ask} {prog : Op}
    (h : Asked ch w d w' prog) : OfKind (Ask.kind d) prog := by
  cases h with
  | idle _ _ _ _ _ _ hp => exact hp.ofKind
  | drawn ctx metas => exact ofKind_awaitReserve ..
  | reserveThrew ctx o slots s _ _ => exact ofKind_awaitReserve ..
  | reserved ctx o slots s _ _ _ _ _ => exact ofKind_awaitReserve ..
  | persistFailed ctx o metas => exact ofKind_par.mpr ⟨trivial, trivial⟩
  | syncFailed ctx o metas e _ => exact ofKind_par.mpr ⟨trivial, rfl⟩
  | paying _ ctx o metas _ d' hd _ hk => exact hk.trans (paying_kind hd).symm
  | payingFailed _ ctx o metas e hd _ =>
      rw [paying_kind hd]
      exact ofKind_par.mpr ⟨trivial, ofKind_par.mpr ⟨trivial, rfl⟩⟩
  | cancelling o u order _ _ _ =>
      exact ofKind_par.mpr ⟨trivial, ofKind_par.mpr ⟨trivial, rfl⟩⟩
  | expiring o order _ _ =>
      exact ofKind_par.mpr ⟨trivial, ofKind_par.mpr ⟨trivial, ofKind_par.mpr ⟨trivial, rfl⟩⟩⟩
  | failed order db _ _ => exact ofKind_par.mpr ⟨trivial, trivial⟩
  | enqueued order rest => exact (settled_cronNext rest).ofKind
  | cronExpired order res rest db _ _ =>
      exact ofKind_par.mpr ⟨(settled_cronNext rest).ofKind, (settled_cronNext rest).ofKind⟩
  | typeWritten existing dto db row _ _ _ hp =>
      rcases hp with rfl | ⟨-, -, -, hp⟩
      · rfl
      · exact hp.ofKind
  | stockSeeded row _ hp => exact hp.ofKind
  | _ => trivial

/-- Only operations of the kinds `K` are in flight. -/
def OnlyKinds (K : Kind → Prop) (p : State) : Prop :=
  ∀ prog ∈ p.ops, prog.All (fun d => K (Ask.kind d)) fun _ => True

/-- The call that an operation awaits is of an allowed kind. -/
theorem OnlyKinds.ask {K : Kind → Prop} {p : State} (hp : OnlyKinds K p) {d : Ask}
    (h : .ask d ∈ p.ops) : K (Ask.kind d) :=
  hp _ h

/-- Operations of a kind are in flight only if requests of that kind are allowed. -/
theorem OnlyKinds.step {K : Kind → Prop} {G : Condition} {p q : State} (hp : OnlyKinds K p)
    (hG : ∀ r, G.req p r → K (Request.kind r)) (h : backend.Step G p q) : OnlyKinds K q := by
  refine System.Step.all (J := fun _ d => K (Ask.kind d)) (K := fun _ _ => True) h hp ?_ ?_ ?_ ?_
  · intro r prog hg he
    exact (settled_enter he).mono (fun d hd => hd.2 ▸ hG r hg) fun _ _ => trivial
  · intro ch d w' prog _ hd _ hdec
    exact ⟨(asked_kind (dispatch_asked hdec)).mono (fun d' hd' => hd' ▸ hd) fun _ => id,
      fun _ => id, fun _ => id⟩
  · exact fun _ _ _ _ _ _ _ => ⟨fun _ _ => trivial, fun _ => id, fun _ => id⟩
  · exact fun _ _ => ⟨fun _ => id, fun _ => id⟩

/-- With nobody in flight there is nothing to check. -/
theorem OnlyKinds.of_nil {K : Kind → Prop} {p : State} (h : p.ops = []) : OnlyKinds K p := by
  intro prog hp
  rw [h] at hp
  cases hp

end TicketBackend
