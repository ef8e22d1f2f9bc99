import TicketBox.Cells
import TicketBox.OneByOne

/-! # Payment rows

    Eight calls write rows of `PaymentTransaction`.  `Ask.books` says what a call
    makes of them and `Posted` what one step does to orders and payments
    together, so that the two tables can be compared after it.  `Knows` is what a
    call can rely on when nobody else has written since its operation read the
    order; along runs of operations that do not overlap it holds of every call
    in flight (`dispatch_knows`). -/

namespace TicketBackend

open Interleave TicketStore TicketRedis TicketDb TicketFlow TicketOrder TicketPayment
  TicketServices

/-! ## What a call makes of the payment rows -/

/-- The payment rows with one row more. -/
def withPayment (o : OrderId) (status : PaymentStatus) (amount : Int)
    (ptid : Option ProviderTransactionId) (url : Option String)
    (payments : List PaymentTransaction) : List PaymentTransaction :=
  payments ++ [{ id := payments.length, orderId := o, status := status, amount := amount,
                 providerTransactionId := ptid, paymentUrl := url }]

/-- The payment rows after an upsert by provider transaction id. -/
def upsertedPayments (dto : MockWebhookDto) (create : PaymentStatus)
    (update : Option PaymentStatus) (payments : List PaymentTransaction) :
    List PaymentTransaction :=
  if payments.any (fun p => p.providerTransactionId = some dto.providerTransactionId) then
    payments.map fun p =>
      if p.providerTransactionId = some dto.providerTransactionId then
        { p with status := update.getD p.status } else p
  else
    payments ++ [{ id := payments.length, orderId := dto.orderId, status := create,
                   amount := dto.amount,
                   providerTransactionId := some dto.providerTransactionId, paymentUrl := none }]

/-- The INITIATED rows of the order as FAILED. -/
def refusedPayments (o : OrderId) (payments : List PaymentTransaction) :
    List PaymentTransaction :=
  payments.map fun p =>
    if p.orderId = o ∧ p.status = .initiated then { p with status := .failed } else p

/-- The payment rows with a URL in the INITIATED row, or in a new one. -/
def urlPayments (o : OrderId) (amount : Int) (existing : Option PaymentTransaction)
    (url : String) (payments : List PaymentTransaction) : List PaymentTransaction :=
  match existing with
  | some p => payments.map fun r => if r.id = p.id then { r with paymentUrl := some url } else r
  | none => withPayment o .initiated amount none (some url) payments

/-- The payment rows after the call, if it goes through. -/
def Ask.books : Ask → List PaymentTransaction → List PaymentTransaction
  | .savePaymentUrl _ o amount existing url => urlPayments o amount existing url
  | .recordLateWebhook dto _ => upsertedPayments dto (lateStatus dto.result) none
  | .handlePaymentTimeout dto => upsertedPayments dto .timeout (some .timeout)
  | .failedCommit order => refusedPayments order.id
  | .successCommit dto _ _ => upsertedPayments dto .success (some .success)
  | .cronPaidCommit order _ => withPayment order.id .success order.totalAmountInVnd none none
  | .cronExpireCommit order res _ =>
      withPayment order.id (if res = .failed then .failed else .timeout)
        order.totalAmountInVnd none none
  | _ => id

/-- A payment's upsert rewrites payments only. -/
theorem upsertPayment_books {dto : MockWebhookDto} {create : PaymentStatus}
    {update : Option PaymentStatus} {db db' : Db} (h : upsertPayment dto create update db = some db') :
    db' = { db with payments := upsertedPayments dto create update db.payments } := by
  simp only [upsertPayment, insertPayment] at h
  simp only [upsertedPayments]
  split at h
  · next hany =>
    cases h
    rw [if_pos hany]
  · next hany =>
    obtain ⟨row, -, rfl⟩ := Option.map_eq_some_iff.mp h
    rw [if_neg hany]

/-- It succeeds where the order is there. -/
theorem upsertPayment_eq {dto : MockWebhookDto} {create : PaymentStatus}
    {update : Option PaymentStatus} {db : Db} (h : (db.findOrder dto.orderId).isSome) :
    upsertPayment dto create update db
      = some { db with payments := upsertedPayments dto create update db.payments } := by
  obtain ⟨row, hrow⟩ := Option.isSome_iff_exists.mp h
  simp only [upsertPayment, upsertedPayments, insertPayment, hrow, Option.map_some]
  split
  · rfl
  · rfl

/-- So does an insert. -/
theorem insertPayment_books {o : OrderId} {s : PaymentStatus} {a : Int}
    {x : Option ProviderTransactionId} {url : Option String} {db db' : Db}
    (h : insertPayment o s a x url db = some db') :
    db' = { db with payments := withPayment o s a x url db.payments } := by
  obtain ⟨row, -, rfl⟩ := Option.map_eq_some_iff.mp h
  rfl

/-- So does the write of a url. -/
theorem writePaymentUrl_books {o : OrderId} {amount : Int} {existing : Option PaymentTransaction}
    {url : String} {db db' : Db} (h : writePaymentUrl o amount existing url db = some db') :
    db' = { db with payments := urlPayments o amount existing url db.payments } := by
  cases existing with
  | none => exact insertPayment_books h
  | some p =>
      simp only [writePaymentUrl, setPaymentUrl] at h
      split at h
      · cases h
        rfl
      · cases h

/-! ## Statements that leave orders and payments alone -/

/-- The two stores have the same order rows and the same payment rows. -/
def SameBooks (db db' : Db) : Prop := db'.orders = db.orders ∧ db'.payments = db.payments

/-- The books are the same as themselves. -/
theorem SameBooks.refl (db : Db) : SameBooks db db := ⟨rfl, rfl⟩

/-- And along a chain. -/
theorem SameBooks.trans {a b c : Db} (h₁ : SameBooks a b) (h₂ : SameBooks b c) : SameBooks a c :=
  ⟨h₂.1.trans h₁.1, h₂.2.trans h₁.2⟩

theorem upsertPaid_books (u : UserId) (t : TicketTypeId) (q : Int) (db : Db) :
    SameBooks db (upsertPaid u t q db) := by
  simp only [upsertPaid]
  split <;> exact .refl db

theorem upsertAllPaid_books (u : UserId) (items : List OrderItem) (db : Db) :
    SameBooks db (upsertAllPaid u items db) := by
  induction items generalizing db with
  | nil => exact .refl db
  | cons i items ih => exact (upsertPaid_books ..).trans (ih _)

theorem releaseGuarded_books (u : UserId) (t : TicketTypeId) (q : Int) (db : Db) :
    SameBooks db (releaseGuarded u t q db) := by
  have htype : SameBooks db (releaseType t q db) := by
    simp only [releaseType]
    repeat' split
    all_goals exact .refl db
  refine htype.trans ?_
  simp only [releaseGuarded, releaseCounter]
  repeat' split
  all_goals exact .refl _

theorem releaseAllGuarded_books (u : UserId) (items : List OrderItem) (db : Db) :
    SameBooks db (releaseAllGuarded u items db) := by
  induction items generalizing db with
  | nil => exact .refl db
  | cons i items ih => exact (releaseGuarded_books ..).trans (ih _)

theorem moveToSold_books {t : TicketTypeId} {q : Int} {db db' : Db}
    (h : moveToSold t q db = some db') : SameBooks db db' := by
  obtain ⟨row, -, rfl⟩ := Option.map_eq_some_iff.mp h
  exact .refl db

theorem moveAllToSold_books {items : List OrderItem} {db db' : Db}
    (h : moveAllToSold items db = some db') : SameBooks db db' := by
  induction items generalizing db with
  | nil =>
      cases h
      exact .refl _
  | cons i items ih =>
      obtain ⟨mid, hmid, hrest⟩ := Option.bind_eq_some_iff.mp h
      exact (moveToSold_books hmid).trans (ih hrest)

theorem issueTickets_books (order : Order) (item : OrderItem) (n : Nat) (db : Db) :
    SameBooks db (issueTickets order item n db) := by
  induction n generalizing db with
  | zero => exact .refl db
  | succ n ih =>
      simp only [issueTickets]
      exact .trans (.refl db) (ih _)

theorem commitIssue_books {order : Order} {items : List OrderItem} {db db' : Db}
    (h : commitIssue order items db = some db') : SameBooks db db' := by
  induction items generalizing db with
  | nil =>
      cases h
      exact .refl _
  | cons i items ih =>
      simp only [commitIssue, Option.bind_eq_bind, Option.bind_eq_some_iff] at h
      obtain ⟨mid, hmid, hrest⟩ := h
      exact (((moveToSold_books hmid).trans (upsertPaid_books ..)).trans
        (issueTickets_books ..)).trans (ih hrest)

theorem syncInventory_books {u : UserId} {metas : List TicketMeta} {db db' : Db}
    (h : TicketDb.syncInventory u metas db = .ok db') : SameBooks db db' := by
  induction metas generalizing db with
  | nil =>
      cases h
      exact .refl _
  | cons m metas ih =>
      simp only [TicketDb.syncInventory, reserveInventory] at h
      split at h
      · cases h
      · next mid hmid =>
        refine SameBooks.trans ?_ (ih h)
        split at hmid
        · cases hmid
        · split at hmid
          · cases hmid
            simp only [upsertReserved]
            split <;> exact .refl db
          · cases hmid

theorem writeTicketType_books {t : TicketTypeId} {f : TicketType → TicketType} {db db' : Db}
    (h : TicketDb.writeTicketType t f db = .ok db') : SameBooks db db' := by
  simp only [TicketDb.writeTicketType] at h
  split at h
  · cases h
  · split at h
    · cases h
    · cases h
      exact .refl db

/-- A task of a batch leaves orders and payments alone. -/
theorem performed_books {ch : Choice} {w w' : World} {t : Task} {res : TaskResult Task}
    (h : Performed ch w t w' res) : SameBooks w.db w'.db := by
  cases h with
  | decremented t q pos db hdb =>
      obtain ⟨row, -, rfl⟩ := Option.map_eq_some_iff.mp hdb
      exact .refl w.db
  | counterDecremented u t q pos db hdb =>
      obtain ⟨row, -, rfl⟩ := Option.map_eq_some_iff.mp hdb
      exact .refl w.db
  | _ => exact .refl w.db

/-! ## Orders and payments under one call -/

/-- What an awaited call does to orders and payments. -/
inductive Posted (ch : Choice) (w w' : World) (d : Ask) : Prop where
  | kept : SameBooks w.db w'.db → Posted ch w w' d
  | inserted (ctx : CreateCtx) (o : OrderId) (metas : List TicketMeta) :
      ch.fails = false → d = .persistOrder ctx o metas →
      insertOrder (newOrder ctx o metas) w.db = some w'.db → Posted ch w w' d
  | deleted (o : OrderId) :
      ch.fails = false → Ask.deletes d = some o → TicketDb.deleteOrder o w.db = .ok w'.db →
      Posted ch w w' d
  | set (o : OrderId) (s : OrderStatus) :
      ch.fails = false → Ask.sets d = some (o, s) → OrderSet o s w.db w'.db →
      w'.db.payments = Ask.books d w.db.payments → Posted ch w w' d
  | noted : ch.fails = false → Ask.sets d = none → w'.db.orders = w.db.orders →
      w'.db.payments = Ask.books d w.db.payments → Posted ch w w' d

section

variable {ch : Choice} {w : World}

theorem posted_persistOrder (ctx : CreateCtx) (o : OrderId) (metas : List TicketMeta) :
    Posted ch w (TicketOrder.persistOrder ctx o metas ch w).1 (.persistOrder ctx o metas) := by
  simp only [TicketOrder.persistOrder]
  split
  · next db hdb =>
    obtain ⟨hf, hdb⟩ := by simpa using hdb
    exact .inserted ctx o metas hf rfl hdb
  · exact .kept (.refl w.db)

theorem posted_syncInventory (ctx : CreateCtx) (o : OrderId) (metas : List TicketMeta) :
    Posted ch w (TicketOrder.syncInventory ctx o metas ch w).1 (.syncInventory ctx o metas) := by
  simp only [TicketOrder.syncInventory]
  split
  · exact .kept (.refl w.db)
  · split
    · next db hdb => exact .kept (syncInventory_books hdb)
    · exact .kept (.refl w.db)

theorem posted_deleteOrderQuietly (o : OrderId) (e : ApiError) :
    Posted ch w (TicketOrder.deleteOrderQuietly o e ch w).1 (.deleteOrderQuietly o e) := by
  simp only [TicketOrder.deleteOrderQuietly]
  split
  · exact .kept (.refl w.db)
  · next hf =>
    split
    · next db hdb => exact .deleted o (by simpa using hf) rfl hdb
    · exact .kept (.refl w.db)

theorem posted_deleteOrder (o : OrderId) (e : ApiError) :
    Posted ch w (TicketOrder.deleteOrder o e ch w).1 (.deleteOrder o e) := by
  simp only [TicketOrder.deleteOrder]
  split
  · exact .kept (.refl w.db)
  · next hf =>
    split
    · next db hdb => exact .deleted o (by simpa using hf) rfl hdb
    · exact .kept (.refl w.db)

theorem posted_savePaymentUrl (caller : PaymentCaller) (o : OrderId) (amount : Int)
    (existing : Option PaymentTransaction) (url : String) :
    Posted ch w (TicketPayment.savePaymentUrl caller o amount existing url ch w).1
      (.savePaymentUrl caller o amount existing url) := by
  simp only [TicketPayment.savePaymentUrl]
  split
  · exact .kept (.refl w.db)
  · next db hdb =>
    obtain ⟨hf, hdb⟩ := by simpa using hdb
    obtain rfl := writePaymentUrl_books hdb
    exact .noted hf rfl rfl rfl

theorem posted_markCancelled (order : Order) :
    Posted ch w (TicketOrder.markCancelled order ch w).1 (.markCancelled order) := by
  simp only [TicketOrder.markCancelled]
  split
  · exact .kept (.refl w.db)
  · next db hdb =>
    obtain ⟨hf, hdb⟩ := by simpa using hdb
    refine .set order.id .cancelled hf rfl (commitCancelled_set hdb).1 ?_
    obtain ⟨row, -, rfl⟩ := Option.map_eq_some_iff.mp hdb
    rfl

theorem posted_markExpired (order : Order) :
    Posted ch w (TicketOrder.markExpired order ch w).1 (.markExpired order) := by
  simp only [TicketOrder.markExpired]
  split
  · exact .kept (.refl w.db)
  · next db hdb =>
    obtain ⟨hf, hdb⟩ := by simpa using hdb
    refine .set order.id .expired hf rfl (commitExpired_set hdb).1 ?_
    obtain ⟨row, -, rfl⟩ := Option.map_eq_some_iff.mp hdb
    rfl

theorem posted_recordLateWebhook (dto : MockWebhookDto) (message : String) :
    Posted ch w (TicketPayment.recordLateWebhook dto message ch w).1
      (.recordLateWebhook dto message) := by
  simp only [TicketPayment.recordLateWebhook]
  split
  · exact .kept (.refl w.db)
  · next db hdb =>
    obtain ⟨hf, hdb⟩ := by simpa using hdb
    obtain rfl := upsertPayment_books hdb
    exact .noted hf rfl rfl rfl

theorem posted_handlePaymentTimeout (dto : MockWebhookDto) :
    Posted ch w (TicketPayment.handlePaymentTimeout dto ch w).1 (.handlePaymentTimeout dto) := by
  simp only [TicketPayment.handlePaymentTimeout]
  split
  · exact .kept (.refl w.db)
  · next db hdb =>
    obtain ⟨hf, hdb⟩ := by simpa using hdb
    obtain rfl := upsertPayment_books hdb
    exact .noted hf rfl rfl rfl

theorem posted_failedCommit (order : Order) :
    Posted ch w (TicketPayment.failedCommit order ch w).1 (.failedCommit order) := by
  simp only [TicketPayment.failedCommit]
  split
  · exact .kept (.refl w.db)
  · next db hdb =>
    obtain ⟨hf, hdb⟩ := by simpa using hdb
    refine .set order.id .paymentFailed hf rfl (commitFailed_released hdb).set ?_
    simp only [commitFailed, Option.bind_eq_bind, Option.bind_eq_some_iff, Option.some.injEq] at hdb
    obtain ⟨mid, hmid, rfl⟩ := hdb
    obtain ⟨row, -, rfl⟩ := Option.map_eq_some_iff.mp hmid
    exact (releaseAllGuarded_books ..).2

theorem posted_successCommit (dto : MockWebhookDto) (order : Order) (gateName : String) :
    Posted ch w (TicketPayment.successCommit dto order gateName ch w).1
      (.successCommit dto order gateName) := by
  simp only [TicketPayment.successCommit]
  split
  · exact .kept (.refl w.db)
  · next db hdb =>
    obtain ⟨hf, hdb⟩ := by simpa using hdb
    refine .set dto.orderId .paid hf rfl (commitSuccess_issued hdb).1 ?_
    simp only [commitSuccess, Option.bind_eq_bind, Option.bind_eq_some_iff, Option.some.injEq] at hdb
    obtain ⟨db₁, h₁, db₂, h₂, db₃, h₃, rfl⟩ := hdb
    obtain rfl := upsertPayment_books h₁
    obtain ⟨row, -, rfl⟩ := Option.map_eq_some_iff.mp h₂
    exact (upsertAllPaid_books ..).2.trans (moveAllToSold_books h₃).2

theorem posted_cronPaidCommit (order : Order) (rest : List Order) :
    Posted ch w (TicketPayment.cronPaidCommit order rest ch w).1 (.cronPaidCommit order rest) := by
  simp only [TicketPayment.cronPaidCommit]
  split
  · exact .kept (.refl w.db)
  · next db hdb =>
    obtain ⟨hf, hdb⟩ := by simpa using hdb
    refine .set order.id .paid hf rfl (commitCronPaid_set hdb).1 ?_
    simp only [commitCronPaid, Option.bind_eq_bind, Option.bind_eq_some_iff] at hdb
    obtain ⟨mid, hmid, hset⟩ := hdb
    obtain rfl := insertPayment_books hmid
    obtain ⟨row, -, rfl⟩ := Option.map_eq_some_iff.mp hset
    rfl

theorem posted_cronExpireCommit (order : Order) (res : VerifyResult) (rest : List Order) :
    Posted ch w (TicketPayment.cronExpireCommit order res rest ch w).1
      (.cronExpireCommit order res rest) := by
  simp only [TicketPayment.cronExpireCommit]
  split
  · exact .kept (.refl w.db)
  · next db hdb =>
    obtain ⟨hf, hdb⟩ := by simpa using hdb
    refine .set order.id res.orderStatus hf rfl (commitCronExpire_released hdb).set ?_
    simp only [commitCronExpire, Option.bind_eq_bind, Option.bind_eq_some_iff,
      Option.some.injEq] at hdb
    obtain ⟨mid, hmid, db₂, h₂, rfl⟩ := hdb
    obtain ⟨row, -, rfl⟩ := Option.map_eq_some_iff.mp hmid
    obtain rfl := insertPayment_books h₂
    exact (releaseAllGuarded_books ..).2

theorem posted_issueCommit (job : TicketIssueJob) (order : Order) :
    Posted ch w (TicketServices.issueCommit job order ch w).1 (.issueCommit job order) := by
  simp only [TicketServices.issueCommit]
  split
  · exact .kept (.refl w.db)
  · next db hdb =>
    obtain ⟨hf, hdb⟩ := by simpa using hdb
    exact .kept (commitIssue_books hdb)

theorem posted_writeTicketType (existing : TicketType) (dto : UpdateTicketTypeDto) :
    Posted ch w (TicketServices.writeTicketType existing dto ch w).1
      (.writeTicketType existing dto) := by
  simp only [TicketServices.writeTicketType]
  split
  · exact .kept (.refl w.db)
  · split
    · exact .kept (.refl w.db)
    · next db hdb =>
      split
      · exact .kept (.refl w.db)
      · exact .kept (writeTicketType_books hdb)

theorem posted_setSoldOut (row : TicketType) :
    Posted ch w (TicketServices.setSoldOut row ch w).1 (.setSoldOut row) := by
  simp only [TicketServices.setSoldOut]
  split
  · exact .kept (.refl w.db)
  · split
    · exact .kept (.refl w.db)
    · next db hdb => exact .kept (writeTicketType_books hdb)

end

/-- The inversion of a call for the two tables. -/
theorem dispatch_posted {ch : Choice} {w w' : World} {d : Ask} {prog : Op}
    (h : dispatch ch w d = some (w', prog)) : Posted ch w w' d := by
  -- calls that answer in every state
  have hsome : ∀ {x : World × Op}, some x = some (w', prog) → Posted ch w x.1 d →
      Posted ch w w' d := by
    rintro x ⟨⟩ hx
    exact hx
  -- calls that write Redis, a queue or nothing
  have hsame : ∀ {x : World × Op}, some x = some (w', prog) → x.1.db = w.db → Posted ch w w' d := by
    rintro x ⟨⟩ hx
    refine .kept ?_
    rw [hx]
    exact .refl w.db
  cases d with
  | reserveTickets ctx o slots =>
      refine .kept ?_
      cases dispatch_asked h with
      | idle _ _ _ _ _ howes _ => cases howes
      | paying _ _ _ _ _ _ hp _ _ => cases hp
      | payingFailed _ _ _ _ _ hp _ => cases hp
      | deleted _ _ _ _ hd _ _ => rcases hd with hd | hd <;> cases hd
      | _ => exact .refl w.db
  | persistOrder ctx o metas => exact hsome h (posted_persistOrder ctx o metas)
  | syncInventory ctx o metas => exact hsome h (posted_syncInventory ctx o metas)
  | deleteOrderQuietly o e => exact hsome h (posted_deleteOrderQuietly o e)
  | deleteOrder o e => exact hsome h (posted_deleteOrder o e)
  | savePaymentUrl caller o amount existing url =>
      exact hsome h (posted_savePaymentUrl caller o amount existing url)
  | markCancelled order => exact hsome h (posted_markCancelled order)
  | markExpired order => exact hsome h (posted_markExpired order)
  | recordLateWebhook dto message => exact hsome h (posted_recordLateWebhook dto message)
  | handlePaymentTimeout dto => exact hsome h (posted_handlePaymentTimeout dto)
  | failedCommit order => exact hsome h (posted_failedCommit order)
  | successCommit dto order gateName => exact hsome h (posted_successCommit dto order gateName)
  | cronPaidCommit order rest => exact hsome h (posted_cronPaidCommit order rest)
  | cronExpireCommit order res rest => exact hsome h (posted_cronExpireCommit order res rest)
  | issueCommit job order => exact hsome h (posted_issueCommit job order)
  | writeTicketType existing dto => exact hsome h (posted_writeTicketType existing dto)
  | setSoldOut row => exact hsome h (posted_setSoldOut row)
  | scheduleExpiry ctx o url =>
      refine hsame h ?_
      simp only [TicketOrder.scheduleExpiry]
      split <;> rfl
  | delReservation order =>
      refine hsame h ?_
      simp only [TicketPayment.delReservation]
      split <;> rfl
  | sendOrderPaidEmail order =>
      refine hsame h ?_
      simp only [TicketPayment.sendOrderPaidEmail]
      split <;> rfl
  | enqueueTicketIssue order rest =>
      refine hsame h ?_
      simp only [TicketPayment.enqueueTicketIssue]
      split <;> rfl
  | completeJob job answer =>
      refine hsame h ?_
      simp only [TicketServices.completeJob]
      split <;> rfl
  | seedStock row =>
      refine hsame h ?_
      simp only [TicketServices.seedStock]
      split <;> rfl
  | _ => exact hsame h rfl

/-! ## What a call knows about its order -/

/-- The order a call is about and the status its operation found it in. -/
def Ask.found : Ask → Option (OrderId × OrderStatus)
  | .callGateway _ o _ _ | .savePaymentUrl _ o _ _ _ => some (o, .pendingPayment)
  | .markCancelled order | .markExpired order | .failedCommit order
  | .cronPaidCommit order _ | .cronExpireCommit order _ _ => some (order.id, .pendingPayment)
  | .handlePaymentTimeout dto | .findGates dto _ | .countGateTickets dto _ _
  | .successCommit dto _ _ => some (dto.orderId, .pendingPayment)
  | .recordLateWebhook dto _ => some (dto.orderId, .expired)
  | _ => none

/-- The order stands in this status. -/
def Stands (db : Db) (o : OrderId) (s : OrderStatus) : Prop :=
  ∃ row, db.findOrder o = some row ∧ row.status = s

instance (db : Db) (o : OrderId) (s : OrderStatus) : Decidable (Stands db o s) :=
  decidable_of_iff ((db.findOrder o).any (fun row => decide (row.status = s)) = true)
    (by simp [Stands, Option.any_eq_true])

/-- The order of the call is still as its operation found it. -/
def Knows (w : World) (d : Ask) : Prop := ∀ x ∈ Ask.found d, Stands w.db x.1 x.2

/-- Every call of the program knows its order. -/
def OpKnows (w : World) (prog : Op) : Prop := prog.All (Knows w) fun _ => True

/-- A status stands by the orders only. -/
theorem Stands.of_orders {db db' : Db} (ho : db'.orders = db.orders) {o : OrderId}
    {s : OrderStatus} (h : Stands db o s) : Stands db' o s := by
  obtain ⟨row, hrow, hs⟩ := h
  refine ⟨row, ?_, hs⟩
  simpa only [Db.findOrder, ho] using hrow

/-- An order stands in one status. -/
theorem Stands.status {db : Db} {o : OrderId} {s : OrderStatus} (h : Stands db o s) {row : Order}
    (hrow : db.findOrder o = some row) : row.status = s := by
  obtain ⟨row', hrow', hs⟩ := h
  rw [hrow] at hrow'
  cases hrow'
  exact hs

/-- So does what an operation knows. -/
theorem Knows.of_orders {w w' : World} (ho : w'.db.orders = w.db.orders) {d : Ask}
    (h : Knows w d) : Knows w' d :=
  fun x hx => (h x hx).of_orders ho

/-- A call that has found nothing knows nothing. -/
theorem knows_of_none {w : World} {d : Ask} (h : Ask.found d = none) : Knows w d := by
  intro x hx
  rw [h] at hx
  cases hx

/-- A call knows the status it has found. -/
theorem knows_of_some {w : World} {d : Ask} {o : OrderId} {s : OrderStatus}
    (hd : Ask.found d = some (o, s)) (h : Stands w.db o s) : Knows w d := by
  intro x hx
  rw [hd] at hx
  cases hx
  exact h

/-- The next call is about the same order. -/
theorem Knows.next {w : World} {d d' : Ask} (h : Knows w d) (hd : Ask.found d' = Ask.found d) :
    Knows w d' := by
  intro x hx
  rw [hd] at hx
  exact h x hx

/-- A batch knows what follows it. -/
theorem opKnows_par {w : World} {ts : List Task} {h rest : Op} :
    OpKnows w (.par ts h rest) ↔ OpKnows w h ∧ OpKnows w rest := by
  simp [OpKnows]

theorem opKnows_cronNext (w : World) (l : List Order) : OpKnows w (cronNext l) := by
  cases l with
  | nil => trivial
  | cons order rest => exact knows_of_none rfl

theorem opKnows_paymentError (w : World) (caller : PaymentCaller) (o : OrderId) (e : ApiError) :
    OpKnows w (paymentError caller o e) := by
  cases caller with
  | createPayment => trivial
  | createOrder ctx metas =>
      exact opKnows_par.mpr ⟨trivial, opKnows_par.mpr ⟨trivial, knows_of_none rfl⟩⟩

theorem opKnows_paymentDone (w : World) (caller : PaymentCaller) (o : OrderId) (url : String)
    (reused : Bool) : OpKnows w (paymentDone caller o url reused) := by
  cases caller with
  | createPayment => trivial
  | createOrder ctx metas => exact knows_of_none rfl

theorem opKnows_awaitReserve (w : World) (ctx : CreateCtx) (o : OrderId)
    (slots : List ReserveSlot) : OpKnows w (awaitReserve ctx o slots) :=
  all_awaitReserve (knows_of_none rfl) (fun _ => knows_of_none rfl) fun _ _ _ _ _ => trivial

theorem opKnows_createPaymentUrl (caller : PaymentCaller) (o : OrderId) (u : UserId) (w : World) :
    OpKnows w (TicketPayment.createPaymentUrl caller o u w) := by
  simp only [TicketPayment.createPaymentUrl]
  split
  · exact opKnows_paymentError ..
  · next order horder =>
    split
    · exact opKnows_paymentError ..
    · split
      · exact opKnows_paymentError ..
      · next hstatus =>
        have hstands : Stands w.db o .pendingPayment := ⟨order, horder, not_not.mp hstatus⟩
        repeat' split
        all_goals first
          | exact opKnows_paymentDone ..
          | exact knows_of_some rfl hstands

theorem opKnows_handleMockWebhook (dto : MockWebhookDto) (w : World) :
    OpKnows w (TicketPayment.handleMockWebhook dto w) := by
  simp only [TicketPayment.handleMockWebhook]
  split
  · trivial
  · split
    · trivial
    · next order horder =>
      split
      · trivial
      · split
        · trivial
        · next hstatus => exact knows_of_some rfl ⟨order, horder, hstatus⟩
        · next hstatus =>
          split
          · exact knows_of_none rfl
          · exact knows_of_some rfl ⟨order, horder, hstatus⟩
          · exact knows_of_some rfl ⟨order, horder, hstatus⟩
        · trivial

theorem opKnows_cancelOrder (o : OrderId) (u : UserId) (w : World) :
    OpKnows w (TicketOrder.cancelOrder o u w) := by
  simp only [TicketOrder.cancelOrder]
  split
  · trivial
  · next order horder =>
    have hid : order.id = o := RowTable.lookup_key horder
    split
    · trivial
    · split
      · trivial
      · next hstatus =>
        refine opKnows_par.mpr ⟨trivial, opKnows_par.mpr ⟨trivial, ?_⟩⟩
        exact knows_of_some rfl ⟨order, by rw [hid]; exact horder, not_not.mp hstatus⟩

theorem opKnows_expireOrder (o : OrderId) (w : World) :
    OpKnows w (TicketOrder.expireOrder o w) := by
  simp only [TicketOrder.expireOrder]
  split
  · trivial
  · next order horder =>
    have hid : order.id = o := RowTable.lookup_key horder
    split
    · trivial
    · next hstatus =>
      split
      · trivial
      · refine opKnows_par.mpr ⟨trivial, opKnows_par.mpr ⟨trivial, opKnows_par.mpr ⟨trivial, ?_⟩⟩⟩
        exact knows_of_some rfl ⟨order, by rw [hid]; exact horder, not_not.mp hstatus⟩

/-- The calls of these operations rely on nothing they have read of an order's status. -/
def Kind.trusting : Kind → Bool
  | .ticketIssue | .updateTicketType => false
  | _ => true

/-- Only some operations trust what they found. -/
theorem found_of_not_trusting {d : Ask} (h : (Ask.kind d).trusting = false) :
    Ask.found d = none := by
  cases d with
  | callGateway caller _ _ _ => cases caller <;> cases h
  | savePaymentUrl caller _ _ _ _ => cases caller <;> cases h
  | _ =>
      first
        | rfl
        | cases h

/-- **A call goes on with what it knows**, or with what it has just read. -/
theorem dispatch_knows {ch : Choice} {w w' : World} {d : Ask} {prog : Op}
    (h : dispatch ch w d = some (w', prog)) (hd : Knows w d) : OpKnows w' prog := by
  by_cases hk : (Ask.kind d).trusting = false
  · refine (asked_kind (dispatch_asked h)).mono (fun d' hd' => ?_) fun _ => id
    exact knows_of_none (found_of_not_trusting (hd' ▸ hk))
  -- calls that answer in every state, and those that may throw instead
  have hsome : ∀ {x : World × Op}, some x = some (w', prog) → (∀ w, OpKnows w x.2) →
      OpKnows w' prog := by
    rintro x ⟨⟩ hx
    exact hx _
  have hhere : ∀ {q : Op}, some (w, q) = some (w', prog) → OpKnows w q → OpKnows w' prog := by
    rintro q ⟨⟩ hq
    exact hq
  have hreads : ∀ {q : Op}, reads ch w q = some (w', prog) → OpKnows w q → OpKnows w' prog :=
    fun hq => prop_of_reads (P := fun w prog => OpKnows w prog) hq trivial
  cases d with
  | createOrder dto u => exact hhere h (knows_of_none rfl)
  | validateTicketType ctx todo metas =>
      refine hreads h ?_
      cases todo with
      | nil => exact opKnows_par.mpr ⟨trivial, knows_of_none rfl⟩
      | cons item todo =>
          simp only [validateNext]
          split
          · trivial
          · exact knows_of_none rfl
  | randomUUID ctx metas => exact hsome h fun w => opKnows_awaitReserve w ctx _ _
  | reserveTickets ctx o slots =>
      simp only [dispatch, TicketOrder.reserveTickets] at h
      split at h
      · cases h
      · split at h
        · cases h
        · split at h
          · exact hsome h fun w => opKnows_awaitReserve w ctx _ _
          · exact hsome h fun w => opKnows_awaitReserve w ctx _ _
  | persistOrder ctx o metas =>
      refine hsome h fun w => ?_
      simp only [TicketOrder.persistOrder]
      split
      · exact knows_of_none rfl
      · exact opKnows_par.mpr ⟨trivial, trivial⟩
  | syncInventory ctx o metas =>
      refine hsome h fun w => ?_
      simp only [TicketOrder.syncInventory]
      repeat' split
      all_goals first
        | exact knows_of_none rfl
        | exact opKnows_par.mpr ⟨trivial, knows_of_none rfl⟩
  | deleteOrderQuietly o e =>
      refine hsome h fun w => ?_
      simp only [TicketOrder.deleteOrderQuietly]
      repeat' split
      all_goals trivial
  | deleteOrder o e =>
      refine hsome h fun w => ?_
      simp only [TicketOrder.deleteOrder]
      repeat' split
      all_goals trivial
  | scheduleExpiry ctx o url =>
      refine hsome h fun w => ?_
      simp only [TicketOrder.scheduleExpiry]
      split <;> trivial
  | createPaymentUrl caller o u =>
      refine hhere h ?_
      split
      · exact opKnows_paymentError ..
      · exact opKnows_createPaymentUrl ..
  | callGateway caller o amount existing =>
      refine hhere h ?_
      simp only [TicketPayment.callGateway]
      split
      · exact opKnows_paymentError ..
      · exact Knows.next hd rfl
  | savePaymentUrl caller o amount existing url =>
      refine hsome h fun w => ?_
      simp only [TicketPayment.savePaymentUrl]
      split
      · exact opKnows_paymentError ..
      · exact opKnows_paymentDone ..
  | cancelOrder o u => exact hreads h (opKnows_cancelOrder o u w)
  | markCancelled order =>
      refine hsome h fun w => ?_
      simp only [TicketOrder.markCancelled]
      split <;> trivial
  | expireOrder o => exact hreads h (opKnows_expireOrder o w)
  | markExpired order =>
      refine hsome h fun w => ?_
      simp only [TicketOrder.markExpired]
      split <;> trivial
  | handleMockWebhook dto => exact hreads h (opKnows_handleMockWebhook dto w)
  | recordLateWebhook dto message =>
      refine hsome h fun w => ?_
      simp only [TicketPayment.recordLateWebhook]
      split <;> trivial
  | handlePaymentTimeout dto =>
      refine hsome h fun w => ?_
      simp only [TicketPayment.handlePaymentTimeout]
      split <;> trivial
  | failedCheck order =>
      refine hreads h ?_
      simp only [TicketPayment.failedCheck]
      split
      · next latest hlatest =>
        split
        · next hstatus => exact knows_of_some rfl ⟨latest, hlatest, hstatus⟩
        · exact opKnows_par.mpr ⟨trivial, trivial⟩
      · exact opKnows_par.mpr ⟨trivial, trivial⟩
  | failedCommit order =>
      refine hsome h fun w => ?_
      simp only [TicketPayment.failedCommit]
      split
      · trivial
      · exact opKnows_par.mpr ⟨trivial, trivial⟩
  | findGates dto order =>
      refine hreads h ?_
      simp only [TicketPayment.findGates]
      split <;> exact Knows.next hd rfl
  | countGateTickets dto order gates => exact hreads h (Knows.next hd rfl)
  | successCommit dto order gateName =>
      refine hsome h fun w => ?_
      simp only [TicketPayment.successCommit]
      split
      · trivial
      · exact knows_of_none rfl
  | delReservation order =>
      refine hsome h fun w => ?_
      simp only [TicketPayment.delReservation]
      split
      · trivial
      · exact knows_of_none rfl
  | sendOrderPaidEmail order =>
      refine hsome h fun w => ?_
      simp only [TicketPayment.sendOrderPaidEmail]
      split <;> trivial
  | verifyStuckPendingPayments => exact hreads h (opKnows_cronNext w _)
  | verifyTransaction order rest =>
      refine hreads h ?_
      simp only [TicketPayment.verifyTransaction]
      split <;> exact knows_of_none rfl
  | cronPaidCheck order rest =>
      refine hreads h ?_
      simp only [TicketPayment.cronPaidCheck]
      split
      · next latest hlatest =>
        split
        · next hstatus => exact knows_of_some rfl ⟨latest, hlatest, hstatus⟩
        · exact knows_of_none rfl
      · exact knows_of_none rfl
  | cronPaidCommit order rest =>
      refine hsome h fun w => ?_
      simp only [TicketPayment.cronPaidCommit]
      split
      · trivial
      · exact knows_of_none rfl
  | enqueueTicketIssue order rest =>
      refine hsome h fun w => ?_
      simp only [TicketPayment.enqueueTicketIssue]
      split
      · trivial
      · exact opKnows_cronNext w rest
  | cronExpireCheck order res rest =>
      refine hreads h ?_
      have hskip : OpKnows w (afterCronExpire order false rest) :=
        opKnows_par.mpr ⟨opKnows_cronNext w rest, opKnows_cronNext w rest⟩
      simp only [TicketPayment.cronExpireCheck]
      split
      · next latest hlatest =>
        split
        · next hstatus => exact knows_of_some rfl ⟨latest, hlatest, hstatus⟩
        · exact hskip
      · exact hskip
  | cronExpireCommit order res rest =>
      refine hsome h fun w => ?_
      simp only [TicketPayment.cronExpireCommit]
      split
      · trivial
      · exact opKnows_par.mpr ⟨opKnows_cronNext w rest, opKnows_cronNext w rest⟩
  | _ => exact absurd rfl hk

/-- An operation knows what it has found when it begins. -/
theorem opKnows_enter {w : World} {r : Request} {prog : Op} (h : enter w r = some prog) :
    OpKnows w prog := by
  rw [enter_call h]
  cases r <;> exact knows_of_none rfl

end TicketBackend
