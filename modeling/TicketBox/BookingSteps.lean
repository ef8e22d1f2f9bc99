import TicketBox.Snapshots
import TicketBox.Alone

/-! # createOrder from its order row on

    Once the reservations have settled, createOrder writes the order row, books the
    inventory, asks for the payment URL and queues the expiry job.  `BookingStep` says
    what each of these calls can do; a call that fails enters a catch block, and only
    a queued job ends in an answer that is no error. -/

namespace TicketBackend

open Interleave TicketStore TicketRedis TicketDb TicketFlow TicketOrder TicketPayment

/-- The calls of createOrder from the order row on. -/
inductive Books (ctx : CreateCtx) (o : OrderId) (metas : List TicketMeta) : Ask → Prop where
  | persistOrder : Books ctx o metas (.persistOrder ctx o metas)
  | syncInventory : Books ctx o metas (.syncInventory ctx o metas)
  | paying (d : Ask) : Ask.paying d = some (ctx, o, metas) → Books ctx o metas d
  | scheduleExpiry (url : String) : Books ctx o metas (.scheduleExpiry ctx o url)

/-- What each of them can do. -/
inductive BookingStep (ch : Choice) (w : World) (ctx : CreateCtx) (o : OrderId)
    (metas : List TicketMeta) : Ask → World → Op → Prop where
  | persisted (db : Db) :
      insertOrder (newOrder ctx o metas) w.db = some db →
      BookingStep ch w ctx o metas (.persistOrder ctx o metas) { w with db := db }
        (.ask (.syncInventory ctx o metas))
  | persistFailed :
      BookingStep ch w ctx o metas (.persistOrder ctx o metas) w
        (.par (metaReleases .persistFailed ctx o metas) thrown (.ret (.error failedToCreate)))
  | synced (db : Db) :
      TicketDb.syncInventory ctx.userId metas w.db = .ok db →
      BookingStep ch w ctx o metas (.syncInventory ctx o metas) { w with db := db }
        (.ask (.createPaymentUrl (.createOrder ctx metas) o ctx.userId))
  | syncFailed (e : ApiError) :
      BookingStep ch w ctx o metas (.syncInventory ctx o metas) w (inventoryRollback ctx o metas e)
  | paying (d d' : Ask) :
      Ask.paying d = some (ctx, o, metas) → Ask.paying d' = some (ctx, o, metas) →
      BookingStep ch w ctx o metas d w (.ask d')
  | payingFailed (d : Ask) (e : ApiError) :
      Ask.paying d = some (ctx, o, metas) →
      BookingStep ch w ctx o metas d w (gatewayRollback ctx o metas e)
  | paid (d : Ask) (payments : List PaymentTransaction) (url : String) :
      Ask.paying d = some (ctx, o, metas) →
      BookingStep ch w ctx o metas d { w with db := { w.db with payments := payments } }
        (.ask (.scheduleExpiry ctx o url))
  | scheduled (url : String) :
      BookingStep ch w ctx o metas (.scheduleExpiry ctx o url)
        { w with expireJobs := w.expireJobs ++ [(o, w.now + ctx.ttl * 1000)] }
        (.ret (.orderCreated o url))
  | scheduleFailed (url : String) : BookingStep ch w ctx o metas (.scheduleExpiry ctx o url) w thrown

variable {ch : Choice} {w w' : World} {ctx : CreateCtx} {o : OrderId} {metas : List TicketMeta}
  {d : Ask} {prog : Op}

/-- The calls behind `createPaymentUrl`, in createOrder. -/
theorem paying_cases (hd : Ask.paying d = some (ctx, o, metas)) :
    (∃ u, d = .createPaymentUrl (.createOrder ctx metas) o u) ∨
      (∃ amount existing, d = .callGateway (.createOrder ctx metas) o amount existing) ∨
      ∃ amount existing url, d = .savePaymentUrl (.createOrder ctx metas) o amount existing url := by
  unfold Ask.paying at hd
  split at hd
  · cases hd
    exact .inl ⟨_, rfl⟩
  · cases hd
    exact .inr (.inl ⟨_, _, rfl⟩)
  · cases hd
    exact .inr (.inr ⟨_, _, _, rfl⟩)
  · cases hd

/-- The read before the gateway call. -/
theorem bookingStep_createPaymentUrl {u : UserId} :
    BookingStep ch w ctx o metas (.createPaymentUrl (.createOrder ctx metas) o u) w
      (TicketPayment.createPaymentUrl (.createOrder ctx metas) o u w) := by
  simp only [TicketPayment.createPaymentUrl]
  split
  · exact .payingFailed _ _ rfl
  · split
    · exact .payingFailed _ _ rfl
    · split
      · exact .payingFailed _ _ rfl
      · split
        · split
          · exact .paying _ _ rfl rfl
          · exact .paid _ w.db.payments _ rfl
        · exact .paying _ _ rfl rfl

/-- The write of the payment url. -/
theorem bookingStep_savePaymentUrl {amount : Int} {existing : Option PaymentTransaction}
    {url : String} :
    BookingStep ch w ctx o metas (.savePaymentUrl (.createOrder ctx metas) o amount existing url)
      (TicketPayment.savePaymentUrl (.createOrder ctx metas) o amount existing url ch w).1
      (TicketPayment.savePaymentUrl (.createOrder ctx metas) o amount existing url ch w).2 := by
  simp only [TicketPayment.savePaymentUrl]
  split
  · exact .payingFailed _ _ rfl
  · next db hdb =>
    split at hdb
    · cases hdb
    · obtain ⟨payments, rfl⟩ := writePaymentUrl_db hdb
      exact .paid _ payments url rfl

/-- The inversion of these calls. -/
theorem bookingStep_of_dispatch (hd : Books ctx o metas d) (h : dispatch ch w d = some (w', prog)) :
    BookingStep ch w ctx o metas d w' prog := by
  cases hd with
  | persistOrder =>
      simp only [dispatch, TicketOrder.persistOrder, Option.some.injEq] at h
      split at h
      · next db hdb =>
        cases h
        split at hdb
        · cases hdb
        · exact .persisted db hdb
      · cases h
        exact .persistFailed
  | syncInventory =>
      simp only [dispatch, TicketOrder.syncInventory, Option.some.injEq] at h
      split at h
      · cases h
        exact .syncFailed _
      · split at h
        · next db hdb =>
          cases h
          exact .synced db hdb
        · cases h
          exact .syncFailed _
  | paying _ hpay =>
      rcases paying_cases hpay with ⟨u, rfl⟩ | ⟨amount, existing, rfl⟩ | ⟨amount, existing, url, rfl⟩
      · simp only [dispatch, Option.some.injEq, Prod.mk.injEq] at h
        obtain ⟨rfl, rfl⟩ := h
        split
        · exact .payingFailed _ _ rfl
        · exact bookingStep_createPaymentUrl
      · simp only [dispatch, TicketPayment.callGateway, Option.some.injEq, Prod.mk.injEq] at h
        obtain ⟨rfl, rfl⟩ := h
        split
        · exact .payingFailed _ _ rfl
        · exact .paying _ _ rfl rfl
      · simp only [dispatch, Option.some.injEq] at h
        have hbooked : BookingStep ch w ctx o metas
            (.savePaymentUrl (.createOrder ctx metas) o amount existing url) _ _ :=
          bookingStep_savePaymentUrl
        rw [h] at hbooked
        exact hbooked
  | scheduleExpiry url =>
      simp only [dispatch, TicketOrder.scheduleExpiry, Option.some.injEq] at h
      split at h
      · cases h
        exact .scheduleFailed url
      · cases h
        exact .scheduled url

/-- The new row is found under its id. -/
theorem findOrder_inserted {row : Order} {db db' : Db} (h : insertOrder row db = some db') :
    db'.findOrder row.id = some row := by
  obtain ⟨rfl, hnone⟩ := insertOrder_eq h
  rw [Db.findOrder, RowTable.lookup_append, show RowTable.lookup Order.id row.id db.orders = none
    from hnone, Option.none_or, if_pos rfl]

/-- A call that deletes the order row ends the operation with an error. -/
theorem deletes_ends (hd : (Ask.deletes d).isSome) (h : dispatch ch w d = some (w', prog)) :
    ∃ e, prog = .ret (.error e) := by
  have hcases : (∃ o e, d = .deleteOrderQuietly o e) ∨ ∃ o e, d = .deleteOrder o e := by
    unfold Ask.deletes at hd
    split at hd
    · exact .inl ⟨_, _, rfl⟩
    · exact .inr ⟨_, _, rfl⟩
    · cases hd
  rcases hcases with ⟨o, e, rfl⟩ | ⟨o, e, rfl⟩
  · simp only [dispatch, TicketOrder.deleteOrderQuietly, Option.some.injEq] at h
    split at h
    · cases h
      exact ⟨_, rfl⟩
    · split at h
      · cases h
        exact ⟨_, rfl⟩
      · cases h
        exact ⟨_, rfl⟩
  · simp only [dispatch, TicketOrder.deleteOrder, Option.some.injEq] at h
    split at h
    · cases h
      exact ⟨_, rfl⟩
    · split at h
      · cases h
        exact ⟨_, rfl⟩
      · cases h
        exact ⟨_, rfl⟩

/-! ## Whether it ends in a created order -/

/-- A program that does not end in a created order, whatever its tasks do. -/
inductive Fruitless : Op → Prop where
  | ended (a : Answer) : (∀ o url, a ≠ .orderCreated o url) → Fruitless (.ret a)
  | deleting (d : Ask) : (Ask.deletes d).isSome → Fruitless (.ask d)
  | batch (ts : List Task) (h rest : Op) : Fruitless rest → Fruitless (.par ts h rest)

/-- An error has nothing to release. -/
theorem fruitless_error (e : ApiError) : Fruitless (.ret (.error e)) := .ended _ nofun

/-- Fruitless it stays. -/
theorem Fruitless.turn {ch : Choice} {k : Nat} {w₁ w₂ : World} {prog prog' : Op}
    (h : Fruitless prog) (hturn : backend.Turned ch k w₁ prog w₂ prog') : Fruitless prog' := by
  cases h with
  | ended a _ => cases hturn
  | deleting d hd =>
      cases hturn with
      | asked _ _ _ hdec =>
          obtain ⟨e, rfl⟩ := deletes_ends hd hdec
          exact fruitless_error e
  | batch ts hh rest hrest =>
      cases hturn with
      | settled _ _ => exact hrest
      | resolved _ _ _ _ _ _ _ => exact .batch _ _ _ hrest
      | wentOn _ _ _ _ _ _ _ _ => exact .batch _ _ _ hrest

/-- The releases behind a failed reservation have nothing to write. -/
theorem fruitless_rollback (e : ApiError) (ms : List TicketMeta) :
    Fruitless (rollback ctx o e ms) := by
  induction ms with
  | nil => exact fruitless_error e
  | cons m ms ih => exact .batch _ _ _ ih

/-- An order row that was written fits its columns. -/
theorem fits_of_persisted (h : dispatch ch w (.persistOrder ctx o metas) = some (w', prog)) :
    Fruitless prog ∨ (newOrder ctx o metas).FitsColumns := by
  cases bookingStep_of_dispatch .persistOrder h with
  | persisted db hins => exact .inr (insertOrder_fits hins)
  | persistFailed => exact .inl (.batch _ _ _ (fruitless_error _))
  | paying _ d' hpay _ => cases hpay
  | payingFailed _ e hpay => cases hpay
  | paid _ payments url hpay => cases hpay

/-- A call goes on with its order row in place, or to no created order. -/
theorem books_goOn (hd : Books ctx o metas d)
    (hrow : d = .persistOrder ctx o metas ∨ w.db.findOrder o = some (newOrder ctx o metas))
    (h : dispatch ch w d = some (w', prog)) :
    w'.redis = w.redis ∧
      (∀ j ∈ w'.expireJobs, j ∈ w.expireJobs ∨ j = (o, w.now + ctx.ttl * 1000)) ∧
      (Fruitless prog ∨
      w'.db.findOrder o = some (newOrder ctx o metas) ∧
        ((∃ d', prog = .ask d' ∧ Books ctx o metas d') ∨
          ∃ url, prog = .ret (.orderCreated o url))) := by
  cases bookingStep_of_dispatch hd h with
  | persisted db hins =>
      exact ⟨rfl, fun _ => .inl, .inr ⟨findOrder_inserted hins, .inl ⟨_, rfl, .syncInventory⟩⟩⟩
  | persistFailed => exact ⟨rfl, fun _ => .inl, .inl (.batch _ _ _ (fruitless_error _))⟩
  | synced db hsync =>
      refine ⟨rfl, fun _ => .inl, .inr ⟨?_, .inl ⟨_, rfl, .paying _ rfl⟩⟩⟩
      rw [Db.findOrder, (syncInventory_same hsync).1]
      exact hrow.resolve_left (by intro hd; cases hd)
  | syncFailed e => exact ⟨rfl, fun _ => .inl, .inl (.batch _ _ _ (.deleting _ rfl))⟩
  | paying _ d' hpay hpay' =>
      have hne : d ≠ .persistOrder ctx o metas := by
        rintro rfl
        cases hpay
      exact ⟨rfl, fun _ => .inl, .inr ⟨hrow.resolve_left hne, .inl ⟨d', rfl, .paying d' hpay'⟩⟩⟩
  | payingFailed _ e _ =>
      exact ⟨rfl, fun _ => .inl, .inl (.batch _ _ _ (.batch _ _ _ (.deleting _ rfl)))⟩
  | paid _ payments url hpay =>
      have hne : d ≠ .persistOrder ctx o metas := by
        rintro rfl
        cases hpay
      exact ⟨rfl, fun _ => .inl, .inr ⟨hrow.resolve_left hne, .inl ⟨_, rfl, .scheduleExpiry url⟩⟩⟩
  | scheduled url =>
      have hrow' := hrow.resolve_left (by intro hd; cases hd)
      refine ⟨rfl, fun j hj => ?_, .inr ⟨hrow', .inr ⟨url, rfl⟩⟩⟩
      exact (List.mem_append.mp hj).imp_right List.mem_singleton.mp
  | scheduleFailed url => exact ⟨rfl, fun _ => .inl, .inl (fruitless_error _)⟩

end TicketBackend
