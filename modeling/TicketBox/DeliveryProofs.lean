import TicketBox.IssuePathProofs

/-! # The SUCCESS webhook, redelivered until it is acknowledged

    The transaction marks the order paid and issues its tickets; the Redis delete
    and the confirmation e-mail follow as calls of their own.  A redelivery finds
    the order PAID and is answered as a duplicate, whatever follow-up the delivery
    before it missed.  So the effects are complete at the acknowledgement exactly
    if no delivery failed behind its transaction. -/

namespace TicketBackend

open Interleave TicketStore TicketRedis TicketDb TicketFlow TicketOrder TicketPayment

/-! ## Deliveries -/

/-- Time passes. -/
def Passes (w w' : World) : Prop := ∃ ms, w' = tick ms w

/-- One delivery of a webhook, which any of its calls may end, up to its answer. -/
abbrev Delivery (dto : MockWebhookDto) (w : World)
    (tr : List (Turn World Ask Task Answer Choice)) (w' : World) (a : Answer) : Prop :=
  backend.Alone Passes w (.ask (.handleMockWebhook dto)) tr w' (.ret a)

/-- Deliveries one after the other: those that end in an error, then one that is
    acknowledged.  All their turns are kept. -/
inductive Redelivered (dto : MockWebhookDto) :
    World → List (Turn World Ask Task Answer Choice) → World → Prop where
  | acknowledged {w w' : World} {tr : List (Turn World Ask Task Answer Choice)}
      (message : String) (status : Option OrderStatus) :
      Delivery dto w tr w' (.webhook message status) → Redelivered dto w tr w'
  | again {w w₁ w' : World} {tr tr' : List (Turn World Ask Task Answer Choice)} (e : ApiError) :
      Delivery dto w tr w₁ (.error e) → Redelivered dto w₁ tr' w' →
      Redelivered dto w (tr ++ tr') w'

/-- The calls behind the transaction of a SUCCESS webhook. -/
def isFollowUp : Op → Bool
  | .ask (.delReservation _) | .ask (.sendOrderPaidEmail _) => true
  | _ => false

/-- No call behind the transaction failed. -/
def FollowUpsRan (tr : List (Turn World Ask Task Answer Choice)) : Prop :=
  ∀ turn ∈ tr, isFollowUp turn.prog = true → turn.choice.fails = false

/-- The follow-ups of two traces. -/
theorem followUpsRan_append {tr tr' : List (Turn World Ask Task Answer Choice)} :
    FollowUpsRan (tr ++ tr') ↔ FollowUpsRan tr ∧ FollowUpsRan tr' := by
  simp only [FollowUpsRan, List.mem_append, or_imp, forall_and]

/-- One more turn that is no failed follow-up. -/
theorem FollowUpsRan.concat {tr : List (Turn World Ask Task Answer Choice)} (h : FollowUpsRan tr)
    {turn : Turn World Ask Task Answer Choice}
    (hturn : isFollowUp turn.prog = true → turn.choice.fails = false) :
    FollowUpsRan (tr ++ [turn]) := by
  refine followUpsRan_append.mpr ⟨h, ?_⟩
  intro turn' hmem
  rwa [List.mem_singleton.mp hmem]

/-- Another call behind them changes nothing. -/
theorem FollowUpsRan.other {tr : List (Turn World Ask Task Answer Choice)} (h : FollowUpsRan tr)
    {turn : Turn World Ask Task Answer Choice} (hturn : isFollowUp turn.prog = false) :
    FollowUpsRan (tr ++ [turn]) :=
  h.concat fun hf => absurd (hturn.symm.trans hf) Bool.false_ne_true

/-- A follow-up that fails has not been carried out. -/
theorem not_followUpsRan_concat {tr : List (Turn World Ask Task Answer Choice)}
    {turn : Turn World Ask Task Answer Choice} (hfollow : isFollowUp turn.prog = true)
    (hfails : turn.choice.fails = true) : ¬ FollowUpsRan (tr ++ [turn]) := by
  intro h
  have := (followUpsRan_append.mp h).2 turn List.mem_cons_self hfollow
  rw [hfails] at this
  cases this

/-! ## Where an order stands -/

/-- No confirmation e-mail of the order is queued. -/
def NoMail (order : Order) (w : World) : Prop := ∀ job ∈ w.emailJobs, job.1 ≠ order.id

/-- The order waits for its payment. -/
structure Awaiting (order : Order) (w : World) : Prop where
  row : w.db.findOrder order.id = some order
  pending : order.status = .pendingPayment
  unissued : NoTickets order.id w.db.tickets
  noMail : NoMail order w

/-- The transaction has run: the order is PAID and has its tickets. -/
structure Fulfilled (order : Order) (w : World) : Prop where
  paid : ∃ row, w.db.findOrder order.id = some row ∧ row.status = .paid
  tickets : (w.db.ticketsOf order.id).map originOf = originsOf order order.items

/-- Everything a SUCCESS webhook owes the order. -/
structure SuccessEffects (order : Order) (w : World) : Prop extends Fulfilled order w where
  released : w.redis.reservations order.id = none
  mailed : ∃ job ∈ w.emailJobs, job.1 = order.id

variable {order : Order} {dto : MockWebhookDto} {w w' : World}

/-- An order that waits for its webhook waits on while others work. -/
theorem Awaiting.passes (h : Awaiting order w) (hp : Passes w w') : Awaiting order w' := by
  obtain ⟨ms, rfl⟩ := hp
  exact ⟨h.row, h.pending, h.unissued, h.noMail⟩

/-- What a delivery has done stays done. -/
theorem Fulfilled.passes (h : Fulfilled order w) (hp : Passes w w') : Fulfilled order w' := by
  obtain ⟨ms, rfl⟩ := hp
  exact ⟨h.paid, h.tickets⟩

/-- Nobody else queues the order's mail. -/
theorem NoMail.passes (h : NoMail order w) (hp : Passes w w') : NoMail order w' := by
  obtain ⟨ms, rfl⟩ := hp
  exact h

/-- The transaction fulfils an order that waited for its payment. -/
theorem Awaiting.commit (h : Awaiting order w) (hfor : dto.orderId = order.id)
    {gateName : String} {db : Db} (hdb : commitSuccess dto order gateName w.now w.db = some db) :
    Fulfilled order { w with db := db } := by
  obtain ⟨hset, hissued⟩ := commitSuccess_issued hdb
  obtain ⟨row, row', -, hrow', -, hpaid⟩ := hset.find_self
  rw [hfor] at hrow'
  refine ⟨⟨row', hrow', hpaid⟩, ?_⟩
  obtain ⟨ts, hts, horigins⟩ := hissued.tickets
  have hold : w.db.tickets.filter (fun k => decide (k.orderId = order.id)) = [] := by
    refine List.filter_eq_nil_iff.mpr ?_
    intro k hk
    simpa using h.unissued k hk
  have hnew : ts.filter (fun k => decide (k.orderId = order.id)) = ts := by
    refine List.filter_eq_self.mpr ?_
    intro k hk
    simpa using orderId_of_origins horigins k hk
  show (db.tickets.filter fun k => decide (k.orderId = order.id)).map originOf = _
  rw [hts, List.filter_append, hold, hnew, List.nil_append]
  exact horigins

/-! ## One delivery -/

/-- Where a delivery to a waiting order stands. -/
def Stage (order : Order) (dto : MockWebhookDto) (tr : List (Turn World Ask Task Answer Choice))
    (w : World) : Op → Prop
  | .ask (.handleMockWebhook d) => d = dto ∧ Awaiting order w ∧ FollowUpsRan tr
  | .ask (.findGates d o) | .ask (.countGateTickets d o _) | .ask (.successCommit d o _) =>
      d = dto ∧ o = order ∧ Awaiting order w ∧ FollowUpsRan tr
  | .ask (.delReservation o) =>
      o = order ∧ Fulfilled order w ∧ NoMail order w ∧ FollowUpsRan tr
  | .ask (.sendOrderPaidEmail o) =>
      o = order ∧ Fulfilled order w ∧ NoMail order w ∧ w.redis.reservations order.id = none ∧
        FollowUpsRan tr
  | .ret (.error _) =>
      Awaiting order w ∧ FollowUpsRan tr ∨
        Fulfilled order w ∧ NoMail order w ∧ ¬ FollowUpsRan tr
  | .ret (.webhook _ _) => SuccessEffects order w ∧ FollowUpsRan tr
  | _ => False

/-- A delivery stays where it is while others work. -/
theorem Stage.passes {tr : List (Turn World Ask Task Answer Choice)} {prog : Op}
    (h : Stage order dto tr w prog) (hp : Passes w w') : Stage order dto tr w' prog := by
  unfold Stage at h ⊢
  split at h
  · exact ⟨h.1, h.2.1.passes hp, h.2.2⟩
  · exact ⟨h.1, h.2.1, h.2.2.1.passes hp, h.2.2.2⟩
  · exact ⟨h.1, h.2.1, h.2.2.1.passes hp, h.2.2.2⟩
  · exact ⟨h.1, h.2.1, h.2.2.1.passes hp, h.2.2.2⟩
  · exact ⟨h.1, h.2.1.passes hp, h.2.2.1.passes hp, h.2.2.2⟩
  · refine ⟨h.1, h.2.1.passes hp, h.2.2.1.passes hp, ?_, h.2.2.2.2⟩
    obtain ⟨ms, rfl⟩ := hp
    exact h.2.2.2.1
  · rcases h with ⟨hwait, hran⟩ | ⟨hdone, hmail, hran⟩
    · exact .inl ⟨hwait.passes hp, hran⟩
    · exact .inr ⟨hdone.passes hp, hmail.passes hp, hran⟩
  · obtain ⟨hdone, hran⟩ := h
    refine ⟨⟨hdone.toFulfilled.passes hp, ?_, ?_⟩, hran⟩
    · obtain ⟨ms, rfl⟩ := hp
      exact hdone.released
    · obtain ⟨ms, rfl⟩ := hp
      exact hdone.mailed
  · exact h.elim

/-- A read in front of the transaction leaves the order waiting, whether it throws or not. -/
theorem Stage.reads {tr : List (Turn World Ask Task Answer Choice)} {ch : Choice} {k : Nat}
    {d : Ask} {prog prog' : Op} (hwait : Awaiting order w) (hran : FollowUpsRan tr)
    (hd : isFollowUp (.ask d) = false) (hdec : TicketBackend.reads ch w prog = some (w', prog'))
    (hnext : FollowUpsRan (tr ++ [⟨w, .ask d, k, ch⟩]) →
      Stage order dto (tr ++ [⟨w, .ask d, k, ch⟩]) w prog) :
    Stage order dto (tr ++ [⟨w, .ask d, k, ch⟩]) w' prog' := by
  have hran' : FollowUpsRan (tr ++ [⟨w, .ask d, k, ch⟩]) :=
    hran.other hd
  simp only [TicketBackend.reads, Option.some.injEq, Prod.mk.injEq] at hdec
  obtain ⟨rfl, rfl⟩ := hdec
  split
  · exact .inl ⟨hwait, hran'⟩
  · exact hnext hran'

/-- **One turn** of a delivery to a waiting order. -/
theorem Stage.turn (hdto : Confirms dto order) {tr : List (Turn World Ask Task Answer Choice)}
    {prog prog' : Op} {k : Nat} {ch : Choice} (h : Stage order dto tr w prog)
    (ht : backend.Turned ch k w prog w' prog') :
    Stage order dto (tr ++ [⟨w, prog, k, ch⟩]) w' prog' := by
  cases ht with
  | settled hh rest => exact h.elim
  | resolved ts t hh rest _ _ _ => exact h.elim
  | wentOn ts t t' hh rest _ _ _ => exact h.elim
  | asked d _ _ hdec =>
    cases d with
    | handleMockWebhook d =>
        obtain ⟨rfl, hwait, hran⟩ := h
        refine Stage.reads hwait hran rfl hdec fun hran' => ?_
        have hfind : TicketPayment.handleMockWebhook d w = .ask (.findGates d order) := by
          simp [TicketPayment.handleMockWebhook, hdto.signed, hdto.names, hdto.amount,
            hdto.result, hwait.row, hwait.pending]
        rw [hfind]
        exact ⟨rfl, rfl, hwait, hran'⟩
    | findGates d o =>
        obtain ⟨rfl, rfl, hwait, hran⟩ := h
        refine Stage.reads hwait hran rfl hdec fun hran' => ?_
        simp only [TicketPayment.findGates]
        split
        · exact ⟨rfl, rfl, hwait, hran'⟩
        · exact ⟨rfl, rfl, hwait, hran'⟩
    | countGateTickets d o gates =>
        obtain ⟨rfl, rfl, hwait, hran⟩ := h
        refine Stage.reads hwait hran rfl hdec fun hran' => ?_
        exact ⟨rfl, rfl, hwait, hran'⟩
    -- the commit fails as a whole, and the order waits on, or it has issued
    | successCommit d o gateName =>
        obtain ⟨rfl, rfl, hwait, hran⟩ := h
        have hran' : FollowUpsRan (tr ++ [⟨w, .ask (.successCommit d o gateName), k, ch⟩]) :=
          hran.other rfl
        simp only [backend, dispatch, TicketPayment.successCommit, Option.some.injEq] at hdec
        split at hdec
        · cases hdec
          exact .inl ⟨hwait, hran'⟩
        · next db hdb =>
          cases hdec
          split at hdb
          · cases hdb
          · exact ⟨rfl, hwait.commit hdto.names hdb, hwait.noMail, hran'⟩
    -- a DEL that fails ends the delivery before the mail is queued
    | delReservation o =>
        obtain ⟨rfl, hdone, hmail, hran⟩ := h
        simp only [backend, dispatch, TicketPayment.delReservation, Option.some.injEq] at hdec
        split at hdec
        · next hf =>
          cases hdec
          exact .inr ⟨hdone, hmail, not_followUpsRan_concat rfl hf⟩
        · next hf =>
          cases hdec
          refine ⟨rfl, ⟨hdone.paid, hdone.tickets⟩, hmail, ?_, hran.concat fun _ => ?_⟩
          · exact Function.update_self _ _ _
          · exact Bool.eq_false_iff.mpr hf
    -- the last call: its failure leaves the mail out
    | sendOrderPaidEmail o =>
        obtain ⟨rfl, hdone, hmail, hgone, hran⟩ := h
        simp only [backend, dispatch, TicketPayment.sendOrderPaidEmail, Option.some.injEq] at hdec
        split at hdec
        · next hf =>
          cases hdec
          exact .inr ⟨hdone, hmail, not_followUpsRan_concat rfl hf⟩
        · next hf =>
          cases hdec
          refine ⟨⟨⟨hdone.paid, hdone.tickets⟩, hgone, ?_⟩, hran.concat fun _ => ?_⟩
          · exact ⟨_, List.mem_append_right _ List.mem_cons_self, rfl⟩
          · exact Bool.eq_false_iff.mpr hf
    | _ => exact h.elim

/-- A delivery to a waiting order: an error leaves it waiting, unless a follow-up threw. -/
theorem Awaiting.delivery {tr : List (Turn World Ask Task Answer Choice)} {a : Answer}
    (h : Awaiting order w) (hdto : Confirms dto order) (hdel : Delivery dto w tr w' a) :
    Stage order dto tr w' (.ret a) := by
  refine hdel.inv (I := Stage order dto) ⟨rfl, h, fun _ hm => absurd hm List.not_mem_nil⟩ ?_ ?_
  · intro tr w₁ w₂ prog hI hp
    exact hI.passes hp
  · intro tr w₁ w₂ prog₁ prog₂ k ch hI ht
    exact hI.turn hdto ht

/-- A delivery of a fulfilled order is answered as a duplicate: it sends nothing. -/
theorem NoMail.delivery {tr : List (Turn World Ask Task Answer Choice)} {a : Answer}
    (hdone : Fulfilled order w) (hmail : NoMail order w) (hdto : Confirms dto order)
    (hdel : Delivery dto w tr w' a) : Fulfilled order w' ∧ NoMail order w' := by
  have hall := hdel.inv (I := fun _ w prog => Fulfilled order w ∧ NoMail order w ∧
    (prog = .ask (.handleMockWebhook dto) ∨ ∃ a, prog = .ret a)) ⟨hdone, hmail, .inl rfl⟩ ?_ ?_
  · exact ⟨hall.1, hall.2.1⟩
  · rintro tr w₁ w₂ prog ⟨hdone, hmail, hprog⟩ hp
    exact ⟨hdone.passes hp, hmail.passes hp, hprog⟩
  · rintro tr w₁ w₂ prog₁ prog₂ k ch ⟨hdone, hmail, hprog⟩ ht
    rcases hprog with rfl | ⟨a, rfl⟩
    · cases ht with
      | asked d _ _ hdec =>
        obtain ⟨row, hrow, hpaid⟩ := hdone.paid
        simp only [backend, dispatch, TicketBackend.reads, Option.some.injEq,
          Prod.mk.injEq] at hdec
        obtain ⟨rfl, rfl⟩ := hdec
        refine ⟨hdone, hmail, .inr ?_⟩
        split
        · exact ⟨_, rfl⟩
        · simp only [TicketPayment.handleMockWebhook, hdto.signed, hdto.names, hrow, hpaid]
          split
          · exact ⟨_, rfl⟩
          · split
            · exact ⟨_, rfl⟩
            · exact ⟨_, rfl⟩
    · cases ht

/-! ## Until the acknowledgement -/

/-- The e-mail an earlier delivery missed is never sent. -/
theorem NoMail.redelivered {tr : List (Turn World Ask Task Answer Choice)}
    (hdone : Fulfilled order w) (hmail : NoMail order w) (hdto : Confirms dto order)
    (hr : Redelivered dto w tr w') : NoMail order w' := by
  induction hr with
  | acknowledged message status hdel => exact (NoMail.delivery hdone hmail hdto hdel).2
  | again e hdel _ ih =>
      obtain ⟨hdone', hmail'⟩ := NoMail.delivery hdone hmail hdto hdel
      exact ih hdone' hmail'

/-- **The success effects** are complete at the acknowledgement exactly if no delivery failed
    behind its transaction, at the Redis delete or at queuing the e-mail. -/
theorem success_effects_iff {w w' : World} {order : Order} {dto : MockWebhookDto}
    {tr : List (Turn World Ask Task Answer Choice)} (h : Awaiting order w)
    (hdto : Confirms dto order) (hr : Redelivered dto w tr w') :
    SuccessEffects order w' ↔ FollowUpsRan tr := by
  induction hr with
  | acknowledged message status hdel =>
      obtain ⟨hdone, hran⟩ := h.delivery hdto hdel
      exact iff_of_true hdone hran
  | again e hdel hrest ih =>
      rcases h.delivery hdto hdel with ⟨hwait, hran⟩ | ⟨hdone, hmail, hfailed⟩
      · -- it failed before its transaction took effect
        rw [ih hwait, followUpsRan_append]
        exact ⟨fun hran' => ⟨hran, hran'⟩, fun hall => hall.2⟩
      · -- it failed behind it, and the redeliveries are duplicates
        have hmail' := hmail.redelivered hdone hdto hrest
        refine iff_of_false ?_ fun hall => hfailed (followUpsRan_append.mp hall).1
        intro heffects
        obtain ⟨job, hjob, hid⟩ := heffects.mailed
        exact hmail' job hjob hid

/-! ### Executed -/

/-- The turns of each delivery, executed up to the acknowledged one. -/
def redeliver (dto : MockWebhookDto) (w : World) :
    List (List (Nat × Choice)) → Option (List (Turn World Ask Task Answer Choice) × World)
  | [] => none
  | cs :: rest =>
      match backend.turns w (.ask (.handleMockWebhook dto)) cs with
      | some (tr, w', .ret (.webhook _ _)) => some (tr, w')
      | some (tr, w₁, .ret (.error _)) => (redeliver dto w₁ rest).map fun x => (tr ++ x.1, x.2)
      | _ => none

/-- Deliveries carried out one after the other. -/
theorem redelivered_of_redeliver {rest : List (List (Nat × Choice))}
    {tr : List (Turn World Ask Task Answer Choice)} (h : redeliver dto w rest = some (tr, w')) :
    Redelivered dto w tr w' := by
  induction rest generalizing w tr with
  | nil => cases h
  | cons cs rest ih =>
      simp only [redeliver] at h
      split at h
      · next hturns =>
          cases h
          exact .acknowledged _ _ (alone_of_turns hturns)
      · next hturns =>
          simp only [Option.map_eq_some_iff, Prod.mk.injEq] at h
          obtain ⟨⟨tr', w₂⟩, hrest, rfl, rfl⟩ := h
          exact .again _ (alone_of_turns hturns) (ih hrest)
      · cases h

/-- Deliveries that execute and end with `P`. -/
theorem exists_redelivered (dto : MockWebhookDto) (w : World)
    (rest : List (List (Nat × Choice))) (P : World → Prop)
    [DecidablePred P] (h : (redeliver dto w rest).any (fun x => decide (P x.2)) = true) :
    ∃ tr w', Redelivered dto w tr w' ∧ P w' := by
  cases he : redeliver dto w rest with
  | none => simp [he] at h
  | some x => exact ⟨x.1, x.2, redelivered_of_redeliver he, by simpa [he] using h⟩

/-- The late order waits for its webhook. -/
theorem twoGates_awaiting : Awaiting lateOrder twoGates where
  row := rfl
  pending := rfl
  unissued := twoGates_payable.unissued
  noMail := fun _ hk => absurd hk List.not_mem_nil

/-- The first delivery fails in its transaction, the second runs through. -/
theorem success_effects_iff_twice :
    ∃ tr w', Redelivered confirmation twoGates tr w' ∧ w'.emailJobs = [(1, 1)] ∧
      (SuccessEffects lateOrder w' ↔ FollowUpsRan tr) := by
  obtain ⟨tr, w', hr, hmail⟩ := exists_redelivered confirmation twoGates
    [[(0, {}), (0, {}), (0, {}), (0, { fails := true })],
      [(0, {}), (0, {}), (0, {}), (0, {}), (0, {}), (0, {})]]
    (fun w' => w'.emailJobs = [(1, 1)]) (by decide +kernel)
  exact ⟨tr, w', hr, hmail, success_effects_iff twoGates_awaiting confirmation_confirms hr⟩

/-- The Redis delete fails, the redelivery is acknowledged as a duplicate: the record stays
    and no e-mail is queued. -/
theorem failed_delete_loses_mail :
    ∃ (w : World) (order : Order) (dto : MockWebhookDto)
      (tr : List (Turn World Ask Task Answer Choice)) (w' : World),
      Awaiting order w ∧ Confirms dto order ∧ Redelivered dto w tr w' ∧
        ¬ SuccessEffects order w' := by
  obtain ⟨tr, w', hr, hmail⟩ := exists_redelivered confirmation twoGates
    [[(0, {}), (0, {}), (0, {}), (0, {}), (0, { fails := true })], [(0, {})]]
    (fun w' => w'.emailJobs = []) (by decide +kernel)
  refine ⟨twoGates, lateOrder, confirmation, tr, w', twoGates_awaiting, confirmation_confirms,
    hr, ?_⟩
  intro heffects
  obtain ⟨job, hjob, -⟩ := heffects.mailed
  rw [hmail] at hjob
  cases hjob

end TicketBackend
