import TicketBox.BookingSteps
import TicketBox.ReserveProofs
import TicketBox.ReleaseProofs
import TicketBox.HoldProofs

/-! # Orders with several ticket types

    The reservations of a createOrder call all write `reservation:{orderId}`, and the
    script refuses to write it twice: of two items that could each be reserved, the
    one executed second is refused, in every order of execution.  So a call reserves
    all its items exactly if it has one; a cancelOrder in time then gives it back, to
    a counter that was not negative (`several_types_reserved`). -/

namespace TicketBackend

open Interleave TicketStore TicketRedis TicketDb TicketFlow TicketOrder TicketPayment

/-! ## The main result -/

/-- The reservations of a call have been executed in this order, none of them failing. -/
def Executed (w₀ : World) (ctx : CreateCtx) (o : OrderId) (metas : List TicketMeta)
    (order : List Nat) (w : World) (prog : Op) : Prop :=
  ∃ tr, backend.Alone (Before (deadlineOf w₀ ctx)) w₀ (awaitReserve ctx o (started metas)) tr w
      prog ∧ (∀ turn ∈ tr, turn.choice.fails = false) ∧
    tr.map (fun turn => turn.choice.slot) = order

/-- createOrder went on from its reservations to the created order, and cancelOrder cancelled
    it before its window was over. -/
def CreatedThenCancelled (w₀ : World) (ctx : CreateCtx) (o : OrderId) (metas : List TicketMeta)
    (w : World) : Prop :=
  ∃ tr₁ w₁ url tr₂,
    backend.Alone (Before (deadlineOf w₀ ctx)) w₀ (awaitReserve ctx o (started metas)) tr₁ w₁
      (.ret (.orderCreated o url)) ∧
    backend.Alone (Before (deadlineOf w₀ ctx)) w₁ (.ask (.cancelOrder o ctx.userId)) tr₂ w
      (.ret (.orderCancelled o))

/-- In every order of execution all items are reserved, and a cancel gives them back. -/
structure ReservesAll (w₀ : World) (ctx : CreateCtx) (o : OrderId) (metas : List TicketMeta) :
    Prop where
  runs : ∀ order, order.Perm (List.range metas.length) →
    ∃ w prog, Executed w₀ ctx o metas order w prog
  reserves : ∀ order w prog, order.Perm (List.range metas.length) →
    Executed w₀ ctx o metas order w prog →
      prog = .ask (.persistOrder ctx o metas) ∧ ∀ m ∈ metas,
        stockOf w.redis m.ticketTypeId = stockOf w₀.redis m.ticketTypeId - m.quantity ∧
        userLimitOf w.redis ctx.userId m.ticketTypeId
          = userLimitOf w₀.redis ctx.userId m.ticketTypeId + m.quantity
  returns : ∀ w, CreatedThenCancelled w₀ ctx o metas w → ∀ m ∈ metas,
    stockOf w.redis m.ticketTypeId = stockOf w₀.redis m.ticketTypeId ∧
    userLimitOf w.redis ctx.userId m.ticketTypeId
      = userLimitOf w₀.redis ctx.userId m.ticketTypeId

variable {w₀ w : World} {ctx : CreateCtx} {o : OrderId} {metas : List TicketMeta}

/-! ## Every order of execution -/

/-- The reservations that are left can be executed in any order. -/
theorem exists_executed (rest : List Nat) :
    ∀ {slots : List ReserveSlot} {tr : List (Turn World Ask Task Answer Choice)} {w : World},
      backend.Alone (Before (deadlineOf w₀ ctx)) w₀ (awaitReserve ctx o (started metas)) tr w
        (awaitReserve ctx o slots) →
      (∀ turn ∈ tr, turn.choice.fails = false) → rest.Nodup →
      (∀ k ∈ rest, ∃ s, slots[k]? = some s ∧ s.reply = none) →
      ∃ w' prog, Executed w₀ ctx o metas (tr.map (fun turn => turn.choice.slot) ++ rest) w' prog := by
  induction rest with
  | nil =>
      intro slots tr w hrun hcalm _ _
      exact ⟨w, _, tr, hrun, hcalm, (List.append_nil _).symm⟩
  | cons k rest ih =>
      intro slots tr w hrun hcalm hnodup hopen
      obtain ⟨s, hs, hnone⟩ := hopen k List.mem_cons_self
      have hask : awaitReserve ctx o slots = .ask (.reserveTickets ctx o slots) := by
        simp only [awaitReserve]
        refine if_neg fun hall => ?_
        have := List.all_eq_true.mp hall s (List.mem_of_getElem? hs)
        rw [hnone] at this
        cases this
      have hadv : backend.advance { slot := k } 0 w (awaitReserve ctx o slots)
          = some ({ w with redis := (TicketRedis.reserveTicket (reserveParams ctx o s.item) w.now
              w.redis).1 }, awaitReserve ctx o (slots.set k { s with reply := some (.ok
              (TicketRedis.reserveTicket (reserveParams ctx o s.item) w.now w.redis).2) }), []) := by
        rw [hask]
        simp only [System.advance, backend, dispatch, TicketOrder.reserveTickets, hs, hnone]
        rfl
      obtain ⟨hk, hnodup'⟩ := List.nodup_cons.mp hnodup
      have hopen' : ∀ k' ∈ rest, ∃ s', (slots.set k { s with reply := some (.ok
          (TicketRedis.reserveTicket (reserveParams ctx o s.item) w.now w.redis).2) })[k']? = some s' ∧
            s'.reply = none := by
        intro k' hk'
        have hne : k ≠ k' := by
          rintro rfl
          exact hk hk'
        rw [List.getElem?_set_ne hne]
        exact hopen k' (List.mem_cons_of_mem _ hk')
      have hcalm' : ∀ turn ∈ tr ++ [⟨w, awaitReserve ctx o slots, 0, ({ slot := k } : Choice)⟩],
          turn.choice.fails = false := by
        intro turn hturn
        rcases List.mem_append.mp hturn with hturn | hturn
        · exact hcalm turn hturn
        · rw [List.mem_singleton.mp hturn]
      obtain ⟨w', prog, hexec⟩ := ih (.turn 0 { slot := k } hrun hadv) hcalm' hnodup' hopen'
      refine ⟨w', prog, ?_⟩
      rw [List.map_append, List.append_assoc] at hexec
      exact hexec

/-- They can all be executed, in any order. -/
theorem executes {order : List Nat} (h : order.Perm (List.range metas.length)) :
    ∃ w prog, Executed w₀ ctx o metas order w prog := by
  have hstart : backend.Alone (Before (deadlineOf w₀ ctx)) w₀ (awaitReserve ctx o (started metas)) []
      w₀ (awaitReserve ctx o (started metas)) := .start
  refine exists_executed order hstart nofun (h.nodup_iff.mpr List.nodup_range) ?_
  intro k hk
  have hlt : k < metas.length := List.mem_range.mp (h.mem_iff.mp hk)
  exact ⟨_, by rw [started, List.getElem?_map, List.getElem?_eq_getElem hlt]; rfl, rfl⟩

/-! ## Two items or more -/

/-- A program that makes no call any more, only tasks. -/
def CallsNothing (prog : Op) : Prop := prog.All (fun _ => False) fun _ => True

/-- The releases behind a failed reservation await nothing more. -/
theorem callsNothing_rollback (e : ApiError) (ms : List TicketMeta) :
    CallsNothing (rollback ctx o e ms) := by
  induction ms with
  | nil => exact trivial
  | cons m ms ih => exact ⟨fun _ _ => trivial, trivial, ih⟩

/-- Of several reservations one at most was accepted. -/
theorem Reserving.not_all_accepted {tr : List (Turn World Ask Task Answer Choice)}
    {slots : List ReserveSlot} (h : Reserving w₀ ctx o metas tr w slots) (hlen : 2 ≤ metas.length) :
    ¬ ∀ s ∈ slots, ReserveSlot.accepted s = true := by
  intro hall
  have hslots : 2 ≤ slots.length := by
    rw [← h.items, List.length_map] at hlen
    exact hlen
  have h0 : slots[0]? = some slots[0] := List.getElem?_eq_getElem (by omega)
  have h1 : slots[1]? = some slots[1] := List.getElem?_eq_getElem (by omega)
  cases h.taken with
  | nothing _ _ hnone =>
      have hacc := hall slots[0] (List.mem_of_getElem? h0)
      rw [hnone slots[0] (List.mem_of_getElem? h0)] at hacc
      cases hacc
  | one k m now _ _ _ _ hacc =>
      have hk0 : 0 = k := (hacc 0 _ h0).mp (hall _ (List.mem_of_getElem? h0))
      have hk1 : 1 = k := (hacc 1 _ h1).mp (hall _ (List.mem_of_getElem? h1))
      omega

/-- So a settled batch of several items writes no order row. -/
theorem Reserving.await_several {tr : List (Turn World Ask Task Answer Choice)}
    {slots : List ReserveSlot} (h : Reserving w₀ ctx o metas tr w slots) (hlen : 2 ≤ metas.length) :
    awaitReserve ctx o slots = .ask (.reserveTickets ctx o slots) ∨
      CallsNothing (awaitReserve ctx o slots) := by
  simp only [awaitReserve]
  split
  · next hall =>
    right
    have hsettles := afterReserve_settles ctx o slots (by simpa using hall)
    generalize afterReserve ctx o slots = prog at hsettles
    cases hsettles with
    | threw s _ _ => exact trivial
    | succeeded hacc => exact absurd hacc (h.not_all_accepted hlen)
    | rejected k s e _ _ _ => exact callsNothing_rollback _ _
  · exact .inl rfl

/-- Where a call with several items can be: at its reservations, or past its calls. -/
theorem reserving_or_over (hfresh : Fresh w₀ ctx o) (hlen : 2 ≤ metas.length)
    {tr : List (Turn World Ask Task Answer Choice)} {prog : Op}
    (h : backend.Alone (Before (deadlineOf w₀ ctx)) w₀ (awaitReserve ctx o (started metas)) tr w prog)
    (hf : ∀ turn ∈ tr, turn.choice.fails = false) :
    (∃ slots, prog = .ask (.reserveTickets ctx o slots) ∧ Reserving w₀ ctx o metas tr w slots) ∨
      CallsNothing prog := by
  have hawait : ∀ {tr w slots}, Reserving w₀ ctx o metas tr w slots →
      (∃ slots', awaitReserve ctx o slots = .ask (.reserveTickets ctx o slots') ∧
        Reserving w₀ ctx o metas tr w slots') ∨ CallsNothing (awaitReserve ctx o slots) := by
    intro tr w slots hslots
    exact (hslots.await_several hlen).imp_left fun heq => ⟨slots, heq, hslots⟩
  refine h.inv (I := fun tr w prog => (∀ turn ∈ tr, turn.choice.fails = false) →
    (∃ slots, prog = .ask (.reserveTickets ctx o slots) ∧ Reserving w₀ ctx o metas tr w slots) ∨
      CallsNothing prog) (fun _ => hawait (Reserving.start hfresh)) ?_ ?_ hf
  · intro tr w₁ w₂ prog₁ hp hr hall
    rcases hp hall with ⟨slots, hprog, hslots⟩ | hdoomed
    · exact .inl ⟨slots, hprog, hslots.others hr⟩
    · exact .inr hdoomed
  · intro tr w₁ w₂ prog₁ prog₂ k ch hp hturn hall
    have hcalm : ch.fails = false :=
      hall ⟨w₁, prog₁, k, ch⟩ (List.mem_append_right _ (List.mem_singleton_self _))
    rcases hp fun turn hmem => hall turn (List.mem_append_left _ hmem) with
      ⟨slots, rfl, hslots⟩ | hdoomed
    · cases hturn with
      | asked _ _ _ hdec =>
          obtain ⟨slots', rfl, hslots'⟩ := hslots.reserve hfresh hdec hcalm
          exact hawait hslots'
    · right
      cases hturn with
      | asked d _ _ _ => exact hdoomed.elim
      | settled hh _ => exact hdoomed.2.2
      | resolved ts t hh rest _ _ _ => exact ⟨fun _ _ => trivial, hdoomed.2⟩
      | wentOn ts t t' hh rest _ _ _ => exact ⟨fun _ _ => trivial, hdoomed.2⟩

/-- **Several items are never reserved together.** -/
theorem not_reservesAll (hfresh : Fresh w₀ ctx o) (hlen : 2 ≤ metas.length) :
    ¬ ReservesAll w₀ ctx o metas := by
  intro h
  obtain ⟨w, prog, hexec⟩ := h.runs _ (List.Perm.refl _)
  obtain ⟨rfl, -⟩ := h.reserves _ w prog (List.Perm.refl _) hexec
  obtain ⟨tr, hrun, hcalm, -⟩ := hexec
  rcases reserving_or_over hfresh hlen hrun hcalm with ⟨slots, heq, -⟩ | hdoomed
  · cases heq
  · exact hdoomed

/-! ## One item -/

variable {m : TicketMeta}

/-- The item was reserved and nothing given back. -/
structure OneHeld (w₀ : World) (ctx : CreateCtx) (o : OrderId) (m : TicketMeta) (w : World) :
    Prop where
  taken : ∃ now, w₀.now ≤ now ∧ w.redis = TicketRedis.reserved (reserveParams ctx o m) now w₀.redis

/-- The order row is in place, with amounts that fit its columns. -/
structure Filed (ctx : CreateCtx) (o : OrderId) (m : TicketMeta) (w : World) : Prop where
  row : w.db.findOrder o = some (newOrder ctx o [m])
  fits : (newOrder ctx o [m]).FitsColumns

/-- Where a call with one item can be. -/
inductive OneItem (w₀ : World) (ctx : CreateCtx) (o : OrderId) (m : TicketMeta) (w : World) :
    Op → Prop where
  | reserving : w.redis = w₀.redis → w₀.now ≤ w.now →
      OneItem w₀ ctx o m w (.ask (.reserveTickets ctx o (started [m])))
  | persisting : OneHeld w₀ ctx o m w → OneItem w₀ ctx o m w (.ask (.persistOrder ctx o [m]))
  | booking (d : Ask) : Books ctx o [m] d → OneHeld w₀ ctx o m w → Filed ctx o m w →
      OneItem w₀ ctx o m w (.ask d)
  | created (url : String) : OneHeld w₀ ctx o m w → Filed ctx o m w →
      OneItem w₀ ctx o m w (.ret (.orderCreated o url))
  | doomed (prog : Op) : Fruitless prog → OneItem w₀ ctx o m w prog

/-- How the one reservation settles. -/
theorem reserveOne_cases {ch : Choice} {w' : World} {prog : Op}
    (h : TicketOrder.reserveTickets ctx o (started [m]) ch w = some (w', prog)) :
    (ch.slot = 0 ∧ CanReserve (reserveParams ctx o m) w.now w.redis ∧
        w' = { w with redis := TicketRedis.reserved (reserveParams ctx o m) w.now w.redis } ∧
        prog = .ask (.persistOrder ctx o [m])) ∨
      (ch.fails = true ∨ ¬ CanReserve (reserveParams ctx o m) w.now w.redis) ∧
        ∃ e, prog = .ret (.error e) := by
  simp only [TicketOrder.reserveTickets] at h
  split at h
  · cases h
  · next s hs =>
    obtain ⟨hslot, rfl⟩ : ch.slot = 0 ∧ s = { item := m, reply := none } := by
      cases hk : ch.slot with
      | zero =>
          rw [hk] at hs
          cases hs
          exact ⟨rfl, rfl⟩
      | succ k =>
          rw [hk] at hs
          cases hs
    rw [hslot] at h
    simp only at h
    split at h
    · next hf =>
      cases h
      exact .inr ⟨.inl hf, _, rfl⟩
    · by_cases hcan : CanReserve (reserveParams ctx o m) w.now w.redis
      · rw [reserveTicket_ok hcan] at h
        cases h
        exact .inl ⟨hslot, hcan, rfl, rfl⟩
      · obtain ⟨e, he⟩ := reserveTicket_error hcan
        rw [he] at h
        cases h
        exact .inr ⟨.inr hcan, _, rfl⟩

/-- A call of createOrder for one item goes on. -/
theorem OneItem.book {ch : Choice} {w' : World} {d : Ask} {prog : Op} (hd : Books ctx o [m] d)
    (hh : OneHeld w₀ ctx o m w) (hfiled : d = .persistOrder ctx o [m] ∨ Filed ctx o m w)
    (h : dispatch ch w d = some (w', prog)) : OneItem w₀ ctx o m w' prog := by
  have hfits : Fruitless prog ∨ (newOrder ctx o [m]).FitsColumns := by
    rcases hfiled with rfl | hfiled
    · exact fits_of_persisted h
    · exact .inr hfiled.fits
  have hrow := hfiled.imp_right Filed.row
  rcases hfits with hdoomed | hfits
  · exact .doomed _ hdoomed
  obtain ⟨hredis, -, hdoomed | ⟨hrow', ⟨d', rfl, hd'⟩ | ⟨url, rfl⟩⟩⟩ := books_goOn hd hrow h
  · exact .doomed _ hdoomed
  · obtain ⟨now, hle, htaken⟩ := hh.taken
    exact .booking d' hd' ⟨now, hle, hredis.trans htaken⟩ ⟨hrow', hfits⟩
  · obtain ⟨now, hle, htaken⟩ := hh.taken
    exact .created url ⟨now, hle, hredis.trans htaken⟩ ⟨hrow', hfits⟩

/-- A turn keeps the order of one item on its way. -/
theorem OneItem.turn {ch : Choice} {k : Nat} {w₁ w₂ : World} {prog prog' : Op}
    (h : OneItem w₀ ctx o m w₁ prog) (hturn : backend.Turned ch k w₁ prog w₂ prog') :
    OneItem w₀ ctx o m w₂ prog' := by
  cases h with
  | reserving hredis hlater =>
      cases hturn with
      | asked _ _ _ hdec =>
          rcases reserveOne_cases hdec with ⟨-, -, rfl, rfl⟩ | ⟨-, e, rfl⟩
          · exact .persisting ⟨w₁.now, hlater, by rw [hredis]⟩
          · exact .doomed _ (fruitless_error e)
  | persisting hh =>
      cases hturn with
      | asked _ _ _ hdec => exact OneItem.book .persistOrder hh (.inl rfl) hdec
  | booking d hd hh hrow =>
      cases hturn with
      | asked _ _ _ hdec => exact OneItem.book hd hh (.inr hrow) hdec
  | created url _ _ => cases hturn
  | doomed _ hdoomed => exact .doomed _ (hdoomed.turn hturn)

/-- So does time. -/
theorem OneItem.tick {prog : Op} (h : OneItem w₀ ctx o m w prog) (ms : Nat) :
    OneItem w₀ ctx o m (TicketBackend.tick ms w) prog := by
  cases h with
  | reserving hredis hlater => exact .reserving hredis (le_trans hlater (Nat.le_add_right _ ms))
  | persisting hh => exact .persisting ⟨hh.taken⟩
  | booking d hd hh hfiled => exact .booking d hd ⟨hh.taken⟩ ⟨hfiled.row, hfiled.fits⟩
  | created url hh hfiled => exact .created url ⟨hh.taken⟩ ⟨hfiled.row, hfiled.fits⟩
  | doomed _ hdoomed => exact .doomed _ hdoomed

/-- So does a run alone. -/
theorem oneItem_of_alone {deadline : Nat} {tr : List (Turn World Ask Task Answer Choice)} {prog : Op}
    (h : backend.Alone (Before deadline) w₀ (awaitReserve ctx o (started [m])) tr w prog) :
    OneItem w₀ ctx o m w prog := by
  refine h.inv (I := fun _ w prog => OneItem w₀ ctx o m w prog) (.reserving rfl (le_refl _)) ?_ ?_
  · rintro tr w₁ w₂ prog₁ hp ⟨ms, rfl, -⟩
    exact hp.tick ms
  · exact fun tr w₁ w₂ prog₁ prog₂ k ch hp hturn => hp.turn hturn

/-! ### Its cancel -/

/-- A program that only lowers counters and writes the order's status. -/
inductive Lowers : Op → Prop where
  | batch (ts : List Task) (h rest : Op) :
      (∀ t ∈ ts, Task.decrements t = true) → Lowers rest → Lowers (.par ts h rest)
  | mark (order : Order) : Lowers (.ask (.markCancelled order))
  | ended (a : Answer) : Lowers (.ret a)

/-- A decrement owes something. -/
theorem owes_of_decrements {t : Task} (h : Task.decrements t = true) : Task.owes t = true := by
  cases t with
  | decrementReserved t q pos => rfl
  | decrementCounter u t q pos => rfl
  | _ => cases h

/-- A decrement stays within the database. -/
theorem performed_decrement {ch : Choice} {w' : World} {t : Task} {res : TaskResult Task}
    (h : Performed ch w t w' res) (hdec : Task.decrements t = true) :
    w'.redis = w.redis ∧ ∀ t', res ≠ .goOn t' := by
  cases h with
  | threw t _ => exact ⟨rfl, nofun⟩
  | ended t _ => exact ⟨rfl, nofun⟩
  | looked t t' howes _ _ =>
      rw [owes_of_decrements hdec] at howes
      cases howes
  | stockSet t available => cases hdec
  | limitSet u t currentCount => cases hdec
  | released site p => cases hdec
  | decremented t q pos db _ => exact ⟨rfl, nofun⟩
  | counterDecremented u t q pos db _ => exact ⟨rfl, nofun⟩

/-- A turn of the decrements leaves Redis alone. -/
theorem Lowers.turn {ch : Choice} {k : Nat} {w₁ w₂ : World} {prog prog' : Op} (h : Lowers prog)
    (hturn : backend.Turned ch k w₁ prog w₂ prog') : Lowers prog' ∧ w₂.redis = w₁.redis := by
  cases h with
  | batch ts hh rest hts hrest =>
      cases hturn with
      | settled _ _ => exact ⟨hrest, rfl⟩
      | resolved _ t _ _ _ hk hperf =>
          obtain ⟨hredis, -⟩ := performed_decrement (perform_performed hperf)
            (hts t (List.mem_of_getElem? hk))
          exact ⟨.batch _ _ _ (fun t' ht' => hts t' (List.mem_of_mem_eraseIdx ht')) hrest, hredis⟩
      | wentOn _ t t' _ _ _ hk hperf =>
          obtain ⟨-, hno⟩ := performed_decrement (perform_performed hperf)
            (hts t (List.mem_of_getElem? hk))
          exact absurd rfl (hno t')
  | mark order =>
      cases hturn with
      | asked _ _ _ hdec =>
          have hdec' : dispatch ch w₁ (.markCancelled order) = some (w₂, prog') := hdec
          cases dispatch_asked hdec' with
          | idle _ _ _ _ _ howes _ => cases howes
          | cancelled _ db _ _ => exact ⟨.ended _, rfl⟩
          | markFailed _ _ _ _ => exact ⟨.ended _, rfl⟩
          | deleted _ _ _ _ hd _ _ => rcases hd with hd | hd <;> cases hd
          | deleteRefused _ _ _ _ hd => rcases hd with hd | hd <;> cases hd
          | paying _ _ _ _ _ _ hpay _ _ => cases hpay
          | payingFailed _ _ _ _ _ hpay _ => cases hpay
  | ended a => cases hturn

/-- The item was reserved, and the release gave it back. -/
structure GivenBack (w₀ : World) (ctx : CreateCtx) (o : OrderId) (m : TicketMeta) (w : World) :
    Prop where
  given : ∃ now, w.redis = TicketRedis.released (releaseOf ctx o m)
    (TicketRedis.reserved (reserveParams ctx o m) now w₀.redis)

/-- Where the cancel of an order with one item can be. -/
inductive Cancelling (w₀ : World) (ctx : CreateCtx) (o : OrderId) (m : TicketMeta) (w : World) :
    Op → Prop where
  | asked : OneHeld w₀ ctx o m w → w.db.findOrder o = some (newOrder ctx o [m]) →
      Cancelling w₀ ctx o m w (.ask (.cancelOrder o ctx.userId))
  | releasing (rest : Op) : OneHeld w₀ ctx o m w → Lowers rest →
      Cancelling w₀ ctx o m w
        (.par [.releaseReservation .cancel (releaseOf ctx o m)] thrown rest)
  | returned (prog : Op) : GivenBack w₀ ctx o m w → Lowers prog → Cancelling w₀ ctx o m w prog
  | refused (e : ApiError) : Cancelling w₀ ctx o m w (.ret (.error e))

/-- A cancel begins with decrements. -/
theorem lowers_cancelOrder (order : Order) :
    Lowers (.par (typeDecrements order ++ counterDecrements order) thrown
      (.ask (.markCancelled order))) := by
  refine .batch _ _ _ (fun t ht => ?_) (.mark order)
  rcases List.mem_append.mp ht with ht | ht
  · obtain ⟨i, -, rfl⟩ := List.mem_map.mp ht
    rfl
  · obtain ⟨i, -, rfl⟩ := List.mem_map.mp ht
    rfl

/-- A turn keeps a cancel on its way. -/
theorem Cancelling.turn {ch : Choice} {k : Nat} {w₁ w₂ : World} {prog prog' : Op}
    (h : Cancelling w₀ ctx o m w₁ prog) (hlt : w₁.now < deadlineOf w₀ ctx)
    (hturn : backend.Turned ch k w₁ prog w₂ prog') : Cancelling w₀ ctx o m w₂ prog' := by
  cases h with
  | asked hh hrow =>
      cases hturn with
      | asked _ _ _ hdec =>
          have hread : w₂ = w₁ ∧
              (prog' = thrown ∨ prog' = TicketOrder.cancelOrder o ctx.userId w₁) := by
            simp only [backend, dispatch, reads, Option.some.injEq, Prod.mk.injEq] at hdec
            obtain ⟨rfl, rfl⟩ := hdec
            refine ⟨rfl, ?_⟩
            split
            · exact .inl rfl
            · exact .inr rfl
          obtain ⟨rfl, rfl | rfl⟩ := hread
          · exact .refused _
          · have hprog : TicketOrder.cancelOrder o ctx.userId w₂
                = .par (releases .cancel (newOrder ctx o [m])) thrown
                  (.par (typeDecrements (newOrder ctx o [m])
                    ++ counterDecrements (newOrder ctx o [m])) thrown
                    (.ask (.markCancelled (newOrder ctx o [m])))) := by
              simp only [TicketOrder.cancelOrder, hrow]
              exact (if_neg (not_not.mpr rfl)).trans (if_neg (not_not.mpr rfl))
            rw [hprog]
            exact .releasing _ hh (lowers_cancelOrder _)
  | releasing rest hh hrest =>
      cases hturn with
      | resolved _ t _ _ _ hk hperf =>
          cases k with
          | succ k => cases hk
          | zero =>
              cases hk
              have hperf' : perform ch w₁ (.releaseReservation .cancel (releaseOf ctx o m))
                  = some (w₂, .resolved) := hperf
              cases perform_performed hperf' with
              | ended _ howes => cases howes
              -- the record still lives, so the release gives the one item back
              | released site p =>
                  obtain ⟨now, hle, hredis⟩ := hh.taken
                  have hlive : w₁.now < now + ctx.ttl * 1000 := by
                    simp only [deadlineOf] at hlt
                    omega
                  refine .returned _ ⟨now, ?_⟩ (.batch _ _ _ (by intro t ht; cases ht) hrest)
                  rw [hredis]
                  exact (release_of_matches (matches_reserved hlive)).1
      | wentOn _ t t' _ _ _ hk hperf =>
          cases k with
          | succ k => cases hk
          | zero =>
              cases hk
              have hperf' : perform ch w₁ (.releaseReservation .cancel (releaseOf ctx o m))
                  = some (w₂, .goOn t') := hperf
              cases perform_performed hperf' with
              | looked _ _ howes _ _ => cases howes
  | returned _ hret hlow =>
      obtain ⟨hlow', hredis⟩ := hlow.turn hturn
      obtain ⟨now, hgiven⟩ := hret.given
      exact .returned _ ⟨now, hredis.trans hgiven⟩ hlow'
  | refused e => cases hturn

/-- So does time. -/
theorem Cancelling.tick {prog : Op} (h : Cancelling w₀ ctx o m w prog) (ms : Nat) :
    Cancelling w₀ ctx o m (TicketBackend.tick ms w) prog := by
  cases h with
  | asked hh hrow => exact .asked ⟨hh.taken⟩ hrow
  | releasing rest hh hrest => exact .releasing rest ⟨hh.taken⟩ hrest
  | returned _ hret hlow => exact .returned _ ⟨hret.given⟩ hlow
  | refused e => exact .refused e

/-- A created order of one item, cancelled in time, has been given back. -/
theorem returned_of_cancelled (hfresh : Fresh w₀ ctx o)
    (h : CreatedThenCancelled w₀ ctx o [m] w) : GivenBack w₀ ctx o m w := by
  obtain ⟨tr₁, w₁, url, tr₂, hcreated, hcancelled⟩ := h
  obtain ⟨-, hlt⟩ := now_of_alone hcreated hfresh.now_lt
  have hstart : Cancelling w₀ ctx o m w₁ (.ask (.cancelOrder o ctx.userId)) := by
    cases oneItem_of_alone hcreated with
    | created _ hh hfiled => exact .asked hh hfiled.row
    | doomed _ hdoomed =>
        cases hdoomed with
        | ended _ hne => exact absurd rfl (hne o url)
  have hend : w.now < deadlineOf w₀ ctx ∧ Cancelling w₀ ctx o m w (.ret (.orderCancelled o)) := by
    refine hcancelled.inv (I := fun _ w prog => w.now < deadlineOf w₀ ctx ∧
      Cancelling w₀ ctx o m w prog) ⟨hlt, hstart⟩ ?_ ?_
    · rintro tr w₁ w₂ prog₁ ⟨-, hp⟩ ⟨ms, rfl, hlt'⟩
      exact ⟨hlt', hp.tick ms⟩
    · rintro tr w₁ w₂ prog₁ prog₂ k ch ⟨hlt', hp⟩ hturn
      exact ⟨by rw [turned_now hturn]; exact hlt', hp.turn hlt' hturn⟩
  cases hend.2 with
  | returned _ hret _ => exact hret

/-- An order that was created fits its columns. -/
theorem fits_of_created (h : CreatedThenCancelled w₀ ctx o [m] w) :
    (newOrder ctx o [m]).FitsColumns := by
  obtain ⟨tr₁, w₁, url, tr₂, hcreated, -⟩ := h
  cases oneItem_of_alone hcreated with
  | created _ _ hfiled => exact hfiled.fits
  | doomed _ hdoomed =>
      cases hdoomed with
      | ended _ hne => exact absurd rfl (hne o url)

/-! ### Some database lets the order through -/

/-- A sale of the item's type, with as many tickets as the item asks for. -/
def saleOf (ctx : CreateCtx) (m : TicketMeta) : Db where
  concerts := [{ id := ctx.concertId, organizerId := 0, status := .saleOpen }]
  gates := []
  ticketTypes := [{ id := m.ticketTypeId, concertId := ctx.concertId, name := "",
                    price := m.unitPrice, totalQty := m.quantity, soldQty := 0, reservedQty := 0,
                    maxPerUser := m.maxPerUser, saleStartsAt := 0, saleEndsAt := none,
                    status := .active }]
  orders := []
  payments := []
  tickets := []
  counters := fun _ => none

/-- The database once the order is booked. -/
def bookedOf (ctx : CreateCtx) (o : OrderId) (m : TicketMeta) : Db :=
  putCounter ctx.userId m.ticketTypeId { paidQty := 0, reservedQty := m.quantity }
    (bumpType m.ticketTypeId 0 m.quantity
      { saleOf ctx m with orders := [newOrder ctx o [m]] })

/-- The order is booked. -/
theorem bookedOf_findOrder : (bookedOf ctx o m).findOrder o = some (newOrder ctx o [m]) := by
  simp [bookedOf, putCounter, bumpType, Db.findOrder, RowTable.lookup, newOrder]

/-- There the call is answered with the order, and its rows are in place. -/
theorem exists_created (w : World) (hdb : w.db = saleOf ctx m)
    (hfits : (newOrder ctx o [m]).FitsColumns) :
    ∃ w₁ url, backend.Ends Calm w (.ask (.persistOrder ctx o [m])) w₁ (.orderCreated o url) ∧
      w₁.now = w.now ∧ w₁.db.findOrder o = some (newOrder ctx o [m]) ∧
      HasRows (newOrder ctx o [m]) w₁ := by
  -- the calls one after the other, each with its state
  obtain ⟨amount, hamount⟩ : ∃ amount, (newOrder ctx o [m]).totalAmountInVnd = amount := ⟨_, rfl⟩
  have hpersist : ∀ ch, Calm ch → backend.decide ch w (.persistOrder ctx o [m])
      = some ({ w with db := { saleOf ctx m with orders := [newOrder ctx o [m]] } },
        .ask (.syncInventory ctx o [m])) := by
    intro ch hch
    have hfails : ch.fails = false := hch
    have hins : insertOrder (newOrder ctx o [m]) (saleOf ctx m)
        = some { saleOf ctx m with orders := [newOrder ctx o [m]] } := by
      simp only [insertOrder, hfits]
      simp [Db.findOrder, Db.findConcert, Db.findTicketType, RowTable.lookup, saleOf, newOrder,
        orderItems]
    simp [backend, dispatch, TicketOrder.persistOrder, hfails, hdb, hins]
  have hsync : ∀ ch, Calm ch → backend.decide ch
      { w with db := { saleOf ctx m with orders := [newOrder ctx o [m]] } }
      (.syncInventory ctx o [m]) = some ({ w with db := bookedOf ctx o m },
        .ask (.createPaymentUrl (.createOrder ctx [m]) o ctx.userId)) := by
    intro ch hch
    have hfails : ch.fails = false := hch
    simp [backend, dispatch, TicketOrder.syncInventory, hfails, TicketDb.syncInventory,
      reserveInventory, Db.findTicketType, RowTable.lookup, saleOf, bookedOf, upsertReserved,
      bumpType]
  have hurl : ∀ ch, Calm ch → backend.decide ch { w with db := bookedOf ctx o m }
      (.createPaymentUrl (.createOrder ctx [m]) o ctx.userId)
        = some ({ w with db := bookedOf ctx o m },
          .ask (.callGateway (.createOrder ctx [m]) o amount none)) := by
    intro ch hch
    have hfails : ch.fails = false := hch
    have hnone : existingInitiated (bookedOf ctx o m) o = none := rfl
    have huser : (newOrder ctx o [m]).userId = ctx.userId := rfl
    have hpending : (newOrder ctx o [m]).status = .pendingPayment := rfl
    simp [backend, dispatch, hfails, TicketPayment.createPaymentUrl, bookedOf_findOrder, hnone,
      huser, hpending, hamount]
  have hcall : ∀ ch, Calm ch → backend.decide ch { w with db := bookedOf ctx o m }
      (.callGateway (.createOrder ctx [m]) o amount none)
        = some ({ w with db := bookedOf ctx o m },
          .ask (.savePaymentUrl (.createOrder ctx [m]) o amount none
            (w.config.gatewayBaseUrl ++ "/payments/mock-page?orderId=" ++ toString o
              ++ "&amount=" ++ toString amount))) := by
    intro ch hch
    have hfails : ch.fails = false := hch
    simp only [backend, dispatch, TicketPayment.callGateway, hfails]
    rfl
  have hsave : ∀ url ch, Calm ch → backend.decide ch { w with db := bookedOf ctx o m }
      (.savePaymentUrl (.createOrder ctx [m]) o amount none url)
        = some ({ w with db := { bookedOf ctx o m with
            payments := [{ id := 0, orderId := o, status := .initiated, amount := amount,
                           providerTransactionId := none, paymentUrl := some url }] } },
          .ask (.scheduleExpiry ctx o url)) := by
    intro url ch hch
    have hfails : ch.fails = false := hch
    simp [backend, dispatch, TicketPayment.savePaymentUrl, hfails, writePaymentUrl, insertPayment,
      bookedOf_findOrder, paymentDone]
    simp [bookedOf, putCounter, bumpType, saleOf]
  have hschedule : ∀ (w : World) url ch, Calm ch → backend.decide ch w (.scheduleExpiry ctx o url)
      = some ({ w with expireJobs := w.expireJobs ++ [(o, w.now + ctx.ttl * 1000)] },
        .ret (.orderCreated o url)) := by
    intro w url ch hch
    have hfails : ch.fails = false := hch
    simp only [backend, dispatch, TicketOrder.scheduleExpiry, hfails]
    rfl
  -- six calls, none of which fails
  refine ⟨_, _, (ends_ask exists_calm hpersist).mpr ((ends_ask exists_calm hsync).mpr
    ((ends_ask exists_calm hurl).mpr ((ends_ask exists_calm hcall).mpr
      ((ends_ask exists_calm (hsave _)).mpr ((ends_ask exists_calm (hschedule _ _)).mpr
        (.answered _ _)))))), rfl, bookedOf_findOrder, ?_⟩
  intro i hi
  have hid : i.ticketTypeId = m.ticketTypeId := by
    simp only [newOrder, orderItems, List.mapIdx_cons, List.mapIdx_nil, List.mem_singleton] at hi
    rw [hi]
  rw [hid]
  constructor
  · simp [bookedOf, putCounter, bumpType, saleOf, Db.findTicketType, RowTable.lookup,
      RowTable.modify]
  · simp [bookedOf, putCounter, newOrder]

/-- An item that can be reserved is ordered and cancelled there. -/
theorem exists_cancelled (hcan : CanReserve (reserveParams ctx o m) w₀.now w₀.redis)
    (hfits : (newOrder ctx o [m]).FitsColumns) :
    ∃ w, CreatedThenCancelled { w₀ with db := saleOf ctx m } ctx o [m] w := by
  have hadv : backend.advance {} 0 { w₀ with db := saleOf ctx m } (awaitReserve ctx o (started [m]))
      = some ({ w₀ with db := saleOf ctx m,
                        redis := TicketRedis.reserved (reserveParams ctx o m) w₀.now w₀.redis },
        .ask (.persistOrder ctx o [m]), []) := by
    have hres := reserveTicket_ok hcan
    have hask : awaitReserve ctx o (started [m]) = .ask (.reserveTickets ctx o (started [m])) := rfl
    rw [hask]
    simp only [System.advance, backend, dispatch, TicketOrder.reserveTickets, started,
      List.map_cons, List.map_nil, List.getElem?_cons_zero, hres]
    rfl
  obtain ⟨w₁, url, hends, -, hrow, hrows⟩ := exists_created (o := o)
    { w₀ with db := saleOf ctx m,
              redis := TicketRedis.reserved (reserveParams ctx o m) w₀.now w₀.redis } rfl hfits
  have hends' : backend.Ends Calm w₁ (.ask (.cancelOrder o ctx.userId)) _ (.orderCancelled o) :=
    (ends_cancelOrder hrow rfl hrows).mpr ⟨rfl, rfl⟩
  obtain ⟨tr₁, hbook⟩ := alone_of_ends hends
  obtain ⟨tr₂, hcancel⟩ := alone_of_ends hends'
  exact ⟨_, _, w₁, url, tr₂, System.Alone.trans (.turn 0 {} .start hadv) hbook, hcancel⟩

/-! ## Together -/

/-- The one item is reserved in the one order of execution. -/
theorem reserves_one (hfresh : Fresh w₀ ctx o)
    (hcan : CanReserve (reserveParams ctx o m) w₀.now w₀.redis) {prog : Op}
    (hexec : Executed w₀ ctx o [m] [0] w prog) :
    prog = .ask (.persistOrder ctx o [m]) ∧
      ∃ now, w.redis = TicketRedis.reserved (reserveParams ctx o m) now w₀.redis := by
  obtain ⟨tr, hrun, hcalm, horder⟩ := hexec
  have hlen : tr.length = 1 := by
    rw [← List.length_map (fun turn => turn.choice.slot), horder]
    rfl
  have hinv := hrun.inv (I := fun tr w prog => (∀ turn ∈ tr, turn.choice.fails = false) →
    (tr.length = 0 → prog = .ask (.reserveTickets ctx o (started [m])) ∧ w.redis = w₀.redis ∧
        w₀.now ≤ w.now) ∧
      (tr.length = 1 → prog = .ask (.persistOrder ctx o [m]) ∧
        ∃ now, w.redis = TicketRedis.reserved (reserveParams ctx o m) now w₀.redis))
    ?_ ?_ ?_ hcalm
  · exact hinv.2 hlen
  · intro _
    exact ⟨fun _ => ⟨rfl, rfl, le_refl _⟩, nofun⟩
  · rintro tr w₁ w₂ prog₁ hp ⟨ms, rfl, -⟩ hall
    obtain ⟨h0, h1⟩ := hp hall
    refine ⟨fun hz => ?_, h1⟩
    obtain ⟨hprog, hredis, hle⟩ := h0 hz
    exact ⟨hprog, hredis, le_trans hle (Nat.le_add_right _ ms)⟩
  · intro tr w₁ w₂ prog₁ prog₂ k ch hp hturn hall
    obtain ⟨h0, -⟩ := hp fun turn hmem => hall turn (List.mem_append_left _ hmem)
    refine ⟨fun hz => by simp at hz, fun hone => ?_⟩
    have hz : tr.length = 0 := by simpa using hone
    obtain ⟨rfl, hredis, hle⟩ := h0 hz
    have hcan' : CanReserve (reserveParams ctx o m) w₁.now w₁.redis := by
      rw [hredis]
      exact (canReserve_later hle hfresh.record).mpr hcan
    cases hturn with
    | asked _ _ _ hdec =>
        rcases reserveOne_cases hdec with ⟨-, -, rfl, rfl⟩ | ⟨hfails | hno, -⟩
        · exact ⟨rfl, w₁.now, by rw [hredis]⟩
        · have := hall _ (List.mem_append_right _ (List.mem_singleton_self _))
          simp [hfails] at this
        · exact absurd hcan' hno

/-- **Orders with several ticket types.**  Of items that can each be reserved, a call
    reserves all, and its cancel gives them back, whatever the database holds, exactly if
    it has one item, and the user's counter is not negative where the order row can be
    written at all. -/
theorem several_types_reserved (hfresh : Fresh w₀ ctx o) (hne : metas ≠ [])
    (hcan : ∀ m ∈ metas, CanReserve (reserveParams ctx o m) w₀.now w₀.redis) :
    (∀ db, ReservesAll { w₀ with db := db } ctx o metas) ↔
      ∃ m, metas = [m] ∧ ((newOrder ctx o metas).FitsColumns →
        0 ≤ userLimitOf w₀.redis ctx.userId m.ticketTypeId) := by
  have hfresh' : ∀ db, Fresh { w₀ with db := db } ctx o := fun db => ⟨hfresh.ttl, hfresh.record⟩
  constructor
  · intro hall
    obtain ⟨m, rfl⟩ : ∃ m, metas = [m] := by
      cases metas with
      | nil => exact absurd rfl hne
      | cons m metas =>
          cases metas with
          | nil => exact ⟨m, rfl⟩
          | cons m' metas =>
              have hlen : 2 ≤ (m :: m' :: metas).length := by simp
              exact absurd (hall w₀.db) (not_reservesAll hfresh hlen)
    refine ⟨m, rfl, fun hfits => ?_⟩
    obtain ⟨w, hcancelled⟩ := exists_cancelled (hcan m List.mem_cons_self) hfits
    obtain ⟨-, hlimit⟩ := (hall _).returns w hcancelled m List.mem_cons_self
    obtain ⟨now, hgiven⟩ := (returned_of_cancelled (hfresh' _) hcancelled).given
    rw [hgiven, userLimitOf_returned] at hlimit
    exact max_eq_right_iff.mp hlimit
  · rintro ⟨m, rfl, hpos⟩ db
    refine ⟨fun order hperm => executes hperm, ?_, ?_⟩
    · intro order w prog hperm hexec
      have horder : order = [0] := List.perm_singleton.mp hperm
      subst horder
      obtain ⟨hprog, now, hredis⟩ := reserves_one (hfresh' db) (hcan m List.mem_cons_self) hexec
      refine ⟨hprog, fun m' hm' => ?_⟩
      rw [List.mem_singleton.mp hm', hredis]
      exact ⟨stockOf_reserved_self (reserveParams ctx o m) now w₀.redis,
        userLimitOf_reserved_self (reserveParams ctx o m) now w₀.redis⟩
    · intro w hcancelled m' hm'
      obtain ⟨now, hgiven⟩ := (returned_of_cancelled (hfresh' db) hcancelled).given
      rw [List.mem_singleton.mp hm', hgiven]
      refine ⟨stockOf_returned m now w₀.redis _, ?_⟩
      rw [userLimitOf_returned]
      exact max_eq_right (hpos (fits_of_created hcancelled))

/-- One item: its database is the sale's. -/
theorem several_types_reserved_one : ReservesAll twoTypes buyer 1 [oneMeta 1] := by
  have hcan : ∀ m ∈ [oneMeta 1], CanReserve (reserveParams buyer 1 m) twoTypes.now twoTypes.redis := by
    intro m hm
    rw [List.mem_singleton.mp hm]
    decide
  have hall := (several_types_reserved twoTypes_fresh (List.cons_ne_nil _ _) hcan).mpr
    ⟨oneMeta 1, rfl, fun _ => by decide⟩
  exact hall twoTypes.db

/-- Two items, each of which can be reserved alone: the second one executed is refused,
    and no order is written. -/
theorem several_types_refused :
    (∀ m ∈ [oneMeta 1, oneMeta 2],
      CanReserve (reserveParams buyer 1 m) twoTypes.now twoTypes.redis) ∧
    ∃ w prog, Executed twoTypes buyer 1 [oneMeta 1, oneMeta 2] [0, 1] w prog ∧
      prog ≠ .ask (.persistOrder buyer 1 [oneMeta 1, oneMeta 2]) ∧ stockOf w.redis 2 = 5 := by
  constructor
  · intro m hm
    simp only [List.mem_cons, List.not_mem_nil, or_false] at hm
    rcases hm with rfl | rfl <;> decide
  · obtain ⟨tr, w, prog, hrun, hall, horder, hbooks, hstock⟩ := exists_alone (reserveRun [0, 1] 0)
      (fun x => (x.1.all fun turn => !turn.choice.fails) = true ∧
        x.1.map (fun turn => turn.choice.slot) = [0, 1] ∧ books x.2.2 = false ∧
        stockOf x.2.1.redis 2 = 5)
      (show (backend.turns twoTypes (awaitReserve buyer 1 (started [oneMeta 1, oneMeta 2]))
        (reserveRun [0, 1] 0)).any _ = true by decide)
    refine ⟨w, prog, ⟨tr, hrun, fun turn hturn => ?_, horder⟩, ?_, hstock⟩
    · simpa using List.all_eq_true.mp hall turn hturn
    · rintro rfl
      cases hbooks

end TicketBackend
