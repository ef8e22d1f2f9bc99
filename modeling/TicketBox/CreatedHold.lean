import TicketBox.BookingSteps
import TicketBox.ReserveProofs

/-! # The hold of a created order

    What a successful createOrder leaves in Redis while others are at work on other
    orders: `Aside` is what they may do.  A created order has one item, its stock and
    its user's counter are taken, its record lives until the end of the window counted
    from the reservation, and its expiry job is due no earlier than that
    (`held_of_created`). -/

namespace TicketBackend

open Interleave TicketStore TicketRedis TicketDb TicketFlow TicketOrder TicketPayment

/-- Others leave the keys of these items, the order's record, its row and its jobs alone. -/
structure Aside (ctx : CreateCtx) (o : OrderId) (metas : List TicketMeta) (w w' : World) : Prop where
  now : w.now ≤ w'.now
  stock : ∀ m ∈ metas, stockOf w'.redis m.ticketTypeId = stockOf w.redis m.ticketTypeId
  userLimit : ∀ m ∈ metas,
    userLimitOf w'.redis ctx.userId m.ticketTypeId = userLimitOf w.redis ctx.userId m.ticketTypeId
  record : w'.redis.reservations o = w.redis.reservations o
  order : w'.db.findOrder o = w.db.findOrder o
  jobs : ∀ j ∈ w'.expireJobs, j.1 = o → j ∈ w.expireJobs

/-- The same, and the record of the order, once written, does not lapse. -/
def AsideLive (ctx : CreateCtx) (o : OrderId) (metas : List TicketMeta) (w w' : World) : Prop :=
  Aside ctx o metas w w' ∧ ∀ e ∈ w'.redis.reservations o, w'.now < e.expireAt

/-- What a createOrder call sets out from at its reservations: the window of the
    configuration and an order id nobody has used. -/
structure Unused (w : World) (ctx : CreateCtx) (o : OrderId) : Prop where
  ttl : ctx.ttl = getReservationTtl w.config
  record : w.redis.reservations o = none
  jobs : ∀ j ∈ w.expireJobs, j.1 ≠ o

/-- The record of the reservation, made up to now. -/
structure RecordOf (ctx : CreateCtx) (o : OrderId) (m : TicketMeta) (now : Nat) (e : Reservation) :
    Prop where
  orderId : e.orderId = o
  userId : e.userId = ctx.userId
  ticketTypeId : e.ticketTypeId = m.ticketTypeId
  quantity : e.quantity = m.quantity
  made : e.expireAt ≤ now + ctx.ttl * 1000

/-- The item is taken from its stock and counted for its user, and the record says so. -/
structure KeysHeld (w₀ : World) (ctx : CreateCtx) (o : OrderId) (m : TicketMeta) (w : World) :
    Prop where
  stock : stockOf w.redis m.ticketTypeId = stockOf w₀.redis m.ticketTypeId - m.quantity
  userLimit : userLimitOf w.redis ctx.userId m.ticketTypeId
    = userLimitOf w₀.redis ctx.userId m.ticketTypeId + m.quantity
  record : ∃ e, w.redis.reservations o = some e ∧ RecordOf ctx o m w.now e

/-- The expiry jobs of the order are due when its record has ended. -/
def JobsLate (o : OrderId) (w : World) : Prop :=
  ∀ e ∈ w.redis.reservations o, ∀ j ∈ w.expireJobs, j.1 = o → e.expireAt ≤ j.2

variable {w₀ w w' : World} {ctx : CreateCtx} {o : OrderId} {metas : List TicketMeta}
  {m : TicketMeta}

/-- What others do leaves the order's keys held. -/
theorem KeysHeld.aside (h : KeysHeld w₀ ctx o m w) (hm : m ∈ metas) (ha : Aside ctx o metas w w') :
    KeysHeld w₀ ctx o m w' := by
  obtain ⟨e, he, hrec⟩ := h.record
  refine ⟨(ha.stock m hm).trans h.stock, (ha.userLimit m hm).trans h.userLimit, e,
    ha.record.trans he, { hrec with made := ?_ }⟩
  have := ha.now
  have := hrec.made
  omega

/-- Calls that leave Redis alone leave the hold. -/
theorem KeysHeld.same (h : KeysHeld w₀ ctx o m w) (hredis : w'.redis = w.redis)
    (hnow : w'.now = w.now) : KeysHeld w₀ ctx o m w' := by
  obtain ⟨e, he, hrec⟩ := h.record
  refine ⟨hredis ▸ h.stock, hredis ▸ h.userLimit, e, hredis ▸ he, ?_⟩
  rw [hnow]
  exact hrec

/-- It leaves the expiry job late. -/
theorem JobsLate.aside (h : JobsLate o w) (ha : Aside ctx o metas w w') : JobsLate o w' := by
  intro e he j hj hjo
  rw [ha.record] at he
  exact h e he j (ha.jobs j hj hjo) hjo

/-! ## The reservations -/

/-- What the executed reservations have taken: nothing, or one item. -/
inductive Took (w₀ : World) (ctx : CreateCtx) (o : OrderId) (metas : List TicketMeta) (w : World)
    (slots : List ReserveSlot) : Prop where
  | nothing :
      (∀ m ∈ metas, stockOf w.redis m.ticketTypeId = stockOf w₀.redis m.ticketTypeId ∧
        userLimitOf w.redis ctx.userId m.ticketTypeId
          = userLimitOf w₀.redis ctx.userId m.ticketTypeId) →
      w.redis.reservations o = none →
      (∀ s ∈ slots, ReserveSlot.accepted s = false) → Took w₀ ctx o metas w slots
  | one (k : Nat) (m : TicketMeta) :
      metas[k]? = some m → KeysHeld w₀ ctx o m w →
      (∀ e ∈ w.redis.reservations o, w.now < e.expireAt) →
      (∀ j s, slots[j]? = some s → (ReserveSlot.accepted s = true ↔ j = k)) →
      Took w₀ ctx o metas w slots

/-- The reservations are running. -/
structure Tally (w₀ : World) (ctx : CreateCtx) (o : OrderId) (metas : List TicketMeta) (w : World)
    (slots : List ReserveSlot) : Prop where
  items : slots.map ReserveSlot.item = metas
  took : Took w₀ ctx o metas w slots
  jobs : ∀ j ∈ w.expireJobs, j.1 ≠ o

/-- Where a createOrder call can be. -/
inductive Creating (w₀ : World) (ctx : CreateCtx) (o : OrderId) (metas : List TicketMeta)
    (w : World) : Op → Prop where
  | reserving (slots : List ReserveSlot) : Tally w₀ ctx o metas w slots →
      Creating w₀ ctx o metas w (.ask (.reserveTickets ctx o slots))
  | booking (m : TicketMeta) (d : Ask) :
      metas = [m] → Books ctx o [m] d → KeysHeld w₀ ctx o m w → JobsLate o w →
      (d = .persistOrder ctx o [m] ∨ w.db.findOrder o = some (newOrder ctx o [m])) →
      Creating w₀ ctx o metas w (.ask d)
  | created (m : TicketMeta) (url : String) :
      metas = [m] → KeysHeld w₀ ctx o m w → JobsLate o w →
      w.db.findOrder o = some (newOrder ctx o [m]) →
      Creating w₀ ctx o metas w (.ret (.orderCreated o url))
  | doomed (prog : Op) : Fruitless prog → Creating w₀ ctx o metas w prog

/-- A settled batch goes on. -/
theorem Tally.await (hne : metas ≠ []) {slots : List ReserveSlot}
    (h : Tally w₀ ctx o metas w slots) : Creating w₀ ctx o metas w (awaitReserve ctx o slots) := by
  simp only [awaitReserve]
  split
  · next hall =>
    have hsettles := afterReserve_settles ctx o slots (by simpa using hall)
    generalize afterReserve ctx o slots = prog at hsettles
    cases hsettles with
    | threw s _ _ => exact .doomed _ (fruitless_error _)
    | rejected k s e _ _ _ => exact .doomed _ (fruitless_rollback _ _)
    | succeeded hacc =>
        have hlen : 0 < slots.length := by
          rw [← List.length_map ReserveSlot.item, h.items]
          exact List.length_pos_of_ne_nil hne
        have hall : ∀ j, j < slots.length → ∃ s, slots[j]? = some s ∧ ReserveSlot.accepted s = true :=
          fun j hj => ⟨slots[j], List.getElem?_eq_getElem hj, hacc _ (List.getElem_mem hj)⟩
        cases h.took with
        | nothing _ _ hnone =>
            obtain ⟨s, hs, hyes⟩ := hall 0 hlen
            rw [hnone s (List.mem_of_getElem? hs)] at hyes
            cases hyes
        | one k m hm hkeys _ hone =>
            -- all were accepted, and only entry `k` was
            have hk : ∀ j, j < slots.length → j = k := by
              intro j hj
              obtain ⟨s, hs, hyes⟩ := hall j hj
              exact (hone j s hs).mp hyes
            have hlen1 : slots.length = 1 := by
              by_contra hne1
              have h0 := hk 0 hlen
              have h1 := hk 1 (by omega)
              omega
            obtain rfl : metas = [m] := by
              have hmetas : metas.length = 1 := by
                rw [← h.items, List.length_map, hlen1]
              obtain ⟨m', rfl⟩ := List.length_eq_one_iff.mp hmetas
              obtain rfl : k = 0 := (hk 0 hlen).symm
              cases hm
              rfl
            rw [h.items]
            refine .booking m _ rfl .persistOrder hkeys (fun e _ j hj hjo => ?_) (.inl rfl)
            exact absurd hjo (h.jobs j hj)
  · exact .reserving slots h

/-- Others at work beside the reservations. -/
theorem Tally.aside {slots : List ReserveSlot} (h : Tally w₀ ctx o metas w slots)
    (ha : AsideLive ctx o metas w w') : Tally w₀ ctx o metas w' slots := by
  obtain ⟨ha, hlive⟩ := ha
  refine ⟨h.items, ?_, fun j hj hjo => h.jobs j (ha.jobs j hj hjo) hjo⟩
  cases h.took with
  | nothing hkeys hnone hacc =>
      refine .nothing (fun m hm => ?_) (ha.record.trans hnone) hacc
      exact ⟨(ha.stock m hm).trans (hkeys m hm).1, (ha.userLimit m hm).trans (hkeys m hm).2⟩
  | one k m hm hkeys _ hone => exact .one k m hm (hkeys.aside (List.mem_of_getElem? hm) ha) hlive hone

/-- A reservation that takes effect writes what `KeysHeld` says, in a live record. -/
theorem keysHeld_reserved (hunused : Unused w₀ ctx o) {redis : Redis}
    (hstock : stockOf w.redis m.ticketTypeId = stockOf w₀.redis m.ticketTypeId)
    (hlimit : userLimitOf w.redis ctx.userId m.ticketTypeId
      = userLimitOf w₀.redis ctx.userId m.ticketTypeId)
    (hredis : redis = TicketRedis.reserved (reserveParams ctx o m) w.now w.redis) :
    KeysHeld w₀ ctx o m { w with redis := redis } ∧
      ∀ e ∈ redis.reservations o, w.now < e.expireAt := by
  subst hredis
  have hrecord : (TicketRedis.reserved (reserveParams ctx o m) w.now w.redis).reservations o
      = some { orderId := o, userId := ctx.userId, ticketTypeId := m.ticketTypeId,
               quantity := m.quantity, createdAt := w.now / 1000,
               expireAt := w.now + ctx.ttl * 1000 } := Function.update_self ..
  refine ⟨⟨?_, ?_, _, hrecord, ⟨rfl, rfl, rfl, rfl, le_refl _⟩⟩, fun e he => ?_⟩
  · rw [← hstock]
    exact stockOf_reserved_self (reserveParams ctx o m) w.now w.redis
  · rw [← hlimit]
    exact userLimitOf_reserved_self (reserveParams ctx o m) w.now w.redis
  · rw [hrecord] at he
    cases he
    have := getReservationTtl_pos w₀.config
    rw [← hunused.ttl] at this
    show w.now < w.now + ctx.ttl * 1000
    omega

/-- One more reservation settles. -/
theorem Tally.turn {slots : List ReserveSlot} {ch : Choice} {prog : Op}
    (hunused : Unused w₀ ctx o) (h : Tally w₀ ctx o metas w slots)
    (hdec : dispatch ch w (.reserveTickets ctx o slots) = some (w', prog)) :
    ∃ slots', prog = awaitReserve ctx o slots' ∧ Tally w₀ ctx o metas w' slots' := by
  cases dispatch_asked hdec with
  | idle _ _ _ _ _ howes _ => cases howes
  | paying _ _ _ _ _ _ hd _ _ => cases hd
  | payingFailed _ _ _ _ _ hd _ => cases hd
  | deleted _ _ _ _ hd _ _ => rcases hd with hd | hd <;> cases hd
  | deleteRefused _ _ _ _ hd => rcases hd with hd | hd <;> cases hd
  | markFailed _ _ hd _ => rcases hd with hd | hd <;> cases hd
  | reserveThrew _ _ _ s hs hpending =>
      refine ⟨_, rfl, (items_set hs _).trans h.items, ?_, h.jobs⟩
      cases h.took with
      | nothing hkeys hnone hacc => exact .nothing hkeys hnone (all_of_set hacc rfl)
      | one k m hm hkeys hlive hone =>
          exact .one k m hm hkeys hlive (accepted_set_refused hs hpending rfl hone)
  | reserved _ _ _ s redis res hs hpending hres =>
      refine ⟨_, rfl, (items_set hs _).trans h.items, ?_, h.jobs⟩
      have hitem : metas[ch.slot]? = some s.item := by
        rw [← h.items, List.getElem?_map, hs]
        rfl
      by_cases hcan : CanReserve (reserveParams ctx o s.item) w.now w.redis
      · rw [reserveTicket_ok hcan] at hres
        cases hres
        cases h.took with
        | nothing hkeys hnone hacc =>
            obtain ⟨hstock, hlimit⟩ := hkeys s.item (List.mem_of_getElem? hitem)
            obtain ⟨hheld, hlive⟩ := keysHeld_reserved (w := w) hunused hstock hlimit rfl
            exact .one ch.slot s.item hitem hheld hlive (accepted_set_first hs hacc rfl)
        | one k m hm hkeys hlive hone =>
            -- the record of the accepted item is live
            obtain ⟨e, he, -⟩ := hkeys.record
            have hrecord := hcan.2.2
            rw [Redis.reservation, show (reserveParams ctx o s.item).orderId = o from rfl, he,
              Option.filter_some, if_pos (by simpa using hlive e he)] at hrecord
            cases hrecord
      · obtain ⟨e, he⟩ := reserveTicket_error hcan
        rw [he] at hres
        cases hres
        cases h.took with
        | nothing hkeys hnone hacc => exact .nothing hkeys hnone (all_of_set hacc rfl)
        | one k m hm hkeys hlive hone =>
            exact .one k m hm hkeys hlive (accepted_set_refused hs hpending rfl hone)

/-! ## The whole operation -/

/-- It leaves a createOrder where it is. -/
theorem Creating.aside {prog : Op} (h : Creating w₀ ctx o metas w prog)
    (ha : AsideLive ctx o metas w w') : Creating w₀ ctx o metas w' prog := by
  cases h with
  | reserving slots htally => exact .reserving slots (htally.aside ha)
  | booking m d hmetas hd hkeys hjobs hrow =>
      subst hmetas
      refine .booking m d rfl hd (hkeys.aside (List.mem_singleton_self m) ha.1)
        (hjobs.aside ha.1) ?_
      exact hrow.imp_right fun hrow => ha.1.order.trans hrow
  | created m url hmetas hkeys hjobs hrow =>
      subst hmetas
      exact .created m url rfl (hkeys.aside (List.mem_singleton_self m) ha.1) (hjobs.aside ha.1)
        (ha.1.order.trans hrow)
  | doomed _ hdoomed => exact .doomed _ hdoomed

/-- A turn of createOrder keeps its hold. -/
theorem Creating.turn {ch : Choice} {k : Nat} {prog prog' : Op} (hne : metas ≠ [])
    (hunused : Unused w₀ ctx o) (h : Creating w₀ ctx o metas w prog)
    (hturn : backend.Turned ch k w prog w' prog') : Creating w₀ ctx o metas w' prog' := by
  cases h with
  | reserving slots htally =>
      cases hturn with
      | asked _ _ _ hdec =>
          obtain ⟨slots', rfl, htally'⟩ := htally.turn hunused hdec
          exact htally'.await hne
  | booking m d hmetas hd hkeys hjobs hrow =>
      cases hturn with
      | asked _ _ _ hdec =>
          have hnow := asked_now (dispatch_asked hdec)
          obtain ⟨hredis, hexpire, hgoes⟩ := books_goOn hd hrow hdec
          obtain ⟨e, he, hrec⟩ := hkeys.record
          have hkeys' := hkeys.same hredis hnow
          -- a new job is due a window from now, and the record was made before
          have hjobs' : JobsLate o w' := by
            intro e' he' j hj hjo
            rw [hredis] at he'
            rcases hexpire j hj with hold | rfl
            · exact hjobs e' he' j hold hjo
            · rw [he] at he'
              cases he'
              exact hrec.made
          rcases hgoes with hdoomed | ⟨hrow', ⟨d', rfl, hd'⟩ | ⟨url, rfl⟩⟩
          · exact .doomed _ hdoomed
          · exact .booking m d' hmetas hd' hkeys' hjobs' (.inr hrow')
          · exact .created m url hmetas hkeys' hjobs' hrow'
  | created m url _ _ _ _ => cases hturn
  | doomed _ hdoomed => exact .doomed _ (hdoomed.turn hturn)

/-- A created order. -/
structure Held (w₀ : World) (ctx : CreateCtx) (o : OrderId) (m : TicketMeta) (w : World) : Prop where
  keys : KeysHeld w₀ ctx o m w
  jobs : JobsLate o w
  row : w.db.findOrder o = some (newOrder ctx o [m])

/-- **What a created order holds.**  It has one item, whose hold is as reserved. -/
theorem held_of_created {tr : List (Turn World Ask Task Answer Choice)} {url : String}
    (hne : metas ≠ []) (hunused : Unused w₀ ctx o)
    (h : backend.Alone (AsideLive ctx o metas) w₀ (awaitReserve ctx o (started metas)) tr w
      (.ret (.orderCreated o url))) : ∃ m, metas = [m] ∧ Held w₀ ctx o m w := by
  have hstart : Tally w₀ ctx o metas w₀ (started metas) := by
    refine ⟨?_, .nothing (fun _ _ => ⟨rfl, rfl⟩) hunused.record ?_, hunused.jobs⟩
    · rw [started, List.map_map]
      exact List.map_id metas
    · intro s hs
      obtain ⟨m, -, rfl⟩ := List.mem_map.mp hs
      rfl
  have hend : Creating w₀ ctx o metas w (.ret (.orderCreated o url)) :=
    h.inv (I := fun _ w prog => Creating w₀ ctx o metas w prog) (hstart.await hne)
      (fun _ _ _ _ hcr ha => hcr.aside ha) fun _ _ _ _ _ _ _ hcr hturn => hcr.turn hne hunused hturn
  cases hend with
  | created m _ hmetas hkeys hjobs hrow => exact ⟨m, hmetas, hkeys, hjobs, hrow⟩
  | doomed _ hdoomed =>
      cases hdoomed with
      | ended _ hno => exact absurd rfl (hno o url)

end TicketBackend
