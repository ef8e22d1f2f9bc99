import TicketBox.Alone
import TicketBox.Cells

/-! # The parallel reservations of one createOrder

    All reservations of a request write the one record `reservation:{orderId}`.
    So the first item that can be reserved takes it, and every other item is
    refused, whatever the order of execution: the file follows the operation
    from the start of its reservations and says in which order of execution the
    rollback, which walks the items before the first refused one, meets the item
    that was taken. -/

namespace TicketBackend

open Interleave TicketStore TicketRedis TicketDb TicketFlow TicketOrder

/-! ## The setting -/

/-- The reservations of the items, none of them settled. -/
def started (metas : List TicketMeta) : List ReserveSlot :=
  metas.map fun m => { item := m, reply := none }

/-- Time passes, up to the deadline. -/
def Before (deadline : Nat) (w w' : World) : Prop := ∃ ms, w' = tick ms w ∧ w'.now < deadline

/-- Item `k` can be reserved in the store as it is. -/
def reservableAt (w : World) (ctx : CreateCtx) (o : OrderId) (metas : List TicketMeta) (k : Nat) :
    Bool :=
  decide (∃ m ∈ metas[k]?, CanReserve (reserveParams ctx o m) w.now w.redis)

/-- The first executed reservation, in the order of execution, that can be
    carried out. -/
def firstReservable (w : World) (ctx : CreateCtx) (o : OrderId) (metas : List TicketMeta)
    (tr : List (Turn World Ask Task Answer Choice)) : Option Nat :=
  (tr.map fun turn => turn.choice.slot).find? (reservableAt w ctx o metas)

/-- The keys hold what they held; a missing number reads as 0. -/
structure SameKeys (r r' : Redis) (now : Nat) : Prop where
  stock : ∀ t, stockOf r' t = stockOf r t
  userLimit : ∀ u t, userLimitOf r' u t = userLimitOf r u t
  reservation : ∀ o, r'.reservation now o = r.reservation now o

/-- What a createOrder call sets out from at its reservations: the window of the
    configuration and an order id nobody has used. -/
structure Fresh (w : World) (ctx : CreateCtx) (o : OrderId) : Prop where
  ttl : ctx.ttl = getReservationTtl w.config
  record : w.redis.reservation w.now o = none

/-- The end of the window of a reservation made now. -/
def deadlineOf (w : World) (ctx : CreateCtx) : Nat := w.now + ctx.ttl * 1000

theorem Fresh.now_lt {w : World} {ctx : CreateCtx} {o : OrderId} (h : Fresh w ctx o) :
    w.now < deadlineOf w ctx := by
  have := getReservationTtl_pos w.config
  rw [deadlineOf, h.ttl]
  omega

/-! ## One reservation -/

/-- A reservation that runs without failing. -/
theorem reserveTickets_inv {ctx : CreateCtx} {o : OrderId} {slots : List ReserveSlot} {ch : Choice}
    {w w' : World} {prog : Op} (h : TicketOrder.reserveTickets ctx o slots ch w = some (w', prog))
    (hf : ch.fails = false) :
    ∃ s, slots[ch.slot]? = some s ∧ s.reply = none ∧
      w' = { w with redis := (TicketRedis.reserveTicket (reserveParams ctx o s.item) w.now w.redis).1 } ∧
      prog = awaitReserve ctx o (slots.set ch.slot { s with
        reply := some (.ok (TicketRedis.reserveTicket (reserveParams ctx o s.item) w.now w.redis).2) }) := by
  simp only [TicketOrder.reserveTickets] at h
  split at h
  · cases h
  · next s hs =>
    split at h
    · cases h
    · next hnone =>
      rw [hf, if_neg Bool.false_ne_true] at h
      cases h
      exact ⟨s, hs, hnone, rfl, rfl⟩

/-- A fresh record stays absent, so only stock and limit decide. -/
theorem canReserve_later {p : ReserveParams} {now now' : Nat} {r : Redis} (hle : now ≤ now')
    (hrec : r.reservation now p.orderId = none) :
    CanReserve p now' r ↔ CanReserve p now r := by
  have hrec' := reservation_none_mono hle hrec
  simp only [CanReserve, hrec, hrec']

/-- While the record of the order is live, no item of it can be reserved. -/
theorem not_canReserve_reserved {p p' : ReserveParams} {now now' : Nat} {r : Redis}
    (ho : p'.orderId = p.orderId) (hlive : now' < now + p.ttlSeconds * 1000) :
    ¬ CanReserve p' now' (TicketRedis.reserved p now r) := by
  rintro ⟨-, -, hnone⟩
  rw [ho, reservation_reserved_self, if_pos hlive] at hnone
  cases hnone

section Phases

variable (w₀ : World) (ctx : CreateCtx) (o : OrderId) (metas : List TicketMeta)

/-- What the executed reservations have taken: nothing, as long as none could be
    carried out, or the first that could. -/
inductive Taken (tr : List (Turn World Ask Task Answer Choice)) (w : World)
    (slots : List ReserveSlot) : Prop where
  | nothing : firstReservable w₀ ctx o metas tr = none → w.redis = w₀.redis →
      (∀ s ∈ slots, ReserveSlot.accepted s = false) → Taken tr w slots
  | one (k : Nat) (m : TicketMeta) (now : Nat) :
      firstReservable w₀ ctx o metas tr = some k → metas[k]? = some m → w₀.now ≤ now →
      w.redis = TicketRedis.reserved (reserveParams ctx o m) now w₀.redis →
      (∀ j s, slots[j]? = some s → (ReserveSlot.accepted s = true ↔ j = k)) → Taken tr w slots

/-- The reservations are running. -/
structure Reserving (tr : List (Turn World Ask Task Answer Choice)) (w : World)
    (slots : List ReserveSlot) : Prop where
  items : slots.map ReserveSlot.item = metas
  replies : ∀ s ∈ slots, ∀ e, s.reply ≠ some (.error e)
  taken : Taken w₀ ctx o metas tr w slots
  later : w₀.now ≤ w.now
  before : w.now < deadlineOf w₀ ctx

/-- The release of one item. -/
def releaseOf (m : TicketMeta) : ReleaseParams where
  ticketTypeId := m.ticketTypeId
  userId := ctx.userId
  orderId := o
  quantity := m.quantity
  quantity_pos := m.quantity_pos

/-- The phases of the reservation step. -/
inductive ReservePhase (tr : List (Turn World Ask Task Answer Choice)) (w : World) : Op → Prop where
  | running (slots : List ReserveSlot) : Reserving w₀ ctx o metas tr w slots →
      ReservePhase tr w (.ask (.reserveTickets ctx o slots))
  | booking : ReservePhase tr w (.ask (.persistOrder ctx o metas))
  | booked (prog : Op) : (∃ turn ∈ tr, turn.prog = .ask (.persistOrder ctx o metas)) →
      ReservePhase tr w prog
  | refused (e : ApiError) : firstReservable w₀ ctx o metas tr = none → w.redis = w₀.redis →
      ReservePhase tr w (.ret (.error e))
  | leaked (k : Nat) (m : TicketMeta) (now : Nat) (e : ApiError) :
      firstReservable w₀ ctx o metas tr = some k → k ≠ 0 →
      w.redis = TicketRedis.reserved (reserveParams ctx o m) now w₀.redis →
      ReservePhase tr w (.ret (.error e))
  | rollingBack (m : TicketMeta) (now : Nat) (e : ApiError) :
      firstReservable w₀ ctx o metas tr = some 0 → metas[0]? = some m →
      w.redis = TicketRedis.reserved (reserveParams ctx o m) now w₀.redis → w₀.now ≤ now →
      w.now < deadlineOf w₀ ctx →
      ReservePhase tr w (.par [.releaseReservation .rollback (releaseOf ctx o m)] thrown
        (.ret (.error e)))
  | rolledBack (m : TicketMeta) (now : Nat) (e : ApiError) (prog : Op) :
      (prog = .par [] thrown (.ret (.error e)) ∨ prog = .ret (.error e)) →
      firstReservable w₀ ctx o metas tr = some 0 → metas[0]? = some m →
      w.redis = TicketRedis.released (releaseOf ctx o m)
        (TicketRedis.reserved (reserveParams ctx o m) now w₀.redis) →
      ReservePhase tr w prog

end Phases

variable {w₀ : World} {ctx : CreateCtx} {o : OrderId} {metas : List TicketMeta}

theorem firstReservable_snoc {tr : List (Turn World Ask Task Answer Choice)} {w : World} {prog : Op}
    {k : Nat} {ch : Choice} :
    firstReservable w₀ ctx o metas (tr ++ [⟨w, prog, k, ch⟩])
      = (firstReservable w₀ ctx o metas tr).or
          (if reservableAt w₀ ctx o metas ch.slot then some ch.slot else none) := by
  simp only [firstReservable, List.map_append, List.find?_append, List.map_cons, List.map_nil,
    List.find?_cons, List.find?_nil]
  split <;> simp_all

/-- What was taken first stays what was taken first. -/
theorem firstReservable_some {tr : List (Turn World Ask Task Answer Choice)} {j : Nat}
    (h : firstReservable w₀ ctx o metas tr = some j)
    (turn : Turn World Ask Task Answer Choice) :
    firstReservable w₀ ctx o metas (tr ++ [turn]) = some j := by
  rw [firstReservable_snoc, h, Option.some_or]

/-- A settled batch goes on in one of the phases. -/
theorem Reserving.await {tr : List (Turn World Ask Task Answer Choice)} {w : World}
    {slots : List ReserveSlot} (h : Reserving w₀ ctx o metas tr w slots) :
    ReservePhase w₀ ctx o metas tr w (awaitReserve ctx o slots) := by
  simp only [awaitReserve]
  split
  · next hall =>
    have hsettles := afterReserve_settles ctx o slots (by simpa using hall)
    generalize afterReserve ctx o slots = prog at hsettles
    cases hsettles with
    | threw s hs hthrew =>
        obtain ⟨e, he⟩ := hthrew
        exact absurd he (h.replies s hs e)
    | succeeded _ =>
        rw [h.items]
        exact .booking
    | rejected k s e hk hno hbefore =>
        cases h.taken with
        | nothing hfirst hredis hnone =>
            -- nothing was accepted, so nothing stands before the first refused item
            have hnil : slots.take k = [] := List.eq_nil_iff_forall_not_mem.mpr fun s' hs' => by
              have h1 := hbefore s' hs'
              rw [hnone s' (List.mem_of_mem_take hs')] at h1
              cases h1
            rw [hnil]
            exact .refused _ hfirst hredis
        | one j m now hfirst hm hnow hredis hacc =>
            cases k with
            | zero =>
                refine .leaked j m now _ hfirst ?_ hredis
                rintro rfl
                rw [(hacc 0 s hk).mpr rfl] at hno
                cases hno
            | succ k =>
                -- all items before the refused one were accepted, and only one was
                obtain ⟨hlt, -⟩ := List.getElem?_eq_some_iff.mp hk
                have hat : ∀ n, n < k + 1 → n = j := by
                  intro n hn
                  have hn' : n < slots.length := by omega
                  have hmem : slots[n] ∈ slots.take (k + 1) :=
                    List.mem_take_iff_getElem.mpr ⟨n, by omega, rfl⟩
                  exact (hacc n slots[n] (List.getElem?_eq_getElem hn')).mp (hbefore _ hmem)
                have hj : j = 0 := (hat 0 (by omega)).symm
                have hk0 : k = 0 := by
                  have := hat k (by omega)
                  omega
                subst hj hk0
                obtain ⟨s0, rest, rfl⟩ : ∃ s0 rest, slots = s0 :: rest := by
                  cases slots with
                  | nil => simp at hlt
                  | cons s0 rest => exact ⟨s0, rest, rfl⟩
                have hs0 : s0.item = m := by
                  have hitems := h.items
                  rw [← hitems, List.map_cons, List.getElem?_cons_zero] at hm
                  exact Option.some.inj hm
                rw [← hs0] at hredis hm
                exact .rollingBack s0.item now _ hfirst hm hredis hnow h.before
  · exact .running slots h

/-- The first accepted reservation is the only one. -/
theorem accepted_set_first {slots : List ReserveSlot} {k : Nat} {s s' : ReserveSlot}
    (hs : slots[k]? = some s) (hnone : ∀ s ∈ slots, ReserveSlot.accepted s = false)
    (hyes : ReserveSlot.accepted s' = true) :
    ∀ j s₁, (slots.set k s')[j]? = some s₁ → (ReserveSlot.accepted s₁ = true ↔ j = k) := by
  obtain ⟨hlt, -⟩ := List.getElem?_eq_some_iff.mp hs
  intro j s₁ hj
  by_cases hjk : j = k
  · subst hjk
    rw [List.getElem?_set_self hlt] at hj
    cases hj
    exact iff_of_true hyes rfl
  · rw [List.getElem?_set_ne (Ne.symm hjk)] at hj
    rw [hnone s₁ (List.mem_of_getElem? hj)]
    exact iff_of_false Bool.false_ne_true hjk

/-- A reservation that is not accepted leaves the accepted one the only one. -/
theorem accepted_set_refused {slots : List ReserveSlot} {i k : Nat} {s s' : ReserveSlot}
    (hs : slots[i]? = some s) (hpending : s.reply = none) (hno : ReserveSlot.accepted s' = false)
    (hone : ∀ j s, slots[j]? = some s → (ReserveSlot.accepted s = true ↔ j = k)) :
    ∀ j s₁, (slots.set i s')[j]? = some s₁ → (ReserveSlot.accepted s₁ = true ↔ j = k) := by
  obtain ⟨hlt, -⟩ := List.getElem?_eq_some_iff.mp hs
  intro j s₁ hj
  by_cases hji : j = i
  · subst hji
    rw [List.getElem?_set_self hlt] at hj
    cases hj
    rw [hno]
    refine iff_of_false Bool.false_ne_true fun hjk => ?_
    -- the accepted one had its reply already
    have := (hone j s hs).mpr hjk
    simp [ReserveSlot.accepted, hpending] at this
  · rw [List.getElem?_set_ne (Ne.symm hji)] at hj
    exact hone j s₁ hj

/-- One more reservation takes effect. -/
theorem Reserving.reserve {tr : List (Turn World Ask Task Answer Choice)} {w w' : World}
    {slots : List ReserveSlot} {k : Nat} {ch : Choice} {prog : Op} (hfresh : Fresh w₀ ctx o)
    (h : Reserving w₀ ctx o metas tr w slots)
    (hrun : TicketOrder.reserveTickets ctx o slots ch w = some (w', prog)) (hf : ch.fails = false) :
    ∃ slots', prog = awaitReserve ctx o slots' ∧
      Reserving w₀ ctx o metas (tr ++ [⟨w, .ask (.reserveTickets ctx o slots), k, ch⟩]) w' slots' := by
  obtain ⟨s, hs, hnone, rfl, rfl⟩ := reserveTickets_inv hrun hf
  obtain ⟨hlt, -⟩ := List.getElem?_eq_some_iff.mp hs
  have hitem : metas[ch.slot]? = some s.item := by
    rw [← h.items, List.getElem?_map, hs]
    rfl
  have hat : reservableAt w₀ ctx o metas ch.slot
      = decide (CanReserve (reserveParams ctx o s.item) w₀.now w₀.redis) := by
    simp [reservableAt, hitem]
  have hreplies : ∀ s' ∈ slots.set ch.slot { s with reply := some (.ok
      (TicketRedis.reserveTicket (reserveParams ctx o s.item) w.now w.redis).2) },
      ∀ e, s'.reply ≠ some (.error e) :=
    all_of_set h.replies fun e he => nomatch he
  refine ⟨_, rfl, ?_, hreplies, ?_, h.later, h.before⟩
  · rw [items_set hs]
    exact h.items
  · cases h.taken with
    -- nothing taken yet: this script call may be the first to take
    | nothing hfirst hredis hacc =>
        by_cases hcan : CanReserve (reserveParams ctx o s.item) w.now w.redis
        · have hcan₀ : CanReserve (reserveParams ctx o s.item) w₀.now w₀.redis :=
            (canReserve_later h.later hfresh.record).mp (hredis ▸ hcan)
          rw [reserveTicket_ok hcan]
          refine .one ch.slot s.item w.now ?_ hitem h.later (by rw [hredis])
            (accepted_set_first hs hacc rfl)
          rw [firstReservable_snoc, hfirst, hat, Option.none_or, if_pos (by simpa using hcan₀)]
        · have hcan₀ : ¬ CanReserve (reserveParams ctx o s.item) w₀.now w₀.redis := fun hc =>
            hcan (hredis ▸ (canReserve_later h.later hfresh.record).mpr hc)
          obtain ⟨e, he⟩ := reserveTicket_error hcan
          rw [he]
          refine .nothing ?_ hredis (all_of_set hacc rfl)
          rw [firstReservable_snoc, hfirst, hat, Option.none_or, if_neg (by simpa using hcan₀)]
    -- one has taken: the live record of the order refuses every other
    | one j m now hfirst hm hnow hredis hacc =>
        have hcan : ¬ CanReserve (reserveParams ctx o s.item) w.now w.redis := by
          rw [hredis]
          refine not_canReserve_reserved rfl ?_
          have := h.before
          simp only [deadlineOf, reserveParams] at this ⊢
          omega
        obtain ⟨e, he⟩ := reserveTicket_error hcan
        rw [he]
        exact .one j m now (firstReservable_some hfirst _) hm hnow hredis
          (accepted_set_refused hs hnone rfl hacc)

theorem Reserving.step {tr : List (Turn World Ask Task Answer Choice)} {w w' : World}
    {slots : List ReserveSlot} {k : Nat} {ch : Choice} {prog : Op} (hfresh : Fresh w₀ ctx o)
    (h : Reserving w₀ ctx o metas tr w slots)
    (hrun : TicketOrder.reserveTickets ctx o slots ch w = some (w', prog)) (hf : ch.fails = false) :
    ReservePhase w₀ ctx o metas (tr ++ [⟨w, .ask (.reserveTickets ctx o slots), k, ch⟩]) w' prog := by
  obtain ⟨slots', rfl, h'⟩ := h.reserve hfresh hrun hf
  exact h'.await

/-- Time passes beside the reservations. -/
theorem Reserving.others {tr : List (Turn World Ask Task Answer Choice)} {w w' : World}
    {slots : List ReserveSlot} (h : Reserving w₀ ctx o metas tr w slots)
    (hr : Before (deadlineOf w₀ ctx) w w') : Reserving w₀ ctx o metas tr w' slots := by
  obtain ⟨ms, rfl, hlt⟩ := hr
  refine ⟨h.items, h.replies, ?_, le_trans h.later (Nat.le_add_right _ ms), hlt⟩
  cases h.taken with
  | nothing h1 h2 h3 => exact .nothing h1 h2 h3
  | one j m now h1 h2 h3 h4 h5 => exact .one j m now h1 h2 h3 h4 h5

/-- The reservations start with nothing taken. -/
theorem Reserving.start (hfresh : Fresh w₀ ctx o) :
    Reserving w₀ ctx o metas [] w₀ (started metas) := by
  refine ⟨?_, ?_, .nothing rfl rfl ?_, le_refl _, hfresh.now_lt⟩
  · rw [started, List.map_map]
    exact List.map_id metas
  · intro s hs e he
    obtain ⟨m, -, rfl⟩ := List.mem_map.mp hs
    cases he
  · intro s hs
    obtain ⟨m, -, rfl⟩ := List.mem_map.mp hs
    rfl

/-! ## The rollback -/

/-- The record a reservation left is the one its release asks for. -/
theorem matches_reserved {m : TicketMeta} {now now' : Nat} {r : Redis}
    (hlive : now' < now + ctx.ttl * 1000) :
    Matches (releaseOf ctx o m) now' (TicketRedis.reserved (reserveParams ctx o m) now r) := by
  refine ⟨_, (reservation_reserved_self (reserveParams ctx o m) now now' r).trans (if_pos hlive),
    rfl, rfl, rfl, rfl⟩

/-- What was reserved and released is back in stock. -/
theorem stockOf_returned (m : TicketMeta) (now : Nat) (r : Redis) (t : TicketTypeId) :
    stockOf (TicketRedis.released (releaseOf ctx o m)
      (TicketRedis.reserved (reserveParams ctx o m) now r)) t = stockOf r t := by
  by_cases ht : t = m.ticketTypeId
  · subst ht
    have h1 := stockOf_released_self (releaseOf ctx o m)
      (TicketRedis.reserved (reserveParams ctx o m) now r)
    have h2 := stockOf_reserved_self (reserveParams ctx o m) now r
    simp only [releaseOf, reserveParams] at h1 h2 ⊢
    omega
  · rw [stockOf_released_ne (p := releaseOf ctx o m) ht,
      stockOf_reserved_ne (p := reserveParams ctx o m) ht]

/-- The user's counter is where it was, unless it was below zero. -/
theorem userLimitOf_returned (m : TicketMeta) (now : Nat) (r : Redis) :
    userLimitOf (TicketRedis.released (releaseOf ctx o m)
      (TicketRedis.reserved (reserveParams ctx o m) now r)) ctx.userId m.ticketTypeId
        = max 0 (userLimitOf r ctx.userId m.ticketTypeId) := by
  have h1 := userLimitOf_released_self (releaseOf ctx o m)
    (TicketRedis.reserved (reserveParams ctx o m) now r)
  have h2 := userLimitOf_reserved_self (reserveParams ctx o m) now r
  simp only [releaseOf, reserveParams] at h1 h2 ⊢
  omega

/-- A release in time gives the item back, up to the clamp of the user's counter. -/
theorem released_reserved_sameKeys {m : TicketMeta} {now now' : Nat} {r : Redis}
    (hrec : r.reservation now' o = none) :
    SameKeys r (TicketRedis.released (releaseOf ctx o m)
        (TicketRedis.reserved (reserveParams ctx o m) now r)) now'
      ↔ 0 ≤ userLimitOf r ctx.userId m.ticketTypeId := by
  have hself : userLimitOf (TicketRedis.released (releaseOf ctx o m)
      (TicketRedis.reserved (reserveParams ctx o m) now r)) ctx.userId m.ticketTypeId
        = max 0 (userLimitOf r ctx.userId m.ticketTypeId) := userLimitOf_returned m now r
  refine ⟨fun h => ?_, fun hpos => ⟨stockOf_returned m now r, fun u t => ?_, fun o' => ?_⟩⟩
  · have := h.userLimit ctx.userId m.ticketTypeId
    omega
  · by_cases hkey : (u, t) = (ctx.userId, m.ticketTypeId)
    · cases hkey
      omega
    · rw [userLimitOf_released_ne (p := releaseOf ctx o m) hkey,
        userLimitOf_reserved_ne (p := reserveParams ctx o m) hkey]
  · by_cases ho : o' = o
    · subst ho
      rw [hrec]
      exact reservation_released_self (releaseOf ctx o' m) now' _
    · rw [reservation_released_ne (p := releaseOf ctx o m) ho,
        reservation_reserved_ne (p := reserveParams ctx o m) ho]

/-- What was taken and not given back shows in the stock. -/
theorem not_sameKeys_reserved {m : TicketMeta} {now now' : Nat} {r : Redis} :
    ¬ SameKeys r (TicketRedis.reserved (reserveParams ctx o m) now r) now' := by
  intro h
  have h1 := h.stock m.ticketTypeId
  have h2 := stockOf_reserved_self (reserveParams ctx o m) now r
  have hq := m.quantity_pos
  simp only [reserveParams] at h1 h2
  omega

theorem ReservePhase.step {tr : List (Turn World Ask Task Answer Choice)} {w w' : World}
    {prog prog' : Op} {k : Nat} {ch : Choice} (hfresh : Fresh w₀ ctx o)
    (h : ReservePhase w₀ ctx o metas tr w prog)
    (hturn : backend.Turned ch k w prog w' prog') (hf : ch.fails = false) :
    ReservePhase w₀ ctx o metas (tr ++ [⟨w, prog, k, ch⟩]) w' prog' := by
  cases h with
  | running slots hslots =>
      cases hturn with
      | asked _ _ _ hdec => exact hslots.step hfresh hdec hf
  | booking => exact .booked prog' ⟨_, List.mem_append_right _ (List.mem_singleton_self _), rfl⟩
  | booked _ hbooked =>
      obtain ⟨turn, hmem, he⟩ := hbooked
      exact .booked prog' ⟨turn, List.mem_append_left _ hmem, he⟩
  | refused e _ _ => cases hturn
  | leaked j m now e _ _ _ => cases hturn
  | rollingBack m now e hfirst hm hredis hnow hbefore =>
      cases hturn with
      | resolved _ t _ _ _ hk hperf =>
          cases k with
          | succ k => cases hk
          | zero =>
              cases hk
              have hperf' : perform ch w (.releaseReservation .rollback (releaseOf ctx o m))
                  = some (w', .resolved) := hperf
              cases perform_performed hperf' with
              | ended _ howes => cases howes
              | released site p =>
                  refine .rolledBack m now e _ (.inl rfl) (firstReservable_some hfirst _) hm ?_
                  have hlive : w.now < now + ctx.ttl * 1000 := by
                    simp only [deadlineOf] at hbefore
                    omega
                  rw [hredis]
                  exact (release_of_matches (matches_reserved hlive)).1
      | wentOn _ t t' _ _ _ hk hperf =>
          cases k with
          | succ k => cases hk
          | zero =>
              cases hk
              have hperf' : perform ch w (.releaseReservation .rollback (releaseOf ctx o m))
                  = some (w', .goOn t') := hperf
              cases perform_performed hperf' with
              | looked _ _ howes _ _ => cases howes
  | rolledBack m now e _ hprog hfirst hm hredis =>
      rcases hprog with rfl | rfl
      · cases hturn with
        | settled => exact .rolledBack m now e _ (.inr rfl) (firstReservable_some hfirst _) hm hredis
        | resolved _ _ _ _ _ hk _ => cases hk
        | wentOn _ _ _ _ _ _ hk _ => cases hk
      · cases hturn

theorem ReservePhase.others {tr : List (Turn World Ask Task Answer Choice)} {w w' : World}
    {prog : Op} (h : ReservePhase w₀ ctx o metas tr w prog)
    (hr : Before (deadlineOf w₀ ctx) w w') : ReservePhase w₀ ctx o metas tr w' prog := by
  obtain ⟨ms, rfl, hlt⟩ := hr
  cases h with
  | running slots hslots => exact .running slots (hslots.others ⟨ms, rfl, hlt⟩)
  | booking => exact .booking
  | booked _ hbooked => exact .booked _ hbooked
  | refused e h1 h2 => exact .refused e h1 h2
  | leaked j m now e h1 h2 h3 => exact .leaked j m now e h1 h2 h3
  | rollingBack m now e h1 h2 h3 h4 _ => exact .rollingBack m now e h1 h2 h3 h4 hlt
  | rolledBack m now e _ hprog h1 h2 h3 => exact .rolledBack m now e _ hprog h1 h2 h3

/-! ## All or nothing on Redis -/

/-- A createOrder call rejects at its reservations: it ran them to an exception
    before their window ended, no call failed, and no order row was written. -/
structure RejectedAtReserve (w₀ : World) (ctx : CreateCtx) (o : OrderId) (metas : List TicketMeta)
    (tr : List (Turn World Ask Task Answer Choice)) (w : World) (e : ApiError) : Prop where
  run : backend.Alone (Before (deadlineOf w₀ ctx)) w₀ (awaitReserve ctx o (started metas)) tr w
    (.ret (.error e))
  carried : ∀ turn ∈ tr, turn.choice.fails = false
  unbooked : ∀ turn ∈ tr, turn.prog ≠ .ask (.persistOrder ctx o metas)

/-- The phases of a reservation step in which no call fails. -/
theorem reservePhase_of_alone {tr : List (Turn World Ask Task Answer Choice)} {w : World}
    {prog : Op} (hfresh : Fresh w₀ ctx o)
    (h : backend.Alone (Before (deadlineOf w₀ ctx)) w₀ (awaitReserve ctx o (started metas)) tr w prog)
    (hf : ∀ turn ∈ tr, turn.choice.fails = false) : ReservePhase w₀ ctx o metas tr w prog := by
  refine h.inv (I := fun tr w prog => (∀ turn ∈ tr, turn.choice.fails = false) →
    ReservePhase w₀ ctx o metas tr w prog) (fun _ => (Reserving.start hfresh).await) ?_ ?_ hf
  · exact fun tr w₁ w₂ prog₁ hp hr hall => (hp hall).others hr
  · intro tr w₁ w₂ prog₁ prog₂ k ch hp hturn hall
    exact (hp fun turn hmem => hall turn (List.mem_append_left _ hmem)).step hfresh hturn
      (hall _ (List.mem_append_right _ (List.mem_singleton_self _)))

/-- A turn takes no time. -/
theorem turned_now {ch : Choice} {k : Nat} {w₁ w₂ : World} {prog₁ prog₂ : Op}
    (h : backend.Turned ch k w₁ prog₁ w₂ prog₂) : w₂.now = w₁.now := by
  cases h with
  | asked d _ _ hdec => exact asked_now (dispatch_asked hdec)
  | settled => rfl
  | resolved _ _ _ _ _ _ hperf => exact performed_now (perform_performed hperf)
  | wentOn _ _ _ _ _ _ _ hperf => exact performed_now (perform_performed hperf)

/-- Between the reservations and the deadline the clock does not go back. -/
theorem now_of_alone {w₁ w : World} {prog prog' : Op} {deadline : Nat}
    {tr : List (Turn World Ask Task Answer Choice)}
    (h : backend.Alone (Before deadline) w₁ prog tr w prog') (hlt : w₁.now < deadline) :
    w₁.now ≤ w.now ∧ w.now < deadline := by
  refine h.inv (I := fun _ w _ => w₁.now ≤ w.now ∧ w.now < deadline) ⟨le_refl _, hlt⟩ ?_ ?_
  · rintro tr w₁ w₂ prog₁ ⟨hle, -⟩ ⟨ms, rfl, hlt⟩
    exact ⟨le_trans hle (Nat.le_add_right _ ms), hlt⟩
  · intro tr w₁ w₂ prog₁ prog₂ k ch hnow hturn
    rw [turned_now hturn]
    exact hnow

/-- **All or nothing on Redis.**  A rejected reservation step leaves the keys as
    they were exactly if, of the items that could be reserved, the one executed
    first is the first of the list (and its counter is not negative). -/
theorem reserve_all_or_nothing {tr : List (Turn World Ask Task Answer Choice)} {w : World}
    {e : ApiError} (hfresh : Fresh w₀ ctx o) (h : RejectedAtReserve w₀ ctx o metas tr w e) :
    SameKeys w₀.redis w.redis w.now ↔
      ∀ k, firstReservable w₀ ctx o metas tr = some k →
        k = 0 ∧ ∀ m ∈ metas[0]?, 0 ≤ userLimitOf w₀.redis ctx.userId m.ticketTypeId := by
  obtain ⟨hlater, -⟩ := now_of_alone h.run hfresh.now_lt
  cases reservePhase_of_alone hfresh h.run h.carried with
  | booked _ hbooked =>
      obtain ⟨turn, hmem, he⟩ := hbooked
      exact absurd he (h.unbooked turn hmem)
  | refused _ hfirst hredis =>
      rw [hfirst, hredis]
      exact iff_of_true ⟨fun _ => rfl, fun _ _ => rfl, fun _ => rfl⟩ fun k hk => nomatch hk
  | leaked k m now _ hfirst hk hredis =>
      rw [hredis]
      exact iff_of_false not_sameKeys_reserved fun hall => hk (hall k hfirst).1
  | rolledBack m now _ _ hprog hfirst hm hredis =>
      rw [hredis, released_reserved_sameKeys (reservation_none_mono hlater hfresh.record), hfirst]
      constructor
      · rintro hpos k ⟨⟩
        refine ⟨rfl, fun m' hm' => ?_⟩
        rw [hm] at hm'
        cases hm'
        exact hpos
      · exact fun hall => (hall 0 rfl).2 m hm

/-! ## Two runs -/

/-- The call that writes the order row. -/
def books : Op → Bool
  | .ask (.persistOrder _ _ _) => true
  | _ => false

/-- A sale of two types, five tickets each and two per user, with seeded stock. -/
def twoTypes : World :=
  { (shop [onSale 1 5 2, onSale 2 5 2]).world with
    redis := { stock := fun t => if t = 1 ∨ t = 2 then some 5 else none
               userLimit := fun _ => none, reservations := fun _ => none } }

/-- User 3 orders in the sale. -/
def buyer : CreateCtx where
  concertId := 1
  userId := 3
  ttl := 900
  expiresAt := 900000

/-- One ticket of a type of the sale, validated. -/
def oneMeta (t : TicketTypeId) : TicketMeta where
  ticketTypeId := t
  quantity := 1
  quantity_pos := Int.one_pos
  maxPerUser := 2
  unitPrice := 10

theorem twoTypes_fresh : Fresh twoTypes buyer 1 where
  ttl := rfl
  record := rfl

/-- The reservations of one ticket of each type run in the order of `slots`, then
    the rollbacks. -/
def reserveRun (slots : List Nat) (rollbacks : Nat) : List (Nat × Choice) :=
  slots.map (fun k => (0, ({ slot := k } : Choice)))
    ++ List.replicate (2 * rollbacks) (0, ({} : Choice))

/-- An executed run that rejects at the reservations, with `P` of its turns and
    of the store it ends in. -/
theorem exists_rejected (cs : List (Nat × Choice))
    (P : List (Turn World Ask Task Answer Choice) → World → Prop) [∀ tr w, Decidable (P tr w)]
    (h : (backend.turns twoTypes (awaitReserve buyer 1 (started [oneMeta 1, oneMeta 2])) cs).any
      (fun x => decide ((x.1.all fun turn => !turn.choice.fails && !books turn.prog) = true ∧
        (x.2.2.answer.any fun a => match a with | .error _ => true | _ => false) = true ∧
        P x.1 x.2.1)) = true) :
    ∃ tr w e, RejectedAtReserve twoTypes buyer 1 [oneMeta 1, oneMeta 2] tr w e ∧ P tr w := by
  obtain ⟨tr, w, prog, hrun, hall, hanswer, hP⟩ := exists_alone cs _ h
  cases hans : prog.answer with
  | none => simp [hans] at hanswer
  | some a =>
      cases Prog.answer_eq hans
      simp only [Prog.answer, Option.any_some] at hanswer
      cases a with
      | error e =>
          rw [List.all_eq_true] at hall
          refine ⟨tr, w, e, ⟨hrun, fun turn hturn => ?_, fun turn hturn hbook => ?_⟩, hP⟩
          · have := hall turn hturn
            simp only [Bool.and_eq_true, Bool.not_eq_true'] at this
            exact this.1
          · have := hall turn hturn
            simp [hbook, books] at this
      | _ => cases hanswer

/-- The first item is executed first: the second is refused, the first rolled back. -/
theorem reserve_all_or_nothing_firstFirst :
    ∃ tr w e, RejectedAtReserve twoTypes buyer 1 [oneMeta 1, oneMeta 2] tr w e ∧
      SameKeys twoTypes.redis w.redis w.now := by
  obtain ⟨tr, w, e, hrej, hfirst⟩ := exists_rejected (reserveRun [0, 1] 1)
    (fun tr _ => firstReservable twoTypes buyer 1 [oneMeta 1, oneMeta 2] tr = some 0) (by decide)
  refine ⟨tr, w, e, hrej, (reserve_all_or_nothing twoTypes_fresh hrej).mpr fun k hk => ?_⟩
  rw [hfirst] at hk
  cases hk
  exact ⟨rfl, by decide⟩

/-- The second item is executed first: the first is refused, nothing stands before
    it to be rolled back, and the record of the second stays. -/
theorem reserve_leaks_secondFirst :
    ∃ tr w e, RejectedAtReserve twoTypes buyer 1 [oneMeta 1, oneMeta 2] tr w e ∧
      ¬ SameKeys twoTypes.redis w.redis w.now := by
  obtain ⟨tr, w, e, hrej, hstock⟩ := exists_rejected (reserveRun [1, 0] 0)
    (fun _ w => stockOf w.redis 2 = 4) (by decide)
  refine ⟨tr, w, e, hrej, fun hsame => ?_⟩
  have := hsame.stock 2
  rw [hstock] at this
  exact absurd this (by decide)

end TicketBackend
