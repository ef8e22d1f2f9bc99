import TicketBox.KeyTable
import TicketBox.RedisScripts
import Mathlib.Logic.Relation

/-! # The two scripts over whole sequences of calls

    A reservation moves tickets from the stock into a record and onto the user's
    counter; a release that finds its record moves them back.  So the stock and
    the live records of a type add up to the same number after every call, and a
    counter stands above its start by the live records of its user
    (`scripts_conserve`).  The second half compares two sequences: one reserves
    for an order, lets other orders call, and releases; the other has only the
    other orders' calls.  Both end with the same keys (`release_undoes_reserve`),
    because the reserved tickets shift the two shared numbers by the same amount
    throughout and the counter never meets its clamp at zero. -/

namespace TicketRedis

open TicketStore

/-! ## Calls and live records -/

/-- A call of `RedisService` that runs one of the scripts. -/
inductive Call where
  | reserve (p : ReserveParams)
  | release (p : ReleaseParams)

/-- The order a call is about. -/
def Call.orderId : Call → OrderId
  | .reserve p => p.orderId
  | .release p => p.orderId

/-- The script of a call. -/
def Call.run (now : Nat) (r : Redis) : Call → Redis × LuaScriptResult
  | .reserve p => reserveTicket p now r
  | .release p => releaseReservation p now r

/-- What a record holds of a type. -/
def ofType (t : TicketTypeId) (e : Reservation) : Int := if e.ticketTypeId = t then e.quantity else 0

/-- What a record holds of a type for a user. -/
def ofUser (u : UserId) (t : TicketTypeId) (e : Reservation) : Int :=
  if e.userId = u ∧ e.ticketTypeId = t then e.quantity else 0

/-- The quantities of all live records of a type. -/
noncomputable def liveOf (r : Redis) (now : Nat) (t : TicketTypeId) : Int :=
  KeyTable.total (ofType t) (r.reservation now)

/-- The quantities of all live records of a user and a type. -/
noncomputable def liveOfUser (r : Redis) (now : Nat) (u : UserId) (t : TicketTypeId) : Int :=
  KeyTable.total (ofUser u t) (r.reservation now)

/-- Finitely many keys are live, and their records hold at least one ticket each. -/
structure LiveRecords (r : Redis) (now : Nat) : Prop where
  finite : KeyTable.Finite (r.reservation now)
  positive : ∀ o e, r.reservation now o = some e → 0 < e.quantity

theorem LiveRecords.ofUser_nonneg {r : Redis} {now : Nat} (h : LiveRecords r now) (u : UserId)
    (t : TicketTypeId) : ∀ o e, r.reservation now o = some e → 0 ≤ ofUser u t e := by
  intro o e he
  have := h.positive o e he
  rw [ofUser]
  split <;> omega

theorem LiveRecords.liveOfUser_nonneg {r : Redis} {now : Nat} (h : LiveRecords r now) (u : UserId)
    (t : TicketTypeId) : 0 ≤ liveOfUser r now u t :=
  KeyTable.total_nonneg (h.ofUser_nonneg u t)

/-! ## What the scripts do to the keys -/

theorem stockOf_reserved (p : ReserveParams) (now : Nat) (r : Redis) (t : TicketTypeId) :
    stockOf (reserved p now r) t
      = stockOf r t - (if p.ticketTypeId = t then p.quantity else 0) := by
  by_cases h : p.ticketTypeId = t
  · subst h
    rw [if_pos rfl, stockOf_reserved_self]
  · rw [if_neg h, sub_zero, stockOf_reserved_ne (Ne.symm h)]

theorem stockOf_released (p : ReleaseParams) (r : Redis) (t : TicketTypeId) :
    stockOf (released p r) t = stockOf r t + (if p.ticketTypeId = t then p.quantity else 0) := by
  by_cases h : p.ticketTypeId = t
  · subst h
    rw [if_pos rfl, stockOf_released_self]
  · rw [if_neg h, add_zero, stockOf_released_ne (Ne.symm h)]

/-- Below the counter the clamp of a release is not met. -/
theorem userLimitOf_released {p : ReleaseParams} {r : Redis} (u : UserId) (t : TicketTypeId)
    (hle : p.quantity ≤ userLimitOf r p.userId p.ticketTypeId) :
    userLimitOf (released p r) u t = userLimitOf r u t
      - (if p.userId = u ∧ p.ticketTypeId = t then p.quantity else 0) := by
  by_cases h : p.userId = u ∧ p.ticketTypeId = t
  · obtain ⟨rfl, rfl⟩ := h
    rw [if_pos ⟨rfl, rfl⟩, userLimitOf_released_self]
    omega
  · rw [if_neg h, sub_zero, userLimitOf_released_ne]
    rintro ⟨⟩
    exact h ⟨rfl, rfl⟩

/-- The record a reserve writes. -/
def recordOf (p : ReserveParams) (now : Nat) : Reservation where
  orderId := p.orderId
  userId := p.userId
  ticketTypeId := p.ticketTypeId
  quantity := p.quantity
  createdAt := now / 1000
  expireAt := now + p.ttlSeconds * 1000

theorem ofType_recordOf (p : ReserveParams) (now : Nat) (t : TicketTypeId) :
    ofType t (recordOf p now) = if p.ticketTypeId = t then p.quantity else 0 := rfl

theorem ofUser_recordOf (p : ReserveParams) (now : Nat) (u : UserId) (t : TicketTypeId) :
    ofUser u t (recordOf p now)
      = if p.userId = u ∧ p.ticketTypeId = t then p.quantity else 0 := rfl

theorem reservation_reserved {p : ReserveParams} {now : Nat} (r : Redis) (httl : 0 < p.ttlSeconds) :
    (reserved p now r).reservation now
      = Function.update (r.reservation now) p.orderId (some (recordOf p now)) := by
  funext o
  by_cases h : o = p.orderId
  · subst h
    rw [Function.update_self, reservation_reserved_self, if_pos (by omega)]
    rfl
  · rw [Function.update_of_ne h, reservation_reserved_ne h]

theorem reservation_released (p : ReleaseParams) (now : Nat) (r : Redis) :
    (released p r).reservation now = Function.update (r.reservation now) p.orderId none := by
  funext o
  by_cases h : o = p.orderId
  · subst h
    rw [Function.update_self, reservation_released_self]
  · rw [Function.update_of_ne h, reservation_released_ne h]

/-- A matched record as its release describes it. -/
theorem Matches.weights {p : ReleaseParams} {now : Nat} {r : Redis} (h : Matches p now r) :
    ∃ e, r.reservation now p.orderId = some e ∧ e.quantity = p.quantity ∧
      (∀ t, ofType t e = if p.ticketTypeId = t then p.quantity else 0) ∧
      ∀ u t, ofUser u t e = if p.userId = u ∧ p.ticketTypeId = t then p.quantity else 0 := by
  obtain ⟨e, he, -, hu, ht, hq⟩ := h
  exact ⟨e, he, hq, fun t => by rw [ofType, ht, hq], fun u t => by rw [ofUser, hu, ht, hq]⟩

section Live

variable {r : Redis} {now : Nat}

/-- One record written or deleted. -/
theorem LiveRecords.update {r' : Redis} {o : OrderId} {v : Option Reservation}
    (h : LiveRecords r now) (hr' : r'.reservation now = Function.update (r.reservation now) o v)
    (hv : ∀ e, v = some e → 0 < e.quantity) : LiveRecords r' now := by
  constructor
  · rw [hr']
    exact h.finite.update o v
  · intro o' e he
    rw [hr'] at he
    by_cases ho : o' = o
    · subst ho
      rw [Function.update_self] at he
      exact hv e he
    · rw [Function.update_of_ne ho] at he
      exact h.positive o' e he

theorem LiveRecords.reserved {p : ReserveParams} (h : LiveRecords r now) (httl : 0 < p.ttlSeconds) :
    LiveRecords (TicketRedis.reserved p now r) now :=
  h.update (reservation_reserved r httl) fun e he => by
    cases he
    exact p.quantity_pos

theorem LiveRecords.released {p : ReleaseParams} (h : LiveRecords r now) :
    LiveRecords (TicketRedis.released p r) now :=
  h.update (reservation_released p now r) fun e he => by cases he

/-- A reserve adds its record to the live ones. -/
theorem live_reserved {p : ReserveParams} (h : LiveRecords r now) (httl : 0 < p.ttlSeconds)
    (hnone : r.reservation now p.orderId = none) (g : Reservation → Int) :
    KeyTable.total g ((reserved p now r).reservation now)
      = KeyTable.total g (r.reservation now) + g (recordOf p now) := by
  rw [reservation_reserved r httl, KeyTable.total_update h.finite, hnone]
  simp

/-- A release takes its record from the live ones. -/
theorem live_released {p : ReleaseParams} {e : Reservation} (h : LiveRecords r now)
    (he : r.reservation now p.orderId = some e) (g : Reservation → Int) :
    KeyTable.total g ((released p r).reservation now)
      = KeyTable.total g (r.reservation now) - g e := by
  rw [reservation_released p now r, KeyTable.total_update h.finite, he]
  simp [sub_eq_add_neg]

end Live

/-! ## Conservation -/

/-- The clock and the store. -/
structure Moment where
  now : Nat
  redis : Redis

/-- What a caller promises: one `maxPerUser` for a type, and a time to live. -/
def Call.Allowed (limit : TicketTypeId → Int) : Call → Prop
  | .reserve p => p.maxPerUser = limit p.ticketTypeId ∧ 0 < p.ttlSeconds
  | .release _ => True

/-- One more call, with no key expired since the last one. -/
inductive Called (limit : TicketTypeId → Int) (a : Moment) : Moment → Prop where
  | call (c : Call) (now : Nat) :
      (∀ o, a.redis.reservation now o = a.redis.reservation a.now o) → c.Allowed limit →
      Called limit a ⟨now, (c.run now a.redis).1⟩

/-- A store nothing is reserved in. -/
structure Unreserved (limit : TicketTypeId → Int) (a : Moment) : Prop where
  stock : ∀ t, 0 ≤ stockOf a.redis t
  userLimit : ∀ u t, 0 ≤ userLimitOf a.redis u t ∧ userLimitOf a.redis u t ≤ limit t
  reservation : ∀ o, a.redis.reservation a.now o = none

/-- The keys of `b`, against those of `a`, where nothing was reserved. -/
structure Conserved (limit : TicketTypeId → Int) (a b : Moment) : Prop where
  stock_nonneg : ∀ t, 0 ≤ stockOf b.redis t
  stock : ∀ t, stockOf b.redis t + liveOf b.redis b.now t = stockOf a.redis t
  userLimit : ∀ u t,
    userLimitOf b.redis u t = userLimitOf a.redis u t + liveOfUser b.redis b.now u t
  bounds : ∀ u t, 0 ≤ userLimitOf b.redis u t ∧ userLimitOf b.redis u t ≤ limit t

/-- A rejected call leaves the whole store as it was. -/
theorem run_rejected {c : Call} {now : Nat} {r : Redis} (h : (c.run now r).2.isOk = false) :
    (c.run now r).1 = r := by
  cases c with
  | reserve p =>
      by_cases hcan : CanReserve p now r
      · rw [Call.run, reserveTicket_isOk.mpr hcan] at h
        cases h
      · obtain ⟨e, he⟩ := reserveTicket_error hcan
        rw [Call.run, he]
  | release p =>
      by_cases hm : Matches p now r
      · rw [Call.run, (release_of_matches hm).2] at h
        cases h
      · exact (release_of_not_matches hm).1

/-- What every sequence of calls keeps. -/
structure Booked (limit : TicketTypeId → Int) (a b : Moment) : Prop
    extends Conserved limit a b where
  live : LiveRecords b.redis b.now

theorem Unreserved.booked {limit : TicketTypeId → Int} {a : Moment} (h : Unreserved limit a) :
    Booked limit a a where
  stock_nonneg := h.stock
  stock t := by rw [liveOf, KeyTable.total_none h.reservation, add_zero]
  userLimit u t := by rw [liveOfUser, KeyTable.total_none h.reservation, add_zero]
  bounds := h.userLimit
  live := by
    refine ⟨KeyTable.finite_none.mono fun o ho => ?_, fun o e he => ?_⟩
    · rw [h.reservation o] at ho
      exact ho
    · rw [h.reservation o] at he
      cases he

/-- Time passes and no key expires. -/
theorem Booked.later {limit : TicketTypeId → Int} {a b : Moment} {now : Nat}
    (h : Booked limit a b)
    (hlive : ∀ o, b.redis.reservation now o = b.redis.reservation b.now o) :
    Booked limit a ⟨now, b.redis⟩ := by
  have htable : b.redis.reservation now = b.redis.reservation b.now := funext hlive
  constructor
  · refine ⟨h.stock_nonneg, fun t => ?_, fun u t => ?_, h.bounds⟩
    · rw [liveOf, htable]
      exact h.stock t
    · rw [liveOfUser, htable]
      exact h.userLimit u t
  · exact ⟨htable ▸ h.live.finite, fun o e he => h.live.positive o e (hlive o ▸ he)⟩

theorem Booked.reserved {limit : TicketTypeId → Int} {a : Moment} {now : Nat} {r : Redis}
    {p : ReserveParams} (h : Booked limit a ⟨now, r⟩) (hcan : CanReserve p now r)
    (hlimit : p.maxPerUser = limit p.ticketTypeId) (httl : 0 < p.ttlSeconds) :
    Booked limit a ⟨now, TicketRedis.reserved p now r⟩ := by
  obtain ⟨hstock, huser, hnone⟩ := hcan
  have hq := p.quantity_pos
  have hl : LiveRecords r now := h.live
  constructor
  · refine ⟨fun t => ?_, fun t => ?_, fun u t => ?_, fun u t => ?_⟩
    · have := h.stock_nonneg t
      simp only [stockOf_reserved] at this ⊢
      split
      · next ht =>
        subst ht
        omega
      · omega
    · have := h.stock t
      simp only [liveOf] at this ⊢
      rw [stockOf_reserved, live_reserved hl httl hnone, ofType_recordOf]
      omega
    · have := h.userLimit u t
      simp only [liveOfUser] at this ⊢
      rw [userLimitOf_reserved, live_reserved hl httl hnone, ofUser_recordOf]
      omega
    · have hb := h.bounds u t
      simp only [userLimitOf_reserved] at hb ⊢
      split
      · next hut =>
        obtain ⟨rfl, rfl⟩ := hut
        omega
      · omega
  · exact hl.reserved httl

theorem Booked.released {limit : TicketTypeId → Int} {a : Moment} {now : Nat} {r : Redis}
    {p : ReleaseParams} (ha : Unreserved limit a) (h : Booked limit a ⟨now, r⟩)
    (hm : Matches p now r) : Booked limit a ⟨now, TicketRedis.released p r⟩ := by
  obtain ⟨e, he, -, htype, huser⟩ := hm.weights
  have hq := p.quantity_pos
  have hl : LiveRecords r now := h.live
  -- the record is one of the live ones, so the counter covers it
  have hcover : p.quantity ≤ userLimitOf r p.userId p.ticketTypeId := by
    have hle := KeyTable.le_total (g := ofUser p.userId p.ticketTypeId) hl.finite
      (hl.ofUser_nonneg _ _) he
    have hlimit := h.userLimit p.userId p.ticketTypeId
    have hstart := (ha.userLimit p.userId p.ticketTypeId).1
    rw [huser, if_pos ⟨rfl, rfl⟩] at hle
    simp only [liveOfUser] at hlimit
    omega
  constructor
  · refine ⟨fun t => ?_, fun t => ?_, fun u t => ?_, fun u t => ?_⟩
    · have := h.stock_nonneg t
      simp only [stockOf_released] at this ⊢
      split <;> omega
    · have := h.stock t
      simp only [liveOf] at this ⊢
      rw [stockOf_released, live_released hl he, htype]
      omega
    · have := h.userLimit u t
      simp only [liveOfUser] at this ⊢
      rw [userLimitOf_released u t hcover, live_released hl he, huser]
      omega
    · have hb := h.bounds u t
      simp only [userLimitOf_released u t hcover] at hb ⊢
      split
      · next hut =>
        obtain ⟨rfl, rfl⟩ := hut
        omega
      · omega
  · exact hl.released

theorem Booked.called {limit : TicketTypeId → Int} {a b c : Moment} (ha : Unreserved limit a)
    (h : Booked limit a b) (hcall : Called limit b c) : Booked limit a c := by
  cases hcall with
  | call c now hlive hallowed =>
      have hlater := h.later hlive
      cases c with
      | reserve p =>
          by_cases hcan : CanReserve p now b.redis
          · rw [Call.run, reserveTicket_ok hcan]
            exact hlater.reserved hcan hallowed.1 hallowed.2
          · obtain ⟨e, he⟩ := reserveTicket_error hcan
            rw [Call.run, he]
            exact hlater
      | release p =>
          by_cases hm : Matches p now b.redis
          · rw [Call.run, (release_of_matches hm).1]
            exact hlater.released ha hm
          · rw [Call.run, (release_of_not_matches hm).1]
            exact hlater

/-- **Conservation by the scripts.**  After every sequence of calls the stock of a
    type and its live records add up to the stock before, the counters have grown
    by the live records of their users and stay within the limit, and a call that
    is rejected changes nothing. -/
theorem scripts_conserve {limit : TicketTypeId → Int} {a b : Moment} (ha : Unreserved limit a)
    (h : Relation.ReflTransGen (Called limit) a b) :
    Conserved limit a b ∧ ∀ (c : Call) (now : Nat),
      (c.run now b.redis).2.isOk = false → (c.run now b.redis).1 = b.redis := by
  have hbooked : Booked limit a b := by
    induction h with
    | refl => exact ha.booked
    | tail _ hstep ih => exact ih.called ha hstep
  exact ⟨hbooked.toConserved, fun _ _ => run_rejected⟩

/-! ### Three calls -/

/-- Five tickets of type 1 and nothing else. -/
def fiveTickets : Redis where
  stock := fun t => if t = 1 then some 5 else none
  userLimit := fun _ => none
  reservations := fun _ => none

theorem fiveTickets_unreserved : Unreserved (fun _ => 4) ⟨0, fiveTickets⟩ where
  stock t := by
    simp only [stockOf, fiveTickets]
    split <;> decide
  userLimit u t := by simp [userLimitOf, fiveTickets]
  reservation o := rfl

/-- Two tickets of type 1 for user 3. -/
def reserveTwo (o : OrderId) : ReserveParams where
  ticketTypeId := 1
  userId := 3
  orderId := o
  quantity := 2
  quantity_pos := by decide
  maxPerUser := 4
  ttlSeconds := 900

/-- The release of two tickets of type 1 by a user. -/
def releaseTwo (u : UserId) (o : OrderId) : ReleaseParams where
  ticketTypeId := 1
  userId := u
  orderId := o
  quantity := 2
  quantity_pos := by decide

/-- A reserve, a second one of the same order, and a release by somebody else:
    only the first is carried out. -/
theorem scripts_conserve_reserveOnce : ∃ b : Moment, stockOf b.redis 1 = 3 ∧
    Conserved (fun _ => 4) ⟨0, fiveTickets⟩ b := by
  have h : Relation.ReflTransGen (Called fun _ => 4) ⟨0, fiveTickets⟩ _ :=
    .tail (.tail (.tail .refl (.call (.reserve (reserveTwo 7)) 0 (fun _ => rfl) ⟨rfl, by decide⟩))
      (.call (.reserve (reserveTwo 7)) 0 (fun _ => rfl) ⟨rfl, by decide⟩))
      (.call (.release (releaseTwo 4 7)) 0 (fun _ => rfl) trivial)
  exact ⟨_, by decide, (scripts_conserve fiveTickets_unreserved h).1⟩

/-! ## Release undoes reserve -/

/-- Calls one after the other, each at its time; nothing once one is rejected. -/
def runAll (r : Redis) : List (Nat × Call) → Option Redis
  | [] => some r
  | (now, c) :: cs => if (c.run now r).2.isOk then runAll (c.run now r).1 cs else none

/-- The release that asks for what a reserve has taken. -/
def releaseOf (p : ReserveParams) : ReleaseParams where
  ticketTypeId := p.ticketTypeId
  userId := p.userId
  orderId := p.orderId
  quantity := p.quantity
  quantity_pos := p.quantity_pos

/-- A record without its time stamps. -/
def content (e : Reservation) : OrderId × UserId × TicketTypeId × Int :=
  (e.orderId, e.userId, e.ticketTypeId, e.quantity)

/-- An interposed call: what it does, and its time with and without the
    reservation before it. -/
structure Interposed where
  call : Call
  withReserve : Nat
  alone : Nat

/-- It is about another order, and a record it writes has a time to live. -/
def Interposed.OfOther (x : Interposed) (o : OrderId) : Prop :=
  x.call.orderId ≠ o ∧ ∀ p, x.call = .reserve p → 0 < p.ttlSeconds

/-- The same keys at the end of both runs.  The records agree up to their time
    stamps, and to the last field if the calls ran at the same times. -/
structure SameEnd (S : List Interposed) (o : OrderId) (now : Nat) (r r' : Redis) : Prop where
  stock : ∀ t, r.stock t = r'.stock t
  userLimit : ∀ u t, userLimitOf r u t = userLimitOf r' u t
  contents : ∀ o', o' ≠ o → (r.reservations o').map content = (r'.reservations o').map content
  records : (∀ x ∈ S, x.withReserve = x.alone) →
    ∀ o', o' ≠ o → r.reservations o' = r'.reservations o'
  own : ∀ now', now ≤ now' → r.reservation now' o = none ∧ r'.reservation now' o = none

/-- The store with the reservation, against the store without it. -/
structure Shifted (same : Prop) (p : ReserveParams) (now₀ now : Nat) (r r' : Redis) : Prop where
  keys : ∀ t, (r.stock t).isSome = (r'.stock t).isSome
  key : (r'.stock p.ticketTypeId).isSome
  stock : ∀ t, stockOf r t = stockOf r' t - (if p.ticketTypeId = t then p.quantity else 0)
  userLimit : ∀ u t, userLimitOf r u t
    = userLimitOf r' u t + (if p.userId = u ∧ p.ticketTypeId = t then p.quantity else 0)
  own : r.reservations p.orderId = some (recordOf p now₀)
  contents : ∀ o, o ≠ p.orderId → (r.reservations o).map content = (r'.reservations o).map content
  records : same → ∀ o, o ≠ p.orderId → r.reservations o = r'.reservations o
  gone : r'.reservation now p.orderId = none
  live : LiveRecords r' now
  cover : ∀ u t, liveOfUser r' now u t ≤ userLimitOf r' u t

theorem shifted_reserved {same : Prop} {p : ReserveParams} {now : Nat} {r : Redis}
    (hcan : CanReserve p now r) (hlive : LiveRecords r now)
    (hcover : ∀ u t, liveOfUser r now u t ≤ userLimitOf r u t) :
    Shifted same p now now (reserved p now r) r where
  keys t := by
    by_cases h : t = p.ticketTypeId
    · subst h
      have hpos : 0 < stockOf r p.ticketTypeId := lt_of_lt_of_le p.quantity_pos hcan.1
      cases hs : r.stock p.ticketTypeId with
      | none => simp [stockOf, hs] at hpos
      | some n => simp [reserved]
    · simp [reserved, h]
  key := by
    have hpos : 0 < stockOf r p.ticketTypeId := lt_of_lt_of_le p.quantity_pos hcan.1
    cases hs : r.stock p.ticketTypeId with
    | none => simp [stockOf, hs] at hpos
    | some n => rfl
  stock t := stockOf_reserved p now r t
  userLimit u t := userLimitOf_reserved p now r u t
  own := by simp [reserved, recordOf]
  contents o ho := by simp [reserved, ho]
  records _ o ho := by simp [reserved, ho]
  gone := hcan.2.2
  live := hlive
  cover := hcover

/-- The run without the reservation moves on in time. -/
theorem Shifted.later {same : Prop} {p : ReserveParams} {now₀ now now' : Nat} {r r' : Redis}
    (h : Shifted same p now₀ now r r') (hle : now ≤ now') : Shifted same p now₀ now' r r' := by
  have hkept : ∀ o e, r'.reservation now' o = some e → r'.reservation now o = some e := by
    intro o e he
    simp only [Redis.reservation, Option.filter_eq_some_iff, decide_eq_true_eq] at he ⊢
    exact ⟨he.1, lt_of_le_of_lt hle he.2⟩
  refine { h with gone := reservation_none_mono hle h.gone, live := ⟨?_, ?_⟩, cover := ?_ }
  · refine h.live.finite.mono fun o ho => ?_
    obtain ⟨e, he⟩ := Option.isSome_iff_exists.mp ho
    rw [hkept o e he]
    rfl
  · exact fun o e he => h.live.positive o e (hkept o e he)
  · exact fun u t => le_trans
      (KeyTable.total_mono h.live.finite (h.live.ofUser_nonneg u t) hkept) (h.cover u t)

theorem canReserve_of_isOk {p : ReserveParams} {now : Nat} {r : Redis}
    (h : ((Call.reserve p).run now r).2.isOk = true) :
    CanReserve p now r ∧ ((Call.reserve p).run now r).1 = reserved p now r := by
  have hcan := reserveTicket_isOk.mp h
  exact ⟨hcan, by rw [Call.run, reserveTicket_ok hcan]⟩

theorem matches_of_isOk {p : ReleaseParams} {now : Nat} {r : Redis}
    (h : ((Call.release p).run now r).2.isOk = true) :
    Matches p now r ∧ ((Call.release p).run now r).1 = released p r := by
  by_cases hm : Matches p now r
  · exact ⟨hm, (release_of_matches hm).1⟩
  · rw [Call.run, (release_of_not_matches hm).2] at h
    cases h

section Interposed

variable {same : Prop} {p : ReserveParams} {now₀ now : Nat} {r r' : Redis}

/-- Both runs reserve for another order. -/
theorem Shifted.reserved {c : ReserveParams} {n : Nat} (h : Shifted same p now₀ now r r')
    (ho : c.orderId ≠ p.orderId) (httl : 0 < c.ttlSeconds) (hn : same → n = now)
    (hcan : CanReserve c now r') :
    Shifted same p now₀ now (TicketRedis.reserved c n r) (TicketRedis.reserved c now r') where
  keys t := by
    by_cases ht : t = c.ticketTypeId
    · simp [TicketRedis.reserved, ht]
    · simpa [TicketRedis.reserved, ht] using h.keys t
  key := by
    by_cases ht : p.ticketTypeId = c.ticketTypeId
    · simp [TicketRedis.reserved, ht]
    · simpa [TicketRedis.reserved, ht] using h.key
  stock t := by
    rw [stockOf_reserved, stockOf_reserved, h.stock t]
    omega
  userLimit u t := by
    rw [userLimitOf_reserved, userLimitOf_reserved, h.userLimit u t]
    omega
  own := by
    simp only [TicketRedis.reserved, Function.update_of_ne (Ne.symm ho)]
    exact h.own
  contents o hne := by
    by_cases hoc : o = c.orderId
    · simp [TicketRedis.reserved, hoc, content]
    · simpa [TicketRedis.reserved, hoc] using h.contents o hne
  records hs o hne := by
    by_cases hoc : o = c.orderId
    · simp [TicketRedis.reserved, hoc, hn hs]
    · simpa [TicketRedis.reserved, hoc] using h.records hs o hne
  gone := by
    rw [reservation_reserved_ne (Ne.symm ho)]
    exact h.gone
  live := h.live.reserved httl
  cover u t := by
    have := h.cover u t
    rw [liveOfUser] at this ⊢
    rw [live_reserved h.live httl hcan.2.2, userLimitOf_reserved, ofUser_recordOf]
    omega

/-- Both runs release another order. -/
theorem Shifted.released {c : ReleaseParams} (h : Shifted same p now₀ now r r')
    (ho : c.orderId ≠ p.orderId) (hm : Matches c now r') :
    Shifted same p now₀ now (TicketRedis.released c r) (TicketRedis.released c r') := by
  obtain ⟨e, he, -, -, huser⟩ := hm.weights
  -- the released record is live, so neither counter meets the clamp
  have hcover' : c.quantity ≤ userLimitOf r' c.userId c.ticketTypeId := by
    have hle := KeyTable.le_total h.live.finite (h.live.ofUser_nonneg c.userId c.ticketTypeId) he
    have := h.cover c.userId c.ticketTypeId
    rw [huser, if_pos ⟨rfl, rfl⟩] at hle
    rw [liveOfUser] at this
    omega
  have hcover : c.quantity ≤ userLimitOf r c.userId c.ticketTypeId := by
    have := h.userLimit c.userId c.ticketTypeId
    have := p.quantity_pos
    omega
  refine ⟨fun t => ?_, ?_, fun t => ?_, fun u t => ?_, ?_, fun o hne => ?_, fun hs o hne => ?_, ?_,
    h.live.released, fun u t => ?_⟩
  · by_cases ht : t = c.ticketTypeId
    · simp [TicketRedis.released, ht]
    · simpa [TicketRedis.released, ht] using h.keys t
  · by_cases ht : p.ticketTypeId = c.ticketTypeId
    · simp [TicketRedis.released, ht]
    · simpa [TicketRedis.released, ht] using h.key
  · rw [stockOf_released, stockOf_released, h.stock t]
    omega
  · rw [userLimitOf_released u t hcover, userLimitOf_released u t hcover', h.userLimit u t]
    omega
  · simp only [TicketRedis.released, Function.update_of_ne (Ne.symm ho)]
    exact h.own
  · by_cases hoc : o = c.orderId
    · simp [TicketRedis.released, hoc]
    · simpa [TicketRedis.released, hoc] using h.contents o hne
  · by_cases hoc : o = c.orderId
    · simp [TicketRedis.released, hoc]
    · simpa [TicketRedis.released, hoc] using h.records hs o hne
  · rw [reservation_released_ne (Ne.symm ho)]
    exact h.gone
  · have := h.cover u t
    rw [liveOfUser] at this ⊢
    rw [live_released h.live he, userLimitOf_released u t hcover', huser]
    omega

/-- One interposed call that both runs carry out. -/
theorem Shifted.called {x : Interposed} (h : Shifted same p now₀ now r r')
    (ho : x.OfOther p.orderId) (hn : same → x.withReserve = x.alone) (hle : now ≤ x.alone)
    (hok : (x.call.run x.withReserve r).2.isOk = true)
    (hok' : (x.call.run x.alone r').2.isOk = true) :
    Shifted same p now₀ x.alone (x.call.run x.withReserve r).1 (x.call.run x.alone r').1 := by
  obtain ⟨c, n, n'⟩ := x
  obtain ⟨ho, httl⟩ := ho
  have hlater := h.later hle
  cases c with
  | reserve c =>
      obtain ⟨-, heq⟩ := canReserve_of_isOk hok
      obtain ⟨hcan, heq'⟩ := canReserve_of_isOk hok'
      simp only [heq, heq']
      exact hlater.reserved ho (httl c rfl) hn hcan
  | release c =>
      obtain ⟨-, heq⟩ := matches_of_isOk hok
      obtain ⟨hm, heq'⟩ := matches_of_isOk hok'
      simp only [heq, heq']
      exact hlater.released ho hm

end Interposed

/-- The clock of the run without the reservation never goes back. -/
def Later : Nat → List Interposed → Prop
  | _, [] => True
  | now, x :: S => now ≤ x.alone ∧ Later x.alone S

/-- The time of the last call of the run without the reservation. -/
def lastOf : Nat → List Interposed → Nat
  | now, [] => now
  | _, x :: S => lastOf x.alone S

/-- All interposed calls. -/
theorem Shifted.run {same : Prop} {p : ReserveParams} {now₀ : Nat} {S : List Interposed} :
    ∀ {now : Nat} {r r' r₁ r₂ : Redis}, Shifted same p now₀ now r r' →
      (∀ x ∈ S, x.OfOther p.orderId) → (same → ∀ x ∈ S, x.withReserve = x.alone) → Later now S →
      runAll r (S.map fun x => (x.withReserve, x.call)) = some r₁ →
      runAll r' (S.map fun x => (x.alone, x.call)) = some r₂ →
      Shifted same p now₀ (lastOf now S) r₁ r₂ := by
  induction S with
  | nil =>
      intro now r r' r₁ r₂ h _ _ _ h₁ h₂
      cases h₁
      cases h₂
      exact h
  | cons x S ih =>
      intro now r r' r₁ r₂ h ho hsame hlater h₁ h₂
      simp only [List.map_cons, runAll, Option.ite_none_right_eq_some] at h₁ h₂
      exact ih (h.called (ho x List.mem_cons_self) (fun hs => hsame hs x List.mem_cons_self)
          hlater.1 h₁.1 h₂.1)
        (fun y hy => ho y (List.mem_cons_of_mem x hy))
        (fun hs y hy => hsame hs y (List.mem_cons_of_mem x hy)) hlater.2 h₁.2 h₂.2

/-- **Release undoes reserve**, whatever other orders did in between: the run
    with the reservation and its release ends with the keys of the run without
    them, and the order cannot be released again. -/
theorem release_undoes_reserve {p : ReserveParams} {now₀ now₁ : Nat} {r r₁ r₂ : Redis}
    {S : List Interposed} (hlive : LiveRecords r now₀)
    (hcover : ∀ u t, liveOfUser r now₀ u t ≤ userLimitOf r u t)
    (hok : (reserveTicket p now₀ r).2.isOk = true) (hother : ∀ x ∈ S, x.OfOther p.orderId)
    (hlater : Later now₀ S)
    (hwith : runAll (reserveTicket p now₀ r).1 (S.map fun x => (x.withReserve, x.call)) = some r₁)
    (halone : runAll r (S.map fun x => (x.alone, x.call)) = some r₂)
    (httl : now₁ < now₀ + p.ttlSeconds * 1000) :
    (releaseReservation (releaseOf p) now₁ r₁).2.isOk = true ∧
      SameEnd S p.orderId (lastOf now₀ S) (releaseReservation (releaseOf p) now₁ r₁).1 r₂ ∧
      ∀ (q : ReleaseParams) (now₂ : Nat), q.orderId = p.orderId →
        releaseReservation q now₂ (releaseReservation (releaseOf p) now₁ r₁).1
          = ((releaseReservation (releaseOf p) now₁ r₁).1, .error .reservationNotFound) := by
  have hcan := reserveTicket_isOk.mp hok
  rw [reserveTicket_ok hcan] at hwith
  have h : Shifted (∀ x ∈ S, x.withReserve = x.alone) p now₀ (lastOf now₀ S) r₁ r₂ :=
    (shifted_reserved hcan hlive hcover).run hother id hlater hwith halone
  have hrecord : r₁.reservation now₁ p.orderId = some (recordOf p now₀) := by
    simp [Redis.reservation, h.own, Option.filter_some, recordOf, httl]
  have hm : Matches (releaseOf p) now₁ r₁ := ⟨_, hrecord, rfl, rfl, rfl, rfl⟩
  obtain ⟨hrel, hrelOk⟩ := release_of_matches hm
  rw [hrel]
  have hgone : ∀ now', (released (releaseOf p) r₁).reservation now' p.orderId = none :=
    fun now' => reservation_released_self (releaseOf p) now' r₁
  refine ⟨hrelOk, ⟨fun t => ?_, fun u t => ?_, fun o ho => ?_, fun hs o ho => ?_,
    fun now' hle => ⟨hgone now', reservation_none_mono hle h.gone⟩⟩, fun q now₂ hq => ?_⟩
  · -- both keys are present or absent, and hold the same number
    have hstock := h.stock t
    have hkeys := h.keys t
    by_cases ht : p.ticketTypeId = t
    · subst ht
      obtain ⟨n, hn⟩ := Option.isSome_iff_exists.mp h.key
      simp only [if_true, stockOf, hn, Option.getD_some] at hstock
      simp only [released, releaseOf, Function.update_self, hn, stockOf]
      congr 1
      omega
    · rw [if_neg ht, sub_zero] at hstock
      simp only [released, releaseOf, Function.update_of_ne (Ne.symm ht)]
      simp only [stockOf] at hstock
      cases h₁ : r₁.stock t <;> cases h₂ : r₂.stock t <;> simp_all
  -- the counter of the limit covers what this reservation added
  · have hle : (releaseOf p).quantity
        ≤ userLimitOf r₁ (releaseOf p).userId (releaseOf p).ticketTypeId := by
      have hself := h.userLimit p.userId p.ticketTypeId
      have hself0 := le_trans (h.live.liveOfUser_nonneg p.userId p.ticketTypeId) (h.cover _ _)
      rw [if_pos ⟨rfl, rfl⟩] at hself
      simp only [releaseOf]
      omega
    rw [userLimitOf_released u t hle, h.userLimit u t]
    show _ + (if p.userId = u ∧ p.ticketTypeId = t then p.quantity else 0)
      - (if p.userId = u ∧ p.ticketTypeId = t then p.quantity else 0) = _
    rw [add_sub_cancel_right]
  · simp only [released, releaseOf, Function.update_of_ne ho]
    exact h.contents o ho
  · simp only [released, releaseOf, Function.update_of_ne ho]
    exact h.records hs o ho
  · rw [releaseReservation, hq, hgone]

/-! ### Another order of the same user in between -/

/-- Order 8 of the same user and type is reserved while order 7 is, a little
    earlier without it. -/
def orderEight : Interposed where
  call := .reserve (reserveTwo 8)
  withReserve := 2000
  alone := 1000

/-- Order 7 is reserved and released around it, and three tickets are left. -/
theorem release_undoes_reserve_aroundEight : ∃ r₁ r₂ : Redis,
    (r₂.stock 1 = some 3 ∧ userLimitOf r₂ 3 1 = 2) ∧ SameEnd [orderEight] 7 1000 r₁ r₂ := by
  have hempty : ∀ o, fiveTickets.reservation 0 o = none := fun _ => rfl
  have hlive : LiveRecords fiveTickets 0 := fiveTickets_unreserved.booked.live
  have hcover : ∀ u t, liveOfUser fiveTickets 0 u t ≤ userLimitOf fiveTickets u t := fun u t => by
    rw [liveOfUser, KeyTable.total_none hempty]
    exact (fiveTickets_unreserved.userLimit u t).1
  have hother : ∀ x ∈ [orderEight], x.OfOther (reserveTwo 7).orderId := by
    intro x hx
    rw [List.mem_singleton.mp hx]
    refine ⟨by decide, fun p hp => ?_⟩
    cases hp
    decide
  have hok : (reserveTicket (reserveTwo 7) 0 fiveTickets).2.isOk = true := by decide
  have hnow : 3000 < 0 + (reserveTwo 7).ttlSeconds * 1000 := by decide
  have h := release_undoes_reserve hlive hcover hok hother ⟨by decide, trivial⟩ rfl rfl hnow
  exact ⟨_, _, by decide, h.2.1⟩

end TicketRedis
