import TicketBox.Store

/-! # The Redis side: the two Lua scripts and the seeding commands

    `reserve-ticket.lua` and `release-reservation.lua` as Redis runs them, in
    one step and with every reject branch, and the commands `SET`, `SET NX` and
    `DEL` the services use beside them.  A missing number reads as 0
    (`tonumber(false)` is `nil`), and `DECRBY`/`INCRBY` start it at 0.

    The first section gives the scripts; the second says what each can do:
    `reserveTicket_ok` and `reserveTicket_error` split a reserve by
    `CanReserve`, `release_of_matches` and `release_of_not_matches` split a
    release by whether the live record is the one asked for. -/

namespace TicketRedis

open TicketStore

/-! ## The scripts -/

/-- The reject branches of both scripts. -/
inductive LuaError where
  | outOfStock
  | exceedUserLimit (remainingCanBuy : Int)
  | reservationAlreadyExists
  | reservationNotFound
  | orderIdMismatch
  | userIdMismatch
  | ticketTypeMismatch
  | quantityMismatch
  deriving DecidableEq

/-- The field `error` of a rejected script. -/
def LuaError.code : LuaError → String
  | .outOfStock => "OUT_OF_STOCK"
  | .exceedUserLimit _ => "EXCEED_USER_LIMIT"
  | .reservationAlreadyExists => "RESERVATION_ALREADY_EXISTS"
  | .reservationNotFound => "RESERVATION_NOT_FOUND"
  | .orderIdMismatch => "ORDER_ID_MISMATCH"
  | .userIdMismatch => "USER_ID_MISMATCH"
  | .ticketTypeMismatch => "TICKET_TYPE_MISMATCH"
  | .quantityMismatch => "QUANTITY_MISMATCH"

/-- The field `message` of a rejected script. -/
def LuaError.message : LuaError → String
  | .outOfStock => "Not enough tickets available"
  | .exceedUserLimit _ => "Purchase would exceed per-user ticket limit"
  | .reservationAlreadyExists => "Reservation already exists, possible duplicate request"
  | .reservationNotFound => "Reservation not found, may have already been released"
  | .orderIdMismatch => "Order ID in reservation does not match request"
  | .userIdMismatch => "User ID in reservation does not match request"
  | .ticketTypeMismatch => "Ticket type ID in reservation does not match request"
  | .quantityMismatch => "Requested release quantity does not match reservation"

/-- The numbers of a successful script. -/
structure LuaReply where
  quantity : Int
  newStock : Int
  newUserQty : Int
  deriving DecidableEq

/-- `ok = true` with its numbers, or `ok = false` with its branch. -/
abbrev LuaScriptResult := Except LuaError LuaReply

/-- The arguments of `reserve-ticket.lua`. -/
structure ReserveParams where
  ticketTypeId : TicketTypeId
  userId : UserId
  orderId : OrderId
  quantity : Int
  quantity_pos : 0 < quantity
  maxPerUser : Int
  ttlSeconds : Nat

/-- The arguments of `release-reservation.lua`. -/
structure ReleaseParams where
  ticketTypeId : TicketTypeId
  userId : UserId
  orderId : OrderId
  quantity : Int
  quantity_pos : 0 < quantity

/-- `GET stock:{ticketTypeId}` as the scripts read it. -/
def stockOf (r : Redis) (t : TicketTypeId) : Int := (r.stock t).getD 0

/-- `GET user_limit:{userId}:{ticketTypeId}` as the scripts read it. -/
def userLimitOf (r : Redis) (u : UserId) (t : TicketTypeId) : Int := (r.userLimit (u, t)).getD 0

/-- `reserve-ticket.lua` -/
def reserveTicket (p : ReserveParams) (now : Nat) (r : Redis) : Redis × LuaScriptResult :=
  let currentStock := stockOf r p.ticketTypeId
  let userCurrentQty := userLimitOf r p.userId p.ticketTypeId
  if currentStock < p.quantity then (r, .error .outOfStock)
  else if p.maxPerUser < userCurrentQty + p.quantity then
    (r, .error (.exceedUserLimit (p.maxPerUser - userCurrentQty)))
  else if (r.reservation now p.orderId).isSome then (r, .error .reservationAlreadyExists)
  else
    ({ stock := Function.update r.stock p.ticketTypeId (some (currentStock - p.quantity))
       userLimit := Function.update r.userLimit (p.userId, p.ticketTypeId)
         (some (userCurrentQty + p.quantity))
       reservations := Function.update r.reservations p.orderId
         (some { orderId := p.orderId, userId := p.userId, ticketTypeId := p.ticketTypeId,
                 quantity := p.quantity, createdAt := now / 1000,
                 expireAt := now + p.ttlSeconds * 1000 }) },
     .ok { quantity := p.quantity, newStock := currentStock - p.quantity,
           newUserQty := userCurrentQty + p.quantity })

/-- `release-reservation.lua` -/
def releaseReservation (p : ReleaseParams) (now : Nat) (r : Redis) : Redis × LuaScriptResult :=
  match r.reservation now p.orderId with
  | none => (r, .error .reservationNotFound)
  | some e =>
      if e.orderId ≠ p.orderId then (r, .error .orderIdMismatch)
      else if e.userId ≠ p.userId then (r, .error .userIdMismatch)
      else if e.ticketTypeId ≠ p.ticketTypeId then (r, .error .ticketTypeMismatch)
      else if e.quantity ≠ p.quantity then (r, .error .quantityMismatch)
      else
        let newStock := stockOf r p.ticketTypeId + e.quantity
        -- 4b: a counter that would go below zero is reset to 0
        let newUserQty := max 0 (userLimitOf r p.userId p.ticketTypeId - e.quantity)
        ({ stock := Function.update r.stock p.ticketTypeId (some newStock)
           userLimit := Function.update r.userLimit (p.userId, p.ticketTypeId) (some newUserQty)
           reservations := Function.update r.reservations p.orderId none },
         .ok { quantity := e.quantity, newStock := newStock, newUserQty := newUserQty })

/-! ## The plain commands -/

/-- `setNx('stock:…', available)` -/
def setNxStock (t : TicketTypeId) (available : Int) (r : Redis) : Redis :=
  match r.stock t with
  | some _ => r
  | none => { r with stock := Function.update r.stock t (some available) }

/-- `setNx('user_limit:…', currentCount)` -/
def setNxUserLimit (u : UserId) (t : TicketTypeId) (currentCount : Int) (r : Redis) : Redis :=
  match r.userLimit (u, t) with
  | some _ => r
  | none => { r with userLimit := Function.update r.userLimit (u, t) (some currentCount) }

/-- `seedStock`: overwrites, never below zero. -/
def seedStock (t : TicketTypeId) (available : Int) (r : Redis) : Redis :=
  { r with stock := Function.update r.stock t (some (max 0 available)) }

/-- `del('reservation:…')` -/
def delReservation (o : OrderId) (r : Redis) : Redis :=
  { r with reservations := Function.update r.reservations o none }

/-! ## What a reserve does -/

/-- The three checkpoints of `reserve-ticket.lua`, all passed. -/
def CanReserve (p : ReserveParams) (now : Nat) (r : Redis) : Prop :=
  p.quantity ≤ stockOf r p.ticketTypeId
    ∧ userLimitOf r p.userId p.ticketTypeId + p.quantity ≤ p.maxPerUser
    ∧ r.reservation now p.orderId = none

/-- The script branches on it. -/
instance (p : ReserveParams) (now : Nat) (r : Redis) : Decidable (CanReserve p now r) :=
  inferInstanceAs (Decidable (_ ∧ _ ∧ _))

/-- The store after a successful reserve. -/
def reserved (p : ReserveParams) (now : Nat) (r : Redis) : Redis where
  stock := Function.update r.stock p.ticketTypeId (some (stockOf r p.ticketTypeId - p.quantity))
  userLimit := Function.update r.userLimit (p.userId, p.ticketTypeId)
    (some (userLimitOf r p.userId p.ticketTypeId + p.quantity))
  reservations := Function.update r.reservations p.orderId
    (some { orderId := p.orderId, userId := p.userId, ticketTypeId := p.ticketTypeId,
            quantity := p.quantity, createdAt := now / 1000,
            expireAt := now + p.ttlSeconds * 1000 })

/-- A reserve that passes its checkpoints takes the tickets and writes the record. -/
theorem reserveTicket_ok {p : ReserveParams} {now : Nat} {r : Redis} (h : CanReserve p now r) :
    reserveTicket p now r = (reserved p now r, .ok
      { quantity := p.quantity, newStock := stockOf r p.ticketTypeId - p.quantity,
        newUserQty := userLimitOf r p.userId p.ticketTypeId + p.quantity }) := by
  obtain ⟨h1, h2, h3⟩ := h
  simp only [reserveTicket, reserved]
  rw [if_neg (by omega), if_neg (by omega), if_neg (by simp [h3])]

/-- A reserve that fails a checkpoint answers an error and changes nothing. -/
theorem reserveTicket_error {p : ReserveParams} {now : Nat} {r : Redis}
    (h : ¬ CanReserve p now r) : ∃ e, reserveTicket p now r = (r, .error e) := by
  simp only [reserveTicket]
  by_cases h1 : stockOf r p.ticketTypeId < p.quantity
  · exact ⟨_, if_pos h1⟩
  rw [if_neg h1]
  by_cases h2 : p.maxPerUser < userLimitOf r p.userId p.ticketTypeId + p.quantity
  · exact ⟨_, if_pos h2⟩
  rw [if_neg h2]
  have h3 : (r.reservation now p.orderId).isSome = true := by
    by_contra hn
    refine h ⟨by omega, by omega, ?_⟩
    cases hr : r.reservation now p.orderId with
    | none => rfl
    | some e => rw [hr] at hn; exact absurd rfl hn
  exact ⟨_, if_pos h3⟩

/-- Whether a reserve answers `ok` is exactly whether its checkpoints pass. -/
theorem reserveTicket_isOk {p : ReserveParams} {now : Nat} {r : Redis} :
    (reserveTicket p now r).2.isOk = true ↔ CanReserve p now r := by
  by_cases h : CanReserve p now r
  · rw [reserveTicket_ok h]
    exact iff_of_true rfl h
  · obtain ⟨e, he⟩ := reserveTicket_error h
    rw [he]
    exact iff_of_false (by simp [Except.isOk, Except.toBool]) h

@[simp] theorem stockOf_reserved_self (p : ReserveParams) (now : Nat) (r : Redis) :
    stockOf (reserved p now r) p.ticketTypeId = stockOf r p.ticketTypeId - p.quantity := by
  simp [stockOf, reserved]

/-- A reservation leaves the stock of other types alone. -/
theorem stockOf_reserved_ne {p : ReserveParams} {now : Nat} {r : Redis} {t : TicketTypeId}
    (h : t ≠ p.ticketTypeId) : stockOf (reserved p now r) t = stockOf r t := by
  simp [stockOf, reserved, h]

@[simp] theorem userLimitOf_reserved_self (p : ReserveParams) (now : Nat) (r : Redis) :
    userLimitOf (reserved p now r) p.userId p.ticketTypeId
      = userLimitOf r p.userId p.ticketTypeId + p.quantity := by
  simp [userLimitOf, reserved]

/-- And the limits of others. -/
theorem userLimitOf_reserved_ne {p : ReserveParams} {now : Nat} {r : Redis}
    {u : UserId} {t : TicketTypeId} (h : (u, t) ≠ (p.userId, p.ticketTypeId)) :
    userLimitOf (reserved p now r) u t = userLimitOf r u t := by
  simp only [userLimitOf, reserved]
  rw [Function.update_of_ne h]

/-- A reserve counts at its own user and ticket type. -/
theorem userLimitOf_reserved (p : ReserveParams) (now : Nat) (r : Redis) (u : UserId)
    (t : TicketTypeId) : userLimitOf (reserved p now r) u t = userLimitOf r u t
      + (if p.userId = u ∧ p.ticketTypeId = t then p.quantity else 0) := by
  by_cases h : p.userId = u ∧ p.ticketTypeId = t
  · obtain ⟨rfl, rfl⟩ := h
    rw [if_pos ⟨rfl, rfl⟩, userLimitOf_reserved_self]
  · rw [if_neg h, add_zero, userLimitOf_reserved_ne]
    rintro ⟨⟩
    exact h ⟨rfl, rfl⟩

/-! ## What a release does -/

/-- The live record is the one a release asks for. -/
def Matches (p : ReleaseParams) (now : Nat) (r : Redis) : Prop :=
  ∃ e, r.reservation now p.orderId = some e ∧ e.orderId = p.orderId ∧ e.userId = p.userId
    ∧ e.ticketTypeId = p.ticketTypeId ∧ e.quantity = p.quantity

/-- So does the script of a release. -/
instance (p : ReleaseParams) (now : Nat) (r : Redis) : Decidable (Matches p now r) :=
  inferInstanceAs (Decidable (∃ e ∈ r.reservation now p.orderId, _ ∧ _))

/-- The store after a successful release. -/
def released (p : ReleaseParams) (r : Redis) : Redis where
  stock := Function.update r.stock p.ticketTypeId (some (stockOf r p.ticketTypeId + p.quantity))
  userLimit := Function.update r.userLimit (p.userId, p.ticketTypeId)
    (some (max 0 (userLimitOf r p.userId p.ticketTypeId - p.quantity)))
  reservations := Function.update r.reservations p.orderId none

/-- A release that finds its record takes effect. -/
theorem release_of_matches {p : ReleaseParams} {now : Nat} {r : Redis} (h : Matches p now r) :
    (releaseReservation p now r).1 = released p r ∧
      (releaseReservation p now r).2.isOk = true := by
  obtain ⟨e, he, h1, h2, h3, h4⟩ := h
  simp [releaseReservation, he, h1, h2, h3, h4, released, Except.isOk, Except.toBool]

/-- A release that finds another record, or none, answers an error and changes nothing. -/
theorem release_of_not_matches {p : ReleaseParams} {now : Nat} {r : Redis}
    (h : ¬ Matches p now r) :
    (releaseReservation p now r).1 = r ∧ (releaseReservation p now r).2.isOk = false := by
  simp only [releaseReservation]
  cases he : r.reservation now p.orderId with
  | none => exact ⟨rfl, rfl⟩
  | some e =>
      by_cases h1 : e.orderId = p.orderId
      · by_cases h2 : e.userId = p.userId
        · by_cases h3 : e.ticketTypeId = p.ticketTypeId
          · by_cases h4 : e.quantity = p.quantity
            · exact absurd ⟨e, he, h1, h2, h3, h4⟩ h
            · simp [h1, h2, h3, h4, Except.isOk, Except.toBool]
          · simp [h1, h2, h3, Except.isOk, Except.toBool]
        · simp [h1, h2, Except.isOk, Except.toBool]
      · simp [h1, Except.isOk, Except.toBool]

@[simp] theorem stockOf_released_self (p : ReleaseParams) (r : Redis) :
    stockOf (released p r) p.ticketTypeId = stockOf r p.ticketTypeId + p.quantity := by
  simp [stockOf, released]

/-- A release leaves the stock of other types alone. -/
theorem stockOf_released_ne {p : ReleaseParams} {r : Redis} {t : TicketTypeId}
    (h : t ≠ p.ticketTypeId) : stockOf (released p r) t = stockOf r t := by
  simp [stockOf, released, h]

@[simp] theorem userLimitOf_released_self (p : ReleaseParams) (r : Redis) :
    userLimitOf (released p r) p.userId p.ticketTypeId
      = max 0 (userLimitOf r p.userId p.ticketTypeId - p.quantity) := by
  simp [userLimitOf, released]

/-- And the limits of others. -/
theorem userLimitOf_released_ne {p : ReleaseParams} {r : Redis} {u : UserId} {t : TicketTypeId}
    (h : (u, t) ≠ (p.userId, p.ticketTypeId)) :
    userLimitOf (released p r) u t = userLimitOf r u t := by
  simp only [userLimitOf, released]
  rw [Function.update_of_ne h]

/-! ## Records -/

/-- The record of a reservation lives as long as its TTL. -/
theorem reservation_reserved_self (p : ReserveParams) (now now' : Nat) (r : Redis) :
    (reserved p now r).reservation now' p.orderId
      = if now' < now + p.ttlSeconds * 1000 then
          some { orderId := p.orderId, userId := p.userId, ticketTypeId := p.ticketTypeId,
                 quantity := p.quantity, createdAt := now / 1000,
                 expireAt := now + p.ttlSeconds * 1000 }
        else none := by
  simp [Redis.reservation, reserved, Option.filter]

/-- Other records stay. -/
theorem reservation_reserved_ne {p : ReserveParams} {now now' : Nat} {r : Redis} {o : OrderId}
    (h : o ≠ p.orderId) :
    (reserved p now r).reservation now' o = r.reservation now' o := by
  simp [Redis.reservation, reserved, h]

@[simp] theorem reservation_released_self (p : ReleaseParams) (now : Nat) (r : Redis) :
    (released p r).reservation now p.orderId = none := by
  simp [Redis.reservation, released]

/-- They stay behind a release too. -/
theorem reservation_released_ne {p : ReleaseParams} {now : Nat} {r : Redis} {o : OrderId}
    (h : o ≠ p.orderId) : (released p r).reservation now o = r.reservation now o := by
  simp [Redis.reservation, released, h]

/-- A record that is gone stays gone as time passes. -/
theorem reservation_none_mono {r : Redis} {now now' : Nat} {o : OrderId} (hle : now ≤ now')
    (h : r.reservation now o = none) : r.reservation now' o = none := by
  simp only [Redis.reservation] at h ⊢
  cases hr : r.reservations o with
  | none => rfl
  | some e =>
      rw [hr] at h
      simp only [Option.filter_some, decide_eq_true_eq, ite_eq_right_iff, reduceCtorEq,
        imp_false, Nat.not_lt] at h ⊢
      omega

end TicketRedis
