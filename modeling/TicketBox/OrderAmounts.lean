import TicketBox.CreatedHold
import TicketBox.SoldOutProofs

/-! # Whether the amounts of an order fit their columns

    `OrderItem.subtotal` and `Order.totalAmountInVnd` are 32-bit integers, and
    `order.create` throws where one of them overflows.  The DTOs bound a price, a total
    and a limit only from below, and a quantity too: what a price is multiplied by is
    bounded by the stock and by what the user may still buy when the reservation is
    executed.  One item alone is reserved while the record of the order lives, so the
    amounts fit exactly if that room, and the price of every type on sale times it, do
    (`order_amounts_fit`).  `order_amounts_overflow` is an order whose insert fails. -/

namespace TicketBackend

open Interleave TicketStore TicketRedis TicketDb TicketFlow TicketOrder TicketPayment
open Relation (ReflTransGen)

/-! ## The columns -/

/-- Zero fits. -/
theorem fitsInt_zero : FitsInt 0 := by decide

/-- The DTOs accepted the numbers of the type, and its row holds them. -/
structure DtoAccepts (row : TicketType) : Prop where
  price : 0 ≤ row.price ∧ row.price ≤ maxInt
  totalQty : 1 ≤ row.totalQty ∧ row.totalQty ≤ maxInt
  maxPerUser : 1 ≤ row.maxPerUser ∧ row.maxPerUser ≤ maxInt

/-! ## The requests -/

/-- A call validated the item in one of the states `checked`. -/
def Validated (checked : World → Prop) (c : ConcertId) (m : TicketMeta) : Prop :=
  ∃ w item, checked w ∧ validateTicketType w.db w.now c item = .ok m

/-- The type is on sale in one of them. -/
def Offered (checked : World → Prop) (c : ConcertId) (row : TicketType) : Prop :=
  ∃ w, checked w ∧ w.db.findTicketType row.id = some row ∧ row.concertId = c ∧
    row.status = .active ∧ OpenForSale w.db w.now row

/-- How many tickets of the type the user can reserve. -/
def roomOf (r : Redis) (u : UserId) (row : TicketType) : Int :=
  min (stockOf r row.id) (row.maxPerUser - userLimitOf r u row.id)

/-- What others may do between two reservations of an order: anything, but they leave
    its record alone, and it does not lapse. -/
structure Beside (R : World → World → Prop) (o : OrderId) : Prop where
  record : ∀ w w', R w w' → w'.redis.reservations o = w.redis.reservations o
  live : ∀ w w', R w w' → ∀ e ∈ w'.redis.reservations o, w'.now < e.expireAt

/-- All the reservations were accepted, and the order row is to be written. -/
def AllReserved (R : World → World → Prop) (w₀ : World) (ctx : CreateCtx) (o : OrderId)
    (metas : List TicketMeta) : Prop :=
  ∃ tr w, backend.Alone R w₀ (awaitReserve ctx o (started metas)) tr w
    (.ask (.persistOrder ctx o metas))

/-- Whatever the user orders, the amounts that `order.create` writes fit: quantity,
    price and `unitPrice * quantity` of every item, and the sum. -/
def AmountsAlwaysFit (R : World → World → Prop) (checked : World → Prop) (w₀ : World)
    (ctx : CreateCtx) (o : OrderId) : Prop :=
  ∀ metas, (∀ m ∈ metas, Validated checked ctx.concertId m) → AllReserved R w₀ ctx o metas →
    (newOrder ctx o metas).FitsColumns

variable {R : World → World → Prop} {checked : World → Prop} {w₀ w w' : World} {ctx : CreateCtx}
  {o : OrderId} {metas : List TicketMeta} {m : TicketMeta} {slots : List ReserveSlot}

/-! ### Validation -/

/-- The entry of `ticketMeta` for so many tickets of a type. -/
def metaOf (row : TicketType) (q : Int) (pos : 0 < q) : TicketMeta where
  ticketTypeId := row.id
  quantity := q
  quantity_pos := pos
  maxPerUser := row.maxPerUser
  unitPrice := row.price

/-- What was validated is a row on sale. -/
theorem row_of_validated {db : Db} {now : Nat} {c : ConcertId} {item : OrderItemDto}
    (h : validateTicketType db now c item = .ok m) :
    ∃ row, (db.findTicketType row.id = some row ∧ row.concertId = c ∧ row.status = .active ∧
      OpenForSale db now row) ∧ row.id = item.ticketTypeId ∧
      m = metaOf row item.quantity item.quantity_pos := by
  simp only [validateTicketType] at h
  split at h
  · cases h
  · next concert hconcert =>
    split at h
    · cases h
    · next hselling =>
      split at h
      · cases h
      · next row hrow =>
        split at h
        · cases h
        split at h
        · cases h
        split at h
        · cases h
        split at h
        · cases h
        · next hconcertId hactive hstarted hended =>
          cases h
          have hid : row.id = item.ticketTypeId := RowTable.lookup_key hrow
          have hc : row.concertId = c := not_not.mp hconcertId
          refine ⟨row, ⟨hid ▸ hrow, hc, not_not.mp hactive, ⟨concert, hc ▸ hconcert, ?_⟩,
            not_lt.mp hstarted, ?_⟩, hid, by rw [metaOf, hid]⟩
          · by_contra hnot
            obtain ⟨hpublished, hopen⟩ := not_or.mp hnot
            exact hselling ⟨hpublished, hopen⟩
          · intro ends hends
            rw [Option.mem_def.mp hends] at hended
            simpa using hended

/-- A validated item is an entry for a type on sale. -/
theorem Validated.row (h : Validated checked ctx.concertId m) :
    ∃ row, Offered checked ctx.concertId row ∧ m = metaOf row m.quantity m.quantity_pos := by
  obtain ⟨w, item, hw, hm⟩ := h
  obtain ⟨row, hsale, -, rfl⟩ := row_of_validated hm
  exact ⟨row, ⟨w, hw, hsale⟩, rfl⟩

/-- A type on sale is validated with any quantity. -/
theorem Offered.validated {row : TicketType} (h : Offered checked ctx.concertId row) {q : Int}
    (pos : 0 < q) : Validated checked ctx.concertId (metaOf row q pos) := by
  obtain ⟨w, hw, hrow, hc, hactive, hopen⟩ := h
  have haccepts : ∃ m, validateTicketType w.db w.now row.concertId ⟨row.id, q, pos⟩ = .ok m :=
    validate_accepts hrow hactive hopen
  obtain ⟨m, hm⟩ := haccepts
  rw [hc] at hm
  obtain ⟨row', ⟨hrow', -⟩, hid, rfl⟩ := row_of_validated hm
  -- the row it found is the type's
  obtain rfl : row' = row := by
    rw [show row'.id = row.id from hid, hrow] at hrow'
    exact (Option.some.inj hrow').symm
  exact ⟨w, _, hw, hm⟩

/-! ### Amounts -/

/-- The amounts of an order of one item. -/
theorem fitsColumns_single : (newOrder ctx o [m]).FitsColumns ↔
    FitsInt m.quantity ∧ FitsInt m.unitPrice ∧ FitsInt (m.unitPrice * m.quantity) := by
  simp only [Order.FitsColumns, newOrder, orderItems, List.map_cons, List.map_nil, List.sum_cons,
    List.sum_nil, add_zero, List.mapIdx_cons, List.mapIdx_nil, List.mem_singleton, forall_eq]
  tauto

/-- An order of no items fits. -/
theorem fitsColumns_nil : (newOrder ctx o []).FitsColumns := by
  constructor
  · exact fitsInt_zero
  · intro i hi
    cases hi

/-- An amount fits if it is not above the largest number. -/
theorem fitsInt_of_nonneg {n : Int} (h : 0 ≤ n) (hle : n ≤ maxInt) : FitsInt n :=
  ⟨le_trans (by decide) h, hle⟩

/-- An item that can be reserved is within the room. -/
theorem quantity_le_room {row : TicketType} {q : Int} {pos : 0 < q} {now : Nat} {r : Redis}
    (h : CanReserve (reserveParams ctx o (metaOf row q pos)) now r) :
    q ≤ roomOf r ctx.userId row := by
  obtain ⟨hstock, hlimit, -⟩ := h
  have hstock' : q ≤ stockOf r row.id := hstock
  have hlimit' : userLimitOf r ctx.userId row.id + q ≤ row.maxPerUser := hlimit
  rw [roomOf]
  omega

/-! ## The reservations -/

/-- How one of the running reservations settles. -/
theorem settled_one {ch : Choice} {prog : Op}
    (h : TicketOrder.reserveTickets ctx o slots ch w = some (w', prog)) :
    ∃ s reply, slots[ch.slot]? = some s ∧ s.reply = none ∧
      prog = awaitReserve ctx o (slots.set ch.slot { s with reply := some reply }) ∧
      ((w' = w ∧ ReserveSlot.accepted { s with reply := some reply } = false) ∨
        (CanReserve (reserveParams ctx o s.item) w.now w.redis ∧
          w' = { w with
            redis := TicketRedis.reserved (reserveParams ctx o s.item) w.now w.redis } ∧
          ReserveSlot.accepted { s with reply := some reply } = true)) := by
  simp only [TicketOrder.reserveTickets] at h
  split at h
  · cases h
  · next s hs =>
    split at h
    · cases h
    · next hnone =>
      split at h
      · cases h
        exact ⟨s, _, hs, hnone, rfl, .inl ⟨rfl, rfl⟩⟩
      · by_cases hcan : CanReserve (reserveParams ctx o s.item) w.now w.redis
        · rw [reserveTicket_ok hcan] at h
          cases h
          exact ⟨s, _, hs, hnone, rfl, .inr ⟨hcan, rfl, rfl⟩⟩
        · obtain ⟨e, he⟩ := reserveTicket_error hcan
          rw [he] at h
          cases h
          exact ⟨s, _, hs, hnone, rfl, .inl ⟨rfl, rfl⟩⟩

/-- In some state before it, the item could be reserved. -/
def Fitted (R : World → World → Prop) (w₀ : World) (ctx : CreateCtx) (o : OrderId)
    (m : TicketMeta) : Prop :=
  ∃ w, ReflTransGen R w₀ w ∧ CanReserve (reserveParams ctx o m) w.now w.redis

/-- What the executed reservations have taken: nothing, or one item, whose record lives. -/
inductive Filled (R : World → World → Prop) (w₀ : World) (ctx : CreateCtx) (o : OrderId)
    (w : World) (slots : List ReserveSlot) : Prop where
  | nothing : ReflTransGen R w₀ w → (∀ s ∈ slots, ReserveSlot.accepted s = false) →
      Filled R w₀ ctx o w slots
  | one (k : Nat) (m : TicketMeta) :
      (slots.map ReserveSlot.item)[k]? = some m → Fitted R w₀ ctx o m →
      w.redis.reservation w.now o ≠ none →
      (∀ j s, slots[j]? = some s → (ReserveSlot.accepted s = true ↔ j = k)) →
      Filled R w₀ ctx o w slots

/-- The items of an accepted batch: none, or one that could be reserved. -/
inductive Granted (R : World → World → Prop) (w₀ : World) (ctx : CreateCtx) (o : OrderId) :
    List TicketMeta → Prop where
  | empty : Granted R w₀ ctx o []
  | single (m : TicketMeta) : Fitted R w₀ ctx o m → Granted R w₀ ctx o [m]

/-- Where a call of createOrder can be. -/
inductive Ordering (R : World → World → Prop) (w₀ : World) (ctx : CreateCtx) (o : OrderId)
    (metas : List TicketMeta) (w : World) : Op → Prop where
  | reserving (slots : List ReserveSlot) : slots.map ReserveSlot.item = metas →
      Filled R w₀ ctx o w slots → Ordering R w₀ ctx o metas w (.ask (.reserveTickets ctx o slots))
  | booking (d : Ask) : Books ctx o metas d → Granted R w₀ ctx o metas →
      Ordering R w₀ ctx o metas w (.ask d)
  | created (url : String) : Ordering R w₀ ctx o metas w (.ret (.orderCreated o url))
  | doomed (prog : Op) : Fruitless prog → Ordering R w₀ ctx o metas w prog

/-- A record that lives, lives on while others are at work. -/
theorem reservation_beside (hbeside : Beside R o) (hr : R w w')
    (h : w.redis.reservation w.now o ≠ none) : w'.redis.reservation w'.now o ≠ none := by
  obtain ⟨e, he⟩ := Option.ne_none_iff_exists'.mp h
  obtain ⟨he, -⟩ := Option.filter_eq_some_iff.mp he
  have he' : w'.redis.reservations o = some e := (hbeside.record w w' hr).trans he
  rw [Redis.reservation, he', Option.filter_some,
    if_pos (by simpa using hbeside.live w w' hr e he')]
  exact Option.some_ne_none e

/-- What others do leaves the slots filled. -/
theorem Filled.others (hbeside : Beside R o) (h : Filled R w₀ ctx o w slots) (hr : R w w') :
    Filled R w₀ ctx o w' slots := by
  cases h with
  | nothing hreach hnone => exact .nothing (hreach.tail hr) hnone
  | one k m hm hfit hlive hone => exact .one k m hm hfit (reservation_beside hbeside hr hlive) hone

/-- The record a reservation writes lives. -/
theorem reservation_written (hunused : Unused w₀ ctx o) (now : Nat) (r : Redis) :
    (TicketRedis.reserved (reserveParams ctx o m) now r).reservation now o ≠ none := by
  have hpos := getReservationTtl_pos w₀.config
  rw [← hunused.ttl] at hpos
  have hmatches : Matches (releaseOf ctx o m) now
      (TicketRedis.reserved (reserveParams ctx o m) now r) := matches_reserved (by omega)
  obtain ⟨e, he, -⟩ := hmatches
  exact Option.ne_none_iff_exists'.mpr ⟨e, he⟩

/-- One more reservation settles. -/
theorem Filled.settle (hunused : Unused w₀ ctx o) {ch : Choice} {prog : Op}
    (h : Filled R w₀ ctx o w slots)
    (hd : TicketOrder.reserveTickets ctx o slots ch w = some (w', prog)) :
    ∃ slots', prog = awaitReserve ctx o slots' ∧
      slots'.map ReserveSlot.item = slots.map ReserveSlot.item ∧ Filled R w₀ ctx o w' slots' := by
  obtain ⟨s, reply, hs, hpending, rfl, ⟨rfl, hno⟩ | ⟨hcan, rfl, hyes⟩⟩ := settled_one hd
  · refine ⟨_, rfl, items_set hs _, ?_⟩
    cases h with
    | nothing hreach hnone => exact .nothing hreach (all_of_set hnone hno)
    | one k m hm hfit hlive hone =>
        exact .one k m (by rw [items_set hs]; exact hm) hfit hlive
          (accepted_set_refused hs hpending hno hone)
  · refine ⟨_, rfl, items_set hs _, ?_⟩
    cases h with
    | nothing hreach hnone =>
        refine .one ch.slot s.item ?_ ⟨w, hreach, hcan⟩ (reservation_written hunused _ _)
          (accepted_set_first hs hnone hyes)
        rw [items_set hs, List.getElem?_map, hs]
        rfl
    | one k m hm hfit hlive hone =>
        -- the script refuses a second record
        exact absurd hcan.2.2 hlive

/-- A settled batch goes on. -/
theorem Filled.await (h : Filled R w₀ ctx o w slots) :
    Ordering R w₀ ctx o (slots.map ReserveSlot.item) w (awaitReserve ctx o slots) := by
  simp only [awaitReserve]
  split
  · next hall =>
    have hsettles := afterReserve_settles ctx o slots (by simpa using hall)
    generalize afterReserve ctx o slots = prog at hsettles
    cases hsettles with
    | threw s _ _ => exact .doomed _ (fruitless_error _)
    | rejected k s e _ _ _ => exact .doomed _ (fruitless_rollback _ _)
    | succeeded hacc =>
        refine .booking _ .persistOrder ?_
        cases h with
        | nothing _ hnone =>
            cases slots with
            | nil => exact .empty
            | cons s slots =>
                have hyes := hacc s List.mem_cons_self
                rw [hnone s List.mem_cons_self] at hyes
                cases hyes
        | one k m hm hfit _ hone =>
            -- every entry was accepted, and only entry `k` was
            have hk : ∀ j, j < slots.length → j = k := by
              intro j hj
              exact (hone j _ (List.getElem?_eq_getElem hj)).mp (hacc _ (List.getElem_mem hj))
            obtain ⟨s, rfl⟩ : ∃ s, slots = [s] := by
              cases slots with
              | nil => cases hm
              | cons s slots =>
                  cases slots with
                  | nil => exact ⟨s, rfl⟩
                  | cons s' slots =>
                      have h0 := hk 0 (by simp)
                      have h1 := hk 1 (by simp)
                      omega
            obtain rfl : k = 0 := (hk 0 (by simp)).symm
            cases hm
            exact .single _ hfit
  · exact .reserving slots rfl h

/-- Past the reservations no other batch is reserved. -/
theorem books_next {ch : Choice} {d : Ask} {prog : Op} (hd : Books ctx o metas d)
    (h : dispatch ch w d = some (w', prog)) :
    Fruitless prog ∨ (∃ d', prog = .ask d' ∧ Books ctx o metas d') ∨
      ∃ url, prog = .ret (.orderCreated o url) := by
  cases bookingStep_of_dispatch hd h with
  | persisted db _ => exact .inr (.inl ⟨_, rfl, .syncInventory⟩)
  | persistFailed => exact .inl (.batch _ _ _ (fruitless_error _))
  | synced db _ => exact .inr (.inl ⟨_, rfl, .paying _ rfl⟩)
  | syncFailed e => exact .inl (.batch _ _ _ (.deleting _ rfl))
  | paying _ d' _ hpay => exact .inr (.inl ⟨d', rfl, .paying d' hpay⟩)
  | payingFailed _ e _ => exact .inl (.batch _ _ _ (.batch _ _ _ (.deleting _ rfl)))
  | paid _ payments url _ => exact .inr (.inl ⟨_, rfl, .scheduleExpiry url⟩)
  | scheduled url => exact .inr (.inr ⟨url, rfl⟩)
  | scheduleFailed url => exact .inl (fruitless_error _)

/-- A turn of createOrder leaves it on its way. -/
theorem Ordering.turn (hunused : Unused w₀ ctx o) {ch : Choice} {k : Nat} {prog prog' : Op}
    (h : Ordering R w₀ ctx o metas w prog) (hturn : backend.Turned ch k w prog w' prog') :
    Ordering R w₀ ctx o metas w' prog' := by
  cases h with
  | reserving slots hitems hfilled =>
      cases hturn with
      | asked _ _ _ hdec =>
          obtain ⟨slots', rfl, hsame, hfilled'⟩ := hfilled.settle hunused hdec
          rw [← hitems, ← hsame]
          exact hfilled'.await
  | booking d hd hgranted =>
      cases hturn with
      | asked _ _ _ hdec =>
          rcases books_next hd hdec with hdoomed | ⟨d', rfl, hd'⟩ | ⟨url, rfl⟩
          · exact .doomed _ hdoomed
          · exact .booking d' hd' hgranted
          · exact .created url
  | created url => cases hturn
  | doomed _ hdoomed => exact .doomed _ (hdoomed.turn hturn)

/-- So does what others do. -/
theorem Ordering.others (hbeside : Beside R o) {prog : Op} (h : Ordering R w₀ ctx o metas w prog)
    (hr : R w w') : Ordering R w₀ ctx o metas w' prog := by
  cases h with
  | reserving slots hitems hfilled => exact .reserving slots hitems (hfilled.others hbeside hr)
  | booking d hd hgranted => exact .booking d hd hgranted
  | created url => exact .created url
  | doomed _ hdoomed => exact .doomed _ hdoomed

/-- **What is reserved.**  A call whose reservations are all accepted has no item, or one
    that could be reserved in a state before. -/
theorem granted_of_allReserved (hunused : Unused w₀ ctx o) (hbeside : Beside R o)
    (h : AllReserved R w₀ ctx o metas) : Granted R w₀ ctx o metas := by
  obtain ⟨tr, w, hrun⟩ := h
  have hstart : Filled R w₀ ctx o w₀ (started metas) := by
    refine .nothing .refl fun s hs => ?_
    obtain ⟨m, -, rfl⟩ := List.mem_map.mp hs
    rfl
  have hitems : (started metas).map ReserveSlot.item = metas := by
    rw [started, List.map_map]
    exact List.map_id metas
  have hend : Ordering R w₀ ctx o metas w (.ask (.persistOrder ctx o metas)) := by
    refine hrun.inv (I := fun _ w prog => Ordering R w₀ ctx o metas w prog) ?_ ?_ ?_
    · have hawait := hstart.await
      rw [hitems] at hawait
      exact hawait
    · exact fun _ _ _ _ hord hr => hord.others hbeside hr
    · exact fun _ _ _ _ _ _ _ hord hturn => hord.turn hunused hturn
  cases hend with
  | booking _ _ hgranted => exact hgranted
  | doomed _ hdoomed =>
      cases hdoomed with
      | deleting _ hdel => cases hdel

/-- An item that can be reserved is reserved by a call that orders it alone. -/
theorem allReserved_single (hfit : Fitted R w₀ ctx o m) : AllReserved R w₀ ctx o [m] := by
  obtain ⟨w, hreach, hcan⟩ := hfit
  have hwait : ∀ w', ReflTransGen R w₀ w' →
      backend.Alone R w₀ (awaitReserve ctx o (started [m])) [] w'
        (awaitReserve ctx o (started [m])) := by
    intro w' hreach'
    induction hreach' with
    | refl => exact .start
    | tail _ hr ih => exact .others ih hr
  have hadv : backend.advance {} 0 w (awaitReserve ctx o (started [m]))
      = some ({ w with redis := TicketRedis.reserved (reserveParams ctx o m) w.now w.redis },
        .ask (.persistOrder ctx o [m]), []) := by
    have hres := reserveTicket_ok hcan
    rw [show awaitReserve ctx o (started [m]) = .ask (.reserveTickets ctx o (started [m])) from rfl]
    simp only [System.advance, backend, dispatch, TicketOrder.reserveTickets, started,
      List.map_cons, List.map_nil, List.getElem?_cons_zero, hres]
    rfl
  exact ⟨_, _, .turn 0 {} (hwait w hreach) hadv⟩

/-! ## The main result -/

/-- The record of the order is still missing while others are at work. -/
theorem unrecorded (hunused : Unused w₀ ctx o) (hbeside : Beside R o) (h : ReflTransGen R w₀ w) :
    w.redis.reservations o = none := by
  induction h with
  | refl => exact hunused.record
  | tail _ hr ih => exact (hbeside.record _ _ hr).trans ih

/-- With a price and a room that fit, the amounts of the order fit. -/
theorem fits_of_room (hunused : Unused w₀ ctx o) (hbeside : Beside R o)
    (hdto : ∀ row, Offered checked ctx.concertId row → DtoAccepts row)
    (hroom : ∀ row, Offered checked ctx.concertId row → ∀ w, ReflTransGen R w₀ w →
      roomOf w.redis ctx.userId row ≤ maxInt ∧
        row.price * roomOf w.redis ctx.userId row ≤ maxInt) :
    AmountsAlwaysFit R checked w₀ ctx o := by
  intro metas hvalid hreserved
  cases granted_of_allReserved hunused hbeside hreserved with
  | empty => exact fitsColumns_nil
  | single m hfit =>
      obtain ⟨row, hrow, hm⟩ := (hvalid m List.mem_cons_self).row
      obtain ⟨w, hreach, hcan⟩ := hfit
      rw [hm] at hcan
      obtain ⟨hprice, hpriceMax⟩ := (hdto row hrow).price
      obtain ⟨hroomMax, hmax⟩ := hroom row hrow w hreach
      have hunit : m.unitPrice = row.price := by rw [hm, metaOf]
      have hquantity : m.quantity ≤ roomOf w.redis ctx.userId row := quantity_le_room hcan
      have hpos : 0 ≤ m.quantity := le_of_lt m.quantity_pos
      have hle : row.price * m.quantity ≤ row.price * roomOf w.redis ctx.userId row :=
        Int.mul_le_mul_of_nonneg_left hquantity hprice
      rw [fitsColumns_single, hunit]
      exact ⟨fitsInt_of_nonneg hpos (le_trans hquantity hroomMax),
        fitsInt_of_nonneg hprice hpriceMax,
        fitsInt_of_nonneg (Int.mul_nonneg hprice hpos) (le_trans hle hmax)⟩

/-- A room that does not fit can be ordered as a whole. -/
theorem room_of_fits (hunused : Unused w₀ ctx o) (hbeside : Beside R o)
    (hdto : ∀ row, Offered checked ctx.concertId row → DtoAccepts row)
    (hfits : AmountsAlwaysFit R checked w₀ ctx o) {row : TicketType}
    (hrow : Offered checked ctx.concertId row) (hreach : ReflTransGen R w₀ w) :
    roomOf w.redis ctx.userId row ≤ maxInt ∧
      row.price * roomOf w.redis ctx.userId row ≤ maxInt := by
  have hmax : 0 ≤ maxInt := by decide
  by_cases hnone : roomOf w.redis ctx.userId row ≤ 0
  · have hprice : 0 ≤ row.price := (hdto row hrow).price.1
    have := Int.mul_nonpos_of_nonneg_of_nonpos hprice hnone
    omega
  have hpos : 0 < roomOf w.redis ctx.userId row := not_le.mp hnone
  have hcan : CanReserve (reserveParams ctx o (metaOf row _ hpos)) w.now w.redis := by
    refine ⟨min_le_left _ _, ?_, ?_⟩
    · have := min_le_right (stockOf w.redis row.id)
        (row.maxPerUser - userLimitOf w.redis ctx.userId row.id)
      show userLimitOf w.redis ctx.userId row.id + roomOf w.redis ctx.userId row ≤ row.maxPerUser
      rw [roomOf]
      omega
    · show w.redis.reservation w.now o = none
      rw [Redis.reservation, unrecorded hunused hbeside hreach, Option.filter_none]
  have hvalid : ∀ m ∈ [metaOf row _ hpos], Validated checked ctx.concertId m := by
    intro m hm
    rw [List.mem_singleton.mp hm]
    exact hrow.validated hpos
  obtain ⟨hquantity, -, hsubtotal⟩ :=
    fitsColumns_single.mp (hfits _ hvalid (allReserved_single ⟨w, hreach, hcan⟩))
  exact ⟨hquantity.2, hsubtotal.2⟩

/-- **Order amounts.**  The amounts of every order of the types on sale fit their columns
    exactly if, whenever a reservation may be executed, the tickets of each type that the
    user can reserve do, and the price of the type times them. -/
theorem order_amounts_fit (hunused : Unused w₀ ctx o) (hbeside : Beside R o)
    (hdto : ∀ row, Offered checked ctx.concertId row → DtoAccepts row) :
    AmountsAlwaysFit R checked w₀ ctx o ↔
      ∀ row, Offered checked ctx.concertId row → ∀ w, ReflTransGen R w₀ w →
        roomOf w.redis ctx.userId row ≤ maxInt ∧
          row.price * roomOf w.redis ctx.userId row ≤ maxInt := by
  constructor
  · intro hfits row hrow w hreach
    exact room_of_fits hunused hbeside hdto hfits hrow hreach
  · exact fits_of_room hunused hbeside hdto

/-- In the terms of the catalogue: on a sale with nothing sold, whose stock stays below
    its total, the price of each type times what one user can buy of it. -/
theorem catalogue_amounts_fit (hunused : Unused w₀ ctx o) (hbeside : Beside R o)
    (hdto : ∀ row, Offered checked ctx.concertId row → DtoAccepts row)
    (hbounded : ∀ row, Offered checked ctx.concertId row → ∀ w, ReflTransGen R w₀ w →
      stockOf w.redis row.id ≤ row.totalQty ∧ 0 ≤ userLimitOf w.redis ctx.userId row.id)
    (hfull : ∀ row, Offered checked ctx.concertId row →
      stockOf w₀.redis row.id = row.totalQty ∧ userLimitOf w₀.redis ctx.userId row.id = 0) :
    AmountsAlwaysFit R checked w₀ ctx o ↔
      ∀ row, Offered checked ctx.concertId row →
        row.price * min row.totalQty row.maxPerUser ≤ maxInt := by
  constructor
  · intro hfits row hrow
    obtain ⟨-, hroom⟩ := room_of_fits hunused hbeside hdto hfits hrow .refl
    obtain ⟨hstock, hlimit⟩ := hfull row hrow
    rw [roomOf, hstock, hlimit, sub_zero] at hroom
    exact hroom
  · intro hrows
    refine fits_of_room hunused hbeside hdto fun row hrow w hreach => ?_
    obtain ⟨hstock, hlimit⟩ := hbounded row hrow w hreach
    have hle : roomOf w.redis ctx.userId row ≤ min row.totalQty row.maxPerUser := by
      rw [roomOf]
      omega
    have htotal := (hdto row hrow).totalQty.2
    exact ⟨by omega,
      le_trans (Int.mul_le_mul_of_nonneg_left hle (hdto row hrow).price.1) (hrows row hrow)⟩

/-! ### A sale of two types -/

/-- Time passes while the record of order 1, if it is there, lives. -/
def Ticking (w w' : World) : Prop :=
  ∃ ms, w' = tick ms w ∧ ∀ e ∈ w'.redis.reservations 1, w'.now < e.expireAt

/-- Time alone changes no key. -/
theorem redis_of_ticking (h : ReflTransGen Ticking w₀ w) : w.redis = w₀.redis := by
  induction h with
  | refl => rfl
  | tail _ hstep ih =>
      obtain ⟨ms, rfl, -⟩ := hstep
      exact ih

/-- At a price of 10 the two tickets a user may buy cost 20. -/
theorem order_amounts_fit_twoTypes : AmountsAlwaysFit Ticking (· = twoTypes) twoTypes buyer 1 := by
  have hunused : Unused twoTypes buyer 1 := ⟨rfl, rfl, fun j hj => absurd hj List.not_mem_nil⟩
  have hbeside : Beside Ticking 1 := by
    refine ⟨?_, ?_⟩
    · rintro w w' ⟨ms, rfl, -⟩
      rfl
    · rintro w w' ⟨ms, -, hlive⟩
      exact hlive
  have hrows : ∀ row, Offered (· = twoTypes) 1 row → row = onSale 1 5 2 ∨ row = onSale 2 5 2 := by
    rintro row ⟨w, rfl, hrow, -⟩
    have hmem : row ∈ [onSale 1 5 2, onSale 2 5 2] := RowTable.lookup_mem hrow
    simpa using hmem
  refine (order_amounts_fit hunused hbeside ?_).mpr ?_
  · intro row hrow
    rcases hrows row hrow with rfl | rfl
    · exact ⟨by decide, by decide, by decide⟩
    · exact ⟨by decide, by decide, by decide⟩
  · intro row hrow w hreach
    rw [redis_of_ticking hreach]
    rcases hrows row hrow with rfl | rfl
    · decide
    · decide

/-! ### Two tickets for four billion -/

/-- A type whose price fits its column. -/
def dear : TicketType := { onSale 1 5 2 with price := 2000000000 }

/-- Two tickets are a quantity. -/
theorem two_of_dear : (0 : Int) < 2 := by decide

/-- Two of its tickets. -/
def twoDear : CreateOrderDto where
  concertId := 1
  items := [{ ticketTypeId := 1, quantity := 2, quantity_pos := two_of_dear }]

/-- The order row is to be written, and its amounts do not fit. -/
def overflows (w : World) : Op → Bool
  | .ask (.persistOrder ctx o metas) =>
      !decide (newOrder ctx o metas).FitsColumns && (insertOrder (newOrder ctx o metas) w.db).isNone
  | _ => false

/-- A createOrder before an insert that fails for its amounts. -/
theorem of_overflows {w : World} {prog : Op} (h : overflows w prog = true) :
    ∃ ctx o metas, prog = .ask (.persistOrder ctx o metas) ∧
      ¬ (newOrder ctx o metas).FitsColumns ∧ insertOrder (newOrder ctx o metas) w.db = none := by
  unfold overflows at h
  split at h
  · exact ⟨_, _, _, rfl, by simpa using h⟩
  · cases h

/-- From the opening of a sale: both tickets are reserved, the insert of the order row
    fails although no call is made to fail, and the tickets are given back with the
    answer to try again. -/
theorem order_amounts_overflow :
    DtoAccepts dear ∧ ∃ p q ctx o metas, backend.Run Guard.any (shop [dear]) p ∧
      p.ops[0]? = some (.ask (.persistOrder ctx o metas)) ∧ stockOf p.world.redis 1 = 3 ∧
      ¬ (newOrder ctx o metas).FitsColumns ∧
      insertOrder (newOrder ctx o metas) p.world.db = none ∧
      backend.exec Guard.any p (steps 0 3) = some q ∧
      q.ops[0]? = some (.ret (.error failedToCreate)) ∧ q.world.db.orders = [] ∧
      stockOf q.world.redis 1 = 5 := by
  refine ⟨⟨by decide, by decide, by decide⟩, ?_⟩
  obtain ⟨p, hrun, hover, hstock, hlater⟩ : ∃ p, backend.Run Guard.any (shop [dear]) p ∧
      (p.ops[0]?.any (overflows p.world)) = true ∧ stockOf p.world.redis 1 = 3 ∧
      (backend.exec Guard.any p (steps 0 3)).any (fun q => decide
        (q.ops[0]?.bind Prog.answer = some (Answer.error failedToCreate) ∧ q.world.db.orders = [] ∧
          stockOf q.world.redis 1 = 5)) = true :=
    exists_run (.start (.createOrder twoDear 3) :: steps 0 12) _ (by decide)
  obtain ⟨q, hexec, hend⟩ := (Option.any_eq_true _ _).mp hlater
  obtain ⟨hanswer, horders, hback⟩ := of_decide_eq_true hend
  obtain ⟨prog, hprog, hret⟩ := Option.bind_eq_some_iff.mp hanswer
  rw [Prog.answer_eq hret] at hprog
  cases hop : p.ops[0]? with
  | none => simp [hop] at hover
  | some prog =>
      rw [hop, Option.any_some] at hover
      obtain ⟨ctx, o, metas, rfl, hnot, hnone⟩ := of_overflows hover
      exact ⟨p, q, ctx, o, metas, hrun, hop, hstock, hnot, hnone, hexec, hprog, horders, hback⟩

end TicketBackend
