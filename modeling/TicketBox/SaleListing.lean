import TicketBox.TicketServices
import Mathlib.Data.List.Sort

/-! # What is listed and what can be ordered

    `findAvailable` filters the ticket types of a concert in the database,
    `validateTicketType` checks one of them field by field.  Both ask for a concert
    that sells, an active type and a sale that has started.  The filter wants the
    sale to end after now, the check only that it has not ended before now: at the
    closing instant a type is no longer listed and can still be ordered. -/

namespace TicketSale

open TicketStore TicketOrder TicketServices

/-! ## findAvailable -/

/-- `TicketTypeResponseDto`: a type as the list of a concert shows it. -/
structure TicketTypeResponse where
  id : TicketTypeId
  concertId : ConcertId
  name : String
  price : Int
  totalQty : Int
  soldQty : Int
  reservedQty : Int
  availableQty : Int
  maxPerUser : Int
  saleStartsAt : Nat
  saleEndsAt : Option Nat
  status : TicketTypeStatus
  deriving DecidableEq

/-- `toResponse`: the type as the list shows it. -/
def toResponse (tt : TicketType) : TicketTypeResponse where
  id := tt.id
  concertId := tt.concertId
  name := tt.name
  price := tt.price
  totalQty := tt.totalQty
  soldQty := tt.soldQty
  reservedQty := tt.reservedQty
  availableQty := availableQty tt
  maxPerUser := tt.maxPerUser
  saleStartsAt := tt.saleStartsAt
  saleEndsAt := tt.saleEndsAt
  status := tt.status

/-- `TicketTypeListResponseDto`: the types of a concert. -/
structure TicketTypeListResponse where
  data : List TicketTypeResponse
  total : Nat
  deriving DecidableEq

/-- A concert whose ticket types are sold. -/
def Selling (concert : Concert) : Prop :=
  concert.status = .published ∨ concert.status = .saleOpen

/-- `findAvailable` branches on it. -/
instance (concert : Concert) : Decidable (Selling concert) :=
  inferInstanceAs (Decidable (_ ∨ _))

/-- The `where` of the query. -/
def Queried (c : ConcertId) (now : Nat) (tt : TicketType) : Prop :=
  tt.concertId = c ∧ tt.status = .active ∧ tt.saleStartsAt ≤ now ∧
    (tt.saleEndsAt = none ∨ tt.saleEndsAt.any (fun e => decide (now < e)) = true)

/-- The `where` of its query. -/
instance (c : ConcertId) (now : Nat) (tt : TicketType) : Decidable (Queried c now tt) :=
  inferInstanceAs (Decidable (_ ∧ _))

/-- `findAvailable`: the types of a concert that can be bought now. -/
def findAvailable (db : Db) (now : Nat) (c : ConcertId) : Except ApiError TicketTypeListResponse :=
  match db.findConcert c with
  | none => .error (.notFound s!"Concert with ID \"{c}\" not found")
  | some concert =>
      -- ticket types are shown for published concerts only
      if concert.status ≠ .published ∧ concert.status ≠ .saleOpen then .ok ⟨[], 0⟩
      else
        let ticketTypes := (db.ticketTypes.filter fun tt => Queried c now tt).insertionSort
          fun a b => b.price ≤ a.price
        .ok ⟨ticketTypes.map toResponse, ticketTypes.length⟩

/-! ## On sale, on either path -/

/-- The type is on sale at `now`, and will be: its sale ends later, or never. -/
def OnSale (concert : Concert) (tt : TicketType) (now : Nat) : Prop :=
  Selling concert ∧ tt.status = .active ∧ tt.saleStartsAt ≤ now ∧
    ∀ e ∈ tt.saleEndsAt, now < e

/-- The type is on sale up to this instant. -/
def AtClosing (concert : Concert) (tt : TicketType) (now : Nat) : Prop :=
  Selling concert ∧ tt.status = .active ∧ tt.saleStartsAt ≤ now ∧
    tt.saleEndsAt = some now

/-- `findAvailable` of the type's concert returns it. -/
def Listed (db : Db) (now : Nat) (tt : TicketType) : Prop :=
  ∃ list, findAvailable db now tt.concertId = .ok list ∧ toResponse tt ∈ list.data

/-- `validateTicketType` accepts it for its concert. -/
def Accepted (db : Db) (now : Nat) (tt : TicketType) (item : OrderItemDto) : Prop :=
  ∃ m, validateTicketType db now tt.concertId item = .ok m

/-- Two rows are shown differently. -/
theorem toResponse_injective : Function.Injective toResponse := by
  rintro ⟨⟩ ⟨⟩ h
  simp only [toResponse, TicketTypeResponse.mk.injEq] at h
  simp only [TicketType.mk.injEq]
  tauto

section Paths

variable {db : Db} {now : Nat} {concert : Concert} {tt : TicketType} {item : OrderItemDto}

/-- What the query asks for. -/
theorem queried_iff : Queried tt.concertId now tt ↔
    tt.status = .active ∧ tt.saleStartsAt ≤ now ∧ ∀ e ∈ tt.saleEndsAt, now < e := by
  rw [Queried, and_iff_right rfl]
  cases tt.saleEndsAt with
  | none => simp
  | some e => simp

/-- A concert sells unless its status says otherwise. -/
theorem selling_iff : Selling concert ↔
    ¬ (concert.status ≠ .published ∧ concert.status ≠ .saleOpen) := by
  rw [Selling, not_and_or, not_not, not_not]

/-- A type is listed if it is on sale. -/
theorem listed_iff (hconcert : db.findConcert tt.concertId = some concert)
    (htype : db.findTicketType tt.id = some tt) : Listed db now tt ↔ OnSale concert tt now := by
  have hmem : tt ∈ db.ticketTypes := RowTable.lookup_mem htype
  rw [Listed, OnSale, findAvailable, hconcert]
  by_cases hsells : Selling concert
  · rw [and_iff_right hsells, ← queried_iff]
    dsimp only
    rw [if_neg (selling_iff.mp hsells)]
    constructor
    · rintro ⟨list, hlist, hin⟩
      cases hlist
      obtain ⟨row, hrow, heq⟩ := List.mem_map.mp hin
      obtain rfl := toResponse_injective heq
      exact of_decide_eq_true (List.mem_filter.mp ((List.mem_insertionSort _).mp hrow)).2
    · intro hq
      exact ⟨_, rfl, List.mem_map_of_mem ((List.mem_insertionSort _).mpr
        (List.mem_filter.mpr ⟨hmem, decide_eq_true hq⟩))⟩
  · dsimp only
    rw [if_pos (not_not.mp (mt selling_iff.mpr hsells))]
    constructor
    · rintro ⟨list, hlist, hin⟩
      cases hlist
      cases hin
    · rintro ⟨hs, -⟩
      exact absurd hs hsells

/-- It is accepted if it is on sale, or at the closing instant. -/
theorem accepted_iff (hconcert : db.findConcert tt.concertId = some concert)
    (htype : db.findTicketType tt.id = some tt) (hitem : item.ticketTypeId = tt.id) :
    Accepted db now tt item ↔ OnSale concert tt now ∨ AtClosing concert tt now := by
  rw [Accepted, validateTicketType, hconcert, hitem, htype, OnSale, AtClosing]
  dsimp only
  by_cases hsells : Selling concert
  · rw [if_neg (selling_iff.mp hsells), if_neg (not_not.mpr rfl)]
    simp only [and_iff_right hsells]
    by_cases hactive : tt.status = .active
    · rw [if_neg (not_not.mpr hactive)]
      simp only [and_iff_right hactive]
      by_cases hstarted : tt.saleStartsAt ≤ now
      · rw [if_neg (not_lt.mpr hstarted)]
        simp only [and_iff_right hstarted]
        cases hends : tt.saleEndsAt with
        | none => simp
        | some e =>
            by_cases hended : e < now
            · have hpast : ¬ (now < e ∨ e = now) := by omega
              simp [hended, hpast]
            · have hle : now < e ∨ e = now := by omega
              simp [hended, hle]
      · rw [if_pos (not_le.mp hstarted)]
        simp [hstarted]
    · rw [if_pos hactive]
      simp [hactive]
  · rw [if_pos (not_not.mp (mt selling_iff.mpr hsells))]
    simp [hsells]

/-- The closing instant is not on sale. -/
theorem OnSale.not_closing (h : OnSale concert tt now) : ¬ AtClosing concert tt now := by
  rintro ⟨-, -, -, hends⟩
  exact absurd (h.2.2.2 now hends) (lt_irrefl now)

/-- **Listing and ordering.**  A type that is listed can be ordered; and what can be
    ordered is listed, but for the instant its sale closes at. -/
theorem listed_iff_accepted (hconcert : db.findConcert tt.concertId = some concert)
    (htype : db.findTicketType tt.id = some tt) (hitem : item.ticketTypeId = tt.id) :
    (Listed db now tt ↔ Accepted db now tt item) ↔ ¬ AtClosing concert tt now := by
  rw [listed_iff hconcert htype, accepted_iff hconcert htype hitem]
  constructor
  · intro h hclosing
    exact (h.mpr (.inr hclosing)).not_closing hclosing
  · intro hnot
    exact ⟨.inl, fun h => h.resolve_right hnot⟩

end Paths

/-! ### The closing instant -/

/-- The sale closes at time 100. -/
def vip : TicketType where
  id := 1
  concertId := 1
  name := "VIP"
  price := 10
  totalQty := 5
  soldQty := 0
  reservedQty := 0
  maxPerUser := 2
  saleStartsAt := 0
  saleEndsAt := some 100
  status := .active

/-- A concert that sells, with one type. -/
def vipShop : Db where
  concerts := [⟨1, 1, .saleOpen⟩]
  gates := []
  ticketTypes := [vip]
  orders := []
  payments := []
  tickets := []
  counters := fun _ => none

/-- One ticket of the type. -/
def oneVip : OrderItemDto := ⟨1, 1, Int.one_pos⟩

/-- Before its closing the type is listed and accepted. -/
theorem listed_iff_accepted_before : Listed vipShop 99 vip ↔ Accepted vipShop 99 vip oneVip := by
  have hconcert : vipShop.findConcert vip.concertId = some ⟨1, 1, .saleOpen⟩ := rfl
  refine (listed_iff_accepted hconcert rfl rfl).mpr ?_
  rintro ⟨-, -, -, hends⟩
  exact absurd hends (by decide)

/-- At time 100 the type is accepted and not listed. -/
theorem accepted_not_listed : vipShop.findConcert vip.concertId = some ⟨1, 1, .saleOpen⟩ ∧
    vipShop.findTicketType vip.id = some vip ∧ oneVip.ticketTypeId = vip.id ∧
    ¬ (Listed vipShop 100 vip ↔ Accepted vipShop 100 vip oneVip) := by
  refine ⟨rfl, rfl, rfl, fun h => ?_⟩
  have haccepted : Accepted vipShop 100 vip oneVip := ⟨_, rfl⟩
  obtain ⟨list, hlist, hin⟩ := h.mpr haccepted
  cases hlist
  cases hin

end TicketSale
