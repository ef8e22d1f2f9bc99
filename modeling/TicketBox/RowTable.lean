import Mathlib.Algebra.BigOperators.Group.List.Lemmas
import Mathlib.Algebra.Order.Group.Int
import Mathlib.Algebra.Order.BigOperators.Group.List
import Mathlib.Data.List.Nodup
import Mathlib.Tactic.Abel

/-! # Tables of rows with a primary key

    A database table is the list of its rows; a key function gives each row
    its primary key and `Keyed` says that no two rows share one.  The file
    gives lookup, insertion, update and deletion by key, what each of them does
    to a lookup, and what an update does to a sum over all rows. -/

namespace RowTable

variable {Row Key : Type} [DecidableEq Key] (key : Row → Key)

/-- The row with key `k`, if there is one. -/
def lookup (k : Key) (rows : List Row) : Option Row :=
  rows.find? fun r => key r = k

/-- Update the row with key `k` by `f`. -/
def modify (k : Key) (f : Row → Row) (rows : List Row) : List Row :=
  rows.map fun r => if key r = k then f r else r

/-- Delete the row with key `k`. -/
def remove (k : Key) (rows : List Row) : List Row :=
  rows.filter fun r => key r ≠ k

/-- No two rows share a key. -/
def Keyed (rows : List Row) : Prop := (rows.map key).Nodup

instance (rows : List Row) : Decidable (Keyed key rows) :=
  inferInstanceAs (Decidable (rows.map key).Nodup)

variable {key} {k k' : Key} {rows : List Row} {r : Row} {f : Row → Row}

/-- The row that is found is a row. -/
theorem lookup_mem (h : lookup key k rows = some r) : r ∈ rows :=
  List.mem_of_find?_eq_some h

/-- It has the key that was asked for. -/
theorem lookup_key (h : lookup key k rows = some r) : key r = k := by
  simpa using List.find?_some h

/-- A row of a keyed table is what its own key looks up. -/
theorem lookup_of_mem (hk : Keyed key rows) (hr : r ∈ rows) :
    lookup key (key r) rows = some r := by
  induction rows with
  | nil => exact absurd hr (by simp)
  | cons x xs ih =>
      rw [Keyed, List.map_cons, List.nodup_cons] at hk
      rcases List.mem_cons.mp hr with rfl | hmem
      · simp [lookup]
      · have hne : key x ≠ key r := fun he => hk.1 (he ▸ List.mem_map_of_mem hmem)
        simpa [lookup, List.find?_cons, hne] using ih hk.2 hmem

/-- Rows of a keyed table with one key are one row. -/
theorem eq_of_key {r' : Row} (hk : Keyed key rows) (hr : r ∈ rows) (hr' : r' ∈ rows)
    (h : key r = key r') : r = r' := by
  have heq := lookup_of_mem hk hr
  rw [h, lookup_of_mem hk hr'] at heq
  exact (Option.some.inj heq).symm

/-- None is found where no row has the key. -/
theorem lookup_eq_none : lookup key k rows = none ↔ ∀ r ∈ rows, key r ≠ k := by
  simp [lookup]

/-! ## Updates -/

@[simp] theorem lookup_modify_self (hf : ∀ r, key (f r) = key r) :
    lookup key k (modify key k f rows) = (lookup key k rows).map f := by
  induction rows with
  | nil => rfl
  | cons x xs ih =>
      by_cases hx : key x = k
      · simp [lookup, modify, hx, hf]
      · simpa [lookup, modify, List.find?_cons, hx] using ih

/-- An update leaves the rows of other keys alone. -/
theorem lookup_modify_ne (hf : ∀ r, key (f r) = key r) (hne : k' ≠ k) :
    lookup key k' (modify key k f rows) = lookup key k' rows := by
  induction rows with
  | nil => rfl
  | cons x xs ih =>
      by_cases hx : key x = k
      · have hx' : key x ≠ k' := fun h => hne (h.symm.trans hx)
        simpa [lookup, modify, List.find?_cons, hx, hf, hne.symm] using ih
      · by_cases hx' : key x = k'
        · simp [lookup, modify, hx', hne]
        · simpa [lookup, modify, List.find?_cons, hx, hx'] using ih

/-- It keeps the keys. -/
theorem keys_modify (hf : ∀ r, key (f r) = key r) :
    (modify key k f rows).map key = rows.map key := by
  simp only [modify, List.map_map]
  refine List.map_congr_left fun r _ => ?_
  by_cases h : key r = k <;> simp [h, hf]

/-- An update leaves a column alone that it does not write. -/
theorem column_modify {A : Type*} {g : Row → A} (hf : ∀ r, g (f r) = g r) :
    (modify key k f rows).map g = rows.map g := by
  simp only [modify, List.map_map]
  refine List.map_congr_left fun r _ => ?_
  by_cases h : key r = k <;> simp [h, hf]

/-- It keeps them apart. -/
theorem Keyed.modify (hk : Keyed key rows) (hf : ∀ r, key (f r) = key r) :
    Keyed key (modify key k f rows) := by
  rw [Keyed, keys_modify hf]
  exact hk

/-- A row behind an update. -/
theorem mem_modify {r' : Row} (h : r' ∈ modify key k f rows) :
    ∃ r ∈ rows, r' = if key r = k then f r else r := by
  obtain ⟨r, hr, rfl⟩ := List.mem_map.mp h
  exact ⟨r, hr, rfl⟩

/-- A row with another key is untouched by an update. -/
theorem mem_modify_of_ne (hr : r ∈ rows) (hne : key r ≠ k) : r ∈ modify key k f rows :=
  List.mem_map.mpr ⟨r, hr, by simp [hne]⟩

/-- The updated row is there. -/
theorem mem_modify_self (h : lookup key k rows = some r) : f r ∈ modify key k f rows :=
  List.mem_map.mpr ⟨r, lookup_mem h, by simp [lookup_key h]⟩

/-- An update of a missing row does nothing. -/
theorem modify_of_none (h : lookup key k rows = none) : modify key k f rows = rows := by
  rw [lookup_eq_none] at h
  refine (List.map_congr_left fun r hr => ?_).trans (List.map_id rows)
  simp [h r hr]

/-! ## Insertion and deletion -/

/-- What a key looks up after a row was added at the end. -/
theorem lookup_append : lookup key k (rows ++ [r])
    = (lookup key k rows).or (if key r = k then some r else none) := by
  simp only [lookup, List.find?_append, List.find?_cons, List.find?_nil]
  by_cases h : key r = k <;> simp [h]

/-- A row of a new key keeps the keys apart. -/
theorem Keyed.append (hk : Keyed key rows) (hnew : lookup key (key r) rows = none) :
    Keyed key (rows ++ [r]) := by
  rw [Keyed, List.map_append, List.nodup_append]
  rw [lookup_eq_none] at hnew
  refine ⟨hk, by simp, ?_⟩
  rintro a ha b hb rfl
  obtain ⟨x, hx, hxa⟩ := List.mem_map.mp ha
  simp only [List.map_cons, List.map_nil, List.mem_singleton] at hb
  exact hnew x hx (hxa.trans hb)

/-- A removal leaves the rows of other keys. -/
theorem lookup_remove_ne (hne : k' ≠ k) :
    lookup key k' (remove key k rows) = lookup key k' rows := by
  induction rows with
  | nil => rfl
  | cons x xs ih =>
      by_cases hx : key x = k
      · have hx' : key x ≠ k' := fun h => hne (h.symm.trans hx)
        simpa [lookup, remove, List.filter_cons, List.find?_cons, hx, hne.symm] using ih
      · by_cases hx' : key x = k'
        · simp [lookup, remove, hx', hne]
        · simpa [lookup, remove, List.filter_cons, List.find?_cons, hx, hx'] using ih

/-- The removed row is not found. -/
theorem lookup_remove_self : lookup key k (remove key k rows) = none := by
  simp [lookup, remove]

omit [DecidableEq Key] in
/-- A part of a keyed table is keyed. -/
theorem Keyed.filter {p : Row → Bool} (hk : Keyed key rows) : Keyed key (rows.filter p) :=
  List.Nodup.sublist (List.Sublist.map key List.filter_sublist) hk

/-- A removal keeps the keys apart. -/
theorem Keyed.remove (hk : Keyed key rows) : Keyed key (remove key k rows) := hk.filter

/-! ## Selected rows -/

section Selected

variable {p : Row → Bool}

/-- Looking up among selected rows is selecting what is looked up. -/
theorem lookup_filter (hk : Keyed key rows) :
    lookup key k (rows.filter p) = (lookup key k rows).filter p := by
  cases h : lookup key k rows with
  | none =>
      rw [lookup_eq_none] at h
      exact lookup_eq_none.mpr fun r hr => h r (List.mem_of_mem_filter hr)
  | some r =>
      have hkey := lookup_key h
      cases hp : p r with
      | true =>
          have hmem : r ∈ rows.filter p := List.mem_filter.mpr ⟨lookup_mem h, hp⟩
          rw [← hkey, lookup_of_mem hk.filter hmem, Option.filter_some, if_pos hp]
      | false =>
          rw [Option.filter_some, if_neg (by simp [hp]), lookup_eq_none]
          intro x hx hxk
          obtain ⟨hmem, hpx⟩ := List.mem_filter.mp hx
          have heq := lookup_of_mem hk hmem
          rw [hxk, h] at heq
          rw [← Option.some.inj heq, hp] at hpx
          cases hpx

/-- An update that keeps selected what is, and no more. -/
theorem filter_modify (h : ∀ r, p (f r) = p r) :
    (modify key k f rows).filter p = modify key k f (rows.filter p) := by
  rw [modify, modify, List.filter_map]
  congr 1
  refine List.filter_congr fun r _ => ?_
  by_cases hr : key r = k
  · simp [hr, h]
  · simp [hr]

/-- An update of rows that are not selected, and stay so. -/
theorem filter_modify_of_not (h : ∀ r ∈ rows, key r = k → p r = false ∧ p (f r) = false) :
    (modify key k f rows).filter p = rows.filter p := by
  induction rows with
  | nil => rfl
  | cons x xs ih =>
      have hrest := ih fun r hr => h r (List.mem_cons_of_mem x hr)
      rw [modify, List.map_cons, ← modify]
      by_cases hx : key x = k
      · obtain ⟨hp, hpf⟩ := h x List.mem_cons_self hx
        rw [if_pos hx, List.filter_cons_of_neg (by simp [hpf]),
          List.filter_cons_of_neg (by simp [hp]), hrest]
      · rw [if_neg hx, List.filter_cons, List.filter_cons, hrest]

/-- A deletion of rows that are not selected. -/
theorem filter_remove_of_not (h : ∀ r ∈ rows, key r = k → p r = false) :
    (remove key k rows).filter p = rows.filter p := by
  rw [remove, List.filter_filter]
  refine List.filter_congr fun r hr => ?_
  by_cases hk : key r = k
  · simp [hk, h r hr hk]
  · simp [hk]

/-- A lookup that only selected rows can answer. -/
theorem find_filter {q : Row → Bool} (h : ∀ r ∈ rows, q r = true → p r = true) :
    (rows.filter p).find? q = rows.find? q := by
  rw [List.find?_filter]
  induction rows with
  | nil => rfl
  | cons x xs ih =>
      have hrest := ih fun r hr => h r (List.mem_cons_of_mem x hr)
      rw [List.find?_cons, List.find?_cons, hrest]
      cases hq : q x with
      | true => simp [h x List.mem_cons_self hq]
      | false => simp

end Selected

/-! ## Sums over all rows -/

variable {A : Type} [AddCommGroup A] (g : Row → A)

/-- An update, and a term that changed at its own row only, change a sum over
    the rows by what they change there. -/
theorem sum_modify_at {g g' : Row → A} (hk : Keyed key rows) (h : lookup key k rows = some r)
    (hg : ∀ x ∈ rows, key x ≠ k → g' x = g x) :
    ((modify key k f rows).map g').sum = (rows.map g).sum + (g' (f r) - g r) := by
  induction rows with
  | nil => exact absurd h (by simp [lookup])
  | cons x xs ih =>
      rw [Keyed, List.map_cons, List.nodup_cons] at hk
      by_cases hx : key x = k
      · have hxr : x = r := by simpa [lookup, List.find?_cons, hx] using h
        subst hxr
        have hne : ∀ y ∈ xs, key y ≠ k :=
          fun y hy he => hk.1 (hx ▸ he ▸ List.mem_map_of_mem hy)
        have hrest : modify key k f xs = xs := modify_of_none (lookup_eq_none.mpr hne)
        have hsame : xs.map g' = xs.map g :=
          List.map_congr_left fun y hy => hg y (List.mem_cons_of_mem _ hy) (hne y hy)
        rw [modify, List.map_cons, ← modify, hrest, if_pos hx]
        simp only [List.map_cons, List.sum_cons, hsame]
        abel
      · have h' : lookup key k xs = some r := by
          simpa [lookup, List.find?_cons, hx] using h
        have hsum := ih hk.2 h' fun y hy => hg y (List.mem_cons_of_mem _ hy)
        rw [modify, List.map_cons, ← modify, if_neg hx]
        simp only [List.map_cons, List.sum_cons, hsum, hg x List.mem_cons_self hx]
        abel

/-- A term that changed at one row only. -/
theorem sum_at {g g' : Row → A} (hk : Keyed key rows) (h : lookup key k rows = some r)
    (hg : ∀ x ∈ rows, key x ≠ k → g' x = g x) :
    (rows.map g').sum = (rows.map g).sum + (g' r - g r) := by
  have hid : modify key k id rows = rows := by simp [modify]
  have := sum_modify_at (f := id) hk h hg
  rwa [hid] at this

/-- A deletion takes the term of its row away. -/
theorem sum_remove (hk : Keyed key rows) (h : lookup key k rows = some r) :
    ((remove key k rows).map g).sum = (rows.map g).sum - g r := by
  induction rows with
  | nil => exact absurd h (by simp [lookup])
  | cons x xs ih =>
      rw [Keyed, List.map_cons, List.nodup_cons] at hk
      by_cases hx : key x = k
      · have hxr : x = r := by simpa [lookup, List.find?_cons, hx] using h
        subst hxr
        have hrest : remove key k xs = xs := by
          refine List.filter_eq_self.mpr fun y hy => ?_
          simpa using fun he : key y = k => hk.1 (hx ▸ he ▸ List.mem_map_of_mem hy)
        rw [remove, List.filter_cons_of_neg (by simpa using hx), ← remove, hrest]
        simp only [List.map_cons, List.sum_cons]
        abel
      · have h' : lookup key k xs = some r := by
          simpa [lookup, List.find?_cons, hx] using h
        rw [remove, List.filter_cons_of_pos (by simpa using hx), ← remove]
        simp only [List.map_cons, List.sum_cons, ih hk.2 h']
        abel

/-- A sum that counts one key is the term of its row. -/
theorem sum_single (hk : Keyed key rows) (h : lookup key k rows = some r) :
    (rows.map fun x => if key x = k then g x else 0).sum = g r := by
  have hzero : (rows.map fun _ => (0 : A)).sum = 0 := by simp
  have hone : (rows.map fun x => if key x = k then g x else 0).sum
      = (rows.map fun _ => (0 : A)).sum + ((if key r = k then g r else 0) - 0) :=
    sum_at hk h fun x _ hx => if_neg hx
  rw [hone, hzero, if_pos (lookup_key h), zero_add, sub_zero]

/-- An update that leaves every term alone leaves the sum alone. -/
theorem sum_modify_same (h : ∀ r ∈ rows, key r = k → g (f r) = g r) :
    ((modify key k f rows).map g).sum = (rows.map g).sum := by
  simp only [modify, List.map_map]
  congr 1
  refine List.map_congr_left fun r hr => ?_
  by_cases hk : key r = k
  · simp [hk, h r hr hk]
  · simp [hk]

end RowTable
