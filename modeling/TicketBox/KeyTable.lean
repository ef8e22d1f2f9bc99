import Mathlib.Algebra.BigOperators.Finprod
import Mathlib.Algebra.Order.BigOperators.Group.Finset

/-! # Tables by key

    A key-value store is a function from keys to rows, absent where a key holds
    none.  A table with finitely many rows has a total: the sum of a weight over
    its rows.  Writing or deleting one row moves the total by the difference
    (`total_update`), and a row of a table of nonnegative weights weighs no more
    than the total (`le_total`). -/

namespace KeyTable

variable {K V A : Type*}

/-- Finitely many keys hold a row. -/
def Finite (f : K → Option V) : Prop := {k | (f k).isSome}.Finite

/-- The weight of what a key holds. -/
def weigh [Zero A] (g : V → A) (row : Option V) : A := (row.map g).getD 0

@[simp] theorem weigh_none [Zero A] (g : V → A) : weigh g none = 0 := rfl

@[simp] theorem weigh_some [Zero A] (g : V → A) (v : V) : weigh g (some v) = g v := rfl

/-- What the rows of a table weigh together. -/
noncomputable def total [AddCommMonoid A] (g : V → A) (f : K → Option V) : A :=
  finsum fun k => weigh g (f k)

/-- An empty table. -/
theorem finite_none : Finite (fun _ : K => (none : Option V)) := by
  have hempty : {k : K | (none : Option V).isSome} = ∅ :=
    Set.eq_empty_of_forall_notMem fun _ hk => Bool.false_ne_true hk
  rw [Finite, hempty]
  exact Set.finite_empty

/-- A table with no more keys. -/
theorem Finite.mono {f f' : K → Option V} (h : Finite f)
    (hle : ∀ k, (f' k).isSome → (f k).isSome) : Finite f' :=
  Set.Finite.subset h hle

/-- A table with one key written. -/
theorem Finite.update [DecidableEq K] {f : K → Option V} (h : Finite f) (k : K) (v : Option V) :
    Finite (Function.update f k v) := by
  refine Set.Finite.subset (Set.Finite.insert k h) fun x hx => ?_
  by_cases hk : x = k
  · exact .inl hk
  · have hx' : (Function.update f k v x).isSome := hx
    rw [Function.update_of_ne hk] at hx'
    exact .inr hx'

/-- A weight of the rows is zero but finitely often. -/
theorem Finite.support [Zero A] {g : V → A} {f : K → Option V} (h : Finite f) :
    (Function.support fun k => weigh g (f k)).Finite := by
  refine Set.Finite.subset h fun k hk => ?_
  cases hf : f k with
  | none => simp [hf] at hk
  | some v => simp [hf]

section Group

variable [AddCommGroup A] {g : V → A}

/-- A table of rows that weigh nothing weighs nothing. -/
theorem total_eq_zero {f : K → Option V} (h : ∀ k v, f k = some v → g v = 0) :
    total g f = 0 := by
  have hweigh : ∀ k, weigh g (f k) = 0 := by
    intro k
    cases hk : f k with
    | none => rfl
    | some v => exact h k v hk
  simp [total, hweigh]

/-- A table without rows weighs nothing. -/
theorem total_none {f : K → Option V} (h : ∀ k, f k = none) : total g f = 0 :=
  total_eq_zero fun k v hk => by
    rw [h k] at hk
    cases hk

/-- One key written or deleted moves the total by what it held and holds. -/
theorem total_update [DecidableEq K] {f : K → Option V} (h : Finite f) (k : K) (v : Option V) :
    total g (Function.update f k v) = total g f + (weigh g v - weigh g (f k)) := by
  have hne : ∀ x, x ≠ k →
      Function.update (0 : K → A) k (weigh g v - weigh g (f k)) x = 0 := fun x hx => by
    rw [Function.update_of_ne hx, Pi.zero_apply]
  have hsplit : ∀ x, weigh g (Function.update f k v x)
      = weigh g (f x) + Function.update (0 : K → A) k (weigh g v - weigh g (f k)) x := by
    intro x
    by_cases hx : x = k
    · subst hx
      rw [Function.update_self, Function.update_self, add_sub_cancel]
    · rw [Function.update_of_ne hx, hne x hx, add_zero]
  have hone :
      (Function.support (Function.update (0 : K → A) k (weigh g v - weigh g (f k)))).Finite := by
    refine Set.Finite.subset (Set.finite_singleton k) fun x hx => ?_
    by_contra hxk
    exact hx (hne x hxk)
  calc total g (Function.update f k v)
      = finsum fun x => weigh g (f x) + Function.update (0 : K → A) k (weigh g v - weigh g (f k)) x :=
        finsum_congr hsplit
    _ = total g f + finsum (Function.update (0 : K → A) k (weigh g v - weigh g (f k))) :=
        finsum_add_distrib h.support hone
    _ = total g f + (weigh g v - weigh g (f k)) := by
        rw [finsum_eq_single _ k hne, Function.update_self]

end Group

section Order

variable [AddCommGroup A] [PartialOrder A] {g : V → A}

/-- A row weighs at least nothing. -/
theorem weigh_nonneg {row : Option V} (h : ∀ v, row = some v → 0 ≤ g v) : 0 ≤ weigh g row := by
  cases row with
  | none => exact le_refl 0
  | some v => exact h v rfl

variable [IsOrderedAddMonoid A]

/-- So do all of them. -/
theorem total_nonneg {f : K → Option V} (h : ∀ k v, f k = some v → 0 ≤ g v) : 0 ≤ total g f :=
  finsum_nonneg fun k => weigh_nonneg (h k)

/-- A row weighs no more than the table. -/
theorem le_total {f : K → Option V} (hf : Finite f) (h : ∀ k v, f k = some v → 0 ≤ g v)
    {k : K} {v : V} (hk : f k = some v) : g v ≤ total g f := by
  have hle := single_le_finsum k (hf.support (g := g)) fun x => weigh_nonneg (h x)
  rwa [hk] at hle

/-- A table that lost rows weighs less. -/
theorem total_mono {f f' : K → Option V} (hf : Finite f) (h : ∀ k v, f k = some v → 0 ≤ g v)
    (hle : ∀ k v, f' k = some v → f k = some v) : total g f' ≤ total g f := by
  classical
  have hsub : ∀ k, (f' k).isSome → (f k).isSome := by
    intro k hk
    obtain ⟨v, hv⟩ := Option.isSome_iff_exists.mp hk
    rw [hle k v hv]
    rfl
  have hsupp := (hf.mono hsub).support (g := g)
  refine finsum_le_finsum' hsupp hf.support fun k => ?_
  cases hk : f' k with
  | none => exact weigh_nonneg (h k)
  | some v => rw [hle k v hk]

end Order

end KeyTable
