import Mathlib.Algebra.Order.Field.Basic
import Mathlib.Algebra.BigOperators.Group.List.Basic
import Mathlib.Tactic.Linarith
import Mathlib.Tactic.Ring

/-! # Token buckets

    A bucket of capacity `C` gains `r` tokens per unit of time up to `C`, and a
    grant takes its cost from what the bucket holds at that time.  The grants of
    any window cost at most `C + r * length` together (`History.bound`).  The
    potential behind it: what was granted since `s`, and what is left, is at most
    `C` and what was gained since `s`. -/

namespace TokenBucket

variable {K : Type*} [Field K] [LinearOrder K]

/-- What a bucket held at a time. -/
structure Level (K : Type*) where
  tokens : K
  since : K

/-- What it holds at a later time. -/
def Level.at (C r : K) (b : Level K) (t : K) : K := min C (b.tokens + r * (t - b.since))

/-- The grants made so far, the last one first, and the level they leave. -/
inductive History (C r : K) : List (K × K) → Level K → Prop where
  | first (t c : K) : c ≤ C → History C r [(t, c)] ⟨C - c, t⟩
  | grant (h : List (K × K)) (b : Level K) (t c : K) :
      History C r h b → b.since ≤ t → c ≤ b.at C r t →
      History C r ((t, c) :: h) ⟨b.at C r t - c, t⟩

/-- What was granted in a window. -/
def grantedIn (s t : K) (h : List (K × K)) : K :=
  (h.map fun g => if s ≤ g.1 ∧ g.1 ≤ t then g.2 else 0).sum

/-- What was granted from `s` on. -/
def grantedFrom (s : K) (h : List (K × K)) : K :=
  (h.map fun g => if s ≤ g.1 then g.2 else 0).sum

@[simp] theorem grantedIn_nil (s t : K) : grantedIn s t [] = 0 := rfl

@[simp] theorem grantedIn_cons (s t : K) (g : K × K) (h : List (K × K)) :
    grantedIn s t (g :: h) = (if s ≤ g.1 ∧ g.1 ≤ t then g.2 else 0) + grantedIn s t h := rfl

@[simp] theorem grantedFrom_nil (s : K) : grantedFrom s [] = 0 := rfl

@[simp] theorem grantedFrom_cons (s : K) (g : K × K) (h : List (K × K)) :
    grantedFrom s (g :: h) = (if s ≤ g.1 then g.2 else 0) + grantedFrom s h := rfl

variable {C r : K} {h : List (K × K)} {b : Level K}

/-- No grant is later than the level. -/
theorem History.le_since (hh : History C r h b) : ∀ g ∈ h, g.1 ≤ b.since := by
  induction hh with
  | first t c hc =>
      intro g hg
      rw [List.mem_singleton.mp hg]
  | grant h b t c _ ht _ ih =>
      intro g hg
      rcases List.mem_cons.mp hg with rfl | hg
      · exact le_refl _
      · exact le_trans (ih g hg) ht

theorem grantedFrom_eq_zero {s : K} (hlt : ∀ g ∈ h, g.1 < s) : grantedFrom s h = 0 := by
  refine List.sum_eq_zero fun x hx => ?_
  obtain ⟨g, hg, rfl⟩ := List.mem_map.mp hx
  exact if_neg (not_le.mpr (hlt g hg))

/-- All grants of a history that ends by `t` lie before the window's end. -/
theorem grantedIn_eq_from {s t : K} (hle : ∀ g ∈ h, g.1 ≤ t) :
    grantedIn s t h = grantedFrom s h := by
  rw [grantedIn, grantedFrom]
  congr 1
  refine List.map_congr_left fun g hg => ?_
  have := hle g hg
  simp [this]

variable [IsStrictOrderedRing K]

theorem History.tokens_nonneg (hh : History C r h b) : 0 ≤ b.tokens := by
  cases hh with
  | first t c hc => exact sub_nonneg.mpr hc
  | grant h b t c _ _ hc => exact sub_nonneg.mpr hc

theorem History.tokens_le (hcost : ∀ g ∈ h, 0 ≤ g.2) (hh : History C r h b) : b.tokens ≤ C := by
  cases hh with
  | first t c hc => exact sub_le_self C (hcost _ List.mem_cons_self)
  | grant h b t c _ _ hc =>
      have hc0 : 0 ≤ c := hcost _ List.mem_cons_self
      exact le_trans (sub_le_self _ hc0) (min_le_left _ _)

/-- **The potential.**  What was granted from `s` on, and what is left, is at
    most `C` and what was gained from `s` on. -/
theorem History.potential (hr : 0 ≤ r) (hcost : ∀ g ∈ h, 0 ≤ g.2) (hh : History C r h b) (s : K) :
    grantedFrom s h + b.tokens ≤ C + r * max 0 (b.since - s) := by
  have hgain : ∀ x : K, 0 ≤ r * max 0 x := fun x => mul_nonneg hr (le_max_left 0 x)
  induction hh with
  | first t c hc =>
      have hc0 : 0 ≤ c := hcost _ List.mem_cons_self
      have := hgain (t - s)
      simp only [grantedFrom_cons, grantedFrom_nil, add_zero]
      split <;> linarith
  | grant h b t c hprev ht hc ih =>
      have hc0 : 0 ≤ c := hcost _ List.mem_cons_self
      have ih := ih fun g hg => hcost g (List.mem_cons_of_mem _ hg)
      have hfull : b.at C r t ≤ C := min_le_left _ _
      have hfilled : b.at C r t ≤ b.tokens + r * (t - b.since) := min_le_right _ _
      simp only [grantedFrom_cons]
      by_cases hs : s ≤ b.since
      · -- the window was open before this grant: the gain since then is added
        have hst : s ≤ t := le_trans hs ht
        rw [max_eq_right (by linarith)] at ih ⊢
        rw [if_pos hst]
        have hsplit : r * (t - s) = r * (b.since - s) + r * (t - b.since) := by ring
        linarith
      · -- nothing was granted from `s` on before this grant
        have hzero : grantedFrom s h = 0 :=
          grantedFrom_eq_zero fun g hg => lt_of_le_of_lt (hprev.le_since g hg) (not_le.mp hs)
        have := hgain (t - s)
        rw [hzero]
        split <;> linarith

/-- **The rate bound.**  The grants of a window cost at most the capacity and
    what was gained in it. -/
theorem History.bound (hr : 0 ≤ r) (hcost : ∀ g ∈ h, 0 ≤ g.2) (hh : History C r h b) {s t : K}
    (hst : s ≤ t) : grantedIn s t h ≤ C + r * (t - s) := by
  have hwindow : ∀ {h : List (K × K)} {b : Level K}, History C r h b → (∀ g ∈ h, 0 ≤ g.2) →
      b.since ≤ t → grantedIn s t h ≤ C + r * (t - s) := by
    intro h b hh hcost hb
    have hpot := hh.potential hr hcost s
    have hleft := hh.tokens_nonneg
    have hgain : r * max 0 (b.since - s) ≤ r * (t - s) :=
      mul_le_mul_of_nonneg_left (max_le (by linarith) (by linarith)) hr
    rw [grantedIn_eq_from fun g hg => le_trans (hh.le_since g hg) hb]
    linarith
  induction hh with
  | first t' c hc =>
      by_cases ht : t' ≤ t
      · exact hwindow (.first t' c hc) hcost ht
      · have hc0 : 0 ≤ c := hcost _ List.mem_cons_self
        have hlen : 0 ≤ r * (t - s) := mul_nonneg hr (sub_nonneg.mpr hst)
        simp only [grantedIn_cons, grantedIn_nil, ht, and_false, if_false, add_zero]
        linarith
  | grant h b t' c hprev ht' hc ih =>
      by_cases ht : t' ≤ t
      · exact hwindow (.grant h b t' c hprev ht' hc) hcost ht
      · -- a grant after the window's end does not count
        simp only [grantedIn_cons, ht, and_false, if_false, zero_add]
        exact ih fun g hg => hcost g (List.mem_cons_of_mem _ hg)

end TokenBucket
