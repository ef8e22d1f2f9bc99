import Mathlib.Algebra.BigOperators.Group.List.Basic
import Mathlib.Algebra.GroupWithZero.Nat
import Mathlib.Logic.Function.Basic

/-! # Loads filled up greedily

    Places in a list, each with a load, and units that go one by one to the first
    place of least load.  Loads that differ by one at most stay so, and a place is
    passed over as long as the others have room below it: `room` counts how many
    units that takes. -/

namespace GreedyLoad

variable {K : Type}

/-- No place has less than `k`. -/
def Least (places : List K) (load : K → Nat) (k : K) : Prop := ∀ x ∈ places, load k ≤ load x

/-- `k` is the first place of least load. -/
def First (places : List K) (load : K → Nat) (k : K) : Prop :=
  ∃ pre post, places = pre ++ k :: post ∧ (∀ x ∈ pre, load k < load x) ∧
    ∀ x ∈ post, load k ≤ load x

/-- Any two loads differ by one at most. -/
def EvenLoad (places : List K) (load : K → Nat) : Prop :=
  ∀ x ∈ places, ∀ y ∈ places, load x ≤ load y + 1

variable {places pre post : List K} {load : K → Nat} {k e : K}

theorem First.mem (h : First places load k) : k ∈ places := by
  obtain ⟨pre, post, rfl, -, -⟩ := h
  exact List.mem_append_right _ List.mem_cons_self

theorem First.least (h : First places load k) : Least places load k := by
  obtain ⟨pre, post, rfl, hpre, hpost⟩ := h
  intro x hx
  rcases List.mem_append.mp hx with hx | hx
  · exact Nat.le_of_lt (hpre x hx)
  · rcases List.mem_cons.mp hx with rfl | hx
    · exact Nat.le_refl _
    · exact hpost x hx

section Bump

variable [DecidableEq K]

/-- One unit more at `k`. -/
def bump (k : K) (load : K → Nat) : K → Nat := Function.update load k (load k + 1)

@[simp] theorem bump_self (k : K) (load : K → Nat) : bump k load k = load k + 1 :=
  Function.update_self _ _ _

@[simp] theorem bump_ne {k k' : K} (h : k' ≠ k) (load : K → Nat) : bump k load k' = load k' :=
  Function.update_of_ne h _ _

/-- **The step.**  A unit at a place of least load keeps the balance. -/
theorem EvenLoad.bump (h : EvenLoad places load) (hk : Least places load k) :
    EvenLoad places (bump k load) := by
  intro x hx y hy
  have hxy := h x hx y hy
  have hky := hk y hy
  by_cases hxk : x = k
  · subst hxk
    by_cases hyx : y = x
    · subst hyx
      omega
    · rw [bump_self, bump_ne hyx]
      omega
  · rw [bump_ne hxk]
    by_cases hyk : y = k
    · subst hyk
      rw [bump_self]
      omega
    · rw [bump_ne hyk]
      exact hxy

end Bump

/-! ## How long a place is passed over -/

/-- The units the places around `e` take before `e` is the first of least load: the
    places before it fill up above its load, those behind it up to its load. -/
def room (pre post : List K) (load : K → Nat) (e : K) : Nat :=
  (pre.map fun x => load e + 1 - load x).sum + (post.map fun x => load e - load x).sum

theorem room_of_first (hpre : ∀ x ∈ pre, load e < load x) (hpost : ∀ x ∈ post, load e ≤ load x) :
    room pre post load e = 0 := by
  have hzero : ∀ (l : List K) (f : K → Nat), (∀ x ∈ l, f x = 0) → (l.map f).sum = 0 := by
    intro l f hf
    rw [List.map_congr_left hf]
    simp
  have hleft := hzero pre (fun x => load e + 1 - load x) fun x hx => by
    have := hpre x hx
    omega
  have hright := hzero post (fun x => load e - load x) fun x hx => by
    have := hpost x hx
    omega
  rw [room, hleft, hright]

/-- Where another place is the first, it lies below. -/
theorem First.other (h : First (pre ++ e :: post) load k) (hne : k ≠ e) :
    (k ∈ pre ∧ load k ≤ load e) ∨ (k ∈ post ∧ load k < load e) := by
  have hleast := h.least e (List.mem_append_right _ List.mem_cons_self)
  obtain ⟨pre', post', heq, hpre', -⟩ := h
  rcases List.append_eq_append_iff.mp heq with ⟨mid, hmid, htail⟩ | ⟨mid, hmid, htail⟩
  · cases mid with
    | nil => exact absurd (List.cons.inj htail).1.symm hne
    | cons y ys =>
        obtain ⟨rfl, rfl⟩ := List.cons.inj htail
        refine .inr ⟨List.mem_append_right _ List.mem_cons_self, hpre' e ?_⟩
        rw [hmid]
        exact List.mem_append_right _ List.mem_cons_self
  · cases mid with
    | nil => exact absurd (List.cons.inj htail).1 hne
    | cons y ys =>
        obtain ⟨rfl, -⟩ := List.cons.inj htail
        refine .inl ⟨?_, hleast⟩
        rw [hmid]
        exact List.mem_append_right _ List.mem_cons_self

/-- A term that lost one at one place of the list. -/
theorem sum_minus_one {f g : K → Nat} {l : List K} (hn : l.Nodup) (hk : k ∈ l)
    (hg : g k + 1 = f k) (hsame : ∀ x, x ≠ k → g x = f x) :
    (l.map g).sum + 1 = (l.map f).sum := by
  induction l with
  | nil => cases hk
  | cons y ys ih =>
      obtain ⟨hnot, hrest⟩ := List.nodup_cons.mp hn
      rw [List.map_cons, List.map_cons, List.sum_cons, List.sum_cons]
      rcases List.mem_cons.mp hk with rfl | hk
      · have hys : ys.map g = ys.map f :=
          List.map_congr_left fun x hx => hsame x fun he => hnot (he ▸ hx)
        rw [hys]
        omega
      · have hy : y ≠ k := fun he => hnot (he ▸ hk)
        have := ih hrest hk
        rw [hsame y hy]
        omega

/-- A unit that goes elsewhere takes one of the room. -/
theorem room_bump [DecidableEq K] (hn : (pre ++ e :: post).Nodup) (h : First (pre ++ e :: post) load k)
    (hne : k ≠ e) : room pre post (bump k load) e + 1 = room pre post load e := by
  have happ := List.nodup_append.mp hn
  have hpost := (List.nodup_cons.mp happ.2.1).2
  have hdisjoint : ∀ x ∈ pre, x ∉ post := fun x hx hx' =>
    happ.2.2 x hx x (List.mem_cons_of_mem e hx') rfl
  rw [room, room, bump_ne hne.symm]
  rcases h.other hne with ⟨hk, hle⟩ | ⟨hk, hlt⟩
  · have hsum := sum_minus_one (f := fun x => load e + 1 - load x)
      (g := fun x => load e + 1 - bump k load x) happ.1 hk (by
        rw [bump_self]
        omega) fun x hx => by rw [bump_ne hx]
    have hsame : (post.map fun x => load e - bump k load x) = post.map fun x => load e - load x := by
      refine List.map_congr_left fun x hx => ?_
      have hxk : x ≠ k := by
        rintro rfl
        exact hdisjoint x hk hx
      rw [bump_ne hxk]
    rw [hsame]
    omega
  · have hsum := sum_minus_one (f := fun x => load e - load x)
      (g := fun x => load e - bump k load x) hpost hk (by
        rw [bump_self]
        omega) fun x hx => by rw [bump_ne hx]
    have hsame : (pre.map fun x => load e + 1 - bump k load x)
        = pre.map fun x => load e + 1 - load x := by
      refine List.map_congr_left fun x hx => ?_
      have hxk : x ≠ k := by
        rintro rfl
        exact hdisjoint x hx hk
      rw [bump_ne hxk]
    rw [hsame]
    omega

end GreedyLoad
