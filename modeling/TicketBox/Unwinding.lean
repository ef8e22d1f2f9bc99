import Mathlib.Data.List.Basic

/-! # Two runs that look alike

    A deterministic machine takes inputs one after the other.  An observer sees what
    the machine does at some of its inputs; other inputs are hidden from the observer.
    Two runs that differ in hidden inputs only show the observer the same, if a
    relation between their states is kept by a hidden input of either run and by a
    common input of both. -/

namespace Unwinding

variable {S I B O : Type}

/-- The inputs of a run, each with the state it finds. -/
def trace (next : I → S → S) : List I → S → List (S × I)
  | [], _ => []
  | i :: is, s => (s, i) :: trace next is (next i s)

/-- What `f` makes of the observed inputs of a run. -/
def view (next : I → S → S) (observed : I → Bool) (f : S → I → O) (is : List I) (s : S) : List O :=
  ((trace next is s).filter fun x => observed x.2).map fun x => f x.1 x.2

variable {next : I → S → S} {observed : I → Bool} {f : S → I → O}

@[simp] theorem view_nil (s : S) : view next observed f [] s = [] := rfl

theorem view_cons_of_pos {i : I} (is : List I) (s : S) (h : observed i = true) :
    view next observed f (i :: is) s = f s i :: view next observed f is (next i s) := by
  simp [view, trace, h]

theorem view_cons_of_neg {i : I} (is : List I) (s : S) (h : observed i = false) :
    view next observed f (i :: is) s = view next observed f is (next i s) := by
  simp [view, trace, h]

/-- What keeps two runs alike.  `g` is what has to agree at the observed inputs for
    `f` to agree there. -/
structure Alike (next : I → S → S) (visible observed : I → Bool) (g : S → I → B) (f : S → I → O)
    (R : S → S → Prop) : Prop where
  observed_visible : ∀ i, observed i = true → visible i = true
  left : ∀ i s t, visible i = false → R s t → R (next i s) t
  right : ∀ i s t, visible i = false → R s t → R s (next i t)
  both : ∀ i s t, visible i = true → R s t → (observed i = true → g s i = g t i) →
    R (next i s) (next i t) ∧ (observed i = true → f s i = f t i)

variable {visible : I → Bool} {g : S → I → B} {R : S → S → Prop}

/-- Hidden inputs of the second run show nothing and keep the relation. -/
theorem Alike.skip (h : Alike next visible observed g f R) {s : S} :
    ∀ {is rest : List I} {t : S}, (∀ i ∈ is, visible i = false) → R s t →
      ∃ t', R s t' ∧ view next observed g (is ++ rest) t = view next observed g rest t' ∧
        view next observed f (is ++ rest) t = view next observed f rest t' := by
  intro is
  induction is with
  | nil =>
      intro rest t _ hR
      exact ⟨t, hR, rfl, rfl⟩
  | cons i is ih =>
      intro rest t hhidden hR
      have hi := hhidden i List.mem_cons_self
      have hno : observed i = false := by
        cases ho : observed i with
        | false => rfl
        | true =>
            rw [h.observed_visible i ho] at hi
            cases hi
      obtain ⟨t', hR', hg, hf⟩ := ih (fun j hj => hhidden j (List.mem_cons_of_mem i hj))
        (h.right i s t hi hR)
      refine ⟨t', hR', ?_, ?_⟩
      · rw [List.cons_append, view_cons_of_neg _ _ hno, hg]
      · rw [List.cons_append, view_cons_of_neg _ _ hno, hf]

/-- **Unwinding.**  Two runs with the same visible inputs, in which `g` agrees at the
    observed ones, show the observer the same. -/
theorem Alike.view_eq (h : Alike next visible observed g f R) :
    ∀ {is js : List I} {s t : S}, R s t → is.filter visible = js.filter visible →
      view next observed g is s = view next observed g js t →
      view next observed f is s = view next observed f js t := by
  intro is
  induction is with
  | nil =>
      intro js s t hR hvis _
      have hhidden : ∀ j ∈ js, visible j = false := by
        intro j hj
        simpa using List.filter_eq_nil_iff.mp hvis.symm j hj
      have hend : (js : List I) = js ++ [] := (List.append_nil js).symm
      rw [hend]
      obtain ⟨t', -, -, hf⟩ := h.skip hhidden hR
      rw [hf, view_nil, view_nil]
  | cons i is ih =>
      intro js s t hR hvis hg
      cases hi : visible i with
      | false =>
          have hno : observed i = false := by
            cases ho : observed i with
            | false => rfl
            | true =>
                rw [h.observed_visible i ho] at hi
                cases hi
          rw [view_cons_of_neg _ _ hno] at hg ⊢
          rw [List.filter_cons_of_neg (by simp [hi])] at hvis
          exact ih (h.left i s t hi hR) hvis hg
      | true =>
          -- the second run meets the same input after some hidden ones
          rw [List.filter_cons_of_pos hi] at hvis
          obtain ⟨pre, post, rfl, hpre, -, hpost⟩ := List.filter_eq_cons_iff.mp hvis.symm
          have hhidden : ∀ j ∈ pre, visible j = false := by
            intro j hj
            simpa using hpre j hj
          obtain ⟨t', hR', hgt, hft⟩ := h.skip hhidden hR
          rw [hgt] at hg
          rw [hft]
          cases ho : observed i with
          | false =>
              rw [view_cons_of_neg _ _ ho, view_cons_of_neg _ _ ho] at hg ⊢
              obtain ⟨hnext, -⟩ := h.both i s t' hi hR' fun hyes => by
                rw [ho] at hyes
                cases hyes
              exact ih hnext hpost.symm hg
          | true =>
              rw [view_cons_of_pos _ _ ho, view_cons_of_pos _ _ ho] at hg ⊢
              obtain ⟨hhead, htail⟩ := List.cons.inj hg
              obtain ⟨hnext, hout⟩ := h.both i s t' hi hR' fun _ => hhead
              rw [hout ho, ih hnext hpost.symm htail]

end Unwinding
