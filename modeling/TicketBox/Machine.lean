import Mathlib.Logic.Relation
import Mathlib.Logic.Function.Iterate

/-! # Runs of a machine with inputs

    A machine is a partial function `next` from a state and an input to a state.
    A run is a sequence of admitted inputs; `exec` executes a given one.  Between two
    inputs a machine may go on by itself, round after round, until it rests. -/

namespace Machine

variable {S M : Type}

/-- Runs on admitted inputs. -/
def Run (next : S → M → Option S) (ok : M → Prop) : S → S → Prop :=
  Relation.ReflTransGen fun s s' => ∃ m, ok m ∧ next s m = some s'

variable {next : S → M → Option S} {ok : M → Prop} {s s' : S}

/-- What the start satisfies and every admitted input preserves holds after
    every run. -/
theorem Run.inv {I : S → Prop} (hstep : ∀ s m s', I s → ok m → next s m = some s' → I s')
    (hr : Run next ok s s') (hs : I s) : I s' := by
  induction hr with
  | refl => exact hs
  | tail _ hlast ih =>
      obtain ⟨m, hok, hn⟩ := hlast
      exact hstep _ m _ ih hok hn

/-- The inputs, one after the other. -/
def exec (next : S → M → Option S) (s : S) : List M → Option S
  | [] => some s
  | m :: ms => (next s m).bind fun s' => exec next s' ms

/-- A trace that can be carried out is a run. -/
theorem run_of_exec {ms : List M} (hok : ∀ m ∈ ms, ok m) (h : exec next s ms = some s') :
    Run next ok s s' := by
  induction ms generalizing s with
  | nil =>
      simp only [exec, Option.some.injEq] at h
      subst h
      exact Relation.ReflTransGen.refl
  | cons m ms ih =>
      obtain ⟨s₁, hn, hrest⟩ := Option.bind_eq_some_iff.mp h
      refine Relation.ReflTransGen.head ⟨m, hok m List.mem_cons_self, hn⟩ ?_
      exact ih (fun m' hm' => hok m' (List.mem_cons_of_mem m hm')) hrest

/-- Admitted inputs that execute and end with `P`. -/
theorem exists_run (ms : List M) (hok : ∀ m ∈ ms, ok m) (P : S → Prop) [DecidablePred P]
    (h : (exec next s ms).any (fun s' => decide (P s')) = true) :
    ∃ s', Run next ok s s' ∧ P s' := by
  cases he : exec next s ms with
  | none => simp [he] at h
  | some s' => exact ⟨s', run_of_exec hok he, by simpa [he] using h⟩

/-! ## Runs with a condition on the state -/

/-- Runs whose every input meets `C` in the state it is given in. -/
def RunIf (next : S → M → Option S) (C : S → M → Prop) : S → S → Prop :=
  Relation.ReflTransGen fun s s' => ∃ m, C s m ∧ next s m = some s'

variable {C : S → M → Prop}

/-- What the start satisfies and every input under the condition preserves holds
    after every run. -/
theorem RunIf.inv {I : S → Prop} (hstep : ∀ s m s', I s → C s m → next s m = some s' → I s')
    (hr : RunIf next C s s') (hs : I s) : I s' := by
  induction hr with
  | refl => exact hs
  | tail _ hlast ih =>
      obtain ⟨m, hC, hn⟩ := hlast
      exact hstep _ m _ ih hC hn

/-- The inputs, one after the other, as long as each meets the condition. -/
def execIf (next : S → M → Option S) (C : S → M → Prop) [∀ s m, Decidable (C s m)] (s : S) :
    List M → Option S
  | [] => some s
  | m :: ms => if C s m then (next s m).bind fun s' => execIf next C s' ms else none

/-- So is one whose moves meet the condition. -/
theorem runIf_of_execIf [∀ s m, Decidable (C s m)] {ms : List M}
    (h : execIf next C s ms = some s') : RunIf next C s s' := by
  induction ms generalizing s with
  | nil =>
      simp only [execIf, Option.some.injEq] at h
      subst h
      exact Relation.ReflTransGen.refl
  | cons m ms ih =>
      simp only [execIf] at h
      split at h
      · next hC =>
        obtain ⟨s₁, hn, hrest⟩ := Option.bind_eq_some_iff.mp h
        exact Relation.ReflTransGen.head ⟨m, hC, hn⟩ (ih hrest)
      · cases h

/-- Inputs that execute under the condition and end with `P`. -/
theorem exists_runIf [∀ s m, Decidable (C s m)] (ms : List M) (P : S → Prop) [DecidablePred P]
    (h : (execIf next C s ms).any (fun s' => decide (P s')) = true) :
    ∃ s', RunIf next C s s' ∧ P s' := by
  cases he : execIf next C s ms with
  | none => simp [he] at h
  | some s' => exact ⟨s', runIf_of_execIf he, by simpa [he] using h⟩

/-! ## Rounds that come to rest -/

/-- Nothing changes after this many rounds. -/
def RestsAfter (round : S → S) (n : Nat) (s : S) : Prop := round (round^[n] s) = round^[n] s

variable {round : S → S} {n n' : Nat}

/-- It rests later too. -/
theorem RestsAfter.mono (h : RestsAfter round n s) (hle : n ≤ n') : RestsAfter round n' s := by
  obtain ⟨k, rfl⟩ := Nat.exists_eq_add_of_le hle
  have hfixed : round^[n + k] s = round^[n] s := by
    rw [Nat.add_comm, Function.iterate_add_apply]
    exact Function.iterate_fixed h k
  rw [RestsAfter, hfixed]
  exact h

/-- One round more. -/
theorem RestsAfter.succ (h : RestsAfter round n (round s)) : RestsAfter round (n + 1) s := by
  rw [RestsAfter, Function.iterate_succ_apply]
  exact h

end Machine
