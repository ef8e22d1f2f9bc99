import TicketBox.Interleave

/-! # Operations that do not overlap

    A run whose requests wait until no operation has a call left to await alone.
    What an operation of such a run has read about the store stays true until it
    uses it, as nobody else writes: only the tasks of batches run beside it, those
    a failed batch left behind included.  `OneByOne` packages the invariant: the
    store is `Good`, at most one operation still asks, and what its calls rely on,
    their `F`, holds. -/

namespace Interleave

variable {W D T R Ch Req Ev : Type}

/-- The operation has a call left to await alone. -/
def Prog.asks : Prog D T R → Bool
  | .ret _ => false
  | .ask _ => true
  | .par _ h rest => h.asks || rest.asks

/-- Only batches are left, and answers. -/
def Pool.Idle (p : Pool W D T R) : Prop := ∀ prog ∈ p.ops, prog.asks = false

/-- The operations in flight are looked through. -/
instance (p : Pool W D T R) : Decidable p.Idle :=
  inferInstanceAs (Decidable (∀ prog ∈ p.ops, prog.asks = false))

/-- A program that asks nothing meets every assertion on its calls. -/
theorem Prog.all_of_not_asks {P : D → Prop} {prog : Prog D T R} (h : prog.asks = false) :
    prog.All P fun _ => True := by
  induction prog with
  | ret r => trivial
  | ask d => cases h
  | par ts hh rest ihh ihr =>
      simp only [Prog.asks, Bool.or_eq_false_iff] at h
      exact ⟨fun _ _ => trivial, ihh h.1, ihr h.2⟩

/-- At most one operation asks, the store is good and what the calls rely on holds. -/
structure OneByOne (Good : W → Prop) (F : W → D → Prop) (p : Pool W D T R) : Prop where
  one : ∃ i : Nat, ∀ (j : Nat) (prog : Prog D T R), p.ops[j]? = some prog → j ≠ i → prog.asks = false
  good : Good p.world
  facts : ∀ prog ∈ p.ops, prog.All (F p.world) fun _ => True

variable {Good : W → Prop} {F : W → D → Prop} {p q : Pool W D T R}

/-- The start of a run: nothing asks. -/
theorem OneByOne.of_idle (h : p.Idle) (hgood : Good p.world) : OneByOne Good F p where
  one := ⟨0, fun _ _ hj _ => h _ (List.mem_of_getElem? hj)⟩
  good := hgood
  facts := fun prog hmem => Prog.all_of_not_asks (h prog hmem)

/-- An idle pool with one more operation. -/
theorem OneByOne.started (h : OneByOne Good F p) (hidle : p.Idle) {prog : Prog D T R}
    (hprog : prog.All (F p.world) fun _ => True) : OneByOne Good F ⟨p.world, p.ops ++ [prog]⟩ where
  one := by
    refine ⟨p.ops.length, ?_⟩
    intro j q hj hne
    rw [List.getElem?_append] at hj
    split at hj
    · exact hidle q (List.mem_of_getElem? hj)
    · have hlt := (List.getElem?_eq_some_iff.mp hj).1
      simp only [List.length_singleton] at hlt
      omega
  good := h.good
  facts := by
    intro q hq
    rcases List.mem_append.mp hq with hq | hq
    · exact h.facts q hq
    · rw [List.mem_singleton.mp hq]
      exact hprog

/-- The operation that asks is the one in slot `i`; the others ask nothing. -/
theorem OneByOne.alone (h : OneByOne Good F p) {i : Nat} {prog : Prog D T R}
    (hi : p.ops[i]? = some prog) (hasks : prog.asks = true) :
    ∀ (j : Nat) (q : Prog D T R), p.ops[j]? = some q → j ≠ i → q.asks = false := by
  obtain ⟨i₀, hone⟩ := h.one
  have heq : i = i₀ := by
    by_contra hne
    have := hone i prog hi hne
    rw [hasks] at this
    cases this
  subst heq
  exact hone

/-- The asking operation goes on as `prog`, in a store where that is in order. -/
theorem OneByOne.set (h : OneByOne Good F p) {i : Nat} {old prog : Prog D T R} {w : W}
    (hi : p.ops[i]? = some old) (hasks : old.asks = true) (hgood : Good w)
    (hprog : prog.All (F w) fun _ => True) : OneByOne Good F ⟨w, p.ops.set i prog⟩ where
  one := by
    refine ⟨i, ?_⟩
    intro j q hj hne
    rw [List.getElem?_set_ne (Ne.symm hne)] at hj
    exact h.alone hi hasks j q hj hne
  good := hgood
  facts := by
    intro q hq
    obtain ⟨j, hj⟩ := List.getElem?_of_mem hq
    by_cases hij : j = i
    · subst hij
      have hlt := (List.getElem?_eq_some_iff.mp hi).1
      rw [List.getElem?_set_self hlt] at hj
      cases hj
      exact hprog
    · rw [List.getElem?_set_ne (Ne.symm hij)] at hj
      exact Prog.all_of_not_asks (h.alone hi hasks j q hj hij)

/-- A batch moves on: it asks no more than before, and the store has not changed for the
    calls in flight. -/
theorem OneByOne.moved (h : OneByOne Good F p) {i : Nat} {old prog : Prog D T R} {w : W}
    (hi : p.ops[i]? = some old) (hless : old.asks = false → prog.asks = false)
    (hgood : Good w) (hkeep : ∀ d, F p.world d → F w d)
    (hprog : prog.All (F p.world) fun _ => True) : OneByOne Good F ⟨w, p.ops.set i prog⟩ where
  one := by
    obtain ⟨i₀, hone⟩ := h.one
    refine ⟨i₀, ?_⟩
    intro j q hj hne
    by_cases hij : j = i
    · subst hij
      have hlt := (List.getElem?_eq_some_iff.mp hi).1
      rw [List.getElem?_set_self hlt] at hj
      cases hj
      exact hless (hone j old hi hne)
    · rw [List.getElem?_set_ne (Ne.symm hij)] at hj
      exact hone j q hj hne
  good := hgood
  facts := all_of_set (fun q hq => (h.facts q hq).mono hkeep fun _ => id)
    (hprog.mono hkeep fun _ => id)

/-- What a failed batch leaves behind asks nothing. -/
theorem OneByOne.left (h : OneByOne Good F p) {prog : Prog D T R} (hprog : prog.asks = false) :
    OneByOne Good F ⟨p.world, p.ops ++ [prog]⟩ where
  one := by
    obtain ⟨i, hone⟩ := h.one
    refine ⟨i, ?_⟩
    intro j q hj hne
    rw [List.getElem?_append] at hj
    split at hj
    · exact hone j q hj hne
    · have hq := List.mem_of_getElem? hj
      rw [List.mem_singleton.mp hq]
      exact hprog
  good := h.good
  facts := by
    intro q hq
    rcases List.mem_append.mp hq with hq | hq
    · exact h.facts q hq
    · rw [List.mem_singleton.mp hq]
      exact Prog.all_of_not_asks hprog

/-- **The rule for operations that do not overlap.**  Requests start in an idle pool with
    their facts in order; a call that finds its facts leaves the store good and its
    continuation's facts in order; tasks and the environment disturb neither. -/
theorem OneByOne.step {S : System W D T R Ch Req Ev} {G : Guard W D T R Ch Req Ev}
    (h : OneByOne Good F p) (hs : S.Step G p q)
    (henter : ∀ r prog, G.req p r → Good p.world → S.enter p.world r = some prog →
      p.Idle ∧ prog.All (F p.world) fun _ => True)
    (hask : ∀ ch d w' prog, Good p.world → F p.world d → G.ask p ch d →
      S.decide ch p.world d = some (w', prog) → Good w' ∧ prog.All (F w') fun _ => True)
    (htask : ∀ ch t w' res, Good p.world → G.task p ch t →
      S.perform ch p.world t = some (w', res) → Good w' ∧ ∀ d, F p.world d → F w' d)
    (henv : ∀ e, Good p.world → G.env p e →
      Good (S.env e p.world) ∧ ∀ d, F p.world d → F (S.env e p.world) d) :
    OneByOne Good F q := by
  cases hs with
  | started r prog hg he =>
      obtain ⟨hidle, hprog⟩ := henter r prog hg h.good he
      exact h.started hidle hprog
  | asked i ch d w' prog hi hg hd =>
      have hfact := h.facts _ (List.mem_of_getElem? hi)
      obtain ⟨hgood, hprog⟩ := hask ch d w' prog h.good hfact hg hd
      exact h.set hi rfl hgood hprog
  | settled i hh rest hi =>
      have hfact := h.facts _ (List.mem_of_getElem? hi)
      refine h.moved hi ?_ h.good (fun _ => id) hfact.2.2
      intro hasks
      exact (Bool.or_eq_false_iff.mp hasks).2
  | resolved i k ch ts t hh rest w' hi hk hg hperf =>
      have hfact := h.facts _ (List.mem_of_getElem? hi)
      obtain ⟨hgood, hkeep⟩ := htask ch t w' _ h.good hg hperf
      exact h.moved hi id hgood hkeep ⟨fun _ _ => trivial, hfact.2⟩
  | wentOn i k ch ts t t' hh rest w' hi hk hg hperf =>
      have hfact := h.facts _ (List.mem_of_getElem? hi)
      obtain ⟨hgood, hkeep⟩ := htask ch t w' _ h.good hg hperf
      exact h.moved hi id hgood hkeep ⟨fun _ _ => trivial, hfact.2⟩
  | threw i k ch ts t hh rest w' hi hk hg hperf =>
      have hfact := h.facts _ (List.mem_of_getElem? hi)
      obtain ⟨hgood, hkeep⟩ := htask ch t w' _ h.good hg hperf
      have hless : (Prog.par ts hh rest).asks = false → hh.asks = false := by
        intro hasks
        exact (Bool.or_eq_false_iff.mp hasks).1
      exact (h.moved hi hless hgood hkeep hfact.2.1).left rfl
  | moved e hg =>
      obtain ⟨hgood, hkeep⟩ := henv e h.good hg
      exact ⟨h.one, hgood, fun prog hmem => (h.facts prog hmem).mono hkeep fun _ => id⟩

/-- **The rule for one operation of such a run.**  While it asks, nobody else does; what
    holds of it and the store it keeps itself, and once it asks no more the others keep it. -/
theorem OneByOne.follow {S : System W D T R Ch Req Ev} {G : Guard W D T R Ch Req Ev}
    {P : W → Prog D T R → Prop} (h : OneByOne Good F p) (hs : S.Step G p q) {i : Nat}
    (hi : ∃ prog, p.ops[i]? = some prog ∧ P p.world prog)
    (hflat : ∀ w ts hh rest, ¬ P w (.par ts hh rest))
    (hown : ∀ ch d w' prog, P p.world (.ask d) → F p.world d → G.ask p ch d →
      S.decide ch p.world d = some (w', prog) → P w' prog)
    (hother : ∀ ch d w' prog r, P p.world (.ret r) → F p.world d → G.ask p ch d →
      S.decide ch p.world d = some (w', prog) → P w' (.ret r))
    (htask : ∀ ch t w' res prog, P p.world prog → G.task p ch t →
      S.perform ch p.world t = some (w', res) → P w' prog)
    (henv : ∀ e prog, P p.world prog → G.env p e → P (S.env e p.world) prog) :
    ∃ prog, q.ops[i]? = some prog ∧ P q.world prog := by
  obtain ⟨mine, hi, hP⟩ := hi
  obtain ⟨hlt, -⟩ := List.getElem?_eq_some_iff.mp hi
  -- a batch is never this operation's, so a step on one leaves it where it is
  have hne : ∀ {j : Nat} {ts : List T} {hh rest : Prog D T R},
      p.ops[j]? = some (.par ts hh rest) → j ≠ i := by
    rintro j ts hh rest hj rfl
    rw [hi] at hj
    cases hj
    exact hflat _ _ _ _ hP
  have hset : ∀ {j : Nat} (prog : Prog D T R), j ≠ i → (p.ops.set j prog)[i]? = some mine := by
    intro j prog hj
    rw [List.getElem?_set_ne hj]
    exact hi
  cases hs with
  | started r prog hg he =>
      exact ⟨mine, by rw [List.getElem?_append_left hlt]; exact hi, hP⟩
  | asked j ch d w' prog hj hg hd =>
      have hfact := h.facts _ (List.mem_of_getElem? hj)
      by_cases hij : j = i
      · subst hij
        rw [hi] at hj
        cases hj
        exact ⟨prog, List.getElem?_set_self hlt, hown ch d w' prog hP hfact hg hd⟩
      · refine ⟨mine, hset prog hij, ?_⟩
        cases mine with
        | ret r => exact hother ch d w' prog r hP hfact hg hd
        | ask d' =>
            have hquiet := h.alone hi rfl j _ hj hij
            cases hquiet
        | par ts hh rest => exact absurd hP (hflat _ _ _ _)
  | settled j hh rest hj => exact ⟨mine, hset rest (hne hj), hP⟩
  | resolved j k ch ts t hh rest w' hj hk hg hperf =>
      exact ⟨mine, hset _ (hne hj), htask ch t w' _ mine hP hg hperf⟩
  | wentOn j k ch ts t t' hh rest w' hj hk hg hperf =>
      exact ⟨mine, hset _ (hne hj), htask ch t w' _ mine hP hg hperf⟩
  | threw j k ch ts t hh rest w' hj hk hg hperf =>
      have hkept := hset hh (hne hj)
      obtain ⟨hlt', -⟩ := List.getElem?_eq_some_iff.mp hkept
      refine ⟨mine, ?_, htask ch t w' _ mine hP hg hperf⟩
      rw [List.getElem?_append_left hlt']
      exact hkept
  | moved e hg => exact ⟨mine, hi, henv e mine hP hg⟩

end Interleave
