import TicketBox.Interleave
import Mathlib.Algebra.Order.BigOperators.Group.List

/-! # Systems without batches

    Where no operation ever awaits a batch, the task type is empty and an
    operation in flight is either at one call or at its answer.  The answer
    matters here: a request that has ended still stands in the pool with what
    it told its caller.  The file gives the rules that read the answers too:
    for assertions on every call and every answer (`Step.meets`), for the same
    at one operation (`Step.meets_at`) and for quantities to which the answers
    contribute (`Step.weigh`). -/

namespace Interleave

variable {W D T R Ch Req Ev : Type}

/-- `jd` holds of the call the program is at, `jr` of the answer it ended with. -/
def Prog.Meets (jd : D → Prop) (jr : R → Prop) : Prog D T R → Prop
  | .ret r => jr r
  | .ask d => jd d
  | .par _ _ rest => rest.Meets jd jr

@[simp] theorem Prog.Meets_ret (jd : D → Prop) (jr : R → Prop) (r : R) :
    (Prog.ret r : Prog D T R).Meets jd jr ↔ jr r := Iff.rfl
@[simp] theorem Prog.Meets_ask (jd : D → Prop) (jr : R → Prop) (d : D) :
    (Prog.ask d : Prog D T R).Meets jd jr ↔ jd d := Iff.rfl

/-- What holds of the next call, weakened. -/
theorem Prog.Meets.mono {jd jd' : D → Prop} {jr jr' : R → Prop}
    (hd : ∀ d, jd d → jd' d) (hr : ∀ r, jr r → jr' r) :
    ∀ {prog : Prog D T R}, prog.Meets jd jr → prog.Meets jd' jr' := by
  intro prog
  induction prog with
  | ret r => exact hr r
  | ask d => exact hd d
  | par ts h rest _ ih => exact ih

/-- A run can be checked for this, step by step. -/
instance instDecidableMeets (jd : D → Prop) (jr : R → Prop) [DecidablePred jd] [DecidablePred jr] :
    (prog : Prog D T R) → Decidable (prog.Meets jd jr)
  | .ret r => inferInstanceAs (Decidable (jr r))
  | .ask d => inferInstanceAs (Decidable (jd d))
  | .par _ _ rest => instDecidableMeets jd jr rest

/-- **The assertion rule, answers included.**  If every request starts with its
    assertion met, and every executed call leaves its own operation's assertion
    met and everybody else's undisturbed, then they stay met. -/
theorem System.Step.meets [IsEmpty T] {S : System W D T R Ch Req Ev}
    {G : Guard W D T R Ch Req Ev} {J : W → D → Prop} {K : W → R → Prop} {p q : Pool W D T R}
    (hs : S.Step G p q) (hp : ∀ prog ∈ p.ops, prog.Meets (J p.world) (K p.world))
    (henter : ∀ r prog, G.req p r → S.enter p.world r = some prog →
      prog.Meets (J p.world) (K p.world))
    (hask : ∀ ch d w' prog, .ask d ∈ p.ops → J p.world d → G.ask p ch d →
      S.decide ch p.world d = some (w', prog) →
      prog.Meets (J w') (K w') ∧
        (∀ d', J p.world d' → J w' d') ∧ (∀ r', K p.world r' → K w' r'))
    (henv : ∀ e, G.env p e →
      (∀ d', J p.world d' → J (S.env e p.world) d') ∧
        (∀ r', K p.world r' → K (S.env e p.world) r')) :
    ∀ prog ∈ q.ops, prog.Meets (J q.world) (K q.world) := by
  cases hs with
  | started r prog hg he =>
      intro x hx
      rcases List.mem_append.mp hx with h | h
      · exact hp x h
      · rw [List.mem_singleton.mp h]
        exact henter r prog hg he
  | asked i ch d w' prog hi hg hd =>
      have hmem : Prog.ask d ∈ p.ops := List.mem_of_getElem? hi
      obtain ⟨hnew, hjd, hjr⟩ := hask ch d w' prog hmem (hp _ hmem) hg hd
      exact all_of_set (fun x hx => (hp x hx).mono hjd hjr) hnew
  | settled i h rest hi =>
      have hmem : Prog.par [] h rest ∈ p.ops := List.mem_of_getElem? hi
      have hrest : rest.Meets (J p.world) (K p.world) := hp (.par [] h rest) hmem
      exact all_of_set hp hrest
  | resolved i k ch ts t h rest w' _ _ _ _ => exact isEmptyElim t
  | wentOn i k ch ts t t' h rest w' _ _ _ _ => exact isEmptyElim t
  | threw i k ch ts t h rest w' _ _ _ _ => exact isEmptyElim t
  | moved e hg =>
      obtain ⟨hjd, hjr⟩ := henv e hg
      exact fun x hx => (hp x hx).mono hjd hjr

/-- The same rule at one operation: operation `i` keeps its assertion if its
    own calls do and nobody disturbs it. -/
theorem System.Step.meets_at [IsEmpty T] {S : System W D T R Ch Req Ev}
    {G : Guard W D T R Ch Req Ev} {J : W → D → Prop} {K : W → R → Prop} {p q : Pool W D T R}
    (hs : S.Step G p q) {i : Nat}
    (hp : ∃ prog, p.ops[i]? = some prog ∧ prog.Meets (J p.world) (K p.world))
    (hask : ∀ ch d w' prog, J p.world d → S.decide ch p.world d = some (w', prog) →
      prog.Meets (J w') (K w'))
    (hkeep : (∀ d', J p.world d' → J q.world d') ∧ (∀ r', K p.world r' → K q.world r')) :
    ∃ prog, q.ops[i]? = some prog ∧ prog.Meets (J q.world) (K q.world) := by
  obtain ⟨prog, hi, hm⟩ := hp
  obtain ⟨hlt, -⟩ := List.getElem?_eq_some_iff.mp hi
  cases hs with
  | started r new hg he =>
      exact ⟨prog, by rw [List.getElem?_append_left hlt]; exact hi, hm⟩
  | asked j ch d w' new hj hg hd =>
      by_cases hij : j = i
      · subst hij
        rw [hi] at hj
        cases hj
        exact ⟨new, List.getElem?_set_self hlt, hask ch d w' new hm hd⟩
      · exact ⟨prog, by rw [List.getElem?_set_ne hij]; exact hi, hm.mono hkeep.1 hkeep.2⟩
  | settled j h rest hj =>
      by_cases hij : j = i
      · subst hij
        rw [hi] at hj
        cases hj
        exact ⟨rest, List.getElem?_set_self hlt, hm⟩
      · exact ⟨prog, by rw [List.getElem?_set_ne hij]; exact hi, hm⟩
  | resolved j k ch ts t h rest w' _ _ _ _ => exact isEmptyElim t
  | wentOn j k ch ts t t' h rest w' _ _ _ _ => exact isEmptyElim t
  | threw j k ch ts t h rest w' _ _ _ _ => exact isEmptyElim t
  | moved e hg => exact ⟨prog, hi, hm.mono hkeep.1 hkeep.2⟩

/-! ## Quantities to which the answers contribute -/

section Worth

variable {A : Type} (fd : D → A) (fr : R → A)

/-- What one operation contributes: at a call what the call says, once it has
    ended what its answer says. -/
def Prog.worth : Prog D T R → A
  | .ret r => fr r
  | .ask d => fd d
  | .par _ _ rest => rest.worth

@[simp] theorem Prog.worth_ret (r : R) : (Prog.ret r : Prog D T R).worth fd fr = fr r := rfl
@[simp] theorem Prog.worth_ask (d : D) : (Prog.ask d : Prog D T R).worth fd fr = fd d := rfl

/-- A larger weight weighs more. -/
theorem Prog.worth_mono [PartialOrder A] {fd fd' : D → A} {fr fr' : R → A}
    (hd : ∀ d, fd d ≤ fd' d) (hr : ∀ r, fr r ≤ fr' r) :
    ∀ prog : Prog D T R, prog.worth fd fr ≤ prog.worth fd' fr' := by
  intro prog
  induction prog with
  | ret r => exact hr r
  | ask d => exact hd d
  | par ts h rest _ ih => exact ih

variable [AddCommGroup A]

/-- What all operations contribute, the ended ones included. -/
def Pool.worth (p : Pool W D T R) : A := (p.ops.map (Prog.worth fd fr)).sum

variable {fd fr}

/-- One operation replaced: the sum moves by the difference. -/
theorem Pool.worth_set {p : Pool W D T R} {i : Nat} {prog : Prog D T R}
    (hi : p.ops[i]? = some prog) (w' : W) (prog' : Prog D T R) :
    (⟨w', p.ops.set i prog'⟩ : Pool W D T R).worth fd fr
      = p.worth fd fr + (prog'.worth fd fr - prog.worth fd fr) :=
  sum_map_set _ hi prog'

/-- One operation more. -/
theorem Pool.worth_append (p : Pool W D T R) (prog : Prog D T R) :
    (⟨p.world, p.ops ++ [prog]⟩ : Pool W D T R).worth fd fr
      = p.worth fd fr + prog.worth fd fr := by
  simp [Pool.worth]

/-- Where nobody contributes there is nothing. -/
theorem Pool.worth_eq_zero {p : Pool W D T R}
    (h : ∀ prog ∈ p.ops, prog.Meets (fun d => fd d = 0) fun r => fr r = 0) :
    p.worth fd fr = 0 := by
  refine List.sum_eq_zero fun a ha => ?_
  obtain ⟨prog, hmem, rfl⟩ := List.mem_map.mp ha
  have hprog := h prog hmem
  clear hmem ha
  induction prog with
  | ret r => exact hprog
  | ask d => exact hprog
  | par ts hh rest _ ih => exact ih hprog

section Order

variable [PartialOrder A] [IsOrderedAddMonoid A] {fd' : D → A} {fr' : R → A}

/-- Whatever each call and each answer contributes more, the pool has more. -/
theorem Pool.worth_mono (hd : ∀ d, fd d ≤ fd' d) (hr : ∀ r, fr r ≤ fr' r) (p : Pool W D T R) :
    p.worth fd fr ≤ p.worth fd' fr' :=
  List.sum_le_sum fun prog _ => prog.worth_mono hd hr

omit [IsOrderedAddMonoid A] in
/-- A program weighs at least nothing. -/
theorem Prog.worth_nonneg (hd : ∀ d, 0 ≤ fd d) (hr : ∀ r, 0 ≤ fr r) (prog : Prog D T R) :
    0 ≤ prog.worth fd fr := by
  induction prog with
  | ret r => exact hr r
  | ask d => exact hd d
  | par ts h rest _ ih => exact ih

/-- So do all of them. -/
theorem Pool.worth_nonneg (hd : ∀ d, 0 ≤ fd d) (hr : ∀ r, 0 ≤ fr r) (p : Pool W D T R) :
    0 ≤ p.worth fd fr := by
  refine List.sum_nonneg fun a ha => ?_
  obtain ⟨prog, -, rfl⟩ := List.mem_map.mp ha
  exact prog.worth_nonneg hd hr

/-- One operation contributes at most what the pool does. -/
theorem Pool.le_worth (hd : ∀ d, 0 ≤ fd d) (hr : ∀ r, 0 ≤ fr r) {p : Pool W D T R}
    {prog : Prog D T R} (hmem : prog ∈ p.ops) : prog.worth fd fr ≤ p.worth fd fr := by
  refine List.single_le_sum (fun a ha => ?_) _ (List.mem_map_of_mem hmem)
  obtain ⟨x, -, rfl⟩ := List.mem_map.mp ha
  exact x.worth_nonneg hd hr

end Order

/-- **The balance rule, answers included.**  If every executed call moves the
    sum of the store's part `f` and its own part by `rel`, then a step moves the
    balance of the whole pool by `rel`. -/
theorem System.Step.weigh [IsEmpty T] {S : System W D T R Ch Req Ev}
    {G : Guard W D T R Ch Req Ev} {p q : Pool W D T R} (hs : S.Step G p q)
    (rel : A → A → Prop) (hrefl : ∀ a, rel a a)
    (hadd : ∀ a b c, rel a b → rel (a + c) (b + c)) (f : W → A)
    (henter : ∀ r prog, G.req p r → S.enter p.world r = some prog →
      rel (prog.worth fd fr) 0)
    (hask : ∀ ch d w' prog, .ask d ∈ p.ops → G.ask p ch d →
      S.decide ch p.world d = some (w', prog) →
      rel (f w' + prog.worth fd fr) (f p.world + fd d))
    (henv : ∀ e, G.env p e → rel (f (S.env e p.world)) (f p.world)) :
    rel (f q.world + q.worth fd fr) (f p.world + p.worth fd fr) := by
  cases hs with
  | started r prog hg he =>
      have h := hadd _ _ (f p.world + p.worth fd fr) (henter r prog hg he)
      rw [Pool.worth_append]
      show rel (f p.world + _) _
      convert h using 1 <;> abel
  | asked i ch d w' prog hi hg hd =>
      have h := hadd _ _ (p.worth fd fr - fd d)
        (hask ch d w' prog (List.mem_of_getElem? hi) hg hd)
      rw [Pool.worth_set hi]
      show rel (f w' + _) _
      convert h using 1
      · simp only [Prog.worth_ask]
        abel
      · abel
  | settled i h rest hi =>
      have hsame : (⟨p.world, p.ops.set i rest⟩ : Pool W D T R).worth fd fr = p.worth fd fr := by
        rw [Pool.worth_set hi]
        show _ + (rest.worth fd fr - rest.worth fd fr) = _
        abel
      rw [hsame]
      exact hrefl _
  | resolved i k ch ts t h rest w' _ _ _ _ => exact isEmptyElim t
  | wentOn i k ch ts t t' h rest w' _ _ _ _ => exact isEmptyElim t
  | threw i k ch ts t h rest w' _ _ _ _ => exact isEmptyElim t
  | moved e hg => exact hadd _ _ _ (henv e hg)

end Worth

end Interleave
