import TicketBox.Interleave
import Mathlib.Data.List.Perm.Basic

/-! # One operation of a system, alone

    `Interleave` runs a pool of operations.  Here one operation runs by itself
    while everybody else is summed up by a relation on the store, the rely: what
    the others may have done between two of its calls.  A run records the turns
    the operation took, so that a statement can speak of the order of its calls
    and of the store each of them found.  A task that throws ends the story: its
    batch goes on detached, and the operation is not alone any more. -/

namespace Interleave

variable {W D T R Ch Req Ev : Type}

/-- A turn of the operation: the store and the program it found, the slot it
    executed and the choice it met. -/
structure Turn (W D T R Ch : Type) where
  world : W
  prog : Prog D T R
  slot : Nat
  choice : Ch

/-- The operation started at `w` with `prog` and took these turns. -/
inductive System.Alone (S : System W D T R Ch Req Ev) (rely : W → W → Prop) (w : W)
    (prog : Prog D T R) : List (Turn W D T R Ch) → W → Prog D T R → Prop where
  | start : S.Alone rely w prog [] w prog
  | others {tr : List (Turn W D T R Ch)} {w' w'' : W} {prog' : Prog D T R} :
      S.Alone rely w prog tr w' prog' → rely w' w'' → S.Alone rely w prog tr w'' prog'
  | turn {tr : List (Turn W D T R Ch)} {w' w'' : W} {prog' prog'' : Prog D T R} (k : Nat)
      (ch : Ch) :
      S.Alone rely w prog tr w' prog' → S.advance ch k w' prog' = some (w'', prog'', []) →
      S.Alone rely w prog (tr ++ [⟨w', prog', k, ch⟩]) w'' prog''

/-- What one turn can be. -/
inductive System.Turned (S : System W D T R Ch Req Ev) (ch : Ch) (k : Nat) (w : W) :
    Prog D T R → W → Prog D T R → Prop where
  | asked (d : D) (w' : W) (prog : Prog D T R) :
      S.decide ch w d = some (w', prog) → S.Turned ch k w (.ask d) w' prog
  | settled (h rest : Prog D T R) : S.Turned ch k w (.par [] h rest) w rest
  | resolved (ts : List T) (t : T) (h rest : Prog D T R) (w' : W) :
      ts[k]? = some t → S.perform ch w t = some (w', .resolved) →
      S.Turned ch k w (.par ts h rest) w' (.par (ts.eraseIdx k) h rest)
  | wentOn (ts : List T) (t t' : T) (h rest : Prog D T R) (w' : W) :
      ts[k]? = some t → S.perform ch w t = some (w', .goOn t') →
      S.Turned ch k w (.par ts h rest) w' (.par (ts.set k t') h rest)

/-- A step that starts nothing is a turn. -/
theorem turned_of_advance {S : System W D T R Ch Req Ev} {ch : Ch} {k : Nat} {w w' : W}
    {prog prog' : Prog D T R} (h : S.advance ch k w prog = some (w', prog', [])) :
    S.Turned ch k w prog w' prog' := by
  cases prog with
  | ret r => cases h
  | ask d =>
      simp only [System.advance, Option.map_eq_some_iff, Prod.mk.injEq] at h
      obtain ⟨⟨w1, prog1⟩, hd, rfl, rfl, -⟩ := h
      exact .asked d w1 prog1 hd
  | par ts hh rest =>
      cases ts with
      | nil =>
          simp only [System.advance, Option.some.injEq, Prod.mk.injEq, and_true] at h
          obtain ⟨rfl, rfl⟩ := h
          exact .settled hh rest
      | cons t ts =>
          simp only [System.advance] at h
          cases hk : (t :: ts)[k]? with
          | none => simp [hk] at h
          | some u =>
              simp only [hk] at h
              cases hp : S.perform ch w u with
              | none => simp [hp] at h
              | some y =>
                  obtain ⟨w1, res⟩ := y
                  rw [hp] at h
                  cases res with
                  | resolved =>
                      simp only [Option.some.injEq, Prod.mk.injEq, and_true] at h
                      obtain ⟨rfl, rfl⟩ := h
                      exact .resolved _ u hh rest _ hk hp
                  | goOn u' =>
                      simp only [Option.some.injEq, Prod.mk.injEq, and_true] at h
                      obtain ⟨rfl, rfl⟩ := h
                      exact .wentOn _ u u' hh rest _ hk hp
                  | threw => simp at h

/-- **The rule for one operation.**  What holds at its start, what the others
    leave alone and every turn keeps, holds at its end. -/
theorem System.Alone.inv {S : System W D T R Ch Req Ev} {rely : W → W → Prop} {w w' : W}
    {prog prog' : Prog D T R} {tr : List (Turn W D T R Ch)}
    {I : List (Turn W D T R Ch) → W → Prog D T R → Prop} (h : S.Alone rely w prog tr w' prog')
    (hstart : I [] w prog)
    (hothers : ∀ tr w₁ w₂ prog₁, I tr w₁ prog₁ → rely w₁ w₂ → I tr w₂ prog₁)
    (hturn : ∀ tr w₁ w₂ prog₁ prog₂ k ch, I tr w₁ prog₁ → S.Turned ch k w₁ prog₁ w₂ prog₂ →
      I (tr ++ [⟨w₁, prog₁, k, ch⟩]) w₂ prog₂) : I tr w' prog' := by
  induction h with
  | start => exact hstart
  | others _ hr ih => exact hothers _ _ _ _ ih hr
  | turn k ch _ hadv ih => exact hturn _ _ _ _ _ k ch ih (turned_of_advance hadv)

/-- Two stretches of one operation make one. -/
theorem System.Alone.trans {S : System W D T R Ch Req Ev} {rely : W → W → Prop} {w w' w'' : W}
    {prog prog' prog'' : Prog D T R} {tr tr' : List (Turn W D T R Ch)}
    (h : S.Alone rely w prog tr w' prog') (h' : S.Alone rely w' prog' tr' w'' prog'') :
    S.Alone rely w prog (tr ++ tr') w'' prog'' := by
  induction h' with
  | start => rwa [List.append_nil]
  | others _ hr ih => exact .others ih hr
  | turn k ch _ hadv ih =>
      rw [← List.append_assoc]
      exact .turn k ch ih hadv

/-! ## Executed turns -/

/-- The answer of an operation that has ended. -/
def Prog.answer : Prog D T R → Option R
  | .ret r => some r
  | _ => none

/-- A program with an answer has ended. -/
theorem Prog.answer_eq {prog : Prog D T R} {r : R} (h : prog.answer = some r) : prog = .ret r := by
  cases prog with
  | ret r' =>
      cases h
      rfl
  | ask d => cases h
  | par ts hh rest => cases h

/-- A list of slots and choices, executed one after the other. -/
def System.turns (S : System W D T R Ch Req Ev) (w : W) (prog : Prog D T R) :
    List (Nat × Ch) → Option (List (Turn W D T R Ch) × W × Prog D T R)
  | [] => some ([], w, prog)
  | (k, ch) :: cs =>
      match S.advance ch k w prog with
      | some (w', prog', []) =>
          (System.turns S w' prog' cs).map fun x => (⟨w, prog, k, ch⟩ :: x.1, x.2)
      | _ => none

/-- Turns one after the other are a run alone. -/
theorem alone_of_turns {S : System W D T R Ch Req Ev} {rely : W → W → Prop} :
    ∀ {cs : List (Nat × Ch)} {w w' : W} {prog prog' : Prog D T R} {tr : List (Turn W D T R Ch)},
      S.turns w prog cs = some (tr, w', prog') → S.Alone rely w prog tr w' prog' := by
  intro cs
  induction cs with
  | nil =>
      intro w w' prog prog' tr h
      cases h
      exact .start
  | cons c cs ih =>
      obtain ⟨k, ch⟩ := c
      intro w w' prog prog' tr h
      simp only [System.turns] at h
      split at h
      · next w1 prog1 hadv =>
        simp only [Option.map_eq_some_iff, Prod.mk.injEq] at h
        obtain ⟨⟨tr', w2, prog2⟩, hrest, rfl, rfl, rfl⟩ := h
        exact System.Alone.trans (.turn k ch .start hadv) (ih hrest)
      · cases h

/-- Turns that execute and end with `P`. -/
theorem exists_alone {S : System W D T R Ch Req Ev} {rely : W → W → Prop} {w : W}
    {prog : Prog D T R} (cs : List (Nat × Ch))
    (P : List (Turn W D T R Ch) × W × Prog D T R → Prop) [DecidablePred P]
    (h : (S.turns w prog cs).any (fun x => decide (P x)) = true) :
    ∃ tr w' prog', S.Alone rely w prog tr w' prog' ∧ P (tr, w', prog') := by
  cases he : S.turns w prog cs with
  | none => simp [he] at h
  | some x => exact ⟨x.1, x.2.1, x.2.2, alone_of_turns he, by simpa [he] using h⟩

/-! ## Nobody else at all -/

/-- One turn with the choice `ch`, nobody else in the store. -/
def System.SoloTurn (S : System W D T R Ch Req Ev) (ch : Ch) (x y : W × Prog D T R) : Prop :=
  S.advance ch 0 x.1 x.2 = some (y.1, y.2, [])

/-- The operation by itself, with the same choice at every turn. -/
def System.Solo (S : System W D T R Ch Req Ev) (ch : Ch) :
    W × Prog D T R → W × Prog D T R → Prop :=
  Relation.ReflTransGen (S.SoloTurn ch)

/-- An ended operation takes no turn. -/
theorem System.Solo.eq_of_ret {S : System W D T R Ch Req Ev} {ch : Ch} {w : W} {r : R}
    {y : W × Prog D T R} (h : S.Solo ch (w, .ret r) y) : y = (w, .ret r) := by
  rcases h.cases_head with heq | ⟨z, hz, -⟩
  · exact heq.symm
  · cases hz

/-- By itself an operation ends in one way at most. -/
theorem System.Solo.unique {S : System W D T R Ch Req Ev} {ch : Ch} {x : W × Prog D T R}
    {w w' : W} {r r' : R} (h : S.Solo ch x (w, .ret r)) (h' : S.Solo ch x (w', .ret r')) :
    w' = w ∧ r' = r := by
  have hunique : Relator.RightUnique (S.SoloTurn ch) := by
    intro a b c hb hc
    have heq : some (b.1, b.2, ([] : List (Prog D T R))) = some (c.1, c.2, []) :=
      hb.symm.trans hc
    simp only [Option.some.injEq, Prod.mk.injEq, and_true] at heq
    exact Prod.ext heq.1 heq.2
  rcases Relation.ReflTransGen.total_of_right_unique hunique h h' with hto | hto
  · have heq := System.Solo.eq_of_ret hto
    cases heq
    exact ⟨rfl, rfl⟩
  · have heq := System.Solo.eq_of_ret hto
    cases heq
    exact ⟨rfl, rfl⟩

/-! ## To the answer -/

/-- The operation by itself, with choices that are `calm`, up to its answer. -/
inductive System.Ends (S : System W D T R Ch Req Ev) (calm : Ch → Prop) :
    W → Prog D T R → W → R → Prop where
  | answered (w : W) (r : R) : S.Ends calm w (.ret r) w r
  | turn {w w' w'' : W} {prog prog' : Prog D T R} {r : R} (k : Nat) (ch : Ch) :
      calm ch → S.advance ch k w prog = some (w', prog', []) → S.Ends calm w' prog' w'' r →
      S.Ends calm w prog w'' r

/-- **The rule for an operation by itself.**  What holds at its start and every calm
    turn keeps holds when it answers. -/
theorem System.Ends.inv {S : System W D T R Ch Req Ev} {calm : Ch → Prop} {w w' : W}
    {prog : Prog D T R} {r : R} {I : W → Prog D T R → Prop} (h : S.Ends calm w prog w' r)
    (hstart : I w prog)
    (hturn : ∀ w₁ w₂ prog₁ prog₂ k ch, I w₁ prog₁ → calm ch → S.Turned ch k w₁ prog₁ w₂ prog₂ →
      I w₂ prog₂) : I w' (.ret r) := by
  induction h with
  | answered w r => exact hstart
  | turn k ch hcalm hadv _ ih => exact ih (hturn _ _ _ _ k ch hstart hcalm (turned_of_advance hadv))

/-- Nobody else at all is one way to be alone. -/
theorem alone_of_ends {S : System W D T R Ch Req Ev} {calm : Ch → Prop} {rely : W → W → Prop}
    {w w' : W} {prog : Prog D T R} {r : R} (h : S.Ends calm w prog w' r) :
    ∃ tr, S.Alone rely w prog tr w' (.ret r) := by
  induction h with
  | answered w r => exact ⟨[], .start⟩
  | turn k ch _ hadv _ ih =>
      obtain ⟨tr, hrest⟩ := ih
      exact ⟨_, System.Alone.trans (.turn k ch .start hadv) hrest⟩

/-! ### Calls and batches that have one outcome

    Where every calm choice makes a call do the same, and the tasks of a batch take
    effect in any order alike, an operation by itself can be followed call by call. -/

/-- A program that has ended changes nothing more. -/
theorem ends_ret {S : System W D T R Ch Req Ev} {calm : Ch → Prop} {w w' : W} {a r : R} :
    S.Ends calm w (.ret a) w' r ↔ w' = w ∧ r = a := by
  constructor
  · intro h
    cases h with
    | answered => exact ⟨rfl, rfl⟩
    | turn k ch _ hadv _ => cases hadv
  · rintro ⟨rfl, rfl⟩
    exact .answered w' r

/-- A call that does the same whatever calm choice it meets. -/
theorem ends_ask {S : System W D T R Ch Req Ev} {calm : Ch → Prop} {w w₁ w' : W} {d : D}
    {prog : Prog D T R} {r : R} (hcalm : ∃ ch, calm ch)
    (hd : ∀ ch, calm ch → S.decide ch w d = some (w₁, prog)) :
    S.Ends calm w (.ask d) w' r ↔ S.Ends calm w₁ prog w' r := by
  have hadv : ∀ k ch, calm ch → S.advance ch k w (.ask d) = some (w₁, prog, []) := by
    intro k ch hch
    simp only [System.advance, hd ch hch, Option.map_some]
  constructor
  · intro h
    cases h with
    | turn k ch hch hadv' hrest =>
        have heq := (hadv k ch hch).symm.trans hadv'
        simp only [Option.some.injEq, Prod.mk.injEq, and_true] at heq
        obtain ⟨rfl, rfl⟩ := heq
        exact hrest
  · intro h
    obtain ⟨ch, hch⟩ := hcalm
    exact .turn 0 ch hch (hadv 0 ch hch) h

/-- **The rule for a batch.**  Tasks that resolve, wherever `Ok` holds, as `act` says and
    take effect in any order alike leave what `act` makes of them one after the other. -/
theorem ends_par {S : System W D T R Ch Req Ev} {calm : Ch → Prop} (act : T → W → W)
    (Ok : W → Prop) {ts : List T} {h rest : Prog D T R} {w w' : W} {r : R}
    (hcalm : ∃ ch, calm ch) (hw : Ok w)
    (hperf : ∀ t ∈ ts, ∀ w, Ok w → ∀ ch, calm ch → S.perform ch w t = some (act t w, .resolved))
    (hok : ∀ t ∈ ts, ∀ w, Ok w → Ok (act t w))
    (hcomm : ∀ t ∈ ts, ∀ t' ∈ ts, ∀ w, act t' (act t w) = act t (act t' w)) :
    S.Ends calm w (.par ts h rest) w' r ↔
      S.Ends calm (ts.foldl (fun w t => act t w) w) rest w' r := by
  constructor
  · -- along the turns; each takes one task off the batch, and the folds agree
    intro hends
    generalize hprog : Prog.par ts h rest = prog at hends
    induction hends generalizing ts with
    | answered => cases hprog
    | turn k ch hch hadv hrest ih =>
        subst hprog
        cases turned_of_advance hadv with
        | settled => exact hrest
        | resolved _ t _ _ w₁ hk hp =>
            have ht : t ∈ ts := List.mem_of_getElem? hk
            have hp' := hperf t ht _ hw ch hch
            simp only [hp, Option.some.injEq, Prod.mk.injEq, and_true] at hp'
            subst hp'
            have hsub : ∀ t' ∈ ts.eraseIdx k, t' ∈ ts := fun t' => List.mem_of_mem_eraseIdx
            have hrec := ih (hok t ht _ hw) (fun t' ht' => hperf t' (hsub t' ht'))
              (fun t' ht' => hok t' (hsub t' ht'))
              (fun t₁ ht₁ t₂ ht₂ => hcomm t₁ (hsub t₁ ht₁) t₂ (hsub t₂ ht₂)) rfl
            obtain ⟨hlt, rfl⟩ := List.getElem?_eq_some_iff.mp hk
            have hperm : (ts[k] :: ts.eraseIdx k).Perm ts := List.getElem_cons_eraseIdx_perm hlt
            have hfold : ∀ z, (ts.eraseIdx k).foldl (fun w t => act t w) (act ts[k] z)
                = ts.foldl (fun w t => act t w) z :=
              hperm.foldl_eq' fun t₁ h₁ t₂ h₂ z =>
                hcomm t₁ (hperm.subset h₁) t₂ (hperm.subset h₂) z
            rwa [← hfold]
        | wentOn _ t t' _ _ w₁ hk hp =>
            have hp' := hperf t (List.mem_of_getElem? hk) _ hw ch hch
            simp [hp] at hp'
  · -- in the order of the batch
    intro hends
    obtain ⟨ch, hch⟩ := hcalm
    induction ts generalizing w with
    | nil => exact .turn 0 ch hch rfl hends
    | cons t ts ih =>
        have hp := hperf t List.mem_cons_self w hw ch hch
        have hadv : S.advance ch 0 w (.par (t :: ts) h rest)
            = some (act t w, .par ts h rest, []) := by
          simp only [System.advance, List.getElem?_cons_zero, hp, List.eraseIdx_zero,
            List.tail_cons]
        refine .turn 0 ch hch hadv ?_
        exact ih (hok t List.mem_cons_self w hw)
            (fun t' ht' => hperf t' (List.mem_cons_of_mem t ht'))
            (fun t' ht' => hok t' (List.mem_cons_of_mem t ht'))
            (fun t₁ h₁ t₂ h₂ => hcomm t₁ (List.mem_cons_of_mem t h₁) t₂ (List.mem_cons_of_mem t h₂))
            hends

/-- Requests one after the other: each that is `ok` where it starts runs by itself to
    its answer, and the environment moves in between. -/
inductive System.Serial (S : System W D T R Ch Req Ev) (calm : Ch → Prop) (ok : W → Req → Prop)
    (w : W) : W → Prop where
  | start : S.Serial calm ok w w
  | ran {w' w'' : W} {prog : Prog D T R} {a : R} (r : Req) :
      S.Serial calm ok w w' → ok w' r → S.enter w' r = some prog →
      S.Ends calm w' prog w'' a → S.Serial calm ok w w''
  | moved {w' : W} (e : Ev) : S.Serial calm ok w w' → S.Serial calm ok w (S.env e w')

/-- What every operation keeps when alone, a sequence of them keeps. -/
theorem System.Serial.inv {S : System W D T R Ch Req Ev} {calm : Ch → Prop} {ok : W → Req → Prop}
    {w w' : W} {I : W → Prop} (h : S.Serial calm ok w w') (hstart : I w)
    (hran : ∀ w₁ w₂ prog a r, I w₁ → ok w₁ r → S.enter w₁ r = some prog →
      S.Ends calm w₁ prog w₂ a → I w₂)
    (hmoved : ∀ w₁ e, I w₁ → I (S.env e w₁)) : I w' := by
  induction h with
  | start => exact hstart
  | ran r _ hok he hends ih => exact hran _ _ _ _ r ih hok he hends
  | moved e _ ih => exact hmoved _ e ih

/-- Sequences compose. -/
theorem System.Serial.trans {S : System W D T R Ch Req Ev} {calm : Ch → Prop}
    {ok : W → Req → Prop} {w w' w'' : W} (h : S.Serial calm ok w w')
    (h' : S.Serial calm ok w' w'') : S.Serial calm ok w w'' := by
  induction h' with
  | start => exact h
  | ran r _ hok he hends ih => exact .ran r ih hok he hends
  | moved e _ ih => exact .moved e ih

/-! ### Executed -/

/-- Turns that reach an answer are a whole operation. -/
theorem ends_of_turns {S : System W D T R Ch Req Ev} {calm : Ch → Prop} :
    ∀ {cs : List (Nat × Ch)} {w w' : W} {prog : Prog D T R} {r : R} {tr : List (Turn W D T R Ch)},
      (∀ c ∈ cs, calm c.2) → S.turns w prog cs = some (tr, w', .ret r) →
      S.Ends calm w prog w' r := by
  intro cs
  induction cs with
  | nil =>
      intro w w' prog r tr _ h
      cases h
      exact .answered w r
  | cons c cs ih =>
      obtain ⟨k, ch⟩ := c
      intro w w' prog r tr hcalm h
      simp only [System.turns] at h
      split at h
      · next w1 prog1 hadv =>
        simp only [Option.map_eq_some_iff, Prod.mk.injEq] at h
        obtain ⟨⟨tr', w2, prog2⟩, hrest, rfl, rfl, rfl⟩ := h
        exact .turn k ch (hcalm _ List.mem_cons_self) hadv
          (ih (fun c hc => hcalm c (List.mem_cons_of_mem _ hc)) hrest)
      · cases h

section Exec

variable (S : System W D T R Ch Req Ev) (calm : Ch → Prop)

/-- Turns that execute and end at an answer with `P`. -/
theorem exists_ends {w : W} {prog : Prog D T R} (cs : List (Nat × Ch)) (P : W → R → Prop)
    [∀ w r, Decidable (P w r)] (hcalm : ∀ c ∈ cs, calm c.2)
    (h : (S.turns w prog cs).any (fun x => x.2.2.answer.any fun r => decide (P x.2.1 r)) = true) :
    ∃ w' r, S.Ends calm w prog w' r ∧ P w' r := by
  cases he : S.turns w prog cs with
  | none => simp [he] at h
  | some x =>
      obtain ⟨tr, w', prog'⟩ := x
      rw [he] at h
      simp only [Option.any_some] at h
      cases hr : prog'.answer with
      | none => simp [hr] at h
      | some r =>
          rw [Prog.answer_eq hr] at he
          exact ⟨w', r, ends_of_turns hcalm he, by simpa [hr] using h⟩

variable (ok : W → Req → Prop) [DecidablePred calm] [∀ w r, Decidable (ok w r)]

/-- Requests with the turns each takes, executed one after the other. -/
def System.serially (w : W) : List (Req × List (Nat × Ch)) → Option W
  | [] => some w
  | (r, cs) :: rest =>
      if ok w r ∧ ∀ c ∈ cs, calm c.2 then
        (S.enter w r).bind fun prog =>
          match S.turns w prog cs with
          | some (_, w', .ret _) => System.serially w' rest
          | _ => none
      else none

variable {S calm ok}

/-- Operations carried out one after the other are a sequence. -/
theorem serial_of_serially :
    ∀ {rs : List (Req × List (Nat × Ch))} {w w' : W}, S.serially calm ok w rs = some w' →
      S.Serial calm ok w w' := by
  intro rs
  induction rs with
  | nil =>
      intro w w' h
      cases h
      exact .start
  | cons x rs ih =>
      obtain ⟨r, cs⟩ := x
      intro w w' h
      simp only [System.serially] at h
      split at h
      next hok =>
        obtain ⟨prog, he, h⟩ := Option.bind_eq_some_iff.mp h
        split at h
        · next tr w1 a hturns =>
            exact System.Serial.trans (.ran r .start hok.1 he (ends_of_turns hok.2 hturns)) (ih h)
        · cases h
      · cases h

variable (S calm ok)

/-- Requests that execute and end in a store with `P`. -/
theorem exists_serial {w : W} (rs : List (Req × List (Nat × Ch))) (P : W → Prop) [DecidablePred P]
    (h : (S.serially calm ok w rs).any (fun w' => decide (P w')) = true) :
    ∃ w', S.Serial calm ok w w' ∧ P w' := by
  cases he : S.serially calm ok w rs with
  | none => simp [he] at h
  | some w' => exact ⟨w', serial_of_serially he, by simpa [he] using h⟩

end Exec

end Interleave
