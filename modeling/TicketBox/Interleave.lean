import Mathlib.Logic.Relation
import Mathlib.Algebra.BigOperators.Group.List.Lemmas
import Mathlib.Algebra.Order.Group.Int
import Mathlib.Tactic.Abel

/-! # Interleaved operations over a shared store

    A server runs many operations at once.  Each of them is a sequence of
    awaited calls on a shared store; between two calls of one operation any
    call of any other may take effect.  An operation in flight is a `Prog`:

    * `ask d` awaits one call and lets its answer decide how to go on;
    * `par ts onThrow rest` awaits a whole batch of tasks (`Promise.all`), in
      any order, and goes on at `rest`; a task that throws sends the operation
      to `onThrow` while the rest of the batch keeps running detached.

    A `Pool` is the store with all operations, finished ones included.  The
    file gives the executable `next`, the inversion `Step`, runs guarded by a
    condition on each step, and the rules the development uses: for invariants
    of runs (`Run.inv`), for invariants of the store (`Step.world`), for
    assertions on every call in flight (`Step.all`), for what an operation read
    and still needs at its write (`Step.exclusive`), for facts a batch leaves
    behind (`Step.relies`) and for quantities split between the store and the
    calls in flight (`Step.balance`). -/

namespace Interleave

/-- An operation in flight: what it still has to await. -/
inductive Prog (D T R : Type) where
  | ret (r : R)
  | ask (d : D)
  | par (ts : List T) (onThrow rest : Prog D T R)
  deriving DecidableEq

/-- What one executed task does to its slot of the batch. -/
inductive TaskResult (T : Type) where
  | resolved
  | goOn (t : T)
  | threw

/-- How calls act on the store `W`: choices `Ch` resolve what the program does
    not decide (failures, fresh ids), requests `Req` start operations, events
    `Ev` are the store's own moves. -/
structure System (W D T R Ch Req Ev : Type) where
  decide : Ch → W → D → Option (W × Prog D T R)
  perform : Ch → W → T → Option (W × TaskResult T)
  enter : W → Req → Option (Prog D T R)
  env : Ev → W → W
  /-- the answer of a batch that nobody awaits any more -/
  detached : R

/-- The shared world and the programs in flight on it. -/
structure Pool (W D T R : Type) where
  world : W
  ops : List (Prog D T R)

/-- A scheduler's move: start an operation, execute slot `k` of operation `i`,
    or let the environment move. -/
inductive Action (Ch Req Ev : Type) where
  | start (r : Req)
  | step (i k : Nat) (ch : Ch)
  | env (e : Ev)

variable {W D T R Ch Req Ev : Type}

/-- The operation's own part of a step: the new store, the operation after it,
    and the operations it leaves behind. -/
def System.advance (S : System W D T R Ch Req Ev) (ch : Ch) (k : Nat) (w : W) :
    Prog D T R → Option (W × Prog D T R × List (Prog D T R))
  | .ret _ => none
  | .ask d => (S.decide ch w d).map fun x => (x.1, x.2, [])
  | .par [] _ rest => some (w, rest, [])
  | .par (t :: ts) h rest =>
      match (t :: ts)[k]? with
      | none => none
      | some u =>
          match S.perform ch w u with
          | none => none
          | some (w', .resolved) => some (w', .par ((t :: ts).eraseIdx k) h rest, [])
          | some (w', .goOn u') => some (w', .par ((t :: ts).set k u') h rest, [])
          | some (w', .threw) =>
              some (w', h, [.par ((t :: ts).eraseIdx k) (.ret S.detached) (.ret S.detached)])

/-- One move of the whole pool. -/
def System.next (S : System W D T R Ch Req Ev) (p : Pool W D T R) :
    Action Ch Req Ev → Option (Pool W D T R)
  | .start r => (S.enter p.world r).map fun prog => ⟨p.world, p.ops ++ [prog]⟩
  | .step i k ch =>
      match p.ops[i]? with
      | none => none
      | some prog =>
          (S.advance ch k p.world prog).map fun x => ⟨x.1, p.ops.set i x.2.1 ++ x.2.2⟩
  | .env e => some ⟨S.env e p.world, p.ops⟩

/-! ## Guarded steps -/

/-- A condition on the steps of a run, read in the state before the step. -/
structure Guard (W D T R Ch Req Ev : Type) where
  req : Pool W D T R → Req → Prop
  ask : Pool W D T R → Ch → D → Prop
  task : Pool W D T R → Ch → T → Prop
  env : Pool W D T R → Ev → Prop

/-- The condition, read at a scheduler's move. -/
def Guard.ok (G : Guard W D T R Ch Req Ev) (p : Pool W D T R) :
    Action Ch Req Ev → Prop
  | .start r => G.req p r
  | .step i k ch =>
      match p.ops[i]? with
      | some (.ask d) => G.ask p ch d
      | some (.par ts _ _) =>
          match ts[k]? with
          | some t => G.task p ch t
          | none => True
      | _ => True
  | .env e => G.env p e

/-- Every step is allowed. -/
def Guard.any : Guard W D T R Ch Req Ev where
  req := fun _ _ => True
  ask := fun _ _ _ => True
  task := fun _ _ _ => True
  env := fun _ _ => True

/-- A run can be checked for this, step by step. -/
instance (p : Pool W D T R) (r : Req) :
    Decidable ((Guard.any : Guard W D T R Ch Req Ev).req p r) :=
  inferInstanceAs (Decidable True)
instance (p : Pool W D T R) (ch : Ch) (d : D) :
    Decidable ((Guard.any : Guard W D T R Ch Req Ev).ask p ch d) :=
  inferInstanceAs (Decidable True)
instance (p : Pool W D T R) (ch : Ch) (t : T) :
    Decidable ((Guard.any : Guard W D T R Ch Req Ev).task p ch t) :=
  inferInstanceAs (Decidable True)
instance (p : Pool W D T R) (e : Ev) :
    Decidable ((Guard.any : Guard W D T R Ch Req Ev).env p e) :=
  inferInstanceAs (Decidable True)

/-- The steps of the pool, one constructor for each thing that can happen. -/
inductive System.Step (S : System W D T R Ch Req Ev) (G : Guard W D T R Ch Req Ev)
    (p : Pool W D T R) : Pool W D T R → Prop where
  | started (r : Req) (prog : Prog D T R) :
      G.req p r → S.enter p.world r = some prog →
      S.Step G p ⟨p.world, p.ops ++ [prog]⟩
  | asked (i : Nat) (ch : Ch) (d : D) (w' : W) (prog : Prog D T R) :
      p.ops[i]? = some (.ask d) → G.ask p ch d →
      S.decide ch p.world d = some (w', prog) →
      S.Step G p ⟨w', p.ops.set i prog⟩
  | settled (i : Nat) (h rest : Prog D T R) :
      p.ops[i]? = some (.par [] h rest) →
      S.Step G p ⟨p.world, p.ops.set i rest⟩
  | resolved (i k : Nat) (ch : Ch) (ts : List T) (t : T) (h rest : Prog D T R) (w' : W) :
      p.ops[i]? = some (.par ts h rest) → ts[k]? = some t → G.task p ch t →
      S.perform ch p.world t = some (w', .resolved) →
      S.Step G p ⟨w', p.ops.set i (.par (ts.eraseIdx k) h rest)⟩
  | wentOn (i k : Nat) (ch : Ch) (ts : List T) (t t' : T) (h rest : Prog D T R) (w' : W) :
      p.ops[i]? = some (.par ts h rest) → ts[k]? = some t → G.task p ch t →
      S.perform ch p.world t = some (w', .goOn t') →
      S.Step G p ⟨w', p.ops.set i (.par (ts.set k t') h rest)⟩
  | threw (i k : Nat) (ch : Ch) (ts : List T) (t : T) (h rest : Prog D T R) (w' : W) :
      p.ops[i]? = some (.par ts h rest) → ts[k]? = some t → G.task p ch t →
      S.perform ch p.world t = some (w', .threw) →
      S.Step G p ⟨w', p.ops.set i h ++
        [.par (ts.eraseIdx k) (.ret S.detached) (.ret S.detached)]⟩
  | moved (e : Ev) : G.env p e → S.Step G p ⟨S.env e p.world, p.ops⟩

/-- What one step of an operation does to the store and to the operation, and what it
    leaves behind. -/
inductive System.Advanced (S : System W D T R Ch Req Ev) (ch : Ch) (k : Nat) (w : W) :
    Prog D T R → W → Prog D T R → List (Prog D T R) → Prop where
  | asked (d : D) (w' : W) (prog : Prog D T R) :
      S.decide ch w d = some (w', prog) → S.Advanced ch k w (.ask d) w' prog []
  | settled (h rest : Prog D T R) : S.Advanced ch k w (.par [] h rest) w rest []
  | resolved (ts : List T) (t : T) (h rest : Prog D T R) (w' : W) :
      ts[k]? = some t → S.perform ch w t = some (w', .resolved) →
      S.Advanced ch k w (.par ts h rest) w' (.par (ts.eraseIdx k) h rest) []
  | wentOn (ts : List T) (t t' : T) (h rest : Prog D T R) (w' : W) :
      ts[k]? = some t → S.perform ch w t = some (w', .goOn t') →
      S.Advanced ch k w (.par ts h rest) w' (.par (ts.set k t') h rest) []
  | threw (ts : List T) (t : T) (h rest : Prog D T R) (w' : W) :
      ts[k]? = some t → S.perform ch w t = some (w', .threw) →
      S.Advanced ch k w (.par ts h rest) w' h
        [.par (ts.eraseIdx k) (.ret S.detached) (.ret S.detached)]

/-- The inversion of `advance`. -/
theorem advanced_of_advance {S : System W D T R Ch Req Ev} {ch : Ch} {k : Nat} {w w' : W}
    {prog prog' : Prog D T R} {left : List (Prog D T R)}
    (h : S.advance ch k w prog = some (w', prog', left)) :
    S.Advanced ch k w prog w' prog' left := by
  cases prog with
  | ret r => simp [System.advance] at h
  | ask d =>
      simp only [System.advance, Option.map_eq_some_iff, Prod.mk.injEq] at h
      obtain ⟨⟨w₁, prog₁⟩, hd, rfl, rfl, rfl⟩ := h
      exact .asked d _ _ hd
  | par ts hh rest =>
      cases ts with
      | nil =>
          simp only [System.advance, Option.some.injEq, Prod.mk.injEq] at h
          obtain ⟨rfl, rfl, rfl⟩ := h
          exact .settled hh rest
      | cons t ts =>
          simp only [System.advance] at h
          cases hk : (t :: ts)[k]? with
          | none => simp [hk] at h
          | some u =>
              simp only [hk] at h
              cases hp : S.perform ch w u with
              | none => simp [hp] at h
              | some y =>
                  obtain ⟨w₁, res⟩ := y
                  rw [hp] at h
                  cases res with
                  | resolved =>
                      cases h
                      exact .resolved _ u hh rest _ hk hp
                  | goOn u' =>
                      cases h
                      exact .wentOn _ u u' hh rest _ hk hp
                  | threw =>
                      cases h
                      exact .threw _ u _ rest _ hk hp

/-- The inversion of a move that steps an operation. -/
theorem advanced_of_next {S : System W D T R Ch Req Ev} {p q : Pool W D T R} {i k : Nat} {ch : Ch}
    (hn : S.next p (.step i k ch) = some q) :
    ∃ prog w' prog' left, p.ops[i]? = some prog ∧
      S.Advanced ch k p.world prog w' prog' left ∧ q = ⟨w', p.ops.set i prog' ++ left⟩ := by
  simp only [System.next] at hn
  cases hi : p.ops[i]? with
  | none => simp [hi] at hn
  | some prog =>
      simp only [hi, Option.map_eq_some_iff] at hn
      obtain ⟨⟨w', prog', left⟩, hadv, rfl⟩ := hn
      exact ⟨prog, w', prog', left, rfl, advanced_of_advance hadv, rfl⟩

/-- The inversion of `next`: an executed move is one of the steps. -/
theorem step_of_next {S : System W D T R Ch Req Ev} {G : Guard W D T R Ch Req Ev}
    {p q : Pool W D T R} {a : Action Ch Req Ev}
    (hok : G.ok p a) (hn : S.next p a = some q) : S.Step G p q := by
  cases a with
  | start r =>
      simp only [System.next, Option.map_eq_some_iff] at hn
      obtain ⟨prog, he, rfl⟩ := hn
      exact .started r prog hok he
  | env e =>
      simp only [System.next, Option.some.injEq] at hn
      subst hn
      exact .moved e hok
  | step i k ch =>
      obtain ⟨prog, w', prog', left, hi, hadv, rfl⟩ := advanced_of_next hn
      simp only [Guard.ok, hi] at hok
      cases hadv with
      | asked d _ _ hd => simpa using System.Step.asked i ch d w' prog' hi hok hd
      | settled h _ => simpa using System.Step.settled i h _ hi
      | resolved ts t h rest _ hk hp =>
          simp only [hk] at hok
          simpa using System.Step.resolved i k ch ts t h rest w' hi hk hok hp
      | wentOn ts t t' h rest _ hk hp =>
          simp only [hk] at hok
          simpa using System.Step.wentOn i k ch ts t t' h rest w' hi hk hok hp
      | threw ts t _ rest _ hk hp =>
          simp only [hk] at hok
          exact System.Step.threw i k ch ts t _ rest w' hi hk hok hp

/-! ## Runs -/

/-- Runs whose every move meets the condition `G`. -/
def System.Run (S : System W D T R Ch Req Ev) (G : Guard W D T R Ch Req Ev) :
    Pool W D T R → Pool W D T R → Prop :=
  Relation.ReflTransGen fun p q => ∃ a, G.ok p a ∧ S.next p a = some q

/-- No step at all. -/
theorem System.Run.refl {S : System W D T R Ch Req Ev} {G : Guard W D T R Ch Req Ev}
    (p : Pool W D T R) : S.Run G p p :=
  Relation.ReflTransGen.refl

/-- One more allowed move, at the front of a run. -/
theorem System.Run.head {S : System W D T R Ch Req Ev} {G : Guard W D T R Ch Req Ev}
    {p q r : Pool W D T R} (a : Action Ch Req Ev) (hok : G.ok p a)
    (hn : S.next p a = some q) (hr : S.Run G q r) : S.Run G p r :=
  Relation.ReflTransGen.head ⟨a, hok, hn⟩ hr

/-- What the start satisfies and every step preserves holds after every run. -/
theorem System.Run.inv {S : System W D T R Ch Req Ev} {G : Guard W D T R Ch Req Ev}
    {I : Pool W D T R → Prop} (hstep : ∀ p q, I p → S.Step G p q → I q)
    {p q : Pool W D T R} (hr : S.Run G p q) (hp : I p) : I q := by
  induction hr with
  | refl => exact hp
  | tail _ hlast ih =>
      obtain ⟨a, hok, hn⟩ := hlast
      exact hstep _ _ ih (step_of_next hok hn)

/-- A run from outside `P` into `P` contains the move that enters it. -/
theorem System.Run.exists_enters {S : System W D T R Ch Req Ev} {G : Guard W D T R Ch Req Ev}
    {P : Pool W D T R → Prop} {p q : Pool W D T R} (hr : S.Run G p q) (hp : ¬ P p) (hq : P q) :
    ∃ p' a q', S.Run G p p' ∧ ¬ P p' ∧ G.ok p' a ∧ S.next p' a = some q' ∧ P q' ∧
      S.Run G q' q := by
  induction hr with
  | refl => exact absurd hq hp
  | @tail p' q hrun hlast ih =>
      by_cases hP : P p'
      · obtain ⟨p₁, a, q₁, hrun₁, hn, hok, hnext, hq₁, hrest⟩ := ih hP
        exact ⟨p₁, a, q₁, hrun₁, hn, hok, hnext, hq₁, hrest.tail hlast⟩
      · obtain ⟨a, hok, hn⟩ := hlast
        exact ⟨p', a, q, hrun, hP, hok, hn, hq, System.Run.refl q⟩

/-- Every move that `G` allows, `G'` allows. -/
structure Guard.Implies (G G' : Guard W D T R Ch Req Ev) : Prop where
  req : ∀ p r, G.req p r → G'.req p r
  ask : ∀ p ch d, G.ask p ch d → G'.ask p ch d
  task : ∀ p ch t, G.task p ch t → G'.task p ch t
  env : ∀ p e, G.env p e → G'.env p e

/-- The stronger condition allows no more. -/
theorem Guard.Implies.ok {G G' : Guard W D T R Ch Req Ev} (h : G.Implies G') {p : Pool W D T R}
    {a : Action Ch Req Ev} (ha : G.ok p a) : G'.ok p a := by
  cases a with
  | start r => exact h.req p r ha
  | env e => exact h.env p e ha
  | step i k ch =>
      simp only [Guard.ok] at ha ⊢
      split
      · next d hd => exact h.ask p ch d (by simpa [hd] using ha)
      · next ts _ _ hd =>
        split
        · next t ht => exact h.task p ch t (by simpa [hd, ht] using ha)
        · trivial
      · trivial

/-- A step under a stronger condition is a step under a weaker one. -/
theorem System.Step.weaken {S : System W D T R Ch Req Ev} {G G' : Guard W D T R Ch Req Ev}
    (h : G.Implies G') {p q : Pool W D T R} (hs : S.Step G p q) : S.Step G' p q := by
  cases hs with
  | started r prog hg he => exact .started r prog (h.req p r hg) he
  | asked i ch d w' prog hi hg hd => exact .asked i ch d w' prog hi (h.ask p ch d hg) hd
  | settled i hh rest hi => exact .settled i hh rest hi
  | resolved i k ch ts t hh rest w' hi hk hg hp =>
      exact .resolved i k ch ts t hh rest w' hi hk (h.task p ch t hg) hp
  | wentOn i k ch ts t t' hh rest w' hi hk hg hp =>
      exact .wentOn i k ch ts t t' hh rest w' hi hk (h.task p ch t hg) hp
  | threw i k ch ts t hh rest w' hi hk hg hp =>
      exact .threw i k ch ts t hh rest w' hi hk (h.task p ch t hg) hp
  | moved e hg => exact .moved e (h.env p e hg)

/-- A run under a stronger condition is a run under a weaker one. -/
theorem System.Run.weaken {S : System W D T R Ch Req Ev} {G G' : Guard W D T R Ch Req Ev}
    (h : G.Implies G') {p q : Pool W D T R} (hr : S.Run G p q) : S.Run G' p q :=
  Relation.ReflTransGen.mono (fun _ _ ⟨a, hok, hn⟩ => ⟨a, h.ok hok, hn⟩) _ _ hr

/-! ### Executed runs -/

section Exec

variable (S : System W D T R Ch Req Ev) (G : Guard W D T R Ch Req Ev)
  [∀ p r, Decidable (G.req p r)] [∀ p ch d, Decidable (G.ask p ch d)]
  [∀ p ch t, Decidable (G.task p ch t)] [∀ p e, Decidable (G.env p e)]

/-- The condition, decided at a scheduler's move. -/
def Guard.decideOk (p : Pool W D T R) : Action Ch Req Ev → Bool
  | .start r => decide (G.req p r)
  | .step i k ch =>
      match p.ops[i]? with
      | some (.ask d) => decide (G.ask p ch d)
      | some (.par ts _ _) =>
          match ts[k]? with
          | some t => decide (G.task p ch t)
          | none => true
      | _ => true
  | .env e => decide (G.env p e)

/-- What the check lets through meets the condition. -/
theorem Guard.ok_of_decideOk {p : Pool W D T R} {a : Action Ch Req Ev}
    (h : G.decideOk p a = true) : G.ok p a := by
  cases a with
  | start r =>
      simp only [Guard.decideOk, decide_eq_true_eq] at h
      exact h
  | env e =>
      simp only [Guard.decideOk, decide_eq_true_eq] at h
      exact h
  | step i k ch =>
      simp only [Guard.decideOk] at h
      simp only [Guard.ok]
      split
      · next d hd => simpa [hd] using h
      · next ts _ _ hd =>
        split
        · next t ht => simpa [hd, ht] using h
        · trivial
      · trivial

/-- A scheduler's list of moves, executed as long as each is allowed. -/
def System.exec (p : Pool W D T R) : List (Action Ch Req Ev) → Option (Pool W D T R)
  | [] => some p
  | a :: as => if G.decideOk p a then (S.next p a).bind fun q => System.exec q as else none

variable {S G}

/-- Executed moves form a run. -/
theorem run_of_exec {as : List (Action Ch Req Ev)} :
    ∀ {p q : Pool W D T R}, S.exec G p as = some q → S.Run G p q := by
  induction as with
  | nil =>
      intro p q h
      simp only [System.exec, Option.some.injEq] at h
      subst h
      exact System.Run.refl p
  | cons a as ih =>
      intro p q h
      simp only [System.exec] at h
      split at h
      · next hok =>
        obtain ⟨p', hn, hrest⟩ := Option.bind_eq_some_iff.mp h
        exact System.Run.head a (G.ok_of_decideOk hok) hn (ih hrest)
      · cases h

/-- Moves that execute and end in a state with `P`. -/
theorem exists_run {p : Pool W D T R} (as : List (Action Ch Req Ev)) (P : Pool W D T R → Prop)
    [DecidablePred P] (h : (S.exec G p as).any (fun q => decide (P q)) = true) :
    ∃ q, S.Run G p q ∧ P q := by
  cases he : S.exec G p as with
  | none => simp [he] at h
  | some q => exact ⟨q, run_of_exec he, by simpa [he] using h⟩

end Exec

/-! ### Runs with a say in the schedule -/

/-- Runs whose every move meets `C`, which may tell the operations apart. -/
def System.RunIf (S : System W D T R Ch Req Ev) (C : Pool W D T R → Action Ch Req Ev → Prop) :
    Pool W D T R → Pool W D T R → Prop :=
  Relation.ReflTransGen fun p q => ∃ a, C p a ∧ S.next p a = some q

section RunIf

variable {S : System W D T R Ch Req Ev} {C : Pool W D T R → Action Ch Req Ev → Prop}

/-- What the start satisfies and every allowed move preserves holds after every run. -/
theorem System.RunIf.inv {I : Pool W D T R → Prop}
    (hstep : ∀ p a q, I p → C p a → S.next p a = some q → I q) {p q : Pool W D T R}
    (hr : S.RunIf C p q) (hp : I p) : I q := by
  induction hr with
  | refl => exact hp
  | tail _ hlast ih =>
      obtain ⟨a, hC, hn⟩ := hlast
      exact hstep _ a _ ih hC hn

variable (S C) in
/-- A scheduler's list of moves, executed as long as each is allowed. -/
def System.execIf [∀ p a, Decidable (C p a)] (p : Pool W D T R) :
    List (Action Ch Req Ev) → Option (Pool W D T R)
  | [] => some p
  | a :: as => if C p a then (S.next p a).bind fun q => System.execIf q as else none

/-- Executed moves form a run. -/
theorem runIf_of_execIf [∀ p a, Decidable (C p a)] {as : List (Action Ch Req Ev)} :
    ∀ {p q : Pool W D T R}, S.execIf C p as = some q → S.RunIf C p q := by
  induction as with
  | nil =>
      intro p q h
      cases h
      exact Relation.ReflTransGen.refl
  | cons a as ih =>
      intro p q h
      simp only [System.execIf] at h
      split at h
      · next hC =>
        obtain ⟨p', hn, hrest⟩ := Option.bind_eq_some_iff.mp h
        exact Relation.ReflTransGen.head ⟨a, hC, hn⟩ (ih hrest)
      · cases h

/-- Moves that execute and end in a state with `P`. -/
theorem exists_runIf [∀ p a, Decidable (C p a)] {p : Pool W D T R}
    (as : List (Action Ch Req Ev)) (P : Pool W D T R → Prop) [DecidablePred P]
    (h : (S.execIf C p as).any (fun q => decide (P q)) = true) : ∃ q, S.RunIf C p q ∧ P q := by
  cases he : S.execIf C p as with
  | none => simp [he] at h
  | some q => exact ⟨q, runIf_of_execIf he, by simpa [he] using h⟩

end RunIf

/-! ## Invariants of the store -/

/-- **The store rule.**  What every executed call and every move of the
    environment preserves, a step preserves. -/
theorem System.Step.world {S : System W D T R Ch Req Ev} {G : Guard W D T R Ch Req Ev}
    {I : W → Prop} {p q : Pool W D T R} (hs : S.Step G p q) (hp : I p.world)
    (hask : ∀ ch d w' prog, .ask d ∈ p.ops → G.ask p ch d →
      S.decide ch p.world d = some (w', prog) → I w')
    (htask : ∀ ch t w' res, (∃ ts h rest, .par ts h rest ∈ p.ops ∧ t ∈ ts) → G.task p ch t →
      S.perform ch p.world t = some (w', res) → I w')
    (henv : ∀ e, G.env p e → I (S.env e p.world)) : I q.world := by
  cases hs with
  | started r prog hg he => exact hp
  | asked i ch d w' prog hi hg hd => exact hask ch d w' prog (List.mem_of_getElem? hi) hg hd
  | settled i h rest hi => exact hp
  | resolved i k ch ts t h rest w' hi hk hg hperf =>
      exact htask ch t w' _ ⟨ts, h, rest, List.mem_of_getElem? hi, List.mem_of_getElem? hk⟩ hg hperf
  | wentOn i k ch ts t t' h rest w' hi hk hg hperf =>
      exact htask ch t w' _ ⟨ts, h, rest, List.mem_of_getElem? hi, List.mem_of_getElem? hk⟩ hg hperf
  | threw i k ch ts t h rest w' hi hk hg hperf =>
      exact htask ch t w' _ ⟨ts, h, rest, List.mem_of_getElem? hi, List.mem_of_getElem? hk⟩ hg hperf
  | moved e hg => exact henv e hg

/-- The task of a batch that a move executes. -/
def Pool.taskAt (p : Pool W D T R) : Action Ch Req Ev → Option T
  | .step i k _ =>
      match p.ops[i]? with
      | some (.par ts _ _) => ts[k]?
      | _ => none
  | _ => none

/-- The call that a move executes. -/
def Pool.askAt (p : Pool W D T R) : Action Ch Req Ev → Option D
  | .step i _ _ =>
      match p.ops[i]? with
      | some (.ask d) => some d
      | _ => none
  | _ => none

/-- The inversion of a move that executes a call. -/
theorem asked_of_next {S : System W D T R Ch Req Ev} {G : Guard W D T R Ch Req Ev}
    {p q : Pool W D T R} {a : Action Ch Req Ev} {d : D} (ha : p.askAt a = some d)
    (hok : G.ok p a) (hn : S.next p a = some q) :
    ∃ i ch w' prog, p.ops[i]? = some (.ask d) ∧ G.ask p ch d ∧
      S.decide ch p.world d = some (w', prog) ∧ q = ⟨w', p.ops.set i prog⟩ := by
  cases a with
  | start r => cases ha
  | env e => cases ha
  | step i k ch =>
      obtain ⟨prog, w', prog', left, hi, hadv, rfl⟩ := advanced_of_next hn
      simp only [Pool.askAt, hi] at ha
      cases hadv with
      | asked d' _ _ hd =>
          cases ha
          simp only [Guard.ok, hi] at hok
          exact ⟨i, ch, w', prog', hi, hok, hd, by rw [List.append_nil]⟩
      | _ => cases ha

/-- What one move did to the store, with the task it executed. -/
inductive System.Wrote (S : System W D T R Ch Req Ev) (G : Guard W D T R Ch Req Ev)
    (p : Pool W D T R) : Option T → W → Prop where
  | kept : S.Wrote G p none p.world
  | asked (ch : Ch) (d : D) (w' : W) (prog : Prog D T R) :
      .ask d ∈ p.ops → G.ask p ch d → S.decide ch p.world d = some (w', prog) →
      S.Wrote G p none w'
  | performed (ch : Ch) (t : T) (w' : W) (res : TaskResult T) :
      (∃ ts h rest, .par ts h rest ∈ p.ops ∧ t ∈ ts) → G.task p ch t →
      S.perform ch p.world t = some (w', res) → S.Wrote G p (some t) w'
  | moved (e : Ev) : G.env p e → S.Wrote G p none (S.env e p.world)

/-- Every executed move writes the store in one of these ways. -/
theorem wrote_of_next {S : System W D T R Ch Req Ev} {G : Guard W D T R Ch Req Ev}
    {p q : Pool W D T R} {a : Action Ch Req Ev} (hok : G.ok p a) (hn : S.next p a = some q) :
    S.Wrote G p (p.taskAt a) q.world := by
  cases a with
  | start r =>
      simp only [System.next, Option.map_eq_some_iff] at hn
      obtain ⟨prog, -, rfl⟩ := hn
      exact .kept
  | env e =>
      simp only [System.next, Option.some.injEq] at hn
      subst hn
      exact .moved e hok
  | step i k ch =>
      obtain ⟨prog, w', prog', left, hi, hadv, rfl⟩ := advanced_of_next hn
      simp only [Guard.ok, hi] at hok
      simp only [Pool.taskAt, hi]
      have hmem := List.mem_of_getElem? hi
      cases hadv with
      | asked d _ _ hd => exact .asked ch d _ _ hmem hok hd
      | settled h _ => exact .kept
      | resolved ts t h rest _ hk hp =>
          simp only [hk] at hok ⊢
          exact .performed ch t _ _ ⟨ts, h, rest, hmem, List.mem_of_getElem? hk⟩ hok hp
      | wentOn ts t t' h rest _ hk hp =>
          simp only [hk] at hok ⊢
          exact .performed ch t _ _ ⟨ts, h, rest, hmem, List.mem_of_getElem? hk⟩ hok hp
      | threw ts t _ rest _ hk hp =>
          simp only [hk] at hok ⊢
          exact .performed ch t _ _ ⟨ts, _, rest, hmem, List.mem_of_getElem? hk⟩ hok hp

/-! ## Assertions on the calls in flight -/

/-- `jd` holds of every ask and `jt` of every task the program may still make,
    its handlers included. -/
def Prog.All (jd : D → Prop) (jt : T → Prop) : Prog D T R → Prop
  | .ret _ => True
  | .ask d => jd d
  | .par ts h rest => (∀ t ∈ ts, jt t) ∧ h.All jd jt ∧ rest.All jd jt

@[simp] theorem Prog.All_ret (jd : D → Prop) (jt : T → Prop) (r : R) :
    (Prog.ret r : Prog D T R).All jd jt ↔ True := Iff.rfl
@[simp] theorem Prog.All_ask (jd : D → Prop) (jt : T → Prop) (d : D) :
    (Prog.ask d : Prog D T R).All jd jt ↔ jd d := Iff.rfl
@[simp] theorem Prog.All_par (jd : D → Prop) (jt : T → Prop) (ts : List T)
    (h rest : Prog D T R) :
    (Prog.par ts h rest).All jd jt ↔
      (∀ t ∈ ts, jt t) ∧ h.All jd jt ∧ rest.All jd jt := Iff.rfl

/-- What holds of every call still to come, weakened. -/
theorem Prog.All.mono {jd jd' : D → Prop} {jt jt' : T → Prop}
    (hd : ∀ d, jd d → jd' d) (ht : ∀ t, jt t → jt' t) :
    ∀ {prog : Prog D T R}, prog.All jd jt → prog.All jd' jt' := by
  intro prog
  induction prog with
  | ret r => intro _; trivial
  | ask d => intro h; exact hd d h
  | par ts h rest ihh ihr =>
      rintro ⟨h1, h2, h3⟩
      exact ⟨fun t ht' => ht t (h1 t ht'), ihh h2, ihr h3⟩

/-- Two assertions met are their conjunction met. -/
theorem Prog.All.and {jd jd' : D → Prop} {jt jt' : T → Prop} :
    ∀ {prog : Prog D T R}, prog.All jd jt → prog.All jd' jt' →
      prog.All (fun d => jd d ∧ jd' d) (fun t => jt t ∧ jt' t) := by
  intro prog
  induction prog with
  | ret r => exact fun _ _ => trivial
  | ask d => exact fun h h' => ⟨h, h'⟩
  | par ts h rest ihh ihr =>
      rintro ⟨h1, h2, h3⟩ ⟨h1', h2', h3'⟩
      exact ⟨fun t ht => ⟨h1 t ht, h1' t ht⟩, ihh h2 h2', ihr h3 h3'⟩

/-- Replacing one operation by another keeps what every operation satisfies. -/
theorem all_of_set {α : Type} {P : α → Prop} {l : List α} {i : Nat} {a : α}
    (hl : ∀ b ∈ l, P b) (ha : P a) : ∀ b ∈ l.set i a, P b := by
  intro b hb
  rcases List.mem_or_eq_of_mem_set hb with h | h
  · exact hl b h
  · exact h ▸ ha

/-- A step of operation `i` keeps what all operations but `i₀` satisfy. -/
theorem others_of_set {α : Type} {P : α → Prop} {l left : List α} {i i₀ : Nat} {a : α}
    (hl : ∀ (j : Nat) (b : α), l[j]? = some b → j ≠ i₀ → P b) (ha : i ≠ i₀ → P a)
    (hleft : ∀ b ∈ left, P b) :
    ∀ (j : Nat) (b : α), (l.set i a ++ left)[j]? = some b → j ≠ i₀ → P b := by
  intro j b hj hne
  rw [List.getElem?_append] at hj
  split at hj
  · next hlt =>
    by_cases hij : i = j
    · subst hij
      rw [List.length_set] at hlt
      rw [List.getElem?_set_self hlt] at hj
      cases hj
      exact ha hne
    · rw [List.getElem?_set_ne hij] at hj
      exact hl j b hj hne
  · exact hleft b (List.mem_of_getElem? hj)

/-- Taking entry `k` away leaves every other entry. -/
theorem mem_eraseIdx_or {α : Type} {l : List α} {k : Nat} {a b : α} (hk : l[k]? = some b)
    (ha : a ∈ l) : a ∈ l.eraseIdx k ∨ a = b := by
  obtain ⟨j, hj⟩ := List.getElem?_of_mem ha
  by_cases hjk : j = k
  · subst hjk
    rw [hj] at hk
    exact .inr (Option.some.inj hk)
  · exact .inl (List.mem_eraseIdx_iff_getElem?.mpr ⟨j, hjk, hj⟩)

/-- An entry replaced in a list is new, or one of the others. -/
theorem mem_set_or {α : Type} {l : List α} {i : Nat} {a b : α} (ha : a ∈ l.set i b) :
    a ∈ l.eraseIdx i ∨ a = b := by
  by_cases hlt : i < l.length
  · rcases mem_eraseIdx_or (List.getElem?_set_self hlt) ha with h | h
    · rw [List.eraseIdx_set_eq] at h
      exact .inl h
    · exact .inr h
  · rw [List.set_eq_of_length_le (by omega)] at ha
    rw [List.eraseIdx_of_length_le (by omega)]
    exact .inl ha

/-- What every call in flight satisfies stays so if it holds of a new request, of what an
    executed call goes on to and, after it, of the calls of the other operations. -/
theorem System.Step.all_of_kept {S : System W D T R Ch Req Ev} {G : Guard W D T R Ch Req Ev}
    {J : W → D → Prop} {K : W → T → Prop} {p q : Pool W D T R} (hs : S.Step G p q)
    (hp : ∀ prog ∈ p.ops, prog.All (J p.world) (K p.world))
    (henter : ∀ r prog, G.req p r → S.enter p.world r = some prog →
      prog.All (J p.world) (K p.world))
    (hask : ∀ i ch d w' prog, p.ops[i]? = some (.ask d) → J p.world d → G.ask p ch d →
      S.decide ch p.world d = some (w', prog) →
      prog.All (J w') (K w') ∧ ∀ prog ∈ p.ops.eraseIdx i, prog.All (J w') (K w'))
    (htask : ∀ ch t w' res, K p.world t → G.task p ch t →
      S.perform ch p.world t = some (w', res) →
      (∀ t', res = .goOn t' → K w' t') ∧ ∀ prog ∈ p.ops, prog.All (J w') (K w'))
    (henv : ∀ e, G.env p e →
      ∀ prog ∈ p.ops, prog.All (J (S.env e p.world)) (K (S.env e p.world))) :
    ∀ prog ∈ q.ops, prog.All (J q.world) (K q.world) := by
  cases hs with
  | started r prog hg he =>
      intro x hx
      rcases List.mem_append.mp hx with h | h
      · exact hp x h
      · rw [List.mem_singleton.mp h]
        exact henter r prog hg he
  | asked i ch d w' prog hi hg hd =>
      have hmem : Prog.ask d ∈ p.ops := List.mem_of_getElem? hi
      obtain ⟨hnew, hothers⟩ := hask i ch d w' prog hi (hp _ hmem) hg hd
      intro x hx
      rcases mem_set_or hx with hx | rfl
      · exact hothers x hx
      · exact hnew
  | settled i h rest hi =>
      have hmem : Prog.par [] h rest ∈ p.ops := List.mem_of_getElem? hi
      exact all_of_set hp (hp _ hmem).2.2
  | resolved i k ch ts t h rest w' hi hk hg hperf =>
      have hmem : Prog.par ts h rest ∈ p.ops := List.mem_of_getElem? hi
      obtain ⟨-, hall⟩ := htask ch t w' _ ((hp _ hmem).1 t (List.mem_of_getElem? hk)) hg hperf
      have hpar := hall _ hmem
      exact all_of_set hall
        ⟨fun u hu => hpar.1 u (List.mem_of_mem_eraseIdx hu), hpar.2.1, hpar.2.2⟩
  | wentOn i k ch ts t t' h rest w' hi hk hg hperf =>
      have hmem : Prog.par ts h rest ∈ p.ops := List.mem_of_getElem? hi
      obtain ⟨hgo, hall⟩ := htask ch t w' _ ((hp _ hmem).1 t (List.mem_of_getElem? hk)) hg hperf
      have hpar := hall _ hmem
      exact all_of_set hall ⟨all_of_set hpar.1 (hgo t' rfl), hpar.2.1, hpar.2.2⟩
  | threw i k ch ts t h rest w' hi hk hg hperf =>
      have hmem : Prog.par ts h rest ∈ p.ops := List.mem_of_getElem? hi
      obtain ⟨-, hall⟩ := htask ch t w' _ ((hp _ hmem).1 t (List.mem_of_getElem? hk)) hg hperf
      have hpar := hall _ hmem
      intro x hx
      rcases List.mem_append.mp hx with hx | hx
      · exact all_of_set hall hpar.2.1 x hx
      · rw [List.mem_singleton.mp hx]
        exact ⟨fun u hu => hpar.1 u (List.mem_of_mem_eraseIdx hu), trivial, trivial⟩
  | moved e hg => exact henv e hg

/-- **The assertion rule.**  If every request starts with its assertions met,
    and every executed call leaves its own continuation's assertions met and
    everybody else's undisturbed, then they stay met. -/
theorem System.Step.all {S : System W D T R Ch Req Ev} {G : Guard W D T R Ch Req Ev}
    {J : W → D → Prop} {K : W → T → Prop} {p q : Pool W D T R} (hs : S.Step G p q)
    (hp : ∀ prog ∈ p.ops, prog.All (J p.world) (K p.world))
    (henter : ∀ r prog, G.req p r → S.enter p.world r = some prog →
      prog.All (J p.world) (K p.world))
    (hask : ∀ ch d w' prog, .ask d ∈ p.ops → J p.world d → G.ask p ch d →
      S.decide ch p.world d = some (w', prog) →
      prog.All (J w') (K w') ∧
        (∀ d', J p.world d' → J w' d') ∧ (∀ t', K p.world t' → K w' t'))
    (htask : ∀ ch t w' res, K p.world t → G.task p ch t →
      S.perform ch p.world t = some (w', res) →
      (∀ t', res = .goOn t' → K w' t') ∧
        (∀ d', J p.world d' → J w' d') ∧ (∀ t', K p.world t' → K w' t'))
    (henv : ∀ e, G.env p e →
      (∀ d', J p.world d' → J (S.env e p.world) d') ∧
        (∀ t', K p.world t' → K (S.env e p.world) t')) :
    ∀ prog ∈ q.ops, prog.All (J q.world) (K q.world) := by
  refine hs.all_of_kept hp henter ?_ ?_ ?_
  · intro i ch d w' prog hi hj hg hd
    obtain ⟨hnew, hjd, hjt⟩ := hask ch d w' prog (List.mem_of_getElem? hi) hj hg hd
    exact ⟨hnew, fun x hx => (hp x (List.mem_of_mem_eraseIdx hx)).mono hjd hjt⟩
  · intro ch t w' res hk hg hperf
    obtain ⟨hgo, hjd, hjt⟩ := htask ch t w' res hk hg hperf
    exact ⟨hgo, fun x hx => (hp x hx).mono hjd hjt⟩
  · intro e hg
    obtain ⟨hjd, hjt⟩ := henv e hg
    exact fun x hx => (hp x hx).mono hjd hjt

/-! ## The shape of the programs in flight -/

/-- **The shape rule.**  A property of programs that every executed call, every
    settled batch and every task done keeps, all operations keep. -/
theorem System.Step.each {S : System W D T R Ch Req Ev} {G : Guard W D T R Ch Req Ev}
    {P : Prog D T R → Prop} {p q : Pool W D T R} (hs : S.Step G p q)
    (hp : ∀ prog ∈ p.ops, P prog)
    (henter : ∀ r prog, G.req p r → S.enter p.world r = some prog → P prog)
    (hask : ∀ ch d w' prog, .ask d ∈ p.ops → G.ask p ch d →
      S.decide ch p.world d = some (w', prog) → P prog)
    (hsettle : ∀ h rest, P (.par [] h rest) → P rest)
    (herase : ∀ ts k h rest, P (.par ts h rest) → P (.par (ts.eraseIdx k) h rest))
    (hgo : ∀ ch ts k t t' w' h rest, P (.par ts h rest) → ts[k]? = some t →
      S.perform ch p.world t = some (w', .goOn t') → P (.par (ts.set k t') h rest))
    (hthrow : ∀ ts h rest, P (.par ts h rest) →
      P h ∧ P (.par ts (.ret S.detached) (.ret S.detached))) :
    ∀ prog ∈ q.ops, P prog := by
  cases hs with
  | started r prog hg he =>
      intro x hx
      rcases List.mem_append.mp hx with h | h
      · exact hp x h
      · rw [List.mem_singleton.mp h]
        exact henter r prog hg he
  | asked i ch d w' prog hi hg hd =>
      exact all_of_set hp (hask ch d w' prog (List.mem_of_getElem? hi) hg hd)
  | settled i h rest hi => exact all_of_set hp (hsettle h rest (hp _ (List.mem_of_getElem? hi)))
  | resolved i k ch ts t h rest w' hi hk hg hperf =>
      exact all_of_set hp (herase ts k h rest (hp _ (List.mem_of_getElem? hi)))
  | wentOn i k ch ts t t' h rest w' hi hk hg hperf =>
      exact all_of_set hp (hgo ch ts k t t' w' h rest (hp _ (List.mem_of_getElem? hi)) hk hperf)
  | threw i k ch ts t h rest w' hi hk hg hperf =>
      have hthrew := hthrow ts h rest (hp _ (List.mem_of_getElem? hi))
      intro x hx
      rcases List.mem_append.mp hx with hx | hx
      · exact all_of_set hp hthrew.1 x hx
      · rw [List.mem_singleton.mp hx]
        exact herase ts k _ _ hthrew.2
  | moved e hg => exact hp

/-- **The shape rule at one operation.**  A shape that is no batch and that the calls of
    operation `i` keep, the operation keeps. -/
theorem System.Step.shape_at {S : System W D T R Ch Req Ev} {G : Guard W D T R Ch Req Ev}
    {P : Prog D T R → Prop} {p q : Pool W D T R} (hs : S.Step G p q) {i : Nat}
    (hp : ∃ prog, p.ops[i]? = some prog ∧ P prog) (hpar : ∀ ts h rest, ¬ P (.par ts h rest))
    (hask : ∀ ch d w' prog, P (.ask d) → S.decide ch p.world d = some (w', prog) → P prog) :
    ∃ prog, q.ops[i]? = some prog ∧ P prog := by
  obtain ⟨prog, hi, hP⟩ := hp
  obtain ⟨hlt, -⟩ := List.getElem?_eq_some_iff.mp hi
  -- another operation's step leaves entry `i` where it is
  have hother : ∀ {j : Nat} {old new : Prog D T R}, p.ops[j]? = some old → ¬ P old →
      (p.ops.set j new)[i]? = some prog := by
    intro j old new hj hold
    have hij : j ≠ i := by
      rintro rfl
      rw [hi] at hj
      cases hj
      exact hold hP
    rw [List.getElem?_set_ne hij]
    exact hi
  cases hs with
  | started r new _ _ => exact ⟨prog, by rw [List.getElem?_append_left hlt]; exact hi, hP⟩
  | asked j ch d w' new hj _ hd =>
      by_cases hij : j = i
      · subst hij
        rw [hi] at hj
        cases hj
        exact ⟨new, List.getElem?_set_self hlt, hask ch d w' new hP hd⟩
      · exact ⟨prog, by rw [List.getElem?_set_ne hij]; exact hi, hP⟩
  | settled j h rest hj => exact ⟨prog, hother hj (hpar _ _ _), hP⟩
  | resolved j k ch ts t h rest w' hj _ _ _ => exact ⟨prog, hother hj (hpar _ _ _), hP⟩
  | wentOn j k ch ts t t' h rest w' hj _ _ _ => exact ⟨prog, hother hj (hpar _ _ _), hP⟩
  | threw j k ch ts t h rest w' hj _ _ _ =>
      refine ⟨prog, ?_, hP⟩
      have hset : (p.ops.set j h)[i]? = some prog := hother hj (hpar _ _ _)
      obtain ⟨hlt', -⟩ := List.getElem?_eq_some_iff.mp hset
      rw [List.getElem?_append_left hlt']
      exact hset
  | moved e _ => exact ⟨prog, hi, hP⟩

/-! ## One call in flight -/

/-- Another entry of the list survives a replacement. -/
theorem mem_set_of_ne {α : Type} {l : List α} {i : Nat} {a b : α} (ha : a ∈ l)
    (hb : l[i]? = some b) (hne : a ≠ b) (c : α) : a ∈ l.set i c := by
  obtain ⟨k, hk⟩ := List.getElem?_of_mem ha
  refine List.mem_of_getElem? (i := k) ?_
  rw [List.getElem?_set_ne, hk]
  rintro rfl
  rw [hk] at hb
  exact hne (Option.some.inj hb)

/-- What is put into a list is in it. -/
theorem mem_set_self {α : Type} {l : List α} {i : Nat} {b : α} (hb : l[i]? = some b) (c : α) :
    c ∈ l.set i c := by
  obtain ⟨hlt, -⟩ := List.getElem?_eq_some_iff.mp hb
  exact List.mem_set hlt c

/-- A call in flight stays until it is executed. -/
theorem System.Step.stays {S : System W D T R Ch Req Ev} {G : Guard W D T R Ch Req Ev}
    {p q : Pool W D T R} (hs : S.Step G p q) {d : D} (hd : .ask d ∈ p.ops) :
    .ask d ∈ q.ops ∨ ∃ i ch w' prog, p.ops[i]? = some (.ask d) ∧ G.ask p ch d ∧
      S.decide ch p.world d = some (w', prog) ∧ q = ⟨w', p.ops.set i prog⟩ := by
  cases hs with
  | started r prog _ _ => exact .inl (List.mem_append_left _ hd)
  | asked i ch d' w' prog hi hg hdec =>
      by_cases he : d = d'
      · subst he
        exact .inr ⟨i, ch, w', prog, hi, hg, hdec, rfl⟩
      · exact .inl (mem_set_of_ne hd hi (by simpa using he) _)
  | settled i h rest hi => exact .inl (mem_set_of_ne hd hi (by simp) _)
  | resolved i k ch ts t h rest w' hi _ _ _ => exact .inl (mem_set_of_ne hd hi (by simp) _)
  | wentOn i k ch ts t t' h rest w' hi _ _ _ => exact .inl (mem_set_of_ne hd hi (by simp) _)
  | threw i k ch ts t h rest w' hi _ _ _ =>
      exact .inl (List.mem_append_left _ (mem_set_of_ne hd hi (by simp) _))
  | moved e _ => exact .inl hd

/-- A task in flight stays until it is executed, behind a batch that was given up too. -/
theorem System.Step.task_stays {S : System W D T R Ch Req Ev} {G : Guard W D T R Ch Req Ev}
    {p q : Pool W D T R} (hs : S.Step G p q) {t : T}
    (ht : ∃ ts h rest, .par ts h rest ∈ p.ops ∧ t ∈ ts) :
    (∃ ts h rest, .par ts h rest ∈ q.ops ∧ t ∈ ts) ∨
      ∃ ch res, G.task p ch t ∧ S.perform ch p.world t = some (q.world, res) := by
  obtain ⟨ts, h, rest, hmem, htask⟩ := ht
  cases hs with
  | started r prog _ _ => exact .inl ⟨ts, h, rest, List.mem_append_left _ hmem, htask⟩
  | asked i ch d w' prog hi _ _ =>
      exact .inl ⟨ts, h, rest, mem_set_of_ne hmem hi (by simp) _, htask⟩
  | settled i h' rest' hi =>
      by_cases he : (.par ts h rest : Prog D T R) = .par [] h' rest'
      · cases he
        cases htask
      · exact .inl ⟨ts, h, rest, mem_set_of_ne hmem hi he _, htask⟩
  | resolved i k ch ts' t' h' rest' w' hi hk hg hperf =>
      by_cases he : (.par ts h rest : Prog D T R) = .par ts' h' rest'
      · cases he
        rcases mem_eraseIdx_or hk htask with hin | rfl
        · exact .inl ⟨_, h, rest, mem_set_self hi _, hin⟩
        · exact .inr ⟨ch, _, hg, hperf⟩
      · exact .inl ⟨ts, h, rest, mem_set_of_ne hmem hi he _, htask⟩
  | wentOn i k ch ts' t' t'' h' rest' w' hi hk hg hperf =>
      by_cases he : (.par ts h rest : Prog D T R) = .par ts' h' rest'
      · cases he
        by_cases htt : t = t'
        · subst htt
          exact .inr ⟨ch, _, hg, hperf⟩
        · exact .inl ⟨_, h, rest, mem_set_self hi _, mem_set_of_ne htask hk htt _⟩
      · exact .inl ⟨ts, h, rest, mem_set_of_ne hmem hi he _, htask⟩
  | threw i k ch ts' t' h' rest' w' hi hk hg hperf =>
      by_cases he : (.par ts h rest : Prog D T R) = .par ts' h' rest'
      · cases he
        rcases mem_eraseIdx_or hk htask with hin | rfl
        · exact .inl ⟨_, _, _, List.mem_append_right _ (List.mem_singleton_self _), hin⟩
        · exact .inr ⟨ch, _, hg, hperf⟩
      · exact .inl ⟨ts, h, rest, List.mem_append_left _ (mem_set_of_ne hmem hi he _), htask⟩
  | moved e _ => exact .inl ⟨ts, h, rest, hmem, htask⟩

/-- The condition `G`, and no call that satisfies `P` is executed. -/
def Guard.without (G : Guard W D T R Ch Req Ev) (P : D → Prop) : Guard W D T R Ch Req Ev where
  req := G.req
  ask := fun p ch d => G.ask p ch d ∧ ¬ P d
  task := G.task
  env := G.env

/-- A step executes a call that satisfies `P`, or it is a step without them. -/
theorem System.Step.singleOut {S : System W D T R Ch Req Ev} {G : Guard W D T R Ch Req Ev}
    {p q : Pool W D T R} (hs : S.Step G p q) (P : D → Prop) :
    S.Step (G.without P) p q ∨ ∃ i ch d w' prog, p.ops[i]? = some (.ask d) ∧ G.ask p ch d ∧
      S.decide ch p.world d = some (w', prog) ∧ P d ∧ q = ⟨w', p.ops.set i prog⟩ := by
  cases hs with
  | started r prog hg he => exact .inl (.started r prog hg he)
  | asked i ch d w' prog hi hg hd =>
      by_cases hP : P d
      · exact .inr ⟨i, ch, d, w', prog, hi, hg, hd, hP, rfl⟩
      · exact .inl (.asked i ch d w' prog hi ⟨hg, hP⟩ hd)
  | settled i h rest hi => exact .inl (.settled i h rest hi)
  | resolved i k ch ts t h rest w' hi hk hg hp =>
      exact .inl (.resolved i k ch ts t h rest w' hi hk hg hp)
  | wentOn i k ch ts t t' h rest w' hi hk hg hp =>
      exact .inl (.wentOn i k ch ts t t' h rest w' hi hk hg hp)
  | threw i k ch ts t h rest w' hi hk hg hp =>
      exact .inl (.threw i k ch ts t h rest w' hi hk hg hp)
  | moved e hg => exact .inl (.moved e hg)

/-! ## Between a read and a write -/

/-- The program may still make a call with `pd` or carry out a task with `pt`, in a
    handler too. -/
def Prog.may (pd : D → Bool) (pt : T → Bool) : Prog D T R → Bool
  | .ret _ => false
  | .ask d => pd d
  | .par ts h rest => ts.any pt || h.may pd pt || rest.may pd pt

/-- No operation in flight may still make a call with `pd` or carry out a task with `pt`. -/
def Pool.Nobody (p : Pool W D T R) (pd : D → Bool) (pt : T → Bool) : Prop :=
  ∀ prog ∈ p.ops, prog.may pd pt = false

/-- The programs in flight are looked through. -/
instance (p : Pool W D T R) (pd : D → Bool) (pt : T → Bool) : Decidable (p.Nobody pd pt) :=
  inferInstanceAs (Decidable (∀ prog ∈ p.ops, _ = _))

/-- Apart from the operation that makes the call `d`, none may. -/
def Pool.OnlyBy (p : Pool W D T R) (pd : D → Bool) (pt : T → Bool) (d : D) : Prop :=
  p.ops.countP (Prog.may pd pt) ≤ if pd d then 1 else 0

instance (p : Pool W D T R) (pd : D → Bool) (pt : T → Bool) (d : D) :
    Decidable (p.OnlyBy pd pt d) :=
  inferInstanceAs (Decidable (_ ≤ _))

/-- Where nobody is, nobody else is. -/
theorem Pool.Nobody.onlyBy {p : Pool W D T R} {pd : D → Bool} {pt : T → Bool}
    (h : p.Nobody pd pt) (d : D) : p.OnlyBy pd pt d := by
  have hzero : p.ops.countP (Prog.may pd pt) = 0 :=
    List.countP_eq_zero.mpr fun prog hmem => by rw [h prog hmem]; exact Bool.false_ne_true
  rw [Pool.OnlyBy, hzero]
  exact Nat.zero_le _

section Between

variable {pd : D → Bool} {pt : T → Bool}

/-- Where only the operation `i` may, the others may not. -/
theorem Pool.OnlyBy.others {p : Pool W D T R} {i : Nat} {d : D} (h : p.OnlyBy pd pt d)
    (hi : p.ops[i]? = some (.ask d)) : ∀ prog ∈ p.ops.eraseIdx i, prog.may pd pt = false := by
  obtain ⟨hlt, hget⟩ := List.getElem?_eq_some_iff.mp hi
  have hperm := (List.getElem_cons_eraseIdx_perm hlt).countP_eq (Prog.may pd pt)
  rw [hget, List.countP_cons] at hperm
  have hzero : (p.ops.eraseIdx i).countP (Prog.may pd pt) = 0 := by
    rw [Pool.OnlyBy, ← hperm] at h
    have hmay : (Prog.ask d : Prog D T R).may pd pt = pd d := rfl
    rw [hmay] at h
    omega
  intro prog hmem
  simpa using List.countP_eq_zero.mp hzero prog hmem

/-- Where nobody else may, a call of another operation does not. -/
theorem Prog.All.undisturbed {J J' : D → Prop} {K K' : T → Prop} {prog : Prog D T R}
    (h : prog.All J K)
    (hd : ∀ d, J d → J' d ∨ ∃ pd pt, pd d = true ∧ prog.may pd pt = false)
    (ht : ∀ t, K t → K' t ∨ ∃ pd pt, pt t = true ∧ prog.may pd pt = false) :
    prog.All J' K' := by
  induction prog with
  | ret r => trivial
  | ask d =>
      rcases hd d h with h' | ⟨pd, pt, hp, hmay⟩
      · exact h'
      · rw [Prog.may, hp] at hmay
        cases hmay
  | par ts hh rest ihh ihr =>
      obtain ⟨hts, hhh, hrest⟩ := h
      have hparts : ∀ {pd : D → Bool} {pt : T → Bool}, (Prog.par ts hh rest).may pd pt = false →
          ts.any pt = false ∧ hh.may pd pt = false ∧ rest.may pd pt = false := by
        intro pd pt hmay
        simpa [Prog.may, and_assoc] using hmay
      refine ⟨fun t hmem => ?_, ihh hhh ?_ ?_, ihr hrest ?_ ?_⟩
      · rcases ht t (hts t hmem) with h' | ⟨pd, pt, hp, hmay⟩
        · exact h'
        · have hno := List.any_eq_false.mp (hparts hmay).1 t hmem
          exact absurd hp hno
      · intro d hj
        exact (hd d hj).imp_right fun ⟨pd, pt, hp, hmay⟩ => ⟨pd, pt, hp, (hparts hmay).2.1⟩
      · intro t hk
        exact (ht t hk).imp_right fun ⟨pd, pt, hp, hmay⟩ => ⟨pd, pt, hp, (hparts hmay).2.1⟩
      · intro d hj
        exact (hd d hj).imp_right fun ⟨pd, pt, hp, hmay⟩ => ⟨pd, pt, hp, (hparts hmay).2.2⟩
      · intro t hk
        exact (ht t hk).imp_right fun ⟨pd, pt, hp, hmay⟩ => ⟨pd, pt, hp, (hparts hmay).2.2⟩

/-- A program that may not make a call makes none. -/
theorem Prog.all_of_not_may {prog : Prog D T R} (h : prog.may pd pt = false) :
    prog.All (fun d => pd d = false) fun t => pt t = false := by
  induction prog with
  | ret r => trivial
  | ask d => exact h
  | par ts hh rest ihh ihr =>
      simp only [Prog.may, Bool.or_eq_false_iff, List.any_eq_false, Bool.not_eq_true] at h
      exact ⟨h.1.1, ihh h.1.2, ihr h.2⟩

/-- **The exclusion rule.**  What an operation has read stays true up to its write if every
    executed call and task either leaves it true or is made while no other operation
    stands between such a read and its write. -/
theorem System.Step.exclusive {S : System W D T R Ch Req Ev} {G : Guard W D T R Ch Req Ev}
    {J : W → D → Prop} {K : W → T → Prop} {p q : Pool W D T R} (hs : S.Step G p q)
    (hp : ∀ prog ∈ p.ops, prog.All (J p.world) (K p.world))
    (henter : ∀ r prog, G.req p r → S.enter p.world r = some prog →
      prog.All (J p.world) (K p.world))
    (hask : ∀ ch d w' prog, .ask d ∈ p.ops → J p.world d → G.ask p ch d →
      S.decide ch p.world d = some (w', prog) →
      prog.All (J w') (K w') ∧
        (∀ d', J p.world d' → J w' d' ∨ ∃ pd pt, pd d' = true ∧ p.OnlyBy pd pt d) ∧
        ∀ t', K p.world t' → K w' t' ∨ ∃ pd pt, pt t' = true ∧ p.OnlyBy pd pt d)
    (htask : ∀ ch t w' res, K p.world t → G.task p ch t →
      S.perform ch p.world t = some (w', res) →
      (∀ t', res = .goOn t' → K w' t') ∧
        (∀ d', J p.world d' → J w' d' ∨ ∃ pd pt, pd d' = true ∧ p.Nobody pd pt) ∧
        ∀ t', K p.world t' → K w' t' ∨ ∃ pd pt, pt t' = true ∧ p.Nobody pd pt)
    (henv : ∀ e, G.env p e →
      (∀ d', J p.world d' → J (S.env e p.world) d') ∧
        (∀ t', K p.world t' → K (S.env e p.world) t')) :
    ∀ prog ∈ q.ops, prog.All (J q.world) (K q.world) := by
  refine hs.all_of_kept hp henter ?_ ?_ ?_
  · intro i ch d w' prog hi hj hg hd
    obtain ⟨hnew, hjd, hjt⟩ := hask ch d w' prog (List.mem_of_getElem? hi) hj hg hd
    refine ⟨hnew, fun x hx => (hp x (List.mem_of_mem_eraseIdx hx)).undisturbed ?_ ?_⟩
    · intro d' hd'
      exact (hjd d' hd').imp_right fun ⟨pd, pt, h, hno⟩ => ⟨pd, pt, h, hno.others hi x hx⟩
    · intro t' ht'
      exact (hjt t' ht').imp_right fun ⟨pd, pt, h, hno⟩ => ⟨pd, pt, h, hno.others hi x hx⟩
  · -- a task leaves what nobody stands between alone, in its own batch too
    intro ch t w' res hk hg hperf
    obtain ⟨hgo, hjd, hjt⟩ := htask ch t w' res hk hg hperf
    refine ⟨hgo, fun x hx => (hp x hx).undisturbed ?_ ?_⟩
    · intro d hd
      exact (hjd d hd).imp_right fun ⟨pd, pt, h, hno⟩ => ⟨pd, pt, h, hno x hx⟩
    · intro t' ht'
      exact (hjt t' ht').imp_right fun ⟨pd, pt, h, hno⟩ => ⟨pd, pt, h, hno x hx⟩
  · intro e hg
    obtain ⟨hjd, hjt⟩ := henv e hg
    exact fun x hx => (hp x hx).mono hjd hjt

end Between

/-! ## What a batch leaves behind -/

section Batches

variable {F : Type} (needs : D → F → Prop) (yields : T → F → Prop)

/-- Every call of the program finds the facts it needs: `known` already, or left
    behind by the tasks of the batches it waits for. -/
def Prog.Relies : (F → Prop) → Prog D T R → Prop
  | _, .ret _ => True
  | known, .ask d => ∀ f, needs d f → known f
  | known, .par ts h rest =>
      h.Relies known ∧ rest.Relies fun f => known f ∨ ∃ t ∈ ts, yields t f

variable {needs yields}

/-- Facts may be known earlier than a program relies on. -/
theorem Prog.Relies.mono {prog : Prog D T R} :
    ∀ {known known' : F → Prop}, (∀ f, known f → known' f) →
      prog.Relies needs yields known → prog.Relies needs yields known' := by
  induction prog with
  | ret r => exact fun _ _ => trivial
  | ask d => exact fun h hd f hf => h f (hd f hf)
  | par ts h rest ihh ihr =>
      rintro known known' hk ⟨hh, hrest⟩
      exact ⟨ihh hk hh, ihr (fun f => Or.imp_left (hk f)) hrest⟩

/-- A program whose calls need only what is known. -/
theorem Prog.relies_of_all {prog : Prog D T R} :
    ∀ {known : F → Prop}, prog.All (fun d => ∀ f, needs d f → known f) (fun _ => True) →
      prog.Relies needs yields known := by
  induction prog with
  | ret r => exact fun _ => trivial
  | ask d => exact fun h => h
  | par ts h rest ihh ihr =>
      rintro known ⟨-, hh, hrest⟩
      exact ⟨ihh hh, ihr (hrest.mono (fun d hd f hf => .inl (hd f hf)) fun _ => id)⟩

/-- **The batch rule.**  Let facts never be lost, a task that has ended leave
    behind what it yields, and a task that goes on still yield it.  Then every
    call of every operation finds what it needs. -/
theorem System.Step.relies {S : System W D T R Ch Req Ev} {G : Guard W D T R Ch Req Ev}
    {holds : W → F → Prop} {p q : Pool W D T R} (hs : S.Step G p q)
    (hp : ∀ prog ∈ p.ops, prog.Relies needs yields (holds p.world))
    (hkeep : ∀ f, holds p.world f → holds q.world f)
    (henter : ∀ r prog, G.req p r → S.enter p.world r = some prog →
      prog.Relies needs yields (holds p.world))
    (hask : ∀ ch d w' prog, .ask d ∈ p.ops → (∀ f, needs d f → holds p.world f) → G.ask p ch d →
      S.decide ch p.world d = some (w', prog) → prog.Relies needs yields (holds w'))
    (hres : ∀ ch t w' f, yields t f → G.task p ch t →
      S.perform ch p.world t = some (w', .resolved) → holds w' f)
    (hgo : ∀ ch t t' w' f, yields t f → S.perform ch p.world t = some (w', .goOn t') →
      yields t' f) :
    ∀ prog ∈ q.ops, prog.Relies needs yields (holds q.world) := by
  have hold : ∀ prog ∈ p.ops, prog.Relies needs yields (holds q.world) :=
    fun prog hmem => (hp prog hmem).mono hkeep
  cases hs with
  | started r prog hg he =>
      intro x hx
      rcases List.mem_append.mp hx with h | h
      · exact hp x h
      · rw [List.mem_singleton.mp h]
        exact henter r prog hg he
  | asked i ch d w' prog hi hg hd =>
      have hmem : Prog.ask d ∈ p.ops := List.mem_of_getElem? hi
      exact all_of_set hold (hask ch d w' prog hmem (hp _ hmem) hg hd)
  | settled i h rest hi =>
      refine all_of_set hold ((hp _ (List.mem_of_getElem? hi)).2.mono ?_)
      rintro f (hf | ⟨t, ht, -⟩)
      · exact hf
      · cases ht
  | resolved i k ch ts t h rest w' hi hk hg hperf =>
      obtain ⟨hh, hrest⟩ := hold _ (List.mem_of_getElem? hi)
      refine all_of_set hold ⟨hh, hrest.mono ?_⟩
      rintro f (hf | ⟨u, hu, hy⟩)
      · exact .inl hf
      · -- the only task gone from the batch is the one that has ended
        rcases mem_eraseIdx_or hk hu with he | rfl
        · exact .inr ⟨u, he, hy⟩
        · exact .inl (hres ch u w' f hy hg hperf)
  | wentOn i k ch ts t t' h rest w' hi hk hg hperf =>
      obtain ⟨hh, hrest⟩ := hold _ (List.mem_of_getElem? hi)
      refine all_of_set hold ⟨hh, hrest.mono ?_⟩
      rintro f (hf | ⟨u, hu, hy⟩)
      · exact .inl hf
      · by_cases hut : u = t
        · exact .inr ⟨t', mem_set_self hk t', hgo ch t t' w' f (hut ▸ hy) hperf⟩
        · exact .inr ⟨u, mem_set_of_ne hu hk hut t', hy⟩
  | threw i k ch ts t h rest w' hi hk hg hperf =>
      obtain ⟨hh, -⟩ := hold _ (List.mem_of_getElem? hi)
      intro x hx
      rcases List.mem_append.mp hx with hx | hx
      · exact all_of_set hold hh x hx
      · rw [List.mem_singleton.mp hx]
        exact ⟨trivial, trivial⟩
  | moved e hg => exact hold

end Batches

/-! ## Quantities split between the store and the calls in flight -/

section Totals

variable {A : Type} [AddCommGroup A] (fd : D → A) (ft : T → A)

/-- What the calls of a program are still to add, its handlers left out. -/
def Prog.total : Prog D T R → A
  | .ret _ => 0
  | .ask d => fd d
  | .par ts _ rest => (ts.map ft).sum + rest.total

@[simp] theorem Prog.total_ret (r : R) : (Prog.ret r : Prog D T R).total fd ft = 0 := rfl
@[simp] theorem Prog.total_ask (d : D) : (Prog.ask d : Prog D T R).total fd ft = fd d := rfl
@[simp] theorem Prog.total_par (ts : List T) (h rest : Prog D T R) :
    (Prog.par ts h rest).total fd ft = (ts.map ft).sum + rest.total fd ft := rfl

/-- What all operations in flight are still to add. -/
def Pool.total (p : Pool W D T R) : A := (p.ops.map (Prog.total fd ft)).sum

variable {fd ft}

/-- A sum with one summand replaced. -/
theorem sum_map_set {α : Type} (g : α → A) {l : List α} {i : Nat} {a : α}
    (hi : l[i]? = some a) (b : α) :
    ((l.set i b).map g).sum = (l.map g).sum + (g b - g a) := by
  induction l generalizing i with
  | nil => simp at hi
  | cons x xs ih =>
      cases i with
      | zero =>
          simp only [List.getElem?_cons_zero, Option.some.injEq] at hi
          subst hi
          simp only [List.set_cons_zero, List.map_cons, List.sum_cons]
          abel
      | succ i =>
          simp only [List.getElem?_cons_succ] at hi
          simp only [List.set_cons_succ, List.map_cons, List.sum_cons, ih hi]
          abel

/-- A sum with one summand less. -/
theorem sum_map_eraseIdx {α : Type} (g : α → A) {l : List α} {i : Nat} {a : α}
    (hi : l[i]? = some a) : ((l.eraseIdx i).map g).sum = (l.map g).sum - g a := by
  induction l generalizing i with
  | nil => simp at hi
  | cons x xs ih =>
      cases i with
      | zero =>
          simp only [List.getElem?_cons_zero, Option.some.injEq] at hi
          subst hi
          simp
      | succ i =>
          simp only [List.getElem?_cons_succ] at hi
          simp only [List.eraseIdx_cons_succ, List.map_cons, List.sum_cons, ih hi]
          abel

/-- One operation replaced: the total moves by the difference. -/
theorem Pool.total_set {p : Pool W D T R} {i : Nat} {prog : Prog D T R}
    (hi : p.ops[i]? = some prog) (w' : W) (prog' : Prog D T R) :
    (⟨w', p.ops.set i prog'⟩ : Pool W D T R).total fd ft
      = p.total fd ft + (prog'.total fd ft - prog.total fd ft) :=
  sum_map_set _ hi prog'

/-- **The balance rule.**  Let `rel` be a reflexive relation stable under
    adding.  If every executed call moves the sum of the store's part `f` and
    its own part by `rel`, then a step moves the balance of the whole pool by
    `rel`: instances are equality (conservation) and `≤` (a bound). -/
theorem System.Step.balance {S : System W D T R Ch Req Ev} {G : Guard W D T R Ch Req Ev}
    {p q : Pool W D T R} (hs : S.Step G p q)
    (rel : A → A → Prop) (hrefl : ∀ a, rel a a)
    (hadd : ∀ a b c, rel a b → rel (a + c) (b + c)) (f : W → A)
    (henter : ∀ r prog, G.req p r → S.enter p.world r = some prog →
      rel (prog.total fd ft) 0)
    (hask : ∀ ch d w' prog, .ask d ∈ p.ops → G.ask p ch d →
      S.decide ch p.world d = some (w', prog) →
      rel (f w' + prog.total fd ft) (f p.world + fd d))
    (hres : ∀ ch t w', (∃ ts h rest, .par ts h rest ∈ p.ops ∧ t ∈ ts) → G.task p ch t →
      S.perform ch p.world t = some (w', .resolved) → rel (f w') (f p.world + ft t))
    (hgo : ∀ ch t t' w', (∃ ts h rest, .par ts h rest ∈ p.ops ∧ t ∈ ts) → G.task p ch t →
      S.perform ch p.world t = some (w', .goOn t') →
      rel (f w' + ft t') (f p.world + ft t))
    (hthrow : ∀ ch t w' ts h rest, .par ts h rest ∈ p.ops → t ∈ ts → G.task p ch t →
      S.perform ch p.world t = some (w', .threw) →
      rel (f w' + h.total fd ft) (f p.world + ft t + rest.total fd ft))
    (henv : ∀ e, G.env p e → rel (f (S.env e p.world)) (f p.world)) :
    rel (f q.world + q.total fd ft) (f p.world + p.total fd ft) := by
  cases hs with
  | started r prog hg he =>
      have h := hadd _ _ (f p.world + p.total fd ft) (henter r prog hg he)
      simp only [Pool.total, List.map_append, List.sum_append, List.map_cons, List.map_nil,
        List.sum_cons, List.sum_nil, add_zero, zero_add] at h ⊢
      convert h using 1
      abel
  | asked i ch d w' prog hi hg hd =>
      have h := hadd _ _ (p.total fd ft - fd d)
        (hask ch d w' prog (List.mem_of_getElem? hi) hg hd)
      simp only [Pool.total] at h ⊢
      rw [sum_map_set _ hi]
      simp only [Prog.total_ask]
      convert h using 1 <;> abel
  | settled i h rest hi =>
      simp only [Pool.total]
      rw [sum_map_set _ hi]
      simp only [Prog.total_par, List.map_nil, List.sum_nil, zero_add, sub_self, add_zero]
      exact hrefl _
  | resolved i k ch ts t h rest w' hi hk hg hperf =>
      have hr := hadd _ _ (p.total fd ft - ft t)
        (hres ch t w' ⟨ts, h, rest, List.mem_of_getElem? hi, List.mem_of_getElem? hk⟩ hg hperf)
      simp only [Pool.total] at hr ⊢
      rw [sum_map_set _ hi]
      simp only [Prog.total_par, sum_map_eraseIdx _ hk]
      convert hr using 1 <;> abel
  | wentOn i k ch ts t t' h rest w' hi hk hg hperf =>
      have hr := hadd _ _ (p.total fd ft - ft t)
        (hgo ch t t' w' ⟨ts, h, rest, List.mem_of_getElem? hi, List.mem_of_getElem? hk⟩ hg hperf)
      simp only [Pool.total] at hr ⊢
      rw [sum_map_set _ hi]
      simp only [Prog.total_par, sum_map_set _ hk]
      convert hr using 1 <;> abel
  | threw i k ch ts t h rest w' hi hk hg hperf =>
      have hr := hadd _ _ (p.total fd ft - ft t - rest.total fd ft)
        (hthrow ch t w' ts h rest (List.mem_of_getElem? hi) (List.mem_of_getElem? hk) hg hperf)
      simp only [Pool.total] at hr ⊢
      rw [List.map_append, List.sum_append, sum_map_set _ hi]
      simp only [Prog.total_par, List.map_cons, List.map_nil, List.sum_cons, List.sum_nil,
        sum_map_eraseIdx _ hk, Prog.total_ret]
      convert hr using 1 <;> abel
  | moved e hg =>
      exact hadd _ _ _ (henv e hg)

/-! ### Batches that may be given up -/

variable (fd ft) (calm : T → Prop) (P : A → Prop)

/-- Every handler has nothing in flight, and what stands behind a batch with a
    calm task, which would be dropped if that task threw, satisfies `P`. -/
def Prog.Sheltered : Prog D T R → Prop
  | .ret _ => True
  | .ask _ => True
  | .par ts h rest =>
      h.total fd ft = 0 ∧ ((∃ t ∈ ts, calm t) → P (rest.total fd ft)) ∧
        h.Sheltered ∧ rest.Sheltered

variable {fd ft calm P}

/-- A batch whose handler answers at once. -/
theorem Prog.Sheltered.par {ts : List T} {r : R} {rest : Prog D T R}
    (h : (∃ t ∈ ts, calm t) → P (rest.total fd ft)) (hrest : rest.Sheltered fd ft calm P) :
    (Prog.par ts (.ret r) rest).Sheltered fd ft calm P :=
  ⟨rfl, h, trivial, hrest⟩

/-- Shelter is kept by every step if executed calls go on sheltered and only
    calm tasks go on. -/
theorem System.Step.sheltered {S : System W D T R Ch Req Ev} {G : Guard W D T R Ch Req Ev}
    {p q : Pool W D T R} (hs : S.Step G p q)
    (hp : ∀ prog ∈ p.ops, prog.Sheltered fd ft calm P) (hzero : P 0)
    (henter : ∀ r prog, G.req p r → S.enter p.world r = some prog →
      prog.Sheltered fd ft calm P)
    (hask : ∀ ch d w' prog, .ask d ∈ p.ops → G.ask p ch d →
      S.decide ch p.world d = some (w', prog) → prog.Sheltered fd ft calm P)
    (hgo : ∀ ch t t' w', S.perform ch p.world t = some (w', .goOn t') → calm t) :
    ∀ prog ∈ q.ops, prog.Sheltered fd ft calm P := by
  refine hs.each hp henter hask ?_ ?_ ?_ ?_
  · exact fun h rest hpar => hpar.2.2.2
  · intro ts k h rest hpar
    exact ⟨hpar.1, fun ⟨t, ht, hc⟩ => hpar.2.1 ⟨t, List.mem_of_mem_eraseIdx ht, hc⟩, hpar.2.2⟩
  · intro ch ts k t t' w' h rest hpar hk hperf
    exact ⟨hpar.1, fun _ => hpar.2.1 ⟨t, List.mem_of_getElem? hk, hgo ch t t' w' hperf⟩, hpar.2.2⟩
  · intro ts h rest hpar
    exact ⟨hpar.2.2.1, rfl, fun _ => hzero, trivial, trivial⟩

end Totals

/-- Every operation has ended. -/
def Pool.Quiet (p : Pool W D T R) : Prop := ∀ prog ∈ p.ops, ∃ r, prog = .ret r

/-- A program has ended or has not. -/
instance (prog : Prog D T R) : Decidable (∃ r, prog = .ret r) :=
  match prog with
  | .ret r => isTrue ⟨r, rfl⟩
  | .ask _ => isFalse (by simp)
  | .par _ _ _ => isFalse (by simp)

/-- All of them have ended or not. -/
instance (p : Pool W D T R) : Decidable p.Quiet :=
  inferInstanceAs (Decidable (∀ prog ∈ p.ops, ∃ r, prog = .ret r))

/-- Nothing is in flight in a quiet pool. -/
theorem Pool.Quiet.total {A : Type} [AddCommGroup A] {fd : D → A} {ft : T → A}
    {p : Pool W D T R} (h : p.Quiet) : p.total fd ft = 0 := by
  refine List.sum_eq_zero ?_
  intro a ha
  obtain ⟨prog, hm, rfl⟩ := List.mem_map.mp ha
  obtain ⟨r, rfl⟩ := h prog hm
  rfl

end Interleave
