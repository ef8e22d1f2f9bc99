import TicketBox.Alone
import TicketBox.ConcertCache
import TicketBox.Sequential

/-! # Reads after an update

    An update deletes two keys once its row is written.  `Good` says that whatever
    is cached was read after every write whose deletion has been carried out; it
    lasts under `Coherent`, the condition that no read older than such a deletion
    fills its key, and that no list of another query is left behind by one.
    `reads_after_write` is then about an operation that starts after an update or
    a deletion has ended. -/

namespace TicketConcertCache

open Interleave
open TicketStore (ConcertId)
open TicketConcerts

/-- The condition on the steps: Redis does not fail; what is cached was not read
    before a write whose deletion of that key has already been carried out; and where
    the list is deleted, no list of another query read before the write is cached. -/
def Coherent : Condition where
  req := fun _ _ => True
  ask := fun p ch d => (d.redis = true → ch.fails = false) ∧
    match d with
    | .listSet entry => p.world.clearedList ≤ entry.asOf
    | .detailSet entry => p.world.clearedDetail entry.key ≤ entry.asOf
    | .delList written => ∀ e ∈ p.world.lists, e.key ≠ none → written.asOf ≤ e.asOf
    | _ => True
  task := fun _ _ _ => True
  env := fun _ _ => True

/-! ## The store -/

/-- What is cached is not older than the deletions of its key. -/
structure Good (w : World) : Prop where
  lists : ∀ e ∈ w.lists, w.clearedList ≤ e.asOf
  details : ∀ e ∈ w.details, w.clearedDetail e.key ≤ e.asOf

/-- The history only goes on. -/
structure Grows (w w' : World) : Prop where
  clock : w.clock ≤ w'.clock
  list : w.clearedList ≤ w'.clearedList
  detail : ∀ c, w.clearedDetail c ≤ w'.clearedDetail c

/-- Nothing has happened. -/
theorem Grows.refl (w : World) : Grows w w := ⟨le_rfl, le_rfl, fun _ => le_rfl⟩

section

variable {K V : Type} [DecidableEq K] {k : K} {e x : Entry K V} {entries : List (Entry K V)}

/-- What the cache answers is an entry under the key. -/
theorem cacheGet_mem (h : cacheGet k entries = some e) : e ∈ entries ∧ e.key = k :=
  ⟨RowTable.lookup_mem h, RowTable.lookup_key h⟩

/-- An entry is one from before, or the one that was set. -/
theorem mem_cacheSet (h : x ∈ cacheSet e entries) : x ∈ entries ∨ x = e := by
  rcases List.mem_append.mp h with hold | hnew
  · exact .inl (List.mem_filter.mp hold).1
  · exact .inr (List.mem_singleton.mp hnew)

/-- A deletion adds no entry. -/
theorem mem_cacheDel (h : x ∈ cacheDel k entries) : x ∈ entries ∧ x.key ≠ k := by
  obtain ⟨hmem, hne⟩ := List.mem_filter.mp h
  exact ⟨hmem, by simpa using hne⟩

end

/-! ## Operations under way -/

/-- A write under way has committed, and its deletions are done as far as it has got. -/
def AskOk (w : World) : Ask → Prop
  | .delList written => written.asOf ≤ w.clock
  | .delDetail written => written.asOf ≤ w.clock ∧ written.asOf ≤ w.clearedList
  | _ => True

/-- A write that has ended is covered by the deletions carried out. -/
def AnswerOk (w : World) : Answer → Prop
  | .written written => written.asOf ≤ w.clock ∧ written.asOf ≤ w.clearedList ∧
      written.asOf ≤ w.clearedDetail written.concertId
  | _ => True

/-- What a call relies on survives the writes of others. -/
theorem AskOk.mono {w w' : World} (h : Grows w w') {d : Ask} (hd : AskOk w d) : AskOk w' d := by
  cases d with
  | delList written =>
      have hle : written.asOf ≤ w.clock := hd
      exact hle.trans h.clock
  | delDetail written => exact ⟨hd.1.trans h.clock, hd.2.trans h.list⟩
  | _ => trivial

/-- So does what an answer relies on. -/
theorem AnswerOk.mono {w w' : World} (h : Grows w w') {a : Answer} (ha : AnswerOk w a) :
    AnswerOk w' a := by
  cases a with
  | written written =>
      exact ⟨ha.1.trans h.clock, ha.2.1.trans h.list, ha.2.2.trans (h.detail _)⟩
  | _ => trivial

/-- What a statement leaves. -/
structure Proceeds (w w' : World) (prog : Op) : Prop where
  good : Good w'
  grows : Grows w w'
  prog : prog.Meets (AskOk w') (AnswerOk w')

/-- A call that writes nothing keeps everything. -/
theorem Good.stays {w : World} (h : Good w) {prog : Op}
    (hp : prog.Meets (AskOk w) (AnswerOk w)) : Proceeds w w prog :=
  ⟨h, Grows.refl w, hp⟩

/-- A write commits: the clock moves on, the cache is not touched yet. -/
theorem Good.commits {w w' : World} (h : Good w) (hlists : w'.lists = w.lists)
    (hdetails : w'.details = w.details) (hclock : w'.clock = w.clock + 1)
    (hlist : w'.clearedList = w.clearedList) (hdetail : w'.clearedDetail = w.clearedDetail)
    {written : Written} (hw : written.asOf = w.clock + 1) :
    Proceeds w w' (.ask (.delList written)) where
  good := by
    constructor
    · rw [hlists, hlist]
      exact h.lists
    · rw [hdetails, hdetail]
      exact h.details
  grows := ⟨by omega, by rw [hlist], fun c => by rw [hdetail]⟩
  prog := by
    show written.asOf ≤ w'.clock
    omega

/-- **A statement** under the condition. -/
theorem Good.carryOut {p : State} (h : Good p.world) {ch : Choice} {d : Ask}
    (hd : AskOk p.world d) (hg : Coherent.ask p ch d) {w' : World} {prog : Op}
    (hc : carryOut ch p.world d = (w', prog)) : Proceeds p.world w' prog := by
  cases d with
  | listGet q =>
      simp only [TicketConcertCache.carryOut] at hc
      split at hc <;> cases hc <;> exact h.stays trivial
  | listQueries q =>
      simp only [TicketConcertCache.carryOut] at hc
      split at hc <;> cases hc <;> exact h.stays trivial
  | listCount q asOf data =>
      cases hc
      exact h.stays trivial
  | listRows q asOf total =>
      cases hc
      exact h.stays trivial
  | listSet entry =>
      cases hc
      refine ⟨⟨?_, h.details⟩, ⟨le_rfl, le_rfl, fun _ => le_rfl⟩, trivial⟩
      intro e he
      rcases mem_cacheSet he with hold | rfl
      · exact h.lists e hold
      · exact hg.2
  | detailGet id =>
      simp only [TicketConcertCache.carryOut] at hc
      split at hc <;> cases hc <;> exact h.stays trivial
  | detailRead id =>
      simp only [TicketConcertCache.carryOut] at hc
      split at hc
      · cases hc
        exact h.stays trivial
      · split at hc <;> cases hc <;> exact h.stays trivial
  | detailSet entry =>
      cases hc
      refine ⟨⟨h.lists, ?_⟩, ⟨le_rfl, le_rfl, fun _ => le_rfl⟩, trivial⟩
      intro e he
      rcases mem_cacheSet he with hold | rfl
      · exact h.details e hold
      · exact hg.2
  | updateFind id dto u r =>
      simp only [TicketConcertCache.carryOut] at hc
      split at hc
      · cases hc
        exact h.stays trivial
      · cases hc
        refine h.stays ?_
        unfold afterFind
        split <;> trivial
  | updateSlug existing dto slug =>
      simp only [TicketConcertCache.carryOut] at hc
      split at hc <;> cases hc <;> exact h.stays trivial
  | updateWrite existing dto =>
      simp only [TicketConcertCache.carryOut] at hc
      split at hc
      · cases hc
        exact h.stays trivial
      · split at hc
        · cases hc
          exact h.stays trivial
        · cases hc
          refine h.commits ?_ ?_ ?_ ?_ ?_ ?_ <;> rfl
  | removeFind id =>
      simp only [TicketConcertCache.carryOut] at hc
      split at hc
      · cases hc
        exact h.stays trivial
      · split at hc <;> cases hc <;> exact h.stays trivial
  | removeDelete concert =>
      simp only [TicketConcertCache.carryOut] at hc
      split at hc
      · cases hc
        exact h.stays trivial
      · cases hc
        refine h.commits ?_ ?_ ?_ ?_ ?_ ?_ <;> rfl
  | delList written =>
      cases hc
      have hle : written.asOf ≤ p.world.clock := hd
      refine ⟨⟨?_, h.details⟩, ⟨le_rfl, le_max_left _ _, fun _ => le_rfl⟩, hle, le_max_right _ _⟩
      -- the list itself is gone, and the others are not older than the write
      intro e he
      obtain ⟨hmem, hkey⟩ := mem_cacheDel he
      exact max_le (h.lists e hmem) (hg.2 e hmem hkey)
  | delDetail written =>
      cases hc
      refine ⟨⟨h.lists, ?_⟩, ⟨le_rfl, le_rfl, ?_⟩, hd.1, hd.2, ?_⟩
      · intro e he
        obtain ⟨hmem, hkey⟩ := mem_cacheDel he
        simpa [Function.update_of_ne hkey] using h.details e hmem
      · intro c
        by_cases hk : c = written.concertId
        · subst hk
          simp
        · simp [Function.update_of_ne hk]
      · simp

/-- A statement, carried out or failed. -/
theorem Good.decide {p : State} (h : Good p.world) {ch : Choice} {d : Ask} (hd : AskOk p.world d)
    (hg : Coherent.ask p ch d) {w' : World} {prog : Op}
    (hc : concerts.decide ch p.world d = some (w', prog)) : Proceeds p.world w' prog := by
  have hc' : (if ch.fails then (p.world, if d.redis then redisFailed d
      else .ret (.refused .unavailable)) else TicketConcertCache.carryOut ch p.world d)
      = (w', prog) := Option.some.inj hc
  cases hf : ch.fails with
  | true =>
      have hdb : d.redis = false := by
        cases hr : d.redis with
        | false => rfl
        | true =>
            rw [hg.1 hr] at hf
            cases hf
      rw [if_pos hf, if_neg (by simp [hdb])] at hc'
      cases hc'
      exact h.stays trivial
  | false =>
      rw [if_neg (by simp [hf])] at hc'
      exact h.carryOut hd hg hc'

/-- So does what happens beside the requests. -/
theorem Good.happen {w : World} (h : Good w) (e : Event) :
    Good (e.happen w) ∧ Grows w (e.happen w) := by
  cases e with
  | expireList key =>
      exact ⟨⟨fun x hx => h.lists x (mem_cacheDel hx).1, h.details⟩,
        le_rfl, le_rfl, fun _ => le_rfl⟩
  | expireDetail id =>
      exact ⟨⟨h.lists, fun x hx => h.details x (mem_cacheDel hx).1⟩,
        le_rfl, le_rfl, fun _ => le_rfl⟩
  | others tts orders => exact ⟨⟨h.lists, h.details⟩, le_rfl, le_rfl, fun _ => le_rfl⟩
  | created concert => exact ⟨⟨h.lists, h.details⟩, le_rfl, le_rfl, fun _ => le_rfl⟩

/-! ## Runs -/

/-- What every reachable state keeps, of the world and of each operation in flight. -/
structure Inv (p : State) : Prop where
  good : Good p.world
  ops : ∀ prog ∈ p.ops, prog.Meets (AskOk p.world) (AnswerOk p.world)

/-- A request relies on nothing when it begins. -/
theorem enter_ok (w : World) (r : Request) : r.enter.Meets (AskOk w) (AnswerOk w) := by
  cases r <;> trivial

/-- **A step** under the condition keeps the invariant, and the history goes on. -/
theorem Inv.step {p q : State} (h : Inv p) (hs : concerts.Step Coherent p q) :
    Inv q ∧ Grows p.world q.world := by
  have hworld : Good q.world ∧ Grows p.world q.world := by
    refine hs.world (I := fun w => Good w ∧ Grows p.world w) ⟨h.good, Grows.refl _⟩ ?_ ?_ ?_
    · intro ch d w' prog hmem hg hd
      have hp := h.good.decide (h.ops _ hmem) hg hd
      exact ⟨hp.good, hp.grows⟩
    · intro ch t
      exact isEmptyElim t
    · intro e _
      exact h.good.happen e
  refine ⟨⟨hworld.1, ?_⟩, hworld.2⟩
  refine hs.meets h.ops ?_ ?_ ?_
  · intro r prog _ he
    cases he
    exact enter_ok _ r
  · intro ch d w' prog hmem hok hg hd
    have hp := h.good.decide hok hg hd
    exact ⟨hp.prog, fun _ hd' => hd'.mono hp.grows, fun _ ha => ha.mono hp.grows⟩
  · intro e _
    have hgrows := (h.good.happen e).2
    exact ⟨fun _ hd' => hd'.mono hgrows, fun _ ha => ha.mono hgrows⟩

/-- A start: nothing under way, and no write whose deletions have been carried out. -/
structure Opening (p : State) : Prop where
  ops : p.ops = []
  list : p.world.clearedList = 0
  detail : ∀ c, p.world.clearedDetail c = 0

/-- At the start everything holds. -/
theorem Opening.inv {p : State} (h : Opening p) : Inv p where
  good := by
    constructor
    · intro e _
      rw [h.list]
      exact Nat.zero_le _
    · intro e _
      rw [h.detail]
      exact Nat.zero_le _
  ops := by
    intro prog hprog
    rw [h.ops] at hprog
    cases hprog

/-! ## A read that starts later -/

/-- The request reads the concert: its detail, or a list. -/
def Request.Reads (c : ConcertId) : Request → Prop
  | .findAll _ => True
  | .findOne id => id = c
  | _ => False

/-- The clock of the rows in an answer. -/
def Answer.asOf : Answer → Option Nat
  | .listed asOf _ => some asOf
  | .found asOf _ => some asOf
  | _ => none

/-- A read of concert `c` that has met no row and no entry from before `k`. -/
def AskFresh (c : ConcertId) (k : Nat) : Ask → Prop
  | .listGet _ => True
  | .listQueries _ => True
  | .listCount _ asOf _ => k ≤ asOf
  | .listRows _ asOf _ => k ≤ asOf
  | .listSet entry => k ≤ entry.asOf
  | .detailGet id => id = c
  | .detailRead id => id = c
  | .detailSet entry => k ≤ entry.asOf
  | _ => False

/-- An answer shows the rows as they were after write `k` at the earliest. -/
def AnswerFresh (k : Nat) (a : Answer) : Prop := ∀ asOf, a.asOf = some asOf → k ≤ asOf

/-- An exception shows no rows. -/
theorem answerFresh_refused {k : Nat} (e : TicketStore.ApiError) : AnswerFresh k (.refused e) := by
  intro asOf h
  cases h

/-- A list that was read late enough is fresh. -/
theorem answerFresh_listed {k asOf : Nat} (h : k ≤ asOf) (result : ConcertListResponseDto) :
    AnswerFresh k (.listed asOf result) := by
  intro x hx
  cases hx
  exact h

/-- So is a concert. -/
theorem answerFresh_found {k asOf : Nat} (h : k ≤ asOf) (result : ConcertResponseDto) :
    AnswerFresh k (.found asOf result) := by
  intro x hx
  cases hx
  exact h

/-- A read that begins after the write shows it, or what is newer. -/
theorem enter_fresh {c : ConcertId} {k : Nat} {r : Request} (h : r.Reads c) :
    r.enter.Meets (AskFresh c k) (AnswerFresh k) := by
  cases r with
  | findAll q => trivial
  | findOne id => exact h
  | update id dto u r => exact h.elim
  | remove id => exact h.elim

/-- Every write up to `k` has left the cache, of the lists and of concert `c`. -/
structure Past (c : ConcertId) (k : Nat) (w : World) : Prop where
  clock : k ≤ w.clock
  list : k ≤ w.clearedList
  detail : k ≤ w.clearedDetail c

/-- What is past stays past. -/
theorem Past.mono {c : ConcertId} {k : Nat} {w w' : World} (h : Past c k w) (hg : Grows w w') :
    Past c k w' :=
  ⟨h.clock.trans hg.clock, h.list.trans hg.list, h.detail.trans (hg.detail c)⟩

/-- **The steps of a later read**: a hit is not older than the deletions, and the rows
    are not older than the clock. -/
theorem Good.fresh {w : World} (h : Good w) {c : ConcertId} {k : Nat} (hp : Past c k w)
    {ch : Choice} {d : Ask} (hd : AskFresh c k d) {w' : World} {prog : Op}
    (hc : concerts.decide ch w d = some (w', prog)) :
    prog.Meets (AskFresh c k) (AnswerFresh k) := by
  have hc' : (if ch.fails then (w, if d.redis then redisFailed d
      else .ret (.refused .unavailable)) else TicketConcertCache.carryOut ch w d)
      = (w', prog) := Option.some.inj hc
  -- a failing Redis call goes on to the database, a failing query ends the read
  cases hf : ch.fails with
  | true =>
      rw [if_pos hf] at hc'
      obtain ⟨-, rfl⟩ := Prod.mk.inj hc'
      cases d with
      | listGet q => trivial
      | listSet entry => exact answerFresh_listed hd _
      | detailGet id => exact hd
      | detailSet entry => exact answerFresh_found hd _
      | listQueries q => exact answerFresh_refused _
      | listCount q asOf data => exact answerFresh_refused _
      | listRows q asOf total => exact answerFresh_refused _
      | detailRead id => exact answerFresh_refused _
      | _ => exact hd.elim
  | false =>
      rw [if_neg (by simp [hf])] at hc'
      cases d with
      | listGet q =>
          simp only [TicketConcertCache.carryOut] at hc'
          split at hc'
          · next e he =>
            cases hc'
            exact answerFresh_listed (hp.list.trans (h.lists e (cacheGet_mem he).1)) _
          · cases hc'
            trivial
      | listQueries q =>
          simp only [TicketConcertCache.carryOut] at hc'
          split at hc' <;> cases hc' <;> exact hp.clock
      | listCount q asOf data =>
          cases hc'
          exact hd
      | listRows q asOf total =>
          cases hc'
          exact hd
      | listSet entry =>
          cases hc'
          exact answerFresh_listed hd _
      | detailGet id =>
          simp only [TicketConcertCache.carryOut] at hc'
          split at hc'
          · next e he =>
            cases hc'
            obtain ⟨hmem, hkey⟩ := cacheGet_mem he
            have hle := h.details e hmem
            rw [hkey, show id = c from hd] at hle
            exact answerFresh_found (hp.detail.trans hle) _
          · cases hc'
            exact hd
      | detailRead id =>
          simp only [TicketConcertCache.carryOut] at hc'
          split at hc'
          · cases hc'
            exact answerFresh_refused _
          · split at hc'
            · cases hc'
              exact answerFresh_refused _
            · cases hc'
              exact hp.clock
      | detailSet entry =>
          cases hc'
          exact answerFresh_found hd _
      | _ => exact hd.elim

/-- **No read returns what an update has replaced.**  In every run whose steps meet the
    condition: once an update or a deletion of a concert has ended, a `findAll` or a
    `findOne` of the concert that starts then answers from rows read after it. -/
theorem reads_after_write {p q r : State} (hp : Opening p) (hr : concerts.Run Coherent p q)
    {written : Written} (hw : .ret (.written written) ∈ q.ops) {req : Request}
    (hreq : req.Reads written.concertId)
    (hr' : concerts.Run Coherent ⟨q.world, q.ops ++ [req.enter]⟩ r) {a : Answer} {asOf : Nat}
    (ha : r.ops[q.ops.length]? = some (.ret a)) (hasOf : a.asOf = some asOf) :
    written.asOf ≤ asOf := by
  have hq : Inv q := hr.inv (fun _ _ h hs => (h.step hs).1) hp.inv
  have hpast : Past written.concertId written.asOf q.world := by
    obtain ⟨hclock, hlist, hdetail⟩ := hq.ops _ hw
    exact ⟨hclock, hlist, hdetail⟩
  have hstart : Inv ⟨q.world, q.ops ++ [req.enter]⟩ := by
    refine ⟨hq.good, fun prog hprog => ?_⟩
    rcases List.mem_append.mp hprog with hold | hnew
    · exact hq.ops prog hold
    · rw [List.mem_singleton.mp hnew]
      exact enter_ok _ req
  have hinv : Inv r ∧ Past written.concertId written.asOf r.world ∧
      ∃ prog, r.ops[q.ops.length]? = some prog ∧
        prog.Meets (AskFresh written.concertId written.asOf) (AnswerFresh written.asOf) := by
    refine hr'.inv (I := fun s => Inv s ∧ Past written.concertId written.asOf s.world ∧
      ∃ prog, s.ops[q.ops.length]? = some prog ∧
        prog.Meets (AskFresh written.concertId written.asOf) (AnswerFresh written.asOf)) ?_
      ⟨hstart, hpast, req.enter, by simp, enter_fresh hreq⟩
    rintro s s' ⟨hinv, hpast', hread⟩ hs
    obtain ⟨hinv', hgrows⟩ := hinv.step hs
    refine ⟨hinv', hpast'.mono hgrows, ?_⟩
    refine hs.meets_at (J := fun _ => AskFresh written.concertId written.asOf)
      (K := fun _ => AnswerFresh written.asOf) hread ?_ ⟨fun _ h => h, fun _ h => h⟩
    intro ch d w' prog hd hdec
    exact hinv.good.fresh hpast' hd hdec
  obtain ⟨-, -, prog, hprog, hfresh⟩ := hinv
  rw [ha] at hprog
  cases hprog
  exact hfresh asOf hasOf

/-! ### One concert, renamed -/

/-- Redis does not fail; nothing else is asked of the steps. -/
def RedisUp : Condition where
  req := fun _ _ => True
  ask := fun _ ch d => d.redis = true → ch.fails = false
  task := fun _ _ _ => True
  env := fun _ _ => True

/-- A run can be checked for this, step by step. -/
instance (p : State) (r : Request) : Decidable (RedisUp.req p r) :=
  inferInstanceAs (Decidable True)
instance (p : State) (ch : Choice) (d : Ask) : Decidable (RedisUp.ask p ch d) :=
  inferInstanceAs (Decidable (_ → _))
instance (p : State) (ch : Choice) (t : Empty) : Decidable (RedisUp.task p ch t) :=
  inferInstanceAs (Decidable True)
instance (p : State) (e : Event) : Decidable (RedisUp.env p e) :=
  inferInstanceAs (Decidable True)

/-- A run can be checked for this, step by step. -/
instance (p : State) (r : Request) : Decidable (Coherent.req p r) :=
  inferInstanceAs (Decidable True)
instance (p : State) (ch : Choice) : (d : Ask) → Decidable (Coherent.ask p ch d)
  | .listSet _ => inferInstanceAs (Decidable ((_ → _) ∧ _ ≤ _))
  | .detailSet _ => inferInstanceAs (Decidable ((_ → _) ∧ _ ≤ _))
  | .delList _ => inferInstanceAs (Decidable ((_ → _) ∧ ∀ _ ∈ _, _ → _))
  | .listGet _ => inferInstanceAs (Decidable ((_ → _) ∧ True))
  | .listQueries _ => inferInstanceAs (Decidable ((_ → _) ∧ True))
  | .listCount .. => inferInstanceAs (Decidable ((_ → _) ∧ True))
  | .listRows .. => inferInstanceAs (Decidable ((_ → _) ∧ True))
  | .detailGet _ => inferInstanceAs (Decidable ((_ → _) ∧ True))
  | .detailRead _ => inferInstanceAs (Decidable ((_ → _) ∧ True))
  | .updateFind .. => inferInstanceAs (Decidable ((_ → _) ∧ True))
  | .updateSlug .. => inferInstanceAs (Decidable ((_ → _) ∧ True))
  | .updateWrite .. => inferInstanceAs (Decidable ((_ → _) ∧ True))
  | .removeFind _ => inferInstanceAs (Decidable ((_ → _) ∧ True))
  | .removeDelete _ => inferInstanceAs (Decidable ((_ → _) ∧ True))
  | .delDetail _ => inferInstanceAs (Decidable ((_ → _) ∧ True))
instance (p : State) (ch : Choice) (t : Empty) : Decidable (Coherent.task p ch t) :=
  inferInstanceAs (Decidable True)
instance (p : State) (e : Event) : Decidable (Coherent.env p e) :=
  inferInstanceAs (Decidable True)

/-- A published concert of organizer 1. -/
def show7 : Concert where
  id := 7
  organizerId := 1
  status := .published
  title := "Old"
  slug := "show"
  description := none
  artistBio := none
  venue := "Arena"
  startsAt := 0
  saleStartsAt := none
  saleEndsAt := none
  seatMapUrl := none
  coverImageUrl := none
  reminderJobId := none
  createdAt := 0
  updatedAt := 0

/-- One published concert and empty caches. -/
def stage : State := ⟨⟨[show7], [], [], fun _ => none, [], [], 0, 0, fun _ => 0⟩, []⟩

/-- The stage is a start. -/
theorem stage_opening : Opening stage := ⟨rfl, rfl, fun _ => rfl⟩

/-- A step of the concert requests. -/
abbrev Move := Action Choice Request Event

/-- Operation `i` takes `n` steps. -/
def steps (i n : Nat) : List Move := List.replicate n (.step i 0 {})

/-- The renaming, as operation 1, to its end. -/
def rename : List Move :=
  .start (.update 7 { title := some "New" } 1 .organizer) :: steps 1 4

/-- What operation `i` answered: the clock of its rows, and their titles. -/
def answered (i : Nat) (p : State) : Option (Option Nat × List String) :=
  (p.ops[i]?.bind Prog.answer).map fun a => (a.asOf,
    match a with
    | .listed _ result => result.data.map fun c => c.title
    | .found _ result => [result.title]
    | _ => [])

/-- The write that operation 1 ended with. -/
def writtenBy (p : State) : Option Written :=
  match (p.ops[1]?.bind Prog.answer : Option Answer) with
  | some (.written written) => some written
  | _ => none

/-- The write has ended. -/
theorem mem_of_writtenBy {p : State} {written : Written} (h : writtenBy p = some written) :
    .ret (.written written) ∈ p.ops := by
  unfold writtenBy at h
  split at h
  · next heq =>
    cases h
    obtain ⟨prog, hprog, ha⟩ := Option.bind_eq_some_iff.mp heq
    rw [Prog.answer_eq ha] at hprog
    exact List.mem_of_getElem? hprog
  · cases h

/-- A later run of a read, as operation 2. -/
def laterRead (G : Condition) [∀ p r, Decidable (G.req p r)] [∀ p ch d, Decidable (G.ask p ch d)]
    [∀ p ch t, Decidable (G.task p ch t)] [∀ p e, Decidable (G.env p e)] (req : Request) (n : Nat)
    (q : State) : Option State :=
  concerts.exec G ⟨q.world, q.ops ++ [req.enter]⟩ (steps 2 n)

/-- The concert is read, renamed and read again: the answer is from after the update. -/
theorem reads_after_write_renamed :
    Opening stage ∧ ∃ q r written, concerts.Run Coherent stage q ∧
      .ret (.written written) ∈ q.ops ∧
      concerts.Run Coherent ⟨q.world, q.ops ++ [(Request.findOne 7).enter]⟩ r ∧
      ∃ a asOf, r.ops[q.ops.length]? = some (.ret a) ∧ a.asOf = some asOf ∧
        written.asOf ≤ asOf := by
  obtain ⟨q, hrun, hlen, hwrite, hread⟩ : ∃ q, concerts.Run Coherent stage q ∧
      q.ops.length = 2 ∧ (writtenBy q).map (fun written => written.concertId) = some 7 ∧
      ((laterRead Coherent (.findOne 7) 3 q).bind (answered 2)) = some (some 1, ["New"]) :=
    exists_run (.start (.findOne 7) :: steps 0 3 ++ rename) (fun q => q.ops.length = 2 ∧
      (writtenBy q).map (fun written => written.concertId) = some 7 ∧
      ((laterRead Coherent (.findOne 7) 3 q).bind (answered 2)) = some (some 1, ["New"]))
      (by decide +kernel)
  obtain ⟨written, hw, hc⟩ := Option.map_eq_some_iff.mp hwrite
  obtain ⟨r, hr, hanswer⟩ := Option.bind_eq_some_iff.mp hread
  obtain ⟨a, ha, hasOf⟩ := Option.map_eq_some_iff.mp hanswer
  obtain ⟨prog, hprog, hpa⟩ := Option.bind_eq_some_iff.mp ha
  rw [Prog.answer_eq hpa, ← hlen] at hprog
  have hmem := mem_of_writtenBy hw
  have hreq : (Request.findOne 7).Reads written.concertId := hc.symm
  have hrun' := run_of_exec hr
  have hasOf' : a.asOf = some 1 := (Prod.mk.inj hasOf).1
  exact ⟨stage_opening, q, r, written, hrun, hmem, hrun', a, 1, hprog, hasOf',
    reads_after_write stage_opening hrun hmem hreq hrun' hprog hasOf'⟩

/-- With Redis up all the time, a read that starts after the renaming has ended may
    answer with the old title: a list of ten concerts a page, whose key no update
    deletes; and a detail that was read before the update and stored after it. -/
theorem stale_list_and_detail :
    Opening stage ∧
    (∃ q, concerts.Run RedisUp stage q ∧
      (writtenBy q).map (fun written => (written.concertId, written.asOf)) = some (7, 1) ∧
      q.ops.length = 2 ∧
      (laterRead RedisUp (.findAll { limit := some 10 }) 1 q).bind (answered 2)
        = some (some 0, ["Old"])) ∧
    ∃ q, concerts.Run RedisUp stage q ∧
      (writtenBy q).map (fun written => (written.concertId, written.asOf)) = some (7, 1) ∧
      q.ops.length = 2 ∧
      (laterRead RedisUp (.findOne 7) 1 q).bind (answered 2) = some (some 0, ["Old"]) :=
  ⟨stage_opening,
    exists_run (.start (.findAll { limit := some 10 }) :: steps 0 4 ++ rename) _
      (by decide +kernel),
    exists_run (.start (.findOne 7) :: steps 0 2 ++ rename ++ steps 0 1) _ (by decide +kernel)⟩

end TicketConcertCache
