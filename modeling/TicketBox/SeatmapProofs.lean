import TicketBox.Seatmap

/-! # What subscribers of the seat map show

    A change of status is told in four statements: the refresh reads the row, then
    the cached status, deletes the entry and writes the new one; it announces the
    change if the status it read is another one.  Between the change and the write
    the announcement is `Due`: the entry is still `Outdated`, or a refresh that has
    read the old status is on its way.  `Announced` is the condition under which no
    change slips through, `Inv` the invariant, and `subscribers_up_to_date` what it
    says of every subscriber once no refresh of a type is under way. -/

namespace TicketSeatmap

open Interleave
open TicketStore (ConcertId TicketTypeId TicketType)

/-! ## Refreshes under way -/

/-- The statement belongs to a refresh of the ticket type. -/
def Ask.refreshes (t : TicketTypeId) : Ask → Bool
  | .refreshFind _ t' => t' = t
  | .refreshOld _ tt => tt.id = t
  | .refreshDel _ tt _ => tt.id = t
  | .refreshSet _ tt _ => tt.id = t
  | _ => false

/-- The operation is about to refresh the type. -/
def opRefreshes (t : TicketTypeId) : Op → Bool
  | .ask d => d.refreshes t
  | _ => false

/-- A refresh of the ticket type is under way. -/
def Refreshing (t : TicketTypeId) (p : State) : Prop := ∃ prog ∈ p.ops, opRefreshes t prog = true

/-- The operations in flight are looked through. -/
instance (t : TicketTypeId) (p : State) : Decidable (Refreshing t p) :=
  inferInstanceAs (Decidable (∃ prog ∈ p.ops, opRefreshes t prog = true))

/-- The entry of a ticket type has another status than its row. -/
def Outdated (w : World) (tt : TicketType) : Prop :=
  ∃ x ∈ w.cachedStatus tt.concertId tt.id, x ≠ statusOf tt

/-- The entry is compared with the row. -/
instance (w : World) (tt : TicketType) : Decidable (Outdated w tt) :=
  inferInstanceAs (Decidable (∃ x ∈ w.cachedStatus tt.concertId tt.id, x ≠ statusOf tt))

/-- The condition on the steps: a change of status finds its entry cached and no
    refresh of the type under way, a read fills the cache with the status of the row
    and over no outdated entry, and no outdated entry expires. -/
def Announced : Condition where
  req := fun _ _ => True
  ask := fun p _ d =>
    match d with
    | .change t q => ∀ tt ∈ p.world.findType t, statusOf (q.apply tt) ≠ statusOf tt →
        (p.world.cache (tt.concertId, t)).isSome = true ∧ ¬ Refreshing t p
    | .readSet _ tt _ => ∀ row ∈ p.world.findType tt.id,
        statusOf tt = statusOf row ∧ ¬ Outdated p.world row
    | _ => True
  task := fun _ _ _ => True
  env := fun p e => ∀ tt ∈ p.world.findType e.ticketTypeId,
    tt.concertId = e.concertId → ¬ Outdated p.world tt

/-! ## What a subscriber shows -/

/-- Updates look at their own zone only. -/
theorem foldl_congr_at {ps : List ZoneUpdatePayload} {v v' : View} {t : TicketTypeId}
    (h : v t = v' t) : ps.foldl View.apply v t = ps.foldl View.apply v' t := by
  induction ps generalizing v v' with
  | nil => exact h
  | cons p ps ih =>
      refine ih ?_
      by_cases hp : t = p.zoneId
      · subst hp
        simp [View.apply]
      · simp [View.apply, Function.update_of_ne hp, h]

/-- What is loaded shows through the broadcasts, or does not matter. -/
theorem foldl_apply_cases (ps : List ZoneUpdatePayload) (v v' : View) (t : TicketTypeId) :
    ps.foldl View.apply v' t = ps.foldl View.apply v t ∨ ps.foldl View.apply v' t = v' t := by
  induction ps generalizing v v' with
  | nil => exact .inr rfl
  | cons p ps ih =>
      by_cases hp : t = p.zoneId
      · have hat : View.apply v' p t = View.apply v p t := by
          subst hp
          simp [View.apply]
        left
        show ps.foldl View.apply (View.apply v' p) t = ps.foldl View.apply (View.apply v p) t
        exact foldl_congr_at hat
      · have hv : View.apply v' p t = v' t := Function.update_of_ne hp _ _
        rcases ih (View.apply v p) (View.apply v' p) with h | h
        · exact .inl h
        · exact .inr (h.trans hv)

/-- Zones once known stay as the broadcasts leave them; new ones are added. -/
theorem shows_push {load : Load} {zones : List ZoneAvailability} {w : World} {t : TicketTypeId}
    {x : ZoneStatus} (h : (load.push zones).shows w t = some x) :
    load.shows w t = some x ∨ ∃ z ∈ zones, z.zoneId = t ∧ z.status = x := by
  have hview : (load.push zones).view t = (load.view t).or
      ((zones.find? fun z => z.zoneId = t).map ZoneAvailability.status) := by
    simp only [Load.view, Load.push, List.find?_append]
    cases load.allZones.find? fun z => decide (z.zoneId = t) <;> rfl
  cases hv : load.view t with
  | some y =>
      rw [hv, Option.some_or, ← hv] at hview
      left
      rw [← h]
      exact (foldl_congr_at hview).symm
  | none =>
      rcases foldl_apply_cases (w.received load.concertId load.since) load.view
        (load.push zones).view t with hsame | hnew
      · exact .inl (hsame.symm.trans h)
      · right
        rw [hv, Option.none_or] at hview
        have hfound := hview.symm.trans (hnew.symm.trans h)
        obtain ⟨z, hz, hzx⟩ := Option.map_eq_some_iff.mp hfound
        exact ⟨z, List.mem_of_find?_eq_some hz, by simpa using List.find?_some hz, hzx⟩

/-- A subscriber shows the zones it has loaded, at least. -/
theorem shows_isSome {load : Load} {w : World} {t : TicketTypeId}
    (h : t ∈ load.allZones.map ZoneAvailability.zoneId) : (load.shows w t).isSome = true := by
  have hview : (load.view t).isSome = true := by
    obtain ⟨z, hz, rfl⟩ := List.mem_map.mp h
    simp only [Load.view, Option.isSome_map, List.find?_isSome]
    exact ⟨z, hz, by simp⟩
  have hfold : ∀ (ps : List ZoneUpdatePayload) (v : View), (v t).isSome = true →
      (ps.foldl View.apply v t).isSome = true := by
    intro ps
    induction ps with
    | nil => exact fun v hv => hv
    | cons p ps ih =>
        intro v hv
        refine ih _ ?_
        by_cases hp : t = p.zoneId
        · subst hp
          simp [View.apply]
        · simpa [View.apply, Function.update_of_ne hp] using hv
  exact hfold _ _ hview

/-- Which broadcast a step sends. -/
def Broadcasts (w w' : World) (c : ConcertId) (p : Option ZoneUpdatePayload) : Prop :=
  w'.sent = w.sent ++ (p.map fun p => (c, p)).toList

/-- A call that broadcasts nothing leaves what a load shows. -/
theorem shows_silent {load : Load} {w w' : World} {c : ConcertId}
    (h : Broadcasts w w' c none) (t : TicketTypeId) : load.shows w' t = load.shows w t := by
  have hsame : w'.sent = w.sent := h.trans (List.append_nil _)
  simp only [Load.shows, World.received, hsame]

/-- What a subscriber shows after a broadcast: the new status in its zone. -/
theorem shows_announced {load : Load} {w w' : World} {c : ConcertId} {pl : ZoneUpdatePayload}
    (h : Broadcasts w w' c (some pl)) (hsince : load.since ≤ w.sent.length) (t : TicketTypeId) :
    load.shows w' t
      = if c = load.concertId ∧ pl.zoneId = t then some pl.newStatus else load.shows w t := by
  have hdrop : w'.sent.drop load.since = w.sent.drop load.since ++ [(c, pl)] := by
    rw [h, List.drop_append_of_le_length hsince]
    rfl
  have hrec : w'.received load.concertId load.since
      = w.received load.concertId load.since ++ (if c = load.concertId then [pl] else []) := by
    simp only [World.received, hdrop, List.filter_append, List.map_append]
    by_cases hc : c = load.concertId <;> simp [hc]
  simp only [Load.shows, hrec, List.foldl_append]
  by_cases hc : c = load.concertId
  · simp only [hc, if_true, List.foldl_cons, List.foldl_nil, View.apply, true_and]
    by_cases hz : pl.zoneId = t
    · subst hz
      simp
    · rw [if_neg hz, Function.update_of_ne (Ne.symm hz)]
  · simp [hc]

/-! ## The invariant -/

/-- What a load relies on: it collects zones of its concert, and none is forgotten. -/
structure Reads (w : World) (load : Load) (todo : List TicketTypeId) : Prop where
  since : load.since ≤ w.sent.length
  listed : ∀ t ∈ todo, ∃ tt, w.findType t = some tt ∧ tt.concertId = load.concertId
  cover : ∀ t tt, w.findType t = some tt → tt.concertId = load.concertId →
    t ∈ todo ∨ t ∈ load.allZones.map ZoneAvailability.zoneId

/-- The row a refresh has read has the status of the current one. -/
def Current (w : World) (c : ConcertId) (tt : TicketType) : Prop :=
  ∃ row, w.findType tt.id = some row ∧ row.concertId = c ∧ statusOf tt = statusOf row

/-- What a call relies on. -/
def AskOk (w : World) : Ask → Prop
  | .change _ _ => True
  | .refreshFind c t => ∃ tt, w.findType t = some tt ∧ tt.concertId = c
  | .refreshOld c tt => Current w c tt
  | .refreshDel c tt _ => Current w c tt
  | .refreshSet c tt _ => Current w c tt
  | .listTypes load => load.since ≤ w.sent.length
  | .readCached load t rest => Reads w load (t :: rest)
  | .readFind load t rest => Reads w load (t :: rest)
  | .readSet load tt rest => Reads w load (tt.id :: rest)

/-- What an operation relies on. -/
def OpOk (w : World) : Op → Prop
  | .ret (.loaded load) => Reads w load []
  | .ret _ => True
  | .ask d => AskOk w d
  | .par _ _ _ => False

/-- The load of an operation that is one. -/
def Ask.load : Ask → Option Load
  | .listTypes load => some load
  | .readCached load _ _ => some load
  | .readFind load _ _ => some load
  | .readSet load _ _ => some load
  | _ => none

/-- The load that an operation carries out. -/
def opLoad : Op → Option Load
  | .ret (.loaded load) => some load
  | .ask d => d.load
  | _ => none

/-- A refresh that has read the cached status. -/
def Ask.hasRead (t : TicketTypeId) : Ask → Bool
  | .refreshDel _ tt _ => tt.id = t
  | .refreshSet _ tt _ => tt.id = t
  | _ => false

/-- It read another status than the row has, and will announce it. -/
def Ask.Owes (tt : TicketType) : Ask → Prop
  | .refreshDel _ row old => row.id = tt.id ∧ ∃ x ∈ old, x ≠ statusOf tt
  | .refreshSet _ row old => row.id = tt.id ∧ ∃ x ∈ old, x ≠ statusOf tt
  | _ => False

/-- The status of the row is still to be announced. -/
def Due (p : State) (tt : TicketType) : Prop :=
  Outdated p.world tt ∨ ∃ d, .ask d ∈ p.ops ∧ d.Owes tt

/-- Of one ticket type: somebody deletes an outdated entry, and whoever does announces
    the change; and what subscribers show is the status, or about to be. -/
structure TypeInv (p : State) (tt : TicketType) : Prop where
  outdated : Outdated p.world tt → Refreshing tt.id p ∧
    ∀ d, .ask d ∈ p.ops → d.hasRead tt.id = true → d.Owes tt
  shows : ∀ prog ∈ p.ops, ∀ load, opLoad prog = some load → load.concertId = tt.concertId →
    ∀ x, load.shows p.world tt.id = some x → x = statusOf tt ∨ Due p tt

/-- What every reachable state keeps, of the cache, of the operations and of each type. -/
structure Inv (p : State) : Prop where
  keyed : RowTable.Keyed TicketType.id p.world.ticketTypes
  entries : ∀ c t zones, p.world.cache (c, t) = some zones →
    ∃ tt : TicketType, tt.id = t ∧ zones = computeZoneAvailability tt
  ops : ∀ prog ∈ p.ops, OpOk p.world prog
  types : ∀ t tt, p.world.findType t = some tt → TypeInv p tt

/-- A load that owes a type has read it. -/
theorem Ask.Owes.hasRead {tt : TicketType} {d : Ask} (h : d.Owes tt) :
    d.hasRead tt.id = true := by
  cases d with
  | refreshDel c row old => simpa [Ask.hasRead] using h.1
  | refreshSet c row old => simpa [Ask.hasRead] using h.1
  | _ => cases h

/-- A refresh that has read the type is one of it. -/
theorem Ask.refreshes_of_hasRead {t : TicketTypeId} {d : Ask} (h : d.hasRead t = true) :
    d.refreshes t = true := by
  cases d with
  | refreshDel c row old => exact h
  | refreshSet c row old => exact h
  | _ => cases h

/-- Where no refresh of the type is under way nothing is due. -/
theorem TypeInv.not_due {p : State} {tt : TicketType} (h : TypeInv p tt)
    (hidle : ¬ Refreshing tt.id p) : ¬ Due p tt := by
  rintro (hout | ⟨d, hd, howes⟩)
  · exact hidle (h.outdated hout).1
  · exact hidle ⟨.ask d, hd, Ask.refreshes_of_hasRead howes.hasRead⟩

/-! ## One operation moved on -/

/-- Operation `i` moves from the call `d` to `prog`. -/
structure Moves (p q : State) (i : Nat) (d : Ask) (prog : Op) : Prop where
  at_ : p.ops[i]? = some (.ask d)
  ops : q.ops = p.ops.set i prog

section

variable {p q : State} {i : Nat} {d : Ask} {prog : Op} {tt : TicketType}

/-- The call was awaited. -/
theorem Moves.mem (h : Moves p q i d prog) : .ask d ∈ p.ops := List.mem_of_getElem? h.at_

/-- What follows it is there now. -/
theorem Moves.new (h : Moves p q i d prog) : prog ∈ q.ops := by
  obtain ⟨hlt, -⟩ := List.getElem?_eq_some_iff.mp h.at_
  rw [h.ops]
  exact List.mem_set hlt prog

/-- Other operations stay. -/
theorem Moves.kept (h : Moves p q i d prog) {x : Op} (hx : x ∈ p.ops) (hne : x ≠ .ask d) :
    x ∈ q.ops := by
  obtain ⟨j, hj⟩ := List.mem_iff_getElem?.mp hx
  have hij : i ≠ j := by
    rintro rfl
    rw [h.at_] at hj
    exact hne (Option.some.inj hj).symm
  rw [h.ops]
  refine List.mem_of_getElem? (i := j) ?_
  rw [List.getElem?_set_ne hij]
  exact hj

/-- And none is new. -/
theorem Moves.old (h : Moves p q i d prog) {x : Op} (hx : x ∈ q.ops) : x = prog ∨ x ∈ p.ops := by
  rw [h.ops] at hx
  exact (List.mem_or_eq_of_mem_set hx).symm

/-- A refresh that stays one is still under way, and so is everybody else's. -/
theorem Moves.refreshing (h : Moves p q i d prog) {t : TicketTypeId}
    (hd : d.refreshes t = true → opRefreshes t prog = true) (hr : Refreshing t p) :
    Refreshing t q := by
  obtain ⟨x, hx, hxr⟩ := hr
  by_cases hxd : x = .ask d
  · subst hxd
    exact ⟨prog, h.new, hd hxr⟩
  · exact ⟨x, h.kept hx hxd, hxr⟩

/-- A move at which nothing of a type is announced and its entry stays as far out of
    date as it was. -/
theorem TypeInv.aside (h : TypeInv p tt) (hm : Moves p q i d prog)
    (hd : d.refreshes tt.id = true → opRefreshes tt.id prog = true)
    (hread : d.hasRead tt.id = false)
    (hprog : Outdated p.world tt → ∀ d', prog = .ask d' → d'.hasRead tt.id = true → d'.Owes tt)
    (hout : Outdated q.world tt ↔ Outdated p.world tt)
    (hshows : ∀ x ∈ p.ops, ∀ load, opLoad x = some load → load.concertId = tt.concertId →
      load.shows q.world tt.id = load.shows p.world tt.id)
    (hload : ∀ load, opLoad prog = some load → load.concertId = tt.concertId →
      ∀ x, load.shows q.world tt.id = some x →
        (∃ load', d.load = some load' ∧ load'.concertId = tt.concertId ∧
          load'.shows p.world tt.id = some x) ∨ x = statusOf tt ∨ Due p tt) :
    TypeInv q tt := by
  have hdue : Due p tt → Due q tt := by
    rintro (ho | ⟨d', hd', howes⟩)
    · exact .inl (hout.mpr ho)
    · refine .inr ⟨d', hm.kept hd' ?_, howes⟩
      rintro ⟨⟩
      rw [howes.hasRead] at hread
      cases hread
  constructor
  · intro ho
    have ho' := hout.mp ho
    obtain ⟨hr, hall⟩ := h.outdated ho'
    refine ⟨hm.refreshing hd hr, ?_⟩
    intro d' hd' hr'
    rcases hm.old hd' with hnew | hold
    · exact hprog ho' d' hnew.symm hr'
    · exact hall d' hold hr'
  · intro x hx load hl hc y hy
    rcases hm.old hx with rfl | hold
    · rcases hload load hl hc y hy with ⟨load', hl', hc', hy'⟩ | hrest
      · exact (h.shows _ hm.mem load' hl' hc' y hy').imp id hdue
      · exact hrest.imp id hdue
    · rw [hshows x hold load hl hc] at hy
      exact (h.shows x hold load hl hc y hy).imp id hdue

/-- A move of a load: it knows what it knew, or the cached or the current status. -/
theorem TypeInv.loads (h : TypeInv p tt) (hm : Moves p q i d prog)
    (hd : d.refreshes tt.id = false) (hread : d.hasRead tt.id = false)
    (hprog : ∀ d', prog = .ask d' → d'.hasRead tt.id = false)
    (hout : Outdated q.world tt ↔ Outdated p.world tt)
    (hsent : q.world.sent = p.world.sent)
    (hload : ∀ load, opLoad prog = some load → load.concertId = tt.concertId →
      ∀ x, load.shows p.world tt.id = some x →
        (∃ load', d.load = some load' ∧ load'.concertId = tt.concertId ∧
          load'.shows p.world tt.id = some x) ∨ x = statusOf tt ∨ Due p tt) :
    TypeInv q tt := by
  have hshows : ∀ load : Load, load.shows q.world tt.id = load.shows p.world tt.id := by
    intro load
    simp only [Load.shows, World.received, hsent]
  refine h.aside hm ?_ hread ?_ hout ?_ ?_
  · intro hr
    rw [hd] at hr
    cases hr
  · intro _ d' hnew hr
    rw [hprog d' hnew] at hr
    cases hr
  · exact fun _ _ load _ _ => hshows load
  · intro load hl hc x hx
    rw [hshows load] at hx
    exact hload load hl hc x hx

/-- A load goes on as itself. -/
theorem opLoad_next (load : Load) (todo : List TicketTypeId) :
    opLoad (load.next todo) = some load := by
  cases todo <;> rfl

/-- It has not read the next type yet. -/
theorem hasRead_next {load : Load} {todo : List TicketTypeId} {t : TicketTypeId} {d : Ask}
    (h : load.next todo = .ask d) : d.hasRead t = false := by
  cases todo with
  | nil => cases h
  | cons t' rest =>
      cases h
      rfl

/-! ## The tables under a step -/

/-- A type is found under its id. -/
theorem findType_id {w : World} {t : TicketTypeId} (h : w.findType t = some tt) : tt.id = t :=
  RowTable.lookup_key h

/-- Finding depends on the rows. -/
theorem findType_eq {w w' : World} (h : w'.ticketTypes = w.ticketTypes) (t : TicketTypeId) :
    w'.findType t = w.findType t := by
  simp only [World.findType, h]

/-- The status in an entry. -/
theorem cachedStatus_of {w : World} {c : ConcertId} {t : TicketTypeId}
    (h : w.cache (c, t) = some (computeZoneAvailability tt)) :
    w.cachedStatus c t = some (statusOf tt) := by
  rw [World.cachedStatus, h]
  rfl

/-- The entry just set. -/
theorem cachedStatus_set {w : World} (c : ConcertId) (t : TicketTypeId) :
    (w.set c t (computeZoneAvailability tt)).cachedStatus c t = some (statusOf tt) :=
  cachedStatus_of (Function.update_self _ _ _)

/-- Other entries stay. -/
theorem cachedStatus_set_ne {w : World} {c c' : ConcertId} {t t' : TicketTypeId}
    (zones : List ZoneAvailability) (h : t' ≠ t) :
    (w.set c t zones).cachedStatus c' t' = w.cachedStatus c' t' := by
  simp [World.cachedStatus, World.set, Function.update_of_ne, h]

/-- The entry just deleted. -/
theorem cachedStatus_del {w : World} (c : ConcertId) (t : TicketTypeId) :
    (w.del c t).cachedStatus c t = none := by
  simp [World.cachedStatus, World.del]

/-- Other entries stay. -/
theorem cachedStatus_del_ne {w : World} {c c' : ConcertId} {t t' : TicketTypeId}
    (h : c' = c → t' ≠ t) : (w.del c t).cachedStatus c' t' = w.cachedStatus c' t' := by
  have hne : (c', t') ≠ (c, t) := by
    intro he
    cases he
    exact h rfl rfl
  simp [World.cachedStatus, World.del, Function.update_of_ne hne]

/-- An entry is outdated by itself. -/
theorem outdated_congr {w w' : World}
    (h : w'.cachedStatus tt.concertId tt.id = w.cachedStatus tt.concertId tt.id) :
    Outdated w' tt ↔ Outdated w tt := by
  rw [Outdated, h, Outdated]

/-- No entry is not an outdated one. -/
theorem not_outdated {w : World} (h : w.cachedStatus tt.concertId tt.id = none ∨
    w.cachedStatus tt.concertId tt.id = some (statusOf tt)) : ¬ Outdated w tt := by
  rintro ⟨x, hx, hne⟩
  rcases h with h | h
  · rw [h] at hx
    cases hx
  · rw [h] at hx
    cases hx
    exact hne rfl

/-- What a load has read stays so. -/
theorem Reads.mono {w w' : World} {load : Load} {todo : List TicketTypeId}
    (h : Reads w load todo) (htypes : w'.ticketTypes = w.ticketTypes)
    (hsent : w.sent.length ≤ w'.sent.length) : Reads w' load todo where
  since := h.since.trans hsent
  listed := fun t ht => by
    rw [findType_eq htypes]
    exact h.listed t ht
  cover := fun t tt ht => by
    rw [findType_eq htypes] at ht
    exact h.cover t tt ht

/-- A row that is current stays so while nobody writes. -/
theorem Current.mono {w w' : World} {c : ConcertId} (h : Current w c tt)
    (htypes : w'.ticketTypes = w.ticketTypes) : Current w' c tt := by
  rw [Current, findType_eq htypes]
  exact h

/-- So does what an operation relies on. -/
theorem OpOk.mono {w w' : World} {x : Op} (h : OpOk w x)
    (htypes : w'.ticketTypes = w.ticketTypes) (hsent : w.sent.length ≤ w'.sent.length) :
    OpOk w' x := by
  match x with
  | .ret (.loaded load) => exact Reads.mono h htypes hsent
  | .ret (.refreshed _) => trivial
  | .ret .notFound => trivial
  | .ret .detached => trivial
  | .par _ _ _ => exact h
  | .ask d =>
      cases d with
      | change t q => trivial
      | refreshFind c t =>
          show ∃ tt, w'.findType t = some tt ∧ tt.concertId = c
          rw [findType_eq htypes]
          exact h
      | refreshOld c tt => exact Current.mono h htypes
      | refreshDel c tt old => exact Current.mono h htypes
      | refreshSet c tt old => exact Current.mono h htypes
      | listTypes load =>
          have hs : load.since ≤ w.sent.length := h
          exact hs.trans hsent
      | readCached load t rest => exact Reads.mono h htypes hsent
      | readFind load t rest => exact Reads.mono h htypes hsent
      | readSet load tt rest => exact Reads.mono h htypes hsent

/-- A load has begun before now. -/
theorem OpOk.since {w : World} {x : Op} (h : OpOk w x) {load : Load}
    (hl : opLoad x = some load) : load.since ≤ w.sent.length := by
  match x with
  | .ret (.loaded load') =>
      cases hl
      exact Reads.since h
  | .ret (.refreshed _) => cases hl
  | .ret .notFound => cases hl
  | .ret .detached => cases hl
  | .par _ _ _ => cases hl
  | .ask d =>
      cases d with
      | listTypes load' =>
          cases hl
          exact h
      | readCached load' t rest =>
          cases hl
          exact Reads.since h
      | readFind load' t rest =>
          cases hl
          exact Reads.since h
      | readSet load' tt rest =>
          cases hl
          exact Reads.since h
      | _ => cases hl

/-- A load goes on with what it has read. -/
theorem Reads.next {w : World} {load : Load} {todo : List TicketTypeId} (h : Reads w load todo) :
    OpOk w (load.next todo) := by
  cases todo with
  | nil => exact h
  | cons t rest => exact h

/-- The zones of the next type are collected. -/
theorem Reads.push {w : World} {load : Load} {rest : List TicketTypeId}
    (h : Reads w load (tt.id :: rest)) :
    Reads w (load.push (computeZoneAvailability tt)) rest where
  since := h.since
  listed := fun t ht => h.listed t (List.mem_cons_of_mem _ ht)
  cover := by
    intro t row ht hc
    rcases h.cover t row ht hc with hmem | hmem
    · rcases List.mem_cons.mp hmem with rfl | hrest
      · exact .inr (by simp [Load.push, computeZoneAvailability])
      · exact .inl hrest
    · exact .inr (by simp only [Load.push, List.map_append]; exact List.mem_append_left _ hmem)

/-! ## The steps -/

/-- A move that leaves the rows alone. -/
theorem Inv.moved (h : Inv p) (hm : Moves p q i d prog)
    (htypes : q.world.ticketTypes = p.world.ticketTypes)
    (hsent : p.world.sent.length ≤ q.world.sent.length)
    (hentries : ∀ c t zones, q.world.cache (c, t) = some zones →
      p.world.cache (c, t) = some zones ∨
        ∃ tt : TicketType, tt.id = t ∧ zones = computeZoneAvailability tt)
    (hnew : OpOk q.world prog)
    (hinv : ∀ t tt, p.world.findType t = some tt → TypeInv q tt) : Inv q where
  keyed := by
    rw [htypes]
    exact h.keyed
  entries := by
    intro c t zones hz
    rcases hentries c t zones hz with hold | hfresh
    · exact h.entries c t zones hold
    · exact hfresh
  ops := by
    intro x hx
    rcases hm.old hx with rfl | hold
    · exact hnew
    · exact (h.ops x hold).mono htypes hsent
  types := by
    intro t tt ht
    rw [findType_eq htypes] at ht
    exact hinv t tt ht

/-- A move that only reads. -/
theorem Inv.readOnly (h : Inv p) (hm : Moves p q i d prog) (hw : q.world = p.world)
    (hnew : OpOk p.world prog)
    (hinv : ∀ t tt, p.world.findType t = some tt → TypeInv q tt) : Inv q :=
  h.moved hm (by rw [hw]) (by rw [hw]) (fun c t zones hz => .inl (by rw [← hw]; exact hz))
    (by rw [hw]; exact hnew) hinv

/-- A load that moves on without a new zone. -/
theorem Inv.loadKept (h : Inv p) (hm : Moves p q i d prog) (hw : q.world = p.world)
    (hnew : OpOk p.world prog) (hd : ∀ t, d.refreshes t = false)
    (hprog : ∀ t d', prog = .ask d' → d'.hasRead t = false)
    (hload : ∀ load, opLoad prog = some load → d.load = some load) : Inv q := by
  refine h.readOnly hm hw hnew fun t tt ht => ?_
  refine (h.types t tt ht).loads hm (hd tt.id) ?_ (hprog tt.id) (by rw [hw]) (by rw [hw]) ?_
  · cases hr : d.hasRead tt.id with
    | false => rfl
    | true =>
        rw [← hd tt.id]
        exact (Ask.refreshes_of_hasRead hr).symm
  · intro load hl hc x hx
    exact .inl ⟨load, hload load hl, hc, hx⟩

/-- `readCached` at a cached entry. -/
theorem Inv.hit (h : Inv p) {load : Load} {t : TicketTypeId} {rest : List TicketTypeId}
    {zones : List ZoneAvailability} (hz : p.world.cache (load.concertId, t) = some zones)
    (hm : Moves p q i (.readCached load t rest) ((load.push zones).next rest))
    (hw : q.world = p.world) : Inv q := by
  obtain ⟨tt₀, hid, rfl⟩ := h.entries _ _ _ hz
  have hreads : Reads p.world load (t :: rest) := h.ops _ hm.mem
  refine h.readOnly hm hw ?_ fun t' tt ht => ?_
  · subst hid
    exact hreads.push.next
  refine (h.types t' tt ht).loads hm rfl rfl (fun _ hd' => hasRead_next hd') (by rw [hw])
    (by rw [hw]) ?_
  intro load' hl hc x hx
  rw [opLoad_next] at hl
  cases hl
  rcases shows_push hx with hold | ⟨z, hmem, hzt, hzx⟩
  · exact .inl ⟨load, rfl, hc, hold⟩
  · right
    rw [computeZoneAvailability, List.mem_singleton] at hmem
    subst hmem
    -- the zone of this very type: its status is the cached one
    by_cases hx' : x = statusOf tt
    · exact .inl hx'
    · refine .inr (.inl ⟨x, ?_, hx'⟩)
      have hidt : tt₀.id = tt.id := hzt
      have hcache : p.world.cache (tt.concertId, tt.id) = some (computeZoneAvailability tt₀) := by
        rw [← hidt, hid, ← hc]
        exact hz
      rw [cachedStatus_of hcache, ← hzx]
      rfl

/-- `readSet` under the condition. -/
theorem Inv.fill (h : Inv p) {load : Load} {tt₀ : TicketType} {rest : List TicketTypeId}
    (hok : ∀ row ∈ p.world.findType tt₀.id, statusOf tt₀ = statusOf row ∧ ¬ Outdated p.world row)
    (hm : Moves p q i (.readSet load tt₀ rest)
      ((load.push (computeZoneAvailability tt₀)).next rest))
    (hw : q.world = p.world.set load.concertId tt₀.id (computeZoneAvailability tt₀)) : Inv q := by
  have hreads : Reads p.world load (tt₀.id :: rest) := h.ops _ hm.mem
  obtain ⟨row, hrow, hrc⟩ := hreads.listed tt₀.id List.mem_cons_self
  obtain ⟨hstatus, hfresh⟩ := hok row hrow
  have htypes : q.world.ticketTypes = p.world.ticketTypes := by rw [hw]; rfl
  have hsent : q.world.sent = p.world.sent := by rw [hw]; rfl
  refine h.moved hm htypes (by rw [hsent]) ?_ ?_ fun t tt ht => ?_
  · intro c t zones hz
    rw [hw] at hz
    by_cases hk : (c, t) = (load.concertId, tt₀.id)
    · cases hk
      have hset := hz.symm.trans (Function.update_self _ _ _)
      cases hset
      exact .inr ⟨tt₀, rfl, rfl⟩
    · have hset := hz.symm.trans (Function.update_of_ne hk _ _)
      exact .inl hset.symm
  · exact (hreads.push.mono htypes (by rw [hsent])).next
  have hid := findType_id ht
  subst hid
  refine (h.types _ tt ht).loads hm rfl rfl (fun _ hd' => hasRead_next hd') ?_ hsent ?_
  · by_cases hsame : tt.id = tt₀.id
    · -- the entry was not outdated and is not now
      rw [hsame, hrow] at ht
      cases ht
      have hafter : ¬ Outdated q.world row := by
        refine not_outdated (.inr ?_)
        rw [hw, hrc, hsame, cachedStatus_set, hstatus]
      exact iff_of_false hafter hfresh
    · rw [hw]
      exact outdated_congr (cachedStatus_set_ne _ hsame)
  · intro load' hl hc x hx
    rw [opLoad_next] at hl
    cases hl
    rcases shows_push hx with hold | ⟨z, hmem, hzt, hzx⟩
    · exact .inl ⟨load, rfl, hc, hold⟩
    · right
      left
      rw [computeZoneAvailability, List.mem_singleton] at hmem
      subst hmem
      have hidt : tt₀.id = tt.id := hzt
      rw [← hidt, hrow] at ht
      cases ht
      rw [← hstatus, ← hzx]

/-- A refresh statement that only reads: the row, or the cached status. -/
theorem Inv.refreshReads (h : Inv p) (hm : Moves p q i d prog) (hw : q.world = p.world)
    (hnew : OpOk p.world prog) (hd : ∀ t, d.refreshes t = true → opRefreshes t prog = true)
    (hread : ∀ t, d.hasRead t = false) (hload : opLoad prog = none)
    (hprog : ∀ t tt, p.world.findType t = some tt → Outdated p.world tt →
      ∀ d', prog = .ask d' → d'.hasRead tt.id = true → d'.Owes tt) : Inv q := by
  refine h.readOnly hm hw hnew fun t tt ht => ?_
  refine (h.types t tt ht).aside hm (hd tt.id) (hread tt.id) (hprog t tt ht) (by rw [hw])
    (fun _ _ _ _ _ => by rw [hw]) ?_
  intro load hl
  rw [hload] at hl
  cases hl

/-- `refreshDel`: the entry goes, and the announcement is owed by this refresh. -/
theorem Inv.deletes (h : Inv p) {c : ConcertId} {tt₀ : TicketType} {old : Option ZoneStatus}
    (hm : Moves p q i (.refreshDel c tt₀ old) (.ask (.refreshSet c tt₀ old)))
    (hw : q.world = p.world.del c tt₀.id) : Inv q := by
  have hcur : Current p.world c tt₀ := h.ops _ hm.mem
  obtain ⟨row, hrow, hrc, hstatus⟩ := hcur
  have htypes : q.world.ticketTypes = p.world.ticketTypes := by rw [hw]; rfl
  have hsent : q.world.sent = p.world.sent := by rw [hw]; rfl
  have hshows : ∀ load : Load, ∀ t, load.shows q.world t = load.shows p.world t := by
    intro load t
    simp only [Load.shows, World.received, hsent]
  refine h.moved hm htypes (by rw [hsent]) ?_ ?_ fun t tt ht => ?_
  · intro c' t' zones hz
    rw [hw] at hz
    by_cases hk : (c', t') = (c, tt₀.id)
    · cases hk
      have hset := hz.symm.trans (Function.update_self _ _ _)
      cases hset
    · exact .inl (hz.symm.trans (Function.update_of_ne hk _ _)).symm
  · exact Current.mono ⟨row, hrow, hrc, hstatus⟩ htypes
  have hid := findType_id ht
  subst hid
  have htt := h.types _ tt ht
  by_cases hsame : tt₀.id = tt.id
  · rw [← hsame, hrow] at ht
    cases ht
    have hfresh : ¬ Outdated q.world row := by
      refine not_outdated (.inl ?_)
      rw [hw, hrc, ← hsame, cachedStatus_del]
    have howes : Ask.Owes row (.refreshDel c tt₀ old) → Due q row :=
      fun ho => .inr ⟨_, hm.new, ho⟩
    have hdue : Due p row → Due q row := by
      rintro (ho | ⟨d', hd', ho⟩)
      · exact howes ((htt.outdated ho).2 _ hm.mem (by simpa [Ask.hasRead] using hsame))
      · by_cases hself : d' = .refreshDel c tt₀ old
        · subst hself
          exact howes ho
        · exact .inr ⟨d', hm.kept hd' fun he => hself (Prog.ask.inj he), ho⟩
    refine ⟨fun ho => absurd ho hfresh, ?_⟩
    intro x hx load hl hc y hy
    rcases hm.old hx with rfl | hold
    · cases hl
    · rw [hshows] at hy
      exact (htt.shows x hold load hl hc y hy).imp id hdue
  · have hne : ∀ d', d' = Ask.refreshSet c tt₀ old → d'.hasRead tt.id = false := by
      rintro d' rfl
      simpa [Ask.hasRead] using hsame
    refine htt.loads hm (by simpa [Ask.refreshes] using hsame) (by simpa [Ask.hasRead] using hsame)
      (fun d' hd' => hne d' (Prog.ask.inj hd').symm) ?_ hsent fun load hl => by cases hl
    rw [hw]
    exact outdated_congr (cachedStatus_del_ne fun _ => Ne.symm hsame)

/-- A refresh that owes an announcement makes it. -/
theorem payload_of_owes {c : ConcertId} {tt₀ : TicketType} {old : Option ZoneStatus}
    (hstatus : statusOf tt₀ = statusOf tt) (ho : Ask.Owes tt (.refreshSet c tt₀ old))
    (timestamp : String) :
    ∃ pl, payload tt₀ old timestamp = some pl ∧ pl.zoneId = tt₀.id ∧
      pl.newStatus = statusOf tt := by
  obtain ⟨-, x, hx, hne⟩ := ho
  rw [Option.mem_def] at hx
  subst hx
  refine ⟨_, if_pos ?_, rfl, hstatus⟩
  rw [hstatus]
  exact hne

/-- And one that owes none is silent. -/
theorem payload_eq_none {c : ConcertId} {tt₀ : TicketType} {old : Option ZoneStatus}
    (hid : tt₀.id = tt.id) (hstatus : statusOf tt₀ = statusOf tt)
    (ho : ¬ Ask.Owes tt (.refreshSet c tt₀ old)) (timestamp : String) :
    payload tt₀ old timestamp = none := by
  cases old with
  | none => rfl
  | some x =>
      refine if_neg fun hne => ho ⟨hid, x, rfl, ?_⟩
      rw [← hstatus]
      exact hne

/-- An update names its zone. -/
theorem payload_zone {tt₀ : TicketType} {old : Option ZoneStatus} {timestamp : String}
    {pl : ZoneUpdatePayload} (h : payload tt₀ old timestamp = some pl) : pl.zoneId = tt₀.id := by
  unfold payload at h
  split at h
  · split at h
    · cases h
      rfl
    · cases h
  · cases h

/-- `refreshSet`: the entry is fresh again, and what was owed is announced. -/
theorem Inv.announces (h : Inv p) {c : ConcertId} {tt₀ : TicketType} {old : Option ZoneStatus}
    {timestamp : String}
    (hm : Moves p q i (.refreshSet c tt₀ old)
      (.ret (.refreshed (payload tt₀ old timestamp))))
    (hw : q.world = (p.world.set c tt₀.id (computeZoneAvailability tt₀)).broadcast c
      (payload tt₀ old timestamp)) : Inv q := by
  have hcur : Current p.world c tt₀ := h.ops _ hm.mem
  obtain ⟨row, hrow, hrc, hstatus⟩ := hcur
  have htypes : q.world.ticketTypes = p.world.ticketTypes := by rw [hw]; rfl
  have hbroadcast : Broadcasts p.world q.world c (payload tt₀ old timestamp) := by
    rw [hw]
    rfl
  have hsent : p.world.sent.length ≤ q.world.sent.length := by
    rw [hbroadcast, List.length_append]
    omega
  refine h.moved hm htypes hsent ?_ trivial fun t tt ht => ?_
  · intro c' t' zones hz
    rw [hw] at hz
    -- the entry that is written, and the others
    by_cases hk : (c', t') = (c, tt₀.id)
    · cases hk
      have hset := hz.symm.trans (Function.update_self _ _ _)
      cases hset
      exact .inr ⟨tt₀, rfl, rfl⟩
    · exact .inl (hz.symm.trans (Function.update_of_ne hk _ _)).symm
  have hid := findType_id ht
  subst hid
  have htt := h.types _ tt ht
  -- the type that is announced, and the others
  by_cases hsame : tt₀.id = tt.id
  · rw [← hsame, hrow] at ht
    cases ht
    have hfresh : ¬ Outdated q.world row := by
      refine not_outdated (.inr ?_)
      rw [hw, hrc, ← hsame]
      have hset : (p.world.set c tt₀.id (computeZoneAvailability tt₀)).cachedStatus c tt₀.id
          = some (statusOf tt₀) := cachedStatus_set c tt₀.id
      exact hset.trans (congrArg some hstatus)
    refine ⟨fun ho => absurd ho hfresh, ?_⟩
    intro x hx load hl hc y hy
    rcases hm.old hx with rfl | hold
    · cases hl
    by_cases howes : Ask.Owes row (.refreshSet c tt₀ old)
    · -- everybody hears of the change
      obtain ⟨pl, hpl, hzone, hnew⟩ := payload_of_owes hstatus howes timestamp
      have hroom : c = load.concertId ∧ pl.zoneId = row.id :=
        ⟨hrc.symm.trans hc.symm, hzone.trans hsame⟩
      rw [hpl] at hbroadcast
      rw [shows_announced hbroadcast ((h.ops x hold).since hl), if_pos hroom] at hy
      exact .inl ((Option.some.inj hy).symm.trans hnew)
    · rw [payload_eq_none hsame hstatus howes timestamp] at hbroadcast
      rw [shows_silent hbroadcast] at hy
      refine (htt.shows x hold load hl hc y hy).imp id ?_
      rintro (ho | ⟨d', hd', ho⟩)
      · exact absurd ((htt.outdated ho).2 _ hm.mem (by simpa [Ask.hasRead] using hsame)) howes
      · refine .inr ⟨d', hm.kept hd' fun he => howes ?_, ho⟩
        rw [← Prog.ask.inj he]
        exact ho
  · refine htt.aside hm ?_ (by simpa [Ask.hasRead] using hsame) (fun _ d' hd' => by cases hd') ?_ ?_
      fun load hl => by cases hl
    · intro hr
      exact absurd (by simpa [Ask.refreshes] using hr) hsame
    · rw [hw]
      exact outdated_congr (cachedStatus_set_ne _ (Ne.symm hsame))
    · intro x hx load hl _
      cases hpl : payload tt₀ old timestamp with
      | none =>
          rw [hpl] at hbroadcast
          exact shows_silent hbroadcast _
      | some pl =>
          rw [hpl] at hbroadcast
          rw [shows_announced hbroadcast ((h.ops x hx).since hl), if_neg]
          rintro ⟨-, hz⟩
          exact hsame ((payload_zone hpl).symm.trans hz)

/-- `change`: the row as written, everything else as it was. -/
theorem findType_change {w : World} {t : TicketTypeId} {qs : Quantities} (t' : TicketTypeId) :
    ({ w with ticketTypes := RowTable.modify TicketType.id t qs.apply w.ticketTypes }
      : World).findType t' = if t' = t then (w.findType t).map qs.apply else w.findType t' := by
  by_cases ht : t' = t
  · subst ht
    rw [if_pos rfl]
    exact RowTable.lookup_modify_self fun _ => rfl
  · rw [if_neg ht]
    exact RowTable.lookup_modify_ne (fun _ => rfl) ht

/-- A type whose row has changed, but not its status. -/
theorem TypeInv.rewritten {tt' : TicketType} (h : TypeInv p tt) (hid : tt'.id = tt.id)
    (hc : tt'.concertId = tt.concertId) (hs : statusOf tt' = statusOf tt) : TypeInv p tt' := by
  have hout : Outdated p.world tt' ↔ Outdated p.world tt := by
    rw [Outdated, Outdated, hid, hc, hs]
  have howes : ∀ d : Ask, d.Owes tt' ↔ d.Owes tt := by
    intro d
    cases d <;> simp only [Ask.Owes, hid, hs]
  have hdue : Due p tt' ↔ Due p tt := by
    rw [Due, Due, hout]
    simp only [howes]
  constructor
  · intro ho
    rw [hid]
    obtain ⟨hr, hall⟩ := h.outdated (hout.mp ho)
    exact ⟨hr, fun d hd hread => (howes d).mpr (hall d hd hread)⟩
  · intro x hx load hl hlc y hy
    rw [hs, hdue]
    rw [hid] at hy
    exact h.shows x hx load hl (hlc.trans hc) y hy

/-- A change of status makes the announcement due. -/
theorem typeInv_changed {tt' : TicketType} (hm : Moves p q i d prog)
    (hid : tt'.id = tt.id) (hc : tt'.concertId = tt.concertId)
    (hs : statusOf tt' ≠ statusOf tt) (hidle : ¬ Refreshing tt.id p)
    (hcached : p.world.cachedStatus tt.concertId tt.id = some (statusOf tt))
    (hcache : q.world.cache = p.world.cache) (hnew : opRefreshes tt.id prog = true)
    (hprog : ∀ d', prog = .ask d' → d'.hasRead tt.id = false) : TypeInv q tt' := by
  have hout : Outdated q.world tt' := by
    refine ⟨statusOf tt, ?_, Ne.symm hs⟩
    rw [hid, hc, World.cachedStatus, hcache, ← World.cachedStatus]
    exact hcached
  refine ⟨fun _ => ⟨⟨prog, hm.new, by rw [hid]; exact hnew⟩, ?_⟩,
    fun _ _ _ _ _ _ _ => .inr (.inl hout)⟩
  intro d' hd' hread
  rw [hid] at hread
  rcases hm.old hd' with hself | hold
  · rw [hprog d' hself.symm] at hread
    cases hread
  · exact absurd ⟨.ask d', hold, Ask.refreshes_of_hasRead hread⟩ hidle

/-- A change leaves what a refresh of another type, or a load, relies on. -/
theorem OpOk.change {w : World} {t : TicketTypeId} {qs : Quantities} {x : Op} (h : OpOk w x)
    (hsame : ∀ tt, w.findType t = some tt → opRefreshes t x = true →
      statusOf (qs.apply tt) = statusOf tt) :
    OpOk { w with ticketTypes := RowTable.modify TicketType.id t qs.apply w.ticketTypes } x := by
  have hfind : ∀ t', ({ w with
      ticketTypes := RowTable.modify TicketType.id t qs.apply w.ticketTypes } : World).findType t'
        = if t' = t then (w.findType t).map qs.apply else w.findType t' := findType_change
  have hrow : ∀ t' c, (∃ tt, w.findType t' = some tt ∧ tt.concertId = c) → ∃ tt, ({ w with
      ticketTypes := RowTable.modify TicketType.id t qs.apply w.ticketTypes } : World).findType t'
        = some tt ∧ tt.concertId = c := by
    rintro t' c ⟨tt, ht, hc⟩
    rw [hfind]
    by_cases he : t' = t
    · subst he
      rw [if_pos rfl, ht]
      exact ⟨qs.apply tt, rfl, hc⟩
    · rw [if_neg he]
      exact ⟨tt, ht, hc⟩
  have hreads : ∀ {load : Load} {todo : List TicketTypeId}, Reads w load todo → Reads { w with
      ticketTypes := RowTable.modify TicketType.id t qs.apply w.ticketTypes } load todo := by
    intro load todo hr
    refine ⟨hr.since, fun t' ht' => hrow t' _ (hr.listed t' ht'), ?_⟩
    intro t' tt ht' hc
    rw [hfind] at ht'
    by_cases he : t' = t
    · subst he
      rw [if_pos rfl] at ht'
      obtain ⟨tt₀, ht₀, rfl⟩ := Option.map_eq_some_iff.mp ht'
      exact hr.cover t' tt₀ ht₀ hc
    · rw [if_neg he] at ht'
      exact hr.cover t' tt ht' hc
  -- a refresh in flight carries the status of the row, which stays by hypothesis
  have hcurrent : ∀ {c : ConcertId} {tt₀ : TicketType}, Current w c tt₀ →
      (tt₀.id = t → opRefreshes t x = true) → Current { w with
        ticketTypes := RowTable.modify TicketType.id t qs.apply w.ticketTypes } c tt₀ := by
    rintro c tt₀ ⟨row, hr, hc, hs⟩ hx
    rw [Current, hfind]
    by_cases he : tt₀.id = t
    · rw [he] at hr
      rw [if_pos he, hr]
      exact ⟨qs.apply row, rfl, hc, hs.trans (hsame row hr (hx he)).symm⟩
    · rw [if_neg he]
      exact ⟨row, hr, hc, hs⟩
  match x with
  | .ret (.loaded load) => exact hreads h
  | .ret (.refreshed _) => trivial
  | .ret .notFound => trivial
  | .ret .detached => trivial
  | .par _ _ _ => exact h
  | .ask d =>
      cases d with
      | change t' q => trivial
      | refreshFind c t' => exact hrow t' c h
      | refreshOld c tt => exact hcurrent h fun he => decide_eq_true he
      | refreshDel c tt old => exact hcurrent h fun he => decide_eq_true he
      | refreshSet c tt old => exact hcurrent h fun he => decide_eq_true he
      | listTypes load => exact h
      | readCached load t' rest => exact hreads h
      | readFind load t' rest => exact hreads h
      | readSet load tt rest => exact hreads h

/-- An inventory change under the condition. -/
theorem Inv.changes (h : Inv p) {t : TicketTypeId} {qs : Quantities}
    (hok : ∀ tt ∈ p.world.findType t, statusOf (qs.apply tt) ≠ statusOf tt →
      (p.world.cache (tt.concertId, t)).isSome = true ∧ ¬ Refreshing t p)
    (ht : p.world.findType t = some tt)
    (hm : Moves p q i (.change t qs) (.ask (.refreshFind tt.concertId t)))
    (hw : q.world = { p.world with
      ticketTypes := RowTable.modify TicketType.id t qs.apply p.world.ticketTypes }) : Inv q := by
  have hid := findType_id ht
  have hfind : ∀ t', q.world.findType t'
      = if t' = t then (p.world.findType t).map qs.apply else p.world.findType t' := by
    rw [hw]
    exact findType_change
  have hshows : ∀ (load : Load) t', load.shows q.world t' = load.shows p.world t' := by
    intro load t'
    rw [hw]
    rfl
  have hout : ∀ tt, Outdated q.world tt ↔ Outdated p.world tt := by
    intro tt
    rw [hw]
    exact Iff.rfl
  -- the rows that are not written, and the one that keeps its status
  have haside : ∀ tt', TypeInv p tt' → TypeInv q tt' := by
    intro tt' htt'
    refine htt'.aside hm (fun hr => by cases hr) rfl ?_ (hout tt')
      (fun _ _ load _ _ => hshows load _) fun load hl => by cases hl
    intro _ d' hd'
    cases hd'
    intro hr
    cases hr
  constructor
  · rw [hw]
    exact h.keyed.modify fun _ => rfl
  · rw [hw]
    exact h.entries
  · intro x hx
    rcases hm.old hx with rfl | hold
    · show ∃ tt', q.world.findType t = some tt' ∧ tt'.concertId = tt.concertId
      rw [hfind, if_pos rfl, ht]
      exact ⟨qs.apply tt, rfl, rfl⟩
    · rw [hw]
      refine (h.ops x hold).change fun tt' ht' hr => ?_
      by_contra hne
      exact (hok tt' ht' hne).2 ⟨x, hold, hr⟩
  · intro t' tt' ht'
    rw [hfind] at ht'
    by_cases he : t' = t
    · rw [if_pos he, ht] at ht'
      cases ht'
      by_cases hs : statusOf (qs.apply tt) = statusOf tt
      · exact (haside tt (h.types t tt ht)).rewritten rfl rfl hs
      · obtain ⟨hcached, hidle⟩ := hok tt ht hs
        obtain ⟨zones, hz⟩ := Option.isSome_iff_exists.mp hcached
        obtain ⟨tt₀, -, rfl⟩ := h.entries _ _ _ hz
        rw [← hid] at hidle hz
        have hfresh : ¬ Outdated p.world tt := fun ho =>
          (h.types t tt ht).not_due hidle (.inl ho)
        have hstatus : statusOf tt₀ = statusOf tt := by
          by_contra hne
          exact hfresh ⟨statusOf tt₀, cachedStatus_of hz, hne⟩
        have hkeep : (qs.apply tt).id = tt.id := rfl
        refine typeInv_changed hm hkeep rfl hs hidle ?_ (by rw [hw]) ?_ ?_
        · rw [cachedStatus_of hz, hstatus]
        · show decide (t = tt.id) = true
          exact decide_eq_true hid.symm
        · rintro d' hd'
          cases hd'
          rfl
    · rw [if_neg he] at ht'
      exact haside tt' (h.types t' tt' ht')

/-- **A statement carried out** under the condition keeps the invariant. -/
theorem Inv.asked (h : Inv p) {timestamp : String} (hi : p.ops[i]? = some (.ask d))
    (hg : Announced.ask p timestamp d) :
    Inv ⟨(carryOut timestamp p.world d).1, p.ops.set i (carryOut timestamp p.world d).2⟩ := by
  have hm : ∀ (w : World) (prog : Op), Moves p ⟨w, p.ops.set i prog⟩ i d prog :=
    fun _ _ => ⟨hi, rfl⟩
  have hop : AskOk p.world d := h.ops _ (List.mem_of_getElem? hi)
  cases d with
  | change t qs =>
      simp only [carryOut]
      cases ht : p.world.findType t with
      | none =>
          refine h.loadKept (hm _ _) rfl trivial (fun _ => rfl) ?_ ?_
          · intro t' d' hd'
            cases hd'
          · intro load hl
            cases hl
      | some tt => exact h.changes hg ht (hm _ _) rfl
  | refreshFind c t =>
      obtain ⟨tt, ht, hc⟩ := hop
      simp only [carryOut, ht]
      have hid := findType_id ht
      refine h.refreshReads (hm _ _) rfl ?_ ?_ (fun _ => rfl) rfl ?_
      · refine ⟨tt, ?_, hc, rfl⟩
        rw [hid]
        exact ht
      · intro t' hr
        subst hid
        exact hr
      · intro _ _ _ _ d' hd' hr
        cases hd'
        cases hr
  | refreshOld c tt₀ =>
      obtain ⟨row, hrow, hrc, hstatus⟩ := hop
      simp only [carryOut]
      refine h.refreshReads (hm _ _) rfl ⟨row, hrow, hrc, hstatus⟩ (fun _ hr => hr)
        (fun _ => rfl) rfl ?_
      -- an outdated entry is read as it is
      intro t tt ht ho d' hd' hr
      cases hd'
      have hid : tt₀.id = tt.id := by simpa [Ask.hasRead] using hr
      rw [findType_id ht] at hid
      rw [hid, ht] at hrow
      cases hrow
      refine ⟨hid.trans (findType_id ht).symm, ?_⟩
      rw [hid, ← findType_id ht, ← hrc]
      exact ho
  | refreshDel c tt₀ old => exact h.deletes (hm _ _) rfl
  | refreshSet c tt₀ old => exact h.announces (hm _ _) rfl
  | listTypes load =>
      simp only [carryOut]
      refine h.loadKept (hm _ _) rfl ?_ (fun _ => rfl) (fun _ _ hd' => hasRead_next hd') ?_
      · refine Reads.next ⟨hop, ?_, ?_⟩
        · intro t ht
          obtain ⟨tt, htt, rfl⟩ := List.mem_map.mp ht
          rw [List.mem_filter, decide_eq_true_eq] at htt
          exact ⟨tt, RowTable.lookup_of_mem h.keyed htt.1, htt.2⟩
        · intro t tt ht hc
          left
          have hmem : tt ∈ p.world.ticketTypes := RowTable.lookup_mem ht
          rw [← findType_id ht]
          exact List.mem_map_of_mem (List.mem_filter.mpr ⟨hmem, decide_eq_true hc⟩)
      · intro load' hl
        rw [opLoad_next] at hl
        exact hl
  | readCached load t rest =>
      simp only [carryOut]
      cases hz : p.world.cache (load.concertId, t) with
      | some zones => exact h.hit hz (hm _ _) rfl
      | none =>
          refine h.loadKept (hm _ _) rfl hop (fun _ => rfl) ?_ fun _ hl => hl
          intro t' d' hd'
          cases hd'
          rfl
  | readFind load t rest =>
      have hreads : Reads p.world load (t :: rest) := hop
      obtain ⟨tt, ht, -⟩ := hreads.listed t List.mem_cons_self
      simp only [carryOut, ht]
      have hid := findType_id ht
      subst hid
      refine h.loadKept (hm _ _) rfl hop (fun _ => rfl) ?_ fun _ hl => hl
      intro t' d' hd'
      cases hd'
      rfl
  | readSet load tt₀ rest => exact h.fill hg (hm _ _) rfl

end

/-- **A step** under the condition keeps the invariant. -/
theorem Inv.step {p q : State} (h : Inv p) (hs : seatmap.Step Announced p q) : Inv q := by
  cases hs with
  | started r prog hg he =>
      cases he
      have hnew : ∀ (new : Op), OpOk p.world new →
          (∀ t, opRefreshes t new = false) → (∀ load, opLoad new = some load →
            ∀ t, load.shows p.world t = none) → Inv ⟨p.world, p.ops ++ [new]⟩ := by
        intro new hok hrefresh hload
        have hread : ∀ d : Ask, ∀ t, Prog.ask d = new → d.hasRead t = false := by
          rintro d t rfl
          cases hr : d.hasRead t with
          | false => rfl
          | true =>
              rw [← hrefresh t]
              exact (Ask.refreshes_of_hasRead hr).symm
        refine ⟨h.keyed, h.entries, ?_, fun t tt ht => ?_⟩
        · intro x hx
          rcases List.mem_append.mp hx with hold | hx
          · exact h.ops x hold
          · rw [List.mem_singleton.mp hx]
            exact hok
        have htt := h.types t tt ht
        have hdue : Due p tt → Due ⟨p.world, p.ops ++ [new]⟩ tt := fun hd =>
          hd.imp id fun ⟨d, hd, ho⟩ => ⟨d, List.mem_append_left _ hd, ho⟩
        constructor
        · intro ho
          obtain ⟨⟨x, hx, hxr⟩, hall⟩ := htt.outdated ho
          refine ⟨⟨x, List.mem_append_left _ hx, hxr⟩, ?_⟩
          intro d hd hr
          rcases List.mem_append.mp hd with hold | hx
          · exact hall d hold hr
          · rw [hread d tt.id (List.mem_singleton.mp hx)] at hr
            cases hr
        · intro x hx load hl hc y hy
          rcases List.mem_append.mp hx with hold | hx
          · exact (htt.shows x hold load hl hc y hy).imp id hdue
          · rw [List.mem_singleton.mp hx] at hl
            rw [hload load hl] at hy
            cases hy
      cases r with
      | change t qs => exact hnew _ trivial (fun _ => rfl) fun load hl => by cases hl
      | load c =>
          refine hnew _ le_rfl (fun _ => rfl) ?_
          intro load hl t
          cases hl
          -- nothing loaded, and no broadcast since
          simp [Load.shows, World.received, Load.view]
  | asked i timestamp d w' prog hi hg hd =>
      have hout : carryOut timestamp p.world d = (w', prog) := Option.some.inj hd
      have hinv := h.asked hi hg
      rw [hout] at hinv
      exact hinv
  | settled i hh rest hi => exact (h.ops _ (List.mem_of_getElem? hi)).elim
  | resolved i k ch ts t hh rest w' _ _ _ _ => exact isEmptyElim t
  | wentOn i k ch ts t t' hh rest w' _ _ _ _ => exact isEmptyElim t
  | threw i k ch ts t hh rest w' _ _ _ _ => exact isEmptyElim t
  | moved e hg =>
      have hout : ∀ tt, p.world.findType tt.id = some tt →
          (Outdated (p.world.del e.concertId e.ticketTypeId) tt ↔ Outdated p.world tt) := by
        intro tt ht
        by_cases hk : tt.concertId = e.concertId ∧ tt.id = e.ticketTypeId
        · have hfresh : ¬ Outdated p.world tt := hg tt (hk.2 ▸ ht) hk.1
          refine iff_of_false (not_outdated (.inl ?_)) hfresh
          rw [hk.1, hk.2, cachedStatus_del]
        · exact outdated_congr (cachedStatus_del_ne fun hc he => hk ⟨hc, he⟩)
      refine ⟨h.keyed, ?_, fun x hx => (h.ops x hx).mono rfl le_rfl, fun t tt ht => ?_⟩
      · intro c t zones hz
        by_cases hk : (c, t) = (e.concertId, e.ticketTypeId)
        · cases hk
          have hdel := hz.symm.trans (Function.update_self _ _ _)
          cases hdel
        · exact h.entries c t zones (hz.symm.trans (Function.update_of_ne hk _ _)).symm
      · have ht' : p.world.findType t = some tt := ht
        have hid := findType_id ht'
        subst hid
        have htt := h.types _ tt ht'
        have hiff := hout tt ht'
        refine ⟨fun ho => htt.outdated (hiff.mp ho), ?_⟩
        intro x hx load hl hc y hy
        exact (htt.shows x hx load hl hc y hy).imp id fun hd => hd.imp hiff.mpr id

/-! ## Runs -/

/-- A start: rows by id, entries as `set` writes them and none outdated, nothing sent
    and nothing under way. -/
structure Opening (p : State) : Prop where
  ops : p.ops = []
  keyed : RowTable.Keyed TicketType.id p.world.ticketTypes
  entries : ∀ c t zones, p.world.cache (c, t) = some zones →
    ∃ tt : TicketType, tt.id = t ∧ zones = computeZoneAvailability tt
  fresh : ∀ tt ∈ p.world.ticketTypes, ¬ Outdated p.world tt

/-- At the start everything holds. -/
theorem Opening.inv {p : State} (h : Opening p) : Inv p := by
  have hnone : ∀ x, x ∉ p.ops := by
    intro x hx
    rw [h.ops] at hx
    cases hx
  refine ⟨h.keyed, h.entries, fun x hx => absurd hx (hnone x), fun t tt ht => ⟨?_, ?_⟩⟩
  · intro ho
    exact absurd ho (h.fresh tt (RowTable.lookup_mem ht))
  · intro x hx
    exact absurd hx (hnone x)

/-- **Subscribers are up to date.**  In every run whose steps meet the condition, a
    subscriber that has loaded the map of a concert and applied every broadcast since
    shows, for every ticket type of the concert with no refresh under way, the status
    computed from the current row. -/
theorem subscribers_up_to_date {p q : State} (hp : Opening p) (hr : seatmap.Run Announced p q)
    {load : Load} (hload : .ret (.loaded load) ∈ q.ops) {tt : TicketType}
    (ht : tt ∈ q.world.ticketTypes) (hc : tt.concertId = load.concertId)
    (hidle : ¬ Refreshing tt.id q) : load.shows q.world tt.id = some (statusOf tt) := by
  have hinv : Inv q := hr.inv (fun _ _ h hs => h.step hs) hp.inv
  have hfind : q.world.findType tt.id = some tt := RowTable.lookup_of_mem hinv.keyed ht
  have hreads : Reads q.world load [] := hinv.ops _ hload
  have hknown : (load.shows q.world tt.id).isSome = true := by
    rcases hreads.cover tt.id tt hfind hc with hnil | hmem
    · cases hnil
    · exact shows_isSome hmem
  obtain ⟨x, hx⟩ := Option.isSome_iff_exists.mp hknown
  have htt := hinv.types tt.id tt hfind
  rcases htt.shows _ hload load rfl hc.symm x hx with hx' | hdue
  · rw [hx, hx']
  · exact absurd hdue (htt.not_due hidle)

/-! ### One ticket type -/

/-- A hundred seats, all free. -/
def stalls : TicketType where
  id := 5
  concertId := 1
  name := "Stalls"
  price := 100
  totalQty := 100
  soldQty := 0
  reservedQty := 0
  maxPerUser := 4
  saleStartsAt := 0
  saleEndsAt := none
  status := .active

/-- A house of one type. -/
def house : State := ⟨⟨[stalls], fun _ => none, []⟩, []⟩

/-- The house is a start. -/
theorem house_opening : Opening house where
  ops := rfl
  keyed := by simp [RowTable.Keyed, house]
  entries := fun _ _ _ h => by cases h
  fresh := fun _ _ => not_outdated (.inl rfl)

/-- A run can be checked for this, step by step. -/
instance (p : State) (r : Request) : Decidable (Announced.req p r) :=
  inferInstanceAs (Decidable True)
instance (p : State) (ch : String) : (d : Ask) → Decidable (Announced.ask p ch d)
  | .change .. => inferInstanceAs (Decidable (∀ _ ∈ _, _ → _))
  | .readSet .. => inferInstanceAs (Decidable (∀ _ ∈ _, _))
  | .refreshFind .. => inferInstanceAs (Decidable True)
  | .refreshOld .. => inferInstanceAs (Decidable True)
  | .refreshDel .. => inferInstanceAs (Decidable True)
  | .refreshSet .. => inferInstanceAs (Decidable True)
  | .listTypes .. => inferInstanceAs (Decidable True)
  | .readCached .. => inferInstanceAs (Decidable True)
  | .readFind .. => inferInstanceAs (Decidable True)
instance (p : State) (ch : String) (t : Empty) : Decidable (Announced.task p ch t) :=
  inferInstanceAs (Decidable True)
instance (p : State) (e : Expiry) : Decidable (Announced.env p e) :=
  inferInstanceAs (Decidable (∀ _ ∈ _, _ → _))

/-- A step of the seat map. -/
abbrev Move := Action String Request Expiry

/-- The first operation to its end, and the second. -/
def loadMap : List Move :=
  [.start (.load 1), .step 0 0 "t", .step 0 0 "t", .step 0 0 "t", .step 0 0 "t"]

/-- The last ticket is sold, and the map is refreshed. -/
def sellOut : List Move :=
  [.start (.change 5 ⟨100, 100, 0⟩), .step 1 0 "t", .step 1 0 "t", .step 1 0 "t", .step 1 0 "t",
    .step 1 0 "t"]

/-- A subscriber's load while tickets are left. -/
def loaded : Load := ⟨1, 0, computeZoneAvailability stalls⟩

/-- The row when all are sold. -/
def soldOut : TicketType := { stalls with soldQty := 100 }

/-- The map is loaded and the type sold out while the entry is cached. -/
theorem subscribers_up_to_date_soldOut :
    Opening house ∧ ∃ q, seatmap.Run Announced house q ∧ .ret (.loaded loaded) ∈ q.ops ∧
      soldOut ∈ q.world.ticketTypes ∧ ¬ Refreshing 5 q ∧
      loaded.shows q.world 5 = some .soldOut := by
  obtain ⟨q, hrun, hload, ht, hidle⟩ : ∃ q, seatmap.Run Announced house q ∧
      .ret (.loaded loaded) ∈ q.ops ∧ soldOut ∈ q.world.ticketTypes ∧ ¬ Refreshing 5 q :=
    exists_run (loadMap ++ sellOut) (fun q => .ret (.loaded loaded) ∈ q.ops ∧
      soldOut ∈ q.world.ticketTypes ∧ ¬ Refreshing 5 q) (by decide +kernel)
  exact ⟨house_opening, q, hrun, hload, ht, hidle,
    subscribers_up_to_date house_opening hrun hload ht rfl hidle⟩

/-- Four seconds later the entry has expired: the same sale is not announced, and the
    subscriber still shows free seats when the refresh is done. -/
theorem unannounced_after_expiry :
    Opening house ∧ ∃ q, seatmap.Run Guard.any house q ∧ .ret (.loaded loaded) ∈ q.ops ∧
      .ret (.refreshed none) ∈ q.ops ∧ soldOut ∈ q.world.ticketTypes ∧ ¬ Refreshing 5 q ∧
      loaded.shows q.world 5 = some .available ∧ statusOf soldOut = .soldOut :=
  ⟨house_opening, exists_run (loadMap ++ [.env ⟨1, 5⟩] ++ sellOut)
    (fun q => .ret (.loaded loaded) ∈ q.ops ∧ .ret (.refreshed none) ∈ q.ops ∧
      soldOut ∈ q.world.ticketTypes ∧ ¬ Refreshing 5 q ∧
      loaded.shows q.world 5 = some .available ∧ statusOf soldOut = .soldOut)
    (by decide +kernel)⟩

end TicketSeatmap
