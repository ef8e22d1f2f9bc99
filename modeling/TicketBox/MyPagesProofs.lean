import TicketBox.MyPages

/-! # Nothing is missed between two pages

    A customer leafs through a list that changes under him, and the rows of one instant
    come in another order at every request.  `Coming` is the invariant: a row is on a page
    that has been shown, or it stands beyond the page shown last, which is then not the
    last one.  It holds as long as the rows before this one do not become fewer, and as
    long as nothing comes between the two statements of a load in the wrong order.

    Main results: `every_ticket_is_shown`, `surely_on_page`. -/

namespace MyPages

open OffsetPages MyTickets
open TicketStore (UserId OrderId OrderStatus)
open TicketCheckin (TicketId)

section Page

variable {Row Resp Change Id : Type} (src : Source Row Resp Change Id)

/-! ## Places in the listing -/

/-- What decides the place of a row. -/
def Source.entry (row : Row) : Id × Nat := (src.id row, src.createdAt row)

/-- The listed rows by id and instant, in the order of the page. -/
def Source.entries (rows : List Row) : List (Id × Nat) := (src.listing rows).map src.entry

/-- Newer rows come first. -/
def entryKey (e : Id × Nat) : ℕᵒᵈ := OrderDual.toDual e.2

/-- How many rows of the listing are newer. -/
def Source.newer (e : Id × Nat) (rows : List Row) : Nat := before entryKey e (src.entries rows)

/-- The row is listed, and no other one is from its instant. -/
structure Standing (e : Id × Nat) (rows : List Row) : Prop where
  mem : e ∈ src.entries rows
  alone : upTo entryKey e (src.entries rows) = src.newer e rows + 1

/-- The page counts what it lists, and by the limit. -/
structure Regular : Prop where
  counts : ∀ row, src.listed row = true → src.counted row = true
  page : ∀ listing total query, (src.route listing total query).page = query.page
  totalPages : ∀ listing total query,
    (src.route listing total query).totalPages = (total + query.limit - 1) / query.limit

variable {src} {e : Id × Nat} {rows rows' listing : List Row} {s s' : ListPage Row Resp Id}

/-- An entry is one more than those before it. -/
theorem Standing.newer_lt_total (hsrc : Regular src) (h : Standing src e rows) :
    src.newer e rows < src.total rows := by
  have hlt : src.newer e rows < (src.entries rows).length := before_lt_length h.mem
  rw [Source.entries, List.length_map, Source.listing, ← List.countP_eq_length_filter] at hlt
  refine hlt.trans_le (List.countP_mono_left fun row _ hlisted => ?_)
  exact hsrc.counts row hlisted

/-- The ids on page `targetPage` of a listing. -/
def Source.pageIds (targetPage : Nat) (listing : List Row) : List Id :=
  (window ((targetPage - 1) * src.limit) src.limit listing).map src.id

/-- A row that is not on the page stands beyond it, if it does not stand before it. -/
theorem Standing.beyond (h : Standing src e rows)
    (harranged : Arranged (newestFirst src) (src.listing rows) listing) {targetPage : Nat}
    (hpos : 0 < targetPage) (hahead : (targetPage - 1) * src.limit ≤ src.newer e rows) :
    e.1 ∈ src.pageIds targetPage listing ∨ targetPage * src.limit ≤ src.newer e rows := by
  have hentries : Arranged entryKey (src.entries rows) (listing.map src.entry) :=
    Arranged.map (f := src.entry) harranged
  by_cases hmem : e ∈ window ((targetPage - 1) * src.limit) src.limit (listing.map src.entry)
  · left
    rw [window_map] at hmem
    obtain ⟨row, hrow, rfl⟩ := List.mem_map.mp hmem
    exact List.mem_map_of_mem hrow
  · right
    have hbeyond := hentries.unseen_beyond h.mem h.alone hahead hmem
    rw [← Nat.succ_mul, Nat.succ_eq_add_one, Nat.sub_add_cancel hpos] at hbeyond
    exact hbeyond

/-! ## The invariant -/

variable (src)

/-- A load under way will show the row, or stop before it. -/
structure Ahead (e : Id × Nat) (rows : List Row) (load : Load Row) : Prop where
  start : (load.targetPage - 1) * src.limit ≤ src.newer e rows
  found : ∀ listing, load.found = some listing → e.1 ∈ src.pageIds load.targetPage listing ∨
    load.targetPage * src.limit ≤ src.newer e rows ∧
      ∀ total, load.count = some total → load.targetPage * src.limit < total
  counted : load.found = none → ∀ total, load.count = some total → src.newer e rows < total

/-- The row has been shown, or is still to come. -/
structure Coming (e : Id × Nat) (s : ListPage Row Resp Id) : Prop where
  standing : Standing src e s.rows
  unloaded : s.loaded = false → s.page = 1 ∧ s.totalPages = 1
  shown : s.loaded = true → e.1 ∈ s.seen ∨
    s.page * src.limit ≤ src.newer e s.rows ∧ s.page < s.totalPages
  loads : e.1 ∈ s.seen ∨ ∀ load ∈ s.loads, Ahead src e s.rows load

/-- A change leaves the row listed and not fewer before it, and adds none before it between
    the count of a load and its listing. -/
structure Spares (e : Id × Nat) (s : ListPage Row Resp Id) (c : Change) : Prop where
  standing : Standing src e (src.apply c s.rows)
  newer_le : src.newer e s.rows ≤ src.newer e (src.apply c s.rows)
  between : (∃ load ∈ s.loads, load.found = none ∧ load.count.isSome) →
    src.newer e (src.apply c s.rows) ≤ src.newer e s.rows

/-- Every change spares the row. -/
def Sparing (e : Id × Nat) (s : ListPage Row Resp Id) : Move Row Change → Prop
  | .change c => Spares src e s c
  | _ => True

variable {src}

/-- A load that will show the entry still will. -/
theorem Ahead.changed {load : Load Row} (h : Ahead src e rows load)
    (hle : src.newer e rows ≤ src.newer e rows')
    (hbetween : load.found = none ∧ load.count.isSome → src.newer e rows' ≤ src.newer e rows) :
    Ahead src e rows' load where
  start := h.start.trans hle
  found := by
    intro listing hfound
    rcases h.found listing hfound with hshown | ⟨hbeyond, htotal⟩
    · exact .inl hshown
    · exact .inr ⟨hbeyond.trans hle, htotal⟩
  counted := by
    intro hfound total htotal
    have hle' := hbetween ⟨hfound, by rw [htotal]; rfl⟩
    exact hle'.trans_lt (h.counted hfound total htotal)

/-- A load that starts on a page that is not beyond the next one. -/
theorem ahead_started {targetPage : Nat} (hpos : 0 < targetPage)
    (hstart : (targetPage - 1) * src.limit ≤ src.newer e rows) :
    Ahead src e rows ⟨targetPage, hpos, none, none⟩ where
  start := hstart
  found _ h := by cases h
  counted _ _ h := by cases h

/-- A load of a page that is not past the entry. -/
theorem Coming.started (h : Coming src e s) {targetPage : Nat} (hpos : 0 < targetPage)
    (hstart : e.1 ∉ s.seen → (targetPage - 1) * src.limit ≤ src.newer e s.rows) :
    Coming src e (s.load targetPage hpos) := by
  refine { h with loads := ?_ }
  by_cases hseen : e.1 ∈ s.seen
  · exact .inl hseen
  · refine .inr fun load hload => ?_
    rcases List.mem_append.mp hload with hold | hnew
    · exact h.loads.resolve_left hseen load hold
    · rw [List.mem_singleton.mp hnew]
      exact ahead_started hpos (hstart hseen)

/-- The page is not past an entry that was not seen. -/
theorem Coming.page_le (h : Coming src e s) (hseen : e.1 ∉ s.seen) :
    (s.page - 1) * src.limit ≤ src.newer e s.rows := by
  cases hloaded : s.loaded with
  | false =>
      rw [(h.unloaded hloaded).1, Nat.sub_self, Nat.zero_mul]
      exact Nat.zero_le _
  | true =>
      obtain ⟨hpage, -⟩ := (h.shown hloaded).resolve_left hseen
      exact (Nat.mul_le_mul_right src.limit (Nat.sub_le s.page 1)).trans hpage

/-- Replacing one load. -/
theorem Coming.setLoad (h : Coming src e s) {i : Nat} {load' : Load Row}
    (hahead : e.1 ∉ s.seen → Ahead src e s.rows load') :
    Coming src e { s with loads := s.loads.set i load' } := by
  refine { h with loads := ?_ }
  by_cases hseen : e.1 ∈ s.seen
  · exact .inl hseen
  · refine .inr fun load hload => ?_
    rcases List.mem_or_eq_of_mem_set hload with hold | rfl
    · exact h.loads.resolve_left hseen load hold
    · exact hahead hseen

/-- A listing keeps the entry to come. -/
theorem Coming.found (h : Coming src e s) {i : Nat} {load : Load Row}
    (hi : s.loads[i]? = some load) (hnone : load.found = none)
    (harranged : Arranged (newestFirst src) (src.listing s.rows) listing) :
    Coming src e { s with loads := s.loads.set i { load with found := some listing } } := by
  refine h.setLoad fun hseen => ?_
  have hahead := h.loads.resolve_left hseen load (List.mem_of_getElem? hi)
  refine ⟨hahead.start, fun listing' hlisting' => ?_, fun hfound => by cases hfound⟩
  cases hlisting'
  rcases h.standing.beyond harranged load.targetPage_pos hahead.start with hshown | hbeyond
  · exact .inl hshown
  · exact .inr ⟨hbeyond, fun total htotal => hbeyond.trans_lt (hahead.counted hnone total htotal)⟩

/-- So does a count. -/
theorem Coming.counted (hsrc : Regular src) (h : Coming src e s) {i : Nat} {load : Load Row}
    (hi : s.loads[i]? = some load) :
    Coming src e
      { s with loads := s.loads.set i { load with count := some (src.total s.rows) } } := by
  have hlt := h.standing.newer_lt_total hsrc
  refine h.setLoad fun hseen => ?_
  have hahead := h.loads.resolve_left hseen load (List.mem_of_getElem? hi)
  refine ⟨hahead.start, fun listing hfound => ?_, fun hfound total htotal => ?_⟩
  · rcases hahead.found listing hfound with hshown | ⟨hbeyond, -⟩
    · exact .inl hshown
    · refine .inr ⟨hbeyond, fun total htotal => ?_⟩
      cases htotal
      exact hbeyond.trans_lt hlt
  · cases htotal
    exact hlt

/-- There is a page behind this one. -/
theorem lt_totalPages {page total limit : Nat} (hlimit : 0 < limit) (h : page * limit < total) :
    page < (total + limit - 1) / limit := by
  rw [Nat.lt_iff_add_one_le, Nat.le_div_iff_mul_le hlimit, Nat.succ_mul]
  omega

/-- The answer of a load is shown. -/
theorem Coming.answered (hsrc : Regular src) (h : Coming src e s) {i : Nat} {load : Load Row}
    {total : Nat} (hi : s.loads[i]? = some load) (hfound : load.found = some listing)
    (hcount : load.count = some total) :
    Coming src e (s.answered src i load listing total) := by
  have hloads : e.1 ∈ s.seen ∨ ∀ load ∈ s.loads.eraseIdx i, Ahead src e s.rows load := by
    rcases h.loads with hseen | hahead
    · exact .inl hseen
    · exact .inr fun load hload => hahead load (List.mem_of_mem_eraseIdx hload)
  refine ⟨h.standing, fun hloaded => absurd hloaded (by simp [ListPage.answered]), fun _ => ?_, ?_⟩
  · by_cases hseen : e.1 ∈ s.seen
    · exact .inl (List.mem_append_left _ hseen)
    · have hahead := h.loads.resolve_left hseen load (List.mem_of_getElem? hi)
      rcases hahead.found listing hfound with hshown | ⟨hbeyond, htotal⟩
      · exact .inl (List.mem_append_right _ hshown)
      · right
        have hpage : (s.answered src i load listing total).page = load.targetPage :=
          hsrc.page listing total (src.query load)
        have hpages : (s.answered src i load listing total).totalPages
            = (total + src.limit - 1) / src.limit :=
          hsrc.totalPages listing total (src.query load)
        rw [hpage, hpages]
        exact ⟨hbeyond, lt_totalPages src.limit_pos (htotal total hcount)⟩
  · rcases hloads with hseen | hahead
    · exact .inl (List.mem_append_left _ hseen)
    · exact .inr hahead

/-- **One step** keeps the invariant. -/
theorem Coming.step [DecidableEq Row] (hsrc : Regular src) (h : Coming src e s) {m : Move Row Change}
    (hm : Sparing src e s m) (hs : step src s m = some s') : Coming src e s' := by
  cases m with
  | change c =>
      cases hs
      obtain ⟨hstanding, hle, hbetween⟩ := hm
      refine ⟨hstanding, h.unloaded, fun hloaded => ?_, ?_⟩
      · rcases h.shown hloaded with hseen | ⟨hpage, hlast⟩
        · exact .inl hseen
        · exact .inr ⟨hpage.trans hle, hlast⟩
      · rcases h.loads with hseen | hahead
        · exact .inl hseen
        · refine .inr fun load hload => (hahead load hload).changed hle ?_
          exact fun hcounted => hbetween ⟨load, hload, hcounted⟩
  | «open» =>
      cases hs
      refine h.started Nat.one_pos fun _ => ?_
      rw [Nat.sub_self, Nat.zero_mul]
      exact Nat.zero_le _
  | next =>
      simp only [MyPages.step] at hs
      split at hs
      · next hnext =>
        cases hs
        refine h.started (Nat.succ_pos s.page) fun hseen => ?_
        show s.page * src.limit ≤ _
        cases hloaded : s.loaded with
        | false =>
            -- before the first answer there is one page
            obtain ⟨hpage, hpages⟩ := h.unloaded hloaded
            have hlt := hnext.2.2
            rw [hpage, hpages] at hlt
            exact absurd hlt (lt_irrefl 1)
        | true => exact ((h.shown hloaded).resolve_left hseen).1
      · cases hs
  | previous =>
      simp only [MyPages.step] at hs
      split at hs
      · cases hs
        refine h.started _ fun hseen => ?_
        exact (Nat.mul_le_mul_right src.limit (Nat.sub_le _ 1)).trans (h.page_le hseen)
      · cases hs
  | reload =>
      simp only [MyPages.step] at hs
      split at hs
      · cases hs
        exact h.started _ fun hseen => h.page_le hseen
      · cases hs
  | find i listing =>
      obtain ⟨load, hi, hs⟩ := Option.bind_eq_some_iff.mp hs
      split at hs
      · next hfind =>
        cases hs
        exact h.found hi hfind.1 hfind.2
      · cases hs
  | count i =>
      obtain ⟨load, hi, hs⟩ := Option.bind_eq_some_iff.mp hs
      split at hs
      · cases hs
        exact h.counted hsrc hi
      · cases hs
  | respond i =>
      obtain ⟨load, hi, hs⟩ := Option.bind_eq_some_iff.mp hs
      split at hs
      · next listing total hfound hcount =>
        cases hs
        exact h.answered hsrc hi hfound hcount
      · cases hs
  | fail i =>
      obtain ⟨load, hi, rfl⟩ := Option.map_eq_some_iff.mp hs
      refine { h with loads := ?_ }
      rcases h.loads with hseen | hahead
      · exact .inl hseen
      · exact .inr fun load hload => hahead load (List.mem_of_mem_eraseIdx hload)

/-- Only a change touches the table. -/
theorem rows_of_step [DecidableEq Row] {m : Move Row Change} (hm : ∀ c, m ≠ .change c)
    (hs : step src s m = some s') : s'.rows = s.rows := by
  cases m with
  | change c => exact absurd rfl (hm c)
  | «open» =>
      cases hs
      rfl
  | next =>
      simp only [MyPages.step] at hs
      split at hs <;> cases hs
      rfl
  | previous =>
      simp only [MyPages.step] at hs
      split at hs <;> cases hs
      rfl
  | reload =>
      simp only [MyPages.step] at hs
      split at hs <;> cases hs
      rfl
  | find i listing =>
      obtain ⟨load, -, hs⟩ := Option.bind_eq_some_iff.mp hs
      split at hs <;> cases hs
      rfl
  | count i =>
      obtain ⟨load, -, hs⟩ := Option.bind_eq_some_iff.mp hs
      split at hs <;> cases hs
      rfl
  | respond i =>
      obtain ⟨load, -, hs⟩ := Option.bind_eq_some_iff.mp hs
      split at hs <;> cases hs
      rfl
  | fail i =>
      obtain ⟨load, -, rfl⟩ := Option.map_eq_some_iff.mp hs
      rfl

/-- A page before its first load. -/
structure Fresh (s : ListPage Row Resp Id) : Prop where
  page : s.page = 1
  totalPages : s.totalPages = 1
  loads : s.loads = []
  loaded : s.loaded = false

/-- A page just opened has every entry to come. -/
theorem Fresh.coming (h : Fresh s) (hstanding : Standing src e s.rows) : Coming src e s where
  standing := hstanding
  unloaded _ := ⟨h.page, h.totalPages⟩
  shown hloaded := by
    rw [h.loaded] at hloaded
    cases hloaded
  loads := by
    rw [h.loads]
    exact .inr fun load hload => by cases hload

/-- Who has come to the last page has seen the row. -/
theorem Coming.seen (h : Coming src e s) (hloaded : s.loaded = true)
    (hlast : s.totalPages ≤ s.page) : e.1 ∈ s.seen := by
  rcases h.shown hloaded with hseen | ⟨-, hlt⟩
  · exact hseen
  · exact absurd hlt (Nat.not_lt.mpr hlast)

/-! ## The listing from an instant on -/

variable (src)

/-- No other row of the listing is from its instant. -/
def Alone (e : Id × Nat) (rows : List Row) : Prop := ∀ x ∈ src.entries rows, x.2 = e.2 → x = e

/-- What decides how many are newer, and whether the row is alone. -/
def Source.front (e : Id × Nat) (rows : List Row) : List (Id × Nat) :=
  (src.entries rows).filter fun x => e.2 ≤ x.2

variable {src}

/-- The entries in front of one, and itself. -/
theorem mem_front {x : Id × Nat} :
    x ∈ src.front e rows ↔ x ∈ src.entries rows ∧ e.2 ≤ x.2 := by
  rw [Source.front, List.mem_filter, decide_eq_true_eq]

/-- Those before it, counted among them. -/
theorem newer_eq_front : src.newer e rows = before entryKey e (src.front e rows) := by
  rw [Source.newer, before, before, Source.front, List.countP_filter]
  refine List.countP_congr fun x _ => ?_
  have hlt : entryKey x < entryKey e ↔ e.2 < x.2 := OrderDual.toDual_lt_toDual
  simp only [hlt, Bool.and_eq_true, decide_eq_true_eq]
  exact ⟨fun h => ⟨h, Nat.le_of_lt h⟩, fun h => h.1⟩

/-- The same as a filter of the rows. -/
theorem front_eq_filter : src.front e rows
    = (rows.filter fun r => src.listed r ∧ e.2 ≤ src.createdAt r).map src.entry := by
  rw [Source.front, Source.entries, Source.listing, List.filter_map, List.filter_filter]
  congr 1
  refine List.filter_congr fun r _ => ?_
  show (decide (e.2 ≤ src.createdAt r) && src.listed r) = _
  rw [Bool.and_comm, Bool.decide_and, Bool.decide_eq_true]

/-- With fewer entries in front it is still the only one of its instant. -/
theorem Alone.of_front (h : Alone src e rows')
    (hfront : (src.front e rows).Sublist (src.front e rows')) : Alone src e rows := by
  intro x hx htime
  have hmem : x ∈ src.front e rows := mem_front.mpr ⟨hx, le_of_eq htime.symm⟩
  exact h x (mem_front.mp (hfront.mem hmem)).1 htime

/-- No entry is listed twice. -/
theorem entries_nodup (hkeyed : RowTable.Keyed src.id rows) : (src.entries rows).Nodup := by
  refine List.Nodup.of_map Prod.fst ?_
  rw [Source.entries, List.map_map]
  exact hkeyed.sublist ((List.filter_sublist (p := src.listed)).map src.id)

/-- An entry with its instant to itself has a place of its own. -/
theorem standing_of_alone (hkeyed : RowTable.Keyed src.id rows) (hmem : e ∈ src.entries rows)
    (halone : Alone src e rows) : Standing src e rows := by
  refine ⟨hmem, upTo_of_alone (entries_nodup hkeyed) hmem fun x hx hkey => ?_⟩
  exact halone x hx (OrderDual.toDual_inj.mp hkey)

/-! ## Changes that do no harm -/

variable (src)

/-- From the row's instant on, nothing goes, and nothing comes between the count of a load
    and its listing. -/
structure Harmless (e : Id × Nat) (s : ListPage Row Resp Id) (c : Change) : Prop where
  keyed : RowTable.Keyed src.id s.rows → RowTable.Keyed src.id (src.apply c s.rows)
  front : (src.front e s.rows).Sublist (src.front e (src.apply c s.rows))
  between : (∃ load ∈ s.loads, load.found = none ∧ load.count.isSome) →
    src.front e (src.apply c s.rows) = src.front e s.rows

/-- What a page keeps, whatever the customer does. -/
structure Leafing (e : Id × Nat) (s : ListPage Row Resp Id) : Prop where
  keyed : RowTable.Keyed src.id s.rows
  mem : e ∈ src.entries s.rows
  coming : Alone src e s.rows → Coming src e s

variable {src}

/-- Every step keeps the entry to come, or it has been seen. -/
theorem Leafing.step [DecidableEq Row] (hsrc : Regular src) (h : Leafing src e s)
    {m : Move Row Change} (hm : ∀ c, m = .change c → Harmless src e s c)
    (hs : step src s m = some s') : Leafing src e s' := by
  by_cases hchange : ∃ c, m = .change c
  · obtain ⟨c, rfl⟩ := hchange
    obtain ⟨hkeyed, hfront, hbetween⟩ := hm c rfl
    cases hs
    have hkeyed' := hkeyed h.keyed
    have hmem' : e ∈ src.entries (src.apply c s.rows) := by
      have hin : e ∈ src.front e s.rows := mem_front.mpr ⟨h.mem, le_refl _⟩
      exact (mem_front.mp (hfront.mem hin)).1
    refine ⟨hkeyed', hmem', fun halone' => ?_⟩
    have hspares : Spares src e s c := by
      refine ⟨standing_of_alone hkeyed' hmem' halone', ?_, fun hcounted => ?_⟩
      · rw [newer_eq_front, newer_eq_front]
        exact hfront.countP_le
      · rw [newer_eq_front, newer_eq_front, hbetween hcounted]
    exact (h.coming (halone'.of_front hfront)).step hsrc (m := .change c) hspares rfl
  · have hsame : ∀ c, m ≠ .change c := fun c hc => hchange ⟨c, hc⟩
    have hrows := rows_of_step hsame hs
    refine ⟨?_, ?_, fun halone => ?_⟩
    · rw [hrows]
      exact h.keyed
    · rw [hrows]
      exact h.mem
    · rw [hrows] at halone
      refine (h.coming halone).step hsrc ?_ hs
      cases m with
      | change c => exact absurd rfl (hsame c)
      | _ => trivial

/-- **Nothing is missed**: who has come to the last page has seen every row of the start,
    if every change on the way was harmless to it and it is alone in the end. -/
theorem seen_of_run [DecidableEq Row] {C : ListPage Row Resp Id → Move Row Change → Prop}
    {s₀ : ListPage Row Resp Id} (hsrc : Regular src)
    (hC : ∀ s c, C s (.change c) → Harmless src e s c) (h₀ : Fresh s₀)
    (hkeyed : RowTable.Keyed src.id s₀.rows) (hmem : e ∈ src.entries s₀.rows)
    (hrun : Machine.RunIf (MyPages.step src) C s₀ s) (halone : Alone src e s.rows)
    (hloaded : s.loaded = true) (hlast : s.totalPages ≤ s.page) : e.1 ∈ s.seen := by
  have hleafing : Leafing src e s := by
    refine hrun.inv (I := Leafing src e) (fun s m s' h hm hs => ?_) ?_
    · exact h.step hsrc (fun c hc => hC s c (hc ▸ hm)) hs
    · exact ⟨hkeyed, hmem, fun halone => h₀.coming (standing_of_alone hkeyed hmem halone)⟩
  exact (hleafing.coming halone).seen hloaded hlast

/-! ## What a change of the table does -/

variable {id : Id} {new : Row} {f : Row → Row} {c : Change}

/-- A change that leaves the front alone is harmless. -/
theorem harmless_of_front
    (hkeyed : RowTable.Keyed src.id s.rows → RowTable.Keyed src.id (src.apply c s.rows))
    (hfront : src.front e (src.apply c s.rows) = src.front e s.rows) : Harmless src e s c :=
  ⟨hkeyed, by rw [hfront], fun _ => hfront⟩

variable [DecidableEq Id]

/-- A new row, if its id is new, that does not come between. -/
theorem harmless_of_append (happly : src.apply c s.rows = s.rows ∨
      (∀ r ∈ s.rows, src.id r ≠ src.id new) ∧ src.apply c s.rows = s.rows ++ [new])
    (hnone : ∀ load ∈ s.loads, ¬ (load.found = none ∧ load.count.isSome)) :
    Harmless src e s c := by
  refine ⟨?_, ?_, fun ⟨load, hload, hcounted⟩ => absurd hcounted (hnone load hload)⟩
  all_goals rcases happly with hsame | ⟨hnew, happended⟩
  · rw [hsame]
    exact fun hkeyed => hkeyed
  · rw [happended]
    exact fun hkeyed => hkeyed.append (RowTable.lookup_eq_none.mpr hnew)
  · rw [hsame]
  · rw [happended, front_eq_filter, front_eq_filter, List.filter_append, List.map_append]
    exact List.sublist_append_left _ _

/-- An update that moves no row, and takes none out of the listing or into it from the
    instant on. -/
theorem front_modify (hentry : ∀ r, src.entry (f r) = src.entry r)
    (hlisted : ∀ r ∈ rows, src.id r = id → e.2 ≤ src.createdAt r →
      src.listed (f r) = src.listed r) :
    src.front e (RowTable.modify src.id id f rows) = src.front e rows := by
  have hcreatedAt : ∀ r, src.createdAt (f r) = src.createdAt r := fun r =>
    congrArg Prod.snd (hentry r)
  rw [front_eq_filter, front_eq_filter, RowTable.modify, List.filter_map, List.map_map]
  have hfilter : rows.filter ((fun r => decide (src.listed r ∧ e.2 ≤ src.createdAt r)) ∘
        fun r => if src.id r = id then f r else r)
      = rows.filter fun r => src.listed r ∧ e.2 ≤ src.createdAt r := by
    refine List.filter_congr fun r hr => ?_
    by_cases hid : src.id r = id
    · by_cases htime : e.2 ≤ src.createdAt r
      · simp [hid, hcreatedAt, htime, hlisted r hr hid htime]
      · simp [hid, hcreatedAt, htime]
    · simp [hid]
  rw [hfilter]
  refine List.map_congr_left fun r _ => ?_
  by_cases hid : src.id r = id
  · simp [hid, hentry]
  · simp [hid]

end Page

/-! ## Tickets -/

section Tickets

variable {userId : UserId} {row : TicketRow} {rows : List TicketRow}
  {s₀ s : ListPage TicketRow TicketResponseDto TicketId}

/-- The list of tickets counts what it lists. -/
theorem myTickets_regular (userId : UserId) : Regular (myTickets userId) :=
  ⟨fun _ h => h, fun _ _ _ => rfl, fun _ _ _ => rfl⟩

/-- No load has its count and waits for its listing when a ticket is issued. -/
def NoneBetween (s : ListPage TicketRow TicketResponseDto TicketId) :
    Move TicketRow TicketChange → Prop
  | .change (.issue _) => ∀ load ∈ s.loads, ¬ (load.found = none ∧ load.count.isSome)
  | _ => True

/-- A run can be checked for loads that nothing comes between. -/
instance (s : ListPage TicketRow TicketResponseDto TicketId) (m : Move TicketRow TicketChange) :
    Decidable (NoneBetween s m) :=
  match m with
  | .change (.issue _) =>
      inferInstanceAs (Decidable (∀ load ∈ s.loads, ¬ (load.found = none ∧ load.count.isSome)))
  | .change (.update ..) | .open | .next | .previous | .reload | .find .. | .count _ | .respond _
  | .fail _ => inferInstanceAs (Decidable True)

/-- No other ticket of the customer is from the instant of this one. -/
def AloneIn (userId : UserId) (row : TicketRow) (rows : List TicketRow) : Prop :=
  ∀ r ∈ rows, r.userId = userId → r.createdAt = row.createdAt → r.id = row.id

/-- The entries are the tickets of the user. -/
theorem mem_ticket_entries {e : TicketId × Nat} :
    e ∈ (myTickets userId).entries rows ↔
      ∃ r ∈ rows, r.userId = userId ∧ (r.id, r.createdAt) = e := by
  simp only [Source.entries, Source.listing, Source.entry, myTickets, List.mem_map,
    List.mem_filter, decide_eq_true_eq, and_assoc]

/-- A ticket of its own instant is an entry of its own instant. -/
theorem AloneIn.alone (h : AloneIn userId row rows) :
    Alone (myTickets userId) (row.id, row.createdAt) rows := by
  intro x hx htime
  obtain ⟨r, hr, howner, rfl⟩ := mem_ticket_entries.mp hx
  exact Prod.ext (h r hr howner htime) htime

/-- What issuing does to the list. -/
theorem issue_cases (new : TicketRow) (rows : List TicketRow) :
    (TicketChange.issue new).apply rows = rows ∨
      (∀ r ∈ rows, r.id ≠ new.id) ∧ (TicketChange.issue new).apply rows = rows ++ [new] := by
  simp only [TicketChange.apply]
  by_cases hold : ∃ r ∈ rows, r.id = new.id
  · exact .inl (if_pos hold)
  · exact .inr ⟨fun r hr hid => hold ⟨r, hr, hid⟩, if_neg hold⟩

/-- No ticket issued between count and listing does no harm. -/
theorem harmless_of_noneBetween {e : TicketId × Nat} {c : TicketChange}
    (h : NoneBetween s (.change c)) : Harmless (myTickets userId) e s c := by
  cases c with
  | issue new => exact harmless_of_append (issue_cases new s.rows) h
  | update id status checkedInAt gateId qrSignature =>
      refine harmless_of_front (fun hkeyed => hkeyed.modify fun _ => rfl) ?_
      -- the place of a ticket is not among what changes of it
      exact front_modify (fun _ => rfl) fun _ _ _ _ => rfl

/-- **Every ticket is shown.**  A customer opens his tickets and leafs through them, back and
    forth, over failed loads and tries again, until he is on the last page by the page's own
    count.  Whatever was issued, checked in or moved meanwhile, and however the rows of one
    instant were put in order, he has been shown every ticket that he had at the start and
    whose instant no other of his tickets shares, unless one was issued between the count of
    a load and its listing. -/
theorem every_ticket_is_shown (h₀ : Fresh s₀)
    (hkeyed : RowTable.Keyed (fun r : TicketRow => r.id) s₀.rows)
    (hrun : Machine.RunIf (step (myTickets userId)) NoneBetween s₀ s)
    (hrow : row ∈ s₀.rows) (howner : row.userId = userId) (halone : AloneIn userId row s.rows)
    (hloaded : s.loaded = true) (hlast : s.totalPages ≤ s.page) : row.id ∈ s.seen := by
  have hmem : (row.id, row.createdAt) ∈ (myTickets userId).entries s₀.rows :=
    mem_ticket_entries.mpr ⟨row, hrow, howner, rfl⟩
  exact seen_of_run (myTickets_regular userId) (fun _ _ h => harmless_of_noneBetween h) h₀ hkeyed
    hmem hrun halone.alone hloaded hlast

/-- **What a page surely holds**: page `page` of `getMyTickets` has a ticket, in whatever order
    the rows of one instant come, exactly if the customer's newer tickets fill the pages
    before it, and those of its own instant end on it. -/
theorem surely_on_page (hkeyed : RowTable.Keyed (fun r : TicketRow => r.id) rows)
    (hrow : row ∈ rows) (howner : row.userId = userId) (total : Nat) (query : PageQuery) :
    (∀ listing, Arranged (newestFirst (myTickets userId)) ((myTickets userId).listing rows) listing →
      row.id ∈ (getMyTickets listing total query).data.map TicketResponseDto.id) ↔
    (query.page - 1) * query.limit ≤
        rows.countP (fun r => r.userId = userId ∧ row.createdAt < r.createdAt) ∧
      rows.countP (fun r => r.userId = userId ∧ row.createdAt ≤ r.createdAt) ≤
        query.page * query.limit := by
  let src := myTickets userId
  have hlisted : row ∈ src.listing rows := List.mem_filter.mpr ⟨hrow, decide_eq_true howner⟩
  have hnodup : (src.listing rows).Nodup := (List.Nodup.of_map _ hkeyed).filter _
  -- places in the listing, counted over the whole table
  have hnewer : before (newestFirst src) row (src.listing rows)
      = rows.countP (fun r => r.userId = userId ∧ row.createdAt < r.createdAt) := by
    rw [before, Source.listing, List.countP_filter]
    refine List.countP_congr fun r _ => ?_
    simp [src, newestFirst, myTickets, and_comm]
  have hupTo : upTo (newestFirst src) row (src.listing rows)
      = rows.countP (fun r => r.userId = userId ∧ row.createdAt ≤ r.createdAt) := by
    rw [upTo, Source.listing, List.countP_filter]
    refine List.countP_congr fun r _ => ?_
    simp [src, newestFirst, myTickets, and_comm]
  have hend : (query.page - 1) * query.limit + query.limit = query.page * query.limit := by
    rw [← Nat.succ_mul, Nat.succ_eq_add_one, Nat.sub_add_cancel query.page_pos]
  -- the page of a listing is a window of it
  have hpage : ∀ listing, Arranged (newestFirst src) (src.listing rows) listing →
      (row.id ∈ (getMyTickets listing total query).data.map TicketResponseDto.id ↔
        row ∈ window ((query.page - 1) * query.limit) query.limit listing) := by
    intro listing harranged
    rw [getMyTickets, listResponse, List.map_map]
    constructor
    · intro hid
      obtain ⟨r, hr, hrid⟩ := List.mem_map.mp hid
      have hmem : r ∈ rows := by
        have hin : r ∈ listing := List.mem_of_mem_drop (List.mem_of_mem_take hr)
        exact (List.mem_filter.mp (harranged.perm.mem_iff.mp hin)).1
      have hsame : r = row := RowTable.eq_of_key hkeyed hmem hrow hrid
      exact hsame ▸ hr
    · intro hmem
      exact List.mem_map.mpr ⟨row, hmem, rfl⟩
  rw [← hnewer, ← hupTo, ← hend, ← surely_on_page_iff hnodup hlisted]
  exact forall_congr' fun listing => forall_congr' fun harranged => hpage listing harranged

/-- The ticket that was issued at this instant. -/
def issuedAt (createdAt : Nat) : TicketRow where
  id := s!"t{createdAt}"
  concertId := 1
  ticketTypeName := "VIP"
  gateId := some "A"
  qrTokenHash := ""
  qrSignature := none
  status := .issued
  checkedInAt := none
  orderId := 1
  qrRawToken := ""
  userId := 1
  ticketTypeId := 1
  createdAt := createdAt

/-- The tickets have different ids. -/
theorem keyed_issued :
    RowTable.Keyed (fun r : TicketRow => r.id) ((List.range 21).map issuedAt) := by
  decide +kernel

/-- The oldest is among them. -/
theorem oldest_issued : issuedAt 0 ∈ (List.range 21).map issuedAt :=
  List.mem_map_of_mem (by decide)

/-- The oldest ticket is on the second page. -/
theorem surely_on_page_oldest :
    RowTable.Keyed (fun r : TicketRow => r.id) ((List.range 21).map issuedAt) ∧
      ∀ listing, Arranged (newestFirst (myTickets 1))
          ((myTickets 1).listing ((List.range 21).map issuedAt)) listing →
        "t0" ∈ (getMyTickets listing 21 ⟨2, 20, Nat.two_pos, by decide⟩).data.map
          TicketResponseDto.id := by
  have howner : (issuedAt 0).userId = 1 := rfl
  constructor
  · exact keyed_issued
  · exact (surely_on_page keyed_issued oldest_issued howner 21 _).mpr
      ⟨by decide +kernel, by decide +kernel⟩

/-- A customer with 21 tickets, on two pages. -/
def twoPages : ListPage TicketRow TicketResponseDto TicketId where
  rows := (List.range 21).map issuedAt

/-- Between the pages one more is issued. -/
def leafingThrough : List (Move TicketRow TicketChange) :=
  [.open, .find 0 ((List.range 21).map issuedAt).reverse, .count 0, .respond 0,
    .change (.issue (issuedAt 21)),
    .next, .find 0 ((List.range 22).map issuedAt).reverse, .count 0, .respond 0]

/-- It is seen by leafing through both pages. -/
theorem every_ticket_is_shown_leafingThrough :
    ∃ s, Machine.RunIf (step (myTickets 1)) NoneBetween twoPages s ∧ "t0" ∈ s.seen := by
  obtain ⟨s, hrun, hlast⟩ : ∃ s, Machine.RunIf (step (myTickets 1)) NoneBetween twoPages s ∧
      (∀ r ∈ s.rows, r.userId = 1 → r.createdAt = 0 → r.id = "t0") ∧ s.loaded = true ∧
        s.totalPages ≤ s.page :=
    Machine.exists_runIf leafingThrough _ (by decide +kernel)
  have hfresh : Fresh twoPages := ⟨rfl, rfl, rfl, rfl⟩
  exact ⟨s, hrun, every_ticket_is_shown hfresh keyed_issued hrun oldest_issued rfl hlast.1
    hlast.2.1 hlast.2.2⟩

end Tickets

end MyPages
