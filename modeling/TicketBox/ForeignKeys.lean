import TicketBox.RowTable
import Mathlib.Logic.Function.Basic

/-! # Tables with foreign keys

    A database is a list of rows for each table.  A schema names the columns that
    refer to rows of other tables, and says for each what becomes of the referring
    row when the row it refers to is deleted: the deletion is refused, the row goes
    with it, or its column is set to null.

    Insertions, updates and deletions keep every reference to a row that is there
    (`Sound`), and a deletion touches only the rows that refer to what it deletes. -/

namespace ForeignKeys

variable {T K : Type} {Row : T → Type}

/-! ## Schemas -/

/-- What the deletion of a row does to a row that refers to it. -/
inductive OnDelete (R : Type) where
  | restrict
  | cascade
  | setNull (clear : R → R)

/-- The key refuses the removal of what it refers to. -/
def OnDelete.isRestrict {R : Type} : OnDelete R → Bool
  | .restrict => true
  | _ => false

/-- The key removes the rows that refer. -/
def OnDelete.isCascade {R : Type} : OnDelete R → Bool
  | .cascade => true
  | _ => false

/-- A column of table `t` whose values, where there are any, are keys of `target`. -/
structure ForeignKey (K : Type) (Row : T → Type) (t : T) where
  target : T
  column : Row t → Option K
  onDelete : OnDelete (Row t)

/-- The tables, their keys and their foreign keys.  Setting a column to null touches no
    key and sets no other column, and what a cascade deletes nothing refers to. -/
structure Schema (T K : Type) (Row : T → Type) where
  tables : List T
  id : (t : T) → Row t → K
  keys : (t : T) → List (ForeignKey K Row t)
  complete : ∀ t, t ∈ tables
  clear_id : ∀ t, ∀ fk ∈ keys t, ∀ clear, fk.onDelete = .setNull clear →
    ∀ r, id t (clear r) = id t r
  clear_self : ∀ t, ∀ fk ∈ keys t, ∀ clear, fk.onDelete = .setNull clear →
    ∀ r, fk.column (clear r) = none
  clear_column : ∀ t, ∀ fk ∈ keys t, ∀ clear, fk.onDelete = .setNull clear →
    ∀ fk' ∈ keys t, ∀ r, fk'.column (clear r) = fk'.column r ∨ fk'.column (clear r) = none
  cascade_leaf : ∀ t, ∀ fk ∈ keys t, fk.onDelete.isCascade = true →
    ∀ t', ∀ fk' ∈ keys t', fk'.target ≠ t

/-- The rows of each table. -/
abbrev Tables (Row : T → Type) := (t : T) → List (Row t)

variable {S : Schema T K Row} {db db' : Tables Row} {t t' : T}

/-- Every reference is to a row that is there. -/
def Sound (S : Schema T K Row) (db : Tables Row) : Prop :=
  ∀ t, ∀ fk ∈ S.keys t, ∀ r ∈ db t, ∀ k ∈ fk.column r, ∃ r' ∈ db fk.target, S.id fk.target r' = k

/-- No two rows of a table share a key. -/
def Keyed (S : Schema T K Row) (db : Tables Row) : Prop := ∀ t, RowTable.Keyed (S.id t) (db t)

section

variable [DecidableEq T]

/-! ## Deletions -/

/-- The row refers to one of the keys of table `t` that are `gone`. -/
def ForeignKey.hits (fk : ForeignKey K Row t') (t : T) (gone : K → Bool) (r : Row t') : Bool :=
  decide (fk.target = t) && (fk.column r).any gone

/-- A row hits the rows that are gone if its column names one of them. -/
theorem hits_iff {fk : ForeignKey K Row t'} {gone : K → Bool} {r : Row t'} :
    fk.hits t gone r = true ↔ fk.target = t ∧ ∃ k ∈ fk.column r, gone k = true := by
  rw [ForeignKey.hits, Bool.and_eq_true, decide_eq_true_iff]
  cases fk.column r with
  | none => simp
  | some k => simp

/-- A row refers to what is to be deleted and does not let it go. -/
def Refused (S : Schema T K Row) (t : T) (gone : K → Bool) (db : Tables Row) : Prop :=
  ∃ t' ∈ S.tables, ∃ fk ∈ S.keys t', fk.onDelete.isRestrict = true ∧
    ∃ r ∈ db t', fk.hits t gone r = true

/-- The database looks for a row that refers. -/
instance (S : Schema T K Row) (t : T) (gone : K → Bool) (db : Tables Row) :
    Decidable (Refused S t gone db) :=
  inferInstanceAs (Decidable (∃ t' ∈ S.tables, ∃ fk ∈ S.keys t', _ ∧ ∃ r ∈ db t', _))

/-- The row is not deleted, neither itself nor with the row it refers to. -/
def kept (S : Schema T K Row) (t : T) (gone : K → Bool) (t' : T) (r : Row t') : Bool :=
  !(decide (t' = t) && gone (S.id t' r)) &&
    !(S.keys t').any fun fk => fk.onDelete.isCascade && fk.hits t gone r

/-- One foreign key's part in `nulled`. -/
def nullKey (t : T) (gone : K → Bool) (fk : ForeignKey K Row t') (r : Row t') : Row t' :=
  match fk.onDelete with
  | .setNull clear => if fk.hits t gone r then clear r else r
  | _ => r

/-- The row with its references to what is gone set to null. -/
def nulled (S : Schema T K Row) (t : T) (gone : K → Bool) (t' : T) (r : Row t') : Row t' :=
  (S.keys t').foldr (nullKey t gone) r

/-- The tables after the rows of `t` with the keys `gone` are deleted. -/
def dropRows (S : Schema T K Row) (t : T) (gone : K → Bool) (db : Tables Row) : Tables Row :=
  fun t' => ((db t').filter (kept S t gone t')).map (nulled S t gone t')

/-- The keys of the rows that a deletion is about. -/
def keysWhere [DecidableEq K] (S : Schema T K Row) (t : T) (p : Row t → Bool) (db : Tables Row)
    (k : K) : Bool :=
  (db t).any fun r => decide (S.id t r = k) && p r

/-- `DELETE FROM t WHERE p` -/
def deleteWhere [DecidableEq K] (S : Schema T K Row) (t : T) (p : Row t → Bool)
    (db : Tables Row) : Option (Tables Row) :=
  let gone := keysWhere S t p db
  if Refused S t gone db then none else some (dropRows S t gone db)

/-! ### References set to null -/

variable {gone : K → Bool} {r : Row t}

/-- Setting a column to null keeps the row's id. -/
theorem nullKey_id {fk : ForeignKey K Row t} (hfk : fk ∈ S.keys t) (r : Row t) :
    S.id t (nullKey t' gone fk r) = S.id t r := by
  rw [nullKey]
  split
  · next clear hclear =>
    split
    · exact S.clear_id t fk hfk clear hclear r
    · rfl
  · rfl

/-- It keeps the other columns. -/
theorem nullKey_column {fk fk' : ForeignKey K Row t} (hfk : fk ∈ S.keys t) (hfk' : fk' ∈ S.keys t)
    (r : Row t) : fk'.column (nullKey t' gone fk r) = fk'.column r ∨
      fk'.column (nullKey t' gone fk r) = none := by
  rw [nullKey]
  split
  · next clear hclear =>
    split
    · exact S.clear_column t fk hfk clear hclear fk' hfk' r
    · exact .inl rfl
  · exact .inl rfl

/-- What every foreign key's part keeps, `nulled` keeps. -/
theorem nulled_keeps {P : Row t → Prop} (h : P r)
    (hstep : ∀ fk ∈ S.keys t, ∀ x, P x → P (nullKey t' gone fk x)) :
    P (nulled S t' gone t r) := by
  have haux : ∀ l : List (ForeignKey K Row t), (∀ fk ∈ l, fk ∈ S.keys t) →
      P (l.foldr (nullKey t' gone) r) := by
    intro l
    induction l with
    | nil =>
        intro _
        exact h
    | cons fk l ih =>
        intro hl
        rw [List.foldr_cons]
        exact hstep fk (hl fk List.mem_cons_self) _ (ih fun fk' hfk' =>
          hl fk' (List.mem_cons_of_mem _ hfk'))
  exact haux _ fun _ => id

/-- Setting all such columns to null keeps the id. -/
theorem nulled_id (r : Row t) : S.id t (nulled S t' gone t r) = S.id t r := by
  refine nulled_keeps (P := fun x => S.id t x = S.id t r) rfl ?_
  intro fk hfk x hx
  rw [nullKey_id hfk, hx]

/-- A column is kept, or it is null. -/
theorem nulled_column {fk : ForeignKey K Row t} (hfk : fk ∈ S.keys t) (r : Row t) :
    fk.column (nulled S t' gone t r) = fk.column r ∨
      fk.column (nulled S t' gone t r) = none := by
  refine nulled_keeps (P := fun x => fk.column x = fk.column r ∨ fk.column x = none)
    (.inl rfl) ?_
  intro fk' hfk' x hx
  rcases nullKey_column hfk' hfk x with hsame | hnone
  · rw [hsame]
    exact hx
  · exact .inr hnone

/-- A column that may be set to null refers to nothing that is gone. -/
theorem nulled_misses {fk : ForeignKey K Row t} (hfk : fk ∈ S.keys t) {clear : Row t → Row t}
    (hclear : fk.onDelete = .setNull clear) (r : Row t) :
    fk.hits t' gone (nulled S t' gone t r) = false := by
  have hkept : ∀ {a b : Row t}, (fk.column b = fk.column a ∨ fk.column b = none) →
      fk.hits t' gone a = false → fk.hits t' gone b = false := by
    intro a b hab ha
    rw [ForeignKey.hits] at ha ⊢
    rcases hab with hsame | hnone
    · rw [hsame]
      exact ha
    · rw [hnone]
      exact Bool.and_false _
  have haux : ∀ l : List (ForeignKey K Row t), (∀ fk' ∈ l, fk' ∈ S.keys t) → fk ∈ l →
      fk.hits t' gone (l.foldr (nullKey t' gone) r) = false := by
    intro l
    induction l with
    | nil =>
        intro _ hmem
        exact absurd hmem List.not_mem_nil
    | cons fk' l ih =>
        intro hl hmem
        rw [List.foldr_cons]
        rcases List.mem_cons.mp hmem with hhead | htail
        · -- the column itself is set to null, if it has to be
          rw [← hhead, nullKey, hclear]
          simp only
          split
          · rw [ForeignKey.hits, S.clear_self t fk hfk clear hclear]
            exact Bool.and_false _
          · next hmiss => exact Bool.eq_false_iff.mpr hmiss
        · refine hkept (nullKey_column (hl fk' List.mem_cons_self) hfk _) ?_
          exact ih (fun fk'' hfk'' => hl fk'' (List.mem_cons_of_mem _ hfk'')) htail
  exact haux _ (fun _ => id) hfk

/-- A row without a reference to set to null stays as it is. -/
theorem nulled_of_misses (h : ∀ fk ∈ S.keys t, ∀ clear, fk.onDelete = .setNull clear →
    fk.hits t' gone r = false) : nulled S t' gone t r = r := by
  refine nulled_keeps (P := fun x => x = r) rfl ?_
  rintro fk hfk x rfl
  rw [nullKey]
  split
  · next clear hclear => rw [if_neg (Bool.eq_false_iff.mp (h fk hfk clear hclear))]
  · rfl

/-! ### The tables after a deletion -/

/-- The rows that are left are the kept ones, with their columns set to null. -/
theorem mem_dropRows {r' : Row t'} :
    r' ∈ dropRows S t gone db t' ↔
      ∃ r ∈ db t', kept S t gone t' r = true ∧ nulled S t gone t' r = r' := by
  simp only [dropRows, List.mem_map, List.mem_filter, and_assoc]

/-- A row is kept if it is neither removed nor cascades. -/
theorem kept_iff {r : Row t'} : kept S t gone t' r = true ↔
    ¬ (t' = t ∧ gone (S.id t' r) = true) ∧
      ∀ fk ∈ S.keys t', fk.onDelete.isCascade = true → fk.hits t gone r = false := by
  simp only [kept, Bool.and_eq_true, Bool.not_eq_true', Bool.and_eq_false_iff, decide_eq_false_iff_not,
    List.any_eq_false, not_and, Bool.not_eq_true, imp_iff_not_or]

/-- **Deletions keep references sound**, unless they are refused. -/
theorem Sound.dropRows (h : Sound S db) (hallowed : ¬ Refused S t gone db) :
    Sound S (dropRows S t gone db) := by
  intro t' fk hfk r' hr' k hk
  obtain ⟨r, hr, hkept, rfl⟩ := mem_dropRows.mp hr'
  obtain ⟨-, hcascade⟩ := kept_iff.mp hkept
  have hcolumn : fk.column (nulled S t gone t' r) = fk.column r := by
    have hor : fk.column (nulled S t gone t' r) = fk.column r ∨
        fk.column (nulled S t gone t' r) = none := nulled_column hfk r
    rcases hor with hsame | hnone
    · exact hsame
    · rw [hnone] at hk
      cases hk
  have hk₀ : k ∈ fk.column r := by
    rw [← hcolumn]
    exact hk
  obtain ⟨r₀, hr₀, hid⟩ := h t' fk hfk r hr k hk₀
  refine ⟨nulled S t gone fk.target r₀, mem_dropRows.mpr ⟨r₀, hr₀, kept_iff.mpr ⟨?_, ?_⟩, rfl⟩, ?_⟩
  · -- the row referred to is not deleted: by the rule of the foreign key
    rintro ⟨htarget, hgone⟩
    have hhits : fk.hits t gone r = true := by
      rw [hits_iff]
      exact ⟨htarget, k, hk₀, by rw [← hid]; exact hgone⟩
    cases hrule : fk.onDelete with
    | restrict =>
        exact hallowed ⟨t', S.complete t', fk, hfk, by rw [hrule]; rfl, r, hr, hhits⟩
    | cascade =>
        have hmiss := hcascade fk hfk (by rw [hrule]; rfl)
        rw [hhits] at hmiss
        cases hmiss
    | setNull clear =>
        have hmiss : fk.hits t gone (nulled S t gone t' r) = false := nulled_misses hfk hrule r
        rw [ForeignKey.hits, hcolumn] at hmiss
        rw [ForeignKey.hits, hmiss] at hhits
        cases hhits
  · -- nor does it go with another one: nothing refers to what a cascade deletes
    intro fk' hfk' hrule
    exact absurd rfl (S.cascade_leaf fk.target fk' hfk' hrule t' fk hfk)
  · rw [nulled_id]
    exact hid

/-- Keys stay unique. -/
theorem Keyed.dropRows (h : Keyed S db) : Keyed S (dropRows S t gone db) := by
  intro t'
  have hids : (ForeignKeys.dropRows S t gone db t').map (S.id t')
      = ((db t').filter (kept S t gone t')).map (S.id t') := by
    rw [ForeignKeys.dropRows, List.map_map]
    refine List.map_congr_left ?_
    intro r _
    exact nulled_id r
  rw [RowTable.Keyed, hids]
  exact List.Nodup.sublist (List.filter_sublist.map _) (h t')

variable [DecidableEq K] {p : Row t → Bool}

omit [DecidableEq T] in
/-- With unique keys a row's key is among the deleted ones exactly if the row is. -/
theorem gone_iff (h : Keyed S db) (hr : r ∈ db t) :
    (db t).any (fun r' => decide (S.id t r' = S.id t r) && p r') = p r := by
  rw [Bool.eq_iff_iff, List.any_eq_true]
  constructor
  · rintro ⟨r', hr', hsame⟩
    rw [Bool.and_eq_true, decide_eq_true_iff] at hsame
    have heq : r' = r := RowTable.eq_of_key (h t) hr' hr hsame.1
    rw [← heq]
    exact hsame.2
  · intro hp
    exact ⟨r, hr, by rw [hp, decide_eq_true rfl]; rfl⟩

/-- `DELETE` is refused, or removes the rows and what follows them. -/
theorem deleteWhere_eq : deleteWhere S t p db =
    if Refused S t (keysWhere S t p db) db then none
    else some (ForeignKeys.dropRows S t (keysWhere S t p db) db) := rfl

omit [DecidableEq T] in
/-- The keys of the rows to be removed. -/
theorem keysWhere_iff {k : K} :
    keysWhere S t p db k = true ↔ ∃ r ∈ db t, S.id t r = k ∧ p r = true := by
  simp only [keysWhere, List.any_eq_true, Bool.and_eq_true, decide_eq_true_iff]

omit [DecidableEq K] in
/-- A table whose references to the rows deleted are set to null keeps its rows. -/
theorem dropRows_nulls {t' : T} {gone : K → Bool} (hne : t' ≠ t)
    (hr : ∀ fk ∈ S.keys t', fk.target = t → fk.onDelete.isCascade = false) :
    ForeignKeys.dropRows S t gone db t' = (db t').map (nulled S t gone t') := by
  have hkept : (db t').filter (kept S t gone t') = db t' := by
    refine List.filter_eq_self.mpr fun r _ => kept_iff.mpr ⟨fun hself => hne hself.1, ?_⟩
    intro fk hfk hrule
    rw [Bool.eq_false_iff]
    intro hhits
    rw [hr fk hfk (hits_iff.mp hhits).1] at hrule
    cases hrule
  rw [ForeignKeys.dropRows, hkept]

/-- A table whose references to the rows deleted would refuse it: only the rows deleted go. -/
theorem dropRows_restrict (h : Keyed S db) (t' : T)
    (hr : ∀ fk ∈ S.keys t', fk.target = t → fk.onDelete.isRestrict = true) :
    ForeignKeys.dropRows S t (keysWhere S t p db) db t'
      = Function.update db t ((db t).filter fun r => !p r) t' := by
  -- a RESTRICT key clears no column and takes no row along
  have hnulled : ∀ r : Row t', nulled S t (keysWhere S t p db) t' r = r := by
    intro r
    refine nulled_of_misses ?_
    intro fk hfk clear hclear
    rw [Bool.eq_false_iff]
    intro hhits
    have hrule := hr fk hfk (hits_iff.mp hhits).1
    rw [hclear] at hrule
    cases hrule
  have hcascade : ∀ r : Row t', ∀ fk ∈ S.keys t', fk.onDelete.isCascade = true →
      fk.hits t (keysWhere S t p db) r = false := by
    intro r fk hfk hrule
    rw [Bool.eq_false_iff]
    intro hhits
    have hrestrict := hr fk hfk (hits_iff.mp hhits).1
    cases hcase : fk.onDelete <;> rw [hcase] at hrule hrestrict
    · cases hrule
    · cases hrestrict
    · cases hrule
  have hkept : ∀ r : Row t', kept S t (keysWhere S t p db) t' r
      = !(decide (t' = t) && keysWhere S t p db (S.id t' r)) := by
    intro r
    rw [Bool.eq_iff_iff, kept_iff, Bool.not_eq_true', Bool.and_eq_false_iff, decide_eq_false_iff_not]
    constructor
    · rintro ⟨hself, -⟩
      by_cases ht : t' = t
      · exact .inr (Bool.eq_false_iff.mpr fun hgone => hself ⟨ht, hgone⟩)
      · exact .inl ht
    · intro hself
      refine ⟨?_, hcascade r⟩
      rintro ⟨ht, hgone⟩
      rcases hself with hne | hmiss
      · exact hne ht
      · rw [hgone] at hmiss
        cases hmiss
  rw [ForeignKeys.dropRows, funext hnulled, List.map_id', funext hkept]
  by_cases ht : t' = t
  · subst ht
    rw [Function.update_self]
    refine List.filter_congr ?_
    intro r hrow
    rw [decide_eq_true rfl, Bool.true_and, keysWhere, gone_iff h hrow]
  · rw [Function.update_of_ne ht]
    refine List.filter_eq_self.mpr ?_
    intro r _
    rw [decide_eq_false ht]
    rfl

/-! ## Insertions and updates -/

/-- `INSERT INTO t`: the key is new, and the rows referred to are there. -/
def insert (S : Schema T K Row) (t : T) (row : Row t) (db : Tables Row) : Option (Tables Row) :=
  if (∃ r ∈ db t, S.id t r = S.id t row) ∨
      ∃ fk ∈ S.keys t, ∃ k ∈ fk.column row, ∀ r ∈ db fk.target, S.id fk.target r ≠ k then none
  else some (Function.update db t (db t ++ [row]))

/-- `INSERT` adds a row of a new id whose keys all refer. -/
theorem insert_eq {row : Row t} (h : insert S t row db = some db') :
    db' = Function.update db t (db t ++ [row]) ∧ (∀ r ∈ db t, S.id t r ≠ S.id t row) ∧
      ∀ fk ∈ S.keys t, ∀ k ∈ fk.column row, ∃ r ∈ db fk.target, S.id fk.target r = k := by
  rw [insert] at h
  split at h
  · cases h
  · next hfine =>
    cases h
    push Not at hfine
    exact ⟨rfl, hfine.1, hfine.2⟩

/-- A row of the table written to, or of another one. -/
theorem mem_update {rows : List (Row t)} {r : Row t'} (h : r ∈ Function.update db t rows t') :
    r ∈ db t' ∨ ∃ ht : t' = t, ht ▸ r ∈ rows := by
  by_cases ht : t' = t
  · subst ht
    rw [Function.update_self] at h
    exact .inr ⟨rfl, h⟩
  · rw [Function.update_of_ne ht] at h
    exact .inl h

/-- Old rows are still there. -/
theorem insert_mono {row : Row t} (h : insert S t row db = some db') {t' : T} {r : Row t'}
    (hr : r ∈ db t') : r ∈ db' t' := by
  obtain ⟨rfl, -, -⟩ := insert_eq h
  by_cases ht : t' = t
  · subst ht
    rw [Function.update_self]
    exact List.mem_append_left _ hr
  · rw [Function.update_of_ne ht]
    exact hr

/-- A row after an insertion is an old one, or the new one. -/
theorem mem_insert {row : Row t} (h : insert S t row db = some db') {t' : T} {r : Row t'}
    (hr : r ∈ db' t') : r ∈ db t' ∨ ∃ ht : t' = t, ht ▸ r = row := by
  obtain ⟨rfl, -, -⟩ := insert_eq h
  rcases mem_update hr with hold | ⟨ht, hnew⟩
  · exact .inl hold
  · subst ht
    rcases List.mem_append.mp hnew with hold | hrow
    · exact .inl hold
    · exact .inr ⟨rfl, List.mem_singleton.mp hrow⟩

/-- `INSERT` keeps every key referring. -/
theorem Sound.insert {row : Row t} (h : Sound S db) (hi : insert S t row db = some db') :
    Sound S db' := by
  have hkept : ∀ {t' : T} {k : K}, (∃ r ∈ db t', S.id t' r = k) → ∃ r ∈ db' t', S.id t' r = k := by
    rintro t' k ⟨r, hr, hid⟩
    exact ⟨r, insert_mono hi hr, hid⟩
  intro t' fk hfk r hr k hk
  apply hkept
  rcases mem_insert hi hr with hold | ⟨ht, hnew⟩
  · exact h t' fk hfk r hold k hk
  · subst ht
    subst hnew
    exact (insert_eq hi).2.2 fk hfk k hk

/-- It keeps the ids apart. -/
theorem Keyed.insert {row : Row t} (h : Keyed S db) (hi : insert S t row db = some db') :
    Keyed S db' := by
  obtain ⟨rfl, hnew, -⟩ := insert_eq hi
  intro t'
  by_cases ht : t' = t
  · subst ht
    rw [Function.update_self]
    exact (h t').append (RowTable.lookup_eq_none.mpr hnew)
  · rw [Function.update_of_ne ht]
    exact h t'

/-- `UPDATE t`, row by row. -/
def update (t : T) (f : Row t → Row t) (db : Tables Row) : Tables Row :=
  Function.update db t ((db t).map f)

/-- The update writes no key and no column of a foreign key. -/
structure KeepsKeys (S : Schema T K Row) (t : T) (f : Row t → Row t) : Prop where
  id : ∀ r, S.id t (f r) = S.id t r
  column : ∀ fk ∈ S.keys t, ∀ r, fk.column (f r) = fk.column r

variable {f : Row t → Row t}

/-- A row after an update comes from one before it, with the same references. -/
theorem mem_updated {t' : T} {r' : Row t'} (hr : r' ∈ ForeignKeys.update t f db t') :
    r' ∈ db t' ∨ ∃ ht : t' = t, ∃ r ∈ db t, f r = ht ▸ r' := by
  rcases mem_update hr with hold | ⟨ht, hnew⟩
  · exact .inl hold
  · obtain ⟨r, hr, hf⟩ := List.mem_map.mp hnew
    exact .inr ⟨ht, r, hr, hf⟩

omit [DecidableEq K] in
/-- So does an update that keeps the keys. -/
theorem Sound.update (h : Sound S db) (hf : KeepsKeys S t f) : Sound S (update t f db) := by
  have hkept : ∀ {t' : T} {k : K}, (∃ r ∈ db t', S.id t' r = k) →
      ∃ r ∈ ForeignKeys.update t f db t', S.id t' r = k := by
    rintro t' k ⟨r, hr, hid⟩
    rw [ForeignKeys.update]
    by_cases ht : t' = t
    · subst ht
      rw [Function.update_self]
      exact ⟨f r, List.mem_map_of_mem hr, by rw [hf.id, hid]⟩
    · rw [Function.update_of_ne ht]
      exact ⟨r, hr, hid⟩
  intro t' fk hfk r' hr' k hk
  apply hkept
  rcases mem_updated hr' with hold | ⟨ht, r, hr, hnew⟩
  · exact h t' fk hfk r' hold k hk
  · subst ht
    have hrow : f r = r' := hnew
    rw [← hrow, hf.column fk hfk] at hk
    exact h t' fk hfk r hr k hk

omit [DecidableEq K] in
/-- It keeps the ids apart too. -/
theorem Keyed.update (h : Keyed S db) (hf : KeepsKeys S t f) : Keyed S (update t f db) := by
  intro t'
  rw [ForeignKeys.update]
  by_cases ht : t' = t
  · subst ht
    rw [Function.update_self, RowTable.Keyed, List.map_map]
    have hids : (S.id t' ∘ f) = S.id t' := funext hf.id
    rw [hids]
    exact h t'
  · rw [Function.update_of_ne ht]
    exact h t'

/-! ## Where rows come from -/

/-- The row `r'` has the key of `r` and refers to nothing that `r` does not refer to. -/
structure Came (S : Schema T K Row) (r r' : Row t) : Prop where
  id : S.id t r' = S.id t r
  column : ∀ fk ∈ S.keys t, fk.column r' = fk.column r ∨ fk.column r' = none

omit [DecidableEq T] [DecidableEq K] in
/-- A row comes from itself. -/
theorem Came.refl (r : Row t) : Came S r r := ⟨rfl, fun _ _ => .inl rfl⟩

omit [DecidableEq K] in
/-- Every row left comes from one that was there. -/
theorem came_dropRows {r' : Row t'} (h : r' ∈ ForeignKeys.dropRows S t gone db t') :
    ∃ r ∈ db t', Came S r r' := by
  obtain ⟨r, hr, -, rfl⟩ := mem_dropRows.mp h
  exact ⟨r, hr, nulled_id r, fun fk hfk => nulled_column hfk r⟩

omit [DecidableEq K] in
/-- So does every row behind an update. -/
theorem came_update (hf : KeepsKeys S t f) {r' : Row t'}
    (h : r' ∈ ForeignKeys.update t f db t') : ∃ r ∈ db t', Came S r r' := by
  rcases mem_updated h with hold | ⟨ht, r, hr, hnew⟩
  · exact ⟨r', hold, Came.refl r'⟩
  · subst ht
    have hrow : f r = r' := hnew
    subst hrow
    exact ⟨r, hr, hf.id r, fun fk hfk => .inl (hf.column fk hfk r)⟩

/-- A row that an old row refers to was there before the insertion. -/
theorem old_of_referred {row : Row t} (hsound : Sound S db) (hkeyed : Keyed S db)
    (hi : ForeignKeys.insert S t row db = some db') {fk : ForeignKey K Row t'}
    (hfk : fk ∈ S.keys t') {r : Row t'} (hr : r ∈ db t') {k : K} (hk : k ∈ fk.column r)
    {x : Row fk.target} (hx : x ∈ db' fk.target) (hid : S.id fk.target x = k) :
    x ∈ db fk.target := by
  obtain ⟨y, hy, hid'⟩ := hsound t' fk hfk r hr k hk
  have heq : x = y :=
    RowTable.eq_of_key (hkeyed.insert hi fk.target) hx (insert_mono hi hy) (by rw [hid, hid'])
  rw [heq]
  exact hy

end

end ForeignKeys
