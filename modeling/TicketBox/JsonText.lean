import TicketBox.JsonScalars
import Mathlib.Data.List.Sort

/-! # JSON trees and their text

    Trees of arrays and objects over any leaves, what a function folds them to,
    and the text that `JSON.stringify` writes for one.  The text of a tree is
    read back in one way only (`print_injective`): the tree of a text has its
    fields in the order in which they are written. -/

namespace JsonText

/-- A tree of arrays and objects; an object is the list of its own properties. -/
inductive Json (Leaf : Type) where
  | leaf (a : Leaf)
  | arr (items : List (Json Leaf))
  | obj (fields : List (JsString × Json Leaf))

namespace Json

variable {Leaf β : Type}

/-! ## Recursion and induction -/

section Fold

variable (leaf : Leaf → β) (arr : List β → β) (obj : List (JsString × β) → β)

mutual

/-- The tree, evaluated from its leaves up. -/
def fold : Json Leaf → β
  | .leaf a => leaf a
  | .arr items => arr (foldItems items)
  | .obj fields => obj (foldFields fields)
termination_by structural t => t

/-- The fold over the items of an array. -/
def foldItems : List (Json Leaf) → List β
  | [] => []
  | t :: rest => fold t :: foldItems rest
termination_by structural items => items

/-- The fold over the fields of an object. -/
def foldFields : List (JsString × Json Leaf) → List (JsString × β)
  | [] => []
  | f :: rest => foldField f :: foldFields rest
termination_by structural fields => fields

/-- The fold at one field. -/
def foldField : JsString × Json Leaf → JsString × β
  | (key, t) => (key, fold t)
termination_by structural f => f

end

/-- The fold of an array. -/
theorem fold_arr (items : List (Json Leaf)) :
    (Json.arr items).fold leaf arr obj = arr (items.map (fold leaf arr obj)) := by
  have hitems : foldItems leaf arr obj items = items.map (fold leaf arr obj) := by
    induction items with
    | nil => rfl
    | cons t rest ih =>
        rw [foldItems, ih]
        rfl
  rw [fold, hitems]

/-- The fold of an object. -/
theorem fold_obj (fields : List (JsString × Json Leaf)) :
    (Json.obj fields).fold leaf arr obj
      = obj (fields.map fun f => (f.1, f.2.fold leaf arr obj)) := by
  have hfields : foldFields leaf arr obj fields
      = fields.map fun f => (f.1, f.2.fold leaf arr obj) := by
    induction fields with
    | nil => rfl
    | cons f rest ih =>
        obtain ⟨key, t⟩ := f
        rw [foldFields, ih]
        rfl
  rw [fold, hfields]

end Fold

/-- Induction over a value, by its three kinds. -/
theorem induct {P : Json Leaf → Prop} (leaf : ∀ a, P (.leaf a))
    (arr : ∀ items, (∀ t ∈ items, P t) → P (.arr items))
    (obj : ∀ fields, (∀ f ∈ fields, P f.2) → P (.obj fields)) (t : Json Leaf) : P t := by
  refine @Json.rec Leaf P (fun items => ∀ t ∈ items, P t) (fun fields => ∀ f ∈ fields, P f.2)
    (fun f => P f.2) leaf arr obj ?_ ?_ ?_ ?_ ?_ t
  · simp
  · intro t rest ht hrest u hu
    rcases List.mem_cons.mp hu with rfl | hu
    · exact ht
    · exact hrest u hu
  · simp
  · intro f rest hf hrest g hg
    rcases List.mem_cons.mp hg with rfl | hg
    · exact hf
    · exact hrest g hg
  · intro key t ht
    exact ht

/-! ## Equality up to the order of keys -/

/-- Equal up to the order of keys, at any depth. -/
def Same : Json Leaf → Json Leaf → Prop :=
  fold (fun a u => u = .leaf a)
    (fun items u => ∃ us, u = .arr us ∧ List.Forall₂ (fun same u => same u) items us)
    (fun fields u => ∃ gs, u = .obj gs ∧ fields.length = gs.length ∧
      ∀ f ∈ fields, ∃ g ∈ gs, g.1 = f.1 ∧ f.2 g.2)

/-- Only a leaf is the same as a leaf. -/
theorem same_leaf {a : Leaf} {u : Json Leaf} : Same (.leaf a) u ↔ u = .leaf a := Iff.rfl

/-- Arrays are the same item by item. -/
theorem same_arr {items : List (Json Leaf)} {u : Json Leaf} :
    Same (.arr items) u ↔ ∃ us, u = .arr us ∧ List.Forall₂ Same items us := by
  rw [Same, fold_arr]
  simp only [List.forall₂_map_left_iff]

/-- Objects are the same field by field, in any order. -/
theorem same_obj {fields : List (JsString × Json Leaf)} {u : Json Leaf} :
    Same (.obj fields) u ↔ ∃ gs, u = .obj gs ∧ fields.length = gs.length ∧
      ∀ f ∈ fields, ∃ g ∈ gs, g.1 = f.1 ∧ Same f.2 g.2 := by
  rw [Same, fold_obj]
  simp only [List.length_map, List.forall_mem_map]

/-- No object has two properties of one key. -/
def Keyed : Json Leaf → Prop :=
  fold (fun _ => True) (fun items => ∀ keyed ∈ items, keyed)
    (fun fields => (fields.map Prod.fst).Nodup ∧ ∀ f ∈ fields, f.2)

/-- Every item has its fields apart. -/
theorem keyed_arr {items : List (Json Leaf)} : Keyed (.arr items) ↔ ∀ t ∈ items, Keyed t := by
  rw [Keyed, fold_arr]
  simp only [List.forall_mem_map]

/-- The fields have different names, and so on inside. -/
theorem keyed_obj {fields : List (JsString × Json Leaf)} :
    Keyed (.obj fields) ↔ (fields.map Prod.fst).Nodup ∧ ∀ f ∈ fields, Keyed f.2 := by
  rw [Keyed, fold_obj]
  simp only [List.forall_mem_map, List.map_map]
  rfl

end Json

/-! ## The text -/

/-- The leaves of a text; a number is none for zero. -/
inductive TextLeaf where
  | null
  | bool (b : Bool)
  | num (x : Option Decimal)
  | str (s : JsString)
  deriving DecidableEq

/-- The text of a leaf. -/
def TextLeaf.print : TextLeaf → JsString
  | .null => ascii "null"
  | .bool b => if b then ascii "true" else ascii "false"
  | .num x => (numberText x).map Sym.unit
  | .str s => quote s

/-- Pieces between brackets, separated by commas. -/
def bracket (opening closing : Char) (pieces : List JsString) : JsString :=
  unit opening :: ([unit ','].intercalate pieces ++ [unit closing])

/-- `"key":value`. -/
def printField (f : JsString × JsString) : JsString := quote f.1 ++ unit ':' :: f.2

/-- The text of a value, with no white space. -/
def Json.print : Json TextLeaf → JsString :=
  Json.fold TextLeaf.print (bracket '[' ']') fun fields => bracket '{' '}' (fields.map printField)

/-- The text of an array. -/
theorem print_arr (items : List (Json TextLeaf)) :
    (Json.arr items).print = bracket '[' ']' (items.map Json.print) :=
  Json.fold_arr _ _ _ items

/-- The text of an object. -/
theorem print_obj (fields : List (JsString × Json TextLeaf)) :
    (Json.obj fields).print
      = bracket '{' '}' (fields.map fun f => printField (f.1, f.2.print)) := by
  rw [Json.print, Json.fold_obj, List.map_map]
  rfl

/-! ## Reading it back -/

/-- The characters that can follow a value. -/
def stops : List CodeUnit := [unit ',', unit ']', unit '}']

/-- A text behind a value: nothing, or a comma or a closing bracket. -/
def Stop (x : JsString) : Prop := ∀ u, x.head? = some u → u ∈ stops

/-- The value can be read off its text, whatever follows. -/
def Reads {α : Type} (text : α → JsString) (a : α) : Prop :=
  ∀ b x y, Stop x → Stop y → text a ++ x = text b ++ y → a = b ∧ x = y

/-- A text that begins with a stop. -/
theorem stop_cons {u : CodeUnit} {x : JsString} (h : u ∈ stops) : Stop (u :: x) := by
  intro v hv
  cases hv
  exact h

/-- What is between a value and the bracket behind it. -/
theorem stop_rest {closing : Char} (hclosing : unit closing ∈ stops) (pieces : List JsString)
    (x : JsString) :
    Stop ((pieces.map fun p => unit ',' :: p).flatten ++ unit closing :: x) := by
  cases pieces with
  | nil => exact stop_cons hclosing
  | cons p rest => exact stop_cons (by decide)

/-- Commas stand before all pieces but the first. -/
theorem intercalate_cons (p : JsString) (pieces : List JsString) :
    [unit ','].intercalate (p :: pieces) = p ++ (pieces.map fun p => unit ',' :: p).flatten := by
  induction pieces generalizing p with
  | nil => simp
  | cons q rest ih =>
      rw [List.intercalate_cons_cons, ih]
      simp

section Pieces

variable {α : Type} {text : α → JsString} {closing : Char}

/-- What is left of a list is read back. -/
theorem rest_read (hclosing : unit closing ∈ stops) (hcomma : unit closing ≠ unit ',')
    {as : List α} (has : ∀ a ∈ as, Reads text a) :
    ∀ (bs : List α) (x y : JsString),
      ((as.map text).map fun p => unit ',' :: p).flatten ++ unit closing :: x
        = ((bs.map text).map fun p => unit ',' :: p).flatten ++ unit closing :: y →
      as = bs ∧ x = y := by
  induction as with
  | nil =>
      intro bs x y h
      cases bs with
      | nil => exact ⟨rfl, (List.cons.inj h).2⟩
      | cons b bs => exact absurd (List.cons.inj h).1 hcomma
  | cons a as ih =>
      intro bs x y h
      cases bs with
      | nil => exact absurd (List.cons.inj h).1.symm hcomma
      | cons b bs =>
          simp only [List.map_cons, List.flatten_cons, List.cons_append, List.append_assoc,
            List.cons.injEq, true_and] at h
          obtain ⟨rfl, hrest⟩ := has a List.mem_cons_self b _ _ (stop_rest hclosing _ x)
            (stop_rest hclosing _ y) h
          obtain ⟨rfl, hxy⟩ := ih (fun c hc => has c (List.mem_cons_of_mem a hc)) bs x y hrest
          exact ⟨rfl, hxy⟩

/-- A bracketed list is read piece by piece. -/
theorem bracket_read (opening : Char) (hclosing : unit closing ∈ stops)
    (hcomma : unit closing ≠ unit ',')
    (hstart : ∀ a, ∃ u rest, text a = u :: rest ∧ u ≠ unit closing)
    {as bs : List α} (has : ∀ a ∈ as, Reads text a) {x y : JsString}
    (h : bracket opening closing (as.map text) ++ x
      = bracket opening closing (bs.map text) ++ y) : as = bs ∧ x = y := by
  simp only [bracket, List.cons_append, List.append_assoc, List.nil_append, List.cons.injEq,
    true_and] at h
  cases as with
  | nil =>
      cases bs with
      | nil => exact ⟨rfl, (List.cons.inj h).2⟩
      | cons b bs =>
          obtain ⟨u, rest, hb, hne⟩ := hstart b
          rw [List.map_cons, intercalate_cons, hb] at h
          exact absurd (List.cons.inj h).1.symm hne
  | cons a as =>
      cases bs with
      | nil =>
          obtain ⟨u, rest, ha, hne⟩ := hstart a
          rw [List.map_cons, intercalate_cons, ha] at h
          exact absurd (List.cons.inj h).1 hne
      | cons b bs =>
          rw [List.map_cons, List.map_cons, intercalate_cons, intercalate_cons,
            List.append_assoc, List.append_assoc] at h
          obtain ⟨rfl, hrest⟩ := has a List.mem_cons_self b _ _ (stop_rest hclosing _ x)
            (stop_rest hclosing _ y) h
          obtain ⟨rfl, hxy⟩ :=
            rest_read hclosing hcomma (fun c hc => has c (List.mem_cons_of_mem a hc)) bs x y hrest
          exact ⟨rfl, hxy⟩

end Pieces

/-! ### What a text starts with -/

/-- The kinds of values, as the first character of a text shows them. -/
inductive Kind where
  | null | yes | no | num | str | arr | obj
  deriving DecidableEq

/-- The kind of value that a text with this first unit holds. -/
def kindOf (u : CodeUnit) : Kind :=
  if u = unit 'n' then .null
  else if u = unit 't' then .yes
  else if u = unit 'f' then .no
  else if u = unit '"' then .str
  else if u = unit '[' then .arr
  else if u = unit '{' then .obj
  else .num

/-- The kind of a value. -/
def Json.kind : Json TextLeaf → Kind
  | .leaf .null => .null
  | .leaf (.bool true) => .yes
  | .leaf (.bool false) => .no
  | .leaf (.num _) => .num
  | .leaf (.str _) => .str
  | .arr _ => .arr
  | .obj _ => .obj

/-- A symbol of a number begins no other value, and stops none. -/
theorem Sym.unit_kind (s : Sym) : kindOf s.unit = .num ∧ s.unit ∉ stops := by
  cases s with
  | digit d =>
      revert d
      decide
  | point => decide
  | exponent => decide
  | plus => decide
  | minus => decide

/-- Two symbols are written differently. -/
theorem Sym.unit_injective : Function.Injective Sym.unit := by
  intro s t h
  cases s with
  | digit d =>
      cases t with
      | digit e =>
          revert d e
          decide
      | _ =>
          revert d
          decide
  | _ =>
      cases t with
      | digit e =>
          revert e
          decide
      | _ => first | rfl | exact absurd h (by decide)

/-- A number has a text. -/
theorem numberText_ne_nil (x : Option Decimal) : numberText x ≠ [] := by
  cases x with
  | none => simp [numberText]
  | some d =>
      obtain ⟨y, rest, hd⟩ := magnitude_head d
      simp [numberText, hd]

/-- A text shows the kind of its value, and is not taken for the end of one. -/
theorem print_start (t : Json TextLeaf) :
    ∃ u rest, t.print = u :: rest ∧ kindOf u = t.kind ∧ u ∉ stops := by
  cases t with
  | leaf a =>
      cases a with
      | null => exact ⟨_, _, rfl, by decide, by decide⟩
      | bool b =>
          cases b with
          | true => exact ⟨_, _, rfl, by decide, by decide⟩
          | false => exact ⟨_, _, rfl, by decide, by decide⟩
      | num x =>
          obtain ⟨s, rest, hs⟩ := List.exists_cons_of_ne_nil (numberText_ne_nil x)
          obtain ⟨hkind, hstop⟩ := s.unit_kind
          refine ⟨s.unit, rest.map Sym.unit, ?_, hkind, hstop⟩
          show (numberText x).map Sym.unit = _
          rw [hs, List.map_cons]
      | str s => exact ⟨_, _, rfl, show kindOf (unit '"') = .str by decide, by decide⟩
  | arr items =>
      rw [print_arr]
      exact ⟨_, _, rfl, show kindOf (unit '[') = .arr by decide, by decide⟩
  | obj fields =>
      rw [print_obj]
      exact ⟨_, _, rfl, show kindOf (unit '{') = .obj by decide, by decide⟩

/-! ### The leaves -/

/-- Characters of a number are told from what follows it. -/
theorem symbols_read {as bs : List Sym} {x y : JsString} (hx : Stop x) (hy : Stop y)
    (h : as.map Sym.unit ++ x = bs.map Sym.unit ++ y) : as = bs ∧ x = y := by
  induction as generalizing bs with
  | nil =>
      cases bs with
      | nil => exact ⟨rfl, h⟩
      | cons b bs =>
          have hx' : x = b.unit :: (bs.map Sym.unit ++ y) := h
          exact absurd (hx b.unit (by rw [hx', List.head?_cons])) b.unit_kind.2
  | cons a as ih =>
      cases bs with
      | nil =>
          have hy' : y = a.unit :: (as.map Sym.unit ++ x) := h.symm
          exact absurd (hy a.unit (by rw [hy', List.head?_cons])) a.unit_kind.2
      | cons b bs =>
          simp only [List.map_cons, List.cons_append, List.cons.injEq] at h
          obtain ⟨rfl, hxy⟩ := ih h.2
          rw [Sym.unit_injective h.1]
          exact ⟨rfl, hxy⟩

/-- Values whose texts start alike are of one kind. -/
theorem kind_eq {t u : Json TextLeaf} {x y : JsString} (h : t.print ++ x = u.print ++ y) :
    t.kind = u.kind := by
  obtain ⟨a, r, ht, hkind, -⟩ := print_start t
  obtain ⟨b, s, hu, hkind', -⟩ := print_start u
  rw [ht, hu] at h
  rw [← hkind, ← hkind', (List.cons.inj h).1]

/-- A value of a leaf's kind is a leaf. -/
theorem kind_leaf {a : TextLeaf} {u : Json TextLeaf} (h : (Json.leaf a).kind = u.kind) :
    ∃ b, u = .leaf b := by
  cases u with
  | leaf b => exact ⟨b, rfl⟩
  | arr items => rcases a with _ | (_ | _) | _ | _ <;> cases h
  | obj fields => rcases a with _ | (_ | _) | _ | _ <;> cases h

/-- A value of an array's kind is an array. -/
theorem kind_arr {items : List (Json TextLeaf)} {u : Json TextLeaf}
    (h : (Json.arr items).kind = u.kind) : ∃ us, u = .arr us := by
  cases u with
  | leaf b => rcases b with _ | (_ | _) | _ | _ <;> cases h
  | arr us => exact ⟨us, rfl⟩
  | obj fields => cases h

/-- A value of an object's kind is an object. -/
theorem kind_obj {fields : List (JsString × Json TextLeaf)} {u : Json TextLeaf}
    (h : (Json.obj fields).kind = u.kind) : ∃ gs, u = .obj gs := by
  cases u with
  | leaf b => rcases b with _ | (_ | _) | _ | _ <;> cases h
  | arr us => cases h
  | obj gs => exact ⟨gs, rfl⟩

/-- A leaf is read back. -/
theorem reads_leaf {a b : TextLeaf} {x y : JsString} (hx : Stop x) (hy : Stop y)
    (hkind : (Json.leaf a).kind = (Json.leaf b).kind) (h : a.print ++ x = b.print ++ y) :
    a = b ∧ x = y := by
  cases a with
  | null =>
      cases b with
      | null => exact ⟨rfl, List.append_cancel_left h⟩
      | bool c => cases c <;> cases hkind
      | num z => cases hkind
      | str s => cases hkind
  | bool c =>
      cases b with
      | null => cases c <;> cases hkind
      | bool d =>
          have hcd : c = d := by cases c <;> cases d <;> first | rfl | cases hkind
          subst hcd
          exact ⟨rfl, List.append_cancel_left h⟩
      | num z => cases c <;> cases hkind
      | str s => cases c <;> cases hkind
  | num z =>
      cases b with
      | null => cases hkind
      | bool d => cases d <;> cases hkind
      | num w =>
          obtain ⟨htext, hxy⟩ := symbols_read hx hy h
          rw [numberText_injective htext]
          exact ⟨rfl, hxy⟩
      | str s => cases hkind
  | str s =>
      cases b with
      | null => cases hkind
      | bool d => cases d <;> cases hkind
      | num w => cases hkind
      | str t =>
          obtain ⟨rfl, hxy⟩ := quote_append h
          exact ⟨rfl, hxy⟩

/-- A property is read like its key and then its value. -/
theorem reads_field {f : JsString × Json TextLeaf} (hf : Reads Json.print f.2) :
    Reads (fun f : JsString × Json TextLeaf => printField (f.1, f.2.print)) f := by
  intro g x y hx hy h
  simp only [printField, List.append_assoc, List.cons_append] at h
  obtain ⟨hkey, h⟩ := quote_append h
  obtain ⟨hvalue, hxy⟩ := hf g.2 x y hx hy (List.cons.inj h).2
  exact ⟨Prod.ext hkey hvalue, hxy⟩

/-- **A text is read in one way.** -/
theorem reads_print (t : Json TextLeaf) : Reads Json.print t := by
  induction t using Json.induct with
  | leaf a =>
      intro u x y hx hy h
      have hkind := kind_eq h
      obtain ⟨b, rfl⟩ := kind_leaf hkind
      obtain ⟨rfl, hxy⟩ := reads_leaf hx hy hkind h
      exact ⟨rfl, hxy⟩
  | arr items ih =>
      intro u x y hx hy h
      obtain ⟨us, rfl⟩ := kind_arr (kind_eq h)
      rw [print_arr, print_arr] at h
      have hstart : ∀ t : Json TextLeaf, ∃ u rest, t.print = u :: rest ∧ u ≠ unit ']' := by
        intro t
        obtain ⟨u, rest, ht, -, hstop⟩ := print_start t
        exact ⟨u, rest, ht, fun heq => hstop (heq ▸ by decide)⟩
      obtain ⟨rfl, hxy⟩ := bracket_read '[' (by decide) (by decide) hstart ih h
      exact ⟨rfl, hxy⟩
  | obj fields ih =>
      intro u x y hx hy h
      obtain ⟨gs, rfl⟩ := kind_obj (kind_eq h)
      rw [print_obj, print_obj] at h
      obtain ⟨rfl, hxy⟩ := bracket_read '{' (by decide) (by decide)
        (fun f => ⟨unit '"', _, rfl, by decide⟩) (fun f hf => reads_field (ih f hf)) h
      exact ⟨rfl, hxy⟩

/-- The text tells the tree. -/
theorem print_injective : Function.Injective Json.print := by
  intro t u h
  refine (reads_print t u [] [] ?_ ?_ (by rw [h])).1
  · intro v hv
    cases hv
  · intro v hv
    cases hv

/-! ## The order of properties -/

section Order

variable {α : Type}

/-- The text of an array index. -/
def indexText (i : Nat) : JsString := (natDigits i).map fun d => (Sym.digit d).unit

/-- The array index a key is the text of. -/
def arrayIndex? (key : JsString) : Option Nat :=
  let i := Nat.ofDigits 10 (key.reverse.map fun u => u.val - 48)
  if indexText i = key ∧ i < 4294967295 then some i else none

/-- `EnumerableOwnProperties`: array indices come first, in ascending order, then
    the other keys as they were created. -/
def propertyOrder (fields : List (JsString × α)) : List (JsString × α) :=
  (fields.filter fun f => (arrayIndex? f.1).isSome).mergeSort
      (fun f g => (arrayIndex? f.1).getD 0 ≤ (arrayIndex? g.1).getD 0)
    ++ fields.filter fun f => !(arrayIndex? f.1).isSome

/-- `Object.keys(value).sort()`, with the values: by code units. -/
def sortKeys (fields : List (JsString × α)) : List (JsString × α) :=
  fields.mergeSort fun f g => f.1 ≤ g.1

/-- The first key is written before the second. -/
def KeyBefore (k l : JsString) : Prop :=
  match arrayIndex? k, arrayIndex? l with
  | some i, some j => i ≤ j
  | some _, none => True
  | none, some _ => False
  | none, none => k ≤ l

/-- An index is written in one way. -/
theorem arrayIndex_injective {k l : JsString} {i : Nat} (hk : arrayIndex? k = some i)
    (hl : arrayIndex? l = some i) : k = l := by
  simp only [arrayIndex?, Option.ite_none_right_eq_some, Option.some.injEq] at hk hl
  rw [← hk.1.1, ← hl.1.1, hk.2, hl.2]

/-- Of two names at most one comes first. -/
theorem KeyBefore.antisymm {k l : JsString} (h : KeyBefore k l) (h' : KeyBefore l k) : k = l := by
  simp only [KeyBefore] at h h'
  cases hk : arrayIndex? k with
  | none =>
      cases hl : arrayIndex? l with
      | none =>
          rw [hk, hl] at h h'
          exact le_antisymm h h'
      | some j =>
          rw [hk, hl] at h
          exact h.elim
  | some i =>
      cases hl : arrayIndex? l with
      | none =>
          rw [hk, hl] at h'
          exact h'.elim
      | some j =>
          rw [hk, hl] at h h'
          have hij : i = j := le_antisymm h h'
          exact arrayIndex_injective hk (hij ▸ hl)

/-- The order of the language loses no field. -/
theorem propertyOrder_perm (fields : List (JsString × α)) : (propertyOrder fields).Perm fields :=
  ((List.mergeSort_perm _ _).append_right _).trans (List.filter_append_perm _ fields)

/-- Sorting loses no field. -/
theorem sortKeys_perm (fields : List (JsString × α)) : (sortKeys fields).Perm fields :=
  List.mergeSort_perm _ _

/-- It sorts by name. -/
theorem sortKeys_pairwise (fields : List (JsString × α)) :
    (sortKeys fields).Pairwise fun f g => f.1 ≤ g.1 := by
  have hsorted : (sortKeys fields).Pairwise fun f g => decide (f.1 ≤ g.1) = true := by
    refine List.pairwise_mergeSort (fun a b c hab hbc => ?_) (fun a b => ?_) fields
    · simp only [decide_eq_true_eq] at hab hbc ⊢
      exact le_trans hab hbc
    · simpa using le_total a.1 b.1
  exact hsorted.imp fun h => by simpa using h

/-- Sorted properties are written in the order of their keys. -/
theorem propertyOrder_pairwise {fields : List (JsString × α)}
    (h : fields.Pairwise fun f g => f.1 ≤ g.1) :
    (propertyOrder fields).Pairwise fun f g => KeyBefore f.1 g.1 := by
  have hfirst : ((fields.filter fun f => (arrayIndex? f.1).isSome).mergeSort
      fun f g => (arrayIndex? f.1).getD 0 ≤ (arrayIndex? g.1).getD 0).Pairwise
      fun f g => decide ((arrayIndex? f.1).getD 0 ≤ (arrayIndex? g.1).getD 0) = true := by
    refine List.pairwise_mergeSort (fun a b c hab hbc => ?_) (fun a b => ?_) _
    · simp only [decide_eq_true_eq] at hab hbc ⊢
      exact le_trans hab hbc
    · simpa using le_total ((arrayIndex? a.1).getD 0) ((arrayIndex? b.1).getD 0)
  have hindex : ∀ f ∈ (fields.filter fun f => (arrayIndex? f.1).isSome).mergeSort
      fun f g => (arrayIndex? f.1).getD 0 ≤ (arrayIndex? g.1).getD 0,
      ∃ i, arrayIndex? f.1 = some i := by
    intro f hf
    have hmem := ((List.mergeSort_perm _ _).mem_iff).mp hf
    exact Option.isSome_iff_exists.mp (List.mem_filter.mp hmem).2
  have hother : ∀ f ∈ fields.filter fun f => !(arrayIndex? f.1).isSome,
      arrayIndex? f.1 = none := by
    intro f hf
    simpa using (List.mem_filter.mp hf).2
  rw [propertyOrder, List.pairwise_append]
  refine ⟨?_, ?_, ?_⟩
  · -- among the indices
    refine hfirst.imp_of_mem fun {f g} hf hg hle => ?_
    obtain ⟨i, hi⟩ := hindex f hf
    obtain ⟨j, hj⟩ := hindex g hg
    rw [hi, hj] at hle
    simp only [KeyBefore, hi, hj]
    simpa using hle
  · -- among the others
    refine (h.filter _).imp_of_mem fun {f g} hf hg hle => ?_
    simp only [KeyBefore, hother f hf, hother g hg]
    exact hle
  · intro f hf g hg
    obtain ⟨i, hi⟩ := hindex f hf
    simp only [KeyBefore, hi, hother g hg]

/-- Properties of different keys are in the order of their keys in one way. -/
theorem eq_of_keyBefore {fields gs : List (JsString × α)} (hperm : fields.Perm gs)
    (hnodup : (fields.map Prod.fst).Nodup)
    (hfields : fields.Pairwise fun f g => KeyBefore f.1 g.1)
    (hgs : gs.Pairwise fun f g => KeyBefore f.1 g.1) : fields = gs := by
  refine hperm.eq_of_pairwise (fun f g hf hg hfg hgf => ?_) hfields hgs
  exact List.inj_on_of_nodup_map hnodup hf (hperm.mem_iff.mpr hg) (hfg.antisymm hgf)

/-- Properties in the order in which they are written. -/
def ordered (fields : List (JsString × α)) : List (JsString × α) :=
  propertyOrder (sortKeys fields)

/-- Neither do both. -/
theorem ordered_perm (fields : List (JsString × α)) : (ordered fields).Perm fields :=
  (propertyOrder_perm _).trans (sortKeys_perm _)

/-- Both together order the fields by one relation. -/
theorem ordered_pairwise (fields : List (JsString × α)) :
    (ordered fields).Pairwise fun f g => KeyBefore f.1 g.1 :=
  propertyOrder_pairwise (sortKeys_pairwise fields)

/-- Two lists of fields are ordered alike if they have the same fields. -/
theorem ordered_eq_iff {fields gs : List (JsString × α)} (hnodup : (fields.map Prod.fst).Nodup) :
    ordered fields = ordered gs ↔ fields.Perm gs := by
  constructor
  · intro h
    exact (ordered_perm fields).symm.trans (h ▸ ordered_perm gs)
  · intro h
    have hkeys := ((ordered_perm fields).map Prod.fst).nodup_iff.mpr hnodup
    exact eq_of_keyBefore ((ordered_perm fields).trans (h.trans (ordered_perm gs).symm)) hkeys
      (ordered_pairwise fields) (ordered_pairwise gs)

end Order

/-! ## The written tree -/

namespace Json

variable {Leaf : Type}

/-- The tree with the properties of every object in their written order. -/
def order : Json Leaf → Json Leaf := fold .leaf .arr fun fields => .obj (ordered fields)

/-- The order inside an array. -/
theorem order_arr (items : List (Json Leaf)) : (Json.arr items).order = .arr (items.map order) :=
  fold_arr _ _ _ items

/-- The order inside an object. -/
theorem order_obj (fields : List (JsString × Json Leaf)) :
    (Json.obj fields).order = .obj (ordered (fields.map fun f => (f.1, f.2.order))) :=
  fold_obj _ _ _ fields

/-- Items are ordered alike if they are the same. -/
theorem map_order_eq_iff {items us : List (Json Leaf)}
    (ih : ∀ t ∈ items, ∀ u ∈ us, t.order = u.order ↔ t.Same u) :
    items.map order = us.map order ↔ List.Forall₂ Same items us := by
  induction items generalizing us with
  | nil =>
      cases us with
      | nil => simp
      | cons u us => simp
  | cons t items hrec =>
      cases us with
      | nil => simp
      | cons u us =>
          have hhead := ih t List.mem_cons_self u List.mem_cons_self
          have htail := hrec fun s hs v hv =>
            ih s (List.mem_cons_of_mem t hs) v (List.mem_cons_of_mem u hv)
          rw [List.map_cons, List.map_cons, List.cons.injEq, List.forall₂_cons, hhead, htail]

/-- Properties that pair up by their keys are the same ones. -/
theorem perm_of_pairs {γ : Type} (h : Json Leaf → γ) {fields gs : List (JsString × Json Leaf)}
    (hnodup : (fields.map Prod.fst).Nodup) (hlen : fields.length = gs.length)
    (hall : ∀ f ∈ fields, ∃ g ∈ gs, g.1 = f.1 ∧ h f.2 = h g.2) :
    (fields.map fun f => (f.1, h f.2)).Perm (gs.map fun g => (g.1, h g.2)) := by
  have hkeys : ((fields.map fun f => (f.1, h f.2)).map Prod.fst).Nodup := by
    rw [List.map_map]
    exact hnodup
  refine (List.subperm_of_subset hkeys.of_map fun x hx => ?_).perm_of_length_le (by simp [hlen])
  obtain ⟨f, hf, rfl⟩ := List.mem_map.mp hx
  obtain ⟨g, hg, hkey, hvalue⟩ := hall f hf
  exact List.mem_map.mpr ⟨g, hg, Prod.ext hkey hvalue.symm⟩

/-- The properties with their values in written order are the same ones. -/
theorem perm_order_iff {fields gs : List (JsString × Json Leaf)}
    (hnodup : (fields.map Prod.fst).Nodup)
    (ih : ∀ f ∈ fields, ∀ g ∈ gs, f.2.order = g.2.order ↔ f.2.Same g.2) :
    (fields.map fun f => (f.1, f.2.order)).Perm (gs.map fun g => (g.1, g.2.order)) ↔
      fields.length = gs.length ∧ ∀ f ∈ fields, ∃ g ∈ gs, g.1 = f.1 ∧ f.2.Same g.2 := by
  constructor
  · intro hperm
    refine ⟨by simpa using hperm.length_eq, fun f hf => ?_⟩
    have hmem := hperm.mem_iff.mp (List.mem_map_of_mem hf)
    obtain ⟨g, hg, heq⟩ := List.mem_map.mp hmem
    rw [Prod.mk.injEq] at heq
    exact ⟨g, hg, heq.1, (ih f hf g hg).mp heq.2.symm⟩
  · rintro ⟨hlen, hall⟩
    refine perm_of_pairs order hnodup hlen fun f hf => ?_
    obtain ⟨g, hg, hkey, hsame⟩ := hall f hf
    exact ⟨g, hg, hkey, (ih f hf g hg).mpr hsame⟩

/-- **Written trees are equal exactly when the trees are, up to the order of keys.** -/
theorem order_eq_iff {t u : Json Leaf} (ht : t.Keyed) (hu : u.Keyed) :
    t.order = u.order ↔ t.Same u := by
  induction t using Json.induct generalizing u with
  | leaf a =>
      rw [same_leaf]
      cases u with
      | leaf b => exact eq_comm
      -- arrays compare entry by entry, in their order
      | arr us =>
          rw [order_arr]
          exact iff_of_false (fun h => (by cases h)) fun h => (by cases h)
      | obj gs =>
          rw [order_obj]
          exact iff_of_false (fun h => (by cases h)) fun h => (by cases h)
  | arr items ih =>
      rw [same_arr, order_arr]
      cases u with
      | leaf b => exact iff_of_false (fun h => (by cases h)) (by rintro ⟨us, h, -⟩; cases h)
      | obj gs =>
          rw [order_obj]
          exact iff_of_false (fun h => (by cases h)) (by rintro ⟨us, h, -⟩; cases h)
      | arr us =>
          rw [keyed_arr] at ht hu
          rw [order_arr, Json.arr.injEq, map_order_eq_iff fun t h v hv => ih t h (ht t h) (hu v hv)]
          constructor
          · intro h
            exact ⟨us, rfl, h⟩
          · rintro ⟨vs, heq, h⟩
            cases heq
            exact h
  | obj fields ih =>
      rw [same_obj, order_obj]
      cases u with
      | leaf b => exact iff_of_false (fun h => (by cases h)) (by rintro ⟨us, h, -⟩; cases h)
      | arr us =>
          rw [order_arr]
          exact iff_of_false (fun h => (by cases h)) (by rintro ⟨us, h, -⟩; cases h)
      | obj gs =>
          -- objects compare as sets of fields, which the sorting makes lists
          rw [keyed_obj] at ht hu
          have hkeys : ((fields.map fun f => (f.1, f.2.order)).map Prod.fst).Nodup := by
            rw [List.map_map]
            exact ht.1
          rw [order_obj, Json.obj.injEq, JsonText.ordered_eq_iff hkeys,
            perm_order_iff ht.1 fun f h g hg => ih f h (ht.2 f h) (hu.2 g hg)]
          constructor
          · intro h
            exact ⟨gs, rfl, h⟩
          · rintro ⟨hs, heq, h⟩
            cases heq
            exact h

end Json

end JsonText
