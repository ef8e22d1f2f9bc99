import Mathlib.Data.List.DropRight
import Mathlib.Data.Nat.Digits.Defs
import Mathlib.Data.Nat.Digits.Lemmas
import Mathlib.Data.List.Lex
import Mathlib.Order.Fin.Basic

/-! # Numbers and strings as JSON text

    What `JSON.stringify` writes for a number and for a string.  A finite number
    is its shortest decimal, as `Number::toString` chooses it; a string is a list
    of UTF-16 code units.  Both texts can be read back: a number from the
    characters of its text, a string up to its closing quote. -/

namespace JsonText

/-- A UTF-16 code unit. -/
abbrev CodeUnit := Fin 65536

/-- A string of the language: a list of code units. -/
abbrev JsString := List CodeUnit

/-- The code unit of an ASCII character. -/
def unit (c : Char) : CodeUnit := Fin.ofNat 65536 c.toNat

/-- A text as code units. -/
def ascii (text : String) : JsString := text.toList.map unit

/-! ## Numbers -/

/-- A decimal `0.d₁d₂… * 10 ^ point` other than zero, with no digit too many. -/
structure Decimal where
  negative : Bool
  digits : List (Fin 10)
  point : Int
  digits_ne : digits ≠ []
  first_ne : digits.head? ≠ some 0
  last_ne : digits.getLast? ≠ some 0
  deriving DecidableEq

/-- A number that `JSON.parse` can return; the two zeros are one, and what exceeds
    the largest finite number is infinite. -/
inductive Number where
  | zero
  | decimal (d : Decimal)
  | infinite (negative : Bool)
  deriving DecidableEq

/-- The characters of a number's text. -/
inductive Sym where
  | digit (d : Fin 10)
  | point
  | exponent
  | plus
  | minus
  deriving DecidableEq

/-- How a symbol of a number is written. -/
def Sym.unit : Sym → CodeUnit
  | .digit d => ⟨48 + d.val, by omega⟩
  | .point => JsonText.unit '.'
  | .exponent => JsonText.unit 'e'
  | .plus => JsonText.unit '+'
  | .minus => JsonText.unit '-'

/-- A natural number in decimal digits. -/
def natDigits (m : Nat) : List (Fin 10) :=
  if m = 0 then [0] else (Nat.digits 10 m).reverse.map (Fin.ofNat 10)

/-- `e`, the sign and the digits of an exponent. -/
def exponentText (e : Int) : List Sym :=
  .exponent :: (if e < 0 then .minus else .plus) :: (natDigits e.natAbs).map .digit

/-- `Number::toString` of the absolute value. -/
def Decimal.magnitude (d : Decimal) : List Sym :=
  if -5 ≤ d.point ∧ d.point ≤ 21 then
    if d.digits.length ≤ d.point then
      (d.digits ++ List.replicate (d.point - d.digits.length).toNat 0).map .digit
    else if 0 < d.point then
      (d.digits.take d.point.toNat).map .digit ++ .point ::
        (d.digits.drop d.point.toNat).map .digit
    else
      .digit 0 :: .point :: (List.replicate (-d.point).toNat 0 ++ d.digits).map .digit
  else
    (d.digits.take 1).map .digit ++
      (if d.digits.length = 1 then [] else .point :: (d.digits.drop 1).map .digit) ++
      exponentText (d.point - 1)

/-- `Number::toString` of a finite number. -/
def numberText : Option Decimal → List Sym
  | none => [.digit 0]
  | some d => (if d.negative then [.minus] else []) ++ d.magnitude

/-! ### Reading a number -/

/-- The digit that a symbol stands for. -/
def Sym.digit? : Sym → Option (Fin 10)
  | .digit d => some d
  | _ => none

/-- The exponent of a text. -/
def readExponent (text : List Sym) : Int :=
  match text.dropWhile (· ≠ .exponent) with
  | _ :: sign :: digits =>
      let e : Nat := Nat.ofDigits 10 ((digits.filterMap Sym.digit?).map Fin.val).reverse
      if sign = .minus then -e else e
  | _ => 0

/-- The digits of a text and where its point stands, without the zeros at either end. -/
def readMagnitude (text : List Sym) : List (Fin 10) × Int :=
  let mantissa := text.takeWhile (· ≠ .exponent)
  let digits := mantissa.filterMap Sym.digit?
  ((digits.dropWhile (· = 0)).rdropWhile (· = 0),
    (mantissa.takeWhile (· ≠ .point)).length + readExponent text
      - (digits.takeWhile (· = 0)).length)

/-- The digits of a number, read back. -/
theorem natDigits_read (m : Nat) :
    Nat.ofDigits 10 ((natDigits m).map Fin.val).reverse = m := by
  by_cases hm : m = 0
  · subst hm
    rfl
  · have hsmall : ∀ d ∈ Nat.digits 10 m, (Fin.ofNat 10 d).val = d := fun d hd =>
      Nat.mod_eq_of_lt (Nat.digits_lt_base (by omega) hd)
    have hmap : (Nat.digits 10 m).map (Fin.val ∘ Fin.ofNat 10) = Nat.digits 10 m :=
      (List.map_congr_left hsmall).trans (List.map_id _)
    rw [natDigits, if_neg hm, List.map_map, ← List.map_reverse, List.reverse_reverse, hmap,
      Nat.ofDigits_digits]

@[simp] theorem filterMap_digit (ds : List (Fin 10)) :
    (ds.map Sym.digit).filterMap Sym.digit? = ds := by
  induction ds with
  | nil => rfl
  | cons d ds ih => simp [Sym.digit?, ih]

/-- The zeros around the digits of a decimal are told from them. -/
theorem strip_zeros (d : Decimal) (a b : Nat) :
    ((List.replicate a 0 ++ (d.digits ++ List.replicate b 0)).dropWhile (· = 0)).rdropWhile (· = 0)
        = d.digits ∧
      ((List.replicate a 0 ++ (d.digits ++ List.replicate b 0)).takeWhile
        (· = (0 : Fin 10))).length = a := by
  obtain ⟨x, xs, hcons⟩ := List.exists_cons_of_ne_nil d.digits_ne
  have hx : ¬ (fun y : Fin 10 => decide (y = 0)) x := by
    have hfirst := d.first_ne
    rw [hcons, List.head?_cons] at hfirst
    simpa using hfirst
  have hzeros : ∀ n, ∀ y ∈ List.replicate n (0 : Fin 10), decide (y = 0) := by
    intro n y hy
    simpa using (List.mem_replicate.mp hy).2
  constructor
  · rw [List.dropWhile_append_of_pos (hzeros a)]
    have hfront : (d.digits ++ List.replicate b 0).dropWhile (· = 0)
        = d.digits ++ List.replicate b 0 := by
      rw [hcons, List.cons_append, List.dropWhile_cons_of_neg (p := fun y => decide (y = 0)) hx]
    rw [hfront, List.rdropWhile, List.reverse_append, List.reverse_replicate,
      List.dropWhile_append_of_pos (hzeros b)]
    have hback : d.digits.rdropWhile (· = 0) = d.digits := by
      rw [List.rdropWhile_eq_self_iff]
      intro hne hlast
      refine d.last_ne ?_
      rw [List.getLast?_eq_some_getLast hne]
      simpa using hlast
    exact hback
  · rw [List.takeWhile_append_of_pos (hzeros a), hcons, List.cons_append,
      List.takeWhile_cons_of_neg (p := fun y => decide (y = 0)) hx, List.append_nil,
        List.length_replicate]

/-- A text without an exponent, read. -/
theorem readMagnitude_plain {text : List Sym} (h : .exponent ∉ text) {d : Decimal} {a b : Nat}
    (hdigits : text.filterMap Sym.digit?
      = List.replicate a 0 ++ (d.digits ++ List.replicate b 0))
    (hpoint : ((text.takeWhile (· ≠ .point)).length : Int) - a = d.point) :
    readMagnitude text = (d.digits, d.point) := by
  have hmantissa : text.takeWhile (· ≠ .exponent) = text := by
    rw [List.takeWhile_eq_self_iff]
    intro x hx
    have hne : x ≠ .exponent := fun heq => h (heq ▸ hx)
    simpa using hne
  have hrest : text.dropWhile (· ≠ .exponent) = [] := by
    rw [List.dropWhile_eq_nil_iff]
    intro x hx
    have hne : x ≠ .exponent := fun heq => h (heq ▸ hx)
    simpa using hne
  obtain ⟨hstrip, hzeros⟩ := strip_zeros d a b
  simp only [readMagnitude, hmantissa, hdigits, hstrip, hzeros, readExponent, hrest, add_zero]
  rw [hpoint]

/-- The exponent, read back. -/
theorem readExponent_exponentText {mantissa : List Sym} (h : .exponent ∉ mantissa) (e : Int) :
    (mantissa ++ exponentText e).takeWhile (· ≠ .exponent) = mantissa ∧
      readExponent (mantissa ++ exponentText e) = e := by
  have hall : ∀ x ∈ mantissa, decide (x ≠ .exponent) := by
    intro x hx
    have hne : x ≠ .exponent := fun heq => h (heq ▸ hx)
    simpa using hne
  constructor
  · rw [List.takeWhile_append_of_pos hall, exponentText, List.takeWhile_cons_of_neg (by simp),
      List.append_nil]
  · rw [readExponent, List.dropWhile_append_of_pos hall, exponentText,
      List.dropWhile_cons_of_neg (by simp)]
    simp only [filterMap_digit, natDigits_read]
    by_cases hneg : e < 0
    · rw [if_pos hneg, if_pos rfl]
      omega
    · rw [if_neg hneg, if_neg (by simp)]
      omega

/-- A text with an exponent, read: its point stands behind the first digit. -/
theorem readMagnitude_scientific {mantissa : List Sym} (h : .exponent ∉ mantissa) {d : Decimal}
    (hdigits : mantissa.filterMap Sym.digit? = d.digits)
    (hpoint : (mantissa.takeWhile (· ≠ .point)).length = 1) :
    readMagnitude (mantissa ++ exponentText (d.point - 1)) = (d.digits, d.point) := by
  obtain ⟨hmantissa, hexponent⟩ := readExponent_exponentText h (d.point - 1)
  obtain ⟨hstrip, hzeros⟩ := strip_zeros d 0 0
  simp only [List.replicate_zero, List.nil_append, List.append_nil] at hstrip hzeros
  simp only [readMagnitude, hmantissa, hexponent, hdigits, hpoint, hstrip, hzeros]
  rw [Prod.mk.injEq]
  refine ⟨rfl, ?_⟩
  push_cast
  omega

/-- Digits in front of the point. -/
theorem takeWhile_digits (ds : List (Fin 10)) (rest : List Sym) :
    (ds.map Sym.digit ++ .point :: rest).takeWhile (· ≠ .point) = ds.map Sym.digit := by
  rw [List.takeWhile_append_of_pos, List.takeWhile_cons_of_neg (by simp), List.append_nil]
  intro x hx
  obtain ⟨y, -, rfl⟩ := List.mem_map.mp hx
  simp

/-- A number without a point is digits only. -/
theorem takeWhile_onlyDigits (ds : List (Fin 10)) :
    (ds.map Sym.digit).takeWhile (· ≠ .point) = ds.map Sym.digit := by
  rw [List.takeWhile_eq_self_iff]
  intro x hx
  obtain ⟨y, -, rfl⟩ := List.mem_map.mp hx
  simp

/-- A mantissa has no exponent sign. -/
theorem exponent_not_mem (ds es : List (Fin 10)) :
    Sym.exponent ∉ ds.map Sym.digit ∧
      Sym.exponent ∉ ds.map Sym.digit ++ .point :: es.map Sym.digit := by
  simp

/-- The digits on both sides of the point. -/
theorem filterMap_point (ds es : List (Fin 10)) :
    (ds.map Sym.digit ++ .point :: es.map Sym.digit).filterMap Sym.digit? = ds ++ es := by
  rw [List.filterMap_append, filterMap_digit, List.filterMap_cons_none rfl, filterMap_digit]

/-- The digits and the point of a decimal are read off its text. -/
theorem readMagnitude_magnitude (d : Decimal) :
    readMagnitude d.magnitude = (d.digits, d.point) := by
  have hlen := List.length_pos_iff.mpr d.digits_ne
  rw [Decimal.magnitude]
  split_ifs with hrange hlong hpos hone
  · -- an integer, with zeros behind its digits
    refine readMagnitude_plain (exponent_not_mem _ []).1 (a := 0)
      (b := (d.point - d.digits.length).toNat) ?_ ?_
    · rw [filterMap_digit]
      rfl
    · rw [takeWhile_onlyDigits]
      simp only [List.length_map, List.length_append, List.length_replicate]
      omega
  · -- the point among the digits
    refine readMagnitude_plain (exponent_not_mem _ _).2 (a := 0) (b := 0) ?_ ?_
    · rw [filterMap_point, List.take_append_drop]
      simp
    · rw [takeWhile_digits]
      simp only [List.length_map, List.length_take]
      omega
  · -- zeros in front of the digits
    refine readMagnitude_plain (exponent_not_mem [0] _).2 (a := (1 - d.point).toNat) (b := 0) ?_ ?_
    · have hzeros : (1 - d.point).toNat = (-d.point).toNat + 1 := by omega
      rw [hzeros]
      have hread := filterMap_point [0] (List.replicate (-d.point).toNat 0 ++ d.digits)
      simpa [List.replicate_succ] using hread
    · rw [takeWhile_digits]
      simp only [List.length_map, List.length_cons, List.length_nil]
      omega
  · -- one digit with an exponent
    have htake : d.digits.take 1 = d.digits := List.take_of_length_le (by omega)
    rw [htake, List.append_nil]
    refine readMagnitude_scientific (exponent_not_mem _ []).1 (filterMap_digit _) ?_
    rw [takeWhile_onlyDigits, List.length_map, hone]
  · -- one digit in front of the point
    refine readMagnitude_scientific (exponent_not_mem _ _).2 ?_ ?_
    · rw [filterMap_point, List.take_append_drop]
    · rw [takeWhile_digits, List.length_map, List.length_take]
      omega

/-- No digit is a sign. -/
theorem magnitude_head (d : Decimal) : ∃ x rest, d.magnitude = .digit x :: rest := by
  obtain ⟨x, xs, hcons⟩ := List.exists_cons_of_ne_nil d.digits_ne
  rw [Decimal.magnitude, hcons]
  split_ifs with hrange hlong hpos hone
  · exact ⟨_, _, rfl⟩
  · obtain ⟨n, hn⟩ : ∃ n, d.point.toNat = n + 1 := ⟨d.point.toNat - 1, by omega⟩
    rw [hn]
    exact ⟨_, _, rfl⟩
  · exact ⟨_, _, rfl⟩
  · exact ⟨_, _, rfl⟩
  · exact ⟨_, _, rfl⟩

/-- The sign stands in front of the text. -/
theorem sign_magnitude {d e : Decimal} (h : numberText (some d) = numberText (some e)) :
    d.negative = e.negative ∧ d.magnitude = e.magnitude := by
  obtain ⟨x, xs, hx⟩ := magnitude_head d
  obtain ⟨y, ys, hy⟩ := magnitude_head e
  simp only [numberText] at h
  cases hd : d.negative with
  | true =>
      cases he : e.negative with
      | true =>
          rw [hd, he] at h
          exact ⟨rfl, List.append_cancel_left h⟩
      | false =>
          rw [hd, he, hy] at h
          cases h
  | false =>
      cases he : e.negative with
      | true =>
          rw [hd, he, hx] at h
          cases h
      | false =>
          rw [hd, he] at h
          exact ⟨rfl, List.append_cancel_left h⟩

/-- **A number is told by its text.** -/
theorem numberText_injective : Function.Injective numberText := by
  have hdecimal : ∀ d : Decimal, numberText (some d) ≠ numberText none := by
    intro d h
    simp only [numberText] at h
    cases hneg : d.negative with
    | true =>
        rw [hneg, if_pos rfl] at h
        cases h
    | false =>
        rw [hneg, if_neg (by simp), List.nil_append] at h
        have hread := readMagnitude_magnitude d
        rw [h] at hread
        exact d.digits_ne (congrArg Prod.fst hread).symm
  intro x y h
  cases x with
  | none =>
      cases y with
      | none => rfl
      | some e => exact absurd h.symm (hdecimal e)
  | some d =>
      cases y with
      | none => exact absurd h (hdecimal d)
      | some e =>
          obtain ⟨hsign, hmagnitude⟩ := sign_magnitude h
          have hread := readMagnitude_magnitude d
          rw [hmagnitude, readMagnitude_magnitude e, Prod.mk.injEq] at hread
          congr 1
          cases d
          cases e
          simp_all

/-- `1e-7`. -/
example : numberText (some ⟨false, [1], -6, by decide, by decide, by decide⟩)
    = [.digit 1, .exponent, .minus, .digit 7] := by decide

/-! ## Strings -/

/-- A leading surrogate. -/
def IsHigh (u : CodeUnit) : Prop := 0xD800 ≤ u ∧ u ≤ 0xDBFF

/-- A trailing surrogate. -/
def IsLow (u : CodeUnit) : Prop := 0xDC00 ≤ u ∧ u ≤ 0xDFFF

/-- A range of units. -/
instance (u : CodeUnit) : Decidable (IsHigh u) := inferInstanceAs (Decidable (_ ∧ _))

/-- The range behind it. -/
instance (u : CodeUnit) : Decidable (IsLow u) := inferInstanceAs (Decidable (_ ∧ _))

/-- A code point as UTF-16 writes it: one unit, or a high and a low surrogate. -/
inductive CodePoint where
  | one (u : CodeUnit)
  | pair (hi lo : CodeUnit) (surrogates : IsHigh hi ∧ IsLow lo)

/-- `StringToCodePoints`: surrogates in pairs are one code point, a lone one is one
    of its own. -/
def codePoints : JsString → List CodePoint
  | [] => []
  | [u] => [.one u]
  | u :: v :: rest =>
      if h : IsHigh u ∧ IsLow v then .pair u v h :: codePoints rest
      else .one u :: codePoints (v :: rest)

/-- The code units with an escape of two characters. -/
def shortEscapes : List (CodeUnit × CodeUnit) :=
  [(8, unit 'b'), (9, unit 't'), (10, unit 'n'), (12, unit 'f'), (13, unit 'r'),
    (unit '"', unit '"'), (unit '\\', unit '\\')]

/-- A digit of `\uXXXX`. -/
def hexDigit (d : Fin 16) : CodeUnit :=
  if d < 10 then ⟨48 + d.val, by omega⟩ else ⟨87 + d.val, by omega⟩

/-- Four lower-case hexadecimal digits. -/
def hex4 (u : CodeUnit) : JsString :=
  [hexDigit (Fin.ofNat 16 (u.val / 4096)), hexDigit (Fin.ofNat 16 (u.val / 256)),
    hexDigit (Fin.ofNat 16 (u.val / 16)), hexDigit (Fin.ofNat 16 u.val)]

/-- How `JSON.stringify` writes a unit that is no half of a pair. -/
def escapeUnit (u : CodeUnit) : JsString :=
  match shortEscapes.lookup u with
  | some c => [unit '\\', c]
  | none => if u < 0x20 ∨ IsHigh u ∨ IsLow u then unit '\\' :: unit 'u' :: hex4 u else [u]

/-- How `JSON.stringify` writes a code point. -/
def CodePoint.escape : CodePoint → JsString
  | .one u => escapeUnit u
  | .pair hi lo _ => [hi, lo]

/-- `QuoteJSONString`. -/
def quote (s : JsString) : JsString :=
  unit '"' :: ((codePoints s).flatMap CodePoint.escape ++ [unit '"'])

/-! ### Reading a string -/

/-- The units of a code point. -/
def CodePoint.units : CodePoint → JsString
  | .one u => [u]
  | .pair hi lo _ => [hi, lo]

/-- The code points of a text are all of it. -/
theorem flatMap_codePoints (s : JsString) : (codePoints s).flatMap CodePoint.units = s := by
  fun_induction codePoints s with
  | case1 => rfl
  | case2 u => rfl
  | case3 u v rest h ih =>
      rw [List.flatMap_cons, ih]
      rfl
  | case4 u v rest h ih =>
      rw [List.flatMap_cons, ih]
      rfl

/-- Two digits are written differently. -/
theorem hexDigit_injective : Function.Injective hexDigit := by
  intro a b h
  revert a b
  decide

/-- Two units are written differently. -/
theorem hex4_injective : Function.Injective hex4 := by
  intro u v h
  simp only [hex4, List.cons.injEq, hexDigit_injective.eq_iff, Fin.ofNat, Fin.mk.injEq,
    and_true] at h
  have hu := u.isLt
  have hv := v.isLt
  refine Fin.ext ?_
  omega

/-- An escape is the unit itself, two characters, or `\u` and four digits. -/
theorem escapeUnit_cases (u : CodeUnit) :
    (escapeUnit u = [u] ∧ u ≠ unit '"' ∧ u ≠ unit '\\' ∧ ¬ IsHigh u) ∨
      (∃ c, (u, c) ∈ shortEscapes ∧ escapeUnit u = [unit '\\', c]) ∨
      escapeUnit u = unit '\\' :: unit 'u' :: hex4 u := by
  simp only [escapeUnit]
  cases hlookup : shortEscapes.lookup u with
  | some c =>
      obtain ⟨before, after, hsplit, -⟩ := List.lookup_eq_some_iff.mp hlookup
      exact .inr (.inl ⟨c, by rw [hsplit]; simp, rfl⟩)
  | none =>
      rw [List.lookup_eq_none_iff] at hlookup
      have hquote := hlookup (unit '"', unit '"') (by decide)
      have hslash := hlookup (unit '\\', unit '\\') (by decide)
      by_cases hcontrol : u < 0x20 ∨ IsHigh u ∨ IsLow u
      · exact .inr (.inr (if_pos hcontrol))
      · refine .inl ⟨if_neg hcontrol, by simpa using hquote, by simpa using hslash, ?_⟩
        exact fun h => hcontrol (.inr (.inl h))

/-- Two short escapes are written differently. -/
theorem shortEscapes_right {x y : CodeUnit × CodeUnit} (hx : x ∈ shortEscapes)
    (hy : y ∈ shortEscapes) (h : x.2 = y.2) : x.1 = y.1 := by
  have hnodup : (shortEscapes.map Prod.snd).Nodup := by decide
  rw [List.inj_on_of_nodup_map hnodup hx hy h]

/-- No short escape looks like a `\u`. -/
theorem shortEscapes_ne {x : CodeUnit × CodeUnit} (hx : x ∈ shortEscapes) : x.2 ≠ unit 'u' := by
  have hall : (shortEscapes.all fun x => x.2 ≠ unit 'u') = true := by decide
  simpa using List.all_eq_true.mp hall x hx

/-- Escaped units are told apart in front of any texts. -/
theorem escapeUnit_append {u v : CodeUnit} {x y : JsString}
    (h : escapeUnit u ++ x = escapeUnit v ++ y) : u = v ∧ x = y := by
  rcases escapeUnit_cases u with ⟨hu, -, hslash, -⟩ | ⟨c, hc, hu⟩ | hu
  · rcases escapeUnit_cases v with ⟨hv, -⟩ | ⟨d, hd, hv⟩ | hv
    · rw [hu, hv] at h
      simpa using h
    · rw [hu, hv] at h
      exact absurd (List.cons.inj h).1 hslash
    · rw [hu, hv] at h
      exact absurd (List.cons.inj h).1 hslash
  · rcases escapeUnit_cases v with ⟨hv, -, hslash, -⟩ | ⟨d, hd, hv⟩ | hv
    · rw [hu, hv] at h
      exact absurd (List.cons.inj h).1.symm hslash
    · rw [hu, hv] at h
      simp only [List.cons_append, List.nil_append, List.cons.injEq, true_and] at h
      exact ⟨shortEscapes_right hc hd h.1, h.2⟩
    · rw [hu, hv] at h
      obtain ⟨-, h⟩ := List.cons.inj h
      exact absurd (List.cons.inj h).1 (shortEscapes_ne hc)
  · rcases escapeUnit_cases v with ⟨hv, -, hslash, -⟩ | ⟨d, hd, hv⟩ | hv
    · rw [hu, hv] at h
      exact absurd (List.cons.inj h).1.symm hslash
    · rw [hu, hv] at h
      obtain ⟨-, h⟩ := List.cons.inj h
      exact absurd (List.cons.inj h).1.symm (shortEscapes_ne hd)
    · rw [hu, hv] at h
      simp only [List.cons_append, List.cons.injEq, true_and] at h
      obtain ⟨hhex, hrest⟩ := List.append_inj h rfl
      exact ⟨hex4_injective hhex, hrest⟩

/-- No escape of a unit starts with the quote or with a leading surrogate. -/
theorem escapeUnit_head {u : CodeUnit} {x y : JsString} {v : CodeUnit}
    (h : escapeUnit u ++ x = v :: y) : v ≠ unit '"' ∧ ¬ IsHigh v := by
  rcases escapeUnit_cases u with ⟨hu, hquote, -, hhigh⟩ | ⟨c, hc, hu⟩ | hu
  · rw [hu] at h
    obtain ⟨rfl, -⟩ := List.cons.inj h
    exact ⟨hquote, hhigh⟩
  · rw [hu] at h
    obtain ⟨rfl, -⟩ := List.cons.inj h
    exact ⟨by decide, by decide⟩
  · rw [hu] at h
    obtain ⟨rfl, -⟩ := List.cons.inj h
    exact ⟨by decide, by decide⟩

/-- A surrogate is no quotation mark. -/
theorem high_ne_quote {u : CodeUnit} (h : IsHigh u) : u ≠ unit '"' := by
  rintro rfl
  revert h
  decide

/-- A code point is read back from what is written. -/
theorem CodePoint.escape_append {a b : CodePoint} {x y : JsString}
    (h : a.escape ++ x = b.escape ++ y) : a.units = b.units ∧ x = y := by
  cases a with
  | one u =>
      cases b with
      | one v =>
          obtain ⟨rfl, hrest⟩ := escapeUnit_append h
          exact ⟨rfl, hrest⟩
      | pair hi lo hs => exact absurd hs.1 (escapeUnit_head h).2
  | pair hi lo hs =>
      cases b with
      | one v => exact absurd hs.1 (escapeUnit_head h.symm).2
      | pair hi' lo' hs' =>
          simp only [CodePoint.escape, List.cons_append, List.nil_append, List.cons.injEq] at h
          obtain ⟨rfl, rfl, hxy⟩ := h
          exact ⟨rfl, hxy⟩

/-- No code point looks like the closing quotation mark. -/
theorem CodePoint.escape_quote {a : CodePoint} {x y : JsString} :
    a.escape ++ x ≠ unit '"' :: y := by
  intro h
  cases a with
  | one u => exact (escapeUnit_head h).1 rfl
  | pair hi lo hs => exact high_ne_quote hs.1 (List.cons.inj h).1

/-- So is a text. -/
theorem escapes_read {as bs : List CodePoint} {x y : JsString}
    (h : as.flatMap CodePoint.escape ++ unit '"' :: x
      = bs.flatMap CodePoint.escape ++ unit '"' :: y) :
    as.flatMap CodePoint.units = bs.flatMap CodePoint.units ∧ x = y := by
  induction as generalizing bs with
  | nil =>
      cases bs with
      | nil => exact ⟨rfl, (List.cons.inj h).2⟩
      | cons b bs =>
          rw [List.flatMap_cons, List.append_assoc] at h
          exact absurd h.symm CodePoint.escape_quote
  | cons a as ih =>
      cases bs with
      | nil =>
          rw [List.flatMap_cons, List.append_assoc] at h
          exact absurd h CodePoint.escape_quote
      | cons b bs =>
          rw [List.flatMap_cons, List.flatMap_cons, List.append_assoc, List.append_assoc] at h
          obtain ⟨hunits, h⟩ := CodePoint.escape_append h
          obtain ⟨hrest, hxy⟩ := ih h
          rw [List.flatMap_cons, List.flatMap_cons, hunits, hrest]
          exact ⟨rfl, hxy⟩

/-- **A string is told by its text**, whatever follows. -/
theorem quote_append {s t x y : JsString} (h : quote s ++ x = quote t ++ y) : s = t ∧ x = y := by
  simp only [quote, List.cons_append, List.append_assoc, List.nil_append, List.cons.injEq,
    true_and] at h
  obtain ⟨hunits, hxy⟩ := escapes_read h
  rw [flatMap_codePoints, flatMap_codePoints] at hunits
  exact ⟨hunits, hxy⟩

end JsonText
