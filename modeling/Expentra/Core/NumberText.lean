-- SUMMARY: Text in UTF-16 code units, the numbers of JSON, and the text of a number.
import Mathlib.Data.Nat.Digits.Defs
import Mathlib.Data.List.Basic
import Expentra.Core.Javascript

/-!
# The text of numbers

`Number::toString` names a double by the shortest digits that round to it. Here a double
is these digits and the place of the decimal point. Different numbers have different
texts.
-/

namespace Expentra

/-- A code unit of UTF-16. -/
abbrev CodeUnit := Fin 65536

instance codeUnits_neZero : NeZero 65536 := ⟨by decide⟩

instance digits_neZero : NeZero 10 := ⟨by decide⟩

/-- A string of JavaScript; surrogates need not come in pairs. -/
abbrev Text := List CodeUnit

namespace Text

/-- The code unit of a character of ASCII. -/
def unit (c : Char) : CodeUnit := Fin.ofNat 65536 c.toNat

def ascii (s : String) : Text := s.toList.map unit

def digit (d : Fin 10) : CodeUnit := ⟨48 + d.val, by omega⟩

def digits (ds : List (Fin 10)) : Text := ds.map digit

def zeros (n : Nat) : Text := List.replicate n (unit '0')

/-- The decimal digits of a natural number. -/
def natural (n : Nat) : Text :=
  if n = 0 then zeros 1 else digits ((Nat.digits 10 n).reverse.map (Fin.ofNat 10))

end Text

/-- A finite double other than zero: its value is a decimal fraction, 0.d₁…dₖ times the
    power of ten `point`, written with as few digits as can be. -/
structure Decimal where
  negative : Bool
  ds : List (Fin 10)
  point : Int
  head_ne : ∀ d ∈ ds.head?, d ≠ 0
  getLast_ne : ∀ d ∈ ds.getLast?, d ≠ 0
  ds_ne : ds ≠ []
deriving DecidableEq

/-- A number as `JSON.parse` returns it: a literal beyond the range of doubles is infinite,
    and -0 is equal to 0. -/
inductive JsonNumber where
  | zero
  | decimal (value : Decimal)
  | infinite (negative : Bool)
deriving DecidableEq

namespace Decimal

open Text

/-- The exponent of a number whose point lies far from its digits. -/
def exponent (n : Int) : Text :=
  unit 'e' :: unit (if n < 0 then '-' else '+') :: natural (n - 1).natAbs

/-- `Number::toString` of a positive number with the digits `ds`, the point after the first
    `n` of them. -/
def layout (ds : List (Fin 10)) (n : Int) : Text :=
  let k := ds.length
  if -5 ≤ n ∧ n ≤ 21 then
    if k ≤ n then digits ds ++ zeros (n - k).toNat
    else if 0 < n then digits (ds.take n.toNat) ++ unit '.' :: digits (ds.drop n.toNat)
    else unit '0' :: unit '.' :: (zeros (-n).toNat ++ digits ds)
  else if k = 1 then digits ds ++ exponent n
  else digits (ds.take 1) ++ unit '.' :: (digits (ds.drop 1) ++ exponent n)

def toText (x : Decimal) : Text :=
  if x.negative then unit '-' :: layout x.ds x.point else layout x.ds x.point

end Decimal

namespace JsonNumber

/-- What `JSON.stringify` prints; infinity is printed as `null`. -/
def toText : JsonNumber → Text
  | .zero => [Text.unit '0']
  | .decimal x => x.toText
  | .infinite _ => Text.ascii "null"

example : toText (.decimal ⟨true, [1, 2, 5], 1, by simp, by simp, by simp⟩) = Text.ascii "-1.25" := by
  decide

example : toText (.decimal ⟨false, [5], -6, by simp, by simp, by simp⟩) = Text.ascii "5e-7" := by
  decide

end JsonNumber

/-! ## Reading a number back -/

namespace Text

def isDigit (u : CodeUnit) : Bool := 48 ≤ u.val && u.val ≤ 57

/-- The code units a number is written with. -/
def isNumeral (u : CodeUnit) : Bool :=
  isDigit u || u = unit '-' || u = unit '+' || u = unit '.' || u = unit 'e'

theorem isDigit_digit (d : Fin 10) : isDigit (digit d) = true := by
  have hd := d.isLt
  exact Bool.and_eq_true_iff.2
    ⟨decide_eq_true (Nat.le_add_right 48 d), decide_eq_true (by change 48 + d.val ≤ 57; omega)⟩

theorem isDigit_digits {ds : List (Fin 10)} {u : CodeUnit} (hu : u ∈ digits ds) :
    isDigit u = true := by
  obtain ⟨d, -, rfl⟩ := List.mem_map.1 hu
  exact isDigit_digit d

theorem isDigit_zeros {n : Nat} {u : CodeUnit} (hu : u ∈ zeros n) : isDigit u = true := by
  rw [List.eq_of_mem_replicate hu]
  rfl

theorem ne_of_isDigit {u : CodeUnit} {c : Char} (hu : isDigit u = true)
    (hc : isDigit (unit c) = false) : u ≠ unit c := by
  rintro rfl
  rw [hu] at hc
  cases hc

theorem digit_inj {d d' : Fin 10} (h : digit d = digit d') : d = d' := by
  have hval := congrArg Fin.val h
  simp only [digit] at hval
  omega

theorem digits_inj {ds ds' : List (Fin 10)} (h : digits ds = digits ds') : ds = ds' :=
  List.map_injective_iff.2 (fun _ _ => digit_inj) h

theorem digit_eq_zero {d : Fin 10} (h : digit d = unit '0') : d = 0 :=
  digit_inj (h.trans rfl)

end Text

namespace Numeral

open Text

/-- The natural number a sequence of digits stands for. -/
def value (ds : Text) : Nat := ds.foldl (fun n u => n * 10 + (u.val - 48)) 0

/-- The exponent a numeral ends with. -/
def exponentOf : Text → Int
  | _ :: sign :: ds => if sign = unit '-' then -value ds else value ds
  | _ => 0

/-- The digits of a numeral without the zeros around them. -/
def significant (ds : Text) : Text :=
  ((ds.dropWhile (· = unit '0')).reverse.dropWhile (· = unit '0')).reverse

/-- The digits of a numeral, and the place of the point before the first of them. -/
def read (t : Text) : Text × Int :=
  let mantissa := t.takeWhile (· ≠ unit 'e')
  let whole := mantissa.takeWhile (· ≠ unit '.')
  let ds := whole ++ (mantissa.dropWhile (· ≠ unit '.')).drop 1
  (significant ds, whole.length - ((ds.takeWhile (· = unit '0')).length : Int) +
    exponentOf (t.dropWhile (· ≠ unit 'e')))

theorem value_natural (n : Nat) : value (natural n) = n := by
  rw [natural]
  split
  case isTrue hn => rw [hn]; rfl
  rw [value, digits, List.map_map, List.map_reverse, List.foldl_reverse, List.foldr_map]
  conv => rhs; rw [← Nat.ofDigits_digits 10 n, Nat.ofDigits_eq_foldr]
  refine List.foldr_ext _ _ _ (fun d hd m => ?_)
  have hlt := Nat.digits_lt_base (by omega) hd
  simp only [Function.comp_apply, digit, Fin.ofNat, Nat.mod_eq_of_lt hlt, Nat.cast_id]
  omega

theorem exponentOf_nil : exponentOf [] = 0 := rfl

theorem exponentOf_exponent {n : Int} (hfar : ¬(-5 ≤ n ∧ n ≤ 21)) :
    exponentOf (Decimal.exponent n) = n - 1 := by
  rw [Decimal.exponent, exponentOf, value_natural]
  split
  · rw [if_pos rfl]
    omega
  · rw [if_neg (by decide)]
    omega

variable {ds : List (Fin 10)} {lead trail : Nat}

theorem dropWhile_zeros (n : Nat) (t : Text) :
    (zeros n ++ t).dropWhile (· = unit '0') = t.dropWhile (· = unit '0') :=
  List.dropWhile_append_of_pos (fun u hu => by simp [List.eq_of_mem_replicate hu])

/-- Digits with no zero at the start. -/
theorem dropWhile_digits (hhead : ∀ d ∈ ds.head?, d ≠ 0) (hds : ds ≠ []) (t : Text) :
    (digits ds ++ t).dropWhile (· = unit '0') = digits ds ++ t := by
  obtain ⟨d, others, rfl⟩ := List.exists_cons_of_ne_nil hds
  have hd : digit d ≠ unit '0' := fun h => hhead d rfl (digit_eq_zero h)
  simp [digits, hd]

theorem significant_padded (hhead : ∀ d ∈ ds.head?, d ≠ 0) (hlast : ∀ d ∈ ds.getLast?, d ≠ 0)
    (hds : ds ≠ []) : significant (zeros lead ++ (digits ds ++ zeros trail)) = digits ds := by
  have hback : (digits ds).reverse = digits ds.reverse := by rw [digits, digits, List.map_reverse]
  have hhead' : ∀ d ∈ ds.reverse.head?, d ≠ 0 := by simpa using hlast
  rw [significant, dropWhile_zeros, dropWhile_digits hhead hds, List.reverse_append, zeros,
    List.reverse_replicate, ← zeros, dropWhile_zeros, hback]
  have h := dropWhile_digits hhead' (by simpa using hds) []
  rw [List.append_nil] at h
  rw [h, ← hback, List.reverse_reverse]

theorem takeWhile_padded (hhead : ∀ d ∈ ds.head?, d ≠ 0) (hds : ds ≠ []) (t : Text) :
    ((zeros lead ++ (digits ds ++ t)).takeWhile (· = unit '0')).length = lead := by
  obtain ⟨d, others, rfl⟩ := List.exists_cons_of_ne_nil hds
  have hd : digit d ≠ unit '0' := fun h => hhead d rfl (digit_eq_zero h)
  rw [List.takeWhile_append_of_pos (fun u hu => by simp [List.eq_of_mem_replicate hu])]
  simp [digits, hd, zeros]

/-- A numeral is read from its whole part, its fraction and its exponent. -/
theorem read_parts {whole fraction exponent : Text} (hwhole : ∀ u ∈ whole, isDigit u = true)
    (hfraction : ∀ u ∈ fraction, isDigit u = true)
    (hexponent : ∀ u ∈ exponent.head?, u = unit 'e')
    (hhead : ∀ d ∈ ds.head?, d ≠ 0) (hlast : ∀ d ∈ ds.getLast?, d ≠ 0) (hds : ds ≠ [])
    {point : Text} (hpoint : point = [] ∧ fraction = [] ∨ point = [unit '.']) (lead trail : Nat)
    (hpadded : whole ++ fraction = zeros lead ++ (digits ds ++ zeros trail)) :
    read (whole ++ (point ++ (fraction ++ exponent))) =
      (digits ds, whole.length - lead + exponentOf exponent) := by
  have hmantissa : ∀ u ∈ whole ++ (point ++ fraction), u ≠ unit 'e' := by
    intro u hu
    rw [List.mem_append, List.mem_append] at hu
    rcases hu with hu | hu | hu
    · exact ne_of_isDigit (hwhole u hu) rfl
    · rcases hpoint with ⟨rfl, -⟩ | rfl
      · cases hu
      · rw [List.mem_singleton.1 hu]
        decide
    · exact ne_of_isDigit (hfraction u hu) rfl
  have htext : whole ++ (point ++ (fraction ++ exponent)) =
      (whole ++ (point ++ fraction)) ++ exponent := by simp
  have htake : (whole ++ (point ++ (fraction ++ exponent))).takeWhile (· ≠ unit 'e') =
      whole ++ (point ++ fraction) := by
    rw [htext, List.takeWhile_append_of_pos (by simpa using hmantissa)]
    cases exponent with
    | nil => simp
    | cons u others => simp [hexponent u rfl]
  have hdrop : (whole ++ (point ++ (fraction ++ exponent))).dropWhile (· ≠ unit 'e') =
      exponent := by
    rw [htext, List.dropWhile_append_of_pos (by simpa using hmantissa)]
    cases exponent with
    | nil => rfl
    | cons u others => simp [hexponent u rfl]
  have hpoints : ∀ u ∈ whole, (decide (u ≠ unit '.')) = true :=
    fun u hu => decide_eq_true (ne_of_isDigit (hwhole u hu) rfl)
  have hbefore : (whole ++ (point ++ fraction)).takeWhile (· ≠ unit '.') = whole := by
    rw [List.takeWhile_append_of_pos hpoints]
    rcases hpoint with ⟨rfl, rfl⟩ | rfl <;> simp
  have hafter : ((whole ++ (point ++ fraction)).dropWhile (· ≠ unit '.')).drop 1 = fraction := by
    rw [List.dropWhile_append_of_pos hpoints]
    rcases hpoint with ⟨rfl, rfl⟩ | rfl <;> simp
  rw [read, htake, hdrop, hbefore, hafter, hpadded, significant_padded hhead hlast hds,
    takeWhile_padded hhead hds]

theorem digits_append (xs ys : List (Fin 10)) : digits (xs ++ ys) = digits xs ++ digits ys :=
  List.map_append

theorem length_digits (ds : List (Fin 10)) : (digits ds).length = ds.length := List.length_map _

theorem length_zeros (n : Nat) : (zeros n).length = n := List.length_replicate

/-- The text of a number names its digits and the place of its point. -/
theorem read_layout (hhead : ∀ d ∈ ds.head?, d ≠ 0) (hlast : ∀ d ∈ ds.getLast?, d ≠ 0)
    (hds : ds ≠ []) (n : Int) : read (Decimal.layout ds n) = (digits ds, n) := by
  have hlength : 0 < ds.length := List.length_pos_of_ne_nil hds
  have hnone : ∀ u ∈ List.head? ([] : Text), u = unit 'e' := fun u hu => by cases hu
  have hempty : ∀ u ∈ ([] : Text), isDigit u = true := fun u hu => by cases hu
  have hexponent : ∀ u ∈ (Decimal.exponent n).head?, u = unit 'e' :=
    fun u hu => (Option.some.inj hu).symm
  have hpadded (m : Nat) : (digits ds ++ zeros m) ++ [] = zeros 0 ++ (digits ds ++ zeros m) :=
    List.append_nil _
  have hsplit (m : Nat) : digits (ds.take m) ++ digits (ds.drop m) =
      zeros 0 ++ (digits ds ++ zeros 0) := by
    rw [← digits_append, List.take_append_drop]
    simp [zeros]
  rw [Decimal.layout]
  split
  case isTrue hnear =>
    split
    case isTrue hwhole =>
      -- the digits, and zeros up to the point
      have h := read_parts (fun u hu => (List.mem_append.1 hu).elim isDigit_digits isDigit_zeros)
        hempty hnone hhead hlast hds (.inl ⟨rfl, rfl⟩) 0 _ (hpadded (n - ds.length).toNat)
      simp only [List.append_nil] at h
      refine h.trans (Prod.ext rfl ?_)
      rw [List.length_append, length_digits, length_zeros, exponentOf_nil]
      dsimp only
      omega
    case isFalse hwhole =>
      split
      case isTrue hpositive =>
        have h := read_parts (fun u hu => isDigit_digits hu) (fun u hu => isDigit_digits hu) hnone
          hhead hlast hds (.inr rfl) 0 0 (hsplit n.toNat)
        simp only [List.append_nil, List.singleton_append] at h
        refine h.trans (Prod.ext rfl ?_)
        rw [length_digits, List.length_take, exponentOf_nil]
        dsimp only
        omega
      case isFalse hpositive =>
        -- zeros before the digits, the first of them before the point
        have hzeros : zeros 1 ++ (zeros (-n).toNat ++ digits ds) =
            zeros (1 + (-n).toNat) ++ (digits ds ++ zeros 0) := by
          rw [zeros, zeros, zeros, List.replicate_add]
          simp [zeros]
        have h := read_parts (fun u hu => isDigit_zeros hu)
          (fun u hu => (List.mem_append.1 hu).elim isDigit_zeros isDigit_digits)
          hnone hhead hlast hds (.inr rfl) (1 + (-n).toNat) 0 hzeros
        simp only [List.append_nil, List.singleton_append] at h
        refine h.trans (Prod.ext rfl ?_)
        rw [length_zeros, exponentOf_nil]
        dsimp only
        omega
  case isFalse hfar =>
    have hrest := exponentOf_exponent hfar
    split
    case isTrue hone =>
      have h := read_parts (fun u hu => (List.mem_append.1 hu).elim isDigit_digits isDigit_zeros)
        hempty hexponent hhead hlast hds (.inl ⟨rfl, rfl⟩) 0 0 (hpadded 0)
      rw [show digits ds ++ zeros 0 = digits ds from List.append_nil _] at h
      refine h.trans (Prod.ext rfl ?_)
      rw [length_digits, hone, hrest]
      dsimp only
      omega
    case isFalse hone =>
      have h := read_parts (fun u hu => isDigit_digits hu) (fun u hu => isDigit_digits hu)
        hexponent hhead hlast hds (.inr rfl) 0 0 (hsplit 1)
      refine h.trans (Prod.ext rfl ?_)
      rw [length_digits, List.length_take, hrest]
      dsimp only
      omega

end Numeral

/-! ## Texts of different numbers -/

open Text

namespace Decimal

/-- The first code unit of a number without a sign is a digit. -/
theorem head_layout {ds : List (Fin 10)} (hds : ds ≠ []) (n : Int) :
    ∃ d tail, layout ds n = digit d :: tail := by
  obtain ⟨d, others, rfl⟩ := List.exists_cons_of_ne_nil hds
  rw [layout]
  split
  · split
    · exact ⟨d, _, rfl⟩
    · split
      case isTrue hpositive =>
        obtain ⟨m, hm⟩ : ∃ m, n.toNat = m + 1 := ⟨n.toNat - 1, by omega⟩
        rw [hm]
        exact ⟨d, _, rfl⟩
      case isFalse => exact ⟨0, _, rfl⟩
  · split
    · exact ⟨d, _, rfl⟩
    · exact ⟨d, _, rfl⟩

theorem layout_inj {ds ds' : List (Fin 10)} {n n' : Int} (hhead : ∀ d ∈ ds.head?, d ≠ 0)
    (hlast : ∀ d ∈ ds.getLast?, d ≠ 0) (hds : ds ≠ []) (hhead' : ∀ d ∈ ds'.head?, d ≠ 0)
    (hlast' : ∀ d ∈ ds'.getLast?, d ≠ 0) (hds' : ds' ≠ []) (h : layout ds n = layout ds' n') :
    ds = ds' ∧ n = n' := by
  have hread := congrArg Numeral.read h
  rw [Numeral.read_layout hhead hlast hds, Numeral.read_layout hhead' hlast' hds'] at hread
  exact ⟨digits_inj (congrArg Prod.fst hread), congrArg Prod.snd hread⟩

theorem toText_inj {x y : Decimal} (h : x.toText = y.toText) : x = y := by
  obtain ⟨negative, ds, n, hhead, hlast, hds⟩ := x
  obtain ⟨negative', ds', n', hhead', hlast', hds'⟩ := y
  have hminus : ∀ {ds : List (Fin 10)} {n : Int} {tail}, ds ≠ [] →
      layout ds n ≠ unit '-' :: tail := by
    intro ds n tail hds heq
    obtain ⟨d, others, hlayout⟩ := head_layout hds n
    rw [hlayout] at heq
    exact ne_of_isDigit (isDigit_digit d) rfl (List.cons.inj heq).1
  have hparts : negative = negative' ∧ layout ds n = layout ds' n' := by
    cases negative <;> cases negative' <;> simp only [toText, if_true, Bool.false_eq_true,
      if_false] at h
    · exact ⟨rfl, h⟩
    · exact absurd h (hminus hds)
    · exact absurd h.symm (hminus hds')
    · exact ⟨rfl, (List.cons.inj h).2⟩
  obtain ⟨rfl, hlayout⟩ := hparts
  obtain ⟨rfl, rfl⟩ := layout_inj hhead hlast hds hhead' hlast' hds' hlayout
  rfl

/-- A number is written with digits, signs, the point and the `e` of an exponent. -/
theorem isNumeral_layout {ds : List (Fin 10)} {n : Int} {u : CodeUnit} (hu : u ∈ layout ds n) :
    isNumeral u = true := by
  have hdigit : isDigit u = true → isNumeral u = true := fun h => by simp [isNumeral, h]
  have hds {ds : List (Fin 10)} (h : u ∈ digits ds) := hdigit (isDigit_digits h)
  have hzeros {m : Nat} (h : u ∈ zeros m) := hdigit (isDigit_zeros h)
  have hexponent (h : u ∈ exponent n) : isNumeral u = true := by
    rw [exponent, List.mem_cons, List.mem_cons] at h
    rcases h with rfl | rfl | h
    · rfl
    · split <;> rfl
    · rw [natural] at h
      split at h
      · exact hzeros h
      · exact hds h
  rw [layout] at hu
  split at hu
  · split at hu
    · exact (List.mem_append.1 hu).elim hds hzeros
    · split at hu
      · rw [List.mem_append, List.mem_cons] at hu
        rcases hu with hu | rfl | hu
        · exact hds hu
        · rfl
        · exact hds hu
      · rw [List.mem_cons, List.mem_cons, List.mem_append] at hu
        rcases hu with rfl | rfl | hu | hu
        · rfl
        · rfl
        · exact hzeros hu
        · exact hds hu
  · split at hu
    · exact (List.mem_append.1 hu).elim hds hexponent
    · rw [List.mem_append, List.mem_cons, List.mem_append] at hu
      rcases hu with hu | rfl | hu | hu
      · exact hds hu
      · rfl
      · exact hds hu
      · exact hexponent hu

end Decimal

namespace JsonNumber

/-- What is left of a number in its text. -/
def printed : JsonNumber → Option JsonNumber
  | .infinite _ => none
  | x => some x

theorem printed_decimal (x : Decimal) : printed (.decimal x) = some (.decimal x) := rfl

/-- The numeral of a finite number. -/
theorem isNumeral_toText {x : JsonNumber} (hx : x.printed = some x) {u : CodeUnit}
    (hu : u ∈ x.toText) : isNumeral u = true := by
  cases x with
  | zero =>
    rw [List.mem_singleton.1 hu]
    rfl
  | decimal x =>
    rw [toText, Decimal.toText] at hu
    split at hu
    · rcases List.mem_cons.1 hu with rfl | hu
      · rfl
      · exact Decimal.isNumeral_layout hu
    · exact Decimal.isNumeral_layout hu
  | infinite negative => cases hx

/-- A finite number starts with a digit or a minus sign. -/
theorem head_toText {x : JsonNumber} (hx : x.printed = some x) :
    ∃ u tail, x.toText = u :: tail ∧ isNumeral u = true := by
  cases hx' : x.toText with
  | nil =>
    cases x with
    | zero => cases hx'
    | decimal x =>
      obtain ⟨d, tail, hlayout⟩ := Decimal.head_layout x.ds_ne x.point
      rw [toText, Decimal.toText, hlayout] at hx'
      split at hx' <;> cases hx'
    | infinite negative => cases hx
  | cons u tail => exact ⟨u, tail, rfl, isNumeral_toText hx (by rw [hx']; exact List.mem_cons_self)⟩

theorem toText_inj {x y : JsonNumber} (hx : x.printed = some x) (hy : y.printed = some y)
    (h : x.toText = y.toText) : x = y := by
  -- zero has no significant digits, other numbers have
  have hzero (z : Decimal) : z.toText ≠ [unit '0'] := by
    intro hz
    have hread := Numeral.read_layout z.head_ne z.getLast_ne z.ds_ne z.point
    rw [Decimal.toText] at hz
    split at hz
    · exact absurd (List.cons.inj hz).1 (by decide)
    · rw [hz] at hread
      have hds := congrArg Prod.fst hread
      exact z.ds_ne (List.map_eq_nil_iff.1 hds.symm)
  cases x with
  | zero =>
    cases y with
    | zero => rfl
    | decimal y => exact absurd h.symm (hzero y)
    | infinite negative => cases hy
  | decimal x =>
    cases y with
    | zero => exact absurd h (hzero x)
    | decimal y => rw [Decimal.toText_inj h]
    | infinite negative => cases hy
  | infinite negative => cases hx

end JsonNumber

end Expentra
