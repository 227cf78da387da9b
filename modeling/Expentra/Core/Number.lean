-- SUMMARY: The numbers of JavaScript: doubles, their text, and the double a text stands for.
import Mathlib.Algebra.Order.Field.Rat
import Mathlib.Data.Rat.Floor
import Expentra.Core.NumberText

/-!
# Numbers

A number is a double, and `Float` is the type of doubles; its operations round as IEEE 754
says. What the operations on text and `Math.round` ask for is the exact value of a double.
-/

namespace Expentra.Js

open Float.Model (UnpackedFloat)

/-! ## Values -/

def NaN : Float := 0 / 0

def Infinity : Float := 1 / 0

/-- The exact value of a finite double. -/
def valueOf (x : UnpackedFloat) : Option Rat :=
  match x with
  | .finite sign mantissa exponent _ => some (sign.apply mantissa * 2 ^ exponent)
  | .zero _ => some 0
  | .infinity _ | .notANumber => none

def value? (x : Float) : Option Rat := valueOf x.toModel.unpack

/-- The integer a double is, if `Number.isInteger` holds of it. -/
def integer? (x : Float) : Option Int :=
  match value? x with
  | some q => if q.den = 1 then some q.num else none
  | none => none

/-- `Math.round` -/
def round (x : Float) : Float :=
  match value? x with
  | some q =>
    if q = 0 then x
    else if -1 / 2 ≤ q ∧ q < 0 then -0.0
    else Float.ofInt (q + 1 / 2).floor
  | none => x

/-- The double closest to a decimal number. -/
def ofDecimal (digits : Nat) (exponent : Int) : Float := .ofModel (.ofScientific digits exponent)

/-! ## The text of a number -/

/-- The place of the decimal point of a positive number:
    it is less than the power of ten, and not less than the one before. -/
def pointOf (q : Rat) : Int :=
  if 1 ≤ q then (Nat.toDigits 10 q.floor.toNat).length
  else 1 - ((Nat.toDigits 10 (q⁻¹.ceil.toNat - 1)).length : Int)

/-- The digits of a number, `k` of them. -/
def digitsOf : Nat → Nat → List (Fin 10)
  | 0, _ => []
  | k + 1, n => digitsOf k (n / 10) ++ [Fin.ofNat 10 n]

/-- The multiple of a power of ten that is closest to `q` among those that round to `x`. -/
def closest? (x : Float) (q : Rat) (exponent : Int) : Option Nat :=
  let scaled := q / 10 ^ exponent
  let below := scaled.floor.toNat
  let rest := scaled - below
  let isAbove := 1 / 2 < rest || (rest = 1 / 2 && below % 2 = 1)
  let order := if isAbove then [below + 1, below] else [below, below + 1]
  order.find? (fun n => ofDecimal n exponent = x)

/-- The shortest digits that round to a positive double, and the place of the point. -/
def shortest (x : Float) (q : Rat) : List (Fin 10) × Int :=
  let point := pointOf q
  let found := (List.range' 1 17).findSome? (fun k : Nat =>
    (closest? x q (point - (k : Int))).map (fun n => (k, n)))
  match found with
  | some (k, n) => if n = 10 ^ k then ([1], point + 1) else (digitsOf k n, point)
  | none => ([], point)

/-- The characters of a text of ASCII. -/
def ofText (text : Text) : String := String.ofList (text.map (fun u => Char.ofNat u.val))

def textOf (x : UnpackedFloat) : String :=
  match x with
  | .notANumber => "NaN"
  | .infinity .positive => "Infinity"
  | .infinity .negative => "-Infinity"
  | .zero _ => "0"
  | .finite sign mantissa exponent h =>
    let q := (mantissa : Rat) * 2 ^ exponent
    let (digits, point) := shortest (.ofModel (.pack (.finite .positive mantissa exponent h))) q
    let text := ofText (Decimal.layout digits point)
    match sign with
    | .positive => text
    | .negative => "-" ++ text

/-- `Number::toString` -/
def numberToString (x : Float) : String := textOf x.toModel.unpack

/-- `toFixed(2)` -/
def numberToFixedTwo (x : Float) : String :=
  match value? x with
  | some q =>
    if 10 ^ 21 ≤ |q| then numberToString x
    else
      let hundredths := (|q| * 100 + 1 / 2).floor
      (if q < 0 then "-" else "") ++ toString (hundredths / 100) ++ "." ++
        Date.padded 2 (hundredths % 100)
  | none => numberToString x

/-! ## The number of a text -/

/-- The value of a digit in bases up to 16. -/
def digitValue (c : Char) : Nat :=
  if c.isDigit then c.toNat - 48
  else if 'a' ≤ c ∧ c ≤ 'f' then c.toNat - 87
  else if 'A' ≤ c ∧ c ≤ 'F' then c.toNat - 55
  else 16

/-- A nonempty sequence of digits in a base. -/
def parseDigits (base : Nat) (cs : List Char) : Option Nat :=
  if cs ≠ [] ∧ cs.all (fun c => digitValue c < base) then
    some (cs.foldl (fun n c => n * base + digitValue c) 0)
  else none

/-- Digits with an optional fraction, `12`, `12.`, `.5`, `12.5`: all the digits, and how many
    of them the fraction has. -/
def parseMantissa (cs : List Char) : Option (Nat × Nat) :=
  let whole := cs.takeWhile (· ≠ '.')
  let fraction := (cs.dropWhile (· ≠ '.')).drop 1
  (parseDigits 10 (whole ++ fraction)).map (fun n => (n, fraction.length))

/-- An optional sign. -/
def parseSign : List Char → Bool × List Char
  | '-' :: cs => (true, cs)
  | '+' :: cs => (false, cs)
  | cs => (false, cs)

def isExponentMark (c : Char) : Bool := c = 'e' || c = 'E'

/-- A decimal literal with an optional exponent. -/
def parseDecimal (cs : List Char) : Float :=
  if cs = "Infinity".toList then Infinity
  else
    let mantissa := cs.takeWhile (fun c => !isExponentMark c)
    match parseMantissa mantissa, cs.dropWhile (fun c => !isExponentMark c) with
    | some (n, places), [] => ofDecimal n (-places)
    | some (n, places), _ :: exponent =>
      let (negative, digits) := parseSign exponent
      match parseDigits 10 digits with
      | some e => ofDecimal n ((if negative then -(e : Int) else e) - places)
      | none => NaN
    | none, _ => NaN

def parseSigned (cs : List Char) : Float :=
  let (negative, cs) := parseSign cs
  if negative then -parseDecimal cs else parseDecimal cs

def parseInteger (base : Nat) (cs : List Char) : Float :=
  match parseDigits base cs with
  | some n => Float.ofNat n
  | none => NaN

/-- `Number(s)` -/
def stringToNumber (s : String) : Float :=
  match (trim s).toList with
  | [] => 0
  | '0' :: c :: digits =>
    if c = 'x' || c = 'X' then parseInteger 16 digits
    else if c = 'o' || c = 'O' then parseInteger 8 digits
    else if c = 'b' || c = 'B' then parseInteger 2 digits
    else parseSigned ('0' :: c :: digits)
  | cs => parseSigned cs

/-! ## Equal numbers

Two numbers are equal when they are the same double, or both zero. -/

theorem beq_iff {x y : Float} :
    (x == y) = true ↔ x.toModel.unpack.compare y.toModel.unpack = some .eq := by
  change (x.toModel.unpack.compare y.toModel.unpack == some .eq) = true ↔ _
  rw [beq_iff_eq]

theorem lt_iff {x y : Float} :
    x < y ↔ x.toModel.unpack.compare y.toModel.unpack = some .lt := by
  change decide ((x.toModel.unpack.compare y.toModel.unpack == some .lt) = true) = true ↔ _
  rw [decide_eq_true_iff, beq_iff_eq]

theorem le_iff {x y : Float} :
    x ≤ y ↔ (x.toModel.unpack.compare y.toModel.unpack).any (·.isLE) = true := by
  change decide ((x.toModel.unpack.compare y.toModel.unpack).any (·.isLE) = true) = true ↔ _
  rw [decide_eq_true_iff]

theorem eq_or_zero_of_compare {x y : UnpackedFloat} (h : x.compare y = some .eq) :
    x = y ∨ ∃ s s', x = .zero s ∧ y = .zero s' := by
  cases x with
  | notANumber => cases y <;> cases h
  | zero s =>
    cases y with
    | zero s' => exact .inr ⟨s, s', rfl, rfl⟩
    | infinity sign | finite sign => cases sign <;> cases h
    | notANumber => cases h
  | infinity sign =>
    cases y with
    | infinity sign' => cases sign <;> cases sign' <;> first | exact .inl rfl | cases h
    | _ => cases sign <;> cases h
  | finite sign m e hm =>
    cases y with
    | finite sign' m' e' hm' =>
      have hsame : (compare e e').then (compare m m') = .eq → m = m' ∧ e = e' := fun hequal => by
        rw [Ordering.then_eq_eq, Std.compare_eq_iff_eq, Std.compare_eq_iff_eq] at hequal
        exact hequal.symm
      cases sign <;> cases sign' <;> try cases h
      · obtain ⟨rfl, rfl⟩ := hsame (Ordering.swap_eq_eq.1 (Option.some.inj h))
        exact .inl rfl
      · obtain ⟨rfl, rfl⟩ := hsame (Option.some.inj h)
        exact .inl rfl
    | infinity sign' => cases sign <;> cases sign' <;> cases h
    | zero _ | notANumber => cases sign <;> cases h

/-- Doubles that differ in nothing but the sign of a zero. -/
def Alike (x y : Float) : Prop :=
  x.toModel.unpack = y.toModel.unpack ∨
    ∃ s s', x.toModel.unpack = .zero s ∧ y.toModel.unpack = .zero s'

namespace Alike

variable {x y : Float}

theorem numberToString (h : Alike x y) : numberToString x = numberToString y := by
  unfold Js.numberToString
  rcases h with heq | ⟨s, s', hx, hy⟩
  · rw [heq]
  · rw [hx, hy]
    rfl

theorem integer? (h : Alike x y) : integer? x = integer? y := by
  unfold Js.integer? value?
  rcases h with heq | ⟨s, s', hx, hy⟩
  · rw [heq]
  · rw [hx, hy]
    rfl

theorem compare_right (h : Alike x y) (z : UnpackedFloat) :
    z.compare x.toModel.unpack = z.compare y.toModel.unpack := by
  rcases h with heq | ⟨s, s', hx, hy⟩
  · rw [heq]
  · rw [hx, hy]
    cases z with
    | infinity sign => cases sign <;> rfl
    | finite sign => cases sign <;> rfl
    | _ => rfl

theorem compare_left (h : Alike x y) (z : UnpackedFloat) :
    x.toModel.unpack.compare z = y.toModel.unpack.compare z := by
  rcases h with heq | ⟨s, s', hx, hy⟩
  · rw [heq]
  · rw [hx, hy]
    cases z with
    | infinity sign => cases sign <;> rfl
    | finite sign => cases sign <;> rfl
    | _ => rfl

theorem beq_right (h : Alike x y) (z : Float) : (z == x) = (z == y) := by
  rw [Bool.eq_iff_iff, beq_iff, beq_iff, h.compare_right]

theorem beq_left (h : Alike x y) (z : Float) : (x == z) = (y == z) := by
  rw [Bool.eq_iff_iff, beq_iff, beq_iff, h.compare_left]

theorem lt_right (h : Alike x y) (z : Float) : z < x ↔ z < y := by
  rw [lt_iff, lt_iff, h.compare_right]

theorem lt_left (h : Alike x y) (z : Float) : x < z ↔ y < z := by
  rw [lt_iff, lt_iff, h.compare_left]

theorem le_right (h : Alike x y) (z : Float) : z ≤ x ↔ z ≤ y := by
  rw [le_iff, le_iff, h.compare_right]

theorem le_left (h : Alike x y) (z : Float) : x ≤ z ↔ y ≤ z := by
  rw [le_iff, le_iff, h.compare_left]

end Alike

theorem alike_of_beq {x y : Float} (h : (x == y) = true) : Alike x y :=
  eq_or_zero_of_compare (beq_iff.1 h)

/-! ## The characters of a numeral -/

theorem integer?_NaN : integer? NaN = none ∧ integer? (-NaN) = none := by decide +kernel

theorem integer?_Infinity : integer? Infinity = none ∧ integer? (-Infinity) = none := by decide +kernel

/-- The letters of `0x`, `0o` and `0b`. -/
def baseMarks : List Char := ['x', 'X', 'o', 'O', 'b', 'B']

/-- A character that no numeral has. -/
structure Stray (c : Char) : Prop where
  digit : 16 ≤ digitValue c
  point : c ≠ '.'
  mark : isExponentMark c = false
  sign : c ≠ '-' ∧ c ≠ '+'
  base : c ∉ baseMarks
  space : isWhitespace c = false

variable {c : Char} {cs : List Char}

theorem Stray.parseDigits (hc : Stray c) (hmem : c ∈ cs) {base : Nat} (hbase : base ≤ 16) :
    parseDigits base cs = none := by
  have hdigit := hc.digit
  have hnot : ¬ cs.all (fun c => digitValue c < base) = true := by
    intro hall
    have := of_decide_eq_true (List.all_eq_true.1 hall c hmem)
    omega
  unfold Js.parseDigits
  rw [if_neg (fun h => hnot h.2)]

theorem Stray.parseMantissa (hc : Stray c) (hmem : c ∈ cs) : parseMantissa cs = none := by
  have hin : c ∈ cs.takeWhile (· ≠ '.') ++ (cs.dropWhile (· ≠ '.')).drop 1 := by
    rw [← List.takeWhile_append_dropWhile (p := (· ≠ '.')) (l := cs), List.mem_append] at hmem
    refine List.mem_append.2 (hmem.imp_right (fun hrest => ?_))
    cases hdrop : cs.dropWhile (· ≠ '.') with
    | nil => rw [hdrop] at hrest; cases hrest
    | cons first rest =>
      have hfirst : first = '.' := by
        have := List.head?_dropWhile_not (p := (· ≠ '.')) cs
        rw [hdrop] at this
        simpa using this
      rw [hdrop] at hrest
      exact (List.mem_cons.1 hrest).resolve_left (fun heq => hc.point (heq.trans hfirst))
  unfold Js.parseMantissa
  dsimp only
  rw [hc.parseDigits hin (by decide)]
  rfl

theorem Stray.parseSign (hc : Stray c) (hmem : c ∈ cs) : c ∈ (parseSign cs).2 := by
  unfold Js.parseSign
  split
  · exact (List.mem_cons.1 hmem).resolve_left hc.sign.1
  · exact (List.mem_cons.1 hmem).resolve_left hc.sign.2
  · exact hmem

theorem Stray.parseDecimal (hc : Stray c) (hmem : c ∈ cs) :
    parseDecimal cs = NaN ∨ parseDecimal cs = Infinity := by
  unfold Js.parseDecimal
  split
  · exact .inr rfl
  · left
    dsimp only
    rw [← List.takeWhile_append_dropWhile (p := fun c => !isExponentMark c) (l := cs),
      List.mem_append] at hmem
    rcases hmem with hmantissa | hrest
    · rw [hc.parseMantissa hmantissa]
    · split
      · rename_i hdrop
        rw [hdrop] at hrest
        cases hrest
      · rename_i mark exponent _ hdrop
        have hmark : isExponentMark mark = true := by
          have := List.head?_dropWhile_not (p := fun c => !isExponentMark c) cs
          rw [hdrop] at this
          simpa using this
        rw [hdrop] at hrest
        have hexponent : c ∈ exponent := by
          refine (List.mem_cons.1 hrest).resolve_left (fun heq => ?_)
          rw [← heq, hc.mark] at hmark
          cases hmark
        rw [hc.parseDigits (hc.parseSign hexponent) (by decide)]
      · rfl

theorem Stray.parseSigned (hc : Stray c) (hmem : c ∈ cs) : integer? (parseSigned cs) = none := by
  unfold Js.parseSigned
  dsimp only
  rcases hc.parseDecimal (hc.parseSign hmem) with h | h <;> rw [h] <;> split
  · exact integer?_NaN.2
  · exact integer?_NaN.1
  · exact integer?_Infinity.2
  · exact integer?_Infinity.1

theorem Stray.parseInteger (hc : Stray c) (hmem : c ∈ cs) {base : Nat} (hbase : base ≤ 16) :
    integer? (parseInteger base cs) = none := by
  unfold Js.parseInteger
  rw [hc.parseDigits hmem hbase]
  exact integer?_NaN.1

theorem mem_trim {s : String} (hmem : c ∈ s.toList) (hspace : isWhitespace c = false) :
    c ∈ (trim s).toList := by
  have hdrop : ∀ {cs : List Char}, c ∈ cs → c ∈ cs.dropWhile isWhitespace := by
    intro cs h
    rw [← List.takeWhile_append_dropWhile (p := isWhitespace) (l := cs), List.mem_append] at h
    refine h.resolve_left (fun htaken => ?_)
    have hwhite := List.all_eq_true.1 List.all_takeWhile c htaken
    rw [hspace] at hwhite
    cases hwhite
  unfold trim
  rw [String.toList_ofList, List.mem_reverse]
  exact hdrop (List.mem_reverse.2 (hdrop hmem))

/-- A text that is an integer has no character but those of a numeral. -/
theorem Stray.not_mem {s : String} {n : Int} (hc : Stray c) (h : integer? (stringToNumber s) = some n) :
    c ∉ s.toList := by
  intro hmem
  have htrim := mem_trim hmem hc.space
  unfold stringToNumber at h
  split at h
  · rename_i hnil
    rw [hnil] at htrim
    cases htrim
  · rename_i mark digits hcs
    rw [hcs] at htrim
    have hrest : c ∈ mark :: digits := by
      refine (List.mem_cons.1 htrim).resolve_left ?_
      rintro rfl
      exact absurd hc.digit (by decide)
    have hdigits : ∀ d d' : Char, d ∈ baseMarks → d' ∈ baseMarks →
        (mark = d || mark = d') = true → c ∈ digits := by
      intro d d' hd hd' hmark
      refine (List.mem_cons.1 hrest).resolve_left ?_
      rintro rfl
      rcases Bool.or_eq_true_iff.1 hmark with heq | heq
      · exact hc.base (of_decide_eq_true heq ▸ hd)
      · exact hc.base (of_decide_eq_true heq ▸ hd')
    split at h
    · rw [hc.parseInteger (hdigits 'x' 'X' (by decide) (by decide) ‹_›) (by decide)] at h
      cases h
    split at h
    · rw [hc.parseInteger (hdigits 'o' 'O' (by decide) (by decide) ‹_›) (by decide)] at h
      cases h
    split at h
    · rw [hc.parseInteger (hdigits 'b' 'B' (by decide) (by decide) ‹_›) (by decide)] at h
      cases h
    · rw [hc.parseSigned htrim] at h
      cases h
  · rw [hc.parseSigned htrim] at h
    cases h

end Expentra.Js
