-- SUMMARY: The texts of strings, integers, percentages and dates, in code units.
import Expentra.Core.NumberText

/-!
# Texts of columns

How the columns of a row are printed. A numeric column with two decimals is parsed to the
nearest double, and what `toFixed` rounds is that double.
-/

namespace Expentra

namespace Text

/-- A character in UTF-16. -/
def ofChar (c : Char) : Text :=
  if c.toNat < 0x10000 then [unit c]
  else [Fin.ofNat 65536 (0xD800 + (c.toNat - 0x10000) / 0x400),
    Fin.ofNat 65536 (0xDC00 + (c.toNat - 0x10000) % 0x400)]

def ofString (s : String) : Text := s.toList.flatMap ofChar

def ofInt (n : Int) : Text :=
  if n < 0 then unit '-' :: natural n.natAbs else natural n.natAbs

/-- `padStart(width, '0')` -/
def padStart (width n : Nat) : Text := zeros (width - (natural n).length) ++ natural n

end Text

namespace Js

open Text

/-- The quotient, rounded to the nearest, ties to even. -/
def roundHalfEven (n d : Nat) : Nat :=
  if 2 * (n % d) < d then n / d
  else if d < 2 * (n % d) then n / d + 1
  else n / d + n / d % 2

/-- `parseFloat` of a number of hundredths below 10 to the power 7: the significand of the
    nearest double, and the power of two it is divided by. -/
def parseHundredths (hundredths : Nat) : Nat × Nat :=
  let exponent := 111 - (hundredths * 2 ^ 59 / 100).log2
  (roundHalfEven (hundredths * 2 ^ exponent) 100, exponent)

/-- `toFixed(1)`: the nearest tenth, the larger of two. -/
def toFixedOne (x : Nat × Nat) : Text :=
  let tenths := (20 * x.1 + 2 ^ x.2) / (2 * 2 ^ x.2)
  natural (tenths / 10) ++ unit '.' :: natural (tenths % 10)

-- 1.45 lies above its nearest double, 2.45 below
example : toFixedOne (parseHundredths 145) = ascii "1.4" := by decide +kernel

example : toFixedOne (parseHundredths 245) = ascii "2.5" := by decide +kernel

end Js

namespace Date

open Text

/-- The year of `toISOString`, with a sign and six digits outside of four. -/
def isoYear (year : Int) : Text :=
  if 0 ≤ year ∧ year ≤ 9999 then padStart 4 year.natAbs
  else unit (if year < 0 then '-' else '+') :: padStart 6 year.natAbs

def toISOString (t : Instant) : Text :=
  let ms := (t % msPerDay).toNat
  isoYear (getUTCFullYear t) ++
    unit '-' :: (padStart 2 (getUTCMonth t + 1).toNat ++
    unit '-' :: (padStart 2 (getUTCDate t).toNat ++
    unit 'T' :: (padStart 2 (ms / 3600000) ++
    unit ':' :: (padStart 2 (ms / 60000 % 60) ++
    unit ':' :: (padStart 2 (ms / 1000 % 60) ++
    unit '.' :: (padStart 3 (ms % 1000) ++ [unit 'Z']))))))

example : toISOString (utc 2026 1 28 9 5 7 + 3) = ascii "2026-02-28T09:05:07.003Z" := by
  decide +kernel

end Date

/-! ## The characters of these texts -/

namespace Text

/-- The characters of numbers and dates. -/
def isPrinted (u : CodeUnit) : Bool := isDigit u || (ascii "+-.:TZ").contains u

theorem isPrinted_natural {n : Nat} : ∀ u ∈ natural n, isPrinted u = true := by
  intro u hu
  have hdigit : isDigit u = true := by
    unfold natural at hu
    split at hu
    · exact isDigit_zeros hu
    · exact isDigit_digits hu
  exact Bool.or_eq_true_iff.2 (.inl hdigit)

theorem isPrinted_padStart {width n : Nat} : ∀ u ∈ padStart width n, isPrinted u = true := by
  refine List.forall_mem_append.2 ⟨fun u hu => ?_, isPrinted_natural⟩
  exact Bool.or_eq_true_iff.2 (.inl (isDigit_zeros hu))

theorem isPrinted_ofInt {n : Int} : ∀ u ∈ ofInt n, isPrinted u = true := by
  unfold ofInt
  split
  · exact List.forall_mem_cons.2 ⟨by decide, isPrinted_natural⟩
  · exact isPrinted_natural

theorem isPrinted_toFixedOne {x : Nat × Nat} : ∀ u ∈ Js.toFixedOne x, isPrinted u = true :=
  List.forall_mem_append.2
    ⟨isPrinted_natural, List.forall_mem_cons.2 ⟨by decide, isPrinted_natural⟩⟩

theorem isPrinted_isoYear {year : Int} : ∀ u ∈ Date.isoYear year, isPrinted u = true := by
  unfold Date.isoYear
  split
  · exact isPrinted_padStart
  · refine List.forall_mem_cons.2 ⟨?_, isPrinted_padStart⟩
    split <;> decide

theorem isPrinted_toISOString {t : Instant} : ∀ u ∈ Date.toISOString t, isPrinted u = true := by
  have hfield : ∀ (c : Char) {width n : Nat} {rest : Text}, isPrinted (unit c) = true →
      (∀ u ∈ rest, isPrinted u = true) →
        ∀ u ∈ unit c :: (padStart width n ++ rest), isPrinted u = true := by
    intro c width n rest hc hrest
    exact List.forall_mem_cons.2 ⟨hc, List.forall_mem_append.2 ⟨isPrinted_padStart, hrest⟩⟩
  refine List.forall_mem_append.2 ⟨isPrinted_isoYear, ?_⟩
  refine hfield '-' (by decide) (hfield '-' (by decide) (hfield 'T' (by decide) ?_))
  refine hfield ':' (by decide) (hfield ':' (by decide) (hfield '.' (by decide) ?_))
  exact List.forall_mem_singleton.2 (by decide)

/-- A character below the surrogates is its own code unit, and part of no other. -/
theorem mem_ofChar {c d : Char} (hc : c.toNat < 0xD800) : unit c ∈ ofChar d ↔ d = c := by
  have hunit : (unit c).val = c.toNat := Nat.mod_eq_of_lt (by omega)
  have hbound : d.toNat < 0x110000 := by
    have hvalid := d.valid
    simp only [UInt32.isValidChar, Nat.isValidChar] at hvalid
    change d.val.toNat < 0x110000
    omega
  unfold ofChar
  split
  case isTrue hplane =>
    have hunit' : (unit d).val = d.toNat := Nat.mod_eq_of_lt hplane
    rw [List.mem_singleton, ← Char.toNat_inj, Fin.ext_iff, hunit, hunit', eq_comm]
  case isFalse hplane =>
    refine iff_of_false ?_ ?_
    · -- both halves are surrogates
      simp only [List.mem_cons, List.not_mem_nil, or_false, Fin.ext_iff, hunit, Fin.ofNat]
      omega
    · rintro rfl
      omega

theorem mem_ofString {c : Char} {s : String} (hc : c.toNat < 0xD800) :
    unit c ∈ ofString s ↔ c ∈ s.toList := by
  unfold ofString
  simp only [List.mem_flatMap, mem_ofChar hc]
  constructor
  · rintro ⟨d, hd, rfl⟩
    exact hd
  · intro h
    exact ⟨c, h, rfl⟩

end Text

end Expentra
