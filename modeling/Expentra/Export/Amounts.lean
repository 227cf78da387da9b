-- SUMMARY: Amounts as the exports print them, and that they are read back exactly.
import Expentra.Core.Formatting
import Mathlib.Data.List.Induction

/-!
# Amounts in major units

An export divides the amount of an expense by a hundred and prints two decimals. The quotient
is rounded to a double first, which does not show in the amounts a request may have.
-/

namespace Expentra

namespace Js

open Text

/-- `toFixed(2)`: the nearest hundredth, the larger of two. -/
def toFixedTwo (x : Nat × Nat) : Text :=
  let hundredths := (200 * x.1 + 2 ^ x.2) / (2 * 2 ^ x.2)
  natural (hundredths / 100) ++ unit '.' :: padStart 2 (hundredths % 100)

end Js

/-- `formatAmountMajor` -/
def formatAmountMajor (amountKobo : Nat) : Text := Js.toFixedTwo (Js.parseHundredths amountKobo)

example : formatAmountMajor 1234505 = Text.ascii "12345.05" := by decide +kernel

/-- The digits of a text, as one number. -/
def readAmountMajor (text : Text) : Nat := Numeral.value (text.filter (· ≠ Text.unit '.'))

/-- The rounded quotient is off by half a unit at most. -/
theorem Js.roundHalfEven_spec (n : Nat) {d : Nat} (hd : 0 < d) :
    2 * n ≤ 2 * (roundHalfEven n d * d) + d ∧ 2 * (roundHalfEven n d * d) ≤ 2 * n + d := by
  have hdiv := Nat.div_add_mod n d
  have hmod := Nat.mod_lt n hd
  rw [Nat.mul_comm] at hdiv
  unfold roundHalfEven
  split
  · omega
  · split
    · rw [Nat.add_mul]
      omega
    · have hup : (n / d + n / d % 2) * d = n / d * d + n / d % 2 * d := Nat.add_mul _ _ _
      rcases Nat.mod_two_eq_zero_or_one (n / d) with heven | hodd
      · rw [heven, Nat.add_zero]
        omega
      · rw [hodd, Nat.add_mul, Nat.one_mul]
        omega

/-- Half of the distance between the doubles around an amount is less than half a hundredth. -/
theorem Js.seven_le_exponent {hundredths : Nat} (h : hundredths < 2 ^ 52) :
    7 ≤ (parseHundredths hundredths).2 := by
  have hlog : (hundredths * 2 ^ 59 / 100).log2 < 105 := by
    by_cases hzero : hundredths * 2 ^ 59 / 100 = 0
    · rw [hzero]
      decide
    · rw [Nat.log2_lt hzero]
      omega
  change 7 ≤ 111 - (hundredths * 2 ^ 59 / 100).log2
  omega

/-- The quotient is nearest to the amount it comes from. -/
theorem formatAmountMajor_eq {amount : Nat} (h : amount < 2 ^ 52) : formatAmountMajor amount =
    Text.natural (amount / 100) ++ Text.unit '.' :: Text.padStart 2 (amount % 100) := by
  obtain ⟨m, e, heq, he, hlower, hupper⟩ : ∃ m e, Js.parseHundredths amount = (m, e) ∧ 7 ≤ e ∧
      2 * (amount * 2 ^ e) ≤ 2 * (m * 100) + 100 ∧ 2 * (m * 100) ≤ 2 * (amount * 2 ^ e) + 100 :=
    ⟨_, _, rfl, Js.seven_le_exponent h, Js.roundHalfEven_spec _ (by decide)⟩
  have hpow : 2 ^ 7 ≤ 2 ^ e := Nat.pow_le_pow_right (by decide) he
  have hnearest : (200 * m + 2 ^ e) / (2 * 2 ^ e) = amount := by
    refine Nat.div_eq_of_lt_le ?_ ?_
    · have hmul : amount * (2 * 2 ^ e) = 2 * (amount * 2 ^ e) := Nat.mul_left_comm _ _ _
      omega
    · have hmul : (amount + 1) * (2 * 2 ^ e) = 2 * (amount * 2 ^ e) + 2 * 2 ^ e := by ring
      omega
  rw [formatAmountMajor, heq, Js.toFixedTwo]
  dsimp only
  rw [hnearest]

theorem isDigit_natural {n : Nat} {u : CodeUnit} (hu : u ∈ Text.natural n) :
    Text.isDigit u = true := by
  unfold Text.natural at hu
  split at hu
  · exact Text.isDigit_zeros hu
  · exact Text.isDigit_digits hu

/-- The number of two sequences of digits, one after the other. -/
theorem value_append (xs ys : Text) :
    Numeral.value (xs ++ ys) = Numeral.value xs * 10 ^ ys.length + Numeral.value ys := by
  induction ys using List.reverseRecOn with
  | nil => simp [Numeral.value]
  | append_singleton ys u ih =>
    rw [← List.append_assoc, Numeral.value, List.foldl_append, List.length_append]
    have hstep : Numeral.value (ys ++ [u]) = Numeral.value ys * 10 + (u.val - 48) := by
      rw [Numeral.value, List.foldl_append]
      rfl
    rw [hstep]
    change Numeral.value (xs ++ ys) * 10 + (u.val - 48) = _
    rw [ih, List.length_singleton, pow_succ]
    ring

/-- Two digits have the value of the number they show. -/
theorem padStart_two {n : Nat} (h : n < 100) :
    (Text.padStart 2 n).length = 2 ∧ Numeral.value (Text.padStart 2 n) = n ∧
      (Text.padStart 2 n).filter (· ≠ Text.unit '.') = Text.padStart 2 n := by
  have hall : ∀ n : Fin 100, (Text.padStart 2 n.val).length = 2 ∧
      Numeral.value (Text.padStart 2 n.val) = n.val ∧
      (Text.padStart 2 n.val).filter (· ≠ Text.unit '.') = Text.padStart 2 n.val := by
    decide +kernel
  exact hall ⟨n, h⟩

/-- An amount is read back as it was. -/
theorem readAmountMajor_formatAmountMajor {amount : Nat} (h : amount < 2 ^ 52) :
    readAmountMajor (formatAmountMajor amount) = amount := by
  obtain ⟨hlength, hvalue, hfilter⟩ := padStart_two (Nat.mod_lt amount (by decide : 0 < 100))
  have hwhole : (Text.natural (amount / 100)).filter (· ≠ Text.unit '.') =
      Text.natural (amount / 100) := by
    exact List.filter_eq_self.2 fun u hu =>
      decide_eq_true (Text.ne_of_isDigit (isDigit_natural hu) rfl)
  rw [formatAmountMajor_eq h, readAmountMajor, List.filter_append, List.filter_cons_of_neg (by decide),
    hwhole, hfilter, value_append, Numeral.value_natural, hvalue, hlength]
  omega

end Expentra
