-- SUMMARY: Every instant lies in one month, the one its date names.
import Expentra.Report.Periods

/-!
# Months

The database groups by `EXTRACT(MONTH FROM …)`, the ranges of the reports are bounded by
first days of months. A month of the calendar that begins in March has its place in the
year by a linear formula, so both say the same of an instant.
-/

namespace Expentra

open Date

/-- The month an instant is in, counted from January of the year 0. -/
def monthIndex (t : Instant) : Int := 12 * getUTCFullYear t + getUTCMonth t

/-- The first day of a month, counted from March of a year. -/
theorem daysFromCivil_march {year mp : Int} (hmp : 0 ≤ mp ∧ mp ≤ 11) :
    daysFromCivil ((12 * year + 2 + mp) / 12) ((12 * year + 2 + mp) % 12 + 1) 1 =
      marchFirst year + (153 * mp + 2) / 5 := by
  rw [daysFromCivil_eq]
  by_cases hlate : mp < 10
  · have hyear : (12 * year + 2 + mp) / 12 = year := by omega
    have hmonth : (12 * year + 2 + mp) % 12 = mp + 2 := by omega
    rw [hyear, hmonth, if_neg (by omega), if_pos (by omega)]
    have hmp : mp + 2 + 1 - 3 = mp := by omega
    rw [hmp]
    omega
  · have hyear : (12 * year + 2 + mp) / 12 = year + 1 := by omega
    have hmonth : (12 * year + 2 + mp) % 12 = mp - 10 := by omega
    have hmp : mp - 10 + 1 + 9 = mp := by omega
    rw [hyear, hmonth, if_pos (by omega), if_neg (by omega), hmp, Int.add_sub_cancel year 1]
    omega

/-- The month of a day begins no later than the day and ends after it. -/
theorem month_of_day (days : Int) :
    ∃ index, 12 * (civilFromDays days).1 + ((civilFromDays days).2.1 - 1) = index ∧
      daysFromCivil (index / 12) (index % 12 + 1) 1 ≤ days ∧
      days < daysFromCivil ((index + 1) / 12) ((index + 1) % 12 + 1) 1 := by
  obtain ⟨year, doy, hdays, hfirst, hlast, hcivil⟩ := exists_march days
  have hnext := marchFirst_succ_le year
  obtain ⟨mp, hmp⟩ : ∃ mp, (5 * doy + 2) / 153 = mp := ⟨_, rfl⟩
  have hrange : 0 ≤ mp ∧ mp ≤ 11 := by omega
  refine ⟨12 * year + 2 + mp, ?_, ?_, ?_⟩
  · rw [hcivil]
    unfold ofMarch
    dsimp only
    rw [hmp]
    split
    · dsimp only
      omega
    · dsimp only
      omega
  · rw [daysFromCivil_march hrange]
    omega
  · -- February ends with the year that begins in March
    by_cases hfebruary : mp = 11
    · have hindex : 12 * year + 2 + mp + 1 = 12 * (year + 1) + 2 + 0 := by omega
      rw [hindex, daysFromCivil_march (by decide)]
      omega
    · have hindex : 12 * year + 2 + mp + 1 = 12 * year + 2 + (mp + 1) := by omega
      rw [hindex, daysFromCivil_march (by omega)]
      omega

theorem firstOfMonth_lt_succ (index : Int) : firstOfMonth index < firstOfMonth (index + 1) := by
  rw [firstOfMonth_eq, firstOfMonth_eq]
  obtain ⟨year, mp, hmp, rfl⟩ : ∃ year mp : Int, (0 ≤ mp ∧ mp ≤ 11) ∧ 12 * year + 2 + mp = index :=
    ⟨(index - 2) / 12, (index - 2) % 12, by omega, by omega⟩
  refine Int.mul_lt_mul_of_pos_right ?_ (by decide)
  rw [daysFromCivil_march hmp]
  have hnext := marchFirst_lt (Int.lt_succ year)
  by_cases hfebruary : mp = 11
  · have hindex : 12 * year + 2 + mp + 1 = 12 * (year + 1) + 2 + 0 := by omega
    rw [hindex, daysFromCivil_march (by decide)]
    omega
  · have hindex : 12 * year + 2 + mp + 1 = 12 * year + 2 + (mp + 1) := by omega
    rw [hindex, daysFromCivil_march (by omega)]
    omega

theorem firstOfMonth_lt_iff {m n : Int} : firstOfMonth m < firstOfMonth n ↔ m < n :=
  (strictMono_int_of_lt_succ firstOfMonth_lt_succ).lt_iff_lt

theorem firstOfMonth_le {m n : Int} (h : m ≤ n) : firstOfMonth m ≤ firstOfMonth n :=
  Int.not_lt.1 (fun hlt => absurd (firstOfMonth_lt_iff.1 hlt) (Int.not_lt.2 h))

/-- An instant lies between the first days of its month and of the next one. -/
theorem firstOfMonth_monthIndex (t : Instant) :
    firstOfMonth (monthIndex t) ≤ t ∧ t < firstOfMonth (monthIndex t + 1) := by
  obtain ⟨index, hindex, hfirst, hlast⟩ := month_of_day (t / msPerDay)
  have hmonth : monthIndex t = index := hindex
  rw [hmonth, firstOfMonth_eq, firstOfMonth_eq]
  exact ⟨(Int.le_ediv_iff_mul_le (by decide)).1 hfirst, (Int.ediv_lt_iff_lt_mul (by decide)).1 hlast⟩

/-- A range of months has the instants of its months. -/
theorem mem_months_iff {first last : Int} (t : Instant) :
    (firstOfMonth first ≤ t ∧ t < firstOfMonth last) ↔ (first ≤ monthIndex t ∧ monthIndex t < last) := by
  obtain ⟨hfirst, hlast⟩ := firstOfMonth_monthIndex t
  constructor
  · rintro ⟨hge, hlt⟩
    constructor
    · exact Int.lt_add_one_iff.1 (firstOfMonth_lt_iff.1 (Int.lt_of_le_of_lt hge hlast))
    · exact firstOfMonth_lt_iff.1 (Int.lt_of_le_of_lt hfirst hlt)
  · rintro ⟨hge, hlt⟩
    constructor
    · exact Int.le_trans (firstOfMonth_le hge) hfirst
    · exact Int.lt_of_lt_of_le hlast (firstOfMonth_le hlt)

/-- The days of a month are numbered from 1 to 31. -/
theorem getUTCDate_range (t : Instant) : 1 ≤ getUTCDate t ∧ getUTCDate t ≤ 31 := by
  obtain ⟨year, doy, hdays, hfirst, hlast, hcivil⟩ := exists_march (t / msPerDay)
  have hnext := marchFirst_succ_le year
  obtain ⟨mp, hmp⟩ : ∃ mp, (5 * doy + 2) / 153 = mp := ⟨_, rfl⟩
  rw [getUTCDate, hcivil]
  unfold ofMarch
  dsimp only
  rw [hmp]
  split
  · dsimp only
    omega
  · dsimp only
    omega

/-- The month within its year. -/
theorem getUTCMonth_eq (t : Instant) : getUTCMonth t = monthIndex t % 12 ∧
    getUTCFullYear t = monthIndex t / 12 := by
  obtain ⟨index, hindex, -, -⟩ := month_of_day (t / msPerDay)
  have hbounds : 0 ≤ getUTCMonth t ∧ getUTCMonth t ≤ 11 := by
    obtain ⟨year, doy, hdays, hfirst, hlast, hcivil⟩ := exists_march (t / msPerDay)
    have hnext := marchFirst_succ_le year
    rw [getUTCMonth, hcivil]
    unfold ofMarch
    dsimp only
    split
    · dsimp only
      omega
    · dsimp only
      omega
  unfold monthIndex
  omega

end Expentra
