-- SUMMARY: The calendar of dates: days and dates determine each other, and a year is an interval of days.
import Expentra.Core.Javascript

/-!
# The calendar

`civilFromDays` finds the date of a day by counting eras of 400 years, centuries,
cycles of four years and years, all of which begin in March. It inverts
`daysFromCivil`, and the days of a year are those from its first of January up to
that of the next.
-/

namespace Expentra

namespace Date

/-! ## Years that begin in March -/

/-- The first of March of a year. -/
def marchFirst (year : Int) : Int := 365 * year + year / 4 - year / 100 + year / 400 - 719468

theorem marchFirst_lt {year year' : Int} (h : year < year') :
    marchFirst year + 365 ≤ marchFirst year' := by
  unfold marchFirst
  omega

theorem marchFirst_succ_le (year : Int) : marchFirst (year + 1) ≤ marchFirst year + 366 := by
  unfold marchFirst
  omega

/-- A day lies in one year only. -/
theorem eq_of_marchFirst {year year' : Int} (day : Int) (h : marchFirst year ≤ day ∧ day < marchFirst (year + 1))
    (h' : marchFirst year' ≤ day ∧ day < marchFirst (year' + 1)) : year = year' := by
  rcases Int.lt_trichotomy year year' with hlt | heq | hgt
  · rcases Int.lt_or_eq_of_le (Int.add_one_le_of_lt hlt) with hnext | hnext
    · have := marchFirst_lt hnext
      omega
    · rw [hnext] at h
      omega
  · exact heq
  · rcases Int.lt_or_eq_of_le (Int.add_one_le_of_lt hgt) with hnext | hnext
    · have := marchFirst_lt hnext
      omega
    · rw [hnext] at h'
      omega

theorem daysFromCivil_eq (year month day : Int) : daysFromCivil year month day =
    marchFirst (if month ≤ 2 then year - 1 else year) +
      (153 * (if 2 < month then month - 3 else month + 9) + 2) / 5 + day - 1 := by
  unfold daysFromCivil marchFirst
  generalize (if 2 < month then month - 3 else month + 9) = mp
  generalize (if month ≤ 2 then year - 1 else year) = y
  dsimp only
  omega

/-! ## The year of a day -/

/-- The year of an era a day of the era lies in, as `civilFromDays` finds it. -/
def yearOfEra (doe : Int) : Int := (doe - doe / 1460 + doe / 36524 - doe / 146096) / 365

/-- Counted by centuries, cycles of four years and years. Only the last year of a cycle
    has 366 days. -/
theorem yearOfEra_eq (century cycle rest : Int) (hcentury : 0 ≤ century ∧ century ≤ 3)
    (hcycle : 0 ≤ cycle) (hrest : 0 ≤ rest ∧ rest ≤ 1460) (hdays : 1461 * cycle + rest < 36524) :
    ∃ year, (0 ≤ year ∧ year ≤ 3) ∧ 365 * year ≤ rest ∧ rest ≤ 365 * year + 365 ∧
      (rest = 365 * year + 365 → year = 3) ∧
      yearOfEra (36524 * century + 1461 * cycle + rest) = 100 * century + 4 * cycle + year := by
  obtain ⟨leap, hleap⟩ : ∃ leap, (24 * century + cycle + rest) / 1460 = leap := ⟨_, rfl⟩
  have h1460 : (36524 * century + 1461 * cycle + rest) / 1460 = 25 * century + cycle + leap := by omega
  have h36524 : (36524 * century + 1461 * cycle + rest) / 36524 = century := by omega
  have h146096 : (36524 * century + 1461 * cycle + rest) / 146096 = 0 := by omega
  refine ⟨(rest - leap) / 365, by omega, by omega, by omega, by omega, ?_⟩
  unfold yearOfEra
  rw [h1460, h36524, h146096]
  omega

/-- A day of an era lies in the year that is found for it. -/
theorem yearOfEra_spec (era doe : Int) (hdoe : 0 ≤ doe ∧ doe < 146097) :
    (0 ≤ yearOfEra doe ∧ yearOfEra doe ≤ 399) ∧
      marchFirst (400 * era + yearOfEra doe) ≤ 146097 * era + doe - 719468 ∧
      146097 * era + doe - 719468 < marchFirst (400 * era + yearOfEra doe + 1) := by
  rcases Int.lt_or_eq_of_le (show doe ≤ 146096 by omega) with hlt | rfl
  · obtain ⟨century, hcentury⟩ : ∃ century, doe / 36524 = century := ⟨_, rfl⟩
    obtain ⟨cycle, hcycle⟩ : ∃ cycle, doe % 36524 / 1461 = cycle := ⟨_, rfl⟩
    obtain ⟨rest, hrest⟩ : ∃ rest, doe % 36524 % 1461 = rest := ⟨_, rfl⟩
    have hdecomposed : doe = 36524 * century + 1461 * cycle + rest := by omega
    obtain ⟨year, hyear, hfirst, hlast, hleap, hfound⟩ := yearOfEra_eq century cycle rest
      (by omega) (by omega) (by omega) (by omega)
    rw [← hdecomposed] at hfound
    rw [hfound]
    have hyears : marchFirst (400 * era + (100 * century + 4 * cycle + year)) =
        146097 * era + 36524 * century + 1461 * cycle + 365 * year - 719468 := by
      have h4 : (400 * era + (100 * century + 4 * cycle + year)) / 4 =
          100 * era + 25 * century + cycle := by omega
      have h100 : (400 * era + (100 * century + 4 * cycle + year)) / 100 = 4 * era + century := by omega
      have h400 : (400 * era + (100 * century + 4 * cycle + year)) / 400 = era := by omega
      rw [marchFirst, h4, h100, h400]
      omega
    refine ⟨by omega, by omega, ?_⟩
    by_cases hfull : rest = 365 * year + 365
    · -- the year after it is a leap year: its cycle is not the last of the century
      have hyear := hleap hfull
      subst hyear
      have h4 : (400 * era + (100 * century + 4 * cycle + 3) + 1) / 4 =
          100 * era + 25 * century + cycle + 1 := by omega
      have h100 : (400 * era + (100 * century + 4 * cycle + 3) + 1) / 100 = 4 * era + century := by omega
      have h400 : (400 * era + (100 * century + 4 * cycle + 3) + 1) / 400 = era := by omega
      rw [marchFirst, h4, h100, h400]
      omega
    · have := marchFirst_lt (Int.lt_succ (400 * era + (100 * century + 4 * cycle + year)))
      omega
  · -- the last day of the era is a 29 February
    have hfound : yearOfEra 146096 = 399 := by decide
    rw [hfound]
    unfold marchFirst
    exact ⟨by omega, by omega, by omega⟩

/-- The date of a day, by the year beginning in March and the day of that year. -/
def ofMarch (year doy : Int) : Int × Int × Int :=
  let mp := (5 * doy + 2) / 153
  if mp < 10 then (year, mp + 3, doy - (153 * mp + 2) / 5 + 1)
  else (year + 1, mp - 9, doy - (153 * mp + 2) / 5 + 1)

/-- Every day is a day of a year that begins in March. -/
theorem exists_march (days : Int) : ∃ year doy, days = marchFirst year + doy ∧ 0 ≤ doy ∧
    days < marchFirst (year + 1) ∧ civilFromDays days = ofMarch year doy := by
  obtain ⟨era, hera⟩ : ∃ era, (days + 719468) / 146097 = era := ⟨_, rfl⟩
  obtain ⟨doe, hdoe⟩ : ∃ doe, days + 719468 - era * 146097 = doe := ⟨_, rfl⟩
  obtain ⟨yoe, hyoe⟩ : ∃ yoe, yearOfEra doe = yoe := ⟨_, rfl⟩
  obtain ⟨doy, hdoy⟩ : ∃ doy, doe - (365 * yoe + yoe / 4 - yoe / 100) = doy := ⟨_, rfl⟩
  obtain ⟨hrange, hfirst, hlast⟩ := yearOfEra_spec era doe (by omega)
  rw [hyoe] at hrange hfirst hlast
  have hdays : 146097 * era + doe - 719468 = days := by omega
  rw [hdays] at hfirst hlast
  have hdoyeq : days = marchFirst (400 * era + yoe) + doy := by
    have h4 : (400 * era + yoe) / 4 = 100 * era + yoe / 4 := by omega
    have h100 : (400 * era + yoe) / 100 = 4 * era + yoe / 100 := by omega
    have h400 : (400 * era + yoe) / 400 = era := by omega
    rw [marchFirst, h4, h100, h400]
    omega
  have hnext := marchFirst_succ_le (400 * era + yoe)
  refine ⟨400 * era + yoe, doy, hdoyeq, by omega, hlast, ?_⟩
  unfold civilFromDays ofMarch
  dsimp only
  rw [hera, hdoe, show (doe - doe / 1460 + doe / 36524 - doe / 146096) / 365 = yoe from hyoe, hdoy]
  obtain ⟨mp, hmp⟩ : ∃ mp, (5 * doy + 2) / 153 = mp := ⟨_, rfl⟩
  rw [hmp, Int.mul_comm era 400, Int.add_comm yoe]
  split
  · rw [if_neg (by omega)]
  · rw [if_pos (by omega)]

/-! ## Dates -/

def isLeapYear (year : Int) : Bool := year % 4 = 0 && (year % 100 ≠ 0 || year % 400 = 0)

def daysInMonth (year month : Int) : Int :=
  if month = 2 then if isLeapYear year then 29 else 28
  else if month = 4 ∨ month = 6 ∨ month = 9 ∨ month = 11 then 30
  else 31

/-- A date of the calendar, with the month counted from 1. -/
structure IsDate (year month day : Int) : Prop where
  monthInRange : 1 ≤ month ∧ month ≤ 12
  dayInRange : 1 ≤ day ∧ day ≤ daysInMonth year month

/-- The date of a day leads back to the day. -/
theorem daysFromCivil_civilFromDays (days : Int) :
    daysFromCivil (civilFromDays days).1 (civilFromDays days).2.1 (civilFromDays days).2.2 = days := by
  obtain ⟨year, doy, hdays, hfirst, hlast, hcivil⟩ := exists_march days
  have hnext := marchFirst_succ_le year
  rw [hcivil, daysFromCivil_eq]
  unfold ofMarch
  dsimp only
  obtain ⟨mp, hmp⟩ : ∃ mp, (5 * doy + 2) / 153 = mp := ⟨_, rfl⟩
  rw [hmp]
  split
  · dsimp only
    rw [if_neg (by omega), if_pos (by omega)]
    have : mp + 3 - 3 = mp := by omega
    rw [this]
    omega
  · dsimp only
    rw [if_pos (by omega), if_neg (by omega)]
    have hmonth : mp - 9 + 9 = mp := by omega
    have hyear : year + 1 - 1 = year := by omega
    rw [hmonth, hyear]
    omega

theorem civilFromDays_injective : Function.Injective civilFromDays := by
  intro days days' h
  rw [← daysFromCivil_civilFromDays days, h, daysFromCivil_civilFromDays]

theorem marchFirst_of_isLeapYear {year : Int} (h : isLeapYear year = true) :
    marchFirst year = marchFirst (year - 1) + 366 := by
  simp only [isLeapYear, Bool.and_eq_true, Bool.or_eq_true, decide_eq_true_eq] at h
  unfold marchFirst
  omega

/-- Every month fits between the first day of it and that of the next, counted from March. -/
theorem daysInMonth_le {year month mp : Int} (hmonth : 1 ≤ month ∧ month ≤ 12)
    (hmp : mp = if 2 < month then month - 3 else month + 9) :
    daysInMonth year month ≤ (153 * (mp + 1) + 2) / 5 - (153 * mp + 2) / 5 := by
  unfold daysInMonth
  split at hmp
  · obtain rfl | rfl | rfl | rfl | rfl | rfl | rfl | rfl | rfl | rfl : mp = 0 ∨ mp = 1 ∨ mp = 2 ∨ mp = 3 ∨
        mp = 4 ∨ mp = 5 ∨ mp = 6 ∨ mp = 7 ∨ mp = 8 ∨ mp = 9 := by omega
    all_goals
      rw [if_neg (by omega)]
      split <;> omega
  · split
    · split <;> omega
    · rw [if_neg (by omega)]
      omega

/-- The month of a day, counted from March. -/
theorem month_eq {mp day : Int} (hday : 1 ≤ day)
    (hlength : day ≤ (153 * (mp + 1) + 2) / 5 - (153 * mp + 2) / 5) :
    (5 * ((153 * mp + 2) / 5 + day - 1) + 2) / 153 = mp := by
  omega

/-- A day of January or February lies in the year that began in March before. -/
theorem lt_marchFirst_succ {year month day doy : Int} (hdate : IsDate year month day) (hmonth : month ≤ 2)
    (hdoy : doy = (153 * (month + 9) + 2) / 5 + day - 1) : marchFirst (year - 1) + doy < marchFirst year := by
  obtain ⟨⟨hfirst, -⟩, -, hlength⟩ := hdate
  have hnext := marchFirst_lt (show year - 1 < year by omega)
  unfold daysInMonth at hlength
  split at hlength
  · split at hlength
    · rename_i hleap
      have := marchFirst_of_isLeapYear hleap
      omega
    · omega
  · rw [if_neg (by omega)] at hlength
    omega

/-- The day of a date in the year that begins in March. -/
theorem ofMarch_of_isDate {year month day : Int} (hdate : IsDate year month day) :
    ∃ march doy, daysFromCivil year month day = marchFirst march + doy ∧ 0 ≤ doy ∧
      marchFirst march + doy < marchFirst (march + 1) ∧ ofMarch march doy = (year, month, day) := by
  obtain ⟨mp, hmp⟩ : ∃ mp, (if 2 < month then month - 3 else month + 9) = mp := ⟨_, rfl⟩
  have hlength := Int.le_trans hdate.dayInRange.2 (daysInMonth_le hdate.monthInRange hmp.symm)
  have hfound := month_eq hdate.dayInRange.1 hlength
  have hday := hdate.dayInRange.1
  have hrange := hdate.monthInRange
  rw [daysFromCivil_eq, hmp]
  by_cases hmonth : month ≤ 2
  · rw [if_neg (by omega)] at hmp
    rw [if_pos hmonth]
    refine ⟨year - 1, (153 * mp + 2) / 5 + day - 1, by omega, by omega, ?_, ?_⟩
    · rw [Int.sub_add_cancel]
      exact lt_marchFirst_succ hdate hmonth (by rw [hmp])
    · unfold ofMarch
      dsimp only
      rw [hfound, if_neg (by omega), Int.sub_add_cancel, ← hmp, Int.add_sub_cancel]
      congr 2
      omega
  · rw [if_pos (by omega)] at hmp
    rw [if_neg hmonth]
    have hnext := marchFirst_lt (Int.lt_succ year)
    refine ⟨year, (153 * mp + 2) / 5 + day - 1, by omega, by omega, by omega, ?_⟩
    unfold ofMarch
    dsimp only
    rw [hfound, if_pos (by omega), ← hmp, Int.sub_add_cancel]
    congr 2
    omega

/-- The day of a date leads back to the date. -/
theorem civilFromDays_daysFromCivil {year month day : Int} (hdate : IsDate year month day) :
    civilFromDays (daysFromCivil year month day) = (year, month, day) := by
  obtain ⟨march, doy, hdays, hpositive, hlast, hdate⟩ := ofMarch_of_isDate hdate
  obtain ⟨march', doy', hdays', hpositive', hlast', hcivil⟩ := exists_march (daysFromCivil year month day)
  have hmarch : march' = march := eq_of_marchFirst (daysFromCivil year month day)
    ⟨by omega, hlast'⟩ ⟨by omega, by omega⟩
  subst hmarch
  have hdoy : doy' = doy := by omega
  rw [hcivil, hdoy, hdate]

/-- The days of a year are those from its first of January to that of the next year. -/
theorem year_eq_iff (days year : Int) : (civilFromDays days).1 = year ↔
    daysFromCivil year 1 1 ≤ days ∧ days < daysFromCivil (year + 1) 1 1 := by
  obtain ⟨march, doy, hdays, hfirst, hlast, hcivil⟩ := exists_march days
  have hnext := marchFirst_succ_le march
  have hjanuary : ∀ year, daysFromCivil year 1 1 = marchFirst (year - 1) + 306 := by
    intro year
    rw [daysFromCivil_eq, if_pos (by decide), if_neg (by decide)]
    omega
  rw [hcivil, hjanuary, hjanuary, Int.add_sub_cancel]
  obtain ⟨mp, hmp⟩ : ∃ mp, (5 * doy + 2) / 153 = mp := ⟨_, rfl⟩
  have hyear : (ofMarch march doy).1 = if doy < 306 then march else march + 1 := by
    unfold ofMarch
    dsimp only
    rw [hmp]
    split
    · rw [if_pos (by omega)]
    · rw [if_neg (by omega)]
  rw [hyear]
  constructor
  · have hbefore := marchFirst_lt (show march - 1 < march by omega)
    split
    · rintro rfl
      omega
    · rintro rfl
      rw [Int.add_sub_cancel]
      omega
  · rintro ⟨hge, hlt⟩
    -- an earlier or a later year ends before the day, or begins after it
    have hnot : ¬ year < march ∧ ¬ march + 1 < year := by
      constructor
      · intro h
        have := marchFirst_lt h
        omega
      · intro h
        have := marchFirst_lt (show march + 1 < year by omega)
        have := marchFirst_lt (show march < year - 1 by omega)
        omega
    obtain heq | heq : year = march ∨ year = march + 1 := by omega
    · subst heq
      rw [if_pos (by omega)]
    · subst heq
      rw [Int.add_sub_cancel] at hge
      rw [if_neg (by omega)]

end Date

end Expentra
