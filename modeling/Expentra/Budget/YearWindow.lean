-- SUMMARY: The year an instant is budgeted in and the window of a year, in a time zone with a constant offset.
import Expentra.Budget.Service
import Expentra.Core.Calendar

/-!
# Year windows

The counters of a budget are moved by the year `resolveBudgetYear` gives an instant,
and recalculated over the window of `budgetYearRangeInTimeZone`. Both come from what
`Intl` prints: the year is read directly, the window begins where
`zonedMidnightToUtc` finds local midnight. It looks for the hour 0, which an engine
that prints midnight as 24 never shows it.
-/

namespace Expentra

open BudgetPeriod

namespace YearWindow

/-- What `hour12: false` prints for the first hour of a day. -/
inductive MidnightHour where
  | zero
  | twentyFour
deriving DecidableEq, Repr

/-- A time zone with a constant offset from UTC in whole minutes, and an engine that prints
    the fields of its local time. -/
structure ConstantZone where
  name : String
  /-- The minutes local time is ahead of UTC. -/
  offset : Int
  bounded : -720 ≤ offset ∧ offset ≤ 840
  midnightHour : MidnightHour

namespace ConstantZone

/-- Local time, in milliseconds. -/
def localTime (zone : ConstantZone) (t : Instant) : Int := t + zone.offset * 60000

def printedHour (zone : ConstantZone) (hour : Int) : Int :=
  match zone.midnightHour with
  | .zero => hour
  | .twentyFour => if hour = 0 then 24 else hour

def format (zone : ConstantZone) (t : Instant) : LocalParts :=
  let date := Date.civilFromDays (zone.localTime t / Date.msPerDay)
  { year := date.1, month := date.2.1, day := date.2.2
    hour := zone.printedHour (zone.localTime t % Date.msPerDay / 3600000)
    minute := zone.localTime t % 3600000 / 60000
    second := zone.localTime t % 60000 / 1000 }

def timeZone (zone : ConstantZone) : TimeZone := ⟨zone.name, some zone.format⟩

/-- The instant of local midnight on a date. -/
def midnight (zone : ConstantZone) (year month day : Int) : Instant :=
  Date.daysFromCivil year month day * Date.msPerDay - zone.offset * 60000

end ConstantZone

/-- The spend of a department, by the year of every submission. -/
def spendByYear (zone : ConstantZone) (db : Db) (departmentId : Nat) (year : Int)
    (statuses : ExpenseStatus → Bool) : Int :=
  db.expenses.sum (fun e =>
    if e.departmentId = some departmentId && statuses e.status &&
        e.submittedAt.any (fun t => resolveBudgetYear t zone.timeZone = year)
    then e.amount.val else 0)

/-- Local midnight is found, and the window of the year holds the instants of the year. -/
structure YearLaw (zone : ConstantZone) (year : Int) : Prop where
  midnight : ∀ month day, Date.IsDate year month day →
    zonedMidnightToUtc year month day zone.timeZone = .ok (zone.midnight year month day)
  window : ∃ period, budgetYearRangeInTimeZone year zone.timeZone = .ok period ∧
    (∀ t, resolveBudgetYear t zone.timeZone = year ↔ period.1 ≤ t ∧ t < period.2) ∧
    ∀ db departmentId statuses,
      BudgetService.sumSpendForDepartmentYear db departmentId period statuses =
        spendByYear zone db departmentId year statuses

section Zone

variable {zone : ConstantZone} {year month day : Int}

/-! ## The search for midnight -/

theorem utc_of_isDate (hdate : Date.IsDate year month day) (hour : Int) :
    Date.utc year (month - 1) day hour 0 0 =
      Date.daysFromCivil year month day * Date.msPerDay + hour * 3600000 := by
  obtain ⟨hfirst, hlast⟩ := hdate.monthInRange
  have hyear : year + (month - 1) / 12 = year := by omega
  have hmonth : (month - 1) % 12 + 1 = month := by omega
  rw [Date.utc, hyear, hmonth]
  ring

/-- An hour that is never 0 is never midnight. -/
theorem searchMidnight_eq_none {format : Instant → LocalParts} (hhour : ∀ t, (format t).hour ≠ 0)
    (attempts : Nat) (ms : Instant) : searchMidnight format year month day attempts ms = none := by
  induction attempts generalizing ms with
  | zero => rfl
  | succ attempts ih =>
    have hnot : format ms ≠ ⟨year, month, day, 0, 0, 0⟩ := fun h => hhour ms (by rw [h])
    rw [searchMidnight, if_neg hnot, ih]

theorem hour_ne_zero (hprinted : zone.midnightHour = .twentyFour) (t : Instant) :
    (zone.format t).hour ≠ 0 := by
  simp only [ConstantZone.format, ConstantZone.printedHour, hprinted]
  split <;> omega

/-- Local time as a day and the time since its midnight. -/
theorem format_eq (hprinted : zone.midnightHour = .zero) {t : Instant} (days since : Int)
    (hsince : 0 ≤ since ∧ since < 86400000) (hlocal : zone.localTime t = days * 86400000 + since) :
    zone.format t = ⟨(Date.civilFromDays days).1, (Date.civilFromDays days).2.1,
      (Date.civilFromDays days).2.2, since / 3600000, since % 3600000 / 60000, since % 60000 / 1000⟩ := by
  have hday : zone.localTime t / Date.msPerDay = days := by
    rw [hlocal, Date.msPerDay]
    omega
  have hhour : zone.localTime t % Date.msPerDay / 3600000 = since / 3600000 := by
    rw [hlocal, Date.msPerDay]
    omega
  have hminute : zone.localTime t % 3600000 / 60000 = since % 3600000 / 60000 := by omega
  have hsecond : zone.localTime t % 60000 / 1000 = since % 60000 / 1000 := by omega
  simp only [ConstantZone.format, ConstantZone.printedHour, hprinted, hday, hhour, hminute, hsecond]

/-- An attempt at local midnight of the date arrives. -/
theorem search_arrives (hprinted : zone.midnightHour = .zero) (hdate : Date.IsDate year month day)
    (attempts : Nat) {t : Instant}
    (hlocal : zone.localTime t = Date.daysFromCivil year month day * 86400000) :
    searchMidnight zone.format year month day (attempts + 1) t = some t := by
  have hformat := format_eq hprinted _ 0 (by decide) (hlocal.trans (Int.add_zero _).symm)
  rw [Date.civilFromDays_daysFromCivil hdate] at hformat
  rw [searchMidnight, hformat]
  exact if_pos rfl

/-- An attempt elsewhere goes back to the midnight before it, or an hour if it is at one. -/
theorem search_steps (hprinted : zone.midnightHour = .zero) (hdate : Date.IsDate year month day)
    (attempts : Nat) {t : Instant} (days since : Int) (hsince : 0 ≤ since ∧ since < 86400000)
    (hseconds : since % 1000 = 0) (hlocal : zone.localTime t = days * 86400000 + since)
    (helsewhere : since ≠ 0 ∨ days ≠ Date.daysFromCivil year month day) :
    searchMidnight zone.format year month day (attempts + 1) t =
      searchMidnight zone.format year month day attempts
        (t - if since = 0 then 3600000 else since) := by
  have hformat := format_eq hprinted days since hsince hlocal
  have hstep : stepBack (zone.format t) = if since = 0 then 3600000 else since := by
    have htotal : (since / 3600000 * 3600 + since % 3600000 / 60000 * 60 + since % 60000 / 1000) * 1000 =
        since := by omega
    rw [hformat, stepBack]
    dsimp only
    rw [htotal]
  have hnot : zone.format t ≠ ⟨year, month, day, 0, 0, 0⟩ := by
    rw [hformat]
    intro h
    injection h with hyear hmonth hday hhour hminute hsecond
    have hcivil : Date.civilFromDays days =
        Date.civilFromDays (Date.daysFromCivil year month day) := by
      rw [Date.civilFromDays_daysFromCivil hdate, ← hyear, ← hmonth, ← hday]
    rcases helsewhere with hpositive | hother
    · omega
    · exact hother (Date.civilFromDays_injective hcivil)
  rw [searchMidnight, if_neg hnot, hstep]

/-- The search from noon, UTC, ends at local midnight. -/
theorem searchMidnight_eq_some (hprinted : zone.midnightHour = .zero)
    (hdate : Date.IsDate year month day) :
    searchMidnight zone.format year month day 48 (Date.utc year (month - 1) day 12 0 0) =
      some (zone.midnight year month day) := by
  obtain ⟨hwest, heast⟩ := zone.bounded
  obtain ⟨days, hdays⟩ : ∃ days, Date.daysFromCivil year month day = days := ⟨_, rfl⟩
  have harrives : ∀ attempts, searchMidnight zone.format year month day (attempts + 1)
      (days * 86400000 - zone.offset * 60000) = some (days * 86400000 - zone.offset * 60000) := by
    intro attempts
    refine search_arrives hprinted hdate attempts ?_
    rw [hdays, ConstantZone.localTime]
    omega
  -- on the day itself one step back is enough
  have hsame : ∀ (attempts : Nat) (since : Int), 0 ≤ since ∧ since < 86400000 → since % 1000 = 0 →
      searchMidnight zone.format year month day (attempts + 2)
        (days * 86400000 + since - zone.offset * 60000) = some (days * 86400000 - zone.offset * 60000) := by
    intro attempts since hsince hseconds
    by_cases hzero : since = 0
    · rw [hzero, Int.add_zero]
      exact harrives (attempts + 1)
    · rw [search_steps hprinted hdate (attempts + 1) days since hsince hseconds
        (by rw [ConstantZone.localTime]; omega) (.inl hzero), if_neg hzero]
      rw [show days * 86400000 + since - zone.offset * 60000 - since =
        days * 86400000 - zone.offset * 60000 by omega]
      exact harrives attempts
  -- midnight of the next day is an hour after the last hour of the day itself
  have hmidnight : ∀ attempts : Nat, searchMidnight zone.format year month day (attempts + 3)
      ((days + 1) * 86400000 - zone.offset * 60000) = some (days * 86400000 - zone.offset * 60000) := by
    intro attempts
    have hlate : (days + 1) * 86400000 - zone.offset * 60000 - 3600000 =
        days * 86400000 + 82800000 - zone.offset * 60000 := by omega
    rw [search_steps hprinted hdate (attempts + 2) (days + 1) 0 (by omega) (by omega)
      (by rw [ConstantZone.localTime]; omega) (.inr (by omega)), if_pos rfl, hlate]
    exact hsame attempts 82800000 (by omega) (by omega)
  have hnext : ∀ (attempts : Nat) (since : Int), 0 ≤ since ∧ since < 86400000 → since % 1000 = 0 →
      searchMidnight zone.format year month day (attempts + 4)
        ((days + 1) * 86400000 + since - zone.offset * 60000) =
          some (days * 86400000 - zone.offset * 60000) := by
    intro attempts since hsince hseconds
    by_cases hzero : since = 0
    · rw [hzero, Int.add_zero]
      exact hmidnight (attempts + 1)
    · have hback : (days + 1) * 86400000 + since - zone.offset * 60000 - since =
          (days + 1) * 86400000 - zone.offset * 60000 := by omega
      rw [search_steps hprinted hdate (attempts + 3) (days + 1) since hsince hseconds
        (by rw [ConstantZone.localTime]; omega) (.inl hzero), if_neg hzero, hback]
      exact hmidnight attempts
  have hstart : Date.utc year (month - 1) day 12 0 0 = days * 86400000 + 43200000 := by
    rw [utc_of_isDate hdate, hdays]
    rfl
  have hlocal : zone.midnight year month day = days * 86400000 - zone.offset * 60000 := by
    rw [ConstantZone.midnight, hdays]
    rfl
  rw [hstart, hlocal]
  by_cases hday : zone.offset < 720
  · have hnoon : days * 86400000 + 43200000 =
        days * 86400000 + (43200000 + zone.offset * 60000) - zone.offset * 60000 := by omega
    rw [hnoon]
    exact hsame 46 (43200000 + zone.offset * 60000) (by omega) (by omega)
  · have hnoon : days * 86400000 + 43200000 =
        (days + 1) * 86400000 + (zone.offset * 60000 - 43200000) - zone.offset * 60000 := by omega
    rw [hnoon]
    exact hnext 44 (zone.offset * 60000 - 43200000) (by omega) (by omega)

theorem zonedMidnightToUtc_eq (hprinted : zone.midnightHour = .zero)
    (hdate : Date.IsDate year month day) :
    zonedMidnightToUtc year month day zone.timeZone = .ok (zone.midnight year month day) := by
  rw [zonedMidnightToUtc]
  dsimp only [ConstantZone.timeZone]
  rw [searchMidnight_eq_some hprinted hdate]

/-- An engine that prints midnight as 24 never shows it: the answer is midnight of UTC. -/
theorem zonedMidnightToUtc_of_twentyFour (hprinted : zone.midnightHour = .twentyFour)
    (hdate : Date.IsDate year month day) : zonedMidnightToUtc year month day zone.timeZone =
      .ok (Date.daysFromCivil year month day * Date.msPerDay) := by
  have hutc := utc_of_isDate hdate 0
  rw [Int.zero_mul, Int.add_zero] at hutc
  rw [zonedMidnightToUtc]
  dsimp only [ConstantZone.timeZone]
  rw [searchMidnight_eq_none (hour_ne_zero hprinted), hutc]

/-! ## The window of a year -/

theorem isDate_january (year : Int) : Date.IsDate year 1 1 := by
  refine ⟨by decide, by decide, ?_⟩
  rw [Date.daysInMonth, if_neg (by decide), if_neg (by decide)]
  decide

theorem le_day_iff (first next instant offset : Int) :
    (first ≤ (instant + offset) / 86400000 ∧ (instant + offset) / 86400000 < next) ↔
      (first * 86400000 - offset ≤ instant ∧ instant < next * 86400000 - offset) := by
  omega

/-- The year of an instant is that of the local midnights around it. -/
theorem resolveBudgetYear_eq_iff {t : Instant} : resolveBudgetYear t zone.timeZone = year ↔
    zone.midnight year 1 1 ≤ t ∧ t < zone.midnight (year + 1) 1 1 := by
  have hyear := Date.year_eq_iff (zone.localTime t / Date.msPerDay) year
  change (Date.civilFromDays (zone.localTime t / Date.msPerDay)).1 = year ↔ _
  rw [hyear]
  exact le_day_iff _ _ t (zone.offset * 60000)

theorem budgetYearRange_eq {start end_ : Instant}
    (hstart : zonedMidnightToUtc year 1 1 zone.timeZone = .ok start)
    (hend : zonedMidnightToUtc (year + 1) 1 1 zone.timeZone = .ok end_) :
    budgetYearRangeInTimeZone year zone.timeZone = .ok (start, end_) := by
  rw [budgetYearRangeInTimeZone, hstart, hend]
  rfl

/-- Where local midnight is found, the year law holds. -/
theorem yearLaw_of_midnight (hmidnight : ∀ year month day, Date.IsDate year month day →
    zonedMidnightToUtc year month day zone.timeZone = .ok (zone.midnight year month day)) :
    YearLaw zone year where
  midnight := hmidnight year
  window := by
    refine ⟨_, budgetYearRange_eq (hmidnight year 1 1 (isDate_january year))
      (hmidnight (year + 1) 1 1 (isDate_january (year + 1))), fun t => resolveBudgetYear_eq_iff,
      fun db departmentId statuses => ?_⟩
    unfold BudgetService.sumSpendForDepartmentYear spendByYear
    refine congrArg db.expenses.sum (funext fun e => ?_)
    have hsame : (e.submittedAt.any fun t =>
        zone.midnight year 1 1 ≤ t && t < zone.midnight (year + 1) 1 1) =
        e.submittedAt.any (fun t => resolveBudgetYear t zone.timeZone = year) := by
      refine congrArg (e.submittedAt.any ·) (funext fun t => ?_)
      rw [← Bool.decide_and]
      exact decide_eq_decide.2 resolveBudgetYear_eq_iff.symm
    dsimp only
    rw [hsame]

end Zone

/-- Local midnight and the window of a year are right if and only if the engine prints
    midnight as hour 0, or the zone is that of UTC. -/
theorem year_law_iff (zone : ConstantZone) (year : Int) :
    YearLaw zone year ↔ zone.midnightHour = .zero ∨ zone.offset = 0 := by
  constructor
  · intro h
    cases hprinted : zone.midnightHour with
    | zero => exact .inl rfl
    | twentyFour =>
      right
      have hlocal := (zonedMidnightToUtc_of_twentyFour hprinted (isDate_january year)).symm.trans
        (h.midnight 1 1 (isDate_january year))
      have hinstant : Date.daysFromCivil year 1 1 * Date.msPerDay =
          Date.daysFromCivil year 1 1 * Date.msPerDay - zone.offset * 60000 := Except.ok.inj hlocal
      omega
  · intro h
    refine yearLaw_of_midnight (fun year month day hdate => ?_)
    cases hprinted : zone.midnightHour with
    | zero => exact zonedMidnightToUtc_eq hprinted hdate
    | twentyFour =>
      rw [hprinted] at h
      rcases h with hzero | hoffset
      · cases hzero
      · rw [zonedMidnightToUtc_of_twentyFour hprinted hdate, ConstantZone.midnight, hoffset,
          Int.zero_mul, Int.sub_zero]

/-! ## New year in Lagos -/

namespace Sample

/-- An hour ahead of UTC, on an engine that prints midnight as 24. -/
def lagos : ConstantZone := ⟨"Africa/Lagos", 60, by decide, .twentyFour⟩

/-- Half an hour into 2026, local time. -/
def newYear : Instant := Date.utc 2025 11 31 23 30 0

end Sample

/-- An expense of the first hour of the year is charged to the year and lies before its window. -/
theorem new_year_before_window :
    resolveBudgetYear Sample.newYear Sample.lagos.timeZone = 2026 ∧
    budgetYearRangeInTimeZone 2026 Sample.lagos.timeZone =
      .ok (Date.utc 2026 0 1 0 0 0, Date.utc 2027 0 1 0 0 0) ∧
    zonedMidnightToUtc 2026 1 1 Sample.lagos.timeZone ≠ .ok (Sample.lagos.midnight 2026 1 1) ∧
    ¬ YearLaw Sample.lagos 2026 := by
  have hyear : resolveBudgetYear Sample.newYear Sample.lagos.timeZone = 2026 := by decide +kernel
  have hrange : budgetYearRangeInTimeZone 2026 Sample.lagos.timeZone =
      .ok (Date.utc 2026 0 1 0 0 0, Date.utc 2027 0 1 0 0 0) := by decide +kernel
  refine ⟨hyear, hrange, by decide +kernel, fun h => ?_⟩
  obtain ⟨period, hperiod, hwindow, -⟩ := h.window
  cases hrange.symm.trans hperiod
  have hstart := ((hwindow Sample.newYear).1 hyear).1
  exact absurd hstart (by decide)

end YearWindow

end Expentra
