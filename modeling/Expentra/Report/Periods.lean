-- SUMMARY: Periods of reports and of the dashboard, the periods before them, and their places in time.
import Expentra.Core.Calendar
import Expentra.Report.Spending

/-!
# Report periods

A report is about a month, a quarter or a year. The three are shifted by three kinds of
arithmetic, and the dashboard has its own for the period before. All of them are additions
once the periods of a mode are numbered, and a range is told by the months since the year 0.
-/

namespace Expentra

open Date

/-- `Date.UTC(year, month, 1)`; the years 0 to 99 stand for 1900 to 1999. -/
def dateUTC (year month : Int) : Instant :=
  Date.utc (if 0 ≤ year ∧ year ≤ 99 then 1900 + year else year) month 1 0 0 0

/-- `Pick<SpendingReportQuery, 'year' | 'periodMode' | 'month' | 'quarter'>` -/
structure ReportPeriod where
  year : Int
  periodMode : Option ReportPeriodMode
  month : Option Int
  quarter : Option Int
deriving DecidableEq, Repr

namespace ReportService

def resolveReportPeriodMode (query : ReportPeriod) : ReportPeriodMode :=
  query.periodMode.getD .MONTH

/-- `resolveReportPeriodRange`, which reads nothing else of a query. -/
def periodRange (query : ReportPeriod) : Instant × Instant :=
  resolveReportPeriodRange ⟨query.year, query.periodMode, query.month, query.quarter, none, none,
    false, none⟩

def shiftReportPeriod (year month deltaMonths : Int) : Int × Int :=
  let date := dateUTC year (month - 1 + deltaMonths)
  (getUTCFullYear date, getUTCMonth date + 1)

def shiftReportPeriodByMode (query : ReportPeriod) (deltaPeriods : Int) : ReportPeriod :=
  match resolveReportPeriodMode query with
  | .YEAR => ⟨query.year + deltaPeriods, some .YEAR, none, none⟩
  | .QUARTER =>
    let absolute := query.year * 4 + query.quarter.getD 1 - 1 + deltaPeriods
    ⟨absolute / 4, some .QUARTER, none, some (((absolute.tmod 4) + 4).tmod 4 + 1)⟩
  | .MONTH =>
    let shifted := shiftReportPeriod query.year (query.month.getD 1) deltaPeriods
    ⟨shifted.1, some .MONTH, some shifted.2, none⟩

/-- Prior comparable period (previous month / quarter / year). -/
def previousReportPeriod (query : ReportPeriod) : ReportPeriod := shiftReportPeriodByMode query (-1)

/-- Same period one year earlier. -/
def yearAgoReportPeriod (query : ReportPeriod) : ReportPeriod :=
  match resolveReportPeriodMode query with
  | .MONTH => shiftReportPeriodByMode query (-12)
  | .QUARTER => shiftReportPeriodByMode query (-4)
  | .YEAR => shiftReportPeriodByMode query (-1)

end ReportService

/-- What the query of a report is checked for, but for its last year, 2100. -/
structure ReportPeriod.Valid (query : ReportPeriod) : Prop where
  year : 2000 ≤ query.year
  month : ReportService.resolveReportPeriodMode query = .MONTH →
    1 ≤ query.month.getD 1 ∧ query.month.getD 1 ≤ 12
  quarter : ReportService.resolveReportPeriodMode query = .QUARTER →
    1 ≤ query.quarter.getD 1 ∧ query.quarter.getD 1 ≤ 4

/-! ## The dashboard -/

structure DashboardPeriodQuery where
  year : Option Int
  month : Option Int
  quarter : Option Int
deriving DecidableEq, Repr

structure ResolvedPeriod where
  year : Int
  month : Option Int
  quarter : Option Int
  start : Instant
  end_ : Instant
  label : String
deriving DecidableEq, Repr

namespace DashboardService

def monthNames : List String :=
  ["January", "February", "March", "April", "May", "June", "July", "August", "September",
    "October", "November", "December"]

def monthName (month : Int) : String :=
  monthNames.getD (getUTCMonth (dateUTC 2000 (month - 1))).toNat ""

/-- `if (value)`: a number other than 0. -/
def truthy (value : Option Int) : Option Int := value.filter (· ≠ 0)

def resolvePeriod (timeZone : TimeZone) (now : Instant) (query : DashboardPeriodQuery) :
    ResolvedPeriod :=
  let year := query.year.getD (BudgetPeriod.resolveBudgetYear now timeZone)
  match truthy query.month with
  | some month =>
    { year, month := some month, quarter := none, start := dateUTC year (month - 1),
      end_ := dateUTC year month, label := monthName month ++ " " ++ toString year }
  | none =>
    match truthy query.quarter with
    | some quarter =>
      let startMonth := (quarter - 1) * 3
      { year, month := none, quarter := some quarter, start := dateUTC year startMonth,
        end_ := dateUTC year (startMonth + 3),
        label := "Q" ++ toString quarter ++ " " ++ toString year }
    | none =>
      { year, month := none, quarter := none, start := dateUTC year 0,
        end_ := dateUTC (year + 1) 0, label := toString year }

def resolvePreviousPeriod (timeZone : TimeZone) (now : Instant) (query : DashboardPeriodQuery)
    (current : ResolvedPeriod) : ResolvedPeriod :=
  match truthy query.month with
  | some month =>
    if month - 1 < 1 then resolvePeriod timeZone now ⟨some (current.year - 1), some 12, none⟩
    else resolvePeriod timeZone now ⟨some current.year, some (month - 1), none⟩
  | none =>
    match truthy query.quarter with
    | some quarter =>
      if quarter - 1 < 1 then resolvePeriod timeZone now ⟨some (current.year - 1), none, some 4⟩
      else resolvePeriod timeZone now ⟨some current.year, none, some (quarter - 1)⟩
    | none => resolvePeriod timeZone now ⟨some (current.year - 1), none, none⟩

end DashboardService

/-! ## First days of months -/

/-- The first of a month; months are counted from January of the year 0. -/
def firstOfMonth (index : Int) : Instant := Date.utc (index / 12) (index % 12) 1 0 0 0

theorem utc_eq_firstOfMonth (year month : Int) :
    Date.utc year month 1 0 0 0 = firstOfMonth (12 * year + month) := by
  have hyear : (12 * year + month) / 12 = year + month / 12 := by omega
  have hmonth : (12 * year + month) % 12 = month % 12 := by omega
  have hzero : month % 12 / 12 = 0 := by omega
  rw [firstOfMonth, Date.utc, Date.utc, hyear, hmonth, hzero, Int.add_zero, Int.emod_emod]

theorem dateUTC_eq_firstOfMonth {year : Int} (hyear : 100 ≤ year) (month : Int) :
    dateUTC year month = firstOfMonth (12 * year + month) := by
  rw [dateUTC, if_neg (by omega), utc_eq_firstOfMonth]

theorem firstOfMonth_eq (index : Int) :
    firstOfMonth index = daysFromCivil (index / 12) (index % 12 + 1) 1 * msPerDay := by
  have hzero : index % 12 / 12 = 0 := by omega
  rw [firstOfMonth, Date.utc, hzero, Int.emod_emod]
  simp

theorem civil_firstOfMonth (index : Int) :
    civilFromDays (firstOfMonth index / msPerDay) = (index / 12, index % 12 + 1, 1) := by
  rw [firstOfMonth_eq, Int.mul_ediv_cancel _ (by decide)]
  refine civilFromDays_daysFromCivil ⟨by omega, Int.le_refl 1, ?_⟩
  unfold daysInMonth
  split
  · split <;> decide
  · split <;> decide

theorem firstOfMonth_mod (index : Int) : firstOfMonth index % msPerDay = 0 := by
  rw [firstOfMonth_eq]
  exact Int.mul_emod_left _ msPerDay

theorem getUTCFullYear_firstOfMonth (index : Int) :
    getUTCFullYear (firstOfMonth index) = index / 12 := by
  rw [getUTCFullYear, civil_firstOfMonth]

theorem getUTCMonth_firstOfMonth (index : Int) : getUTCMonth (firstOfMonth index) = index % 12 := by
  rw [getUTCMonth, civil_firstOfMonth]
  exact Int.add_sub_cancel _ 1

theorem getUTCDate_firstOfMonth (index : Int) : getUTCDate (firstOfMonth index) = 1 := by
  rw [getUTCDate, civil_firstOfMonth]

theorem budgetPeriodRange_eq (year month : Int) : BudgetPeriod.budgetPeriodRange year month =
    (firstOfMonth (12 * year + (month - 1)), firstOfMonth (12 * year + month)) := by
  rw [BudgetPeriod.budgetPeriodRange, utc_eq_firstOfMonth, utc_eq_firstOfMonth, utc_eq_firstOfMonth]
  split
  · -- December ends with January of the year after, the month 12 of its own year
    next hlast =>
    rw [hlast, Int.mul_add, Int.add_zero]
    rfl
  · rfl

theorem budgetQuarterRange_eq (year quarter : Int) : BudgetPeriod.budgetQuarterRange year quarter =
    (firstOfMonth (12 * year + (quarter - 1) * 3),
      firstOfMonth (12 * year + ((quarter - 1) * 3 + 3))) := by
  rw [BudgetPeriod.budgetQuarterRange, utc_eq_firstOfMonth, utc_eq_firstOfMonth]

theorem budgetYearRange_eq (year : Int) : BudgetPeriod.budgetYearRange year =
    (firstOfMonth (12 * year), firstOfMonth (12 * (year + 1))) := by
  rw [BudgetPeriod.budgetYearRange, utc_eq_firstOfMonth, utc_eq_firstOfMonth, Int.add_zero,
    Int.add_zero]

/-- The same date and time of the year before. -/
def yearEarlier (t : Instant) : Instant :=
  Date.utc (getUTCFullYear t - 1) (getUTCMonth t) (getUTCDate t) 0 0 0 + t % msPerDay

theorem yearEarlier_firstOfMonth (index : Int) :
    yearEarlier (firstOfMonth index) = firstOfMonth (index - 12) := by
  have hindex : 12 * (index / 12 - 1) + index % 12 = index - 12 := by omega
  rw [yearEarlier, getUTCFullYear_firstOfMonth, getUTCMonth_firstOfMonth, getUTCDate_firstOfMonth,
    firstOfMonth_mod, utc_eq_firstOfMonth, hindex, Int.add_zero]

namespace ReportService

/-! ## Numbered periods -/

/-- The months of a period. -/
def months : ReportPeriodMode → Int
  | .MONTH => 1
  | .QUARTER => 3
  | .YEAR => 12

/-- The number of a period among those of its mode, from the year 0. -/
def number (query : ReportPeriod) : Int :=
  match resolveReportPeriodMode query with
  | .MONTH => 12 * query.year + (query.month.getD 1 - 1)
  | .QUARTER => 4 * query.year + (query.quarter.getD 1 - 1)
  | .YEAR => query.year

/-- The period with a number. -/
def ofNumber (mode : ReportPeriodMode) (n : Int) : ReportPeriod :=
  match mode with
  | .MONTH => ⟨n / 12, some .MONTH, some (n % 12 + 1), none⟩
  | .QUARTER => ⟨n / 4, some .QUARTER, none, some (n % 4 + 1)⟩
  | .YEAR => ⟨n, some .YEAR, none, none⟩

@[simp] theorem resolveReportPeriodMode_ofNumber (mode : ReportPeriodMode) (n : Int) :
    resolveReportPeriodMode (ofNumber mode n) = mode := by
  cases mode <;> rfl

@[simp] theorem number_ofNumber (mode : ReportPeriodMode) (n : Int) :
    number (ofNumber mode n) = n := by
  cases mode with
  | MONTH =>
    change 12 * (n / 12) + (n % 12 + 1 - 1) = n
    omega
  | QUARTER =>
    change 4 * (n / 4) + (n % 4 + 1 - 1) = n
    omega
  | YEAR => rfl

section Range

variable {query : ReportPeriod}

theorem periodRange_month (h : resolveReportPeriodMode query = .MONTH) :
    periodRange query = BudgetPeriod.budgetPeriodRange query.year (query.month.getD 1) := by
  rw [resolveReportPeriodMode] at h
  simp only [periodRange, resolveReportPeriodRange, h]

theorem periodRange_quarter (h : resolveReportPeriodMode query = .QUARTER) :
    periodRange query = BudgetPeriod.budgetQuarterRange query.year (query.quarter.getD 1) := by
  rw [resolveReportPeriodMode] at h
  simp only [periodRange, resolveReportPeriodRange, h]

theorem periodRange_year (h : resolveReportPeriodMode query = .YEAR) :
    periodRange query = BudgetPeriod.budgetYearRange query.year := by
  rw [resolveReportPeriodMode] at h
  simp only [periodRange, resolveReportPeriodRange, h]

end Range

/-- A range begins with its period and ends with the next one. -/
theorem periodRange_eq (query : ReportPeriod) : periodRange query =
    (firstOfMonth (number query * months (resolveReportPeriodMode query)),
      firstOfMonth ((number query + 1) * months (resolveReportPeriodMode query))) := by
  unfold number
  cases hmode : resolveReportPeriodMode query with
  | MONTH =>
    have hend : 12 * query.year + query.month.getD 1 =
        12 * query.year + (query.month.getD 1 - 1) + 1 := by
      omega
    rw [periodRange_month hmode, budgetPeriodRange_eq, hend, months, Int.mul_one, Int.mul_one]
  | QUARTER =>
    have hstart : 12 * query.year + (query.quarter.getD 1 - 1) * 3 =
        (4 * query.year + (query.quarter.getD 1 - 1)) * 3 := by
      omega
    have hend : 12 * query.year + ((query.quarter.getD 1 - 1) * 3 + 3) =
        (4 * query.year + (query.quarter.getD 1 - 1) + 1) * 3 := by
      omega
    rw [periodRange_quarter hmode, budgetQuarterRange_eq, hstart, hend, months]
  | YEAR =>
    rw [periodRange_year hmode, budgetYearRange_eq, months, Int.mul_comm 12, Int.mul_comm 12]

theorem tmod_four (n : Int) : (n.tmod 4 + 4).tmod 4 = n % 4 := by
  have hlower : 0 ≤ n.tmod 4 + 4 := by
    have := Int.lt_tmod_of_pos n (show (0 : Int) < 4 by decide)
    omega
  rw [Int.tmod_eq_emod_of_nonneg hlower, Int.tmod_eq_emod]
  split <;> omega

/-- Shifting a period is adding to its number. -/
theorem shiftReportPeriodByMode_eq {query : ReportPeriod} (hyear : 100 ≤ query.year)
    (delta : Int) : shiftReportPeriodByMode query delta =
      ofNumber (resolveReportPeriodMode query) (number query + delta) := by
  unfold shiftReportPeriodByMode number
  cases resolveReportPeriodMode query with
  | MONTH =>
    have hindex : 12 * query.year + (query.month.getD 1 - 1 + delta) =
        12 * query.year + (query.month.getD 1 - 1) + delta := by
      omega
    dsimp only [ofNumber, shiftReportPeriod]
    rw [dateUTC_eq_firstOfMonth hyear, hindex, getUTCFullYear_firstOfMonth,
      getUTCMonth_firstOfMonth]
  | QUARTER =>
    have habsolute : query.year * 4 + query.quarter.getD 1 - 1 + delta =
        4 * query.year + (query.quarter.getD 1 - 1) + delta := by
      omega
    dsimp only [ofNumber]
    rw [tmod_four, habsolute]
  | YEAR => rfl

/-- Shifts add up, as long as no year between them is read as one of two digits. -/
theorem shiftReportPeriodByMode_add {query : ReportPeriod} (hyear : 100 ≤ query.year) {a : Int}
    (hshifted : 100 ≤ (shiftReportPeriodByMode query a).year) (b : Int) :
    shiftReportPeriodByMode (shiftReportPeriodByMode query a) b =
      shiftReportPeriodByMode query (a + b) := by
  rw [shiftReportPeriodByMode_eq hshifted, shiftReportPeriodByMode_eq hyear,
    shiftReportPeriodByMode_eq hyear, resolveReportPeriodMode_ofNumber, number_ofNumber,
    Int.add_assoc]

theorem periodRange_shift {query : ReportPeriod} (hyear : 100 ≤ query.year) (delta : Int) :
    periodRange (shiftReportPeriodByMode query delta) =
      (firstOfMonth ((number query + delta) * months (resolveReportPeriodMode query)),
        firstOfMonth ((number query + delta + 1) * months (resolveReportPeriodMode query))) := by
  rw [shiftReportPeriodByMode_eq hyear, periodRange_eq, resolveReportPeriodMode_ofNumber,
    number_ofNumber]

/-- The period before ends where its own begins. -/
theorem periodRange_previous_end {query : ReportPeriod} (hyear : 100 ≤ query.year) :
    (periodRange (previousReportPeriod query)).2 = (periodRange query).1 := by
  rw [previousReportPeriod, periodRange_shift hyear, periodRange_eq, Int.add_assoc,
    show (-1 + 1 : Int) = 0 from rfl, Int.add_zero]

theorem year_previousReportPeriod {query : ReportPeriod} (hvalid : query.Valid) :
    query.year - 1 ≤ (previousReportPeriod query).year := by
  obtain ⟨hyear, hmonths, hquarters⟩ := hvalid
  rw [previousReportPeriod, shiftReportPeriodByMode_eq (by omega)]
  unfold number
  cases hmode : resolveReportPeriodMode query with
  | MONTH =>
    have := hmonths hmode
    dsimp only [ofNumber]
    omega
  | QUARTER =>
    have := hquarters hmode
    dsimp only [ofNumber]
    omega
  | YEAR => exact Int.le_refl _

/-- A year has as many periods of a mode as their months allow. -/
theorem yearAgoReportPeriod_eq (query : ReportPeriod) : ∃ periods : Int,
    yearAgoReportPeriod query = shiftReportPeriodByMode query (-periods) ∧
      periods * months (resolveReportPeriodMode query) = 12 := by
  unfold yearAgoReportPeriod
  cases resolveReportPeriodMode query with
  | MONTH => exact ⟨12, rfl, rfl⟩
  | QUARTER => exact ⟨4, rfl, rfl⟩
  | YEAR => exact ⟨1, rfl, rfl⟩

theorem periodRange_yearAgo_start {query : ReportPeriod} (hyear : 100 ≤ query.year) :
    (periodRange (yearAgoReportPeriod query)).1 = yearEarlier (periodRange query).1 := by
  obtain ⟨periods, hshift, hperiods⟩ := yearAgoReportPeriod_eq query
  rw [hshift, periodRange_shift hyear, periodRange_eq, yearEarlier_firstOfMonth, Int.add_mul,
    Int.neg_mul, hperiods]
  rfl

end ReportService

namespace DashboardService

open ReportService

/-! ## The periods of the dashboard -/

/-- A query of the dashboard for the period of a report. The dashboard takes the current
    year for no year, and knows a mode by the fields that are set. -/
structure Describes (timeZone : TimeZone) (now : Instant) (query : DashboardPeriodQuery)
    (period : ReportPeriod) : Prop where
  year : query.year.getD (BudgetPeriod.resolveBudgetYear now timeZone) = period.year
  month : truthy query.month =
    if resolveReportPeriodMode period = .MONTH then some (period.month.getD 1) else none
  quarter : resolveReportPeriodMode period ≠ .MONTH → truthy query.quarter =
    if resolveReportPeriodMode period = .QUARTER then some (period.quarter.getD 1) else none

/-- A period is resolved to its year and its range. -/
theorem resolvePeriod_of_describes {timeZone : TimeZone} {now : Instant}
    {query : DashboardPeriodQuery} {period : ReportPeriod}
    (h : Describes timeZone now query period) (hyear : 100 ≤ period.year) :
    (resolvePeriod timeZone now query).year = period.year ∧
      ((resolvePeriod timeZone now query).start, (resolvePeriod timeZone now query).end_) =
        periodRange period := by
  obtain ⟨hqueryYear, hmonth, hquarter⟩ := h
  unfold resolvePeriod
  rw [hmonth, hqueryYear]
  cases hmode : resolveReportPeriodMode period with
  | MONTH =>
    rw [periodRange_month hmode, budgetPeriodRange_eq, if_pos rfl]
    refine ⟨rfl, ?_⟩
    dsimp only
    rw [dateUTC_eq_firstOfMonth hyear, dateUTC_eq_firstOfMonth hyear]
  | QUARTER =>
    rw [hmode] at hquarter
    rw [periodRange_quarter hmode, budgetQuarterRange_eq, if_neg (by decide), hquarter (by decide),
      if_pos rfl]
    refine ⟨rfl, ?_⟩
    dsimp only
    rw [dateUTC_eq_firstOfMonth hyear, dateUTC_eq_firstOfMonth hyear]
  | YEAR =>
    have hnext : 100 ≤ period.year + 1 := by omega
    rw [hmode] at hquarter
    rw [periodRange_year hmode, budgetYearRange_eq, if_neg (by decide), hquarter (by decide),
      if_neg (by decide)]
    refine ⟨rfl, ?_⟩
    dsimp only
    rw [dateUTC_eq_firstOfMonth hyear, dateUTC_eq_firstOfMonth hnext, Int.add_zero, Int.add_zero]

theorem truthy_some {value : Int} (h : value ≠ 0) : truthy (some value) = some value :=
  Option.filter_some_pos (decide_eq_true h)

theorem describes_month (timeZone : TimeZone) (now : Instant) {year month n : Int}
    (hyear : year = n / 12) (hmonth : month = n % 12 + 1) :
    Describes timeZone now ⟨some year, some month, none⟩ (ofNumber .MONTH n) := by
  refine ⟨hyear, ?_, fun hmode => absurd rfl hmode⟩
  rw [resolveReportPeriodMode_ofNumber, if_pos rfl, truthy_some (by omega), hmonth]
  rfl

theorem describes_quarter (timeZone : TimeZone) (now : Instant) {year quarter n : Int}
    (hyear : year = n / 4) (hquarter : quarter = n % 4 + 1) :
    Describes timeZone now ⟨some year, none, some quarter⟩ (ofNumber .QUARTER n) := by
  refine ⟨hyear, rfl, fun _ => ?_⟩
  rw [resolveReportPeriodMode_ofNumber, if_pos rfl, truthy_some (by omega), hquarter]
  rfl

theorem describes_year (timeZone : TimeZone) (now : Instant) (year : Int) :
    Describes timeZone now ⟨some year, none, none⟩ (ofNumber .YEAR year) :=
  ⟨rfl, rfl, fun _ => rfl⟩

/-- The query that the dashboard makes for the period before describes that period. -/
theorem resolvePreviousPeriod_of_describes {timeZone : TimeZone} {now : Instant}
    {query : DashboardPeriodQuery} {period : ReportPeriod}
    (h : Describes timeZone now query period) (hvalid : period.Valid) {current : ResolvedPeriod}
    (hcurrent : current.year = period.year) (now' : Instant) : ∃ previous,
      resolvePreviousPeriod timeZone now' query current = resolvePeriod timeZone now' previous ∧
        Describes timeZone now' previous (previousReportPeriod period) := by
  obtain ⟨_, hmonth, hquarter⟩ := h
  obtain ⟨hyear, hmonths, hquarters⟩ := hvalid
  rw [previousReportPeriod, shiftReportPeriodByMode_eq (by omega)]
  unfold resolvePreviousPeriod number
  rw [hcurrent]
  cases hmode : resolveReportPeriodMode period with
  | MONTH =>
    obtain ⟨hfirst, hlast⟩ := hmonths hmode
    rw [if_pos hmode] at hmonth
    rw [hmonth]
    dsimp only
    split
    · -- January: the dashboard goes back to the December of the year before
      exact ⟨_, rfl, describes_month timeZone now' (by omega) (by omega)⟩
    · exact ⟨_, rfl, describes_month timeZone now' (by omega) (by omega)⟩
  | QUARTER =>
    obtain ⟨hfirst, hlast⟩ := hquarters hmode
    rw [hmode] at hmonth hquarter
    rw [if_neg (by decide)] at hmonth
    rw [hmonth, hquarter (by decide), if_pos rfl]
    dsimp only
    split
    · exact ⟨_, rfl, describes_quarter timeZone now' (by omega) (by omega)⟩
    · exact ⟨_, rfl, describes_quarter timeZone now' (by omega) (by omega)⟩
  | YEAR =>
    rw [hmode] at hmonth hquarter
    rw [if_neg (by decide)] at hmonth
    rw [hmonth, hquarter (by decide), if_neg (by decide)]
    exact ⟨_, rfl, describes_year timeZone now' (period.year - 1)⟩

theorem resolvePreviousPeriod_range {timeZone : TimeZone} {now : Instant}
    {query : DashboardPeriodQuery} {period : ReportPeriod}
    (h : Describes timeZone now query period) (hvalid : period.Valid) (now' : Instant) :
    ((resolvePreviousPeriod timeZone now' query (resolvePeriod timeZone now query)).start,
      (resolvePreviousPeriod timeZone now' query (resolvePeriod timeZone now query)).end_) =
        periodRange (previousReportPeriod period) := by
  have hyear : 2000 ≤ period.year := hvalid.year
  have hbefore := year_previousReportPeriod hvalid
  obtain ⟨previous, hprevious, hdescribes⟩ := resolvePreviousPeriod_of_describes h hvalid
    (resolvePeriod_of_describes h (by omega)).1 now'
  rw [hprevious]
  exact (resolvePeriod_of_describes hdescribes (by omega)).2

end DashboardService

open ReportService DashboardService in
/-- The periods of a mode tile time, and the dashboard agrees with the reports on the period
    before a period. -/
theorem report_periods_tile (period : ReportPeriod) (h : period.Valid) :
    (∀ a b : Int, 2000 ≤ (shiftReportPeriodByMode period a).year →
      shiftReportPeriodByMode (shiftReportPeriodByMode period a) b =
        shiftReportPeriodByMode period (a + b)) ∧
    (periodRange (previousReportPeriod period)).2 = (periodRange period).1 ∧
    (periodRange (yearAgoReportPeriod period)).1 = yearEarlier (periodRange period).1 ∧
    ∀ (timeZone : TimeZone) (now now' : Instant) (query : DashboardPeriodQuery),
      Describes timeZone now query period →
      ((resolvePeriod timeZone now query).start, (resolvePeriod timeZone now query).end_) =
        periodRange period ∧
      ((resolvePreviousPeriod timeZone now' query (resolvePeriod timeZone now query)).start,
        (resolvePreviousPeriod timeZone now' query (resolvePeriod timeZone now query)).end_) =
          periodRange (previousReportPeriod period) := by
  have hyear : 100 ≤ period.year := Int.le_trans (by decide) h.year
  refine ⟨fun a b hshifted => ?_, periodRange_previous_end hyear, periodRange_yearAgo_start hyear,
    fun timeZone now now' query hquery => ⟨?_, ?_⟩⟩
  · exact shiftReportPeriodByMode_add hyear (Int.le_trans (by decide) hshifted) b
  · exact (resolvePeriod_of_describes hquery hyear).2
  · exact resolvePreviousPeriod_range hquery h now'

namespace Sample

open ReportService DashboardService

def january : ReportPeriod := ⟨2026, none, some 1, none⟩

theorem january_valid : january.Valid :=
  ⟨by decide, fun _ => by decide, fun h => absurd h (by decide)⟩

/-- Fourteen months on from thirteen months back, and the December before. -/
theorem report_periods_tile_january :
    shiftReportPeriodByMode (shiftReportPeriodByMode january (-13)) 14 =
        ⟨2026, some .MONTH, some 2, none⟩ ∧
      (periodRange (previousReportPeriod january)).2 = Date.utc 2026 0 1 0 0 0 ∧
      (periodRange (yearAgoReportPeriod january)).1 = yearEarlier (periodRange january).1 ∧
      (resolvePreviousPeriod BudgetPeriod.utcZone 0 ⟨some 2026, some 1, none⟩
        (resolvePeriod BudgetPeriod.utcZone 0 ⟨some 2026, some 1, none⟩)).end_ =
          Date.utc 2026 0 1 0 0 0 := by
  obtain ⟨hshift, hprevious, hyearAgo, hdashboard⟩ := report_periods_tile january january_valid
  have hquery : Describes BudgetPeriod.utcZone 0 ⟨some 2026, some 1, none⟩ january :=
    ⟨rfl, rfl, fun h => absurd rfl h⟩
  refine ⟨(hshift (-13) 14 (by decide)).trans (by decide), hprevious, hyearAgo, ?_⟩
  exact (congrArg Prod.snd (hdashboard _ 0 0 _ hquery).2).trans hprevious

end Sample

end Expentra
