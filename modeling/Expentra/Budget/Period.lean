-- SUMMARY: Budget years: the calendar year of an instant in the configured time zone, and the interval a year covers.
import Expentra.Core.Javascript

/-!
# Budget periods

The year an instant is budgeted in, and the half-open interval of a budget year.
Both go through `Intl.DateTimeFormat`, which is a parameter: what it prints for
an instant in a zone comes from a time zone database outside the program.
-/

namespace Expentra

/-- The parts `formatToParts` prints with `hour12: false`. The hour of midnight
    is whatever the engine prints for it, 0 or 24. -/
structure LocalParts where
  year : Int
  month : Int
  day : Int
  hour : Int
  minute : Int
  second : Int
deriving DecidableEq, Repr

/-- A configured time zone. `Intl` throws when it does not know the name. -/
structure TimeZone where
  name : String
  format? : Option (Instant → LocalParts)

namespace BudgetPeriod

/-- Calendar year for a date; the UTC year when the zone is unknown. -/
def resolveBudgetYear (date : Instant) (timeZone : TimeZone) : Int :=
  match timeZone.format? with
  | some format => (format date).year
  | none => Date.getUTCFullYear date

/-- Year, month and day of a date; those of UTC when the zone is unknown. -/
def calendarDateParts (date : Instant) (timeZone : TimeZone) : Int × Int × Int :=
  match timeZone.format? with
  | some format => ((format date).year, (format date).month, (format date).day)
  | none => (Date.getUTCFullYear date, Date.getUTCMonth date + 1, Date.getUTCDate date)

/-- Negative if `left` is before `right` on the calendar of the zone. -/
def compareCalendarDates (left right : Instant) (timeZone : TimeZone) : Int :=
  let (leftYear, leftMonth, leftDay) := calendarDateParts left timeZone
  let (rightYear, rightMonth, rightDay) := calendarDateParts right timeZone
  if leftYear ≠ rightYear then leftYear - rightYear
  else if leftMonth ≠ rightMonth then leftMonth - rightMonth
  else leftDay - rightDay

/-- What an attempt of `zonedMidnightToUtc` subtracts when it has not arrived. -/
def stepBack (parts : LocalParts) : Int :=
  let sinceMidnight := (parts.hour * 3600 + parts.minute * 60 + parts.second) * 1000
  if sinceMidnight = 0 then 3600000 else sinceMidnight

/-- The attempts of `zonedMidnightToUtc`, from noon backwards. -/
def searchMidnight (format : Instant → LocalParts) (year month day : Int) :
    Nat → Instant → Option Instant
  | 0, _ => none
  | attempts + 1, ms =>
    let parts := format ms
    if parts = ⟨year, month, day, 0, 0, 0⟩ then some ms
    else searchMidnight format year month day attempts (ms - stepBack parts)

/-- UTC instant for local midnight; UTC midnight after 48 attempts. -/
def zonedMidnightToUtc (year month day : Int) (timeZone : TimeZone) :
    Except HttpException Instant :=
  match timeZone.format? with
  | none => .error (.rangeError ("Invalid time zone specified: " ++ timeZone.name))
  | some format =>
    match searchMidnight format year month day 48 (Date.utc year (month - 1) day 12 0 0) with
    | some ms => .ok ms
    | none => .ok (Date.utc year (month - 1) day 0 0 0)

/-- Half-open interval [start, end) for a calendar year in the given zone. -/
def budgetYearRangeInTimeZone (year : Int) (timeZone : TimeZone) :
    Except HttpException (Instant × Instant) := do
  let start ← zonedMidnightToUtc year 1 1 timeZone
  let end_ ← zonedMidnightToUtc (year + 1) 1 1 timeZone
  pure (start, end_)

/-- UTC half-open interval [start, end) for a calendar month. -/
def budgetPeriodRange (year month : Int) : Instant × Instant :=
  (Date.utc year (month - 1) 1 0 0 0,
    if month = 12 then Date.utc (year + 1) 0 1 0 0 0 else Date.utc year month 1 0 0 0)

/-- UTC half-open interval [start, end) for a calendar year. -/
def budgetYearRange (year : Int) : Instant × Instant :=
  (Date.utc year 0 1 0 0 0, Date.utc (year + 1) 0 1 0 0 0)

/-- UTC half-open interval [start, end) for a calendar quarter (1–4). -/
def budgetQuarterRange (year quarter : Int) : Instant × Instant :=
  let startMonthIndex := (quarter - 1) * 3
  (Date.utc year startMonthIndex 1 0 0 0, Date.utc year (startMonthIndex + 3) 1 0 0 0)

/-- UTC, with midnight printed as hour 0. -/
def utcZone : TimeZone where
  name := "UTC"
  format? := some (fun t =>
    { year := Date.getUTCFullYear t, month := Date.getUTCMonth t + 1, day := Date.getUTCDate t,
      hour := t % Date.msPerDay / 3600000, minute := t % 3600000 / 60000,
      second := t % 60000 / 1000 })

example : budgetYearRangeInTimeZone 2025 utcZone =
    .ok (Date.utc 2025 0 1 0 0 0, Date.utc 2026 0 1 0 0 0) := rfl

end BudgetPeriod

end Expentra
