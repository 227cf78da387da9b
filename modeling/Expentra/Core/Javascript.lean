-- SUMMARY: The fragments of JavaScript the services rely on: text trimming, the three states of an optional property, dates.
import Mathlib.Algebra.Order.Ring.Int
import Expentra.Core.LetterCase

/-!
# JavaScript at the boundary

Text functions, the difference between an `undefined` and a `null` property, and
the calendar of `Date` in UTC.
-/

namespace Expentra

/-- An HTTP exception of the framework, or an error the database driver raised. -/
inductive HttpException where
  | badRequest (message : String)
  | unauthorized (message : String)
  | forbidden (message : String)
  | notFound (message : String)
  | conflict (message : String)
  | serviceUnavailable (message : String)
  /-- `QueryFailedError` with the driver's SQLSTATE code. -/
  | queryFailed (code : String)
  /-- `RangeError`, as `Intl` throws it for a time zone it does not know. -/
  | rangeError (message : String)
  /-- `TypeError`, as a property of `null` throws it. -/
  | typeError (message : String)
deriving DecidableEq, Repr

/-! ## Text -/

namespace Js

/-- The white space and line terminators `String.prototype.trim` removes. -/
def isWhitespace (c : Char) : Bool :=
  let n := c.toNat
  (9 ≤ n && n ≤ 13) || n == 0x20 || n == 0xA0 || n == 0x1680 || (0x2000 ≤ n && n ≤ 0x200A) ||
    n == 0x2028 || n == 0x2029 || n == 0x202F || n == 0x205F || n == 0x3000 || n == 0xFEFF

def trim (s : String) : String :=
  String.ofList (((s.toList.dropWhile isWhitespace).reverse.dropWhile isWhitespace).reverse)

/-- `length`, in UTF-16 code units. -/
def length (s : String) : Nat := (s.toList.map (fun c => if c.toNat < 65536 then 1 else 2)).sum

/-- `toLowerCase` of one character. The special cases are the characters outside ASCII
    whose lower case has characters of ASCII; any other character outside ASCII stays
    outside it, which is all that the name of a role asks. -/
def lowerChar (c : Char) : List Char :=
  match c.toNat with
  | 0x130 => ['i', Char.ofNat 0x307]
  | 0x212A => ['k']
  | _ => [c.toLower]

def toLowerCase (s : String) : String := String.ofList (s.toList.flatMap lowerChar)

/-- `s?.trim() || undefined`: the trimmed text, or nothing when it is blank. -/
def trimmedOrUndefined (s : Option String) : Option String :=
  match s with
  | some t => if trim t = "" then none else some (trim t)
  | none => none

end Js

/-! ## Properties of an entity in memory

TypeORM hydrates an empty column as `null`, and `save` leaves a column alone when
the property is `undefined`. -/

/-- A property of an entity object. -/
inductive Property (α : Type) where
  | undefined
  | null
  | value (a : α)
deriving DecidableEq, Repr

namespace Property

variable {α : Type}

/-- The property a column is hydrated to. -/
def ofColumn : Option α → Property α
  | none => .null
  | some a => .value a

/-- The property an assignment of an optional value leaves. -/
def ofOptional : Option α → Property α
  | none => .undefined
  | some a => .value a

/-- The value of a property, `undefined` and `null` read alike: `p ?? none`. -/
def toOption : Property α → Option α
  | .undefined => none
  | .null => none
  | .value a => some a

/-- The column after a save of the property over the old column. -/
def save (p : Property α) (column : Option α) : Option α :=
  match p with
  | .undefined => column
  | .null => none
  | .value a => some a

@[simp] theorem save_undefined (column : Option α) : (undefined : Property α).save column = column := rfl

@[simp] theorem save_null (column : Option α) : (null : Property α).save column = none := rfl

@[simp] theorem save_value (a : α) (column : Option α) : (value a).save column = some a := rfl

/-- Saving a hydrated property back changes nothing. -/
@[simp] theorem save_ofColumn (column : Option α) : (ofColumn column).save column = column := by
  cases column <;> rfl

@[simp] theorem toOption_ofColumn (column : Option α) : (ofColumn column).toOption = column := by
  cases column <;> rfl

@[simp] theorem toOption_value (a : α) : (value a).toOption = some a := rfl

end Property

/-! ## Dates -/

/-- Milliseconds since 1970-01-01T00:00:00Z. -/
abbrev Instant := Int

namespace Date

def msPerDay : Int := 86400000

/-- Days from 1970-01-01 to a day of the proleptic Gregorian calendar, with the
    month counted from 1. -/
def daysFromCivil (year month day : Int) : Int :=
  let y := if month ≤ 2 then year - 1 else year
  let era := y / 400
  let yoe := y - era * 400
  let mp := if 2 < month then month - 3 else month + 9
  let doy := (153 * mp + 2) / 5 + day - 1
  let doe := yoe * 365 + yoe / 4 - yoe / 100 + doy
  era * 146097 + doe - 719468

/-- Year, month (from 1) and day of a day number. -/
def civilFromDays (days : Int) : Int × Int × Int :=
  let z := days + 719468
  let era := z / 146097
  let doe := z - era * 146097
  let yoe := (doe - doe / 1460 + doe / 36524 - doe / 146096) / 365
  let doy := doe - (365 * yoe + yoe / 4 - yoe / 100)
  let mp := (5 * doy + 2) / 153
  let day := doy - (153 * mp + 2) / 5 + 1
  let month := if mp < 10 then mp + 3 else mp - 9
  let y := yoe + era * 400
  (if month ≤ 2 then y + 1 else y, month, day)

/-- `Date.UTC` with the month counted from 0; a month out of range carries into
    the year. -/
def utc (year month day hour minute second : Int) : Instant :=
  daysFromCivil (year + month / 12) (month % 12 + 1) day * msPerDay +
    hour * 3600000 + minute * 60000 + second * 1000

def getUTCFullYear (t : Instant) : Int := (civilFromDays (t / msPerDay)).1

/-- The month counted from 0. -/
def getUTCMonth (t : Instant) : Int := (civilFromDays (t / msPerDay)).2.1 - 1

def getUTCDate (t : Instant) : Int := (civilFromDays (t / msPerDay)).2.2

/-- The day of the week, Sunday being 0. -/
def getUTCDay (t : Instant) : Int := (t / msPerDay + 4) % 7

/-- A number printed with at least `width` digits. -/
def padded (width : Nat) (n : Int) : String :=
  let digits := n.toNat.repr
  String.ofList (List.replicate (width - digits.length) '0') ++ digits

/-- `toISOString().slice(0, 10)` without its dashes, for years 0 to 9999. -/
def compactDay (t : Instant) : String :=
  padded 4 (getUTCFullYear t) ++ padded 2 (getUTCMonth t + 1) ++ padded 2 (getUTCDate t)

example : civilFromDays (daysFromCivil 2024 2 29) = (2024, 2, 29) := by decide

example : getUTCFullYear (utc 2025 12 1 0 0 0) = 2026 := by decide

end Date

end Expentra
