/-! Instants in whole seconds of UTC, and the calendar dates they fall on. -/

namespace StorageConfig

/-- A date of the calendar that extends today's leap year rule to all years. -/
structure CivilDate where
  year : Int
  month : Nat
  day : Nat
  deriving DecidableEq, Repr

namespace CivilDate

/-- Whether February has a twenty-ninth day. -/
def isLeapYear (year : Int) : Bool :=
  year % 4 == 0 && (year % 100 != 0 || year % 400 == 0)

/-- The number of days of a month. -/
def daysInMonth (year : Int) (month : Nat) : Nat :=
  if month = 2 then (if isLeapYear year then 29 else 28)
  else if month = 4 ∨ month = 6 ∨ month = 9 ∨ month = 11 then 30
  else 31

/-- The years that dates can have. -/
def isYear (year : Int) : Bool := -262143 ≤ year && year ≤ 262142

/-- Whether the date exists. -/
def isValid (date : CivilDate) : Bool :=
  isYear date.year && 1 ≤ date.month && date.month ≤ 12
    && 1 ≤ date.day && date.day ≤ daysInMonth date.year date.month

/-- Days since the first of January 1970. -/
def toDays (date : CivilDate) : Int :=
  -- A year that starts in March has its leap day at the end.
  let year := if date.month ≤ 2 then date.year - 1 else date.year
  let monthFromMarch := (date.month + 9) % 12
  let dayOfYear := (153 * monthFromMarch + 2) / 5 + date.day - 1
  365 * year + year / 4 - year / 100 + year / 400 + (dayOfYear : Int) - 719468

/-- The date a number of days after the first of January 1970. -/
def ofDays (days : Int) : CivilDate :=
  let shifted := days + 719468
  let era := shifted / 146097
  let dayOfEra := (shifted - era * 146097).toNat
  let yearOfEra := (dayOfEra - dayOfEra / 1460 + dayOfEra / 36524 - dayOfEra / 146096) / 365
  let dayOfYear := dayOfEra - (365 * yearOfEra + yearOfEra / 4 - yearOfEra / 100)
  let monthFromMarch := (5 * dayOfYear + 2) / 153
  let day := dayOfYear - (153 * monthFromMarch + 2) / 5 + 1
  let month := if monthFromMarch < 10 then monthFromMarch + 3 else monthFromMarch - 9
  let year := era * 400 + (yearOfEra : Int)
  ⟨if month ≤ 2 then year + 1 else year, month, day⟩

end CivilDate

/-- A point in time, to the second. -/
structure Timestamp where
  /-- Seconds since the start of 1970 in UTC, leap seconds not counted. -/
  seconds : Int
  /-- Whether it is the leap second that follows that second. -/
  isLeap : Bool
  deriving DecidableEq, Repr

namespace Timestamp

/-- A number with leading zeros up to a width. -/
def padded (width n : Nat) : String :=
  let digits := Nat.toDigits 10 n
  String.ofList (List.replicate (width - digits.length) '0' ++ digits)

/-- A year in four digits, and with its sign where it needs more or is before year zero. -/
def yearText (year : Int) : String :=
  if 0 ≤ year ∧ year ≤ 9999 then padded 4 year.toNat
  else (if year < 0 then "-" else "+") ++ padded 4 year.natAbs

/-- The instant in UTC, as `YYYY-MM-DDThh:mm:ssZ`. -/
def render (t : Timestamp) : String :=
  let days := t.seconds / 86400
  let second := (t.seconds - days * 86400).toNat
  let date := CivilDate.ofDays days
  yearText date.year ++ "-" ++ padded 2 date.month ++ "-" ++ padded 2 date.day
    ++ "T" ++ padded 2 (second / 3600) ++ ":" ++ padded 2 (second / 60 % 60)
    ++ ":" ++ padded 2 (second % 60 + if t.isLeap then 1 else 0) ++ "Z"

end Timestamp

end StorageConfig
