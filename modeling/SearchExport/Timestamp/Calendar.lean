/-!
# The calendar

Days are counted from the first of January 1970 in the proleptic Gregorian calendar.  Years begin in
March for the arithmetic, which puts the leap day at the end of a year.

* `daysOfDate`, `dateOfDays` — from a date to its day number and back.
-/

set_option autoImplicit false

namespace SearchExport.Calendar

/-- A date of the proleptic Gregorian calendar. -/
structure Date where
  year : Int
  month : Nat
  day : Nat
  deriving DecidableEq, Repr

/-- Whether a year has a leap day. -/
def isLeapYear (y : Int) : Bool := y % 4 = 0 && (y % 100 ≠ 0 || y % 400 = 0)

/-- The number of days of a month. -/
def daysInMonth (y : Int) (m : Nat) : Nat :=
  if m = 2 then (if isLeapYear y then 29 else 28)
  else if m = 4 || m = 6 || m = 9 || m = 11 then 30
  else 31

/-- Whether the date exists. -/
def Date.isValid (d : Date) : Bool :=
  1 ≤ d.month && d.month ≤ 12 && 1 ≤ d.day && d.day ≤ daysInMonth d.year d.month

/-- The day number of a date. -/
def daysOfDate (d : Date) : Int :=
  let y : Int := if d.month ≤ 2 then d.year - 1 else d.year
  let era := y / 400
  let yearOfEra := y - era * 400
  let month : Int := ((d.month + 9) % 12 : Nat)
  let dayOfYear := (153 * month + 2) / 5 + d.day - 1
  era * 146097 + (yearOfEra * 365 + yearOfEra / 4 - yearOfEra / 100 + dayOfYear) - 719468

/-- The date of a day number. -/
def dateOfDays (days : Int) : Date :=
  let z := days + 719468
  let era := z / 146097
  let dayOfEra := z - era * 146097
  let yearOfEra := (dayOfEra - dayOfEra / 1460 + dayOfEra / 36524 - dayOfEra / 146096) / 365
  let dayOfYear := dayOfEra - (365 * yearOfEra + yearOfEra / 4 - yearOfEra / 100)
  let month := (5 * dayOfYear + 2) / 153
  let day := dayOfYear - (153 * month + 2) / 5 + 1
  let m := if month < 10 then month + 3 else month - 9
  let y := yearOfEra + era * 400
  ⟨if m ≤ 2 then y + 1 else y, m.toNat, day.toNat⟩

end SearchExport.Calendar
