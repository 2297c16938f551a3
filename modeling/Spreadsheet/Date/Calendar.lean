/-!
# The Gregorian calendar

Days are counted from the first of January of the year one, which is day one. The calendar is
applied to all years, also to those before it was introduced, and there is a year zero before the
year one. Main definitions: `Date.dayNumber` and its inverse `Date.ofDayNumber`.
-/

namespace Spreadsheet

/-- A year, a month and a day of the month. -/
structure Date where
  /-- The year. -/
  year : Int
  /-- The month, from one. -/
  month : Nat
  /-- The day of the month, from one. -/
  day : Nat
  deriving DecidableEq, Repr

namespace Date

/-- A year with a day more. -/
def isLeap (year : Int) : Bool :=
  year % 4 == 0 && (year % 100 != 0 || year % 400 == 0)

/-- The lengths of the months of a year. -/
def monthLengths (year : Int) : List Nat :=
  [31, if isLeap year then 29 else 28, 31, 30, 31, 30, 31, 31, 30, 31, 30, 31]

/-- The first year of the calendar. -/
def firstYear : Int := -262143

/-- The last year of the calendar. -/
def lastYear : Int := 262142

/-- The year is one of the calendar. -/
def inCalendar (year : Int) : Bool :=
  firstYear ≤ year && year ≤ lastYear

/-- The day exists. -/
def isValid (d : Date) : Bool :=
  inCalendar d.year && d.month != 0 && d.day != 0 &&
    ((monthLengths d.year)[d.month - 1]?).any (d.day ≤ ·)

/-- The number of days before the given year, from the year one on. -/
def daysBeforeYear (year : Int) : Int :=
  let years := year - 1
  365 * years + years / 4 - years / 100 + years / 400

/-- The number of days of a year before the given month. -/
def daysBeforeMonth (year : Int) (month : Nat) : Nat :=
  ((monthLengths year).take (month - 1)).foldl (· + ·) 0

/-- The number of a day. -/
def dayNumber (d : Date) : Int :=
  daysBeforeYear d.year + daysBeforeMonth d.year d.month + d.day

/-- The month and the day of the month of a day of the year, counted from zero, among months of the
given lengths, the first of which has the number `month`. -/
def monthAndDay (month : Nat) : (lengths : List Nat) → (day : Nat) → Nat × Nat
  | [], day => (month, day + 1)
  | length :: lengths, day =>
    if day < length then (month, day + 1) else monthAndDay (month + 1) lengths (day - length)

/-- The day with the given number, in any year. A period of four centuries has 146097 days, a
century 36524 and four years 1461; the last of four such parts, or of four years, may be a day
longer. -/
def ofDayNumberUnbounded (n : Int) : Date :=
  let period := (n - 1) / 146097
  let inPeriod := ((n - 1) % 146097).toNat
  let century := min (inPeriod / 36524) 3
  let inCentury := inPeriod - 36524 * century
  let inFour := inCentury % 1461
  let rest := min (inFour / 365) 3
  let year := 400 * period + (100 * century + 4 * (inCentury / 1461) + rest : Nat) + 1
  let (month, day) := monthAndDay 1 (monthLengths year) (inFour - 365 * rest)
  ⟨year, month, day⟩

/-- The day with the given number, if it lies in the calendar. -/
def ofDayNumber? (n : Int) : Option Date :=
  let d := ofDayNumberUnbounded n
  if inCalendar d.year then some d else none

/-- The first day of the month that lies `months` months after January of the year zero. -/
def ofMonthNumber? (months : Int) : Option Date :=
  let year := months / 12
  if inCalendar year then some ⟨year, (months % 12).toNat + 1, 1⟩ else none

end Date

end Spreadsheet
