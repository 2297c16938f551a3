import Spreadsheet.Date.Iso
import Spreadsheet.Function.Ambient
import Spreadsheet.Function.Argument

/-!
# Functions of date and time

Dates are made from and taken apart into years, months and days; they are given as serial numbers or
as texts. Months and days beyond their usual range lead into the neighbouring years and months.
-/

namespace Spreadsheet.Function

/-- A number that may be missing; then it would be out of range. -/
def orOutOfRange (n : Option Int) : Value :=
  match n with
  | some n => .number (Float.ofInt n)
  | none => .error .invalidNumber

/-- The argument at a place as a whole number, one if it is missing. -/
def wholeAt (args : List Value) (i : Nat) : Int :=
  Number.toInt64 (Number.truncate (numberAt args i 1.0))

/-- The year that a number means: numbers below 1900 count from 1900 on. -/
def yearOf? (n : Int) : Option Int :=
  if 0 ≤ n && n < 1900 then some (n + 1900)
  else if 1900 ≤ n && n ≤ 9999 then some n
  else none

/-- The day that lies `day - 1` days after the first day of a month, the months being counted on
over the years. -/
def rolledDate? (year month day : Int) : Option Date := do
  let first ← Date.ofMonthNumber? (12 * year + (month - 1))
  Date.ofDayNumber? (first.dayNumber + (day - 1))

/-- The serial number of the day with the given year, month and day. -/
def makeDate (args : List Value) : Value :=
  orOutOfRange do
    let year ← yearOf? (Number.toInt64 (Number.truncate (numberAt args 0 0.0)))
    let d ← rolledDate? year (wholeAt args 1) (wholeAt args 2)
    if d.serial < 0 then none else some d.serial

/-- The day that the first argument means: a text that is a date, or else a serial number. -/
def dateOf? (args : List Value) : Option Date :=
  let written : Option Date :=
    match args with
    | .text s :: _ => Date.ofText? s
    | _ => none
  match written with
  | some d => some d
  | none => Date.ofSerial? (numberAt args 0 0.0)

/-- A part of the day that the first argument means. -/
def datePart (part : Date → Int) (args : List Value) : Value :=
  orOutOfRange ((dateOf? args).map part)

/-- The year. -/
def year : List Value → Value :=
  datePart Date.year

/-- The month. -/
def month : List Value → Value :=
  datePart fun d => d.month

/-- The day of the month. -/
def day : List Value → Value :=
  datePart fun d => d.day

/-- A part of the time of the day that the first argument means. -/
def timePart (part : Nat → Nat) (args : List Value) : Value :=
  orOutOfRange ((Date.secondOfDay? (numberAt args 0 0.0)).map fun seconds => part seconds)

/-- The hour. -/
def hour : List Value → Value :=
  timePart fun seconds => seconds / 3600

/-- The minute of the hour. -/
def minute : List Value → Value :=
  timePart fun seconds => seconds % 3600 / 60

/-- The second of the minute. -/
def second : List Value → Value :=
  timePart fun seconds => seconds % 60

/-- The weekday under one of three counts: Sunday as one, Monday as one, or Monday as zero. -/
def weekdayUnder? (count weekday : Int) : Option Int :=
  if count = 1 then some weekday
  else if count = 2 then some ((weekday + 5) % 7 + 1)
  else if count = 3 then some ((weekday + 5) % 7)
  else none

/-- The weekday of a serial number. -/
def weekday (args : List Value) : Value :=
  let x := numberAt args 0 0.0
  orOutOfRange (if Date.isSerial x then weekdayUnder? (wholeAt args 1) (Date.weekday x) else none)

/-- The serial number of the day of the calculation. -/
def today (ambient : Ambient) (_ : List Value) : Value :=
  .number ambient.day

/-- The serial number of the moment of the calculation. -/
def now (ambient : Ambient) (_ : List Value) : Value :=
  .ofResult ambient.moment

end Spreadsheet.Function
