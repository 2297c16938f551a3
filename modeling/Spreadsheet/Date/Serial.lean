import Spreadsheet.Date.Calendar
import Spreadsheet.Number.Rounding

/-!
# Serial numbers of days

A day is numbered from the first of January 1900, which is one. The number 60 belongs to a day that
never was, the 29th of February 1900, so that from the first of March 1900 on a number is one
greater than the count of days. The fraction of a serial number is the time of the day.
-/

namespace Spreadsheet.Date

/-- The day number of the day whose serial number would be zero if no day had been made up. -/
def serialOrigin : Int := 693594

/-- The serial number of the day that never was. -/
def phantomSerial : Int := 60

/-- The day that never was. -/
def phantom : Date := ⟨1900, 2, 29⟩

/-- The day before the first one, as it is written. -/
def dayZero : Date := ⟨1900, 1, 0⟩

/-- The seconds of a day. -/
def secondsPerDay : Nat := 86400

/-- The serial number of a day. -/
def serial (d : Date) : Int :=
  let days := d.dayNumber - serialOrigin
  if days ≤ phantomSerial then days - 1 else days

/-- The day with a whole serial number that is not negative. -/
def ofWholeSerial? (n : Int) : Option Date :=
  if n = 0 then some dayZero
  else if n = phantomSerial then some phantom
  else ofDayNumber? (serialOrigin + if n < phantomSerial then n + 1 else n)

/-- A number that can be a serial number: finite and not negative. -/
def isSerial (x : Float) : Bool :=
  x.isFinite && !(x < 0.0)

/-- The day of a serial number. -/
def ofSerial? (x : Float) : Option Date :=
  if isSerial x then ofWholeSerial? (Number.toInt64 (Number.floor x)) else none

/-- The second of the day of a serial number, the nearest one and before midnight. -/
def secondOfDay? (x : Float) : Option Nat :=
  if isSerial x then
    let seconds := (x - Number.floor x) * secondsPerDay.toFloat
    some (Number.toCount (Number.roundHalfAway seconds) % secondsPerDay)
  else none

/-- The weekday of a serial number, one for Sunday to seven for Saturday. -/
def weekday (x : Float) : Int :=
  (Number.toInt64 (Number.floor x) - 1) % 7 + 1

end Spreadsheet.Date
