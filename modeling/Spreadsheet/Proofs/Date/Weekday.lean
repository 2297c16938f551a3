import Spreadsheet.Proofs.Date.Serial

/-!
# Days of the week

The weekdays come back after seven days, so that the number of a day tells its weekday. From the
first of March 1900 on, serial numbers count the days one by one, and they tell it as well.
-/

namespace Spreadsheet

/-- A day of the week. -/
inductive Weekday where
  | monday
  | tuesday
  | wednesday
  | thursday
  | friday
  | saturday
  | sunday
  deriving DecidableEq, Repr

namespace Weekday

/-- The place in a week that starts with Sunday, counted from one. -/
def fromSunday : Weekday → Int
  | sunday => 1
  | monday => 2
  | tuesday => 3
  | wednesday => 4
  | thursday => 5
  | friday => 6
  | saturday => 7

/-- The place in a week that starts with Monday, counted from one. -/
def fromMonday : Weekday → Int
  | monday => 1
  | tuesday => 2
  | wednesday => 3
  | thursday => 4
  | friday => 5
  | saturday => 6
  | sunday => 7

/-- The weekday of the day with the given number. The first day of the year one is a Monday. -/
def ofDayNumber (n : Int) : Weekday :=
  if n % 7 = 0 then sunday
  else if n % 7 = 1 then monday
  else if n % 7 = 2 then tuesday
  else if n % 7 = 3 then wednesday
  else if n % 7 = 4 then thursday
  else if n % 7 = 5 then friday
  else saturday

variable {v w : Weekday}

private theorem fromSunday_ofDayNumber (n : Int) : (ofDayNumber n).fromSunday = n % 7 + 1 := by
  unfold ofDayNumber
  split_ifs <;> simp only [fromSunday] <;> omega

/-- A weekday is determined by its place in a week that starts with Sunday. -/
theorem fromSunday_injective (h : v.fromSunday = w.fromSunday) : v = w := by
  cases v <;> cases w <;> first | rfl | cases h

/-- The places of a week go from one to seven. -/
theorem fromSunday_bounds (w : Weekday) : 1 ≤ w.fromSunday ∧ w.fromSunday ≤ 7 := by
  cases w <;> decide

/-- Monday follows Sunday, which is the last day of a week that starts with Monday. -/
theorem fromMonday_eq (w : Weekday) : w.fromMonday = (w.fromSunday + 5) % 7 + 1 := by
  cases w <;> rfl

end Weekday

namespace Date

variable {d : Date}

/-- The day of the week. -/
def dayOfWeek (d : Date) : Weekday :=
  .ofDayNumber d.dayNumber

example : (⟨2024, 1, 15⟩ : Date).dayOfWeek = .monday := by decide

/-- The weekday of a serial number is that of the day that so many days lead to. -/
theorem weekday_eq (x : Float) :
    weekday x =
      (Weekday.ofDayNumber (serialOrigin + Number.toInt64 (Number.floor x))).fromSunday := by
  rw [weekday, Weekday.fromSunday_ofDayNumber, serialOrigin_eq]
  omega

/-- The first day behind the one that never was. -/
def firstOfMarch : Date := ⟨1900, 3, 1⟩

/-- From the first of March 1900 on, serial numbers count days. -/
theorem serialOrigin_add_serial (hd : d.isValid = true) (h : ¬d.Before firstOfMarch) :
    serialOrigin + d.serial = d.dayNumber ∧ phantomSerial < d.serial := by
  have hfirst : firstOfMarch.dayNumber ≤ d.dayNumber := by
    have hmarch : firstOfMarch.isValid = true := by decide
    rcases before_or_eq_or_before d firstOfMarch with hlt | rfl | hgt
    · exact absurd hlt h
    · exact le_refl _
    · exact (dayNumber_lt_of_before (isValid_iff.mp hmarch).2 (isValid_iff.mp hd).2 hgt).le
  have hnumber : firstOfMarch.dayNumber = 693655 := by decide
  rw [serial_eq, serialOrigin_eq, phantomSerial_eq]
  split <;> omega

end Date

end Spreadsheet
