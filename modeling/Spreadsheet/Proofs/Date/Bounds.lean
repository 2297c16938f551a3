import Mathlib.Algebra.Order.BigOperators.Group.List
import Mathlib.Algebra.Order.Group.Nat
import Spreadsheet.Date.Iso
import Spreadsheet.Date.Serial

/-!
# How far dates reach

The years of dates are those of the calendar, and so their serial numbers are small. This holds of
all dates that are written, counted or rolled over, whether or not the day exists.
-/

namespace Spreadsheet.Date

/-- The year is one of the calendar, and the month and the day are as small as counting days makes
them. -/
structure Bounded (d : Date) : Prop where
  /-- The year is one of the calendar. -/
  year : inCalendar d.year = true
  /-- Counting through the months of a year ends behind the last one at the latest. -/
  month_le : d.month ≤ 13
  /-- Counting through the days of four years ends behind the last one at the latest. -/
  day_le : d.day ≤ 1461

/-- The years of the calendar. -/
theorem inCalendar_iff {year : Int} :
    inCalendar year = true ↔ -262143 ≤ year ∧ year ≤ 262142 := by
  rw [inCalendar, Bool.and_eq_true, decide_eq_true_iff, decide_eq_true_iff]
  rfl

private theorem daysBeforeMonth_le (year : Int) (month : Nat) :
    daysBeforeMonth year month ≤ 366 := by
  have hyear : (monthLengths year).sum ≤ 366 := by
    unfold monthLengths
    split <;> decide
  have htake : ((monthLengths year).take (month - 1)).sum ≤ (monthLengths year).sum :=
    (List.take_sublist _ _).sum_le_sum fun _ _ => Nat.zero_le _
  rw [daysBeforeMonth, ← List.sum_eq_foldl]
  exact htake.trans hyear

/-- The serial number of a date is small. -/
theorem Bounded.natAbs_serial_lt {d : Date} (h : d.Bounded) : d.serial.natAbs < 2 ^ 52 := by
  have hyear := inCalendar_iff.mp h.year
  have hday := h.day_le
  have hmonths := daysBeforeMonth_le d.year d.month
  have hnumber : d.dayNumber.natAbs < 2 ^ 51 := by
    unfold dayNumber daysBeforeYear
    dsimp only
    omega
  unfold serial serialOrigin phantomSerial
  dsimp only
  split <;> omega

/-- The parts of a valid date are bounded. -/
theorem bounded_of_isValid {d : Date} (h : d.isValid = true) : d.Bounded := by
  simp only [isValid, Bool.and_eq_true] at h
  obtain ⟨⟨⟨hyear, -⟩, -⟩, hday⟩ := h
  obtain ⟨length, hlength, hle⟩ := (Option.any_eq_true _ _).mp hday
  obtain ⟨hmonth, hget⟩ := List.getElem?_eq_some_iff.mp hlength
  have hlong : ∀ n ∈ monthLengths d.year, n ≤ 31 := by
    unfold monthLengths
    split <;> decide
  have hlength_le : length ≤ 31 := hlong _ (hget ▸ List.getElem_mem hmonth)
  have hmonths : (monthLengths d.year).length = 12 := rfl
  exact ⟨hyear, by omega, (of_decide_eq_true hle).trans (by omega)⟩

private theorem monthAndDay_le (lengths : List Nat) :
    ∀ month day, (monthAndDay month lengths day).1 ≤ month + lengths.length ∧
      (monthAndDay month lengths day).2 ≤ day + 1 := by
  induction lengths with
  | nil => exact fun month day => ⟨le_refl _, le_refl _⟩
  | cons length lengths ih =>
    intro month day
    unfold monthAndDay
    split
    · exact ⟨Nat.le_add_right _ _, le_refl _⟩
    · obtain ⟨hmonth, hday⟩ := ih (month + 1) (day - length)
      rw [List.length_cons]
      omega

/-- A day that is found by its number. -/
theorem bounded_of_ofDayNumber? {n : Int} {d : Date} (h : ofDayNumber? n = some d) :
    d.Bounded := by
  unfold ofDayNumber? at h
  dsimp only at h
  split_ifs at h with hyear
  cases h
  have hparts := monthAndDay_le (monthLengths (ofDayNumberUnbounded n).year) 1
  exact ⟨hyear, (hparts _).1, (hparts _).2.trans (by omega)⟩

/-- The day of a serial number. -/
theorem bounded_of_ofSerial? {x : Float} {d : Date} (h : ofSerial? x = some d) : d.Bounded := by
  unfold ofSerial? at h
  split_ifs at h
  unfold ofWholeSerial? at h
  split_ifs at h
  · cases h
    exact ⟨by decide, by decide, by decide⟩
  · cases h
    exact ⟨by decide, by decide, by decide⟩
  · exact bounded_of_ofDayNumber? h
  · exact bounded_of_ofDayNumber? h

/-- A day that is written. -/
theorem bounded_of_ofText? {s : String} {d : Date} (h : ofText? s = some d) : d.Bounded := by
  unfold ofText? ofTrimmed? at h
  simp only [Option.bind_eq_bind, Option.bind_eq_some_iff] at h
  obtain ⟨_, -, _, -, _, -, _, -, _, -, h⟩ := h
  split_ifs at h with hvalid
  cases h
  exact bounded_of_isValid (Bool.and_eq_true_iff.mp hvalid).2

end Spreadsheet.Date
