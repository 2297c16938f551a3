import Spreadsheet.Proofs.Date.Weekday
import Spreadsheet.Proofs.Date.Written
import Spreadsheet.Proofs.Function.Finite
import Spreadsheet.Proofs.Function.Rolling

/-!
# Weekdays of arguments

The weekday of an argument is that of the day whose year, month and day the other functions of dates
take from it, if the argument is a serial number. A text that is a date is taken for the serial
number that its year would be, and so for another day, which has the right weekday only by chance.
-/

namespace Spreadsheet.Function

open Number (toInt64 floor)

variable {v : Value} {d e : Date} {w : Weekday} {args : List Value} {n : Int} {s : String}

/-- The year, the month and the day of the argument are those of the date. -/
structure GivesDate (v : Value) (d : Date) : Prop where
  /-- The year. -/
  year : year [v] = .number (Float.ofInt d.year)
  /-- The month. -/
  month : month [v] = .number (Float.ofInt d.month)
  /-- The day of the month. -/
  day : day [v] = .number (Float.ofInt d.day)

/-- The weekday of the argument is the given one under each of the three counts. -/
structure NamesWeekday (v : Value) (w : Weekday) : Prop where
  /-- Without a second argument, weeks start with Sunday. -/
  fromSunday : weekday [v] = .number (Float.ofInt w.fromSunday)
  /-- Under the second count, weeks start with Monday. -/
  fromMonday : weekday [v, .number 2.0] = .number (Float.ofInt w.fromMonday)
  /-- Under the third count, Monday is zero. -/
  behindMonday : weekday [v, .number 3.0] = .number (Float.ofInt (w.fromMonday - 1))

/-- The argument is a text that is the date, and the day whose serial number is the year of the date
has another weekday. -/
def IsMisread (v : Value) (d : Date) : Prop :=
  ∃ s, v = .text s ∧ Date.ofText? s = some d ∧
    d.dayOfWeek ≠ .ofDayNumber (Date.serialOrigin + d.year)

/-! ## The date of an argument -/

/-- A date is determined by the doubles of its parts. -/
theorem eq_of_ofInt_parts (hd : d.Bounded) (he : e.Bounded)
    (hyear : Float.ofInt d.year = Float.ofInt e.year)
    (hmonth : Float.ofInt d.month = Float.ofInt e.month)
    (hday : Float.ofInt d.day = Float.ofInt e.day) : d = e := by
  obtain ⟨hyear_d, hmonth_d, hday_d⟩ := hd
  obtain ⟨hyear_e, hmonth_e, hday_e⟩ := he
  rw [Date.inCalendar_iff] at hyear_d hyear_e
  have hyear := Number.ofInt_injective (by omega) (by omega) hyear
  have hmonth := Number.ofInt_injective (by omega) (by omega) hmonth
  have hday := Number.ofInt_injective (by omega) (by omega) hday
  obtain ⟨year, month, day⟩ := d
  obtain ⟨year', month', day'⟩ := e
  rw [Date.mk.injEq]
  exact ⟨hyear, Int.ofNat_inj.mp hmonth, Int.ofNat_inj.mp hday⟩

/-- The argument means the date whose parts are taken from it. -/
theorem GivesDate.dateOf?_eq (h : GivesDate v d) (hvalid : d.isValid = true) :
    dateOf? [v] = some d := by
  obtain ⟨e, he, hyear⟩ := orOutOfRange_map_eq_number_iff.mp h.year
  obtain ⟨_, he', hmonth⟩ := orOutOfRange_map_eq_number_iff.mp h.month
  obtain ⟨_, he'', hday⟩ := orOutOfRange_map_eq_number_iff.mp h.day
  cases he.symm.trans he'
  cases he.symm.trans he''
  rw [he, eq_of_ofInt_parts (bounded_of_dateOf? he) (Date.bounded_of_isValid hvalid) hyear hmonth
    hday]

/-- An argument that means a date gives its parts. -/
theorem givesDate_of_dateOf?_eq (h : dateOf? [v] = some d) : GivesDate v d := by
  constructor <;> simp only [year, month, day, datePart, h, Option.map_some, orOutOfRange]

/-- A date is that of a text, or else that of a serial number. -/
theorem dateOf?_cases (h : dateOf? [v] = some d) :
    (∃ s, v = .text s ∧ Date.ofText? s = some d) ∨
      (∀ s, v = .text s → Date.ofText? s = none) ∧ Date.ofSerial? v.toNumber = some d := by
  unfold dateOf? at h
  dsimp only at h
  split at h
  · rename_i e hwritten
    cases h
    split at hwritten
    · rename_i heq
      cases heq
      exact .inl ⟨_, rfl, hwritten⟩
    · cases hwritten
  · rename_i hwritten
    refine .inr ⟨fun s hs => ?_, h⟩
    subst hs
    exact hwritten

/-! ## The weekday of an argument -/

/-- The day of a serial number from the first of March 1900 on has the whole part as its number. -/
theorem dayNumber_of_ofSerial? {x : Float} (h : Date.ofSerial? x = some d)
    (hvalid : d.isValid = true) (hfrom : ¬d.Before Date.firstOfMarch) :
    Date.isSerial x = true ∧ Date.serialOrigin + toInt64 (floor x) = d.dayNumber := by
  obtain ⟨hnumber, hbehind⟩ := Date.serialOrigin_add_serial hvalid hfrom
  rw [Date.ofSerial?] at h
  split_ifs at h with hserial
  refine ⟨hserial, ?_⟩
  generalize toInt64 (floor x) = n at h ⊢
  unfold Date.ofWholeSerial? at h
  rw [Date.phantomSerial_eq] at h hbehind
  split_ifs at h with hzero hphantom hearly
  · cases h
    exact absurd hvalid (by decide)
  · cases h
    exact absurd hvalid (by decide)
  · have := (Date.ofDayNumber?_eq_some_iff.mp h).2
    omega
  · exact (Date.ofDayNumber?_eq_some_iff.mp h).2.symm

private theorem wholeAt_one_two_three (v : Value) :
    wholeAt [v] 1 = 1 ∧ wholeAt [v, .number 2.0] 1 = 2 ∧ wholeAt [v, .number 3.0] 1 = 3 := by
  have htruncate : toInt64 (Number.truncate 1.0) = 1 ∧ toInt64 (Number.truncate 2.0) = 2 ∧
      toInt64 (Number.truncate 3.0) = 3 := by
    decide +kernel
  exact htruncate

/-- The weekday of an argument that counts as a serial number is that of the day it leads to. -/
theorem namesWeekday_iff (hserial : Date.isSerial v.toNumber = true) :
    NamesWeekday v w ↔ .ofDayNumber (Date.serialOrigin + toInt64 (floor v.toNumber)) = w := by
  generalize hled : Weekday.ofDayNumber (Date.serialOrigin + toInt64 (floor v.toNumber)) = led
  have hunder : ∀ args count, numberAt args 0 0.0 = v.toNumber → wholeAt args 1 = count →
      weekday args = orOutOfRange (weekdayUnder? count led.fromSunday) := by
    intro args count hfirst hcount
    unfold weekday
    dsimp only
    rw [hfirst, hcount, if_pos hserial, Date.weekday_eq, hled]
  obtain ⟨hone, htwo, hthree⟩ := wholeAt_one_two_three v
  constructor
  · intro h
    have hnumber : Float.ofInt led.fromSunday = Float.ofInt w.fromSunday :=
      Value.number.inj ((hunder _ _ rfl hone).symm.trans h.fromSunday)
    have hled_bounds := led.fromSunday_bounds
    have hw_bounds := w.fromSunday_bounds
    exact Weekday.fromSunday_injective (Number.ofInt_injective (by omega) (by omega) hnumber)
  · rintro rfl
    refine ⟨hunder _ _ rfl hone, (hunder _ _ rfl htwo).trans ?_, (hunder _ _ rfl hthree).trans ?_⟩
    · rw [Weekday.fromMonday_eq]
      rfl
    · rw [Weekday.fromMonday_eq, add_sub_cancel_right]
      rfl

/-- A text that is a date counts as its year. -/
theorem toNumber_of_ofText? (h : Date.ofText? s = some d) (hpos : 0 < d.year) :
    (Value.text s).toNumber = Float.ofInt d.year := by
  rw [Value.toNumber, Value.number?, Date.leading_of_ofText? h hpos]
  rfl

/-- The weekday of a text that is a date is that of the day whose serial number is the year. -/
theorem namesWeekday_text_iff (h : Date.ofText? s = some d) (hpos : 0 < d.year) :
    NamesWeekday (.text s) w ↔ .ofDayNumber (Date.serialOrigin + d.year) = w := by
  have hlast := (Date.inCalendar_iff.mp (Date.bounded_of_ofText? h).year).2
  have hnumber := toNumber_of_ofText? h hpos
  have hserial := Date.isSerial_ofInt hpos (by omega)
  rw [namesWeekday_iff (hnumber ▸ hserial), hnumber,
    Number.toInt64_floor_ofInt hpos (by omega)]

/-- The weekday of an argument is that of the date whose parts are taken from it, unless the
argument is a text that is misread. -/
theorem namesWeekday_iff_not_isMisread (hdate : GivesDate v d) (hvalid : d.isValid = true)
    (hfrom : ¬d.Before Date.firstOfMarch) : NamesWeekday v d.dayOfWeek ↔ ¬IsMisread v d := by
  rcases dateOf?_cases (hdate.dateOf?_eq hvalid) with ⟨s, rfl, htext⟩ | ⟨hnone, hserial⟩
  · have hpos : 0 < d.year := by
      unfold Date.Before Date.firstOfMarch at hfrom
      dsimp only at hfrom
      omega
    rw [namesWeekday_text_iff htext hpos]
    constructor
    · rintro hsame ⟨_, -, -, hother⟩
      exact hother hsame.symm
    · intro hread
      by_contra hother
      exact hread ⟨s, rfl, htext, fun hsame => hother hsame.symm⟩
  · obtain ⟨hnumber, hcounted⟩ := dayNumber_of_ofSerial? hserial hvalid hfrom
    have hright : NamesWeekday v d.dayOfWeek := by
      rw [namesWeekday_iff hnumber, hcounted]
      rfl
    refine iff_of_true hright ?_
    rintro ⟨s, rfl, htext, -⟩
    rw [hnone s rfl] at htext
    cases htext

/-- The fifteenth of January 2024 was a Monday. -/
theorem namesWeekday_monday :
    GivesDate (.number 45306.75) ⟨2024, 1, 15⟩ ∧ NamesWeekday (.number 45306.75) .monday := by
  have hfound : dateOf? [.number 45306.75] = some ⟨2024, 1, 15⟩ := by decide +kernel
  have hdate := givesDate_of_dateOf?_eq hfound
  refine ⟨hdate, (namesWeekday_iff_not_isMisread hdate (by decide) (by decide)).mpr ?_⟩
  rintro ⟨_, htext, -⟩
  cases htext

/-- The fifteenth of January 2024 is a Monday, but written as a text it is taken for a Sunday. -/
theorem not_namesWeekday_text :
    GivesDate (.text "2024-01-15") ⟨2024, 1, 15⟩ ∧ NamesWeekday (.text "2024-01-15") .sunday ∧
      ¬NamesWeekday (.text "2024-01-15") (⟨2024, 1, 15⟩ : Date).dayOfWeek := by
  have htext : Date.ofText? "2024-01-15" = some ⟨2024, 1, 15⟩ := by cbv
  have hfound : dateOf? [.text "2024-01-15"] = some ⟨2024, 1, 15⟩ := by
    rw [dateOf?, htext]
  refine ⟨givesDate_of_dateOf?_eq hfound, ?_, ?_⟩
  · exact (namesWeekday_text_iff htext (by decide)).mpr (by decide)
  · rw [namesWeekday_text_iff htext (by decide)]
    decide

end Spreadsheet.Function
