import Spreadsheet.Function.Time
import Spreadsheet.Proofs.Date.Serial

/-!
# Dates made from their parts

A year, a month and a day mean the day whose number is found by carrying the months into the years
and counting the days on from the first one of the month. The date is made if this month and this
day lie in the calendar and the serial number of the day is not negative. So parts beyond their
usual range lead into the neighbouring months and years, and words hold all parts that do.
-/

namespace Spreadsheet.Function

open Number (IsExactly heldInWord)

variable {args : List Value} {year month day n : Int} {d : Date} {x : Float}

/-! ## The day that is meant -/

/-- The year that a number means, however great the number is. -/
def impliedYear (n : Int) : Int :=
  if 0 ≤ n ∧ n < 1900 then n + 1900 else n

/-- The first day of a month, the months being counted on over the years. -/
def firstOfMonth (year month : Int) : Date :=
  ⟨(12 * year + (month - 1)) / 12, ((12 * year + (month - 1)) % 12).toNat + 1, 1⟩

/-- The number of the day that lies `day - 1` days after the first day of a month. -/
def rolledDayNumber (year month day : Int) : Int :=
  (firstOfMonth year month).dayNumber + (day - 1)

/-- The day with the given year, month and day, unless its serial number is negative. -/
def dateOfParts? (year month day : Int) : Option Date := do
  let year ← yearOf? year
  let d ← rolledDate? year month day
  if d.serial < 0 then none else some d

/-- The years that are accepted, and what is made of them. -/
theorem yearOf?_eq_some_iff :
    yearOf? n = some year ↔ 0 ≤ n ∧ n ≤ 9999 ∧ impliedYear n = year := by
  unfold yearOf? impliedYear
  simp only [Bool.and_eq_true, decide_eq_true_eq]
  split_ifs
  · rw [Option.some.injEq]
    omega
  · rw [Option.some.injEq]
    omega
  · exact iff_of_false not_false (by omega)

private theorem rolledDate?_eq_some_iff :
    rolledDate? year month day = some d ↔
      Date.inCalendar (firstOfMonth year month).year = true ∧ d.isValid = true ∧
        d.dayNumber = rolledDayNumber year month day := by
  unfold rolledDate? Date.ofMonthNumber?
  dsimp only
  split_ifs with hmonth
  · rw [Option.bind_eq_bind, Option.bind_some, Date.ofDayNumber?_eq_some_iff]
    exact (and_iff_right hmonth).symm
  · exact iff_of_false (fun h => Option.some_ne_none d h.symm) fun h => hmonth h.1

/-- The parts that make a date, and the date that they make. -/
theorem dateOfParts?_eq_some_iff :
    dateOfParts? year month day = some d ↔
      (0 ≤ year ∧ year ≤ 9999) ∧
        Date.inCalendar (firstOfMonth (impliedYear year) month).year = true ∧ d.isValid = true ∧
        d.dayNumber = rolledDayNumber (impliedYear year) month day ∧ 0 ≤ d.serial := by
  simp only [dateOfParts?, Option.bind_eq_bind, Option.bind_eq_some_iff, yearOf?_eq_some_iff,
    rolledDate?_eq_some_iff, Option.ite_none_left_eq_some, Option.some.injEq]
  constructor
  · rintro ⟨_, ⟨hnonneg, hle, rfl⟩, _, ⟨hmonth, hvalid, hnumber⟩, hserial, rfl⟩
    exact ⟨⟨hnonneg, hle⟩, hmonth, hvalid, hnumber, not_lt.mp hserial⟩
  · rintro ⟨⟨hnonneg, hle⟩, hmonth, hvalid, hnumber, hserial⟩
    exact ⟨_, ⟨hnonneg, hle, rfl⟩, d, ⟨hmonth, hvalid, hnumber⟩, not_lt.mpr hserial, rfl⟩

/-! ## Parts that are held in words -/

/-- Only parts that are small by far make a date. -/
theorem natAbs_lt_of_dateOfParts? (h : dateOfParts? year month day = some d) :
    year.natAbs < 2 ^ 53 ∧ month.natAbs < 2 ^ 53 ∧ day.natAbs < 2 ^ 53 := by
  obtain ⟨⟨hnonneg, hle⟩, hmonth, hvalid, hnumber, hserial⟩ := dateOfParts?_eq_some_iff.mp h
  have himplied : 0 ≤ impliedYear year ∧ impliedYear year ≤ 9999 := by
    unfold impliedYear
    split <;> omega
  have hfirst : (firstOfMonth (impliedYear year) month).Bounded :=
    ⟨hmonth, by unfold firstOfMonth; dsimp only; omega, Nat.one_le_ofNat⟩
  have hfirst_lt := hfirst.natAbs_serial_lt
  have hday_lt := (Date.bounded_of_isValid hvalid).natAbs_serial_lt
  have hyears := Date.inCalendar_iff.mp hmonth
  rw [Date.serial_eq] at hfirst_lt hday_lt
  unfold rolledDayNumber at hnumber
  refine ⟨by omega, ?_, ?_⟩
  · unfold firstOfMonth at hyears
    dsimp only at hyears
    omega
  · split_ifs at hfirst_lt hday_lt <;> omega

/-- Holding the parts in words makes no difference: beyond the words there is no date. -/
theorem dateOfParts?_heldInWord (year month day : Int) :
    dateOfParts? (heldInWord year) (heldInWord month) (heldInWord day) =
      dateOfParts? year month day := by
  have hheld : ∀ n : Int, (heldInWord n).natAbs < 2 ^ 53 → heldInWord n = n := by
    intro n
    unfold heldInWord
    omega
  refine Option.ext fun d => ⟨fun h => ?_, fun h => ?_⟩
  · obtain ⟨hyear, hmonth, hday⟩ := natAbs_lt_of_dateOfParts? h
    rwa [hheld _ hyear, hheld _ hmonth, hheld _ hday] at h
  · obtain ⟨hyear, hmonth, hday⟩ := natAbs_lt_of_dateOfParts? h
    rwa [Number.heldInWord_of_natAbs_lt hyear, Number.heldInWord_of_natAbs_lt hmonth,
      Number.heldInWord_of_natAbs_lt hday]

/-- The arguments are exactly the given year, month and day. -/
structure ExactParts (args : List Value) (year month day : Int) : Prop where
  /-- The year. -/
  year : IsExactly (numberAt args 0 0.0) year
  /-- The month. -/
  month : IsExactly (numberAt args 1 1.0) month
  /-- The day of the month. -/
  day : IsExactly (numberAt args 2 1.0) day

private theorem exactParts_ofInt (year month day : Int) (hyear : year.natAbs < 2 ^ 53)
    (hmonth : month.natAbs < 2 ^ 53) (hday : day.natAbs < 2 ^ 53) :
    ExactParts [.number (Float.ofInt year), .number (Float.ofInt month), .number (Float.ofInt day)]
      year month day :=
  ⟨Number.isExactly_ofInt hyear, Number.isExactly_ofInt hmonth, Number.isExactly_ofInt hday⟩

/-- The argument for the year as a whole number. -/
def yearAt (args : List Value) : Int :=
  Number.toInt64 (Number.truncate (numberAt args 0 0.0))

private theorem makeDate_eq (args : List Value) :
    makeDate args =
      orOutOfRange ((dateOfParts? (yearAt args) (wholeAt args 1) (wholeAt args 2)).map
        Date.serial) := by
  unfold makeDate dateOfParts? yearAt
  congr 1
  simp only [Option.bind_eq_bind, Option.map_bind, Function.comp_def, apply_ite, Option.map_none,
    Option.map_some]

private theorem ExactParts.makeDate_eq (h : ExactParts args year month day) :
    makeDate args = orOutOfRange ((dateOfParts? year month day).map Date.serial) := by
  have hparts : yearAt args = heldInWord year ∧ wholeAt args 1 = heldInWord month ∧
      wholeAt args 2 = heldInWord day := by
    unfold yearAt wholeAt
    rw [Number.toInt64_truncate, Number.toInt64_truncate, Number.toInt64_truncate,
      h.year.toInt64_eq, h.month.toInt64_eq, h.day.toInt64_eq]
    exact ⟨rfl, rfl, rfl⟩
  rw [Function.makeDate_eq, hparts.1, hparts.2.1, hparts.2.2, dateOfParts?_heldInWord]

private theorem ExactParts.makeDate_eq_number (h : ExactParts args year month day)
    (hdate : dateOfParts? year month day = some d) :
    makeDate args = .number (Float.ofInt d.serial) := by
  rw [h.makeDate_eq, hdate]
  rfl

/-- A number comes from the part of a date that there is. -/
theorem orOutOfRange_map_eq_number_iff {d? : Option Date} {part : Date → Int} :
    orOutOfRange (d?.map part) = .number x ↔ ∃ d, d? = some d ∧ Float.ofInt (part d) = x := by
  cases d? <;> simp [orOutOfRange]

/-! ## Parts of dates that are made -/

/-- A number means the day that it is the serial number of. -/
theorem datePart_number {part : Date → Int} :
    datePart part [.number x] = orOutOfRange ((Date.ofSerial? x).map part) :=
  rfl

/-- An existing day is the one that its parts mean. -/
theorem dateOfParts?_of_isValid (h : d.isValid = true) (hfirst : 1900 ≤ d.year)
    (hlast : d.year ≤ 9999) : dateOfParts? d.year d.month d.day = some d := by
  obtain ⟨hyear, hproper⟩ := Date.isValid_iff.mp h
  have hmonths : (Date.monthLengths d.year).length = 12 := rfl
  have hpos := hproper.month_pos
  have hlt := hproper.month_lt
  have hmonth : firstOfMonth d.year d.month = ⟨d.year, d.month, 1⟩ := by
    unfold firstOfMonth
    congr 1 <;> omega
  have himplied : impliedYear d.year = d.year := if_neg (by omega)
  rw [dateOfParts?_eq_some_iff, himplied, rolledDayNumber, hmonth]
  refine ⟨⟨by omega, hlast⟩, hyear, h, ?_, (hproper.serial_pos_iff.mpr hfirst).le⟩
  unfold Date.dayNumber
  dsimp only
  omega

/-- Twelve months are a year. -/
theorem dateOfParts?_add_months {k : Int} (hfirst : 1900 ≤ year) (hlast : year ≤ 9999)
    (hfirst' : 1900 ≤ year + k) (hlast' : year + k ≤ 9999) :
    dateOfParts? year (month + 12 * k) day = dateOfParts? (year + k) month day := by
  have hyear : yearOf? year = some year :=
    yearOf?_eq_some_iff.mpr ⟨by omega, hlast, if_neg (by omega)⟩
  have hyear' : yearOf? (year + k) = some (year + k) :=
    yearOf?_eq_some_iff.mpr ⟨by omega, hlast', if_neg (by omega)⟩
  have hmonths : 12 * year + (month + 12 * k - 1) = 12 * (year + k) + (month - 1) := by ring
  unfold dateOfParts?
  rw [hyear, hyear', Option.bind_eq_bind, Option.bind_eq_bind, Option.bind_some, Option.bind_some,
    rolledDate?, rolledDate?, hmonths]

/-- Days that are made of one month are as far from each other as their numbers in the month. -/
theorem dayNumber_of_dateOfParts? {k : Int} {e : Date} (hd : dateOfParts? year month day = some d)
    (he : dateOfParts? year month (day + k) = some e) : e.dayNumber = d.dayNumber + k := by
  obtain ⟨-, -, -, hnumber, -⟩ := dateOfParts?_eq_some_iff.mp hd
  obtain ⟨-, -, -, hnumber', -⟩ := dateOfParts?_eq_some_iff.mp he
  rw [hnumber, hnumber', rolledDayNumber, rolledDayNumber]
  ring

/-- The parts of a date that is made of an existing day are those of the day. -/
theorem datePart_makeDate (part : Date → Int) (h : d.isValid = true) (hfirst : 1900 ≤ d.year)
    (hlast : d.year ≤ 9999) (hargs : ExactParts args d.year d.month d.day) :
    datePart part [makeDate args] = .number (Float.ofInt (part d)) := by
  have hpos := (Date.isValid_iff.mp h).2.serial_pos_iff.mpr hfirst
  rw [hargs.makeDate_eq_number (dateOfParts?_of_isValid h hfirst hlast), datePart_number,
    Date.ofSerial?_serial h hpos]
  rfl

/-- On either side of the day that never was, the numbers that are made count the days. -/
theorem makeDate_add_days {k : Int} {args' : List Value} {x' : Float}
    (hargs : ExactParts args year month day) (hargs' : ExactParts args' year month (day + k))
    (hx : makeDate args = .number x) (hx' : makeDate args' = .number x')
    (hside : x ≤ 59.0 ∧ x' ≤ 59.0 ∨ 61.0 ≤ x ∧ 61.0 ≤ x') :
    ∃ n, IsExactly x n ∧ IsExactly x' (n + k) := by
  rw [hargs.makeDate_eq, orOutOfRange_map_eq_number_iff] at hx
  rw [hargs'.makeDate_eq, orOutOfRange_map_eq_number_iff] at hx'
  obtain ⟨d, hd, rfl⟩ := hx
  obtain ⟨e, he, rfl⟩ := hx'
  obtain ⟨-, -, hvalid, -, hnonneg⟩ := dateOfParts?_eq_some_iff.mp hd
  obtain ⟨-, -, hvalid', -, hnonneg'⟩ := dateOfParts?_eq_some_iff.mp he
  obtain ⟨hle, hge⟩ := Date.side_of_ofInt_serial hvalid hnonneg
  obtain ⟨hle', hge'⟩ := Date.side_of_ofInt_serial hvalid' hnonneg'
  have hserial : e.serial = d.serial + k :=
    Date.serial_eq_add (dayNumber_of_dateOfParts? hd he)
      (hside.imp (.imp hle hle') (.imp hge hge'))
  exact ⟨d.serial, Date.isExactly_serial hvalid, hserial ▸ Date.isExactly_serial hvalid'⟩

/-- Making a date rolls over like a calendar: an existing day is made of its parts, twelve months
are a year, and days are counted on, but for the day that never was. -/
theorem makeDate_rolls :
    (∀ (d : Date) (args : List Value), d.isValid = true → 1900 ≤ d.year → d.year ≤ 9999 →
      ExactParts args d.year d.month d.day →
      Function.year [makeDate args] = .number (Float.ofInt d.year) ∧
        Function.month [makeDate args] = .number (Float.ofInt d.month) ∧
        Function.day [makeDate args] = .number (Float.ofInt d.day)) ∧
    (∀ (year month day k : Int) (args args' : List Value), 1900 ≤ year → year ≤ 9999 →
      1900 ≤ year + k → year + k ≤ 9999 → ExactParts args year (month + 12 * k) day →
      ExactParts args' (year + k) month day → makeDate args = makeDate args') ∧
    ∀ (year month day k : Int) (args args' : List Value) (x x' : Float),
      ExactParts args year month day → ExactParts args' year month (day + k) →
      makeDate args = .number x → makeDate args' = .number x' →
      (x ≤ 59.0 ∧ x' ≤ 59.0 ∨ 61.0 ≤ x ∧ 61.0 ≤ x') →
      ∃ n, IsExactly x n ∧ IsExactly x' (n + k) := by
  refine ⟨?parts, ?months, fun _ _ _ _ _ _ _ _ => makeDate_add_days⟩
  case parts =>
    intro d args h hfirst hlast hargs
    exact ⟨datePart_makeDate _ h hfirst hlast hargs, datePart_makeDate _ h hfirst hlast hargs,
      datePart_makeDate _ h hfirst hlast hargs⟩
  case months =>
    intro year month day k args args' hfirst hlast hfirst' hlast' hargs hargs'
    rw [hargs.makeDate_eq, hargs'.makeDate_eq,
      dateOfParts?_add_months hfirst hlast hfirst' hlast']

/-- The parts of a leap day, and months and days that roll over. -/
theorem makeDate_rolls_leapDay :
    Function.month [makeDate [.number 2024.0, .number 2.0, .number 29.0]] = .number 2.0 ∧
      makeDate [.number 2023.0, .number 13.0, .number 15.0] =
        makeDate [.number 2024.0, .number 1.0, .number 15.0] ∧
      ∃ n, IsExactly (Float.ofInt 31) n ∧ IsExactly (Float.ofInt 59) (n + 28) := by
  obtain ⟨hparts, hmonths, hdays⟩ := makeDate_rolls
  refine ⟨?_, ?_, ?_⟩
  · have hargs := exactParts_ofInt 2024 2 29 (by decide) (by decide) (by decide)
    exact (hparts ⟨2024, 2, 29⟩ _ (by decide) (by decide) (by decide) hargs).2.1
  · have hargs := exactParts_ofInt 2023 13 15 (by decide) (by decide) (by decide)
    have hargs' := exactParts_ofInt 2024 1 15 (by decide) (by decide) (by decide)
    exact hmonths 2023 1 15 1 _ _ (by decide) (by decide) (by decide) (by decide) hargs hargs'
  · have hargs := exactParts_ofInt 1900 2 0 (by decide) (by decide) (by decide)
    have hargs' := exactParts_ofInt 1900 2 28 (by decide) (by decide) (by decide)
    have hdate : dateOfParts? 1900 2 0 = some ⟨1900, 1, 31⟩ := by decide
    have hdate' : dateOfParts? 1900 2 28 = some ⟨1900, 2, 28⟩ := by decide
    exact hdays 1900 2 0 28 _ _ _ _ hargs hargs' (hargs.makeDate_eq_number hdate)
      (hargs'.makeDate_eq_number hdate') (.inl (by decide))

/-! ## The calendar of dates that are made -/

/-- The number of the day that the arguments mean, whether or not the calendar reaches it. -/
def meantDayNumber (args : List Value) : Int :=
  rolledDayNumber (impliedYear (yearAt args)) (wholeAt args 1) (wholeAt args 2)

/-- The last day of the years that dates are made for. -/
def lastDay : Date := ⟨9999, 12, 31⟩

/-- The day with the serial number zero. -/
def zeroDay : Date := ⟨1899, 12, 31⟩

/-- The date that the arguments make lies in the years from 1900 to 9999, and beyond them there is
none. -/
structure InsideCalendar (args : List Value) : Prop where
  /-- A number that is made is that of a day in these years. -/
  year_made : ∀ x, makeDate args = .number x →
    ∃ y : Int, 1900 ≤ y ∧ y ≤ 9999 ∧ Function.year [.number x] = .number (Float.ofInt y)
  /-- No date is made past the last day. -/
  beyond : lastDay.dayNumber < meantDayNumber args → makeDate args = .error .invalidNumber
  /-- No date is made before the day with the serial number zero. -/
  before : meantDayNumber args < zeroDay.dayNumber → makeDate args = .error .invalidNumber

/-- Month and day carry the date of an accepted year past the last day, to another day that the
Gregorian calendar still reaches. -/
structure Overruns (args : List Value) : Prop where
  /-- The year is accepted. -/
  year : 0 ≤ yearAt args ∧ yearAt args ≤ 9999
  /-- The calendar reaches the month. -/
  month : Date.inCalendar (firstOfMonth (impliedYear (yearAt args)) (wholeAt args 1)).year = true
  /-- The day lies past the last day. -/
  beyond : lastDay.dayNumber < meantDayNumber args
  /-- The calendar reaches the day. -/
  day_le : meantDayNumber args ≤ Date.daysBeforeYear (Date.lastYear + 1)

/-- The days of the years up to 9999. -/
theorem year_le_iff_dayNumber_le_lastDay (h : d.isValid = true) :
    d.year ≤ 9999 ↔ d.dayNumber ≤ lastDay.dayNumber := by
  have hlast : Date.daysBeforeYear (9999 + 1) = lastDay.dayNumber := rfl
  rw [(Date.isValid_iff.mp h).2.year_le_iff, hlast]

/-- Serial numbers are not negative from the day with the number zero on. -/
theorem serial_nonneg_iff : 0 ≤ d.serial ↔ zeroDay.dayNumber ≤ d.dayNumber := by
  have hzero : zeroDay.dayNumber = 693595 := rfl
  rw [hzero, Date.serial_eq]
  split <;> omega

/-- The year of a serial number that is not negative is the year of the day, and 1900 for zero. -/
theorem year_ofInt_serial (h : d.isValid = true) (hnonneg : 0 ≤ d.serial) (hle : d.year ≤ 9999) :
    ∃ y : Int, 1900 ≤ y ∧ y ≤ 9999 ∧
      Function.year [.number (Float.ofInt d.serial)] = .number (Float.ofInt y) := by
  rcases hnonneg.eq_or_lt with hzero | hpos
  · have hday : Date.ofSerial? (Float.ofInt 0) = some Date.dayZero := by decide +kernel
    refine ⟨1900, by decide, by decide, ?_⟩
    rw [Function.year, datePart_number, ← hzero, hday]
    rfl
  · refine ⟨d.year, (Date.isValid_iff.mp h).2.serial_pos_iff.mp hpos, hle, ?_⟩
    rw [Function.year, datePart_number, Date.ofSerial?_serial h hpos]
    rfl

/-- Arguments that overrun the calendar make a date all the same. -/
theorem Overruns.exists_makeDate_eq (h : Overruns args) : ∃ x, makeDate args = .number x := by
  have hfirst : Date.daysBeforeYear Date.firstYear < lastDay.dayNumber := by decide
  have hzero : zeroDay.dayNumber < lastDay.dayNumber := by decide
  obtain ⟨d, hvalid, hnumber⟩ :=
    Date.exists_dayNumber_eq_iff.mpr ⟨hfirst.trans h.beyond, h.day_le⟩
  have hnonneg : 0 ≤ d.serial := by
    rw [serial_nonneg_iff, hnumber]
    exact (hzero.trans h.beyond).le
  have hdate : dateOfParts? (yearAt args) (wholeAt args 1) (wholeAt args 2) = some d :=
    dateOfParts?_eq_some_iff.mpr ⟨h.year, h.month, hvalid, hnumber, hnonneg⟩
  rw [makeDate_eq, hdate]
  exact ⟨_, rfl⟩

/-- The calendar is kept unless month and day overrun it: the year is bounded before they are
carried into it. -/
theorem insideCalendar_iff_not_overruns : InsideCalendar args ↔ ¬Overruns args := by
  constructor
  · intro hinside hover
    obtain ⟨x, hx⟩ := hover.exists_makeDate_eq
    rw [hinside.beyond hover.beyond] at hx
    cases hx
  · intro hover
    cases hdate : dateOfParts? (yearAt args) (wholeAt args 1) (wholeAt args 2) with
    | none =>
      have herror : makeDate args = .error .invalidNumber := by
        rw [makeDate_eq, hdate]
        rfl
      refine ⟨fun x hx => ?_, fun _ => herror, fun _ => herror⟩
      rw [herror] at hx
      cases hx
    | some d =>
      obtain ⟨hyear, hmonth, hvalid, hnumber, hnonneg⟩ := dateOfParts?_eq_some_iff.mp hdate
      have hreached := Date.exists_dayNumber_eq_iff.mp ⟨d, hvalid, hnumber⟩
      have hle : meantDayNumber args ≤ lastDay.dayNumber := by
        by_contra hbeyond
        exact hover ⟨hyear, hmonth, not_le.mp hbeyond, hreached.2⟩
      have hge : zeroDay.dayNumber ≤ meantDayNumber args :=
        (serial_nonneg_iff.mp hnonneg).trans_eq hnumber
      refine ⟨fun x hx => ?_, fun h => absurd hle (not_le.mpr h),
        fun h => absurd hge (not_le.mpr h)⟩
      rw [makeDate_eq, hdate] at hx
      cases hx
      exact year_ofInt_serial hvalid hnonneg
        ((year_le_iff_dayNumber_le_lastDay hvalid).mpr (hnumber.trans_le hle))

/-- The thirteenth month of the year 9999 is made into a date of the year 10000. -/
theorem not_insideCalendar_thirteenthMonth :
    ¬InsideCalendar [.number 9999.0, .number 13.0, .number 1.0] := by
  intro h
  have herror := h.beyond (by decide)
  have hparts := exactParts_ofInt 9999 13 1 (by decide) (by decide) (by decide)
  have hdate : dateOfParts? 9999 13 1 = some ⟨10000, 1, 1⟩ := by decide
  cases herror.symm.trans (hparts.makeDate_eq_number hdate)

end Spreadsheet.Function
