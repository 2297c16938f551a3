import Mathlib.Algebra.Ring.Nat
import Spreadsheet.Proofs.Date.Bounds

/-!
# Days and their numbers

The number of a day counts the days of the calendar one by one: every integer is the number of
exactly one day, and a later day has a greater number. The parts of a year are counted by the
lengths of its months, and the years by the first days of their neighbours.
-/

namespace Spreadsheet.Date

variable {d e : Date} {year year' n : Int} {lengths : List Nat} {i j month day : Nat}

/-- The day exists in its year, whether or not the calendar reaches the year. -/
structure Proper (d : Date) : Prop where
  /-- Months are counted from one. -/
  month_pos : 0 < d.month
  /-- The year has the month. -/
  month_lt : d.month - 1 < (monthLengths d.year).length
  /-- Days are counted from one. -/
  day_pos : 0 < d.day
  /-- The month has the day. -/
  day_le : d.day ≤ (monthLengths d.year)[d.month - 1]

/-- A date is valid if its year is in the calendar and its month and day exist in that year. -/
theorem isValid_iff : d.isValid = true ↔ inCalendar d.year = true ∧ d.Proper := by
  simp only [isValid, Bool.and_eq_true, bne_iff_ne, Option.any_eq_true, decide_eq_true_eq]
  constructor
  · rintro ⟨⟨⟨hyear, hmonth⟩, hday⟩, length, hlength, hle⟩
    obtain ⟨hlt, rfl⟩ := List.getElem?_eq_some_iff.mp hlength
    exact ⟨hyear, Nat.pos_of_ne_zero hmonth, hlt, Nat.pos_of_ne_zero hday, hle⟩
  · rintro ⟨hyear, hmonth, hlt, hday, hle⟩
    exact ⟨⟨⟨hyear, Nat.ne_of_gt hmonth⟩, Nat.ne_of_gt hday⟩, _, List.getElem?_eq_getElem hlt, hle⟩

/-! ## Months of a year -/

/-- The months of a year have as many days as the year. -/
theorem sum_monthLengths (year : Int) :
    (monthLengths year).sum = if isLeap year then 366 else 365 := by
  unfold monthLengths
  split <;> rfl

private theorem daysBeforeMonth_eq (year : Int) (month : Nat) :
    daysBeforeMonth year month = ((monthLengths year).take (month - 1)).sum := by
  rw [daysBeforeMonth, List.sum_eq_foldl]

/-- A month ends before a later one starts. -/
theorem sum_take_add_le (hi : i < lengths.length) (hij : i < j) :
    (lengths.take i).sum + lengths[i] ≤ (lengths.take j).sum := by
  have htake : lengths.take (i + 1) = (lengths.take j).take (i + 1) := by
    rw [List.take_take, Nat.min_eq_left hij]
  rw [← List.sum_take_succ lengths i hi, htake]
  exact (List.take_sublist _ _).sum_le_sum fun _ _ => Nat.zero_le _

/-- The month and the day of the month of a day of the year. -/
theorem monthAndDay_spec (month : Nat) (h : day < lengths.sum) :
    ∃ (i : Nat) (hi : i < lengths.length), (monthAndDay month lengths day).1 = month + i ∧
      0 < (monthAndDay month lengths day).2 ∧ (monthAndDay month lengths day).2 ≤ lengths[i] ∧
      (lengths.take i).sum + (monthAndDay month lengths day).2 = day + 1 := by
  induction lengths generalizing month day with
  | nil => exact absurd h (Nat.not_lt_zero day)
  | cons length lengths ih =>
    rw [List.sum_cons] at h
    by_cases hday : day < length
    · rw [monthAndDay, if_pos hday]
      exact ⟨0, Nat.succ_pos _, rfl, Nat.succ_pos day, hday, Nat.zero_add _⟩
    · obtain ⟨i, hi, hmonth, hpos, hle, hsum⟩ := ih (month + 1) (by omega : day - length < _)
      rw [monthAndDay, if_neg hday]
      refine ⟨i + 1, Nat.succ_lt_succ hi, by omega, hpos, hle, ?_⟩
      rw [List.take_succ_cons, List.sum_cons]
      omega

/-! ## Years -/

/-- The next year starts behind the months of the one before. -/
theorem daysBeforeYear_succ (year : Int) :
    daysBeforeYear (year + 1) = daysBeforeYear year + (monthLengths year).sum := by
  have hleap : isLeap year = true ↔ year % 4 = 0 ∧ (year % 100 ≠ 0 ∨ year % 400 = 0) := by
    simp [isLeap]
  rw [sum_monthLengths]
  unfold daysBeforeYear
  dsimp only
  split_ifs with h
  · have := hleap.mp h
    omega
  · have := mt hleap.mpr h
    omega

/-- A later year has no fewer days before it. -/
theorem daysBeforeYear_le (h : year ≤ year') : daysBeforeYear year ≤ daysBeforeYear year' := by
  obtain ⟨years, rfl⟩ := Int.le.dest h
  clear h
  induction years with
  | zero => exact Int.le_of_eq (congrArg daysBeforeYear (Int.add_zero year).symm)
  | succ years ih =>
    rw [Int.natCast_add_one, ← Int.add_assoc, daysBeforeYear_succ]
    omega

/-- The number of a day lies between those of the last days of two years. -/
theorem Proper.dayNumber_bounds (h : d.Proper) :
    daysBeforeYear d.year < d.dayNumber ∧ d.dayNumber ≤ daysBeforeYear (d.year + 1) := by
  have hmonth := sum_take_add_le h.month_lt h.month_lt
  have hpos := h.day_pos
  have hday := h.day_le
  rw [List.take_length] at hmonth
  rw [daysBeforeYear_succ, dayNumber, daysBeforeMonth_eq]
  omega

/-- A day lies in a year or before it if its number is at most that of the last day of the year. -/
theorem Proper.year_le_iff (h : d.Proper) :
    d.year ≤ year ↔ d.dayNumber ≤ daysBeforeYear (year + 1) := by
  constructor
  · intro hle
    exact h.dayNumber_bounds.2.trans (daysBeforeYear_le (by omega))
  · intro hle
    by_contra hlt
    have hle' : daysBeforeYear (year + 1) ≤ daysBeforeYear d.year := daysBeforeYear_le (by omega)
    exact absurd h.dayNumber_bounds.1 (not_lt.mpr (hle.trans hle'))

/-! ## The order of days -/

/-- The day comes before the other one. -/
def Before (d e : Date) : Prop :=
  d.year < e.year ∨
    d.year = e.year ∧ (d.month < e.month ∨ d.month = e.month ∧ d.day < e.day)

instance (d e : Date) : Decidable (d.Before e) :=
  inferInstanceAs (Decidable (_ ∨ _))

/-- Of two different dates, one comes before the other. -/
theorem before_or_eq_or_before (d e : Date) : d.Before e ∨ d = e ∨ e.Before d := by
  obtain ⟨year, month, day⟩ := d
  obtain ⟨year', month', day'⟩ := e
  simp only [Before, Date.mk.injEq]
  omega

/-- A later day has a greater number. -/
theorem dayNumber_lt_of_before (hd : d.Proper) (he : e.Proper) (h : d.Before e) :
    d.dayNumber < e.dayNumber := by
  rcases h with hyear | ⟨hyear, hmonth | ⟨hmonth, hday⟩⟩
  · calc d.dayNumber ≤ daysBeforeYear (d.year + 1) := hd.dayNumber_bounds.2
      _ ≤ daysBeforeYear e.year := daysBeforeYear_le hyear
      _ < e.dayNumber := he.dayNumber_bounds.1
  · have hpos := hd.month_pos
    have hstart := sum_take_add_le hd.month_lt (by omega : d.month - 1 < e.month - 1)
    have hlast := hd.day_le
    have hfirst := he.day_pos
    rw [dayNumber, dayNumber, daysBeforeMonth_eq, daysBeforeMonth_eq, ← hyear]
    omega
  · rw [dayNumber, dayNumber, ← hyear, ← hmonth]
    omega

/-- Days with one number are one day. -/
theorem eq_of_dayNumber_eq (hd : d.Proper) (he : e.Proper) (h : d.dayNumber = e.dayNumber) :
    d = e := by
  rcases before_or_eq_or_before d e with hlt | heq | hgt
  · exact absurd h (dayNumber_lt_of_before hd he hlt).ne
  · exact heq
  · exact absurd h (dayNumber_lt_of_before he hd hgt).ne'

/-! ## Days by their numbers -/

/-- The day of a year that comes behind so many others. -/
def ofDayOfYear (year : Int) (day : Nat) : Date :=
  ⟨year, (monthAndDay 1 (monthLengths year) day).1, (monthAndDay 1 (monthLengths year) day).2⟩

/-- The days of a year exist and are numbered one after the other. -/
theorem proper_ofDayOfYear (h : day < (monthLengths year).sum) :
    (ofDayOfYear year day).Proper ∧
      (ofDayOfYear year day).dayNumber = daysBeforeYear year + day + 1 := by
  obtain ⟨i, hi, hmonth, hpos, hle, hsum⟩ := monthAndDay_spec 1 h
  rw [ofDayOfYear, hmonth]
  refine ⟨⟨Nat.lt_add_right i Nat.one_pos, ?_, hpos, ?_⟩, ?_⟩
  · rwa [Nat.add_sub_cancel_left]
  · simpa only [Nat.add_sub_cancel_left] using hle
  · rw [dayNumber, daysBeforeMonth_eq]
    dsimp only
    rw [Nat.add_sub_cancel_left]
    omega

section Parts

variable {period : Int} {century four rest : Nat}

/-- The days before a year, by its four centuries, its century, its four years and what is left. -/
theorem daysBeforeYear_of_parts (hcentury : century ≤ 3) (hfour : four ≤ 24) (hrest : rest ≤ 3) :
    daysBeforeYear (400 * period + (100 * century + 4 * four + rest : Nat) + 1) =
      146097 * period + (36524 * century + 1461 * four + 365 * rest : Nat) := by
  unfold daysBeforeYear
  dsimp only
  omega

/-- The last of four years is a leap year, unless it is the last one of a century that is not the
last of four. -/
theorem isLeap_of_parts (hfour : four < 24 ∨ four = 24 ∧ century = 3) :
    isLeap (400 * period + (100 * century + 4 * four + 3 : Nat) + 1) = true := by
  simp only [isLeap, Bool.and_eq_true, Bool.or_eq_true, beq_iff_eq, bne_iff_ne, ne_eq]
  omega

end Parts

/-- A day is found by its year and the days of the year that come before it. -/
theorem exists_ofDayNumberUnbounded_eq (n : Int) :
    ∃ (year : Int) (day : Nat), ofDayNumberUnbounded n = ofDayOfYear year day ∧
      day < (monthLengths year).sum ∧ daysBeforeYear year + day + 1 = n := by
  obtain ⟨period, hperiod⟩ : ∃ period, (n - 1) / 146097 = period := ⟨_, rfl⟩
  obtain ⟨inPeriod, hinPeriod⟩ : ∃ k, ((n - 1) % 146097).toNat = k := ⟨_, rfl⟩
  obtain ⟨century, hcentury⟩ : ∃ k, min (inPeriod / 36524) 3 = k := ⟨_, rfl⟩
  obtain ⟨inCentury, hinCentury⟩ : ∃ k, inPeriod - 36524 * century = k := ⟨_, rfl⟩
  obtain ⟨four, hfour⟩ : ∃ k, inCentury / 1461 = k := ⟨_, rfl⟩
  obtain ⟨inFour, hinFour⟩ : ∃ k, inCentury % 1461 = k := ⟨_, rfl⟩
  obtain ⟨rest, hrest⟩ : ∃ k, min (inFour / 365) 3 = k := ⟨_, rfl⟩
  have heq : ofDayNumberUnbounded n =
      ofDayOfYear (400 * period + (100 * century + 4 * four + rest : Nat) + 1)
        (inFour - 365 * rest) := by
    simp only [ofDayNumberUnbounded, hperiod, hinPeriod, hcentury, hinCentury, hfour, hinFour,
      hrest, ofDayOfYear]
  have hn : n - 1 = 146097 * period + inPeriod ∧ inPeriod < 146097 := by omega
  have hcentury_le : century ≤ 3 ∧ inPeriod = 36524 * century + inCentury ∧
      (inCentury < 36524 ∨ inCentury = 36524 ∧ century = 3) := by omega
  have hfour_le : four ≤ 24 ∧ inCentury = 1461 * four + inFour ∧ inFour < 1461 := by omega
  have hrest_le : rest ≤ 3 ∧ 365 * rest ≤ inFour ∧
      (inFour - 365 * rest < 365 ∨ inFour = 1460 ∧ rest = 3) := by omega
  refine ⟨_, _, heq, ?_, ?_⟩
  · rw [sum_monthLengths]
    rcases hrest_le.2.2 with hday | ⟨hday, rfl⟩
    · split <;> omega
    · rw [isLeap_of_parts (by omega), if_pos rfl]
      omega
  · rw [daysBeforeYear_of_parts hcentury_le.1 hfour_le.1 hrest_le.1]
    omega

/-- Every integer is the number of a day. -/
theorem proper_ofDayNumberUnbounded (n : Int) :
    (ofDayNumberUnbounded n).Proper ∧ (ofDayNumberUnbounded n).dayNumber = n := by
  obtain ⟨year, day, heq, hday, hn⟩ := exists_ofDayNumberUnbounded_eq n
  rw [heq, ← hn]
  exact proper_ofDayOfYear hday

/-- A number belongs to a day of the calendar exactly if the day is found by it. -/
theorem ofDayNumber?_eq_some_iff :
    ofDayNumber? n = some d ↔ d.isValid = true ∧ d.dayNumber = n := by
  rw [isValid_iff, ofDayNumber?]
  constructor
  · intro h
    split_ifs at h with hyear
    cases h
    obtain ⟨hproper, hn⟩ := proper_ofDayNumberUnbounded n
    exact ⟨⟨hyear, hproper⟩, hn⟩
  · rintro ⟨⟨hyear, hproper⟩, rfl⟩
    obtain ⟨hfound, hnumber⟩ := proper_ofDayNumberUnbounded d.dayNumber
    rw [eq_of_dayNumber_eq hfound hproper hnumber, if_pos hyear]

/-- The calendar has a day for every number from its first year to its last one. -/
theorem exists_dayNumber_eq_iff : (∃ d : Date, d.isValid = true ∧ d.dayNumber = n) ↔
    daysBeforeYear firstYear < n ∧ n ≤ daysBeforeYear (lastYear + 1) := by
  have hcalendar : ∀ e : Date, e.Proper → (inCalendar e.year = true ↔
      daysBeforeYear firstYear < e.dayNumber ∧ e.dayNumber ≤ daysBeforeYear (lastYear + 1)) := by
    intro e he
    have hfirst : e.year ≤ firstYear - 1 ↔ e.dayNumber ≤ daysBeforeYear firstYear := by
      rw [he.year_le_iff, Int.sub_add_cancel]
    rw [← he.year_le_iff, ← not_le, ← hfirst, inCalendar, Bool.and_eq_true, decide_eq_true_eq,
      decide_eq_true_eq]
    omega
  constructor
  · rintro ⟨d, hvalid, rfl⟩
    obtain ⟨hyear, hproper⟩ := isValid_iff.mp hvalid
    exact (hcalendar d hproper).mp hyear
  · intro hn
    obtain ⟨hproper, hnumber⟩ := proper_ofDayNumberUnbounded n
    rw [← hnumber] at hn
    exact ⟨_, isValid_iff.mpr ⟨(hcalendar _ hproper).mpr hn, hproper⟩, hnumber⟩

end Spreadsheet.Date
