import Spreadsheet.Proofs.Function.Weekday
import Spreadsheet.Proofs.Number.Fraction

/-!
# Moments of serial numbers

The day and the time that are taken from a serial number describe the moment that it stands for, up
to a second. In the last half second of a day they do not: the time is rounded to midnight, but the
day stays.
-/

namespace Spreadsheet.Function

open Number (floor toRat IsFractional)

variable {x : Float} {hour minute second : Nat} {t f : ℚ}

/-- The hour, the minute and the second of the serial number. -/
structure HasTime (x : Float) (hour minute second : Nat) : Prop where
  /-- A day has 24 hours. -/
  hour_lt : hour < 24
  /-- An hour has sixty minutes. -/
  minute_lt : minute < 60
  /-- A minute has sixty seconds. -/
  second_lt : second < 60
  /-- The hour. -/
  hour_eq : Function.hour [.number x] = .number (Float.ofInt hour)
  /-- The minute. -/
  minute_eq : Function.minute [.number x] = .number (Float.ofInt minute)
  /-- The second. -/
  second_eq : Function.second [.number x] = .number (Float.ofInt second)

/-- The moment of a time on a day, in days. -/
def momentOf (day : Int) (hour minute second : Nat) : ℚ :=
  day + ((3600 * hour + 60 * minute + second : Nat) : ℚ) / 86400

/-- The parts that are taken from the serial number describe the moment that it stands for, up to a
second. -/
structure DescribesMoment (x : Float) : Prop where
  /-- The year, the month and the day are those of the whole part. -/
  date : ∃ d, Date.ofWholeSerial? ⌊toRat x⌋ = some d ∧ GivesDate (.number x) d
  /-- The time on this day differs from the moment by a second at most. -/
  time : ∃ hour minute second, HasTime x hour minute second ∧
    |momentOf ⌊toRat x⌋ hour minute second - toRat x| ≤ 1 / 86400

/-- The serial number lies in the last half second of its day, by the seconds that are computed for
it. -/
def InLastHalfSecond (x : Float) : Prop :=
  86399.5 ≤ (x - floor x) * Date.secondsPerDay.toFloat

/-! ## Serial numbers -/

private theorem isSerial_of_isFractional (h : IsFractional x) : Date.isSerial x = true := by
  cases h with
  | zero => decide +kernel
  | negativeZero => decide +kernel
  | positive h _ =>
    have hfinite : x.isFinite = true := (Number.isFinite_iff x).mpr ⟨_, h.form_eq⟩
    have hsign : ¬x < 0.0 := by
      rw [Number.lt_iff_lt_unpack, h.unpack_eq, Number.unpack_zero]
      exact Bool.false_ne_true
    rw [Date.isSerial, hfinite, decide_eq_false hsign]
    rfl

/-- A double that is not negative gives the date of the integer below it. -/
theorem givesDate_of_isFractional (h : IsFractional x) (hlt : toRat x < 2958466) :
    ∃ d, Date.ofWholeSerial? ⌊toRat x⌋ = some d ∧ GivesDate (.number x) d := by
  have hday : 0 ≤ ⌊toRat x⌋ ∧ ⌊toRat x⌋ < 2958466 :=
    ⟨Int.floor_nonneg.mpr h.toRat_nonneg, Int.floor_lt.mpr (by exact_mod_cast hlt)⟩
  have hbound : Date.serialOrigin + 2958466 ≤ Date.daysBeforeYear (Date.lastYear + 1) := by decide
  obtain ⟨d, hd⟩ := Date.exists_ofWholeSerial?_eq hday.1 (by omega)
  have hserial : Date.ofSerial? x = some d := by
    rw [Date.ofSerial?, if_pos (isSerial_of_isFractional h), h.toInt64_floor, hd]
  exact ⟨d, hd, givesDate_of_dateOf?_eq hserial⟩

/-! ## Times -/

/-- Hours, minutes and seconds count the seconds of the day. -/
theorem hasTime_iff {k : Nat} (h : Date.secondOfDay? x = some k) (hk : k < 86400) :
    HasTime x hour minute second ↔ hour < 24 ∧ minute < 60 ∧ second < 60 ∧
      3600 * hour + 60 * minute + second = k := by
  have hpart : ∀ part : Nat → Nat, timePart part [.number x] =
      .number (Float.ofInt (part k : Nat)) := by
    intro part
    have hfirst : numberAt [.number x] 0 0.0 = x := rfl
    rw [timePart, hfirst, h]
    rfl
  have hhour := hpart fun seconds => seconds / 3600
  have hminute := hpart fun seconds => seconds % 3600 / 60
  have hsecond := hpart fun seconds => seconds % 60
  constructor
  · intro htime
    have hour_lt := htime.hour_lt
    have minute_lt := htime.minute_lt
    have second_lt := htime.second_lt
    have hour_eq := Number.ofInt_injective (by omega) (by omega)
      (Value.number.inj (hhour.symm.trans htime.hour_eq))
    have minute_eq := Number.ofInt_injective (by omega) (by omega)
      (Value.number.inj (hminute.symm.trans htime.minute_eq))
    have second_eq := Number.ofInt_injective (by omega) (by omega)
      (Value.number.inj (hsecond.symm.trans htime.second_eq))
    omega
  · rintro ⟨hour_lt, minute_lt, second_lt, rfl⟩
    refine ⟨hour_lt, minute_lt, second_lt, hhour.trans ?_, hminute.trans ?_, hsecond.trans ?_⟩
    · congr 2
      omega
    · congr 2
      omega
    · congr 2
      omega

/-- A moment on the day of a number is a second away from it if the seconds are one away from those
of the fraction. -/
theorem abs_momentOf_sub_le_iff (q : ℚ) :
    |momentOf ⌊q⌋ hour minute second - q| ≤ 1 / 86400 ↔
      |((3600 * hour + 60 * minute + second : Nat) : ℚ) - Int.fract q * 86400| ≤ 1 := by
  unfold momentOf
  generalize 3600 * hour + 60 * minute + second = k
  have hdays : ⌊q⌋ + (k : ℚ) / 86400 - q = (k - Int.fract q * 86400) / 86400 := by
    rw [← Int.self_sub_floor]
    ring
  rw [hdays, abs_div, abs_of_pos (by norm_num : (0 : ℚ) < 86400),
    div_le_div_iff_of_pos_right (by norm_num)]

/-- The time that is taken from a serial number is within a second if its seconds are. -/
theorem exists_hasTime_iff {k : Nat} (h : Date.secondOfDay? x = some k) (hk : k < 86400) :
    (∃ hour minute second, HasTime x hour minute second ∧
        |momentOf ⌊toRat x⌋ hour minute second - toRat x| ≤ 1 / 86400) ↔
      |(k : ℚ) - Int.fract (toRat x) * 86400| ≤ 1 := by
  constructor
  · rintro ⟨hour, minute, second, htime, hnear⟩
    rwa [abs_momentOf_sub_le_iff, ((hasTime_iff h hk).mp htime).2.2.2] at hnear
  · intro hnear
    have hcount : 3600 * (k / 3600) + 60 * (k % 3600 / 60) + k % 60 = k := by omega
    refine ⟨k / 3600, k % 3600 / 60, k % 60, ?_, ?_⟩
    · exact (hasTime_iff h hk).mpr ⟨by omega, by omega, by omega, hcount⟩
    · rwa [abs_momentOf_sub_le_iff, hcount]

/-- Seconds that are rounded are within one of the exact ones, unless they are rounded to a whole
day and start again. -/
theorem abs_mod_sub_le_iff (hnear : |t - f * 86400| ≤ 1 / 2) (hnonneg : 0 ≤ t) (hf : f < 1) :
    |((⌊t + 1 / 2⌋₊ % 86400 : Nat) : ℚ) - f * 86400| ≤ 1 ↔ t < 86399.5 := by
  have hle : (⌊t + 1 / 2⌋₊ : ℚ) ≤ t + 1 / 2 := Nat.floor_le (by linarith)
  have hlt := Nat.lt_floor_add_one (t + 1 / 2)
  obtain ⟨hbelow, habove⟩ := abs_le.mp hnear
  generalize ⌊t + 1 / 2⌋₊ = k at hle hlt ⊢
  by_cases hlate : t < 86399.5
  · have hk : k < 86400 := by
      have : (k : ℚ) < 86400 := by linarith
      exact_mod_cast this
    rw [Nat.mod_eq_of_lt hk, abs_le]
    exact iff_of_true ⟨by linarith, by linarith⟩ hlate
  · have hk : k = 86400 := by
      have hgreater : (86399 : ℚ) < k := by linarith
      have hless : (k : ℚ) < 86401 := by linarith
      have hgreater : 86399 < k := by exact_mod_cast hgreater
      have hless : k < 86401 := by exact_mod_cast hless
      omega
    rw [hk, Nat.mod_self, Nat.cast_zero, abs_le]
    exact iff_of_false (fun hwithin => by linarith [hwithin.1]) hlate

/-! ## Moments -/

private theorem standsFor_limit : Number.StandsFor 2958466.0 (Number.wholeBinary 2958466) :=
  ⟨by decide +kernel, rfl, by decide +kernel⟩

private theorem standsFor_lastHalfSecond : Number.StandsFor 86399.5 ⟨false, 172799 * 2 ^ 35, -36⟩ :=
  ⟨by decide +kernel, rfl, by norm_num⟩

private theorem value_lastHalfSecond :
    Number.Binary.value ⟨false, 172799 * 2 ^ 35, -36⟩ = 86399.5 := by
  rw [Number.Binary.value]
  norm_num

/-- The parts that are taken from a serial number up to the end of the year 9999 describe its
moment, unless it lies in the last half second of a day: then the time is that of the midnight
behind it, and the day is the one before. -/
theorem describesMoment_iff_not_inLastHalfSecond (hnonneg : 0.0 ≤ x) (hlt : x < 2958466.0) :
    DescribesMoment x ↔ ¬InLastHalfSecond x := by
  have hlimit : (Number.wholeBinary 2958466).value ≤ 2 ^ 52 := by
    rw [Number.wholeBinary_value]
    norm_num
  obtain ⟨hx, hx_lt⟩ := Number.isFractional_of_lt standsFor_limit hlimit hnonneg hlt
  rw [Number.wholeBinary_value] at hx_lt
  obtain ⟨hseconds, hnear⟩ := hx.mul_fraction (n := Date.secondsPerDay) (by decide) (by decide)
  have hcount : Date.secondOfDay? x = some
      (⌊toRat ((x - floor x) * Date.secondsPerDay.toFloat) + 1 / 2⌋₊ % 86400) := by
    rw [Date.secondOfDay?, if_pos (isSerial_of_isFractional hx), ← hseconds.toCount_roundHalfAway]
    rfl
  have hwithin := hnear.trans (by norm_num : (2 : ℚ) ^ (-34 : Int) ≤ 1 / 2)
  have htime := exists_hasTime_iff hcount (Nat.mod_lt _ (by decide))
  rw [abs_mod_sub_le_iff hwithin hseconds.toRat_nonneg (Int.fract_lt_one _)] at htime
  rw [InLastHalfSecond, hseconds.le_iff standsFor_lastHalfSecond, value_lastHalfSecond, not_le,
    ← htime]
  exact ⟨fun h => h.time, fun h => ⟨givesDate_of_isFractional hx hx_lt, h⟩⟩

/-- A moment in the evening is described by its parts. -/
theorem describesMoment_evening :
    (0.0 : Float) ≤ 45306.75 ∧ (45306.75 : Float) < 2958466.0 ∧ ¬InLastHalfSecond 45306.75 ∧
      DescribesMoment 45306.75 := by
  have hnonneg : (0.0 : Float) ≤ 45306.75 := by decide +kernel
  have hlt : (45306.75 : Float) < 2958466.0 := by decide +kernel
  have hearly : ¬InLastHalfSecond 45306.75 := by
    unfold InLastHalfSecond
    decide +kernel
  exact ⟨hnonneg, hlt, hearly, (describesMoment_iff_not_inLastHalfSecond hnonneg hlt).mpr hearly⟩

/-- Less than a tenth of a second before midnight, the time is that of a midnight a day earlier. -/
theorem not_describesMoment_midnight :
    (0.0 : Float) ≤ 45306.999999 ∧ (45306.999999 : Float) < 2958466.0 ∧
      GivesDate (.number 45306.999999) ⟨2024, 1, 15⟩ ∧ HasTime 45306.999999 0 0 0 ∧
      ¬DescribesMoment 45306.999999 := by
  have hcount : Date.secondOfDay? 45306.999999 = some 0 := by decide +kernel
  have hday : dateOf? [.number 45306.999999] = some ⟨2024, 1, 15⟩ := by decide +kernel
  have hx : Number.StandsFor 45306.999999 ⟨false, 6226946664818465, -37⟩ :=
    ⟨by decide +kernel, rfl, by norm_num⟩
  have hfract : Int.fract (toRat 45306.999999) * 86400 > 1 := by
    rw [hx.toRat_eq, Number.Binary.value]
    norm_num
  refine ⟨by decide +kernel, by decide +kernel, givesDate_of_dateOf?_eq hday,
    (hasTime_iff hcount (by decide)).mpr (by decide), fun h => ?_⟩
  have hwithin := (exists_hasTime_iff hcount (by decide)).mp h.time
  rw [Nat.cast_zero, abs_le] at hwithin
  linarith [hwithin.1]

end Spreadsheet.Function
