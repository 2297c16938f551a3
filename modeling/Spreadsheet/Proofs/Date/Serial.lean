import Spreadsheet.Proofs.Date.Counting
import Spreadsheet.Proofs.Number.Integer

/-!
# Days and their serial numbers

From the first of January 1900 on, a day is found by its serial number, and the number of a day that
is found is the one that it was found by, without its fraction. The number of the day that never was
is the only one that belongs to no day.
-/

namespace Spreadsheet.Date

variable {d e : Date} {n : Int} {x : Float}

/-! ## Whole serial numbers -/

/-- The number of the day from which serial numbers are counted. -/
theorem serialOrigin_eq : serialOrigin = 693594 := rfl

/-- The serial number of the day that never was. -/
theorem phantomSerial_eq : phantomSerial = 60 := rfl

/-- The serial number of a date, in numbers of days. -/
theorem serial_eq (d : Date) :
    d.serial = if d.dayNumber - 693594 ≤ 60 then d.dayNumber - 693594 - 1
      else d.dayNumber - 693594 := rfl

/-- No day has the serial number of the day that never was. -/
theorem serial_ne_phantomSerial (d : Date) : d.serial ≠ phantomSerial := by
  rw [serial_eq, phantomSerial_eq]
  split <;> omega

/-- A later day has a greater serial number. -/
theorem serial_lt_of_before (hd : d.Proper) (he : e.Proper) (h : d.Before e) :
    d.serial < e.serial := by
  have hnumber := dayNumber_lt_of_before hd he h
  rw [serial_eq, serial_eq]
  split_ifs <;> omega

/-- The days from the year 1900 on are those with positive serial numbers. -/
theorem Proper.serial_pos_iff (h : d.Proper) : 0 < d.serial ↔ 1900 ≤ d.year := by
  have hlast : daysBeforeYear (1899 + 1) = 693595 := rfl
  have hyear : d.year ≤ 1899 ↔ d.dayNumber ≤ 693595 := by rw [h.year_le_iff, hlast]
  rw [serial_eq]
  split <;> omega

/-- On either side of the day that never was, serial numbers count days. -/
theorem serial_eq_add {k : Int} (hnumber : e.dayNumber = d.dayNumber + k)
    (hside : d.serial ≤ 59 ∧ e.serial ≤ 59 ∨ 61 ≤ d.serial ∧ 61 ≤ e.serial) :
    e.serial = d.serial + k := by
  rw [serial_eq, serial_eq] at hside ⊢
  split_ifs at hside ⊢ <;> omega

/-- A positive serial number is that of the day that is found by it. -/
theorem ofWholeSerial?_eq_some_iff (hpos : 0 < n) (hne : n ≠ phantomSerial) :
    ofWholeSerial? n = some d ↔ d.isValid = true ∧ d.serial = n := by
  rw [ofWholeSerial?, if_neg hpos.ne', if_neg hne, ofDayNumber?_eq_some_iff, serial_eq]
  rw [phantomSerial_eq] at hne ⊢
  rw [serialOrigin_eq]
  refine and_congr_right fun _ => ?_
  split_ifs <;> omega

/-- From zero to the end of the calendar, every whole number is a serial number. -/
theorem exists_ofWholeSerial?_eq (hnonneg : 0 ≤ n)
    (hlast : serialOrigin + n ≤ daysBeforeYear (lastYear + 1)) :
    ∃ d, ofWholeSerial? n = some d := by
  have hfirst : daysBeforeYear firstYear < serialOrigin := by decide
  by_cases hzero : n = 0
  · exact ⟨dayZero, if_pos hzero⟩
  by_cases hphantom : n = phantomSerial
  · exact ⟨phantom, by rw [ofWholeSerial?, if_neg hzero, if_pos hphantom]⟩
  rw [ofWholeSerial?, if_neg hzero, if_neg hphantom]
  have hreached : ∀ k, daysBeforeYear firstYear < k → k ≤ daysBeforeYear (lastYear + 1) →
      ∃ d, ofDayNumber? k = some d := fun k hlow hhigh => by
    obtain ⟨d, hvalid, hnumber⟩ := exists_dayNumber_eq_iff.mpr ⟨hlow, hhigh⟩
    exact ⟨d, ofDayNumber?_eq_some_iff.mpr ⟨hvalid, hnumber⟩⟩
  have hbound : serialOrigin + phantomSerial ≤ daysBeforeYear (lastYear + 1) := by decide
  split_ifs with hearly
  · exact hreached _ (by omega) (by omega)
  · exact hreached _ (by omega) hlast

/-! ## Serial numbers as doubles -/

/-- The serial number of a valid date is exact as a double. -/
theorem isExactly_serial (h : d.isValid = true) :
    Number.IsExactly (Float.ofInt d.serial) d.serial :=
  Number.isExactly_ofInt ((bounded_of_isValid h).natAbs_serial_lt.trans (by decide))

/-- On which side of the day that never was a serial number lies can be seen from its double. -/
theorem side_of_ofInt_serial (h : d.isValid = true) (hnonneg : 0 ≤ d.serial) :
    (Float.ofInt d.serial ≤ 59.0 → d.serial ≤ 59) ∧
      (61.0 ≤ Float.ofInt d.serial → 61 ≤ d.serial) := by
  have hlt := (bounded_of_isValid h).natAbs_serial_lt
  refine ⟨fun hle => ?_, fun hle => ?_⟩
  · rcases hnonneg.eq_or_lt with hzero | hpos
    · omega
    · exact Number.le_of_ofInt_le_ofInt hpos (by omega) (by decide) (by decide) hle
  · exact Number.le_of_ofInt_le_ofInt (by decide) (by decide) hnonneg (by omega) hle

/-- A positive whole number is a serial number. -/
theorem isSerial_ofInt (hpos : 0 < n) (hlt : n < 2 ^ 53) : isSerial (Float.ofInt n) = true := by
  obtain ⟨k, rfl⟩ := Int.eq_ofNat_of_zero_le hpos.le
  have hfinite : (Float.ofInt k).isFinite = true := Number.isFinite_ofInt (by omega)
  have hone : 1.0 ≤ Float.ofInt k := Number.one_le_toFloat (by omega) (by omega)
  rw [isSerial, hfinite, decide_eq_false (Number.not_lt_of_one_le hone).2.1]
  rfl

/-- A day with a positive serial number is found by it. -/
theorem ofSerial?_serial (h : d.isValid = true) (hpos : 0 < d.serial) :
    ofSerial? (Float.ofInt d.serial) = some d := by
  have hlt := (bounded_of_isValid h).natAbs_serial_lt
  rw [ofSerial?, if_pos (isSerial_ofInt hpos (by omega)),
    Number.toInt64_floor_ofInt hpos (by omega),
    ofWholeSerial?_eq_some_iff hpos d.serial_ne_phantomSerial]
  exact ⟨h, rfl⟩

/-- The day that is found by a serial number has this number, without its fraction. -/
theorem serial_of_ofSerial? (hfinite : x.isFinite = true) (hone : 1.0 ≤ x)
    (hne : Number.floor x ≠ 60.0) (h : ofSerial? x = some d) :
    d.isValid = true ∧ Float.ofInt d.serial = Number.floor x := by
  rw [ofSerial?] at h
  split_ifs at h
  have hwhole := Number.floor_eq_ofInt_or_le hfinite hone
  have hpos : 0 < Number.toInt64 (Number.floor x) := by omega
  have hphantom : Number.toInt64 (Number.floor x) ≠ phantomSerial := by
    intro heq
    rw [heq] at hwhole
    rcases hwhole with ⟨-, hsixty⟩ | hlarge
    · exact hne hsixty
    · exact absurd hlarge (by decide)
  obtain ⟨hvalid, hserial⟩ := (ofWholeSerial?_eq_some_iff hpos hphantom).mp h
  have hlt := (bounded_of_isValid hvalid).natAbs_serial_lt
  refine ⟨hvalid, ?_⟩
  rcases hwhole with ⟨-, hfloor⟩ | hlarge
  · rw [hserial, ← hfloor]
  · -- So great a number lies behind the last day of the calendar.
    omega

/-- A day from the year 1900 on is found by its serial number. The day that is found by a number
from one on, unless it is the day that never was, exists and has this number without its fraction.
Later days have greater numbers. -/
theorem serial_inverse_and_increasing :
    (∀ d : Date, d.isValid = true → 1900 ≤ d.year →
      ofSerial? (Float.ofInt d.serial) = some d) ∧
    (∀ (x : Float) (d : Date), x.isFinite = true → 1.0 ≤ x → Number.floor x ≠ 60.0 →
      ofSerial? x = some d → d.isValid = true ∧ Float.ofInt d.serial = Number.floor x) ∧
    ∀ d e : Date, d.isValid = true → e.isValid = true → d.Before e → d.serial < e.serial := by
  refine ⟨fun _ hvalid hyear => ?_, fun _ _ hfinite hone hne hfound =>
    serial_of_ofSerial? hfinite hone hne hfound, fun _ _ hd he hbefore => ?_⟩
  · exact ofSerial?_serial hvalid ((isValid_iff.mp hvalid).2.serial_pos_iff.mpr hyear)
  · exact serial_lt_of_before (isValid_iff.mp hd).2 (isValid_iff.mp he).2 hbefore

/-- The days before and behind the one that never was. -/
theorem serial_around_phantom :
    ofSerial? (Float.ofInt (⟨1900, 2, 28⟩ : Date).serial) = some ⟨1900, 2, 28⟩ ∧
      Float.ofInt (⟨1900, 3, 1⟩ : Date).serial = Number.floor 61.75 ∧
      (⟨1900, 2, 28⟩ : Date).serial < (⟨1900, 3, 1⟩ : Date).serial := by
  obtain ⟨hday, hnumber, hlater⟩ := serial_inverse_and_increasing
  refine ⟨hday _ (by decide) (by decide), ?_, hlater _ _ (by decide) (by decide) (by decide)⟩
  exact (hnumber 61.75 ⟨1900, 3, 1⟩ (by decide) (by decide) (by decide) (by decide)).2

end Spreadsheet.Date
