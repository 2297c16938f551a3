import Spreadsheet.Proofs.Number.Finite

/-!
# Doubles that count

Lines of a table are counted by doubles. A double that is at least one counts at least one line, and
it is still at least one without its fraction. A natural number of at most 53 digits to the base two
is its own double, and that double counts as many lines as the number says.
-/

namespace Spreadsheet.Number

open Float.Model Float.Model.UnpackedFloat

/-! ## The order of positive doubles -/

section Doubles

variable {x y : Float} {b c : Binary}

/-- The sign makes no difference to the form of a positive double. -/
theorem StandsFor.signed_eq (h : StandsFor x b) : b.signed = b.value := by
  rw [Binary.signed, h.negative_eq, if_neg Bool.false_ne_true]

/-- Positive doubles are compared as the numbers that they stand for. -/
theorem StandsFor.le_iff (hx : StandsFor x b) (hy : StandsFor y c) :
    x ≤ y ↔ b.value ≤ c.value := by
  rw [le_iff_signed_le hx.form_eq hy.form_eq, hx.signed_eq, hy.signed_eq]

/-- Positive doubles compare as the numbers that they stand for. -/
theorem StandsFor.lt_iff (hx : StandsFor x b) (hy : StandsFor y c) :
    x < y ↔ b.value < c.value := by
  rw [lt_iff_signed_lt hx.form_eq hy.form_eq, hx.signed_eq, hy.signed_eq]

/-- The double one in its canonical form. -/
theorem standsFor_one : StandsFor 1.0 ⟨false, 2 ^ 52, -52⟩ :=
  ⟨rfl, rfl, by decide⟩

private theorem value_one : Binary.value ⟨false, 2 ^ 52, -52⟩ = 1 := by
  rw [Binary.value]
  norm_num

/-- A positive double is at least one if the number that it stands for is. -/
theorem StandsFor.one_le_iff (h : StandsFor x b) : 1.0 ≤ x ↔ 1 ≤ b.value := by
  rw [standsFor_one.le_iff h, value_one]

/-- What a double that is at least a positive number is made of. -/
theorem StandsFor.unpack_of_le (hy : StandsFor y c) (h : y ≤ x) :
    x.toModel.unpack = .infinity .positive ∨
      ∃ mantissa exponent hpos, x.toModel.unpack = .finite .positive mantissa exponent hpos := by
  rw [le_iff_le_unpack, hy.unpack_eq] at h
  cases hu : x.toModel.unpack with
  | notANumber =>
    rw [hu] at h
    cases h
  | infinity sign =>
    rw [hu] at h
    cases sign with
    | positive => exact .inl rfl
    | negative => cases h
  | zero sign =>
    rw [hu] at h
    cases h
  | finite sign mantissa exponent hpos =>
    rw [hu] at h
    cases sign with
    | positive => exact .inr ⟨mantissa, exponent, hpos, rfl⟩
    | negative => cases h

/-- A double that is made of a positive number stands for it. -/
theorem StandsFor.of_unpack {mantissa : Nat} {exponent : Int} {hpos : 0 < mantissa}
    (h : x.toModel.unpack = .finite .positive mantissa exponent hpos) :
    StandsFor x ⟨false, mantissa, exponent⟩ := by
  refine ⟨?_, rfl, hpos⟩
  rw [form_eq_formOf, h, formOf_finite]
  rfl

/-- A double that is at least a positive number is infinite or stands for one that is at least as
great. -/
theorem StandsFor.form_of_le (hy : StandsFor y c) (h : y ≤ x) :
    form x = .infinite false ∨ ∃ b, StandsFor x b ∧ c.value ≤ b.value := by
  rcases hy.unpack_of_le h with hu | ⟨mantissa, exponent, hpos, hu⟩
  · left
    rw [form_eq_formOf, hu]
    rfl
  · right
    have hx : StandsFor x ⟨false, mantissa, exponent⟩ := .of_unpack hu
    exact ⟨_, hx, (hy.le_iff hx).mp h⟩

/-- A double that is at least one is infinite or stands for a number that is at least one. -/
theorem form_of_one_le (h : 1.0 ≤ x) :
    form x = .infinite false ∨ ∃ b, StandsFor x b ∧ 1 ≤ b.value := by
  rw [← value_one]
  exact standsFor_one.form_of_le h

/-- A double that is at least a double that is at least one is at least one. -/
theorem StandsFor.one_le_of_le (hy : StandsFor y c) (hone : 1.0 ≤ y) (h : y ≤ x) : 1.0 ≤ x := by
  rcases hy.unpack_of_le h with hu | ⟨mantissa, exponent, hpos, hu⟩
  · rw [le_iff_le_unpack, standsFor_one.unpack_eq, hu]
    rfl
  · have hx : StandsFor x ⟨false, mantissa, exponent⟩ := .of_unpack hu
    exact hx.one_le_iff.mpr ((hy.one_le_iff.mp hone).trans ((hy.le_iff hx).mp h))

/-- Zero as it is unpacked. -/
theorem unpack_zero : (0.0 : Float).toModel.unpack = .zero .positive := rfl

/-- A double that is at least one is a number, and it is neither less than one nor less than
zero. -/
theorem not_lt_of_one_le (h : 1.0 ≤ x) : ¬x < 1.0 ∧ ¬x < 0.0 ∧ x.isNaN = false := by
  change ¬x < 1.0 ∧ ¬x < 0.0 ∧ x.toModel.unpack.isNaN = false
  rw [lt_iff_lt_unpack x 0.0, unpack_zero]
  rcases standsFor_one.unpack_of_le h with hu | ⟨mantissa, exponent, hpos, hu⟩
  · rw [lt_iff_lt_unpack, standsFor_one.unpack_eq, hu]
    exact ⟨Bool.false_ne_true, Bool.false_ne_true, rfl⟩
  · have hx : StandsFor x ⟨false, mantissa, exponent⟩ := .of_unpack hu
    rw [hu, hx.lt_iff standsFor_one, value_one, not_lt, ← hx.one_le_iff]
    exact ⟨h, Bool.false_ne_true, rfl⟩

/-! ## Doubles without their fractions -/

/-- A positive double is cut off to the integer below it. -/
theorem StandsFor.toInteger_eq (h : StandsFor x b) :
    b.toInteger .towardZero = (⌊b.value⌋₊ : Int) := by
  rw [Binary.toInteger_towardZero, h.negative_eq, if_neg Bool.false_ne_true,
    Int.natCast_floor_eq_floor b.value_nonneg]

/-- A double of so great an exponent has no fraction. -/
theorem StandsFor.truncate_eq_self (h : StandsFor x b) (hexponent : 0 ≤ b.exponent) :
    truncate x = x := by
  unfold truncate round
  rw [h.form_eq]
  exact if_pos hexponent

/-- A double that is at least one is without its fraction the natural number below. -/
theorem StandsFor.truncate_eq (h : StandsFor x b) (hone : 1 ≤ b.value)
    (hexponent : b.exponent < 0) : truncate x = ⌊b.value⌋₊.toFloat := by
  have hpos : 0 < ⌊b.value⌋₊ := Nat.floor_pos.mpr hone
  have hne : ((⌊b.value⌋₊ : Nat) : Int) ≠ 0 := by omega
  unfold truncate round
  rw [h.form_eq]
  dsimp only
  rw [if_neg (not_le.mpr hexponent), h.toInteger_eq, ofInteger, if_neg hne]
  rfl

/-- A number with a negative exponent is below the numbers of 54 digits to the base two. -/
theorem StandsFor.floor_lt (h : StandsFor x b) (hexponent : b.exponent < 0) :
    ⌊b.value⌋₊ < 2 ^ 53 := by
  apply (Nat.floor_lt b.value_nonneg).mpr
  have hvalue := Binary.value_lt_two_pow h.canonical hexponent
  push_cast
  linarith

/-- A positive count is at least one as a double. -/
theorem one_le_toFloat {n : Nat} (hpos : 0 < n) (hlt : n < 2 ^ 53) : 1.0 ≤ n.toFloat := by
  rw [(standsFor_ofNat hpos hlt).one_le_iff, wholeBinary_value]
  exact_mod_cast hpos

/-- Without its fraction, a double that is at least one is still at least one. -/
theorem one_le_truncate (h : 1.0 ≤ x) : 1.0 ≤ truncate x := by
  rcases form_of_one_le h with hform | ⟨b, hb, hone⟩
  · have hsame : truncate x = x := by
      unfold truncate round
      rw [hform]
    rwa [hsame]
  · by_cases hexponent : b.exponent < 0
    · rw [hb.truncate_eq hone hexponent]
      exact one_le_toFloat (Nat.floor_pos.mpr hone) (hb.floor_lt hexponent)
    · rwa [hb.truncate_eq_self (not_lt.mp hexponent)]

/-! ## Doubles as counts -/

/-- A double that is at least one counts at least one line. -/
theorem toCount_pos (h : 1.0 ≤ x) : 0 < toCount x := by
  unfold toCount toBounded
  rcases form_of_one_le h with hform | ⟨b, hb, hone⟩
  · rw [hform]
    decide
  · have hpos : 0 < ⌊b.value⌋₊ := Nat.floor_pos.mpr hone
    have hbound : Int.ofNat (Nat.pow 2 64) = 2 ^ 64 := rfl
    rw [hb.form_eq]
    dsimp only
    rw [hb.toInteger_eq, hbound]
    omega

/-- A natural number has no fraction. -/
theorem truncate_toFloat {n : Nat} (hpos : 0 < n) (hlt : n < 2 ^ 53) :
    truncate n.toFloat = n.toFloat := by
  have hn := standsFor_ofNat hpos hlt
  by_cases hexponent : (wholeBinary n).exponent < 0
  · have hone : 1 ≤ (wholeBinary n).value := hn.one_le_iff.mp (one_le_toFloat hpos hlt)
    rw [hn.truncate_eq hone hexponent, wholeBinary_value, Nat.floor_natCast]
  · exact hn.truncate_eq_self (not_lt.mp hexponent)

/-- A natural number is counted exactly. -/
theorem toCount_toFloat {n : Nat} (hpos : 0 < n) (hlt : n < 2 ^ 53) : toCount n.toFloat = n := by
  have hn := standsFor_ofNat hpos hlt
  have hbound : Int.ofNat (Nat.pow 2 64) = 2 ^ 64 := rfl
  unfold toCount toBounded
  rw [hn.form_eq]
  dsimp only
  rw [hn.toInteger_eq, wholeBinary_value, Nat.floor_natCast, hbound]
  omega

end Doubles

end Spreadsheet.Number
