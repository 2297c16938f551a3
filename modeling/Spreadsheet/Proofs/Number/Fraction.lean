import Spreadsheet.Proofs.Number.Nearest

/-!
# Fractions of doubles

A double that is not negative is the next integer below and a fraction. The double that is computed
for the fraction is the nearest one, and so is the product of it with a natural number, so that the
product differs little from that of the exact fraction.
-/

namespace Spreadsheet.Number

open Float.Model Float.Model.UnpackedFloat

variable {x y : Float} {b c : Binary} {n : Nat}

/-! ## Numbers of doubles -/

/-- The number that a finite double stands for, zero for the other ones. -/
def toRat (x : Float) : ℚ :=
  match form x with
  | .finite b => b.signed
  | _ => 0

/-- A finite double is the number of its form. -/
theorem toRat_of_form (h : form x = .finite b) : toRat x = b.signed := by
  rw [toRat, h]

/-- A positive double is the number that it stands for. -/
theorem StandsFor.toRat_eq (h : StandsFor x b) : toRat x = b.value := by
  rw [toRat_of_form h.form_eq, h.signed_eq]

/-- The double zero is zero. -/
theorem toRat_zero : toRat 0.0 = 0 := by
  rw [toRat_of_form form_zero, Binary.signed_of_significand rfl]

/-- What stands for a double is positive. -/
theorem StandsFor.value_pos (h : StandsFor x b) : 0 < b.value :=
  Binary.value_pos h.significand_pos

/-- The least place of a double that is not zero is at most the double. -/
theorem StandsFor.zpow_le (h : StandsFor x b) : 2 ^ leastExponent ≤ b.value := by
  have hone : (1 : ℚ) ≤ b.significand := by exact_mod_cast h.significand_pos
  calc (2 : ℚ) ^ leastExponent ≤ 2 ^ b.exponent :=
        zpow_le_zpow_right₀ one_le_two h.canonical.le_exponent
    _ ≤ b.value := le_mul_of_one_le_left (by positivity) hone

/-- The double is not negative and its last place is behind the point, or it is zero with any
sign. -/
inductive IsFractional : Float → Prop where
  /-- Zero. -/
  | zero : IsFractional 0.0
  /-- Zero with a minus sign. -/
  | negativeZero : IsFractional (-0.0)
  /-- A positive number. -/
  | positive {x : Float} {b : Binary} (h : StandsFor x b) (exponent_lt : b.exponent < 0) :
    IsFractional x

private theorem toRat_negativeZero : toRat (-0.0) = 0 := by
  have hform : form (-0.0) = .finite ⟨true, 0, leastExponent⟩ := rfl
  rw [toRat_of_form hform, Binary.signed_of_significand rfl]

/-- A double from zero on that is less than one of at most 52 digits. -/
theorem isFractional_of_lt (hy : StandsFor y c) (hc : c.value ≤ 2 ^ 52) (h : 0.0 ≤ x)
    (hlt : x < y) :
    IsFractional x ∧ toRat x < c.value := by
  rw [le_iff_le_unpack, unpack_zero] at h
  rw [lt_iff_lt_unpack, hy.unpack_eq] at hlt
  cases hu : x.toModel.unpack with
  | notANumber =>
    rw [hu] at h
    cases h
  | infinity sign =>
    rw [hu] at h hlt
    cases sign with
    | positive => cases hlt
    | negative => cases h
  | zero sign =>
    have hform : form x = .finite ⟨isNegative sign, 0, leastExponent⟩ := by
      rw [form_eq_formOf, hu]
      rfl
    cases sign with
    | positive =>
      rw [eq_of_form_eq hform form_zero, toRat_zero]
      exact ⟨.zero, hy.value_pos⟩
    | negative =>
      have hzero : x = -0.0 := eq_of_form_eq hform rfl
      rw [hzero, toRat_negativeZero]
      exact ⟨.negativeZero, hy.value_pos⟩
  | finite sign mantissa exponent hpos =>
    rw [hu] at h
    cases sign with
    | positive =>
      have hx : StandsFor x ⟨false, mantissa, exponent⟩ := .of_unpack hu
      rw [← hy.unpack_eq, ← lt_iff_lt_unpack, hx.lt_iff hy] at hlt
      rw [hx.toRat_eq]
      refine ⟨.positive hx (not_le.mp fun hexponent => ?_), hlt⟩
      exact absurd (hlt.trans_le hc) (not_lt.mpr (two_pow_le_value hx.canonical hexponent))
    | negative => cases h

/-- A double that is not negative is a number that is not negative. -/
theorem IsFractional.toRat_nonneg (h : IsFractional x) : 0 ≤ toRat x := by
  cases h with
  | zero => exact toRat_zero.ge
  | negativeZero => exact toRat_negativeZero.ge
  | positive h _ => exact h.toRat_eq ▸ h.value_pos.le

/-- The integer below a double is that below the number. -/
theorem IsFractional.toInt64_floor (h : IsFractional x) : toInt64 (floor x) = ⌊toRat x⌋ := by
  cases h with
  | zero =>
    rw [toRat_zero, Int.floor_zero]
    decide +kernel
  | negativeZero =>
    rw [toRat_negativeZero, Int.floor_zero]
    decide +kernel
  | @positive _ b h hexponent =>
    have hinteger : b.toInteger .towardZero = ⌊b.value⌋ := by
      rw [Binary.toInteger_towardZero, h.negative_eq, if_neg Bool.false_ne_true]
    have hsmall := natAbs_toInteger_lt h.canonical hexponent
    rw [h.floor_eq_truncate, toInt64_truncate, toInt64_of_form h.form_eq,
      heldInWord_of_natAbs_lt hsmall, hinteger, h.toRat_eq]

/-! ## The fraction of a double -/

private theorem StandsFor.sub_zero_standsFor (h : StandsFor x b) : StandsFor (x - 0.0) b := by
  have hsame : x - 0.0 = packed (.finite .positive b.significand b.exponent h.significand_pos) := by
    change packed (UnpackedFloat.sub .binary64 x.toModel.unpack (0.0 : Float).toModel.unpack) = _
    rw [h.unpack_eq, unpack_zero]
    rfl
  rw [hsame]
  exact .of_packed h.canonical h.negative_eq h.significand_pos

/-- A fraction that is not zero is at least the last place of the number. -/
theorem zpow_le_fract (hexponent : b.exponent < 0) (hne : Int.fract b.value ≠ 0) :
    2 ^ b.exponent ≤ Int.fract b.value := by
  obtain ⟨k, hk⟩ : ∃ k : Nat, b.exponent = -k := ⟨(-b.exponent).toNat, by omega⟩
  have hvalue : b.value = (b.significand : ℚ) / (2 ^ k : Nat) := by
    rw [Binary.value, hk, zpow_neg, zpow_natCast, div_eq_mul_inv]
    push_cast
    rfl
  have hfract : Int.fract b.value = (b.significand % 2 ^ k : Nat) / (2 ^ k : Nat) := by
    rw [hvalue, Int.fract_div_natCast_eq_div_natCast_mod]
  rw [hfract] at hne ⊢
  have hone : (1 : ℚ) ≤ (b.significand % 2 ^ k : Nat) := by
    rw [Nat.one_le_cast, Nat.one_le_iff_ne_zero]
    intro hzero
    rw [hzero, Nat.cast_zero, zero_div] at hne
    exact hne rfl
  rw [hk, zpow_neg, zpow_natCast, inv_eq_one_div]
  push_cast
  gcongr

/-- What is left of a double without the next integer below is zero, or the double nearest to the
fraction. -/
theorem StandsFor.sub_floor (h : StandsFor x b) (hexponent : b.exponent < 0) :
    (Int.fract b.value = 0 ∧ x - floor x = 0.0) ∨
      ∃ c, StandsFor (x - floor x) c ∧ c.Attracts (Int.fract b.value) := by
  rw [h.floor_eq_truncate]
  by_cases hone : 1 ≤ b.value
  · have hwhole := standsFor_ofNat (Nat.floor_pos.mpr hone) (h.floor_lt hexponent)
    have hfloor : (wholeBinary ⌊b.value⌋₊).value = ⌊b.value⌋ := by
      rw [wholeBinary_value, natCast_floor_eq_intCast_floor b.value_nonneg]
    rw [h.truncate_eq hone hexponent]
    by_cases hfract : Int.fract b.value = 0
    · refine .inl ⟨hfract, h.sub_eq_zero_of_value_eq hwhole ?_⟩
      rw [hfloor]
      exact eq_of_sub_eq_zero hfract
    · have hlow := (zpow_le_zpow_right₀ one_le_two h.canonical.le_exponent).trans
        (zpow_le_fract hexponent hfract)
      have hhigh : Int.fract b.value < 2 ^ (1023 : Int) :=
        (Int.fract_lt_one _).trans (one_lt_zpow₀ one_lt_two (by decide))
      obtain ⟨c, hc, hnegative, hpos, hattracts⟩ := exists_attracts hlow hhigh
      refine .inr ⟨c, h.sub hwhole hc hnegative hpos ?_, hattracts⟩
      rwa [hfloor, Int.self_sub_floor]
  · have hfract : Int.fract b.value = b.value :=
      Int.fract_eq_self.mpr ⟨b.value_nonneg, not_le.mp hone⟩
    have hzero : truncate x = 0.0 := by
      have hinteger : b.toInteger .towardZero = 0 := by
        rw [h.toInteger_eq, Nat.floor_eq_zero.mpr (not_le.mp hone)]
        rfl
      unfold truncate round
      rw [h.form_eq]
      dsimp only
      rw [if_neg (not_le.mpr hexponent), hinteger, h.negative_eq]
      rfl
    rw [hzero, hfract]
    exact .inr ⟨b, h.sub_zero_standsFor, Binary.attracts_value⟩

/-! ## Multiples of fractions -/

/-- The product of a double and a natural number is the double nearest to the exact product. -/
theorem StandsFor.mul_toFloat (h : StandsFor x b) (hpos : 0 < n) (hlt : n < 2 ^ 53)
    (hhigh : b.value * n < 2 ^ (1023 : Int)) :
    ∃ d, StandsFor (x * n.toFloat) d ∧ d.Attracts (b.value * n) := by
  have hn := standsFor_ofNat hpos hlt
  obtain ⟨-, hfull⟩ := wholeBinary_canonical hpos hlt
  have hdigits : 2 ^ 53 ≤ b.significand * (wholeBinary n).significand ∨
      b.exponent + (wholeBinary n).exponent ≤ leastExponent := by
    rcases h.canonical.full with hlarge | hleast
    · left
      calc 2 ^ 53 ≤ 2 ^ 52 * 2 ^ 52 := by decide
        _ ≤ b.significand * (wholeBinary n).significand := Nat.mul_le_mul hlarge hfull
    · right
      have hexponent : (wholeBinary n).exponent ≤ 0 := by
        unfold wholeBinary
        dsimp only
        omega
      omega
  have hlow : (2 : ℚ) ^ leastExponent ≤ b.value * n :=
    h.zpow_le.trans (le_mul_of_one_le_right h.value_pos.le (by exact_mod_cast hpos))
  obtain ⟨d, hd, hnegative, hsignificand, hattracts⟩ := exists_attracts hlow hhigh
  refine ⟨d, h.mul hn hdigits hd hnegative hsignificand ?_, hattracts⟩
  rwa [wholeBinary_value]

private theorem StandsFor.zero_mul_eq (h : StandsFor x b) : 0.0 * x = 0.0 := by
  change packed (UnpackedFloat.mul .binary64 (0.0 : Float).toModel.unpack x.toModel.unpack) = _
  rw [unpack_zero, h.unpack_eq]
  rfl

/-- A multiple of the fraction of a positive double. -/
theorem StandsFor.mul_fraction (h : StandsFor x b) (hexponent : b.exponent < 0) (hpos : 0 < n)
    (hlt : n < 2 ^ 17) :
    IsFractional ((x - floor x) * n.toFloat) ∧
      |toRat ((x - floor x) * n.toFloat) - Int.fract b.value * n| ≤ 2 ^ (-34 : Int) := by
  have hn := standsFor_ofNat hpos (hlt.trans (by decide))
  rcases h.sub_floor hexponent with ⟨hfract, hzero⟩ | ⟨c, hc, hattracts⟩
  · rw [hzero, hn.zero_mul_eq, hfract, toRat_zero, zero_mul, sub_zero, abs_zero]
    exact ⟨.zero, by positivity⟩
  · have hfract_lt : Int.fract b.value < 2 ^ (0 : Int) := by
      rw [zpow_zero]
      exact Int.fract_lt_one _
    have hn_lt : (n : ℚ) < 2 ^ 17 := by exact_mod_cast hlt
    have hn_nonneg : (0 : ℚ) ≤ n := Nat.cast_nonneg n
    obtain ⟨-, hnear⟩ := hattracts.abs_sub_le_of_lt hc.canonical hfract_lt (by decide)
    have hproduct : c.value * n < 2 ^ (18 : Int) := by
      have hc_lt : c.value < 2 := by
        have hless := (abs_le.mp hnear).2
        norm_num at hless hfract_lt
        linarith
      calc c.value * n ≤ c.value * 2 ^ 17 := mul_le_mul_of_nonneg_left hn_lt.le c.value_nonneg
        _ < 2 * 2 ^ 17 := mul_lt_mul_of_pos_right hc_lt (by positivity)
        _ = 2 ^ (18 : Int) := by norm_num
    obtain ⟨d, hd, hd_attracts⟩ := hc.mul_toFloat hpos (hlt.trans (by decide))
      (hproduct.trans_le (zpow_le_zpow_right₀ one_le_two (by decide)))
    obtain ⟨hplace, hrounded⟩ := hd_attracts.abs_sub_le_of_lt hd.canonical hproduct (by decide)
    refine ⟨.positive hd (by omega), ?_⟩
    rw [hd.toRat_eq]
    calc |d.value - Int.fract b.value * n|
        = |(d.value - c.value * n) + (c.value - Int.fract b.value) * n| := by ring_nf
      _ ≤ |d.value - c.value * n| + |c.value - Int.fract b.value| * n := by
        rw [← abs_of_nonneg hn_nonneg, ← abs_mul, abs_of_nonneg hn_nonneg]
        exact abs_add_le _ _
      _ ≤ 2 ^ (18 - 53 : Int) + 2 ^ (0 - 53 : Int) * 2 ^ 17 :=
        add_le_add hrounded (mul_le_mul hnear hn_lt.le hn_nonneg (by positivity))
      _ ≤ 2 ^ (-34 : Int) := by norm_num

/-- A multiple of what is left of a double differs little from that of the fraction. -/
theorem IsFractional.mul_fraction (h : IsFractional x) (hpos : 0 < n) (hlt : n < 2 ^ 17) :
    IsFractional ((x - floor x) * n.toFloat) ∧
      |toRat ((x - floor x) * n.toFloat) - Int.fract (toRat x) * n| ≤ 2 ^ (-34 : Int) := by
  have hzero : IsFractional (0.0 * n.toFloat) ∧
      |toRat (0.0 * n.toFloat) - Int.fract 0 * n| ≤ 2 ^ (-34 : Int) := by
    rw [(standsFor_ofNat hpos (hlt.trans (by decide))).zero_mul_eq, toRat_zero, Int.fract_zero,
      zero_mul, sub_zero, abs_zero]
    exact ⟨.zero, by positivity⟩
  cases h with
  | zero =>
    have hnone : (0.0 : Float) - floor 0.0 = 0.0 := by decide +kernel
    rwa [hnone, toRat_zero]
  | negativeZero =>
    have hnone : -0.0 - floor (-0.0) = 0.0 := by decide +kernel
    rwa [hnone, toRat_negativeZero]
  | positive h hexponent =>
    rw [h.toRat_eq]
    exact h.mul_fraction hexponent hpos hlt

/-! ## The nearest integer -/

private theorem Binary.toInteger_nearest (h : b.negative = false) :
    b.toInteger .nearest = ⌊b.value + 1 / 2⌋ := by
  have hpos := b.quotient_snd_pos
  have hvalue := b.quotient_eq_value
  unfold toInteger
  generalize b.quotient = quotient at hpos hvalue ⊢
  obtain ⟨numerator, denominator⟩ := quotient
  dsimp only at hpos hvalue ⊢
  rw [h, ← hvalue, if_neg Bool.false_ne_true, eq_comm, Int.floor_eq_iff]
  have hdenominator : (0 : ℚ) < denominator := by exact_mod_cast hpos
  have hrest := Nat.mod_lt numerator hpos
  rw [natCast_div_eq numerator hpos]
  generalize numerator / denominator = whole
  generalize numerator % denominator = rest at hrest ⊢
  have hbelow : (rest / denominator : ℚ) < 1 := by
    rw [div_lt_one hdenominator]
    exact_mod_cast hrest
  have habove : (0 : ℚ) ≤ rest / denominator := by positivity
  by_cases hhalf : denominator ≤ 2 * rest
  · have hge : (1 / 2 : ℚ) ≤ rest / denominator := by
      rw [div_le_div_iff₀ two_pos hdenominator]
      exact_mod_cast (by omega : 1 * denominator ≤ rest * 2)
    rw [if_pos (decide_eq_true hhalf)]
    push_cast
    constructor <;> linarith
  · have hless : (rest / denominator : ℚ) < 1 / 2 := by
      rw [div_lt_div_iff₀ hdenominator two_pos]
      exact_mod_cast (by omega : rest * 2 < 1 * denominator)
    rw [if_neg (by simpa using hhalf)]
    push_cast
    constructor <;> linarith

/-- A double that is exactly a natural number counts as it. -/
theorem IsExactly.toCount_eq (h : IsExactly x n) (hlt : n < 2 ^ 64) : toCount x = n := by
  obtain ⟨b, hform, hsigned⟩ := h
  have hbound : Int.ofNat (Nat.pow 2 64) = 2 ^ 64 := rfl
  unfold toCount toBounded
  rw [hform, hbound]
  dsimp only
  rw [toInteger_of_signed (n := (n : Int)) hsigned]
  omega

/-- The natural number nearest to a double, of two the greater one. -/
theorem StandsFor.toCount_roundHalfAway (h : StandsFor x b) (hexponent : b.exponent < 0) :
    toCount (roundHalfAway x) = ⌊b.value + 1 / 2⌋₊ := by
  have hnonneg : 0 ≤ b.value + 1 / 2 := by linarith [b.value_nonneg]
  have hsmall : ⌊b.value + 1 / 2⌋₊ < 2 ^ 53 := by
    have hvalue := Binary.value_lt_two_pow h.canonical hexponent
    rw [Nat.floor_lt hnonneg]
    push_cast
    linarith
  have hrounded : roundHalfAway x = Float.ofInt ⌊b.value + 1 / 2⌋₊ := by
    unfold roundHalfAway round
    rw [h.form_eq]
    dsimp only
    rw [if_neg (not_le.mpr hexponent), h.negative_eq, Binary.toInteger_nearest h.negative_eq,
      ← Int.natCast_floor_eq_floor hnonneg, ofInteger_false]
  rw [hrounded]
  exact (isExactly_ofInt (by omega)).toCount_eq (by omega)

/-- A double is counted as the nearest natural number, with halves rounded up. -/
theorem IsFractional.toCount_roundHalfAway (h : IsFractional x) :
    toCount (roundHalfAway x) = ⌊toRat x + 1 / 2⌋₊ := by
  have hhalf : ⌊(0 : ℚ) + 1 / 2⌋₊ = 0 := by norm_num
  cases h with
  | zero =>
    rw [toRat_zero, hhalf]
    decide +kernel
  | negativeZero =>
    rw [toRat_negativeZero, hhalf]
    decide +kernel
  | positive h hexponent => rw [h.toCount_roundHalfAway hexponent, h.toRat_eq]

/-- Doubles that are not negative compare as their numbers. -/
theorem IsFractional.le_iff (h : IsFractional x) (hy : StandsFor y c) :
    y ≤ x ↔ c.value ≤ toRat x := by
  cases h with
  | zero =>
    rw [toRat_zero, le_iff_le_unpack, hy.unpack_eq, unpack_zero]
    exact iff_of_false Bool.false_ne_true (not_le.mpr hy.value_pos)
  | negativeZero =>
    have hunpack : (-0.0 : Float).toModel.unpack = .zero .negative := rfl
    rw [toRat_negativeZero, le_iff_le_unpack, hy.unpack_eq, hunpack]
    exact iff_of_false Bool.false_ne_true (not_le.mpr hy.value_pos)
  | positive h _ => rw [hy.le_iff h, h.toRat_eq]

end Spreadsheet.Number
