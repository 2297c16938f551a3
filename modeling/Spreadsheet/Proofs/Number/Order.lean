import Spreadsheet.Proofs.Number.Written

/-!
# The order of doubles

Doubles are compared by their signs, exponents and significands. For finite doubles this is the
order of the numbers that they stand for, so that taking the whole part keeps the order.
-/

namespace Spreadsheet.Number

open Float.Model Float.Model.UnpackedFloat

/-! ## Numbers -/

namespace Binary

variable {b c : Binary}

/-- The number with its sign. -/
def signed (b : Binary) : ℚ :=
  if b.negative then -b.value else b.value

/-- The value of a form is not negative. -/
theorem value_nonneg (b : Binary) : 0 ≤ b.value :=
  mul_nonneg (Nat.cast_nonneg _) (by positivity)

/-- The value of a form is positive if its significand is. -/
theorem value_pos (h : 0 < b.significand) : 0 < b.value :=
  mul_pos (by exact_mod_cast h) (by positivity)

/-- A number with digits behind the point has at most 52 before it. -/
theorem value_lt_two_pow (hb : b.Canonical) (h : b.exponent < 0) : b.value < 2 ^ 52 := by
  have hsignificand : (b.significand : ℚ) < 2 ^ 53 := by exact_mod_cast hb.significand_lt
  calc b.value ≤ b.significand * 2 ^ (-1 : Int) :=
        mul_le_mul_of_nonneg_left (zpow_le_zpow_right₀ one_le_two (by omega)) (Nat.cast_nonneg _)
    _ < 2 ^ 53 * 2 ^ (-1 : Int) := mul_lt_mul_of_pos_right hsignificand (by positivity)
    _ = 2 ^ 52 := by norm_num

/-- A form without significand is zero, whatever its sign. -/
theorem signed_of_significand (h : b.significand = 0) : b.signed = 0 := by
  have hvalue : b.value = 0 := by rw [value, h, Nat.cast_zero, zero_mul]
  rw [signed, hvalue, neg_zero, ite_self]

/-- Of two numbers of full precision, the one with the greater exponent is greater. -/
theorem value_lt_of_exponent_lt (hb : b.Canonical) (hc : c.Canonical)
    (h : b.exponent < c.exponent) : b.value < c.value := by
  have hfull : 2 ^ 52 ≤ c.significand := by
    have hleast := hb.le_exponent
    exact hc.full.resolve_right (by omega)
  have hbelow : (b.significand : ℚ) < 2 ^ 53 := by exact_mod_cast hb.significand_lt
  have habove : (2 : ℚ) ^ 52 ≤ c.significand := by exact_mod_cast hfull
  calc b.value < 2 ^ 53 * 2 ^ b.exponent := mul_lt_mul_of_pos_right hbelow (by positivity)
    _ = 2 ^ 52 * 2 ^ (1 + b.exponent) := by
      rw [zpow_add₀ two_ne_zero, zpow_one]
      ring
    _ ≤ 2 ^ 52 * 2 ^ c.exponent :=
      mul_le_mul_of_nonneg_left (zpow_le_zpow_right₀ one_le_two (by omega)) (by positivity)
    _ ≤ c.value := mul_le_mul_of_nonneg_right habove (by positivity)

/-- Numbers of full precision are strictly in the order of their exponents. -/
theorem value_lt_of_lex (hb : b.Canonical) (hc : c.Canonical)
    (h : b.exponent < c.exponent ∨ b.exponent = c.exponent ∧ b.significand < c.significand) :
    b.value < c.value := by
  rcases h with hlt | ⟨heq, hless⟩
  · exact value_lt_of_exponent_lt hb hc hlt
  · rw [value, value, heq]
    exact mul_lt_mul_of_pos_right (by exact_mod_cast hless) (by positivity)

/-- Numbers of full precision are compared by their exponents, and by their significands where the
exponents are the same. -/
theorem compare_lex (hb : b.Canonical) (hc : c.Canonical) :
    (compare b.exponent c.exponent).then (compare b.significand c.significand) =
      compare b.value c.value := by
  cases horder : (compare b.exponent c.exponent).then (compare b.significand c.significand) with
  | lt =>
    rw [Ordering.then_eq_lt, Int.compare_eq_lt, Int.compare_eq_eq, Nat.compare_eq_lt] at horder
    rw [compare_lt_iff_lt.mpr (value_lt_of_lex hb hc horder)]
  | eq =>
    rw [Ordering.then_eq_eq, Int.compare_eq_eq, Nat.compare_eq_eq] at horder
    have hsame : b.value = c.value := by rw [value, value, horder.1, horder.2]
    rw [compare_eq_iff_eq.mpr hsame]
  | gt =>
    rw [Ordering.then_eq_gt, Int.compare_eq_gt, Int.compare_eq_eq, Nat.compare_eq_gt] at horder
    have hgreater : c.value < b.value :=
      value_lt_of_lex hc hb (horder.imp_right fun h => ⟨h.1.symm, h.2⟩)
    rw [compare_gt_iff_gt.mpr hgreater]

/-- The quotient of natural numbers that stands for a magnitude. -/
theorem quotient_eq_value (b : Binary) : (b.quotient.1 / b.quotient.2 : ℚ) = b.value := by
  have hpower := zpow_mul_pow_toNat (two_ne_zero : (2 : ℚ) ≠ 0) b.exponent
  by_cases h : 0 ≤ b.exponent
  · rw [quotient, if_pos h]
    rw [Int.toNat_of_nonpos (by omega : -b.exponent ≤ 0), pow_zero, mul_one] at hpower
    simp only [Nat.cast_one, div_one]
    push_cast
    rw [value, hpower]
    exact congrArg _ (Nat.cast_pow 2 _)
  · rw [quotient, if_neg h]
    rw [Int.toNat_of_nonpos (by omega : b.exponent ≤ 0), pow_zero] at hpower
    have hstep : ((Nat.pow 2 (-b.exponent).toNat : Nat) : ℚ) = 2 ^ (-b.exponent).toNat := by
      exact Nat.cast_pow 2 _
    simp only [hstep]
    rw [value, div_eq_iff (by positivity), mul_assoc, hpower, mul_one]

/-- The whole part of a number is that of its magnitude. -/
theorem toInteger_towardZero (b : Binary) :
    b.toInteger .towardZero = if b.negative then -⌊b.value⌋ else ⌊b.value⌋ := by
  have hfloor : ((b.quotient.1 / b.quotient.2 : Nat) : Int) = ⌊b.value⌋ := by
    rw [← quotient_eq_value, Rat.floor_natCast_div_natCast]
    rfl
  simp [toInteger, hfloor]

/-- Taking the whole part keeps the order. -/
theorem toInteger_mono (h : b.signed ≤ c.signed) :
    b.toInteger .towardZero ≤ c.toInteger .towardZero := by
  have hb : 0 ≤ ⌊b.value⌋ := Int.floor_nonneg.mpr b.value_nonneg
  have hc : 0 ≤ ⌊c.value⌋ := Int.floor_nonneg.mpr c.value_nonneg
  rw [toInteger_towardZero, toInteger_towardZero]
  unfold signed at h
  split_ifs at h ⊢ with hbn hcn hcn
  · exact Int.neg_le_neg (Int.floor_le_floor (neg_le_neg_iff.mp h))
  · omega
  · have hzero : b.value = 0 ∧ c.value = 0 := by
      have h₁ := b.value_nonneg
      have h₂ := c.value_nonneg
      constructor <;> linarith
    rw [hzero.1, hzero.2, Int.floor_zero, neg_zero]
  · exact Int.floor_le_floor h

end Binary

/-! ## Doubles -/

section Doubles

variable {x y : Float} {b c : Binary}

/-- What a finite double is made of. -/
theorem unpack_of_form (h : form x = .finite b) :
    (b.significand = 0 ∧ ∃ sign, x.toModel.unpack = .zero sign) ∨
      ∃ (hpos : 0 < b.significand) (sign : Sign), isNegative sign = b.negative ∧
        x.toModel.unpack = .finite sign b.significand b.exponent hpos := by
  have hform := form_eq_formOf x
  rw [h] at hform
  cases hu : x.toModel.unpack with
  | notANumber =>
    rw [hu] at hform
    cases hform
  | infinity sign =>
    rw [hu] at hform
    cases hform
  | zero sign =>
    rw [hu] at hform
    cases hform
    exact .inl ⟨rfl, sign, rfl⟩
  | finite sign mantissa exponent hpos =>
    rw [hu, formOf_finite] at hform
    cases hform
    exact .inr ⟨hpos, sign, rfl, rfl⟩

/-- Doubles compare as they are unpacked. -/
theorem lt_iff_lt_unpack (x y : Float) :
    x < y ↔ UnpackedFloat.lt x.toModel.unpack y.toModel.unpack = true :=
  ⟨fun h => of_decide_eq_true h, fun h => decide_eq_true h⟩

/-- Doubles compare, with equality, as they are unpacked. -/
theorem le_iff_le_unpack (x y : Float) :
    x ≤ y ↔ UnpackedFloat.le x.toModel.unpack y.toModel.unpack = true :=
  ⟨fun h => of_decide_eq_true h, fun h => decide_eq_true h⟩

/-- Opposite numbers are in the opposite order. -/
theorem swap_compare (q r : ℚ) : (compare q r).swap = compare (-q) (-r) := by
  rcases lt_trichotomy q r with hless | rfl | hgreater
  · rw [compare_lt_iff_lt.mpr hless, compare_gt_iff_gt.mpr (neg_lt_neg hless)]
    rfl
  · rw [compare_eq_iff_eq.mpr rfl, compare_eq_iff_eq.mpr rfl]
    rfl
  · rw [compare_gt_iff_gt.mpr hgreater, compare_lt_iff_lt.mpr (neg_lt_neg hgreater)]
    rfl

/-- Finite doubles are compared as the numbers that they stand for. -/
theorem compare_of_form (hx : form x = .finite b) (hy : form y = .finite c) :
    UnpackedFloat.compare x.toModel.unpack y.toModel.unpack =
      some (compare b.signed c.signed) := by
  have hlex := Binary.compare_lex (canonical_of_form hx) (canonical_of_form hy)
  rcases unpack_of_form hx with ⟨hzero, sign, hu⟩ | ⟨hpos, sign, hsign, hu⟩
  · rcases unpack_of_form hy with ⟨hzero', sign', hu'⟩ | ⟨hpos', sign', hsign', hu'⟩
    · rw [hu, hu', Binary.signed_of_significand hzero, Binary.signed_of_significand hzero',
        compare_eq_iff_eq.mpr rfl]
      rfl
    · have hvalue' := Binary.value_pos hpos'
      rw [hu, hu', Binary.signed_of_significand hzero, Binary.signed, ← hsign']
      cases sign' with
      | positive => exact congrArg some (compare_lt_iff_lt.mpr hvalue').symm
      | negative => exact congrArg some (compare_gt_iff_gt.mpr (neg_lt_zero.mpr hvalue')).symm
  have hvalue := Binary.value_pos hpos
  rcases unpack_of_form hy with ⟨hzero', sign', hu'⟩ | ⟨hpos', sign', hsign', hu'⟩
  · rw [hu, hu', Binary.signed_of_significand hzero', Binary.signed, ← hsign]
    cases sign with
    | positive => exact congrArg some (compare_gt_iff_gt.mpr hvalue).symm
    | negative => exact congrArg some (compare_lt_iff_lt.mpr (neg_lt_zero.mpr hvalue)).symm
  have hvalue' := Binary.value_pos hpos'
  rw [hu, hu', Binary.signed, Binary.signed, ← hsign, ← hsign']
  cases sign with
  | positive =>
    cases sign' with
    | positive => exact congrArg some hlex
    | negative =>
      have hgreater : -c.value < b.value := (neg_lt_zero.mpr hvalue').trans hvalue
      exact congrArg some (compare_gt_iff_gt.mpr hgreater).symm
  | negative =>
    cases sign' with
    | positive =>
      have hless : -b.value < c.value := (neg_lt_zero.mpr hvalue).trans hvalue'
      exact congrArg some (compare_lt_iff_lt.mpr hless).symm
    | negative => exact congrArg some ((congrArg Ordering.swap hlex).trans (swap_compare _ _))

/-- Finite doubles compare as the values of their forms. -/
theorem lt_iff_signed_lt (hx : form x = .finite b) (hy : form y = .finite c) :
    x < y ↔ b.signed < c.signed := by
  rw [lt_iff_lt_unpack, UnpackedFloat.lt, compare_of_form hx hy, beq_iff_eq, Option.some_inj,
    compare_lt_iff_lt]

/-- Finite doubles compare, with equality, as the values of their forms. -/
theorem le_iff_signed_le (hx : form x = .finite b) (hy : form y = .finite c) :
    x ≤ y ↔ b.signed ≤ c.signed := by
  rw [le_iff_le_unpack, UnpackedFloat.le, compare_of_form hx hy, Option.any_some,
    Ordering.isLE_iff_ne_gt]
  exact compare_le_iff_le

/-- Finite doubles are equal if they stand for the same number. -/
theorem beq_iff_signed_eq (hx : form x = .finite b) (hy : form y = .finite c) :
    (x == y) = true ↔ b.signed = c.signed := by
  change UnpackedFloat.beq x.toModel.unpack y.toModel.unpack = true ↔ _
  rw [UnpackedFloat.beq, compare_of_form hx hy, beq_iff_eq, Option.some_inj, compare_eq_iff_eq]

/-- Finite doubles are in the order of the numbers that they stand for. -/
theorem signed_le_of_not_lt (hx : form x = .finite b) (hy : form y = .finite c) (h : ¬y < x) :
    b.signed ≤ c.signed := by
  rw [lt_iff_signed_lt hy hx] at h
  exact not_lt.mp h

/-- A word of 64 digits to the base two bounds what it holds. -/
theorem natAbs_toInt64_le (x : Float) : (toInt64 x).natAbs ≤ 2 ^ 63 := by
  have hbound : Int.ofNat (Nat.pow 2 63) = 2 ^ 63 := rfl
  unfold toInt64 toBounded
  rw [hbound]
  split
  · decide
  · split <;> decide
  · omega

/-- Taking the whole part within the bounds of a word keeps the order. -/
theorem toInt64_le_toInt64 (hx : x.isFinite = true) (hy : y.isFinite = true) (h : ¬y < x) :
    toInt64 x ≤ toInt64 y := by
  obtain ⟨b, hb⟩ := (isFinite_iff x).mp hx
  obtain ⟨c, hc⟩ := (isFinite_iff y).mp hy
  have hle := Binary.toInteger_mono (signed_le_of_not_lt hb hc h)
  unfold toInt64 toBounded
  rw [hb, hc]
  dsimp only
  omega

end Doubles

end Spreadsheet.Number
