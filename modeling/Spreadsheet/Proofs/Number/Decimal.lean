import Mathlib.Tactic.IntervalCases
import Spreadsheet.Number.Reading
import Spreadsheet.Proofs.Number.Rounding

/-!
# The double that a decimal number is read as

A decimal number is read as the double in whose interval it lies. This holds whichever way the
reader takes: for digits and powers of ten that are doubles themselves a single product or quotient
of doubles is enough, and otherwise the number is rounded from its exact fraction. Products,
quotients and differences of doubles are themselves the doubles in whose intervals the exact results
lie.
-/

namespace Spreadsheet.Number

open Float.Model Float.Model.UnpackedFloat

/-! ## Products, quotients and differences -/

section Arithmetic

variable {sign₁ sign₂ : Sign} {m₁ m₂ : Nat} {e₁ e₂ : Int} {h₁ : 0 < m₁} {h₂ : 0 < m₂}
  {b : Binary}

/-- A product of full precision, or one with digits behind the last place of all doubles, is rounded
to the double in whose interval it lies. -/
theorem mul_eq (hdigits : 2 ^ 53 ≤ m₁ * m₂ ∨ e₁ + e₂ ≤ leastExponent) (hb : b.Canonical)
    (hpos : 0 < b.significand) (hv : b.Attracts (m₁ * 2 ^ e₁ * (m₂ * 2 ^ e₂))) :
    UnpackedFloat.mul .binary64 (.finite sign₁ m₁ e₁ h₁) (.finite sign₂ m₂ e₂ h₂) =
      .finite (sign₁ * sign₂) b.significand b.exponent hpos := by
  have hshift : e₁ + e₂ ≤ Format.binary64.targetExponent (totalExponent (m₁ * m₂) (e₁ + e₂)) := by
    rw [targetExponent_eq, totalExponent]
    rcases hdigits with hlarge | hleast
    · have hlog := (Nat.le_log2 (Nat.ne_of_gt (Nat.mul_pos h₁ h₂))).mpr hlarge
      omega
    · omega
  have hvalue : (m₁ * 2 ^ e₁ * (m₂ * 2 ^ e₂) : ℚ) = (m₁ * m₂ : Nat) * 2 ^ (e₁ + e₂) := by
    rw [zpow_add₀ two_ne_zero]
    push_cast
    ring
  rw [hvalue] at hv
  exact roundWithAccuracy_eq (.of_exact (m₁ * m₂)) hb hpos hv hshift

/-- A fraction of natural numbers lies above the power of two by which their lengths differ. -/
theorem zpow_lt_quotient (e₁ e₂ : Int) (h₁ : 0 < m₁) (h₂ : 0 < m₂) :
    (2 : ℚ) ^ (totalExponent m₁ e₁ - totalExponent m₂ e₂ - 1) <
      m₁ * 2 ^ e₁ / (m₂ * 2 ^ e₂) := by
  have hnumerator := @zpow_totalExponent_le m₁ e₁ m₁ (Nat.ne_of_gt h₁) (le_refl _)
  have hdenominator := @lt_zpow_totalExponent m₂ e₂ m₂ (lt_add_one _)
  have hpos₂ : (0 : ℚ) < m₂ * 2 ^ e₂ := by
    have : (0 : ℚ) < m₂ := by exact_mod_cast h₂
    positivity
  rw [lt_div_iff₀ hpos₂]
  refine lt_of_lt_of_le ?_ hnumerator
  calc (2 : ℚ) ^ (totalExponent m₁ e₁ - totalExponent m₂ e₂ - 1) * (m₂ * 2 ^ e₂)
      < 2 ^ (totalExponent m₁ e₁ - totalExponent m₂ e₂ - 1) * 2 ^ totalExponent m₂ e₂ :=
        mul_lt_mul_of_pos_left hdenominator (by positivity)
    _ = 2 ^ (totalExponent m₁ e₁ - 1) := by
        rw [← zpow_add₀ two_ne_zero]
        congr 1
        ring

/-- A quotient is rounded to the double in whose interval it lies. -/
theorem div_eq (hb : b.Canonical) (hpos : 0 < b.significand)
    (hv : b.Attracts (m₁ * 2 ^ e₁ / (m₂ * 2 ^ e₂))) :
    UnpackedFloat.div .binary64 (.finite sign₁ m₁ e₁ h₁) (.finite sign₂ m₂ e₂ h₂) =
      .finite (sign₁ / sign₂) b.significand b.exponent hpos := by
  obtain ⟨target, htarget⟩ : ∃ target, target = min (e₁ - e₂)
      (Format.binary64.targetExponent (totalExponent m₁ e₁ - totalExponent m₂ e₂)) := ⟨_, rfl⟩
  obtain ⟨steps, hsteps⟩ : ∃ steps : Nat, steps = (e₁ - e₂ - target).toNat := ⟨_, rfl⟩
  have hexponent : target + steps = e₁ - e₂ := by omega
  have hstep₂ : (0 : ℚ) < m₂ := by exact_mod_cast h₂
  -- The quotient of the shifted numerator, as a number and as digits with a remainder.
  have hrep := Represents.of_fraction (m₁ <<< steps) h₂
  have hvalue : (m₁ * 2 ^ e₁ / (m₂ * 2 ^ e₂) : ℚ) =
      (m₁ <<< steps : Nat) / m₂ * 2 ^ target := by
    have hsplit : (2 : ℚ) ^ e₁ = 2 ^ e₂ * (2 ^ steps * 2 ^ target) := by
      rw [← zpow_two_add, ← zpow_add₀ two_ne_zero]
      congr 1
      omega
    rw [hsplit, Nat.shiftLeft_eq]
    push_cast
    field_simp
  have hbelow := zpow_lt_quotient e₁ e₂ h₁ h₂
  rw [hvalue] at hv hbelow
  obtain ⟨-, hlt⟩ := hrep.floor
  rw [mantissa_ofMantissaAndAccuracy] at hlt
  have hlength := zpow_two_lt_iff.mp (hbelow.trans (lt_zpow_totalExponent target hlt))
  have hshift : target ≤ Format.binary64.targetExponent
      (totalExponent (m₁ <<< steps / m₂) target) := by
    rw [targetExponent_eq] at htarget ⊢
    omega
  refine Eq.trans ?_ (roundWithAccuracy_eq hrep hb hpos hv hshift)
  simp only [UnpackedFloat.div, divCore, ← htarget, ← hsteps]

/-- Digits that are appended change nothing but the exponent. -/
theorem decreaseExponent_value (m : Nat) (e target : Int) :
    ((decreaseExponent m e target).1 * 2 ^ (decreaseExponent m e target).2 : ℚ) = m * 2 ^ e := by
  unfold decreaseExponent
  dsimp only
  generalize (e - target).toNat = steps
  have hexponent : e = steps + (e - steps) := by ring
  rw [Nat.shiftLeft_eq]
  conv_rhs => rw [hexponent, zpow_two_add]
  push_cast
  ring

/-- A number with all its digits is rounded to the double in whose interval it lies. -/
theorem round_eq {sign : Sign} {m : Nat} {e : Int} (hm : 0 < m) (hb : b.Canonical)
    (hpos : 0 < b.significand) (hv : b.Attracts (m * 2 ^ e)) :
    UnpackedFloat.round .binary64 sign m e = .finite sign b.significand b.exponent hpos := by
  rw [← decreaseExponent_value m e (Format.binary64.targetExponent (totalExponent m e))] at hv
  refine roundWithAccuracy_eq (.of_exact _) hb hpos hv ?_
  rw [targetExponent_eq, targetExponent_eq, totalExponent, totalExponent]
  generalize hsteps : (e - max (m.log2 + 1 + e - 53) leastExponent).toNat = steps
  have hlog : m.log2 + steps ≤ (m <<< steps).log2 := by
    rw [Nat.le_log2 (by rw [Nat.shiftLeft_eq]; positivity), Nat.shiftLeft_eq, pow_add]
    exact Nat.mul_le_mul_right _ (Nat.log2_self_le hm.ne')
  omega

/-- A difference is formed of the significands at the lower exponent. -/
theorem exists_sub_eq_normalize (h₁ : 0 < m₁) (h₂ : 0 < m₂) :
    ∃ (n : Int) (e : Int), (n * 2 ^ e : ℚ) = m₁ * 2 ^ e₁ - m₂ * 2 ^ e₂ ∧
      UnpackedFloat.sub .binary64 (.finite .positive m₁ e₁ h₁) (.finite .positive m₂ e₂ h₂) =
        UnpackedFloat.normalize .binary64 n e .positive := by
  refine ⟨_, _, ?_, rfl⟩
  have hvalue₁ := decreaseExponent_value m₁ e₁ (min e₁ e₂)
  have hvalue₂ := decreaseExponent_value m₂ e₂ (min e₁ e₂)
  have hexponent₁ : (decreaseExponent m₁ e₁ (min e₁ e₂)).2 = min e₁ e₂ := by
    unfold decreaseExponent
    dsimp only
    omega
  have hexponent₂ : (decreaseExponent m₂ e₂ (min e₁ e₂)).2 = min e₁ e₂ := by
    unfold decreaseExponent
    dsimp only
    omega
  rw [hexponent₁] at hvalue₁
  rw [hexponent₂] at hvalue₂
  rw [← hvalue₁, ← hvalue₂, ← sub_mul]
  simp only [Sign.apply]
  push_cast
  rfl

/-- A difference is rounded to the double in whose interval it lies. -/
theorem sub_eq (hb : b.Canonical) (hpos : 0 < b.significand)
    (hv : b.Attracts (m₁ * 2 ^ e₁ - m₂ * 2 ^ e₂)) :
    UnpackedFloat.sub .binary64 (.finite .positive m₁ e₁ h₁) (.finite .positive m₂ e₂ h₂) =
      .finite .positive b.significand b.exponent hpos := by
  obtain ⟨n, e, hvalue, hsub⟩ := exists_sub_eq_normalize h₁ h₂
  rw [← hvalue] at hv
  have hn : 0 < n := by
    have hpositive : (0 : ℚ) < n * 2 ^ e :=
      (by positivity : (0 : ℚ) < 2 ^ (b.exponent - 1)).trans_le (hv.zpow_le hpos)
    exact_mod_cast pos_of_mul_pos_left hpositive (by positivity)
  obtain ⟨m, rfl⟩ := Int.eq_ofNat_of_zero_le hn.le
  rw [hsub, UnpackedFloat.normalize, Int.compare_eq_gt.mpr hn]
  exact round_eq (by omega) hb hpos hv

/-- The difference of equal numbers is zero. -/
theorem sub_eq_zero_of_eq (h : (m₁ * 2 ^ e₁ : ℚ) = m₂ * 2 ^ e₂) :
    UnpackedFloat.sub .binary64 (.finite .positive m₁ e₁ h₁) (.finite .positive m₂ e₂ h₂) =
      .zero .positive := by
  obtain ⟨n, e, hvalue, hsub⟩ := exists_sub_eq_normalize h₁ h₂
  have hn : n = 0 := by
    rw [h, sub_self] at hvalue
    exact_mod_cast (mul_eq_zero_iff_right (by positivity)).mp hvalue
  rw [hsub, UnpackedFloat.normalize, hn]
  rfl

end Arithmetic

/-! ## Doubles with a known value -/

/-- The interval of a double starts below it. -/
theorem Binary.lower_lt_value (b : Binary) : b.lower < b.value := by
  have hquarters : (0 : ℚ) < b.quartersBelow := by
    unfold quartersBelow
    split <;> norm_num
  exact mul_lt_mul_of_pos_right (by linarith) (by positivity)

/-- The interval of a double ends above it. -/
theorem Binary.value_lt_upper (b : Binary) : b.value < b.upper :=
  mul_lt_mul_of_pos_right (by linarith) (by positivity)

/-- What lies between the ends is in the interval. -/
theorem Binary.Attracts.of_lt {b : Binary} {v : ℚ} (hlower : b.lower < v) (hupper : v < b.upper) :
    b.Attracts v := by
  refine ⟨le_of_lt hlower, le_of_lt hupper, ?_⟩
  rintro (heq | heq)
  · exact absurd heq (ne_of_gt hlower)
  · exact absurd heq (ne_of_lt hupper)

/-- A double lies in its own interval. -/
theorem Binary.attracts_value {b : Binary} : b.Attracts b.value :=
  .of_lt b.lower_lt_value b.value_lt_upper

/-- The double stands for the positive number. -/
structure StandsFor (x : Float) (b : Binary) : Prop where
  /-- It is finite. -/
  form_eq : form x = .finite b
  /-- It carries no minus sign. -/
  negative_eq : b.negative = false
  /-- It is not zero. -/
  significand_pos : 0 < b.significand

namespace StandsFor

variable {x y : Float} {b c d : Binary}

/-- What stands for a double is canonical. -/
theorem canonical (h : StandsFor x b) : b.Canonical :=
  canonical_of_form h.form_eq

/-- A double is unpacked as what stands for it. -/
theorem unpack_eq (h : StandsFor x b) :
    x.toModel.unpack = .finite .positive b.significand b.exponent h.significand_pos := by
  have hform := form_eq_formOf x
  rw [h.form_eq] at hform
  have hnegative := h.negative_eq
  have hpos := h.significand_pos
  cases hu : x.toModel.unpack with
  | notANumber =>
    rw [hu] at hform
    cases hform
  | infinity sign =>
    rw [hu] at hform
    cases hform
  | zero sign =>
    rw [hu] at hform
    cases hform
    cases hpos
  | finite sign mantissa exponent hm =>
    rw [hu] at hform
    cases hform
    cases sign with
    | negative => cases hnegative
    | positive => rfl

/-- What is canonical and positive stands for the double that it is packed as. -/
theorem of_packed {b : Binary} (hb : b.Canonical) (hnegative : b.negative = false)
    (hpos : 0 < b.significand) :
    StandsFor (packed (.finite .positive b.significand b.exponent hpos)) b := by
  have heq : (⟨isNegative .positive, b.significand, b.exponent⟩ : Binary) = b := by
    obtain ⟨negative, significand, exponent⟩ := b
    cases hnegative
    rfl
  have hform := @form_packed_finite .positive _ _ hpos (heq.symm ▸ hb)
  rw [heq] at hform
  exact ⟨hform, hnegative, hpos⟩

/-- The product of two doubles is the double in whose interval the exact product lies. -/
theorem mul (hx : StandsFor x b) (hy : StandsFor y c)
    (hdigits : 2 ^ 53 ≤ b.significand * c.significand ∨ b.exponent + c.exponent ≤ leastExponent)
    (hd : d.Canonical) (hnegative : d.negative = false) (hpos : 0 < d.significand)
    (hv : d.Attracts (b.value * c.value)) : StandsFor (x * y) d := by
  have hproduct : x * y = packed (.finite .positive d.significand d.exponent hpos) := by
    change packed (UnpackedFloat.mul .binary64 x.toModel.unpack y.toModel.unpack) = _
    rw [hx.unpack_eq, hy.unpack_eq, mul_eq hdigits hd hpos hv]
    rfl
  rw [hproduct]
  exact .of_packed hd hnegative hpos

/-- The quotient of two doubles is the double in whose interval the exact quotient lies. -/
theorem div (hx : StandsFor x b) (hy : StandsFor y c) (hd : d.Canonical)
    (hnegative : d.negative = false) (hpos : 0 < d.significand)
    (hv : d.Attracts (b.value / c.value)) : StandsFor (x / y) d := by
  have hquotient : x / y = packed (.finite .positive d.significand d.exponent hpos) := by
    change packed (UnpackedFloat.div .binary64 x.toModel.unpack y.toModel.unpack) = _
    rw [hx.unpack_eq, hy.unpack_eq, div_eq hd hpos hv]
    rfl
  rw [hquotient]
  exact .of_packed hd hnegative hpos

/-- The difference of two doubles is the double in whose interval the exact difference lies. -/
theorem sub (hx : StandsFor x b) (hy : StandsFor y c) (hd : d.Canonical)
    (hnegative : d.negative = false) (hpos : 0 < d.significand)
    (hv : d.Attracts (b.value - c.value)) : StandsFor (x - y) d := by
  have hdifference : x - y = packed (.finite .positive d.significand d.exponent hpos) := by
    change packed (UnpackedFloat.sub .binary64 x.toModel.unpack y.toModel.unpack) = _
    rw [hx.unpack_eq, hy.unpack_eq, sub_eq hd hpos hv]
  rw [hdifference]
  exact .of_packed hd hnegative hpos

/-- The difference of doubles that stand for the same number is zero. -/
theorem sub_eq_zero_of_value_eq (hx : StandsFor x b) (hy : StandsFor y c) (h : b.value = c.value) :
    x - y = 0.0 := by
  change packed (UnpackedFloat.sub .binary64 x.toModel.unpack y.toModel.unpack) = _
  rw [hx.unpack_eq, hy.unpack_eq, sub_eq_zero_of_eq h]
  rfl

end StandsFor

/-- A natural number with its significand shifted to full precision. -/
def wholeBinary (n : Nat) : Binary :=
  ⟨false, n * 2 ^ (52 - n.log2), -((52 - n.log2 : Nat) : Int)⟩

/-- The form of a natural number is canonical and fills its significand. -/
theorem wholeBinary_canonical {n : Nat} (hpos : 0 < n) (hlt : n < 2 ^ 53) :
    (wholeBinary n).Canonical ∧ 2 ^ 52 ≤ (wholeBinary n).significand := by
  have hlog : n.log2 ≤ 52 := Nat.le_of_lt_succ ((Nat.log2_lt (Nat.ne_of_gt hpos)).mpr hlt)
  have hsum : n.log2 + (52 - n.log2) = 52 := by omega
  have hlower : 2 ^ 52 ≤ n * 2 ^ (52 - n.log2) := by
    calc 2 ^ 52 = 2 ^ n.log2 * 2 ^ (52 - n.log2) := by rw [← pow_add, hsum]
      _ ≤ n * 2 ^ (52 - n.log2) :=
        Nat.mul_le_mul_right _ (Nat.log2_self_le (Nat.ne_of_gt hpos))
  have hupper : n * 2 ^ (52 - n.log2) < 2 ^ 53 := by
    calc n * 2 ^ (52 - n.log2) < 2 ^ (n.log2 + 1) * 2 ^ (52 - n.log2) :=
        Nat.mul_lt_mul_of_pos_right Nat.lt_log2_self (by positivity)
      _ = 2 ^ 53 := by
        rw [← pow_add]
        congr 1
        omega
  have hleast : leastExponent = -1074 := rfl
  refine ⟨⟨hupper, .inl hlower, ?_, ?_⟩, hlower⟩
  · change leastExponent ≤ -((52 - n.log2 : Nat) : Int)
    omega
  · change -((52 - n.log2 : Nat) : Int) ≤ 971
    omega

/-- The form of a natural number has it as its value. -/
theorem wholeBinary_value (n : Nat) : (wholeBinary n).value = n := by
  have hstep : (2 : ℚ) ^ (52 - n.log2) ≠ 0 := by positivity
  simp only [wholeBinary, Binary.value, zpow_neg, zpow_natCast]
  push_cast
  field_simp

/-- A natural number of at most 53 binary digits is a double. -/
theorem standsFor_toFloat {n : Nat} (hpos : 0 < n) (hlt : n < 2 ^ 53) :
    StandsFor n.toUInt64.toFloat (wholeBinary n) := by
  obtain ⟨hcanonical, hfull⟩ := wholeBinary_canonical hpos hlt
  have hsignificand : 0 < (wholeBinary n).significand := Nat.lt_of_lt_of_le (by decide) hfull
  have hword : n.toUInt64.toNat = n := by
    rw [Nat.toUInt64_eq]
    exact UInt64.toNat_ofNat_of_lt' (Nat.lt_trans hlt (by decide))
  have hround : UnpackedFloat.ofNat .binary64 n = .round .binary64 .positive n 0 := by
    have hgreater : compare (n : Int) 0 = .gt := by
      rw [Int.compare_eq_gt]
      omega
    simp only [UnpackedFloat.ofNat, UnpackedFloat.ofInt, UnpackedFloat.normalize, hgreater,
      Int.toNat_natCast]
  have hattracts : (wholeBinary n).Attracts (n * 2 ^ (0 : Int)) := by
    rw [zpow_zero, mul_one, ← wholeBinary_value n]
    exact Binary.attracts_value
  have hfloat : n.toUInt64.toFloat =
      packed (.finite .positive (wholeBinary n).significand (wholeBinary n).exponent
        hsignificand) := by
    change packed (UnpackedFloat.ofNat .binary64 n.toUInt64.toNat) = _
    rw [hword, hround, round_eq hpos hcanonical hsignificand hattracts]
  rw [hfloat]
  exact .of_packed hcanonical rfl hsignificand

/-- The tabled powers of ten are exact. -/
theorem standsFor_powerOfTen {n : Nat} (hn : n < Float.exactlyRepresentablePowersOfTen.size) :
    ∃ b, StandsFor Float.exactlyRepresentablePowersOfTen[n] b ∧ 2 ^ 52 ≤ b.significand ∧
      b.value = 10 ^ n := by
  have htable : ∀ k : Fin 23, form Float.exactlyRepresentablePowersOfTen[k] =
      .finite ⟨false, (wholeBinary (5 ^ k.val)).significand,
        (wholeBinary (5 ^ k.val)).exponent + k.val⟩ := by
    decide +kernel
  have hn : n < 23 := hn
  have hlt : 5 ^ n < 2 ^ 53 := by
    calc 5 ^ n ≤ 5 ^ 22 := Nat.pow_le_pow_right (by decide) (by omega)
      _ < 2 ^ 53 := by decide
  obtain ⟨-, hfull⟩ := wholeBinary_canonical (by positivity : 0 < 5 ^ n) hlt
  refine ⟨_, ⟨htable ⟨n, hn⟩, rfl, Nat.lt_of_lt_of_le (by decide) hfull⟩, hfull, ?_⟩
  have hvalue := wholeBinary_value (5 ^ n)
  unfold Binary.value at hvalue ⊢
  rw [zpow_add₀ two_ne_zero, zpow_natCast, ← mul_assoc, hvalue]
  push_cast
  rw [← mul_pow]
  norm_num

/-! ## The size of a decimal number -/

section Size

variable {b : Binary} {v : ℚ} {digits : Nat}

/-- What is rounded to a double is smaller than the first power of two that is none. -/
theorem Binary.Attracts.lt_pow (h : b.Attracts v) (hb : b.Canonical) : v < 2 ^ (1024 : Int) := by
  have hexponent := hb.exponent_le
  exact (h.lt_zpow hb).trans_le (zpow_le_zpow_right₀ one_le_two (by omega))

/-- What is rounded to a double other than zero is at least half of the least double. -/
theorem Binary.Attracts.pow_le (h : b.Attracts v) (hb : b.Canonical) (hpos : 0 < b.significand) :
    2 ^ (-1075 : Int) ≤ v := by
  have hunit : (0 : ℚ) < 2 ^ b.exponent := by positivity
  have hone : (1 : ℚ) ≤ b.significand := by exact_mod_cast hpos
  have hleast : leastExponent = -1074 := rfl
  have hexponent := hb.le_exponent
  calc (2 : ℚ) ^ (-1075 : Int) ≤ 2 ^ (b.exponent - 1) :=
        zpow_le_zpow_right₀ one_le_two (by omega)
    _ = 1 / 2 * 2 ^ b.exponent := by
        rw [zpow_sub_one₀ two_ne_zero]
        ring
    _ ≤ (b.significand - 1 / 2) * 2 ^ b.exponent :=
        mul_le_mul_of_nonneg_right (by linarith) (le_of_lt hunit)
    _ ≤ v := h.half_le

private theorem ten_pow_le_two_pow (n : Nat) : 10 ^ (n * 3 / 10) ≤ 2 ^ n := by
  refine (Nat.pow_le_pow_iff_left (by decide : 10 ≠ 0)).mp ?_
  calc (10 ^ (n * 3 / 10)) ^ 10 = 10 ^ (n * 3 / 10 * 10) := (pow_mul _ _ _).symm
    _ ≤ 10 ^ (3 * n) := Nat.pow_le_pow_right (by decide) (by omega)
    _ = (10 ^ 3) ^ n := pow_mul _ _ _
    _ ≤ (2 ^ 10) ^ n := Nat.pow_le_pow_left (by decide) n
    _ = (2 ^ n) ^ 10 := by rw [← pow_mul, ← pow_mul, Nat.mul_comm]

private theorem two_pow_le_ten_pow (n : Nat) : 2 ^ n ≤ 10 ^ (n * 4 / 13 + 1) := by
  refine (Nat.pow_le_pow_iff_left (by decide : 13 ≠ 0)).mp ?_
  calc (2 ^ n) ^ 13 = (2 ^ 13) ^ n := by rw [← pow_mul, ← pow_mul, Nat.mul_comm]
    _ ≤ (10 ^ 4) ^ n := Nat.pow_le_pow_left (by decide) n
    _ = 10 ^ (4 * n) := (pow_mul _ _ _).symm
    _ ≤ 10 ^ ((n * 4 / 13 + 1) * 13) := Nat.pow_le_pow_right (by decide) (by omega)
    _ = (10 ^ (n * 4 / 13 + 1)) ^ 13 := pow_mul _ _ _

private theorem zpow_ten_add (m : Nat) (n : Int) : (10 : ℚ) ^ (m + n) = 10 ^ m * 10 ^ n := by
  rw [zpow_add₀ (by norm_num), zpow_natCast]

/-- A decimal number is as great as its number of digits tells. -/
theorem zpow_le_decimal (hpos : 0 < digits) (exponent : Int) :
    (10 : ℚ) ^ ((digits.log2 * 3 / 10 : Nat) + exponent) ≤ digits * 10 ^ exponent := by
  have hlower : (10 : ℚ) ^ (digits.log2 * 3 / 10) ≤ digits := by
    exact_mod_cast (ten_pow_le_two_pow digits.log2).trans (Nat.log2_self_le (Nat.ne_of_gt hpos))
  rw [zpow_ten_add]
  exact mul_le_mul_of_nonneg_right hlower (by positivity)

/-- A decimal number is not greater than its number of digits tells. -/
theorem decimal_lt_zpow (exponent : Int) :
    digits * (10 : ℚ) ^ exponent < 10 ^ (((digits.log2 + 1) * 4 / 13 + 1 : Nat) + exponent) := by
  have hupper : (digits : ℚ) < 10 ^ ((digits.log2 + 1) * 4 / 13 + 1) := by
    exact_mod_cast (Nat.lt_log2_self (n := digits)).trans_le (two_pow_le_ten_pow (digits.log2 + 1))
  rw [zpow_ten_add]
  exact mul_lt_mul_of_pos_right hupper (by positivity)

end Size

/-! ## Reading decimal numbers -/

section Reading

variable {b : Binary} {digits : Nat} {exponent : Int}

/-- A decimal number that is rounded to a double other than zero is neither too great nor too small
for the reader to form it. -/
theorem size_of_attracts (hb : b.Canonical) (hpos : 0 < b.significand) (hdigits : 0 < digits)
    (hv : b.Attracts (digits * 10 ^ exponent)) :
    ((digits.log2 * 3 / 10 : Nat) : Int) + exponent < 309 ∧
      -324 < (((digits.log2 + 1) * 4 / 13 + 1 : Nat) : Int) + exponent := by
  have hten : (1 : ℚ) < 10 := by norm_num
  constructor
  · have hpower : (2 : ℚ) ^ (1024 : Int) < 10 ^ (309 : Int) := by
      have hnat : 2 ^ 1024 < 10 ^ 309 := by decide +kernel
      exact_mod_cast hnat
    exact (zpow_lt_zpow_iff_right₀ hten).mp
      ((zpow_le_decimal hdigits exponent).trans_lt ((hv.lt_pow hb).trans hpower))
  · have hpower : (10 : ℚ) ^ (-324 : Int) < 2 ^ (-1075 : Int) := by
      have hnat : 2 ^ 1075 < 10 ^ 324 := by decide +kernel
      rw [zpow_neg, zpow_neg, inv_lt_inv₀ (by positivity) (by positivity)]
      exact_mod_cast hnat
    exact (zpow_lt_zpow_iff_right₀ hten).mp
      (hpower.trans_le ((hv.pow_le hb hpos).trans (le_of_lt (decimal_lt_zpow exponent))))

/-- A decimal number is rounded from its exact fraction to the double in whose interval it lies. -/
theorem ofScientific_eq (hb : b.Canonical) (hpos : 0 < b.significand) (hdigits : 0 < digits)
    (hv : b.Attracts (digits * 10 ^ exponent)) :
    UnpackedFloat.ofScientific .binary64 digits exponent =
      .finite .positive b.significand b.exponent hpos := by
  obtain ⟨hgreatest, hleast⟩ := size_of_attracts hb hpos hdigits hv
  have hbits : (2 : Int) ^ Format.binary64.exponentBits = 2048 := rfl
  unfold UnpackedFloat.ofScientific
  rw [dif_neg (Nat.ne_of_gt hdigits), if_neg (by omega), if_neg (by omega)]
  by_cases hnonneg : 0 ≤ exponent
  · obtain ⟨n, rfl⟩ := Int.eq_ofNat_of_zero_le hnonneg
    have hvalue : ((digits <<< 53 : Nat) * 2 ^ (-53 : Int) * ((10 ^ n : Nat) * 2 ^ (0 : Int)) : ℚ) =
        digits * 10 ^ (n : Int) := by
      have hscale : (2 : ℚ) ^ (-53 : Int) = 1 / 9007199254740992 := by norm_num
      rw [Nat.shiftLeft_eq, hscale, zpow_zero, zpow_natCast]
      push_cast
      ring
    have hlarge : 2 ^ 53 ≤ digits <<< 53 * 10 ^ n := by
      rw [Nat.shiftLeft_eq, Nat.mul_right_comm]
      exact Nat.le_mul_of_pos_left _ (by positivity)
    rw [← hvalue] at hv
    rw [if_pos hnonneg]
    exact mul_eq (.inl hlarge) hb hpos hv
  · obtain ⟨n, rfl⟩ : ∃ n : Nat, exponent = -n := ⟨(-exponent).toNat, by omega⟩
    have hvalue : (digits * 2 ^ (0 : Int) / ((10 ^ n : Nat) * 2 ^ (0 : Int)) : ℚ) =
        digits * 10 ^ (-n : Int) := by
      rw [zpow_neg, zpow_zero, zpow_natCast]
      push_cast
      field_simp
    rw [← hvalue] at hv
    rw [if_neg hnonneg]
    have hdenominator : (-(-n : Int)).toNat = n := by omega
    simp only [hdenominator]
    exact div_eq hb hpos hv

/-- A decimal number in the interval of a positive double is read as that double. -/
theorem standsFor_ofDecimal (hb : b.Canonical) (hnegative : b.negative = false)
    (hpos : 0 < b.significand) (hv : b.Attracts (digits * 10 ^ exponent)) :
    StandsFor (ofDecimal digits exponent) b := by
  have hdigits : 0 < digits := by
    rw [Nat.pos_iff_ne_zero]
    rintro rfl
    have hleast := hv.pow_le hb hpos
    have hzero : (0 : ℚ) < 2 ^ (-1075 : Int) := by positivity
    simp only [Nat.cast_zero, zero_mul] at hleast
    exact absurd hleast (not_le.mpr hzero)
  obtain ⟨hgreatest, hleast⟩ := size_of_attracts hb hpos hdigits hv
  unfold ofDecimal
  rw [if_neg (Nat.ne_of_gt hdigits), if_neg (by omega), if_neg (by omega)]
  unfold Float.ofScientific
  split
  · rename_i hfast
    obtain ⟨hlt, hlimit⟩ := hfast
    have hwhole := standsFor_toFloat hdigits hlt
    obtain ⟨-, hfull⟩ := wholeBinary_canonical hdigits hlt
    have hsize : exponent.natAbs < Float.exactlyRepresentablePowersOfTen.size :=
      Nat.lt_succ_of_le hlimit
    obtain ⟨c, hpower, hfullc, hvalue⟩ := standsFor_powerOfTen hsize
    by_cases hsign : exponent < 0
    · have hten : (10 : ℚ) ^ exponent = (10 ^ exponent.natAbs)⁻¹ := by
        rw [← zpow_natCast, ← zpow_neg]
        congr 1
        omega
      rw [hten, ← div_eq_mul_inv, ← hvalue, ← wholeBinary_value digits] at hv
      rw [if_pos (by simpa using hsign)]
      exact hwhole.div hpower hb hnegative hpos hv
    · have hten : (10 : ℚ) ^ exponent = 10 ^ exponent.natAbs := by
        rw [← zpow_natCast]
        congr 1
        omega
      have hlarge : 2 ^ 53 ≤ (wholeBinary digits).significand * c.significand := by
        calc 2 ^ 53 ≤ 2 ^ 52 * 2 ^ 52 := by decide
          _ ≤ (wholeBinary digits).significand * c.significand := Nat.mul_le_mul hfull hfullc
      rw [hten, ← hvalue, ← wholeBinary_value digits] at hv
      rw [if_neg (by simpa using hsign)]
      exact hwhole.mul hpower (.inl hlarge) hb hnegative hpos hv
  · have hexponent : (if (decide (exponent < 0)) = true then Int.negOfNat exponent.natAbs
        else Int.ofNat exponent.natAbs) = exponent := by
      by_cases hsign : exponent < 0
      · rw [if_pos (decide_eq_true hsign), Int.negOfNat_eq, Int.ofNat_eq_natCast]
        omega
      · rw [if_neg (by simpa using hsign), Int.ofNat_eq_natCast]
        omega
    change StandsFor (packed (UnpackedFloat.ofScientific .binary64 digits _)) b
    rw [hexponent, ofScientific_eq hb hpos hdigits hv]
    exact .of_packed hb hnegative hpos

/-- A decimal number in the interval of a positive double is read as that double. -/
theorem ofDecimal_eq {x : Float} (hx : StandsFor x b) (hv : b.Attracts (digits * 10 ^ exponent)) :
    ofDecimal digits exponent = x :=
  eq_of_form_eq (standsFor_ofDecimal hx.canonical hx.negative_eq hx.significand_pos hv).form_eq
    hx.form_eq

end Reading

end Spreadsheet.Number
