import Mathlib
import Spreadsheet.Proofs.Number.Form

/-!
# Rounding to the nearest double

Every double has an interval of numbers that are rounded to it: half the way to its neighbours, the
ends included if its significand is even. The interval is shorter below a power of two. Rounding a
number that lies in the interval of a double gives this double, however many digits the number is
given with.
-/

namespace Spreadsheet.Number

open Float.Model Float.Model.UnpackedFloat

/-! ## Intervals -/

namespace Binary

variable (b : Binary)

/-- The magnitude as a rational number. -/
def value : ℚ :=
  b.significand * 2 ^ b.exponent

/-- The quarters of the last place that belong to the interval of the number below it. -/
def quartersBelow : Nat :=
  if b.significand = fullSignificand ∧ leastExponent < b.exponent then 1 else 2

/-- The lower end of the interval. -/
def lower : ℚ :=
  (b.significand - b.quartersBelow / 4) * 2 ^ b.exponent

/-- The upper end of the interval. -/
def upper : ℚ :=
  (b.significand + 1 / 2) * 2 ^ b.exponent

/-- The rational number lies in the interval of the double. -/
structure Attracts (v : ℚ) : Prop where
  /-- It is not below the lower end. -/
  lower_le : b.lower ≤ v
  /-- It is not above the upper end. -/
  le_upper : v ≤ b.upper
  /-- An end belongs to the interval of the even one of two doubles. -/
  even_of_end : v = b.lower ∨ v = b.upper → b.significand % 2 = 0

end Binary

/-! ## Digits that are dropped -/

/-- A fraction is its whole part and what is left of it. -/
theorem natCast_div_eq (n : Nat) {d : Nat} (hd : 0 < d) :
    (n : ℚ) / d = (n / d : Nat) + (n % d : Nat) / d := by
  have hpos : (0 : ℚ) < d := by exact_mod_cast hd
  have hsplit : (n : ℚ) = d * (n / d : Nat) + (n % d : Nat) := by
    exact_mod_cast (Nat.div_add_mod n d).symm
  field_simp
  linarith

/-- The extended mantissa stands for the rational number: the round bit is the half, and the sticky
bit tells whether there is a rest behind it. -/
def Represents (em : ExtendedMantissa) (q : ℚ) : Prop :=
  ∃ rest : ℚ, q = em.mantissa + em.roundBit.toNat / 2 + rest ∧ 0 ≤ rest ∧ rest < 1 / 2 ∧
    (em.stickyBit = true ↔ rest ≠ 0)

namespace Represents

variable {em : ExtendedMantissa} {q : ℚ}

/-- An exact natural number represents itself. -/
theorem of_exact (n : Nat) : Represents (.ofMantissaAndAccuracy n .exact) n :=
  ⟨0, by simp [ExtendedMantissa.ofMantissaAndAccuracy], le_refl 0, by norm_num,
    by simp [ExtendedMantissa.ofMantissaAndAccuracy]⟩

/-- A quotient and what is known about its remainder stand for the fraction. -/
theorem of_fraction (n : Nat) {d : Nat} (hd : 0 < d) :
    Represents (.ofMantissaAndAccuracy (n / d) (accuracyOfFraction (n % d) d)) (n / d) := by
  have hpos : (0 : ℚ) < d := by exact_mod_cast hd
  have hless : n % d < d := Nat.mod_lt n hd
  rw [natCast_div_eq n hd]
  generalize n / d = whole
  generalize n % d = rest at hless
  unfold accuracyOfFraction
  by_cases hrest : rest = 0
  · subst hrest
    rw [if_pos rfl]
    refine ⟨0, ?_, le_refl 0, by norm_num, ?_⟩
    · simp [ExtendedMantissa.ofMantissaAndAccuracy]
    · simp [ExtendedMantissa.ofMantissaAndAccuracy]
  · have hpositive : (0 : ℚ) < rest / d := by
      have : 0 < rest := Nat.pos_of_ne_zero hrest
      positivity
    rw [if_neg hrest]
    cases hcompare : compare (2 * rest) d with
    | lt =>
      have hhalf : (2 * rest : ℚ) < d := by exact_mod_cast Nat.compare_eq_lt.mp hcompare
      refine ⟨rest / d, ?_, le_of_lt hpositive, ?_, ?_⟩
      · simp [ExtendedMantissa.ofMantissaAndAccuracy]
      · rw [div_lt_iff₀ hpos]
        linarith
      · simp only [ExtendedMantissa.ofMantissaAndAccuracy, true_iff]
        exact ne_of_gt hpositive
    | eq =>
      have hequal : (2 * rest : ℚ) = d := by exact_mod_cast Nat.compare_eq_eq.mp hcompare
      refine ⟨0, ?_, le_refl 0, by norm_num, ?_⟩
      · have hhalf : (rest : ℚ) / d = 1 / 2 := by
          rw [div_eq_iff (ne_of_gt hpos)]
          linarith
        simp [ExtendedMantissa.ofMantissaAndAccuracy, hhalf]
      · simp [ExtendedMantissa.ofMantissaAndAccuracy]
    | gt =>
      have hgreater : (d : ℚ) < 2 * rest := by exact_mod_cast Nat.compare_eq_gt.mp hcompare
      have habove : 1 / 2 < (rest : ℚ) / d := by
        rw [lt_div_iff₀ hpos]
        linarith
      have hbelow : (rest : ℚ) / d < 1 := by
        rw [div_lt_one hpos]
        exact_mod_cast hless
      refine ⟨rest / d - 1 / 2, ?_, by linarith, by linarith, ?_⟩
      · simp only [ExtendedMantissa.ofMantissaAndAccuracy, Bool.toNat_true, Nat.cast_one]
        ring
      · simp only [ExtendedMantissa.ofMantissaAndAccuracy, true_iff]
        exact ne_of_gt (by linarith)

/-- Shifting by one digit halves. -/
theorem shiftRightOne (h : Represents em q) : Represents em.shiftRightOne (q / 2) := by
  obtain ⟨rest, rfl, hnonneg, hlt, hsticky⟩ := h
  have hdigits : (em.mantissa : ℚ) = 2 * (em.mantissa / 2 : Nat) + (em.mantissa % 2 : Nat) := by
    exact_mod_cast (Nat.div_add_mod em.mantissa 2).symm
  have hbit : (em.mantissa % 2 != 0).toNat = em.mantissa % 2 := by
    rcases Nat.mod_two_eq_zero_or_one em.mantissa with h | h <;> simp [h]
  refine ⟨em.roundBit.toNat / 4 + rest / 2, ?_, by positivity, ?_, ?_⟩
  · rw [ExtendedMantissa.shiftRightOne, hbit, hdigits]
    ring
  · have hround : (em.roundBit.toNat : ℚ) ≤ 1 := by exact_mod_cast Bool.toNat_le em.roundBit
    linarith
  · have hround : (0 : ℚ) ≤ em.roundBit.toNat / 4 := by positivity
    rw [ExtendedMantissa.shiftRightOne, Bool.or_eq_true, hsticky]
    cases em.roundBit with
    | false => simp
    | true =>
      simp only [true_or, Bool.toNat_true, true_iff]
      positivity

/-- Shifting to the right divides what is represented by a power of two. -/
theorem shiftRight (h : Represents em q) (n : Nat) : Represents (em >>> n) (q / 2 ^ n) := by
  change Represents (n.repeat ExtendedMantissa.shiftRightOne em) _
  induction n with
  | zero => simpa [Nat.repeat] using h
  | succ n ih =>
    have hnext := ih.shiftRightOne
    rw [div_div, ← pow_succ] at hnext
    exact hnext

/-- The rounded mantissa is the nearest natural number, the even one of two equally near. -/
theorem roundedMantissa_eq (h : Represents em q) {n : Nat} (hlow : n - 1 / 2 ≤ q)
    (hhigh : q ≤ n + 1 / 2) (heven : q = n - 1 / 2 ∨ q = n + 1 / 2 → n % 2 = 0) :
    em.roundedMantissa = n := by
  obtain ⟨rest, rfl, hnonneg, hlt, hsticky⟩ := h
  obtain ⟨mantissa, roundBit, stickyBit⟩ := em
  dsimp only at hlow hhigh heven hsticky ⊢
  cases roundBit with
  | false =>
    -- The number lies within half a unit above the mantissa.
    simp only [Bool.toNat_false, Nat.cast_zero, zero_div, add_zero] at hlow hhigh
    have habove : n < mantissa + 1 := by
      have : (n : ℚ) < mantissa + 1 := by linarith
      exact_mod_cast this
    have hbelow : mantissa < n + 1 := by
      have : (mantissa : ℚ) < n + 1 := by linarith
      exact_mod_cast this
    have heq : mantissa = n := by omega
    cases stickyBit with
    | false => exact heq
    | true => exact heq
  | true =>
    simp only [Bool.toNat_true, Nat.cast_one] at hlow hhigh heven
    cases stickyBit with
    | false =>
      -- The number lies in the middle between two others.
      have hrest : rest = 0 := by simpa using hsticky
      subst hrest
      simp only [add_zero] at hlow hhigh heven
      have habove : n ≤ mantissa + 1 := by
        have : (n : ℚ) ≤ mantissa + 1 := by linarith
        exact_mod_cast this
      have hbelow : mantissa ≤ n := by
        have : (mantissa : ℚ) ≤ n := by linarith
        exact_mod_cast this
      change mantissa + mantissa % 2 = n
      rcases Nat.eq_or_lt_of_le hbelow with rfl | hlt
      · have := heven (.inr rfl)
        omega
      · obtain rfl : n = mantissa + 1 := by omega
        have := heven (.inl (by push_cast; ring))
        omega
    | true =>
      have hrest : 0 < rest := lt_of_le_of_ne hnonneg (Ne.symm (hsticky.mp rfl))
      have habove : n < mantissa + 2 := by
        have : (n : ℚ) < mantissa + 2 := by linarith
        exact_mod_cast this
      have hbelow : mantissa < n := by
        have : (mantissa : ℚ) < n := by linarith
        exact_mod_cast this
      change mantissa + 1 = n
      omega

end Represents

/-! ## Exponents -/

/-- A number is rounded to 53 digits to the base two, or to the last place of the least doubles. -/
theorem targetExponent_eq (total : Int) :
    Format.binary64.targetExponent total = max (total - 53) leastExponent := by
  have hleast : Format.binary64.minExponent = leastExponent := by decide
  rw [Format.targetExponent, hleast]
  rfl

/-- A mantissa with an accuracy keeps its digits. -/
theorem mantissa_ofMantissaAndAccuracy (mantissa : Nat) (accuracy : Accuracy) :
    (ExtendedMantissa.ofMantissaAndAccuracy mantissa accuracy).mantissa = mantissa := by
  cases accuracy with
  | exact => rfl
  | inexact order => cases order <;> rfl

/-- The number behind a mantissa lies less than a unit above it. -/
theorem Represents.floor {em : ExtendedMantissa} {q : ℚ} (h : Represents em q) :
    em.mantissa ≤ q ∧ q < em.mantissa + 1 := by
  obtain ⟨rest, rfl, hnonneg, hlt, -⟩ := h
  have hround : (0 : ℚ) ≤ em.roundBit.toNat ∧ (em.roundBit.toNat : ℚ) ≤ 1 :=
    ⟨by positivity, by exact_mod_cast Bool.toNat_le em.roundBit⟩
  constructor
  · linarith
  · linarith

section Total

variable {mantissa : Nat} (exponent : Int) {q : ℚ}

/-- The total exponent is that of the first power of two above the number. -/
theorem lt_zpow_totalExponent (hlt : q < mantissa + 1) :
    q * 2 ^ exponent < 2 ^ totalExponent mantissa exponent := by
  have hlog : (mantissa : ℚ) + 1 ≤ 2 ^ (mantissa.log2 + 1) := by
    exact_mod_cast Nat.succ_le_of_lt (@Nat.lt_log2_self mantissa)
  have hunit : (0 : ℚ) < 2 ^ exponent := by positivity
  calc q * 2 ^ exponent < 2 ^ (mantissa.log2 + 1) * 2 ^ exponent := by
        exact mul_lt_mul_of_pos_right (lt_of_lt_of_le hlt hlog) hunit
    _ = 2 ^ totalExponent mantissa exponent := by
        rw [totalExponent, zpow_add₀ two_ne_zero, ← zpow_natCast]
        push_cast
        rfl

/-- A number has at least as many digits to the base two as its mantissa. -/
theorem zpow_totalExponent_le (hpos : mantissa ≠ 0) (hle : mantissa ≤ q) :
    2 ^ (totalExponent mantissa exponent - 1) ≤ q * 2 ^ exponent := by
  have hlog : (2 : ℚ) ^ mantissa.log2 ≤ mantissa := by
    exact_mod_cast Nat.log2_self_le hpos
  have hunit : (0 : ℚ) < 2 ^ exponent := by positivity
  calc (2 : ℚ) ^ (totalExponent mantissa exponent - 1)
      = 2 ^ mantissa.log2 * 2 ^ exponent := by
        rw [← zpow_natCast, ← zpow_add₀ two_ne_zero, totalExponent]
        congr 1
        ring
    _ ≤ q * 2 ^ exponent := by
        exact mul_le_mul_of_nonneg_right (le_trans hlog hle) (le_of_lt hunit)

end Total

/-- Powers of two are ordered as their exponents. -/
theorem zpow_two_lt_iff {m n : Int} : (2 : ℚ) ^ m < 2 ^ n ↔ m < n :=
  zpow_lt_zpow_iff_right₀ one_lt_two

/-- A power of two with a natural number added to its exponent is a multiple. -/
theorem zpow_two_add (m : Nat) (n : Int) : (2 : ℚ) ^ (m + n) = 2 ^ m * 2 ^ n := by
  rw [zpow_add₀ two_ne_zero, zpow_natCast]

namespace Binary.Attracts

variable {b : Binary} {v : ℚ}

/-- A number that is rounded to a double lies below the next power of two. -/
theorem lt_zpow (h : b.Attracts v) (hb : b.Canonical) : v < 2 ^ (53 + b.exponent) := by
  have hunit : (0 : ℚ) < 2 ^ b.exponent := by positivity
  have hsignificand : (b.significand : ℚ) + 1 ≤ 2 ^ 53 := by
    exact_mod_cast Nat.succ_le_of_lt hb.significand_lt
  calc v ≤ (b.significand + 1 / 2) * 2 ^ b.exponent := h.le_upper
    _ < 2 ^ 53 * 2 ^ b.exponent := by
        exact mul_lt_mul_of_pos_right (by linarith) hunit
    _ = 2 ^ (53 + b.exponent) := (zpow_two_add 53 b.exponent).symm

/-- At most half of the last place lies below a double in its interval. -/
theorem quartersBelow_le (b : Binary) : (b.quartersBelow : ℚ) ≤ 2 := by
  unfold quartersBelow
  split <;> norm_num

/-- It lies above half of the last place below the double. -/
theorem half_le (h : b.Attracts v) : (b.significand - 1 / 2) * 2 ^ b.exponent ≤ v := by
  have hunit : (0 : ℚ) < 2 ^ b.exponent := by positivity
  have hquarters := quartersBelow_le b
  refine le_trans (mul_le_mul_of_nonneg_right ?_ (le_of_lt hunit)) h.lower_le
  linarith

/-- Where the double is the first one behind a power of two, the number lies below it by a quarter
of the last place at most. -/
theorem quarter_le (h : b.Attracts v) (hfull : b.significand = 2 ^ 52)
    (hexponent : leastExponent < b.exponent) : (2 ^ 52 - 1 / 4) * 2 ^ b.exponent ≤ v := by
  have hlower := h.lower_le
  have hone : b.quartersBelow = 1 := if_pos ⟨hfull, hexponent⟩
  rw [lower, hone, hfull] at hlower
  push_cast at hlower
  exact hlower

/-- Below a power of two, only the first double behind it attracts a number. -/
theorem significand_eq_of_lt (h : b.Attracts v) (hfull : 2 ^ 52 ≤ b.significand)
    (hlt : v < 2 ^ (52 + b.exponent)) : b.significand = 2 ^ 52 := by
  by_contra hne
  have hunit : (0 : ℚ) < 2 ^ b.exponent := by positivity
  have hgreater : (2 : ℚ) ^ 52 + 1 ≤ b.significand := by
    have : 2 ^ 52 + 1 ≤ b.significand := by omega
    exact_mod_cast this
  have hcontra := lt_of_le_of_lt h.half_le hlt
  rw [show (52 + b.exponent) = ((52 : Nat) : Int) + b.exponent from rfl, zpow_two_add] at hcontra
  nlinarith

/-- A double that is not zero attracts no number below half of its last place. -/
theorem zpow_le (h : b.Attracts v) (hpos : 0 < b.significand) : 2 ^ (b.exponent - 1) ≤ v := by
  have hunit : (0 : ℚ) < 2 ^ b.exponent := by positivity
  have hone : (1 : ℚ) ≤ b.significand := by exact_mod_cast hpos
  refine le_trans ?_ h.half_le
  rw [zpow_sub_one₀ two_ne_zero]
  nlinarith

/-- The exponent to which a number is shifted is that of the double that it is rounded to, or one
less if it lies below the first double behind a power of two. -/
theorem targetExponent_cases (h : b.Attracts v) (hb : b.Canonical) (hpos : 0 < b.significand)
    {mantissa : Nat} {exponent : Int} {q : ℚ} (hv : v = q * 2 ^ exponent) (hle : mantissa ≤ q)
    (hlt : q < mantissa + 1)
    (hshift : exponent ≤ Format.binary64.targetExponent (totalExponent mantissa exponent)) :
    Format.binary64.targetExponent (totalExponent mantissa exponent) = b.exponent ∨
      Format.binary64.targetExponent (totalExponent mantissa exponent) = b.exponent - 1 ∧
        b.significand = 2 ^ 52 ∧ leastExponent < b.exponent ∧ v < 2 ^ (52 + b.exponent) := by
  have hunit : (0 : ℚ) < 2 ^ b.exponent := by positivity
  have hupper := h.lt_zpow hb
  have htotal := lt_zpow_totalExponent exponent hlt
  have hleast := hb.le_exponent
  rw [← hv] at htotal
  rw [targetExponent_eq] at hshift ⊢
  by_cases hzero : mantissa = 0
  · -- All of the number is rest, so it lies between a half and one of the last place.
    subst hzero
    have hbelow : v < 2 ^ exponent := by
      have hstep : (0 : ℚ) < 2 ^ exponent := by positivity
      rw [hv]
      simpa using mul_lt_mul_of_pos_right hlt hstep
    have hexponent : b.exponent - 1 < exponent :=
      zpow_two_lt_iff.mp (lt_of_le_of_lt (h.zpow_le hpos) hbelow)
    have hnone : totalExponent 0 exponent = 1 + exponent := by simp [totalExponent]
    rw [hnone] at hshift ⊢
    left
    omega
  · have hlower := zpow_totalExponent_le exponent hzero hle
    rw [← hv] at hlower
    have hat_most : totalExponent mantissa exponent - 1 < 53 + b.exponent :=
      zpow_two_lt_iff.mp (lt_of_le_of_lt hlower hupper)
    by_cases hexponent : b.exponent = leastExponent
    · left
      omega
    · have hfull : 2 ^ 52 ≤ b.significand := hb.full.resolve_right hexponent
      by_cases hregular : 2 ^ (52 + b.exponent) ≤ v
      · have hat_least : 52 + b.exponent < totalExponent mantissa exponent :=
          zpow_two_lt_iff.mp (lt_of_le_of_lt hregular htotal)
        left
        omega
      · rw [not_le] at hregular
        have hfirst : b.significand = 2 ^ 52 := h.significand_eq_of_lt hfull hregular
        have hquarter := h.quarter_le hfirst (by omega)
        have hat_least : 51 + b.exponent < totalExponent mantissa exponent := by
          refine zpow_two_lt_iff.mp (lt_of_lt_of_le ?_ (le_of_lt htotal))
          refine lt_of_lt_of_le ?_ hquarter
          rw [show (51 + b.exponent) = ((51 : Nat) : Int) + b.exponent from rfl, zpow_two_add]
          exact mul_lt_mul_of_pos_right (by norm_num) hunit
        have hat_most : totalExponent mantissa exponent - 1 < 52 + b.exponent :=
          zpow_two_lt_iff.mp (lt_of_le_of_lt hlower hregular)
        right
        exact ⟨by omega, hfirst, by omega, hregular⟩

end Binary.Attracts

/-! ## Rounding -/

namespace Represents

variable {em : ExtendedMantissa} {q : ℚ} {b : Binary}

/-- At the exponent of a double, a number of its interval is rounded to its significand. -/
theorem roundedMantissa_of_attracts (h : Represents em q) (hv : b.Attracts (q * 2 ^ b.exponent)) :
    em.roundedMantissa = b.significand := by
  have hunit : (0 : ℚ) < 2 ^ b.exponent := by positivity
  have hquarters := Binary.Attracts.quartersBelow_le b
  refine h.roundedMantissa_eq ?_ ?_ ?_
  · exact le_of_mul_le_mul_right hv.half_le hunit
  · exact le_of_mul_le_mul_right hv.le_upper hunit
  · rintro (hlow | hhigh)
    · refine hv.even_of_end (.inl ?_)
      have hlower := le_of_mul_le_mul_right hv.lower_le hunit
      have hends : (b.quartersBelow : ℚ) = 2 := by linarith
      rw [Binary.lower, hends, hlow]
      ring
    · refine hv.even_of_end (.inr ?_)
      rw [Binary.upper, hhigh]

/-- At the lower exponent, a number below a power of two that the first double behind it attracts is
rounded to the power of two itself. -/
theorem roundedMantissa_of_attracts_below (h : Represents em q)
    (hv : b.Attracts (q * 2 ^ (b.exponent - 1))) (hfull : b.significand = 2 ^ 52)
    (hexponent : leastExponent < b.exponent)
    (hbelow : q * 2 ^ (b.exponent - 1) < 2 ^ (52 + b.exponent)) : em.roundedMantissa = 2 ^ 53 := by
  have hunit : (0 : ℚ) < 2 ^ (b.exponent - 1) := by positivity
  have hhalve : (2 : ℚ) ^ b.exponent = 2 * 2 ^ (b.exponent - 1) := by
    rw [zpow_sub_one₀ two_ne_zero]
    ring
  have hquarter := hv.quarter_le hfull hexponent
  rw [hhalve] at hquarter
  rw [show (52 + b.exponent) = ((52 : Nat) : Int) + b.exponent from rfl, zpow_two_add,
    hhalve] at hbelow
  have hlow : (2 : ℚ) ^ 53 - 1 / 2 ≤ q := by
    refine le_of_mul_le_mul_right ?_ hunit
    linarith
  have hhigh : q < 2 ^ 53 := by
    refine lt_of_mul_lt_mul_right ?_ (le_of_lt hunit)
    linarith
  refine h.roundedMantissa_eq ?_ ?_ fun _ => by norm_num
  · push_cast
    exact hlow
  · push_cast
    linarith

end Represents

/-- A mantissa of at most 53 digits stays as it is at an exponent that is not below the least
one. -/
theorem shiftToTargetExponent_of_lt {mantissa : Nat} {exponent : Int} (hlt : mantissa < 2 ^ 53)
    (hleast : leastExponent ≤ exponent) :
    shiftToTargetExponent .binary64 mantissa exponent .exact =
      (.ofMantissaAndAccuracy mantissa .exact, exponent) := by
  have hlog : mantissa.log2 ≤ 52 := by
    by_cases hzero : mantissa = 0
    · subst hzero
      simp
    · have := (Nat.log2_lt hzero).mpr hlt
      omega
  have hshift : (Format.binary64.targetExponent (totalExponent mantissa exponent) -
      exponent).toNat = 0 := by
    rw [targetExponent_eq, totalExponent]
    omega
  simp only [shiftToTargetExponent, shiftToExponent, hshift, Int.ofNat_zero, Int.add_zero]
  rfl

/-- A mantissa that became a digit longer is shifted by that digit. -/
theorem shiftToTargetExponent_pow {exponent : Int} (hleast : leastExponent ≤ exponent) :
    shiftToTargetExponent .binary64 (2 ^ 53) exponent .exact =
      (.ofMantissaAndAccuracy (2 ^ 52) .exact, exponent + 1) := by
  have hlog : (2 ^ 53 : Nat).log2 = 53 := Nat.log2_two_pow
  have hshift : (Format.binary64.targetExponent (totalExponent (2 ^ 53) exponent) -
      exponent).toNat = 1 := by
    rw [targetExponent_eq, totalExponent, hlog]
    omega
  simp only [shiftToTargetExponent, shiftToExponent, hshift]
  rfl

/-- Rounding shifts, takes the nearest natural number and shifts again. -/
theorem roundWithAccuracy_of_shift {sign : Sign} {mantissa : Nat} {exponent e e' : Int}
    {accuracy : Accuracy} {em em' : ExtendedMantissa}
    (hfirst : shiftToTargetExponent .binary64 mantissa exponent accuracy = (em, e))
    (hsecond : shiftToTargetExponent .binary64 em.roundedMantissa e .exact = (em', e'))
    (hpos : 0 < em'.mantissa) :
    roundWithAccuracy .binary64 sign mantissa exponent accuracy =
      .finite sign em'.mantissa e' hpos := by
  unfold roundWithAccuracy
  simp only [hfirst, hsecond]
  rw [dif_neg (Nat.ne_of_gt hpos)]

/-- Rounding a number that lies in the interval of a double gives the double. -/
theorem roundWithAccuracy_eq {sign : Sign} {mantissa : Nat} {exponent : Int}
    {accuracy : Accuracy} {q : ℚ} {b : Binary}
    (hrep : Represents (.ofMantissaAndAccuracy mantissa accuracy) q) (hb : b.Canonical)
    (hpos : 0 < b.significand) (hv : b.Attracts (q * 2 ^ exponent))
    (hshift : exponent ≤ Format.binary64.targetExponent (totalExponent mantissa exponent)) :
    roundWithAccuracy .binary64 sign mantissa exponent accuracy =
      .finite sign b.significand b.exponent hpos := by
  obtain ⟨hle, hlt⟩ := hrep.floor
  rw [mantissa_ofMantissaAndAccuracy] at hle hlt
  have hcases := hv.targetExponent_cases hb hpos rfl hle hlt hshift
  obtain ⟨steps, hsteps⟩ := Int.le.dest hshift
  have htoNat : (Format.binary64.targetExponent (totalExponent mantissa exponent) -
      exponent).toNat = steps := by omega
  have hfirst : shiftToTargetExponent .binary64 mantissa exponent accuracy =
      (ExtendedMantissa.ofMantissaAndAccuracy mantissa accuracy >>> steps, exponent + steps) := by
    simp only [shiftToTargetExponent, shiftToExponent, htoNat]
  have hshifted := hrep.shiftRight steps
  have hstep : (0 : ℚ) < 2 ^ steps := by positivity
  have hvalue : ∀ n : Int, exponent + steps = n →
      q * 2 ^ exponent = q / 2 ^ steps * 2 ^ n := by
    rintro n rfl
    rw [add_comm exponent, zpow_two_add]
    field_simp
  rw [← hsteps] at hcases
  rcases hcases with htarget | ⟨htarget, hfull, hexponent, hbelow⟩
  · rw [hvalue _ htarget] at hv
    have hsecond : shiftToTargetExponent .binary64 (ExtendedMantissa.ofMantissaAndAccuracy mantissa
        accuracy >>> steps).roundedMantissa b.exponent .exact =
          (.ofMantissaAndAccuracy b.significand .exact, b.exponent) := by
      rw [hshifted.roundedMantissa_of_attracts hv]
      exact shiftToTargetExponent_of_lt hb.significand_lt hb.le_exponent
    rw [htarget] at hfirst
    rw [roundWithAccuracy_of_shift hfirst hsecond hpos]
    rfl
  · -- The nearest number at the lower exponent is the power of two itself.
    rw [hvalue _ htarget] at hv hbelow
    have hsecond : shiftToTargetExponent .binary64 (ExtendedMantissa.ofMantissaAndAccuracy mantissa
        accuracy >>> steps).roundedMantissa (b.exponent - 1) .exact =
          (.ofMantissaAndAccuracy (2 ^ 52) .exact, b.exponent - 1 + 1) := by
      rw [hshifted.roundedMantissa_of_attracts_below hv hfull hexponent hbelow]
      exact shiftToTargetExponent_pow (by omega)
    rw [htarget] at hfirst
    rw [roundWithAccuracy_of_shift hfirst hsecond (by decide)]
    simp only [mantissa_ofMantissaAndAccuracy, hfull, Int.sub_add_cancel]

end Spreadsheet.Number
