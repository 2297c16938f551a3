import Mathlib.Data.Int.Log
import Spreadsheet.Proofs.Number.Integer

/-!
# The nearest double

Every number that is neither too great nor too small for the doubles lies in the interval of one of
them, which differs from the number by half of its last place at most.
-/

namespace Spreadsheet.Number

variable {b : Binary} {q v : ℚ} {m : Nat} {e k : Int}

/-! ## The nearest natural number -/

/-- No natural number is nearer to the number, and of two equally near ones it is the even one. -/
structure IsNearest (m : Nat) (q : ℚ) : Prop where
  /-- The number is not more than a half below. -/
  sub_le : m - 1 / 2 ≤ q
  /-- The number is not more than a half above. -/
  le_add : q ≤ m + 1 / 2
  /-- Halves are rounded to even numbers. -/
  even_of_half : q = m - 1 / 2 ∨ q = m + 1 / 2 → m % 2 = 0

/-- Every number that is not negative has a nearest one among the doubles of a scale. -/
theorem exists_isNearest (hq : 0 ≤ q) : ∃ m, IsNearest m q := by
  have hle := Nat.floor_le hq
  have hlt := Nat.lt_floor_add_one q
  generalize ⌊q⌋₊ = n at hle hlt
  rcases lt_trichotomy q (n + 1 / 2) with hless | hhalf | hgreater
  · refine ⟨n, by linarith, hless.le, ?_⟩
    rintro (heq | heq) <;> linarith
  · rcases Nat.mod_two_eq_zero_or_one n with heven | hodd
    · exact ⟨n, by linarith, hhalf.le, fun _ => heven⟩
    · refine ⟨n + 1, ?_, ?_, fun _ => by omega⟩
      · push_cast
        linarith
      · push_cast
        linarith
  · refine ⟨n + 1, ?_, ?_, ?_⟩
    · push_cast
      linarith
    · push_cast
      linarith
    · push_cast
      rintro (heq | heq) <;> linarith

/-! ## The nearest double -/

/-- A significand that is nearest at its exponent makes a double that is nearest. At the first one
behind a power of two, the number must not lie below the power. -/
theorem IsNearest.attracts (h : IsNearest m q)
    (hfull : m = 2 ^ 52 → leastExponent < e → 2 ^ 52 ≤ q) :
    Binary.Attracts ⟨false, m, e⟩ (q * 2 ^ e) := by
  have hunit : (0 : ℚ) < 2 ^ e := by positivity
  have hupper : q * 2 ^ e ≤ (m + 1 / 2) * 2 ^ e := mul_le_mul_of_nonneg_right h.le_add hunit.le
  by_cases hfirst : m = 2 ^ 52 ∧ leastExponent < e
  · obtain ⟨rfl, hexponent⟩ := hfirst
    have hone : Binary.quartersBelow ⟨false, 2 ^ 52, e⟩ = 1 := if_pos ⟨rfl, hexponent⟩
    have hge := hfull rfl hexponent
    refine ⟨?_, hupper, fun _ => by norm_num⟩
    rw [Binary.lower, hone]
    refine mul_le_mul_of_nonneg_right ?_ hunit.le
    push_cast
    linarith
  · have htwo : Binary.quartersBelow ⟨false, m, e⟩ = 2 := if_neg hfirst
    have hhalf : ((2 : Nat) : ℚ) / 4 = 1 / 2 := by norm_num
    have hends : Binary.lower ⟨false, m, e⟩ = (m - 1 / 2) * 2 ^ e := by
      rw [Binary.lower, htwo, hhalf]
    refine ⟨?_, hupper, ?_⟩
    · rw [hends]
      exact mul_le_mul_of_nonneg_right h.sub_le hunit.le
    · rw [hends]
      exact fun hend => h.even_of_half (hend.imp (mul_right_cancel₀ hunit.ne')
        (mul_right_cancel₀ hunit.ne'))

/-- A number that becomes a power of two at the exponent is nearest to the first significand of the
next one. -/
theorem IsNearest.attracts_next (h : IsNearest (2 ^ 53) q) (hlt : q < 2 ^ 53)
    (he : leastExponent ≤ e) : Binary.Attracts ⟨false, 2 ^ 52, e + 1⟩ (q * 2 ^ e) := by
  have hunit : (0 : ℚ) < 2 ^ e := by positivity
  have hone : Binary.quartersBelow ⟨false, 2 ^ 52, e + 1⟩ = 1 :=
    if_pos ⟨rfl, by dsimp only; omega⟩
  have hlow := h.sub_le
  push_cast at hlow
  refine ⟨?_, ?_, fun _ => by norm_num⟩
  · rw [Binary.lower, hone, zpow_add_one₀ two_ne_zero, mul_comm _ (2 : ℚ), ← mul_assoc]
    refine mul_le_mul_of_nonneg_right ?_ hunit.le
    push_cast
    linarith
  · rw [Binary.upper, zpow_add_one₀ two_ne_zero, mul_comm _ (2 : ℚ), ← mul_assoc]
    refine mul_le_mul_of_nonneg_right ?_ hunit.le
    push_cast
    linarith

/-- A number between the least double and the greatest power of two, at the exponent of the doubles
around it. -/
theorem exists_scaled (hlow : 2 ^ leastExponent ≤ v) (hhigh : v < 2 ^ (1023 : Int)) :
    ∃ q e, v = q * 2 ^ e ∧ 1 ≤ q ∧ q < 2 ^ 53 ∧ leastExponent ≤ e ∧ e ≤ 970 ∧
      (2 ^ 52 ≤ q ∨ e = leastExponent) := by
  have hleast : leastExponent = -1074 := rfl
  have hpos : 0 < v := lt_of_lt_of_le (by positivity) hlow
  have hle : (2 : ℚ) ^ Int.log 2 v ≤ v := by exact_mod_cast Int.zpow_log_le_self one_lt_two hpos
  have hlt : v < (2 : ℚ) ^ (Int.log 2 v + 1) := by
    exact_mod_cast Int.lt_zpow_succ_log_self one_lt_two v
  generalize Int.log 2 v = l at hle hlt
  have hl : l < 1023 := zpow_two_lt_iff.mp (hle.trans_lt hhigh)
  obtain ⟨e, he⟩ : ∃ e, e = max (l - 52) leastExponent := ⟨_, rfl⟩
  have hunit : (0 : ℚ) < 2 ^ e := by positivity
  have hscale : ∀ n : Nat, (2 : ℚ) ^ n * 2 ^ e = 2 ^ (n + e) := fun n => (zpow_two_add n e).symm
  refine ⟨v / 2 ^ e, e, by field_simp, ?_, ?_, by omega, by omega, ?_⟩
  · rw [one_le_div hunit]
    rcases le_total (l - 52) leastExponent with hsmall | hlarge
    · rwa [he, max_eq_right hsmall]
    · exact (zpow_le_zpow_right₀ one_le_two (by omega)).trans hle
  · rw [div_lt_iff₀ hunit, hscale]
    exact hlt.trans_le (zpow_le_zpow_right₀ one_le_two (by push_cast; omega))
  · rcases le_total (l - 52) leastExponent with hsmall | hlarge
    · exact .inr (by omega)
    · left
      rw [le_div_iff₀ hunit, hscale]
      exact (zpow_le_zpow_right₀ one_le_two (by push_cast; omega)).trans hle

/-- Every such number is nearest to a double. -/
theorem exists_attracts (hlow : 2 ^ leastExponent ≤ v) (hhigh : v < 2 ^ (1023 : Int)) :
    ∃ b : Binary, b.Canonical ∧ b.negative = false ∧ 0 < b.significand ∧ b.Attracts v := by
  obtain ⟨q, e, rfl, hone, hlt, hle, hge, hfull⟩ := exists_scaled hlow hhigh
  obtain ⟨m, hm⟩ := exists_isNearest (zero_le_one.trans hone)
  have hsub := hm.sub_le
  have hadd := hm.le_add
  have hpos : 0 < m := by
    have : (0 : ℚ) < m := by linarith
    exact_mod_cast this
  have hm_le : m ≤ 2 ^ 53 := by
    have : (m : ℚ) < 2 ^ 53 + 1 := by linarith
    exact Nat.le_of_lt_succ (by exact_mod_cast this)
  rcases hm_le.eq_or_lt with rfl | hm_lt
  · exact ⟨_, ⟨by norm_num, .inl (le_refl _), by dsimp only; omega, by dsimp only; omega⟩, rfl,
      by norm_num, hm.attracts_next hlt hle⟩
  · have hm_full : 2 ^ 52 ≤ m ∨ e = leastExponent := by
      refine hfull.imp_left fun hq => ?_
      have : (2 : ℚ) ^ 52 < m + 1 := by linarith
      exact Nat.le_of_lt_succ (by exact_mod_cast this)
    exact ⟨_, ⟨hm_lt, hm_full, hle, by dsimp only; omega⟩, rfl, hpos,
      hm.attracts fun _ hexponent => hfull.resolve_right hexponent.ne'⟩

/-! ## How near it is -/

namespace Binary.Attracts

/-- The nearest double differs from a number by half of its last place at most. -/
theorem abs_sub_le (h : b.Attracts v) : |b.value - v| ≤ 2 ^ (b.exponent - 1) := by
  have hlow := h.half_le
  have hhigh := h.le_upper
  rw [upper] at hhigh
  rw [zpow_sub_one₀ two_ne_zero, value, abs_le]
  constructor <;> linarith

/-- The last place of the nearest double is one of the 53 places of the number, or the least one of
all doubles. -/
theorem exponent_le (h : b.Attracts v) (hb : b.Canonical) (hv : v < 2 ^ k) :
    b.exponent ≤ max (k - 52) leastExponent := by
  by_contra hgreat
  have hunit : (0 : ℚ) < 2 ^ b.exponent := by positivity
  have hfull : (2 : ℚ) ^ 52 ≤ b.significand := by
    exact_mod_cast hb.full.resolve_right (by omega)
  have hlow : 2 ^ 51 * 2 ^ b.exponent ≤ v :=
    (mul_le_mul_of_nonneg_right (by linarith) hunit.le).trans h.half_le
  have hhigh : (2 : ℚ) ^ k ≤ 2 ^ (((51 : Nat) : Int) + b.exponent) :=
    zpow_le_zpow_right₀ one_le_two (by push_cast; omega)
  rw [zpow_two_add] at hhigh
  exact absurd (hlow.trans_lt hv) (not_lt.mpr hhigh)

/-- Of a number that is not too small, the nearest double has 53 places, and it differs from the
number by half of the last one at most. -/
theorem abs_sub_le_of_lt (h : b.Attracts v) (hb : b.Canonical) (hv : v < 2 ^ k)
    (hk : leastExponent ≤ k - 52) :
    b.exponent ≤ k - 52 ∧ |b.value - v| ≤ 2 ^ (k - 53) := by
  have hplace := h.exponent_le hb hv
  rw [max_eq_left hk] at hplace
  exact ⟨hplace, h.abs_sub_le.trans (zpow_le_zpow_right₀ one_le_two (by omega))⟩

end Binary.Attracts

end Spreadsheet.Number
