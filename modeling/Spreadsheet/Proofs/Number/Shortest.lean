import Spreadsheet.Number.Shortest
import Spreadsheet.Proofs.Number.Decimal

/-!
# The shortest digits lie in the interval

The neighbourhood of a double is its interval over a common denominator, and the search for a
decimal grid with a point in it always succeeds: a grid that is finer than the distance to the lower
end has one, and such a grid is among those that are looked at.
-/

namespace Spreadsheet.Number

/-- The number that a decimal number is. -/
def Decimal.value (d : Decimal) : ℚ :=
  d.digits * 10 ^ d.exponent

/-! ## Powers as quotients -/

/-- A power with a whole exponent is a quotient of two powers with natural exponents. -/
theorem zpow_mul_pow_toNat {base : ℚ} (hbase : base ≠ 0) (n : Int) :
    base ^ n * base ^ (-n).toNat = base ^ n.toNat := by
  rw [← zpow_natCast, ← zpow_natCast, ← zpow_add₀ hbase]
  congr 1
  omega

/-! ## Neighbourhoods -/

section Neighbourhood

variable (b : Binary)

private theorem denominator_pos : 0 < b.neighbourhood.denominator := by
  change 0 < 2 ^ _
  positivity

private theorem cast_neighbourhood (quarters : ℚ) :
    quarters * 2 ^ (b.exponent - 2).toNat =
      quarters / 4 * 2 ^ b.exponent * b.neighbourhood.denominator := by
  have hscale := zpow_mul_pow_toNat two_ne_zero (b.exponent - 2)
  have hquarter : (2 : ℚ) ^ (b.exponent - 2) = 2 ^ b.exponent / 4 := by
    rw [zpow_sub₀ two_ne_zero]
    norm_num
  rw [hquarter] at hscale
  have hdenominator : (b.neighbourhood.denominator : ℚ) = 2 ^ (-(b.exponent - 2)).toNat := by
    change ((2 ^ (-(b.exponent - 2)).toNat : Nat) : ℚ) = _
    push_cast
    rfl
  rw [hdenominator, ← hscale]
  ring

/-- The centre of a neighbourhood is the value of the double. -/
theorem centre_eq : (b.neighbourhood.centre : ℚ) = b.value * b.neighbourhood.denominator := by
  have hcast := cast_neighbourhood b (4 * b.significand)
  change ((4 * b.significand * 2 ^ (b.exponent - 2).toNat : Nat) : ℚ) = _
  push_cast
  rw [hcast, Binary.value]
  ring

/-- The lower end of a neighbourhood is that of the interval of the double. -/
theorem lower_eq (hpos : 0 < b.significand) :
    (b.neighbourhood.lower : ℚ) = b.lower * b.neighbourhood.denominator := by
  have hcast := cast_neighbourhood b (4 * b.significand - b.quartersBelow)
  have hquarters : b.quartersBelow ≤ 4 * b.significand := by
    have : b.quartersBelow ≤ 2 := by
      unfold Binary.quartersBelow
      split <;> decide
    omega
  change (((4 * b.significand - b.quartersBelow) * 2 ^ (b.exponent - 2).toNat : Nat) : ℚ) = _
  push_cast [Nat.cast_sub hquarters]
  rw [hcast, Binary.lower]
  ring

/-- The upper end of a neighbourhood is that of the interval of the double. -/
theorem upper_eq : (b.neighbourhood.upper : ℚ) = b.upper * b.neighbourhood.denominator := by
  have hcast := cast_neighbourhood b (4 * b.significand + 2)
  change (((4 * b.significand + 2) * 2 ^ (b.exponent - 2).toNat : Nat) : ℚ) = _
  push_cast
  rw [hcast, Binary.upper]
  ring

/-- The neighbourhood contains the decimal numbers in the interval of the double. -/
theorem contains_iff (hpos : 0 < b.significand) (d : Decimal) :
    b.neighbourhood.contains d = true ↔ b.Attracts d.value := by
  have hdenominator : (0 : ℚ) < b.neighbourhood.denominator := by
    exact_mod_cast denominator_pos b
  have hscale : (0 : ℚ) < 10 ^ (-d.exponent).toNat := by positivity
  have hvalue : ((d.digits * 10 ^ d.exponent.toNat * b.neighbourhood.denominator : Nat) : ℚ) =
      d.value * b.neighbourhood.denominator * 10 ^ (-d.exponent).toNat := by
    have hpower := zpow_mul_pow_toNat (by norm_num : (10 : ℚ) ≠ 0) d.exponent
    push_cast
    rw [← hpower, Decimal.value]
    ring
  -- Every comparison of natural numbers is one of rational numbers.
  have hlower : ((b.neighbourhood.lower * 10 ^ (-d.exponent).toNat : Nat) : ℚ) =
      b.lower * b.neighbourhood.denominator * 10 ^ (-d.exponent).toNat := by
    push_cast
    rw [lower_eq b hpos]
  have hupper : ((b.neighbourhood.upper * 10 ^ (-d.exponent).toNat : Nat) : ℚ) =
      b.upper * b.neighbourhood.denominator * 10 ^ (-d.exponent).toNat := by
    push_cast
    rw [upper_eq b]
  have hle : ∀ s t : ℚ, s ≤ t ↔ s * b.neighbourhood.denominator * 10 ^ (-d.exponent).toNat ≤
      t * b.neighbourhood.denominator * 10 ^ (-d.exponent).toNat := by
    intro s t
    rw [mul_le_mul_iff_of_pos_right hscale, mul_le_mul_iff_of_pos_right hdenominator]
  have hlt : ∀ s t : ℚ, s < t ↔ s * b.neighbourhood.denominator * 10 ^ (-d.exponent).toNat <
      t * b.neighbourhood.denominator * 10 ^ (-d.exponent).toNat := by
    intro s t
    rw [mul_lt_mul_iff_of_pos_right hscale, mul_lt_mul_iff_of_pos_right hdenominator]
  have hattracts : b.Attracts d.value ↔ if b.significand % 2 = 0 then
      b.lower ≤ d.value ∧ d.value ≤ b.upper else b.lower < d.value ∧ d.value < b.upper := by
    constructor
    · rintro ⟨hlow, hhigh, heven⟩
      split
      · exact ⟨hlow, hhigh⟩
      · rename_i hodd
        exact ⟨lt_of_le_of_ne hlow fun heq => hodd (heven (.inl heq.symm)),
          lt_of_le_of_ne hhigh fun heq => hodd (heven (.inr heq))⟩
    · intro h
      split at h
      · rename_i heven
        exact ⟨h.1, h.2, fun _ => heven⟩
      · exact .of_lt h.1 h.2
  rw [hattracts, hle b.lower, hle d.value, hlt b.lower, hlt d.value, ← hlower, ← hupper, ← hvalue,
    Nat.cast_le, Nat.cast_le, Nat.cast_lt, Nat.cast_lt]
  unfold Neighbourhood.contains
  have hclosed : b.neighbourhood.closed = (b.significand % 2 == 0) := rfl
  by_cases heven : b.significand % 2 = 0
  · simp [hclosed, heven]
  · simp [hclosed, heven]

end Neighbourhood

/-! ## The search -/

section Search

variable {b : Binary} {tie : Tie} {exponent : Int}

/-- What is found on a grid lies in the interval. -/
theorem contains_of_point? {n : Neighbourhood} {d : Decimal} (h : n.point? tie exponent = some d) :
    n.contains d = true := by
  unfold Neighbourhood.point? at h
  dsimp only at h
  split at h
  · rename_i hbelow _
    cases h
    exact hbelow
  · rename_i _ habove
    cases h
    exact habove
  · cases h
  · rename_i hbelow habove
    split at h
    · cases h
      exact hbelow
    · split at h
      · cases h
        exact habove
      · cases tie with
        | greater =>
          cases h
          exact habove
        | even =>
          dsimp only at h
          split at h
          · cases h
            exact hbelow
          · cases h
            exact habove

/-- Something is found on a grid if its point below the double lies in the interval. -/
theorem exists_point? {n : Neighbourhood}
    (h : n.contains ⟨n.centre * 10 ^ (-exponent).toNat /
      (n.denominator * 10 ^ exponent.toNat), exponent⟩ = true) :
    ∃ d, n.point? tie exponent = some d := by
  unfold Neighbourhood.point?
  dsimp only
  split
  · exact ⟨_, rfl⟩
  · exact ⟨_, rfl⟩
  · rename_i hbelow _
    exact absurd (h.symm.trans hbelow) Bool.noConfusion
  · split
    · exact ⟨_, rfl⟩
    · split
      · exact ⟨_, rfl⟩
      · cases tie with
        | greater => exact ⟨_, rfl⟩
        | even => exact ⟨_, rfl⟩

/-- The search finds something if some grid among those that it looks at has a point. -/
theorem exists_search {n : Neighbourhood} {steps step : Nat} (hstep : step < steps)
    (h : ∃ d, n.point? tie (exponent - step) = some d) :
    ∃ d, n.search tie exponent steps = some d ∧ n.contains d = true := by
  induction steps generalizing exponent step with
  | zero => cases hstep
  | succ steps ih =>
    rw [Neighbourhood.search]
    cases hpoint : n.point? tie exponent with
    | some d => exact ⟨d, rfl, contains_of_point? hpoint⟩
    | none =>
      cases step with
      | zero =>
        obtain ⟨d, hd⟩ := h
        rw [Nat.cast_zero, Int.sub_zero, hpoint] at hd
        cases hd
      | succ step =>
        refine ih (Nat.lt_of_succ_lt_succ hstep) ?_
        have hnext : exponent - 1 - step = exponent - (step + 1 : Nat) := by
          push_cast
          ring
        rw [hnext]
        exact h

/-- The point below a double on a grid that is finer than the distance to the lower end. -/
theorem contains_below (hpos : 0 < b.significand) (hstep : 10 ^ exponent ≤ b.value - b.lower) :
    b.neighbourhood.contains ⟨b.neighbourhood.centre * 10 ^ (-exponent).toNat /
      (b.neighbourhood.denominator * 10 ^ exponent.toNat), exponent⟩ = true := by
  have hdenominator : (0 : ℚ) < b.neighbourhood.denominator := by
    exact_mod_cast denominator_pos b
  have hscale : (0 : ℚ) < b.neighbourhood.denominator * 10 ^ (-exponent).toNat := by positivity
  have hgrid : 0 < b.neighbourhood.denominator * 10 ^ exponent.toNat :=
    Nat.mul_pos (denominator_pos b) (by positivity)
  have hpower := zpow_mul_pow_toNat (by norm_num : (10 : ℚ) ≠ 0) exponent
  have hcentre := centre_eq b
  have hdivision := Nat.div_mul_le_self (b.neighbourhood.centre * 10 ^ (-exponent).toNat)
    (b.neighbourhood.denominator * 10 ^ exponent.toNat)
  have hremainder := Nat.lt_div_mul_add hgrid
    (a := b.neighbourhood.centre * 10 ^ (-exponent).toNat)
  generalize b.neighbourhood.centre * 10 ^ (-exponent).toNat /
    (b.neighbourhood.denominator * 10 ^ exponent.toNat) = whole at hdivision hremainder ⊢
  have hdivision : (whole * (b.neighbourhood.denominator * 10 ^ exponent.toNat) : ℚ) ≤
      b.neighbourhood.centre * 10 ^ (-exponent).toNat := by exact_mod_cast hdivision
  have hremainder : (b.neighbourhood.centre * 10 ^ (-exponent).toNat : ℚ) <
      whole * (b.neighbourhood.denominator * 10 ^ exponent.toNat) +
        b.neighbourhood.denominator * 10 ^ exponent.toNat := by exact_mod_cast hremainder
  rw [hcentre, ← hpower] at hdivision hremainder
  have hbelow : whole * (10 : ℚ) ^ exponent ≤ b.value :=
    le_of_mul_le_mul_right (by linarith) hscale
  have habove : b.value < whole * (10 : ℚ) ^ exponent + 10 ^ exponent :=
    lt_of_mul_lt_mul_right (by linarith) (le_of_lt hscale)
  have hvalue : (⟨whole, exponent⟩ : Decimal).value = whole * 10 ^ exponent := rfl
  have hlower : b.lower < (⟨whole, exponent⟩ : Decimal).value := by
    rw [hvalue]
    linarith
  have hupper : (⟨whole, exponent⟩ : Decimal).value < b.upper := by
    rw [hvalue]
    exact hbelow.trans_lt b.value_lt_upper
  exact (contains_iff b hpos _).mpr (.of_lt hlower hupper)

/-- The number of digits of a number tells its size. -/
theorem pow_length_toDigits {n : Nat} (hpos : 0 < n) :
    10 ^ ((Nat.toDigits 10 n).length - 1) ≤ n ∧ n < 10 ^ (Nat.toDigits 10 n).length := by
  have hlength : 0 < (Nat.toDigits 10 n).length := Nat.length_toDigits_pos
  constructor
  · by_cases hone : (Nat.toDigits 10 n).length - 1 = 0
    · rw [hone]
      exact hpos
    · have hnot := (Nat.length_toDigits_le_iff (n := n) (by decide : 1 < 10)
        (Nat.pos_of_ne_zero hone)).not.mp (by omega)
      exact Nat.le_of_not_lt hnot
  · exact (Nat.length_toDigits_le_iff (by decide) hlength).mp (Nat.le_refl _)

/-- The first grid is at most a hundred times as coarse as the number is great. -/
theorem zpow_decimalOrder_le {numerator denominator : Nat} (hnumerator : 0 < numerator)
    (hdenominator : 0 < denominator) :
    (10 : ℚ) ^ decimalOrder numerator denominator ≤ 100 * (numerator / denominator) := by
  have hbottom : (0 : ℚ) < denominator := by exact_mod_cast hdenominator
  have htop : (0 : ℚ) < numerator := by exact_mod_cast hnumerator
  unfold decimalOrder
  split
  · rename_i hle
    obtain ⟨hlow, -⟩ := pow_length_toDigits (Nat.div_pos hle hdenominator)
    have hlength : 0 < (Nat.toDigits 10 (numerator / denominator)).length :=
      Nat.length_toDigits_pos
    obtain ⟨length, hsucc⟩ := Nat.exists_eq_succ_of_ne_zero (Nat.ne_of_gt hlength)
    have hfloor : ((numerator / denominator : Nat) : ℚ) ≤ numerator / denominator := by
      rw [le_div_iff₀ hbottom]
      exact_mod_cast Nat.div_mul_le_self numerator denominator
    rw [hsucc, Nat.succ_sub_one] at hlow
    have hlow : (10 : ℚ) ^ length ≤ (numerator / denominator : Nat) := by exact_mod_cast hlow
    have hnonneg : (0 : ℚ) < 10 ^ length := by positivity
    rw [hsucc, zpow_natCast, pow_succ]
    linarith
  · rename_i hlt
    obtain ⟨-, hhigh⟩ := pow_length_toDigits
      (Nat.div_pos (le_of_lt (Nat.lt_of_not_le hlt)) hnumerator)
    generalize (Nat.toDigits 10 (denominator / numerator)).length = length at hhigh ⊢
    have hceil : denominator ≤ numerator * 10 ^ length := by
      rw [Nat.mul_comm]
      exact le_of_lt ((Nat.div_lt_iff_lt_mul hnumerator).mp hhigh)
    have hceil : (denominator : ℚ) ≤ numerator * 10 ^ length := by exact_mod_cast hceil
    have hsplit : (10 : ℚ) ^ (2 - (length : Int)) = 100 / 10 ^ length := by
      rw [zpow_sub₀ (by norm_num), zpow_natCast]
      norm_num
    have hpower : (0 : ℚ) < 10 ^ length := by positivity
    rw [hsplit, ← mul_div_assoc, div_le_div_iff₀ hpower hbottom]
    linarith

/-- The shortest digits of a double lie in its interval. -/
theorem attracts_shortest (hb : b.Canonical) (hpos : 0 < b.significand) :
    b.Attracts (b.shortest tie).value := by
  have hunit : (0 : ℚ) < 2 ^ b.exponent := by positivity
  have hbottom : (0 : ℚ) < b.neighbourhood.denominator := by exact_mod_cast denominator_pos b
  have hcentre : (b.neighbourhood.centre : ℚ) / b.neighbourhood.denominator = b.value := by
    rw [centre_eq, mul_div_cancel_right₀ _ (ne_of_gt hbottom)]
  have hnumerator : 0 < b.neighbourhood.centre := by
    change 0 < 4 * b.significand * 2 ^ _
    positivity
  have hcoarse := zpow_decimalOrder_le hnumerator (denominator_pos b)
  rw [hcentre] at hcoarse
  generalize horder : decimalOrder b.neighbourhood.centre b.neighbourhood.denominator = order
    at hcoarse
  -- A double has 53 binary digits, so the twentieth grid is finer than a quarter of the last place.
  have hfine : (10 : ℚ) ^ (order - (19 : Nat)) ≤ b.value - b.lower := by
    have hquarters : (1 : ℚ) ≤ b.quartersBelow := by
      unfold Binary.quartersBelow
      split <;> norm_num
    have hdistance : b.value - b.lower = b.quartersBelow / 4 * 2 ^ b.exponent := by
      rw [Binary.value, Binary.lower]
      ring
    have hlt : (b.significand : ℚ) ≤ 2 ^ 53 := by exact_mod_cast le_of_lt hb.significand_lt
    have hstep : (10 : ℚ) ^ (order - (19 : Nat)) = 10 ^ order / 10 ^ 19 := by
      rw [zpow_sub₀ (by norm_num), zpow_natCast]
    rw [hstep, hdistance, div_le_iff₀ (by positivity)]
    calc (10 : ℚ) ^ order ≤ 100 * (b.significand * 2 ^ b.exponent) := hcoarse
      _ ≤ 100 * (2 ^ 53 * 2 ^ b.exponent) := by
          have := mul_le_mul_of_nonneg_right hlt (le_of_lt hunit)
          linarith
      _ = 100 * 2 ^ 53 * 2 ^ b.exponent := by ring
      _ ≤ 1 / 4 * 10 ^ 19 * 2 ^ b.exponent :=
          mul_le_mul_of_nonneg_right (by norm_num) (le_of_lt hunit)
      _ ≤ b.quartersBelow / 4 * 10 ^ 19 * 2 ^ b.exponent :=
          mul_le_mul_of_nonneg_right (by linarith) (le_of_lt hunit)
      _ = b.quartersBelow / 4 * 2 ^ b.exponent * 10 ^ 19 := by ring
  have hpoint : ∃ d, b.neighbourhood.point? tie (order - (19 : Nat)) = some d :=
    exists_point? (contains_below hpos hfine)
  obtain ⟨d, hsearch, hd⟩ := exists_search (by decide : 19 < 24) hpoint
  unfold Binary.shortest
  rw [if_neg (Nat.ne_of_gt hpos)]
  dsimp only
  rw [horder, hsearch]
  exact (contains_iff b hpos d).mp hd

end Search

end Spreadsheet.Number
