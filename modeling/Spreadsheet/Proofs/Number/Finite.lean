import Spreadsheet.Function.Ambient
import Spreadsheet.Proofs.Number.Order

/-!
# Operations that stay finite

A number is packed as an infinity only if its exponent is too great, and rounding raises the length
of a number by one digit at most. Hence magnitudes, opposites and square roots of finite doubles are
finite, and so are the doubles of natural numbers and integers of at most 64 digits to the base two.
-/

namespace Spreadsheet.Number

open Float.Model Float.Model.UnpackedFloat

/-! ## Numbers in range -/

/-- The unpacked number is one that is not packed as an infinity. -/
inductive InRange : UnpackedFloat → Prop where
  /-- Zero is in range. -/
  | zero (sign : Sign) : InRange (.zero sign)
  /-- The exponent is not above the greatest one. -/
  | finite {sign : Sign} {mantissa : Nat} {exponent : Int} (hpos : 0 < mantissa)
    (exponent_le : exponent ≤ 971) : InRange (.finite sign mantissa exponent hpos)

/-- A double is finite if its exponent is not the greatest one. -/
theorem isFinite_of_formOfParts {x : Float} {negative : Bool} {field fraction : Nat}
    (h : form x = formOfParts negative field fraction) (hfield : field ≠ 2047) :
    x.isFinite = true := by
  rw [isFinite_iff, h, formOfParts, if_neg hfield]
  split
  · exact ⟨_, rfl⟩
  · exact ⟨_, rfl⟩

/-- A number in range is packed as a finite double. -/
theorem isFinite_packed {u : UnpackedFloat} (h : InRange u) : (packed u).isFinite = true := by
  cases h with
  | zero sign => exact isFinite_of_formOfParts (form_packComponents rfl) (by decide)
  | @finite sign mantissa exponent hpos exponent_le =>
    have hbits := toBits_packed_finite sign mantissa exponent hpos
    rw [if_neg (by omega)] at hbits
    by_cases hfull : mantissa.log2 + 1 = 53
    · rw [if_pos hfull] at hbits
      refine isFinite_of_formOfParts (form_packComponents hbits) ?_
      rw [BitVec.toNat_ofNat]
      omega
    · rw [if_neg hfull] at hbits
      exact isFinite_of_formOfParts (form_packComponents hbits) (by decide)

/-! ## Rounding -/

private theorem mantissa_shiftRight (em : ExtendedMantissa) (n : Nat) :
    (em >>> n).mantissa = em.mantissa / 2 ^ n := by
  induction n with
  | zero =>
    rw [pow_zero, Nat.div_one]
    rfl
  | succ n ih =>
    change (em >>> n).mantissa / 2 = _
    rw [ih, Nat.div_div_eq_div_mul, pow_succ]

private theorem roundedMantissa_le (em : ExtendedMantissa) :
    em.roundedMantissa ≤ em.mantissa + 1 := by
  unfold ExtendedMantissa.roundedMantissa
  cases em.accuracy with
  | exact => exact Nat.le_succ _
  | inexact order =>
    cases order with
    | lt => exact Nat.le_succ _
    | eq =>
      change em.mantissa + em.mantissa % 2 ≤ em.mantissa + 1
      omega
    | gt => exact Nat.le_refl _

private theorem log2_le_of_lt {n k : Nat} (h : n < 2 ^ (k + 1)) : n.log2 ≤ k := by
  by_cases hzero : n = 0
  · subst hzero
    exact Nat.zero_le k
  · exact Nat.le_of_lt_succ ((Nat.log2_lt hzero).mpr h)

/-- Dropping digits and rounding up makes a number one digit longer at most. -/
theorem totalExponent_rounded_le {mantissa rounded steps : Nat} {exponent : Int}
    (h : rounded ≤ mantissa / 2 ^ steps + 1) :
    totalExponent rounded (exponent + steps) ≤
      max (totalExponent mantissa exponent) (exponent + steps) + 1 := by
  have hfloor : mantissa / 2 ^ steps < 2 ^ (mantissa.log2 + 1 - steps) := by
    rw [Nat.div_lt_iff_lt_mul (by positivity), ← pow_add]
    calc mantissa < 2 ^ (mantissa.log2 + 1) := Nat.lt_log2_self
      _ ≤ 2 ^ (mantissa.log2 + 1 - steps + steps) :=
        Nat.pow_le_pow_right (by decide) (by omega)
  have hlog : rounded.log2 ≤ mantissa.log2 + 1 - steps := by
    apply log2_le_of_lt
    calc rounded ≤ 2 ^ (mantissa.log2 + 1 - steps) := by omega
      _ < 2 ^ (mantissa.log2 + 1 - steps + 1) :=
        Nat.pow_lt_pow_right (by decide) (Nat.lt_succ_self _)
  unfold totalExponent
  omega

private theorem shiftLeft_lt (n steps : Nat) : n <<< steps < 2 ^ (n.log2 + steps + 1) := by
  rw [Nat.shiftLeft_eq, Nat.add_right_comm, pow_add]
  exact Nat.mul_lt_mul_of_pos_right Nat.lt_log2_self (by positivity)

/-- What is rounded stays in range if there is a digit to spare. -/
theorem inRange_roundWithAccuracy (sign : Sign) {mantissa : Nat} {exponent : Int}
    (accuracy : Accuracy) (hexponent : exponent ≤ 971)
    (htotal : totalExponent mantissa exponent ≤ 1023) :
    InRange (roundWithAccuracy .binary64 sign mantissa exponent accuracy) := by
  have hleast : leastExponent = -1074 := rfl
  obtain ⟨steps, hsteps⟩ : ∃ steps, steps = (Format.binary64.targetExponent
    (totalExponent mantissa exponent) - exponent).toNat := ⟨_, rfl⟩
  obtain ⟨rounded, hrounded⟩ : ∃ rounded, rounded = (ExtendedMantissa.ofMantissaAndAccuracy
    mantissa accuracy >>> steps).roundedMantissa := ⟨_, rfl⟩
  have hle : rounded ≤ mantissa / 2 ^ steps + 1 := by
    have hbound := roundedMantissa_le
      (ExtendedMantissa.ofMantissaAndAccuracy mantissa accuracy >>> steps)
    rwa [mantissa_shiftRight, mantissa_ofMantissaAndAccuracy, ← hrounded] at hbound
  have hlength : totalExponent rounded (exponent + steps) ≤
      max (totalExponent mantissa exponent) (exponent + steps) + 1 := totalExponent_rounded_le hle
  have hfirst : exponent + steps ≤ 971 := by
    rw [hsteps, targetExponent_eq]
    omega
  have hsecond : exponent + steps + ((Format.binary64.targetExponent
      (totalExponent rounded (exponent + steps)) - (exponent + steps)).toNat : Int) ≤ 971 := by
    rw [targetExponent_eq]
    omega
  unfold roundWithAccuracy
  simp only [shiftToTargetExponent, shiftToExponent, ← hsteps, ← hrounded]
  split
  · exact .zero sign
  · exact .finite _ hsecond

section Arithmetic

variable {sign₁ sign₂ : Sign} {m₁ m₂ : Nat} {e₁ e₂ : Int} {h₁ : 0 < m₁} {h₂ : 0 < m₂}

/-- A product is in range if its exponents are not too great together. -/
theorem inRange_mul (hexponent : e₁ + e₂ ≤ 971)
    (htotal : totalExponent m₁ e₁ + totalExponent m₂ e₂ ≤ 1023) :
    InRange (UnpackedFloat.mul .binary64 (.finite sign₁ m₁ e₁ h₁) (.finite sign₂ m₂ e₂ h₂)) := by
  refine inRange_roundWithAccuracy _ _ hexponent (le_trans ?_ htotal)
  have hlt : m₁ * m₂ < 2 ^ (m₁.log2 + 1 + (m₂.log2 + 1)) := by
    rw [pow_add]
    exact Nat.mul_lt_mul'' Nat.lt_log2_self Nat.lt_log2_self
  have hlog := (Nat.log2_lt (Nat.ne_of_gt (Nat.mul_pos h₁ h₂))).mpr hlt
  unfold totalExponent
  omega

/-- A quotient is in range if its exponents are not too far apart. -/
theorem inRange_div (hexponent : e₁ - e₂ ≤ 971) (htotal : totalExponent m₁ e₁ - e₂ ≤ 1023) :
    InRange (UnpackedFloat.div .binary64 (.finite sign₁ m₁ e₁ h₁) (.finite sign₂ m₂ e₂ h₂)) := by
  obtain ⟨target, htarget⟩ : ∃ target, target = min (e₁ - e₂)
    (Format.binary64.targetExponent (totalExponent m₁ e₁ - totalExponent m₂ e₂)) := ⟨_, rfl⟩
  obtain ⟨steps, hsteps⟩ : ∃ steps : Nat, steps = (e₁ - e₂ - target).toNat := ⟨_, rfl⟩
  have hlog : (m₁ <<< steps / m₂).log2 ≤ m₁.log2 + steps :=
    log2_le_of_lt (lt_of_le_of_lt (Nat.div_le_self _ _) (shiftLeft_lt m₁ steps))
  simp only [UnpackedFloat.div, divCore, ← htarget, ← hsteps]
  refine inRange_roundWithAccuracy _ _ (by omega) ?_
  unfold totalExponent at htotal ⊢
  omega

end Arithmetic

/-- A square root has half the digits of the number. -/
theorem inRange_sqrt {mantissa : Nat} {exponent : Int} {hpos : 0 < mantissa}
    (hexponent : exponent ≤ 971) (htotal : totalExponent mantissa exponent ≤ 1024) :
    InRange (UnpackedFloat.sqrt .binary64 (.finite .positive mantissa exponent hpos)) := by
  obtain ⟨target, htarget⟩ : ∃ target, target = min (exponent.ediv 2)
    (Format.binary64.targetExponent ((totalExponent mantissa exponent + 1).ediv 2)) := ⟨_, rfl⟩
  obtain ⟨steps, hsteps⟩ : ∃ steps : Nat, steps = (exponent - 2 * target).toNat := ⟨_, rfl⟩
  have htarget_le : 2 * target ≤ exponent := by
    have hhalf : 2 * exponent.ediv 2 ≤ exponent := Int.mul_ediv_self_le (by decide)
    omega
  have hroot : 2 * (mantissa <<< steps).sqrt.log2 ≤ mantissa.log2 + steps := by
    by_cases hzero : (mantissa <<< steps).sqrt = 0
    · rw [hzero]
      exact Nat.zero_le _
    have hsquare : 2 ^ (2 * (mantissa <<< steps).sqrt.log2) < 2 ^ (mantissa.log2 + steps + 1) := by
      calc 2 ^ (2 * (mantissa <<< steps).sqrt.log2)
          = 2 ^ (mantissa <<< steps).sqrt.log2 * 2 ^ (mantissa <<< steps).sqrt.log2 := by
            rw [two_mul, pow_add]
        _ ≤ (mantissa <<< steps).sqrt * (mantissa <<< steps).sqrt :=
            Nat.mul_le_mul (Nat.log2_self_le hzero) (Nat.log2_self_le hzero)
        _ ≤ mantissa <<< steps := Nat.sqrt_le _
        _ < 2 ^ (mantissa.log2 + steps + 1) := shiftLeft_lt mantissa steps
    exact Nat.le_of_lt_succ ((Nat.pow_lt_pow_iff_right (by decide)).mp hsquare)
  simp only [UnpackedFloat.sqrt, sqrtCore, ← htarget, ← hsteps]
  refine inRange_roundWithAccuracy _ _ (by omega) ?_
  unfold totalExponent at htotal ⊢
  omega

/-! ## Doubles -/

section Doubles

variable {x : Float}

/-- The magnitude of a finite double is finite. -/
theorem isFinite_abs (h : x.isFinite = true) : x.abs.isFinite = true := by
  obtain ⟨b, hb⟩ := (isFinite_iff x).mp h
  change (packed x.toModel.unpack.abs).isFinite = true
  apply isFinite_packed
  rcases unpack_of_form hb with ⟨-, sign, hu⟩ | ⟨hpos, sign, -, hu⟩
  · rw [hu]
    exact .zero _
  · rw [hu]
    exact .finite hpos (canonical_of_form hb).exponent_le

/-- The opposite of a finite double is finite. -/
theorem isFinite_neg (h : x.isFinite = true) : (-x).isFinite = true := by
  obtain ⟨b, hb⟩ := (isFinite_iff x).mp h
  change (packed x.toModel.unpack.neg).isFinite = true
  apply isFinite_packed
  rcases unpack_of_form hb with ⟨-, sign, hu⟩ | ⟨hpos, sign, -, hu⟩
  · rw [hu]
    exact .zero _
  · rw [hu]
    exact .finite hpos (canonical_of_form hb).exponent_le

/-- Of the finite doubles, only those below zero have no square root. -/
theorem isFinite_sqrt (h : x.isFinite = true) (hsign : ¬x < 0.0) : x.sqrt.isFinite = true := by
  obtain ⟨b, hb⟩ := (isFinite_iff x).mp h
  have hcanonical := canonical_of_form hb
  change (packed (x.toModel.unpack.sqrt .binary64)).isFinite = true
  apply isFinite_packed
  rcases unpack_of_form hb with ⟨-, sign, hu⟩ | ⟨hpos, sign, hnegative, hu⟩
  · rw [hu]
    exact .zero sign
  rw [hu]
  cases sign with
  | positive =>
    refine inRange_sqrt hcanonical.exponent_le ?_
    have hexponent := hcanonical.exponent_le
    have hlog := log2_le_of_lt hcanonical.significand_lt
    unfold totalExponent
    omega
  | negative =>
    have hle := signed_le_of_not_lt form_zero hb hsign
    rw [Binary.signed_of_significand rfl, Binary.signed, ← hnegative] at hle
    have hvalue : 0 < b.value := mul_pos (by exact_mod_cast hpos) (by positivity)
    exact absurd (neg_nonneg.mp hle) (not_le.mpr hvalue)

end Doubles

/-! ## Natural numbers and integers -/

/-- A natural number of at most 53 digits to the base two is its own double. -/
theorem standsFor_ofNat {n : Nat} (hpos : 0 < n) (hlt : n < 2 ^ 53) :
    StandsFor n.toFloat (wholeBinary n) := by
  obtain ⟨hcanonical, hfull⟩ := wholeBinary_canonical hpos hlt
  obtain ⟨c, hone, hfullc, hvalue⟩ := standsFor_powerOfTen (n := 0) (by decide)
  have hlarge : 2 ^ 53 ≤ (wholeBinary n).significand * c.significand := by
    calc 2 ^ 53 ≤ 2 ^ 52 * 2 ^ 52 := by decide
      _ ≤ (wholeBinary n).significand * c.significand := Nat.mul_le_mul hfull hfullc
  have hproduct : (wholeBinary n).Attracts ((wholeBinary n).value * c.value) := by
    rw [hvalue, pow_zero, mul_one]
    exact Binary.attracts_value
  have hfast : n.toFloat = n.toUInt64.toFloat * Float.exactlyRepresentablePowersOfTen[0] := by
    change Float.ofScientific n false 0 = _
    rw [Float.ofScientific, dif_pos ⟨hlt, by decide⟩]
    rfl
  rw [hfast]
  exact (standsFor_toFloat hpos hlt).mul hone (.inl hlarge) hcanonical rfl
    (Nat.lt_of_lt_of_le (by decide) hfull) hproduct

private theorem inRange_ofScientific {n : Nat} (h : n < 2 ^ 64) :
    InRange (UnpackedFloat.ofScientific .binary64 n 0) := by
  have hexponentBits : (2 : Int) ^ Format.binary64.exponentBits = 2048 := rfl
  have hmantissaBits : Format.binary64.mantissaBits = 53 := rfl
  have hone : totalExponent (10 ^ (0 : Int).toNat) 0 = 1 := by decide
  have hlog : (n <<< 53).log2 ≤ 116 := by
    apply log2_le_of_lt
    rw [Nat.shiftLeft_eq]
    omega
  unfold UnpackedFloat.ofScientific
  split
  · exact .zero .positive
  rw [if_neg (by omega), if_neg (by omega), if_pos (le_refl _)]
  apply inRange_mul
  · rw [hmantissaBits]
    decide
  · rw [hone, hmantissaBits, totalExponent]
    omega

/-- Zero is finite. -/
theorem isFinite_zero : (0.0 : Float).isFinite = true := by
  rfl

/-- The double of a natural number of at most 64 digits to the base two is finite. -/
theorem isFinite_ofNat {n : Nat} (h : n < 2 ^ 64) : n.toFloat.isFinite = true := by
  by_cases hzero : n = 0
  · subst hzero
    rfl
  by_cases hlt : n < 2 ^ 53
  · exact (isFinite_iff _).mpr ⟨_, (standsFor_ofNat (Nat.pos_of_ne_zero hzero) hlt).form_eq⟩
  have hslow : n.toFloat = packed (UnpackedFloat.ofScientific .binary64 n 0) := by
    change Float.ofScientific n false 0 = _
    rw [Float.ofScientific, dif_neg fun hfast => hlt hfast.1]
    rfl
  rw [hslow]
  exact isFinite_packed (inRange_ofScientific h)

/-- The double of an integer of at most 64 digits to the base two is finite. -/
theorem isFinite_ofInt {n : Int} (h : n.natAbs < 2 ^ 64) : (Float.ofInt n).isFinite = true := by
  cases n with
  | ofNat n => exact isFinite_ofNat h
  | negSucc n => exact isFinite_neg (isFinite_ofNat h)

private theorem standsFor_unitSteps : StandsFor Ambient.unitSteps.toFloat ⟨false, 2 ^ 52, 1⟩ :=
  ⟨rfl, rfl, by decide⟩

/-- A random number between zero and one is finite. -/
theorem isFinite_unit (ambient : Ambient) : ambient.unit.isFinite = true := by
  have hlt : ambient.draw % Ambient.unitSteps < 2 ^ 53 := Nat.mod_lt _ (by decide)
  unfold Ambient.unit
  generalize ambient.draw % Ambient.unitSteps = n at hlt ⊢
  by_cases hzero : n = 0
  · subst hzero
    rfl
  have hx := standsFor_ofNat (Nat.pos_of_ne_zero hzero) hlt
  change (packed (UnpackedFloat.div .binary64 n.toFloat.toModel.unpack
    Ambient.unitSteps.toFloat.toModel.unpack)).isFinite = true
  rw [hx.unpack_eq, standsFor_unitSteps.unpack_eq]
  have hexponent : (wholeBinary n).exponent ≤ 0 := neg_nonpos.mpr (Nat.cast_nonneg _)
  have hlog := log2_le_of_lt hx.canonical.significand_lt
  refine isFinite_packed (inRange_div ?_ ?_)
  · dsimp only
    omega
  · unfold totalExponent
    dsimp only
    omega

end Spreadsheet.Number
