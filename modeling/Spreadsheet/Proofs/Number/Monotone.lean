import Spreadsheet.Proofs.Number.Fraction

/-!
# Rounding keeps the order

The interval of a double does not reach to any other double. A number on one side of a double is
therefore rounded to a double on the same side, or to the double itself. This holds in particular of
integers of up to 64 digits to the base two, many of which are no doubles themselves, and of the
next integers below and above a double, which are doubles.
-/

namespace Spreadsheet.Number

variable {x y : Float} {b c : Binary} {v : ℚ} {m n : Int}

/-! ## Intervals and other doubles -/

namespace Binary

/-- A smaller double lies below the whole interval. -/
theorem value_lt_lower (hb : b.Canonical) (hc : c.Canonical) (h : c.value < b.value) :
    c.value < b.lower := by
  have hunit : (0 : ℚ) < 2 ^ b.exponent := by positivity
  have hquarters := Attracts.quartersBelow_le b
  rcases lt_trichotomy c.exponent b.exponent with hless | hsame | hgreater
  · have hc_lt : (c.significand : ℚ) + 1 ≤ 2 ^ 53 := by
      exact_mod_cast Nat.succ_le_of_lt hc.significand_lt
    have hfull : 2 ^ 52 ≤ b.significand := by
      have hleast := hc.le_exponent
      exact hb.full.resolve_right (by omega)
    have hc_value : c.value ≤ (2 ^ 52 - 1 / 2) * 2 ^ b.exponent := by
      calc c.value ≤ (2 ^ 53 - 1) * 2 ^ c.exponent :=
            mul_le_mul_of_nonneg_right (by linarith) (by positivity)
        _ ≤ (2 ^ 53 - 1) * 2 ^ (b.exponent - 1) :=
            mul_le_mul_of_nonneg_left (zpow_le_zpow_right₀ one_le_two (by omega)) (by norm_num)
        _ = (2 ^ 52 - 1 / 2) * 2 ^ b.exponent := by
            rw [zpow_sub_one₀ two_ne_zero]
            ring
    refine hc_value.trans_lt (mul_lt_mul_of_pos_right ?_ hunit)
    rcases hfull.eq_or_lt with hfirst | hlater
    · have hone : b.quartersBelow = 1 :=
        if_pos ⟨hfirst.symm, hc.le_exponent.trans_lt hless⟩
      rw [hone, ← hfirst]
      norm_num
    · have hb_ge : (2 : ℚ) ^ 52 + 1 ≤ b.significand := by exact_mod_cast hlater
      linarith
  · have hless : (c.significand : ℚ) < b.significand := by
      rw [value, value, hsame] at h
      exact lt_of_mul_lt_mul_right h hunit.le
    have hle : (c.significand : ℚ) + 1 ≤ b.significand := by
      exact_mod_cast Nat.succ_le_of_lt (Nat.cast_lt.mp hless)
    rw [value, lower, hsame]
    exact mul_lt_mul_of_pos_right (by linarith) hunit
  · exact absurd (value_lt_of_exponent_lt hb hc hgreater) h.not_gt

/-- A greater double lies above the whole interval. -/
theorem upper_lt_value (hb : b.Canonical) (hc : c.Canonical) (h : b.value < c.value) :
    b.upper < c.value := by
  have hunit : (0 : ℚ) < 2 ^ b.exponent := by positivity
  rcases lt_trichotomy c.exponent b.exponent with hless | hsame | hgreater
  · exact absurd (value_lt_of_exponent_lt hc hb hless) h.not_gt
  · have hless : (b.significand : ℚ) < c.significand := by
      rw [value, value, hsame] at h
      exact lt_of_mul_lt_mul_right h hunit.le
    have hle : (b.significand : ℚ) + 1 ≤ c.significand := by
      exact_mod_cast Nat.succ_le_of_lt (Nat.cast_lt.mp hless)
    rw [value, upper, hsame]
    exact mul_lt_mul_of_pos_right (by linarith) hunit
  · have hb_lt : (b.significand : ℚ) + 1 ≤ 2 ^ 53 := by
      exact_mod_cast Nat.succ_le_of_lt hb.significand_lt
    have hfull : (2 : ℚ) ^ 52 ≤ c.significand := by
      have hleast := hb.le_exponent
      exact_mod_cast hc.full.resolve_right (by omega)
    calc b.upper < 2 ^ 53 * 2 ^ b.exponent := mul_lt_mul_of_pos_right (by linarith) hunit
      _ = 2 ^ 52 * 2 ^ (b.exponent + 1) := by
          rw [zpow_add_one₀ two_ne_zero]
          ring
      _ ≤ 2 ^ 52 * 2 ^ c.exponent :=
          mul_le_mul_of_nonneg_left (zpow_le_zpow_right₀ one_le_two (by omega)) (by positivity)
      _ ≤ c.value := mul_le_mul_of_nonneg_right hfull (by positivity)

/-- A number that is not above a double is rounded to one that is not above it. -/
theorem Attracts.value_le (h : b.Attracts v) (hb : b.Canonical) (hc : c.Canonical)
    (hle : v ≤ c.value) : b.value ≤ c.value := by
  by_contra hgreater
  exact absurd (value_lt_lower hb hc (not_le.mp hgreater)) (h.lower_le.trans hle).not_gt

/-- A number that is not below a double is rounded to one that is not below it. -/
theorem Attracts.le_value (h : b.Attracts v) (hb : b.Canonical) (hc : c.Canonical)
    (hle : c.value ≤ v) : c.value ≤ b.value := by
  by_contra hless
  exact absurd (upper_lt_value hb hc (not_le.mp hless)) (hle.trans h.le_upper).not_gt

end Binary

/-! ## The order of finite doubles -/

/-- Finite doubles are ordered as their numbers. -/
theorem le_iff_toRat_le (hx : x.isFinite = true) (hy : y.isFinite = true) :
    x ≤ y ↔ toRat x ≤ toRat y := by
  obtain ⟨b, hb⟩ := (isFinite_iff x).mp hx
  obtain ⟨c, hc⟩ := (isFinite_iff y).mp hy
  rw [le_iff_signed_le hb hc, toRat_of_form hb, toRat_of_form hc]

/-- Finite doubles are strictly ordered as their numbers. -/
theorem lt_iff_toRat_lt (hx : x.isFinite = true) (hy : y.isFinite = true) :
    x < y ↔ toRat x < toRat y := by
  obtain ⟨b, hb⟩ := (isFinite_iff x).mp hx
  obtain ⟨c, hc⟩ := (isFinite_iff y).mp hy
  rw [lt_iff_signed_lt hb hc, toRat_of_form hb, toRat_of_form hc]

/-- Of two finite doubles, one is at most the other if it is not greater. -/
theorem not_lt_iff_le (hx : x.isFinite = true) (hy : y.isFinite = true) : ¬x < y ↔ y ≤ x := by
  rw [lt_iff_toRat_lt hx hy, le_iff_toRat_le hy hx]
  exact not_lt

/-- An exact integer is finite. -/
theorem IsExactly.isFinite (h : IsExactly x n) : x.isFinite = true := by
  obtain ⟨b, hb, -⟩ := h
  exact (isFinite_iff x).mpr ⟨b, hb⟩

/-- An exact integer is its number. -/
theorem IsExactly.toRat_eq (h : IsExactly x n) : toRat x = n := by
  obtain ⟨b, hb, hsigned⟩ := h
  rw [toRat_of_form hb, hsigned]

/-! ## The next integers below and above -/

private theorem ceil_natCast_div (n : Nat) {d : Nat} (hd : 0 < d) :
    ⌈(n / d : ℚ)⌉ = if n % d = 0 then ((n / d : Nat) : Int) else (n / d : Nat) + 1 := by
  have hpos : (0 : ℚ) < d := by exact_mod_cast hd
  have hless := Nat.mod_lt n hd
  rw [natCast_div_eq n hd, Int.ceil_eq_iff]
  generalize n / d = whole
  generalize n % d = rest at hless ⊢
  by_cases hzero : rest = 0
  · rw [if_pos hzero, hzero]
    simp
  · have hrest : (0 : ℚ) < rest := by exact_mod_cast Nat.pos_of_ne_zero hzero
    have habove : 0 < (rest : ℚ) / d := by positivity
    have hbelow : (rest : ℚ) / d < 1 := by
      rw [div_lt_one hpos]
      exact_mod_cast hless
    rw [if_neg hzero]
    push_cast
    constructor <;> linarith

private theorem Binary.toInteger_down (b : Binary) : b.toInteger .down = ⌊b.signed⌋ := by
  have hfloor : ((b.quotient.1 / b.quotient.2 : Nat) : Int) = ⌊b.value⌋ := by
    rw [← quotient_eq_value, Rat.floor_natCast_div_natCast]
    rfl
  have hceil := ceil_natCast_div b.quotient.1 b.quotient_snd_pos
  rw [quotient_eq_value] at hceil
  unfold toInteger signed
  cases b.negative with
  | false => simp [hfloor]
  | true =>
    rw [if_pos rfl, Int.floor_neg, hceil]
    simp

private theorem Binary.toInteger_up (b : Binary) : b.toInteger .up = ⌈b.signed⌉ := by
  have hfloor : ((b.quotient.1 / b.quotient.2 : Nat) : Int) = ⌊b.value⌋ := by
    rw [← quotient_eq_value, Rat.floor_natCast_div_natCast]
    rfl
  have hceil := ceil_natCast_div b.quotient.1 b.quotient_snd_pos
  rw [quotient_eq_value] at hceil
  unfold toInteger signed
  cases b.negative with
  | false =>
    rw [if_neg Bool.false_ne_true, hceil]
    simp
  | true => simp [Int.ceil_neg, hfloor]

/-- A number without digits behind the point is an integer. -/
theorem Binary.exists_signed_eq (h : 0 ≤ b.exponent) : ∃ n : Int, b.signed = n := by
  obtain ⟨k, hk⟩ := Int.eq_ofNat_of_zero_le h
  have hvalue : b.value = ((b.significand * 2 ^ k : Nat) : ℚ) := by
    rw [value, hk, zpow_natCast]
    push_cast
    rfl
  unfold signed
  split_ifs
  · exact ⟨-(b.significand * 2 ^ k : Nat), by rw [hvalue]; push_cast; rfl⟩
  · exact ⟨(b.significand * 2 ^ k : Nat), by rw [hvalue]; push_cast; rfl⟩

private theorem Binary.abs_signed (b : Binary) : |b.signed| = b.value := by
  unfold signed
  split_ifs
  · rw [abs_neg, abs_of_nonneg b.value_nonneg]
  · rw [abs_of_nonneg b.value_nonneg]

/-- A double of more than 52 digits in front of the point has none behind it. -/
theorem exists_toRat_eq_of_le_abs (hx : x.isFinite = true) (h : 2 ^ 52 ≤ |toRat x|) :
    ∃ n : Int, toRat x = n := by
  obtain ⟨b, hb⟩ := (isFinite_iff x).mp hx
  rw [toRat_of_form hb] at h ⊢
  refine Binary.exists_signed_eq ?_
  by_contra hless
  rw [b.abs_signed] at h
  exact absurd (Binary.value_lt_two_pow (canonical_of_form hb) (not_le.mp hless)) h.not_gt

/-- A double is rounded to the integer that the number is rounded to. -/
theorem isExactly_round {direction : Direction} (hform : form x = .finite b)
    (hinteger : ∀ n : Int, b.signed = n → b.toInteger direction = n)
    (hnear : |(b.toInteger direction : ℚ) - b.signed| ≤ 1) :
    IsExactly (round direction x) (b.toInteger direction) := by
  unfold round
  rw [hform]
  dsimp only
  split_ifs with hexponent
  · obtain ⟨n, hn⟩ := Binary.exists_signed_eq hexponent
    exact ⟨b, hform, by rw [hinteger n hn, hn]⟩
  · refine isExactly_ofInteger _ ?_
    have hvalue := Binary.value_lt_two_pow (canonical_of_form hform) (not_le.mp hexponent)
    have hless : |(b.toInteger direction : ℚ)| < 2 ^ 53 := by
      have habs := abs_sub_abs_le_abs_sub (b.toInteger direction : ℚ) b.signed
      rw [b.abs_signed] at habs
      linarith
    rw [← Int.cast_abs, Int.abs_eq_natAbs] at hless
    exact_mod_cast hless

/-- The floor of a finite double is the integer below it. -/
theorem isExactly_floor (h : x.isFinite = true) : IsExactly (floor x) ⌊toRat x⌋ := by
  obtain ⟨b, hb⟩ := (isFinite_iff x).mp h
  rw [toRat_of_form hb, ← b.toInteger_down]
  refine isExactly_round hb (fun n hn => by rw [b.toInteger_down, hn, Int.floor_intCast]) ?_
  have hle := Int.floor_le b.signed
  have hlt := Int.lt_floor_add_one b.signed
  rw [b.toInteger_down, abs_le]
  constructor <;> linarith

/-- The ceiling of a finite double is the integer above it. -/
theorem isExactly_ceiling (h : x.isFinite = true) : IsExactly (ceiling x) ⌈toRat x⌉ := by
  obtain ⟨b, hb⟩ := (isFinite_iff x).mp h
  rw [toRat_of_form hb, ← b.toInteger_up]
  refine isExactly_round hb (fun n hn => by rw [b.toInteger_up, hn, Int.ceil_intCast]) ?_
  have hle := Int.le_ceil b.signed
  have hlt := Int.ceil_lt_add_one b.signed
  rw [b.toInteger_up, abs_le]
  constructor <;> linarith

/-- Rounding to an integer makes no double finite. -/
theorem isFinite_of_isFinite_round {direction : Direction}
    (h : (round direction x).isFinite = true) : x.isFinite = true := by
  unfold round at h
  split at h
  · rename_i b hb
    exact (isFinite_iff x).mpr ⟨b, hb⟩
  · exact h

/-! ## Doubles of integers -/

/-- The opposite of a positive double is the opposite number. -/
theorem toRat_neg_of_standsFor (h : StandsFor x b) : toRat (-x) = -b.value := by
  rw [toRat_of_form (form_neg_of_standsFor h)]
  rfl

/-- A natural number of up to 64 digits to the base two is rounded to the nearest double. -/
theorem exists_standsFor_toFloat {n : Nat} (hpos : 0 < n) (hlt : n < 2 ^ 64) :
    ∃ d, StandsFor n.toFloat d ∧ d.Attracts n := by
  have hone : (1 : ℚ) ≤ n := by exact_mod_cast hpos
  have hlow : (2 : ℚ) ^ leastExponent ≤ n :=
    (zpow_le_one_of_nonpos₀ one_le_two (by decide)).trans hone
  have hhigh : (n : ℚ) < 2 ^ (1023 : Int) := by
    calc (n : ℚ) < 2 ^ (64 : Int) := by exact_mod_cast hlt
      _ ≤ 2 ^ (1023 : Int) := zpow_le_zpow_right₀ one_le_two (by decide)
  obtain ⟨d, hd, hnegative, hsignificand, hattracts⟩ := exists_attracts hlow hhigh
  refine ⟨d, ?_, hattracts⟩
  have hread : ofDecimal n 0 = n.toFloat := ofDecimal_natCast hpos hlt
  rw [← hread]
  refine standsFor_ofDecimal hd hnegative hsignificand ?_
  rwa [zpow_zero, mul_one]

private theorem toRat_ofInt_neg (h : n.natAbs < 2 ^ 64) :
    toRat (Float.ofInt (-n)) = -toRat (Float.ofInt n) := by
  cases n with
  | ofNat k =>
    cases k with
    | zero =>
      have hzero : toRat (Float.ofInt 0) = 0 := toRat_zero
      change toRat (Float.ofInt 0) = -toRat (Float.ofInt 0)
      rw [hzero, neg_zero]
    | succ k =>
      obtain ⟨d, hd, -⟩ := exists_standsFor_toFloat k.succ_pos h
      have hpositive : toRat (Float.ofInt (k + 1 : Nat)) = d.value := hd.toRat_eq
      exact (toRat_neg_of_standsFor hd).trans (congrArg _ hpositive.symm)
  | negSucc k =>
    obtain ⟨d, hd, -⟩ := exists_standsFor_toFloat k.succ_pos h
    have hnegative : toRat (Float.ofInt (Int.negSucc k)) = -d.value := toRat_neg_of_standsFor hd
    rw [hnegative, neg_neg]
    exact hd.toRat_eq

/-- An integer that is not above a number of full precision is rounded to a double that is not above
it. -/
theorem toRat_ofInt_le (hn : n.natAbs < 2 ^ 64) (hc : c.Canonical) (h : (n : ℚ) ≤ c.signed) :
    toRat (Float.ofInt n) ≤ c.signed := by
  rcases lt_trichotomy n 0 with hnegative | rfl | hpositive
  · obtain ⟨k, rfl⟩ : ∃ k : Nat, n = -k := ⟨n.natAbs, by omega⟩
    obtain ⟨d, hd, hattracts⟩ := exists_standsFor_toFloat (n := k) (by omega) (by omega)
    have hfloat : toRat (Float.ofInt k) = d.value := hd.toRat_eq
    rw [toRat_ofInt_neg (by omega), hfloat]
    push_cast at h
    by_cases hsign : c.negative = true
    · rw [Binary.signed, if_pos hsign] at h ⊢
      exact neg_le_neg (hattracts.le_value hd.canonical hc (neg_le_neg_iff.mp h))
    · rw [Binary.signed, if_neg hsign]
      exact (neg_nonpos.mpr d.value_nonneg).trans c.value_nonneg
  · exact toRat_zero.trans_le (by exact_mod_cast h)
  · obtain ⟨k, rfl⟩ := Int.eq_ofNat_of_zero_le hpositive.le
    obtain ⟨d, hd, hattracts⟩ := exists_standsFor_toFloat (n := k) (by omega) (by omega)
    have hfloat : toRat (Float.ofInt k) = d.value := hd.toRat_eq
    have hk : (0 : ℚ) < (k : Int) := by exact_mod_cast hpositive
    have hsigned : c.signed = c.value := by
      rw [← abs_of_pos (hk.trans_le h), c.abs_signed]
    rw [hsigned] at h ⊢
    exact hfloat.trans_le (hattracts.value_le hd.canonical hc (by exact_mod_cast h))

/-- The number with the other sign. -/
def Binary.opposite (b : Binary) : Binary :=
  ⟨!b.negative, b.significand, b.exponent⟩

private theorem Binary.signed_opposite (b : Binary) : b.opposite.signed = -b.signed := by
  have hvalue : b.opposite.value = b.value := rfl
  have hnegative : b.opposite.negative = !b.negative := rfl
  rw [signed, signed, hvalue, hnegative]
  cases b.negative with
  | false => rfl
  | true => exact (neg_neg _).symm

private theorem Binary.Canonical.opposite (h : b.Canonical) : b.opposite.Canonical :=
  ⟨h.significand_lt, h.full, h.le_exponent, h.exponent_le⟩

/-- An integer that is not above a double has a double that is not above it. -/
theorem ofInt_le (hn : n.natAbs < 2 ^ 64) (hx : x.isFinite = true) (h : (n : ℚ) ≤ toRat x) :
    Float.ofInt n ≤ x := by
  obtain ⟨c, hc⟩ := (isFinite_iff x).mp hx
  rw [le_iff_toRat_le (isFinite_ofInt hn) hx]
  rw [toRat_of_form hc] at h ⊢
  exact toRat_ofInt_le hn (canonical_of_form hc) h

/-- An integer that is not below a double has a double that is not below it. -/
theorem le_ofInt (hn : n.natAbs < 2 ^ 64) (hx : x.isFinite = true) (h : toRat x ≤ n) :
    x ≤ Float.ofInt n := by
  obtain ⟨c, hc⟩ := (isFinite_iff x).mp hx
  rw [le_iff_toRat_le hx (isFinite_ofInt hn)]
  rw [toRat_of_form hc] at h ⊢
  have hopposite : ((-n : Int) : ℚ) ≤ c.opposite.signed := by
    rw [c.signed_opposite]
    push_cast
    exact neg_le_neg h
  have hle := toRat_ofInt_le (by omega) (canonical_of_form hc).opposite hopposite
  rw [toRat_ofInt_neg hn, c.signed_opposite] at hle
  exact neg_le_neg_iff.mp hle

/-- The double of an integer is an integer. -/
theorem exists_isExactly_ofInt (h : n.natAbs < 2 ^ 64) : ∃ m, IsExactly (Float.ofInt n) m := by
  by_cases hsmall : n.natAbs < 2 ^ 53
  · exact ⟨n, isExactly_ofInt hsmall⟩
  obtain ⟨d, hd, hattracts⟩ := exists_standsFor_toFloat (n := n.natAbs) (by omega) h
  have hexponent : 0 ≤ d.exponent := by
    by_contra hless
    have hpower : Binary.Canonical ⟨false, 2 ^ 52, 0⟩ :=
      ⟨by norm_num, .inl le_rfl, by decide, by decide⟩
    have hvalue : Binary.value ⟨false, 2 ^ 52, 0⟩ = 2 ^ 52 := by
      rw [Binary.value]
      norm_num
    have hlarge : (2 : ℚ) ^ 53 ≤ n.natAbs := by exact_mod_cast not_lt.mp hsmall
    have hge := hattracts.le_value hd.canonical hpower (hvalue.trans_le (by linarith))
    exact absurd (Binary.value_lt_two_pow hd.canonical (not_le.mp hless)) (hvalue ▸ hge).not_gt
  cases n with
  | ofNat k =>
    obtain ⟨m, hm⟩ := Binary.exists_signed_eq hexponent
    exact ⟨m, d, hd.form_eq, hm⟩
  | negSucc k =>
    obtain ⟨m, hm⟩ := Binary.exists_signed_eq (b := ⟨true, d.significand, d.exponent⟩) hexponent
    exact ⟨m, _, form_neg_of_standsFor hd, hm⟩

end Spreadsheet.Number
