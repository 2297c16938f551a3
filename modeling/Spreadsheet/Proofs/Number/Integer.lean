import Spreadsheet.Proofs.Number.Counting

/-!
# Doubles that are integers

An integer of at most 53 digits to the base two is its own double, and so are many greater ones. The
whole part of such a double is the integer itself, held within the bounds of a word. Dropping the
fraction of a double first makes no difference to its whole part.
-/

namespace Spreadsheet.Number

open Float.Model Float.Model.UnpackedFloat

variable {x y : Float} {b : Binary} {m n : Int}

/-- The double is exactly the integer. Zero may have a sign. -/
def IsExactly (x : Float) (n : Int) : Prop :=
  ∃ b, form x = .finite b ∧ b.signed = n

/-- An integer within the bounds of a signed word of 64 bits, or the bound that it is beyond. -/
def heldInWord (n : Int) : Int :=
  max (-2 ^ 63) (min (2 ^ 63 - 1) n)

/-! ## Whole parts -/

/-- A form whose value is an integer is cut off to this integer. -/
theorem toInteger_of_signed (h : b.signed = n) : b.toInteger .towardZero = n := by
  rw [Binary.toInteger_towardZero]
  unfold Binary.signed at h
  split_ifs at h ⊢
  · have hvalue : b.value = ((-n : Int) : ℚ) := by
      push_cast
      rw [← h, neg_neg]
    rw [hvalue, Int.floor_intCast, neg_neg]
  · rw [h, Int.floor_intCast]

/-- The word of a finite double holds its integer part. -/
theorem toInt64_of_form (h : form x = .finite b) :
    toInt64 x = heldInWord (b.toInteger .towardZero) := by
  unfold toInt64 toBounded
  rw [h]
  rfl

/-- The word of an exact integer holds it. -/
theorem IsExactly.toInt64_eq (h : IsExactly x n) : toInt64 x = heldInWord n := by
  obtain ⟨b, hform, hsigned⟩ := h
  rw [toInt64_of_form hform, toInteger_of_signed hsigned]

/-- A word holds the integers that are exact as doubles. -/
theorem heldInWord_of_natAbs_lt (h : n.natAbs < 2 ^ 53) : heldInWord n = n := by
  unfold heldInWord
  omega

/-! ## Doubles of integers -/

/-- The opposite of a positive double has the same form with a minus sign. -/
theorem form_neg_of_standsFor (h : StandsFor x b) :
    form (-x) = .finite ⟨true, b.significand, b.exponent⟩ := by
  have hpacked : -x = packed (.finite .negative b.significand b.exponent h.significand_pos) := by
    change packed x.toModel.unpack.neg = _
    rw [h.unpack_eq]
    rfl
  rw [hpacked]
  obtain ⟨hlt, hfull, hle, hge⟩ := h.canonical
  exact form_packed_finite h.significand_pos ⟨hlt, hfull, hle, hge⟩

private theorem isExactly_zero : IsExactly 0.0 0 :=
  ⟨_, form_zero, Binary.signed_of_significand rfl⟩

private theorem isExactly_negativeZero : IsExactly (-0.0) 0 :=
  ⟨⟨true, 0, leastExponent⟩, rfl, Binary.signed_of_significand rfl⟩

/-- An integer of at most 53 digits to the base two is its own double. -/
theorem isExactly_ofInt (h : n.natAbs < 2 ^ 53) : IsExactly (Float.ofInt n) n := by
  cases n with
  | ofNat n =>
    by_cases hzero : n = 0
    · subst hzero
      exact isExactly_zero
    · have hn := standsFor_ofNat (Nat.pos_of_ne_zero hzero) h
      refine ⟨_, hn.form_eq, ?_⟩
      rw [Binary.signed, hn.negative_eq, if_neg Bool.false_ne_true, wholeBinary_value]
      rfl
  | negSucc n =>
    have hn := standsFor_ofNat (Nat.succ_pos n) h
    refine ⟨_, form_neg_of_standsFor hn, ?_⟩
    have hvalue := wholeBinary_value n.succ
    unfold Binary.value at hvalue
    rw [Binary.signed, if_pos rfl, Binary.value, hvalue]
    simp

/-- An integer of at most 53 digits to the base two is exact as a double. -/
theorem isExactly_ofInteger (negative : Bool) (h : n.natAbs < 2 ^ 53) :
    IsExactly (ofInteger negative n) n := by
  unfold ofInteger
  split_ifs with hzero hnegative
  · rw [hzero]
    exact isExactly_negativeZero
  · rw [hzero]
    exact isExactly_zero
  · exact isExactly_ofInt h

/-- An integer without minus sign is taken as it is. -/
theorem ofInteger_false (n : Int) : ofInteger false n = Float.ofInt n := by
  unfold ofInteger
  by_cases hzero : n = 0
  · subst hzero
    rfl
  · exact if_neg hzero

/-- A double is exactly one integer at most. -/
theorem IsExactly.unique (hm : IsExactly x m) (hn : IsExactly x n) : m = n := by
  obtain ⟨b, hb, hbm⟩ := hm
  obtain ⟨c, hc, hcn⟩ := hn
  cases hb.symm.trans hc
  exact_mod_cast hbm.symm.trans hcn

/-- Integers of at most 53 digits are told apart by their doubles. -/
theorem ofInt_injective (hm : m.natAbs < 2 ^ 53) (hn : n.natAbs < 2 ^ 53)
    (h : Float.ofInt m = Float.ofInt n) : m = n :=
  (isExactly_ofInt hm).unique (h ▸ isExactly_ofInt hn)

/-- A natural number without a power of ten is read as its double. -/
theorem ofDecimal_natCast {n : Nat} (hpos : 0 < n) (hlt : n < 2 ^ 64) :
    ofDecimal n 0 = Float.ofInt n := by
  have hlog : n.log2 < 64 := (Nat.log2_lt hpos.ne').mpr hlt
  unfold ofDecimal
  rw [if_neg hpos.ne', if_neg (by omega), if_neg (by omega)]
  rfl

/-- The doubles of small positive integers are in the order of the integers. -/
theorem le_of_ofInt_le_ofInt (hm : 0 < m) (hmlt : m < 2 ^ 53) (hn : 0 ≤ n) (hnlt : n < 2 ^ 53)
    (h : Float.ofInt m ≤ Float.ofInt n) : m ≤ n := by
  obtain ⟨i, rfl⟩ := Int.eq_ofNat_of_zero_le hm.le
  obtain ⟨j, rfl⟩ := Int.eq_ofNat_of_zero_le hn
  have hi : StandsFor (Float.ofInt i) (wholeBinary i) := standsFor_ofNat (by omega) (by omega)
  by_cases hzero : j = 0
  · subst hzero
    have hle : Float.ofInt i ≤ 0.0 := h
    rw [le_iff_le_unpack, hi.unpack_eq, unpack_zero] at hle
    cases hle
  · have hj : StandsFor (Float.ofInt j) (wholeBinary j) := standsFor_ofNat (by omega) (by omega)
    have hvalue := (hi.le_iff hj).mp h
    rw [wholeBinary_value, wholeBinary_value] at hvalue
    exact_mod_cast hvalue

/-! ## Doubles without their fractions -/

/-- A number with a negative exponent has a whole part of at most 53 digits. -/
theorem natAbs_toInteger_lt (hb : b.Canonical) (hexponent : b.exponent < 0) :
    (b.toInteger .towardZero).natAbs < 2 ^ 53 := by
  have hvalue := Binary.value_lt_two_pow hb hexponent
  have hnonneg : 0 ≤ ⌊b.value⌋ := Int.floor_nonneg.mpr b.value_nonneg
  have hfloor : ⌊b.value⌋ < 2 ^ 52 := Int.floor_lt.mpr (by exact_mod_cast hvalue)
  rw [Binary.toInteger_towardZero]
  split <;> omega

/-- A double is rounded to an integer of at most 53 digits, or it is one already. -/
theorem toInt64_truncate (x : Float) : toInt64 (truncate x) = toInt64 x := by
  unfold truncate round
  split
  · rename_i b hform
    split_ifs with hexponent
    · rfl
    have hsmall := natAbs_toInteger_lt (canonical_of_form hform) (not_le.mp hexponent)
    rw [toInt64_of_form hform, (isExactly_ofInteger _ hsmall).toInt64_eq]
  · rfl

/-- Of a number that is not negative, the next integer below is the whole part. -/
theorem StandsFor.floor_eq_truncate (h : StandsFor x b) : floor x = truncate x := by
  have hinteger : b.toInteger .down = b.toInteger .towardZero := by
    simp [Binary.toInteger, h.negative_eq]
  unfold floor truncate round
  rw [h.form_eq]
  dsimp only
  rw [hinteger]

/-- A positive integer of at most 53 digits is the next integer below itself. -/
theorem toInt64_floor_ofInt (hpos : 0 < n) (hlt : n < 2 ^ 53) :
    toInt64 (floor (Float.ofInt n)) = n := by
  have hsmall : n.natAbs < 2 ^ 53 := by omega
  obtain ⟨k, rfl⟩ := Int.eq_ofNat_of_zero_le hpos.le
  have hk : StandsFor (Float.ofInt k) (wholeBinary k) := standsFor_ofNat (by omega) (by omega)
  rw [hk.floor_eq_truncate, toInt64_truncate, (isExactly_ofInt hsmall).toInt64_eq,
    heldInWord_of_natAbs_lt hsmall]

/-- A form without fraction has a great value. -/
theorem two_pow_le_value (hb : b.Canonical) (hexponent : 0 ≤ b.exponent) : 2 ^ 52 ≤ b.value := by
  have hleast : leastExponent = -1074 := rfl
  have hfull : 2 ^ 52 ≤ b.significand := hb.full.resolve_right (by omega)
  have hstep : (1 : ℚ) ≤ 2 ^ b.exponent := one_le_zpow₀ one_le_two hexponent
  calc (2 : ℚ) ^ 52 ≤ b.significand := by exact_mod_cast hfull
    _ ≤ b.value := le_mul_of_one_le_right (Nat.cast_nonneg _) hstep

/-- The next integer below a double that is at least one is its own double, or it has more than 52
digits to the base two. -/
theorem floor_eq_ofInt_or_le (hfinite : x.isFinite = true) (h : 1.0 ≤ x) :
    (1 ≤ toInt64 (floor x) ∧ floor x = Float.ofInt (toInt64 (floor x))) ∨
      2 ^ 52 ≤ toInt64 (floor x) := by
  obtain ⟨c, hc⟩ := (isFinite_iff x).mp hfinite
  rcases form_of_one_le h with hinfinite | ⟨b, hb, hone⟩
  · cases hc.symm.trans hinfinite
  rw [hb.floor_eq_truncate]
  by_cases hexponent : b.exponent < 0
  · left
    have hpos : 0 < ⌊b.value⌋₊ := Nat.floor_pos.mpr hone
    have hlt := hb.floor_lt hexponent
    have hfloat : truncate x = Float.ofInt ⌊b.value⌋₊ := hb.truncate_eq hone hexponent
    have hsmall : (⌊b.value⌋₊ : Int).natAbs < 2 ^ 53 := by omega
    rw [hfloat, (isExactly_ofInt hsmall).toInt64_eq, heldInWord_of_natAbs_lt hsmall]
    exact ⟨by omega, rfl⟩
  · right
    have hlarge := two_pow_le_value hb.canonical (not_lt.mp hexponent)
    have hfloor : 2 ^ 52 ≤ ⌊b.value⌋ := Int.le_floor.mpr (by exact_mod_cast hlarge)
    rw [toInt64_truncate, toInt64_of_form hb.form_eq, Binary.toInteger_towardZero, hb.negative_eq,
      if_neg Bool.false_ne_true]
    unfold heldInWord
    omega

end Spreadsheet.Number
