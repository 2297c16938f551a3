import Mathlib.Tactic.NormNum
import Spreadsheet.Number.Binary

/-!
# Doubles and their parts

The bits of a double are a sign, an exponent field and a fraction. A double is determined by what it
stands for, and packing a number of full precision gives the double that stands for it.
-/

namespace Spreadsheet.Number

open Float.Model Float.Model.UnpackedFloat

/-! ## Parts of bits -/

section Bits

variable (bits : BitVec 64)

/-- The last 52 bits are those of the fraction. -/
theorem toNat_unpackMantissa :
    (@unpackMantissa .binary64 bits).toNat = bits.toNat % 2 ^ 52 := by
  simp [unpackMantissa]

/-- The 11 bits in front of the fraction are those of the exponent. -/
theorem toNat_unpackExponent :
    (@unpackExponent .binary64 bits).toNat = bits.toNat / 2 ^ 52 % 2 ^ 11 := by
  simp [unpackExponent, Nat.shiftRight_eq_div_pow]

/-- The first bit is that of the sign. -/
theorem toNat_unpackSign : (@unpackSign .binary64 bits).toNat = bits.toNat / 2 ^ 63 := by
  have hlt : bits.toNat < 2 ^ 64 := bits.isLt
  have hsign : bits.toNat / 2 ^ 63 < 2 := by omega
  change (BitVec.extractLsb 63 63 bits).toNat = _
  rw [BitVec.extractLsb_toNat, Nat.shiftRight_eq_div_pow]
  omega

/-- A double is packed from its sign, its exponent and its fraction. -/
theorem toNat_packComponents (sign : Sign) (exponent : BitVec 11) (mantissa : BitVec 52) :
    (packComponents .binary64 sign exponent mantissa).toNat =
      sign.toBitVec.toNat * 2 ^ 63 + exponent.toNat * 2 ^ 52 + mantissa.toNat := by
  have hmantissa : mantissa.toNat < 2 ^ 52 := mantissa.isLt
  have hexponent : exponent.toNat < 2 ^ 11 := exponent.isLt
  rw [packComponents, BitVec.toNat_append, BitVec.toNat_append,
    ← Nat.shiftLeft_add_eq_or_of_lt hexponent, ← Nat.shiftLeft_add_eq_or_of_lt hmantissa]
  simp only [Nat.shiftLeft_eq]
  omega

end Bits

/-! ## What a double stands for -/

/-- The sign is a minus sign. -/
def isNegative : Sign → Bool
  | .negative => true
  | .positive => false

/-- What an unpacked double stands for. -/
def formOf : UnpackedFloat → Form
  | .notANumber => .nan
  | .infinity sign => .infinite (isNegative sign)
  | .zero sign => .finite ⟨isNegative sign, 0, leastExponent⟩
  | .finite sign mantissa exponent _ => .finite ⟨isNegative sign, mantissa, exponent⟩

/-- The form of what is finite has its parts. -/
theorem formOf_finite (sign : Sign) (mantissa : Nat) (exponent : Int) (hpos : 0 < mantissa) :
    formOf (.finite sign mantissa exponent hpos) =
      .finite ⟨isNegative sign, mantissa, exponent⟩ := rfl

/-- The sign is that of the first bit. -/
theorem isNegative_ofBitVec (bits : BitVec 64) :
    isNegative (Sign.ofBitVec (@unpackSign .binary64 bits)) = (bits.toNat / 2 ^ 63 == 1) := by
  have hlt : bits.toNat < 2 ^ 64 := bits.isLt
  have hsign := toNat_unpackSign bits
  by_cases hone : bits.toNat / 2 ^ 63 = 1
  · have hne : @unpackSign .binary64 bits ≠ 0#1 := by
      intro hzero
      rw [hzero, hone] at hsign
      cases hsign
    rw [Sign.ofBitVec, if_neg hne, hone]
    rfl
  · have hzero : @unpackSign .binary64 bits = 0#1 := by
      apply BitVec.eq_of_toNat_eq
      rw [hsign]
      change bits.toNat / 2 ^ 63 = 0
      omega
    rw [Sign.ofBitVec, if_pos hzero, beq_eq_false_iff_ne.mpr hone]
    rfl

/-- What bits with the given sign, field and fraction stand for. -/
def formOfParts (negative : Bool) (field fraction : Nat) : Form :=
  if field = 2047 then if fraction = 0 then .infinite negative else .nan
  else if field = 0 then .finite ⟨negative, fraction, leastExponent⟩
  else .finite ⟨negative, fullSignificand + fraction, (field : Int) - 1075⟩

/-- The form of a double is read from its bits. -/
theorem form_eq_formOfParts (x : Float) :
    form x = formOfParts (x.toBits.toNat / 2 ^ 63 == 1) (x.toBits.toNat / 2 ^ 52 % 2 ^ 11)
      (x.toBits.toNat % 2 ^ 52) := rfl

/-- The bit in front of the fraction is not packed. -/
theorem toNat_implicit (fraction : BitVec 52) :
    (1#1 ++ fraction).toNat = fullSignificand + fraction.toNat := by
  rw [BitVec.toNat_append, ← Nat.shiftLeft_add_eq_or_of_lt fraction.isLt]
  rfl

/-- Reading the bits of a double and unpacking it agree. -/
theorem form_eq_formOf (x : Float) : form x = formOf x.toModel.unpack := by
  have hexponent := toNat_unpackExponent x.toModel.toBits.toBitVec
  have hmantissa := toNat_unpackMantissa x.toModel.toBits.toBitVec
  have hsign := isNegative_ofBitVec x.toModel.toBits.toBitVec
  rw [form_eq_formOfParts]
  change formOfParts (x.toModel.toBits.toBitVec.toNat / 2 ^ 63 == 1) _ _ =
    formOf (UnpackedFloat.unpack .binary64 x.toModel.toBits.toBitVec)
  change formOfParts _ (x.toModel.toBits.toBitVec.toNat / 2 ^ 52 % 2 ^ 11)
    (x.toModel.toBits.toBitVec.toNat % 2 ^ 52) = _
  generalize x.toModel.toBits.toBitVec = bits at hexponent hmantissa hsign ⊢
  have hfull : @unpackExponent .binary64 bits = -1#11 ↔ bits.toNat / 2 ^ 52 % 2 ^ 11 = 2047 := by
    rw [← hexponent, ← BitVec.toNat_inj]
    rfl
  have hnone : @unpackExponent .binary64 bits = 0#11 ↔ bits.toNat / 2 ^ 52 % 2 ^ 11 = 0 := by
    rw [← hexponent, ← BitVec.toNat_inj]
    rfl
  have hwhole : @unpackMantissa .binary64 bits = 0#52 ↔ bits.toNat % 2 ^ 52 = 0 := by
    rw [← hmantissa, ← BitVec.toNat_inj]
    rfl
  have himplicit := toNat_implicit (@unpackMantissa .binary64 bits)
  rw [← hsign]
  unfold UnpackedFloat.unpack formOfParts
  dsimp only
  by_cases hfield : bits.toNat / 2 ^ 52 % 2 ^ 11 = 2047
  · rw [if_pos hfield, if_pos (hfull.mpr hfield)]
    by_cases hzero : bits.toNat % 2 ^ 52 = 0
    · rw [if_pos hzero, if_pos (hwhole.mpr hzero)]
      rfl
    · rw [if_neg hzero, if_neg fun h => hzero (hwhole.mp h)]
      rfl
  rw [if_neg hfield, if_neg fun h => hfield (hfull.mp h)]
  by_cases hlow : bits.toNat / 2 ^ 52 % 2 ^ 11 = 0
  · rw [if_pos hlow, if_pos (hnone.mpr hlow)]
    by_cases hzero : @unpackMantissa .binary64 bits = 0#52
    · rw [dif_pos hzero, hwhole.mp hzero]
      rfl
    · rw [dif_neg hzero, formOf_finite, hmantissa, hexponent, hlow]
      rfl
  · rw [if_neg hlow, if_neg fun h => hlow (hnone.mp h), formOf_finite, himplicit, hmantissa,
      hexponent]
    rfl

/-! ## Doubles of full precision -/

/-- The number is that of a double: it has at most 53 digits to the base two, and as many if its
exponent is not the least one. -/
structure Binary.Canonical (b : Binary) : Prop where
  /-- The significand has at most 53 digits. -/
  significand_lt : b.significand < 2 ^ 53
  /-- The significand has 53 digits unless the exponent is the least one. -/
  full : 2 ^ 52 ≤ b.significand ∨ b.exponent = leastExponent
  /-- The exponent is not below the least one. -/
  le_exponent : leastExponent ≤ b.exponent
  /-- The exponent is not above the greatest one. -/
  exponent_le : b.exponent ≤ 971

/-- The form of a double is canonical. -/
theorem canonical_of_form {x : Float} {b : Binary} (h : form x = .finite b) : b.Canonical := by
  rw [form_eq_formOfParts] at h
  have hfraction : x.toBits.toNat % 2 ^ 52 < 2 ^ 52 := Nat.mod_lt _ (by decide)
  have hfield : x.toBits.toNat / 2 ^ 52 % 2 ^ 11 < 2 ^ 11 := Nat.mod_lt _ (by decide)
  have hfullsig : fullSignificand = 2 ^ 52 := rfl
  have hleast : leastExponent = -1074 := rfl
  generalize x.toBits.toNat / 2 ^ 52 % 2 ^ 11 = field at h hfield
  generalize x.toBits.toNat % 2 ^ 52 = fraction at h hfraction
  unfold formOfParts at h
  split at h
  · split at h <;> cases h
  · split at h
    · cases h
      exact ⟨by dsimp only; omega, .inr rfl, le_refl _, by dsimp only; omega⟩
    · cases h
      refine ⟨?_, .inl ?_, ?_, ?_⟩
      · dsimp only; omega
      · dsimp only; omega
      · dsimp only; omega
      · dsimp only; omega

/-- The bits of the magnitude of a double. -/
def Binary.code (b : Binary) : Nat :=
  if b.significand < 2 ^ 52 then b.significand
  else (b.exponent + 1075).toNat * 2 ^ 52 + (b.significand - 2 ^ 52)

/-- The bits of a finite double behind its sign make up its code. -/
theorem code_of_formOfParts {negative : Bool} {field fraction : Nat} {b : Binary}
    (hfraction : fraction < 2 ^ 52) (h : formOfParts negative field fraction = .finite b) :
    negative = b.negative ∧ field * 2 ^ 52 + fraction = b.code := by
  have hfull : fullSignificand = 2 ^ 52 := rfl
  unfold formOfParts at h
  split at h
  · split at h <;> cases h
  · split at h
    · rename_i hfield
      cases h
      rw [Binary.code, if_pos hfraction, hfield]
      exact ⟨rfl, Nat.zero_add _⟩
    · cases h
      refine ⟨rfl, ?_⟩
      have hlarge : ¬fullSignificand + fraction < 2 ^ 52 := by omega
      have hexponent : ((field : Int) - 1075 + 1075).toNat = field := by omega
      rw [Binary.code, if_neg hlarge, hexponent]
      dsimp only
      omega

/-- A double is determined by the finite number that it stands for. -/
theorem eq_of_form_eq {x y : Float} {b : Binary} (hx : form x = .finite b)
    (hy : form y = .finite b) : x = y := by
  rw [form_eq_formOfParts] at hx hy
  obtain ⟨hsignx, hcodex⟩ := code_of_formOfParts (Nat.mod_lt _ (by decide)) hx
  obtain ⟨hsigny, hcodey⟩ := code_of_formOfParts (Nat.mod_lt _ (by decide)) hy
  have hltx : x.toBits.toNat < 2 ^ 64 := x.toBits.toNat_lt
  have hlty : y.toBits.toNat < 2 ^ 64 := y.toBits.toNat_lt
  have hsign : x.toBits.toNat / 2 ^ 63 = y.toBits.toNat / 2 ^ 63 := by
    have hiff : (x.toBits.toNat / 2 ^ 63 == 1) = (y.toBits.toNat / 2 ^ 63 == 1) :=
      hsignx.trans hsigny.symm
    rw [Bool.eq_iff_iff, beq_iff_eq, beq_iff_eq] at hiff
    omega
  have hbits : x.toBits = y.toBits := by
    apply UInt64.toNat_inj.mp
    omega
  obtain ⟨⟨bitsx, hvalidx⟩⟩ := x
  obtain ⟨⟨bitsy, hvalidy⟩⟩ := y
  cases hbits
  rfl

/-! ## Packing -/

/-- A double has the form of what it is packed from. -/
theorem form_packComponents {x : Float} {sign : Sign} {exponent : BitVec 11}
    {mantissa : BitVec 52}
    (h : x.toModel.toBits.toBitVec = packComponents .binary64 sign exponent mantissa) :
    form x = formOfParts (isNegative sign) exponent.toNat mantissa.toNat := by
  have hnat : x.toBits.toNat =
      sign.toBitVec.toNat * 2 ^ 63 + exponent.toNat * 2 ^ 52 + mantissa.toNat := by
    rw [← toNat_packComponents, ← h]
    rfl
  have hmantissa : mantissa.toNat < 2 ^ 52 := mantissa.isLt
  have hexponent : exponent.toNat < 2 ^ 11 := exponent.isLt
  have hsign : sign.toBitVec.toNat = if isNegative sign then 1 else 0 := by cases sign <;> rfl
  have hnegative : (x.toBits.toNat / 2 ^ 63 == 1) = isNegative sign := by
    cases hs : isNegative sign with
    | false =>
      rw [hs] at hsign
      rw [beq_eq_false_iff_ne]
      simp only [Bool.false_eq_true, if_false] at hsign
      omega
    | true =>
      rw [hs] at hsign
      rw [beq_iff_eq]
      simp only [if_true] at hsign
      omega
  have hfield : x.toBits.toNat / 2 ^ 52 % 2 ^ 11 = exponent.toNat := by omega
  have hfraction : x.toBits.toNat % 2 ^ 52 = mantissa.toNat := by omega
  rw [form_eq_formOfParts, hnegative, hfield, hfraction]

/-- The double that an unpacked number is packed as. -/
def packed (u : UnpackedFloat) : Float :=
  Float.ofModel (Float.Model.pack u)

/-- The bits of a packed number: those of an infinity if the exponent is too great. -/
theorem toBits_packed_finite (sign : Sign) (mantissa : Nat) (exponent : Int)
    (hpos : 0 < mantissa) :
    (packed (.finite sign mantissa exponent hpos)).toModel.toBits.toBitVec =
      if 2 ^ 11 ≤ (exponent + 1075).toNat + 1 then packComponents .binary64 sign (-1#11) 0#52
      else if mantissa.log2 + 1 = 53 then
        packComponents .binary64 sign (BitVec.ofNat 11 (exponent + 1075).toNat)
          (BitVec.ofNat 52 mantissa)
      else packComponents .binary64 sign 0#11 (BitVec.ofNat 52 mantissa) := by
  have hbias : exponent + Format.binary64.exponentBias + (52 : Nat) = exponent + 1075 := by
    have : (Format.binary64.exponentBias : Int) = 1023 := by decide
    omega
  rw [← hbias]
  rfl

/-- Packing a number of full precision gives the double that stands for it. -/
theorem form_packed_finite {sign : Sign} {mantissa : Nat} {exponent : Int} (hpos : 0 < mantissa)
    (h : (⟨isNegative sign, mantissa, exponent⟩ : Binary).Canonical) :
    form (packed (.finite sign mantissa exponent hpos)) =
      .finite ⟨isNegative sign, mantissa, exponent⟩ := by
  obtain ⟨hlt, hfull, hle, hge⟩ := h
  dsimp only at hlt hfull hle hge
  have hleast : leastExponent = -1074 := rfl
  have hbits := toBits_packed_finite sign mantissa exponent hpos
  rw [if_neg (by omega)] at hbits
  have hlow := Nat.log2_self_le (Nat.ne_of_gt hpos)
  have hhigh := @Nat.lt_log2_self mantissa
  by_cases hlog : mantissa.log2 + 1 = 53
  · have hlog : mantissa.log2 = 52 := by omega
    rw [hlog] at hlow
    have hfraction : (BitVec.ofNat 52 mantissa).toNat = mantissa - 2 ^ 52 := by
      rw [BitVec.toNat_ofNat]
      omega
    have hfield : (BitVec.ofNat 11 (exponent + 1075).toNat).toNat = (exponent + 1075).toNat := by
      rw [BitVec.toNat_ofNat]
      omega
    have hsignificand : fullSignificand + (mantissa - 2 ^ 52) = mantissa := by
      have : fullSignificand = 2 ^ 52 := rfl
      omega
    have hexponent : ((exponent + 1075).toNat : Int) - 1075 = exponent := by omega
    rw [if_pos (by omega)] at hbits
    rw [form_packComponents hbits, hfraction, hfield, formOfParts, if_neg (by omega),
      if_neg (by omega), hsignificand, hexponent]
  · have hsmall : mantissa < 2 ^ 52 := by
      by_contra hlarge
      have hlower : 52 ≤ mantissa.log2 := (Nat.le_log2 (Nat.ne_of_gt hpos)).mpr (by omega)
      have hupper : mantissa.log2 < 53 := (Nat.log2_lt (Nat.ne_of_gt hpos)).mpr hlt
      omega
    have hexponent : exponent = leastExponent := hfull.resolve_left (by omega)
    rw [if_neg hlog] at hbits
    have hfraction : (BitVec.ofNat 52 mantissa).toNat = mantissa := by
      rw [BitVec.toNat_ofNat]
      omega
    rw [form_packComponents hbits, hfraction, hexponent]
    rfl

/-- The sign of an unpacked number that is one. -/
def sign? : UnpackedFloat → Option Sign
  | .notANumber => none
  | .infinity sign | .zero sign | .finite sign _ _ _ => some sign

/-- The double stands for a number or an infinity with the given sign. -/
def HasSign (negative : Bool) (x : Float) : Prop :=
  form x = .infinite negative ∨ ∃ b, form x = .finite b ∧ b.negative = negative

private theorem hasSign_formOfParts {x : Float} {negative : Bool} {field fraction : Nat}
    (h : form x = formOfParts negative field fraction) (hfield : field ≠ 2047 ∨ fraction = 0) :
    HasSign negative x := by
  unfold formOfParts at h
  split at h
  · rename_i hfull
    rw [if_pos (hfield.resolve_left fun hne => hne hfull)] at h
    exact .inl h
  · split at h
    · exact .inr ⟨_, h, rfl⟩
    · exact .inr ⟨_, h, rfl⟩

/-- Packing keeps the sign. -/
theorem hasSign_packed {u : UnpackedFloat} {sign : Sign} (h : sign? u = some sign) :
    HasSign (isNegative sign) (packed u) := by
  cases u with
  | notANumber => cases h
  | infinity s =>
    cases h
    exact hasSign_formOfParts (form_packComponents rfl) (.inr rfl)
  | zero s =>
    cases h
    exact hasSign_formOfParts (form_packComponents rfl) (.inr rfl)
  | finite s mantissa exponent hpos =>
    cases h
    have hbits := toBits_packed_finite sign mantissa exponent hpos
    by_cases hgreat : 2 ^ 11 ≤ (exponent + 1075).toNat + 1
    · rw [if_pos hgreat] at hbits
      exact hasSign_formOfParts (form_packComponents hbits) (.inr rfl)
    rw [if_neg hgreat] at hbits
    by_cases hfull : mantissa.log2 + 1 = 53
    · rw [if_pos hfull] at hbits
      refine hasSign_formOfParts (form_packComponents hbits) (.inl ?_)
      rw [BitVec.toNat_ofNat]
      omega
    · rw [if_neg hfull] at hbits
      exact hasSign_formOfParts (form_packComponents hbits) (.inl (by decide))

end Spreadsheet.Number
