import Spreadsheet.Proofs.Number.Digits
import Spreadsheet.Proofs.Number.Shortest
import Spreadsheet.Value.Coercion

/-!
# The text of a number denotes it

Numbers in texts carry no sign, so what they are read as is not below zero. The text of such a
double, if it is finite, consists of digits with at most a point among them, and reading the digits
gives the double back: a whole number is laid out exactly, and the digits of any other one lie in
its interval.
-/

namespace Spreadsheet.Number

open Float.Model Float.Model.UnpackedFloat

/-! ## The sign of what is read -/

private theorem sign?_roundWithAccuracy (sign : Sign) (mantissa : Nat) (exponent : Int)
    (accuracy : Accuracy) :
    sign? (roundWithAccuracy .binary64 sign mantissa exponent accuracy) = some sign := by
  unfold roundWithAccuracy
  dsimp only
  split <;> rfl

section Sign

variable {sign₁ sign₂ : Sign} {m₁ m₂ : Nat} {e₁ e₂ : Int} {h₁ : 0 < m₁} {h₂ : 0 < m₂}
  {x y : Float} {b c : Binary}

private theorem sign?_mul_finite :
    sign? (UnpackedFloat.mul .binary64 (.finite sign₁ m₁ e₁ h₁) (.finite sign₂ m₂ e₂ h₂)) =
      some (sign₁ * sign₂) :=
  sign?_roundWithAccuracy _ _ _ _

private theorem sign?_div_finite :
    sign? (UnpackedFloat.div .binary64 (.finite sign₁ m₁ e₁ h₁) (.finite sign₂ m₂ e₂ h₂)) =
      some (sign₁ / sign₂) :=
  sign?_roundWithAccuracy _ _ _ _

/-- The product of positive doubles is not negative. -/
theorem StandsFor.hasSign_mul (hx : StandsFor x b) (hy : StandsFor y c) :
    HasSign false (x * y) := by
  change HasSign (isNegative .positive)
    (packed (UnpackedFloat.mul .binary64 x.toModel.unpack y.toModel.unpack))
  apply hasSign_packed
  rw [hx.unpack_eq, hy.unpack_eq]
  exact sign?_mul_finite

/-- The quotient of positive doubles is not negative. -/
theorem StandsFor.hasSign_div (hx : StandsFor x b) (hy : StandsFor y c) :
    HasSign false (x / y) := by
  change HasSign (isNegative .positive)
    (packed (UnpackedFloat.div .binary64 x.toModel.unpack y.toModel.unpack))
  apply hasSign_packed
  rw [hx.unpack_eq, hy.unpack_eq]
  exact sign?_div_finite

end Sign

private theorem sign?_ofScientific (digits : Nat) (exponent : Int) :
    sign? (UnpackedFloat.ofScientific .binary64 digits exponent) = some .positive := by
  unfold UnpackedFloat.ofScientific
  split
  · rfl
  · split
    · rfl
    · split
      · rfl
      · split
        · exact sign?_mul_finite
        · exact sign?_div_finite

/-- The form of zero. -/
theorem form_zero : form 0.0 = .finite ⟨false, 0, leastExponent⟩ := rfl

/-- A decimal number is not read as a negative one. -/
theorem hasSign_ofDecimal (digits : Nat) (exponent : Int) :
    HasSign false (ofDecimal digits exponent) := by
  have hzero : HasSign false 0.0 := .inr ⟨_, form_zero, rfl⟩
  unfold ofDecimal
  split
  · exact hzero
  · rename_i hdigits
    split
    · exact .inl rfl
    · split
      · exact hzero
      · unfold Float.ofScientific
        split
        · rename_i hfast
          obtain ⟨hlt, hlimit⟩ := hfast
          have hwhole := standsFor_toFloat (Nat.pos_of_ne_zero hdigits) hlt
          obtain ⟨c, hpower, -, -⟩ := standsFor_powerOfTen
            (Nat.lt_succ_of_le hlimit : _ < Float.exactlyRepresentablePowersOfTen.size)
          dsimp only
          split
          · exact hwhole.hasSign_div hpower
          · exact hwhole.hasSign_mul hpower
        · exact hasSign_packed (sign?_ofScientific _ _)

/-- The finite doubles are those that stand for a number. -/
theorem isFinite_iff (x : Float) : x.isFinite = true ↔ ∃ b, form x = .finite b := by
  have hform := form_eq_formOf x
  change x.toModel.unpack.isFinite = true ↔ _
  cases hu : x.toModel.unpack with
  | notANumber =>
    rw [hu] at hform
    simp [UnpackedFloat.isFinite, hform, formOf]
  | infinity sign =>
    rw [hu] at hform
    simp [UnpackedFloat.isFinite, hform, formOf]
  | zero sign =>
    rw [hu] at hform
    simp [UnpackedFloat.isFinite, hform, formOf]
  | finite sign mantissa exponent hpos =>
    rw [hu] at hform
    simp [UnpackedFloat.isFinite, hform, formOf]

/-! ## Digits with a point -/

/-- Digits behind a point, and no point if there are none. -/
def pointed (fraction : List Char) : List Char :=
  if fraction = [] then [] else '.' :: fraction

/-- The text consists of some digits and of others behind a point. -/
structure Parts (cs whole fraction : List Char) : Prop where
  /-- The text is put together from the two. -/
  text : cs = whole ++ pointed fraction
  /-- There are digits before the point. -/
  whole_ne : whole ≠ []
  /-- All of them are digits. -/
  isDigit : ∀ c ∈ whole ++ fraction, isDigit c = true

/-- The text is one of a number without a sign, and it is read as the double. -/
def Denotes (cs : List Char) (x : Float) : Prop :=
  ∃ whole fraction, Parts cs whole fraction ∧
    ofDecimal (ofDigits (whole ++ fraction)) (-(fraction.length : Int)) = x

private theorem ofDigits_append_zeros (n : Nat) (cs : List Char) :
    ofDigits (cs ++ List.replicate n '0') = ofDigits cs * 10 ^ n := by
  rw [ofDigits_eq, ofDigits_eq, Nat.ofDigitChars_append, Nat.ofDigitChars_replicate_zero,
    Nat.mul_comm]

private theorem parts_digitsOf (n : Nat) : Parts (digitsOf n) (digitsOf n) [] :=
  ⟨(List.append_nil _).symm, Nat.toDigits_ne_nil, fun c hc => by
    rw [List.append_nil] at hc
    exact isDigit_of_mem_toDigits hc⟩

section Positional

variable {digits : List Char} {n : Nat}

/-- Digits behind a point and zeros. -/
theorem parts_zeros_append (hdigits : ∀ c ∈ digits, isDigit c = true) (hne : digits ≠ []) :
    Parts ('0' :: '.' :: List.replicate n '0' ++ digits) ['0']
      (List.replicate n '0' ++ digits) := by
  refine ⟨by simp [pointed, hne], List.cons_ne_nil _ _, fun c hc => ?_⟩
  rcases List.mem_append.mp hc with hc | hc
  · rw [List.mem_singleton.mp hc]
    rfl
  · rcases List.mem_append.mp hc with hc | hc
    · exact isDigit_of_mem_zeros hc
    · exact hdigits c hc

/-- Digits before zeros and no point. -/
theorem parts_append_zeros (hdigits : ∀ c ∈ digits, isDigit c = true) (hne : digits ≠ []) :
    Parts (digits ++ List.replicate n '0') (digits ++ List.replicate n '0') [] := by
  refine ⟨by simp [pointed], by simp [hne], fun c hc => ?_⟩
  rw [List.append_nil] at hc
  rcases List.mem_append.mp hc with hc | hc
  · exact hdigits c hc
  · exact isDigit_of_mem_zeros hc

/-- Digits with a point among them. -/
theorem parts_take_drop (hdigits : ∀ c ∈ digits, isDigit c = true) (hpos : 0 < n)
    (hlt : n < digits.length) :
    Parts (digits.take n ++ '.' :: digits.drop n) (digits.take n) (digits.drop n) := by
  have hbehind : digits.drop n ≠ [] := by
    rw [ne_eq, List.drop_eq_nil_iff]
    omega
  have hbefore : digits.take n ≠ [] := by
    rw [ne_eq, List.take_eq_nil_iff]
    rintro (hzero | rfl)
    · omega
    · exact absurd hlt (Nat.not_lt_zero n)
  refine ⟨by rw [pointed, if_neg hbehind], hbefore, ?_⟩
  rw [List.take_append_drop]
  exact hdigits

end Positional

/-- A decimal number in full has digits that denote it. -/
theorem parts_positional (d : Decimal) :
    ∃ whole fraction, Parts (positional false (digitsOf d.digits)
        (d.exponent + (digitsOf d.digits).length)) whole fraction ∧
      (ofDigits (whole ++ fraction) : ℚ) * 10 ^ (-(fraction.length : Int)) = d.value := by
  have hdigits : ∀ c ∈ digitsOf d.digits, isDigit c = true := fun c => isDigit_of_mem_toDigits
  have hvalue : ofDigits (digitsOf d.digits) = d.digits := ofDigits_toDigits d.digits
  have hne : digitsOf d.digits ≠ [] := Nat.toDigits_ne_nil
  unfold positional Decimal.value
  generalize digitsOf d.digits = digits at hdigits hvalue hne ⊢
  have hlength : 0 < digits.length := List.length_pos_of_ne_nil hne
  split
  · refine ⟨_, _, parts_zeros_append hdigits hne, ?_⟩
    generalize hzeros : (-(d.exponent + digits.length)).toNat = zeros
    have hexponent : -((List.replicate zeros '0' ++ digits).length : Int) = d.exponent := by
      rw [List.length_append, List.length_replicate]
      omega
    have hfront : ['0'] ++ (List.replicate zeros '0' ++ digits) =
        List.replicate (zeros + 1) '0' ++ digits := by
      simp [List.replicate_succ]
    rw [hexponent, hfront, ofDigits_zeros_append, hvalue]
  · split
    · rw [if_neg Bool.false_ne_true, List.append_nil]
      refine ⟨_, _, parts_append_zeros hdigits hne, ?_⟩
      generalize hzeros : (d.exponent + digits.length).toNat - digits.length = zeros
      have hexponent : d.exponent = (zeros : Int) := by omega
      rw [List.append_nil, ofDigits_append_zeros, hvalue, hexponent, zpow_natCast]
      simp
    · refine ⟨_, _, parts_take_drop hdigits (by omega) (by omega), ?_⟩
      generalize hfront : (d.exponent + digits.length).toNat = front
      have hexponent : -((digits.drop front).length : Int) = d.exponent := by
        rw [List.length_drop]
        omega
      rw [hexponent, List.take_append_drop, hvalue]

/-! ## Whole numbers -/

section Whole

variable {x : Float} {b : Binary}

/-- A positive double is its own magnitude. -/
theorem StandsFor.abs_eq (h : StandsFor x b) : x.abs = x := by
  have hform : form x.abs = .finite b := by
    have hpacked : x.abs =
        packed (.finite .positive b.significand b.exponent h.significand_pos) := by
      change packed x.toModel.unpack.abs = _
      rw [h.unpack_eq]
      rfl
    rw [hpacked]
    exact (StandsFor.of_packed h.canonical h.negative_eq h.significand_pos).form_eq
  exact eq_of_form_eq hform h.form_eq

private theorem StandsFor.exponent_le_of_lt {y : Float} {c : Binary} (hx : StandsFor x b)
    (hy : StandsFor y c) (hlt : x < y) : b.exponent ≤ c.exponent := by
  have hcompare : UnpackedFloat.lt x.toModel.unpack y.toModel.unpack = true :=
    of_decide_eq_true hlt
  rw [hx.unpack_eq, hy.unpack_eq] at hcompare
  by_contra hgreater
  have horder : compare b.exponent c.exponent = .gt := by
    rw [Int.compare_eq_gt]
    omega
  simp [UnpackedFloat.lt, UnpackedFloat.compare, horder] at hcompare

private theorem standsFor_wholeTextLimit :
    StandsFor wholeTextLimit ⟨false, 8000000000000000, -3⟩ :=
  ⟨rfl, rfl, by decide⟩

/-- A whole number below the limit is a word of 64 bits. -/
theorem toInt64_of_isWhole (h : StandsFor x b) (hwhole : isWhole x = true)
    (hlt : x.abs < wholeTextLimit) : ∃ n : Nat, toInt64 x = n ∧ (n : ℚ) = b.value := by
  rw [h.abs_eq] at hlt
  have hexponent := h.exponent_le_of_lt standsFor_wholeTextLimit hlt
  dsimp only at hexponent
  have hsmall := h.canonical.significand_lt
  have hquotient : b.quotient = (b.significand, 2 ^ (-b.exponent).toNat) := by
    rw [Binary.quotient, if_neg (by omega)]
    rfl
  have hmod : b.significand % 2 ^ (-b.exponent).toNat = 0 := by
    unfold isWhole at hwhole
    rw [h.form_eq] at hwhole
    dsimp only at hwhole
    rw [hquotient] at hwhole
    exact beq_iff_eq.mp hwhole
  obtain ⟨n, hn⟩ : ∃ n, n = b.significand / 2 ^ (-b.exponent).toNat := ⟨_, rfl⟩
  have hproduct : b.significand = n * 2 ^ (-b.exponent).toNat := by
    rw [hn, Nat.div_mul_cancel (Nat.dvd_of_mod_eq_zero hmod)]
  have hle : n ≤ b.significand := hn ▸ Nat.div_le_self _ _
  refine ⟨n, ?_, ?_⟩
  · have hinteger : b.toInteger .towardZero = n := by
      simp [Binary.toInteger, hquotient, h.negative_eq, hn]
    have hbound : Int.ofNat (Nat.pow 2 63) = 9223372036854775808 := rfl
    unfold toInt64 toBounded
    rw [h.form_eq]
    dsimp only
    rw [hinteger, hbound]
    omega
  · have hpower : (2 : ℚ) ^ b.exponent * 2 ^ (-b.exponent).toNat = 1 := by
      rw [zpow_mul_pow_toNat two_ne_zero, Int.toNat_of_nonpos (by omega), pow_zero]
    rw [Binary.value, hproduct]
    push_cast
    rw [mul_assoc, mul_comm ((2 : ℚ) ^ (-b.exponent).toNat), hpower, mul_one]

end Whole

/-! ## Texts of numbers -/

section Text

variable {x : Float} {b : Binary}

private theorem toInteger_of_zero (hzero : b.significand = 0) : b.toInteger .towardZero = 0 := by
  have hquotient : b.quotient.1 = 0 := by
    unfold Binary.quotient
    split
    · simp [hzero]
    · exact hzero
  simp [Binary.toInteger, hquotient]

/-- Zero has the least exponent. -/
theorem Binary.Canonical.exponent_of_zero (h : b.Canonical) (hzero : b.significand = 0) :
    b.exponent = leastExponent := by
  refine h.full.resolve_left ?_
  rw [hzero]
  decide

/-- Zero is written as the text that denotes it. -/
theorem denotes_zero (h : form x = .finite b) (hnegative : b.negative = false)
    (hzero : b.significand = 0) : Denotes (numberText x).toList x := by
  have hwhole := toInteger_of_zero hzero
  have hb : b = ⟨false, 0, leastExponent⟩ := by
    have hexponent := (canonical_of_form h).exponent_of_zero hzero
    cases b
    cases hnegative
    cases hzero
    cases hexponent
    rfl
  subst hb
  have htext : (numberText x).toList = digitsOf 0 := by
    unfold numberText
    split
    · have hinteger : toInt64 x = 0 := by
        unfold toInt64 toBounded
        rw [h]
        dsimp only
        rw [hwhole]
        decide
      rw [hinteger, String.toList_ofList]
      rfl
    · unfold Layout.write
      rw [h]
      rfl
  rw [htext]
  refine ⟨_, [], parts_digitsOf 0, ?_⟩
  rw [List.append_nil, digitsOf, ofDigits_toDigits]
  exact (if_pos rfl).trans (eq_of_form_eq form_zero h)

/-- A positive double is written as a text that denotes it. -/
theorem denotes_pos (h : StandsFor x b) : Denotes (numberText x).toList x := by
  have hb := h.canonical
  have hpos := h.significand_pos
  unfold numberText
  split
  · rename_i hsmall
    obtain ⟨hwhole, hlt⟩ := Bool.and_eq_true_iff.mp hsmall
    obtain ⟨n, hinteger, hvalue⟩ := toInt64_of_isWhole h hwhole (of_decide_eq_true hlt)
    have htext : (String.ofList
        (if toInt64 x < 0 then '-' :: digitsOf (toInt64 x).natAbs
          else digitsOf (toInt64 x).natAbs)).toList = digitsOf n := by
      rw [hinteger, if_neg (by omega), Int.natAbs_natCast, String.toList_ofList]
    refine ⟨digitsOf n, [], htext ▸ parts_digitsOf n, ofDecimal_eq h ?_⟩
    rw [List.append_nil, digitsOf, ofDigits_toDigits, hvalue]
    simpa using Binary.attracts_value
  · have hattracts : b.Attracts (b.shortest Layout.plain.tie).value := attracts_shortest hb hpos
    obtain ⟨whole, fraction, hparts, hvalue⟩ := parts_positional (b.shortest Layout.plain.tie)
    have hdigits : (b.shortest Layout.plain.tie).digits ≠ 0 := by
      intro hzero
      have hleast := hattracts.pow_le hb hpos
      rw [Decimal.value, hzero, Nat.cast_zero, zero_mul] at hleast
      exact absurd hleast (not_le.mpr (by positivity))
    have hlayout : ∀ d : Decimal, d.digits ≠ 0 → Layout.plain.decimal d =
        positional false (digitsOf d.digits) (d.exponent + (digitsOf d.digits).length) := by
      intro d hd
      have hexponent : d.exponent + (digitsOf d.digits).length - 1 + 1 =
          d.exponent + (digitsOf d.digits).length := by omega
      simp only [Layout.decimal, if_neg hd, Layout.plain, Option.all_none, Bool.and_self, if_true,
        hexponent]
    have htext : (Layout.plain.write x).toList =
        positional false (digitsOf (b.shortest Layout.plain.tie).digits)
          ((b.shortest Layout.plain.tie).exponent +
            (digitsOf (b.shortest Layout.plain.tie).digits).length) := by
      unfold Layout.write
      rw [h.form_eq]
      simp only [h.negative_eq, Bool.false_eq_true, if_false, String.toList_ofList]
      exact hlayout _ hdigits
    refine ⟨whole, fraction, htext ▸ hparts, ofDecimal_eq h ?_⟩
    rw [hvalue]
    exact hattracts

/-- The text of a finite number that is read from a text without a sign denotes it. -/
theorem denotes_numberText (hsign : HasSign false x) (hfinite : x.isFinite = true) :
    Denotes (numberText x).toList x := by
  obtain ⟨b, hform⟩ := (isFinite_iff x).mp hfinite
  have hnegative : b.negative = false := by
    rcases hsign with hinfinite | ⟨c, hc, hnegative⟩
    · rw [hform] at hinfinite
      cases hinfinite
    · rw [hform] at hc
      cases hc
      exact hnegative
  by_cases hzero : b.significand = 0
  · exact denotes_zero hform hnegative hzero
  · exact denotes_pos ⟨hform, hnegative, Nat.pos_of_ne_zero hzero⟩

/-- An infinite number is written as a word. -/
theorem numberText_of_not_isFinite (hsign : HasSign false x) (h : x.isFinite = false) :
    numberText x = "inf" := by
  have hform : form x = .infinite false := by
    refine hsign.resolve_right ?_
    rintro ⟨b, hb, -⟩
    rw [(isFinite_iff x).mpr ⟨b, hb⟩] at h
    cases h
  have hwhole : isWhole x = false := by
    unfold isWhole
    rw [hform]
  unfold numberText
  rw [hwhole, Bool.false_and, if_neg Bool.false_ne_true, Layout.write, hform]
  rfl

end Text

end Spreadsheet.Number
