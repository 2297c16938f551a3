import Spreadsheet.Proofs.Number.Leading
import Spreadsheet.Value.Coercion

/-!
# The text of a number read back

A finite number is written as a numeral without an exponent, whose value is the number again: a
whole number below the limit by the digits of its word, any other one by the shortest digits that
only this number is nearest to. The number of the text is therefore the number, but for the sign of
zero.
-/

namespace Spreadsheet.Number

variable {x : Float} {b : Binary} {cs : List Char}

/-! ## The number of a numeral -/

private theorem isBlank_of_isDigit {c : Char} (h : isDigit c = true) : Text.isBlank c = false := by
  obtain ⟨hlt, hchar⟩ := digitChar_digitValue h
  have hten : ∀ d < 10, Text.isBlank (Nat.digitChar d) = false := by decide
  exact hchar ▸ hten _ hlt

/-- A numeral starts with a visible character. -/
theorem Numeral.trimStart_text (n : Numeral) : Text.trimStart n.text = n.text := by
  obtain ⟨sign, whole, fraction, exponent, hdigits, hne⟩ := n
  cases sign with
  | plus => exact Text.trimStart_cons_of_not_blank (by decide) _
  | minus => exact Text.trimStart_cons_of_not_blank (by decide) _
  | absent =>
    cases whole with
    | cons c cs =>
      exact Text.trimStart_cons_of_not_blank (isBlank_of_isDigit (hdigits c List.mem_cons_self)) _
    | nil =>
      cases fraction with
      | none => exact absurd rfl hne
      | some fraction => exact Text.trimStart_cons_of_not_blank (by decide) _

/-- A text that is a numeral starts with its value. -/
theorem leading_of_toList {s : String} {n : Numeral} (h : s.toList = n.text) :
    leading s = some n.value := by
  have hends : n.EndsBefore [] := n.endsBefore_of_head fun c hc => nomatch hc
  rw [leading, h, n.trimStart_text, ← hends.leadingOfTrimmed_eq, List.append_nil]

/-! ## Numerals of numbers -/

/-- Digits with a point that denote a double are a numeral, also behind a minus sign. -/
theorem Denotes.exists_numeral (h : Denotes cs x) (sign : SignMark) :
    ∃ n : Numeral, sign.text ++ cs = n.text ∧ n.value = withSign sign.isMinus x := by
  obtain ⟨whole, fraction, ⟨rfl, hwhole, hdigits⟩, hvalue⟩ := h
  have hne : whole ++ fraction ≠ [] := fun hnil => hwhole (List.append_eq_nil_iff.mp hnil).1
  by_cases hempty : fraction = []
  · subst hempty
    refine ⟨⟨sign, whole, none, none, hdigits, hne⟩, ?_, ?_⟩
    · simp [Numeral.text, Numeral.pointText, Numeral.exponentText, pointed]
    · rw [← hvalue]
      rfl
  · refine ⟨⟨sign, whole, some fraction, none, hdigits, hne⟩, ?_, ?_⟩
    · simp [Numeral.text, Numeral.pointText, Numeral.exponentText, pointed, hempty]
    · rw [← hvalue, Numeral.value, Numeral.exponentValue, zero_sub]
      rfl

private theorem StandsFor.abs_neg_eq (h : StandsFor x b) : (-x).abs = x := by
  rcases unpack_of_form (form_neg_of_standsFor h) with ⟨hzero, -⟩ | ⟨hpos, sign, -, hunpack⟩
  · exact absurd hzero h.significand_pos.ne'
  · have habs : (-x).abs = x.abs := by
      change packed (-x).toModel.unpack.abs = packed x.toModel.unpack.abs
      rw [hunpack, h.unpack_eq]
      rfl
    exact habs.trans h.abs_eq

/-- The opposite of a whole number below the limit is the opposite word. -/
theorem StandsFor.toInt64_neg (h : StandsFor x b) (hwhole : isWhole x = true)
    (hlt : x.abs < wholeTextLimit) : 0 < toInt64 x ∧ toInt64 (-x) = -toInt64 x := by
  obtain ⟨n, hword, hvalue⟩ := toInt64_of_isWhole h hwhole hlt
  have hn : IsExactly x n := ⟨b, h.form_eq, by simp [Binary.signed, h.negative_eq, hvalue]⟩
  have hopposite : IsExactly (-x) (-n) := by
    refine ⟨_, form_neg_of_standsFor h, ?_⟩
    rw [Binary.signed, if_pos rfl]
    push_cast
    exact congrArg _ hvalue.symm
  have hheld := hn.toInt64_eq
  rw [hword] at hheld
  rw [hopposite.toInt64_eq, hword]
  have hpos : (0 : ℚ) < n := hvalue ▸ Binary.value_pos h.significand_pos
  unfold heldInWord at hheld ⊢
  have := Nat.cast_pos.mp hpos
  omega

/-- A negative number is written as a minus sign and the number with the other sign. -/
theorem StandsFor.numberText_neg (h : StandsFor x b) :
    (numberText (-x)).toList = '-' :: (numberText x).toList := by
  have hform := form_neg_of_standsFor h
  have hwhole : isWhole (-x) = isWhole x := by
    unfold isWhole
    rw [hform, h.form_eq]
    rfl
  unfold numberText
  rw [hwhole, h.abs_neg_eq, h.abs_eq]
  split
  · rename_i hsmall
    obtain ⟨hinteger, hlt⟩ := Bool.and_eq_true_iff.mp hsmall
    obtain ⟨hpos, hneg⟩ := h.toInt64_neg hinteger (h.abs_eq.symm ▸ of_decide_eq_true hlt)
    simp only [hneg]
    rw [String.toList_ofList, String.toList_ofList, if_pos (by omega), if_neg (by omega),
      Int.natAbs_neg]
  · unfold Layout.write
    rw [hform, h.form_eq]
    dsimp only
    rw [String.toList_ofList, String.toList_ofList, h.negative_eq, if_pos rfl,
      if_neg Bool.false_ne_true]
    rfl

/-- There are two doubles that stand for zero. -/
theorem eq_zero_of_form (h : form x = .finite b) (hzero : b.significand = 0) :
    x = 0.0 ∨ x = -0.0 := by
  have hexponent := (canonical_of_form h).exponent_of_zero hzero
  obtain ⟨negative, significand, exponent⟩ := b
  cases hzero
  cases hexponent
  cases negative with
  | false => exact .inl (eq_of_form_eq h form_zero)
  | true => exact .inr (eq_of_form_eq h rfl)

/-- A negative number is the opposite of a positive one. -/
theorem exists_eq_neg_of_form (h : form x = .finite b) (hnegative : b.negative = true)
    (hpos : 0 < b.significand) : ∃ y, StandsFor y ⟨false, b.significand, b.exponent⟩ ∧ x = -y := by
  obtain ⟨hlt, hfull, hle, hge⟩ := canonical_of_form h
  have hy := StandsFor.of_packed (b := ⟨false, b.significand, b.exponent⟩)
    ⟨hlt, hfull, hle, hge⟩ rfl hpos
  refine ⟨_, hy, eq_of_form_eq h ?_⟩
  rw [form_neg_of_standsFor hy, ← hnegative]

/-- A finite number is written as a numeral that stands for it. -/
theorem exists_numeral_numberText (h : form x = .finite b) :
    ∃ n : Numeral, (numberText x).toList = n.text ∧
      ∃ c, form n.value = .finite c ∧ c.signed = b.signed := by
  by_cases hzero : b.significand = 0
  · have htext : numberText x = numberText 0.0 := by
      rcases eq_zero_of_form h hzero with rfl | rfl
      · rfl
      · decide +kernel
    obtain ⟨n, hn, hvalue⟩ := (denotes_zero form_zero rfl rfl).exists_numeral .absent
    have hform : form n.value = .finite ⟨false, 0, leastExponent⟩ := by
      rw [hvalue]
      exact form_zero
    rw [SignMark.text, List.nil_append] at hn
    refine ⟨n, (congrArg String.toList htext).trans hn, _, hform, ?_⟩
    rw [Binary.signed_of_significand hzero]
    exact Binary.signed_of_significand rfl
  have hpos := Nat.pos_of_ne_zero hzero
  cases hnegative : b.negative with
  | false =>
    obtain ⟨n, htext, hvalue⟩ := (denotes_pos ⟨h, hnegative, hpos⟩).exists_numeral .absent
    exact ⟨n, htext, b, hvalue ▸ h, rfl⟩
  | true =>
    obtain ⟨y, hy, rfl⟩ := exists_eq_neg_of_form h hnegative hpos
    obtain ⟨n, htext, hvalue⟩ := (denotes_pos hy).exists_numeral .minus
    exact ⟨n, hy.numberText_neg.trans htext, b, hvalue ▸ h, rfl⟩

end Spreadsheet.Number

namespace Spreadsheet.Value

/-- The number of the text of a finite number is equal to the number. -/
theorem toNumber_text_toText {x : Float} (h : x.isFinite = true) :
    ((Value.text (Value.number x).toText).toNumber == x) = true := by
  obtain ⟨b, hb⟩ := (Number.isFinite_iff x).mp h
  obtain ⟨n, htext, c, hc, hsigned⟩ := Number.exists_numeral_numberText hb
  rw [toText, toNumber, number?, Number.leading_of_toList htext, Option.getD_some]
  exact (Number.beq_iff_signed_eq hc hb).mpr hsigned

/-- The negative number of the least magnitude is written with hundreds of digits. -/
theorem toNumber_text_toText_tiny :
    (-5e-324 : Float).isFinite = true ∧
      ((Value.text (Value.number (-5e-324)).toText).toNumber == -5e-324) = true :=
  ⟨by decide +kernel, toNumber_text_toText (by decide +kernel)⟩

end Spreadsheet.Value
