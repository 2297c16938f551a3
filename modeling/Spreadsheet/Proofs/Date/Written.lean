import Spreadsheet.Proofs.Date.Bounds
import Spreadsheet.Proofs.Number.Leading

/-!
# Dates that are written

A text that is a date starts with its year and a hyphen behind it. The number that such a text
starts with is therefore the year.
-/

namespace Spreadsheet.Date

open Number (Numeral SignMark isDigit ofDigits)

variable {cs rest digits : List Char} {d : Date} {s : String} {year : Int} {limit n : Nat}

/-! ## The year of a text -/

/-- The text consists of the digits of the number and the rest. -/
structure DigitsOf (n : Nat) (rest digits cs : List Char) : Prop where
  /-- The digits come first. -/
  text : cs = digits ++ rest
  /-- There is a digit. -/
  ne : digits ≠ []
  /-- They are digits. -/
  isDigit : ∀ c ∈ digits, isDigit c = true
  /-- They denote the number. -/
  denotes : ofDigits digits = n

/-- A number that is taken has digits. -/
theorem exists_digitsOf (h : takeNumber? limit cs = some (n, rest)) :
    ∃ digits, DigitsOf n rest digits cs := by
  unfold takeNumber? at h
  dsimp only at h
  split_ifs at h with hempty
  cases h
  obtain ⟨tail, htail⟩ : (cs.take limit).takeWhile isDigit <+: cs :=
    (List.takeWhile_prefix _).trans (List.take_prefix _ _)
  refine ⟨_, ?_, by simpa using hempty, fun _ hc => List.all_eq_true.mp List.all_takeWhile _ hc,
    rfl⟩
  generalize (cs.take limit).takeWhile isDigit = front at htail ⊢
  rw [← htail, List.drop_left]

/-- What follows the text follows the rest of it. -/
theorem DigitsOf.append (h : DigitsOf n rest digits cs) (back : List Char) :
    DigitsOf n (rest ++ back) digits (cs ++ back) :=
  ⟨by rw [h.text, List.append_assoc], h.ne, h.isDigit, h.denotes⟩

/-- A hyphen ends the number before it. -/
theorem DigitsOf.leadingOfTrimmed_eq (h : DigitsOf n ('-' :: rest) digits cs) (sign : SignMark)
    (hsign : sign.isMinus = false) :
    Number.leadingOfTrimmed (sign.text ++ cs) = some (Number.ofDecimal n 0) := by
  have hdigits : ∀ c ∈ digits ++ (none : Option (List Char)).getD [], Number.isDigit c = true := by
    simpa using h.isDigit
  have hne : digits ++ (none : Option (List Char)).getD [] ≠ [] := by simpa using h.ne
  have hends : Numeral.EndsBefore ⟨sign, digits, none, none, hdigits, hne⟩ ('-' :: rest) := by
    refine Numeral.endsBefore_of_head _ ?_
    rintro c ⟨⟩
    decide
  rw [h.text]
  simpa [Numeral.text, Numeral.value, Numeral.pointText, Numeral.exponentText,
    Numeral.exponentValue, Number.withSign, hsign, h.denotes] using hends.leadingOfTrimmed_eq

/-- A text starts with its year, whatever stands behind the hyphen. -/
theorem leadingOfTrimmed_of_takeYear? (h : takeYear? cs = some (year, '-' :: rest))
    (back : List Char) (hpos : 0 < year) (hlt : year < 2 ^ 53) :
    Number.leadingOfTrimmed (cs ++ back) = some (Float.ofInt year) := by
  unfold takeYear? at h
  split at h
  · obtain ⟨⟨n, rest'⟩, -, heq⟩ := Option.map_eq_some_iff.mp h
    cases heq
    omega
  · obtain ⟨⟨n, rest'⟩, htaken, heq⟩ := Option.map_eq_some_iff.mp h
    cases heq
    obtain ⟨digits, hdigits⟩ := exists_digitsOf htaken
    exact ((hdigits.append back).leadingOfTrimmed_eq .plus rfl).trans
      (congrArg some (Number.ofDecimal_natCast (by omega) (by omega)))
  · obtain ⟨⟨n, rest'⟩, htaken, heq⟩ := Option.map_eq_some_iff.mp h
    cases heq
    obtain ⟨digits, hdigits⟩ := exists_digitsOf htaken
    exact ((hdigits.append back).leadingOfTrimmed_eq .absent rfl).trans
      (congrArg some (Number.ofDecimal_natCast (by omega) (by omega)))

/-! ## The number of a text -/

/-- White space behind a text stays behind it when the text loses what it has at its front. -/
theorem exists_trimStart_eq_append (h : Text.trimStart (Text.trim cs) ≠ []) :
    ∃ back, Text.trimStart cs = Text.trimStart (Text.trim cs) ++ back := by
  obtain ⟨front, back, htext, hblank⟩ := Text.exists_blank_append_trim cs
  obtain ⟨hfront, -⟩ := List.forall_mem_append.mp hblank
  have hrest : Text.trimStart cs = Text.trimStart (Text.trim cs ++ back) := by
    conv_lhs => rw [htext, List.append_assoc]
    exact List.dropWhile_append_of_pos hfront
  refine ⟨back, ?_⟩
  have hvisible : ¬((Text.trim cs).dropWhile Text.isBlank).isEmpty := by
    rwa [List.isEmpty_iff]
  rw [hrest, Text.trimStart, List.dropWhile_append, if_neg hvisible]
  rfl

/-- The number that a date starts with is its year. -/
theorem leading_of_ofText? (h : ofText? s = some d) (hpos : 0 < d.year) :
    Number.leading s = some (Float.ofInt d.year) := by
  have hlast := (inCalendar_iff.mp (bounded_of_ofText? h).year).2
  unfold ofText? ofTrimmed? at h
  simp only [Option.bind_eq_bind, Option.bind_eq_some_iff, Prod.exists] at h
  obtain ⟨year, behind, hyear, rest, hhyphen, month, _, -, _, -, day, _, -, h⟩ := h
  split_ifs at h
  cases h
  have hbehind : behind = '-' :: rest := by
    unfold dropHyphen? at hhyphen
    split at hhyphen
    · cases hhyphen
      rfl
    · cases hhyphen
  have hne : Text.trimStart (Text.trim s.toList) ≠ [] := by
    intro hempty
    rw [hempty] at hyear
    cases hyear
  obtain ⟨back, hback⟩ := exists_trimStart_eq_append hne
  rw [Number.leading, hback, leadingOfTrimmed_of_takeYear? (hbehind ▸ hyear) back hpos (by omega)]

end Spreadsheet.Date
