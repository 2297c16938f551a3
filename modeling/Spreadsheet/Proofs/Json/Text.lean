import Mathlib.Tactic.IntervalCases
import Spreadsheet.Json.Reader
import Spreadsheet.Json.Writer

/-!
# Texts in JSON read back

Every character of a text, escaped or not, is read as the code unit that it is, so whatever a text
consists of, it is read back from what is written for it, up to its closing quote and no further.
-/

namespace Spreadsheet.Json

/-! ## Code units -/

/-- A character that stands for itself is a unit. -/
theorem readUnits_plain {c : Char} (hquote : c ≠ '"') (hbackslash : c ≠ '\\')
    (hcontrol : ¬c.toNat < 0x20) (cs : List Char) :
    readUnits (c :: cs) = (readUnits cs).map fun (units, rest) => (c.toNat :: units, rest) := by
  rw [readUnits.eq_def]
  dsimp only
  rw [if_neg hquote, if_neg hbackslash, if_neg hcontrol]
  cases readUnits cs <;> rfl

/-- A letter behind a backslash is the unit of the character that it stands for. -/
theorem readUnits_escaped {e c : Char} (h : escaped? e = some c) (cs : List Char) :
    readUnits ('\\' :: e :: cs) =
      (readUnits cs).map fun (units, rest) => (c.toNat :: units, rest) := by
  have hu : e ≠ 'u' := by
    rintro rfl
    cases (rfl : escaped? 'u' = none).symm.trans h
  rw [readUnits.eq_def]
  dsimp only
  rw [if_neg (by decide), if_pos rfl]
  split
  · next heq => exact absurd (List.cons.inj heq).1 hu
  · next heq =>
    cases heq
    rw [h]
    cases readUnits cs <;> rfl
  · next heq => cases heq

/-- Four digits behind a backslash are the unit that they denote. -/
theorem readUnits_word {a b c d : Char} {unit : Nat} (h : hexWord? a b c d = some unit)
    (cs : List Char) :
    readUnits ('\\' :: 'u' :: a :: b :: c :: d :: cs) =
      (readUnits cs).map fun (units, rest) => (unit :: units, rest) := by
  rw [readUnits.eq_def]
  dsimp only
  rw [if_neg (by decide), if_pos rfl]
  split
  · next heq =>
    cases heq
    rw [h]
    cases readUnits cs <;> rfl
  · next hother heq =>
    cases heq
    exact (hother _ _ _ _ _ rfl rfl).elim
  · next heq => cases heq

/-! ## Texts -/

/-- The digits of a control character denote it. -/
theorem hexWord?_of_control {n : Nat} (h : n < 0x20) :
    hexWord? '0' '0' (hexDigit (n / 16)) (hexDigit n) = some n := by
  interval_cases n <;> rfl

/-- A character is read as one code unit, in whatever way it is written. -/
theorem readUnits_escape_append (c : Char) (cs : List Char) :
    readUnits (escape c ++ cs) =
      (readUnits cs).map fun (units, rest) => (c.toNat :: units, rest) := by
  unfold escape
  split
  case h_8 hquote hbackslash _ _ _ _ _ =>
    split
    · next hcontrol => exact readUnits_word (hexWord?_of_control hcontrol) cs
    · next hcontrol => exact readUnits_plain hquote hbackslash hcontrol cs
  all_goals exact readUnits_escaped rfl cs

/-- The characters of a text are its code units. -/
theorem readUnits_flatMap_escape (cs rest : List Char) :
    readUnits (cs.flatMap escape ++ '"' :: rest) = some (cs.map Char.toNat, rest) := by
  induction cs with
  | nil =>
    rw [readUnits.eq_def]
    rfl
  | cons c cs ih =>
    rw [List.flatMap_cons, List.append_assoc, readUnits_escape_append, ih]
    rfl

/-- A character is no half of a character. -/
theorem isHalf_toNat (c : Char) : isLowHalf c.toNat = false ∧ isHighHalf c.toNat = false := by
  have hvalid : c.toNat < 0xD800 ∨ 0xDFFF < c.toNat ∧ c.toNat < 0x110000 := c.valid
  simp only [isLowHalf, isHighHalf, Bool.and_eq_false_iff, decide_eq_false_iff_not]
  omega

/-- The code units of a text stand for it. -/
theorem charsOfUnits?_map_toNat (cs : List Char) :
    charsOfUnits? (cs.map Char.toNat) = some cs := by
  induction cs with
  | nil =>
    rw [charsOfUnits?.eq_def]
    rfl
  | cons c cs ih =>
    obtain ⟨hlow, hhigh⟩ := isHalf_toNat c
    rw [List.map_cons, charsOfUnits?.eq_def]
    dsimp only
    rw [hlow, hhigh, if_neg Bool.false_ne_true, if_neg Bool.false_ne_true, ih, Char.ofNat_toNat]
    rfl

/-- A text is read back behind its opening quote. -/
theorem readText_append (s : String) (rest : List Char) :
    readText (s.toList.flatMap escape ++ '"' :: rest) = some (some s, rest) := by
  rw [readText, readUnits_flatMap_escape]
  simp [charsOfUnits?_map_toNat]

end Spreadsheet.Json
