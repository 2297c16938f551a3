import Spreadsheet.Function.Text
import Spreadsheet.Proofs.Number.Counting

/-!
# Positions of characters

Positions are doubles that count from one. A double is taken as a position if it is at least one;
its whole part is the position. The natural numbers of up to 53 digits to the base two, which are
more than the characters that fit into memory, are told apart.
-/

namespace Spreadsheet.Number

open Float.Model Float.Model.UnpackedFloat

variable {x y : Float} {c : Binary} {m n : Nat}

/-- A double is at least one unless it is less than one or no number. -/
theorem one_le_iff : 1.0 ≤ x ↔ ¬x < 1.0 ∧ x.isNaN = false := by
  refine ⟨fun h => ⟨(not_lt_of_one_le h).1, (not_lt_of_one_le h).2.2⟩, ?_⟩
  rintro ⟨hless, hnumber⟩
  change x.toModel.unpack.isNaN = false at hnumber
  cases hu : x.toModel.unpack with
  | notANumber =>
    rw [hu] at hnumber
    cases hnumber
  | infinity sign =>
    rw [lt_iff_lt_unpack, standsFor_one.unpack_eq, hu] at hless
    rw [le_iff_le_unpack, standsFor_one.unpack_eq, hu]
    cases sign with
    | positive => rfl
    | negative => exact absurd rfl hless
  | zero sign =>
    rw [lt_iff_lt_unpack, standsFor_one.unpack_eq, hu] at hless
    exact absurd rfl hless
  | finite sign mantissa exponent hpos =>
    cases sign with
    | positive =>
      have hx : StandsFor x ⟨false, mantissa, exponent⟩ := .of_unpack hu
      rw [hx.lt_iff standsFor_one, not_lt] at hless
      rwa [standsFor_one.le_iff hx]
    | negative =>
      rw [lt_iff_lt_unpack, standsFor_one.unpack_eq, hu] at hless
      exact absurd rfl hless

/-- Natural numbers are in the order of their doubles. -/
theorem toFloat_le_toFloat_iff (hm : 0 < m) (hmlt : m < 2 ^ 53) (hn : 0 < n) (hnlt : n < 2 ^ 53) :
    m.toFloat ≤ n.toFloat ↔ m ≤ n := by
  rw [(standsFor_ofNat hm hmlt).le_iff (standsFor_ofNat hn hnlt), wholeBinary_value,
    wholeBinary_value]
  exact_mod_cast Iff.rfl

/-- What is at least a positive count is at least one. -/
theorem one_le_of_toFloat_le (hpos : 0 < n) (hlt : n < 2 ^ 53) (h : n.toFloat ≤ x) : 1.0 ≤ x :=
  (standsFor_ofNat hpos hlt).one_le_of_le (one_le_toFloat hpos hlt) h

/-- The whole part of a double that is at least a natural number is at least that number. -/
theorem le_toCount (hpos : 0 < n) (hlt : n < 2 ^ 53) (h : n.toFloat ≤ x) : n ≤ toCount x := by
  have hbound : Int.ofNat (Nat.pow 2 64) = 2 ^ 64 := rfl
  unfold toCount toBounded
  rcases (standsFor_ofNat hpos hlt).form_of_le h with hform | ⟨b, hb, hvalue⟩
  · rw [hform, hbound]
    dsimp only
    rw [if_neg Bool.false_ne_true]
    omega
  · rw [wholeBinary_value] at hvalue
    have hfloor : n ≤ ⌊b.value⌋₊ := Nat.le_floor hvalue
    rw [hb.form_eq]
    dsimp only
    rw [hb.toInteger_eq, hbound]
    omega

end Spreadsheet.Number

namespace Spreadsheet.Function

variable {x : Float} {n : Nat}

/-- A count is exact as a number. -/
theorem ofCount_of_lt (h : n < 2 ^ 53) : ofCount n = .number n.toFloat := by
  have hcount : min n countLimit = n := by
    have hlimit : countLimit = 2 ^ 64 - 1 := rfl
    omega
  rw [ofCount, hcount]

/-- In front of a position stand all characters but those from it on. -/
theorem skipOf?_eq (x : Float) :
    skipOf? x = if 1.0 ≤ x then some (Number.toCount x - 1) else none := by
  unfold skipOf?
  by_cases h : 1.0 ≤ x
  · obtain ⟨hless, hnumber⟩ := Number.one_le_iff.mp h
    rw [if_pos h, hnumber, decide_eq_false hless]
    rfl
  · rw [if_neg h, if_pos]
    rw [Number.one_le_iff, not_and_or, not_not, Bool.not_eq_false] at h
    simpa using h

/-- In front of a position that is a count stands one character less. -/
theorem skipOf?_toFloat (hpos : 0 < n) (hlt : n < 2 ^ 53) : skipOf? n.toFloat = some (n - 1) := by
  rw [skipOf?_eq, if_pos (Number.one_le_toFloat hpos hlt), Number.toCount_toFloat hpos hlt]

/-- A count is read back from its number. -/
theorem countOf?_toFloat (hlt : n < 2 ^ 53) : countOf? n.toFloat = some n := by
  rcases Nat.eq_zero_or_pos n with rfl | hpos
  · decide +kernel
  · obtain ⟨-, hsign, hnumber⟩ := Number.not_lt_of_one_le (Number.one_le_toFloat hpos hlt)
    rw [countOf?, hnumber, decide_eq_false hsign, Number.toCount_toFloat hpos hlt]
    rfl

end Spreadsheet.Function
