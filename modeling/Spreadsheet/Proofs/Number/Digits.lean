import Mathlib.Data.List.Induction
import Spreadsheet.Number.Leading

/-!
# Digits read back

The digits of a number denote it, and a reader of digits that is given digits and something else
takes the digits. All digits that denote a number are its own ones, with some zeros before them.
-/

namespace Spreadsheet.Number

/-- What stands before the first character outside a class is what is taken of the class. -/
theorem takeWhile_dropWhile_append {class? : Char → Bool} {front rest : List Char}
    (hfront : ∀ c ∈ front, class? c = true) (hrest : ∀ c ∈ rest.head?, class? c = false) :
    (front ++ rest).takeWhile class? = front ∧ (front ++ rest).dropWhile class? = rest := by
  rw [List.takeWhile_append_of_pos hfront, List.dropWhile_append_of_pos hfront]
  cases rest with
  | nil => simp
  | cons c rest =>
    have hc := hrest c rfl
    simp [hc]

/-- The number of some digits as the library of texts counts it. -/
theorem ofDigits_eq (cs : List Char) : ofDigits cs = Nat.ofDigitChars 10 cs 0 :=
  ofDigits_eq_foldl cs

/-- Zeros in front change no number. -/
theorem ofDigits_zeros_append (n : Nat) (cs : List Char) :
    ofDigits (List.replicate n '0' ++ cs) = ofDigits cs := by
  rw [ofDigits_eq, ofDigits_eq, Nat.ofDigitChars_append, Nat.ofDigitChars_replicate_zero,
    Nat.mul_zero]

/-- The digits of a number denote it. -/
theorem ofDigits_toDigits (n : Nat) : ofDigits (Nat.toDigits 10 n) = n := by
  rw [ofDigits_eq]
  exact Nat.ofDigitChars_ten_toDigits

/-- Zeros are digits. -/
theorem isDigit_of_mem_zeros {n : Nat} {c : Char} (h : c ∈ List.replicate n '0') :
    isDigit c = true := by
  rw [List.eq_of_mem_replicate h]
  rfl

/-- Numbers are written with digits. -/
theorem isDigit_of_mem_toDigits {n : Nat} {c : Char} (h : c ∈ Nat.toDigits 10 n) :
    isDigit c = true :=
  Nat.isDigit_of_mem_toDigits (by decide) (by decide) h

/-- The digits of a number start with a zero only if it is zero. -/
theorem head?_toDigits {n : Nat} (h : n ≠ 0) : (Nat.toDigits 10 n).head? ≠ some '0' := by
  induction n using Nat.strongRecOn with
  | _ n ih =>
    by_cases hn : n < 10
    · have hdigit : ∀ d < 10, d ≠ 0 → Nat.digitChar d ≠ '0' := by decide
      rw [Nat.toDigits_of_lt_base hn]
      simpa using hdigit n hn h
    · have hfront := ih (n / 10) (by omega) (by omega)
      obtain ⟨c, cs, hcons⟩ := List.exists_cons_of_ne_nil
        (Nat.toDigits_ne_nil : Nat.toDigits 10 (n / 10) ≠ [])
      rw [Nat.toDigits_of_base_le (by decide) (Nat.le_of_not_lt hn), hcons]
      rwa [hcons] at hfront

/-- A digit is the one with its value. -/
theorem digitChar_digitValue {c : Char} (h : isDigit c = true) :
    digitValue c < 10 ∧ Nat.digitChar (digitValue c) = c := by
  have hcode : 48 ≤ c.toNat ∧ c.toNat ≤ 57 := by
    simpa [isDigit, Char.le_def, UInt32.le_iff_toNat_le, ← Char.toNat_val] using h
  have hvalue : digitValue c = c.toNat - 48 := rfl
  refine ⟨by omega, Char.toNat_inj.mp ?_⟩
  rw [Nat.toNat_digitChar_of_lt_ten (by omega)]
  omega

/-- A digit at the end counts once, and those before it ten times as much. -/
theorem ofDigits_append_singleton (cs : List Char) (c : Char) :
    ofDigits (cs ++ [c]) = 10 * ofDigits cs + digitValue c := by
  rw [ofDigits_eq, ofDigits_eq, Nat.ofDigitChars_append]
  rfl

/-- Digits are zeros and the digits of the number that they denote, of which zero has none here. -/
theorem exists_zeros_append {cs : List Char} (h : ∀ c ∈ cs, isDigit c = true) :
    ∃ zeros, cs = List.replicate zeros '0' ++
      if ofDigits cs = 0 then [] else Nat.toDigits 10 (ofDigits cs) := by
  induction cs using List.reverseRecOn with
  | nil => exact ⟨0, by simp [ofDigits_eq]⟩
  | append_singleton cs c ih =>
    obtain ⟨zeros, hzeros⟩ := ih fun c hc => h c (List.mem_append_left _ hc)
    obtain ⟨hlt, hchar⟩ := digitChar_digitValue (h c (by simp))
    rw [ofDigits_append_singleton]
    by_cases hfront : ofDigits cs = 0
    · rw [if_pos hfront, List.append_nil] at hzeros
      rw [hfront, hzeros]
      by_cases hlast : digitValue c = 0
      · refine ⟨zeros + 1, ?_⟩
        rw [if_pos (by omega), List.append_nil, List.replicate_succ', ← hchar, hlast]
        rfl
      · refine ⟨zeros, ?_⟩
        rw [if_neg (by omega), Nat.mul_zero, Nat.zero_add, Nat.toDigits_of_lt_base hlt, hchar]
    · rw [if_neg hfront] at hzeros
      have hdigits := Nat.toDigits_append_toDigits (by decide : 1 < 10)
        (Nat.pos_of_ne_zero hfront) hlt
      refine ⟨zeros, ?_⟩
      rw [if_neg (by omega), ← hdigits, Nat.toDigits_of_lt_base hlt, hchar, ← List.append_assoc,
        ← hzeros]

end Spreadsheet.Number
