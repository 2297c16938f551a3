import Mathlib.Logic.Basic
import Mathlib.Tactic.ByContra
import Mathlib.Tactic.SplitIfs
import Spreadsheet.Json.Reader
import Spreadsheet.Json.Writer
import Spreadsheet.Proofs.Number.Written

/-!
# Numerals in JSON read back

A numeral ends where something stands that cannot go on with it. What is read from a numeral that
stands alone is therefore read from it in a longer text too, and a whole number of 64 bits is read
back from its digits.
-/

namespace Spreadsheet

/-- Digits end where something else begins. -/
theorem Number.takeDigits_append_of_head {rest : List Char}
    (h : ∀ c ∈ rest.head?, isDigit c = false) (cs : List Char) :
    takeDigits (cs ++ rest) = ((takeDigits cs).1, (takeDigits cs).2 ++ rest) := by
  have hrest : rest.takeWhile isDigit = [] ∧ rest.dropWhile isDigit = rest := by
    rw [← List.nil_append rest]
    exact takeWhile_dropWhile_append (List.forall_mem_nil _) h
  induction cs with
  | nil => exact congrArg₂ Prod.mk hrest.1 hrest.2
  | cons c cs ih =>
    by_cases hc : isDigit c = true
    · simpa [takeDigits, hc] using ih
    · simp [takeDigits, hc]

namespace Json

/-- A text that cannot go on with a numeral: it starts neither with a digit nor with the mark of a
fraction or an exponent. -/
def EndsNumeral (rest : List Char) : Prop :=
  ∀ c ∈ rest.head?, Number.isDigit c = false ∧ c ≠ '.' ∧ c ≠ 'e' ∧ c ≠ 'E'

/-- A number can end where the text ends. -/
theorem endsNumeral_nil : EndsNumeral [] := by
  rintro c ⟨⟩

/-- What may stand behind a value ends a numeral. -/
theorem endsNumeral_cons {c : Char} (h : c = ',' ∨ c = ']' ∨ c = '\x7d') (rest : List Char) :
    EndsNumeral (c :: rest) := by
  rintro d hd
  obtain rfl : c = d := Option.some.inj hd
  rcases h with rfl | rfl | rfl <;> decide

/-- The first character of a numeral. -/
def StartsNumeral (c : Char) : Prop :=
  c = '-' ∨ Number.isDigit c = true

instance (c : Char) : Decidable (StartsNumeral c) :=
  inferInstanceAs (Decidable (c = '-' ∨ Number.isDigit c = true))

/-- The numeral behind its sign. -/
def takeUnsigned? (negative : Bool) (cs : List Char) : Option (Numeral × List Char) := do
  let (whole, cs) := Number.takeDigits cs
  if whole.isEmpty || (whole.head? == some '0' && whole.length != 1) then none
  let (fraction, cs) ← takeFraction? cs
  let (exponent, cs) ← takeExponent? cs
  return (⟨negative, whole, fraction, exponent⟩, cs)

private theorem takeNumeral?_minus (cs : List Char) :
    takeNumeral? ('-' :: cs) = takeUnsigned? true cs := rfl

private theorem takeNumeral?_of_head {cs : List Char} (h : cs.head? ≠ some '-') :
    takeNumeral? cs = takeUnsigned? false cs := by
  unfold takeNumeral?
  split
  next negative tail heq =>
    split at heq
    · exact absurd rfl h
    · cases heq
      rfl

/-- A numeral behind its sign consists of digits, of which the first is no zero unless it is the
only one, of a fraction and of an exponent. -/
theorem takeUnsigned?_eq_some_iff {negative : Bool} {cs left : List Char} {n : Numeral} :
    takeUnsigned? negative cs = some (n, left) ↔
      (n.whole.isEmpty || (n.whole.head? == some '0' && n.whole.length != 1)) = false ∧
        n.negative = negative ∧ (Number.takeDigits cs).1 = n.whole ∧
          ∃ tail, takeFraction? (Number.takeDigits cs).2 = some (n.fraction, tail) ∧
            takeExponent? tail = some (n.exponent, left) := by
  obtain ⟨sign, whole, fraction, exponent⟩ := n
  unfold takeUnsigned?
  generalize Number.takeDigits cs = taken
  obtain ⟨digits, behind⟩ := taken
  dsimp only
  cases hwhole : (digits.isEmpty || (digits.head? == some '0' && digits.length != 1)) with
  | true =>
    rw [if_pos rfl]
    constructor
    · rintro ⟨⟩
    · rintro ⟨hgood, -, rfl, -⟩
      cases hwhole.symm.trans hgood
  | false =>
    rw [if_neg Bool.false_ne_true]
    cases hfraction : takeFraction? behind with
    | none => simp
    | some fraction =>
      cases hexponent : takeExponent? fraction.2 with
      | none => grind
      | some exponent => grind

section Longer

variable {cs rest left : List Char}

/-- Text behind the end of a number does not change the digits that are taken. -/
theorem takeDigits_append (hrest : EndsNumeral rest) (cs : List Char) :
    Number.takeDigits (cs ++ rest) =
      ((Number.takeDigits cs).1, (Number.takeDigits cs).2 ++ rest) :=
  Number.takeDigits_append_of_head (fun c hc => (hrest c hc).1) cs

/-- The fraction is the same in a longer text. -/
theorem takeFraction?_append (hrest : EndsNumeral rest) {fraction : Option (List Char)}
    (h : takeFraction? cs = some (fraction, left)) :
    takeFraction? (cs ++ rest) = some (fraction, left ++ rest) := by
  unfold takeFraction? at h
  split at h
  · next cs =>
    simp only [List.cons_append, takeFraction?, takeDigits_append hrest]
    dsimp only at h
    split_ifs at h ⊢ with hdigits
    cases h
    rfl
  · next hpoint =>
    cases h
    unfold takeFraction?
    split
    · next tail heq =>
      cases cs with
      | nil =>
        subst heq
        exact absurd rfl (hrest '.' rfl).2.1
      | cons c cs =>
        cases heq
        exact (hpoint _ rfl).elim
    · rfl

/-- The exponent is the same in a longer text. -/
theorem takeExponent?_append (hrest : EndsNumeral rest) {exponent : Option Int}
    (h : takeExponent? cs = some (exponent, left)) :
    takeExponent? (cs ++ rest) = some (exponent, left ++ rest) := by
  cases cs with
  | nil =>
    cases h
    cases rest with
    | nil => rfl
    | cons c rest =>
      obtain ⟨-, -, hsmall, hlarge⟩ := hrest c rfl
      exact if_neg (not_or.mpr ⟨hsmall, hlarge⟩)
  | cons c cs =>
    rw [takeExponent?] at h
    rw [List.cons_append, takeExponent?]
    split_ifs at h ⊢ with hmark
    · cases cs with
      | nil => cases h
      | cons d cs =>
        have hsign : Number.takeSign (d :: cs ++ rest) =
            ((Number.takeSign (d :: cs)).1, (Number.takeSign (d :: cs)).2 ++ rest) := by
          unfold Number.takeSign
          split <;> simp_all
        rw [hsign]
        simp only [takeDigits_append hrest]
        dsimp only at h
        split_ifs at h ⊢ with hdigits
        · cases h
          rfl
        · cases h
          rfl
    · cases h
      rfl

private theorem takeUnsigned?_append (hrest : EndsNumeral rest) {negative : Bool} {n : Numeral}
    (h : takeUnsigned? negative cs = some (n, left)) :
    takeUnsigned? negative (cs ++ rest) = some (n, left ++ rest) := by
  obtain ⟨hgood, hsign, hwhole, tail, hfraction, hexponent⟩ := takeUnsigned?_eq_some_iff.mp h
  rw [takeUnsigned?_eq_some_iff, takeDigits_append hrest]
  exact ⟨hgood, hsign, hwhole, tail ++ rest, takeFraction?_append hrest hfraction,
    takeExponent?_append hrest hexponent⟩

/-- A numeral starts with a digit or a minus sign. -/
theorem head_of_takeNumeral? {n : Numeral} (h : takeNumeral? cs = some (n, left)) :
    ∃ c tail, cs = c :: tail ∧ StartsNumeral c := by
  cases cs with
  | nil => cases h
  | cons c cs =>
    by_cases hc : c = '-'
    · exact ⟨c, cs, rfl, .inl hc⟩
    · rw [takeNumeral?_of_head (by simpa using hc)] at h
      obtain ⟨hgood, -, hwhole, -⟩ := takeUnsigned?_eq_some_iff.mp h
      refine ⟨c, cs, rfl, .inr ?_⟩
      by_contra hdigit
      have hnone : (Number.takeDigits (c :: cs)).1 = [] := by simp [Number.takeDigits, hdigit]
      rw [hnone] at hwhole
      rw [← hwhole] at hgood
      cases hgood

/-- The numeral is the same in a longer text. -/
theorem takeNumeral?_append (hrest : EndsNumeral rest) {n : Numeral}
    (h : takeNumeral? cs = some (n, left)) :
    takeNumeral? (cs ++ rest) = some (n, left ++ rest) := by
  obtain ⟨c, tail, rfl, -⟩ := head_of_takeNumeral? h
  by_cases hc : c = '-'
  · subst hc
    rw [takeNumeral?_minus] at h
    exact (takeNumeral?_minus _).trans (takeUnsigned?_append hrest h)
  · have hhead : ∀ cs : List Char, (c :: cs).head? ≠ some '-' := by simp [hc]
    rw [takeNumeral?_of_head (hhead _)] at h
    exact (takeNumeral?_of_head (hhead _)).trans (takeUnsigned?_append hrest h)

end Longer

/-! ## Where numerals begin -/

/-- The digits of a number start with a digit. -/
theorem exists_digitsOf (n : Nat) :
    ∃ c cs, Number.digitsOf n = c :: cs ∧ Number.isDigit c = true := by
  have hne : Number.digitsOf n ≠ [] := Nat.toDigits_ne_nil
  obtain ⟨c, cs, hcons⟩ := List.exists_cons_of_ne_nil hne
  have hmem : c ∈ Number.digitsOf n := hcons ▸ List.mem_cons_self
  exact ⟨c, cs, hcons, Number.isDigit_of_mem_toDigits hmem⟩

/-- Digits keep the first of them in front, or have a zero there, wherever the point stands. -/
theorem startsNumeral_positional {c : Char} (hc : Number.isDigit c = true) (pointed : Bool)
    (cs : List Char) (whole : Int) :
    ∃ d ds, Number.positional pointed (c :: cs) whole = d :: ds ∧ StartsNumeral d := by
  unfold Number.positional
  split_ifs with hsmall hshort
  · exact ⟨'0', _, rfl, .inr rfl⟩
  · exact ⟨c, _, rfl, .inr hc⟩
  · exact ⟨c, _, rfl, .inr hc⟩
  · obtain ⟨front, hfront⟩ : ∃ front, whole.toNat = front + 1 :=
      ⟨whole.toNat - 1, by omega⟩
    rw [hfront]
    exact ⟨c, _, rfl, .inr hc⟩

/-- A decimal number starts as numbers do. -/
theorem startsNumeral_decimal (layout : Number.Layout) (d : Number.Decimal) :
    ∃ c cs, layout.decimal d = c :: cs ∧ StartsNumeral c := by
  obtain ⟨c, cs, hcons, hc⟩ := exists_digitsOf d.digits
  unfold Number.Layout.decimal
  dsimp only
  split_ifs
  · exact ⟨'0', _, rfl, .inr rfl⟩
  · exact ⟨'0', _, rfl, .inr rfl⟩
  · rw [hcons]
    exact startsNumeral_positional hc _ _ _
  · rw [hcons]
    exact ⟨c, _, rfl, .inr hc⟩

/-- What is written for a finite double starts as a numeral does. -/
theorem startsNumeral_writeDecimal {x : Float} (h : x.isFinite = true) :
    ∃ c cs, writeDecimal x = c :: cs ∧ StartsNumeral c := by
  obtain ⟨b, hform⟩ := (Number.isFinite_iff x).mp h
  rw [writeDecimal, if_pos h, Number.Layout.write, hform]
  dsimp only
  rw [String.toList_ofList]
  split_ifs
  · exact ⟨'-', _, rfl, .inl rfl⟩
  · exact startsNumeral_decimal _ _

/-- What is written for a whole number starts as a numeral does. -/
theorem startsNumeral_writeInteger (n : Int) :
    ∃ c cs, writeInteger n = c :: cs ∧ StartsNumeral c := by
  unfold writeInteger
  split_ifs
  · exact ⟨'-', _, rfl, .inl rfl⟩
  · obtain ⟨c, cs, hcons, hc⟩ := exists_digitsOf n.natAbs
    exact ⟨c, cs, hcons, .inr hc⟩

/-! ## Whole numbers -/

/-- The digits of a number are a numeral. -/
theorem takeUnsigned?_digitsOf (negative : Bool) (n : Nat) {rest : List Char}
    (hrest : EndsNumeral rest) :
    takeUnsigned? negative (Number.digitsOf n ++ rest) =
      some (⟨negative, Number.digitsOf n, none, none⟩, rest) := by
  have hdigits : Number.takeDigits (Number.digitsOf n) = (Number.digitsOf n, []) := by
    have hall : ∀ c ∈ Number.digitsOf n, Number.isDigit c = true :=
      fun c hc => Number.isDigit_of_mem_toDigits hc
    rw [Number.takeDigits, List.takeWhile_eq_self_iff.mpr hall, List.dropWhile_eq_nil_iff.mpr hall]
  have hgood : ((Number.digitsOf n).isEmpty ||
      ((Number.digitsOf n).head? == some '0' && (Number.digitsOf n).length != 1)) = false := by
    by_cases hn : n = 0
    · subst hn
      rfl
    · have hne : Number.digitsOf n ≠ [] := Nat.toDigits_ne_nil
      have hhead : (Number.digitsOf n).head? ≠ some '0' := Number.head?_toDigits hn
      simp [hne, hhead]
  have halone : takeUnsigned? negative (Number.digitsOf n) =
      some (⟨negative, Number.digitsOf n, none, none⟩, []) :=
    takeUnsigned?_eq_some_iff.mpr
      ⟨hgood, rfl, congrArg Prod.fst hdigits, [], by rw [hdigits]; rfl, rfl⟩
  exact takeUnsigned?_append hrest halone

/-- A whole number that fits into 64 bits is read back. -/
theorem takeNumeral?_writeInteger {n : Int} (hleast : -((2 ^ 63 : Nat) : Int) ≤ n)
    (hgreatest : n ≤ greatestWord) {rest : List Char} (hrest : EndsNumeral rest) :
    ∃ numeral, takeNumeral? (writeInteger n ++ rest) = some (numeral, rest) ∧
      numeral.toJson = .integer n := by
  have hvalue : Number.ofDigits (Number.digitsOf n.natAbs) = n.natAbs :=
    Number.ofDigits_toDigits _
  unfold writeInteger
  split_ifs with hnegative
  · refine ⟨_, (takeNumeral?_minus _).trans (takeUnsigned?_digitsOf true _ hrest), ?_⟩
    have hne : n.natAbs ≠ 0 := by omega
    have hle : n.natAbs ≤ Nat.pow 2 63 := by
      change n.natAbs ≤ 2 ^ 63
      omega
    simp [Numeral.toJson, hvalue, hne, hle, abs_of_neg hnegative]
  · have hhead : (Number.digitsOf n.natAbs ++ rest).head? ≠ some '-' := by
      obtain ⟨c, cs, hcons, hdigit⟩ := exists_digitsOf n.natAbs
      rw [hcons]
      rintro ⟨⟩
      cases hdigit
    refine ⟨_, (takeNumeral?_of_head hhead).trans (takeUnsigned?_digitsOf false _ hrest), ?_⟩
    have hle : n.natAbs ≤ greatestWord := by omega
    simp [Numeral.toJson, hvalue, hle, abs_of_nonneg (not_lt.mp hnegative)]

end Json

end Spreadsheet
