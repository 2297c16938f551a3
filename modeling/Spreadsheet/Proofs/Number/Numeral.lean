import Mathlib.Computability.RegularExpressions
import Spreadsheet.Proofs.Number.Integer

/-!
# Numbers as they are written

A number is written with a sign, digits with a point among them, and an exponent, where all but the
digits may be missing. The texts that match this form as a regular expression are those that are put
together from the parts of a numeral. The value of a numeral is the double nearest to the number
that its parts denote, unless its exponent is so large that not all digits of it count.
-/

namespace Spreadsheet.Number

/-! ## The grammar -/

namespace Grammar

open RegularExpression

/-- One of some characters. -/
def oneOf (cs : List Char) : RegularExpression Char :=
  (cs.map char).sum

/-- Something that may be missing. -/
def optional (r : RegularExpression Char) : RegularExpression Char :=
  1 + r

/-- A digit, `D`. -/
def digit : RegularExpression Char :=
  oneOf ['0', '1', '2', '3', '4', '5', '6', '7', '8', '9']

/-- Digits, of which there is one at least, `D+`. -/
def digits : RegularExpression Char :=
  digit * digit.star

/-- A sign, `[+-]?`. -/
def sign : RegularExpression Char :=
  optional (oneOf ['+', '-'])

/-- The form of numbers, `[+-]?(D+(.D*)?|.D+)([eE][+-]?D+)?`. -/
def numeral : RegularExpression Char :=
  sign * (digits * optional (char '.' * digit.star) + char '.' * digits) *
    optional (oneOf ['e', 'E'] * sign * digits)

variable {cs p : List Char} {r : RegularExpression Char}

private theorem mem_oneOf : p ∈ (oneOf cs).matches' ↔ ∃ c ∈ cs, p = [c] := by
  induction cs with
  | nil => simp [oneOf, Language.notMem_zero]
  | cons c cs ih =>
    have hcons : oneOf (c :: cs) = char c + oneOf cs := by simp [oneOf]
    have hone : p ∈ (char c).matches' ↔ p = [c] := Iff.rfl
    rw [hcons, matches'_add, Language.mem_add, ih, hone]
    simp

private theorem mem_optional : p ∈ (optional r).matches' ↔ p = [] ∨ p ∈ r.matches' := by
  rw [optional, matches'_add, Language.mem_add, matches'_epsilon, Language.mem_one]

private theorem isDigit_iff_mem (c : Char) : isDigit c = true ↔
    c ∈ ['0', '1', '2', '3', '4', '5', '6', '7', '8', '9'] := by
  constructor
  · intro hc
    obtain ⟨hlt, hchar⟩ := digitChar_digitValue hc
    have hten : ∀ d < 10, Nat.digitChar d ∈
        ['0', '1', '2', '3', '4', '5', '6', '7', '8', '9'] := by decide
    exact hchar ▸ hten _ hlt
  · have hall : ['0', '1', '2', '3', '4', '5', '6', '7', '8', '9'].all isDigit = true := rfl
    exact List.all_eq_true.mp hall c

private theorem mem_digit : p ∈ digit.matches' ↔ ∃ c, isDigit c = true ∧ p = [c] := by
  rw [digit, mem_oneOf]
  simp only [isDigit_iff_mem]

private theorem mem_star_digit : p ∈ digit.star.matches' ↔ ∀ c ∈ p, isDigit c = true := by
  rw [matches'_star, Language.mem_kstar]
  constructor
  · rintro ⟨parts, rfl, hparts⟩ c hc
    obtain ⟨part, hmem, hc⟩ := List.mem_flatten.mp hc
    obtain ⟨d, hd, rfl⟩ := mem_digit.mp (hparts part hmem)
    rwa [List.mem_singleton.mp hc]
  · intro h
    refine ⟨p.map fun c => [c], by simp [← List.flatMap_def], fun part hpart => ?_⟩
    obtain ⟨c, hc, rfl⟩ := List.mem_map.mp hpart
    exact mem_digit.mpr ⟨c, h c hc, rfl⟩

private theorem mem_digits : p ∈ digits.matches' ↔ p ≠ [] ∧ ∀ c ∈ p, isDigit c = true := by
  rw [digits, matches'_mul, Language.mem_mul]
  constructor
  · rintro ⟨front, hfront, behind, hbehind, rfl⟩
    obtain ⟨c, hc, rfl⟩ := mem_digit.mp hfront
    exact ⟨List.cons_ne_nil _ _, List.forall_mem_cons.mpr ⟨hc, mem_star_digit.mp hbehind⟩⟩
  · rintro ⟨hne, hall⟩
    obtain ⟨c, cs, rfl⟩ := List.exists_cons_of_ne_nil hne
    obtain ⟨hc, hcs⟩ := List.forall_mem_cons.mp hall
    exact ⟨[c], mem_digit.mpr ⟨c, hc, rfl⟩, cs, mem_star_digit.mpr hcs, rfl⟩

end Grammar

/-! ## Numerals and their parts -/

/-- A sign in front of a number, if there is one. -/
inductive SignMark where
  | absent
  | plus
  | minus

namespace SignMark

def text : SignMark → List Char
  | absent => []
  | plus => ['+']
  | minus => ['-']

/-- Only a minus sign makes a number negative. -/
def isMinus : SignMark → Bool
  | minus => true
  | _ => false

/-- The texts of the form of signs are those of signs. -/
theorem mem_sign {p : List Char} :
    p ∈ Grammar.sign.matches' ↔ ∃ sign : SignMark, p = sign.text := by
  rw [Grammar.sign, Grammar.mem_optional, Grammar.mem_oneOf]
  constructor
  · rintro (rfl | ⟨c, hc, rfl⟩)
    · exact ⟨absent, rfl⟩
    · rcases List.mem_pair.mp hc with rfl | rfl
      · exact ⟨plus, rfl⟩
      · exact ⟨minus, rfl⟩
  · rintro ⟨_ | _ | _, rfl⟩
    · exact .inl rfl
    · exact .inr ⟨'+', by simp, rfl⟩
    · exact .inr ⟨'-', by simp, rfl⟩

end SignMark

/-- An exponent as it is written. -/
structure Exponent where
  /-- The letter in front. -/
  mark : Char
  /-- The sign of the exponent. -/
  sign : SignMark
  /-- The digits of the exponent. -/
  digits : List Char
  /-- The letter may be small or large. -/
  mark_eq : mark = 'e' ∨ mark = 'E'
  /-- There is a digit. -/
  digits_ne : digits ≠ []
  /-- All of them are digits. -/
  isDigit : ∀ c ∈ digits, isDigit c = true

namespace Exponent

def text (e : Exponent) : List Char :=
  e.mark :: (e.sign.text ++ e.digits)

/-- The exponent that is written. -/
def toInt (e : Exponent) : Int :=
  if e.sign.isMinus then -(ofDigits e.digits : Int) else ofDigits e.digits

/-- The exponent that counts: the digits behind a large number are passed over. -/
def value (e : Exponent) : Int :=
  if e.sign.isMinus then -(exponentOfDigits e.digits : Int) else exponentOfDigits e.digits

end Exponent

/-- A number as it is written. -/
structure Numeral where
  /-- The sign of the number. -/
  sign : SignMark
  /-- The digits before the point. -/
  whole : List Char
  /-- The digits behind the point, if there is a point. -/
  fraction : Option (List Char)
  /-- The exponent, if there is one. -/
  exponent : Option Exponent
  /-- All of them are digits. -/
  isDigit : ∀ c ∈ whole ++ fraction.getD [], isDigit c = true
  /-- There is a digit before the point or behind it. -/
  digits_ne : whole ++ fraction.getD [] ≠ []

namespace Numeral

def pointText : Option (List Char) → List Char
  | none => []
  | some digits => '.' :: digits

def exponentText : Option Exponent → List Char
  | none => []
  | some e => e.text

/-- An exponent that is missing is zero. -/
def exponentValue : Option Exponent → Int
  | none => 0
  | some e => e.value

def text (n : Numeral) : List Char :=
  n.sign.text ++ (n.whole ++ (pointText n.fraction ++ exponentText n.exponent))

/-- The number that is written, without its sign. -/
def magnitude (n : Numeral) : ℚ :=
  ofDigits (n.whole ++ n.fraction.getD []) *
    10 ^ ((n.exponent.elim 0 Exponent.toInt) - ((n.fraction.getD []).length : Int))

/-- The double that is read. -/
def value (n : Numeral) : Float :=
  withSign n.sign.isMinus (ofDecimal (ofDigits (n.whole ++ n.fraction.getD []))
    (exponentValue n.exponent - ((n.fraction.getD []).length : Int)))

/-! ### The grammar and the parts -/

/-- The texts of the form of exponents are those of exponents. -/
theorem mem_exponent {p : List Char} :
    p ∈ (Grammar.optional
        (Grammar.oneOf ['e', 'E'] * Grammar.sign * Grammar.digits)).matches' ↔
      ∃ exponent, p = exponentText exponent := by
  rw [Grammar.mem_optional, RegularExpression.matches'_mul, RegularExpression.matches'_mul]
  constructor
  · rintro (rfl | ⟨front, ⟨mark, hmark, sign, hsign, rfl⟩, digits, hdigits, rfl⟩)
    · exact ⟨none, rfl⟩
    · obtain ⟨c, hc, rfl⟩ := Grammar.mem_oneOf.mp hmark
      obtain ⟨sign, rfl⟩ := SignMark.mem_sign.mp hsign
      obtain ⟨hne, hall⟩ := Grammar.mem_digits.mp hdigits
      refine ⟨some ⟨c, sign, digits, List.mem_pair.mp hc, hne, hall⟩, ?_⟩
      simp [exponentText, Exponent.text]
  · rintro ⟨_ | e, rfl⟩
    · exact .inl rfl
    · refine .inr ⟨[e.mark] ++ e.sign.text, ⟨[e.mark], ?_, e.sign.text, ?_, rfl⟩, e.digits, ?_, ?_⟩
      · exact Grammar.mem_oneOf.mpr ⟨_, List.mem_pair.mpr e.mark_eq, rfl⟩
      · exact SignMark.mem_sign.mpr ⟨_, rfl⟩
      · exact Grammar.mem_digits.mpr ⟨e.digits_ne, e.isDigit⟩
      · simp [exponentText, Exponent.text]

/-- The texts of the form of digits with a point among them are put together from digits. -/
theorem mem_pointed {p : List Char} :
    p ∈ (Grammar.digits * Grammar.optional (.char '.' * Grammar.digit.star) +
        .char '.' * Grammar.digits).matches' ↔
      ∃ whole fraction, p = whole ++ pointText fraction ∧
        (∀ c ∈ whole ++ fraction.getD [], Number.isDigit c = true) ∧
        whole ++ fraction.getD [] ≠ [] := by
  rw [RegularExpression.matches'_add, Language.mem_add, RegularExpression.matches'_mul,
    RegularExpression.matches'_mul]
  constructor
  · rintro (⟨whole, hwhole, behind, hbehind, rfl⟩ | ⟨point, hpoint, fraction, hfraction, rfl⟩)
    · obtain ⟨hne, hall⟩ := Grammar.mem_digits.mp hwhole
      rcases Grammar.mem_optional.mp hbehind with rfl | ⟨point, hpoint, fraction, hfraction, rfl⟩
      · exact ⟨whole, none, rfl, by simpa using hall, by simpa using hne⟩
      · obtain rfl : point = ['.'] := hpoint
        have hdigits := Grammar.mem_star_digit.mp hfraction
        exact ⟨whole, some fraction, rfl, List.forall_mem_append.mpr ⟨hall, hdigits⟩, by simp [hne]⟩
    · obtain rfl : point = ['.'] := hpoint
      obtain ⟨hne, hall⟩ := Grammar.mem_digits.mp hfraction
      exact ⟨[], some fraction, rfl, hall, hne⟩
  · rintro ⟨whole, fraction, rfl, hall, hne⟩
    obtain ⟨hwhole, hfraction⟩ := List.forall_mem_append.mp hall
    by_cases hempty : whole = []
    · subst hempty
      cases fraction with
      | none => exact absurd rfl hne
      | some fraction => exact .inr ⟨['.'], rfl, fraction, Grammar.mem_digits.mpr ⟨hne, hall⟩, rfl⟩
    · refine .inl ⟨whole, Grammar.mem_digits.mpr ⟨hempty, hwhole⟩, _, ?_, rfl⟩
      cases fraction with
      | none => exact Grammar.mem_optional.mpr (.inl rfl)
      | some fraction =>
        exact Grammar.mem_optional.mpr
          (.inr ⟨['.'], rfl, fraction, Grammar.mem_star_digit.mpr hfraction, rfl⟩)

/-- The texts of the form of numbers are those of numerals. -/
theorem mem_numeral {p : List Char} :
    p ∈ Grammar.numeral.matches' ↔ ∃ n : Numeral, p = n.text := by
  rw [Grammar.numeral, RegularExpression.matches'_mul, RegularExpression.matches'_mul]
  constructor
  · rintro ⟨_, ⟨sign, hsign, body, hbody, rfl⟩, exponent, hexponent, rfl⟩
    obtain ⟨sign, rfl⟩ := SignMark.mem_sign.mp hsign
    obtain ⟨whole, fraction, rfl, hall, hne⟩ := mem_pointed.mp hbody
    obtain ⟨exponent, rfl⟩ := mem_exponent.mp hexponent
    exact ⟨⟨sign, whole, fraction, exponent, hall, hne⟩, by simp [text]⟩
  · rintro ⟨n, rfl⟩
    have hsign := SignMark.mem_sign.mpr ⟨n.sign, rfl⟩
    have hpointed := mem_pointed.mpr ⟨n.whole, n.fraction, rfl, n.isDigit, n.digits_ne⟩
    have hexponent := mem_exponent.mpr ⟨n.exponent, rfl⟩
    exact ⟨_, ⟨_, hsign, _, hpointed, rfl⟩, _, hexponent, by simp [text]⟩

/-! ### The nearest double -/

/-- All digits of an exponent count if all but the last of them are those of a small number. -/
theorem exponentOfDigits_eq {cs : List Char} (h : ofDigits cs < 10 * exponentLimit) :
    exponentOfDigits cs = ofDigits cs := by
  induction cs using List.reverseRecOn with
  | nil => rw [ofDigits_eq_foldl, exponentOfDigits, List.foldl_nil, List.foldl_nil]
  | append_singleton cs c ih =>
    rw [ofDigits_append_singleton] at h ⊢
    have hfront : exponentOfDigits cs = ofDigits cs := ih (by omega)
    have hstep : exponentOfDigits (cs ++ [c]) =
        if exponentOfDigits cs < exponentLimit then 10 * exponentOfDigits cs + digitValue c
        else exponentOfDigits cs := by
      unfold exponentOfDigits
      rw [List.foldl_append]
      rfl
    rw [hstep, hfront, if_pos (by omega)]

/-- The double that is read is the one that attracts the number that is written, with its sign. -/
theorem form_value {n : Numeral} {b : Binary} (hb : b.Canonical) (hnegative : b.negative = false)
    (hpos : 0 < b.significand) (hattracts : b.Attracts n.magnitude)
    (hexponent : ∀ e ∈ n.exponent, ofDigits e.digits < 10 * exponentLimit) :
    form n.value = .finite ⟨n.sign.isMinus, b.significand, b.exponent⟩ := by
  have hvalue : n.exponent.elim 0 Exponent.toInt = exponentValue n.exponent := by
    cases hexp : n.exponent with
    | none => rfl
    | some e =>
      change e.toInt = e.value
      rw [Exponent.toInt, Exponent.value, exponentOfDigits_eq (hexponent e hexp)]
  rw [magnitude, hvalue] at hattracts
  have hread := standsFor_ofDecimal hb hnegative hpos hattracts
  unfold value withSign
  cases n.sign.isMinus with
  | false =>
    rw [if_neg Bool.false_ne_true, hread.form_eq, ← hnegative]
  | true =>
    rw [if_pos rfl]
    exact form_neg_of_standsFor hread

/-- The double is what a numeral is to be read as: zero if the number that is written is zero, and
otherwise the double that attracts this number, if it is not too great for that, both with the sign
that is written. An exponent tells the number as long as all of its digits count. -/
structure IsReadAs (n : Numeral) (x : Float) : Prop where
  /-- Zero has the sign that is written. -/
  zero : n.magnitude = 0 → x = withSign n.sign.isMinus 0.0
  /-- The number lies in the interval of the double. -/
  attracted : ∀ b : Binary, b.Canonical → b.negative = false → 0 < b.significand →
    b.Attracts n.magnitude → (∀ e ∈ n.exponent, ofDigits e.digits < 10 * exponentLimit) →
      form x = .finite ⟨n.sign.isMinus, b.significand, b.exponent⟩

/-- The double that is read is the nearest one to the number that is written. -/
theorem isReadAs_value (n : Numeral) : n.IsReadAs n.value := by
  refine ⟨fun hzero => ?_, fun b hb hnegative hpos hattracts hexponent =>
    form_value hb hnegative hpos hattracts hexponent⟩
  have hpower : (10 : ℚ) ^ ((n.exponent.elim 0 Exponent.toInt) -
      ((n.fraction.getD []).length : Int)) ≠ 0 := zpow_ne_zero _ (by norm_num)
  have hdigits : ofDigits (n.whole ++ n.fraction.getD []) = 0 :=
    Nat.cast_eq_zero.mp ((mul_eq_zero.mp hzero).resolve_right hpower)
  rw [value, hdigits, ofDecimal, if_pos rfl]

end Numeral

end Spreadsheet.Number
