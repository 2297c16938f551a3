import Spreadsheet.Proofs.Number.Numeral

/-!
# The longest number at the start of a text

A reader takes the parts of a number from the front of a text one after the other, each as far as it
goes. What it has taken is a numeral that cannot go on with the text behind it. A longer numeral in
front of the same text would be read in full from its first to its last character, while the reader
stops where the first one does: the numeral that is taken is the longest one.
-/

namespace Spreadsheet.Number

/-! ## A reader of whole texts -/

/-- The exponent at the front and the text behind it, zero and all of the text if there is none. -/
def splitExponent : List Char → Int × List Char
  | c :: cs =>
    if c = 'e' ∨ c = 'E' then
      let (negative, behind) := takeSign cs
      let (digits, rest) := takeDigits behind
      if digits.isEmpty then (0, c :: cs)
      else (if negative then -(exponentOfDigits digits : Int) else exponentOfDigits digits, rest)
    else (0, c :: cs)
  | [] => (0, [])

/-- The number at the front and the text behind it. -/
def read? (cs : List Char) : Option (Float × List Char) :=
  let (negative, cs) := takeSign cs
  let (whole, cs) := takeDigits cs
  let (fraction, cs) := takeFraction cs
  if whole.isEmpty && fraction.isEmpty then none
  else
    let (exponent, cs) := splitExponent cs
    some (withSign negative
      (ofDecimal (ofDigits (whole ++ fraction)) (exponent - (fraction.length : Int))), cs)

/-- The number that a text is from its first to its last character. Words for infinite numbers are
no numerals and are left aside. -/
def parse? (cs : List Char) : Option Float :=
  match read? cs with
  | some (x, []) => some x
  | _ => none

private theorem takeExponent_eq (cs : List Char) : takeExponent cs = (splitExponent cs).1 := by
  cases cs with
  | nil => rfl
  | cons c cs =>
    unfold takeExponent splitExponent
    dsimp only
    by_cases hempty : (takeDigits (takeSign cs).2).1.isEmpty = true
    · have hzero : exponentOfDigits (takeDigits (takeSign cs).2).1 = 0 := by
        rw [List.isEmpty_iff.mp hempty]
        rfl
      simp [hempty, hzero]
    · rw [if_neg hempty]
      split_ifs <;> rfl

/-- The number that a text starts with is the one that is read from it. -/
theorem leadingOfTrimmed_eq_map (cs : List Char) :
    leadingOfTrimmed cs = (read? cs).map Prod.fst := by
  unfold leadingOfTrimmed read?
  simp only [takeExponent_eq]
  split_ifs <;> rfl

/-- A text starts with no number if it has no digit before the point nor behind it. -/
theorem leadingOfTrimmed_eq_none_iff (cs : List Char) :
    leadingOfTrimmed cs = none ↔ (takeDigits (takeSign cs).2).1 = [] ∧
      (takeFraction (takeDigits (takeSign cs).2).2).1 = [] := by
  have hempty : leadingOfTrimmed cs = none ↔ ((takeDigits (takeSign cs).2).1.isEmpty &&
      (takeFraction (takeDigits (takeSign cs).2).2).1.isEmpty) = true := by
    unfold leadingOfTrimmed
    simp only [ite_eq_left_iff, reduceCtorEq, imp_false, not_not]
  rw [hempty, Bool.and_eq_true, List.isEmpty_iff, List.isEmpty_iff]

/-! ## Where the parts of a number end -/

/-- Digits cannot go on with the text. -/
def EndsDigits (rest : List Char) : Prop :=
  ∀ c ∈ rest.head?, isDigit c = false

/-- The digits behind the point cannot go on with the text, nor can a point that is missing. -/
def EndsFraction : Option (List Char) → List Char → Prop
  | none, rest => rest.head? ≠ some '.'
  | some _, rest => EndsDigits rest

/-- The digits of the exponent cannot go on with the text, nor can an exponent that is missing. -/
def EndsExponent : Option Exponent → List Char → Prop
  | none, rest => ∀ e : Exponent, ¬e.text <+: rest
  | some _, rest => EndsDigits rest

open Numeral (pointText exponentText exponentValue)

/-- No part of the numeral can go on with the text. -/
structure Numeral.EndsBefore (n : Numeral) (rest : List Char) : Prop where
  /-- The digits before the point end. -/
  whole : EndsDigits (pointText n.fraction ++ (exponentText n.exponent ++ rest))
  /-- The digits behind the point end, or no point follows. -/
  fraction : EndsFraction n.fraction (exponentText n.exponent ++ rest)
  /-- The digits of the exponent end, or no exponent follows. -/
  exponent : EndsExponent n.exponent rest

section Parts

variable {cs rest left : List Char}

/-- Digits are taken in full if they end there. -/
theorem takeDigits_append_of_ends (hdigits : ∀ c ∈ cs, isDigit c = true) (hrest : EndsDigits rest) :
    takeDigits (cs ++ rest) = (cs, rest) := by
  obtain ⟨hfront, hbehind⟩ := takeWhile_dropWhile_append hdigits hrest
  exact Prod.ext hfront hbehind

private theorem endsDigits_takeDigits (cs : List Char) : EndsDigits (takeDigits cs).2 := by
  intro c hc
  have hhead := List.head?_dropWhile_not isDigit cs
  rw [takeDigits] at hc
  rw [Option.mem_def.mp hc] at hhead
  simpa using hhead

/-- A sign is taken if no other one follows. -/
theorem takeSign_append (sign : SignMark) (h : ∀ c ∈ cs.head?, c ≠ '+' ∧ c ≠ '-') :
    takeSign (sign.text ++ cs) = (sign.isMinus, cs) := by
  cases sign with
  | absent =>
    cases cs with
    | nil => rfl
    | cons c cs =>
      obtain ⟨hplus, hminus⟩ := h c rfl
      simp [SignMark.text, SignMark.isMinus, takeSign, hplus, hminus]
  | plus => rfl
  | minus => rfl

/-- What is taken as a sign is a sign. -/
theorem exists_takeSign (cs : List Char) :
    ∃ sign : SignMark, cs = sign.text ++ (takeSign cs).2 ∧ (takeSign cs).1 = sign.isMinus := by
  unfold takeSign
  split
  · exact ⟨.plus, rfl, rfl⟩
  · exact ⟨.minus, rfl, rfl⟩
  · exact ⟨.absent, rfl, rfl⟩

/-- A fraction is taken in full if it ends there. -/
theorem takeFraction_append {fraction : Option (List Char)}
    (hdigits : ∀ c ∈ fraction.getD [], isDigit c = true) (h : EndsFraction fraction rest) :
    takeFraction (pointText fraction ++ rest) = (fraction.getD [], rest) := by
  cases fraction with
  | none =>
    rw [pointText, List.nil_append, takeFraction]
    · rfl
    · rintro tail rfl
      exact h rfl
  | some digits => exact takeDigits_append_of_ends hdigits h

private theorem exists_takeFraction (cs : List Char) :
    ∃ fraction, cs = pointText fraction ++ (takeFraction cs).2 ∧
      (∀ c ∈ fraction.getD [], isDigit c = true) ∧
      (takeFraction cs).1 = fraction.getD [] ∧ EndsFraction fraction (takeFraction cs).2 := by
  unfold takeFraction
  split
  next cs =>
    refine ⟨some (takeDigits cs).1, ?_, fun c => isDigit_of_mem_takeDigits, rfl,
      endsDigits_takeDigits cs⟩
    rw [pointText, List.cons_append, takeDigits_append]
  next hpoint =>
    refine ⟨none, rfl, List.forall_mem_nil _, rfl, fun hhead => ?_⟩
    obtain ⟨tail, htail⟩ := List.head?_eq_some_iff.mp hhead
    exact hpoint tail htail

/-- A sign is taken from in front of digits. -/
theorem takeSign_digits (sign : SignMark) (hdigits : ∀ c ∈ cs, isDigit c = true) (hne : cs ≠ []) :
    takeSign (sign.text ++ (cs ++ rest)) = (sign.isMinus, cs ++ rest) := by
  refine takeSign_append sign fun c hc => ?_
  rw [List.head?_append_of_ne_nil _ hne] at hc
  have hdigit := hdigits c (List.mem_of_mem_head? hc)
  constructor <;> rintro rfl <;> cases hdigit

private theorem takeDigits_ne_nil (hdigits : ∀ c ∈ cs, isDigit c = true) (hne : cs ≠ []) :
    (takeDigits (cs ++ rest)).1 ≠ [] := by
  obtain ⟨c, cs, rfl⟩ := List.exists_cons_of_ne_nil hne
  simp [takeDigits, hdigits c List.mem_cons_self]

/-- An exponent is taken in full if its digits end there. -/
theorem splitExponent_text (e : Exponent) (h : EndsDigits rest) :
    splitExponent (e.text ++ rest) = (e.value, rest) := by
  have hempty : e.digits.isEmpty = false := List.isEmpty_eq_false_iff.mpr e.digits_ne
  rw [Exponent.text, List.cons_append, List.append_assoc, splitExponent, if_pos e.mark_eq,
    takeSign_digits e.sign e.isDigit e.digits_ne]
  dsimp only
  rw [takeDigits_append_of_ends e.isDigit h]
  dsimp only
  rw [hempty, if_neg Bool.false_ne_true, Exponent.value]

/-- A letter without digits behind it starts no exponent. -/
theorem not_startsWith_text {c : Char} (h : (takeDigits (takeSign cs).2).1 = []) (e : Exponent) :
    ¬e.text <+: c :: cs := by
  rintro ⟨left, hleft⟩
  rw [Exponent.text, List.cons_append, List.append_assoc] at hleft
  rw [← (List.cons.inj hleft).2, takeSign_digits e.sign e.isDigit e.digits_ne] at h
  exact takeDigits_ne_nil e.isDigit e.digits_ne h

/-- Either an exponent is at the front and its digits end, or none is. -/
theorem splitExponent_cases (cs : List Char) :
    (∃ e : Exponent, ∃ rest, cs = e.text ++ rest ∧ EndsDigits rest) ∨
      (∀ e : Exponent, ¬e.text <+: cs) ∧ splitExponent cs = (0, cs) := by
  cases cs with
  | nil => exact .inr ⟨fun e he => List.cons_ne_nil _ _ (List.prefix_nil.mp he), rfl⟩
  | cons c cs =>
    by_cases hmark : c = 'e' ∨ c = 'E'
    · by_cases hempty : (takeDigits (takeSign cs).2).1 = []
      · refine .inr ⟨not_startsWith_text hempty, ?_⟩
        simp [splitExponent, hempty]
      · obtain ⟨sign, hcs, -⟩ := exists_takeSign cs
        refine .inl ⟨⟨c, sign, _, hmark, hempty, fun d => isDigit_of_mem_takeDigits⟩,
          (takeDigits (takeSign cs).2).2, ?_, endsDigits_takeDigits _⟩
        rw [Exponent.text, List.cons_append, List.append_assoc, takeDigits_append, ← hcs]
    · refine .inr ⟨fun e he => ?_, if_neg hmark⟩
      obtain ⟨left, hleft⟩ := he
      exact hmark ((List.cons.inj hleft).1 ▸ e.mark_eq)

/-- An exponent that may be missing is taken in full if it ends there. -/
theorem splitExponent_append {exponent : Option Exponent} (h : EndsExponent exponent rest) :
    splitExponent (exponentText exponent ++ rest) = (exponentValue exponent, rest) := by
  cases exponent with
  | none =>
    rcases splitExponent_cases rest with ⟨e, left, rfl, -⟩ | ⟨-, hsplit⟩
    · exact absurd (List.prefix_append _ _) (h e)
    · exact hsplit
  | some e => exact splitExponent_text e h

/-- Every text starts with an exponent that may be missing and that ends there. -/
theorem exists_exponent (cs : List Char) :
    ∃ exponent rest, cs = exponentText exponent ++ rest ∧ EndsExponent exponent rest := by
  rcases splitExponent_cases cs with ⟨e, rest, hcs, hrest⟩ | ⟨hnone, -⟩
  · exact ⟨some e, rest, hcs, hrest⟩
  · exact ⟨none, cs, rfl, hnone⟩

end Parts

/-! ## The longest numeral -/

variable {n m : Numeral} {cs rest left : List Char}

/-- The body of a numeral starts with a digit or the point. -/
theorem Numeral.takeSign_text (n : Numeral) (rest : List Char) :
    takeSign (n.text ++ rest) = (n.sign.isMinus,
      n.whole ++ (pointText n.fraction ++ (exponentText n.exponent ++ rest))) := by
  have htext : n.text ++ rest =
      n.sign.text ++ (n.whole ++ (pointText n.fraction ++ (exponentText n.exponent ++ rest))) := by
    simp [text]
  rw [htext]
  by_cases hwhole : n.whole = []
  · have hne := n.digits_ne
    rw [hwhole]
    cases hfraction : n.fraction with
    | none =>
      rw [hwhole, hfraction] at hne
      exact absurd rfl hne
    | some fraction =>
      refine takeSign_append n.sign fun c hc => ?_
      obtain rfl : '.' = c := Option.some.inj hc
      decide
  · exact takeSign_digits n.sign (List.forall_mem_append.mp n.isDigit).1 hwhole

/-- A numeral is read in full, and nothing behind it. -/
theorem Numeral.EndsBefore.read?_eq (h : n.EndsBefore rest) :
    read? (n.text ++ rest) = some (n.value, rest) := by
  obtain ⟨hwhole, hfraction⟩ := List.forall_mem_append.mp n.isDigit
  have hempty : (n.whole.isEmpty && (n.fraction.getD []).isEmpty) = false := by
    have hne := n.digits_ne
    rw [ne_eq, List.append_eq_nil_iff] at hne
    simpa using hne
  unfold read?
  rw [n.takeSign_text]
  dsimp only
  rw [takeDigits_append_of_ends hwhole h.whole]
  dsimp only
  rw [takeFraction_append hfraction h.fraction]
  dsimp only
  rw [hempty, splitExponent_append h.exponent]
  rfl

/-- A numeral in front of something that cannot go on with it is the number of the text. -/
theorem Numeral.EndsBefore.leadingOfTrimmed_eq (h : n.EndsBefore rest) :
    leadingOfTrimmed (n.text ++ rest) = some n.value := by
  rw [leadingOfTrimmed_eq_map, h.read?_eq, Option.map_some]

private theorem endsDigits_exponentText (exponent : Option Exponent) (h : EndsDigits rest) :
    EndsDigits (exponentText exponent ++ rest) := by
  cases exponent with
  | none => exact h
  | some e =>
    intro c hc
    obtain rfl : e.mark = c := Option.some.inj hc
    rcases e.mark_eq with hmark | hmark <;> rw [hmark] <;> rfl

/-- No numeral can go on with a character that is neither a digit nor the point nor the letter of an
exponent. -/
theorem Numeral.endsBefore_of_head (n : Numeral)
    (h : ∀ c ∈ rest.head?, Number.isDigit c = false ∧ c ≠ '.' ∧ c ≠ 'e' ∧ c ≠ 'E') :
    n.EndsBefore rest := by
  have hdigits : EndsDigits rest := fun c hc => (h c hc).1
  refine ⟨?_, ?_, ?_⟩
  · cases n.fraction with
    | none => exact endsDigits_exponentText n.exponent hdigits
    | some fraction =>
      intro c hc
      obtain rfl : '.' = c := Option.some.inj hc
      rfl
  · cases n.fraction with
    | some fraction => exact endsDigits_exponentText n.exponent hdigits
    | none =>
      cases n.exponent with
      | none => exact fun hhead => (h '.' hhead).2.1 rfl
      | some e =>
        intro hhead
        have hmark : e.mark = '.' := Option.some.inj hhead
        rcases e.mark_eq with heq | heq <;> rw [heq] at hmark <;> cases hmark
  · cases n.exponent with
    | some e => exact hdigits
    | none =>
      rintro e ⟨left, rfl⟩
      obtain ⟨-, -, hsmall, hlarge⟩ := h e.mark rfl
      exact e.mark_eq.elim hsmall hlarge

/-- A numeral that stands alone is read in full. -/
theorem Numeral.read?_text (n : Numeral) : read? n.text = some (n.value, []) := by
  have hends : n.EndsBefore [] := n.endsBefore_of_head fun c hc => nomatch hc
  rw [← hends.read?_eq, List.append_nil]

/-- What cannot go on with a text cannot go on with less of it. -/
theorem Numeral.EndsBefore.of_isPrefix (h : n.EndsBefore rest) (hleft : left <+: rest) :
    n.EndsBefore left := by
  obtain ⟨behind, rfl⟩ := hleft
  obtain ⟨hwhole, hfraction, hexponent⟩ := h
  simp only [← List.append_assoc] at hwhole hfraction
  refine ⟨?_, ?_, ?_⟩
  · rw [← List.append_assoc]
    exact fun c hc => hwhole c (List.mem_head?_append_of_mem_head? hc)
  · generalize n.fraction = fraction at hfraction ⊢
    cases fraction with
    | none => exact fun hhead => hfraction (List.mem_head?_append_of_mem_head? hhead)
    | some fraction => exact fun c hc => hfraction c (List.mem_head?_append_of_mem_head? hc)
  · generalize n.exponent = exponent at hexponent ⊢
    cases exponent with
    | none => exact fun e he => hexponent e (he.trans (List.prefix_append _ _))
    | some e => exact fun c hc => hexponent c (List.mem_head?_append_of_mem_head? hc)

/-- Whatever number a text starts with is written in front as a numeral that cannot go on. -/
theorem exists_endsBefore (h : leadingOfTrimmed cs ≠ none) :
    ∃ n : Numeral, ∃ rest, cs = n.text ++ rest ∧ n.EndsBefore rest := by
  obtain ⟨sign, hsign, -⟩ := exists_takeSign cs
  have hwhole := takeDigits_append (takeSign cs).2
  have hwhole_ends := endsDigits_takeDigits (takeSign cs).2
  obtain ⟨fraction, hfraction, hdigits, htaken, hfraction_ends⟩ :=
    exists_takeFraction (takeDigits (takeSign cs).2).2
  obtain ⟨exponent, rest, hexponent, hexponent_ends⟩ :=
    exists_exponent (takeFraction (takeDigits (takeSign cs).2).2).2
  have hne : (takeDigits (takeSign cs).2).1 ++ fraction.getD [] ≠ [] := by
    intro hnil
    obtain ⟨hwhole_nil, hfraction_nil⟩ := List.append_eq_nil_iff.mp hnil
    exact h ((leadingOfTrimmed_eq_none_iff cs).mpr ⟨hwhole_nil, htaken.trans hfraction_nil⟩)
  rw [hexponent] at hfraction hfraction_ends
  rw [hfraction] at hwhole hwhole_ends
  refine ⟨⟨sign, _, fraction, exponent, List.forall_mem_append.mpr
    ⟨fun c => isDigit_of_mem_takeDigits, hdigits⟩, hne⟩, rest, ?_, hwhole_ends, hfraction_ends,
    hexponent_ends⟩
  rw [Numeral.text, List.append_assoc, List.append_assoc, List.append_assoc, hwhole, ← hsign]

/-- The texts that are numbers from their first to their last character are those of numerals. -/
theorem parse?_eq_some_iff {x : Float} :
    parse? cs = some x ↔ ∃ n : Numeral, cs = n.text ∧ n.value = x := by
  constructor
  · intro h
    have hread : read? cs = some (x, []) := by
      unfold parse? at h
      split at h
      next y hread =>
        cases h
        exact hread
      next => cases h
    have hnumber : leadingOfTrimmed cs ≠ none := by
      rw [leadingOfTrimmed_eq_map, hread]
      exact Option.some_ne_none x
    obtain ⟨n, rest, rfl, hends⟩ := exists_endsBefore hnumber
    rw [hends.read?_eq] at hread
    obtain ⟨hvalue, hrest⟩ := Prod.mk.inj (Option.some.inj hread)
    exact ⟨n, by rw [hrest, List.append_nil], hvalue⟩
  · rintro ⟨n, rfl, rfl⟩
    rw [parse?, n.read?_text]

/-- Of two numerals in front of a text, the one that cannot go on is the longer one. -/
theorem Numeral.EndsBefore.length_le (h : n.EndsBefore rest) (hm : m.text <+: n.text ++ rest) :
    m.text.length ≤ n.text.length := by
  have hn : n.text <+: n.text ++ rest := List.prefix_append n.text rest
  rcases List.prefix_or_prefix_of_prefix hm hn with hle | ⟨left, hleft⟩
  · exact hle.length_le
  · have hfront : left <+: rest := by
      rwa [← hleft, List.prefix_append_right_inj] at hm
    have hread := (h.of_isPrefix hfront).read?_eq
    rw [hleft, m.read?_text] at hread
    have hnil : left = [] := (Prod.mk.inj (Option.some.inj hread)).2.symm
    rw [← hleft, hnil, List.append_nil]

/-- The text is a prefix with the form of a number, and no longer prefix has it. -/
structure IsLongestNumeral (cs p : List Char) : Prop where
  /-- It is a prefix. -/
  isPrefix : p <+: cs
  /-- It has the form of a number. -/
  isNumeral : p ∈ Grammar.numeral.matches'
  /-- No longer prefix has it. -/
  length_le : ∀ q, q <+: cs → q ∈ Grammar.numeral.matches' → q.length ≤ p.length

/-- What starts with a numeral starts with a number. -/
theorem leadingOfTrimmed_ne_none (n : Numeral) (rest : List Char) :
    leadingOfTrimmed (n.text ++ rest) ≠ none := by
  obtain ⟨hwhole, hfraction⟩ := List.forall_mem_append.mp n.isDigit
  rw [ne_eq, leadingOfTrimmed_eq_none_iff, n.takeSign_text]
  rintro ⟨hwhole_nil, hfraction_nil⟩
  have hempty : n.whole = [] := by
    by_contra hne
    exact takeDigits_ne_nil hwhole hne hwhole_nil
  have hne := n.digits_ne
  rw [hempty] at hne hfraction_nil
  generalize n.fraction = fraction at hne hfraction hfraction_nil
  cases fraction with
  | none => exact hne rfl
  | some fraction => exact takeDigits_ne_nil hfraction hne hfraction_nil

/-- A text starts with a number exactly if it starts with a numeral, behind white space. The number
is the value of the longest one, which a reader of whole texts reads without failing, and it is the
double nearest to what this numeral denotes. -/
theorem leading_eq_longest (s : String) :
    (leading s = none ↔
      ∀ p, p <+: Text.trimStart s.toList → p ∉ Grammar.numeral.matches') ∧
    (leading s ≠ none →
      ∃ n : Numeral, IsLongestNumeral (Text.trimStart s.toList) n.text ∧
        parse? n.text = some n.value ∧ n.IsReadAs n.value ∧ leading s = some n.value) := by
  unfold leading
  generalize Text.trimStart s.toList = cs
  refine ⟨⟨?_, ?_⟩, ?_⟩
  · rintro hnone p ⟨rest, rfl⟩ hp
    obtain ⟨n, rfl⟩ := Numeral.mem_numeral.mp hp
    exact leadingOfTrimmed_ne_none n rest hnone
  · intro hall
    by_contra hsome
    obtain ⟨n, rest, rfl, -⟩ := exists_endsBefore hsome
    exact hall n.text (List.prefix_append _ _) (Numeral.mem_numeral.mpr ⟨n, rfl⟩)
  · intro hsome
    obtain ⟨n, rest, rfl, hends⟩ := exists_endsBefore hsome
    refine ⟨n, ⟨List.prefix_append _ _, Numeral.mem_numeral.mpr ⟨n, rfl⟩, ?_⟩,
      parse?_eq_some_iff.mpr ⟨n, rfl, rfl⟩, n.isReadAs_value, ?_⟩
    · intro q hq hnumeral
      obtain ⟨m, rfl⟩ := Numeral.mem_numeral.mp hnumeral
      exact hends.length_le hq
    · exact hends.leadingOfTrimmed_eq

end Spreadsheet.Number
