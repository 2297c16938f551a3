import Mathlib.Data.List.Infix
import Spreadsheet.Text.Case

/-!
# Lower-case forms and places

Most characters have a lower-case form of one character that depends on no other one, and then the
lower-case form of a text has its characters at the places of the text. There are two exceptions.
The dotted capital I becomes two characters, so that everything behind it moves. A capital sigma
becomes another letter at the end of a word, so that its form in a part of a text need not be that
in the text.
-/

namespace Spreadsheet.Text

variable {before front behind part text xs : List Char} {c : Char}

/-- The capital sigma, the one character whose lower-case form depends on its neighbours. -/
def capitalSigma : Char := '\u03A3'

/-- The dotted capital I in lower case. -/
def dottedSmallI : List Char := ['i', '\u0307']

/-! ## Single characters -/

/-- The lower-case form of a character that has one of a single character. -/
def lowerAlone (c : Char) : Char :=
  (lowerChar c).headD c

private theorem lowerChar_eq_lowerAlone (h : c ≠ dottedCapitalI) :
    lowerChar c = [lowerAlone c] := by
  unfold lowerAlone lowerChar
  by_cases hascii : c.toNat < 0x80
  · rw [if_pos hascii]
    rfl
  · rw [if_neg hascii, if_neg h]
    cases CaseRun.image? lowerRuns c.toNat <;> rfl

private theorem lowerAlone_capitalSigma : lowerAlone capitalSigma = '\u03C3' := by decide +kernel

/-- The lower-case form of a character between others. -/
def lowerAmid (before : List Char) (c : Char) (behind : List Char) : List Char :=
  if c = capitalSigma then [lowerSigma before behind] else lowerChar c

private theorem lowerFrom_cons (before : List Char) (c : Char) (behind : List Char) :
    lowerFrom before (c :: behind) = lowerAmid before c behind ++ lowerFrom (c :: before) behind :=
  rfl

private theorem length_lowerAmid (h : c ≠ dottedCapitalI) (before behind : List Char) :
    (lowerAmid before c behind).length = 1 := by
  rw [lowerAmid]
  split
  · rfl
  · rw [lowerChar_eq_lowerAlone h, List.length_singleton]

/-- A capital sigma that ends no word behind it takes the form that it takes by itself. -/
theorem lowerAmid_eq_lowerAlone (hdot : c ≠ dottedCapitalI)
    (hsigma : c = capitalSigma → nearestIsCased before = false) (behind : List Char) :
    lowerAmid before c behind = [lowerAlone c] := by
  rw [lowerAmid]
  split
  · next h =>
    rw [h, lowerAlone_capitalSigma, lowerSigma, hsigma h]
    rfl
  · exact lowerChar_eq_lowerAlone hdot

/-! ## Places in a text -/

/-- What is behind a front without dotted capital I keeps its place. -/
theorem exists_lowerFrom_append (h : dottedCapitalI ∉ front) (before behind : List Char) :
    ∃ lowered, lowered.length = front.length ∧
      lowerFrom before (front ++ behind) =
        lowered ++ lowerFrom (front.reverse ++ before) behind := by
  induction front generalizing before with
  | nil => exact ⟨[], rfl, rfl⟩
  | cons c front ih =>
    obtain ⟨hc, hfront⟩ := not_or.mp (mt List.mem_cons.mpr h)
    obtain ⟨lowered, hlength, hlowered⟩ := ih hfront (c :: before)
    refine ⟨lowerAmid before c (front ++ behind) ++ lowered, ?_, ?_⟩
    · rw [List.length_append, length_lowerAmid (Ne.symm hc), hlength, List.length_cons,
        Nat.add_comm]
    · rw [List.cons_append, lowerFrom_cons, hlowered, List.append_assoc, List.reverse_cons,
        List.append_assoc]
      rfl

/-- A text without dotted capital I has as many characters in lower case. -/
theorem length_lowerFrom (h : dottedCapitalI ∉ text) (before : List Char) :
    (lowerFrom before text).length = text.length := by
  obtain ⟨lowered, hlength, hlowered⟩ := exists_lowerFrom_append h before []
  rw [List.append_nil] at hlowered
  rw [hlowered, lowerFrom, List.append_nil, hlength]

/-- The first dotted capital I of a text becomes two characters at its place. -/
theorem exists_dottedSmallI (h : dottedCapitalI ∈ text) :
    ∃ front behind lowered rest, text = front ++ dottedCapitalI :: behind ∧
      lowered.length = front.length ∧ lowerFrom [] text = lowered ++ (dottedSmallI ++ rest) := by
  obtain ⟨front, behind, rfl, hfront⟩ := List.eq_append_cons_of_mem h
  obtain ⟨lowered, hlength, hlowered⟩ :=
    exists_lowerFrom_append hfront [] (dottedCapitalI :: behind)
  exact ⟨front, behind, lowered, _, rfl, hlength, hlowered⟩

/-- The form of a capital sigma is at its place. -/
theorem getElem?_lowerFrom_capitalSigma (h : dottedCapitalI ∉ front) (behind : List Char) :
    (lowerFrom [] (front ++ capitalSigma :: behind))[front.length]? =
      some (lowerSigma front.reverse behind) := by
  obtain ⟨lowered, hlength, hlowered⟩ := exists_lowerFrom_append h [] (capitalSigma :: behind)
  rw [hlowered, ← hlength, List.getElem?_append_right le_rfl, Nat.sub_self, List.append_nil]
  rfl

example : lowerFrom [] ['\u0391', '\u03A3'] = ['\u03B1', '\u03C2'] := by decide +kernel

/-! ## Texts whose characters are lowered by themselves -/

/-- A nearest character with a case is not lost by more characters behind it. -/
theorem nearestIsCased_append (h : nearestIsCased xs = true) (ys : List Char) :
    nearestIsCased (xs ++ ys) = true := by
  unfold nearestIsCased at h ⊢
  rw [List.dropWhile_append]
  cases hxs : xs.dropWhile isCaseIgnorable with
  | nil =>
    rw [hxs] at h
    cases h
  | cons c cs =>
    rw [hxs] at h
    exact h

/-- No character of the text moves others or takes another form than by itself. -/
structure LowersAlone (text : List Char) : Prop where
  /-- No dotted capital I occurs. -/
  undotted : dottedCapitalI ∉ text
  /-- No capital sigma is behind a letter with a case. -/
  initial : ∀ front behind, text = front ++ capitalSigma :: behind →
    nearestIsCased front.reverse = false

/-- A part of such a text is such a text. -/
theorem LowersAlone.of_isInfix (h : LowersAlone text) (hpart : part <:+: text) :
    LowersAlone part := by
  obtain ⟨xs, ys, rfl⟩ := hpart
  refine ⟨fun hmem => h.undotted (by simp [hmem]), ?_⟩
  rintro front behind rfl
  have hwhole := h.initial (xs ++ front) (behind ++ ys) (by simp)
  rw [List.reverse_append] at hwhole
  by_contra hcased
  rw [nearestIsCased_append (Bool.of_not_eq_false hcased)] at hwhole
  cases hwhole

private theorem lowerFrom_eq_map (hdot : dottedCapitalI ∉ text)
    (hsigma : ∀ front behind, text = front ++ capitalSigma :: behind →
      nearestIsCased (front.reverse ++ before) = false) :
    lowerFrom before text = text.map lowerAlone := by
  induction text generalizing before with
  | nil => rfl
  | cons c text ih =>
    obtain ⟨hc, htext⟩ := not_or.mp (mt List.mem_cons.mpr hdot)
    rw [lowerFrom_cons, lowerAmid_eq_lowerAlone (Ne.symm hc), ih htext, List.map_cons,
      List.singleton_append]
    · rintro front behind rfl
      simpa using hsigma (c :: front) behind rfl
    · rintro rfl
      exact hsigma [] text rfl

/-- A text of which each character lowers alone is lowered one by one. -/
theorem LowersAlone.lowerFrom_eq (h : LowersAlone text) :
    lowerFrom [] text = text.map lowerAlone :=
  lowerFrom_eq_map h.undotted fun front behind heq => by
    rw [List.append_nil]
    exact h.initial front behind heq

/-- The part from a place on is lowered as it is in the text. -/
theorem LowersAlone.lowerFrom_take_drop (h : LowersAlone text) (k n : Nat) :
    lowerFrom [] ((text.drop k).take n) = ((lowerFrom [] text).drop k).take n := by
  have hpart : (text.drop k).take n <:+: text :=
    (List.take_prefix n _).isInfix.trans (List.drop_suffix k text).isInfix
  rw [(h.of_isInfix hpart).lowerFrom_eq, h.lowerFrom_eq, ← List.map_drop, ← List.map_take]

/-- Besides, no dotted small i comes about, which is the form of the dotted capital I. -/
structure LowersSteadily (text : List Char) : Prop extends LowersAlone text where
  /-- No dotted small i occurs in the lower-case form. -/
  dotless : ¬dottedSmallI <:+: lowerFrom [] text

/-- A part whose lower-case form occurs in that of such a text is as long as its form. -/
theorem LowersSteadily.length_lowerFrom_part (h : LowersSteadily text)
    (hpart : lowerFrom [] part <:+: lowerFrom [] text) :
    (lowerFrom [] part).length = part.length := by
  refine length_lowerFrom (fun hdotted => h.dotless (.trans ?_ hpart)) []
  obtain ⟨-, -, lowered, rest, -, -, hlowered⟩ := exists_dottedSmallI hdotted
  exact ⟨lowered, rest, by rw [hlowered, List.append_assoc]⟩

/-- A text without dotted i and without sigma. -/
theorem LowersSteadily.of_notMem (hdot : dottedCapitalI ∉ text) (hsigma : capitalSigma ∉ text)
    (hdotless : ¬dottedSmallI <:+: lowerFrom [] text) : LowersSteadily text :=
  ⟨⟨hdot, fun front behind heq => absurd (heq ▸ by simp) hsigma⟩, hdotless⟩

end Spreadsheet.Text
