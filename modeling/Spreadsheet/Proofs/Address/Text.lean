import Spreadsheet.Address.Qualified
import Spreadsheet.Proofs.Formula.Lexemes

/-!
# Addresses read back

The text of a cell names the cell, and with the name of its sheet in front it names the cell on that
sheet, whatever characters the name consists of, as long as there are any: the last exclamation mark
is the one that was written between the two.
-/

namespace Spreadsheet

/-- A text without white space has none to lose at its ends. -/
theorem Text.trim_eq_self {cs : List Char} (h : ∀ c ∈ cs, isBlank c = false) : trim cs = cs := by
  have hstart : ∀ cs : List Char, (∀ c ∈ cs, isBlank c = false) → cs.dropWhile isBlank = cs := by
    intro cs h
    cases cs with
    | nil => rfl
    | cons c cs => exact trimStart_cons_of_not_blank (h c List.mem_cons_self) cs
  rw [trim, trimEnd, trimStart, hstart cs h, hstart cs.reverse, List.reverse_reverse]
  exact fun c hc => h c (List.mem_reverse.mp hc)

namespace Formula

variable {letters digits : List Char}

/-- The characters of a label are letters and digits. -/
theorem LabelParts.code (h : LabelParts letters digits) :
    ∀ c ∈ letters ++ digits, 48 ≤ c.toNat ∧ c.toNat ≤ 122 := by
  intro c hc
  rcases List.mem_append.mp hc with hletter | hdigit
  · have hstarts : startsName c = true := by
      rw [startsName, show (c.isUpper || c.isLower) = true from h.isLetter c hletter, Bool.true_or]
    have hcode := code_of_startsName hstarts
    omega
  · have hcode := code_of_isDigit (h.isDigit c hdigit)
    omega

end Formula

namespace CellAddress

variable {s : String} {cs : List Char} {a : CellAddress}

/-- A label names the cell that it denotes. -/
theorem ofLabel?_eq_some_iff : ofLabel? cs = some a ↔ Formula.Labels (String.ofList cs) a := by
  unfold ofLabel? Formula.Labels
  rw [String.toList_ofList]
  constructor
  · intro h
    obtain ⟨⟨letters, digits⟩, hsplit, hbehind⟩ := Option.bind_eq_some_iff.mp h
    obtain ⟨hcs, hparts⟩ := Formula.splitLabel?_eq_some_iff.mp hsplit
    obtain ⟨col, hcol, hresult⟩ := Option.bind_eq_some_iff.mp hbehind
    rw [hparts.ofLabel?_eq] at hcol
    dsimp only at hresult
    split_ifs at hcol hresult with hlimit hrow
    cases hcol
    cases hresult
    rw [not_or, not_lt] at hrow
    exact ⟨letters, digits, hcs, hparts, rfl, hlimit, Nat.pos_of_ne_zero hrow.1, hrow.2⟩
  · rintro ⟨letters, digits, rfl, hparts, rfl, hcol, hrow, hlimit⟩
    have hinside : ¬(Number.ofDigits digits = 0 ∨ axisLimit < Number.ofDigits digits) :=
      not_or.mpr ⟨Nat.ne_of_gt hrow, not_lt.mpr hlimit⟩
    rw [hparts.splitLabel?_eq]
    change (Column.ofLabel? letters).bind _ = _
    rw [hparts.ofLabel?_eq, if_pos hcol]
    exact if_neg hinside

/-- A cell that is named by a text exists. -/
theorem inRange_of_ofText (h : ofText s = .ok a) : a.InRange := by
  unfold ofText at h
  dsimp only at h
  split at h
  · next hlabel =>
    cases h
    exact (ofLabel?_eq_some_iff.mp hlabel).inRange
  · cases h

private theorem code_of_mem_text (h : a.InRange) :
    ∀ c ∈ a.text.toList, 48 ≤ c.toNat ∧ c.toNat ≤ 122 := by
  obtain ⟨letters, digits, htext, hparts, -⟩ := Formula.labels_text h
  rw [htext]
  exact hparts.code

/-- The text of a cell that exists names it. -/
theorem ofText_text (h : a.InRange) : ofText a.text = .ok a := by
  have htrim : Text.trim a.text.toList = a.text.toList := by
    refine Text.trim_eq_self fun c hc => ?_
    have hcode := code_of_mem_text h c hc
    exact Formula.isBlank_eq_false (by omega) (by omega)
  have hlabel : ofLabel? a.text.toList = some a := by
    rw [ofLabel?_eq_some_iff, String.ofList_toList]
    exact Formula.labels_text h
  rw [ofText, htrim, hlabel]

end CellAddress

namespace QualifiedAddress

variable {cell : List Char}

private theorem splitSheet?_of_not_mem (h : '!' ∉ cell) : splitSheet? cell = none := by
  induction cell with
  | nil => rfl
  | cons c cs ih =>
    rw [List.mem_cons, not_or] at h
    rw [splitSheet?, ih h.2]
    exact if_neg (Ne.symm h.1)

/-- The last exclamation mark stands between the sheet and the cell. -/
theorem splitSheet?_append (h : '!' ∉ cell) (sheet : List Char) :
    splitSheet? (sheet ++ '!' :: cell) = some (sheet, cell) := by
  induction sheet with
  | nil =>
    rw [List.nil_append, splitSheet?, splitSheet?_of_not_mem h]
    exact if_pos rfl
  | cons c sheet ih => rw [List.cons_append, splitSheet?, ih]

/-- The text of a cell that exists names it, unless its sheet has no name. -/
theorem toOption_ofText_text {a : QualifiedAddress} (h : a.cell.InRange) :
    (ofText a.text).toOption = if a.sheet = "" then none else some a := by
  have hmark : '!' ∉ a.cell.text.toList := by
    intro hmem
    have hcode := CellAddress.code_of_mem_text h _ hmem
    exact absurd hcode (by decide)
  have htext : a.text.toList = a.sheet.toList ++ '!' :: a.cell.text.toList := by
    simp [text]
  rw [ofText, htext, splitSheet?_append hmark]
  dsimp only
  rw [String.ofList_toList, String.ofList_toList, CellAddress.ofText_text h]
  by_cases hsheet : a.sheet = ""
  · rw [hsheet]
    rfl
  · have hne : a.sheet.toList.isEmpty = false := by simpa using hsheet
    rw [hne, if_neg Bool.false_ne_true, if_neg hsheet]
    rfl

end QualifiedAddress

end Spreadsheet
