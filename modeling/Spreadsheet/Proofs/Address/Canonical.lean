import Spreadsheet.Address.Range
import Spreadsheet.Proofs.Address.Column
import Spreadsheet.Proofs.Address.Text

/-!
# Canonical texts of addresses

A text names a cell exactly if it is the text of the cell but for white space around it, the case of
its letters and zeros before its row. With a sheet in front, and in ranges, cells are told apart
from what surrounds them by a character that no cell is written with. So texts of addresses are read
back, and different addresses have different texts.
-/

namespace Spreadsheet

open Column (isLetter isLetter_of_mem_label)
open Number (isDigit isDigit_of_mem_toDigits ofDigits)

variable {cs front core back letters : List Char} {a b : CellAddress} {c : Char}

namespace Text

private theorem dropWhile_isBlank_append (hne : core ≠ []) (hcore : ∀ c ∈ core, isBlank c = false)
    (hfront : ∀ c ∈ front, isBlank c = true) (back : List Char) :
    (front ++ (core ++ back)).dropWhile isBlank = core ++ back := by
  obtain ⟨c, cs, rfl⟩ := List.exists_cons_of_ne_nil hne
  rw [List.dropWhile_append_of_pos hfront]
  exact trimStart_cons_of_not_blank (hcore c List.mem_cons_self) _

/-- White space around visible characters is trimmed off. -/
theorem trim_append (hne : core ≠ []) (hcore : ∀ c ∈ core, isBlank c = false)
    (hblank : ∀ c ∈ front ++ back, isBlank c = true) : trim (front ++ core ++ back) = core := by
  obtain ⟨hfront, hback⟩ := List.forall_mem_append.mp hblank
  have hturned : (core ++ back).reverse = back.reverse ++ (core.reverse ++ []) := by simp
  have hend : (back.reverse ++ (core.reverse ++ [])).dropWhile isBlank = core.reverse ++ [] :=
    dropWhile_isBlank_append (by simpa using hne) (by simpa using hcore) (by simpa using hback) []
  rw [trim, trimEnd, trimStart, List.append_assoc, dropWhile_isBlank_append hne hcore hfront,
    hturned, hend, List.append_nil, List.reverse_reverse]

/-- Only letters become letters in upper case. -/
theorem isLetter_of_upperAscii (h : Column.isLetter (upperAscii c) = true) :
    Column.isLetter c = true := by
  by_cases hsmall : 'a' ≤ c ∧ c ≤ 'z'
  · have hlower : c.isLower = true :=
      Bool.and_eq_true_iff.mpr (hsmall.imp decide_eq_true decide_eq_true)
    rw [Column.isLetter, hlower, Bool.or_true]
  · have hstays : upperAscii c = c := if_neg hsmall
    rwa [hstays] at h

end Text

namespace CellAddress

/-- The text is that of the cell but for white space around it, the case of the letters and zeros
before the row. -/
def SpelledBy (a : CellAddress) (cs : List Char) : Prop :=
  ∃ front letters zeros back,
    cs = front ++ (letters ++ (List.replicate zeros '0' ++ Nat.toDigits 10 a.row)) ++ back ∧
      (∀ c ∈ front ++ back, Text.isBlank c = true) ∧
      letters.map Text.upperAscii = Column.label a.col

/-! ## Labels of cells -/

/-- A label consists of letters and digits. -/
theorem isLetter_or_isDigit_of_mem_label (h : c ∈ a.label) :
    isLetter c = true ∨ isDigit c = true := by
  rcases List.mem_append.mp h with hletter | hdigit
  · exact .inl (isLetter_of_mem_label hletter)
  · exact .inr (isDigit_of_mem_toDigits hdigit)

private theorem not_mem_label (hletter : isLetter c = false) (hdigit : isDigit c = false) :
    c ∉ a.label := by
  intro hmem
  rcases isLetter_or_isDigit_of_mem_label hmem with h | h
  · cases hletter.symm.trans h
  · cases hdigit.symm.trans h

/-- A label is split where its digits start. -/
theorem span_label (a : CellAddress) :
    a.label.takeWhile isLetter = Column.label a.col ∧
      a.label.dropWhile isLetter = Nat.toDigits 10 a.row := by
  refine Number.takeWhile_dropWhile_append (fun _ => isLetter_of_mem_label) fun c hc => ?_
  have hdigit := isDigit_of_mem_toDigits (List.mem_of_mem_head? hc)
  by_contra hletter
  rw [Formula.not_isDigit_of_isLetter (by simpa using hletter)] at hdigit
  cases hdigit

/-- Different cells have different labels. -/
theorem label_injective : Function.Injective label := by
  intro a b h
  have hcol : Column.label a.col = Column.label b.col := by
    rw [← (span_label a).1, h, (span_label b).1]
  have hrow : Nat.toDigits 10 a.row = Nat.toDigits 10 b.row := by
    rw [← (span_label a).2, h, (span_label b).2]
  have hcol' := congrArg Column.value hcol
  have hrow' := congrArg ofDigits hrow
  rw [Column.value_label, Column.value_label] at hcol'
  rw [Number.ofDigits_toDigits, Number.ofDigits_toDigits] at hrow'
  cases a
  cases b
  rw [CellAddress.mk.injEq]
  exact ⟨hrow', hcol'⟩

/-! ## Texts that name cells -/

/-- The label of a cell is one of its spellings. -/
theorem spelledBy_label (a : CellAddress) : a.SpelledBy a.label := by
  have hcapital := Column.label_value fun _ => isLetter_of_mem_label (n := a.col)
  rw [Column.value_label] at hcapital
  exact ⟨[], Column.label a.col, 0, [], (List.append_nil _).symm, by simp, hcapital.symm⟩

/-- The digits of a row may have zeros before them. -/
theorem exists_zeros_of_digits {digits : List Char} (h : ∀ c ∈ digits, isDigit c = true)
    (hpos : 1 ≤ ofDigits digits) :
    ∃ zeros, digits = List.replicate zeros '0' ++ Nat.toDigits 10 (ofDigits digits) := by
  obtain ⟨zeros, hzeros⟩ := Number.exists_zeros_append h
  rw [if_neg (Nat.ne_of_gt hpos)] at hzeros
  exact ⟨zeros, hzeros⟩

/-- What is read as a cell spells this cell. -/
theorem spelledBy_of_ofText {s : String} (h : ofText s = .ok a) : a.SpelledBy s.toList := by
  unfold ofText at h
  dsimp only at h
  split at h
  · next hlabel =>
    cases h
    obtain ⟨letters, digits, htext, hparts, rfl, -, hrow, -⟩ := ofLabel?_eq_some_iff.mp hlabel
    obtain ⟨front, back, hcs, hblank⟩ := Text.exists_blank_append_trim s.toList
    obtain ⟨zeros, hzeros⟩ := exists_zeros_of_digits hparts.isDigit hrow
    rw [String.toList_ofList] at htext
    refine ⟨front, letters, zeros, back, ?_, hblank, (Column.label_value hparts.isLetter).symm⟩
    dsimp only
    rw [← hzeros, ← htext]
    exact hcs
  · cases h

/-- Every spelling of a cell that exists is read as this cell. -/
theorem SpelledBy.ofText_eq {s : String} (h : a.SpelledBy s.toList) (ha : a.InRange) :
    ofText s = .ok a := by
  obtain ⟨front, letters, zeros, back, hcs, hblank, hcol⟩ := h
  have hletters : ∀ c ∈ letters, isLetter c = true := by
    intro c hc
    have hmem : Text.upperAscii c ∈ Column.label a.col := hcol ▸ List.mem_map_of_mem hc
    exact Text.isLetter_of_upperAscii (isLetter_of_mem_label hmem)
  have hne : letters ≠ [] := by
    rintro rfl
    exact Column.label_ne_nil (Nat.ne_of_gt ha.col_pos) hcol.symm
  have hdigits : ∀ c ∈ List.replicate zeros '0' ++ Nat.toDigits 10 a.row, isDigit c = true :=
    List.forall_mem_append.mpr
      ⟨fun _ => Number.isDigit_of_mem_zeros, fun _ => isDigit_of_mem_toDigits⟩
  have hparts : Formula.LabelParts letters (List.replicate zeros '0' ++ Nat.toDigits 10 a.row) :=
    ⟨hne, List.append_ne_nil_of_right_ne_nil _ Nat.toDigits_ne_nil, hletters, hdigits⟩
  have hvalue : Column.value letters = a.col := by
    rw [← Column.value_label (Column.value letters), Column.label_value hletters, hcol,
      Column.value_label]
  have hrow : ofDigits (List.replicate zeros '0' ++ Nat.toDigits 10 a.row) = a.row := by
    rw [Number.ofDigits_zeros_append, Number.ofDigits_toDigits]
  have htrim : Text.trim s.toList =
      letters ++ (List.replicate zeros '0' ++ Nat.toDigits 10 a.row) := by
    rw [hcs]
    refine Text.trim_append (by simp [hne]) (fun c hc => ?_) hblank
    have hcode := hparts.code c hc
    exact Formula.isBlank_eq_false (by omega) (by omega)
  have hlabel : ofLabel? (Text.trim s.toList) = some a := by
    rw [ofLabel?_eq_some_iff, htrim]
    refine ⟨_, _, String.toList_ofList, hparts, ?_, ha.col_le, ha.row_pos, ha.row_le⟩
    rw [hvalue, hrow]
  rw [ofText, hlabel]

/-- A text names a cell exactly if the cell exists and the text is a spelling of it. -/
theorem ofText_eq_ok_iff {s : String} :
    ofText s = .ok a ↔ a.InRange ∧ a.SpelledBy s.toList :=
  ⟨fun h => ⟨inRange_of_ofText h, spelledBy_of_ofText h⟩, fun ⟨ha, h⟩ => h.ofText_eq ha⟩

end CellAddress

namespace QualifiedAddress

variable {sheet cell : List Char} {x : QualifiedAddress} {s : String}

private theorem not_mem_of_splitSheet? (h : splitSheet? cell = none) : '!' ∉ cell := by
  induction cell with
  | nil => exact List.not_mem_nil
  | cons c cs ih =>
    rw [splitSheet?] at h
    split at h
    · cases h
    · next hrest =>
      split_ifs at h with hmark
      rw [List.mem_cons, not_or]
      exact ⟨Ne.symm hmark, ih hrest⟩

/-- A text is split at its last exclamation mark. -/
theorem splitSheet?_eq_some_iff :
    splitSheet? cs = some (sheet, cell) ↔ cs = sheet ++ '!' :: cell ∧ '!' ∉ cell := by
  refine ⟨fun h => ?_, fun ⟨hcs, hcell⟩ => hcs ▸ splitSheet?_append hcell sheet⟩
  induction cs generalizing sheet with
  | nil => cases h
  | cons c cs ih =>
    rw [splitSheet?] at h
    split at h
    · next hrest =>
      cases h
      obtain ⟨rfl, hcell⟩ := ih hrest
      exact ⟨rfl, hcell⟩
    · next hrest =>
      split_ifs at h with hmark
      cases h
      exact ⟨by rw [hmark, List.nil_append], not_mem_of_splitSheet? hrest⟩

private theorem toList_text (x : QualifiedAddress) :
    x.text.toList = x.sheet.toList ++ '!' :: x.cell.label := by
  simp [text, CellAddress.text]

/-- No cell is spelled with an exclamation mark. -/
theorem not_mem_of_spelledBy (h : a.SpelledBy cell) : '!' ∉ cell := by
  obtain ⟨front, letters, zeros, back, rfl, hblank, hcol⟩ := h
  have hmark : Text.isBlank '!' = false ∧ isLetter '!' = false ∧ isDigit '!' = false := by decide
  simp only [List.mem_append, not_or]
  refine ⟨⟨fun hfront => ?_, fun hletter => ?_, fun hzero => ?_, fun hdigit => ?_⟩, fun hback => ?_⟩
  · cases hmark.1.symm.trans (hblank _ (List.mem_append_left _ hfront))
  · have hupper : Text.upperAscii '!' ∈ Column.label a.col := hcol ▸ List.mem_map_of_mem hletter
    have hmem := Text.isLetter_of_upperAscii (isLetter_of_mem_label hupper)
    cases hmark.2.1.symm.trans hmem
  · cases hmark.2.2.symm.trans (Number.isDigit_of_mem_zeros hzero)
  · cases hmark.2.2.symm.trans (isDigit_of_mem_toDigits hdigit)
  · cases hmark.1.symm.trans (hblank _ (List.mem_append_right _ hback))

/-- A text names a cell of a sheet exactly if the name of the sheet stands before an exclamation
mark and a spelling of the cell behind it. -/
theorem ofText_eq_ok_iff :
    ofText s = .ok x ↔ x.sheet ≠ "" ∧ x.cell.InRange ∧
      ∃ cell, s.toList = x.sheet.toList ++ '!' :: cell ∧ x.cell.SpelledBy cell := by
  unfold ofText
  constructor
  · intro h
    split at h
    · cases h
    · next sheet cell hsplit =>
      split_ifs at h with hempty
      split at h
      · next address hcell =>
        cases h
        obtain ⟨htext, -⟩ := splitSheet?_eq_some_iff.mp hsplit
        obtain ⟨ha, hspelled⟩ := CellAddress.ofText_eq_ok_iff.mp hcell
        rw [String.toList_ofList] at hspelled
        refine ⟨fun hnone => hempty ?_, ha, cell, ?_, hspelled⟩
        · simpa using congrArg String.toList hnone
        · rw [String.toList_ofList, htext]
      · cases h
  · rintro ⟨hsheet, ha, cell, htext, hspelled⟩
    have hempty : x.sheet.toList.isEmpty = false := by simpa using hsheet
    have hcell : CellAddress.ofText (String.ofList cell) = .ok x.cell := by
      rw [CellAddress.ofText_eq_ok_iff, String.toList_ofList]
      exact ⟨ha, hspelled⟩
    rw [splitSheet?_eq_some_iff.mpr ⟨htext, not_mem_of_spelledBy hspelled⟩]
    simp [hempty, hcell]

/-- Different addresses have different texts, even those of cells that do not exist. -/
theorem text_injective : Function.Injective text := by
  intro x y h
  have hmark : ∀ a : CellAddress, '!' ∉ a.label := fun _ =>
    CellAddress.not_mem_label (by decide) (by decide)
  have hsplit := congrArg (fun s : String => splitSheet? s.toList) h
  simp only [toList_text, splitSheet?_append (hmark _), Option.some.injEq, Prod.mk.injEq] at hsplit
  obtain ⟨hsheet, hlabel⟩ := hsplit
  cases x
  cases y
  rw [QualifiedAddress.mk.injEq]
  exact ⟨String.toList_inj.mp hsheet, CellAddress.label_injective hlabel⟩

end QualifiedAddress

namespace CellRange

/-- A text is split at its first colon. -/
theorem splitColon?_append (h : ':' ∉ front) (back : List Char) :
    splitColon? (front ++ ':' :: back) = some (front, back) := by
  induction front with
  | nil => exact if_pos rfl
  | cons c front ih =>
    rw [List.mem_cons, not_or] at h
    rw [List.cons_append, splitColon?, if_neg (Ne.symm h.1), ih h.2]
    rfl

/-- Bringing corners into order leaves them among the cells that exist. -/
theorem inRange_ofCorners (ha : a.InRange) (hb : b.InRange) :
    (ofCorners a b).first.InRange ∧ (ofCorners a b).last.InRange := by
  obtain ⟨hrow, hrow_le, hcol, hcol_le⟩ := ha
  obtain ⟨hrow', hrow_le', hcol', hcol_le'⟩ := hb
  constructor
  · constructor <;> simp [ofCorners] <;> omega
  · constructor <;> simp [ofCorners] <;> omega

/-- The corners of a block are in order. -/
theorem ofCorners_ofCorners (a b : CellAddress) :
    ofCorners (ofCorners a b).first (ofCorners a b).last = ofCorners a b := by
  simp only [ofCorners, mk.injEq, CellAddress.mk.injEq]
  omega

/-- The text of a block of cells that exist names it. -/
theorem ofText_text (ha : a.InRange) (hb : b.InRange) :
    ofText (ofCorners a b).text = .ok (ofCorners a b) := by
  obtain ⟨hfirst, hlast⟩ := inRange_ofCorners ha hb
  have hcolon : ':' ∉ (ofCorners a b).first.label :=
    CellAddress.not_mem_label (by decide) (by decide)
  have htext : (ofCorners a b).text.toList =
      (ofCorners a b).first.label ++ ':' :: (ofCorners a b).last.label := by
    simp [text, CellAddress.text]
  rw [ofText, htext, splitColon?_append hcolon]
  dsimp only
  rw [← CellAddress.text, ← CellAddress.text, CellAddress.ofText_text hfirst,
    CellAddress.ofText_text hlast]
  dsimp only
  rw [ofCorners_ofCorners]

end CellRange

/-- Texts of addresses and ranges are read back. What is accepted as an address is a spelling of its
canonical text, and different addresses have different texts. -/
theorem texts_name_addresses :
    (∀ a : CellAddress, a.InRange → CellAddress.ofText a.text = .ok a) ∧
    (∀ x : QualifiedAddress, x.cell.InRange → x.sheet ≠ "" →
      QualifiedAddress.ofText x.text = .ok x) ∧
    (∀ a b : CellAddress, a.InRange → b.InRange →
      CellRange.ofText (CellRange.ofCorners a b).text = .ok (CellRange.ofCorners a b)) ∧
    (∀ (s : String) (a : CellAddress),
      CellAddress.ofText s = .ok a ↔ a.InRange ∧ a.SpelledBy s.toList) ∧
    (∀ (s : String) (x : QualifiedAddress),
      QualifiedAddress.ofText s = .ok x ↔ x.sheet ≠ "" ∧ x.cell.InRange ∧
        ∃ cell, s.toList = x.sheet.toList ++ '!' :: cell ∧ x.cell.SpelledBy cell) ∧
    Function.Injective QualifiedAddress.text := by
  refine ⟨fun _ => CellAddress.ofText_text, fun x hcell hsheet => ?_,
    fun _ _ => CellRange.ofText_text, fun _ _ => CellAddress.ofText_eq_ok_iff,
    fun _ _ => QualifiedAddress.ofText_eq_ok_iff, QualifiedAddress.text_injective⟩
  exact QualifiedAddress.ofText_eq_ok_iff.mpr
    ⟨hsheet, hcell, x.cell.label, x.toList_text, x.cell.spelledBy_label⟩

/-- The last cell, a sheet with exclamation marks in its name and corners that are not in order. -/
theorem texts_name_addresses_extremes :
    CellAddress.ofText (⟨4294967295, 4294967295⟩ : CellAddress).text =
        .ok ⟨4294967295, 4294967295⟩ ∧
      QualifiedAddress.ofText (⟨"!a!", ⟨12, 28⟩⟩ : QualifiedAddress).text =
        .ok ⟨"!a!", ⟨12, 28⟩⟩ ∧
      CellRange.ofText (CellRange.ofCorners ⟨2, 1⟩ ⟨1, 2⟩).text = .ok ⟨⟨1, 1⟩, ⟨2, 2⟩⟩ ∧
      CellAddress.ofText " aB0012\t" = .ok ⟨12, 28⟩ := by
  obtain ⟨hcell, hqualified, hrange, haccepted, -⟩ := texts_name_addresses
  refine ⟨hcell _ (by decide), hqualified _ (by decide) (by decide),
    hrange _ _ (by decide) (by decide), (haccepted _ _).mpr ⟨by decide, ?_⟩⟩
  exact ⟨[' '], ['a', 'B'], 2, ['\t'], by decide, List.all_eq_true.mp (by decide),
    by decide +kernel⟩

end Spreadsheet
