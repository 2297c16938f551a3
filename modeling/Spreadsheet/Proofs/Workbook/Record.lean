import Mathlib.Tactic.SplitIfs
import Mathlib.Tactic.Tauto
import Spreadsheet.Workbook.Basic

/-!
# Records of a workbook

Every address has a record, blank as long as nothing was recorded for it, so that what an operation
does can be said without asking whether a record was there before. Sheets of different names do not
hide each other.
-/

namespace Spreadsheet

namespace AddressSet

variable {s : AddressSet} {a b : QualifiedAddress}

/-- A set with a new cell has this cell and those that it had. -/
theorem mem_insert : a ∈ s.insert b ↔ b = a ∨ a ∈ s := by
  simp [Std.ExtTreeSet.mem_insert]

/-- A cell is kept exactly if it is there and passes the test. -/
theorem mem_filter {p : QualifiedAddress → Bool} : a ∈ s.filter p ↔ a ∈ s ∧ p a = true := by
  rw [← Std.ExtTreeSet.mem_toList, Std.ExtTreeSet.toList_filter, List.mem_filter,
    Std.ExtTreeSet.mem_toList]

/-- A set lists its cells once each. -/
theorem nodup_toList (s : AddressSet) : s.toList.Nodup := by
  refine s.distinct_toList.imp fun hne heq => ?_
  subst heq
  exact hne Std.ReflCmp.compare_self

end AddressSet

/-- A record with a formula is not blank. -/
theorem Cell.ne_blank_of_isFormula {c : Cell} (h : c.isFormula = true) : c ≠ .blank := by
  rintro rfl
  cases h

namespace Workbook

/-- The record at an address, blank if there is none. -/
def record (wb : Workbook) (a : QualifiedAddress) : Cell :=
  (wb.cell? a).getD .blank

/-- A sheet of the workbook keeps a record for an address. -/
def HasRecord (wb : Workbook) (a : QualifiedAddress) (c : Cell) : Prop :=
  ∃ sheet ∈ wb.sheets, sheet.name = a.sheet ∧ sheet.cell? a.cell = some c

/-- The record of a cell that has one. -/
theorem record_of_cell? {wb : Workbook} {a : QualifiedAddress} {c : Cell}
    (h : wb.cell? a = some c) : wb.record a = c := by
  simp [record, h]

/-- A cell without a record counts as blank. -/
theorem record_of_cell?_none {wb : Workbook} {a : QualifiedAddress} (h : wb.cell? a = none) :
    wb.record a = .blank := by
  simp [record, h]

/-- A new workbook has no records. -/
theorem cell?_ofName (first : String) (a : QualifiedAddress) : (ofName first).cell? a = none := by
  refine Option.bind_eq_none_iff.mpr fun sheet hfound => ?_
  obtain rfl := List.mem_singleton.mp (List.mem_of_find?_eq_some hfound)
  exact Sheet.cell?_blank _ _

/-- In a new workbook all cells are blank. -/
theorem record_ofName (first : String) (a : QualifiedAddress) : (ofName first).record a = .blank :=
  record_of_cell?_none (cell?_ofName first a)

/-- What a cell reads stands in its record. -/
theorem dependenciesOf_eq (wb : Workbook) (a : QualifiedAddress) :
    wb.dependenciesOf a = (wb.record a).dependencies := by
  cases h : wb.cell? a <;> simp [dependenciesOf, record, h, Cell.blank, Cell.ofValue]

/-- What reads a cell stands in the record of the cell. -/
theorem dependentsOf_eq (wb : Workbook) (a : QualifiedAddress) :
    wb.dependentsOf a = (wb.record a).dependents := by
  cases h : wb.cell? a <;> simp [dependentsOf, record, h, Cell.blank, Cell.ofValue]

/-- A cell that reads something has a record that says so. -/
theorem mem_dependenciesOf_iff {wb : Workbook} {a b : QualifiedAddress} :
    b ∈ wb.dependenciesOf a ↔ ∃ c, wb.cell? a = some c ∧ b ∈ c.dependencies := by
  cases h : wb.cell? a <;> simp [dependenciesOf, h]

/-- A cell that is read has a record that says so. -/
theorem mem_dependentsOf_iff {wb : Workbook} {a b : QualifiedAddress} :
    b ∈ wb.dependentsOf a ↔ ∃ c, wb.cell? a = some c ∧ b ∈ c.dependents := by
  cases h : wb.cell? a <;> simp [dependentsOf, h]

/-- Records are found on sheets that exist. -/
theorem hasSheet_of_cell? {wb : Workbook} {a : QualifiedAddress} {c : Cell}
    (h : wb.cell? a = some c) : wb.hasSheet a.sheet = true := by
  obtain ⟨sheet, hs, -⟩ := Option.bind_eq_some_iff.mp h
  simp [hasSheet, hs]

/-- Where something other than a blank record is found, there is a record. -/
theorem exists_cell?_of_record_ne_blank {wb : Workbook} {a : QualifiedAddress}
    (h : wb.record a ≠ .blank) : ∃ c, wb.cell? a = some c := by
  cases hc : wb.cell? a with
  | none => exact absurd (record_of_cell?_none hc) h
  | some c => exact ⟨c, rfl⟩

/-- An address with a formula, a dependency or a reader is on a sheet that exists. -/
theorem hasSheet_of_record_ne_blank {wb : Workbook} {a : QualifiedAddress}
    (h : wb.record a ≠ .blank) : wb.hasSheet a.sheet = true := by
  obtain ⟨c, hc⟩ := exists_cell?_of_record_ne_blank h
  exact hasSheet_of_cell? hc

/-- A record with a formula is found among the formulas of its sheet. -/
theorem mem_formulaCells {wb : Workbook} {a : QualifiedAddress}
    (hf : (wb.record a).isFormula = true) :
    a ∈ wb.formulaCells := by
  obtain ⟨c, hc⟩ := exists_cell?_of_record_ne_blank (Cell.ne_blank_of_isFormula hf)
  rw [record_of_cell? hc] at hf
  obtain ⟨sheet, hs, hcell⟩ := Option.bind_eq_some_iff.mp hc
  have hname : sheet.name = a.sheet := by simpa using List.find?_some hs
  have hmem : (a.cell, c) ∈ sheet.records :=
    Std.ExtTreeMap.mem_toList_iff_getElem?_eq_some.mpr hcell
  refine List.mem_flatMap.mpr ⟨sheet, List.mem_of_find?_eq_some hs, ?_⟩
  refine List.mem_map.mpr ⟨a.cell, List.mem_map.mpr ⟨_, List.mem_filter.mpr ⟨hmem, hf⟩, rfl⟩, ?_⟩
  rw [hname]

/-! ## Sheets of different names -/

/-- Among sheets of different names, the first one of a name is the only one. -/
theorem find?_eq_some_iff_of_nodup {sheets : List Sheet} (hn : (sheets.map Sheet.name).Nodup)
    {name : String} {sheet : Sheet} :
    sheets.find? (fun s => s.name == name) = some sheet ↔ sheet ∈ sheets ∧ sheet.name = name := by
  induction sheets with
  | nil => simp
  | cons s sheets ih =>
    rw [List.map_cons, List.nodup_cons] at hn
    by_cases hs : s.name = name
    · subst hs
      constructor
      · intro h
        have he : s = sheet := by simpa using h
        subst he
        exact ⟨List.mem_cons_self, rfl⟩
      · rintro ⟨hm, he⟩
        rcases List.mem_cons.mp hm with rfl | hm
        · simp
        · exact absurd (he ▸ List.mem_map_of_mem hm) hn.1
    · rw [List.find?_cons_of_neg (by simpa using hs), ih hn.2, List.mem_cons]
      constructor
      · rintro ⟨hm, he⟩
        exact ⟨Or.inr hm, he⟩
      · rintro ⟨rfl | hm, he⟩
        · exact absurd he hs
        · exact ⟨hm, he⟩

/-- Where sheets have different names, no record is hidden behind another. -/
theorem cell?_eq_some_iff {wb : Workbook} (hn : wb.sheetNames.Nodup) {a : QualifiedAddress}
    {c : Cell} : wb.cell? a = some c ↔ wb.HasRecord a c := by
  simp only [cell?, sheet?, Option.bind_eq_some_iff, HasRecord]
  constructor
  · rintro ⟨sheet, hs, hc⟩
    obtain ⟨hm, he⟩ := (find?_eq_some_iff_of_nodup hn).mp hs
    exact ⟨sheet, hm, he, hc⟩
  · rintro ⟨sheet, hm, he, hc⟩
    exact ⟨sheet, (find?_eq_some_iff_of_nodup hn).mpr ⟨hm, he⟩, hc⟩

/-- Where the names of the sheets are the same, the same sheets exist. -/
theorem hasSheet_congr {wb wb' : Workbook} (h : wb'.sheetNames = wb.sheetNames) (name : String) :
    wb'.hasSheet name = wb.hasSheet name := by
  rw [Bool.eq_iff_iff, hasSheet_iff, hasSheet_iff, h]

/-! ## Changes of one record -/

/-- Making or changing a record, which takes a sheet to have it on. -/
theorem record_update (wb : Workbook) (a b : QualifiedAddress) (f : Cell → Cell) :
    (wb.update a f).record b =
      if a = b ∧ wb.hasSheet a.sheet = true then f (wb.record b) else wb.record b := by
  unfold record
  rw [cell?_update]
  by_cases hb : a = b
  · subst hb
    cases wb.hasSheet a.sheet <;> simp
  · simp [hb]

/-- Making or changing a record on a sheet that exists. -/
theorem record_update_of_hasSheet {wb : Workbook} {a : QualifiedAddress}
    (h : wb.hasSheet a.sheet = true) (b : QualifiedAddress) (f : Cell → Cell) :
    (wb.update a f).record b = if a = b then f (wb.record b) else wb.record b := by
  rw [record_update]
  simp only [h, and_true]

/-- Changing a record if it is there, in a way that leaves blank records alone. -/
theorem record_adjust (wb : Workbook) (a b : QualifiedAddress) {f : Cell → Cell}
    (hf : f .blank = .blank) :
    (wb.adjust a f).record b = if a = b then f (wb.record b) else wb.record b := by
  unfold record
  rw [cell?_adjust]
  by_cases hb : a = b
  · subst hb
    cases wb.cell? a <;> simp [hf]
  · simp [hb]

/-- The same sheets exist after a record was updated. -/
@[simp] theorem hasSheet_update (wb : Workbook) (a : QualifiedAddress) (f : Cell → Cell)
    (name : String) : (wb.update a f).hasSheet name = wb.hasSheet name :=
  hasSheet_alter wb a _ name

/-- The same sheets exist after a record was adjusted. -/
@[simp] theorem hasSheet_adjust (wb : Workbook) (a : QualifiedAddress) (f : Cell → Cell)
    (name : String) : (wb.adjust a f).hasSheet name = wb.hasSheet name :=
  hasSheet_alter wb a _ name

/-- The sheets stay when a record is updated. -/
@[simp] theorem sheetNames_update (wb : Workbook) (a : QualifiedAddress) (f : Cell → Cell) :
    (wb.update a f).sheetNames = wb.sheetNames :=
  sheetNames_alter wb a _

/-- The sheets stay when a record is adjusted. -/
@[simp] theorem sheetNames_adjust (wb : Workbook) (a : QualifiedAddress) (f : Cell → Cell) :
    (wb.adjust a f).sheetNames = wb.sheetNames :=
  sheetNames_alter wb a _

/-! ## A sheet more -/

/-- The workbook with an empty sheet more. -/
def extend (wb : Workbook) (name : String) : Workbook :=
  { wb with sheets := wb.sheets ++ [Sheet.blank name] }

/-- A new sheet comes last. -/
theorem sheetNames_extend (wb : Workbook) (name : String) :
    (wb.extend name).sheetNames = wb.sheetNames ++ [name] := by
  simp [extend, sheetNames, Sheet.blank]

/-- An empty sheet brings no records. -/
@[simp] theorem cell?_extend (wb : Workbook) (name : String) (a : QualifiedAddress) :
    (wb.extend name).cell? a = wb.cell? a := by
  simp only [extend, cell?, sheet?, List.find?_append]
  cases wb.sheets.find? fun sheet => sheet.name == a.sheet with
  | some sheet => simp
  | none =>
    cases h : [Sheet.blank name].find? fun sheet => sheet.name == a.sheet with
    | none => simp
    | some sheet =>
      have he : sheet = Sheet.blank name := List.mem_singleton.mp (List.mem_of_find?_eq_some h)
      simp [he]

/-- A new sheet changes no record. -/
@[simp] theorem record_extend (wb : Workbook) (name : String) (a : QualifiedAddress) :
    (wb.extend name).record a = wb.record a := by
  rw [record, record, cell?_extend]

/-- With an empty sheet more, there is a sheet of its name besides those that were there. -/
theorem hasSheet_extend {wb : Workbook} {name other : String} :
    (wb.extend name).hasSheet other = true ↔ wb.hasSheet other = true ∨ other = name := by
  rw [hasSheet_iff, hasSheet_iff, sheetNames_extend, List.mem_append, List.mem_singleton]

end Workbook

end Spreadsheet
