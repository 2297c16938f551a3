import Spreadsheet.Proofs.Stored.Cell
import Spreadsheet.Stored.Workbook

/-!
# Workbooks read back from their text

The main statement says that a workbook is read back from its text in all its parts, whatever texts
it contains, if its cells and the ends of its edges exist, its numbers are finite and its edges lead
to sheets with names. That the digits of every single number denote it, and that the text is not
nested too deeply, is assumed.
-/

namespace Spreadsheet

open Json (ReadsBack)

/-! ## Tables of records -/

namespace Sheet

variable {sheet : Sheet} {levels : Nat}

/-- The cells of the records and the ends of their edges exist. -/
def InRange (sheet : Sheet) : Prop :=
  ∀ record ∈ sheet.records, record.1.InRange ∧ ∀ a ∈ record.2.edges, a.cell.InRange

instance (sheet : Sheet) : Decidable sheet.InRange :=
  inferInstanceAs (Decidable
    (∀ record ∈ sheet.records, record.1.InRange ∧ ∀ a ∈ record.2.edges, a.cell.InRange))

/-- All that the records hold has a stored form. -/
def isStorable (sheet : Sheet) : Bool :=
  sheet.records.all fun record => record.2.isStorable

/-- A number in a record of the sheet, at whatever depth. -/
def HasNumber (sheet : Sheet) (x : Float) : Prop :=
  ∃ record ∈ sheet.records, x ∈ record.2.value.numbers

/-- A sheet can be stored if its numbers are finite and its edges lead to sheets with names. -/
theorem isStorable_iff : sheet.isStorable = true ↔ (∀ x, sheet.HasNumber x → x.isFinite = true) ∧
    ∀ record ∈ sheet.records, ∀ a ∈ record.2.edges, a.sheet ≠ "" := by
  simp only [isStorable, Cell.isStorable, Value.isFinite, QualifiedAddress.isNamed,
    List.all_eq_true, Bool.and_eq_true, Bool.not_eq_true', String.isEmpty_eq_false_iff, HasNumber]
  constructor
  · intro h
    refine ⟨?_, fun record hrecord => (h record hrecord).2⟩
    rintro x ⟨record, hrecord, hx⟩
    exact (h record hrecord).1 x hx
  · rintro ⟨hfinite, hnamed⟩ record hrecord
    exact ⟨fun x hx => hfinite x ⟨record, hrecord, hx⟩, hnamed record hrecord⟩

/-- The table of the records that are listed of a table is the table. -/
theorem ofList_records (sheet : Sheet) : Std.ExtTreeMap.ofList sheet.records = sheet.cells := by
  have hdistinct : sheet.records.Pairwise fun a b => ¬compare a.1 b.1 = .eq :=
    Std.ExtTreeMap.distinct_keys_toList
  refine Std.ExtTreeMap.ext_getElem? fun address => ?_
  cases hcell : sheet.cells[address]? with
  | some c =>
    have hmem : (address, c) ∈ sheet.records :=
      Std.ExtTreeMap.mem_toList_iff_getElem?_eq_some.mpr hcell
    exact Std.ExtTreeMap.getElem?_ofList_of_mem Std.ReflCmp.compare_self hdistinct hmem
  | none =>
    refine Std.ExtTreeMap.getElem?_ofList_of_contains_eq_false
      (Bool.eq_false_iff.mpr fun hkey => ?_)
    obtain ⟨record, hrecord, rfl⟩ := List.mem_map.mp (List.contains_iff_mem.mp hkey)
    cases hcell.symm.trans (Std.ExtTreeMap.mem_toList_iff_getElem?_eq_some.mp hrecord)

/-- The stored form of the records keeps the numbers of their values. -/
theorem keepsNumbers_cellsToJson (h : ∀ x, sheet.HasNumber x → x.isFinite = true → ReadsBack x) :
    sheet.cellsToJson.KeepsNumbers := by
  rw [cellsToJson, Json.KeepsNumbers, List.forall_mem_map]
  intro record hrecord
  exact Cell.keepsNumbers_toJson fun x hx => h x ⟨record, hrecord, hx⟩

private theorem asWritten_cellsToJson (sheet : Sheet) : sheet.cellsToJson.asWritten =
    .object (sheet.records.map fun record => (record.1.text, record.2.toJson.asWritten)) := by
  rw [cellsToJson, Json.asWritten, List.map_map]
  rfl

/-- A record is read back together with the cell that it belongs to. -/
theorem recordOfMember?_text {address : CellAddress} {c : Cell} (ha : address.InRange)
    (hc : ∀ a ∈ c.edges, a.cell.InRange) :
    recordOfMember? levels (address.text, c.toJson.asWritten) =
      if c.isStorable && c.toJson.fits levels then some (address, c) else none := by
  rw [recordOfMember?, CellAddress.ofText_text ha, Cell.ofJson?_toJson levels hc]
  split <;> rfl

/-- The records of a sheet are read back if all of them have a stored form and are not nested too
deeply. -/
theorem cellsOfJson?_cellsToJson (levels : Nat) (h : sheet.InRange) :
    cellsOfJson? levels sheet.cellsToJson.asWritten =
      if sheet.isStorable && sheet.cellsToJson.fits levels then some sheet.cells else none := by
  cases levels with
  | zero =>
    have hfits : sheet.cellsToJson.fits 0 = false := rfl
    rw [hfits, Bool.and_false]
    rfl
  | succ levels =>
    have hrecords : (sheet.records.map fun record =>
        (record.1.text, record.2.toJson.asWritten)).mapM (recordOfMember? levels) =
          if sheet.records.all fun record => record.2.isStorable && record.2.toJson.fits levels then
            some sheet.records else none := by
      apply mapM_map_eq_ite
      rintro ⟨address, c⟩ hrecord
      obtain ⟨ha, hc⟩ := h _ hrecord
      exact recordOfMember?_text ha hc
    have hall : (sheet.records.all fun record =>
        record.2.isStorable && record.2.toJson.fits levels) =
          (sheet.isStorable && sheet.cellsToJson.fits (levels + 1)) := by
      rw [Bool.eq_iff_iff]
      simp [isStorable, cellsToJson, forall_and]
    rw [asWritten_cellsToJson, cellsOfJson?, hrecords, hall]
    split
    · rw [Option.map_some, ofList_records]
    · rfl

/-- A table whose finite numbers are read back one by one is read back from its text or refused. -/
theorem cellsOfStored?_cellsToStored (h : sheet.InRange)
    (hnumbers : ∀ x, sheet.HasNumber x → x.isFinite = true → ReadsBack x) :
    cellsOfStored? sheet.cellsToStored =
      if sheet.isStorable && sheet.cellsToJson.fits storedLevels then some sheet.cells
      else none := by
  rw [cellsOfStored?, cellsToStored, Json.ofText?_write (keepsNumbers_cellsToJson hnumbers)]
  exact cellsOfJson?_cellsToJson storedLevels h

/-- The numbers of a sheet are kept that are read back from their texts. -/
theorem keepsNumbers_toJson (h : ∀ x, sheet.HasNumber x → x.isFinite = true → ReadsBack x) :
    sheet.toJson.KeepsNumbers := by
  simpa [toJson, Json.KeepsNumbers] using keepsNumbers_cellsToJson h

/-- A sheet is read back if its records are. -/
theorem ofJson?_toJson (levels : Nat) (h : sheet.InRange) :
    ofJson? levels sheet.toJson.asWritten =
      if sheet.isStorable && sheet.toJson.fits levels then some sheet else none := by
  cases levels with
  | zero =>
    have hfits : sheet.toJson.fits 0 = false := rfl
    rw [hfits, Bool.and_false]
    rfl
  | succ levels =>
    have hjson : sheet.toJson.asWritten =
        .object [("name", .text sheet.name), ("cells", sheet.cellsToJson.asWritten)] := by
      simp [toJson, Json.asWritten]
    have hfields : sheet.toJson.asWritten.fields? ["name", "cells"] =
        some [some (.text sheet.name), some sheet.cellsToJson.asWritten] := by
      rw [hjson]
      rfl
    have hfits : sheet.toJson.fits (levels + 1) = sheet.cellsToJson.fits levels := by
      simp [toJson]
    rw [ofJson?, hfields, hfits]
    dsimp only
    rw [cellsOfJson?_cellsToJson levels h]
    cases sheet.isStorable && sheet.cellsToJson.fits levels <;> rfl

end Sheet

/-! ## Workbooks -/

namespace Workbook

variable {wb : Workbook}

/-- The numbers of a workbook are kept that are read back from their texts. -/
theorem keepsNumbers_toJson (hindex : wb.activeIndex ≤ Json.greatestWord)
    (h : ∀ sheet ∈ wb.sheets, ∀ x, sheet.HasNumber x → x.isFinite = true → ReadsBack x) :
    wb.toJson.KeepsNumbers := by
  have hsheets : ∀ sheet ∈ wb.sheets, sheet.toJson.KeepsNumbers :=
    fun sheet hsheet => Sheet.keepsNumbers_toJson (h sheet hsheet)
  simp only [toJson, Json.KeepsNumbers, List.forall_mem_cons, List.forall_mem_map]
  refine ⟨hsheets, ⟨?_, ?_⟩, List.forall_mem_nil _⟩
  · omega
  · exact_mod_cast hindex

/-- A workbook is read back if its sheets are. -/
theorem ofJson?_toJson (levels : Nat) (h : ∀ sheet ∈ wb.sheets, sheet.InRange) :
    ofJson? levels wb.toJson.asWritten =
      if wb.sheets.all Sheet.isStorable && wb.toJson.fits levels then some wb else none := by
  have hjson : wb.toJson.asWritten = .object [
      ("sheets", .array (wb.sheets.map fun sheet => sheet.toJson.asWritten)),
      ("active_sheet_index", .integer wb.activeIndex)] := by
    simp [toJson, Json.asWritten, Function.comp_def]
  have hfields : wb.toJson.asWritten.fields? ["sheets", "active_sheet_index"] =
      some [some (.array (wb.sheets.map fun sheet => sheet.toJson.asWritten)),
        some (.integer wb.activeIndex)] := by
    rw [hjson]
    rfl
  have hindex : (Json.integer wb.activeIndex).toCount? = some wb.activeIndex := by
    simp [Json.toCount?]
  rcases levels with _ | _ | levels
  · have hfits : wb.toJson.fits 0 = false := rfl
    rw [hfits, Bool.and_false]
    rfl
  · have hfits : wb.toJson.fits 1 = false := rfl
    rw [ofJson?, hfields, hfits, Bool.and_false]
    rfl
  · have hsheets : (wb.sheets.map fun sheet => sheet.toJson.asWritten).mapM
        (Sheet.ofJson? levels) =
          if wb.sheets.all fun sheet => sheet.isStorable && sheet.toJson.fits levels then
            some wb.sheets else none := by
      apply mapM_map_eq_ite
      intro sheet hsheet
      exact Sheet.ofJson?_toJson levels (h sheet hsheet)
    have hall : (wb.sheets.all fun sheet => sheet.isStorable && sheet.toJson.fits levels) =
        (wb.sheets.all Sheet.isStorable && wb.toJson.fits (levels + 2)) := by
      rw [Bool.eq_iff_iff]
      simp [toJson, forall_and]
    rw [ofJson?, hfields]
    dsimp only
    rw [sheetsOfJson?, hsheets, hall, hindex]
    cases wb.sheets.all Sheet.isStorable && wb.toJson.fits (levels + 2) <;> rfl

/-- What a workbook is like of which the text holds everything. -/
structure Storable (wb : Workbook) : Prop where
  /-- The numbers are finite. -/
  isFinite : ∀ sheet ∈ wb.sheets, ∀ x, sheet.HasNumber x → x.isFinite = true
  /-- The cells of the records and the ends of their edges exist. -/
  inRange : ∀ sheet ∈ wb.sheets, sheet.InRange
  /-- The ends of the edges are on sheets with names. -/
  isNamed : ∀ sheet ∈ wb.sheets, ∀ record ∈ sheet.records, ∀ a ∈ record.2.edges, a.sheet ≠ ""
  /-- The place of the active sheet is a number of 64 bits. -/
  index_le : wb.activeIndex ≤ Json.greatestWord

/-- A workbook is read back from its text, if its numbers are read back one by one and the text is
not nested too deeply. -/
theorem ofStored?_toStored (h : wb.Storable)
    (hnumbers : ∀ sheet ∈ wb.sheets, ∀ x, sheet.HasNumber x → ReadsBack x)
    (hfits : wb.toJson.fits storedLevels = true) : ofStored? wb.toStored = some wb := by
  have hkeeps : wb.toJson.KeepsNumbers :=
    keepsNumbers_toJson h.index_le fun sheet hsheet x hx _ => hnumbers sheet hsheet x hx
  have hstorable : wb.sheets.all Sheet.isStorable = true :=
    List.all_eq_true.mpr fun sheet hsheet =>
      Sheet.isStorable_iff.mpr ⟨h.isFinite sheet hsheet, h.isNamed sheet hsheet⟩
  rw [ofStored?, toStored, Json.ofText?_write hkeeps]
  dsimp only [Option.bind_eq_bind, Option.bind_some]
  rw [ofJson?_toJson storedLevels h.inRange, hstorable, hfits]
  rfl

/-- A record with a nested table, an error, and edges to sheets with marks in their names. -/
def markedRecord : Cell where
  value := .array [[.number 0.1, .text "tab\t\u0001 \"q\" \\ 😀"],
    [.error (.invalidName "n\n"), .array [[.boolean true, .number (-2.5e-7)], []]]]
  formula := some "=B2&\"é\""
  error := some (.aborted "")
  dependencies := .ofList ([⟨"!", ⟨3, 28⟩⟩, ⟨"a!\"b\"", ⟨2, 2⟩⟩] : List QualifiedAddress)
  dependents := ∅

/-- A record that is read by the marked one. -/
def readRecord : Cell :=
  Cell.blank.addDependent ⟨"a!\"b\"", ⟨1, 1⟩⟩

/-- Three sheets, the last of which is active and has no name. -/
def markedSheets : Workbook where
  sheets := [
    ⟨"a!\"b\"", .ofList [((⟨1, 1⟩ : CellAddress), markedRecord), (⟨2, 2⟩, readRecord)]⟩,
    ⟨"!", .ofList [((⟨3, 28⟩ : CellAddress), readRecord)]⟩,
    .blank ""]
  activeIndex := 2

/-- Quotes, backslashes, control characters and marks are read back. -/
theorem ofStored?_markedSheets :
    markedSheets.Storable ∧
      (∀ sheet ∈ markedSheets.sheets, ∀ x, sheet.HasNumber x → ReadsBack x) ∧
      markedSheets.toJson.fits storedLevels = true ∧
      ofStored? markedSheets.toStored = some markedSheets := by
  have hstorable : ∀ sheet ∈ markedSheets.sheets, sheet.isStorable = true := by decide +kernel
  have hrecords : ∀ sheet ∈ markedSheets.sheets, ∀ record ∈ sheet.records,
      ∀ x ∈ record.2.value.numbers, ReadsBack x := by decide +kernel
  have hnumbers : ∀ sheet ∈ markedSheets.sheets, ∀ x, sheet.HasNumber x → ReadsBack x := by
    rintro sheet hsheet x ⟨record, hrecord, hx⟩
    exact hrecords sheet hsheet record hrecord x hx
  have hfits : markedSheets.toJson.fits storedLevels = true := by decide +kernel
  have h : markedSheets.Storable :=
    ⟨fun sheet hsheet => (Sheet.isStorable_iff.mp (hstorable sheet hsheet)).1, by decide +kernel,
      fun sheet hsheet => (Sheet.isStorable_iff.mp (hstorable sheet hsheet)).2, by decide +kernel⟩
  exact ⟨h, hnumbers, hfits, ofStored?_toStored h hnumbers hfits⟩

end Workbook

end Spreadsheet
