import Spreadsheet.Sheet

/-!
# Workbooks

A workbook is a list of sheets in the order of their creation, one of which is active. Sheets are
found by name; where two sheets share a name, the first one counts. The main statement says that
replacing a record changes what is found at its own address and nowhere else.
-/

namespace Spreadsheet

/-- Why an operation on the sheets of a workbook fails. -/
inductive WorkbookError where
  /-- There is a sheet of this name already. -/
  | duplicateSheet (name : String)
  /-- There is no sheet of this name. -/
  | sheetNotFound (name : String)
  deriving DecidableEq, Repr

/-- The message of an error about sheets. -/
def WorkbookError.message : WorkbookError → String
  | .duplicateSheet name => "Sheet already exists: " ++ name
  | .sheetNotFound name => "Sheet not found: " ++ name

/-- Sheets with their cells, one of them active. -/
structure Workbook where
  /-- The sheets in the order of their creation. -/
  sheets : List Sheet
  /-- The place of the active sheet among them. -/
  activeIndex : Nat

namespace Workbook

/-- A workbook with a single sheet. -/
def ofName (first : String) : Workbook :=
  ⟨[Sheet.blank first], 0⟩

/-- The names of the sheets. -/
def sheetNames (wb : Workbook) : List String :=
  wb.sheets.map Sheet.name

/-- The place of a sheet. -/
def sheetIndex? (wb : Workbook) (name : String) : Option Nat :=
  wb.sheets.findIdx? fun sheet => sheet.name == name

/-- The sheet of the given name. -/
def sheet? (wb : Workbook) (name : String) : Option Sheet :=
  wb.sheets.find? fun sheet => sheet.name == name

/-- There is a sheet of the given name. -/
def hasSheet (wb : Workbook) (name : String) : Bool :=
  (wb.sheet? name).isSome

/-- The name of the active sheet, if there is one. -/
def activeName? (wb : Workbook) : Option String :=
  wb.sheets[wb.activeIndex]?.map Sheet.name

/-- The workbook with an empty sheet more, and the place of that sheet. -/
def addSheet (wb : Workbook) (name : String) : Except WorkbookError (Nat × Workbook) :=
  if wb.hasSheet name then .error (.duplicateSheet name)
  else .ok (wb.sheets.length, { wb with sheets := wb.sheets ++ [Sheet.blank name] })

/-- The workbook with another active sheet, if there is a sheet of that name. -/
def activate? (wb : Workbook) (name : String) : Option Workbook :=
  (wb.sheetIndex? name).map fun index => { wb with activeIndex := index }

/-- The record at an address. -/
def cell? (wb : Workbook) (a : QualifiedAddress) : Option Cell :=
  (wb.sheet? a.sheet).bind fun sheet => sheet.cell? a.cell

/-- The addresses of all records. -/
def addresses (wb : Workbook) : List QualifiedAddress :=
  wb.sheets.flatMap fun sheet => sheet.records.map fun record => ⟨sheet.name, record.1⟩

/-- The cells that hold formulas, sheet by sheet. -/
def formulaCells (wb : Workbook) : List QualifiedAddress :=
  wb.sheets.flatMap fun sheet => sheet.formulaCells.map fun cell => ⟨sheet.name, cell⟩

/-- The cells that the formula at an address reads, by the record of that address. -/
def dependenciesOf (wb : Workbook) (a : QualifiedAddress) : AddressSet :=
  ((wb.cell? a).map Cell.dependencies).getD ∅

/-- The cells whose formulas read an address, by the record of that address. -/
def dependentsOf (wb : Workbook) (a : QualifiedAddress) : AddressSet :=
  ((wb.cell? a).map Cell.dependents).getD ∅

/-- The sheets with one record of the first sheet of the given name replaced. -/
def alterFirst (a : QualifiedAddress) (f : Option Cell → Option Cell) : List Sheet → List Sheet
  | [] => []
  | sheet :: sheets =>
    if sheet.name = a.sheet then sheet.alter a.cell f :: sheets
    else sheet :: alterFirst a f sheets

/-- The workbook with one record replaced, made or removed; nothing happens without its sheet. -/
def alter (wb : Workbook) (a : QualifiedAddress) (f : Option Cell → Option Cell) : Workbook :=
  { wb with sheets := alterFirst a f wb.sheets }

/-- The workbook with a record changed that is made first if it is missing. -/
def update (wb : Workbook) (a : QualifiedAddress) (f : Cell → Cell) : Workbook :=
  wb.alter a fun c => some (f (c.getD .blank))

/-- The workbook with a record changed if it is there. -/
def adjust (wb : Workbook) (a : QualifiedAddress) (f : Cell → Cell) : Workbook :=
  wb.alter a (Option.map f)

/-- Replacing a record leaves the names of the sheets alone. -/
theorem map_name_alterFirst (a : QualifiedAddress) (f : Option Cell → Option Cell)
    (sheets : List Sheet) : (alterFirst a f sheets).map Sheet.name = sheets.map Sheet.name := by
  induction sheets with
  | nil => rfl
  | cons sheet sheets ih =>
    unfold alterFirst
    split <;> simp [ih]

/-- The sheets stay when a record changes. -/
@[simp] theorem sheetNames_alter (wb : Workbook) (a : QualifiedAddress)
    (f : Option Cell → Option Cell) : (wb.alter a f).sheetNames = wb.sheetNames :=
  map_name_alterFirst a f wb.sheets

/-- A sheet is there exactly if its name is among the names. -/
theorem hasSheet_iff {wb : Workbook} {name : String} :
    wb.hasSheet name = true ↔ name ∈ wb.sheetNames := by
  simp [hasSheet, sheet?, sheetNames]

/-- The same sheets exist after a record has changed. -/
@[simp] theorem hasSheet_alter (wb : Workbook) (a : QualifiedAddress)
    (f : Option Cell → Option Cell) (name : String) :
    (wb.alter a f).hasSheet name = wb.hasSheet name := by
  rw [Bool.eq_iff_iff, hasSheet_iff, hasSheet_iff, sheetNames_alter]

/-- What is found under a name after a record was replaced. -/
theorem find?_alterFirst (a : QualifiedAddress) (f : Option Cell → Option Cell) (name : String)
    (sheets : List Sheet) :
    (alterFirst a f sheets).find? (fun sheet => sheet.name == name) =
      (sheets.find? fun sheet => sheet.name == name).map fun sheet =>
        if a.sheet = name then sheet.alter a.cell f else sheet := by
  induction sheets with
  | nil => rfl
  | cons sheet sheets ih =>
    unfold alterFirst
    by_cases hn : sheet.name = name
    · subst hn
      by_cases hs : sheet.name = a.sheet
      · simp [hs]
      · simp [hs, Ne.symm hs]
    · by_cases hs : sheet.name = a.sheet
      · have ha : ¬ a.sheet = name := hs ▸ hn
        rw [if_pos hs]
        simp [hn, ha]
      · simp [hs, hn, ih]

/-- Replacing a record changes what is found at its own address, if its sheet is there, and nothing
else. -/
theorem cell?_alter (wb : Workbook) (a b : QualifiedAddress) (f : Option Cell → Option Cell) :
    (wb.alter a f).cell? b =
      if a = b ∧ wb.hasSheet a.sheet = true then f (wb.cell? a) else wb.cell? b := by
  obtain ⟨s, c⟩ := a
  obtain ⟨t, d⟩ := b
  simp only [cell?, sheet?, alter, find?_alterFirst, hasSheet, QualifiedAddress.mk.injEq]
  by_cases hs : s = t
  · subst hs
    cases wb.sheets.find? fun sheet => sheet.name == s with
    | none => simp
    | some sheet => simp [Sheet.cell?_alter]
  · simp [hs]

/-- There is no record but at the addresses of the records. -/
theorem cell?_of_not_mem_addresses {wb : Workbook} {a : QualifiedAddress}
    (h : a ∉ wb.addresses) : wb.cell? a = none := by
  cases hc : wb.cell? a with
  | none => rfl
  | some c =>
    obtain ⟨sheet, hs, hcell⟩ := Option.bind_eq_some_iff.mp hc
    have hname : sheet.name = a.sheet := by simpa using List.find?_some hs
    have hrecord : (a.cell, c) ∈ sheet.records :=
      Std.ExtTreeMap.mem_toList_iff_getElem?_eq_some.mpr hcell
    refine absurd (List.mem_flatMap.mpr ⟨sheet, List.mem_of_find?_eq_some hs, ?_⟩) h
    refine List.mem_map.mpr ⟨(a.cell, c), hrecord, ?_⟩
    rw [hname]

/-- Making or changing a record. -/
theorem cell?_update (wb : Workbook) (a b : QualifiedAddress) (f : Cell → Cell) :
    (wb.update a f).cell? b =
      if a = b ∧ wb.hasSheet a.sheet = true then some (f ((wb.cell? a).getD .blank))
      else wb.cell? b :=
  cell?_alter wb a b _

/-- Changing a record that is there. -/
theorem cell?_adjust (wb : Workbook) (a b : QualifiedAddress) (f : Cell → Cell) :
    (wb.adjust a f).cell? b = if a = b then (wb.cell? b).map f else wb.cell? b := by
  rw [adjust, cell?_alter]
  by_cases h : a = b
  · subst h
    by_cases hs : wb.hasSheet a.sheet = true
    · simp [hs]
    · have hn : wb.cell? a = none := by
        simp only [hasSheet, Bool.not_eq_true, Option.isSome_eq_false_iff,
          Option.isNone_iff_eq_none] at hs
        simp [cell?, hs]
      simp [hs, hn]
  · simp [h]

end Workbook

end Spreadsheet
