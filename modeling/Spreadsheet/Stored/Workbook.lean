import Spreadsheet.Json.Reader
import Spreadsheet.Json.Writer
import Spreadsheet.Stored.Cell
import Spreadsheet.Workbook.Basic

/-!
# Workbooks in stored form

A sheet is stored with its name and its records under the labels of their cells, a workbook with its
sheets and the place of the active one.
-/

namespace Spreadsheet

namespace Sheet

/-- The stored form of the records of a sheet. -/
def cellsToJson (sheet : Sheet) : Json :=
  .object (sheet.records.map fun (address, c) => (address.text, c.toJson))

/-- The record of a cell with its stored form under its label. -/
def recordOfMember? (levels : Nat) (member : String × Json) : Option (CellAddress × Cell) := do
  let address ← (CellAddress.ofText member.1).toOption
  let c ← Cell.ofJson? levels member.2
  return (address, c)

/-- The records with the given stored form; of two records of a cell the later one counts. -/
def cellsOfJson? (levels : Nat) (json : Json) : Option (Std.ExtTreeMap CellAddress Cell) :=
  match levels, json with
  | levels + 1, .object members =>
    (members.mapM (recordOfMember? levels)).map fun records => .ofList records
  | _, _ => none

/-- The text that the records of a sheet are stored as. -/
def cellsToStored (sheet : Sheet) : String :=
  sheet.cellsToJson.write

/-- The records that are stored as a text. -/
def cellsOfStored? (s : String) : Option (Std.ExtTreeMap CellAddress Cell) := do
  cellsOfJson? storedLevels (← Json.ofText? s)

/-- The stored form of a sheet. -/
def toJson (sheet : Sheet) : Json :=
  .object [("name", .text sheet.name), ("cells", sheet.cellsToJson)]

/-- The sheet with the given stored form. -/
def ofJson? : (levels : Nat) → Json → Option Sheet
  | 0, _ => none
  | levels + 1, json =>
    match json.fields? ["name", "cells"] with
    | some [some name, cells] => do
      let name ← name.toText?
      let cells ←
        match cells with
        | none => some ∅
        | some cells => cellsOfJson? levels cells
      return ⟨name, cells⟩
    | _ => none

end Sheet

namespace Json

/-- The count of 64 bits that a stored number is. -/
def toCount? : Json → Option Nat
  | .integer n => if n < 0 then none else some n.toNat
  | _ => none

end Json

namespace Workbook

/-- The stored form of a workbook. -/
def toJson (wb : Workbook) : Json :=
  .object [
    ("sheets", .array (wb.sheets.map Sheet.toJson)),
    ("active_sheet_index", .integer wb.activeIndex)]

/-- The sheets with the given stored form. -/
def sheetsOfJson? (levels : Nat) (json : Json) : Option (List Sheet) :=
  match levels, json with
  | levels + 1, .array items => items.mapM (Sheet.ofJson? levels)
  | _, _ => none

/-- The workbook with the given stored form. -/
def ofJson? : (levels : Nat) → Json → Option Workbook
  | 0, _ => none
  | levels + 1, json =>
    match json.fields? ["sheets", "active_sheet_index"] with
    | some [some sheets, index] => do
      let sheets ← sheetsOfJson? levels sheets
      let index ←
        match index with
        | none => some 0
        | some index => index.toCount?
      return ⟨sheets, index⟩
    | _ => none

/-- The text that a workbook is stored as. -/
def toStored (wb : Workbook) : String :=
  wb.toJson.write

/-- The workbook that is stored as a text. -/
def ofStored? (s : String) : Option Workbook := do
  ofJson? storedLevels (← Json.ofText? s)

end Workbook

end Spreadsheet
