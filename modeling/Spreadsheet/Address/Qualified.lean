import Spreadsheet.Address.Cell
import Std.Data.ExtTreeSet

/-!
# Addresses in a workbook

A cell of a workbook is addressed by the name of its sheet and its place there, written with an
exclamation mark between them. The name may contain exclamation marks itself, so the last one
counts. Addresses are ordered by sheet name, then by row and column.
-/

namespace Spreadsheet

/-- The place of a cell in a workbook. -/
structure QualifiedAddress where
  /-- The name of the sheet. -/
  sheet : String
  /-- The cell of that sheet. -/
  cell : CellAddress
  deriving DecidableEq, Repr

namespace QualifiedAddress

instance : Ord QualifiedAddress :=
  ⟨compareLex (compareOn QualifiedAddress.sheet) (compareOn QualifiedAddress.cell)⟩

instance : Std.TransOrd QualifiedAddress :=
  inferInstanceAs
    (Std.TransCmp (compareLex (compareOn QualifiedAddress.sheet) (compareOn QualifiedAddress.cell)))

instance : Std.LawfulEqOrd QualifiedAddress where
  eq_of_compare {a b} h := by
    have h : (compare a.sheet b.sheet).then (compare a.cell b.cell) = .eq := h
    rw [Ordering.then_eq_eq, Std.LawfulEqOrd.compare_eq_iff_eq,
      Std.LawfulEqOrd.compare_eq_iff_eq] at h
    cases a
    cases b
    simp_all

/-- The parts of a text before and behind its last exclamation mark. -/
def splitSheet? : List Char → Option (List Char × List Char)
  | [] => none
  | c :: cs =>
    match splitSheet? cs with
    | some (sheet, cell) => some (c :: sheet, cell)
    | none => if c = '!' then some ([], cs) else none

/-- The cell that a text names together with its sheet. -/
def ofText (s : String) : Except AddressError QualifiedAddress :=
  match splitSheet? s.toList with
  | none => .error (.invalidCell s)
  | some (sheet, cell) =>
    if sheet.isEmpty then .error (.invalidCell s)
    else
      match CellAddress.ofText (String.ofList cell) with
      | .ok address => .ok ⟨String.ofList sheet, address⟩
      | .error e => .error e

/-- The text of an address in a workbook. -/
def text (address : QualifiedAddress) : String :=
  address.sheet ++ "!" ++ address.cell.text

end QualifiedAddress

/-- A set of cells of a workbook. -/
abbrev AddressSet := Std.ExtTreeSet QualifiedAddress

end Spreadsheet
