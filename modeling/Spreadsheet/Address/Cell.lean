import Spreadsheet.Address.Column
import Spreadsheet.Address.Error
import Spreadsheet.Text.Blank
import Std.Data.ExtTreeMap

/-!
# Cell addresses

A cell of a sheet is addressed by its row and column, and written as its column label followed by
its row. Addresses are ordered by row, then by column.
-/

namespace Spreadsheet

/-- The place of a cell in a sheet, counted from one on both axes. -/
structure CellAddress where
  /-- The row. -/
  row : Nat
  /-- The column. -/
  col : Nat
  deriving DecidableEq, Repr

namespace CellAddress

instance : Ord CellAddress :=
  ⟨compareLex (compareOn CellAddress.row) (compareOn CellAddress.col)⟩

instance : Std.TransOrd CellAddress :=
  inferInstanceAs
    (Std.TransCmp (compareLex (compareOn CellAddress.row) (compareOn CellAddress.col)))

instance : Std.LawfulEqOrd CellAddress where
  eq_of_compare {a b} h := by
    have h : (compare a.row b.row).then (compare a.col b.col) = .eq := h
    rw [Ordering.then_eq_eq, Nat.compare_eq_eq, Nat.compare_eq_eq] at h
    cases a
    cases b
    simp_all

/-- Letters and digits of a text that consists of some letters followed by some digits. -/
def splitLabel? (cs : List Char) : Option (List Char × List Char) :=
  let letters := cs.takeWhile Column.isLetter
  let digits := cs.dropWhile Column.isLetter
  if !letters.isEmpty && !digits.isEmpty && digits.all Number.isDigit then some (letters, digits)
  else none

/-- A text has the shape of a cell address. -/
def isLabel (s : String) : Bool :=
  (splitLabel? s.toList).isSome

/-- The cell with the given label, if both its row and its column exist. -/
def ofLabel? (cs : List Char) : Option CellAddress := do
  let (letters, digits) ← splitLabel? cs
  let col ← Column.ofLabel? letters
  let row := Number.ofDigits digits
  if row = 0 ∨ axisLimit < row then none else some ⟨row, col⟩

/-- The cell that a text names, white space around it aside. -/
def ofText (s : String) : Except AddressError CellAddress :=
  let cs := Text.trim s.toList
  match ofLabel? cs with
  | some address => .ok address
  | none => .error (.invalidCell (String.ofList cs))

/-- The label of a cell. -/
def label (address : CellAddress) : List Char :=
  Column.label address.col ++ Nat.toDigits 10 address.row

/-- The text of a cell address. -/
def text (address : CellAddress) : String :=
  String.ofList address.label

end CellAddress

end Spreadsheet
