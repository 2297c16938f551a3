import Spreadsheet.Address.Cell

/-!
# Ranges of cells

A range is the block of cells between two corners. Its corners are brought into order, top left
first, and its cells are listed row by row.
-/

namespace Spreadsheet

/-- A block of cells given by its first and last cell. -/
structure CellRange where
  /-- The cell at the top left. -/
  first : CellAddress
  /-- The cell at the bottom right. -/
  last : CellAddress
  deriving DecidableEq, Repr

namespace CellRange

/-- The block with two given opposite corners. -/
def ofCorners (a b : CellAddress) : CellRange :=
  ⟨⟨min a.row b.row, min a.col b.col⟩, ⟨max a.row b.row, max a.col b.col⟩⟩

/-- The parts of a text before and behind its first colon. -/
def splitColon? : List Char → Option (List Char × List Char)
  | [] => none
  | c :: cs =>
    if c = ':' then some ([], cs) else (splitColon? cs).map fun (a, b) => (c :: a, b)

/-- The block that a text names: two corners with a colon between them, or a single cell. -/
def ofText (s : String) : Except AddressError CellRange :=
  match splitColon? s.toList with
  | some (a, b) =>
    match CellAddress.ofText (String.ofList a), CellAddress.ofText (String.ofList b) with
    | .ok a, .ok b => .ok (ofCorners a b)
    | _, _ => .error (.invalidRange s)
  | none =>
    match CellAddress.ofText s with
    | .ok a => .ok (ofCorners a a)
    | .error e => .error e

/-- The number of rows. -/
def height (range : CellRange) : Nat :=
  range.last.row - range.first.row + 1

/-- The number of columns. -/
def width (range : CellRange) : Nat :=
  range.last.col - range.first.col + 1

/-- The rows of a block from top to bottom. -/
def rows (range : CellRange) : List Nat :=
  List.range' range.first.row range.height

/-- The columns of a block from left to right. -/
def cols (range : CellRange) : List Nat :=
  List.range' range.first.col range.width

/-- The cells of a block, row by row. -/
def cells (range : CellRange) : List CellAddress :=
  range.rows.flatMap fun row => range.cols.map fun col => ⟨row, col⟩

/-- The text of a range. -/
def text (range : CellRange) : String :=
  range.first.text ++ ":" ++ range.last.text

end CellRange

end Spreadsheet
