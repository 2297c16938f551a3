import Spreadsheet.Value.Error

/-!
# Values

A value is what a cell shows or a formula yields. A block of cells is a value too: a table of rows,
which may have different lengths.
-/

namespace Spreadsheet

/-- The content of a cell or the result of a formula. -/
inductive Value where
  /-- Nothing. -/
  | empty
  /-- A number. -/
  | number (x : Float)
  /-- A text. -/
  | text (s : String)
  /-- A truth value. -/
  | boolean (b : Bool)
  /-- A table, row by row. -/
  | array (rows : List (List Value))
  /-- An error. -/
  | error (e : CellError)
  deriving Inhabited

namespace Value

/-- Nothing, or a text without characters. -/
def isBlank : Value → Bool
  | .empty => true
  | .text s => s.isEmpty
  | _ => false

/-- An error, or a text that looks like one. -/
def isError : Value → Bool
  | .error _ => true
  | .text s => s.toList.head? == some '#'
  | _ => false

/-- A value as a table; whatever is no table becomes its only cell. -/
def toRows : Value → List (List Value)
  | .array rows => rows
  | v => [[v]]

end Value

end Spreadsheet
