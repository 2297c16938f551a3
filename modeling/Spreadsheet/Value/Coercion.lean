import Spreadsheet.Number.Layout
import Spreadsheet.Number.Leading
import Spreadsheet.Number.Rounding
import Spreadsheet.Value.Basic

/-!
# Values as numbers, texts and truth values

Operators and functions take whatever value they are given as the kind of value they need. A text
counts as the number it starts with, an error as zero and as its own text.
-/

namespace Spreadsheet

/-- The magnitude from which on whole numbers are laid out by their digits alone. -/
def wholeTextLimit : Float := 1e15

/-- The text of a number: no point after a whole number and no sign before zero. -/
def numberText (x : Float) : String :=
  if Number.isWhole x && x.abs < wholeTextLimit then
    String.ofList
      (let n := Number.toInt64 x
       if n < 0 then '-' :: Number.digitsOf n.natAbs else Number.digitsOf n.natAbs)
  else Number.Layout.plain.write x

namespace Value

/-- The number of a truth value. -/
def ofBool (b : Bool) : Float :=
  if b then 1.0 else 0.0

/-- The number that a value counts as, if it holds one. -/
def number? : Value → Option Float
  | .number x => some x
  | .boolean b => some (ofBool b)
  | .text s => Number.leading s
  | _ => none

/-- The number that a value counts as, zero if it holds none. -/
def toNumber (v : Value) : Float :=
  v.number?.getD 0.0

mutual
/-- The text that a value counts as. -/
def toText : Value → String
  | .empty => ""
  | .number x => numberText x
  | .text s => s
  | .boolean b => if b then "TRUE" else "FALSE"
  | .array rows => String.intercalate "," (rowsTexts rows)
  | .error e => e.text

/-- The texts of the cells of a table, row by row. -/
def rowsTexts : List (List Value) → List String
  | [] => []
  | row :: rows => rowTexts row ++ rowsTexts rows

/-- The texts of the cells of a row. -/
def rowTexts : List Value → List String
  | [] => []
  | v :: row => toText v :: rowTexts row
end

/-- The truth value that a value counts as. -/
def isTruthy : Value → Bool
  | .empty => false
  | .number x => x != 0.0 && !x.isNaN
  | .text s => !s.isEmpty
  | .boolean b => b
  | .array _ => true
  | .error _ => true

/-- Values of one kind are compared as such, and tables are equal to nothing. Among the kinds that
are left, texts, errors and nothing, the texts are compared. -/
def same : Value → Value → Bool
  | .number x, .number y => x == y
  | .boolean a, .boolean b => a == b
  | .array _, _ => false
  | _, .array _ => false
  | .number _, _ => false
  | _, .number _ => false
  | .boolean _, _ => false
  | _, .boolean _ => false
  | v, w => v.toText == w.toText

/-- The value of an arithmetical result: an error if it is no finite number. -/
def ofResult (x : Float) : Value :=
  if x.isFinite then .number x else .error .invalidNumber

end Value

end Spreadsheet
