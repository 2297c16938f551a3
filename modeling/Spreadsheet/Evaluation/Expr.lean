import Spreadsheet.Address.Range
import Spreadsheet.Evaluation.Operator
import Spreadsheet.Formula.References

/-!
# Values of expressions

An expression has a value in surroundings that say what its cells and functions are. All arguments
are evaluated before a function is called. Reading a cell may fail, and then the whole evaluation
does.
-/

namespace Spreadsheet.Formula

/-- Why an evaluation has no value. -/
inductive EvaluationError where
  /-- Formulas refer to formulas in too long a chain. -/
  | depthExceeded
  deriving DecidableEq, Repr

/-- The message of a failed evaluation. -/
def EvaluationError.message : EvaluationError → String
  | .depthExceeded => "maximum evaluation depth exceeded"

/-- What an expression refers to. -/
structure Surroundings where
  /-- The sheet of names that give none. -/
  sheet : String
  /-- There is a sheet of this name. -/
  hasSheet : String → Bool
  /-- The value of a cell. -/
  read : QualifiedAddress → Except EvaluationError Value
  /-- The value of a function of this name for some arguments. -/
  call : String → List Value → Value

/-- The value of a range: the values of its cells, row by row. -/
def Surroundings.range (s : Surroundings) (first last : Reference) :
    Except EvaluationError Value :=
  let sheet := first.sheetOn s.sheet
  if s.hasSheet sheet then do
    let block := CellRange.ofCorners first.cell last.cell
    let rows ← block.rows.mapM fun row => block.cols.mapM fun col => s.read ⟨sheet, ⟨row, col⟩⟩
    .ok (.array rows)
  else .ok (.error .invalidReference)

namespace Expr

mutual
/-- The value of an expression. -/
def eval (s : Surroundings) : Expr → Except EvaluationError Value
  | .number x => .ok (.number x)
  | .text t => .ok (.text t)
  | .boolean b => .ok (.boolean b)
  | .cell r => s.read (r.on s.sheet)
  | .range first last => s.range first last
  | .call name args => do
    let values ← evalRow s args
    .ok (s.call name values)
  | .binary op a b => do
    let v ← eval s a
    let w ← eval s b
    .ok (op.apply v w)
  | .unary op a => do
    let v ← eval s a
    .ok (op.apply v)
  | .array rows => do
    let rows ← evalRows s rows
    .ok (.array rows)

/-- The values of a row of expressions. -/
def evalRow (s : Surroundings) : List Expr → Except EvaluationError (List Value)
  | [] => .ok []
  | e :: row => do
    let v ← eval s e
    let vs ← evalRow s row
    .ok (v :: vs)

/-- The values of a table of expressions. -/
def evalRows (s : Surroundings) : List (List Expr) → Except EvaluationError (List (List Value))
  | [] => .ok []
  | row :: rows => do
    let vs ← evalRow s row
    let vss ← evalRows s rows
    .ok (vs :: vss)
end

end Expr

end Spreadsheet.Formula
