import Spreadsheet.Formula.Expr
import Spreadsheet.Value.Coercion

/-!
# Operators on values

Arithmetic and ordering take both operands as numbers, joining takes them as texts, and equality
compares them as they are. An arithmetical result that is no finite number is an error.
-/

namespace Spreadsheet.Formula

/-- The value of a quotient. -/
def quotient (x y : Float) : Value :=
  if y == 0.0 then .error .divisionByZero else .ofResult (x / y)

/-- The value of an operator between two values. -/
def BinaryOp.apply (op : BinaryOp) (v w : Value) : Value :=
  match op with
  | .add => .ofResult (v.toNumber + w.toNumber)
  | .sub => .ofResult (v.toNumber - w.toNumber)
  | .mul => .ofResult (v.toNumber * w.toNumber)
  | .div => quotient v.toNumber w.toNumber
  | .pow => .ofResult (v.toNumber.pow w.toNumber)
  | .concat => .text (v.toText ++ w.toText)
  | .eq => .boolean (v.same w)
  | .ne => .boolean (!v.same w)
  | .lt => .boolean (v.toNumber < w.toNumber)
  | .gt => .boolean (v.toNumber > w.toNumber)
  | .le => .boolean (v.toNumber ≤ w.toNumber)
  | .ge => .boolean (v.toNumber ≥ w.toNumber)

/-- The value of an operator before a value. -/
def UnaryOp.apply (op : UnaryOp) (v : Value) : Value :=
  match op with
  | .neg => .ofResult (-v.toNumber)
  | .pos => .ofResult v.toNumber

end Spreadsheet.Formula
