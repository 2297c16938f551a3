import Spreadsheet.Function.Math

/-!
# Logical functions

Choices and tests. Both branches of a choice are evaluated before it is made. A missing argument
makes the result an error.
-/

namespace Spreadsheet.Function

/-- The second argument if the first one is true, else the third one. -/
def choice : List Value → Value
  | condition :: whenTrue :: rest =>
    if condition.isTruthy then whenTrue else rest.head?.getD (.boolean false)
  | _ => .error .invalidValue

/-- What a test of all values that are not blank says, if there are any. -/
def testFilled (test : List Value → Bool) (args : List Value) : Value :=
  let filled := (flatten args).filter fun v => !v.isBlank
  if filled.isEmpty then .error .invalidValue else .boolean (test filled)

/-- All values that are not blank are true. -/
def conjunction : List Value → Value :=
  testFilled fun vs => vs.all Value.isTruthy

/-- Some value that is not blank is true. -/
def disjunction : List Value → Value :=
  testFilled fun vs => vs.any Value.isTruthy

/-- What a test of the first argument says. -/
def testFirst (test : Value → Bool) : List Value → Value
  | v :: _ => .boolean (test v)
  | [] => .error .invalidValue

/-- The argument is not true. -/
def negation : List Value → Value :=
  testFirst fun v => !v.isTruthy

/-- The truth value itself. -/
def constant (b : Bool) (_ : List Value) : Value :=
  .boolean b

/-- The first argument, or the second if the first one is an error. -/
def fallback : List Value → Value
  | v :: w :: _ => if v.isError then w else v
  | _ => .error .invalidValue

/-- A text that is not empty. -/
def isText : Value → Bool
  | .text s => !s.isEmpty
  | _ => false

end Spreadsheet.Function
