import Spreadsheet.Value.Coercion

/-!
# Arguments of functions

Functions of many values take tables and single values alike, one after the other. Functions of a
few values take each of them as a number or a text.
-/

namespace Spreadsheet.Function

/-- The values of an argument, those of a table row by row. -/
def spread : Value → List Value
  | .array rows => rows.flatten
  | v => [v]

/-- The values of all arguments in order. -/
def flatten (args : List Value) : List Value :=
  args.flatMap spread

/-- The number of a value that counts among numbers: not blank, not an error, and starting with a
number if it is a text. -/
def countedNumber? : Value → Option Float
  | .error _ => none
  | v => if v.isBlank then none else v.number?

/-- The numbers among all arguments. -/
def numbers (args : List Value) : List Float :=
  (flatten args).filterMap countedNumber?

/-- The argument at a place as a number, `default` if it is missing. -/
def numberAt (args : List Value) (i : Nat) (default : Float) : Float :=
  (args[i]?.map Value.toNumber).getD default

/-- The argument at a place as a text, empty if it is missing. -/
def textAt (args : List Value) (i : Nat) : String :=
  (args[i]?.map Value.toText).getD ""

/-- The sum of numbers from left to right; without any, negative zero. -/
def total (xs : List Float) : Float :=
  xs.foldl (· + ·) (-0.0)

/-- The greatest count, that of a word of 64 bits. -/
def countLimit : Nat := Nat.pow 2 64 - 1

/-- A count as a number. -/
def ofCount (n : Nat) : Value :=
  .number (min n countLimit).toFloat

end Spreadsheet.Function
