import Spreadsheet.Text.Search

/-!
# Errors as values

A computation that fails leaves an error in its cell. Errors are values like any other: they have a
text, which can be read back, and they are passed on or counted as the functions please.
-/

namespace Spreadsheet

/-- An error that a cell can hold. -/
inductive CellError where
  /-- A number was divided by zero. -/
  | divisionByZero
  /-- An argument has the wrong kind or number. -/
  | invalidValue
  /-- A reference leads nowhere. -/
  | invalidReference
  /-- There is no function of this name. -/
  | invalidName (name : String)
  /-- A number is out of range or undefined. -/
  | invalidNumber
  /-- What was looked for is not there. -/
  | notAvailable
  /-- The cell depends on itself. -/
  | circularReference
  /-- The formula has no meaning. -/
  | malformedFormula
  /-- The computation was given up. -/
  | aborted (message : String)
  deriving DecidableEq, Repr

namespace CellError

/-- What stands before the name of an unknown function. -/
def namePrologue : String := "#NAME? ("

/-- What stands before the reason why a computation was given up. -/
def abortedPrologue : String := "#ERROR: "

/-- The text of an error. -/
def text : CellError → String
  | .divisionByZero => "#DIV/0!"
  | .invalidValue => "#VALUE!"
  | .invalidReference => "#REF!"
  | .invalidName name => namePrologue ++ name ++ ")"
  | .invalidNumber => "#NUM!"
  | .notAvailable => "#N/A"
  | .circularReference => "#CIRCULAR!"
  | .malformedFormula => "#PARSE!"
  | .aborted message => abortedPrologue ++ message

/-- The text before a closing parenthesis that ends it. -/
def dropParenthesis? (cs : List Char) : Option (List Char) :=
  if cs.getLast? = some ')' then some cs.dropLast else none

/-- The error with a parameter that a text denotes: an unknown name or a reason. -/
def ofParametricText? (s : String) : Option CellError :=
  match Text.dropFront? namePrologue.toList s.toList with
  | some rest => (dropParenthesis? rest).map fun name => .invalidName (String.ofList name)
  | none =>
    (Text.dropFront? abortedPrologue.toList s.toList).map fun message =>
      .aborted (String.ofList message)

/-- The error that a text denotes. -/
def ofText? (s : String) : Option CellError :=
  match s with
  | "#DIV/0!" => some .divisionByZero
  | "#VALUE!" => some .invalidValue
  | "#REF!" => some .invalidReference
  | "#NUM!" => some .invalidNumber
  | "#N/A" => some .notAvailable
  | "#CIRCULAR!" => some .circularReference
  | "#PARSE!" => some .malformedFormula
  | s => ofParametricText? s

end CellError

end Spreadsheet
