import Spreadsheet.Date.Calendar
import Spreadsheet.Number.Leading

/-!
# Dates in texts

A date may be written as year, month and day with hyphens between them. White space may stand before
each of the three, the month and the day have one or two digits, and the year has up to four, or any
number of digits behind a sign.
-/

namespace Spreadsheet.Date

/-- At least one and at most `limit` digits at the front, and the text behind them. -/
def takeNumber? (limit : Nat) (cs : List Char) : Option (Nat × List Char) :=
  let digits := (cs.take limit).takeWhile Number.isDigit
  if digits.isEmpty then none else some (Number.ofDigits digits, cs.drop digits.length)

/-- The year at the front, and the text behind it. -/
def takeYear? (cs : List Char) : Option (Int × List Char) :=
  match cs with
  | '-' :: cs => (takeNumber? cs.length cs).map fun (n, rest) => (-(n : Int), rest)
  | '+' :: cs => (takeNumber? cs.length cs).map fun (n, rest) => ((n : Int), rest)
  | cs => (takeNumber? 4 cs).map fun (n, rest) => ((n : Int), rest)

/-- The text behind a hyphen. -/
def dropHyphen? : List Char → Option (List Char)
  | '-' :: cs => some cs
  | _ => none

/-- The day that a text without white space at its ends stands for. -/
def ofTrimmed? (cs : List Char) : Option Date := do
  let (year, cs) ← takeYear? (Text.trimStart cs)
  let cs ← dropHyphen? cs
  let (month, cs) ← takeNumber? 2 (Text.trimStart cs)
  let cs ← dropHyphen? cs
  let (day, cs) ← takeNumber? 2 (Text.trimStart cs)
  let d : Date := ⟨year, month, day⟩
  if cs.isEmpty && d.isValid then some d else none

/-- The day that a text stands for. -/
def ofText? (s : String) : Option Date :=
  ofTrimmed? (Text.trim s.toList)

end Spreadsheet.Date
