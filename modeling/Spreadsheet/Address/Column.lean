import Spreadsheet.Number.Reading
import Spreadsheet.Text.Case

/-!
# Column labels

Columns are numbered from one and labelled by letters: A to Z, then AA to ZZ, and so on. A label is
a numeral to the base 26 whose digits are one to 26, so there is no zero and no second label for a
column.
-/

namespace Spreadsheet

/-- The greatest row and column. -/
def axisLimit : Nat := Nat.pow 2 32 - 1

namespace Column

/-- A letter that may stand in a column label, in either case. -/
def isLetter (c : Char) : Bool :=
  c.isUpper || c.isLower

/-- The value of a letter as a digit, one for A. -/
def letterValue (c : Char) : Nat :=
  (Text.upperAscii c).toNat - 'A'.toNat + 1

/-- The letter with the given value less one. -/
def letter (n : Nat) : Char :=
  Char.ofNat ('A'.toNat + n)

/-- The number that a sequence of letters denotes. -/
def value (letters : List Char) : Nat :=
  letters.foldl (fun n c => 26 * n + letterValue c) 0

/-- The column with the given label, if the label consists of letters and the column exists. -/
def ofLabel? (letters : List Char) : Option Nat :=
  if letters.isEmpty || !letters.all isLetter then none
  else if value letters ≤ axisLimit then some (value letters)
  else none

/-- The label of a column; zero has the empty label. -/
def label (n : Nat) : List Char :=
  if n = 0 then [] else label ((n - 1) / 26) ++ [letter ((n - 1) % 26)]
termination_by n
decreasing_by omega

/-- The value of a longer label from the value of its front. -/
theorem value_append_singleton (letters : List Char) (c : Char) :
    value (letters ++ [c]) = 26 * value letters + letterValue c := by
  simp [value]

/-- The label of a column in terms of a shorter one. -/
theorem label_of_pos {n : Nat} (h : n ≠ 0) :
    label n = label ((n - 1) / 26) ++ [letter ((n - 1) % 26)] := by
  rw [label, if_neg h]

end Column

end Spreadsheet
