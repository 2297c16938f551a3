import Spreadsheet.Number.Reading
import Spreadsheet.Text.Blank

/-!
# The number at the start of a text

A number is a sign, digits with a point among them, and an exponent; the sign, the point and the
exponent may be missing, but not all digits. What follows the longest such part is not looked at.
An exponent is read only until it is large, and its further digits change nothing. This is seen in
numbers alone that have tens of thousands of digits to make up for such an exponent.
-/

namespace Spreadsheet.Number

/-- A sign and the text behind it. -/
def takeSign : List Char → Bool × List Char
  | '+' :: cs => (false, cs)
  | '-' :: cs => (true, cs)
  | cs => (false, cs)

/-- The digits at the front and the text behind them. -/
def takeDigits (cs : List Char) : List Char × List Char :=
  (cs.takeWhile isDigit, cs.dropWhile isDigit)

/-- The digits behind a point, if there is a point, and the text behind them. -/
def takeFraction : List Char → List Char × List Char
  | '.' :: cs => takeDigits cs
  | cs => ([], cs)

/-- The size from which on the further digits of an exponent are passed over. -/
def exponentLimit : Nat := Nat.pow 2 16

/-- The exponent with the given digits. -/
def exponentOfDigits (cs : List Char) : Nat :=
  cs.foldl (fun n c => if n < exponentLimit then 10 * n + digitValue c else n) 0

/-- The exponent at the front, zero if there is none with a digit. -/
def takeExponent : List Char → Int
  | c :: cs =>
    if c = 'e' ∨ c = 'E' then
      let (negative, cs) := takeSign cs
      let magnitude : Int := exponentOfDigits (takeDigits cs).1
      if negative then -magnitude else magnitude
    else 0
  | [] => 0

/-- The number that a text without white space at its front starts with. -/
def leadingOfTrimmed (cs : List Char) : Option Float :=
  let (negative, cs) := takeSign cs
  let (whole, cs) := takeDigits cs
  let (fraction, cs) := takeFraction cs
  if whole.isEmpty && fraction.isEmpty then none
  else
    some (withSign negative
      (ofDecimal (ofDigits (whole ++ fraction)) (takeExponent cs - (fraction.length : Int))))

/-- The number that a text starts with, behind white space. -/
def leading (s : String) : Option Float :=
  leadingOfTrimmed (Text.trimStart s.toList)

/-- The digits at the front and the rest make up the text. -/
theorem takeDigits_append (cs : List Char) : (takeDigits cs).1 ++ (takeDigits cs).2 = cs :=
  List.takeWhile_append_dropWhile

/-- What is taken as digits is digits. -/
theorem isDigit_of_mem_takeDigits {cs : List Char} {c : Char} (h : c ∈ (takeDigits cs).1) :
    isDigit c = true :=
  List.all_eq_true.mp List.all_takeWhile _ h

end Spreadsheet.Number
