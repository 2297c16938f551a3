import Spreadsheet.Number.Shortest

/-!
# The text of a number

The shortest digits of a double are laid out positionally, with zeros where the digits do not
reach, or with an exponent. A layout says which, and how an exponent and a whole number look.
-/

namespace Spreadsheet.Number

/-- How the digits of a number are written. -/
structure Layout where
  /-- The least power of ten of a first digit that is written positionally, if there is one. -/
  lowest : Option Int
  /-- The greatest power of ten of a first digit that is written positionally, if there is one. -/
  highest : Option Int
  /-- A whole number in positional form ends in a point and a zero. -/
  pointed : Bool
  /-- A positive exponent has a sign. -/
  signedExponent : Bool
  /-- What is taken of two digits equally near. -/
  tie : Tie
  deriving DecidableEq, Repr

/-- The decimal digits of a natural number. -/
def digitsOf (n : Nat) : List Char :=
  Nat.toDigits 10 n

/-- Digits with the point after the first `whole` of them, zeros filling the gaps. -/
def positional (pointed : Bool) (digits : List Char) (whole : Int) : List Char :=
  if whole ≤ 0 then '0' :: '.' :: List.replicate (-whole).toNat '0' ++ digits
  else if digits.length ≤ whole.toNat then
    digits ++ List.replicate (whole.toNat - digits.length) '0' ++
      (if pointed then ['.', '0'] else [])
  else digits.take whole.toNat ++ '.' :: digits.drop whole.toNat

/-- The sign and the digits of an exponent. -/
def Layout.exponentText (layout : Layout) (exponent : Int) : List Char :=
  let digits := digitsOf exponent.natAbs
  if exponent < 0 then '-' :: digits
  else if layout.signedExponent then '+' :: digits
  else digits

/-- Digits with the point after the first, and the power of ten of that digit. -/
def Layout.scientific (layout : Layout) (digits : List Char) (exponent : Int) : List Char :=
  match digits with
  | [] => []
  | first :: rest =>
    first :: (if rest.isEmpty then [] else '.' :: rest) ++ 'e' :: layout.exponentText exponent

/-- A positive decimal number or zero in the given layout. -/
def Layout.decimal (layout : Layout) (d : Decimal) : List Char :=
  if d.digits = 0 then (if layout.pointed then ['0', '.', '0'] else ['0'])
  else
    let digits := digitsOf d.digits
    let exponent := d.exponent + digits.length - 1
    if layout.lowest.all (· ≤ exponent) && layout.highest.all (exponent ≤ ·) then
      positional layout.pointed digits (exponent + 1)
    else layout.scientific digits exponent

/-- The text of a double. -/
def Layout.write (layout : Layout) (x : Float) : String :=
  match form x with
  | .nan => "NaN"
  | .infinite negative => if negative then "-inf" else "inf"
  | .finite b =>
    let magnitude := layout.decimal (b.shortest layout.tie)
    String.ofList (if b.negative then '-' :: magnitude else magnitude)

/-- Numbers in full: never an exponent, and a point only before a fraction. -/
def Layout.plain : Layout :=
  { lowest := none
    highest := none
    pointed := false
    signedExponent := false
    tie := .greater }

/-- Numbers in messages: a point always, and an exponent below `10⁻⁴` and from `10¹⁶` on. -/
def Layout.message : Layout :=
  { lowest := some (-4)
    highest := some 15
    pointed := true
    signedExponent := false
    tie := .greater }

/-- Numbers in stored data: a point always, and a signed exponent below `10⁻⁵` and from `10¹⁶`
on. -/
def Layout.stored : Layout :=
  { lowest := some (-5)
    highest := some 15
    pointed := true
    signedExponent := true
    tie := .even }

end Spreadsheet.Number
