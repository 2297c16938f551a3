import Spreadsheet.Number.Binary

/-!
# The fewest digits that read back

The decimal numbers that are read as a given double form an interval. Its coarsest decimal grid
with a point in it gives the digits of the double: the point nearer to the double if both of the
double's neighbours on the grid lie in the interval.
-/

namespace Spreadsheet.Number

/-- The decimal number `digits · 10 ^ exponent`. -/
structure Decimal where
  /-- The digits as a natural number. -/
  digits : Nat
  /-- The power of ten of the last digit. -/
  exponent : Int
  deriving DecidableEq, Repr

/-- What is taken of two digits equally near. -/
inductive Tie where
  /-- The greater number. -/
  | greater
  /-- The even number. -/
  | even
  deriving DecidableEq, Repr

/-- A positive number and the interval of the numbers that are rounded to it, over a common
denominator. -/
structure Neighbourhood where
  /-- The number. -/
  centre : Nat
  /-- The lower end of the interval. -/
  lower : Nat
  /-- The upper end of the interval. -/
  upper : Nat
  /-- The ends belong to the interval. -/
  closed : Bool
  /-- The denominator of all three. -/
  denominator : Nat
  deriving DecidableEq, Repr

/-- The interval around a positive double: half the way to its neighbours, which stand nearer below
a power of two. The ends belong to it when the significand is even. -/
def Binary.neighbourhood (b : Binary) : Neighbourhood :=
  let below := if b.significand = fullSignificand ∧ leastExponent < b.exponent then 1 else 2
  let scale := b.exponent - 2
  let unit := Nat.pow 2 scale.toNat
  { centre := 4 * b.significand * unit
    lower := (4 * b.significand - below) * unit
    upper := (4 * b.significand + 2) * unit
    closed := b.significand % 2 == 0
    denominator := Nat.pow 2 (-scale).toNat }

namespace Neighbourhood

/-- The number `digits · 10 ^ exponent` lies in the interval. -/
def contains (n : Neighbourhood) (d : Decimal) : Bool :=
  let value := d.digits * Nat.pow 10 d.exponent.toNat * n.denominator
  let scale := Nat.pow 10 (-d.exponent).toNat
  if n.closed then n.lower * scale ≤ value && value ≤ n.upper * scale
  else n.lower * scale < value && value < n.upper * scale

/-- The point of the grid of step `10 ^ exponent` that lies in the interval and is nearest to its
centre. -/
def point? (tie : Tie) (n : Neighbourhood) (exponent : Int) : Option Decimal :=
  let numerator := n.centre * Nat.pow 10 (-exponent).toNat
  let denominator := n.denominator * Nat.pow 10 exponent.toNat
  let whole := numerator / denominator
  let rest := numerator % denominator
  let below : Decimal := ⟨whole, exponent⟩
  let above : Decimal := ⟨whole + 1, exponent⟩
  match n.contains below, n.contains above with
  | true, false => some below
  | false, true => some above
  | false, false => none
  | true, true =>
    if 2 * rest < denominator then some below
    else if denominator < 2 * rest then some above
    else
      match tie with
      | .greater => some above
      | .even => some (if whole % 2 = 0 then below else above)

/-- The first grid with a point in the interval among the `steps` grids from `exponent` down. -/
def search (tie : Tie) (n : Neighbourhood) (exponent : Int) : Nat → Option Decimal
  | 0 => none
  | steps + 1 =>
    match n.point? tie exponent with
    | some d => some d
    | none => search tie n (exponent - 1) steps

end Neighbourhood

/-- A power of ten that is greater than a positive quotient, and at most a hundred times greater. -/
def decimalOrder (numerator denominator : Nat) : Int :=
  if denominator ≤ numerator then ((Nat.toDigits 10 (numerator / denominator)).length : Int)
  else 2 - ((Nat.toDigits 10 (denominator / numerator)).length : Int)

/-- The shortest decimal form of the magnitude of `b`; zero is the single digit zero. -/
def Binary.shortest (tie : Tie) (b : Binary) : Decimal :=
  if b.significand = 0 then ⟨0, 0⟩
  else
    let n := b.neighbourhood
    (n.search tie (decimalOrder n.centre n.denominator) 24).getD ⟨0, 0⟩

end Spreadsheet.Number
