import Spreadsheet.Number.Binary

/-!
# Whole numbers from doubles

Rounding to a whole number in the usual directions, conversion to bounded integers, powers with
whole exponents, and the total order of doubles.
-/

namespace Spreadsheet.Number

/-- The whole number that a number between two of them becomes. -/
inductive Direction where
  /-- The lower one. -/
  | down
  /-- The higher one. -/
  | up
  /-- The one nearer to zero. -/
  | towardZero
  /-- The nearer one, and of two equally near the one farther from zero. -/
  | nearest
  deriving DecidableEq, Repr

/-- The whole number that `b` rounds to. -/
def Binary.toInteger (direction : Direction) (b : Binary) : Int :=
  let (numerator, denominator) := b.quotient
  let whole := numerator / denominator
  let rest := numerator % denominator
  let away : Bool :=
    match direction with
    | .towardZero => false
    | .down => b.negative && rest != 0
    | .up => !b.negative && rest != 0
    | .nearest => denominator ≤ 2 * rest
  let magnitude : Int := if away then whole + 1 else whole
  if b.negative then -magnitude else magnitude

/-- The double that a whole number of at most 53 bits is, with the given sign for zero. -/
def ofInteger (negative : Bool) (n : Int) : Float :=
  if n = 0 then (if negative then -0.0 else 0.0) else Float.ofInt n

/-- A double rounded to a whole number. Infinities and the double that is no number stay, and zero
keeps the sign of the number that became it. -/
def round (direction : Direction) (x : Float) : Float :=
  match form x with
  | .finite b => if 0 ≤ b.exponent then x else ofInteger b.negative (b.toInteger direction)
  | _ => x

/-- The largest whole number not above a double. -/
def floor (x : Float) : Float := round .down x

/-- The smallest whole number not below a double. -/
def ceiling (x : Float) : Float := round .up x

/-- A double without its fraction. -/
def truncate (x : Float) : Float := round .towardZero x

/-- The nearest whole number, halves away from zero. -/
def roundHalfAway (x : Float) : Float := round .nearest x

/-- A finite double without a fraction. -/
def isWhole (x : Float) : Bool :=
  match form x with
  | .finite b => b.quotient.1 % b.quotient.2 == 0
  | _ => false

/-- The whole part of a double, held within bounds; zero for the double that is no number. -/
def toBounded (least greatest : Int) (x : Float) : Int :=
  match form x with
  | .nan => 0
  | .infinite negative => if negative then least else greatest
  | .finite b => max least (min greatest (b.toInteger .towardZero))

/-- The whole part of a double as a signed word of 32 bits. -/
def toInt32 (x : Float) : Int :=
  toBounded (-Int.ofNat (Nat.pow 2 31)) (Int.ofNat (Nat.pow 2 31) - 1) x

/-- The whole part of a double as a signed word of 64 bits. -/
def toInt64 (x : Float) : Int :=
  toBounded (-Int.ofNat (Nat.pow 2 63)) (Int.ofNat (Nat.pow 2 63) - 1) x

/-- The whole part of a double as a count of at most 64 bits. -/
def toCount (x : Float) : Nat := (toBounded 0 (Int.ofNat (Nat.pow 2 64) - 1) x).toNat

/-- The product of `result` and `base` to the power `n`, by squaring. -/
def powerOnto (result base : Float) (n : Nat) : Float :=
  let next := if n % 2 = 1 then result * base else result
  if n / 2 = 0 then next else powerOnto next (base * base) (n / 2)
termination_by n
decreasing_by omega

/-- A power with a whole exponent; a negative one gives the reciprocal. -/
def power (base : Float) (n : Int) : Float :=
  let magnitude := powerOnto 1.0 base n.natAbs
  if n < 0 then 1.0 / magnitude else magnitude

/-- The place of a double in the order of all doubles: negative zero comes before zero, and the
double that is no number after infinity. -/
def rank (x : Float) : Int :=
  let bits := x.toBits.toNat
  if bits < Nat.pow 2 63 then bits else -((bits - Nat.pow 2 63 : Nat) : Int) - 1

/-- The smaller of two doubles, the second one if they are equal; a double that is no number gives
way. -/
def least (x y : Float) : Float :=
  if y.isNaN || x < y then x else y

/-- The greater of two doubles, the second one if they are equal; a double that is no number gives
way. -/
def greatest (x y : Float) : Float :=
  if y.isNaN || y < x then x else y

end Spreadsheet.Number
