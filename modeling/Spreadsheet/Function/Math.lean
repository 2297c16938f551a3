import Spreadsheet.Function.Ambient
import Spreadsheet.Function.Argument

/-!
# Mathematical functions

Sums, counts and extrema of many values, rounding to decimal places, powers, roots and logarithms,
and random numbers.
-/

namespace Spreadsheet.Function

/-- The sum of all values, whatever is no number counting as zero. -/
def sum (args : List Value) : Value :=
  .ofResult (total ((flatten args).map Value.toNumber))

/-- The mean of some numbers. -/
def mean (xs : List Float) : Float :=
  total xs / xs.length.toFloat

/-- The mean of the numbers. -/
def average (args : List Value) : Value :=
  let xs := numbers args
  if xs.isEmpty then .error .divisionByZero else .ofResult (mean xs)

/-- The extremum that a choice between two numbers yields, zero without numbers. -/
def extremum (choose : Float → Float → Float) : List Float → Value
  | [] => .number 0.0
  | x :: xs => .number (xs.foldl choose x)

/-- The smallest number. -/
def minimum (args : List Value) : Value :=
  extremum Number.least (numbers args)

/-- The greatest number. -/
def maximum (args : List Value) : Value :=
  extremum Number.greatest (numbers args)

/-- A value that is a number by itself. -/
def isNumber : Value → Bool
  | .number _ => true
  | _ => false

/-- How many values are numbers. -/
def count (args : List Value) : Value :=
  ofCount ((flatten args).countP isNumber)

/-- How many values are not blank. -/
def countFilled (args : List Value) : Value :=
  ofCount ((flatten args).countP fun v => !v.isBlank)

/-- How many values are blank. -/
def countBlank (args : List Value) : Value :=
  ofCount ((flatten args).countP Value.isBlank)

/-- The greatest number of decimal places that matters in either direction. -/
def placeLimit : Float := 308.0

/-- A number of decimal places held within the limit. -/
def boundedPlaces (x : Float) : Int :=
  let whole := Number.truncate x
  Number.toInt32 (if whole < -placeLimit then -placeLimit else
    if placeLimit < whole then placeLimit else whole)

/-- A number rounded to decimal places, negative places standing left of the point. A number with
more places than a double carries stays as it is. -/
def roundPlaces (op : Float → Float) (x : Float) (places : Int) : Value :=
  let factor := Number.power 10.0 places.natAbs
  if 0 ≤ places then
    if (x * factor).isFinite then .ofResult (op (x * factor) / factor) else .number x
  else .ofResult (op (x / factor) * factor)

/-- The first argument rounded to the places of the second. -/
def roundWith (op : Float → Float) (args : List Value) : Value :=
  roundPlaces op (numberAt args 0 0.0) (boundedPlaces (numberAt args 1 0.0))

/-- Rounding to the nearest number, halves away from zero. -/
def round : List Value → Value :=
  roundWith Number.roundHalfAway

/-- Minus one for numbers with a sign, zero included, and one for the others. -/
def signOf (x : Float) : Float :=
  if x.isNaN then x else if x.toBits.toNat < Nat.pow 2 63 then 1.0 else -1.0

/-- Rounding away from zero. -/
def roundUp : List Value → Value :=
  roundWith fun x => signOf x * Number.ceiling x.abs

/-- Rounding toward zero. -/
def roundDown : List Value → Value :=
  roundWith Number.truncate

/-- The magnitude. -/
def magnitude (args : List Value) : Value :=
  .number (numberAt args 0 0.0).abs

/-- The first number to the power of the second. -/
def power (args : List Value) : Value :=
  .ofResult ((numberAt args 0 0.0).pow (numberAt args 1 0.0))

/-- The square root. -/
def squareRoot (args : List Value) : Value :=
  let x := numberAt args 0 0.0
  if x < 0.0 then .error .invalidNumber else .number x.sqrt

/-- The exponential function. -/
def exponential (args : List Value) : Value :=
  .ofResult (numberAt args 0 0.0).exp

/-- The natural logarithm. -/
def naturalLog (args : List Value) : Value :=
  let x := numberAt args 0 0.0
  if x ≤ 0.0 then .error .invalidNumber else .number x.log

/-- The logarithm to a base, ten if none is given. -/
def logarithm (args : List Value) : Value :=
  let x := numberAt args 0 0.0
  let base := numberAt args 1 10.0
  if x ≤ 0.0 || base ≤ 0.0 then .error .invalidNumber
  else if base == 1.0 then .error .divisionByZero
  else .ofResult (x.log / base.log)

/-- The logarithm to the base ten. -/
def decimalLog (args : List Value) : Value :=
  let x := numberAt args 0 0.0
  if x ≤ 0.0 then .error .invalidNumber else .number x.log10

/-- The remainder with the sign of the divisor. -/
def remainder (args : List Value) : Value :=
  let x := numberAt args 0 0.0
  let divisor := numberAt args 1 0.0
  if divisor == 0.0 then .error .divisionByZero
  else .ofResult (x - divisor * Number.floor (x / divisor))

/-- The ratio of the circumference of a circle to its diameter. -/
def circleRatio (_ : List Value) : Value :=
  .number 3.141592653589793

/-- A random number from zero on and below one. -/
def random (ambient : Ambient) (_ : List Value) : Value :=
  .number ambient.unit

/-- A random whole number between two bounds. -/
def randomBetween (ambient : Ambient) (args : List Value) : Value :=
  let bottom := Number.ceiling (numberAt args 0 0.0)
  let top := Number.floor (numberAt args 1 0.0)
  if !bottom.isFinite || !top.isFinite || top < bottom then .error .invalidNumber
  else .number (Float.ofInt (ambient.between (Number.toInt64 bottom) (Number.toInt64 top)))

end Spreadsheet.Function
