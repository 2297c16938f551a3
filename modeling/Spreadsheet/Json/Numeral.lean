import Spreadsheet.Json.Basic
import Spreadsheet.Number.Leading

/-!
# Numbers in JSON

A numeral is a sign, digits without a leading zero, a fraction and an exponent. One without fraction
and exponent is a whole number if it fits into 64 bits. Any other is computed from as many digits as
fit into 64 bits, by a single multiplication or division by a power of ten, which may miss the
nearest double by its last bit; a number that is too large has no meaning.
-/

namespace Spreadsheet.Json

/-- The greatest number of 64 bits. -/
def greatestWord : Nat := Nat.pow 2 64 - 1

/-- The greatest power of ten among doubles. -/
def greatestPower : Nat := 308

/-- A power of ten as a double. -/
def powerOfTen (n : Nat) : Float :=
  Number.ofDecimal 1 n

/-- The digits joined to a significand as long as the result fits into 64 bits, with the numbers of
digits that were joined and that were left. -/
def joinDigits (significand : Nat) : List Char → Nat × Nat × Nat
  | [] => (significand, 0, 0)
  | c :: cs =>
    let next := 10 * significand + Number.digitValue c
    if greatestWord < next then (significand, 0, cs.length + 1)
    else
      let (result, joined, left) := joinDigits next cs
      (result, joined + 1, left)

/-- The number `x · 10 ^ exponent`, unless it is too large. -/
def scale? (x : Float) (exponent : Int) : Option Float :=
  if exponent.natAbs ≤ greatestPower then
    if 0 ≤ exponent then
      let y := x * powerOfTen exponent.natAbs
      if y.isFinite then some y else none
    else some (x / powerOfTen exponent.natAbs)
  else if x == 0.0 then some x
  else if 0 ≤ exponent then none
  else scale? (x / powerOfTen greatestPower) (exponent + greatestPower)
termination_by exponent.natAbs
decreasing_by simp [greatestPower] at *; omega

/-- The parts of a numeral. -/
structure Numeral where
  /-- There is a minus sign. -/
  negative : Bool
  /-- The digits before the point. -/
  whole : List Char
  /-- The digits behind the point, if there is a point. -/
  fraction : Option (List Char)
  /-- The exponent, if there is one. -/
  exponent : Option Int
  deriving DecidableEq, Repr

namespace Numeral

/-- The value of a numeral that is not a whole number of 64 bits. -/
def toDecimal (n : Numeral) : Json :=
  let (start, _, left) := joinDigits 0 n.whole
  let (significand, joined, _) := joinDigits start (n.fraction.getD [])
  let exponent : Int := (left : Int) - (joined : Int) + n.exponent.getD 0
  match scale? (Number.ofDecimal significand 0) exponent with
  | some x => .decimal (Number.withSign n.negative x)
  | none => .meaningless

/-- The value of a numeral. -/
def toJson (n : Numeral) : Json :=
  let whole := Number.ofDigits n.whole
  if n.fraction.isSome || n.exponent.isSome then n.toDecimal
  else if !n.negative && whole ≤ greatestWord then .integer whole
  else if n.negative && whole != 0 && whole ≤ Nat.pow 2 63 then .integer (-whole)
  else n.toDecimal

end Numeral

/-- The digits behind a point, if there is a point, and the text behind them. A point needs a
digit. -/
def takeFraction? : List Char → Option (Option (List Char) × List Char)
  | '.' :: cs =>
    let (digits, rest) := Number.takeDigits cs
    if digits.isEmpty then none else some (some digits, rest)
  | cs => some (none, cs)

/-- The exponent, if there is one, and the text behind it. An exponent needs a digit. -/
def takeExponent? : List Char → Option (Option Int × List Char)
  | [] => some (none, [])
  | c :: cs =>
    if c = 'e' ∨ c = 'E' then
      let (negative, cs) := Number.takeSign cs
      let (digits, rest) := Number.takeDigits cs
      let magnitude : Int := Number.ofDigits digits
      if digits.isEmpty then none
      else some (some (if negative then -magnitude else magnitude), rest)
    else some (none, c :: cs)

/-- The numeral at the front and the text behind it. -/
def takeNumeral? (cs : List Char) : Option (Numeral × List Char) := do
  let (negative, cs) := match cs with
    | '-' :: cs => (true, cs)
    | cs => (false, cs)
  let (whole, cs) := Number.takeDigits cs
  if whole.isEmpty || (whole.head? == some '0' && whole.length != 1) then none
  let (fraction, cs) ← takeFraction? cs
  let (exponent, cs) ← takeExponent? cs
  return (⟨negative, whole, fraction, exponent⟩, cs)

end Spreadsheet.Json
