/-!
# Doubles as exact numbers

A finite double is a sign, a natural significand and a power of two. Everything that is decided
about a double beyond its arithmetic is decided on this form, in exact integer arithmetic.
-/

namespace Spreadsheet.Number

/-- The number `±significand · 2 ^ exponent`, with a sign of its own for zero. -/
structure Binary where
  /-- The number carries a minus sign. -/
  negative : Bool
  /-- The magnitude in units of the power of two. -/
  significand : Nat
  /-- The power of two. -/
  exponent : Int
  deriving DecidableEq, Repr

/-- What a double stands for. -/
inductive Form where
  /-- No number. -/
  | nan
  /-- An infinity with its sign. -/
  | infinite (negative : Bool)
  /-- A number. -/
  | finite (value : Binary)
  deriving DecidableEq, Repr

/-- The smallest significand of a double of full precision. -/
def fullSignificand : Nat := Nat.pow 2 52

/-- The exponent of the doubles next to zero. -/
def leastExponent : Int := -1074

/-- The number that a double stands for, read off its bits. -/
def form (x : Float) : Form :=
  let bits : Nat := x.toBits.toNat
  let negative := bits / Nat.pow 2 63 == 1
  let field : Nat := bits / Nat.pow 2 52 % Nat.pow 2 11
  let fraction : Nat := bits % Nat.pow 2 52
  if field = 2047 then
    if fraction = 0 then .infinite negative else .nan
  else if field = 0 then .finite ⟨negative, fraction, leastExponent⟩
  else .finite ⟨negative, fullSignificand + fraction, (field : Int) - 1075⟩

/-- The magnitude as a quotient of natural numbers. -/
def Binary.quotient (b : Binary) : Nat × Nat :=
  if 0 ≤ b.exponent then (b.significand * Nat.pow 2 b.exponent.toNat, 1)
  else (b.significand, Nat.pow 2 (-b.exponent).toNat)

/-- The infinity with the given sign. -/
def infinity (negative : Bool) : Float :=
  Float.ofBits (if negative then 0xFFF0000000000000 else 0x7FF0000000000000)

/-- The double that is no number. -/
def nan : Float :=
  Float.ofBits 0x7FF8000000000000

/-- The denominator of a magnitude is positive. -/
theorem Binary.quotient_snd_pos (b : Binary) : 0 < b.quotient.2 := by
  unfold Binary.quotient
  split
  · exact Nat.one_pos
  · exact Nat.pow_pos (by decide)

end Spreadsheet.Number
