import Spreadsheet.Number.Binary

/-!
# Numbers from decimal digits

A decimal number becomes the nearest double, the even one of two equally near. Numbers far outside
the range of doubles are recognised by their size alone, so that no power of ten has to be formed.
-/

namespace Spreadsheet.Number

/-- A decimal digit. -/
def isDigit (c : Char) : Bool :=
  '0' ≤ c && c ≤ '9'

/-- The value of a decimal digit. -/
def digitValue (c : Char) : Nat :=
  c.toNat - '0'.toNat

/-- Digits of a base joined in pairs to digits of its square, the least significant ones first. -/
def joinPairs (base : Nat) : List Nat → List Nat
  | low :: high :: digits => (low + base * high) :: joinPairs base digits
  | digits => digits

/-- Joining makes no more digits. -/
theorem length_joinPairs_le (base : Nat) :
    (digits : List Nat) → (joinPairs base digits).length ≤ digits.length
  | [] => Nat.le_refl _
  | [_] => Nat.le_refl _
  | _ :: _ :: digits => by
    have := length_joinPairs_le base digits
    simp only [joinPairs, List.length_cons]
    omega

/-- The number with the given digits of a base, the least significant one first. Digits are joined
in pairs until a single one is left, so that long numbers are multiplied with long ones only. -/
def ofBaseDigits (base : Nat) : List Nat → Nat
  | [] => 0
  | [digit] => digit
  | low :: high :: digits =>
    ofBaseDigits (base * base) ((low + base * high) :: joinPairs base digits)
termination_by digits => digits.length
decreasing_by
  have := length_joinPairs_le base digits
  simp only [List.length_cons]
  omega

/-- The number with the given decimal digits. -/
def ofDigits (cs : List Char) : Nat :=
  ofBaseDigits 10 (cs.map digitValue).reverse

/-- Joining digits in pairs leaves their number as it is. -/
theorem foldr_joinPairs (base : Nat) :
    (digits : List Nat) →
      (joinPairs base digits).foldr (fun digit n => digit + base * base * n) 0 =
        digits.foldr (fun digit n => digit + base * n) 0
  | [] => rfl
  | [_] => by simp [joinPairs]
  | low :: high :: digits => by
    simp only [joinPairs, List.foldr_cons]
    rw [foldr_joinPairs base digits, Nat.mul_add, Nat.mul_assoc, Nat.add_assoc]

/-- The number with some digits is their sum, each one weighted by its power of the base. -/
theorem ofBaseDigits_eq_foldr (base : Nat) (digits : List Nat) :
    ofBaseDigits base digits = digits.foldr (fun digit n => digit + base * n) 0 := by
  fun_induction ofBaseDigits base digits with
  | case1 => rfl
  | case2 => simp
  | case3 base low high digits ih =>
    rw [ih, ← foldr_joinPairs base (low :: high :: digits), joinPairs]

/-- The number with some decimal digits grows digit by digit from the front. -/
theorem ofDigits_eq_foldl (cs : List Char) :
    ofDigits cs = cs.foldl (fun n c => 10 * n + digitValue c) 0 := by
  rw [ofDigits, ofBaseDigits_eq_foldr, List.foldr_reverse, List.foldl_map]
  simp only [Nat.add_comm]

/-- The double nearest to `digits · 10 ^ exponent`. -/
def ofDecimal (digits : Nat) (exponent : Int) : Float :=
  if digits = 0 then 0.0
  else if 310 ≤ exponent + (digits.log2 * 3 / 10 : Nat) then infinity false
  else if exponent + ((digits.log2 + 1) * 4 / 13 + 1 : Nat) < -330 then 0.0
  else Float.ofScientific digits (exponent < 0) exponent.natAbs

/-- The double with the given sign and magnitude. -/
def withSign (negative : Bool) (x : Float) : Float :=
  if negative then -x else x

end Spreadsheet.Number
