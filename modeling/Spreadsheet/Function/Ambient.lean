import Spreadsheet.Date.Serial

/-!
# The moment of a calculation

Some functions depend on more than their arguments: on the day, on the time of the day, and on
chance. What they depend on is fixed for the length of a calculation.
-/

namespace Spreadsheet

/-- What functions may depend on besides their arguments. -/
structure Ambient where
  /-- The day. -/
  today : Date
  /-- The second of the day. -/
  second : Nat
  /-- A number drawn at random. -/
  draw : Nat
  deriving DecidableEq, Repr

namespace Ambient

/-- The number of equal steps between zero and one. -/
def unitSteps : Nat := Nat.pow 2 53

/-- A random number from zero on and below one. -/
def unit (ambient : Ambient) : Float :=
  (ambient.draw % unitSteps).toFloat / unitSteps.toFloat

/-- A random whole number between two bounds, themselves included. -/
def between (ambient : Ambient) (least greatest : Int) : Int :=
  least + (ambient.draw : Int) % (greatest - least + 1)

/-- The serial number of the day. -/
def day (ambient : Ambient) : Float :=
  Float.ofInt ambient.today.serial

/-- The serial number of the moment. -/
def moment (ambient : Ambient) : Float :=
  ambient.day + ambient.second.toFloat / Date.secondsPerDay.toFloat

/-- A random number between two bounds in order lies between them. -/
theorem between_mem (ambient : Ambient) {least greatest : Int} (h : least ≤ greatest) :
    least ≤ ambient.between least greatest ∧ ambient.between least greatest ≤ greatest := by
  have h₁ := Int.emod_nonneg (ambient.draw : Int) (b := greatest - least + 1) (by omega)
  have h₂ := Int.emod_lt_of_pos (ambient.draw : Int) (b := greatest - least + 1) (by omega)
  unfold between
  omega

end Ambient

end Spreadsheet
