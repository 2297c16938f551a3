/-!
# Runs of case mappings

Neighbouring letters mostly differ from their other case by the same distance, either all of them
or every second one. A run records such a stretch.
-/

namespace Spreadsheet.Text

/-- Code points from `first` to `last` in steps, each mapped to the point `shift` further on. -/
structure CaseRun where
  /-- The first code point of the run. -/
  first : Nat
  /-- The last code point of the run. -/
  last : Nat
  /-- The distance between neighbours, one or two. -/
  step : Nat
  /-- The distance from a code point to its image. -/
  shift : Int
  deriving DecidableEq, Repr

namespace CaseRun

/-- A code point is one of those the run maps. -/
def covers (run : CaseRun) (point : Nat) : Bool :=
  run.first ≤ point && point ≤ run.last && (point - run.first) % run.step == 0

/-- The image of a code point under the first run that covers it. -/
def image? (runs : List CaseRun) (point : Nat) : Option Nat :=
  (runs.find? (·.covers point)).map fun run => ((point : Int) + run.shift).toNat

end CaseRun

end Spreadsheet.Text
