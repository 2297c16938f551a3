import Spreadsheet.Function.Math

/-!
# Statistical functions

The middle and the most frequent of some numbers, and how far they are spread. The variance is that
of a whole population: the mean square of the distances from the mean.
-/

namespace Spreadsheet.Function

/-- Numbers in ascending order, negative zero before zero. -/
def ascending (xs : List Float) : List Float :=
  xs.mergeSort fun x y => Number.rank x ≤ Number.rank y

/-- The middle of numbers in order, the mean of two in the middle. -/
def middle? (xs : List Float) : Option Float :=
  let half := xs.length / 2
  if xs.length % 2 = 1 then xs[half]?
  else
    match xs[half - 1]?, xs[half]? with
    | some x, some y => some ((x + y) / 2.0)
    | _, _ => none

/-- The middle of the numbers. -/
def median (args : List Value) : Value :=
  match middle? (ascending (numbers args)) with
  | some x => .number x
  | none => .error .invalidNumber

/-- A number that occurs more than once and the number of its occurrences. -/
abbrev Repeated := Float × Nat

/-- The more frequent of two repeated numbers, the first one if they are equally frequent. -/
def moreFrequent (best : Option Repeated) (candidate : Repeated) : Option Repeated :=
  match best with
  | none => some candidate
  | some b => if b.2 < candidate.2 then some candidate else some b

/-- The most frequent number of `rest` that occurs more than once and not in `before`, or the best
one so far. -/
def mostFrequent (before : List Float) (best : Option Repeated) : List Float → Option Repeated
  | [] => best
  | x :: rest =>
    let occurrences := (x :: rest).countP (· == x)
    let next :=
      if before.contains x then best
      else if 1 < occurrences then moreFrequent best (x, occurrences)
      else best
    mostFrequent (x :: before) next rest

/-- The most frequent number. -/
def mode (args : List Value) : Value :=
  match mostFrequent [] none (numbers args) with
  | some (x, _) => .number x
  | none => .error .notAvailable

/-- The mean square of the distances from the mean, if there are numbers. -/
def variance? (xs : List Float) : Option Float :=
  if xs.isEmpty then none
  else
    let centre := mean xs
    some (mean (xs.map fun x => Number.power (x - centre) 2))

/-- The variance of the numbers. -/
def variance (args : List Value) : Value :=
  match variance? (numbers args) with
  | some v => .ofResult v
  | none => .error .divisionByZero

/-- The standard deviation of the numbers. -/
def deviation (args : List Value) : Value :=
  match variance? (numbers args) with
  | some v => .ofResult v.sqrt
  | none => .error .divisionByZero

end Spreadsheet.Function
