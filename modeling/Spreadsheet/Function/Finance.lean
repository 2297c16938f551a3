import Spreadsheet.Function.Argument

/-!
# Financial functions

Annuities, present values of cash flows, and the rate at which a present value vanishes. Money that
is paid is negative, and money that is received positive.
-/

namespace Spreadsheet.Function

/-- Payments of an annuity are due at the start of each period. -/
def dueAtStart (args : List Value) : Bool :=
  numberAt args 4 0.0 != 0.0

/-- The payment per period for an amount now and an amount at the end. -/
def payment (args : List Value) : Value :=
  let rate := numberAt args 0 0.0
  let periods := numberAt args 1 0.0
  let present := numberAt args 2 0.0
  let future := numberAt args 3 0.0
  if periods == 0.0 then .error .invalidNumber
  else if rate == 0.0 then .ofResult (-(present + future) / periods)
  else
    let growth := (1.0 + rate).pow periods
    let amount := rate * (present * growth + future) / (growth - 1.0)
    .ofResult (if dueAtStart args then -amount / (1.0 + rate) else -amount)

/-- The amount at the end of payments that grow with the rate. -/
def accumulated (args : List Value) (rate payment growth : Float) : Float :=
  let amount := payment * (growth - 1.0) / rate
  if dueAtStart args then amount * (1.0 + rate) else amount

/-- The amount at the end for payments and an amount now. -/
def futureValue (args : List Value) : Value :=
  let rate := numberAt args 0 0.0
  let periods := numberAt args 1 0.0
  let payment := numberAt args 2 0.0
  let present := numberAt args 3 0.0
  if rate == 0.0 then .ofResult (-present - payment * periods)
  else
    let growth := (1.0 + rate).pow periods
    .ofResult (-present * growth - accumulated args rate payment growth)

/-- The amount now for payments and an amount at the end. -/
def presentValue (args : List Value) : Value :=
  let rate := numberAt args 0 0.0
  let periods := numberAt args 1 0.0
  let payment := numberAt args 2 0.0
  let future := numberAt args 3 0.0
  if rate == 0.0 then .ofResult (-future - payment * periods)
  else
    let growth := (1.0 + rate).pow periods
    .ofResult ((-future - accumulated args rate payment growth) / growth)

/-- The present value of cash flows at the ends of the periods. -/
def netPresentValue (args : List Value) : Value :=
  let rate := numberAt args 0 0.0
  if rate == -1.0 then .error .divisionByZero
  else
    let discounted := (numbers (args.drop 1)).mapIdx fun i flow =>
      flow / Number.power (1.0 + rate) (i + 1)
    .ofResult (total discounted)

/-- The number of steps after which the search for a rate is given up. -/
def rateSteps : Nat := 100

/-- The distance between two rates at which the search for a rate ends. -/
def rateTolerance : Float := 1e-8

/-- The rate at which the search for a rate starts. -/
def rateGuess : Float := 0.1

/-- The present value of cash flows from the period `t` on and its derivative, added to those of the
flows before them. -/
def valueAndSlope (base : Float) (t : Nat) (value slope : Float) : List Float → Float × Float
  | [] => (value, slope)
  | flow :: flows =>
    let time := t.toFloat
    valueAndSlope base (t + 1) (value + flow / base.pow time)
      (slope - time * flow / base.pow (time + 1.0)) flows

/-- The rate after one step along the tangent, if there is one. -/
def nextRate? (flows : List Float) (rate : Float) : Option Float :=
  let (value, slope) := valueAndSlope (1.0 + rate) 0 0.0 0.0 flows
  if slope == 0.0 || !slope.isFinite then none
  else
    let next := rate - value / slope
    if !next.isFinite || next ≤ -1.0 then none else some next

/-- The rate at which the present value vanishes, sought along tangents. -/
def seekRate (flows : List Float) : (steps : Nat) → Float → Option Float
  | 0, _ => none
  | steps + 1, rate =>
    match nextRate? flows rate with
    | none => none
    | some next =>
      if (next - rate).abs < rateTolerance then some next else seekRate flows steps next

/-- The rate at which the present value of cash flows of both signs vanishes. -/
def internalRate (args : List Value) : Value :=
  let flows := numbers (args.take 1)
  if flows.any (0.0 < ·) && flows.any (· < 0.0) then
    match seekRate flows rateSteps (numberAt args 1 rateGuess) with
    | some rate => .number rate
    | none => .error .invalidNumber
  else .error .invalidNumber

end Spreadsheet.Function
