import Spreadsheet.Function.Finance
import Spreadsheet.Function.Logic
import Spreadsheet.Function.Lookup
import Spreadsheet.Function.Statistics
import Spreadsheet.Function.Text
import Spreadsheet.Function.Time

/-!
# The library of functions

Every function has a name in upper case, a category, and bounds on the number of its arguments. A
call names a function in any case; the name of an unknown function and a wrong number of arguments
make the result an error.
-/

namespace Spreadsheet

/-- What a function is for. -/
inductive Category where
  /-- Arithmetic. -/
  | math
  /-- Statistics. -/
  | statistical
  /-- Texts. -/
  | text
  /-- Date and time. -/
  | dateTime
  /-- Choices and tests. -/
  | logical
  /-- Search in tables. -/
  | lookup
  /-- Money over time. -/
  | financial
  deriving DecidableEq, Repr

/-- A function that formulas can call. -/
structure Function where
  /-- The name. -/
  name : String
  /-- The category. -/
  category : Category
  /-- The least number of arguments. -/
  least : Nat
  /-- The greatest number of arguments, if there is one. -/
  greatest : Option Nat
  /-- The value for given arguments. -/
  run : Ambient → List Value → Value

namespace Function

/-- The function takes so many arguments. -/
def accepts (f : Function) (count : Nat) : Bool :=
  f.least ≤ count && f.greatest.all (count ≤ ·)

/-- A function whose value depends on its arguments alone. -/
def steady (name : String) (category : Category) (least : Nat) (greatest : Option Nat)
    (run : List Value → Value) : Function :=
  ⟨name, category, least, greatest, fun _ => run⟩

/-- The mathematical functions. -/
def mathematical : List Function :=
  [ steady "SUM" .math 0 none sum,
    steady "AVERAGE" .math 1 none average,
    steady "MIN" .math 0 none minimum,
    steady "MAX" .math 0 none maximum,
    steady "COUNT" .math 0 none count,
    steady "COUNTA" .math 0 none countFilled,
    steady "COUNTBLANK" .math 1 none countBlank,
    steady "ROUND" .math 1 (some 2) round,
    steady "ROUNDUP" .math 1 (some 2) roundUp,
    steady "ROUNDDOWN" .math 1 (some 2) roundDown,
    steady "ABS" .math 1 (some 1) magnitude,
    steady "POWER" .math 2 (some 2) power,
    steady "SQRT" .math 1 (some 1) squareRoot,
    steady "EXP" .math 1 (some 1) exponential,
    steady "LN" .math 1 (some 1) naturalLog,
    steady "LOG" .math 1 (some 2) logarithm,
    steady "LOG10" .math 1 (some 1) decimalLog,
    steady "MOD" .math 2 (some 2) remainder,
    steady "PI" .math 0 (some 0) circleRatio,
    ⟨"RAND", .math, 0, some 0, random⟩,
    ⟨"RANDBETWEEN", .math, 2, some 2, randomBetween⟩ ]

/-- The statistical functions. -/
def statistical : List Function :=
  [ steady "MEDIAN" .statistical 1 none median,
    steady "MODE" .statistical 1 none mode,
    steady "STDEV" .statistical 1 none deviation,
    steady "VAR" .statistical 1 none variance ]

/-- The text functions. -/
def textual : List Function :=
  [ steady "CONCATENATE" .text 1 none concatenate,
    steady "LEFT" .text 1 (some 2) left,
    steady "RIGHT" .text 1 (some 2) right,
    steady "MID" .text 3 (some 3) middlePart,
    steady "LEN" .text 1 (some 1) length,
    steady "LOWER" .text 1 (some 1) lowerCase,
    steady "UPPER" .text 1 (some 1) upperCase,
    steady "PROPER" .text 1 (some 1) properCase,
    steady "TRIM" .text 1 (some 1) trimSpaces,
    steady "SUBSTITUTE" .text 3 (some 4) substitute,
    steady "FIND" .text 2 (some 3) find,
    steady "SEARCH" .text 2 (some 3) search ]

/-- The functions of date and time. -/
def temporal : List Function :=
  [ steady "DATE" .dateTime 3 (some 3) makeDate,
    steady "YEAR" .dateTime 1 (some 1) year,
    steady "MONTH" .dateTime 1 (some 1) month,
    steady "DAY" .dateTime 1 (some 1) day,
    steady "HOUR" .dateTime 1 (some 1) hour,
    steady "MINUTE" .dateTime 1 (some 1) minute,
    steady "SECOND" .dateTime 1 (some 1) second,
    steady "WEEKDAY" .dateTime 1 (some 2) weekday,
    ⟨"TODAY", .dateTime, 0, some 0, today⟩,
    ⟨"NOW", .dateTime, 0, some 0, now⟩ ]

/-- The logical functions. -/
def logical : List Function :=
  [ steady "IF" .logical 2 (some 3) choice,
    steady "AND" .logical 1 none conjunction,
    steady "OR" .logical 1 none disjunction,
    steady "NOT" .logical 1 (some 1) negation,
    steady "TRUE" .logical 0 (some 0) (constant true),
    steady "FALSE" .logical 0 (some 0) (constant false),
    steady "IFERROR" .logical 2 (some 2) fallback,
    steady "ISBLANK" .logical 1 (some 1) (testFirst Value.isBlank),
    steady "ISERROR" .logical 1 (some 1) (testFirst Value.isError),
    steady "ISTEXT" .logical 1 (some 1) (testFirst isText),
    steady "ISNUMBER" .logical 1 (some 1) (testFirst isNumber) ]

/-- The lookup functions. -/
def lookups : List Function :=
  [ steady "VLOOKUP" .lookup 3 (some 4) lookUpRow,
    steady "HLOOKUP" .lookup 3 (some 4) lookUpColumn,
    steady "INDEX" .lookup 2 (some 3) index,
    steady "MATCH" .lookup 2 (some 3) findMatch ]

/-- The financial functions. -/
def financial : List Function :=
  [ steady "PMT" .financial 3 (some 5) payment,
    steady "FV" .financial 3 (some 5) futureValue,
    steady "PV" .financial 3 (some 5) presentValue,
    steady "NPV" .financial 2 none netPresentValue,
    steady "IRR" .financial 1 (some 2) internalRate ]

/-- All functions. -/
def library : List Function :=
  mathematical ++ statistical ++ textual ++ temporal ++ logical ++ lookups ++ financial

/-- The function of the given name, in any case. -/
def named? (name : String) : Option Function :=
  let upper := Text.upper name
  library.find? fun f => f.name == upper

/-- The names of the functions of a category in alphabetical order. -/
def namesIn (category : Category) : List String :=
  ((library.filter fun f => f.category == category).map Function.name).mergeSort (· ≤ ·)

/-- The value of a call. -/
def invoke (ambient : Ambient) (name : String) (args : List Value) : Value :=
  match named? name with
  | none => .error (.invalidName (Text.upper name))
  | some f => if f.accepts args.length then f.run ambient args else .error .invalidValue

end Function

end Spreadsheet
