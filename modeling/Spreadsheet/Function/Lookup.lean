import Spreadsheet.Function.Argument
import Spreadsheet.Text.Case

/-!
# Lookup functions

A value is looked up among keys either by equality or, in keys that are in order, by the boundary
behind which the keys have passed it. Keys of another kind than the value are passed over.
-/

namespace Spreadsheet.Function

/-- The distance from which on numbers are different. -/
def closeness : Float := 1e-10

/-- Numbers are equal if they are close, and texts if they differ in case alone. -/
def matchesKey : Value → Value → Bool
  | .number x, .number y => (x - y).abs < closeness
  | .text s, .text t => Text.lower s == Text.lower t
  | .boolean a, .boolean b => a == b
  | _, _ => false

/-- The order of two numbers, if both are numbers. -/
def compareNumbers (x y : Float) : Option Ordering :=
  if x < y then some .lt else if x == y then some .eq else if y < x then some .gt else none

/-- The order of two values of one kind; texts are compared in lower case. -/
def compareKeys : Value → Value → Option Ordering
  | .number x, .number y => compareNumbers x y
  | .text s, .text t => some (compare (Text.lower s) (Text.lower t))
  | .boolean a, .boolean b => some (compare a.toNat b.toNat)
  | _, _ => none

/-- The place of the last key before the first one that has passed the target, `passed` being how
such a key compares with the target. The keys start at the place `i`, and `best` is the last place
so far. -/
def boundary (passed : Ordering) (target : Value) (i : Nat) (best : Option Nat) :
    List Value → Option Nat
  | [] => best
  | key :: keys =>
    match compareKeys key target with
    | none => boundary passed target (i + 1) best keys
    | some o => if o = passed then best else boundary passed target (i + 1) (some i) keys

/-- The place of the target among keys, by equality or in ascending keys. -/
def findKey (approximate : Bool) (target : Value) (keys : List Value) : Option Nat :=
  if approximate then boundary .gt target 0 none keys
  else keys.findIdx? (matchesKey target)

/-- The number of lines before the one that an argument selects, counted from one. -/
def selectedLine? (args : List Value) : Option Nat :=
  let line := Number.truncate (numberAt args 2 1.0)
  if line < 1.0 || line.isNaN then none else some (Number.toCount line - 1)

/-- The kind of lookup that the fourth argument selects, approximate if it is missing. -/
def isApproximate (args : List Value) : Bool :=
  (args[3]?.map Value.isTruthy).getD true

/-- A value that may be missing; then a reference led nowhere. -/
def orNowhere (v : Option Value) : Value :=
  v.getD (.error .invalidReference)

/-- The body of a lookup in a table: `keys` are the keys of a table and `cell?` is the cell of the
line that was found and the line that was selected. -/
def lookUp (keys : List (List Value) → List Value)
    (cell? : List (List Value) → (found selected : Nat) → Option Value) (args : List Value) :
    Value :=
  match args with
  | target :: table :: _ =>
    match selectedLine? args with
    | none => .error .invalidValue
    | some selected =>
      let rows := table.toRows
      match findKey (isApproximate args) target (keys rows) with
      | none => .error .notAvailable
      | some found => orNowhere (cell? rows found selected)
  | _ => .error .invalidValue

/-- The cell of a table. -/
def cellAt? (rows : List (List Value)) (row col : Nat) : Option Value :=
  rows[row]?.bind fun cells => cells[col]?

/-- A key is looked up in the first column, and a cell of its row is the result. Rows without cells
have no key. -/
def lookUpRow : List Value → Value :=
  lookUp (fun rows => rows.filterMap List.head?) fun rows found selected =>
    cellAt? rows found selected

/-- A key is looked up in the first row, and a cell of its column is the result. -/
def lookUpColumn : List Value → Value :=
  lookUp (fun rows => rows.head?.getD []) fun rows found selected => cellAt? rows selected found

/-- The number of cells of the longest row. -/
def tableWidth (rows : List (List Value)) : Nat :=
  (rows.map List.length).foldl max 0

/-- The part of a table at a row and a column, both counted from one; zero stands for all of them.
-/
def part (rows : List (List Value)) : (row col : Nat) → Value
  | 0, 0 => .array rows
  | 0, col + 1 => .array (rows.map fun cells => [cells[col]?.getD .empty])
  | row + 1, 0 => .array [rows[row]?.getD []]
  | row + 1, col + 1 => orNowhere (cellAt? rows row col)

/-- The row and the column that are selected. A single selector selects a row of the first column,
or a column if there is only one row. -/
def selectors (rows : List (List Value)) (args : List Value) : Float × Float :=
  let first := Number.truncate (numberAt args 1 0.0)
  if args.length < 3 then
    if rows.length = 1 then (1.0, first) else (first, 1.0)
  else (first, Number.truncate (numberAt args 2 0.0))

/-- A cell, a row or a column of a table. -/
def index (args : List Value) : Value :=
  match args with
  | [] => .error .invalidValue
  | table :: _ =>
    let rows := table.toRows
    let (row, col) := selectors rows args
    if row < 0.0 || col < 0.0 || row.isNaN || col.isNaN then .error .invalidValue
    else
      let row := Number.toCount row
      let col := Number.toCount col
      if rows.length < row || tableWidth rows < col then .error .invalidReference
      else part rows row col

/-- The place of the target among keys that are in the order that a number stands for: one for
ascending, minus one for descending and zero for none. -/
def position (order : Int) (target : Value) (keys : List Value) : Value :=
  let place : Option (Option Nat) :=
    if order = 0 then some (keys.findIdx? (matchesKey target))
    else if order = 1 then some (boundary .gt target 0 none keys)
    else if order = -1 then some (boundary .lt target 0 none keys)
    else none
  match place with
  | none => .error .invalidValue
  | some none => .error .notAvailable
  | some (some i) => ofCount (i + 1)

/-- The place of a value among others. -/
def findMatch (args : List Value) : Value :=
  match args with
  | target :: keys :: _ =>
    position (Number.toInt64 (Number.truncate (numberAt args 2 1.0))) target (spread keys)
  | _ => .error .invalidValue

end Spreadsheet.Function
