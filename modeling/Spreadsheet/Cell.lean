import Spreadsheet.Address.Qualified
import Spreadsheet.Value.Basic

/-!
# Cell records

A record holds what was written into a cell, what came of it, and the edges of the cell in the
dependency graph, in both directions. A cell that is read before it is written has a record too,
with nothing in it but edges.
-/

namespace Spreadsheet

/-- What is recorded of a cell. -/
structure Cell where
  /-- The raw value, or the latest value of the formula. -/
  value : Value
  /-- The text of the formula, if the cell has one. -/
  formula : Option String
  /-- The error that the cell shows whatever its formula says. -/
  error : Option CellError
  /-- The cells that the formula reads. -/
  dependencies : AddressSet
  /-- The cells whose formulas read this one. -/
  dependents : AddressSet

namespace Cell

/-- A record with a raw value and no edges. -/
def ofValue (v : Value) : Cell :=
  ⟨v, none, none, ∅, ∅⟩

/-- The record of a cell that was never written. -/
def blank : Cell := ofValue .empty

/-- The cell holds a formula. -/
def isFormula (c : Cell) : Bool :=
  c.formula.isSome

/-- The cell shows nothing and holds neither a formula nor an error. -/
def isEmpty (c : Cell) : Bool :=
  c.value.isBlank && c.formula.isNone && c.error.isNone

/-- The record with `reader` among the cells that read it. -/
def addDependent (reader : QualifiedAddress) (c : Cell) : Cell :=
  { c with dependents := c.dependents.insert reader }

/-- The record with `reader` no longer among the cells that read it. -/
def removeDependent (reader : QualifiedAddress) (c : Cell) : Cell :=
  { c with dependents := c.dependents.erase reader }

end Cell

end Spreadsheet
