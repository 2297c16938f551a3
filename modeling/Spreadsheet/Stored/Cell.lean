import Spreadsheet.Cell
import Spreadsheet.Stored.Value

/-!
# Cell records in stored form

A record is stored with its value and with whatever else it has: the formula, the error and the
edges in both directions. Cells are named by their addresses.
-/

namespace Spreadsheet

namespace Json

/-- A field that may be missing or null. -/
def optional? {α : Type} (read : Json → Option α) : Option Json → Option (Option α)
  | none => some none
  | some .null => some none
  | some json => (read json).map some

end Json

/-- The stored form of a set of addresses. -/
def addressesToJson (cells : AddressSet) : Json :=
  .array (cells.toList.map fun a => .text a.text)

/-- The address with the given stored form. -/
def addressOfJson? (json : Json) : Option QualifiedAddress := do
  let s ← json.toText?
  (QualifiedAddress.ofText s).toOption

/-- The set of addresses with the given stored form, empty if it is missing. -/
def addressesOfJson? (levels : Nat) : Option Json → Option AddressSet
  | none => some ∅
  | some (.array items) =>
    if levels = 0 then none else (items.mapM addressOfJson?).map fun cells => .ofList cells
  | some _ => none

namespace Cell

/-- A set of addresses as a field, which is left out if the set is empty. -/
def edgesField (name : String) (cells : AddressSet) : List (String × Json) :=
  if cells.isEmpty then [] else [(name, addressesToJson cells)]

/-- The stored form of a record. -/
def toJson (c : Cell) : Json :=
  .object (
    ("value", c.value.toJson) ::
    (c.formula.toList.map fun s => ("formula", .text s)) ++
    (c.error.toList.map fun e => ("error", e.toJson)) ++
    edgesField "dependencies" c.dependencies ++
    edgesField "dependents" c.dependents)

/-- The names of the fields of a record. -/
def fieldNames : List String :=
  ["value", "formula", "error", "dependencies", "dependents"]

/-- The record with the given stored form. -/
def ofJson? : (levels : Nat) → Json → Option Cell
  | 0, _ => none
  | levels + 1, json =>
    match json.fields? fieldNames with
    | some [some value, formula, error, dependencies, dependents] => do
      let value ← Value.ofJson? levels .text value
      let formula ← Json.optional? Json.toText? formula
      let error ← Json.optional? (CellError.ofJson? levels .text) error
      let dependencies ← addressesOfJson? levels dependencies
      let dependents ← addressesOfJson? levels dependents
      return ⟨value, formula, error, dependencies, dependents⟩
    | _ => none

end Cell

end Spreadsheet
