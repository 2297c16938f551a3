import Spreadsheet.Json.Basic
import Spreadsheet.Number.Reading
import Spreadsheet.Value.Basic

/-!
# Values in stored form

A value is stored as a record of its type and its content, an error as the name of its kind, with
the parameter as content if it has one. Stored data may be nested to a limited depth; every record,
object and sequence that is entered takes one level of it.

The content of a record that comes before the type is kept in memory until the type is known. What
is read from memory may take a few more forms than what is read from the text.
-/

namespace Spreadsheet

/-- The number of levels of stored data. -/
def storedLevels : Nat := 127

namespace Json

/-- Where stored data is read from. -/
inductive Origin where
  /-- From the text. -/
  | text
  /-- From memory, where it was kept until its type was known. -/
  | memory
  deriving DecidableEq, Repr

/-- The number that a stored number is. -/
def toNumber? : Json → Option Float
  | .integer n => some (Number.withSign (n < 0) (Number.ofDecimal n.natAbs 0))
  | .decimal x => some x
  | _ => none

/-- The text that a stored text is. -/
def toText? : Json → Option String
  | .text s => some s
  | _ => none

/-- The truth value that a stored truth value is. -/
def toBoolean? : Json → Option Bool
  | .boolean b => some b
  | _ => none

/-- The name of a kind and its content: a name alone, or an object with a single member. -/
def variant? (levels : Nat) : Json → Option (String × Option Json)
  | .text name => some (name, none)
  | .object [(name, content)] => if levels = 0 then none else some (name, some content)
  | _ => none

/-- A content that stands for none. In memory, an object without members does so as well. -/
def isNothing (origin : Origin) : Json → Bool
  | .null => true
  | .object [] => origin = .memory
  | _ => false

/-- The name of a kind that has no content. -/
def plainVariant? (levels : Nat) (origin : Origin) (json : Json) : Option String :=
  match json.variant? levels with
  | some (name, content) => if content.all (isNothing origin) then some name else none
  | none => none

end Json

namespace CellError

/-- The stored form of an error. -/
def toJson : CellError → Json
  | .divisionByZero => .text "DivisionByZero"
  | .invalidValue => .text "InvalidValue"
  | .invalidReference => .text "InvalidReference"
  | .invalidName name => .object [("InvalidName", .text name)]
  | .invalidNumber => .text "NumError"
  | .notAvailable => .text "NotAvailable"
  | .circularReference => .text "CircularReference"
  | .malformedFormula => .text "Parse"
  | .aborted message => .object [("Internal", .text message)]

/-- The error without parameter of the given kind. -/
def ofKind? : String → Option CellError
  | "DivisionByZero" => some .divisionByZero
  | "InvalidValue" => some .invalidValue
  | "InvalidReference" => some .invalidReference
  | "NumError" => some .invalidNumber
  | "NotAvailable" => some .notAvailable
  | "CircularReference" => some .circularReference
  | "Parse" => some .malformedFormula
  | _ => none

/-- The error with the given stored form. -/
def ofJson? (levels : Nat) (origin : Json.Origin) (json : Json) : Option CellError :=
  match json.variant? levels with
  | some ("InvalidName", some (.text name)) => some (.invalidName name)
  | some ("Internal", some (.text message)) => some (.aborted message)
  | _ => (json.plainVariant? levels origin).bind ofKind?

end CellError

namespace Value

/-- The record of a type and its content. -/
def tagged (type : String) (content : Json) : Json :=
  .object [("type", .text type), ("value", content)]

mutual
/-- The stored form of a value. -/
def toJson : Value → Json
  | .empty => .object [("type", .text "Empty")]
  | .number x => tagged "Number" (.decimal x)
  | .text s => tagged "Text" (.text s)
  | .boolean b => tagged "Boolean" (.boolean b)
  | .array rows => tagged "Array" (.array (rowsToJson rows))
  | .error e => tagged "Error" e.toJson

/-- The stored forms of the rows of a table. -/
def rowsToJson : List (List Value) → List Json
  | [] => []
  | row :: rows => .array (rowToJson row) :: rowsToJson rows

/-- The stored forms of the values of a row. -/
def rowToJson : List Value → List Json
  | [] => []
  | v :: row => v.toJson :: rowToJson row
end

/-- The types of stored values in the order of their numbers. -/
def typeNames : List String :=
  ["Empty", "Number", "Text", "Boolean", "Array", "Error"]

/-- The type at the front of a sequence: its name, or in memory also its number. -/
def leadingType? (origin : Json.Origin) : Json → Option String
  | .text name => some name
  | .integer n => if origin = .memory ∧ 0 ≤ n then typeNames[n.toNat]? else none
  | _ => none

/-- The content comes before the type. -/
def contentComesFirst (members : List (String × Json)) : Bool :=
  (members.find? fun member => member.1 == "type" || member.1 == "value").any
    fun member => member.1 == "value"

/-- What a stored value consists of. -/
structure Parts where
  /-- The type. -/
  type : String
  /-- The content, if there is one. -/
  content : Option Json
  /-- Where the content is read from. -/
  origin : Json.Origin

/-- The parts of a stored value, which is a record or a sequence of type and content. A content that
comes before the type has to have a meaning in all its parts, since it is read before it is known
what it should be. -/
def parts? (levels : Nat) (origin : Json.Origin) (json : Json) : Option Parts :=
  match json with
  | .array [type, content] => (leadingType? origin type).map fun type => ⟨type, content, origin⟩
  | .object members =>
    match json.fields? ["type", "value"] with
    | some [some type, content] => do
      let type ← type.plainVariant? levels origin
      if contentComesFirst members then
        if content.all (Json.fits levels) then some ⟨type, content, .memory⟩ else none
      else some ⟨type, content, origin⟩
    | _ => none
  | _ => none

/-- The value of a type other than tables with the given parts. -/
def ofScalar? (levels : Nat) (parts : Parts) : Option Value :=
  match parts.type, parts.content with
  | "Empty", none => some .empty
  | "Empty", some .null => some .empty
  | "Number", some content => content.toNumber?.map Value.number
  | "Text", some content => content.toText?.map Value.text
  | "Boolean", some content => content.toBoolean?.map Value.boolean
  | "Error", some content => (CellError.ofJson? levels parts.origin content).map Value.error
  | _, _ => none

/-- The rows of a table, each row and each of its values being read in turn. -/
def rowsOfJson? (value : Json → Option Value) (rows : List Json) : Option (List (List Value)) :=
  rows.mapM fun row =>
    match row with
    | .array items => items.mapM value
    | _ => none

/-- The value with the given stored form. -/
def ofJson? : (levels : Nat) → (origin : Json.Origin) → Json → Option Value
  | 0, _, _ => none
  | levels + 1, origin, json => do
    let parts ← parts? levels origin json
    match parts.type, parts.content with
    | "Array", some (.array rows) =>
      match levels with
      | 0 => none
      | 1 => if rows.isEmpty then some (.array []) else none
      | levels + 2 => (rowsOfJson? (ofJson? levels parts.origin) rows).map Value.array
    | _, _ => ofScalar? levels parts

end Value

end Spreadsheet
