/-!
# JSON values

Values are kept as they are written: the members of an object stay in order and may repeat a name.
A number or a text that is well formed but stands for nothing, being out of range or half of a
character, is a value of its own; it does no harm where it is not looked at.
-/

namespace Spreadsheet

/-- A value in JSON. -/
inductive Json where
  /-- The value without content. -/
  | null
  /-- A truth value. -/
  | boolean (b : Bool)
  /-- A number without point and exponent. -/
  | integer (n : Int)
  /-- Any other number. -/
  | decimal (x : Float)
  /-- A text. -/
  | text (s : String)
  /-- A sequence of values. -/
  | array (items : List Json)
  /-- Values under names. -/
  | object (members : List (String × Json))
  /-- A value that stands for nothing. -/
  | meaningless
  deriving Inhabited

namespace Json

/-- A value has a meaning in all its parts and is nested in at most `levels` levels. -/
def fits : (levels : Nat) → Json → Bool
  | _, .meaningless => false
  | 0, .array _ => false
  | 0, .object _ => false
  | levels + 1, .array items => items.all (fits levels)
  | levels + 1, .object members => members.all fun member => fits levels member.2
  | _, _ => true

/-- The values of named fields, in the order of the names. A record is an object in which no known
name is repeated, or the sequence of the values. -/
def fields? (names : List String) : Json → Option (List (Option Json))
  | .object members =>
    names.mapM fun name =>
      match members.filter fun member => member.1 == name with
      | [] => some none
      | [member] => some (some member.2)
      | _ => none
  | .array items =>
    if names.length < items.length then none
    else some (items.map some ++ List.replicate (names.length - items.length) none)
  | _ => none

end Json

end Spreadsheet
