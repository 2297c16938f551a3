import Spreadsheet.Json.Basic
import Spreadsheet.Number.Layout

/-!
# Writing JSON

Values are written without spaces. In texts only quotes, backslashes and control characters are
escaped; the common controls have short escapes. Numbers that are not finite are written as null.
-/

namespace Spreadsheet.Json

/-- A lower-case hexadecimal digit. -/
def hexDigit (n : Nat) : Char :=
  Nat.digitChar (n % 16)

/-- A character inside a text. -/
def escape (c : Char) : List Char :=
  match c with
  | '"' => ['\\', '"']
  | '\\' => ['\\', '\\']
  | '\n' => ['\\', 'n']
  | '\r' => ['\\', 'r']
  | '\t' => ['\\', 't']
  | '\x08' => ['\\', 'b']
  | '\x0c' => ['\\', 'f']
  | c =>
    if c.toNat < 0x20 then ['\\', 'u', '0', '0', hexDigit (c.toNat / 16), hexDigit c.toNat] else [c]

/-- A text between quotes. -/
def writeText (s : String) : List Char :=
  '"' :: s.toList.flatMap escape ++ ['"']

/-- A whole number. -/
def writeInteger (n : Int) : List Char :=
  if n < 0 then '-' :: Number.digitsOf n.natAbs else Number.digitsOf n.natAbs

/-- The word for the value without content. -/
def nullWord : List Char := "null".toList

/-- A number. -/
def writeDecimal (x : Float) : List Char :=
  if x.isFinite then (Number.Layout.stored.write x).toList else nullWord

/-- Parts with commas between them. -/
def writeParts (parts : List (List Char)) : List Char :=
  [','].intercalate parts

mutual
/-- The characters of a value. -/
def writeChars : Json → List Char
  | .null => nullWord
  | .boolean b => if b then "true".toList else "false".toList
  | .integer n => writeInteger n
  | .decimal x => writeDecimal x
  | .text s => writeText s
  | .array items => '[' :: writeParts (writeItems items) ++ [']']
  | .object members => '\x7b' :: writeParts (writeMembers members) ++ ['\x7d']
  | .meaningless => nullWord

/-- The items of a sequence. -/
def writeItems : List Json → List (List Char)
  | [] => []
  | item :: items => writeChars item :: writeItems items

/-- The members of an object. -/
def writeMembers : List (String × Json) → List (List Char)
  | [] => []
  | (name, value) :: members =>
    (writeText name ++ ':' :: writeChars value) :: writeMembers members
end

/-- The text of a value. -/
def write (json : Json) : String :=
  String.ofList json.writeChars

end Spreadsheet.Json
