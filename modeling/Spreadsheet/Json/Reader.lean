import Spreadsheet.Json.Numeral

/-!
# Reading JSON

A text is a single value with blanks around it. Readers find something at the front of a text and
hand on the rest. Values are nested no deeper than the text is long, which bounds the reading.
-/

namespace Spreadsheet.Json

/-- A reader finds something at the front of a text and hands on what is behind it. -/
abbrev Reader (α : Type) := List Char → Option (α × List Char)

/-- A character that may stand between the parts of a value. -/
def isBlank (c : Char) : Bool :=
  c == ' ' || c == '\t' || c == '\n' || c == '\r'

/-- A text without the blanks at its front. -/
def skipBlanks (cs : List Char) : List Char :=
  cs.dropWhile isBlank

/-- The value of a hexadecimal digit. -/
def hexValue? (c : Char) : Option Nat :=
  if Number.isDigit c then some (Number.digitValue c)
  else if 'a' ≤ c ∧ c ≤ 'f' then some (c.toNat - 'a'.toNat + 10)
  else if 'A' ≤ c ∧ c ≤ 'F' then some (c.toNat - 'A'.toNat + 10)
  else none

/-- The value of four hexadecimal digits. -/
def hexWord? (a b c d : Char) : Option Nat := do
  let a ← hexValue? a
  let b ← hexValue? b
  let c ← hexValue? c
  let d ← hexValue? d
  return ((a * 16 + b) * 16 + c) * 16 + d

/-- What a letter behind a backslash stands for. -/
def escaped? : Char → Option Char
  | '"' => some '"'
  | '\\' => some '\\'
  | '/' => some '/'
  | 'b' => some '\x08'
  | 'f' => some '\x0c'
  | 'n' => some '\n'
  | 'r' => some '\r'
  | 't' => some '\t'
  | _ => none

/-- The code units of a text up to its closing quote. Units of 16 bits come from escapes; all other
characters are a unit each. -/
def readUnits : Reader (List Nat)
  | [] => none
  | c :: cs =>
    if c = '"' then some ([], cs)
    else if c = '\\' then
      match cs with
      | 'u' :: a :: b :: c :: d :: cs => do
        let unit ← hexWord? a b c d
        let (units, rest) ← readUnits cs
        return (unit :: units, rest)
      | e :: cs => do
        let c ← escaped? e
        let (units, rest) ← readUnits cs
        return (c.toNat :: units, rest)
      | [] => none
    else if c.toNat < 0x20 then none
    else do
      let (units, rest) ← readUnits cs
      return (c.toNat :: units, rest)

/-- The first half of a character of two units. -/
def isHighHalf (unit : Nat) : Bool :=
  0xD800 ≤ unit && unit < 0xDC00

/-- The second half of a character of two units. -/
def isLowHalf (unit : Nat) : Bool :=
  0xDC00 ≤ unit && unit < 0xE000

/-- The characters that code units stand for, if no half stands alone. -/
def charsOfUnits? : List Nat → Option (List Char)
  | [] => some []
  | unit :: units =>
    if isLowHalf unit then none
    else if isHighHalf unit then
      match units with
      | low :: units =>
        if isLowHalf low then
          (charsOfUnits? units).map
            (Char.ofNat (0x10000 + (unit - 0xD800) * 0x400 + (low - 0xDC00)) :: ·)
        else none
      | [] => none
    else (charsOfUnits? units).map (Char.ofNat unit :: ·)

/-- The text up to its closing quote; nothing if a half of a character stands alone in it. -/
def readText (cs : List Char) : Option (Option String × List Char) := do
  let (units, rest) ← readUnits cs
  return ((charsOfUnits? units).map String.ofList, rest)

/-- The items of a sequence up to the closing bracket, at most `limit` of them. -/
def readItems (value : Reader Json) : (limit : Nat) → Reader (List Json)
  | 0, _ => none
  | limit + 1, cs => do
    let (item, rest) ← value cs
    match skipBlanks rest with
    | ']' :: rest => return ([item], rest)
    | ',' :: rest => do
      let (items, rest) ← readItems value limit rest
      return (item :: items, rest)
    | _ => none

/-- A sequence behind its opening bracket. -/
def readArray (value : Reader Json) : Reader Json := fun cs =>
  match skipBlanks cs with
  | ']' :: rest => some (.array [], rest)
  | cs => do
    let (items, rest) ← readItems value cs.length cs
    return (.array items, rest)

/-- A name with its value; nothing for the name if a half of a character stands alone in it. -/
def readMember (value : Reader Json) : Reader (Option String × Json) := fun cs =>
  match skipBlanks cs with
  | '"' :: cs => do
    let (name, rest) ← readText cs
    match skipBlanks rest with
    | ':' :: rest => do
      let (json, rest) ← value rest
      return ((name, json), rest)
    | _ => none
  | _ => none

/-- The members of an object up to the closing brace, at most `limit` of them. -/
def readMembers (value : Reader Json) : (limit : Nat) → Reader (List (Option String × Json))
  | 0, _ => none
  | limit + 1, cs => do
    let (member, rest) ← readMember value cs
    match skipBlanks rest with
    | '\x7d' :: rest => return ([member], rest)
    | ',' :: rest => do
      let (members, rest) ← readMembers value limit rest
      return (member :: members, rest)
    | _ => none

/-- The object with the given members, which has no meaning if a name has none. -/
def objectOf (members : List (Option String × Json)) : Json :=
  match members.mapM fun (name, json) => name.map fun name => (name, json) with
  | some members => .object members
  | none => .meaningless

/-- An object behind its opening brace. -/
def readObject (value : Reader Json) : Reader Json := fun cs =>
  match skipBlanks cs with
  | '\x7d' :: rest => some (.object [], rest)
  | cs => do
    let (members, rest) ← readMembers value cs.length cs
    return (objectOf members, rest)

/-- A value at the front of a text, nested in fewer than the given number of levels. -/
def readValue : (levels : Nat) → Reader Json
  | 0, _ => none
  | levels + 1, cs =>
    match skipBlanks cs with
    | '"' :: cs => do
      let (s, rest) ← readText cs
      return ((s.map Json.text).getD .meaningless, rest)
    | '[' :: cs => readArray (readValue levels) cs
    | '\x7b' :: cs => readObject (readValue levels) cs
    | 'n' :: 'u' :: 'l' :: 'l' :: cs => some (.null, cs)
    | 't' :: 'r' :: 'u' :: 'e' :: cs => some (.boolean true, cs)
    | 'f' :: 'a' :: 'l' :: 's' :: 'e' :: cs => some (.boolean false, cs)
    | cs => do
      let (numeral, rest) ← takeNumeral? cs
      return (numeral.toJson, rest)

/-- The value that a text is. -/
def ofText? (s : String) : Option Json := do
  let cs := s.toList
  let (json, rest) ← readValue (cs.length + 1) cs
  if (skipBlanks rest).isEmpty then some json else none

end Spreadsheet.Json
