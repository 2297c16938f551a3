import Spreadsheet.Function.Argument
import Spreadsheet.Text.Bytes
import Spreadsheet.Text.Case
import Spreadsheet.Text.Letter
import Spreadsheet.Text.Search

/-!
# Text functions

Parts, forms and occurrences of texts. Positions and lengths count characters, and the first
character has the position one.
-/

namespace Spreadsheet.Function

/-- A text as a value. -/
def ofChars (cs : List Char) : Value :=
  .text (String.ofList cs)

/-- The characters of the argument at a place. -/
def charsAt (args : List Value) (i : Nat) : List Char :=
  (textAt args i).toList

/-- A number of characters, if the number is not negative. -/
def countOf? (x : Float) : Option Nat :=
  if x < 0.0 || x.isNaN then none else some (Number.toCount x)

/-- The number of characters before a position, if the position is at least one. -/
def skipOf? (x : Float) : Option Nat :=
  if x < 1.0 || x.isNaN then none else some (Number.toCount x - 1)

/-- A value that may be missing; then an argument was unfit. -/
def orInvalid (v : Option Value) : Value :=
  v.getD (.error .invalidValue)

/-- All texts joined. -/
def concatenate (args : List Value) : Value :=
  .text (String.join ((flatten args).map Value.toText))

/-- The characters at the front. -/
def left (args : List Value) : Value :=
  orInvalid do
    let n ← countOf? (numberAt args 1 1.0)
    return ofChars ((charsAt args 0).take n)

/-- The characters at the end. -/
def right (args : List Value) : Value :=
  orInvalid do
    let n ← countOf? (numberAt args 1 1.0)
    let cs := charsAt args 0
    return ofChars (cs.drop (cs.length - n))

/-- The characters from a position on. -/
def middlePart (args : List Value) : Value :=
  orInvalid do
    let skip ← skipOf? (numberAt args 1 1.0)
    let n ← countOf? (numberAt args 2 0.0)
    return ofChars (((charsAt args 0).drop skip).take n)

/-- The number of characters. -/
def length (args : List Value) : Value :=
  ofCount (charsAt args 0).length

/-- The text in lower case. -/
def lowerCase (args : List Value) : Value :=
  .text (Text.lower (textAt args 0))

/-- The text in upper case. -/
def upperCase (args : List Value) : Value :=
  .text (Text.upper (textAt args 0))

/-- The characters with the first letter of every word in upper case and the others in lower case. A
letter behind a digit does not start a word. -/
def capitalize (startOfWord : Bool) : List Char → List Char
  | [] => []
  | c :: cs =>
    if Text.isLetter c then
      (if startOfWord then Text.upperChar c else Text.lowerChar c) ++ capitalize false cs
    else c :: capitalize (!Number.isDigit c) cs

/-- The text with capitalized words. -/
def properCase (args : List Value) : Value :=
  ofChars (capitalize true (charsAt args 0))

/-- The text without spaces at its ends and with single spaces inside. -/
def trimSpaces (args : List Value) : Value :=
  let words := (Text.splitAtChar ' ' (charsAt args 0)).filter fun word => !word.isEmpty
  ofChars ([' '].intercalate words)

/-- The text with all occurrences of a part replaced, or with one of them if its number is given. -/
def substitute (args : List Value) : Value :=
  let text := charsAt args 0
  let old := charsAt args 1
  let new := charsAt args 2
  if old.isEmpty then ofChars text
  else if args.length < 4 then ofChars (Text.replaceAll old new text)
  else
    orInvalid do
      let index ← skipOf? (numberAt args 3 1.0)
      return ofChars (Text.replaceNth old new index text)

/-- The position of the first occurrence of a part that starts at a given position or behind it. -/
def locate (needle haystack : List Char) (start : Float) : Value :=
  orInvalid do
    let skip ← skipOf? start
    if haystack.length < skip then none
    let found ← Text.find? needle (haystack.drop skip)
    return ofCount (skip + found + 1)

/-- The search as it is made among the bytes of the texts. It has no answer where a text would have
to be cut inside of a character. -/
def locateInBytes (needle haystack : List Char) (start : Float) : Option Value :=
  match skipOf? start with
  | none => some (.error .invalidValue)
  | some skip =>
    if haystack.length < skip then some (.error .invalidValue)
    else do
      let offset := Text.byteOffset skip haystack
      let (_, rest) ← Text.cutAt? offset haystack
      match Text.firstMatch? (Text.bytes needle) (Text.bytes rest) with
      | none => some (.error .invalidValue)
      | some found =>
        let (before, _) ← Text.cutAt? (offset + found) haystack
        some (ofCount (before.length + 1))

/-- The position of a part. -/
def find (args : List Value) : Value :=
  locate (charsAt args 0) (charsAt args 1) (numberAt args 2 1.0)

/-- The position of a part, upper and lower case being taken as equal. -/
def search (args : List Value) : Value :=
  locate (Text.lower (textAt args 0)).toList (Text.lower (textAt args 1)).toList
    (numberAt args 2 1.0)

end Spreadsheet.Function
