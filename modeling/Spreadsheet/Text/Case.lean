import Spreadsheet.Text.Case.Context
import Spreadsheet.Text.Case.Lower
import Spreadsheet.Text.Case.Upper

/-!
# Case mappings

Full case mappings of texts: a letter may become several characters, as the sharp s does in upper
case, and a capital sigma becomes the final form of the small letter where it ends a word.
-/

namespace Spreadsheet.Text

/-- Replace the case of one ASCII letter, the bulk of all letters met in practice. -/
private def asciiShift (first last : Char) (shift : Int) (c : Char) : Char :=
  if first ≤ c ∧ c ≤ last then Char.ofNat ((c.toNat : Int) + shift).toNat else c

/-- The lower-case form of one ASCII letter; every other character stays. -/
def lowerAscii (c : Char) : Char :=
  asciiShift 'A' 'Z' 32 c

/-- The upper-case form of one ASCII letter; every other character stays. -/
def upperAscii (c : Char) : Char :=
  asciiShift 'a' 'z' (-32) c

/-- Characters before the small letters stay. -/
theorem upperAscii_of_lt {c : Char} (h : c < 'a') : upperAscii c = c :=
  if_neg fun hc => Char.not_le.mpr h hc.1

/-- The dotted capital I, the one character whose lower-case form has two characters. -/
def dottedCapitalI : Char := '\u0130'

/-- The lower-case form of a character by itself. -/
def lowerChar (c : Char) : List Char :=
  if c.toNat < 0x80 then [lowerAscii c]
  else if c = dottedCapitalI then ['i', '\u0307']
  else
    match CaseRun.image? lowerRuns c.toNat with
    | some point => [Char.ofNat point]
    | none => [c]

/-- The upper-case form of a character by itself. -/
def upperChar (c : Char) : List Char :=
  if c.toNat < 0x80 then [upperAscii c]
  else
    match upperSequences.lookup c.toNat with
    | some points => points.map Char.ofNat
    | none =>
      match CaseRun.image? upperRuns c.toNat with
      | some point => [Char.ofNat point]
      | none => [c]

/-- The nearest character that case mappings do not look past has a case. -/
def nearestIsCased (cs : List Char) : Bool :=
  match cs.dropWhile isCaseIgnorable with
  | c :: _ => isCased c
  | [] => false

/-- The lower-case form of a capital sigma between the characters before it, nearest first, and
those after it. -/
def lowerSigma (before after : List Char) : Char :=
  if nearestIsCased before && !nearestIsCased after then '\u03C2' else '\u03C3'

/-- The lower-case form of a text whose preceding characters, nearest first, are `before`. -/
def lowerFrom (before : List Char) : List Char → List Char
  | [] => []
  | c :: rest =>
    (if c = '\u03A3' then [lowerSigma before rest] else lowerChar c) ++ lowerFrom (c :: before) rest

/-- The lower-case form of a text. -/
def lower (s : String) : String :=
  String.ofList (lowerFrom [] s.toList)

/-- The upper-case form of a text. -/
def upper (s : String) : String :=
  String.ofList (s.toList.flatMap upperChar)

end Spreadsheet.Text
