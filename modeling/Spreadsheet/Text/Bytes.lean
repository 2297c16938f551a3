/-!
# Bytes of a text

A text is kept as one to four bytes for each character. A place in it is a number of bytes, and a
text can be cut only at places between two characters.
-/

namespace Spreadsheet.Text

/-- The bytes of a text. -/
def bytes (text : List Char) : List UInt8 :=
  text.flatMap String.utf8EncodeChar

/-- The empty text has no bytes. -/
@[simp] theorem bytes_nil : bytes [] = [] := rfl

/-- The bytes of the first character come first. -/
@[simp] theorem bytes_cons (c : Char) (text : List Char) :
    bytes (c :: text) = String.utf8EncodeChar c ++ bytes text :=
  List.flatMap_cons

/-- The bytes of two texts in a row are those of the one and then those of the other. -/
@[simp] theorem bytes_append (front behind : List Char) :
    bytes (front ++ behind) = bytes front ++ bytes behind :=
  List.flatMap_append

/-- The byte at which the character behind `n` others starts, the end if there are no more. -/
def byteOffset (n : Nat) (text : List Char) : Nat :=
  (bytes (text.take n)).length

/-- A text before and behind a number of bytes. There is no such cut inside of a character or behind
the end. -/
def cutAt? : Nat → List Char → Option (List Char × List Char)
  | 0, text => some ([], text)
  | _ + 1, [] => none
  | i + 1, c :: text =>
    if c.utf8Size ≤ i + 1 then
      (cutAt? (i + 1 - c.utf8Size) text).map fun parts => (c :: parts.1, parts.2)
    else none

end Spreadsheet.Text
