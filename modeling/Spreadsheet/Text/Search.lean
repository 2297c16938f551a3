/-!
# Occurrences in a text

A text is searched from left to right. Occurrences that are counted or replaced do not overlap: the
scan goes on behind the one just found.
-/

namespace Spreadsheet.Text

/-- The part behind `front`, if the text starts with it. -/
def dropFront? : (front text : List Char) → Option (List Char)
  | [], text => some text
  | _ :: _, [] => none
  | f :: front, c :: text => if f = c then dropFront? front text else none

/-- A text starts with `front` exactly when it is `front` followed by the rest. -/
theorem dropFront?_eq_some_iff {front text rest : List Char} :
    dropFront? front text = some rest ↔ text = front ++ rest := by
  induction front generalizing text with
  | nil => simp [dropFront?, eq_comm]
  | cons f front ih =>
    cases text with
    | nil => simp [dropFront?]
    | cons c text =>
      by_cases h : f = c
      · simp [dropFront?, h, ih]
      · simp [dropFront?, h, Ne.symm h]

/-- The number of elements before the first occurrence of a part. -/
def firstMatch? {α : Type} [BEq α] (part : List α) : List α → Option Nat
  | [] => if part.isEmpty then some 0 else none
  | a :: whole =>
    if part.isPrefixOf (a :: whole) then some 0 else (firstMatch? part whole).map (· + 1)

/-- The number of characters before the first occurrence of `needle`. -/
def find? (needle : List Char) : List Char → Option Nat
  | [] => if needle.isEmpty then some 0 else none
  | c :: text =>
    if (dropFront? needle (c :: text)).isSome then some 0 else (find? needle text).map (· + 1)

/-- The text with `new` in place of every occurrence of `old`. The first argument counts the
characters of the latest occurrence that are still to be passed over. -/
def replaceAfter (old new : List Char) : Nat → List Char → List Char
  | _, [] => []
  | skip + 1, _ :: text => replaceAfter old new skip text
  | 0, c :: text =>
    if (dropFront? old (c :: text)).isSome then
      new ++ replaceAfter old new (old.length - 1) text
    else c :: replaceAfter old new 0 text

/-- The text with `new` in place of every occurrence of the non-empty text `old`. -/
def replaceAll (old new text : List Char) : List Char :=
  replaceAfter old new 0 text

/-- The text with `new` in place of the occurrence of `old` that has `index` occurrences before it.
The argument `skip` counts the characters of the latest occurrence still to be passed over. -/
def replaceNthAfter (old new : List Char) : Nat → Nat → List Char → List Char
  | _, _, [] => []
  | index, skip + 1, c :: text => c :: replaceNthAfter old new index skip text
  | index, 0, c :: text =>
    match dropFront? old (c :: text), index with
    | some rest, 0 => new ++ rest
    | some _, index + 1 => c :: replaceNthAfter old new index (old.length - 1) text
    | none, index => c :: replaceNthAfter old new index 0 text

/-- The text with `new` in place of one occurrence of the non-empty text `old`, counted from zero;
the text itself when there are too few. -/
def replaceNth (old new : List Char) (index : Nat) (text : List Char) : List Char :=
  replaceNthAfter old new index 0 text

/-- The pieces of a text between the separators, an empty one for each pair of neighbours. -/
def splitAtChar (separator : Char) : List Char → List (List Char)
  | [] => [[]]
  | c :: text =>
    match splitAtChar separator text with
    | piece :: pieces => if c = separator then [] :: piece :: pieces else (c :: piece) :: pieces
    | [] => [[c]]

end Spreadsheet.Text
