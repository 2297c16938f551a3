import Spreadsheet.Formula.Expr
import Spreadsheet.Formula.Lexer
import Spreadsheet.Value.Coercion

/-!
# The text of an expression

An expression is written with as few parentheses as its precedences allow and without spaces. A
sheet name that is not a plain word is put between quotes.
-/

namespace Spreadsheet.Formula

/-- A text with every `c` in it written twice. -/
def doubled (c : Char) (cs : List Char) : List Char :=
  cs.flatMap fun d => if d = c then [c, c] else [d]

/-- A text between two delimiters, those inside being doubled. -/
def delimited (delimiter : Char) (s : String) : List Char :=
  delimiter :: doubled delimiter s.toList ++ [delimiter]

/-- A sheet name that needs no quotes: a word without points. -/
def isPlainName (s : String) : Bool :=
  match s.toList with
  | [] => false
  | c :: cs => startsName c && cs.all fun d => startsName d || Number.isDigit d

/-- The name of a sheet with the exclamation mark behind it, if a sheet is given. -/
def sheetText : Option String → List Char
  | none => []
  | some name => (if isPlainName name then name.toList else delimited '\x27' name) ++ ['!']

/-- The text of a reference. -/
def Reference.render (r : Reference) : List Char :=
  sheetText r.sheet ++ r.cell.label

/-- A text in parentheses if they are needed. -/
def parenthesisedIf (needed : Bool) (cs : List Char) : List Char :=
  if needed then '(' :: cs ++ [')'] else cs

/-- Two texts with a separator between them. -/
def separated (separator : Char) (a b : List Char) : List Char :=
  a ++ separator :: b

namespace Expr

mutual
/-- The text of an expression. A right operand of the same precedence needs parentheses, since
chains lean to the left. -/
def render : Expr → List Char
  | .number x => (numberText x).toList
  | .text s => delimited '"' s
  | .boolean b => if b then "TRUE".toList else "FALSE".toList
  | .cell r => r.render
  | .range a b => separated ':' a.render b.cell.label
  | .call name args => name.toList ++ '(' :: renderRow args ++ [')']
  | .binary op a b =>
    parenthesisedIf (a.precedence < op.precedence) a.render ++ op.sign.toList ++
      parenthesisedIf (b.precedence ≤ op.precedence) b.render
  | .unary op a =>
    op.sign.toList ++ parenthesisedIf (a.precedence < unaryPrecedence) a.render
  | .array rows => '\x7b' :: renderRows rows ++ ['\x7d']

/-- The items of a row with commas between them. -/
def renderRow : List Expr → List Char
  | [] => []
  | [e] => e.render
  | e :: f :: row => separated ',' e.render (renderRow (f :: row))

/-- The rows of a table with semicolons between them. -/
def renderRows : List (List Expr) → List Char
  | [] => []
  | [row] => renderRow row
  | row :: sow :: rows => separated ';' (renderRow row) (renderRows (sow :: rows))
end

/-- The text of an expression as a string. -/
def toText (e : Expr) : String :=
  String.ofList e.render

end Expr

end Spreadsheet.Formula
