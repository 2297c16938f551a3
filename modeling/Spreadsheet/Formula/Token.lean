import Spreadsheet.Number.Layout
import Spreadsheet.Text.Quoted

/-!
# Tokens of formulas

A formula is read as a sequence of tokens, each with the number of characters before it. The last
one marks the end.
-/

namespace Spreadsheet.Formula

/-- The smallest parts of a formula that have a meaning. -/
inductive Token where
  /-- A number. -/
  | number (x : Float)
  /-- A text between double quotes. -/
  | text (s : String)
  /-- A name of a function, a cell, a truth value or a sheet. -/
  | name (s : String)
  /-- A name of a sheet between single quotes. -/
  | quotedName (s : String)
  /-- The sign `+`. -/
  | plus
  /-- The sign `-`. -/
  | minus
  /-- The sign `*`. -/
  | times
  /-- The sign `/`. -/
  | over
  /-- The sign `^`. -/
  | caret
  /-- The sign `&`. -/
  | ampersand
  /-- The sign `=`. -/
  | equal
  /-- The sign `<>`. -/
  | notEqual
  /-- The sign `<`. -/
  | less
  /-- The sign `>`. -/
  | greater
  /-- The sign `<=`. -/
  | lessEqual
  /-- The sign `>=`. -/
  | greaterEqual
  /-- An opening parenthesis. -/
  | openParen
  /-- A closing parenthesis. -/
  | closeParen
  /-- An opening brace. -/
  | openBrace
  /-- A closing brace. -/
  | closeBrace
  /-- A comma. -/
  | comma
  /-- A colon. -/
  | colon
  /-- A semicolon. -/
  | semicolon
  /-- An exclamation mark. -/
  | exclamation
  /-- The end of the formula. -/
  | finish
  deriving DecidableEq, Repr

/-- A token with the number of characters before it. -/
structure Located where
  /-- The token. -/
  token : Token
  /-- The number of characters before it. -/
  position : Nat
  deriving DecidableEq, Repr

/-- A word with a parameter in parentheses. -/
def parametric (word parameter : String) : String :=
  word ++ "(" ++ parameter ++ ")"

/-- What a message calls a token. -/
def Token.description : Token → String
  | .number x => parametric "Number" (Number.Layout.message.write x)
  | .text s => parametric "String" (Text.quoted s)
  | .name s => parametric "Identifier" (Text.quoted s)
  | .quotedName s => parametric "QuotedName" (Text.quoted s)
  | .plus => "Plus"
  | .minus => "Minus"
  | .times => "Multiply"
  | .over => "Divide"
  | .caret => "Power"
  | .ampersand => "Concat"
  | .equal => "Equal"
  | .notEqual => "NotEqual"
  | .less => "LessThan"
  | .greater => "GreaterThan"
  | .lessEqual => "LessEqual"
  | .greaterEqual => "GreaterEqual"
  | .openParen => "LeftParen"
  | .closeParen => "RightParen"
  | .openBrace => "LeftBrace"
  | .closeBrace => "RightBrace"
  | .comma => "Comma"
  | .colon => "Colon"
  | .semicolon => "Semicolon"
  | .exclamation => "Exclaim"
  | .finish => "EOF"

end Spreadsheet.Formula
