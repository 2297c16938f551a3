import Spreadsheet.Formula.Token

/-!
# Errors in formulas

A text may fail to be a formula: in its characters, in the order of its tokens, in the names it
uses, or by being nested too deeply.
-/

namespace Spreadsheet.Formula

/-- Why a text is no formula. -/
inductive SyntaxError where
  /-- A character starts no token. -/
  | unexpectedChar (c : Char) (position : Nat)
  /-- A quotation has no end. -/
  | unterminatedText (position : Nat)
  /-- A token stands where it cannot. -/
  | unexpectedToken (found : Token) (position : Nat)
  /-- The formula ends where it cannot. -/
  | unexpectedEnd
  /-- A parenthesis has no partner. -/
  | unmatchedParen (position : Nat)
  /-- A name that should be a cell is none. -/
  | invalidReference (text : String)
  /-- A name means nothing. -/
  | unknownName (name : String)
  /-- A point is no number. -/
  | invalidNumber (text : String)
  /-- Brackets, signs or chains of operators are nested too deeply. -/
  | tooDeep (position : Nat)
  deriving DecidableEq, Repr

/-- A text between single quotes, as messages name what the user wrote. -/
def inSingleQuotes (s : String) : String :=
  "'" ++ s ++ "'"

/-- The message of an error in a formula. -/
def SyntaxError.message : SyntaxError → String
  | .unexpectedChar c position =>
    "Unexpected character " ++ inSingleQuotes c.toString ++ " at position " ++ position.repr
  | .unterminatedText position => "Unterminated string starting at position " ++ position.repr
  | .unexpectedToken found position =>
    "Unexpected token " ++ found.description ++ " at position " ++ position.repr
  | .unexpectedEnd => "Unexpected end of formula"
  | .unmatchedParen position => "Unmatched parenthesis at position " ++ position.repr
  | .invalidReference text => "Invalid cell reference " ++ inSingleQuotes text
  | .unknownName name => "Unknown identifier " ++ inSingleQuotes name
  | .invalidNumber text => "Invalid number " ++ inSingleQuotes text
  | .tooDeep position => "Formula nested too deeply at position " ++ position.repr

end Spreadsheet.Formula
