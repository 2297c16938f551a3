import Spreadsheet.Text.Printable

/-!
# Quoted texts

A text is quoted for a message between double quotes. Quotes, backslashes and the common controls
are written with a backslash, and other characters that cannot be seen by their code point.
-/

namespace Spreadsheet.Text

/-- The lower-case hexadecimal digits of a number, at least one. -/
def hexDigits (n : Nat) : List Char :=
  (Nat.toDigits 16 n)

/-- One character inside a quotation. -/
def quoteChar (c : Char) : List Char :=
  match c with
  | '"' => ['\\', '"']
  | '\\' => ['\\', '\\']
  | '\n' => ['\\', 'n']
  | '\r' => ['\\', 'r']
  | '\t' => ['\\', 't']
  | '\x00' => ['\\', '0']
  | c =>
    if isCombining c || !isPrintable c then
      ['\\', 'u', '\x7b'] ++ hexDigits c.toNat ++ ['\x7d']
    else [c]

/-- A text between double quotes, with escapes. -/
def quoted (s : String) : String :=
  String.ofList ('"' :: s.toList.flatMap quoteChar ++ ['"'])

end Spreadsheet.Text
