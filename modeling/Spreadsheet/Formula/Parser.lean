import Spreadsheet.Formula.Expr
import Spreadsheet.Formula.Lexer

/-!
# Reading expressions

An expression is read from its tokens, an operand at a time. Operators of one precedence form a
chain that leans to the left. Brackets, calls and signs lead one level deeper, and two limits keep
the tree shallow: `nest` counts the levels that may still be entered, and `room` the levels and the
links of chains together. Every reader hands on the tokens that it leaves.
-/

namespace Spreadsheet.Formula

/-- The number of levels of brackets, calls and signs that a formula may have. -/
def maximumNesting : Nat := 128

/-- The number of levels and links of chains that may lie one in another. -/
def maximumDepth : Nat := 512

/-- A reader finds something at the front of its tokens and hands on those behind it. -/
abbrev Reader (α : Type) := List Located → Except SyntaxError (α × List Located)

/-- The place of the first token. -/
def here : List Located → Nat
  | [] => 0
  | t :: _ => t.position

/-- The error for tokens that start with the wrong one. -/
def unexpected : List Located → SyntaxError
  | [] => .unexpectedEnd
  | ⟨.finish, _⟩ :: _ => .unexpectedEnd
  | ⟨token, position⟩ :: _ => .unexpectedToken token position

/-- The operators that compare. -/
def comparison? : Token → Option BinaryOp
  | .equal => some .eq
  | .notEqual => some .ne
  | .less => some .lt
  | .greater => some .gt
  | .lessEqual => some .le
  | .greaterEqual => some .ge
  | _ => none

/-- The operator that joins texts. -/
def concatenation? : Token → Option BinaryOp
  | .ampersand => some .concat
  | _ => none

/-- The operators of sums. -/
def additive? : Token → Option BinaryOp
  | .plus => some .add
  | .minus => some .sub
  | _ => none

/-- The operators of products. -/
def multiplicative? : Token → Option BinaryOp
  | .times => some .mul
  | .over => some .div
  | _ => none

/-- The operator of powers. -/
def power? : Token → Option BinaryOp
  | .caret => some .pow
  | _ => none

/-- The operators before an operand. -/
def sign? : Token → Option UnaryOp
  | .minus => some .neg
  | .plus => some .pos
  | _ => none

/-- The chain of operators and operands behind its first operand. -/
def chain (operator : Token → Option BinaryOp) (operand : Nat → Reader Expr) :
    Nat → Expr → Reader Expr
  | _, left, [] => .ok (left, [])
  | room, left, t :: rest =>
    match operator t.token, room with
    | none, _ => .ok (left, t :: rest)
    | some _, 0 => .error (.tooDeep (here rest))
    | some op, room + 1 => do
      let (right, rest) ← operand room rest
      chain operator operand room (.binary op left right) rest

/-- A first operand and the chain behind it. -/
def level (operator : Token → Option BinaryOp) (operand : Nat → Reader Expr)
    (room : Nat) (tokens : List Located) : Except SyntaxError (Expr × List Located) := do
  let (left, rest) ← operand room tokens
  chain operator operand room left rest

/-- An expression of chains within chains, from comparisons down to powers, over given operands. -/
def expression (operand : Nat → Reader Expr) : Nat → Reader Expr :=
  level comparison? <| level concatenation? <| level additive? <| level multiplicative? <|
    level power? operand

/-- The readers for what stands one level deeper. -/
structure Inside where
  /-- An operand behind a sign. -/
  operand : Reader Expr
  /-- An expression between brackets. -/
  expression : Reader Expr

/-- One level deeper, if there is one. -/
def deeper {α : Type} (inside : Option Inside) (tokens : List Located)
    (read : Inside → Except SyntaxError (α × List Located)) :
    Except SyntaxError (α × List Located) :=
  match inside with
  | some inside => read inside
  | none => .error (.tooDeep (here tokens))

/-- The cell with the given label on the given sheet. The label is split at its first digit. -/
def reference (sheet : Option String) (label : String) : Except SyntaxError Reference :=
  if CellAddress.isLabel label then
    let letters := label.toList.takeWhile fun c => !Number.isDigit c
    let digits := label.toList.dropWhile fun c => !Number.isDigit c
    match Column.ofLabel? letters with
    | none => .error (.invalidReference label)
    | some col =>
      let row := Number.ofDigits digits
      if row = 0 ∨ axisLimit < row then .error (.invalidReference label)
      else .ok ⟨sheet, ⟨row, col⟩⟩
  else .error (.invalidReference label)

/-- The reference, or the range if a colon and a second corner follow, which is on the sheet of the
first. -/
def rangeTail (first : Reference) : Reader Expr
  | ⟨.colon, _⟩ :: rest =>
    match rest with
    | [] => .error .unexpectedEnd
    | ⟨.finish, _⟩ :: _ => .error .unexpectedEnd
    | ⟨.name label, _⟩ :: rest => do
      let last ← reference first.sheet label
      .ok (.range first last, rest)
    | ⟨token, _⟩ :: _ => .error (.invalidReference token.description)
  | tokens => .ok (.cell first, tokens)

/-- The cell or range behind the name of its sheet. -/
def qualified (sheet : String) : Reader Expr
  | ⟨.exclamation, _⟩ :: rest =>
    match rest with
    | [] => .error .unexpectedEnd
    | ⟨.finish, _⟩ :: _ => .error .unexpectedEnd
    | ⟨.name label, _⟩ :: rest => do
      let first ← reference (some sheet) label
      rangeTail first rest
    | ⟨token, _⟩ :: _ => .error (.invalidReference (sheet ++ "!" ++ token.description))
  | tokens => .error (unexpected tokens)

/-- The arguments of a call up to its closing parenthesis, at most `limit` of them. -/
def arguments (item : Reader Expr) (openedAt : Nat) :
    (limit : Nat) → Reader (List Expr)
  | 0, tokens => .error (unexpected tokens)
  | limit + 1, tokens => do
    let (arg, rest) ← item tokens
    match rest with
    | [] => .error (.unmatchedParen openedAt)
    | ⟨.finish, _⟩ :: _ => .error (.unmatchedParen openedAt)
    | ⟨.closeParen, _⟩ :: rest => .ok ([arg], rest)
    | ⟨.comma, _⟩ :: rest => do
      let (args, rest) ← arguments item openedAt limit rest
      .ok (arg :: args, rest)
    | rest => .error (unexpected rest)

/-- The call of a function, its opening parenthesis being passed. -/
def call (item : Reader Expr) (name : String) (openedAt : Nat) :
    Reader Expr
  | ⟨.closeParen, _⟩ :: rest => .ok (.call name [], rest)
  | tokens => do
    let (args, rest) ← arguments item openedAt tokens.length tokens
    .ok (.call name args, rest)

/-- A table with an item more at the front of its first row. -/
def consItem (item : Expr) : List (List Expr) → List (List Expr)
  | [] => [[item]]
  | row :: rows => (item :: row) :: rows

/-- The rows of a table up to its closing brace, at most `limit` items. -/
def tableRows (item : Reader Expr) :
    (limit : Nat) → Reader (List (List Expr))
  | 0, tokens => .error (unexpected tokens)
  | limit + 1, tokens => do
    let (first, rest) ← item tokens
    match rest with
    | [] => .error .unexpectedEnd
    | ⟨.finish, _⟩ :: _ => .error .unexpectedEnd
    | ⟨.closeBrace, _⟩ :: rest => .ok ([[first]], rest)
    | ⟨.comma, _⟩ :: rest => do
      let (rows, rest) ← tableRows item limit rest
      .ok (consItem first rows, rest)
    | ⟨.semicolon, _⟩ :: rest => do
      let (rows, rest) ← tableRows item limit rest
      .ok ([first] :: rows, rest)
    | ⟨token, _⟩ :: rest => .error (.unexpectedToken token (here rest))

/-- A table, its opening brace being passed. -/
def table (item : Reader Expr) : Reader Expr
  | ⟨.closeBrace, _⟩ :: rest => .ok (.array [], rest)
  | tokens => do
    let (rows, rest) ← tableRows item tokens.length tokens
    .ok (.array rows, rest)

/-- A name is that of a truth value, in any case. -/
def truthValue? (name : String) : Option Bool :=
  match String.ofList (name.toList.map Text.upperAscii) with
  | "TRUE" => some true
  | "FALSE" => some false
  | _ => none

/-- What a name stands for in view of the tokens behind it. -/
def named (inside : Option Inside) (name : String) (tokens : List Located) :
    Except SyntaxError (Expr × List Located) :=
  match tokens with
  | ⟨.openParen, openedAt⟩ :: rest =>
    deeper inside tokens fun inside => call inside.expression name openedAt rest
  | ⟨.exclamation, _⟩ :: _ => qualified name tokens
  | _ =>
    match truthValue? name with
    | some b => .ok (.boolean b, tokens)
    | none =>
      if CellAddress.isLabel name then do
        let first ← reference none name
        rangeTail first tokens
      else .error (.unknownName name)

/-- An expression in parentheses, the opening one being passed. -/
def parenthesised (inside : Option Inside) (openedAt : Nat) (tokens : List Located) :
    Except SyntaxError (Expr × List Located) := do
  let (e, rest) ← deeper inside tokens fun inside => inside.expression tokens
  match rest with
  | ⟨.closeParen, _⟩ :: rest => .ok (e, rest)
  | _ => .error (.unmatchedParen openedAt)

/-- An operand without a sign. -/
def primary (inside : Option Inside) (tokens : List Located) :
    Except SyntaxError (Expr × List Located) :=
  match tokens with
  | ⟨.number x, _⟩ :: rest => .ok (.number x, rest)
  | ⟨.text s, _⟩ :: rest => .ok (.text s, rest)
  | ⟨.openParen, openedAt⟩ :: rest => parenthesised inside openedAt rest
  | ⟨.openBrace, _⟩ :: rest => deeper inside rest fun inside => table inside.expression rest
  | ⟨.quotedName sheet, _⟩ :: rest => qualified sheet rest
  | ⟨.name name, _⟩ :: rest => named inside name rest
  | tokens => .error (unexpected tokens)

/-- An operand, with signs before it if there are any. -/
def signed (inside : Option Inside) (tokens : List Located) :
    Except SyntaxError (Expr × List Located) :=
  match tokens with
  | [] => primary inside []
  | t :: rest =>
    match sign? t.token with
    | none => primary inside (t :: rest)
    | some op => do
      let (e, rest) ← deeper inside rest fun inside => inside.operand rest
      .ok (.unary op e, rest)

/-- An operand with `nest` levels left and as many levels and links as there is room for. -/
def operand : (nest room : Nat) → Reader Expr
  | nest + 1, room + 1 => signed (some ⟨operand nest room, expression (operand nest) room⟩)
  | _, _ => signed none

/-- The tokens with a mark of the end behind the last of them. -/
def closed (tokens : List Located) : List Located :=
  tokens ++ [⟨.finish, (tokens.getLast?.map Located.position).getD 0⟩]

/-- The expression that all of the given tokens form. -/
def parse (tokens : List Located) : Except SyntaxError Expr := do
  let (e, rest) ← expression (operand maximumNesting) maximumDepth (closed tokens)
  match rest with
  | [] => .ok e
  | ⟨.finish, _⟩ :: _ => .ok e
  | ⟨.closeParen, position⟩ :: _ => .error (.unmatchedParen position)
  | rest => .error (unexpected rest)

/-- The expression that a text without a leading equals sign forms. -/
def ofText (s : String) : Except SyntaxError Expr := do
  parse (← tokens s)

/-- The content of a cell as it was written: a formula, or a text without a leading equals sign. -/
inductive Reading where
  /-- The text is no formula. -/
  | plain
  /-- The text is a formula. -/
  | formula (e : Expr)
  /-- The text should be a formula and is not well formed. -/
  | malformed (e : SyntaxError)

/-- A text is a formula if it starts with an equals sign. -/
def read (s : String) : Reading :=
  match s.toList with
  | '=' :: body =>
    match ofText (String.ofList body) with
    | .ok e => .formula e
    | .error e => .malformed e
  | _ => .plain

end Spreadsheet.Formula
