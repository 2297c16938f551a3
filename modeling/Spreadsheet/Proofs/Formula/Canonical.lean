import Mathlib.Data.List.Basic
import Spreadsheet.Formula.Render
import Spreadsheet.Proofs.Address.Label
import Spreadsheet.Proofs.Formula.Completeness
import Spreadsheet.Proofs.Number.Digits

/-!
# Canonical tokens

The text of an expression is a sequence of tokens written one after the other. These tokens form the
expression again, at the level of its precedence: parentheses stand wherever an operand would
otherwise be bound by its neighbour, and a reference has the labels of its cells.
-/

namespace Spreadsheet.Formula

/-! ## Tokens as texts -/

/-- The text of a token. -/
def Token.render : Token → List Char
  | .number x => (numberText x).toList
  | .text s => delimited '"' s
  | .name s => s.toList
  | .quotedName s => delimited '\x27' s
  | .plus => ['+']
  | .minus => ['-']
  | .times => ['*']
  | .over => ['/']
  | .caret => ['^']
  | .ampersand => ['&']
  | .equal => ['=']
  | .notEqual => ['<', '>']
  | .less => ['<']
  | .greater => ['>']
  | .lessEqual => ['<', '=']
  | .greaterEqual => ['>', '=']
  | .openParen => ['(']
  | .closeParen => [')']
  | .openBrace => ['\x7b']
  | .closeBrace => ['\x7d']
  | .comma => [',']
  | .colon => [':']
  | .semicolon => [';']
  | .exclamation => ['!']
  | .finish => []

/-- Tokens in parentheses if they are needed. -/
def bracketedIf (needed : Bool) (tokens : List Token) : List Token :=
  if needed then .openParen :: (tokens ++ [.closeParen]) else tokens

/-- The name of a sheet, in quotes unless it is a plain word. -/
def sheetToken (name : String) : Token :=
  if isPlainName name then .name name else .quotedName name

/-- The tokens before a reference to a sheet. -/
def sheetTokens : Option String → List Token
  | none => []
  | some name => [sheetToken name, .exclamation]

/-- The tokens of a reference. -/
def Reference.tokens (r : Reference) : List Token :=
  sheetTokens r.sheet ++ [.name r.cell.text]

namespace Expr

mutual
/-- The canonical tokens of an expression. -/
def tokens : Expr → List Token
  | .number x => [.number x]
  | .text s => [.text s]
  | .boolean b => [.name (if b then "TRUE" else "FALSE")]
  | .cell r => r.tokens
  | .range a b => a.tokens ++ [.colon, .name b.cell.text]
  | .call name args => .name name :: .openParen :: (argumentTokens args ++ [.closeParen])
  | .binary op a b =>
    bracketedIf (a.precedence < op.precedence) a.tokens ++
      op.token :: bracketedIf (b.precedence ≤ op.precedence) b.tokens
  | .unary op a => op.token :: bracketedIf (a.precedence < unaryPrecedence) a.tokens
  | .array rows => .openBrace :: (tableTokens rows ++ [.closeBrace])

/-- The canonical tokens of the items of a row. -/
def argumentTokens : List Expr → List Token
  | [] => []
  | [e] => e.tokens
  | e :: f :: row => e.tokens ++ .comma :: argumentTokens (f :: row)

/-- The canonical tokens of the rows of a table. -/
def tableTokens : List (List Expr) → List Token
  | [] => []
  | [row] => argumentTokens row
  | row :: sow :: rows => argumentTokens row ++ .semicolon :: tableTokens (sow :: rows)
end

mutual
/-- The number literals of an expression, from left to right. -/
def literals : Expr → List Float
  | .number x => [x]
  | .call _ args => argumentLiterals args
  | .binary _ a b => a.literals ++ b.literals
  | .unary _ a => a.literals
  | .array rows => tableLiterals rows
  | _ => []

/-- The number literals of a row. -/
def argumentLiterals : List Expr → List Float
  | [] => []
  | e :: row => e.literals ++ argumentLiterals row

/-- The number literals of a table. -/
def tableLiterals : List (List Expr) → List Float
  | [] => []
  | row :: rows => argumentLiterals row ++ tableLiterals rows
end

/-- The canonical tokens of an expression where the given level is asked for. -/
def tokensAt (p : Nat) (e : Expr) : List Token :=
  bracketedIf (e.precedence < p) e.tokens

/-- An expression as a part with its canonical tokens. -/
def part (e : Expr) : Part :=
  (e.tokens, e)

end Expr

variable {p q : Nat} {e : Expr} {tokens : List Token} {sheet : Option String} {a : CellAddress}

/-! ## The text of the tokens -/

/-- Brackets are written as they are among the tokens. -/
theorem flatMap_bracketedIf (needed : Bool) (tokens : List Token) :
    (bracketedIf needed tokens).flatMap Token.render =
      parenthesisedIf needed (tokens.flatMap Token.render) := by
  cases needed with
  | false => rfl
  | true => simp [bracketedIf, parenthesisedIf, Token.render]

/-- The token of an operator is written as its sign. -/
theorem BinaryOp.render_token (op : BinaryOp) : op.token.render = op.sign.toList := by
  cases op <;> rfl

/-- The token of a sign is written as this sign. -/
theorem UnaryOp.render_token (op : UnaryOp) : op.token.render = op.sign.toList := by
  cases op <;> rfl

/-- The tokens of a sheet are written as its name with the mark behind it. -/
theorem flatMap_sheetTokens (sheet : Option String) :
    (sheetTokens sheet).flatMap Token.render = sheetText sheet := by
  cases sheet with
  | none => rfl
  | some name =>
    by_cases hplain : isPlainName name = true
    · simp [sheetTokens, sheetToken, sheetText, hplain, Token.render]
    · simp [sheetTokens, sheetToken, sheetText, hplain, Token.render]

/-- A reference is written token by token. -/
theorem Reference.render_eq_flatMap (r : Reference) :
    r.render = r.tokens.flatMap Token.render := by
  simp [Reference.render, Reference.tokens, flatMap_sheetTokens, Token.render, CellAddress.text]

namespace Expr

mutual
/-- The text of an expression is that of its canonical tokens. -/
theorem render_eq_flatMap : (e : Expr) → e.render = e.tokens.flatMap Token.render
  | .number x => by simp [render, tokens, Token.render]
  | .text s => by simp [render, tokens, Token.render]
  | .boolean b => by cases b <;> simp [render, tokens, Token.render]
  | .cell r => by simp only [render, tokens, Reference.render_eq_flatMap]
  | .range a b => by
    simp [render, tokens, separated, Reference.render_eq_flatMap, Token.render, CellAddress.text]
  | .call name args => by
    simp [render, tokens, Token.render, renderRow_eq_flatMap args]
  | .binary op a b => by
    simp [render, tokens, flatMap_bracketedIf, op.render_token, render_eq_flatMap a,
      render_eq_flatMap b]
  | .unary op a => by
    simp [render, tokens, flatMap_bracketedIf, op.render_token, render_eq_flatMap a]
  | .array rows => by
    simp [render, tokens, Token.render, renderRows_eq_flatMap rows]

/-- A row of expressions is written token by token. -/
theorem renderRow_eq_flatMap :
    (row : List Expr) → renderRow row = (argumentTokens row).flatMap Token.render
  | [] => rfl
  | [e] => by simp only [renderRow, argumentTokens, render_eq_flatMap e]
  | e :: f :: row => by
    simp [renderRow, argumentTokens, separated, Token.render, render_eq_flatMap e,
      renderRow_eq_flatMap (f :: row)]

/-- Rows of expressions are written token by token. -/
theorem renderRows_eq_flatMap :
    (rows : List (List Expr)) → renderRows rows = (tableTokens rows).flatMap Token.render
  | [] => rfl
  | [row] => by simp only [renderRows, tableTokens, renderRow_eq_flatMap row]
  | row :: sow :: rows => by
    simp [renderRows, tableTokens, separated, Token.render, renderRow_eq_flatMap row,
      renderRows_eq_flatMap (sow :: rows)]
end

/-! ## Rows and tables as parts -/

/-- The tokens of arguments are those of the parts with commas between them. -/
theorem argumentTokens_eq (row : List Expr) : argumentTokens row = commaTokens (row.map part) := by
  induction row with
  | nil => rfl
  | cons e row ih =>
    cases row with
    | nil => simp [argumentTokens, part]
    | cons f row =>
      have hne : (f :: row).map part ≠ [] := List.cons_ne_nil _ _
      change e.tokens ++ .comma :: argumentTokens (f :: row) =
        commaTokens (e.part :: (f :: row).map part)
      rw [ih, commaTokens_cons hne]
      rfl

/-- The tokens of a table are those of its rows with semicolons between them. -/
theorem tableTokens_eq (rows : List (List Expr)) :
    tableTokens rows = rowTokens (rows.map (List.map part)) := by
  induction rows with
  | nil => rfl
  | cons row rows ih =>
    cases rows with
    | nil => rw [tableTokens, argumentTokens_eq, List.map_singleton, rowTokens_singleton]
    | cons sow rows =>
      have hne : (sow :: rows).map (List.map part) ≠ [] := List.cons_ne_nil _ _
      change argumentTokens row ++ .semicolon :: tableTokens (sow :: rows) =
        rowTokens (row.map part :: (sow :: rows).map (List.map part))
      rw [ih, argumentTokens_eq, rowTokens_cons hne]

/-- The numbers of arguments are those of each of them in turn. -/
theorem argumentLiterals_eq (row : List Expr) : argumentLiterals row = row.flatMap literals := by
  induction row with
  | nil => rfl
  | cons e row ih => rw [argumentLiterals, ih, List.flatMap_cons]

/-- The numbers of a table are those of its rows in turn. -/
theorem tableLiterals_eq (rows : List (List Expr)) :
    tableLiterals rows = rows.flatMap fun row => row.flatMap literals := by
  induction rows with
  | nil => rfl
  | cons row rows ih => rw [tableLiterals, ih, argumentLiterals_eq, List.flatMap_cons]

/-- An operator stands between its operands, which are bracketed as its precedence demands. -/
theorem tokens_binary (op : BinaryOp) (a b : Expr) :
    (Expr.binary op a b).tokens =
      a.tokensAt op.precedence ++ op.token :: b.tokensAt (op.precedence + 1) := by
  simp only [tokens, tokensAt, Nat.lt_succ_iff]

/-- No expression binds more loosely than comparisons. -/
theorem precedence_pos (e : Expr) : 1 ≤ e.precedence := by
  cases e with
  | binary op => cases op <;> simp [precedence, BinaryOp.precedence]
  | _ => simp [precedence, unaryPrecedence]

end Expr

/-! ## The canonical tokens form the expression -/

/-- What the tokens form at a level they form at every lower one. -/
theorem Forms.lower (h : Forms p tokens e) (hq : 1 ≤ q) (hle : q ≤ p) : Forms q tokens e := by
  obtain ⟨steps, rfl⟩ := Nat.exists_eq_add_of_le hle
  induction steps with
  | zero => exact h
  | succ steps ih =>
    have hlevel : 1 ≤ q + steps := Nat.le_add_right_of_le hq
    exact ih (.single hlevel h) (Nat.le_add_right q steps)

/-- Parentheses make an operand of any level. -/
theorem Forms.tokensAt (h : Forms e.precedence e.tokens e) (hp : 1 ≤ p) (hle : p ≤ 7) :
    Forms p (e.tokensAt p) e := by
  by_cases hlow : e.precedence < p
  · have hinner : Forms 1 e.tokens e := h.lower (Nat.le_refl 1) e.precedence_pos
    rw [Expr.tokensAt, bracketedIf, if_pos (decide_eq_true hlow)]
    exact (Forms.parenthesised hinner).lower hp hle
  · rw [Expr.tokensAt, bracketedIf, if_neg (by simpa using hlow)]
    exact h.lower hp (Nat.le_of_not_lt hlow)

/-- A cell that some label denotes exists. -/
theorem Labels.inRange {label : String} (h : Labels label a) : a.InRange := by
  obtain ⟨letters, digits, -, hparts, rfl, hcol, hrow, hlimit⟩ := h
  exact ⟨hrow, hlimit, Column.value_pos hparts.letters_ne, hcol⟩

/-- A cell that exists is denoted by its label. -/
theorem labels_text (h : a.InRange) : Labels a.text a := by
  refine ⟨Column.label a.col, Nat.toDigits 10 a.row, ?_, ?_, ?_, h.col_le, h.row_pos, h.row_le⟩
  · rw [CellAddress.text, String.toList_ofList, CellAddress.label]
  · exact ⟨Column.label_ne_nil (Nat.ne_of_gt h.col_pos), Nat.toDigits_ne_nil,
      fun c hc => Column.isLetter_of_mem_label hc,
      fun c hc => Number.isDigit_of_mem_toDigits hc⟩
  · rw [Column.value_label, Number.ofDigits_toDigits]

/-- A cell that some label denotes is denoted by its own one. -/
theorem Labels.text {label : String} (h : Labels label a) : Labels a.text a :=
  labels_text h.inRange

/-- Truth values are spelled in capitals. -/
theorem spells_name (b : Bool) : Spells (if b then "TRUE" else "FALSE") b := by
  cases b with
  | false => rfl
  | true => rfl

/-- A sheet is named by a plain or a quoted name. -/
theorem sheetToken_eq (name : String) :
    sheetToken name = .name name ∨ sheetToken name = .quotedName name := by
  unfold sheetToken
  split
  · exact .inl rfl
  · exact .inr rfl

/-- What refers to a cell or a range is written with the labels of its cells. -/
theorem Refers.canonical (h : Refers sheet tokens e) :
    ∃ labels, e.tokens = sheetTokens sheet ++ labels ∧ e.precedence = 7 ∧
      Refers sheet labels e := by
  cases h with
  | cell ha => exact ⟨_, rfl, rfl, .cell ha.text⟩
  | range ha hb =>
    refine ⟨_, ?_, rfl, .range ha.text hb.text⟩
    simp [Expr.tokens, Reference.tokens]

/-- The canonical tokens of an expression form it, whatever tokens it was formed by. -/
theorem Forms.canonical (h : Forms p tokens e) : Forms e.precedence e.tokens e := by
  induction h with
  | number x => exact .number x
  | text s => exact .text s
  | @boolean _ b => exact .boolean (spells_name b)
  | reference h =>
    obtain ⟨labels, htokens, hlevel, hrefers⟩ := h.canonical
    rw [htokens, hlevel]
    exact .reference hrefers
  | @qualified sheet _ _ _ _ h =>
    obtain ⟨labels, htokens, hlevel, hrefers⟩ := h.canonical
    rw [htokens, hlevel]
    exact .qualified (sheetToken_eq sheet) hrefers
  | @call name parts h ih =>
    have hparts : ∀ part ∈ parts.map (fun part => part.2.part), Forms 1 part.1 part.2 := by
      intro part hpart
      obtain ⟨source, hsource, rfl⟩ := List.mem_map.mp hpart
      exact (ih source hsource).lower (Nat.le_refl 1) source.2.precedence_pos
    have hcall := Forms.call name hparts
    rw [List.map_map] at hcall
    rw [Expr.tokens, Expr.argumentTokens_eq, List.map_map]
    exact hcall
  | @array rows hne h ih =>
    have hrows : ∀ row ∈ rows.map (List.map fun part => part.2.part), row ≠ [] := by
      intro row hrow
      obtain ⟨source, hsource, rfl⟩ := List.mem_map.mp hrow
      simpa using hne source hsource
    have hparts : ∀ row ∈ rows.map (List.map fun part => part.2.part), ∀ part ∈ row,
        Forms 1 part.1 part.2 := by
      intro row hrow part hpart
      obtain ⟨source, hsource, rfl⟩ := List.mem_map.mp hrow
      obtain ⟨item, hitem, rfl⟩ := List.mem_map.mp hpart
      exact (ih source hsource item hitem).lower (Nat.le_refl 1) item.2.precedence_pos
    have harray := Forms.array hrows hparts
    simp only [List.map_map, Function.comp_def] at harray
    simp only [Expr.tokens, Expr.tableTokens_eq, List.map_map, Function.comp_def]
    exact harray
  | parenthesised h ih => exact ih
  | signed op h ih => exact .signed op (ih.tokensAt (by decide) (by decide))
  | @binary op left right a b hleft hright ihleft ihright =>
    have hlevel := op.precedence_le
    have hpos : 1 ≤ op.precedence := (Expr.binary op a b).precedence_pos
    rw [Expr.tokens_binary]
    exact .binary op (ihleft.tokensAt hpos (by omega)) (ihright.tokensAt (by omega) (by omega))
  | single hp h ih => exact ih

/-! ## Number literals -/

/-- The number that a token is. -/
def Token.number? : Token → Option Float
  | .number x => some x
  | _ => none

/-- Separators are no numbers. -/
theorem number?_separator {token : Token} (h : token.number? = none) (lists : List (List Token)) :
    ([token].intercalate lists).filterMap Token.number? =
      lists.flatMap (List.filterMap Token.number?) := by
  induction lists with
  | nil => rfl
  | cons list lists ih =>
    by_cases hne : lists = []
    · subst hne
      simp
    · rw [List.intercalate_cons_of_ne_nil hne]
      simp [h, ih]

/-- The numbers of parts with commas between them are those of the parts. -/
theorem number?_commaTokens (parts : List Part) :
    (commaTokens parts).filterMap Token.number? =
      parts.flatMap fun part => part.1.filterMap Token.number? := by
  rw [commaTokens, number?_separator rfl, List.flatMap_map]

/-- The numbers of rows with semicolons between them are those of their parts. -/
theorem number?_rowTokens (rows : List (List Part)) :
    (rowTokens rows).filterMap Token.number? =
      rows.flatMap fun row => row.flatMap fun part => part.1.filterMap Token.number? := by
  rw [rowTokens, number?_separator rfl, List.flatMap_map]
  simp only [number?_commaTokens]

/-- Operators are no numbers. -/
theorem number?_operator (op : BinaryOp) : op.token.number? = none := by
  cases op <;> rfl

/-- References have no numbers. -/
theorem Refers.number?_eq (h : Refers sheet tokens e) :
    tokens.filterMap Token.number? = e.literals := by
  cases h <;> rfl

/-- The number literals of an expression are the numbers among the tokens that form it. -/
theorem Forms.number?_eq (h : Forms p tokens e) :
    tokens.filterMap Token.number? = e.literals := by
  induction h with
  | number | text | boolean => rfl
  | reference h => exact h.number?_eq
  | qualified ht h =>
    rcases ht with rfl | rfl
    · exact h.number?_eq
    · exact h.number?_eq
  | @call name parts h ih =>
    have hparts : parts.flatMap (fun part => part.1.filterMap Token.number?) =
        parts.flatMap fun part => part.2.literals := List.flatMap_congr ih
    rw [Expr.literals, Expr.argumentLiterals_eq, List.flatMap_map, ← hparts]
    simp [List.filterMap_cons, Token.number?, number?_commaTokens]
  | @array rows hne h ih =>
    have hrows : rows.flatMap (fun row => row.flatMap fun part => part.1.filterMap Token.number?) =
        rows.flatMap fun row => row.flatMap fun part => part.2.literals :=
      List.flatMap_congr fun row hrow => List.flatMap_congr (ih row hrow)
    rw [Expr.literals, Expr.tableLiterals_eq, List.flatMap_map]
    simp only [List.flatMap_map, ← hrows]
    simp [List.filterMap_cons, Token.number?, number?_rowTokens]
  | parenthesised h ih => simpa [List.filterMap_cons, Token.number?] using ih
  | signed op h ih => cases op <;> exact ih
  | binary op hleft hright ihleft ihright =>
    simp [Expr.literals, number?_operator, ihleft, ihright]
  | single hp h ih => exact ih

end Spreadsheet.Formula
