import Spreadsheet.Formula.Parser

/-!
# The grammar of formulas

Which tokens form which expression, said without a reader. An expression has a level: levels one to
five are those of the operators by their precedence, level six has the operands with a sign before
them, and level seven the operands without one. A chain of operators of one precedence leans to the
left, since only its first operand may be such a chain itself.
-/

namespace Spreadsheet.Formula

/-- The token of an operator between two operands. -/
def BinaryOp.token : BinaryOp → Token
  | .add => .plus
  | .sub => .minus
  | .mul => .times
  | .div => .over
  | .pow => .caret
  | .concat => .ampersand
  | .eq => .equal
  | .ne => .notEqual
  | .lt => .less
  | .gt => .greater
  | .le => .lessEqual
  | .ge => .greaterEqual

/-- The token of an operator before an operand. -/
def UnaryOp.token : UnaryOp → Token
  | .neg => .minus
  | .pos => .plus

/-- Some letters and some digits. -/
structure LabelParts (letters digits : List Char) : Prop where
  /-- There are letters. -/
  letters_ne : letters ≠ []
  /-- There are digits. -/
  digits_ne : digits ≠ []
  /-- The letters are letters. -/
  isLetter : ∀ c ∈ letters, Column.isLetter c = true
  /-- The digits are digits. -/
  isDigit : ∀ c ∈ digits, Number.isDigit c = true

/-- The text is the label of a cell: letters that denote its column, followed by digits that denote
its row, neither of which lies beyond the limit of its axis. -/
def Labels (s : String) (a : CellAddress) : Prop :=
  ∃ letters digits, s.toList = letters ++ digits ∧ LabelParts letters digits ∧
    a = ⟨Number.ofDigits digits, Column.value letters⟩ ∧
    a.col ≤ axisLimit ∧ 1 ≤ a.row ∧ a.row ≤ axisLimit

/-- The name is that of a truth value, in any case. -/
def Spells (name : String) (b : Bool) : Prop :=
  String.ofList (name.toList.map Text.upperAscii) = if b then "TRUE" else "FALSE"

/-- The tokens name a cell or a range on a sheet that was given before them, or on none. Both
corners of a range are on the same sheet. -/
inductive Refers (sheet : Option String) : List Token → Expr → Prop where
  /-- The label of a cell. -/
  | cell {label : String} {a : CellAddress} (h : Labels label a) :
      Refers sheet [.name label] (.cell ⟨sheet, a⟩)
  /-- The labels of two corners. -/
  | range {first last : String} {a b : CellAddress} (hfirst : Labels first a)
      (hlast : Labels last b) :
      Refers sheet [.name first, .colon, .name last] (.range ⟨sheet, a⟩ ⟨sheet, b⟩)

/-- Some tokens and the expression that they form. -/
abbrev Part := List Token × Expr

/-- The tokens of some parts with a comma between two of them. -/
def commaTokens (parts : List Part) : List Token :=
  [.comma].intercalate (parts.map Prod.fst)

/-- The tokens of some rows with a semicolon between two of them. -/
def rowTokens (rows : List (List Part)) : List Token :=
  [.semicolon].intercalate (rows.map commaTokens)

/-- The tokens form the expression at the given level. -/
inductive Forms : Nat → List Token → Expr → Prop where
  /-- A number. -/
  | number (x : Float) : Forms 7 [.number x] (.number x)
  /-- A text. -/
  | text (s : String) : Forms 7 [.text s] (.text s)
  /-- A truth value. -/
  | boolean {name : String} {b : Bool} (h : Spells name b) : Forms 7 [.name name] (.boolean b)
  /-- A cell or a range on the sheet of the formula. -/
  | reference {tokens : List Token} {e : Expr} (h : Refers none tokens e) : Forms 7 tokens e
  /-- A cell or a range behind the name of its sheet. -/
  | qualified {sheet : String} {tokens : List Token} {e : Expr} {t : Token}
      (ht : t = .name sheet ∨ t = .quotedName sheet) (h : Refers (some sheet) tokens e) :
      Forms 7 (t :: .exclamation :: tokens) e
  /-- A call with any number of arguments. -/
  | call (name : String) {parts : List Part} (h : ∀ part ∈ parts, Forms 1 part.1 part.2) :
      Forms 7 (.name name :: .openParen :: (commaTokens parts ++ [.closeParen]))
        (.call name (parts.map Prod.snd))
  /-- A table with any number of rows, none of which is empty. -/
  | array {rows : List (List Part)} (hne : ∀ row ∈ rows, row ≠ [])
      (h : ∀ row ∈ rows, ∀ part ∈ row, Forms 1 part.1 part.2) :
      Forms 7 (.openBrace :: (rowTokens rows ++ [.closeBrace]))
        (.array (rows.map (List.map Prod.snd)))
  /-- An expression in parentheses. -/
  | parenthesised {tokens : List Token} {e : Expr} (h : Forms 1 tokens e) :
      Forms 7 (.openParen :: (tokens ++ [.closeParen])) e
  /-- An operand behind a sign. -/
  | signed (op : UnaryOp) {tokens : List Token} {e : Expr} (h : Forms 6 tokens e) :
      Forms 6 (op.token :: tokens) (.unary op e)
  /-- An operator behind a chain of its precedence and before an operand of the next level. -/
  | binary (op : BinaryOp) {left right : List Token} {a b : Expr}
      (hleft : Forms op.precedence left a) (hright : Forms (op.precedence + 1) right b) :
      Forms op.precedence (left ++ op.token :: right) (.binary op a b)
  /-- A chain with a single operand. -/
  | single {p : Nat} {tokens : List Token} {e : Expr} (hp : 1 ≤ p) (h : Forms (p + 1) tokens e) :
      Forms p tokens e

/-! ## Parts and separators -/

section Separators

variable {part : Part} {parts row : List Part} {rows : List (List Part)} {t : Token}

/-- A single part has no comma. -/
@[simp] theorem commaTokens_singleton (part : Part) : commaTokens [part] = part.1 :=
  List.intercalate_singleton

/-- A comma stands behind the first of several parts. -/
theorem commaTokens_cons (hne : parts ≠ []) :
    commaTokens (part :: parts) = part.1 ++ .comma :: commaTokens parts := by
  rw [commaTokens, List.map_cons, List.intercalate_cons_of_ne_nil (by simpa using hne)]
  simp [commaTokens]

/-- A single row has no semicolon. -/
@[simp] theorem rowTokens_singleton (row : List Part) : rowTokens [row] = commaTokens row :=
  List.intercalate_singleton

/-- A semicolon stands behind the first of several rows. -/
theorem rowTokens_cons (hne : rows ≠ []) :
    rowTokens (row :: rows) = commaTokens row ++ .semicolon :: rowTokens rows := by
  rw [rowTokens, List.map_cons, List.intercalate_cons_of_ne_nil (by simpa using hne)]
  simp [rowTokens]

/-- A part at the front of the first row. -/
theorem rowTokens_cons_cons (hne : row ≠ []) :
    rowTokens ((part :: row) :: rows) = part.1 ++ .comma :: rowTokens (row :: rows) := by
  by_cases hrows : rows = []
  · subst hrows
    rw [rowTokens_singleton, rowTokens_singleton, commaTokens_cons hne]
  · rw [rowTokens_cons hrows, rowTokens_cons hrows, commaTokens_cons hne]
    simp

/-- Among lists with separators between them are the separators and the tokens of the lists. -/
theorem mem_intercalate {separator : Token} {lists : List (List Token)}
    (h : t ∈ [separator].intercalate lists) : t = separator ∨ ∃ list ∈ lists, t ∈ list := by
  induction lists with
  | nil => cases h
  | cons list lists ih =>
    by_cases hne : lists = []
    · subst hne
      rw [List.intercalate_singleton] at h
      exact .inr ⟨list, List.mem_cons_self, h⟩
    · rw [List.intercalate_cons_of_ne_nil hne, List.mem_append, List.mem_append,
        List.mem_singleton] at h
      obtain (h | h) | h := h
      · exact .inr ⟨list, List.mem_cons_self, h⟩
      · exact .inl h
      · refine (ih h).imp_right fun ⟨other, hother, ht⟩ => ?_
        exact ⟨other, List.mem_cons_of_mem list hother, ht⟩

/-- Among parts with commas between them are the commas and the tokens of the parts. -/
theorem mem_commaTokens (h : t ∈ commaTokens parts) :
    t = .comma ∨ ∃ part ∈ parts, t ∈ part.1 := by
  refine (mem_intercalate h).imp_right fun ⟨_, hmem, ht⟩ => ?_
  obtain ⟨part, hpart, rfl⟩ := List.mem_map.mp hmem
  exact ⟨part, hpart, ht⟩

/-- Among rows with semicolons between them are the semicolons and the tokens of the rows. -/
theorem mem_rowTokens (h : t ∈ rowTokens rows) :
    t = .semicolon ∨ ∃ row ∈ rows, t ∈ commaTokens row := by
  refine (mem_intercalate h).imp_right fun ⟨_, hmem, ht⟩ => ?_
  obtain ⟨row, hrow, rfl⟩ := List.mem_map.mp hmem
  exact ⟨row, hrow, ht⟩

end Separators

/-! ## Tokens of an expression -/

variable {p : Nat} {tokens : List Token} {e : Expr} {sheet : Option String}

/-- No reference has the end of the text among its tokens. -/
theorem Refers.finish_not_mem (h : Refers sheet tokens e) : .finish ∉ tokens := by
  cases h <;> simp

/-- The end is no part of an expression. -/
theorem Forms.finish_not_mem (h : Forms p tokens e) : .finish ∉ tokens := by
  induction h with
  | number | text | boolean => simp
  | reference h => exact h.finish_not_mem
  | qualified ht h =>
    have := h.finish_not_mem
    rcases ht with rfl | rfl <;> simpa
  | call name h ih =>
    intro hmem
    simp only [List.mem_cons, List.mem_append, List.not_mem_nil, reduceCtorEq, false_or,
      or_false] at hmem
    obtain hcomma | ⟨part, hpart, hmem⟩ := mem_commaTokens hmem
    · cases hcomma
    · exact ih part hpart hmem
  | array hne h ih =>
    intro hmem
    simp only [List.mem_cons, List.mem_append, List.not_mem_nil, reduceCtorEq, false_or,
      or_false] at hmem
    obtain hsemicolon | ⟨row, hrow, hmem⟩ := mem_rowTokens hmem
    · cases hsemicolon
    · obtain hcomma | ⟨part, hpart, hmem⟩ := mem_commaTokens hmem
      · cases hcomma
      · exact ih row hrow part hpart hmem
  | parenthesised h ih => simpa using ih
  | signed op h ih => cases op <;> simpa [UnaryOp.token] using ih
  | binary op hleft hright ihleft ihright =>
    cases op <;> simp [BinaryOp.token, ihleft, ihright]
  | single hp h ih => exact ih

end Spreadsheet.Formula
