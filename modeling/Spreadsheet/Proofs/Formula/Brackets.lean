import Spreadsheet.Proofs.Formula.Adjacency

/-!
# Open brackets

Which brackets are open behind some tokens, and whether an operand may stand there. The tokens of an
expression close all brackets that they open. Behind an entry of a table, the innermost bracket that
is open is the brace of the table, and the last token may be that of an operand; where an operand is
awaited, it may not.
-/

namespace Spreadsheet.Formula

/-- The brackets that are open behind a token, the innermost first, given those before it. -/
def Token.bracket (brackets : List Token) (t : Token) : List Token :=
  match t with
  | .openParen | .openBrace => t :: brackets
  | .closeParen | .closeBrace => brackets.tail
  | _ => brackets

/-- The brackets that are open behind some tokens, the innermost first. -/
def openBrackets (tokens : List Token) : List Token :=
  tokens.foldl Token.bracket []

/-- The tokens close all brackets that they open, and no others. -/
def Balanced (tokens : List Token) : Prop :=
  ∀ brackets : List Token, tokens.foldl Token.bracket brackets = brackets

variable {p : Nat} {e : Expr} {tokens left right : List Token} {t : Token} {sheet : Option String}

namespace Balanced

/-- Nothing is balanced. -/
theorem nil : Balanced [] :=
  fun _ => rfl

/-- A token that is no bracket comes first. -/
theorem cons (ht : ∀ brackets, Token.bracket brackets t = brackets) (h : Balanced tokens) :
    Balanced (t :: tokens) := by
  intro brackets
  rw [List.foldl_cons, ht, h]

/-- Two balanced lists in a row are balanced. -/
theorem append (hleft : Balanced left) (hright : Balanced right) : Balanced (left ++ right) := by
  intro brackets
  rw [List.foldl_append, hleft, hright]

/-- A bracket is closed behind the tokens. -/
theorem enclosed {opening closing : Token} (h : Balanced tokens)
    (hopening : ∀ brackets, Token.bracket brackets opening = opening :: brackets)
    (hclosing : ∀ brackets, Token.bracket brackets closing = brackets.tail) :
    Balanced (opening :: (tokens ++ [closing])) := by
  intro brackets
  rw [List.foldl_cons, hopening, List.foldl_append, h, List.foldl_cons, List.foldl_nil, hclosing,
    List.tail_cons]

/-- Balanced lists with separators between them are balanced. -/
theorem intercalate {separator : Token} (hseparator : ∀ brackets,
    Token.bracket brackets separator = brackets) {lists : List (List Token)}
    (h : ∀ list ∈ lists, Balanced list) : Balanced ([separator].intercalate lists) := by
  induction lists with
  | nil => exact nil
  | cons list lists ih =>
    obtain ⟨hlist, hlists⟩ := List.forall_mem_cons.mp h
    by_cases hlast : lists = []
    · subst hlast
      rwa [List.intercalate_singleton]
    · rw [List.intercalate_cons_of_ne_nil hlast]
      exact (hlist.append (cons hseparator nil)).append (ih hlists)

/-- Balanced parts with commas between them are balanced. -/
theorem commaTokens {parts : List Part} (h : ∀ part ∈ parts, Balanced part.1) :
    Balanced (commaTokens parts) :=
  intercalate (fun _ => rfl) (List.forall_mem_map.mpr h)

/-- Balanced rows with semicolons between them are balanced. -/
theorem rowTokens {rows : List (List Part)} (h : ∀ row ∈ rows, ∀ part ∈ row, Balanced part.1) :
    Balanced (rowTokens rows) :=
  intercalate (fun _ => rfl) (List.forall_mem_map.mpr fun row hrow => commaTokens (h row hrow))

end Balanced

/-- What closes its brackets leaves those before it open. -/
theorem openBrackets_append (h : Balanced right) :
    openBrackets (left ++ right) = openBrackets left := by
  rw [openBrackets, List.foldl_append, h, openBrackets]

/-- References are balanced. -/
theorem Refers.balanced (h : Refers sheet tokens e) : Balanced tokens := by
  cases h <;> exact fun _ => rfl

/-- Every expression closes the brackets that it opens. -/
theorem Forms.balanced (h : Forms p tokens e) : Balanced tokens := by
  induction h with
  | number | text | boolean => exact fun _ => rfl
  | reference h => exact h.balanced
  | qualified ht h =>
    rcases ht with rfl | rfl
    · exact .cons (fun _ => rfl) (.cons (fun _ => rfl) h.balanced)
    · exact .cons (fun _ => rfl) (.cons (fun _ => rfl) h.balanced)
  | call name h ih =>
    exact .cons (fun _ => rfl) (.enclosed (.commaTokens ih) (fun _ => rfl) fun _ => rfl)
  | array hne h ih => exact .enclosed (.rowTokens ih) (fun _ => rfl) fun _ => rfl
  | parenthesised h ih => exact ih.enclosed (fun _ => rfl) fun _ => rfl
  | signed op h ih => exact ih.cons fun _ => by cases op <;> rfl
  | binary op hleft hright ihleft ihright =>
    exact ihleft.append (ihright.cons fun _ => by cases op <;> rfl)
  | single hp h ih => exact ih

/-! ## Operands and entries -/

/-- An operand may stand behind these tokens: the last one cannot be that of an operand itself. -/
def Awaits (before : List Located) : Prop :=
  ∀ t ∈ before.getLast?, ¬t.token.Ends

/-- The tokens end with an operand inside a table. -/
structure InTable (before : List Located) : Prop where
  /-- The innermost bracket that is open is a brace. -/
  brace : (openBrackets (before.map Located.token)).head? = some .openBrace
  /-- The last token may be that of an operand. -/
  ends : ∃ t ∈ before.getLast?, t.token.Ends

/-- Where an operand is awaited, no operand of a table has just ended. -/
theorem Awaits.not_inTable {before : List Located} (h : Awaits before) : ¬InTable before := by
  rintro ⟨-, t, ht, hends⟩
  exact h t ht hends

/-- Behind a token that ends no expression, an operand is awaited. -/
theorem awaits_concat {before : List Located} {t : Located} (ht : ¬t.token.Ends) :
    Awaits (before ++ [t]) := by
  intro u hu
  rw [List.getLast?_concat] at hu
  exact Option.some.inj hu ▸ ht

end Spreadsheet.Formula
