import Mathlib.Data.List.Chain
import Spreadsheet.Proofs.Formula.Completeness

/-!
# Neighbours in an expression

Which token may stand behind which in the tokens of an expression. Two words never meet, and a name
that nothing explains is always that of a function or of a sheet.
-/

namespace Spreadsheet.Formula

/-- The name means something by itself: a truth value, or a cell by its label. -/
def Known (name : String) : Prop :=
  (∃ b, Spells name b) ∨ CellAddress.isLabel name = true

/-- The token may stand behind a complete operand. -/
def Token.follows : Token → Bool
  | .plus | .minus | .times | .over | .caret | .ampersand => true
  | .equal | .notEqual | .less | .greater | .lessEqual | .greaterEqual => true
  | .closeParen | .closeBrace | .comma | .semicolon => true
  | _ => false

/-- The token may be the last one of an expression. -/
def Token.Ends : Token → Prop
  | .number _ | .text _ | .closeParen | .closeBrace => True
  | .name s => Known s
  | _ => False

/-- The second token may stand behind the first one in an expression. -/
def Adjoins : Token → Token → Prop
  | .number _, u | .text _, u | .closeParen, u | .closeBrace, u => u.follows = true
  | .name s, u => u = .openParen ∨ u = .exclamation ∨ Known s ∧ (u.follows = true ∨ u = .colon)
  | .quotedName _, u => u = .exclamation
  | .exclamation, u | .colon, u => u.starts = true
  | .openParen, u => u.starts = true ∨ u = .closeParen
  | .openBrace, u => u.starts = true ∨ u = .closeBrace
  | _, u => u.starts = true

variable {p : Nat} {e : Expr} {tokens left right : List Token} {sheet : Option String}
  {t u separator : Token} {a : CellAddress} {label name : String}

/-- What ends an expression can stand in front of everything that may follow one. -/
theorem Token.Ends.adjoins (h : t.Ends) (hu : u.follows = true) : Adjoins t u := by
  cases t with
  | number | text | closeParen | closeBrace => exact hu
  | name s => exact .inr (.inr ⟨h, .inl hu⟩)
  | _ => cases h

/-- A label means something by itself. -/
theorem Labels.known (h : Labels label a) : Known label :=
  .inr h.isLabel

/-- The token separates two operands: it follows one and stands before another. -/
structure Token.Separates (t : Token) : Prop where
  /-- It may stand behind an operand. -/
  follows : t.follows = true
  /-- Any first token of an operand may stand behind it. -/
  adjoins : ∀ u : Token, u.starts = true → Adjoins t u

/-- Operators separate two operands. -/
theorem BinaryOp.separates (op : BinaryOp) : op.token.Separates := by
  cases op <;> exact ⟨rfl, fun _ hu => hu⟩

/-- Tokens that may stand side by side, with a first and a last one as an expression has them. -/
structure Unbroken (tokens : List Token) : Prop where
  /-- Neighbours may stand side by side. -/
  isChain : tokens.IsChain Adjoins
  /-- The first token can be that of an expression. -/
  starts : ∃ t behind, tokens = t :: behind ∧ t.starts = true
  /-- The last token can be that of an expression. -/
  ends : ∃ front t, tokens = front ++ [t] ∧ t.Ends

namespace Unbroken

/-- A token that starts and ends an expression is unbroken by itself. -/
theorem singleton (hstarts : t.starts = true) (hends : t.Ends) : Unbroken [t] :=
  ⟨.singleton t, ⟨t, [], rfl, hstarts⟩, ⟨[], t, rfl, hends⟩⟩

private theorem adjoins_of_mem_getLast? (h : Unbroken tokens) (hu : u.follows = true) :
    ∀ t ∈ tokens.getLast?, Adjoins t u := by
  obtain ⟨front, last, rfl, hlast⟩ := h.ends
  intro t ht
  rw [List.getLast?_concat] at ht
  obtain rfl := Option.some.inj ht
  exact hlast.adjoins hu

private theorem starts_of_mem_head? (h : Unbroken tokens) :
    ∀ t ∈ tokens.head?, t.starts = true := by
  obtain ⟨first, behind, rfl, hfirst⟩ := h.starts
  rintro _ ⟨⟩
  exact hfirst

/-- Another token comes first. -/
theorem cons (h : Unbroken tokens) (hstarts : t.starts = true)
    (hadjoins : ∀ u : Token, u.starts = true → Adjoins t u) : Unbroken (t :: tokens) := by
  obtain ⟨front, last, rfl, hlast⟩ := h.ends
  refine ⟨List.isChain_cons.mpr ⟨?_, h.isChain⟩, ⟨t, _, rfl, hstarts⟩,
    ⟨t :: front, last, rfl, hlast⟩⟩
  intro u hu
  exact hadjoins u (h.starts_of_mem_head? u hu)

/-- Operands on both sides of a separator. -/
theorem separated (hleft : Unbroken left) (hright : Unbroken right)
    (hseparator : separator.Separates) : Unbroken (left ++ separator :: right) := by
  obtain ⟨first, behind, rfl, hfirst⟩ := hleft.starts
  obtain ⟨front, last, rfl, hlast⟩ := hright.ends
  refine ⟨List.isChain_append.mpr ⟨hleft.isChain, List.isChain_cons.mpr ⟨?_, hright.isChain⟩, ?_⟩,
    ⟨first, _, rfl, hfirst⟩, ⟨first :: behind ++ separator :: front, last, by simp, hlast⟩⟩
  · intro u hu
    exact hseparator.adjoins u (hright.starts_of_mem_head? u hu)
  · rintro t ht _ ⟨⟩
    exact hleft.adjoins_of_mem_getLast? hseparator.follows t ht

/-- Unbroken lists with separators between them are unbroken. -/
theorem intercalate (hseparator : separator.Separates) {lists : List (List Token)}
    (hne : lists ≠ []) (h : ∀ list ∈ lists, Unbroken list) :
    Unbroken ([separator].intercalate lists) := by
  induction lists with
  | nil => exact absurd rfl hne
  | cons list lists ih =>
    obtain ⟨hlist, hlists⟩ := List.forall_mem_cons.mp h
    by_cases hlast : lists = []
    · subst hlast
      rwa [List.intercalate_singleton]
    · rw [List.intercalate_cons_of_ne_nil hlast]
      have hjoined := hlist.separated (ih hlast hlists) hseparator
      simpa using hjoined

/-- Unbroken parts with commas between them are unbroken. -/
theorem commaTokens {parts : List Part} (hne : parts ≠ [])
    (h : ∀ part ∈ parts, Unbroken part.1) : Unbroken (commaTokens parts) := by
  have hcomma : Token.comma.Separates := ⟨rfl, fun _ hu => hu⟩
  refine intercalate hcomma (by simpa using hne) fun list hlist => ?_
  obtain ⟨part, hpart, rfl⟩ := List.mem_map.mp hlist
  exact h part hpart

/-- Unbroken rows with semicolons between them are unbroken. -/
theorem rowTokens {rows : List (List Part)} (hne : rows ≠ []) (hrows : ∀ row ∈ rows, row ≠ [])
    (h : ∀ row ∈ rows, ∀ part ∈ row, Unbroken part.1) : Unbroken (rowTokens rows) := by
  have hsemicolon : Token.semicolon.Separates := ⟨rfl, fun _ hu => hu⟩
  refine intercalate hsemicolon (by simpa using hne) fun list hlist => ?_
  obtain ⟨row, hrow, rfl⟩ := List.mem_map.mp hlist
  exact commaTokens (hrows row hrow) (h row hrow)

/-- Brackets around tokens, or around nothing. -/
theorem isChain_enclosed {opening closing : Token} (h : tokens = [] ∨ Unbroken tokens)
    (hnone : Adjoins opening closing)
    (hopening : ∀ u : Token, u.starts = true → Adjoins opening u)
    (hclosing : closing.follows = true) :
    (opening :: (tokens ++ [closing])).IsChain Adjoins := by
  rcases h with rfl | h
  · exact List.isChain_cons_cons.mpr ⟨hnone, .singleton closing⟩
  · obtain ⟨first, behind, rfl, hfirst⟩ := h.starts
    refine List.isChain_cons.mpr ⟨?_, List.isChain_append.mpr ⟨h.isChain, .singleton closing, ?_⟩⟩
    · rintro _ ⟨⟩
      exact hopening first hfirst
    · rintro t ht _ ⟨⟩
      exact h.adjoins_of_mem_getLast? hclosing t ht

end Unbroken

/-- References are unbroken. -/
theorem Refers.unbroken (h : Refers sheet tokens e) : Unbroken tokens := by
  cases h with
  | cell ha => exact .singleton rfl ha.known
  | @range first last _ _ ha hb =>
    refine ⟨?_, ⟨.name first, _, rfl, rfl⟩, ⟨[.name first, .colon], .name last, rfl, hb.known⟩⟩
    refine List.isChain_cons_cons.mpr ⟨.inr (.inr ⟨ha.known, .inr rfl⟩), ?_⟩
    exact List.isChain_cons_cons.mpr ⟨rfl, .singleton _⟩

/-- The tokens of an expression may stand side by side as they do. -/
theorem Forms.unbroken (h : Forms p tokens e) : Unbroken tokens := by
  induction h with
  | number | text => exact .singleton rfl trivial
  | @boolean name b h => exact .singleton rfl (.inl ⟨b, h⟩)
  | reference h => exact h.unbroken
  | @qualified sheet labels _ t ht h =>
    have hmark : Unbroken labels := h.unbroken
    obtain ⟨first, behind, rfl, hfirst⟩ := hmark.starts
    obtain ⟨front, last, hfront, hlast⟩ := hmark.ends
    have hadjoins : t.starts = true ∧ Adjoins t .exclamation := by
      rcases ht with rfl | rfl
      · exact ⟨rfl, .inr (.inl rfl)⟩
      · exact ⟨rfl, rfl⟩
    refine ⟨?_, ⟨t, _, rfl, hadjoins.1⟩,
      ⟨t :: .exclamation :: front, last, by simp [hfront], hlast⟩⟩
    refine List.isChain_cons_cons.mpr ⟨hadjoins.2, ?_⟩
    exact List.isChain_cons_cons.mpr ⟨hfirst, hmark.isChain⟩
  | @call name parts h ih =>
    have hinner : commaTokens parts = [] ∨ Unbroken (commaTokens parts) := by
      by_cases hne : parts = []
      · subst hne
        exact .inl rfl
      · exact .inr (.commaTokens hne ih)
    refine ⟨?_, ⟨.name name, _, rfl, rfl⟩,
      ⟨.name name :: .openParen :: commaTokens parts, .closeParen, rfl, trivial⟩⟩
    refine List.isChain_cons_cons.mpr ⟨.inl rfl, ?_⟩
    exact Unbroken.isChain_enclosed hinner (.inr rfl) (fun _ hu => .inl hu) rfl
  | @array rows hne h ih =>
    have hinner : rowTokens rows = [] ∨ Unbroken (rowTokens rows) := by
      by_cases hrows : rows = []
      · subst hrows
        exact .inl rfl
      · exact .inr (.rowTokens hrows hne ih)
    refine ⟨?_, ⟨.openBrace, _, rfl, rfl⟩,
      ⟨.openBrace :: rowTokens rows, .closeBrace, rfl, trivial⟩⟩
    exact Unbroken.isChain_enclosed hinner (.inr rfl) (fun _ hu => .inl hu) rfl
  | @parenthesised inner _ h ih =>
    refine ⟨?_, ⟨.openParen, _, rfl, rfl⟩, ⟨.openParen :: inner, .closeParen, rfl, trivial⟩⟩
    exact Unbroken.isChain_enclosed (.inr ih) (.inr rfl) (fun _ hu => .inl hu) rfl
  | signed op h ih => cases op <;> exact ih.cons rfl fun _ hu => hu
  | binary op hleft hright ihleft ihright => exact ihleft.separated ihright op.separates
  | single hp h ih => exact ih

end Spreadsheet.Formula
