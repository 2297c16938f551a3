import Spreadsheet.Proofs.Formula.Soundness

/-!
# Readers and what they stop at

The readers of all levels under one name, and what they do with tokens that form something: where an
expression may end, what a reference is read as, and what a call or a table starts with. What
follows an expression is never an operator that could bind its last operand.
-/

namespace Spreadsheet.Formula

variable {nest room p q : Nat} {e : Expr} {used rest : List Located} {tokens : List Token}

/-! ## Tokens in their places -/

section Places

variable {token : Token} {before after : List Token}

/-- A first token has a place. -/
theorem exists_eq_cons (h : used.map Located.token = token :: after) :
    ∃ position behind, used = ⟨token, position⟩ :: behind ∧ behind.map Located.token = after := by
  obtain ⟨⟨_, position⟩, behind, rfl, rfl, hbehind⟩ := List.map_eq_cons_iff.mp h
  exact ⟨position, behind, rfl, hbehind⟩

/-- A token between others has a place. -/
theorem exists_eq_append (h : used.map Located.token = before ++ token :: after) :
    ∃ front position behind, used = front ++ ⟨token, position⟩ :: behind ∧
      front.map Located.token = before ∧ behind.map Located.token = after := by
  obtain ⟨front, _, rfl, hfront, hcons⟩ := List.map_eq_append_iff.mp h
  obtain ⟨position, behind, rfl, hbehind⟩ := exists_eq_cons hcons
  exact ⟨front, position, behind, rfl, hfront, hbehind⟩

/-- A token that stands alone has a place. -/
theorem exists_eq_singleton (h : used.map Located.token = [token]) :
    ∃ position, used = [⟨token, position⟩] := by
  obtain ⟨position, behind, rfl, hbehind⟩ := exists_eq_cons h
  rw [List.map_eq_nil_iff.mp hbehind]
  exact ⟨position, rfl⟩

end Places

/-! ## What may follow an expression -/

/-- The tokens do not go on with what could belong to an expression of the given level. -/
def Follows (p : Nat) (rest : List Located) : Prop :=
  ∀ t ∈ rest.head?, t.token ≠ .openParen ∧ t.token ≠ .exclamation ∧ t.token ≠ .colon ∧
    ∀ op : BinaryOp, t.token = op.token → op.precedence < p

/-- Different operators have different tokens. -/
theorem BinaryOp.token_inj {op op' : BinaryOp} (h : op.token = op'.token) : op = op' := by
  cases op <;> cases op' <;> cases h <;> rfl

/-- Operators have one of five precedences. -/
theorem BinaryOp.precedence_le (op : BinaryOp) : op.precedence ≤ 5 := by
  cases op <;> decide

namespace Follows

/-- What may follow at one level may follow at the levels above it. -/
theorem mono (h : Follows p rest) (hle : p ≤ q) : Follows q rest := by
  intro t ht
  obtain ⟨hparen, hmark, hcolon, hop⟩ := h t ht
  exact ⟨hparen, hmark, hcolon, fun op hop' => Nat.lt_of_lt_of_le (hop op hop') hle⟩

/-- Behind an operand of the highest levels any operator may follow. -/
theorem of_six_le (h : Follows q rest) (hp : 6 ≤ p) : Follows p rest := by
  intro t ht
  obtain ⟨hparen, hmark, hcolon, -⟩ := h t ht
  refine ⟨hparen, hmark, hcolon, fun op _ => ?_⟩
  have := op.precedence_le
  omega

/-- An operator follows the operands that it links. -/
theorem operator (op : BinaryOp) (position : Nat) (rest : List Located) :
    Follows (op.precedence + 1) (⟨op.token, position⟩ :: rest) := by
  rintro _ ⟨⟩
  refine ⟨?_, ?_, ?_, fun op' hop => ?_⟩
  · cases op <;> nofun
  · cases op <;> nofun
  · cases op <;> nofun
  · rw [BinaryOp.token_inj hop]
    exact Nat.lt_succ_self _

/-- Closing brackets, separators and the end follow every expression. -/
theorem closer (token : Token) (position : Nat) (rest : List Located)
    (h : token ∈ [.closeParen, .closeBrace, .comma, .semicolon, .finish]) :
    Follows p (⟨token, position⟩ :: rest) := by
  rintro _ ⟨⟩
  simp only [List.mem_cons, List.not_mem_nil, or_false] at h
  obtain rfl | rfl | rfl | rfl | rfl := h <;>
    exact ⟨nofun, nofun, nofun, fun op hop => by cases op <;> cases hop⟩

/-- A chain ends where no operator of its precedence follows. -/
theorem chain_eq (h : Follows p rest) {operand : Nat → Reader Expr} :
    chain (operatorAt p) operand room e rest = .ok (e, rest) := by
  cases rest with
  | nil => exact chain_nil
  | cons t rest =>
    refine chain_of_none (Option.eq_none_iff_forall_ne_some.mpr fun op hop => ?_)
    obtain ⟨htoken, rfl⟩ := operatorAt_eq_some_iff.mp hop
    obtain ⟨-, -, -, hlt⟩ := h t rfl
    exact Nat.lt_irrefl _ (hlt op htoken)

end Follows

/-! ## Readers by level -/

/-- The reader of expressions at a level, with so many levels and so much room left. -/
def readerAt (nest p room : Nat) : Reader Expr :=
  if p ≤ 6 then tower (operand nest) (6 - p) room else primary (insideOf nest room)

/-- At the lowest level stand whole expressions. -/
theorem readerAt_one (nest room : Nat) : readerAt nest 1 room = expression (operand nest) room :=
  rfl

/-- Above the operators stand signed operands. -/
theorem readerAt_six (nest room : Nat) : readerAt nest 6 room = signed (insideOf nest room) :=
  operand_eq_signed nest room

/-- At the highest level stand operands without sign. -/
theorem readerAt_of_lt (h : 6 < p) (nest room : Nat) :
    readerAt nest p room = primary (insideOf nest room) :=
  if_neg (Nat.not_le_of_lt h)

/-- Up to the highest precedence, a level is a chain over the next level. -/
theorem readerAt_eq_level (hp : 1 ≤ p) (hle : p ≤ 5) (nest room : Nat) :
    readerAt nest p room = level (operatorAt p) (readerAt nest (p + 1)) room := by
  obtain ⟨height, hheight⟩ : ∃ height, 6 - p = height + 1 := ⟨5 - p, by omega⟩
  have hlevel : 5 - height = p := by omega
  have hnext : 6 - (p + 1) = height := by omega
  have hreader : readerAt nest (p + 1) = tower (operand nest) height := by
    funext room
    rw [readerAt, if_pos (by omega), hnext]
  rw [readerAt, if_pos (by omega), hheight, tower, hlevel, hreader]

/-! ## First tokens -/

/-- The token can be the first one of an expression. -/
def Token.starts : Token → Bool
  | .number _ | .text _ | .name _ | .quotedName _ | .openParen | .openBrace | .plus | .minus => true
  | _ => false

/-- An expression has a first token, which is no sign if the expression is an operand without
one. -/
theorem Forms.exists_cons (h : Forms p tokens e) :
    ∃ t behind, tokens = t :: behind ∧ t.starts = true ∧ (7 ≤ p → sign? t = none) := by
  induction h with
  | number | text | boolean => exact ⟨_, _, rfl, rfl, fun _ => rfl⟩
  | reference h => cases h <;> exact ⟨_, _, rfl, rfl, fun _ => rfl⟩
  | qualified ht h => rcases ht with rfl | rfl <;> exact ⟨_, _, rfl, rfl, fun _ => rfl⟩
  | call | array | parenthesised => exact ⟨_, _, rfl, rfl, fun _ => rfl⟩
  | signed op h ih => exact ⟨_, _, rfl, by cases op <;> rfl, fun hp => absurd hp (by decide)⟩
  | binary op hleft hright ihleft ihright =>
    obtain ⟨t, behind, rfl, hstarts, -⟩ := ihleft
    refine ⟨t, _, rfl, hstarts, fun hp => ?_⟩
    have := op.precedence_le
    omega
  | single hp h ih =>
    obtain ⟨t, behind, rfl, hstarts, hsign⟩ := ih
    exact ⟨t, behind, rfl, hstarts, fun hp => hsign (Nat.le_succ_of_le hp)⟩

variable {name : String} {item : Reader Expr} {openedAt : Nat}

/-- Tokens that start with those of an expression do not start with a closing bracket. -/
theorem Forms.starts_of_append {behind : List Token} (h : Forms p tokens e)
    (hused : used.map Located.token = tokens ++ behind) :
    ∀ t ∈ (used ++ rest).head?, t.token.starts = true := by
  obtain ⟨token, after, rfl, hstarts, -⟩ := h.exists_cons
  obtain ⟨position, _, rfl, -⟩ := exists_eq_cons hused
  rintro _ ⟨⟩
  exact hstarts

/-- Parts with commas between them start with the first part. -/
theorem exists_commaTokens_eq (part : Part) (parts : List Part) :
    ∃ behind, commaTokens (part :: parts) = part.1 ++ behind := by
  by_cases hne : parts = []
  · subst hne
    exact ⟨[], by simp⟩
  · exact ⟨_, commaTokens_cons hne⟩

/-- Rows with semicolons between them start with the first part of the first row. -/
theorem exists_rowTokens_eq (part : Part) (row : List Part) (rows : List (List Part)) :
    ∃ behind, rowTokens ((part :: row) :: rows) = part.1 ++ behind := by
  obtain ⟨behind, hrow⟩ := exists_commaTokens_eq part row
  by_cases hne : rows = []
  · subst hne
    exact ⟨behind, by rw [rowTokens_singleton, hrow]⟩
  · exact ⟨_, by rw [rowTokens_cons hne, hrow, List.append_assoc]⟩

/-- A call with an expression behind its parenthesis has arguments. -/
theorem call_eq (h : ∀ t ∈ rest.head?, t.token.starts = true) :
    call item name openedAt rest = arguments item openedAt rest.length rest >>= fun found =>
      .ok (.call name found.1, found.2) := by
  unfold call
  split
  · cases h _ rfl
  · rfl

/-- A table with an expression behind its brace has rows. -/
theorem table_eq (h : ∀ t ∈ rest.head?, t.token.starts = true) :
    table item rest = tableRows item rest.length rest >>= fun found =>
      .ok (.array found.1, found.2) := by
  unfold table
  split
  · cases h _ rfl
  · rfl

/-! ## References -/

variable {label name : String} {sheet : Option String} {a : CellAddress} {inside : Option Inside}

private theorem rangeTail_of_follows (first : Reference) (h : Follows p rest) :
    rangeTail first rest = .ok (.cell first, rest) := by
  unfold rangeTail
  split
  · obtain ⟨-, -, hcolon, -⟩ := h _ rfl
    exact absurd rfl hcolon
  · rfl

/-- Behind a name there is nothing that would make it the name of a function or of a sheet. -/
def Stands (rest : List Located) : Prop :=
  ∀ t ∈ rest.head?, t.token ≠ .openParen ∧ t.token ≠ .exclamation

private theorem Follows.stands (h : Follows p rest) : Stands rest := by
  intro t ht
  obtain ⟨hparen, hmark, -⟩ := h t ht
  exact ⟨hparen, hmark⟩

/-- A reference starts with a label, and what is read behind the label is the reference. -/
theorem Refers.exists_rangeTail (h : Refers sheet tokens e)
    (hused : used.map Located.token = tokens) (hrest : Follows p rest) :
    ∃ label position behind first, used = ⟨.name label, position⟩ :: behind ∧
      (∃ a, Labels label a) ∧ Stands (behind ++ rest) ∧
      reference sheet label = .ok first ∧ rangeTail first (behind ++ rest) = .ok (e, rest) := by
  cases h with
  | @cell label a ha =>
    obtain ⟨position, rfl⟩ := exists_eq_singleton hused
    exact ⟨label, position, [], ⟨sheet, a⟩, rfl, ⟨a, ha⟩, hrest.stands,
      reference_eq_ok_iff.mpr ⟨a, ha, rfl⟩, rangeTail_of_follows _ hrest⟩
  | @range first last a b ha hb =>
    obtain ⟨position, _, rfl, hcolon⟩ := exists_eq_cons hused
    obtain ⟨position', _, rfl, hcorner⟩ := exists_eq_cons hcolon
    obtain ⟨position'', rfl⟩ := exists_eq_singleton hcorner
    have hlast : reference sheet last = .ok ⟨sheet, b⟩ := reference_eq_ok_iff.mpr ⟨b, hb, rfl⟩
    refine ⟨first, position, _, ⟨sheet, a⟩, rfl, ⟨a, ha⟩, ?_,
      reference_eq_ok_iff.mpr ⟨a, ha, rfl⟩, ?_⟩
    · rintro _ ⟨⟩
      exact ⟨nofun, nofun⟩
    · simp [rangeTail, hlast, bind, Except.bind]

private theorem Refers.qualified_eq {s : String} (position : Nat) (h : Refers (some s) tokens e)
    (hused : used.map Located.token = tokens) (hrest : Follows p rest) :
    qualified s (⟨.exclamation, position⟩ :: (used ++ rest)) = .ok (e, rest) := by
  obtain ⟨label, position', behind, first, rfl, -, -, hfirst, htail⟩ :=
    h.exists_rangeTail hused hrest
  simp [qualified, hfirst, bind, Except.bind, htail]

/-- A label is no truth value: it ends in a digit. -/
theorem Labels.truthValue?_eq_none (h : Labels label a) : truthValue? label = none := by
  obtain ⟨letters, digits, hlabel, hparts, -⟩ := h
  obtain ⟨digit, hmem⟩ := List.exists_mem_of_ne_nil digits hparts.digits_ne
  have hdigit := hparts.isDigit digit hmem
  have hstays : Text.upperAscii digit = digit := by
    simp only [Number.isDigit, Bool.and_eq_true, decide_eq_true_eq] at hdigit
    refine Text.upperAscii_of_lt (Char.not_le.mp fun hsmall => ?_)
    exact absurd (Char.le_trans hsmall hdigit.2) (by decide)
  have hupper : digit ∈ label.toList.map Text.upperAscii := by
    rw [hlabel]
    exact List.mem_map.mpr ⟨digit, List.mem_append_right letters hmem, hstays⟩
  refine Option.eq_none_iff_forall_ne_some.mpr fun b hb => ?_
  have hspells : label.toList.map Text.upperAscii = (if b then "TRUE" else "FALSE").toList := by
    rw [← truthValue?_eq_some_iff.mp hb, String.toList_ofList]
  have hnone : (if b then "TRUE" else "FALSE").toList.any Number.isDigit = false := by
    cases b <;> rfl
  rw [hspells] at hupper
  rw [List.any_eq_true.mpr ⟨digit, hupper, hdigit⟩] at hnone
  cases hnone

/-- What a name stands for by itself. -/
theorem named_eq (h : Stands rest) :
    named inside name rest =
      match truthValue? name with
      | some b => .ok (.boolean b, rest)
      | none =>
        if CellAddress.isLabel name then do
          let first ← reference none name
          rangeTail first rest
        else .error (.unknownName name) := by
  unfold named
  split
  · exact absurd rfl (h _ rfl).1
  · exact absurd rfl (h _ rfl).2
  · rfl

/-- References are read as they stand. -/
theorem Refers.primary_eq (h : Refers none tokens e) (hused : used.map Located.token = tokens)
    (hrest : Follows p rest) : primary inside (used ++ rest) = .ok (e, rest) := by
  obtain ⟨label, position, behind, first, rfl, ⟨a, ha⟩, hstands, hfirst, htail⟩ :=
    h.exists_rangeTail hused hrest
  rw [List.cons_append, primary, named_eq hstands, ha.truthValue?_eq_none, if_pos ha.isLabel,
    hfirst]
  exact htail

/-- Truth values are read as they stand. -/
theorem Spells.primary_eq {b : Bool} (h : Spells name b)
    (hused : used.map Located.token = [.name name]) (hrest : Follows p rest) :
    primary inside (used ++ rest) = .ok (.boolean b, rest) := by
  obtain ⟨position, rfl⟩ := exists_eq_singleton hused
  rw [List.cons_append, primary, List.nil_append, named_eq hrest.stands,
    truthValue?_eq_some_iff.mpr h]

/-- References behind a sheet are read as they stand. -/
theorem Refers.primary_qualified_eq {s : String} {t : Token}
    (ht : t = .name s ∨ t = .quotedName s) (h : Refers (some s) tokens e)
    (hused : used.map Located.token = t :: .exclamation :: tokens) (hrest : Follows p rest) :
    primary inside (used ++ rest) = .ok (e, rest) := by
  obtain ⟨position, _, rfl, hmark⟩ := exists_eq_cons hused
  obtain ⟨position', behind, rfl, hbehind⟩ := exists_eq_cons hmark
  have hread := h.qualified_eq position' hbehind hrest
  rcases ht with rfl | rfl
  · exact hread
  · exact hread

end Spreadsheet.Formula
