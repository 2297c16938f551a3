import Mathlib.Tactic.ByContra
import Spreadsheet.Proofs.Address.Column
import Spreadsheet.Proofs.Formula.Grammar

/-!
# What is read is derived

A reader that finds an expression has passed over tokens that form it. Every reader is sound if the
readers are that it calls, and the operands that lie deeper are sound by induction on the levels
that are left.
-/

namespace Spreadsheet.Formula

variable {label name : String} {sheet : Option String} {r : Reference} {letters digits : List Char}

/-! ## Labels of cells -/

/-- No letter is a digit. -/
theorem not_isDigit_of_isLetter {c : Char} (h : Column.isLetter c = true) :
    Number.isDigit c = false := by
  have hcode : (65 ≤ c.toNat ∧ c.toNat ≤ 90) ∨ (97 ≤ c.toNat ∧ c.toNat ≤ 122) := by
    rcases Bool.or_eq_true_iff.mp h with hupper | hlower
    · exact .inl (of_decide_eq_true hupper)
    · obtain ⟨hleast, hgreatest⟩ := Bool.and_eq_true_iff.mp hlower
      exact .inr ⟨of_decide_eq_true hleast, of_decide_eq_true hgreatest⟩
  have hnot : ¬c ≤ '9' := by
    intro hle
    have : c.toNat ≤ 57 := hle
    omega
  rw [Number.isDigit, decide_eq_false hnot, Bool.and_false]

namespace LabelParts

/-- The text is split between the letters and the digits, whichever of the two is looked for. -/
theorem span_eq (h : LabelParts letters digits) :
    (letters ++ digits).takeWhile Column.isLetter = letters ∧
      (letters ++ digits).dropWhile Column.isLetter = digits ∧
      ((letters ++ digits).takeWhile fun c => !Number.isDigit c) = letters ∧
      ((letters ++ digits).dropWhile fun c => !Number.isDigit c) = digits := by
  obtain ⟨digit, rest, rfl⟩ := List.exists_cons_of_ne_nil h.digits_ne
  have hdigit := h.isDigit digit List.mem_cons_self
  have hletter : Column.isLetter digit = false := by
    by_contra hc
    rw [not_isDigit_of_isLetter (by simpa using hc)] at hdigit
    cases hdigit
  have hnot : ∀ c ∈ letters, (!Number.isDigit c) = true := by
    intro c hc
    rw [not_isDigit_of_isLetter (h.isLetter c hc)]
    rfl
  rw [List.takeWhile_append_of_pos h.isLetter, List.dropWhile_append_of_pos h.isLetter,
    List.takeWhile_append_of_pos hnot, List.dropWhile_append_of_pos hnot]
  simp [hdigit, hletter]

/-- A label is split where its letters end. -/
theorem splitLabel?_eq (h : LabelParts letters digits) :
    CellAddress.splitLabel? (letters ++ digits) = some (letters, digits) := by
  obtain ⟨htake, hdrop, -, -⟩ := h.span_eq
  have hall : digits.all Number.isDigit = true := List.all_eq_true.mpr h.isDigit
  simp [CellAddress.splitLabel?, htake, hdrop, h.letters_ne, h.digits_ne, hall]

/-- The letters name a column up to the limit. -/
theorem ofLabel?_eq (h : LabelParts letters digits) :
    Column.ofLabel? letters =
      if Column.value letters ≤ axisLimit then some (Column.value letters) else none :=
  Column.ofLabel?_eq_held? h.letters_ne h.isLetter

end LabelParts

/-- A text is split into the letters and the digits that it consists of. -/
theorem splitLabel?_eq_some_iff {cs : List Char} :
    CellAddress.splitLabel? cs = some (letters, digits) ↔
      cs = letters ++ digits ∧ LabelParts letters digits := by
  constructor
  · intro h
    unfold CellAddress.splitLabel? at h
    dsimp only at h
    split at h
    · rename_i hparts
      cases h
      simp only [Bool.and_eq_true, Bool.not_eq_true', List.isEmpty_eq_false_iff] at hparts
      obtain ⟨⟨hletters, hdigits⟩, hall⟩ := hparts
      exact ⟨List.takeWhile_append_dropWhile.symm, hletters, hdigits,
        List.all_eq_true.mp List.all_takeWhile, List.all_eq_true.mp hall⟩
    · cases h
  · rintro ⟨rfl, hparts⟩
    exact hparts.splitLabel?_eq

/-- A text has the shape of a label if it has the parts of one. -/
theorem isLabel_iff : CellAddress.isLabel label = true ↔
    ∃ letters digits, label.toList = letters ++ digits ∧ LabelParts letters digits := by
  rw [CellAddress.isLabel, Option.isSome_iff_exists, Prod.exists]
  simp only [splitLabel?_eq_some_iff]

/-- What the reader of labels does with letters and digits. -/
theorem LabelParts.reference_eq (h : LabelParts letters digits)
    (hlabel : label.toList = letters ++ digits) :
    reference sheet label =
      if Column.value letters ≤ axisLimit ∧ 1 ≤ Number.ofDigits digits ∧
        Number.ofDigits digits ≤ axisLimit then
        .ok ⟨sheet, ⟨Number.ofDigits digits, Column.value letters⟩⟩
      else .error (.invalidReference label) := by
  obtain ⟨-, -, htake, hdrop⟩ := h.span_eq
  have hrow : (Number.ofDigits digits = 0 ∨ axisLimit < Number.ofDigits digits) ↔
      ¬(1 ≤ Number.ofDigits digits ∧ Number.ofDigits digits ≤ axisLimit) := by omega
  unfold reference
  rw [if_pos (isLabel_iff.mpr ⟨letters, digits, hlabel, h⟩), hlabel]
  simp only [htake, hdrop, h.ofLabel?_eq, hrow, ite_not]
  by_cases hcol : Column.value letters ≤ axisLimit
  · simp only [hcol, if_true, true_and]
  · simp only [hcol, if_false, false_and]

/-- The reader of labels finds the cells that labels denote. -/
theorem reference_eq_ok_iff :
    reference sheet label = .ok r ↔ ∃ a, Labels label a ∧ r = ⟨sheet, a⟩ := by
  constructor
  · intro h
    by_cases hshape : CellAddress.isLabel label = true
    · obtain ⟨letters, digits, hlabel, hparts⟩ := isLabel_iff.mp hshape
      rw [hparts.reference_eq hlabel] at h
      split at h
      · rename_i hlimits
        exact ⟨_, ⟨letters, digits, hlabel, hparts, rfl, hlimits⟩, (Except.ok.inj h).symm⟩
      · cases h
    · rw [reference, if_neg hshape] at h
      cases h
  · rintro ⟨a, ⟨letters, digits, hlabel, hparts, rfl, hlimits⟩, rfl⟩
    rw [hparts.reference_eq hlabel, if_pos hlimits]

/-- What labels a cell is a label. -/
theorem Labels.isLabel {a : CellAddress} (h : Labels label a) :
    CellAddress.isLabel label = true := by
  obtain ⟨letters, digits, hlabel, hparts, -⟩ := h
  exact isLabel_iff.mpr ⟨letters, digits, hlabel, hparts⟩

/-! ## Truth values -/

/-- The names of truth values are the words that spell them. -/
theorem truthValue?_eq_some_iff {b : Bool} : truthValue? name = some b ↔ Spells name b := by
  unfold truthValue? Spells
  split
  · rename_i h
    cases b <;> simp [h]
  · rename_i h
    cases b <;> simp [h]
  · rename_i htrue hfalse
    cases b
    · simpa using hfalse
    · simpa using htrue

/-! ## Chains of operators -/

/-- What the reader finds at the front of some tokens is formed by those that it passes over. -/
def Sound (p : Nat) (read : Reader Expr) : Prop :=
  ∀ ⦃tokens e rest⦄, read tokens = .ok (e, rest) →
    ∃ used, tokens = used ++ rest ∧ Forms p (used.map Located.token) e

/-- Two computations in a row succeed if the first one does and the second one behind it. -/
theorem bind_eq_ok_iff {ε α β : Type} {r : Except ε α} {f : α → Except ε β} {b : β} :
    r >>= f = .ok b ↔ ∃ a, r = .ok a ∧ f a = .ok b := by
  cases r with
  | error err =>
    constructor
    · intro h
      cases h
    · rintro ⟨a, ha, -⟩
      cases ha
  | ok a =>
    constructor
    · exact fun h => ⟨a, rfl, h⟩
    · rintro ⟨a', ha, h⟩
      obtain rfl := Except.ok.inj ha
      exact h

variable {operand : Nat → Reader Expr} {p room : Nat} {tokens rest : List Located} {e : Expr}

/-- The operator that a token stands for among those of one precedence. -/
def operatorAt : Nat → Token → Option BinaryOp
  | 1 => comparison?
  | 2 => concatenation?
  | 3 => additive?
  | 4 => multiplicative?
  | 5 => power?
  | _ => fun _ => none

/-- Every precedence has the tokens of its operators. -/
theorem operatorAt_eq_some_iff {t : Token} {op : BinaryOp} :
    operatorAt p t = some op ↔ t = op.token ∧ op.precedence = p := by
  constructor
  · intro h
    unfold operatorAt at h
    split at h
    · cases t <;> cases h <;> exact ⟨rfl, rfl⟩
    · cases t <;> cases h
      exact ⟨rfl, rfl⟩
    · cases t <;> cases h <;> exact ⟨rfl, rfl⟩
    · cases t <;> cases h <;> exact ⟨rfl, rfl⟩
    · cases t <;> cases h
      exact ⟨rfl, rfl⟩
    · cases h
  · rintro ⟨rfl, rfl⟩
    cases op <;> rfl

/-- The readers of chains within chains over given operands, the highest precedence first. -/
def tower (operand : Nat → Reader Expr) : (height : Nat) → Nat → Reader Expr
  | 0 => operand
  | height + 1 => level (operatorAt (5 - height)) (tower operand height)

/-- Expressions have five levels of operators above their operands. -/
theorem expression_eq_tower (operand : Nat → Reader Expr) :
    expression operand = tower operand 5 := rfl

section Chain

variable {operator : Token → Option BinaryOp} {left : Expr} {t : Located} {op : BinaryOp}

/-- A chain ends with the tokens. -/
theorem chain_nil : chain operator operand room left [] = .ok (left, []) := by
  cases room <;> rfl

/-- A chain ends in front of what is no operator of its level. -/
theorem chain_of_none (h : operator t.token = none) :
    chain operator operand room left (t :: rest) = .ok (left, t :: rest) := by
  cases room <;> simp only [chain, h]

/-- Without room, a chain fails at its next operator. -/
theorem chain_zero (h : operator t.token = some op) :
    chain operator operand 0 left (t :: rest) = .error (.tooDeep (here rest)) := by
  unfold chain
  simp only [h]

/-- A chain goes on behind its next operator. -/
theorem chain_succ (h : operator t.token = some op) :
    chain operator operand (room + 1) left (t :: rest) =
      operand room rest >>= fun found =>
        chain operator operand room (.binary op left found.1) found.2 := by
  rw [chain.eq_def]
  simp only [h]

/-- A chain that is read ends at once, or it goes on with a link and a chain behind it. -/
theorem chain_eq_ok (h : chain operator operand room left tokens = .ok (e, rest)) :
    (e = left ∧ rest = tokens) ∨
      ∃ room' t op right behind next, tokens = t :: behind ∧ operator t.token = some op ∧
        room = room' + 1 ∧ operand room' behind = .ok (right, next) ∧
        chain operator operand room' (.binary op left right) next = .ok (e, rest) := by
  cases tokens with
  | nil =>
    rw [chain_nil] at h
    cases h
    exact .inl ⟨rfl, rfl⟩
  | cons t behind =>
    cases hop : operator t.token with
    | none =>
      rw [chain_of_none hop] at h
      cases h
      exact .inl ⟨rfl, rfl⟩
    | some op =>
      cases room with
      | zero =>
        rw [chain_zero hop] at h
        cases h
      | succ room =>
        rw [chain_succ hop, bind_eq_ok_iff] at h
        obtain ⟨⟨right, next⟩, hright, h⟩ := h
        exact .inr ⟨room, t, op, right, behind, next, rfl, hop, rfl, hright, h⟩

end Chain

/-- A chain goes on from what was read before it. -/
theorem forms_of_chain {before : List Token} {left : Expr}
    (h : ∀ room, Sound (p + 1) (operand room)) (hleft : Forms p before left)
    (hread : chain (operatorAt p) operand room left tokens = .ok (e, rest)) :
    ∃ used, tokens = used ++ rest ∧ Forms p (before ++ used.map Located.token) e := by
  induction room generalizing tokens before left with
  | zero =>
    obtain ⟨rfl, rfl⟩ | ⟨_, _, _, _, _, _, _, _, hroom, _⟩ := chain_eq_ok hread
    · exact ⟨[], rfl, by simpa using hleft⟩
    · cases hroom
  | succ room ih =>
    obtain ⟨rfl, rfl⟩ | ⟨_, t, op, right, behind, next, rfl, hop, hroom, hright, hchain⟩ :=
      chain_eq_ok hread
    · exact ⟨[], rfl, by simpa using hleft⟩
    · cases hroom
      obtain ⟨htoken, rfl⟩ := operatorAt_eq_some_iff.mp hop
      obtain ⟨usedRight, rfl, hoperand⟩ := h room hright
      obtain ⟨used, rfl, hforms⟩ := ih (.binary op hleft hoperand) hchain
      refine ⟨t :: (usedRight ++ used), by simp, ?_⟩
      simpa [htoken] using hforms

/-- A level is sound over operands of the next level. -/
theorem sound_level (hp : 1 ≤ p) (h : ∀ room, Sound (p + 1) (operand room)) (room : Nat) :
    Sound p (level (operatorAt p) operand room) := by
  intro tokens e rest hread
  rw [level, bind_eq_ok_iff] at hread
  obtain ⟨⟨left, behind⟩, hleft, hread⟩ := hread
  obtain ⟨usedLeft, rfl, hoperand⟩ := h room hleft
  obtain ⟨used, rfl, hforms⟩ := forms_of_chain h (.single hp hoperand) hread
  exact ⟨usedLeft ++ used, by simp, by simpa using hforms⟩

/-- The levels of operators are sound if the operands are. -/
theorem sound_tower (h : ∀ room, Sound 6 (operand room)) {height : Nat} (hheight : height ≤ 5)
    (room : Nat) : Sound (6 - height) (tower operand height room) := by
  induction height generalizing room with
  | zero => exact h room
  | succ height ih =>
    have hp : 6 - (height + 1) = 5 - height := by omega
    have hnext : 5 - height + 1 = 6 - height := by omega
    have hpos : 1 ≤ 5 - height := by omega
    rw [hp]
    refine sound_level hpos (fun room => ?_) room
    rw [hnext]
    exact ih (by omega) room

/-- Expressions are sound if their operands are. -/
theorem sound_expression (h : ∀ room, Sound 6 (operand room)) (room : Nat) :
    Sound 1 (expression operand room) := by
  rw [expression_eq_tower]
  exact sound_tower h (Nat.le_refl 5) room

/-! ## References -/

/-- What is read behind a label makes a reference with it. -/
theorem refers_of_rangeTail {first : Reference} (hfirst : reference sheet label = .ok first)
    (hread : rangeTail first tokens = .ok (e, rest)) :
    ∃ used, tokens = used ++ rest ∧ Refers sheet (.name label :: used.map Located.token) e := by
  obtain ⟨a, ha, rfl⟩ := reference_eq_ok_iff.mp hfirst
  unfold rangeTail at hread
  split at hread
  · rename_i position behind
    split at hread
    · cases hread
    · cases hread
    · rename_i last position' behind
      rw [bind_eq_ok_iff] at hread
      obtain ⟨corner, hcorner, hread⟩ := hread
      obtain ⟨b, hb, rfl⟩ := reference_eq_ok_iff.mp hcorner
      cases hread
      exact ⟨[⟨.colon, position⟩, ⟨.name last, position'⟩], rfl, .range ha hb⟩
    · cases hread
  · cases hread
    exact ⟨[], rfl, .cell ha⟩

/-- What is read behind the name of a sheet makes a reference. -/
theorem refers_of_qualified {s : String} (hread : qualified s tokens = .ok (e, rest)) :
    ∃ position used, tokens = ⟨.exclamation, position⟩ :: used ++ rest ∧
      Refers (some s) (used.map Located.token) e := by
  unfold qualified at hread
  split at hread
  · rename_i position behind
    split at hread
    · cases hread
    · cases hread
    · rename_i label position' behind
      rw [bind_eq_ok_iff] at hread
      obtain ⟨first, hfirst, hread⟩ := hread
      obtain ⟨used, rfl, hrefers⟩ := refers_of_rangeTail hfirst hread
      exact ⟨position, ⟨.name label, position'⟩ :: used, rfl, hrefers⟩
    · cases hread
  · cases hread

/-! ## Calls and tables -/

variable {item : Reader Expr} {openedAt limit : Nat}

/-- What is read as arguments is parts with commas between them and the parenthesis at the end. -/
theorem forms_of_arguments (hitem : Sound 1 item) {args : List Expr}
    (hread : arguments item openedAt limit tokens = .ok (args, rest)) :
    ∃ used parts, tokens = used ++ rest ∧ parts ≠ [] ∧
      used.map Located.token = commaTokens parts ++ [.closeParen] ∧
      args = parts.map Prod.snd ∧ ∀ part ∈ parts, Forms 1 part.1 part.2 := by
  induction limit generalizing tokens args with
  | zero => cases hread
  | succ limit ih =>
    rw [arguments, bind_eq_ok_iff] at hread
    obtain ⟨⟨arg, behind⟩, harg, hread⟩ := hread
    obtain ⟨used, rfl, hforms⟩ := hitem harg
    dsimp only at hread
    split at hread
    · cases hread
    · cases hread
    · rename_i position behind
      cases hread
      refine ⟨used ++ [⟨.closeParen, position⟩], [(used.map Located.token, arg)], by simp,
        List.cons_ne_nil _ _, by simp, rfl, ?_⟩
      exact List.forall_mem_singleton.mpr hforms
    · rename_i position behind
      rw [bind_eq_ok_iff] at hread
      obtain ⟨⟨args, behind⟩, hargs, hread⟩ := hread
      cases hread
      obtain ⟨usedArgs, parts, rfl, hne, htokens, rfl, hall⟩ := ih hargs
      refine ⟨used ++ ⟨.comma, position⟩ :: usedArgs, (used.map Located.token, arg) :: parts,
        by simp, List.cons_ne_nil _ _, ?_, rfl, List.forall_mem_cons.mpr ⟨hforms, hall⟩⟩
      rw [commaTokens_cons hne]
      simp [htokens]
    · cases hread

/-- What is read behind the name of a function makes a call with it. -/
theorem forms_of_call (hitem : Sound 1 item)
    (hread : call item name openedAt tokens = .ok (e, rest)) :
    ∃ used, tokens = used ++ rest ∧
      Forms 7 (.name name :: .openParen :: used.map Located.token) e := by
  unfold call at hread
  split at hread
  · rename_i position behind
    cases hread
    exact ⟨[⟨.closeParen, position⟩], rfl, .call name (List.forall_mem_nil _)⟩
  · rw [bind_eq_ok_iff] at hread
    obtain ⟨⟨args, behind⟩, hargs, hread⟩ := hread
    cases hread
    obtain ⟨used, parts, rfl, -, htokens, rfl, hall⟩ := forms_of_arguments hitem hargs
    refine ⟨used, rfl, ?_⟩
    rw [htokens]
    exact .call name hall

/-- What is read as rows is rows with semicolons between them and the brace at the end. -/
theorem forms_of_tableRows (hitem : Sound 1 item) {values : List (List Expr)}
    (hread : tableRows item limit tokens = .ok (values, rest)) :
    ∃ used row rows, tokens = used ++ rest ∧
      used.map Located.token = rowTokens (row :: rows) ++ [.closeBrace] ∧
      values = (row :: rows).map (List.map Prod.snd) ∧ (∀ r ∈ row :: rows, r ≠ []) ∧
      ∀ r ∈ row :: rows, ∀ part ∈ r, Forms 1 part.1 part.2 := by
  induction limit generalizing tokens values with
  | zero => cases hread
  | succ limit ih =>
    rw [tableRows, bind_eq_ok_iff] at hread
    obtain ⟨⟨first, behind⟩, hfirst, hread⟩ := hread
    obtain ⟨used, rfl, hforms⟩ := hitem hfirst
    dsimp only at hread
    split at hread
    · cases hread
    · cases hread
    · rename_i position behind
      cases hread
      refine ⟨used ++ [⟨.closeBrace, position⟩], [(used.map Located.token, first)], [], by simp,
        by simp, rfl, by simp, ?_⟩
      simpa using hforms
    · rename_i position behind
      rw [bind_eq_ok_iff] at hread
      obtain ⟨⟨values, behind⟩, hvalues, hread⟩ := hread
      cases hread
      obtain ⟨usedRows, row, rows, rfl, htokens, rfl, hne, hall⟩ := ih hvalues
      rw [List.forall_mem_cons] at hne hall
      refine ⟨used ++ ⟨.comma, position⟩ :: usedRows, (used.map Located.token, first) :: row, rows,
        by simp, ?_, rfl, List.forall_mem_cons.mpr ⟨List.cons_ne_nil _ _, hne.2⟩,
        List.forall_mem_cons.mpr ⟨List.forall_mem_cons.mpr ⟨hforms, hall.1⟩, hall.2⟩⟩
      rw [rowTokens_cons_cons hne.1]
      simp [htokens]
    · rename_i position behind
      rw [bind_eq_ok_iff] at hread
      obtain ⟨⟨values, behind⟩, hvalues, hread⟩ := hread
      cases hread
      obtain ⟨usedRows, row, rows, rfl, htokens, rfl, hne, hall⟩ := ih hvalues
      refine ⟨used ++ ⟨.semicolon, position⟩ :: usedRows, [(used.map Located.token, first)],
        row :: rows, by simp, ?_, rfl, List.forall_mem_cons.mpr ⟨List.cons_ne_nil _ _, hne⟩,
        List.forall_mem_cons.mpr ⟨List.forall_mem_singleton.mpr hforms, hall⟩⟩
      rw [rowTokens_cons (List.cons_ne_nil _ _)]
      simp [htokens]
    · cases hread

/-- What is read behind a brace makes a table with it. -/
theorem forms_of_table (hitem : Sound 1 item) (hread : table item tokens = .ok (e, rest)) :
    ∃ used, tokens = used ++ rest ∧ Forms 7 (.openBrace :: used.map Located.token) e := by
  unfold table at hread
  split at hread
  · rename_i position behind
    cases hread
    exact ⟨[⟨.closeBrace, position⟩], rfl,
      .array (List.forall_mem_nil _) (List.forall_mem_nil _)⟩
  · rw [bind_eq_ok_iff] at hread
    obtain ⟨⟨values, behind⟩, hvalues, hread⟩ := hread
    cases hread
    obtain ⟨used, row, rows, rfl, htokens, rfl, hne, hall⟩ := forms_of_tableRows hitem hvalues
    refine ⟨used, rfl, ?_⟩
    rw [htokens]
    exact .array hne hall

/-! ## Operands -/

/-- The readers for what stands one level deeper are sound. -/
def SoundInside (inside : Option Inside) : Prop :=
  ∀ readers ∈ inside, Sound 6 readers.operand ∧ Sound 1 readers.expression

private theorem deeper_eq_ok_iff {α : Type} {inside : Option Inside}
    {read : Inside → Except SyntaxError (α × List Located)} {found : α × List Located} :
    deeper inside tokens read = .ok found ↔
      ∃ readers, inside = some readers ∧ read readers = .ok found := by
  cases inside with
  | none =>
    constructor
    · intro h
      cases h
    · rintro ⟨_, h, -⟩
      cases h
  | some readers =>
    constructor
    · exact fun h => ⟨readers, rfl, h⟩
    · rintro ⟨_, h, hread⟩
      cases h
      exact hread

variable {inside : Option Inside}

/-- What is read behind a name makes an expression with it. -/
theorem forms_of_named (hinside : SoundInside inside)
    (hread : named inside name tokens = .ok (e, rest)) :
    ∃ used, tokens = used ++ rest ∧ Forms 7 (.name name :: used.map Located.token) e := by
  unfold named at hread
  split at hread
  · rename_i openedAt behind
    obtain ⟨readers, hreaders, hread⟩ := deeper_eq_ok_iff.mp hread
    obtain ⟨used, rfl, hforms⟩ := forms_of_call (hinside readers hreaders).2 hread
    exact ⟨⟨.openParen, openedAt⟩ :: used, rfl, hforms⟩
  · obtain ⟨position, used, htokens, hrefers⟩ := refers_of_qualified hread
    exact ⟨⟨.exclamation, position⟩ :: used, htokens, .qualified (.inl rfl) hrefers⟩
  · split at hread
    · rename_i b hb
      cases hread
      exact ⟨[], rfl, .boolean (truthValue?_eq_some_iff.mp hb)⟩
    · split at hread
      · rw [bind_eq_ok_iff] at hread
        obtain ⟨first, hfirst, hread⟩ := hread
        obtain ⟨used, rfl, hrefers⟩ := refers_of_rangeTail hfirst hread
        exact ⟨used, rfl, .reference hrefers⟩
      · cases hread

/-- What is read behind a parenthesis makes an expression with it. -/
theorem forms_of_parenthesised (hinside : SoundInside inside)
    (hread : parenthesised inside openedAt tokens = .ok (e, rest)) :
    ∃ used, tokens = used ++ rest ∧ Forms 7 (.openParen :: used.map Located.token) e := by
  unfold parenthesised at hread
  rw [bind_eq_ok_iff] at hread
  obtain ⟨⟨inner, behind⟩, hinner, hread⟩ := hread
  obtain ⟨readers, hreaders, hinner⟩ := deeper_eq_ok_iff.mp hinner
  obtain ⟨used, rfl, hforms⟩ := (hinside readers hreaders).2 hinner
  dsimp only at hread
  split at hread
  · rename_i position behind found
    cases hread
    refine ⟨used ++ [⟨.closeParen, position⟩], by simp, ?_⟩
    simpa using Forms.parenthesised hforms
  · cases hread

/-- Operands without sign are sound if what is inside of them is. -/
theorem sound_primary (hinside : SoundInside inside) : Sound 7 (primary inside) := by
  intro tokens e rest hread
  unfold primary at hread
  split at hread
  · rename_i x position behind
    cases hread
    exact ⟨[⟨.number x, position⟩], rfl, .number x⟩
  · rename_i s position behind
    cases hread
    exact ⟨[⟨.text s, position⟩], rfl, .text s⟩
  · rename_i position behind
    obtain ⟨used, rfl, hforms⟩ := forms_of_parenthesised hinside hread
    exact ⟨⟨.openParen, position⟩ :: used, rfl, hforms⟩
  · rename_i position behind
    obtain ⟨readers, hreaders, hread⟩ := deeper_eq_ok_iff.mp hread
    obtain ⟨used, rfl, hforms⟩ := forms_of_table (hinside readers hreaders).2 hread
    exact ⟨⟨.openBrace, position⟩ :: used, rfl, hforms⟩
  · rename_i sheet position behind
    obtain ⟨position', used, rfl, hrefers⟩ := refers_of_qualified hread
    exact ⟨⟨.quotedName sheet, position⟩ :: ⟨.exclamation, position'⟩ :: used, rfl,
      .qualified (.inr rfl) hrefers⟩
  · rename_i name position behind
    obtain ⟨used, rfl, hforms⟩ := forms_of_named hinside hread
    exact ⟨⟨.name name, position⟩ :: used, rfl, hforms⟩
  · cases hread

/-- Signs are read from their tokens. -/
theorem sign?_eq_some_iff {t : Token} {op : UnaryOp} : sign? t = some op ↔ t = op.token := by
  constructor
  · intro h
    cases t <;> cases h <;> rfl
  · rintro rfl
    cases op <;> rfl

/-- Signed operands are sound if what is inside of them is. -/
theorem sound_signed (hinside : SoundInside inside) : Sound 6 (signed inside) := by
  intro tokens e rest hread
  have hprimary : primary inside tokens = .ok (e, rest) →
      ∃ used, tokens = used ++ rest ∧ Forms 6 (used.map Located.token) e := by
    intro h
    obtain ⟨used, rfl, hforms⟩ := sound_primary hinside h
    exact ⟨used, rfl, .single (by decide) hforms⟩
  cases tokens with
  | nil => exact hprimary hread
  | cons t tokens =>
    unfold signed at hread
    dsimp only at hread
    split at hread
    · exact hprimary hread
    · rename_i op hop
      rw [bind_eq_ok_iff] at hread
      obtain ⟨⟨inner, behind⟩, hinner, hread⟩ := hread
      obtain ⟨readers, hreaders, hinner⟩ := deeper_eq_ok_iff.mp hinner
      obtain ⟨used, rfl, hforms⟩ := (hinside readers hreaders).1 hinner
      cases hread
      refine ⟨t :: used, rfl, ?_⟩
      rw [List.map_cons, sign?_eq_some_iff.mp hop]
      exact .signed op hforms

/-- The readers that an operand hands to what lies one level deeper. -/
def insideOf : (nest room : Nat) → Option Inside
  | nest + 1, room + 1 => some ⟨Formula.operand nest room, expression (Formula.operand nest) room⟩
  | _, _ => none

/-- The reader of operands is that of signed ones, given the readers for what is inside. -/
theorem operand_eq_signed (nest room : Nat) :
    Formula.operand nest room = signed (insideOf nest room) := by
  cases nest <;> cases room <;> rfl

/-- Operands are sound at every depth. -/
theorem sound_operand (nest room : Nat) : Sound 6 (Formula.operand nest room) := by
  induction nest generalizing room with
  | zero =>
    rw [operand_eq_signed]
    refine sound_signed fun readers hreaders => ?_
    cases hreaders
  | succ nest ih =>
    rw [operand_eq_signed]
    refine sound_signed fun readers hreaders => ?_
    cases room with
    | zero => cases hreaders
    | succ room =>
      obtain rfl := Option.some.inj hreaders
      exact ⟨ih room, sound_expression ih room⟩

end Spreadsheet.Formula
