import Mathlib.Tactic.Choose
import Spreadsheet.Proofs.Formula.Readers

/-!
# What the limits of a reader count

A reader has a number of levels left and room for a number of levels and links together. What it
needs of both is found from the way in which tokens form an expression: brackets, calls and signs
are levels, and the links of a chain lie around the operands behind them, but not around the first
operand.
-/

namespace Spreadsheet.Formula

/-! ## Weights -/

/-- What reading some tokens needs. -/
structure Weight where
  /-- The levels that lie one in another. -/
  nesting : Nat
  /-- The levels and links that lie one in another. -/
  load : Nat
  /-- The links of the chain that the tokens are, behind which it can go on. -/
  links : Nat
  deriving DecidableEq, Repr

namespace Weight

/-- What a token by itself needs. -/
def none : Weight :=
  ⟨0, 0, 0⟩

/-- What is one level deeper. -/
def deeper (w : Weight) : Weight :=
  ⟨w.nesting + 1, w.load + 1, 0⟩

/-- A chain to which no link is added. -/
def whole (w : Weight) : Weight :=
  ⟨w.nesting, w.load, 0⟩

/-- A chain with another link and the operand behind it. -/
def link (v w : Weight) : Weight :=
  ⟨max v.nesting w.nesting, max v.load (v.links + 1 + w.load), v.links + 1⟩

/-- Two expressions that stand side by side. -/
def beside (v w : Weight) : Weight :=
  ⟨max v.nesting w.nesting, max v.load w.load, 0⟩

/-- Expressions that stand side by side. -/
def most : List Weight → Weight
  | [] => none
  | w :: ws => w.beside (most ws)

/-- There are as many levels and as much room as needed. -/
def Fits (w : Weight) (nest room : Nat) : Prop :=
  w.nesting ≤ nest ∧ w.load ≤ room

variable {v w : Weight} {ws : List Weight} {nest room : Nat}

/-- What takes no room fits everywhere. -/
theorem fits_none (nest room : Nat) : none.Fits nest room :=
  ⟨Nat.zero_le _, Nat.zero_le _⟩

/-- A chain without further links fits where the chain does. -/
theorem fits_whole : w.whole.Fits nest room ↔ w.Fits nest room :=
  Iff.rfl

/-- What is one level further inside fits if there is a level and room for it. -/
theorem fits_deeper_succ : w.deeper.Fits (nest + 1) (room + 1) ↔ w.Fits nest room :=
  and_congr Nat.succ_le_succ_iff Nat.succ_le_succ_iff

/-- What fits one level further inside leaves a level and room. -/
theorem fits_deeper : w.deeper.Fits nest room ↔
    ∃ nest' room', nest = nest' + 1 ∧ room = room' + 1 ∧ w.Fits nest' room' := by
  constructor
  · rintro ⟨hnest, hroom⟩
    obtain ⟨nest', rfl⟩ := Nat.exists_eq_succ_of_ne_zero (Nat.ne_of_gt (Nat.zero_lt_of_lt hnest))
    obtain ⟨room', rfl⟩ := Nat.exists_eq_succ_of_ne_zero (Nat.ne_of_gt (Nat.zero_lt_of_lt hroom))
    exact ⟨nest', room', rfl, rfl, Nat.le_of_succ_le_succ hnest, Nat.le_of_succ_le_succ hroom⟩
  · rintro ⟨nest', room', rfl, rfl, hfits⟩
    exact fits_deeper_succ.mpr hfits

/-- A link fits if there is room for it behind those on its left, and for its right operand then. -/
theorem fits_link : (v.link w).Fits nest room ↔
    v.Fits nest room ∧ v.links < room ∧ w.Fits nest (room - (v.links + 1)) := by
  simp only [Fits, link, Nat.max_le]
  omega

/-- The most of some weights fits if all of them do. -/
theorem fits_most : (most ws).Fits nest room ↔ ∀ w ∈ ws, w.Fits nest room := by
  induction ws with
  | nil => simp [most, fits_none]
  | cons w ws ih =>
    rw [List.forall_mem_cons, ← ih]
    simp only [Fits, most, beside, Nat.max_le]
    omega

end Weight

/-! ## Weights of tokens -/

/-- The tokens are an operand without parts. -/
inductive Leaf : List Token → Expr → Prop where
  /-- A number. -/
  | number (x : Float) : Leaf [.number x] (.number x)
  /-- A text. -/
  | text (s : String) : Leaf [.text s] (.text s)
  /-- A truth value. -/
  | boolean {name : String} {b : Bool} (h : Spells name b) : Leaf [.name name] (.boolean b)
  /-- A cell or a range on the sheet of the formula. -/
  | reference {tokens : List Token} {e : Expr} (h : Refers none tokens e) : Leaf tokens e
  /-- A cell or a range behind the name of its sheet. -/
  | qualified {sheet : String} {tokens : List Token} {e : Expr} {t : Token}
      (ht : t = .name sheet ∨ t = .quotedName sheet) (h : Refers (some sheet) tokens e) :
      Leaf (t :: .exclamation :: tokens) e

/-- The tokens form the expression at the given level, and reading them needs the given weight. -/
inductive Weighs : Nat → List Token → Expr → Weight → Prop where
  /-- An operand without parts. -/
  | leaf {tokens : List Token} {e : Expr} (h : Leaf tokens e) : Weighs 7 tokens e .none
  /-- A call and its arguments. -/
  | call (name : String) {parts : List Part} {weigh : Part → Weight}
      (h : ∀ part ∈ parts, Weighs 1 part.1 part.2 (weigh part)) :
      Weighs 7 (.name name :: .openParen :: (commaTokens parts ++ [.closeParen]))
        (.call name (parts.map Prod.snd)) (Weight.most (parts.map weigh)).deeper
  /-- A table and its items. -/
  | array {rows : List (List Part)} {weigh : Part → Weight} (hne : ∀ row ∈ rows, row ≠ [])
      (h : ∀ row ∈ rows, ∀ part ∈ row, Weighs 1 part.1 part.2 (weigh part)) :
      Weighs 7 (.openBrace :: (rowTokens rows ++ [.closeBrace]))
        (.array (rows.map (List.map Prod.snd)))
        (Weight.most (rows.map fun row => Weight.most (row.map weigh))).deeper
  /-- An expression in parentheses. -/
  | parenthesised {tokens : List Token} {e : Expr} {w : Weight} (h : Weighs 1 tokens e w) :
      Weighs 7 (.openParen :: (tokens ++ [.closeParen])) e w.deeper
  /-- An operand behind a sign. -/
  | signed (op : UnaryOp) {tokens : List Token} {e : Expr} {w : Weight}
      (h : Weighs 6 tokens e w) : Weighs 6 (op.token :: tokens) (.unary op e) w.deeper
  /-- A link behind a chain, and its operand. -/
  | binary (op : BinaryOp) {left right : List Token} {a b : Expr} {v w : Weight}
      (hleft : Weighs op.precedence left a v) (hright : Weighs (op.precedence + 1) right b w) :
      Weighs op.precedence (left ++ op.token :: right) (.binary op a b) (v.link w)
  /-- A chain with a single operand. -/
  | single {p : Nat} {tokens : List Token} {e : Expr} {w : Weight} (hp : 1 ≤ p)
      (h : Weighs (p + 1) tokens e w) : Weighs p tokens e w.whole

variable {p : Nat} {e : Expr} {tokens : List Token} {w : Weight}

/-- A leaf is an expression. -/
theorem Leaf.forms (h : Leaf tokens e) : Forms 7 tokens e := by
  cases h with
  | number x => exact .number x
  | text s => exact .text s
  | boolean h => exact .boolean h
  | reference h => exact .reference h
  | qualified ht h => exact .qualified ht h

/-- What weighs something is an expression. -/
theorem Weighs.forms (h : Weighs p tokens e w) : Forms p tokens e := by
  induction h with
  | leaf h => exact h.forms
  | call name h ih => exact .call name ih
  | array hne h ih => exact .array hne ih
  | parenthesised h ih => exact .parenthesised ih
  | signed op h ih => exact .signed op ih
  | binary op hleft hright ihleft ihright => exact .binary op ihleft ihright
  | single hp h ih => exact .single hp ih

/-- Whatever forms an expression has a weight. -/
theorem Forms.exists_weighs (h : Forms p tokens e) : ∃ w, Weighs p tokens e w := by
  classical
  induction h with
  | number x => exact ⟨_, .leaf (.number x)⟩
  | text s => exact ⟨_, .leaf (.text s)⟩
  | boolean h => exact ⟨_, .leaf (.boolean h)⟩
  | reference h => exact ⟨_, .leaf (.reference h)⟩
  | qualified ht h => exact ⟨_, .leaf (.qualified ht h)⟩
  | @call name parts h ih =>
    have hweigh : ∀ part, ∃ w, part ∈ parts → Weighs 1 part.1 part.2 w := by
      intro part
      by_cases hpart : part ∈ parts
      · obtain ⟨w, hw⟩ := ih part hpart
        exact ⟨w, fun _ => hw⟩
      · exact ⟨.none, fun hmem => absurd hmem hpart⟩
    choose weigh hweigh using hweigh
    exact ⟨_, .call name hweigh⟩
  | @array rows hne h ih =>
    have hweigh : ∀ part, ∃ w, (∃ row ∈ rows, part ∈ row) → Weighs 1 part.1 part.2 w := by
      intro part
      by_cases hpart : ∃ row ∈ rows, part ∈ row
      · obtain ⟨row, hrow, hmem⟩ := hpart
        obtain ⟨w, hw⟩ := ih row hrow part hmem
        exact ⟨w, fun _ => hw⟩
      · exact ⟨.none, fun hmem => absurd hmem hpart⟩
    choose weigh hweigh using hweigh
    exact ⟨_, .array hne fun row hrow part hpart => hweigh part ⟨row, hrow, hpart⟩⟩
  | parenthesised h ih =>
    obtain ⟨w, hw⟩ := ih
    exact ⟨_, .parenthesised hw⟩
  | signed op h ih =>
    obtain ⟨w, hw⟩ := ih
    exact ⟨_, .signed op hw⟩
  | binary op hleft hright ihleft ihright =>
    obtain ⟨v, hv⟩ := ihleft
    obtain ⟨w, hw⟩ := ihright
    exact ⟨_, .binary op hv hw⟩
  | single hp h ih =>
    obtain ⟨w, hw⟩ := ih
    exact ⟨_, .single hp hw⟩

/-- The links of a chain are among what it needs room for. -/
theorem Weighs.links_le_load (h : Weighs p tokens e w) : w.links ≤ w.load := by
  induction h with
  | binary op hleft hright ihleft ihright =>
    simp only [Weight.link]
    omega
  | _ => exact Nat.zero_le _

/-- Operands are no chains. -/
theorem Weighs.links_eq_zero (h : Weighs p tokens e w) (hp : 6 ≤ p) : w.links = 0 := by
  cases h with
  | binary op =>
    have := op.precedence_le
    omega
  | leaf | call | array | parenthesised | signed | single => rfl

section Length

variable {part : Part} {parts row : List Part} {rows : List (List Part)}

private theorem length_le_commaTokens (h : part ∈ parts) :
    part.1.length ≤ (commaTokens parts).length := by
  induction parts with
  | nil => cases h
  | cons first parts ih =>
    by_cases hlast : parts = []
    · subst hlast
      exact Nat.le_of_eq (by rw [List.mem_singleton.mp h, commaTokens_singleton])
    · rw [commaTokens_cons hlast, List.length_append, List.length_cons]
      rcases List.mem_cons.mp h with rfl | h
      · omega
      · have := ih h
        omega

private theorem commaTokens_length_le_rowTokens (h : row ∈ rows) :
    (commaTokens row).length ≤ (rowTokens rows).length := by
  induction rows with
  | nil => cases h
  | cons first rows ih =>
    by_cases hlast : rows = []
    · subst hlast
      exact Nat.le_of_eq (by rw [List.mem_singleton.mp h, rowTokens_singleton])
    · rw [rowTokens_cons hlast, List.length_append, List.length_cons]
      rcases List.mem_cons.mp h with rfl | h
      · omega
      · have := ih h
        omega

end Length

/-- Every level and every link takes a token. -/
theorem Weighs.fits_length (h : Weighs p tokens e w) : w.Fits tokens.length tokens.length := by
  induction h with
  | leaf h => exact Weight.fits_none _ _
  | @call name parts weigh h ih =>
    simp only [List.length_cons, List.length_append, Weight.fits_deeper_succ, List.length_nil]
    refine Weight.fits_most.mpr fun w hw => ?_
    obtain ⟨part, hpart, rfl⟩ := List.mem_map.mp hw
    have hle := length_le_commaTokens hpart
    obtain ⟨hnest, hroom⟩ := ih part hpart
    exact ⟨by omega, by omega⟩
  | @array rows weigh hne h ih =>
    simp only [List.length_cons, List.length_append, Weight.fits_deeper_succ, List.length_nil]
    refine Weight.fits_most.mpr fun w hw => ?_
    obtain ⟨row, hrow, rfl⟩ := List.mem_map.mp hw
    refine Weight.fits_most.mpr fun w hw => ?_
    obtain ⟨part, hpart, rfl⟩ := List.mem_map.mp hw
    have hle := Nat.le_trans (length_le_commaTokens hpart) (commaTokens_length_le_rowTokens hrow)
    obtain ⟨hnest, hroom⟩ := ih row hrow part hpart
    exact ⟨by omega, by omega⟩
  | parenthesised h ih =>
    simp only [List.length_cons, List.length_append, Weight.fits_deeper_succ]
    exact ⟨Nat.le_add_right_of_le ih.1, Nat.le_add_right_of_le ih.2⟩
  | signed op h ih => exact Weight.fits_deeper_succ.mpr ih
  | @binary op left right a b v w hleft hright ihleft ihright =>
    have hlinks := hleft.links_le_load
    obtain ⟨hnest, hroom⟩ := ihleft
    obtain ⟨hnest', hroom'⟩ := ihright
    rw [List.length_append, List.length_cons]
    simp only [Weight.Fits, Weight.link, Nat.max_le]
    omega
  | single hp h ih => exact ih

end Spreadsheet.Formula
