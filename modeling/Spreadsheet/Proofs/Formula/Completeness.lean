import Spreadsheet.Proofs.Formula.Weight

/-!
# What is derived is read

A reader finds every expression that the tokens in front of it form if it has as many levels and as
much room left as these tokens need, and it finds that the tree is too deep if it has less. It stops
where the expression ends. The proof goes by the derivation; the levels that are left may be any
number at every step. The main statement joins both directions for the tokens of a whole formula.
-/

namespace Spreadsheet.Formula

variable {nest room p : Nat} {e : Expr} {tokens : List Token} {w : Weight}
  {used rest : List Located}

/-! ## Outcomes -/

/-- The outcome is the given one if there is enough left, and else the tree is too deep. -/
structure Decides {α : Type} (fits : Prop) (outcome : Except SyntaxError (α × List Located)) (a : α)
    (rest : List Located) : Prop where
  /-- There is enough left. -/
  ok : fits → outcome = .ok (a, rest)
  /-- There is not enough left. -/
  deep : ¬fits → ∃ position, outcome = .error (.tooDeep position)

section Outcomes

variable {α β : Type} {fits fits' : Prop} {outcome : Except SyntaxError (α × List Located)} {a : α}
  {b : β} {f : α × List Located → Except SyntaxError (β × List Located)}
  {rest' : List Located}

private theorem Decides.of_ok (h : outcome = .ok (a, rest)) (hfits : fits) :
    Decides fits outcome a rest :=
  ⟨fun _ => h, fun hnot => absurd hfits hnot⟩

/-- A condition that decides an outcome can be replaced by an equivalent one. -/
theorem Decides.congr (h : Decides fits outcome a rest) (hfits : fits' ↔ fits) :
    Decides fits' outcome a rest :=
  ⟨fun hfits' => h.ok (hfits.mp hfits'), fun hnot => h.deep (mt hfits.mpr hnot)⟩

/-- For two readers in a row, there has to be enough for both of them. -/
theorem Decides.bind (h : Decides fits outcome a rest) (hf : Decides fits' (f (a, rest)) b rest') :
    Decides (fits ∧ fits') (outcome >>= f) b rest' := by
  constructor
  · rintro ⟨hfits, hfits'⟩
    rw [h.ok hfits]
    exact hf.ok hfits'
  · intro hnot
    by_cases hfits : fits
    · rw [h.ok hfits]
      exact hf.deep fun hfits' => hnot ⟨hfits, hfits'⟩
    · obtain ⟨position, hdeep⟩ := h.deep hfits
      rw [hdeep]
      exact ⟨position, rfl⟩

/-- What goes on without a reader decides nothing. -/
theorem Decides.goOn (h : Decides fits outcome a rest) (hf : f (a, rest) = .ok (b, rest')) :
    Decides fits (outcome >>= f) b rest' := by
  have hboth := h.bind (.of_ok hf trivial)
  rwa [and_true] at hboth

/-- Making something of what is read does not change what decides the outcome. -/
theorem Decides.map (h : Decides fits outcome a rest) (g : α → β) :
    Decides fits (outcome >>= fun found => .ok (g found.1, found.2)) (g a) rest :=
  h.goOn rfl

/-- One level deeper there is one level less and room for one less. -/
theorem Decides.deeper {read : Inside → Except SyntaxError (α × List Located)}
    {before : List Located}
    (h : ∀ nest' room', nest = nest' + 1 → room = room' + 1 →
      Decides (w.Fits nest' room') (read ⟨readerAt nest' 6 room', readerAt nest' 1 room'⟩) a rest) :
    Decides (w.deeper.Fits nest room) (Formula.deeper (insideOf nest room) before read) a rest := by
  have hnone : ¬w.deeper.Fits nest room → insideOf nest room = .none →
      ∃ position, Formula.deeper (insideOf nest room) before read = .error (.tooDeep position) := by
    intro _ hinside
    rw [hinside]
    exact ⟨_, rfl⟩
  cases nest with
  | zero => exact ⟨fun hfits => absurd hfits.1 (Nat.not_succ_le_zero _), fun hnot => hnone hnot rfl⟩
  | succ nest =>
    cases room with
    | zero =>
      exact ⟨fun hfits => absurd hfits.2 (Nat.not_succ_le_zero _), fun hnot => hnone hnot rfl⟩
    | succ room => exact (h nest room rfl rfl).congr Weight.fits_deeper_succ

end Outcomes

/-! ## Chains -/

/-- The reader of a level gets to the end of the tokens and goes on from there with the chain of its
level, or the tree is too deep. Whether the chain has another link is left open, so that the tokens
may be the front of a longer chain. -/
def Reads (p : Nat) (tokens : List Token) (e : Expr) (w : Weight) : Prop :=
  ∀ (nest room : Nat) ⦃used rest⦄, used.map Located.token = tokens → Follows (p + 1) rest →
    (w.Fits nest room → readerAt nest p room (used ++ rest) =
      chain (operatorAt p) (readerAt nest (p + 1)) (room - w.links) e rest) ∧
    (¬w.Fits nest room →
      ∃ position, readerAt nest p room (used ++ rest) = .error (.tooDeep position))

/-- Where no chain could go on, the reader stops. -/
theorem Reads.decides (h : Reads p tokens e w) (nest room : Nat)
    (hused : used.map Located.token = tokens) (hrest : Follows p rest) :
    Decides (w.Fits nest room) (readerAt nest p room (used ++ rest)) e rest := by
  obtain ⟨hread, hdeep⟩ := h nest room hused (hrest.mono (Nat.le_succ p))
  refine ⟨fun hfits => ?_, hdeep⟩
  rw [hread hfits, hrest.chain_eq]

/-- Operands are no chains. -/
theorem Reads.of_decides (hp : 6 ≤ p)
    (h : ∀ (nest room : Nat) ⦃used rest⦄, used.map Located.token = tokens → Follows p rest →
      Decides (w.Fits nest room) (readerAt nest p room (used ++ rest)) e rest) :
    Reads p tokens e w := by
  intro nest room used rest hused hrest
  have hstop : Follows p rest := hrest.of_six_le hp
  have hdecides := h nest room hused hstop
  refine ⟨fun hfits => ?_, hdecides.deep⟩
  rw [hdecides.ok hfits, hstop.chain_eq]

/-- An operation is read if its operands are. -/
theorem Reads.binary (op : BinaryOp) {left right : List Token} {a b : Expr} {v w : Weight}
    (hleft : Reads op.precedence left a v) (hright : Reads (op.precedence + 1) right b w) :
    Reads op.precedence (left ++ op.token :: right) (.binary op a b) (v.link w) := by
  intro nest room used rest hused hrest
  obtain ⟨usedLeft, position, usedRight, rfl, hl, hr⟩ := exists_eq_append hused
  have hop : operatorAt op.precedence op.token = some op := operatorAt_eq_some_iff.mpr ⟨rfl, rfl⟩
  rw [List.append_assoc, List.cons_append, Weight.fits_link]
  -- The reader that has found the left operand goes on with the operator behind it.
  obtain ⟨hread, hdeep⟩ :=
    hleft nest room hl (Follows.operator op position (usedRight ++ rest))
  by_cases hfits : v.Fits nest room
  · rw [hread hfits]
    by_cases hroom : v.links < room
    · obtain ⟨room', hroom'⟩ : ∃ room', room - v.links = room' + 1 :=
        ⟨room - v.links - 1, by omega⟩
      have hless : room - (v.links + 1) = room' := by omega
      have hleast : room - (v.link w).links = room' := hless
      have hoperand := hright.decides nest room' hr hrest
      rw [hroom', chain_succ hop, hless, hleast]
      constructor
      · rintro ⟨-, -, hfits'⟩
        rw [hoperand.ok hfits']
        rfl
      · intro hnot
        obtain ⟨position, hdeep⟩ := hoperand.deep fun hfits' => hnot ⟨hfits, hroom, hfits'⟩
        rw [hdeep]
        exact ⟨position, rfl⟩
    · have hnone : room - v.links = 0 := by omega
      rw [hnone, chain_zero hop]
      exact ⟨fun h => absurd h.2.1 hroom, fun _ => ⟨_, rfl⟩⟩
  · exact ⟨fun h => absurd h.1 hfits, fun _ => hdeep hfits⟩

/-- What is read at a level is read at the one below it, as a chain without links. -/
theorem Reads.single (hp : 1 ≤ p) (hforms : Forms (p + 1) tokens e)
    (h : Reads (p + 1) tokens e w) : Reads p tokens e w.whole := by
  rcases Nat.lt_or_ge p 6 with hlt | hge
  · intro nest room used rest hused hrest
    have hdecides := h.decides nest room hused hrest
    rw [readerAt_eq_level hp (Nat.le_of_lt_succ hlt), level]
    constructor
    · intro hfits
      rw [hdecides.ok hfits]
      rfl
    · intro hnot
      obtain ⟨position, hdeep⟩ := hdecides.deep hnot
      rw [hdeep]
      exact ⟨position, rfl⟩
  · refine .of_decides hge fun nest room used rest hused hrest => ?_
    have hnext := h.decides nest room hused (hrest.mono (Nat.le_succ p))
    rw [readerAt_of_lt (Nat.lt_succ_of_le hge)] at hnext
    rcases Nat.eq_or_lt_of_le hge with rfl | hgt
    · obtain ⟨first, behind, rfl, -, hsign⟩ := hforms.exists_cons
      obtain ⟨position, behind, rfl, -⟩ := exists_eq_cons hused
      rw [readerAt_six, List.cons_append, Formula.signed, hsign (Nat.le_refl 7)]
      exact hnext
    · rw [readerAt_of_lt hgt]
      exact hnext

/-! ## Operands -/

/-- A leaf is read as it stands. -/
theorem Leaf.primary_eq {inside : Option Inside} (h : Leaf tokens e)
    (hused : used.map Located.token = tokens) (hrest : Follows p rest) :
    primary inside (used ++ rest) = .ok (e, rest) := by
  cases h with
  | number x =>
    obtain ⟨position, rfl⟩ := exists_eq_singleton hused
    rfl
  | text s =>
    obtain ⟨position, rfl⟩ := exists_eq_singleton hused
    rfl
  | boolean h => exact h.primary_eq hused hrest
  | reference h => exact h.primary_eq hused hrest
  | qualified ht h => exact h.primary_qualified_eq ht hused hrest

/-- Reading a leaf takes no room. -/
theorem Leaf.reads (h : Leaf tokens e) : Reads 7 tokens e .none := by
  refine .of_decides (by decide) fun nest room used rest hused hrest => ?_
  rw [readerAt_of_lt (by decide)]
  exact .of_ok (h.primary_eq hused hrest) (Weight.fits_none nest room)

/-- A sign in front of what is read is read. -/
theorem Reads.signed (op : UnaryOp) (h : Reads 6 tokens e w) :
    Reads 6 (op.token :: tokens) (.unary op e) w.deeper := by
  refine .of_decides (Nat.le_refl 6) fun nest room used rest hused hrest => ?_
  obtain ⟨position, behind, rfl, hbehind⟩ := exists_eq_cons hused
  have hop : sign? op.token = some op := sign?_eq_some_iff.mpr rfl
  rw [readerAt_six, List.cons_append, Formula.signed, hop]
  refine Decides.map ?_ (Expr.unary op)
  exact .deeper fun nest' room' _ _ => h.decides nest' room' hbehind hrest

/-- What is read is read in parentheses. -/
theorem Reads.parenthesised (h : Reads 1 tokens e w) :
    Reads 7 (.openParen :: (tokens ++ [.closeParen])) e w.deeper := by
  refine .of_decides (by decide) fun nest room used rest hused _ => ?_
  obtain ⟨position, behind, rfl, hbehind⟩ := exists_eq_cons hused
  obtain ⟨inner, position', close, rfl, hinner, hclose⟩ := exists_eq_append hbehind
  obtain rfl := List.map_eq_nil_iff.mp hclose
  rw [readerAt_of_lt (by decide), List.cons_append, List.append_assoc, primary]
  have hclosed : Follows 1 (⟨.closeParen, position'⟩ :: rest) :=
    Follows.closer .closeParen position' rest (by simp)
  have hexpression : Decides (w.deeper.Fits nest room)
      (deeper (insideOf nest room) (inner ++ ⟨.closeParen, position'⟩ :: rest) fun readers =>
        readers.expression (inner ++ ⟨.closeParen, position'⟩ :: rest)) e
      (⟨.closeParen, position'⟩ :: rest) :=
    .deeper fun nest' room' _ _ => h.decides nest' room' hinner hclosed
  exact hexpression.goOn rfl

/-! ## Calls and tables -/

section Items

variable {item : Reader Expr} {fits : Part → Prop} {part : Part} {parts row : List Part}
  {rows : List (List Part)} {name : String} {openedAt limit : Nat}

/-- The reader of items finds the part if it fits. -/
def Finds (item : Reader Expr) (part : Part) (fits : Prop) : Prop :=
  ∀ ⦃used rest⦄, used.map Located.token = part.1 → Follows 1 rest →
    Decides fits (item (used ++ rest)) part.2 rest

/-- Arguments are read if each of them fits. -/
theorem decides_arguments (hitem : ∀ part ∈ parts, Finds item part (fits part)) (hne : parts ≠ [])
    (hused : used.map Located.token = commaTokens parts) (hlimit : used.length < limit)
    (position : Nat) (rest : List Located) :
    Decides (∀ part ∈ parts, fits part)
      (arguments item openedAt limit (used ++ ⟨.closeParen, position⟩ :: rest))
      (parts.map Prod.snd) rest := by
  induction parts generalizing used limit with
  | nil => exact absurd rfl hne
  | cons part parts ih =>
    obtain ⟨hpart, hparts⟩ := List.forall_mem_cons.mp hitem
    obtain ⟨limit, rfl⟩ := Nat.exists_eq_succ_of_ne_zero (Nat.ne_of_gt (Nat.zero_lt_of_lt hlimit))
    rw [arguments]
    by_cases hlast : parts = []
    · subst hlast
      rw [commaTokens_singleton] at hused
      have hfirst := hpart hused (Follows.closer .closeParen position rest (by simp))
      refine Decides.congr (hfirst.goOn rfl) ?_
      exact List.forall_mem_singleton
    · rw [commaTokens_cons hlast] at hused
      obtain ⟨front, position', behind, rfl, hfront, hbehind⟩ := exists_eq_append hused
      rw [List.length_append, List.length_cons] at hlimit
      rw [List.append_assoc, List.forall_mem_cons]
      have hfirst := hpart hfront
        (Follows.closer .comma position' (behind ++ ⟨.closeParen, position⟩ :: rest) (by simp))
      have hothers := ih hparts hlast hbehind (by omega : behind.length < limit)
      exact hfirst.bind (hothers.map fun args => part.2 :: args)

/-- The items of a table come one after the other, whatever row they are in. -/
theorem decides_tableRows (hitem : ∀ row ∈ rows, ∀ part ∈ row, Finds item part (fits part))
    (hne : rows ≠ []) (hrows : ∀ row ∈ rows, row ≠ [])
    (hused : used.map Located.token = rowTokens rows) (hlimit : used.length < limit)
    (position : Nat) (rest : List Located) :
    Decides (∀ row ∈ rows, ∀ part ∈ row, fits part)
      (tableRows item limit (used ++ ⟨.closeBrace, position⟩ :: rest))
      (rows.map (List.map Prod.snd)) rest := by
  induction limit generalizing used rows with
  | zero => exact absurd hlimit (Nat.not_lt_zero _)
  | succ limit ih =>
    obtain ⟨row, rows, rfl⟩ := List.exists_cons_of_ne_nil hne
    obtain ⟨hrow, hbelow⟩ := List.forall_mem_cons.mp hrows
    obtain ⟨part, row, rfl⟩ := List.exists_cons_of_ne_nil hrow
    obtain ⟨hfirst, hitems⟩ := List.forall_mem_cons.mp hitem
    obtain ⟨hpart, hparts⟩ := List.forall_mem_cons.mp hfirst
    rw [tableRows, List.forall_mem_cons, List.forall_mem_cons]
    by_cases hlast : row = []
    · subst hlast
      by_cases hend : rows = []
      · subst hend
        rw [rowTokens_singleton, commaTokens_singleton] at hused
        have hfirst := hpart hused (Follows.closer .closeBrace position rest (by simp))
        refine Decides.congr (hfirst.goOn rfl) ?_
        simp
      · rw [rowTokens_cons hend, commaTokens_singleton] at hused
        obtain ⟨front, position', behind, rfl, hfront, hbehind⟩ := exists_eq_append hused
        rw [List.length_append, List.length_cons] at hlimit
        rw [List.append_assoc]
        have hfirst := hpart hfront (Follows.closer .semicolon position'
          (behind ++ ⟨.closeBrace, position⟩ :: rest) (by simp))
        have hothers := ih hitems hend hbelow hbehind (by omega)
        exact (hfirst.bind (hothers.map fun values => [part.2] :: values)).congr (by simp)
    · rw [rowTokens_cons_cons hlast] at hused
      obtain ⟨front, position', behind, rfl, hfront, hbehind⟩ := exists_eq_append hused
      rw [List.length_append, List.length_cons] at hlimit
      rw [List.append_assoc]
      have hfirst := hpart hfront
        (Follows.closer .comma position' (behind ++ ⟨.closeBrace, position⟩ :: rest) (by simp))
      have hothers := ih (List.forall_mem_cons.mpr ⟨hparts, hitems⟩) (List.cons_ne_nil _ _)
        (List.forall_mem_cons.mpr ⟨hlast, hbelow⟩) hbehind (by omega)
      rw [List.forall_mem_cons] at hothers
      exact (hfirst.bind (hothers.map (consItem part.2))).congr and_assoc

/-- A call is read if its arguments fit. -/
theorem decides_call (hforms : ∀ part ∈ parts, Forms 1 part.1 part.2)
    (hitem : ∀ part ∈ parts, Finds item part (fits part))
    (hused : used.map Located.token = commaTokens parts) (position : Nat) (rest : List Located) :
    Decides (∀ part ∈ parts, fits part)
      (call item name openedAt (used ++ ⟨.closeParen, position⟩ :: rest))
      (.call name (parts.map Prod.snd)) rest := by
  cases parts with
  | nil =>
    obtain rfl := List.map_eq_nil_iff.mp hused
    exact .of_ok rfl (List.forall_mem_nil _)
  | cons part parts =>
    obtain ⟨behind, hbehind⟩ := exists_commaTokens_eq part parts
    rw [call_eq ((hforms part List.mem_cons_self).starts_of_append (hused.trans hbehind))]
    have hlimit : used.length < (used ++ ⟨.closeParen, position⟩ :: rest).length := by simp
    exact (decides_arguments hitem (List.cons_ne_nil _ _) hused hlimit position rest).map
      (Expr.call name)

/-- A table is read if its items fit. -/
theorem decides_table (hforms : ∀ row ∈ rows, ∀ part ∈ row, Forms 1 part.1 part.2)
    (hitem : ∀ row ∈ rows, ∀ part ∈ row, Finds item part (fits part))
    (hrows : ∀ row ∈ rows, row ≠ []) (hused : used.map Located.token = rowTokens rows)
    (position : Nat) (rest : List Located) :
    Decides (∀ row ∈ rows, ∀ part ∈ row, fits part)
      (table item (used ++ ⟨.closeBrace, position⟩ :: rest))
      (.array (rows.map (List.map Prod.snd))) rest := by
  cases rows with
  | nil =>
    obtain rfl := List.map_eq_nil_iff.mp hused
    exact .of_ok rfl (List.forall_mem_nil _)
  | cons row rows =>
    obtain ⟨part, row, rfl⟩ := List.exists_cons_of_ne_nil (hrows row List.mem_cons_self)
    obtain ⟨behind, hbehind⟩ := exists_rowTokens_eq part row rows
    have hfirst := hforms _ List.mem_cons_self part List.mem_cons_self
    rw [table_eq (hfirst.starts_of_append (hused.trans hbehind))]
    have hlimit : used.length < (used ++ ⟨.closeBrace, position⟩ :: rest).length := by simp
    exact (decides_tableRows hitem (List.cons_ne_nil _ _) hrows hused hlimit position rest).map
      Expr.array

/-- A call is read if its arguments are, one level further inside. -/
theorem Reads.call (name : String) {weigh : Part → Weight}
    (hforms : ∀ part ∈ parts, Forms 1 part.1 part.2)
    (h : ∀ part ∈ parts, Reads 1 part.1 part.2 (weigh part)) :
    Reads 7 (.name name :: .openParen :: (commaTokens parts ++ [.closeParen]))
      (.call name (parts.map Prod.snd)) (Weight.most (parts.map weigh)).deeper := by
  refine .of_decides (by decide) fun nest room used rest hused _ => ?_
  obtain ⟨position, _, rfl, hparen⟩ := exists_eq_cons hused
  obtain ⟨position', _, rfl, hbehind⟩ := exists_eq_cons hparen
  obtain ⟨inner, position'', close, rfl, hinner, hclose⟩ := exists_eq_append hbehind
  obtain rfl := List.map_eq_nil_iff.mp hclose
  rw [readerAt_of_lt (by decide)]
  simp only [List.cons_append, List.append_assoc, primary, named, List.nil_append]
  refine .deeper fun nest' room' _ _ => ?_
  have hitem : ∀ part ∈ parts,
      Finds (readerAt nest' 1 room') part ((weigh part).Fits nest' room') :=
    fun part hpart _ _ => (h part hpart).decides nest' room'
  refine (decides_call hforms hitem hinner position'' rest).congr ?_
  rw [Weight.fits_most, List.forall_mem_map]

/-- A table is read if its items are, one level further inside. -/
theorem Reads.array {weigh : Part → Weight} (hrows : ∀ row ∈ rows, row ≠ [])
    (hforms : ∀ row ∈ rows, ∀ part ∈ row, Forms 1 part.1 part.2)
    (h : ∀ row ∈ rows, ∀ part ∈ row, Reads 1 part.1 part.2 (weigh part)) :
    Reads 7 (.openBrace :: (rowTokens rows ++ [.closeBrace]))
      (.array (rows.map (List.map Prod.snd)))
      (Weight.most (rows.map fun row => Weight.most (row.map weigh))).deeper := by
  refine .of_decides (by decide) fun nest room used rest hused _ => ?_
  obtain ⟨position, _, rfl, hbehind⟩ := exists_eq_cons hused
  obtain ⟨inner, position', close, rfl, hinner, hclose⟩ := exists_eq_append hbehind
  obtain rfl := List.map_eq_nil_iff.mp hclose
  rw [readerAt_of_lt (by decide)]
  simp only [List.cons_append, List.append_assoc, primary, List.nil_append]
  refine .deeper fun nest' room' _ _ => ?_
  have hitem : ∀ row ∈ rows, ∀ part ∈ row,
      Finds (readerAt nest' 1 room') part ((weigh part).Fits nest' room') :=
    fun row hrow part hpart _ _ => (h row hrow part hpart).decides nest' room'
  refine (decides_table hforms hitem hrows hinner position' rest).congr ?_
  simp only [Weight.fits_most, List.forall_mem_map]

end Items

/-- Every expression of the grammar is read by a reader with enough levels and room left, and by no
other one. -/
theorem Weighs.reads (h : Weighs p tokens e w) : Reads p tokens e w := by
  induction h with
  | leaf h => exact h.reads
  | call name h ih => exact .call name (fun part hpart => (h part hpart).forms) ih
  | array hne h ih => exact .array hne (fun row hrow part hpart => (h row hrow part hpart).forms) ih
  | parenthesised h ih => exact ih.parenthesised
  | signed op h ih => exact ih.signed op
  | binary op hleft hright ihleft ihright => exact ihleft.binary op ihright
  | single hp h ih => exact .single hp h.forms ih

/-! ## The whole formula -/

variable {body : List Located} {position : Nat}

/-- Behind the end of a text, the end is seen once more. -/
theorem closed_append (body : List Located) (position : Nat) :
    closed (body ++ [⟨.finish, position⟩]) =
      body ++ ⟨.finish, position⟩ :: [⟨.finish, position⟩] := by
  simp [closed]

/-- A text is an expression with nothing behind it. -/
theorem parse_eq (tokens : List Located) :
    parse tokens =
      expression (operand maximumNesting) maximumDepth (closed tokens) >>= fun found =>
        match found.2 with
        | [] => .ok found.1
        | ⟨.finish, _⟩ :: _ => .ok found.1
        | ⟨.closeParen, position⟩ :: _ => .error (.unmatchedParen position)
        | rest => .error (unexpected rest) := rfl

/-- What stands before the first mark of the end is determined by the tokens. -/
theorem eq_of_append_finish {front front' behind behind' : List Located} {position' : Nat}
    (hfront : .finish ∉ front.map Located.token) (hfront' : .finish ∉ front'.map Located.token)
    (h : front ++ ⟨.finish, position⟩ :: behind = front' ++ ⟨.finish, position'⟩ :: behind') :
    front = front' := by
  have htake : ∀ (l r : List Located) (q : Nat), .finish ∉ l.map Located.token →
      (l ++ ⟨.finish, q⟩ :: r).takeWhile (fun t => decide (t.token ≠ .finish)) = l := by
    intro l r q hl
    rw [List.takeWhile_append_of_pos]
    · simp
    · intro t ht
      have hne : t.token ≠ .finish := fun hfinish => hl (List.mem_map.mpr ⟨t, ht, hfinish⟩)
      exact decide_eq_true hne
  rw [← htake front behind position hfront, h, htake front' behind' position' hfront']

/-- Accepted tokens form the tree that is read. -/
theorem forms_of_parse (hbody : ∀ t ∈ body, t.token ≠ .finish)
    (hread : parse (body ++ [⟨.finish, position⟩]) = .ok e) :
    Forms 1 (body.map Located.token) e := by
  rw [parse_eq, closed_append, bind_eq_ok_iff] at hread
  obtain ⟨⟨found, rest⟩, hfound, hend⟩ := hread
  obtain ⟨used, hused, hforms⟩ :=
    sound_expression (sound_operand maximumNesting) maximumDepth hfound
  have hnone : .finish ∉ body.map Located.token := by
    intro hmem
    obtain ⟨t, ht, hfinish⟩ := List.mem_map.mp hmem
    exact hbody t ht hfinish
  dsimp only at hend
  split at hend
  · -- The mark of the end would be a part of the expression.
    cases hend
    refine absurd ?_ hforms.finish_not_mem
    rw [List.append_nil] at hused
    rw [← hused]
    simp
  · cases hend
    rw [eq_of_append_finish hnone hforms.finish_not_mem hused]
    exact hforms
  · cases hend
  · cases hend

/-- The tokens of an expression are read as this expression if they fit into the limits, and they
are given up if they do not. -/
theorem parse_of_weighs (h : Weighs 1 (body.map Located.token) e w) :
    (w.Fits maximumNesting maximumDepth → parse (body ++ [⟨.finish, position⟩]) = .ok e) ∧
      (¬w.Fits maximumNesting maximumDepth →
        ∃ q, parse (body ++ [⟨.finish, position⟩]) = .error (.tooDeep q)) := by
  have hrest : Follows 1 (⟨.finish, position⟩ :: [⟨.finish, position⟩]) :=
    Follows.closer .finish position _ (by simp)
  have hread := h.reads.decides maximumNesting maximumDepth rfl hrest
  rw [readerAt_one] at hread
  rw [parse_eq, closed_append]
  constructor
  · intro hfits
    rw [hread.ok hfits]
    rfl
  · intro hnot
    obtain ⟨q, hdeep⟩ := hread.deep hnot
    rw [hdeep]
    exact ⟨q, rfl⟩

/-- Tokens that form a tree are read as it, unless they lie too deep. -/
theorem parse_of_forms (h : Forms 1 (body.map Located.token) e) :
    parse (body ++ [⟨.finish, position⟩]) = .ok e ∨ maximumNesting < body.length ∧
      ∃ q, parse (body ++ [⟨.finish, position⟩]) = .error (.tooDeep q) := by
  obtain ⟨w, hw⟩ := h.exists_weighs
  obtain ⟨hread, hdeep⟩ := @parse_of_weighs e w body position hw
  by_cases hfits : w.Fits maximumNesting maximumDepth
  · exact .inl (hread hfits)
  · refine .inr ⟨Nat.lt_of_not_le fun hle => hfits ?_, hdeep hfits⟩
    obtain ⟨hnest, hroom⟩ := hw.fits_length
    rw [List.length_map] at hnest hroom
    have hlimits : maximumNesting ≤ maximumDepth := by decide
    exact ⟨by omega, by omega⟩

/-- Tokens with a single mark of the end, behind all others, are read as an expression only if they
form it. If they form an expression, they are read as that one, or they are given up for the depth
of the tree, which takes more tokens than there are levels. -/
theorem parse_accepts_grammar (body : List Located) (position : Nat)
    (hbody : ∀ t ∈ body, t.token ≠ .finish) :
    (∀ e, parse (body ++ [⟨.finish, position⟩]) = .ok e → Forms 1 (body.map Located.token) e) ∧
      ∀ e, Forms 1 (body.map Located.token) e →
        parse (body ++ [⟨.finish, position⟩]) = .ok e ∨ maximumNesting < body.length ∧
          ∃ q, parse (body ++ [⟨.finish, position⟩]) = .error (.tooDeep q) :=
  ⟨fun _ hread => forms_of_parse hbody hread, fun _ hforms => parse_of_forms hforms⟩

/-- The tokens of `-true^Data!A1:B2&SUM(A1,{"x";C3})`. -/
def signedPower : List Located :=
  [⟨.minus, 0⟩, ⟨.name "true", 1⟩, ⟨.caret, 5⟩, ⟨.name "Data", 6⟩, ⟨.exclamation, 10⟩,
    ⟨.name "A1", 11⟩, ⟨.colon, 13⟩, ⟨.name "B2", 14⟩, ⟨.ampersand, 16⟩, ⟨.name "SUM", 17⟩,
    ⟨.openParen, 20⟩, ⟨.name "A1", 21⟩, ⟨.comma, 23⟩, ⟨.openBrace, 24⟩, ⟨.text "x", 25⟩,
    ⟨.semicolon, 28⟩, ⟨.name "C3", 29⟩, ⟨.closeBrace, 31⟩, ⟨.closeParen, 32⟩]

/-- The sign binds its operand before the power does, and the second corner of the range is on the
sheet of the first. -/
theorem parse_signedPower :
    (∀ t ∈ signedPower, t.token ≠ .finish) ∧ Forms 1 (signedPower.map Located.token)
      (.binary .concat
        (.binary .pow (.unary .neg (.boolean true))
          (.range ⟨some "Data", ⟨1, 1⟩⟩ ⟨some "Data", ⟨2, 2⟩⟩))
        (.call "SUM" [.cell ⟨none, ⟨1, 1⟩⟩, .array [[.text "x"], [.cell ⟨none, ⟨3, 3⟩⟩]]])) := by
  have hbody : ∀ t ∈ signedPower, t.token ≠ .finish := by simp [signedPower]
  exact ⟨hbody, (parse_accepts_grammar signedPower 33 hbody).1 _ (by with_unfolding_all rfl)⟩

end Spreadsheet.Formula
