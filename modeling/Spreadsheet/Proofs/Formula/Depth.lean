import Mathlib.Order.Bounds.Defs
import Spreadsheet.Proofs.Formula.Limits

/-!
# How deep a tree can be

The limit on links counts the links that are open at once. In the tree the links of a chain lie
around its first operand too, with all that was counted and forgotten when this operand was read.
So a tree may be deeper than the limit, in each of the five precedences and on every level of
brackets once more, but not without bound. The main statements give the greatest depth of a tree
that is read from a text, and say of each such tree what makes it deeper than the limit.
-/

namespace Spreadsheet.Formula

/-! ## Depth -/

namespace Expr

private theorem rowDepth_le_iff {row : List Expr} {n : Nat} :
    rowDepth row ≤ n ↔ ∀ e ∈ row, e.depth + 1 ≤ n := by
  induction row with
  | nil => simp [rowDepth]
  | cons e row ih => rw [rowDepth, Nat.max_le, ih, List.forall_mem_cons]

private theorem rowsDepth_le_iff {rows : List (List Expr)} {n : Nat} :
    rowsDepth rows ≤ n ↔ ∀ row ∈ rows, ∀ e ∈ row, e.depth + 1 ≤ n := by
  induction rows with
  | nil => simp [rowsDepth]
  | cons row rows ih => rw [rowsDepth, Nat.max_le, ih, rowDepth_le_iff, List.forall_mem_cons]

end Expr

/-! ## The bound -/

/-- The greatest depth of an operand for a reader with so many levels and so much room left: one
level deeper there are the links of five precedences around another operand. -/
def operandDepth : (nest room : Nat) → Nat
  | nest + 1, room + 1 => operandDepth nest room + 5 * room + 1
  | _, _ => 0

/-- With more room, operands can be deeper. -/
theorem operandDepth_mono {nest room room' : Nat} (h : room ≤ room') :
    operandDepth nest room ≤ operandDepth nest room' := by
  induction nest generalizing room room' with
  | zero => simp [operandDepth]
  | succ nest ih =>
    cases room with
    | zero => simp [operandDepth]
    | succ room =>
      obtain ⟨room', rfl⟩ := Nat.exists_eq_succ_of_ne_zero (Nat.ne_of_gt (Nat.zero_lt_of_lt h))
      have := ih (Nat.le_of_succ_le_succ h)
      simp only [operandDepth]
      omega

variable {p nest room : Nat} {e : Expr} {tokens : List Token} {w : Weight}

private theorem Refers.depth_eq {sheet : Option String} (h : Refers sheet tokens e) :
    e.depth = 0 := by
  cases h <;> simp [Expr.depth]

private theorem Leaf.depth_eq (h : Leaf tokens e) : e.depth = 0 := by
  cases h with
  | number | text | boolean => simp [Expr.depth]
  | reference h => exact h.depth_eq
  | qualified ht h => exact h.depth_eq

/-- The links of a chain are among those of the precedences from the level below it upwards. -/
theorem Weighs.links_le (h : Weighs (p + 1) tokens e w) {room' : Nat} (hroom : room' ≤ room)
    (hfits : w.Fits nest room') : (5 - (p + 1)) * room' + w.links ≤ (5 - p) * room := by
  by_cases hp : p < 5
  · have hlinks := h.links_le_load
    have hload := hfits.2
    have hstep : 5 - p = 5 - (p + 1) + 1 := by omega
    have hmul := Nat.mul_le_mul_left (5 - (p + 1)) hroom
    rw [hstep, Nat.add_mul]
    omega
  · have hlinks := h.links_eq_zero (by omega)
    have hnone : 5 - (p + 1) = 0 := by omega
    rw [hlinks, hnone, Nat.zero_mul]
    exact Nat.zero_le _

/-- One level deeper an expression may be a chain of every precedence. -/
theorem succ_depth_le {n : Nat} (hlinks : w.links ≤ w.load) (hfits : w.Fits nest room)
    (h : n ≤ operandDepth nest room + (5 - 1) * room + w.links) :
    n + 1 ≤ operandDepth (nest + 1) (room + 1) := by
  have hload := hfits.2
  simp only [operandDepth]
  omega

/-- Around an operand there are the links of all precedences from that of the level upwards, and
those of the level itself are counted. -/
theorem Weighs.depth_le (h : Weighs p tokens e w) (hfits : w.Fits nest room) :
    e.depth ≤ operandDepth nest room + (5 - p) * room + w.links := by
  induction h generalizing nest room with
  | leaf h =>
    rw [h.depth_eq]
    exact Nat.zero_le _
  | @call name parts weigh h ih =>
    obtain ⟨nest, room, rfl, rfl, hinner⟩ := Weight.fits_deeper.mp hfits
    refine Nat.le_add_right_of_le (Nat.le_add_right_of_le ?_)
    rw [Expr.depth, Expr.rowDepth_le_iff, List.forall_mem_map]
    intro part hpart
    have hitem := Weight.fits_most.mp hinner _ (List.mem_map_of_mem hpart)
    exact succ_depth_le (h part hpart).links_le_load hitem (ih part hpart hitem)
  | @array rows weigh hne h ih =>
    obtain ⟨nest, room, rfl, rfl, hinner⟩ := Weight.fits_deeper.mp hfits
    refine Nat.le_add_right_of_le (Nat.le_add_right_of_le ?_)
    rw [Expr.depth, Expr.rowsDepth_le_iff, List.forall_mem_map]
    intro row hrow
    rw [List.forall_mem_map]
    intro part hpart
    have hrowFits := Weight.fits_most.mp hinner _ (List.mem_map_of_mem hrow)
    have hitem := Weight.fits_most.mp hrowFits _ (List.mem_map_of_mem hpart)
    exact succ_depth_le (h row hrow part hpart).links_le_load hitem (ih row hrow part hpart hitem)
  | parenthesised h ih =>
    obtain ⟨nest, room, rfl, rfl, hinner⟩ := Weight.fits_deeper.mp hfits
    have hdepth := succ_depth_le h.links_le_load hinner (ih hinner)
    omega
  | @signed op _ e w h ih =>
    obtain ⟨nest, room, rfl, rfl, hinner⟩ := Weight.fits_deeper.mp hfits
    have hdepth := succ_depth_le (n := e.depth) h.links_le_load hinner (by have := ih hinner; omega)
    rw [Expr.depth]
    omega
  | @binary op left right a b v w hleft hright ihleft ihright =>
    obtain ⟨hv, hroom, hw⟩ := Weight.fits_link.mp hfits
    have hfirst := ihleft hv
    have hbehind := ihright hw
    have hless := Nat.sub_le room (v.links + 1)
    have hlinks := hright.links_le hless hw
    have hmono := @operandDepth_mono nest _ _ hless
    have hchain : (v.link w).links = v.links + 1 := rfl
    rw [Expr.depth, hchain]
    omega
  | @single p tokens e w hp h ih =>
    have hdepth := ih hfits
    have hlinks := h.links_le (Nat.le_refl room) hfits
    have hwhole : w.whole.links = 0 := rfl
    omega

/-! ## Left operands -/

/-- An expression is the left operand of a link, which is finished when the link is read, and it
lies so many links and levels below the root of a tree. -/
inductive LeftOperand (a : Expr) : Expr → Nat → Prop where
  /-- It is the left operand of the root. -/
  | root (op : BinaryOp) (b : Expr) : LeftOperand a (.binary op a b) 1
  /-- It lies in a left operand. -/
  | left (op : BinaryOp) {left : Expr} (right : Expr) {k : Nat} (h : LeftOperand a left k) :
      LeftOperand a (.binary op left right) (k + 1)
  /-- It lies in a right operand. -/
  | right (op : BinaryOp) (left : Expr) {right : Expr} {k : Nat} (h : LeftOperand a right k) :
      LeftOperand a (.binary op left right) (k + 1)
  /-- It lies behind a sign. -/
  | signed (op : UnaryOp) {e : Expr} {k : Nat} (h : LeftOperand a e k) :
      LeftOperand a (.unary op e) (k + 1)
  /-- It lies in an argument of a call. -/
  | argument (name : String) {args : List Expr} {e : Expr} {k : Nat} (he : e ∈ args)
      (h : LeftOperand a e k) : LeftOperand a (.call name args) (k + 1)
  /-- It lies in an item of a table. -/
  | item {rows : List (List Expr)} {row : List Expr} {e : Expr} {k : Nat} (hrow : row ∈ rows)
      (he : e ∈ row) (h : LeftOperand a e k) : LeftOperand a (.array rows) (k + 1)

/-- A tree is as deep as what is in it. -/
theorem LeftOperand.add_depth_le {a : Expr} {k : Nat} (h : LeftOperand a e k) :
    k + a.depth ≤ e.depth := by
  induction h with
  | root op b =>
    rw [Expr.depth]
    omega
  | left op b h ih | right op b h ih =>
    rw [Expr.depth]
    omega
  | signed op h ih =>
    rw [Expr.depth]
    omega
  | @argument name args e k he h ih =>
    have hdepth := Expr.rowDepth_le_iff.mp (Nat.le_refl _) e he
    rw [Expr.depth]
    omega
  | @item rows row e k hrow he h ih =>
    have hdepth := Expr.rowsDepth_le_iff.mp (Nat.le_refl _) row hrow e he
    rw [Expr.depth]
    omega

/-- The links in front of an operand are counted, so that a tree that fits is not too deep if no
left operand in it lies too deep. -/
theorem Weighs.depth_le_of_leftOperand (h : Weighs p tokens e w) (hload : w.load ≤ room)
    (hleft : ∀ a k, LeftOperand a e k → k + a.depth ≤ room) : e.depth ≤ room := by
  induction h generalizing room with
  | leaf h =>
    rw [h.depth_eq]
    exact Nat.zero_le _
  | @call name parts weigh h ih =>
    obtain ⟨room, rfl⟩ := Nat.exists_eq_succ_of_ne_zero (Nat.ne_of_gt (Nat.zero_lt_of_lt hload))
    have hinner : (Weight.most (parts.map weigh)).Fits _ room :=
      ⟨Nat.le_refl _, Nat.le_of_succ_le_succ hload⟩
    rw [Expr.depth, Expr.rowDepth_le_iff, List.forall_mem_map]
    intro part hpart
    have hitem := Weight.fits_most.mp hinner _ (List.mem_map_of_mem hpart)
    refine Nat.succ_le_succ (ih part hpart hitem.2 fun a k ha => ?_)
    have := hleft a (k + 1) (.argument name (List.mem_map_of_mem hpart) ha)
    omega
  | @array rows weigh hne h ih =>
    obtain ⟨room, rfl⟩ := Nat.exists_eq_succ_of_ne_zero (Nat.ne_of_gt (Nat.zero_lt_of_lt hload))
    have hinner : (Weight.most (rows.map fun row => Weight.most (row.map weigh))).Fits _ room :=
      ⟨Nat.le_refl _, Nat.le_of_succ_le_succ hload⟩
    rw [Expr.depth, Expr.rowsDepth_le_iff, List.forall_mem_map]
    intro row hrow
    rw [List.forall_mem_map]
    intro part hpart
    have hrowFits := Weight.fits_most.mp hinner _ (List.mem_map_of_mem hrow)
    have hitem := Weight.fits_most.mp hrowFits _ (List.mem_map_of_mem hpart)
    refine Nat.succ_le_succ (ih row hrow part hpart hitem.2 fun a k ha => ?_)
    have := hleft a (k + 1) (.item (List.mem_map_of_mem hrow) (List.mem_map_of_mem hpart) ha)
    omega
  | parenthesised h ih => exact ih (Nat.le_of_succ_le hload) hleft
  | signed op h ih =>
    obtain ⟨room, rfl⟩ := Nat.exists_eq_succ_of_ne_zero (Nat.ne_of_gt (Nat.zero_lt_of_lt hload))
    rw [Expr.depth]
    refine Nat.succ_le_succ (ih (Nat.le_of_succ_le_succ hload) fun a k ha => ?_)
    have := hleft a (k + 1) (.signed op ha)
    omega
  | @binary op left right a b v w hleftTokens hright ihleft ihright =>
    have hchain : max v.load (v.links + 1 + w.load) ≤ room := hload
    obtain ⟨room, rfl⟩ : ∃ room', room = room' + 1 :=
      Nat.exists_eq_succ_of_ne_zero (by omega)
    have hfirst := hleft a 1 (.root op b)
    have hbehind : b.depth ≤ room := by
      refine ihright (by omega) fun c k hc => ?_
      have := hleft c (k + 1) (.right op a hc)
      omega
    rw [Expr.depth]
    omega
  | single hp h ih => exact ih hload hleft

/-! ## The deepest tree -/

/-- Some tokens that can be read form the expression as an operand. -/
def Written (e : Expr) : Prop :=
  ∃ tokens, Forms 7 tokens e ∧ ∀ token ∈ tokens, token.Lexical

namespace Written

variable {a b : Expr}

/-- Truth values can be written as operands. -/
theorem boolean (b : Bool) : Written (.boolean b) :=
  ⟨_, .boolean (spells_name b), List.forall_mem_singleton.mpr (lexical_spelling b)⟩

/-- Operations on what can be written can be written. -/
theorem binary (op : BinaryOp) (ha : Written a) (hb : Written b) : Written (.binary op a b) := by
  obtain ⟨left, hleft, hl⟩ := ha
  obtain ⟨right, hright, hr⟩ := hb
  have hlevel := op.precedence_le
  have hpos : 1 ≤ op.precedence := (Expr.binary op a b).precedence_pos
  have hforms := Forms.binary op (hleft.lower hpos (by omega)) (hright.lower (by omega) (by omega))
  have hop : op.token.Lexical := by cases op <;> trivial
  refine ⟨_, .parenthesised (hforms.lower (Nat.le_refl 1) hpos), ?_⟩
  intro token htoken
  simp only [List.mem_cons, List.mem_append, List.not_mem_nil, or_false] at htoken
  rcases htoken with rfl | (htoken | rfl | htoken) | rfl
  · trivial
  · exact hl token htoken
  · exact hop
  · exact hr token htoken
  · trivial

/-- Chains on what can be written can be written. -/
theorem linked (op : BinaryOp) (n : Nat) (h : Written e) : Written (linked op n e) := by
  induction n with
  | zero => exact h
  | succ n ih => exact ih.binary op (.boolean true)

/-- A call of what can be written can be written. -/
theorem call {name : String} (hname : (Token.name name).Lexical) (h : Written e) :
    Written (.call name [e]) := by
  obtain ⟨tokens, hforms, hlexical⟩ := h
  have hpart : ∀ part ∈ [(tokens, e)], Forms 1 part.1 part.2 :=
    List.forall_mem_singleton.mpr (hforms.lower (Nat.le_refl 1) (by decide))
  refine ⟨_, .call name hpart, ?_⟩
  intro token htoken
  simp only [List.mem_cons, List.mem_append, List.not_mem_nil, or_false,
    commaTokens_singleton] at htoken
  rcases htoken with rfl | rfl | htoken | rfl
  · exact hname
  · trivial
  · exact hlexical token htoken
  · trivial

/-- What fits into the limits is read from its own text. -/
theorem read_toText (h : Written e) (hfinite : ∀ x ∈ e.literals, x.isFinite = true)
    (hfits : e.weight.Fits maximumNesting maximumDepth) : ofText e.toText = .ok e := by
  obtain ⟨tokens, hforms, hlexical⟩ := h
  rw [e.toText_eq_textOf]
  exact (hforms.weighs_canonical.part.ofText_textOf (hforms.lexical_tokens hlexical) hfinite).1
    ((Expr.fits_weightAt e.precedence_pos).mpr hfits)

end Written

section Linked

variable {op : BinaryOp} {n : Nat}

private theorem precedence_linked (h : op.precedence ≤ e.precedence) :
    op.precedence ≤ (linked op n e).precedence := by
  cases n with
  | zero => exact h
  | succ n => exact Nat.le_refl _

/-- Every link makes a chain deeper by one. -/
theorem depth_linked (op : BinaryOp) (n : Nat) (e : Expr) :
    (linked op n e).depth = e.depth + n := by
  induction n with
  | zero => rfl
  | succ n ih =>
    have htrue : (Expr.boolean true).depth = 0 := by simp [Expr.depth]
    rw [linked, Expr.depth, htrue, ih]
    omega

/-- A chain around an operand that is no chain of its precedence takes room for its links. -/
theorem fits_linked (h : op.precedence < e.precedence) (hfits : e.weight.Fits nest room)
    (hn : n ≤ room) : (linked op n e).weight.Fits nest room := by
  have hchain : ((linked op n e).weightAt op.precedence).Fits nest room ∧
      ((linked op n e).weightAt op.precedence).links = n := by
    induction n with
    | zero =>
      refine ⟨(Expr.fits_weightAt (Nat.le_of_lt h)).mpr hfits, ?_⟩
      rw [linked, Expr.weightAt, Weight.placed, if_neg (Nat.not_lt_of_lt h), if_neg (by omega)]
      rfl
    | succ n ih =>
      obtain ⟨hfront, hlinks⟩ := ih (Nat.le_of_succ_le hn)
      have hown : (linked op (n + 1) e).weightAt op.precedence =
          ((linked op n e).weightAt op.precedence).link
            ((Expr.boolean true).weightAt (op.precedence + 1)) := Expr.weightAt_precedence _
      have hlevel : op.precedence + 1 ≤ (Expr.boolean true).precedence := by
        have := op.precedence_le
        change op.precedence + 1 ≤ 7
        omega
      rw [hown, Weight.fits_link, hlinks]
      refine ⟨⟨hfront, hn, (Expr.fits_weightAt hlevel).mpr (Weight.fits_none _ _)⟩, ?_⟩
      exact congrArg (· + 1) hlinks
  exact (Expr.fits_weightAt (precedence_linked (Nat.le_of_lt h))).mp hchain.1

end Linked

/-- Chains of every precedence, each with `n` links, around an expression. -/
def storey (n : Nat) (e : Expr) : Expr :=
  linked .eq n (linked .concat n (linked .add n (linked .mul n (linked .pow n e))))

/-- On every level chains as long as there is room for, around what is one level deeper. -/
def spire : (nest room : Nat) → Expr
  | nest + 1, room + 1 => .call "F" [storey room (spire nest room)]
  | _, _ => .boolean true

/-- A storey is deeper by the links of its five chains. -/
theorem depth_storey (n : Nat) (e : Expr) : (storey n e).depth = e.depth + 5 * n := by
  simp only [storey, depth_linked]
  omega

private theorem fits_storey (he : e.precedence = 7) (hfits : e.weight.Fits nest room) :
    (storey room e).weight.Fits nest room := by
  have hpow : BinaryOp.pow.precedence < e.precedence := by rw [he]; decide
  have hlinked : ∀ {op op' : BinaryOp} {a : Expr}, op'.precedence < op.precedence →
      op.precedence ≤ a.precedence → op'.precedence < (linked op room a).precedence :=
    fun hlt hle => Nat.lt_of_lt_of_le hlt (precedence_linked hle)
  have hmul := hlinked (by decide : BinaryOp.mul.precedence < BinaryOp.pow.precedence)
    (Nat.le_of_lt hpow)
  have hadd := hlinked (by decide : BinaryOp.add.precedence < BinaryOp.mul.precedence)
    (Nat.le_of_lt hmul)
  have hconcat := hlinked (by decide : BinaryOp.concat.precedence < BinaryOp.add.precedence)
    (Nat.le_of_lt hadd)
  have heq := hlinked (by decide : BinaryOp.eq.precedence < BinaryOp.concat.precedence)
    (Nat.le_of_lt hconcat)
  have hroom := Nat.le_refl room
  exact fits_linked heq (fits_linked hconcat (fits_linked hadd (fits_linked hmul
    (fits_linked hpow hfits hroom) hroom) hroom) hroom) hroom

private theorem precedence_spire (nest room : Nat) : (spire nest room).precedence = 7 := by
  unfold spire
  split <;> rfl

/-- The spire is as deep as an operand can be. -/
theorem depth_spire (nest room : Nat) : (spire nest room).depth = operandDepth nest room := by
  induction nest generalizing room with
  | zero => simp [spire, operandDepth, Expr.depth]
  | succ nest ih =>
    cases room with
    | zero => simp [spire, operandDepth, Expr.depth]
    | succ room =>
      simp only [spire, operandDepth, Expr.depth, Expr.rowDepth, depth_storey, ih]
      omega

/-- There are enough levels and there is enough room for the spire. -/
theorem fits_spire (nest room : Nat) : (spire nest room).weight.Fits nest room := by
  induction nest generalizing room with
  | zero => exact Weight.fits_none _ _
  | succ nest ih =>
    cases room with
    | zero => exact Weight.fits_none _ _
    | succ room =>
      have hitem := fits_storey (precedence_spire nest room) (ih room)
      rw [spire, Expr.weight, Expr.rowWeight_eq, Weight.fits_deeper_succ, Weight.fits_most]
      exact List.forall_mem_singleton.mpr ((Expr.fits_weightAt (Expr.precedence_pos _)).mpr hitem)

private theorem written_storey {n : Nat} (h : Written e) : Written (storey n e) :=
  ((((h.linked .pow n).linked .mul n).linked .add n).linked .concat n).linked .eq n

private theorem written_spire (nest room : Nat) : Written (spire nest room) := by
  have hname : (Token.name "F").Lexical := ⟨'F', [], rfl, rfl, List.forall_mem_nil _⟩
  induction nest generalizing room with
  | zero => exact .boolean true
  | succ nest ih =>
    cases room with
    | zero => exact .boolean true
    | succ room => exact (written_storey (ih room)).call hname

private theorem literals_storey (n : Nat) (e : Expr) : (storey n e).literals = e.literals := by
  simp only [storey, literals_linked]

private theorem literals_spire (nest room : Nat) : (spire nest room).literals = [] := by
  induction nest generalizing room with
  | zero => simp [spire, Expr.literals]
  | succ nest ih =>
    cases room with
    | zero => simp [spire, Expr.literals]
    | succ room => simp [spire, Expr.literals, Expr.argumentLiterals, literals_storey, ih]

private theorem operandDepth_limits :
    operandDepth maximumNesting maximumDepth + 5 * maximumDepth = 289088 := by
  decide +kernel

/-- The deepest tree that any text is read as. -/
theorem isGreatest_depth :
    IsGreatest {n | ∃ t e, ofText t = .ok e ∧ e.depth = n} 289088 := by
  constructor
  · have hfinite : ∀ x ∈ (storey maximumDepth (spire maximumNesting maximumDepth)).literals,
        x.isFinite = true := by
      rw [literals_storey, literals_spire]
      exact List.forall_mem_nil _
    have hfits := fits_storey (precedence_spire maximumNesting maximumDepth) (fits_spire _ _)
    have hread := (written_storey (written_spire _ _)).read_toText hfinite hfits
    refine ⟨_, _, hread, ?_⟩
    rw [depth_storey, depth_spire]
    exact operandDepth_limits
  · rintro _ ⟨t, e, hread, rfl⟩
    obtain ⟨source, w, hw, hfits⟩ := exists_weighs_of_ofText hread
    have hdepth := hw.depth_le hfits
    have hlinks := hw.links_le_load
    have hload := hfits.2
    have hlimit := operandDepth_limits
    omega

/-! ## Trees that are too deep -/

/-- A chain of powers in front of a product. -/
def productOfPowers : Expr :=
  linked .mul 300 (linked .pow 300 (.boolean true))

private theorem depth_productOfPowers : productOfPowers.depth = 600 := by
  rw [productOfPowers, depth_linked, depth_linked]
  rfl

/-- Either of the two chains fits into the limits. -/
theorem read_productOfPowers : ofText productOfPowers.toText = .ok productOfPowers := by
  have hwritten : Written productOfPowers :=
    ((Written.boolean true).linked .pow 300).linked .mul 300
  have hpow : (linked .pow 300 (.boolean true)).weight.Fits maximumNesting maximumDepth :=
    fits_linked (by decide) (Weight.fits_none _ _) (by decide)
  have hbinds : BinaryOp.mul.precedence < (linked .pow 300 (.boolean true)).precedence :=
    Nat.lt_of_lt_of_le (by decide : BinaryOp.mul.precedence < BinaryOp.pow.precedence)
      (precedence_linked (by decide))
  refine hwritten.read_toText ?_ (fits_linked hbinds hpow (by decide))
  rw [productOfPowers, literals_linked, literals_linked]
  exact List.forall_mem_nil _

/-- A tree that was read from a text is no deeper than the limit exactly if no left operand in it
lies deeper. These are the operands whose links are no longer counted when what is around them is
read. -/
theorem depth_le_maximumDepth_iff {t : String} (h : ofText t = .ok e) :
    e.depth ≤ maximumDepth ↔ ∀ a k, LeftOperand a e k → k + a.depth ≤ maximumDepth := by
  constructor
  · intro hdepth a k ha
    exact Nat.le_trans ha.add_depth_le hdepth
  · intro hleft
    obtain ⟨source, w, hw, hfits⟩ := exists_weighs_of_ofText h
    exact hw.depth_le_of_leftOperand hfits.2 hleft

/-- In the product of powers a left operand lies deeper than the limit. -/
theorem exists_leftOperand_productOfPowers :
    ofText productOfPowers.toText = .ok productOfPowers ∧
      ∃ a k, LeftOperand a productOfPowers k ∧ maximumDepth < k + a.depth := by
  refine ⟨read_productOfPowers, ?_⟩
  by_contra hnone
  have hdepth : productOfPowers.depth ≤ maximumDepth := by
    refine (depth_le_maximumDepth_iff read_productOfPowers).mpr fun a k ha => ?_
    exact Nat.le_of_not_lt fun hdeep => hnone ⟨a, k, ha, hdeep⟩
  rw [depth_productOfPowers] at hdepth
  exact absurd hdepth (by decide)

/-- The product of powers is accepted, and it is deeper than the limit. -/
theorem ofText_productOfPowers :
    ∃ t e, ofText t = .ok e ∧ e.depth = 600 ∧ maximumDepth < e.depth := by
  refine ⟨_, _, read_productOfPowers, depth_productOfPowers, ?_⟩
  rw [depth_productOfPowers]
  decide

end Spreadsheet.Formula
