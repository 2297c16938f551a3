import Spreadsheet.Proofs.Formula.RoundTrip

/-!
# The limits and the canonical text

What reading the text of an expression needs is found from the expression. The text never needs more
levels than the one that the expression was read from, since it has no parentheses without use. It
may need more room, because a chain in parentheses at the front of a longer chain becomes a part of
it. An infinite literal is written as a word that means nothing.
-/

namespace Spreadsheet.Formula

/-! ## Weights of expressions -/

/-- What an expression at a level of its own needs where the given level is asked for. -/
def Weight.placed (w : Weight) (own p : Nat) : Weight :=
  if own < p then w.deeper else if p = own then w else w.whole

namespace Expr

mutual
/-- What reading the text of an expression needs. -/
def weight : Expr → Weight
  | .call _ args => (rowWeight args).deeper
  | .binary op a b =>
    (a.weight.placed a.precedence op.precedence).link
      (b.weight.placed b.precedence (op.precedence + 1))
  | .unary _ a => (a.weight.placed a.precedence unaryPrecedence).deeper
  | .array rows => (tableWeight rows).deeper
  | _ => .none

/-- What the items of a row need. -/
def rowWeight : List Expr → Weight
  | [] => .none
  | e :: row => (e.weight.placed e.precedence 1).beside (rowWeight row)

/-- What the rows of a table need. -/
def tableWeight : List (List Expr) → Weight
  | [] => .none
  | row :: rows => (rowWeight row).beside (tableWeight rows)
end

/-- What reading an expression needs where the given level is asked for. -/
def weightAt (p : Nat) (e : Expr) : Weight :=
  e.weight.placed e.precedence p

/-- The weight of a row is the most that its items weigh. -/
theorem rowWeight_eq (row : List Expr) : rowWeight row = Weight.most (row.map (weightAt 1)) := by
  induction row with
  | nil => rfl
  | cons e row ih => rw [rowWeight, ih, List.map_cons, Weight.most, weightAt]

private theorem tableWeight_eq (rows : List (List Expr)) :
    tableWeight rows = Weight.most (rows.map fun row => Weight.most (row.map (weightAt 1))) := by
  induction rows with
  | nil => rfl
  | cons row rows ih => rw [tableWeight, ih, rowWeight_eq, List.map_cons, Weight.most]

/-- An expression has no brackets where its own precedence is wanted. -/
theorem weightAt_precedence (e : Expr) : e.weightAt e.precedence = e.weight := by
  rw [weightAt, Weight.placed, if_neg (Nat.lt_irrefl _), if_pos rfl]

/-- Brackets nest an expression one level deeper. -/
theorem nesting_weightAt (p : Nat) (e : Expr) :
    (e.weightAt p).nesting =
      if e.precedence < p then e.weight.nesting + 1 else e.weight.nesting := by
  unfold weightAt Weight.placed
  split
  · rfl
  · split <;> rfl

/-- An expression that needs no brackets fits where it fits by itself. -/
theorem fits_weightAt {p nest room : Nat} {e : Expr} (h : p ≤ e.precedence) :
    (e.weightAt p).Fits nest room ↔ e.weight.Fits nest room := by
  unfold weightAt Weight.placed
  rw [if_neg (Nat.not_lt_of_le h)]
  split
  · exact Iff.rfl
  · exact Weight.fits_whole

end Expr

/-! ## Weights of canonical tokens -/

variable {p q : Nat} {t : String} {e : Expr} {tokens : List Token} {sheet : Option String}
  {w : Weight}

/-- What tokens need at a level they need at every lower one, apart from the links. -/
theorem Weighs.lower (h : Weighs p tokens e w) (hq : 1 ≤ q) (hle : q ≤ p) :
    Weighs q tokens e (if q = p then w else w.whole) := by
  obtain ⟨steps, rfl⟩ := Nat.exists_eq_add_of_le hle
  induction steps generalizing w with
  | zero =>
    rw [if_pos (Nat.add_zero q).symm]
    exact h
  | succ steps ih =>
    have hlevel : 1 ≤ q + steps := Nat.le_add_right_of_le hq
    have hnext := ih (.single hlevel h) (Nat.le_add_right q steps)
    rw [if_neg (by omega)]
    split at hnext
    · exact hnext
    · exact hnext

/-- Parentheses where they are needed. -/
theorem Weighs.tokensAt (h : Weighs e.precedence e.tokens e w) (hp : 1 ≤ p) (hle : p ≤ 7) :
    Weighs p (e.tokensAt p) e (w.placed e.precedence p) := by
  rw [Expr.tokensAt, bracketedIf, Weight.placed]
  by_cases hlow : e.precedence < p
  · have hinner := Weighs.parenthesised (h.lower (Nat.le_refl 1) e.precedence_pos)
    have hdeeper : (if 1 = e.precedence then w else w.whole).deeper = w.deeper := by split <;> rfl
    rw [hdeeper] at hinner
    have houter := hinner.lower hp hle
    have hwhole : (if p = 7 then w.deeper else w.deeper.whole) = w.deeper := by split <;> rfl
    rw [hwhole] at houter
    rw [if_pos (decide_eq_true hlow), if_pos hlow]
    exact houter
  · rw [if_neg (by simpa using hlow), if_neg hlow]
    exact h.lower hp (Nat.le_of_not_lt hlow)

/-- The items of a row stand without parentheses. -/
theorem Weighs.part (h : Weighs e.precedence e.tokens e e.weight) :
    Weighs 1 e.part.1 e.part.2 (e.weightAt 1) := by
  have hpos := e.precedence_pos
  have hitem := h.tokensAt (Nat.le_refl 1) (by decide : 1 ≤ 7)
  rwa [Expr.tokensAt, bracketedIf, if_neg (by simp; omega)] at hitem

private theorem Refers.weight_eq (h : Refers sheet tokens e) : e.weight = .none := by
  cases h <;> rfl

/-- Reading the canonical tokens of an expression needs the weight of the expression. -/
theorem Forms.weighs_canonical (h : Forms p tokens e) :
    Weighs e.precedence e.tokens e e.weight := by
  induction h with
  | number x => exact .leaf (.number x)
  | text s => exact .leaf (.text s)
  | @boolean _ b => exact .leaf (.boolean (spells_name b))
  | reference h =>
    obtain ⟨labels, htokens, hlevel, hrefers⟩ := h.canonical
    rw [htokens, hlevel, h.weight_eq]
    exact .leaf (.reference hrefers)
  | @qualified sheet _ _ _ _ h =>
    obtain ⟨labels, htokens, hlevel, hrefers⟩ := h.canonical
    rw [htokens, hlevel, h.weight_eq]
    exact .leaf (.qualified (sheetToken_eq sheet) hrefers)
  | @call name parts h ih =>
    have hparts : ∀ part ∈ parts.map (fun part => part.2.part),
        Weighs 1 part.1 part.2 (part.2.weightAt 1) := by
      intro part hpart
      obtain ⟨source, hsource, rfl⟩ := List.mem_map.mp hpart
      exact (ih source hsource).part
    have hcall := Weighs.call name hparts
    simp only [List.map_map, Function.comp_def] at hcall
    rw [Expr.tokens, Expr.argumentTokens_eq, Expr.weight, Expr.rowWeight_eq]
    simp only [List.map_map, Function.comp_def]
    exact hcall
  | @array rows hne h ih =>
    have hrows : ∀ row ∈ rows.map (List.map fun part => part.2.part), row ≠ [] := by
      intro row hrow
      obtain ⟨source, hsource, rfl⟩ := List.mem_map.mp hrow
      simpa using hne source hsource
    have hparts : ∀ row ∈ rows.map (List.map fun part => part.2.part), ∀ part ∈ row,
        Weighs 1 part.1 part.2 (part.2.weightAt 1) := by
      intro row hrow part hpart
      obtain ⟨source, hsource, rfl⟩ := List.mem_map.mp hrow
      obtain ⟨item, hitem, rfl⟩ := List.mem_map.mp hpart
      exact (ih source hsource item hitem).part
    have harray := Weighs.array hrows hparts
    simp only [List.map_map, Function.comp_def] at harray
    rw [Expr.tokens, Expr.tableTokens_eq, Expr.weight, Expr.tableWeight_eq]
    simp only [List.map_map, Function.comp_def]
    exact harray
  | parenthesised h ih => exact ih
  | signed op h ih => exact .signed op (ih.tokensAt (by decide) (by decide))
  | @binary op left right a b hleft hright ihleft ihright =>
    have hlevel := op.precedence_le
    have hpos : 1 ≤ op.precedence := (Expr.binary op a b).precedence_pos
    rw [Expr.tokens_binary]
    exact .binary op (ihleft.tokensAt hpos (by omega)) (ihright.tokensAt (by omega) (by omega))
  | single hp h ih => exact ih

private theorem Weight.most_nesting_le {α : Type} {f g : α → Weight} {items : List α}
    (h : ∀ a ∈ items, (f a).nesting ≤ (g a).nesting) :
    (most (items.map f)).nesting ≤ (most (items.map g)).nesting := by
  induction items with
  | nil => exact Nat.le_refl _
  | cons a items ih =>
    obtain ⟨hfirst, hothers⟩ := List.forall_mem_cons.mp h
    have := ih hothers
    simp only [List.map_cons, most, beside]
    omega

/-- The canonical tokens do not need more levels than those that the expression was formed by. -/
theorem Weighs.nesting_le (h : Weighs p tokens e w) : (e.weightAt p).nesting ≤ w.nesting := by
  induction h with
  | @leaf _ e h =>
    have hnone : e.weight = .none ∧ e.precedence = 7 := by
      cases h with
      | number | text | boolean => exact ⟨rfl, rfl⟩
      | reference h => exact ⟨h.weight_eq, by cases h <;> rfl⟩
      | qualified ht h => exact ⟨h.weight_eq, by cases h <;> rfl⟩
    rw [Expr.nesting_weightAt, hnone.1, hnone.2]
    exact Nat.le_refl _
  | @call name parts weigh h ih =>
    have hmost := Weight.most_nesting_le ih
    have hown : (Expr.call name (parts.map Prod.snd)).weightAt 7 = _ := Expr.weightAt_precedence _
    have hweight : (Expr.call name (parts.map Prod.snd)).weight =
        (Weight.most (parts.map fun part => part.2.weightAt 1)).deeper := by
      simp [Expr.weight, Expr.rowWeight_eq, Function.comp_def]
    rw [hown, hweight]
    exact Nat.succ_le_succ hmost
  | @array rows weigh hne h ih =>
    have hmost := Weight.most_nesting_le fun row hrow => Weight.most_nesting_le (ih row hrow)
    have hown : (Expr.array (rows.map (List.map Prod.snd))).weightAt 7 = _ :=
      Expr.weightAt_precedence _
    have hweight : (Expr.array (rows.map (List.map Prod.snd))).weight =
        (Weight.most (rows.map fun row =>
          Weight.most (row.map fun part => part.2.weightAt 1))).deeper := by
      simp [Expr.weight, Expr.tableWeight_eq, Function.comp_def]
    rw [hown, hweight]
    exact Nat.succ_le_succ hmost
  | @parenthesised _ e w h ih =>
    have hpos := e.precedence_pos
    rw [Expr.nesting_weightAt, if_neg (by omega)] at ih
    rw [Expr.nesting_weightAt]
    change _ ≤ w.nesting + 1
    split
    · exact Nat.succ_le_succ ih
    · exact Nat.le_succ_of_le ih
  | @signed op _ e w h ih =>
    have hown : (Expr.unary op e).weightAt 6 = (e.weightAt 6).deeper := Expr.weightAt_precedence _
    rw [hown]
    exact Nat.succ_le_succ ih
  | @binary op left right a b v w hleft hright ihleft ihright =>
    have hown : (Expr.binary op a b).weightAt op.precedence =
        (a.weightAt op.precedence).link (b.weightAt (op.precedence + 1)) :=
      Expr.weightAt_precedence _
    rw [hown]
    change max (a.weightAt op.precedence).nesting (b.weightAt (op.precedence + 1)).nesting ≤
      max v.nesting w.nesting
    omega
  | @single p _ e w hp h ih =>
    refine Nat.le_trans ?_ ih
    rw [Expr.nesting_weightAt, Expr.nesting_weightAt]
    split
    · rw [if_pos (by omega)]
    · split
      · exact Nat.le_succ _
      · exact Nat.le_refl _

/-! ## Infinite literals -/

private theorem not_known_inf : ¬Known "inf" := by
  rintro (⟨b, hb⟩ | hlabel)
  · unfold Spells at hb
    cases b with
    | false => exact absurd hb (by decide +kernel)
    | true => exact absurd hb (by decide +kernel)
  · exact absurd hlabel (by decide +kernel)

private theorem Token.reread_of_follows {u : Token} (h : u.follows = true) : u.reread = u := by
  cases u with
  | number => cases h
  | _ => rfl

/-- The word for an infinite literal stands where a name would have to mean something. -/
theorem not_forms_reread {x : Float} (h : Forms p tokens e)
    (hlexical : ∀ token ∈ tokens, token.Lexical) (hx : x ∈ e.literals)
    (hinfinite : x.isFinite = false) (e' : Expr) : ¬Forms q (tokens.map Token.reread) e' := by
  intro h'
  rw [← h.number?_eq, List.mem_filterMap] at hx
  obtain ⟨token, htoken, hnumber⟩ := hx
  obtain rfl : token = .number x := by
    cases token with
    | number y => exact congrArg Token.number (Option.some.inj hnumber)
    | _ => cases hnumber
  have hreread : (Token.number x).reread = .name "inf" := by
    obtain ⟨digits, exponent, hdecimal⟩ := hlexical _ htoken
    have hsign : Number.HasSign false x := hdecimal ▸ Number.hasSign_ofDecimal digits exponent
    change (if x.isFinite then Token.number x else .name (numberText x)) = _
    rw [if_neg (by simp [hinfinite]), Number.numberText_of_not_isFinite hsign hinfinite]
  obtain ⟨front, behind, rfl⟩ := List.append_of_mem htoken
  have hchain := (List.isChain_append.mp h.unbroken.isChain).2.1
  have hends := h'.unbroken
  rw [List.map_append, List.map_cons, hreread] at hends
  cases behind with
  | nil =>
    obtain ⟨_, last, heq, hlast⟩ := hends.ends
    obtain ⟨-, hlast'⟩ := List.append_inj' heq rfl
    cases hlast'
    exact not_known_inf hlast
  | cons u behind =>
    have hfollows : u.follows = true := (List.isChain_cons_cons.mp hchain).1
    have hbehind := (List.isChain_append.mp hends.isChain).2.1
    rw [List.map_cons, Token.reread_of_follows hfollows] at hbehind
    rcases (List.isChain_cons_cons.mp hbehind).1 with rfl | rfl | ⟨hknown, -⟩
    · cases hfollows
    · cases hfollows
    · exact not_known_inf hknown

/-! ## Canonical texts -/

/-- The text of tokens that form an expression is read as the expression if they fit into the
limits, and it is given up if they do not. -/
theorem Weighs.ofText_textOf (h : Weighs 1 tokens e w)
    (hlexical : ∀ token ∈ tokens, token.Lexical) (hfinite : ∀ x ∈ e.literals, x.isFinite = true) :
    (w.Fits maximumNesting maximumDepth → ofText (textOf tokens) = .ok e) ∧
      (¬w.Fits maximumNesting maximumDepth →
        ∃ position, ofText (textOf tokens) = .error (.tooDeep position)) := by
  obtain ⟨body, position, htokens, hread⟩ := Formula.ofText_textOf h.forms hlexical hfinite
  rw [← htokens] at h
  rw [hread]
  exact parse_of_weighs h

/-- What is read from a text fits into the limits with the tokens of this text. -/
theorem exists_weighs_of_ofText (h : ofText t = .ok e) :
    ∃ source w, Weighs 1 source e w ∧ w.Fits maximumNesting maximumDepth := by
  obtain ⟨body, position, hbody, hforms, -⟩ := exists_forms_of_ofText h
  obtain ⟨w, hw⟩ := hforms.exists_weighs
  refine ⟨_, w, hw, ?_⟩
  by_contra hfits
  obtain ⟨q, hdeep⟩ := (@parse_of_weighs e w body position hw).2 hfits
  have hread : ofText t = parse (body ++ [⟨.finish, position⟩]) := by
    rw [ofText, hbody]
    rfl
  rw [hread, hdeep] at h
  cases h

/-- The text of an expression with longer chains than there is room for is given up. -/
theorem tooDeep_toText (h : ofText t = .ok e) (hfinite : ∀ x ∈ e.literals, x.isFinite = true)
    (hload : maximumDepth < e.weight.load) :
    ∃ position, ofText e.toText = .error (.tooDeep position) := by
  obtain ⟨hforms, hlexical⟩ := canonical_of_ofText h
  have hweighs : Weighs 1 e.tokens e (e.weightAt 1) := hforms.weighs_canonical.part
  rw [e.toText_eq_textOf]
  refine (hweighs.ofText_textOf hlexical hfinite).2 fun hfits => ?_
  exact Nat.not_le_of_lt hload ((Expr.fits_weightAt e.precedence_pos).mp hfits).2

/-- The text of an expression that was read from a text is accepted if and only if all its literals
are finite and the chains in it, without the parentheses that are left out, have room. -/
theorem exists_ofText_toText_iff (h : ofText t = .ok e) :
    (∃ e', ofText e.toText = .ok e') ↔
      (∀ x ∈ e.literals, x.isFinite = true) ∧ e.weight.load ≤ maximumDepth := by
  obtain ⟨hforms, hlexical⟩ := canonical_of_ofText h
  constructor
  · rintro ⟨e', hread⟩
    have hfinite : ∀ x ∈ e.literals, x.isFinite = true := by
      intro x hx
      by_contra hinfinite
      rw [e.toText_eq_textOf] at hread
      obtain ⟨body, position, hbody, htokens⟩ := tokens_textOf hforms hlexical
      obtain ⟨body', position', hbody', hforms', -⟩ := exists_forms_of_ofText hread
      rw [hbody] at hbody'
      obtain ⟨rfl, -⟩ := List.append_inj' (Except.ok.inj hbody') rfl
      rw [htokens] at hforms'
      exact not_forms_reread hforms hlexical hx (Bool.eq_false_iff.mpr hinfinite) e' hforms'
    refine ⟨hfinite, ?_⟩
    by_contra hload
    obtain ⟨q, hdeep⟩ := tooDeep_toText h hfinite (Nat.lt_of_not_le hload)
    rw [hdeep] at hread
    cases hread
  · rintro ⟨hfinite, hload⟩
    have hweighs : Weighs 1 e.tokens e (e.weightAt 1) := hforms.weighs_canonical.part
    obtain ⟨source, w, hsource, hfits⟩ := exists_weighs_of_ofText h
    have hnesting : e.weight.nesting ≤ maximumNesting := by
      have hcanonical := Nat.le_trans hsource.nesting_le hfits.1
      rwa [Expr.nesting_weightAt, if_neg (Nat.not_lt_of_le e.precedence_pos)] at hcanonical
    refine ⟨e, ?_⟩
    rw [e.toText_eq_textOf]
    exact (hweighs.ofText_textOf hlexical hfinite).1
      ((Expr.fits_weightAt e.precedence_pos).mpr ⟨hnesting, hload⟩)

/-- A sum that was bracketed to the left is read again without its brackets. -/
theorem exists_ofText_toText_regrouped :
    ∃ e, ofText "((1+2)+3)" = .ok e ∧ e.toText = "1+2+3" ∧ e.weight.load = 2 ∧
      ((∃ e', ofText e.toText = .ok e') ↔
        (∀ x ∈ e.literals, x.isFinite = true) ∧ e.weight.load ≤ maximumDepth) := by
  obtain ⟨e, hread, htest⟩ := exists_ok_of_any (r := ofText "((1+2)+3)")
    (p := fun e => e.toText == "1+2+3" && e.weight.load == 2) (by decide +kernel)
  obtain ⟨htext, hload⟩ := Bool.and_eq_true_iff.mp htest
  exact ⟨e, hread, beq_iff_eq.mp htext, beq_iff_eq.mp hload, exists_ofText_toText_iff hread⟩

/-! ## Long chains -/

/-- The expression with `n` links to the truth value behind it. -/
def linked (op : BinaryOp) : (n : Nat) → Expr → Expr
  | 0, e => e
  | n + 1, e => .binary op (linked op n e) (.boolean true)

/-- The tokens of `n` links to the truth value. -/
def linkTokens (op : BinaryOp) (n : Nat) : List Token :=
  (List.replicate n [op.token, .name "TRUE"]).flatten

section Linked

variable {op : BinaryOp} {left : List Token}

private theorem linkTokens_succ (op : BinaryOp) (n : Nat) :
    linkTokens op (n + 1) = linkTokens op n ++ [op.token, .name "TRUE"] := by
  simp [linkTokens, List.replicate_succ']

private theorem weighs_true (hp : 1 ≤ p) (hle : p ≤ 7) :
    Weighs p [.name "TRUE"] (.boolean true) .none := by
  have hleaf := (Weighs.leaf (.boolean (spells_name true))).lower hp hle
  have hnone : (if p = 7 then Weight.none else Weight.none.whole) = .none := by split <;> rfl
  rwa [hnone] at hleaf

/-- The links of a chain need room for themselves only. -/
theorem Weighs.linked (h : Weighs op.precedence left e w) (n : Nat) :
    ∃ v, Weighs op.precedence (left ++ linkTokens op n) (linked op n e) v ∧
      v.nesting = w.nesting ∧ v.load ≤ max w.load (w.links + n) ∧ v.links = w.links + n := by
  induction n with
  | zero =>
    refine ⟨w, ?_, rfl, Nat.le_max_left _ _, rfl⟩
    rw [linkTokens, List.replicate_zero, List.flatten_nil, List.append_nil]
    exact h
  | succ n ih =>
    obtain ⟨v, hv, hnesting, hload, hlinks⟩ := ih
    have hlevel := op.precedence_le
    have hright : Weighs (op.precedence + 1) [.name "TRUE"] (.boolean true) .none :=
      weighs_true (Nat.le_add_left 1 _) (by omega)
    refine ⟨v.link .none, ?_, ?_, ?_, ?_⟩
    · rw [linkTokens_succ, ← List.append_assoc]
      exact .binary op hv hright
    · simp only [Weight.link, Weight.none]
      omega
    · simp only [Weight.link, Weight.none]
      omega
    · simp only [Weight.link]
      omega

private theorem lexical_of_mem_linkTokens {n : Nat} : ∀ token ∈ linkTokens op n, token.Lexical := by
  intro token htoken
  obtain ⟨pair, hpair, htoken⟩ := List.mem_flatten.mp htoken
  rw [List.eq_of_mem_replicate hpair, List.mem_cons, List.mem_singleton] at htoken
  rcases htoken with rfl | rfl
  · cases op <;> trivial
  · exact lexical_spelling true

/-- A chain on an expression has the numbers of the expression. -/
theorem literals_linked (op : BinaryOp) (n : Nat) (e : Expr) :
    (linked op n e).literals = e.literals := by
  induction n with
  | zero => rfl
  | succ n ih => simp [linked, Expr.literals, ih]

/-- A chain on a chain is one chain. -/
theorem linked_linked (op : BinaryOp) (m n : Nat) (e : Expr) :
    linked op n (linked op m e) = linked op (m + n) e := by
  induction n with
  | zero => rfl
  | succ n ih => rw [linked, ih, ← Nat.add_assoc, linked]

/-- A chain needs room for all its links. -/
theorem le_links_linked (op : BinaryOp) (n : Nat) (e : Expr) :
    n ≤ ((linked op n e).weightAt op.precedence).links := by
  induction n with
  | zero => exact Nat.zero_le _
  | succ n ih =>
    have hown : (linked op (n + 1) e).weightAt op.precedence =
        ((linked op n e).weightAt op.precedence).link
          ((Expr.boolean true).weightAt (op.precedence + 1)) := Expr.weightAt_precedence _
    rw [hown]
    exact Nat.succ_le_succ ih

/-- A chain loads the tree with its links. -/
theorem le_load_linked (op : BinaryOp) (n : Nat) (e : Expr) :
    n < (linked op (n + 1) e).weight.load := by
  have hlinks := le_links_linked op n e
  have hload : (linked op (n + 1) e).weight.load =
      max ((linked op n e).weightAt op.precedence).load
        (((linked op n e).weightAt op.precedence).links + 1 +
          ((Expr.boolean true).weightAt (op.precedence + 1)).load) := rfl
  omega

end Linked

/-- The tokens of a sum of 301 operands in parentheses to which 300 others are added. -/
def nestedSum : List Token :=
  .openParen :: ((.name "TRUE" :: linkTokens .add 300) ++ [.closeParen]) ++ linkTokens .add 300

private theorem lexical_of_mem_nestedSum : ∀ token ∈ nestedSum, token.Lexical := by
  have htrue : (Token.name "TRUE").Lexical := lexical_spelling true
  intro token htoken
  simp only [nestedSum, List.cons_append, List.mem_cons, List.mem_append, List.not_mem_nil,
    or_false] at htoken
  rcases htoken with rfl | rfl | (htoken | rfl) | htoken
  · trivial
  · exact htrue
  · exact lexical_of_mem_linkTokens token htoken
  · trivial
  · exact lexical_of_mem_linkTokens token htoken

/-- The nested sum is accepted, but its text without the parentheses is not: the links of the sum in
them are no longer counted when the others are read, and in the text they are all one chain. -/
theorem not_exists_ofText_toText :
    ∃ e, ofText (textOf nestedSum) = .ok e ∧ ¬∃ e', ofText e.toText = .ok e' := by
  have hone : Weighs BinaryOp.add.precedence [.name "TRUE"] (.boolean true) .none :=
    weighs_true (by decide) (by decide)
  obtain ⟨v, hinner, hnesting, hload, -⟩ := hone.linked 300
  have hbrackets := Weighs.parenthesised (hinner.lower (Nat.le_refl 1) (by decide))
  rw [if_neg (by decide)] at hbrackets
  have hoperand := hbrackets.lower (by decide : 1 ≤ BinaryOp.add.precedence) (by decide)
  rw [if_neg (by decide)] at hoperand
  obtain ⟨w, houter, hnesting', hload', -⟩ := hoperand.linked 300
  have hsource : Weighs 1 nestedSum (linked .add 600 (.boolean true)) w.whole := by
    rw [linked_linked] at houter
    exact houter.lower (Nat.le_refl 1) (by decide)
  have hfinite : ∀ x ∈ (linked .add 600 (.boolean true)).literals, x.isFinite = true := by
    rw [literals_linked]
    exact List.forall_mem_nil _
  have hfits : w.whole.Fits maximumNesting maximumDepth := by
    have hnone : Weight.none.nesting = 0 ∧ Weight.none.load = 0 ∧ Weight.none.links = 0 :=
      ⟨rfl, rfl, rfl⟩
    have hdeeper : v.whole.deeper.whole.nesting = v.nesting + 1 ∧
        v.whole.deeper.whole.load = v.load + 1 ∧ v.whole.deeper.whole.links = 0 := ⟨rfl, rfl, rfl⟩
    have hlimits : maximumNesting = 128 ∧ maximumDepth = 512 := ⟨rfl, rfl⟩
    rw [Weight.fits_whole]
    exact ⟨by omega, by omega⟩
  have hread := (hsource.ofText_textOf lexical_of_mem_nestedSum hfinite).1 hfits
  have hlong : maximumDepth < (linked .add 600 (.boolean true)).weight.load :=
    Nat.lt_of_le_of_lt (by decide : maximumDepth ≤ 599) (le_load_linked .add 599 (.boolean true))
  obtain ⟨q, hdeep⟩ := tooDeep_toText hread hfinite hlong
  refine ⟨_, hread, ?_⟩
  rintro ⟨e', hagain⟩
  rw [hdeep] at hagain
  cases hagain

end Spreadsheet.Formula
