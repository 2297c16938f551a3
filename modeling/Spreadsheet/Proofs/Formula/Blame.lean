import Spreadsheet.Proofs.Formula.Brackets

/-!
# What readers find wrong

The errors that a reader can find in its tokens, given the tokens before them. A parenthesis without
a partner is one of all these tokens, at its place. A token that stands where it cannot is one of
those that are read, at its place, unless it stands behind an entry of a table: it is then reported
at the place of the token behind it. Every reader finds only such errors where an operand is awaited
if the readers do that it calls, and the operands that lie deeper do by induction on the levels that
are left.
-/

namespace Spreadsheet.Formula

/-- The error is one that a reader may find in some tokens, given those before them: a parenthesis
is one of all these tokens, and a token is one of those that are read, at its place or, behind an
operand in a table, at that of the token behind it. -/
def Blames (before tokens : List Located) : SyntaxError → Prop
  | .unexpectedToken found position => ∃ used t behind, tokens = used ++ t :: behind ∧
      t.token = found ∧ found ≠ .finish ∧
        (InTable (before ++ used) ∧ position = here behind ∨
          ¬InTable (before ++ used) ∧ position = t.position)
  | .unmatchedParen position => ∃ t ∈ before ++ tokens, t.position = position ∧
      (t.token = .openParen ∨ t.token = .closeParen)
  | .unexpectedChar _ _ | .unterminatedText _ => False
  | _ => True

variable {p room : Nat} {e : Expr} {sheet : Option String}
  {before used tokens rest : List Located} {err : SyntaxError}

/-- A reader may have passed over some of the tokens. -/
theorem Blames.of_append (h : Blames (before ++ used) rest err) :
    Blames before (used ++ rest) err := by
  cases err with
  | unexpectedToken found position =>
    obtain ⟨used', t, behind, rfl, htoken, hne, hplace⟩ := h
    rw [List.append_assoc] at hplace
    exact ⟨used ++ used', t, behind, by simp, htoken, hne, hplace⟩
  | unmatchedParen position =>
    obtain ⟨t, ht, hplace⟩ := h
    rw [List.append_assoc] at ht
    exact ⟨t, ht, hplace⟩
  | unexpectedChar c position => exact h
  | unterminatedText position => exact h
  | _ => trivial

/-- A reader may have passed over the first token. -/
theorem Blames.of_cons {t : Located} (h : Blames (before ++ [t]) rest err) :
    Blames before (t :: rest) err :=
  of_append h

/-- The first token cannot stand here. -/
theorem blames_unexpected (h : ¬InTable before) : Blames before tokens (unexpected tokens) := by
  unfold unexpected
  split
  · trivial
  · trivial
  · rename_i token position behind hne
    exact ⟨[], ⟨token, position⟩, behind, rfl, rfl, hne, .inr ⟨by rwa [List.append_nil], rfl⟩⟩

/-- Two computations in a row fail if the first one does, or the second one behind it. -/
theorem bind_eq_error_iff {ε α β : Type} {r : Except ε α} {f : α → Except ε β} {err : ε} :
    r >>= f = .error err ↔ r = .error err ∨ ∃ a, r = .ok a ∧ f a = .error err := by
  cases r with
  | error err' =>
    constructor
    · intro h
      cases h
      exact .inl rfl
    · rintro (h | ⟨a, ha, -⟩)
      · cases h
        rfl
      · cases ha
  | ok a =>
    constructor
    · exact fun h => .inr ⟨a, rfl, h⟩
    · rintro (h | ⟨a', ha, h⟩)
      · cases h
      · obtain rfl := Except.ok.inj ha
        exact h

/-! ## Chains -/

/-- Where an operand is awaited, the reader finds only such errors. -/
def Blaming {α : Type} (read : Reader α) : Prop :=
  ∀ ⦃before tokens err⦄, Awaits before → read tokens = .error err → Blames before tokens err

variable {operand : Nat → Reader Expr} {left : Expr}

/-- A chain in which an error is found has a link, with the error in its operand or behind it, or
without room for it. -/
theorem chain_eq_error {operator : Token → Option BinaryOp}
    (h : chain operator operand room left tokens = .error err) :
    ∃ t op behind, tokens = t :: behind ∧ operator t.token = some op ∧
      ((∃ position, err = .tooDeep position) ∨
        ∃ room', room = room' + 1 ∧ (operand room' behind = .error err ∨
          ∃ right next, operand room' behind = .ok (right, next) ∧
            chain operator operand room' (.binary op left right) next = .error err)) := by
  cases tokens with
  | nil =>
    rw [chain_nil] at h
    cases h
  | cons t behind =>
    cases hop : operator t.token with
    | none =>
      rw [chain_of_none hop] at h
      cases h
    | some op =>
      refine ⟨t, op, behind, rfl, hop, ?_⟩
      cases room with
      | zero =>
        rw [chain_zero hop] at h
        cases h
        exact .inl ⟨_, rfl⟩
      | succ room =>
        rw [chain_succ hop, bind_eq_error_iff] at h
        obtain h | ⟨⟨right, next⟩, hright, h⟩ := h
        · exact .inr ⟨room, rfl, .inl h⟩
        · exact .inr ⟨room, rfl, .inr ⟨right, next, hright, h⟩⟩

private theorem BinaryOp.not_ends_token (op : BinaryOp) : ¬op.token.Ends := by
  cases op <;> exact id

private theorem UnaryOp.not_ends_token (op : UnaryOp) : ¬op.token.Ends := by
  cases op <;> exact id

/-- A chain of operators finds only such errors if its operands do. -/
theorem blames_of_chain (hsound : ∀ room, Sound (p + 1) (operand room))
    (h : ∀ room, Blaming (operand room))
    (hread : chain (operatorAt p) operand room left tokens = .error err) :
    Blames before tokens err := by
  induction room generalizing before tokens left with
  | zero =>
    obtain ⟨t, op, behind, rfl, -, ⟨position, rfl⟩ | ⟨room', hroom, -⟩⟩ := chain_eq_error hread
    · trivial
    · cases hroom
  | succ room ih =>
    obtain ⟨t, op, behind, rfl, hop, hcases⟩ := chain_eq_error hread
    obtain ⟨htoken, -⟩ := operatorAt_eq_some_iff.mp hop
    have hawaits : Awaits (before ++ [t]) := awaits_concat (htoken ▸ op.not_ends_token)
    refine .of_cons ?_
    obtain ⟨position, rfl⟩ | ⟨room', hroom, hcases⟩ := hcases
    · trivial
    · obtain rfl := Nat.succ.inj hroom
      obtain hright | ⟨right, next, hright, hchain⟩ := hcases
      · exact h room hawaits hright
      · obtain ⟨used, rfl, -⟩ := hsound room hright
        exact .of_append (ih hchain)

private theorem blaming_level (hsound : ∀ room, Sound (p + 1) (operand room))
    (h : ∀ room, Blaming (operand room)) (room : Nat) :
    Blaming (level (operatorAt p) operand room) := by
  intro before tokens err hbefore hread
  rw [level, bind_eq_error_iff] at hread
  obtain hleft | ⟨⟨left, behind⟩, hleft, hchain⟩ := hread
  · exact h room hbefore hleft
  · obtain ⟨used, rfl, -⟩ := hsound room hleft
    exact .of_append (blames_of_chain hsound h hchain)

private theorem blaming_tower (hsound : ∀ room, Sound 6 (operand room))
    (h : ∀ room, Blaming (operand room)) {height : Nat} (hheight : height ≤ 5) (room : Nat) :
    Blaming (tower operand height room) := by
  induction height generalizing room with
  | zero => exact h room
  | succ height ih =>
    have hle : height ≤ 5 := Nat.le_of_succ_le hheight
    have hnext : 5 - height + 1 = 6 - height := by omega
    refine blaming_level (fun room => ?_) (ih hle) room
    rw [hnext]
    exact sound_tower hsound hle room

/-- Expressions that fail blame a token, given that their operands do. -/
theorem blaming_expression (hsound : ∀ room, Sound 6 (operand room))
    (h : ∀ room, Blaming (operand room)) (room : Nat) : Blaming (expression operand room) := by
  rw [expression_eq_tower]
  exact blaming_tower hsound h (Nat.le_refl 5) room

/-! ## References -/

variable {label name : String} {first : Reference} {position openedAt : Nat}

private theorem reference_eq_error (h : reference sheet label = .error err) :
    err = .invalidReference label := by
  unfold reference at h
  split at h
  · dsimp only at h
    split at h
    · cases h
      rfl
    · split at h <;> cases h
      rfl
  · cases h
    rfl

private theorem blames_of_reference (h : reference sheet label = .error err) :
    Blames before tokens err := by
  rw [reference_eq_error h]
  trivial

private theorem blames_of_rangeTail (h : rangeTail first tokens = .error err) :
    Blames before tokens err := by
  unfold rangeTail at h
  split at h
  · split at h
    · cases h
      trivial
    · cases h
      trivial
    · rw [bind_eq_error_iff] at h
      obtain h | ⟨corner, -, h⟩ := h
      · exact blames_of_reference h
      · cases h
    · cases h
      trivial
  · cases h

private theorem blames_of_qualified_exclamation {s : String}
    (h : qualified s (⟨.exclamation, position⟩ :: rest) = .error err) :
    Blames before (⟨.exclamation, position⟩ :: rest) err := by
  refine .of_cons ?_
  unfold qualified at h
  dsimp only at h
  split at h
  · cases h
    trivial
  · cases h
    trivial
  · rename_i label position' behind
    refine .of_cons ?_
    rw [bind_eq_error_iff] at h
    obtain h | ⟨first, -, h⟩ := h
    · exact blames_of_reference h
    · exact blames_of_rangeTail h
  · cases h
    trivial

/-- Behind the name of a sheet nothing but an exclamation mark may stand. -/
theorem blames_of_qualified {s : String} (hbefore : ¬InTable before)
    (h : qualified s tokens = .error err) : Blames before tokens err := by
  unfold qualified at h
  split at h
  · exact blames_of_qualified_exclamation h
  · cases h
    exact blames_unexpected hbefore

/-! ## Calls and tables -/

/-- The next entry of a call or a table is awaited. -/
structure Within (opening : Located) (before : List Located) : Prop where
  /-- An operand may stand here. -/
  awaits : Awaits before
  /-- The innermost bracket that is open is that of the call or table. -/
  bracket : (openBrackets (before.map Located.token)).head? = some opening.token
  /-- This bracket is among the tokens before. -/
  mem : opening ∈ before

variable {opening : Located} {separator : Token} {item : Reader Expr} {limit : Nat}

private theorem within_opening (before : List Located)
    (h : opening.token = .openParen ∨ opening.token = .openBrace) :
    Within opening (before ++ [opening]) where
  awaits := awaits_concat (by rcases h with h | h <;> rw [h] <;> exact id)
  bracket := by
    rw [openBrackets, List.map_append, List.foldl_append]
    rcases h with h | h <;> simp [h, Token.bracket]
  mem := List.mem_append_right before List.mem_cons_self

namespace Within

/-- Behind an entry the same bracket is open. -/
theorem bracket_append (h : Within opening before) (hused : Forms p (used.map Located.token) e) :
    (openBrackets ((before ++ used).map Located.token)).head? = some opening.token := by
  rw [List.map_append, openBrackets_append hused.balanced, h.bracket]

/-- Behind an entry and a separator the next entry is awaited. -/
theorem next (h : Within opening before) (hused : Forms p (used.map Located.token) e)
    (hseparator : separator = .comma ∨ separator = .semicolon) (position : Nat) :
    Within opening (before ++ used ++ [⟨separator, position⟩]) where
  awaits := awaits_concat (by rcases hseparator with rfl | rfl <;> exact id)
  bracket := by
    have hbalanced : Balanced [separator] := by
      rcases hseparator with rfl | rfl <;> exact fun _ => rfl
    rw [List.map_append, List.map_singleton, openBrackets_append hbalanced]
    exact h.bracket_append hused
  mem := by
    rw [List.append_assoc]
    exact List.mem_append_left _ h.mem

/-- The parenthesis of the call has no partner. -/
theorem blames_unmatchedParen (h : Within ⟨.openParen, openedAt⟩ before) :
    Blames before tokens (.unmatchedParen openedAt) :=
  ⟨_, List.mem_append_left _ h.mem, rfl, .inl rfl⟩

end Within

/-- Arguments find only such errors if each of them does. -/
theorem blames_of_arguments (hsound : Sound 1 item) (hitem : Blaming item)
    (h : Within ⟨.openParen, openedAt⟩ before)
    (hread : arguments item openedAt limit tokens = .error err) : Blames before tokens err := by
  induction limit generalizing before tokens with
  | zero =>
    rw [arguments] at hread
    cases hread
    exact blames_unexpected h.awaits.not_inTable
  | succ limit ih =>
    rw [arguments, bind_eq_error_iff] at hread
    obtain hread | ⟨⟨arg, behind⟩, harg, hread⟩ := hread
    · exact hitem h.awaits hread
    · obtain ⟨used, rfl, hforms⟩ := hsound harg
      dsimp only at hread
      split at hread
      · cases hread
        exact h.blames_unmatchedParen
      · cases hread
        exact h.blames_unmatchedParen
      · cases hread
      · rename_i position behind
        rw [bind_eq_error_iff] at hread
        obtain hread | ⟨_, -, hread⟩ := hread
        · have hnext := ih (h.next hforms (.inl rfl) position) hread
          exact .of_append (.of_cons hnext)
        · cases hread
      · cases hread
        refine .of_append (blames_unexpected fun htable => ?_)
        have hbracket := htable.brace
        rw [h.bracket_append hforms] at hbracket
        cases hbracket

private theorem blames_of_call (hsound : Sound 1 item) (hitem : Blaming item)
    (h : Within ⟨.openParen, openedAt⟩ before)
    (hread : call item name openedAt tokens = .error err) : Blames before tokens err := by
  unfold call at hread
  split at hread
  · cases hread
  · rw [bind_eq_error_iff] at hread
    obtain hread | ⟨_, -, hread⟩ := hread
    · exact blames_of_arguments hsound hitem h hread
    · cases hread

/-- A token that can stand nowhere behind an entry of a table is reported at the place of the one
behind it. -/
theorem Within.blames_unexpectedToken {token : Token} (h : Within ⟨.openBrace, openedAt⟩ before)
    (hused : Forms p (used.map Located.token) e) (htoken : token ≠ .finish) :
    Blames (before ++ used) (⟨token, position⟩ :: rest) (.unexpectedToken token (here rest)) := by
  refine ⟨[], ⟨token, position⟩, rest, rfl, rfl, htoken, .inl ⟨⟨?_, ?_⟩, rfl⟩⟩
  · rw [List.append_nil]
    exact h.bracket_append hused
  · rw [List.append_nil]
    obtain ⟨front, last, heq, hends⟩ := hused.unbroken.ends
    obtain ⟨front', last', rfl, -, hlast⟩ := List.map_eq_append_iff.mp heq
    obtain ⟨u, rfl, rfl⟩ := List.map_eq_singleton_iff.mp hlast
    refine ⟨u, ?_, hends⟩
    rw [← List.append_assoc, List.getLast?_concat]
    rfl

/-- Rows find only such errors if each of their items does. -/
theorem blames_of_tableRows (hsound : Sound 1 item) (hitem : Blaming item)
    (h : Within ⟨.openBrace, openedAt⟩ before)
    (hread : tableRows item limit tokens = .error err) : Blames before tokens err := by
  induction limit generalizing before tokens with
  | zero =>
    rw [tableRows] at hread
    cases hread
    exact blames_unexpected h.awaits.not_inTable
  | succ limit ih =>
    rw [tableRows, bind_eq_error_iff] at hread
    obtain hread | ⟨⟨first, behind⟩, hfirst, hread⟩ := hread
    · exact hitem h.awaits hread
    · obtain ⟨used, rfl, hforms⟩ := hsound hfirst
      dsimp only at hread
      split at hread
      · cases hread
        trivial
      · cases hread
        trivial
      · cases hread
      · rename_i position behind
        rw [bind_eq_error_iff] at hread
        obtain hread | ⟨_, -, hread⟩ := hread
        · have hnext := ih (h.next hforms (.inl rfl) position) hread
          exact .of_append (.of_cons hnext)
        · cases hread
      · rename_i position behind
        rw [bind_eq_error_iff] at hread
        obtain hread | ⟨_, -, hread⟩ := hread
        · have hnext := ih (h.next hforms (.inr rfl) position) hread
          exact .of_append (.of_cons hnext)
        · cases hread
      · rename_i token position behind hfinish _ _ _
        cases hread
        exact .of_append (h.blames_unexpectedToken hforms hfinish)

private theorem blames_of_table (hsound : Sound 1 item) (hitem : Blaming item)
    (h : Within ⟨.openBrace, openedAt⟩ before)
    (hread : table item tokens = .error err) : Blames before tokens err := by
  unfold table at hread
  split at hread
  · cases hread
  · rw [bind_eq_error_iff] at hread
    obtain hread | ⟨_, -, hread⟩ := hread
    · exact blames_of_tableRows hsound hitem h hread
    · cases hread

/-! ## Operands -/

/-- The readers for what stands one level deeper find only such errors. -/
def BlamingInside (inside : Option Inside) : Prop :=
  ∀ readers ∈ inside, Blaming readers.operand ∧ Blaming readers.expression

private theorem deeper_eq_error {α : Type} {inside : Option Inside}
    {read : Inside → Except SyntaxError (α × List Located)}
    (h : deeper inside tokens read = .error err) :
    (∃ position, err = .tooDeep position) ∨
      ∃ readers, inside = some readers ∧ read readers = .error err := by
  cases inside with
  | none =>
    cases h
    exact .inl ⟨_, rfl⟩
  | some readers => exact .inr ⟨readers, rfl, h⟩

variable {inside : Option Inside}

/-- The name itself is the last one of the tokens before. -/
theorem blames_of_named (hsound : SoundInside inside) (hinside : BlamingInside inside)
    (hread : named inside name tokens = .error err) : Blames before tokens err := by
  unfold named at hread
  split at hread
  · rename_i openedAt behind
    refine .of_cons ?_
    obtain ⟨position, rfl⟩ | ⟨readers, hreaders, hread⟩ := deeper_eq_error hread
    · trivial
    · exact blames_of_call (hsound readers hreaders).2 (hinside readers hreaders).2
        (within_opening before (.inl rfl)) hread
  · exact blames_of_qualified_exclamation hread
  · split at hread
    · cases hread
    · split at hread
      · rw [bind_eq_error_iff] at hread
        obtain hread | ⟨first, -, hread⟩ := hread
        · exact blames_of_reference hread
        · exact blames_of_rangeTail hread
      · cases hread
        trivial

private theorem blames_of_parenthesised (hinside : BlamingInside inside)
    (h : Within ⟨.openParen, openedAt⟩ before)
    (hread : parenthesised inside openedAt tokens = .error err) : Blames before tokens err := by
  unfold parenthesised at hread
  rw [bind_eq_error_iff] at hread
  obtain hread | ⟨⟨inner, behind⟩, -, hread⟩ := hread
  · obtain ⟨position, rfl⟩ | ⟨readers, hreaders, hread⟩ := deeper_eq_error hread
    · trivial
    · exact (hinside readers hreaders).2 h.awaits hread
  · dsimp only at hread
    split at hread
    · cases hread
    · cases hread
      exact h.blames_unmatchedParen

private theorem blaming_primary (hsound : SoundInside inside) (hinside : BlamingInside inside) :
    Blaming (primary inside) := by
  intro before tokens err hbefore hread
  unfold primary at hread
  split at hread
  · cases hread
  · cases hread
  · rename_i openedAt behind
    refine .of_cons ?_
    exact blames_of_parenthesised hinside (within_opening before (.inl rfl)) hread
  · rename_i openedAt behind
    refine .of_cons ?_
    obtain ⟨position, rfl⟩ | ⟨readers, hreaders, hread⟩ := deeper_eq_error hread
    · trivial
    · exact blames_of_table (hsound readers hreaders).2 (hinside readers hreaders).2
        (within_opening before (.inr rfl)) hread
  · rename_i sheet position behind
    refine .of_cons ?_
    exact blames_of_qualified (awaits_concat id).not_inTable hread
  · rename_i name position behind
    exact .of_cons (blames_of_named hsound hinside hread)
  · cases hread
    exact blames_unexpected hbefore.not_inTable

private theorem blaming_signed (hsound : SoundInside inside) (hinside : BlamingInside inside) :
    Blaming (signed inside) := by
  intro before tokens err hbefore hread
  cases tokens with
  | nil => exact blaming_primary hsound hinside hbefore hread
  | cons t tokens =>
    unfold signed at hread
    dsimp only at hread
    split at hread
    · exact blaming_primary hsound hinside hbefore hread
    · rename_i op hop
      have hsign : ¬t.token.Ends := by
        rw [sign?_eq_some_iff.mp hop]
        exact op.not_ends_token
      refine .of_cons ?_
      rw [bind_eq_error_iff] at hread
      obtain hread | ⟨_, -, hread⟩ := hread
      · obtain ⟨position, rfl⟩ | ⟨readers, hreaders, hread⟩ := deeper_eq_error hread
        · trivial
        · exact (hinside readers hreaders).1 (awaits_concat hsign) hread
      · cases hread

private theorem soundInside_insideOf (nest room : Nat) : SoundInside (insideOf nest room) := by
  intro readers hreaders
  cases nest with
  | zero => cases hreaders
  | succ nest =>
    cases room with
    | zero => cases hreaders
    | succ room =>
      obtain rfl := Option.some.inj hreaders
      exact ⟨sound_operand nest room, sound_expression (sound_operand nest) room⟩

/-- By induction on the levels that are left. -/
theorem blaming_operand (nest room : Nat) : Blaming (Formula.operand nest room) := by
  induction nest generalizing room with
  | zero =>
    rw [operand_eq_signed]
    exact blaming_signed (soundInside_insideOf 0 room) nofun
  | succ nest ih =>
    rw [operand_eq_signed]
    refine blaming_signed (soundInside_insideOf (nest + 1) room) fun readers hreaders => ?_
    cases room with
    | zero => cases hreaders
    | succ room =>
      obtain rfl := Option.some.inj hreaders
      exact ⟨ih room, blaming_expression (sound_operand nest) ih room⟩

/-! ## The whole formula -/

/-- The error of a refused text is one that a reader may find in its tokens. -/
theorem blames_of_parse {found : List Located} (hread : parse found = .error err) :
    Blames [] (closed found) err := by
  rw [parse_eq, bind_eq_error_iff] at hread
  have hsound := sound_expression (sound_operand maximumNesting) maximumDepth
  obtain hread | ⟨⟨e, rest⟩, hexpression, hread⟩ := hread
  · have hblaming := blaming_expression (sound_operand maximumNesting)
      (blaming_operand maximumNesting) maximumDepth
    exact hblaming (fun t ht => by cases ht) hread
  · obtain ⟨used, heq, hforms⟩ := hsound hexpression
    rw [heq]
    dsimp only at hread
    split at hread
    · cases hread
    · cases hread
    · rename_i position behind
      cases hread
      exact ⟨⟨.closeParen, position⟩, by simp, rfl, .inr rfl⟩
    · cases hread
      refine .of_append (blames_unexpected fun htable => ?_)
      have hbrace := htable.brace
      rw [List.nil_append, ← List.nil_append (used.map Located.token),
        openBrackets_append hforms.balanced] at hbrace
      cases hbrace

/-- The second mark of the end plays no part in errors. -/
theorem Blames.of_concat {body : List Located} {last : Located} (hlast : last.token = .finish)
    (h : Blames before (body ++ [⟨.finish, position⟩] ++ [last]) err) :
    Blames before (body ++ [⟨.finish, position⟩]) err := by
  cases err with
  | unexpectedToken found place =>
    obtain ⟨used, t, behind, heq, rfl, hne, hplace⟩ := h
    obtain rfl | ⟨behind, end', rfl⟩ := List.eq_nil_or_concat behind
    · obtain ⟨-, hend⟩ := List.append_inj' heq rfl
      obtain rfl := List.singleton_inj.mp hend
      exact absurd hlast hne
    · rw [List.concat_eq_append, ← List.cons_append, ← List.append_assoc] at heq
      obtain ⟨hfront, -⟩ := List.append_inj' heq rfl
      refine ⟨used, t, behind, hfront, rfl, hne, ?_⟩
      cases behind with
      | nil =>
        obtain ⟨-, hend⟩ := List.append_inj' hfront rfl
        obtain rfl := List.singleton_inj.mp hend
        exact absurd rfl hne
      | cons u behind => exact hplace
  | unmatchedParen place =>
    obtain ⟨t, ht, hplace, hparen⟩ := h
    rw [← List.append_assoc, List.mem_append, List.mem_singleton] at ht
    obtain ht | rfl := ht
    · exact ⟨t, ht, hplace, hparen⟩
    · rw [hlast] at hparen
      rcases hparen with hparen | hparen <;> cases hparen
  | unexpectedChar c place => exact h
  | unterminatedText place => exact h
  | _ => trivial

end Spreadsheet.Formula
