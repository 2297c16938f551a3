import Spreadsheet.Proofs.Formula.Adjacency
import Spreadsheet.Proofs.Formula.Canonical

/-!
# Written tokens are read back

What the reader of tokens makes of a text that was put together from tokens. A token ends where
something follows that cannot continue it, so a sequence of tokens without spaces is read as these
tokens if its neighbours may stand side by side in an expression. An infinite number is the one
token whose text is that of another: it is written as a name.
-/

namespace Spreadsheet.Formula

/-! ## Characters of names -/

/-- A letter or an underscore is neither white space nor the start of any other token. -/
theorem code_of_startsName {c : Char} (h : startsName c = true) :
    (65 ≤ c.toNat ∧ c.toNat ≤ 90) ∨ (97 ≤ c.toNat ∧ c.toNat ≤ 122) ∨ c.toNat = 95 := by
  rcases Bool.or_eq_true_iff.mp h with hletter | hmark
  · rcases Bool.or_eq_true_iff.mp hletter with hupper | hlower
    · exact .inl (of_decide_eq_true hupper)
    · obtain ⟨hleast, hgreatest⟩ := Bool.and_eq_true_iff.mp hlower
      exact .inr (.inl ⟨of_decide_eq_true hleast, of_decide_eq_true hgreatest⟩)
  · rw [beq_iff_eq.mp hmark]
    exact .inr (.inr rfl)

/-- The codes of the digits. -/
theorem code_of_isDigit {c : Char} (h : Number.isDigit c = true) :
    48 ≤ c.toNat ∧ c.toNat ≤ 57 := by
  obtain ⟨hleast, hgreatest⟩ := Bool.and_eq_true_iff.mp h
  exact ⟨of_decide_eq_true hleast, of_decide_eq_true hgreatest⟩

/-- Characters with codes from 33 to 132 are no white space. -/
theorem isBlank_eq_false {c : Char} (hleast : 33 ≤ c.toNat) (hgreatest : c.toNat ≤ 132) :
    Text.isBlank c = false := by
  by_contra hblank
  rw [Bool.not_eq_false, Text.isBlank, Text.Ranges.contains_iff] at hblank
  obtain ⟨range, hrange, hlow, hhigh⟩ := hblank
  simp only [Text.blankRanges, List.mem_cons, List.not_mem_nil, or_false] at hrange
  rcases hrange with rfl | rfl | rfl | rfl | rfl | rfl | rfl | rfl | rfl | rfl <;> omega

/-- Digits and letters are no tokens of one character. -/
theorem ofChar?_eq_none {c : Char} (h : 48 ≤ c.toNat ∧ c.toNat ≤ 57 ∨ startsName c = true) :
    Token.ofChar? c = none := by
  have hcode : 48 ≤ c.toNat ∧ c.toNat ≤ 57 ∨ 65 ≤ c.toNat ∧ c.toNat ≤ 90 ∨
      97 ≤ c.toNat ∧ c.toNat ≤ 122 ∨ c.toNat = 95 :=
    h.imp_right code_of_startsName
  unfold Token.ofChar?
  split
  case h_16 => rfl
  all_goals exact absurd hcode (by decide)

/-- A name is taken as far as it goes. -/
theorem takeToken_of_startsName {c : Char} (h : startsName c = true) (position : Nat)
    (cs : List Char) :
    takeToken position c cs =
      .ok (.name (String.ofList (c :: cs.takeWhile continuesName)),
        cs.dropWhile continuesName) := by
  have hcode := code_of_startsName h
  have hne : ∀ d : Char, d.toNat < 65 → c ≠ d := by
    rintro d hd rfl
    omega
  have hdigit : (Number.isDigit c || c == '.') = false := by
    rw [Bool.or_eq_false_iff]
    refine ⟨?_, beq_eq_false_iff_ne.mpr (hne '.' (by decide))⟩
    by_contra hc
    have := code_of_isDigit (by simpa using hc)
    omega
  rw [takeToken, ofChar?_eq_none (.inr h)]
  simp only [hne '<' (by decide), hne '>' (by decide), hne '"' (by decide),
    hne '\x27' (by decide), hdigit, h, if_false, if_true, Bool.false_eq_true]

/-- A digit starts a number. -/
theorem takeToken_of_isDigit {c : Char} (h : Number.isDigit c = true) (position : Nat)
    (cs : List Char) : takeToken position c cs = takeNumber (c :: cs) := by
  have hcode := code_of_isDigit h
  have hne : ∀ d : Char, d.toNat < 48 ∨ 57 < d.toNat → c ≠ d := by
    rintro d hd rfl
    omega
  rw [takeToken, ofChar?_eq_none (.inl hcode)]
  simp only [hne '<' (by decide), hne '>' (by decide), hne '"' (by decide),
    hne '\x27' (by decide), h, if_false, if_true, Bool.true_or]

/-! ## Quotations -/

/-- Every character but the delimiter stands for itself in a quotation. -/
theorem takeDelimited_cons_of_ne {delimiter c : Char} (hc : c ≠ delimiter) {cs : List Char}
    (hne : cs ≠ []) :
    takeDelimited delimiter (c :: cs) =
      (takeDelimited delimiter cs).map fun (inner, rest) => (c :: inner, rest) := by
  obtain ⟨d, ds, rfl⟩ := List.exists_cons_of_ne_nil hne
  rw [takeDelimited, if_neg hc]

/-- A quoted text is read up to its closing delimiter. -/
theorem takeDelimited_doubled {delimiter : Char} (cs : List Char) {rest : List Char}
    (hrest : ∀ c ∈ rest.head?, c ≠ delimiter) :
    takeDelimited delimiter (doubled delimiter cs ++ delimiter :: rest) = some (cs, rest) := by
  induction cs with
  | nil =>
    cases rest with
    | nil => simp [doubled, takeDelimited]
    | cons c rest => simp [doubled, takeDelimited, hrest c rfl]
  | cons c cs ih =>
    by_cases hc : c = delimiter
    · subst hc
      have hfront : doubled c (c :: cs) = c :: c :: doubled c cs := by simp [doubled]
      rw [hfront, List.cons_append, List.cons_append, takeDelimited, if_pos rfl, if_pos rfl, ih]
      rfl
    · have hfront : doubled delimiter (c :: cs) = c :: doubled delimiter cs := by
        simp [doubled, hc]
      rw [hfront, List.cons_append, takeDelimited_cons_of_ne hc (by simp), ih]
      rfl

/-! ## Tokens by themselves -/

/-- The character may stand behind the text of the token without belonging to it. -/
def Token.stopsBefore : Token → Char → Bool
  | .number _, c | .name _, c => !continuesName c
  | .text _, c => c != '"'
  | .quotedName _, c => c != '\x27'
  | .less, c => c != '=' && c != '>'
  | .greater, c => c != '='
  | _, _ => true

/-- The text of the first token is read as the second one, whatever it is followed by that does not
belong to it. -/
def Token.ReadAs (t u : Token) : Prop :=
  ∀ rest : List Char, (∀ c ∈ rest.head?, t.stopsBefore c = true) →
    ∃ c cs, t.render ++ rest = c :: cs ∧ Text.isBlank c = false ∧
      ∀ position, takeToken position c cs = .ok (u, rest)

/-- The text of the number is read as this number. -/
def ReadsBack (x : Float) : Prop :=
  (Token.number x).ReadAs (.number x)

namespace Token.ReadAs

/-- A token of a single character. -/
theorem single {t : Token} {c : Char} (hrender : t.render = [c]) (htoken : ofChar? c = some t)
    (hblank : Text.isBlank c = false) : t.ReadAs t := by
  intro rest _
  refine ⟨c, rest, by rw [hrender, List.singleton_append], hblank, fun position => ?_⟩
  rw [takeToken, htoken]

/-- The sign for less is read as it is. -/
theorem less : Token.less.ReadAs .less := by
  intro rest hrest
  refine ⟨'<', rest, rfl, rfl, fun position => ?_⟩
  cases rest with
  | nil => rfl
  | cons c rest =>
    have hc := hrest c rfl
    simp only [stopsBefore, Bool.and_eq_true, bne_iff_ne, ne_eq] at hc
    have htake : takeLess (c :: rest) = (.less, c :: rest) := by
      rw [takeLess.eq_3]
      · rintro cs heq
        exact hc.2 (List.cons.inj heq).1
      · rintro cs heq
        exact hc.1 (List.cons.inj heq).1
    exact congrArg Except.ok htake

/-- The sign for greater is read as it is. -/
theorem greater : Token.greater.ReadAs .greater := by
  intro rest hrest
  refine ⟨'>', rest, rfl, rfl, fun position => ?_⟩
  cases rest with
  | nil => rfl
  | cons c rest =>
    have hc := hrest c rfl
    simp only [stopsBefore, bne_iff_ne, ne_eq] at hc
    have htake : takeGreater (c :: rest) = (.greater, c :: rest) := by
      rw [takeGreater.eq_2]
      rintro cs heq
      exact hc (List.cons.inj heq).1
    exact congrArg Except.ok htake

/-- A text is read as it is. -/
theorem text (s : String) : (Token.text s).ReadAs (.text s) := by
  intro rest hrest
  have hstop : ∀ c ∈ rest.head?, c ≠ '"' := fun c hc => bne_iff_ne.mp (hrest c hc)
  refine ⟨'"', doubled '"' s.toList ++ '"' :: rest, by simp [render, delimited], rfl,
    fun position => ?_⟩
  have hchar : ofChar? '"' = none := rfl
  simp [takeToken, hchar, takeDelimited_doubled s.toList hstop]

/-- A quoted name is read as it is. -/
theorem quotedName (s : String) : (Token.quotedName s).ReadAs (.quotedName s) := by
  intro rest hrest
  have hstop : ∀ c ∈ rest.head?, c ≠ '\x27' := fun c hc => bne_iff_ne.mp (hrest c hc)
  refine ⟨'\x27', doubled '\x27' s.toList ++ '\x27' :: rest, by simp [render, delimited], rfl,
    fun position => ?_⟩
  have hchar : ofChar? '\x27' = none := rfl
  simp [takeToken, hchar, takeDelimited_doubled s.toList hstop]

/-- A token that is written as the name is read as the name. -/
theorem name {t : Token} {s : String} {c : Char} {cs : List Char} (hrender : t.render = s.toList)
    (hstop : ∀ d, t.stopsBefore d = !continuesName d) (hs : s.toList = c :: cs)
    (hc : startsName c = true) (hcs : ∀ d ∈ cs, continuesName d = true) :
    t.ReadAs (.name s) := by
  intro rest hrest
  have hcode := code_of_startsName hc
  have hend : ∀ d ∈ rest.head?, continuesName d = false := by
    intro d hd
    have := hrest d hd
    rw [hstop] at this
    simpa using this
  obtain ⟨htake, hdrop⟩ := Number.takeWhile_dropWhile_append hcs hend
  refine ⟨c, cs ++ rest, by rw [hrender, hs, List.cons_append],
    isBlank_eq_false (by omega) (by omega), fun position => ?_⟩
  rw [takeToken_of_startsName hc, htake, hdrop, ← hs, String.ofList_toList]

end Token.ReadAs

/-! ## What the reader of tokens finds -/

/-- The token can be read from some text: a name is made of the characters of names, and a number of
decimal digits. -/
def Token.Lexical : Token → Prop
  | .number x => ∃ digits exponent, x = Number.ofDecimal digits exponent
  | .name s => ∃ c cs, s.toList = c :: cs ∧ startsName c = true ∧ ∀ d ∈ cs, continuesName d = true
  | .finish => False
  | _ => True

/-- Tokens of one character can be read. -/
theorem lexical_of_ofChar? {c : Char} {t : Token} (h : Token.ofChar? c = some t) : t.Lexical := by
  unfold Token.ofChar? at h
  split at h <;> cases h <;> trivial

/-- Signs that start with that for less can be read. -/
theorem lexical_takeLess (cs : List Char) : (takeLess cs).1.Lexical := by
  unfold takeLess
  split <;> trivial

/-- Signs that start with that for greater can be read. -/
theorem lexical_takeGreater (cs : List Char) : (takeGreater cs).1.Lexical := by
  unfold takeGreater
  split <;> trivial

/-- Numbers that are taken can be read. -/
theorem lexical_of_takeNumber {cs rest : List Char} {t : Token}
    (h : takeNumber cs = .ok (t, rest)) : t.Lexical := by
  simp only [takeNumber] at h
  split at h
  · cases h
  · cases h
    exact ⟨_, _, rfl⟩

/-- Whatever token a text starts with can be read from some text. -/
theorem lexical_of_takeToken {position : Nat} {c : Char} {cs rest : List Char} {t : Token}
    (h : takeToken position c cs = .ok (t, rest)) : t.Lexical := by
  unfold takeToken at h
  split at h
  · rename_i token htoken
    cases h
    exact lexical_of_ofChar? htoken
  · split at h
    · have hless := lexical_takeLess cs
      rw [Except.ok.inj h] at hless
      exact hless
    · split at h
      · have hgreater := lexical_takeGreater cs
        rw [Except.ok.inj h] at hgreater
        exact hgreater
      · split at h
        · split at h <;> cases h
          trivial
        · split at h
          · split at h <;> cases h
            trivial
          · split at h
            · exact lexical_of_takeNumber h
            · split at h
              · rename_i hname
                cases h
                exact ⟨c, cs.takeWhile continuesName, String.toList_ofList, hname,
                  fun d hd => List.all_eq_true.mp List.all_takeWhile d hd⟩
              · cases h

/-- The tokens of a text end with their one mark of the end, and the others can be read. -/
theorem lexical_of_tokensFrom {position : Nat} {cs : List Char} {found : List Located}
    (h : tokensFrom position cs = .ok found) :
    ∃ body position', found = body ++ [⟨.finish, position'⟩] ∧ ∀ t ∈ body, t.token.Lexical := by
  induction position, cs using tokensFrom.induct generalizing found with
  | case1 position =>
    rw [tokensFrom] at h
    cases h
    exact ⟨[], position, rfl, List.forall_mem_nil _⟩
  | case2 position c cs hblank ih =>
    rw [tokensFrom, if_pos hblank] at h
    exact ih h
  | case3 position c cs hblank e htake =>
    rw [tokensFrom, if_neg hblank] at h
    split at h
    · cases h
    · rename_i heq
      rw [htake] at heq
      cases heq
  | case4 position c cs hblank token rest htake hle e hrest ih =>
    rw [tokensFrom, if_neg hblank] at h
    split at h
    · cases h
    · rename_i heq
      rw [htake] at heq
      cases heq
      rw [hrest] at h
      cases h
  | case5 position c cs hblank token rest htake hle tokens hrest ih =>
    rw [tokensFrom, if_neg hblank] at h
    split at h
    · cases h
    · rename_i heq
      rw [htake] at heq
      cases heq
      rw [hrest] at h
      cases h
      obtain ⟨body, position', rfl, hbody⟩ := ih hrest
      exact ⟨⟨token, position⟩ :: body, position', rfl,
        List.forall_mem_cons.mpr ⟨lexical_of_takeToken htake, hbody⟩⟩

/-! ## Sequences of tokens -/

/-- What the text of a token is read as. -/
def Token.reread : Token → Token
  | .number x => if x.isFinite then .number x else .name (numberText x)
  | t => t

/-- A token that is taken comes in front of those behind it. -/
theorem tokensFrom_cons {position : Nat} {c : Char} {cs rest : List Char} {t : Token}
    {found : List Located} (hblank : Text.isBlank c = false)
    (h : takeToken position c cs = .ok (t, rest))
    (hrest : tokensFrom (position + ((c :: cs).length - rest.length)) rest = .ok found) :
    tokensFrom position (c :: cs) = .ok (⟨t, position⟩ :: found) := by
  rw [tokensFrom, if_neg (by simp [hblank])]
  split
  · rename_i heq
    rw [h] at heq
    cases heq
  · rename_i heq
    rw [h] at heq
    cases heq
    rw [hrest]

variable {t u : Token}

/-- What stands behind a word or a quotation does not go on with it. -/
theorem not_continuesName_of_mem_head?
    (h : u.follows = true ∨ u = .openParen ∨ u = .exclamation ∨ u = .colon) :
    ∀ c ∈ u.render.head?, continuesName c = false ∧ c ≠ '"' ∧ c ≠ '\x27' := by
  intro c hc
  cases u <;> simp [Token.follows] at h <;> cases hc <;> decide

/-- A token starts an expression if it does so when it is read again. -/
theorem Token.starts_reread (t : Token) : t.reread.starts = t.starts := by
  cases t with
  | number x =>
    change (if x.isFinite then number x else name (numberText x)).starts = true
    split
    · rfl
    · rfl
  | _ => rfl

/-- The first token of an expression does not look like the rest of a comparison. -/
theorem ne_of_mem_head? (h : u.ReadAs u.reread) (hstarts : u.starts = true) :
    ∀ c ∈ u.render.head?, c ≠ '=' ∧ c ≠ '>' := by
  obtain ⟨c, cs, hrender, -, htake⟩ := h [] (by simp)
  rw [List.append_nil] at hrender
  rw [← u.starts_reread] at hstarts
  rw [hrender]
  rintro _ ⟨⟩
  refine ⟨?_, ?_⟩
  · rintro rfl
    have hfound : Token.equal = u.reread := congrArg Prod.fst (Except.ok.inj (htake 0))
    rw [← hfound] at hstarts
    cases hstarts
  · rintro rfl
    have hfound : (takeGreater cs).1 = u.reread := congrArg Prod.fst (Except.ok.inj (htake 0))
    rw [← hfound] at hstarts
    unfold takeGreater at hstarts
    split at hstarts <;> cases hstarts

/-- Tokens that may stand side by side do not run together. -/
theorem stopsBefore_of_adjoins (h : Adjoins t u) (hread : u.ReadAs u.reread) :
    ∀ c ∈ u.render.head?, t.stopsBefore c = true := by
  intro c hc
  cases t with
  | number x =>
    have := not_continuesName_of_mem_head? (.inl h) c hc
    simp [Token.stopsBefore, this.1]
  | text s =>
    have := not_continuesName_of_mem_head? (.inl h) c hc
    simpa [Token.stopsBefore] using this.2.1
  | name s =>
    have hpart : u.follows = true ∨ u = .openParen ∨ u = .exclamation ∨ u = .colon := by
      rcases h with h | h | ⟨-, h | h⟩
      · exact .inr (.inl h)
      · exact .inr (.inr (.inl h))
      · exact .inl h
      · exact .inr (.inr (.inr h))
    have := not_continuesName_of_mem_head? hpart c hc
    simp [Token.stopsBefore, this.1]
  | quotedName s =>
    have := not_continuesName_of_mem_head? (.inr (.inr (.inl h))) c hc
    simpa [Token.stopsBefore] using this.2.2
  | less =>
    have := ne_of_mem_head? hread h c hc
    simp [Token.stopsBefore, this.1, this.2]
  | greater =>
    have := ne_of_mem_head? hread h c hc
    simp [Token.stopsBefore, this.1]
  | _ => rfl

/-- A token that can be read is written as a text that is read as that token, if this holds of
numbers. -/
theorem Token.Lexical.readAs (h : t.Lexical)
    (hnumber : ∀ x, t = .number x → t.ReadAs t.reread) : t.ReadAs t.reread := by
  cases t with
  | number x => exact hnumber x rfl
  | text s => exact .text s
  | name s =>
    obtain ⟨c, cs, hs, hc, hcs⟩ := h
    exact .name rfl (fun _ => rfl) hs hc hcs
  | quotedName s => exact .quotedName s
  | less => exact .less
  | greater => exact .greater
  | notEqual | lessEqual | greaterEqual =>
    exact fun rest _ => ⟨_, _ :: rest, rfl, rfl, fun _ => rfl⟩
  | finish => cases h
  | _ => exact .single rfl rfl rfl

/-- The text of some tokens is read as these tokens, apart from infinite numbers. -/
theorem tokensFrom_flatMap {tokens : List Token} (h : tokens.IsChain Adjoins)
    (hread : ∀ t ∈ tokens, t.ReadAs t.reread) (position : Nat) :
    ∃ body position', tokensFrom position (tokens.flatMap Token.render) =
        .ok (body ++ [⟨.finish, position'⟩]) ∧
      body.map Located.token = tokens.map Token.reread := by
  induction tokens generalizing position with
  | nil =>
    refine ⟨[], position, ?_, rfl⟩
    rw [List.flatMap_nil, tokensFrom]
    rfl
  | cons t tokens ih =>
    obtain ⟨hfirst, hothers⟩ := List.forall_mem_cons.mp hread
    have hstop : ∀ c ∈ (tokens.flatMap Token.render).head?, t.stopsBefore c = true := by
      cases tokens with
      | nil => simp
      | cons u tokens =>
        have hu := hothers u List.mem_cons_self
        obtain ⟨c, cs, hrender, -⟩ := hu [] (by simp)
        have hchars := stopsBefore_of_adjoins (List.isChain_cons_cons.mp h).1 hu
        rw [List.append_nil] at hrender
        rw [hrender] at hchars
        rw [List.flatMap_cons, hrender]
        exact hchars
    obtain ⟨c, cs, hrender, hblank, htake⟩ := hfirst _ hstop
    obtain ⟨body, position', hbody, htokens⟩ := ih h.of_cons hothers
      (position + ((c :: cs).length - (tokens.flatMap Token.render).length))
    refine ⟨⟨t.reread, position⟩ :: body, position', ?_, ?_⟩
    · rw [List.flatMap_cons, hrender]
      exact tokensFrom_cons hblank (htake position) hbody
    · rw [List.map_cons, List.map_cons, htokens]

/-! ## Canonical tokens can be read -/

/-- Plain names can be read. -/
theorem lexical_of_isPlainName {s : String} (h : isPlainName s = true) :
    (Token.name s).Lexical := by
  unfold isPlainName at h
  split at h
  · cases h
  · rename_i c cs hs
    obtain ⟨hc, hcs⟩ := Bool.and_eq_true_iff.mp h
    refine ⟨c, cs, hs, hc, fun d hd => ?_⟩
    have hd := List.all_eq_true.mp hcs d hd
    simp only [continuesName, hd, Bool.true_or]

/-- Names of sheets can be read. -/
theorem lexical_sheetToken (name : String) : (sheetToken name).Lexical := by
  unfold sheetToken
  split
  · rename_i hplain
    exact lexical_of_isPlainName hplain
  · trivial

/-- Labels of cells can be read. -/
theorem Labels.lexical {label : String} {a : CellAddress} (h : Labels label a) :
    (Token.name label).Lexical := by
  obtain ⟨letters, digits, hlabel, hparts, -⟩ := h
  obtain ⟨c, letters, rfl⟩ := List.exists_cons_of_ne_nil hparts.letters_ne
  obtain ⟨hc, hletters⟩ := List.forall_mem_cons.mp hparts.isLetter
  have hstarts : ∀ d, Column.isLetter d = true → startsName d = true := by
    intro d hd
    rw [startsName, show (d.isUpper || d.isLower) = true from hd, Bool.true_or]
  refine ⟨c, letters ++ digits, hlabel, hstarts c hc, fun d hd => ?_⟩
  rcases List.mem_append.mp hd with hletter | hdigit
  · simp only [continuesName, hstarts d (hletters d hletter), Bool.true_or]
  · simp only [continuesName, hparts.isDigit d hdigit, Bool.true_or, Bool.or_true]

/-- The words for the truth values can be read. -/
theorem lexical_spelling (b : Bool) : (Token.name (if b then "TRUE" else "FALSE")).Lexical := by
  cases b with
  | false => exact ⟨'F', ['A', 'L', 'S', 'E'], rfl, rfl, List.all_eq_true.mp rfl⟩
  | true => exact ⟨'T', ['R', 'U', 'E'], rfl, rfl, List.all_eq_true.mp rfl⟩

variable {p : Nat} {e : Expr} {tokens : List Token} {sheet : Option String}

/-- The tokens of references can be read. -/
theorem Refers.lexical_tokens (h : Refers sheet tokens e) : ∀ t ∈ e.tokens, t.Lexical := by
  have hsheet : ∀ t ∈ sheetTokens sheet, t.Lexical := by
    cases sheet with
    | none => exact List.forall_mem_nil _
    | some name => simpa [sheetTokens] using ⟨lexical_sheetToken name, trivial⟩
  cases h with
  | cell ha =>
    intro t ht
    rcases List.mem_append.mp ht with ht | ht
    · exact hsheet t ht
    · rw [List.mem_singleton.mp ht]
      exact ha.text.lexical
  | range ha hb =>
    intro t ht
    simp only [Expr.tokens, Reference.tokens, List.mem_append, List.mem_cons, List.not_mem_nil,
      or_false] at ht
    rcases ht with (ht | rfl) | rfl | rfl
    · exact hsheet t ht
    · exact ha.text.lexical
    · trivial
    · exact hb.text.lexical

/-- Brackets around tokens that can be read can be read. -/
theorem lexical_tokensAt (h : ∀ t ∈ e.tokens, t.Lexical) : ∀ t ∈ e.tokensAt p, t.Lexical := by
  intro t ht
  unfold Expr.tokensAt bracketedIf at ht
  split at ht
  · simp only [List.mem_cons, List.mem_append, List.not_mem_nil, or_false] at ht
    rcases ht with rfl | ht | rfl
    · trivial
    · exact h t ht
    · trivial
  · exact h t ht

private theorem mem_intercalate_of_mem {separator : Token} {list : List Token}
    {lists : List (List Token)}
    (hlist : list ∈ lists) (ht : t ∈ list) : t ∈ [separator].intercalate lists := by
  induction lists with
  | nil => cases hlist
  | cons first lists ih =>
    by_cases hne : lists = []
    · subst hne
      rw [List.mem_singleton.mp hlist] at ht
      rwa [List.intercalate_singleton]
    · rw [List.intercalate_cons_of_ne_nil hne, List.mem_append, List.mem_append]
      rcases List.mem_cons.mp hlist with rfl | hlist
      · exact .inl (.inl ht)
      · exact .inr (ih hlist)

private theorem mem_commaTokens_of_mem {part : Part} {parts : List Part} (hpart : part ∈ parts)
    (ht : t ∈ part.1) : t ∈ commaTokens parts :=
  mem_intercalate_of_mem (List.mem_map_of_mem hpart) ht

private theorem mem_rowTokens_of_mem {part : Part} {row : List Part} {rows : List (List Part)}
    (hrow : row ∈ rows) (hpart : part ∈ row) (ht : t ∈ part.1) : t ∈ rowTokens rows :=
  mem_intercalate_of_mem (List.mem_map_of_mem hrow) (mem_commaTokens_of_mem hpart ht)

/-- If the tokens of an expression can be read, then so can its canonical tokens. -/
theorem Forms.lexical_tokens (h : Forms p tokens e) (hlex : ∀ t ∈ tokens, t.Lexical) :
    ∀ t ∈ e.tokens, t.Lexical := by
  induction h with
  | number x => exact hlex
  | text s => exact hlex
  | @boolean _ b h => exact List.forall_mem_singleton.mpr (lexical_spelling b)
  | reference h => exact h.lexical_tokens
  | qualified ht h => exact h.lexical_tokens
  | @call name parts h ih =>
    intro t ht
    simp only [Expr.tokens, Expr.argumentTokens_eq, List.mem_cons, List.mem_append,
      List.not_mem_nil, or_false] at ht
    rcases ht with rfl | rfl | ht | rfl
    · exact hlex _ List.mem_cons_self
    · trivial
    · rcases mem_commaTokens ht with rfl | ⟨_, hpart, ht⟩
      · trivial
      · simp only [List.mem_map] at hpart
        obtain ⟨_, ⟨part, hpart, rfl⟩, rfl⟩ := hpart
        refine ih part hpart (fun u hu => hlex u ?_) t ht
        simp [mem_commaTokens_of_mem hpart hu]
    · trivial
  | @array rows hne h ih =>
    intro t ht
    simp only [Expr.tokens, Expr.tableTokens_eq, List.mem_cons, List.mem_append,
      List.not_mem_nil, or_false] at ht
    rcases ht with rfl | ht | rfl
    · trivial
    · rcases mem_rowTokens ht with rfl | ⟨_, hrow, ht⟩
      · trivial
      · rcases mem_commaTokens ht with rfl | ⟨_, hpart, ht⟩
        · trivial
        · simp only [List.mem_map] at hrow
          obtain ⟨_, ⟨row, hrow, rfl⟩, rfl⟩ := hrow
          simp only [List.mem_map] at hpart
          obtain ⟨_, ⟨part, hpart, rfl⟩, rfl⟩ := hpart
          refine ih row hrow part hpart (fun u hu => hlex u ?_) t ht
          simp [mem_rowTokens_of_mem hrow hpart hu]
    · trivial
  | parenthesised h ih => exact ih fun t ht => hlex t (by simp [ht])
  | signed op h ih =>
    obtain ⟨hop, hoperand⟩ := List.forall_mem_cons.mp hlex
    exact List.forall_mem_cons.mpr ⟨hop, lexical_tokensAt (ih hoperand)⟩
  | binary op hleft hright ihleft ihright =>
    obtain ⟨hl, hr⟩ := List.forall_mem_append.mp hlex
    obtain ⟨hop, hr⟩ := List.forall_mem_cons.mp hr
    rw [Expr.tokens_binary]
    exact List.forall_mem_append.mpr ⟨lexical_tokensAt (ihleft hl),
      List.forall_mem_cons.mpr ⟨hop, lexical_tokensAt (ihright hr)⟩⟩
  | single hp h ih => exact ih hlex

end Spreadsheet.Formula
