import Spreadsheet.Proofs.Formula.Lexemes
import Spreadsheet.Proofs.Formula.Positions

/-!
# Tokens cut out of a text

The tokens of a text divide it up: between the place of a token and the next one stand the
characters of the token and white space, and nothing else. A token is read the same whatever stands
behind it, as long as that does not go on with it. White space goes on with no token, so the
characters from one token to the next are by themselves the text of that token.
-/

namespace Spreadsheet.Formula

variable {position : Nat} {c delimiter : Char} {cs used rest tail inner : List Char}
  {t u : Token} {found : List Located}

/-! ## Tokens before other characters -/

/-- A quotation ends at the first delimiter that is not doubled. -/
theorem eq_doubled_of_takeDelimited (h : takeDelimited delimiter cs = some (inner, rest)) :
    cs = doubled delimiter inner ++ delimiter :: rest := by
  fun_induction takeDelimited delimiter cs generalizing inner rest with
  | case1 => cases h
  | case2 =>
    cases h
    rfl
  | case3 => cases h
  | case4 cs ih =>
    obtain ⟨⟨inner', rest'⟩, htake, heq⟩ := Option.map_eq_some_iff.mp h
    cases heq
    simp [doubled, ih htake]
  | case5 =>
    cases h
    rfl
  | case6 c d cs hc ih =>
    obtain ⟨⟨inner', rest'⟩, htake, heq⟩ := Option.map_eq_some_iff.mp h
    cases heq
    simp [doubled, hc, ih htake]

/-- The text starts with the token as it is written, and the token is no number: those can be
written in many ways. -/
structure Token.Fronts (t : Token) (cs rest : List Char) : Prop where
  /-- The token is no number. -/
  not_number : ∀ x, t ≠ .number x
  /-- The text is that of the token and the rest. -/
  eq_append : cs = t.render ++ rest

private theorem fronts_of_ofChar? (h : Token.ofChar? c = some t) : t.Fronts (c :: rest) rest := by
  unfold Token.ofChar? at h
  split at h <;> cases h <;> exact ⟨nofun, rfl⟩

private theorem fronts_takeLess (cs : List Char) :
    (takeLess cs).1.Fronts ('<' :: cs) (takeLess cs).2 := by
  fun_cases takeLess cs <;> exact ⟨nofun, rfl⟩

private theorem fronts_takeGreater (cs : List Char) :
    (takeGreater cs).1.Fronts ('>' :: cs) (takeGreater cs).2 := by
  fun_cases takeGreater cs <;> exact ⟨nofun, rfl⟩

/-- Every token that is found is a number or stands in the text as it is written. -/
theorem takeToken_eq_ok (h : takeToken position c cs = .ok (t, rest)) :
    t.Fronts (c :: cs) rest ∨
      (Number.isDigit c || c == '.') = true ∧ takeNumber (c :: cs) = .ok (t, rest) := by
  unfold takeToken at h
  cases htoken : Token.ofChar? c with
  | some token =>
    rw [htoken] at h
    cases h
    exact .inl (fronts_of_ofChar? htoken)
  | none =>
    rw [htoken] at h
    dsimp only at h
    split_ifs at h with hless hgreater hdouble hsingle hdigit hname
    · have hfronts := fronts_takeLess cs
      rw [Except.ok.inj h] at hfronts
      exact .inl (hless ▸ hfronts)
    · have hfronts := fronts_takeGreater cs
      rw [Except.ok.inj h] at hfronts
      exact .inl (hgreater ▸ hfronts)
    · cases htake : takeDelimited c cs with
      | none =>
        rw [htake] at h
        cases h
      | some parts =>
        rw [htake] at h
        cases h
        refine .inl ⟨by rintro _ ⟨⟩, ?_⟩
        simp [Token.render, delimited, eq_doubled_of_takeDelimited htake, hdouble]
    · cases htake : takeDelimited c cs with
      | none =>
        rw [htake] at h
        cases h
      | some parts =>
        rw [htake] at h
        cases h
        refine .inl ⟨by rintro _ ⟨⟩, ?_⟩
        simp [Token.render, delimited, eq_doubled_of_takeDelimited htake, hsingle]
    · exact .inr ⟨hdigit, h⟩
    · cases h
      exact .inl ⟨by rintro _ ⟨⟩, by simp [Token.render]⟩

private theorem takeToken_of_startsNumber (hc : (Number.isDigit c || c == '.') = true)
    (position : Nat)
    (cs : List Char) : takeToken position c cs = takeNumber (c :: cs) := by
  rcases Bool.or_eq_true_iff.mp hc with hdigit | hpoint
  · exact takeToken_of_isDigit hdigit position cs
  · obtain rfl := beq_iff_eq.mp hpoint
    rfl

/-- What stands for the digits behind a point stands for them before other characters too. -/
theorem exists_takeFraction_append {fraction : List Char}
    (h : Number.takeFraction cs = (fraction, rest)) :
    ∃ mark, cs = mark ++ rest ∧ ∀ tail : List Char,
      (∀ d ∈ tail.head?, continuesName d = false) →
      (∀ d ∈ (mark ++ tail).head?, Number.isDigit d = false) ∧
        Number.takeFraction (mark ++ tail) = (fraction, tail) := by
  have hstop : ∀ {tail : List Char}, (∀ d ∈ tail.head?, continuesName d = false) →
      (∀ d ∈ tail.head?, Number.isDigit d = false) ∧ (∀ d ∈ tail.head?, d ≠ '.') := by
    intro tail htail
    refine ⟨fun d hd => ?_, fun d hd => ?_⟩
    · have := htail d hd
      simp only [continuesName, Bool.or_eq_false_iff] at this
      exact this.1.2
    · rintro rfl
      exact absurd (htail '.' hd) (by decide)
  unfold Number.takeFraction at h
  split at h
  · rename_i digits
    cases h
    refine ⟨'.' :: digits.takeWhile Number.isDigit, ?_, fun tail htail => ⟨?_, ?_⟩⟩
    · rw [List.cons_append, List.takeWhile_append_dropWhile]
    · rintro _ ⟨⟩
      rfl
    · obtain ⟨htake, hdrop⟩ := Number.takeWhile_dropWhile_append
        (fun d hd => List.all_eq_true.mp List.all_takeWhile d hd) (hstop htail).1
      exact Prod.ext htake hdrop
  · cases h
    refine ⟨[], rfl, fun tail htail => ⟨(hstop htail).1, ?_⟩⟩
    cases tail with
    | nil => rfl
    | cons d tail =>
      have hd : d ≠ '.' := (hstop htail).2 d rfl
      rw [List.nil_append, Number.takeFraction]
      rintro _ ⟨⟩
      exact hd rfl

private theorem exists_number_of_takeNumber (h : takeNumber cs = .ok (t, rest)) :
    ∃ x, t = .number x := by
  simp only [takeNumber] at h
  split at h
  · cases h
  · exact ⟨_, (Prod.mk.inj (Except.ok.inj h)).1.symm⟩

private theorem takeNumber_append (h : takeNumber (used ++ rest) = .ok (t, rest))
    (htail : ∀ d ∈ tail.head?, continuesName d = false) :
    takeNumber (used ++ tail) = .ok (t, tail) := by
  have hdigits := Number.takeDigits_append (used ++ rest)
  simp only [takeNumber] at h
  split at h
  · cases h
  rename_i hnonempty
  obtain ⟨htoken, hrest⟩ := Prod.mk.inj (Except.ok.inj h)
  obtain ⟨mark, hbehind, happend⟩ := exists_takeFraction_append
    (Prod.ext rfl hrest : Number.takeFraction (Number.takeDigits (used ++ rest)).2 = (_, rest))
  obtain ⟨hmark, hfraction⟩ := happend tail htail
  -- The characters of the number are those of its whole part and of its fraction.
  have hused : used = (Number.takeDigits (used ++ rest)).1 ++ mark := by
    rw [hbehind, ← List.append_assoc] at hdigits
    exact (List.append_cancel_right hdigits).symm
  have hwhole : Number.takeDigits (used ++ tail) =
      ((Number.takeDigits (used ++ rest)).1, mark ++ tail) := by
    conv_lhs => rw [hused]
    rw [List.append_assoc]
    obtain ⟨htake, hdrop⟩ := Number.takeWhile_dropWhile_append
      (fun d hd => Number.isDigit_of_mem_takeDigits hd) hmark
    exact Prod.ext htake hdrop
  simp only [takeNumber, hwhole, hfraction, if_neg hnonempty, ← htoken]

/-- A token that stands in the text as it is written is read before whatever does not go on with
it. -/
theorem Token.Fronts.takeToken_append (h : t.Fronts (c :: (used ++ rest)) rest)
    (hlexical : t.Lexical) (htail : ∀ d ∈ tail.head?, t.stopsBefore d = true) (position : Nat) :
    takeToken position c (used ++ tail) = .ok (t, tail) := by
  have hreread : t.reread = t := by
    cases t with
    | number x => exact absurd rfl (h.not_number x)
    | _ => rfl
  have hrender : c :: used = t.render := List.append_cancel_right h.eq_append
  have hread := hlexical.readAs fun x hx => absurd hx (h.not_number x)
  obtain ⟨d, ds, hds, -, htake⟩ := hread tail htail
  rw [← hrender, List.cons_append] at hds
  cases hds
  rw [hreread] at htake
  exact htake position

/-- A token is read before whatever does not go on with it. -/
theorem takeToken_append (h : takeToken position c (used ++ rest) = .ok (t, rest))
    (htail : ∀ d ∈ tail.head?, t.stopsBefore d = true) (position' : Nat) :
    takeToken position' c (used ++ tail) = .ok (t, tail) := by
  rcases takeToken_eq_ok h with hfronts | ⟨hstarts, htake⟩
  · exact hfronts.takeToken_append (lexical_of_takeToken h) htail position'
  · obtain ⟨x, rfl⟩ := exists_number_of_takeNumber htake
    rw [takeToken_of_startsNumber hstarts, ← List.cons_append]
    rw [← List.cons_append] at htake
    refine takeNumber_append htake fun d hd => ?_
    simpa [Token.stopsBefore] using htail d hd

/-- No character of a name is white space. -/
theorem isBlank_of_continuesName (h : continuesName c = true) : Text.isBlank c = false := by
  have hcode : 33 ≤ c.toNat ∧ c.toNat ≤ 132 := by
    rcases Bool.or_eq_true_iff.mp h with h | hpoint
    · rcases Bool.or_eq_true_iff.mp h with hstarts | hdigit
      · have := code_of_startsName hstarts
        omega
      · have := code_of_isDigit hdigit
        omega
    · rw [beq_iff_eq.mp hpoint]
      decide
  exact isBlank_eq_false hcode.1 hcode.2

/-- White space goes on with no token. -/
theorem Token.stopsBefore_of_isBlank (t : Token) (h : Text.isBlank c = true) :
    t.stopsBefore c = true := by
  have hname : continuesName c = false := by
    by_contra hname
    rw [isBlank_of_continuesName (Bool.of_not_eq_false hname)] at h
    cases h
  have hne : ∀ d : Char, Text.isBlank d = false → c ≠ d := by
    rintro d hd rfl
    rw [h] at hd
    cases hd
  cases t with
  | number | name => simp [stopsBefore, hname]
  | text => simp [stopsBefore, hne '"' rfl]
  | quotedName => simp [stopsBefore, hne '\x27' rfl]
  | less => simp [stopsBefore, hne '=' rfl, hne '>' rfl]
  | greater => simp [stopsBefore, hne '=' rfl]
  | _ => rfl

/-! ## From one token to the next -/

/-- White space alone has no token but the end. -/
theorem tokensFrom_of_forall_isBlank (h : ∀ c ∈ cs, Text.isBlank c = true) (position : Nat) :
    tokensFrom position cs = .ok [⟨.finish, position + cs.length⟩] := by
  induction cs generalizing position with
  | nil => rw [tokensFrom, List.length_nil, Nat.add_zero]
  | cons c cs ih =>
    obtain ⟨hc, hcs⟩ := List.forall_mem_cons.mp h
    rw [tokensFrom_of_isBlank hc, ih hcs, List.length_cons, Nat.add_assoc, Nat.add_comm 1]

/-- A token and white space behind it are the text of the token alone. -/
theorem tokensFrom_token_append (hblank : Text.isBlank c = false)
    (htake : takeToken position c (used ++ rest) = .ok (t, rest))
    (htail : ∀ d ∈ tail, Text.isBlank d = true) :
    tokensFrom 0 (c :: (used ++ tail)) =
      .ok [⟨t, 0⟩, ⟨.finish, (c :: (used ++ tail)).length⟩] := by
  have htake : takeToken 0 c (used ++ tail) = .ok (t, tail) := by
    refine takeToken_append htake (fun d hd => ?_) 0
    exact t.stopsBefore_of_isBlank (htail d (List.mem_of_mem_head? hd))
  refine tokensFrom_cons hblank htake ?_
  rw [tokensFrom_of_forall_isBlank htail]
  have hlength : (c :: (used ++ tail)).length - tail.length + tail.length =
      (c :: (used ++ tail)).length := by
    simp only [List.length_cons, List.length_append]
    omega
  rw [Nat.zero_add, hlength]

namespace Cuts

/-- The last token marks the end, and no other one does. -/
theorem exists_body (h : Cuts position cs found) :
    ∃ body, found = body ++ [⟨.finish, position + cs.length⟩] ∧
      ∀ t ∈ body, t.token ≠ .finish := by
  induction h with
  | finish position => exact ⟨[], rfl, List.forall_mem_nil _⟩
  | @blank position c cs found hblank h ih =>
    obtain ⟨body, rfl, hbody⟩ := ih
    refine ⟨body, ?_, hbody⟩
    rw [List.length_cons, Nat.add_assoc, Nat.add_comm 1]
  | @token position c used rest token found hblank htake h ih =>
    obtain ⟨body, rfl, hbody⟩ := ih
    refine ⟨⟨token, position⟩ :: body, ?_, List.forall_mem_cons.mpr ⟨?_, hbody⟩⟩
    · rw [List.cons_append, List.length_cons, List.length_cons, List.length_append]
      congr 4
      omega
    · rintro rfl
      exact lexical_of_takeToken htake

/-- Before the first token there is white space only. -/
theorem exists_blank_append {first : Located} (h : Cuts position cs (first :: found)) :
    ∃ blanks after, cs = blanks ++ after ∧ (∀ c ∈ blanks, Text.isBlank c = true) ∧
      first.position = position + blanks.length ∧ Cuts first.position after (first :: found) := by
  generalize hfound : first :: found = tokens at h
  induction h with
  | finish position =>
    cases hfound
    exact ⟨[], [], rfl, List.forall_mem_nil _, rfl, .finish position⟩
  | @blank position c cs tokens hblank h ih =>
    obtain ⟨blanks, after, rfl, hblanks, hposition, hcuts⟩ := ih hfound
    refine ⟨c :: blanks, after, rfl, List.forall_mem_cons.mpr ⟨hblank, hblanks⟩, ?_, hcuts⟩
    rw [hposition, List.length_cons, Nat.add_assoc, Nat.add_comm 1]
  | @token position c used rest token tokens hblank htake h ih =>
    cases hfound
    exact ⟨[], _, rfl, List.forall_mem_nil _, rfl, .token hblank htake h⟩

/-- Where a token starts that is not the last one, it is read, and the others are behind it. -/
theorem exists_takeToken_append {first second : Located}
    (h : Cuts first.position cs (first :: second :: found)) :
    ∃ c used rest, cs = c :: (used ++ rest) ∧ Text.isBlank c = false ∧
      takeToken first.position c (used ++ rest) = .ok (first.token, rest) ∧
      Cuts (first.position + (c :: used).length) rest (second :: found) := by
  obtain ⟨token, place⟩ := first
  cases h with
  | blank hblank h =>
    have hle := h.position_le _ List.mem_cons_self
    exact absurd hle (Nat.not_succ_le_self _)
  | @token _ c used rest _ _ hblank htake h =>
    exact ⟨c, used, rest, rfl, hblank, htake, h⟩

/-- The characters from a token on are cut into this token and those behind it. -/
theorem exists_append {front behind : List Located} {t : Located}
    (h : Cuts position cs (front ++ t :: behind)) :
    ∃ before after, cs = before ++ after ∧ t.position = position + before.length ∧
      Cuts t.position after (t :: behind) := by
  induction front generalizing position cs with
  | nil =>
    obtain ⟨blanks, after, hcs, -, hposition, hcuts⟩ := exists_blank_append h
    exact ⟨blanks, after, hcs, hposition, hcuts⟩
  | cons first front ih =>
    obtain ⟨blanks, after, rfl, -, hposition, hcuts⟩ := exists_blank_append h
    obtain ⟨second, others, hothers⟩ : ∃ second others, front ++ t :: behind = second :: others :=
      List.exists_cons_of_ne_nil (by simp)
    rw [List.append_eq, hothers] at hcuts
    obtain ⟨c, used, rest, rfl, -, -, hrest⟩ := hcuts.exists_takeToken_append
    rw [← hothers] at hrest
    obtain ⟨before, after, rfl, hplace, hcuts⟩ := ih hrest
    refine ⟨blanks ++ c :: (used ++ before), after, by simp, ?_, hcuts⟩
    rw [hplace, hposition, List.length_append, List.length_cons, List.length_cons,
      List.length_append]
    omega

/-- The characters from a token to the next one are by themselves the text of this token. -/
theorem exists_alone {front behind : List Located} {t u : Located}
    (h : Cuts position cs (front ++ t :: u :: behind)) :
    ∃ before between after, cs = before ++ between ++ after ∧
      t.position = position + before.length ∧ u.position = t.position + between.length ∧
      tokensFrom 0 between = .ok [⟨t.token, 0⟩, ⟨.finish, between.length⟩] := by
  obtain ⟨before, _, rfl, hplace, hcuts⟩ := h.exists_append
  obtain ⟨c, used, rest, rfl, hblank, htake, hrest⟩ := hcuts.exists_takeToken_append
  obtain ⟨blanks, after, rfl, hblanks, hnext, -⟩ := hrest.exists_blank_append
  refine ⟨before, c :: (used ++ blanks), after, by simp, hplace, ?_,
    tokensFrom_token_append hblank htake hblanks⟩
  rw [hnext, List.length_cons, List.length_cons, List.length_append]
  omega

end Cuts

/-! ## The text as a whole -/

/-- The part of a text from one place to another, counted in characters. -/
def part (s : String) (start stop : Nat) : String :=
  String.ofList ((s.toList.take stop).drop start)

/-- The tokens divide up the text: none of its characters is left out, and none is used twice. -/
structure Tiles (s : String) (found : List Located) : Prop where
  /-- The last token marks the end of the text, and no other one does. -/
  ends : ∃ body, found = body ++ [⟨.finish, s.length⟩] ∧ ∀ t ∈ body, t.token ≠ .finish
  /-- The places go up. -/
  position_lt : found.Pairwise fun t u => t.position < u.position
  /-- White space is all that stands before the first token. -/
  isBlank_front : ∀ first ∈ found.head?, ∀ c ∈ s.toList.take first.position, Text.isBlank c = true
  /-- The part from one token to the next is read as this token alone. -/
  tokens_part : ∀ front t u behind, found = front ++ t :: u :: behind →
    tokens (part s t.position u.position) =
      .ok [⟨t.token, 0⟩, ⟨.finish, u.position - t.position⟩]

/-- The tokens of a text divide it up. -/
theorem tiles_of_tokens {s : String} (h : tokens s = .ok found) : Tiles s found := by
  have hcuts : Cuts 0 s.toList found := cuts_of_tokensFrom h
  refine ⟨?_, hcuts.pairwise_position, fun first hfirst c hc => ?_, fun front t u behind heq => ?_⟩
  · simpa only [Nat.zero_add, String.length_toList] using hcuts.exists_body
  · obtain ⟨others, rfl⟩ := List.head?_eq_some_iff.mp hfirst
    obtain ⟨blanks, after, htext, hblanks, hposition, -⟩ := hcuts.exists_blank_append
    rw [htext, hposition, Nat.zero_add, List.take_left] at hc
    exact hblanks c hc
  · rw [heq] at hcuts
    obtain ⟨before, between, after, htext, hstart, hstop, halone⟩ := hcuts.exists_alone
    rw [Nat.zero_add] at hstart
    have hpart : (s.toList.take u.position).drop t.position = between := by
      rw [htext, hstop, hstart, ← List.length_append, List.take_left, List.drop_left]
    rw [tokens, part, hpart, String.toList_ofList, halone, hstop, Nat.add_sub_cancel_left]

/-- Numbers that meet at a point, signs of two characters, a doubled quote, and white space. -/
def crowded : String :=
  " 1.5.25<=A1<>\"a\"\"b\"  >.5"

/-- The tokens of this text. -/
def crowdedTokens : List Located :=
  [⟨.number 1.5, 1⟩, ⟨.number 0.25, 4⟩, ⟨.lessEqual, 7⟩, ⟨.name "A1", 9⟩, ⟨.notEqual, 11⟩,
    ⟨.text "a\"b", 13⟩, ⟨.greater, 21⟩, ⟨.number 0.5, 22⟩, ⟨.finish, 24⟩]

/-- Tokens that stand without white space between them. -/
theorem tiles_crowded :
    tokens crowded = .ok crowdedTokens ∧ Tiles crowded crowdedTokens := by
  have h : tokens crowded = .ok crowdedTokens := by decide +kernel
  exact ⟨h, tiles_of_tokens h⟩

end Spreadsheet.Formula
