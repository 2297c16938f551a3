import Spreadsheet.Proofs.Formula.Lexemes
import Spreadsheet.Proofs.Number.Written

/-!
# Expressions read back from their texts

The text of an expression that was read from some text consists of tokens that are read back one by
one, so that it forms the same expression again. An infinite literal is the exception: it is written
as a word.
-/

namespace Spreadsheet.Formula

open Number (Denotes HasSign pointed)

/-! ## Numbers -/

/-- A point is taken together with the digits behind it. -/
theorem takeFraction_pointed {fraction rest : List Char}
    (hfraction : ∀ c ∈ fraction, Number.isDigit c = true)
    (hrest : ∀ c ∈ rest.head?, continuesName c = false) :
    Number.takeFraction (pointed fraction ++ rest) = (fraction, rest) := by
  have hdigit : ∀ c ∈ rest.head?, Number.isDigit c = false := by
    intro c hc
    have := hrest c hc
    simp only [continuesName, Bool.or_eq_false_iff] at this
    exact this.1.2
  by_cases hne : fraction = []
  · subst hne
    have hpoint : ∀ cs, rest ≠ '.' :: cs := by
      rintro cs rfl
      exact absurd (hrest '.' rfl) (by decide)
    simp only [pointed, if_true, List.nil_append]
    unfold Number.takeFraction
    split
    · exact absurd rfl (hpoint _)
    · rfl
  · obtain ⟨htake, hdrop⟩ := Number.takeWhile_dropWhile_append hfraction hdigit
    rw [pointed, if_neg hne]
    change Number.takeDigits (fraction ++ rest) = (fraction, rest)
    rw [Number.takeDigits, htake, hdrop]

/-- A text that denotes a number is taken as this number. -/
theorem takeNumber_of_denotes {cs rest : List Char} {x : Float} (h : Denotes cs x)
    (hrest : ∀ c ∈ rest.head?, continuesName c = false) :
    takeNumber (cs ++ rest) = .ok (.number x, rest) := by
  obtain ⟨whole, fraction, hparts, hvalue⟩ := h
  obtain ⟨hwhole, hfraction⟩ := List.forall_mem_append.mp hparts.isDigit
  have hbehind : ∀ c ∈ (pointed fraction ++ rest).head?, Number.isDigit c = false := by
    intro c hc
    unfold pointed at hc
    split at hc
    · have := hrest c hc
      simp only [continuesName, Bool.or_eq_false_iff] at this
      exact this.1.2
    · cases hc
      rfl
  obtain ⟨htake, hdrop⟩ := Number.takeWhile_dropWhile_append hwhole hbehind
  have hdigits : Number.takeDigits (cs ++ rest) = (whole, pointed fraction ++ rest) := by
    rw [hparts.text, List.append_assoc, Number.takeDigits, htake, hdrop]
  have hsome : (whole.isEmpty && fraction.isEmpty) = false := by
    rw [List.isEmpty_eq_false_iff.mpr hparts.whole_ne, Bool.false_and]
  simp only [takeNumber, hdigits, takeFraction_pointed hfraction hrest, hsome, hvalue,
    Bool.false_eq_true, if_false]

/-- A number is read back from a text that denotes it. -/
theorem readsBack_of_denotes {x : Float} (h : Denotes (numberText x).toList x) : ReadsBack x := by
  intro rest hrest
  have hend : ∀ c ∈ rest.head?, continuesName c = false := by
    intro c hc
    simpa [Token.stopsBefore] using hrest c hc
  have hnumber := takeNumber_of_denotes h hend
  obtain ⟨whole, fraction, hparts, -⟩ := h
  obtain ⟨c, whole, rfl⟩ := List.exists_cons_of_ne_nil hparts.whole_ne
  have hc : Number.isDigit c = true := hparts.isDigit c (by simp)
  have hcode := code_of_isDigit hc
  have htext : (numberText x).toList ++ rest = c :: (whole ++ pointed fraction ++ rest) := by
    rw [hparts.text]
    rfl
  refine ⟨c, whole ++ pointed fraction ++ rest, htext, isBlank_eq_false (by omega) (by omega),
    fun position => ?_⟩
  rw [takeToken_of_isDigit hc, ← htext, hnumber]

/-- Every number that is read from a text is written as a text that is read back, an infinite one as
a word. -/
theorem readAs_number {x : Float} (h : (Token.number x).Lexical) :
    (Token.number x).ReadAs (Token.number x).reread := by
  obtain ⟨digits, exponent, hx⟩ := h
  have hsign : HasSign false x := hx ▸ Number.hasSign_ofDecimal digits exponent
  change (Token.number x).ReadAs (if x.isFinite then .number x else .name (numberText x))
  by_cases hfinite : x.isFinite = true
  · rw [if_pos hfinite]
    exact readsBack_of_denotes (Number.denotes_numberText hsign hfinite)
  · rw [if_neg hfinite]
    have htext := Number.numberText_of_not_isFinite hsign (Bool.eq_false_iff.mpr hfinite)
    have hchars : (numberText x).toList = 'i' :: ['n', 'f'] := by
      rw [htext]
      rfl
    exact .name rfl (fun _ => rfl) hchars rfl (List.all_eq_true.mp rfl)

/-! ## Tokens of an expression -/

variable {p : Nat} {t : String} {e : Expr} {tokens : List Token}

/-- The text of some tokens. -/
def textOf (tokens : List Token) : String :=
  String.ofList (tokens.flatMap Token.render)

/-- The text of a tree is that of its tokens. -/
theorem Expr.toText_eq_textOf (e : Expr) : e.toText = textOf e.tokens := by
  rw [toText, textOf, render_eq_flatMap]

/-- The text of tokens that form an expression is read as these tokens, if they can be read. -/
theorem tokens_textOf (h : Forms p tokens e) (hlexical : ∀ token ∈ tokens, token.Lexical) :
    ∃ body position, Formula.tokens (textOf tokens) = .ok (body ++ [⟨.finish, position⟩]) ∧
      body.map Located.token = tokens.map Token.reread := by
  have hread : ∀ token ∈ tokens, token.ReadAs token.reread := by
    intro token htoken
    refine (hlexical token htoken).readAs fun x hx => ?_
    subst hx
    exact readAs_number (hlexical _ htoken)
  obtain ⟨body, position, hbody, htokens⟩ := tokensFrom_flatMap h.unbroken.isChain hread 0
  refine ⟨body, position, ?_, htokens⟩
  rw [Formula.tokens, textOf, String.toList_ofList]
  exact hbody

/-- Finite literals are read back as they are. -/
theorem Forms.map_reread (h : Forms p tokens e) (hfinite : ∀ x ∈ e.literals, x.isFinite = true) :
    tokens.map Token.reread = tokens := by
  refine (List.map_congr_left fun token htoken => ?_).trans (List.map_id _)
  cases token with
  | number x =>
    have hx : x ∈ e.literals := by
      rw [← h.number?_eq]
      exact List.mem_filterMap.mpr ⟨_, htoken, rfl⟩
    change (if x.isFinite then Token.number x else .name (numberText x)) = .number x
    rw [if_pos (hfinite x hx)]
  | _ => rfl

/-- The text of tokens that form an expression with finite literals is parsed from these tokens. -/
theorem ofText_textOf (h : Forms p tokens e) (hlexical : ∀ token ∈ tokens, token.Lexical)
    (hfinite : ∀ x ∈ e.literals, x.isFinite = true) :
    ∃ body position, body.map Located.token = tokens ∧
      ofText (textOf tokens) = parse (body ++ [⟨.finish, position⟩]) := by
  obtain ⟨body, position, hbody, htokens⟩ := tokens_textOf h hlexical
  refine ⟨body, position, htokens.trans (h.map_reread hfinite), ?_⟩
  rw [ofText, hbody]
  rfl

/-! ## Texts that are accepted -/

/-- What is known of the tokens of a text that is accepted. -/
theorem exists_forms_of_ofText (h : ofText t = .ok e) :
    ∃ body position, Formula.tokens t = .ok (body ++ [⟨.finish, position⟩]) ∧
      Forms 1 (body.map Located.token) e ∧ ∀ token ∈ body.map Located.token, token.Lexical := by
  obtain ⟨found, hfound, hread⟩ := bind_eq_ok_iff.mp h
  obtain ⟨body, position, rfl, hlexical⟩ := lexical_of_tokensFrom hfound
  have hbody : ∀ token ∈ body, token.token ≠ .finish := by
    intro token htoken hfinish
    have := hlexical token htoken
    rw [hfinish] at this
    exact this
  exact ⟨body, position, hfound, forms_of_parse hbody hread, by simpa using hlexical⟩

/-- The canonical tokens of an expression that was read form it and can be read. -/
theorem canonical_of_ofText (h : ofText t = .ok e) :
    Forms 1 e.tokens e ∧ ∀ token ∈ e.tokens, token.Lexical := by
  obtain ⟨body, position, -, hforms, hlexical⟩ := exists_forms_of_ofText h
  exact ⟨hforms.canonical.lower (Nat.le_refl 1) e.precedence_pos, hforms.lexical_tokens hlexical⟩

/-- The text of an expression that was read from a text is read as this expression, or it is given
up for the depth of its tree. -/
theorem ofText_toText (h : ofText t = .ok e) (hfinite : ∀ x ∈ e.literals, x.isFinite = true) :
    ofText e.toText = .ok e ∨ ∃ position, ofText e.toText = .error (.tooDeep position) := by
  obtain ⟨hforms, hlexical⟩ := canonical_of_ofText h
  obtain ⟨body, position, htokens, hread⟩ := ofText_textOf hforms hlexical hfinite
  rw [e.toText_eq_textOf, hread]
  rw [← htokens] at hforms
  exact (parse_of_forms hforms).imp_right And.right

/-- What is tested on a result holds of what was returned. -/
theorem exists_ok_of_any {ε α : Type} {r : Except ε α} {p : α → Bool}
    (h : r.toOption.any p = true) : ∃ a, r = .ok a ∧ p a = true := by
  cases r with
  | error => cases h
  | ok a => exact ⟨a, rfl, h⟩

/-- A formula with spaces, needless parentheses and zeros, a lower-case label, and quotes of both
kinds. -/
def looseProduct : String :=
  "(-((1.50) + 'My Data'!a2)) * SUM(A1:B2, \"a\"\"b\")"

/-- A text with loose brackets and quotations is written in its canonical form. -/
theorem ofText_toText_looseProduct :
    ∃ e, ofText looseProduct = .ok e ∧ (∀ x ∈ e.literals, x.isFinite = true) ∧
      e.toText = "-(1.5+'My Data'!A2)*SUM(A1:B2,\"a\"\"b\")" ∧
      (ofText e.toText = .ok e ∨ ∃ position, ofText e.toText = .error (.tooDeep position)) := by
  obtain ⟨e, hread, htest⟩ := exists_ok_of_any (r := ofText looseProduct)
    (p := fun e => e.literals.all Float.isFinite &&
      e.toText == "-(1.5+'My Data'!A2)*SUM(A1:B2,\"a\"\"b\")") (by decide +kernel)
  obtain ⟨hliterals, htext⟩ := Bool.and_eq_true_iff.mp htest
  have hfinite := List.all_eq_true.mp hliterals
  exact ⟨e, hread, hfinite, beq_iff_eq.mp htext, ofText_toText hread hfinite⟩

end Spreadsheet.Formula
