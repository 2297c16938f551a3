import Spreadsheet.Formula.Error
import Spreadsheet.Number.Leading
import Spreadsheet.Text.Blank

/-!
# Reading tokens

Tokens are read from left to right, each as long as possible, and white space between them is passed
over. Every reader returns the characters behind its token; they are fewer than it was given, which
is why the reading ends.
-/

namespace Spreadsheet.Formula

/-- A character that may stand at the start of a name. -/
def startsName (c : Char) : Bool :=
  c.isUpper || c.isLower || c == '_'

/-- A character that may stand in a name behind its start. -/
def continuesName (c : Char) : Bool :=
  startsName c || Number.isDigit c || c == '.'

/-- The text up to the closing delimiter and the characters behind it. A doubled delimiter stands
for itself. -/
def takeDelimited (delimiter : Char) : List Char → Option (List Char × List Char)
  | [] => none
  | [c] => if c = delimiter then some ([], []) else none
  | c :: d :: cs =>
    if c = delimiter then
      if d = delimiter then
        (takeDelimited delimiter cs).map fun (inner, rest) => (delimiter :: inner, rest)
      else some ([], d :: cs)
    else (takeDelimited delimiter (d :: cs)).map fun (inner, rest) => (c :: inner, rest)

/-- The number at the front, digits with at most one point, and the characters behind it. -/
def takeNumber (cs : List Char) : Except SyntaxError (Token × List Char) :=
  let (whole, behindWhole) := Number.takeDigits cs
  let (fraction, rest) := Number.takeFraction behindWhole
  if whole.isEmpty && fraction.isEmpty then
    .error (.invalidNumber (String.ofList (cs.take (cs.length - rest.length))))
  else
    let digits := Number.ofDigits (whole ++ fraction)
    .ok (.number (Number.ofDecimal digits (-(fraction.length : Int))), rest)

/-- The token that starts with the sign `<`. -/
def takeLess : List Char → Token × List Char
  | '>' :: cs => (.notEqual, cs)
  | '=' :: cs => (.lessEqual, cs)
  | cs => (.less, cs)

/-- The token that starts with the sign `>`. -/
def takeGreater : List Char → Token × List Char
  | '=' :: cs => (.greaterEqual, cs)
  | cs => (.greater, cs)

/-- The token that a single character is by itself. -/
def Token.ofChar? : Char → Option Token
  | '+' => some .plus
  | '-' => some .minus
  | '*' => some .times
  | '/' => some .over
  | '^' => some .caret
  | '&' => some .ampersand
  | '=' => some .equal
  | '(' => some .openParen
  | ')' => some .closeParen
  | '\x7b' => some .openBrace
  | '\x7d' => some .closeBrace
  | ',' => some .comma
  | ':' => some .colon
  | ';' => some .semicolon
  | '!' => some .exclamation
  | _ => none

/-- The token that starts with the character `c` and goes on with `cs`, and the characters behind
it. -/
def takeToken (position : Nat) (c : Char) (cs : List Char) :
    Except SyntaxError (Token × List Char) :=
  match Token.ofChar? c with
  | some token => .ok (token, cs)
  | none =>
    if c = '<' then .ok (takeLess cs)
    else if c = '>' then .ok (takeGreater cs)
    else if c = '"' then
      match takeDelimited c cs with
      | some (inner, rest) => .ok (.text (String.ofList inner), rest)
      | none => .error (.unterminatedText position)
    else if c = '\x27' then
      match takeDelimited c cs with
      | some (inner, rest) => .ok (.quotedName (String.ofList inner), rest)
      | none => .error (.unterminatedText position)
    else if Number.isDigit c || c == '.' then takeNumber (c :: cs)
    else if startsName c then
      .ok (.name (String.ofList (c :: cs.takeWhile continuesName)), cs.dropWhile continuesName)
    else .error (.unexpectedChar c position)

/-- Dropping from the front leaves no more than there was. -/
theorem length_dropWhile_le (p : Char → Bool) (cs : List Char) :
    (cs.dropWhile p).length ≤ cs.length :=
  (List.dropWhile_sublist p).length_le

/-- A quotation leaves no more than it was given. -/
theorem length_takeDelimited_le {delimiter : Char} {cs inner rest : List Char}
    (h : takeDelimited delimiter cs = some (inner, rest)) : rest.length ≤ cs.length := by
  fun_induction takeDelimited delimiter cs generalizing inner rest with
  | case1 => cases h
  | case2 => cases h; simp
  | case3 => cases h
  | case4 cs ih =>
    obtain ⟨⟨inner', rest'⟩, ht, he⟩ := Option.map_eq_some_iff.mp h
    cases he
    have := ih ht
    simp
    omega
  | case5 => cases h; simp
  | case6 c d cs _ ih =>
    obtain ⟨⟨inner', rest'⟩, ht, he⟩ := Option.map_eq_some_iff.mp h
    cases he
    have := ih ht
    simp at this ⊢
    omega

/-- What follows the sign `<` is no more than there was. -/
theorem length_takeLess_le (cs : List Char) : (takeLess cs).2.length ≤ cs.length := by
  unfold takeLess
  split <;> simp

/-- What follows the sign `>` is no more than there was. -/
theorem length_takeGreater_le (cs : List Char) : (takeGreater cs).2.length ≤ cs.length := by
  unfold takeGreater
  split <;> simp

/-- What follows a fraction is no more than there was. -/
theorem length_takeFraction_le (cs : List Char) :
    (Number.takeFraction cs).2.length ≤ cs.length := by
  unfold Number.takeFraction
  split
  · exact Nat.le_succ_of_le (length_dropWhile_le _ _)
  · exact Nat.le_refl _

/-- A number takes at least the digit or the point that it starts with. -/
theorem length_takeNumber_le {c : Char} {cs rest : List Char} {token : Token}
    (hc : (Number.isDigit c || c == '.') = true)
    (h : takeNumber (c :: cs) = .ok (token, rest)) : rest.length ≤ cs.length := by
  simp only [takeNumber] at h
  split at h
  · cases h
  · cases h
    by_cases hd : Number.isDigit c = true
    · refine Nat.le_trans (length_takeFraction_le _) ?_
      simpa [Number.takeDigits, hd] using length_dropWhile_le Number.isDigit cs
    · have hp : c = '.' := by simpa [hd] using hc
      subst hp
      have hd : Number.isDigit '.' = false := rfl
      simpa [Number.takeDigits, Number.takeFraction, hd] using
        length_dropWhile_le Number.isDigit cs

/-- A token takes at least the character that it starts with. -/
theorem length_takeToken_le {position : Nat} {c : Char} {cs rest : List Char} {token : Token}
    (h : takeToken position c cs = .ok (token, rest)) : rest.length ≤ cs.length := by
  unfold takeToken at h
  split at h
  · cases h
    exact Nat.le_refl _
  · split at h
    · have hl := length_takeLess_le cs
      rw [Except.ok.inj h] at hl
      exact hl
    · split at h
      · have hg := length_takeGreater_le cs
        rw [Except.ok.inj h] at hg
        exact hg
      · split at h
        · split at h
          · next hd => cases h; exact length_takeDelimited_le hd
          · cases h
        · split at h
          · split at h
            · next hd => cases h; exact length_takeDelimited_le hd
            · cases h
          · split at h
            · next hc => exact length_takeNumber_le hc h
            · split at h
              · cases h
                exact length_dropWhile_le _ _
              · cases h

/-- The tokens of the characters that follow the first `position` characters. -/
def tokensFrom (position : Nat) (cs : List Char) : Except SyntaxError (List Located) :=
  match cs with
  | [] => .ok [⟨.finish, position⟩]
  | c :: cs =>
    if Text.isBlank c then tokensFrom (position + 1) cs
    else
      match h : takeToken position c cs with
      | .error e => .error e
      | .ok (token, rest) =>
        have : rest.length ≤ cs.length := length_takeToken_le h
        match tokensFrom (position + ((c :: cs).length - rest.length)) rest with
        | .error e => .error e
        | .ok tokens => .ok (⟨token, position⟩ :: tokens)
termination_by cs.length
decreasing_by
  · exact Nat.lt_succ_self cs.length
  · exact Nat.lt_succ_of_le this

/-- The tokens of a text, the mark of the end included. -/
def tokens (s : String) : Except SyntaxError (List Located) :=
  tokensFrom 0 s.toList

end Spreadsheet.Formula
