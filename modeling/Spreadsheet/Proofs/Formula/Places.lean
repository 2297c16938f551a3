import Spreadsheet.Proofs.Formula.Blame
import Spreadsheet.Proofs.Formula.Lexemes
import Spreadsheet.Proofs.Formula.Positions

/-!
# What errors point at

An error in a formula names what is wrong and where. The character at which no token starts, the
opening mark of a quotation without an end and the parenthesis without a partner stand where the
error says. So does a token that stands where it cannot, with one exception: a token that can stand
nowhere behind an entry of a table is reported at the place of the token behind it.
-/

namespace Spreadsheet.Formula

/-- A token of the text starts at the position, where its characters stand. -/
def StartsAt (s : String) (token : Token) (position : Nat) : Prop :=
  (∃ found, tokens s = .ok found ∧ ⟨token, position⟩ ∈ found) ∧
    (token ≠ .finish → ∃ c cs rest, s.toList.drop position = c :: cs ∧
      takeToken position c cs = .ok (token, rest))

/-- What an error names stands in the text where the error says: a token of the same description, a
parenthesis, a quotation mark without a partner, or the character. -/
def SyntaxError.PointsInto (s : String) : SyntaxError → Prop
  | .unexpectedToken found position =>
    ∃ token, StartsAt s token position ∧ token.description = found.description
  | .unmatchedParen position => StartsAt s .openParen position ∨ StartsAt s .closeParen position
  | .unterminatedText position => ∃ c cs, s.toList.drop position = c :: cs ∧
      (c = '"' ∨ c = '\x27') ∧ takeDelimited c cs = none
  | .unexpectedChar c position => s.toList[position]? = some c
  | _ => True

/-- The error is about a token behind an entry of a table, and the place is that of the token behind
it, which has another description. -/
def SyntaxError.Misplaced (s : String) : SyntaxError → Prop
  | .unexpectedToken found position => ∃ before t u behind,
      tokens s = .ok (before ++ t :: u :: behind) ∧ InTable before ∧ t.token = found ∧
        u.position = position ∧ u.token.description ≠ found.description
  | _ => False

variable {s : String} {found : List Located} {err : SyntaxError}

/-- Tokens start where they say. -/
theorem startsAt_of_mem (h : tokens s = .ok found) {t : Located} (ht : t ∈ found) :
    StartsAt s t.token t.position := by
  refine ⟨⟨found, h, ht⟩, fun hne => ?_⟩
  obtain ⟨front, c, behind, rest, heq, hposition, htake⟩ :=
    (cuts_of_tokensFrom h).exists_takeToken t ht hne
  refine ⟨c, behind, rest, ?_, htake⟩
  rw [heq, hposition, Nat.zero_add, List.drop_left]

/-- Where the reader of tokens fails, it says what stands there. -/
theorem pointsInto_of_tokens (h : tokens s = .error err) : err.PointsInto s := by
  have hlocates := locates_tokensFrom 0 s.toList
  rw [← tokens, h] at hlocates
  obtain ⟨front, c, behind, heq, htake⟩ := hlocates
  rw [Nat.zero_add] at htake
  obtain rfl | ⟨hquote, hnone, rfl⟩ | ⟨text, rfl⟩ := takeToken_eq_error htake
  · rw [SyntaxError.PointsInto, heq]
    simp
  · refine ⟨c, behind, ?_, hquote, hnone⟩
    rw [heq, List.drop_left]
  · trivial

/-- Where a token of the given description starts, no token of another one does. -/
theorem SyntaxError.not_misplaced_of_pointsInto (h : err.PointsInto s) : ¬err.Misplaced s := by
  cases err with
  | unexpectedToken name position =>
    rintro ⟨before, t, u, behind, htokens, -, rfl, rfl, hne⟩
    obtain ⟨token, ⟨⟨found, hfound, hmem⟩, -⟩, hdescription⟩ := h
    obtain rfl := Except.ok.inj (htokens.symm.trans hfound)
    have hu : u ∈ before ++ t :: u :: behind := by simp
    have heq := (cuts_of_tokensFrom htokens).eq_of_position_eq hu hmem rfl
    rw [heq] at hne
    exact hne hdescription
  | _ => exact id

/-- What a reader finds wrong in the tokens of a text stands where the error says, or the error is
misplaced. -/
theorem pointsInto_of_blames (h : tokens s = .ok found) (hblames : Blames [] found err) :
    err.PointsInto s ∨ err.Misplaced s := by
  cases err with
  | unexpectedToken name position =>
    obtain ⟨before, t, behind, rfl, rfl, hfinish, ⟨htable, rfl⟩ | ⟨-, rfl⟩⟩ := hblames
    · obtain ⟨body, last, hbody, -⟩ := lexical_of_tokensFrom h
      cases behind with
      | nil =>
        obtain ⟨-, hlast⟩ := List.append_inj' hbody rfl
        obtain rfl := List.singleton_inj.mp hlast
        exact absurd rfl hfinish
      | cons u behind =>
        by_cases hne : u.token.description = t.token.description
        · exact .inl ⟨u.token, startsAt_of_mem h (by simp), hne⟩
        · exact .inr ⟨before, t, u, behind, h, htable, rfl, rfl, hne⟩
    · exact .inl ⟨t.token, startsAt_of_mem h (by simp), rfl⟩
  | unmatchedParen position =>
    obtain ⟨t, ht, rfl, hparen⟩ := hblames
    have hstarts := startsAt_of_mem h ht
    refine .inl (hparen.imp (fun hopen => ?_) fun hclose => ?_)
    · rwa [hopen] at hstarts
    · rwa [hclose] at hstarts
  | unexpectedChar c position => exact hblames.elim
  | unterminatedText position => exact hblames.elim
  | _ => exact .inl trivial

/-- An error in a text points at what it names, unless it is about a token that can stand nowhere
behind an entry of a table and the token behind it has another description. -/
theorem pointsInto_iff_not_misplaced (h : ofText s = .error err) :
    err.PointsInto s ↔ ¬err.Misplaced s := by
  refine ⟨SyntaxError.not_misplaced_of_pointsInto, fun hplaced => ?_⟩
  rw [ofText, bind_eq_error_iff] at h
  obtain htokens | ⟨found, htokens, hparse⟩ := h
  · exact pointsInto_of_tokens htokens
  · obtain ⟨body, position, rfl, -⟩ := lexical_of_tokensFrom htokens
    have hblames := blames_of_parse hparse
    rw [closed_append, List.append_cons] at hblames
    exact (pointsInto_of_blames htokens (hblames.of_concat rfl)).resolve_right hplaced

/-- The error of a reading that failed. -/
def failure? {α : Type} : Except SyntaxError α → Option SyntaxError
  | .ok _ => none
  | .error err => some err

private theorem eq_error_of_failure? {α : Type} {outcome : Except SyntaxError α}
    (h : failure? outcome = some err) : outcome = .error err := by
  cases outcome with
  | ok a => cases h
  | error err' => exact congrArg Except.error (Option.some.inj h)

/-- A table in a call, with a colon behind a truth value. -/
def colonInTable : String := "SUM(\x7b1;TRUE:\x7d,2)"

/-- The colon is reported at the place of the closing brace. -/
theorem pointsInto_iff_not_misplaced_colonInTable :
    ofText colonInTable = .error (.unexpectedToken .colon 12) ∧
      (SyntaxError.unexpectedToken .colon 12).Misplaced colonInTable ∧
      ¬(SyntaxError.unexpectedToken .colon 12).PointsInto colonInTable := by
  have hread : ofText colonInTable = .error (.unexpectedToken .colon 12) :=
    eq_error_of_failure? (by decide +kernel)
  have htokens : tokens colonInTable = .ok
      [ ⟨.name "SUM", 0⟩, ⟨.openParen, 3⟩, ⟨.openBrace, 4⟩, ⟨.number 1, 5⟩, ⟨.semicolon, 6⟩,
        ⟨.name "TRUE", 7⟩, ⟨.colon, 11⟩, ⟨.closeBrace, 12⟩, ⟨.comma, 13⟩, ⟨.number 2, 14⟩,
        ⟨.closeParen, 15⟩, ⟨.finish, 16⟩ ] := by
    decide +kernel
  have hmisplaced : (SyntaxError.unexpectedToken .colon 12).Misplaced colonInTable := by
    refine ⟨[ ⟨.name "SUM", 0⟩, ⟨.openParen, 3⟩, ⟨.openBrace, 4⟩, ⟨.number 1, 5⟩, ⟨.semicolon, 6⟩,
      ⟨.name "TRUE", 7⟩ ], ⟨.colon, 11⟩, ⟨.closeBrace, 12⟩, _, htokens, ⟨rfl, ?_⟩, rfl, rfl, ?_⟩
    · exact ⟨⟨.name "TRUE", 7⟩, rfl, .inl ⟨true, truthValue?_eq_some_iff.mp (by decide +kernel)⟩⟩
    · decide
  refine ⟨hread, hmisplaced, fun hpoints => ?_⟩
  exact (pointsInto_iff_not_misplaced hread).mp hpoints hmisplaced

/-- Not every error points at what it names. In a row of a table without a comma, the second number
is reported at the place of the closing brace. -/
theorem not_pointsInto :
    ¬∀ (s : String) (err : SyntaxError), ofText s = .error err → err.PointsInto s := by
  intro hall
  have hread : ofText "\x7b1 2\x7d" = .error (.unexpectedToken (.number 2) 4) :=
    eq_error_of_failure? (by decide +kernel)
  have htokens : tokens "\x7b1 2\x7d" = .ok ([⟨.openBrace, 0⟩, ⟨.number 1, 1⟩] ++
      ⟨.number 2, 3⟩ :: ⟨.closeBrace, 4⟩ :: [⟨.finish, 5⟩]) := by
    decide +kernel
  refine SyntaxError.not_misplaced_of_pointsInto (hall _ _ hread) ?_
  exact ⟨_, _, _, _, htokens, ⟨rfl, ⟨.number 1, 1⟩, rfl, trivial⟩, rfl, rfl, by decide +kernel⟩

end Spreadsheet.Formula
