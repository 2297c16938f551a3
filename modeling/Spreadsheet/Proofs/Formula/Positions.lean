import Mathlib.Data.List.Nodup
import Mathlib.Tactic.SplitIfs
import Spreadsheet.Formula.Lexer

/-!
# Tokens in their places

Every token of a text stands where it says: the characters from its position on start with it. The
positions go up from token to token. Where the reader of tokens fails, it names the character at
which no token starts, or the quotation mark that has no partner.
-/

namespace Spreadsheet.Formula

variable {position : Nat} {c delimiter : Char} {cs inner rest : List Char} {token : Token}
  {found : List Located} {err : SyntaxError}

/-! ## What is left behind a token -/

private theorem suffix_of_takeDelimited (h : takeDelimited delimiter cs = some (inner, rest)) :
    rest <:+ cs := by
  fun_induction takeDelimited delimiter cs generalizing inner rest with
  | case1 => cases h
  | case2 =>
    cases h
    exact List.nil_suffix
  | case3 => cases h
  | case4 cs ih =>
    obtain ⟨⟨inner', rest'⟩, htake, heq⟩ := Option.map_eq_some_iff.mp h
    cases heq
    exact ((ih htake).trans (List.suffix_cons _ cs)).trans (List.suffix_cons _ _)
  | case5 =>
    cases h
    exact List.suffix_cons _ _
  | case6 c d cs _ ih =>
    obtain ⟨⟨inner', rest'⟩, htake, heq⟩ := Option.map_eq_some_iff.mp h
    cases heq
    exact (ih htake).trans (List.suffix_cons _ _)

private theorem takeLess_suffix (cs : List Char) : (takeLess cs).2 <:+ cs := by
  unfold takeLess
  split
  · exact List.suffix_cons _ _
  · exact List.suffix_cons _ _
  · exact List.suffix_rfl

private theorem takeGreater_suffix (cs : List Char) : (takeGreater cs).2 <:+ cs := by
  unfold takeGreater
  split
  · exact List.suffix_cons _ _
  · exact List.suffix_rfl

private theorem takeFraction_suffix (cs : List Char) : (Number.takeFraction cs).2 <:+ cs := by
  unfold Number.takeFraction
  split
  · exact (List.dropWhile_suffix _).trans (List.suffix_cons _ _)
  · exact List.suffix_rfl

private theorem suffix_of_takeNumber (h : takeNumber cs = .ok (token, rest)) : rest <:+ cs := by
  simp only [takeNumber] at h
  split at h
  · cases h
  · cases h
    exact (takeFraction_suffix _).trans (List.dropWhile_suffix _)

/-- What is left behind a token is the end of the text, without the first character at least. -/
theorem suffix_of_takeToken (h : takeToken position c cs = .ok (token, rest)) : rest <:+ cs := by
  have hlength := length_takeToken_le h
  have hsuffix : rest <:+ c :: cs := by
    unfold takeToken at h
    split at h
    · cases h
      exact List.suffix_cons _ _
    · split_ifs at h
      · have hless := takeLess_suffix cs
        rw [Except.ok.inj h] at hless
        exact hless.trans (List.suffix_cons _ _)
      · have hgreater := takeGreater_suffix cs
        rw [Except.ok.inj h] at hgreater
        exact hgreater.trans (List.suffix_cons _ _)
      · split at h <;> cases h
        rename_i htake
        exact (suffix_of_takeDelimited htake).trans (List.suffix_cons _ _)
      · split at h <;> cases h
        rename_i htake
        exact (suffix_of_takeDelimited htake).trans (List.suffix_cons _ _)
      · exact suffix_of_takeNumber h
      · cases h
        exact (List.dropWhile_suffix _).trans (List.suffix_cons _ _)
  rcases List.suffix_cons_iff.mp hsuffix with rfl | hsuffix
  · exact absurd hlength (Nat.not_succ_le_self cs.length)
  · exact hsuffix

/-! ## Failures of the reader of tokens -/

/-- Why no token starts with a character. -/
theorem takeToken_eq_error (h : takeToken position c cs = .error err) :
    err = .unexpectedChar c position ∨
      ((c = '"' ∨ c = '\x27') ∧ takeDelimited c cs = none ∧ err = .unterminatedText position) ∨
      ∃ text, err = .invalidNumber text := by
  unfold takeToken at h
  split at h
  · cases h
  · split_ifs at h with hless hgreater hdouble hsingle hdigit hname
    · split at h <;> cases h
      rename_i hnone
      exact .inr (.inl ⟨.inl hdouble, hnone, rfl⟩)
    · split at h <;> cases h
      rename_i hnone
      exact .inr (.inl ⟨.inr hsingle, hnone, rfl⟩)
    · simp only [takeNumber] at h
      split at h
      · cases h
        exact .inr (.inr ⟨_, rfl⟩)
      · cases h
    · cases h
      exact .inl rfl

/-! ## From the first token to the last -/

/-- The characters behind the first `position` ones are white space and the tokens that were found,
each of them where it says. -/
inductive Cuts : Nat → List Char → List Located → Prop where
  /-- Nothing is left. -/
  | finish (position : Nat) : Cuts position [] [⟨.finish, position⟩]
  /-- White space comes first. -/
  | blank {position : Nat} {c : Char} {cs : List Char} {found : List Located}
      (hblank : Text.isBlank c = true) (h : Cuts (position + 1) cs found) :
      Cuts position (c :: cs) found
  /-- A token comes first. -/
  | token {position : Nat} {c : Char} {used rest : List Char} {token : Token}
      {found : List Located} (hblank : Text.isBlank c = false)
      (htake : takeToken position c (used ++ rest) = .ok (token, rest))
      (h : Cuts (position + (c :: used).length) rest found) :
      Cuts position (c :: (used ++ rest)) (⟨token, position⟩ :: found)

/-- White space is passed over. -/
theorem tokensFrom_of_isBlank (hblank : Text.isBlank c = true) :
    tokensFrom position (c :: cs) = tokensFrom (position + 1) cs := by
  rw [tokensFrom, if_pos hblank]

private theorem tokensFrom_of_error (hblank : ¬Text.isBlank c = true)
    (h : takeToken position c cs = .error err) :
    tokensFrom position (c :: cs) = .error err := by
  rw [tokensFrom, if_neg hblank]
  split
  · rename_i heq
    rw [h] at heq
    cases heq
    rfl
  · rename_i heq
    rw [h] at heq
    cases heq

private theorem tokensFrom_of_ok (hblank : ¬Text.isBlank c = true)
    (h : takeToken position c cs = .ok (token, rest)) :
    tokensFrom position (c :: cs) =
      (tokensFrom (position + ((c :: cs).length - rest.length)) rest).map
        (⟨token, position⟩ :: ·) := by
  rw [tokensFrom, if_neg hblank]
  split
  · rename_i heq
    rw [h] at heq
    cases heq
  · rename_i heq
    rw [h] at heq
    cases heq
    split <;> rename_i hrest <;> rw [hrest] <;> rfl

/-- Tokens were found in their places, or the reading failed at a character behind some others. -/
def Locates (position : Nat) (cs : List Char) : Except SyntaxError (List Located) → Prop
  | .ok found => Cuts position cs found
  | .error err => ∃ front c behind, cs = front ++ c :: behind ∧
      takeToken (position + front.length) c behind = .error err

namespace Locates

variable {outcome : Except SyntaxError (List Located)} {used : List Char}

/-- A failure behind some characters. -/
theorem error_append (used : List Char)
    (h : Locates (position + used.length) rest (.error err)) :
    Locates position (used ++ rest) (.error err) := by
  obtain ⟨front, d, behind, rfl, htake⟩ := h
  refine ⟨used ++ front, d, behind, by rw [List.append_assoc], ?_⟩
  rwa [List.length_append, ← Nat.add_assoc]

/-- White space moves the tokens behind it on. -/
theorem blank (hblank : Text.isBlank c = true) (h : Locates (position + 1) cs outcome) :
    Locates position (c :: cs) outcome := by
  cases outcome with
  | ok found => exact Cuts.blank hblank h
  | error err => exact error_append [c] h

/-- A token moves the tokens behind it on by its length. -/
theorem cons (hblank : Text.isBlank c = false)
    (htake : takeToken position c (used ++ rest) = .ok (token, rest))
    (h : Locates (position + (c :: used).length) rest outcome) :
    Locates position (c :: (used ++ rest)) (outcome.map (⟨token, position⟩ :: ·)) := by
  cases outcome with
  | ok found => exact Cuts.token hblank htake h
  | error err => exact error_append (c :: used) h

end Locates

/-- The reader of tokens finds tokens in their places, or it says where it fails. -/
theorem locates_tokensFrom (position : Nat) (cs : List Char) :
    Locates position cs (tokensFrom position cs) := by
  have hstep : ∀ {position c cs token rest}, ¬Text.isBlank c = true →
      takeToken position c cs = .ok (token, rest) →
      Locates (position + ((c :: cs).length - rest.length)) rest
        (tokensFrom (position + ((c :: cs).length - rest.length)) rest) →
      Locates position (c :: cs) (tokensFrom position (c :: cs)) := by
    intro position c cs token rest hblank htake h
    rw [tokensFrom_of_ok hblank htake]
    obtain ⟨used, rfl⟩ := suffix_of_takeToken htake
    have hlength : (c :: (used ++ rest)).length - rest.length = (c :: used).length := by
      simp only [List.length_cons, List.length_append]
      omega
    rw [hlength] at h ⊢
    exact Locates.cons (by simpa using hblank) htake h
  induction position, cs using tokensFrom.induct with
  | case1 position =>
    rw [tokensFrom]
    exact Cuts.finish position
  | case2 position c cs hblank ih =>
    rw [tokensFrom_of_isBlank hblank]
    exact ih.blank hblank
  | case3 position c cs hblank err htake =>
    rw [tokensFrom_of_error hblank htake]
    exact ⟨[], c, cs, rfl, htake⟩
  | case4 position c cs hblank token rest htake hle err hrest ih => exact hstep hblank htake ih
  | case5 position c cs hblank token rest htake hle found hrest ih => exact hstep hblank htake ih

/-- Tokens are cut from the text one after the other. -/
theorem cuts_of_tokensFrom (h : tokensFrom position cs = .ok found) : Cuts position cs found := by
  have hlocates := locates_tokensFrom position cs
  rwa [h] at hlocates

/-! ## Places of tokens -/

namespace Cuts

/-- No token starts before the place from which on tokens are taken. -/
theorem position_le (h : Cuts position cs found) : ∀ t ∈ found, position ≤ t.position := by
  induction h with
  | finish position => exact List.forall_mem_singleton.mpr (Nat.le_refl position)
  | blank hblank h ih => exact fun t ht => Nat.le_of_succ_le (ih t ht)
  | token hblank htake h ih =>
    refine List.forall_mem_cons.mpr ⟨Nat.le_refl _, fun t ht => ?_⟩
    exact Nat.le_trans (Nat.le_add_right _ _) (ih t ht)

/-- The positions go up. -/
theorem pairwise_position (h : Cuts position cs found) :
    found.Pairwise fun t u => t.position < u.position := by
  induction h with
  | finish position => exact List.pairwise_singleton _ _
  | blank hblank h ih => exact ih
  | token hblank htake h ih =>
    refine List.pairwise_cons.mpr ⟨fun u hu => ?_, ih⟩
    exact Nat.lt_of_lt_of_le (Nat.lt_add_of_pos_right (Nat.succ_pos _)) (h.position_le u hu)

/-- No two tokens start at one place. -/
theorem eq_of_position_eq (h : Cuts position cs found) {t u : Located} (ht : t ∈ found)
    (hu : u ∈ found) (heq : t.position = u.position) : t = u := by
  have hnodup : (found.map Located.position).Nodup :=
    List.pairwise_map.mpr (h.pairwise_position.imp fun hlt => Nat.ne_of_lt hlt)
  exact List.inj_on_of_nodup_map hnodup ht hu heq

/-- The characters from the position of a token on start with it. -/
theorem exists_takeToken (h : Cuts position cs found) :
    ∀ t ∈ found, t.token ≠ .finish → ∃ front c behind rest, cs = front ++ c :: behind ∧
      t.position = position + front.length ∧
      takeToken t.position c behind = .ok (t.token, rest) := by
  induction h with
  | finish position => exact List.forall_mem_singleton.mpr fun hne => absurd rfl hne
  | @blank position c cs found hblank h ih =>
    intro t ht hne
    obtain ⟨front, d, behind, rest, rfl, hposition, htake⟩ := ih t ht hne
    refine ⟨c :: front, d, behind, rest, rfl, ?_, htake⟩
    rw [hposition, List.length_cons, Nat.add_assoc, Nat.add_comm 1]
  | @token position c used rest token found hblank htake h ih =>
    refine List.forall_mem_cons.mpr ⟨fun _ => ⟨[], c, _, rest, rfl, rfl, htake⟩, ?_⟩
    intro t ht hne
    obtain ⟨front, d, behind, rest', rfl, hposition, htake'⟩ := ih t ht hne
    refine ⟨c :: (used ++ front), d, behind, rest', by simp, ?_, htake'⟩
    rw [hposition, List.length_cons, List.length_cons, List.length_append]
    omega

end Cuts

end Spreadsheet.Formula
