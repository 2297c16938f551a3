import Spreadsheet.Function.Math
import Spreadsheet.Proofs.Number.Monotone

/-!
# Random numbers between two bounds

A random number is drawn among the signed words of 64 bits between two bounds, and its double is the
answer. Every word between the bounds can be drawn. The double of a word lies between the bounds
even where the word itself is no double, because rounding keeps the order. Bounds that are both
beyond all words are held at the greatest or the least word, which does not lie between them.
-/

namespace Spreadsheet.Function

open Number

variable {ambient : Ambient} {args : List Value} {bottom top : Float} {n : Int}

/-- The answer is the error of a number that there is not, or an integer between the bounds. -/
def IsBetween (bottom top : Float) (answer : Value) : Prop :=
  answer = .error .invalidNumber ∨
    ∃ r, answer = .number r ∧ (∃ n, IsExactly r n) ∧ bottom ≤ r ∧ r ≤ top

/-- The power of two that the signed words of 64 bits do not reach. -/
def wordBound : Float := 9223372036854775808.0

/-- The bounds are numbers in order, but both are greater or both are smaller than the double of
every signed word of 64 bits. -/
structure BeyondWords (bottom top : Float) : Prop where
  /-- The lower bound is a number. -/
  bottom_finite : bottom.isFinite = true
  /-- The upper bound is a number. -/
  top_finite : top.isFinite = true
  /-- The bounds are in order. -/
  ordered : bottom ≤ top
  /-- No double of a word reaches them. -/
  beyond : wordBound < bottom ∨ top < -wordBound

/-! ## The double of the greatest word -/

private theorem standsFor_wordBound : StandsFor wordBound ⟨false, 2 ^ 52, 11⟩ :=
  ⟨rfl, rfl, by decide⟩

private theorem value_wordBound : Binary.value ⟨false, 2 ^ 52, 11⟩ = 2 ^ 63 := by
  rw [Binary.value]
  norm_num

private theorem isFinite_wordBound : wordBound.isFinite = true :=
  (isFinite_iff _).mpr ⟨_, standsFor_wordBound.form_eq⟩

/-- The least number that is too great for a word. -/
theorem toRat_wordBound : toRat wordBound = 2 ^ 63 :=
  standsFor_wordBound.toRat_eq.trans value_wordBound

private theorem isFinite_neg_wordBound : (-wordBound).isFinite = true :=
  (isFinite_iff _).mpr ⟨_, form_neg_of_standsFor standsFor_wordBound⟩

private theorem toRat_neg_wordBound : toRat (-wordBound) = -2 ^ 63 :=
  (toRat_neg_of_standsFor standsFor_wordBound).trans (congrArg _ value_wordBound)

/-! ## What is drawn -/

/-- A number is drawn if there is an integer between the bounds. -/
theorem randomBetween_eq (ambient : Ambient) (args : List Value) :
    randomBetween ambient args =
      if (numberAt args 0 0.0).isFinite = true ∧ (numberAt args 1 0.0).isFinite = true ∧
          ⌈toRat (numberAt args 0 0.0)⌉ ≤ ⌊toRat (numberAt args 1 0.0)⌋ then
        .number (Float.ofInt (ambient.between (heldInWord ⌈toRat (numberAt args 0 0.0)⌉)
          (heldInWord ⌊toRat (numberAt args 1 0.0)⌋)))
      else .error .invalidNumber := by
  unfold randomBetween
  generalize numberAt args 0 0.0 = bottom
  generalize numberAt args 1 0.0 = top
  dsimp only
  by_cases hbottom : bottom.isFinite = true
  · by_cases htop : top.isFinite = true
    · have hceil := isExactly_ceiling hbottom
      have hfloor := isExactly_floor htop
      have hless : floor top < ceiling bottom ↔ ⌊toRat top⌋ < ⌈toRat bottom⌉ := by
        rw [lt_iff_toRat_lt hfloor.isFinite hceil.isFinite, hfloor.toRat_eq, hceil.toRat_eq]
        exact Int.cast_lt
      rw [hceil.toInt64_eq, hfloor.toInt64_eq, hceil.isFinite, hfloor.isFinite]
      by_cases hordered : ⌈toRat bottom⌉ ≤ ⌊toRat top⌋
      · have hnot : ¬floor top < ceiling bottom := mt hless.mp hordered.not_gt
        rw [if_neg (by simp [hnot]), if_pos ⟨hbottom, htop, hordered⟩]
      · have hlt : floor top < ceiling bottom := hless.mpr (not_le.mp hordered)
        rw [if_pos (by simp [hlt]), if_neg fun h => hordered h.2.2]
    · have hfloor : (floor top).isFinite = false :=
        Bool.eq_false_iff.mpr fun h => htop (isFinite_of_isFinite_round h)
      simp [htop, hfloor]
  · have hceil : (ceiling bottom).isFinite = false :=
      Bool.eq_false_iff.mpr fun h => hbottom (isFinite_of_isFinite_round h)
    simp [hbottom, hceil]

/-- What is held in words stays in order. -/
theorem heldInWord_mono {m : Int} (h : m ≤ n) : heldInWord m ≤ heldInWord n := by
  unfold heldInWord
  omega

private theorem heldInWord_bounds (n : Int) :
    -2 ^ 63 ≤ heldInWord n ∧ heldInWord n ≤ 2 ^ 63 - 1 := by
  unfold heldInWord
  omega

/-- Each integer between the words that are given can be drawn. -/
theorem exists_between_eq (ambient : Ambient) {least greatest : Int} (hlow : least ≤ n)
    (hhigh : n ≤ greatest) : ∃ draw, { ambient with draw }.between least greatest = n := by
  refine ⟨(n - least).toNat, ?_⟩
  have hrest : (n - least) % (greatest - least + 1) = n - least :=
    Int.emod_eq_of_lt (by omega) (by omega)
  unfold Ambient.between
  rw [Int.toNat_of_nonneg (by omega), hrest]
  omega

/-- Every word between the bounds is the answer for some number that is drawn. -/
theorem exists_randomBetween_eq (ambient : Ambient)
    (hbottom : (numberAt args 0 0.0).isFinite = true)
    (htop : (numberAt args 1 0.0).isFinite = true) (hword : -2 ^ 63 ≤ n ∧ n ≤ 2 ^ 63 - 1)
    (hbetween : toRat (numberAt args 0 0.0) ≤ n ∧ n ≤ toRat (numberAt args 1 0.0)) :
    ∃ draw, randomBetween { ambient with draw } args = .number (Float.ofInt n) := by
  have hceil : ⌈toRat (numberAt args 0 0.0)⌉ ≤ n := Int.ceil_le.mpr hbetween.1
  have hfloor : n ≤ ⌊toRat (numberAt args 1 0.0)⌋ := Int.le_floor.mpr hbetween.2
  have hheld : heldInWord n = n := by
    unfold heldInWord
    omega
  have hlow := heldInWord_mono hceil
  have hhigh := heldInWord_mono hfloor
  rw [hheld] at hlow hhigh
  obtain ⟨draw, hdraw⟩ := exists_between_eq ambient hlow hhigh
  refine ⟨draw, ?_⟩
  rw [randomBetween_eq, if_pos ⟨hbottom, htop, hceil.trans hfloor⟩, hdraw]

/-- A drawn word is not below a lower bound that words reach. -/
theorem bottom_le_ofInt (hbottom : bottom.isFinite = true) (hword : bottom ≤ wordBound)
    (hlow : heldInWord ⌈toRat bottom⌉ ≤ n) (hhigh : n ≤ 2 ^ 63 - 1) : bottom ≤ Float.ofInt n := by
  have hheld := heldInWord_bounds ⌈toRat bottom⌉
  by_cases hreached : ⌈toRat bottom⌉ ≤ 2 ^ 63 - 1
  · have hle : ⌈toRat bottom⌉ ≤ n := by
      unfold heldInWord at hlow
      omega
    exact le_ofInt (by omega) hbottom (Int.ceil_le.mp hle)
  · -- The bound is the double of the greatest word, but it is one greater than the word itself.
    have hgreatest : n = 2 ^ 63 - 1 := by
      unfold heldInWord at hlow
      omega
    subst hgreatest
    exact hword

/-- A drawn word is not above an upper bound that words reach. -/
theorem ofInt_le_top (htop : top.isFinite = true) (hword : -wordBound ≤ top)
    (hlow : -2 ^ 63 ≤ n) (hhigh : n ≤ heldInWord ⌊toRat top⌋) : Float.ofInt n ≤ top := by
  have hheld := heldInWord_bounds ⌊toRat top⌋
  have hfloor : -2 ^ 63 ≤ ⌊toRat top⌋ := by
    rw [le_iff_toRat_le isFinite_neg_wordBound htop, toRat_neg_wordBound] at hword
    exact Int.le_floor.mpr (by exact_mod_cast hword)
  have hle : n ≤ ⌊toRat top⌋ := by
    unfold heldInWord at hhigh
    omega
  exact ofInt_le (by omega) htop (Int.le_floor.mp hle)

/-! ## Bounds beyond all words -/

private theorem BeyondWords.lt_bottom_or (h : BeyondWords bottom top) :
    2 ^ 63 < toRat bottom ∨ toRat top < -2 ^ 63 := by
  have hbeyond := h.beyond
  rwa [lt_iff_toRat_lt isFinite_wordBound h.bottom_finite, toRat_wordBound,
    lt_iff_toRat_lt h.top_finite isFinite_neg_wordBound, toRat_neg_wordBound] at hbeyond

/-- Between bounds beyond all words there are integers, as the bounds are integers themselves. -/
theorem BeyondWords.ceil_le_floor (h : BeyondWords bottom top) :
    ⌈toRat bottom⌉ ≤ ⌊toRat top⌋ := by
  have hordered := (le_iff_toRat_le h.bottom_finite h.top_finite).mp h.ordered
  have hlarge : (2 : ℚ) ^ 52 ≤ |toRat bottom| := by
    rcases h.lt_bottom_or with habove | hbelow
    · exact le_trans (by linarith) (le_abs_self _)
    · exact le_trans (by linarith) (neg_le_abs _)
  obtain ⟨n, hn⟩ := exists_toRat_eq_of_le_abs h.bottom_finite hlarge
  rw [hn] at hordered ⊢
  rw [Int.ceil_intCast]
  exact Int.le_floor.mpr hordered

/-- The double of a word lies on this side of bounds beyond all words. -/
theorem BeyondWords.not_between (h : BeyondWords bottom top) (hlow : -2 ^ 63 ≤ n)
    (hhigh : n ≤ 2 ^ 63 - 1) : ¬(bottom ≤ Float.ofInt n ∧ Float.ofInt n ≤ top) := by
  have hfinite : (Float.ofInt n).isFinite = true := isFinite_ofInt (by omega)
  rw [le_iff_toRat_le h.bottom_finite hfinite, le_iff_toRat_le hfinite h.top_finite]
  rintro ⟨hle, hge⟩
  rcases h.lt_bottom_or with habove | hbelow
  · have hword : Float.ofInt n ≤ wordBound := by
      refine ofInt_le (by omega) isFinite_wordBound ?_
      rw [toRat_wordBound]
      exact_mod_cast (by omega : n ≤ 2 ^ 63)
    rw [le_iff_toRat_le hfinite isFinite_wordBound, toRat_wordBound] at hword
    exact absurd (hle.trans hword) habove.not_ge
  · have hword : -wordBound ≤ Float.ofInt n := by
      refine le_ofInt (by omega) isFinite_neg_wordBound ?_
      rw [toRat_neg_wordBound]
      exact_mod_cast hlow
    rw [le_iff_toRat_le isFinite_neg_wordBound hfinite, toRat_neg_wordBound] at hword
    exact absurd (hword.trans hge) hbelow.not_ge

/-- Between bounds beyond all words a number is drawn, and it is not between the bounds. -/
theorem not_isBetween_of_beyondWords (ambient : Ambient)
    (h : BeyondWords (numberAt args 0 0.0) (numberAt args 1 0.0)) :
    ¬IsBetween (numberAt args 0 0.0) (numberAt args 1 0.0) (randomBetween ambient args) := by
  have hdrawn := ambient.between_mem (heldInWord_mono h.ceil_le_floor)
  have hlow := heldInWord_bounds ⌈toRat (numberAt args 0 0.0)⌉
  have hhigh := heldInWord_bounds ⌊toRat (numberAt args 1 0.0)⌋
  rw [randomBetween_eq, if_pos ⟨h.bottom_finite, h.top_finite, h.ceil_le_floor⟩]
  rintro (herror | ⟨r, hr, -, hbetween⟩)
  · cases herror
  · cases hr
    exact h.not_between (by omega) (by omega) hbetween

/-! ## Bounds that words reach -/

/-- Between bounds that are not both beyond all words, each drawn word has a double between them. -/
theorem isBetween_of_not_beyondWords (ambient : Ambient)
    (h : ¬BeyondWords (numberAt args 0 0.0) (numberAt args 1 0.0)) :
    IsBetween (numberAt args 0 0.0) (numberAt args 1 0.0) (randomBetween ambient args) := by
  rw [randomBetween_eq]
  split_ifs with hnumbers
  · obtain ⟨hbottom, htop, hintegers⟩ := hnumbers
    have hordered : numberAt args 0 0.0 ≤ numberAt args 1 0.0 := by
      rw [le_iff_toRat_le hbottom htop]
      exact (Int.le_ceil _).trans ((Int.cast_le.mpr hintegers).trans (Int.floor_le _))
    have hdrawn := ambient.between_mem (heldInWord_mono hintegers)
    have hlow := heldInWord_bounds ⌈toRat (numberAt args 0 0.0)⌉
    have hhigh := heldInWord_bounds ⌊toRat (numberAt args 1 0.0)⌋
    refine .inr ⟨_, rfl, exists_isExactly_ofInt (by omega), ?_, ?_⟩
    · refine bottom_le_ofInt hbottom ?_ hdrawn.1 (by omega)
      rw [← not_lt_iff_le isFinite_wordBound hbottom]
      exact fun habove => h ⟨hbottom, htop, hordered, .inl habove⟩
    · refine ofInt_le_top htop ?_ (by omega) hdrawn.2
      rw [← not_lt_iff_le htop isFinite_neg_wordBound]
      exact fun hbelow => h ⟨hbottom, htop, hordered, .inr hbelow⟩
  · exact .inl rfl

/-- Whatever is drawn, a random number between two bounds is an integer between them, or the error
of a number if there is none, but for bounds that are both beyond all words. -/
theorem isBetween_randomBetween_iff (ambient : Ambient) (args : List Value) :
    IsBetween (numberAt args 0 0.0) (numberAt args 1 0.0) (randomBetween ambient args) ↔
      ¬BeyondWords (numberAt args 0 0.0) (numberAt args 1 0.0) :=
  ⟨fun hbetween hbeyond => not_isBetween_of_beyondWords ambient hbeyond hbetween,
    isBetween_of_not_beyondWords ambient⟩

/-- Both bounds are ten to the nineteenth, the only integer between them. The answer is smaller: it
is the double of the greatest word, which is all that can be drawn. -/
theorem not_isBetween_randomBetween_of_large :
    randomBetween ⟨⟨2024, 1, 1⟩, 0, 7⟩ [.number 1e19, .number 1e19] = .number wordBound ∧
      ¬IsBetween 1e19 1e19
        (randomBetween ⟨⟨2024, 1, 1⟩, 0, 7⟩ [.number 1e19, .number 1e19]) := by
  have hbeyond : BeyondWords (numberAt [.number 1e19, .number 1e19] 0 0.0)
      (numberAt [.number 1e19, .number 1e19] 1 0.0) :=
    ⟨by decide, by decide, by decide, .inl (by decide)⟩
  exact ⟨rfl, not_isBetween_of_beyondWords _ hbeyond⟩

end Spreadsheet.Function
