import Mathlib.Data.List.Induction
import Mathlib.Data.Nat.Digits.Defs
import Spreadsheet.Proofs.Address.Label

/-!
# Columns and their labels

Labels and columns are inverse to each other up to the last column, if small letters count as
capital ones. A label may be read letter by letter with every product and every sum held in a word:
this passes no column that exists, however long the label is, since the number that is read never
becomes smaller.
-/

namespace Spreadsheet.Column

variable {letters : List Char} {c : Char} {n : Nat}

/-! ## Letters -/

private theorem capital_of_lt :
    ∀ n < 26, Text.upperAscii (Char.ofNat (65 + n)) = letter n ∧
      letterValue (Char.ofNat (65 + n)) = n + 1 := by
  decide

private theorem small_of_lt :
    ∀ n < 26, Text.upperAscii (Char.ofNat (97 + n)) = letter n ∧
      letterValue (Char.ofNat (97 + n)) = n + 1 := by
  decide

/-- In upper case, a letter is the one with its value. -/
theorem exists_letter_eq (h : isLetter c = true) :
    ∃ n < 26, Text.upperAscii c = letter n ∧ letterValue c = n + 1 := by
  have hfrom : ∀ first, first ≤ c.toNat →
      ∃ n, c.toNat = first + n ∧ c = Char.ofNat (first + n) := by
    intro first hle
    obtain ⟨n, hn⟩ := Nat.exists_eq_add_of_le hle
    exact ⟨n, hn, by rw [← hn, Char.ofNat_toNat]⟩
  rw [isLetter, Bool.or_eq_true] at h
  rcases h with hcapital | hsmall
  · have hcode : 65 ≤ c.toNat ∧ c.toNat ≤ 90 := of_decide_eq_true hcapital
    obtain ⟨n, hn, hc⟩ := hfrom 65 hcode.1
    have hlt : n < 26 := by omega
    exact ⟨n, hlt, hc ▸ capital_of_lt n hlt⟩
  · have hcode : 97 ≤ c.toNat ∧ c.toNat ≤ 122 :=
      (Bool.and_eq_true_iff.mp hsmall).imp of_decide_eq_true of_decide_eq_true
    obtain ⟨n, hn, hc⟩ := hfrom 97 hcode.1
    have hlt : n < 26 := by omega
    exact ⟨n, hlt, hc ▸ small_of_lt n hlt⟩

/-! ## Labels and their numbers -/

/-- A word of a row or a column holds the number. -/
def held? (n : Nat) : Option Nat :=
  if n ≤ axisLimit then some n else none

/-- A number is held if it is within the limit of an axis. -/
theorem held?_eq_some_iff {m : Nat} : held? m = some n ↔ m = n ∧ n ≤ axisLimit := by
  rw [held?, Option.ite_none_right_eq_some, Option.some.injEq]
  exact ⟨fun ⟨hle, heq⟩ => ⟨heq, heq ▸ hle⟩, fun ⟨heq, hle⟩ => ⟨heq ▸ hle, heq⟩⟩

/-- Letters are read as the number that they stand for, if this number is held. -/
theorem ofLabel?_eq_held? (hne : letters ≠ []) (h : ∀ c ∈ letters, isLetter c = true) :
    ofLabel? letters = held? (value letters) := by
  have hempty : letters.isEmpty = false := List.isEmpty_eq_false_iff.mpr hne
  have hall : letters.all isLetter = true := List.all_eq_true.mpr h
  rw [ofLabel?, hempty, hall]
  rfl

/-- Only letters label a column. -/
theorem isLetter_of_ofLabel? (h : ofLabel? letters = some n) :
    letters ≠ [] ∧ ∀ c ∈ letters, isLetter c = true := by
  unfold ofLabel? at h
  split_ifs at h with hshape
  simpa using hshape

/-- The number of some letters has their values as digits, the last one being the least significant
one. -/
theorem value_eq_ofDigits (letters : List Char) :
    value letters = Nat.ofDigits 26 (letters.map letterValue).reverse := by
  induction letters using List.reverseRecOn with
  | nil => rfl
  | append_singleton letters c ih =>
    rw [value_append_singleton, List.map_append, List.reverse_append, List.map_singleton,
      List.reverse_singleton, List.singleton_append, Nat.ofDigits_cons, ih]
    exact Nat.add_comm _ _

/-- The label of the number of some letters consists of these letters. -/
theorem label_value (h : ∀ c ∈ letters, isLetter c = true) :
    label (value letters) = letters.map Text.upperAscii := by
  induction letters using List.reverseRecOn with
  | nil => rw [value, List.foldl_nil, label, if_pos rfl, List.map_nil]
  | append_singleton letters c ih =>
    obtain ⟨n, hn, hupper, hvalue⟩ := exists_letter_eq (h c (by simp))
    have hfront := ih fun c hc => h c (List.mem_append_left _ hc)
    -- The last letter is the remainder, since its value less one is below the base.
    have hdiv : (value (letters ++ [c]) - 1) / 26 = value letters := by
      rw [value_append_singleton, hvalue]
      omega
    have hmod : (value (letters ++ [c]) - 1) % 26 = n := by
      rw [value_append_singleton, hvalue]
      omega
    have hpos : value (letters ++ [c]) ≠ 0 := (value_pos (by simp)).ne'
    rw [label_of_pos hpos, hdiv, hmod, hfront, List.map_append, List.map_singleton, hupper]

/-- The label of a column is read as this column. -/
theorem ofLabel?_label (hpos : 1 ≤ n) (hle : n ≤ axisLimit) : ofLabel? (label n) = some n := by
  rw [ofLabel?_eq_held? (label_ne_nil (Nat.ne_of_gt hpos)) fun _ => isLetter_of_mem_label,
    value_label, held?, if_pos hle]

/-- The label of the column that is found by some letters consists of these letters. -/
theorem label_of_ofLabel? (h : ofLabel? letters = some n) :
    1 ≤ n ∧ label n = letters.map Text.upperAscii := by
  obtain ⟨hne, hletters⟩ := isLetter_of_ofLabel? h
  rw [ofLabel?_eq_held? hne hletters] at h
  obtain ⟨rfl, -⟩ := held?_eq_some_iff.mp h
  exact ⟨value_pos hne, label_value hletters⟩

/-! ## Labels read letter by letter -/

/-- The number that is read so far with one letter more behind it; the product and the sum are held
in words. -/
def readLetter? (n : Nat) (c : Char) : Option Nat :=
  if isLetter c then (held? (n * 26)).bind fun product => held? (product + letterValue c) else none

/-- The column with the given label, read letter by letter. -/
def readLabel? (letters : List Char) : Option Nat :=
  if letters.isEmpty then none else letters.foldlM readLetter? 0

/-- A letter is read if a word holds the longer number, since it holds the product then. -/
theorem readLetter?_eq_some_iff {m : Nat} :
    readLetter? m c = some n ↔ isLetter c = true ∧ 26 * m + letterValue c = n ∧ n ≤ axisLimit := by
  rw [readLetter?, Option.ite_none_right_eq_some, Option.bind_eq_some_iff]
  refine and_congr_right fun _ => ⟨?_, ?_⟩
  · rintro ⟨product, hproduct, hsum⟩
    obtain ⟨rfl, -⟩ := held?_eq_some_iff.mp hproduct
    obtain ⟨rfl, hle⟩ := held?_eq_some_iff.mp hsum
    exact ⟨by rw [Nat.mul_comm], hle⟩
  · rintro ⟨rfl, hle⟩
    refine ⟨m * 26, held?_eq_some_iff.mpr ⟨rfl, by omega⟩, held?_eq_some_iff.mpr ⟨?_, hle⟩⟩
    rw [Nat.mul_comm]

/-- Letters are read one after the other as long as a word holds what is read so far. -/
theorem foldlM_readLetter?_eq_some_iff (letters : List Char) :
    letters.foldlM readLetter? 0 = some n ↔
      (∀ c ∈ letters, isLetter c = true) ∧ value letters = n ∧ n ≤ axisLimit := by
  induction letters using List.reverseRecOn generalizing n with
  | nil =>
    have hzero : 0 = n → n ≤ axisLimit := fun h => h ▸ Nat.zero_le _
    simpa [value] using hzero
  | append_singleton letters c ih =>
    simp only [List.foldlM_append, List.foldlM_cons, List.foldlM_nil, bind_pure,
      Option.bind_eq_bind, Option.bind_eq_some_iff, readLetter?_eq_some_iff, ih,
      value_append_singleton, List.forall_mem_append, List.forall_mem_singleton]
    constructor
    · rintro ⟨_, ⟨hletters, rfl, -⟩, hletter, rfl, hle⟩
      exact ⟨⟨hletters, hletter⟩, rfl, hle⟩
    · rintro ⟨⟨hletters, hletter⟩, rfl, hle⟩
      exact ⟨value letters, ⟨hletters, rfl, by omega⟩, hletter, rfl, hle⟩

/-- Reading letter by letter passes no column, and it finds no other one. -/
theorem readLabel?_eq (letters : List Char) : readLabel? letters = ofLabel? letters := by
  by_cases hne : letters = []
  · rw [hne]
    rfl
  have hempty : letters.isEmpty = false := List.isEmpty_eq_false_iff.mpr hne
  refine Option.ext fun n => ?_
  rw [readLabel?, hempty, if_neg Bool.false_ne_true, foldlM_readLetter?_eq_some_iff]
  constructor
  · rintro ⟨hletters, rfl, hle⟩
    rw [ofLabel?_eq_held? hne hletters, held?, if_pos hle]
  · intro h
    have hletters := (isLetter_of_ofLabel? h).2
    rw [ofLabel?_eq_held? hne hletters] at h
    exact ⟨hletters, held?_eq_some_iff.mp h⟩

/-- Labels and columns are inverse to each other, small letters aside, and letters are no label
exactly if the number that they denote to the base 26 is beyond the last column. Reading them letter
by letter in words makes no difference. -/
theorem columns_labels_inverse :
    (∀ n, 1 ≤ n → n ≤ axisLimit → ofLabel? (label n) = some n) ∧
    (∀ letters n, ofLabel? letters = some n →
      1 ≤ n ∧ label n = letters.map Text.upperAscii) ∧
    (∀ letters, letters ≠ [] → (∀ c ∈ letters, isLetter c = true) →
      (ofLabel? letters = none ↔
        axisLimit < Nat.ofDigits 26 (letters.map letterValue).reverse)) ∧
    ∀ letters, readLabel? letters = ofLabel? letters := by
  refine ⟨fun _ => ofLabel?_label, fun _ _ => label_of_ofLabel?, ?_, readLabel?_eq⟩
  intro letters hne hletters
  rw [ofLabel?_eq_held? hne hletters, held?, ← value_eq_ofDigits, ← not_le]
  exact ite_eq_right_iff.trans (by simp)

/-- The last column, and the label behind its label. -/
theorem columns_labels_inverse_last :
    ofLabel? (label 4294967295) = some 4294967295 ∧
      label 4294967295 = ['m', 'W', 'l', 'q', 'k', 'W', 'U'].map Text.upperAscii ∧
      ofLabel? ['M', 'W', 'L', 'Q', 'K', 'W', 'V'] = none := by
  obtain ⟨hcolumn, hlabel, hbeyond, -⟩ := columns_labels_inverse
  refine ⟨hcolumn _ (by decide) (by decide), (hlabel _ _ (by decide)).2, ?_⟩
  exact (hbeyond _ (by decide) (List.all_eq_true.mp (by decide))).mpr (by decide)

end Spreadsheet.Column
