import Spreadsheet.Proofs.Text.Search

/-!
# Replaced occurrences

The occurrences of a part that do not overlap are found one behind the other. What precedes an
occurrence is free of others, whatever follows it, so that replacing an occurrence leaves those
before it where they are. All occurrences may therefore be replaced at once or one at a time, from
the last one to the first.
-/

namespace Spreadsheet.Text

variable {old new text front rest : List Char} {c : Char} {i k : Nat}

/-! ## Occurrences one behind the other -/

/-- The number of occurrences, each of them the first one behind the end of the one before. -/
def occurrences (old text : List Char) : Nat :=
  if old = [] ∨ text = [] then 0
  else
    match find? old text with
    | none => 0
    | some i => occurrences old (text.drop (i + old.length)) + 1
termination_by text.length
decreasing_by
  rename_i h
  obtain ⟨hold, htext⟩ := not_or.mp h
  have hpart := List.length_pos_iff.mpr hold
  have hwhole := List.length_pos_iff.mpr htext
  rw [List.length_drop]
  omega

/-- No occurrence starts in the front when the part follows it. -/
def IsFree (old front : List Char) : Prop :=
  ∀ i < front.length, ¬old <+: (front ++ old).drop i

/-- Whether an occurrence starts in the front does not depend on what is behind the part. -/
theorem IsFree.not_isPrefix_drop (h : IsFree old front) (hi : i < front.length)
    (rest : List Char) : ¬old <+: (front ++ (old ++ rest)).drop i := by
  intro hold
  rw [← List.append_assoc, List.drop_append_of_le_length (by simp; omega)] at hold
  refine h i hi (List.prefix_of_prefix_length_le hold (List.prefix_append _ _) ?_)
  rw [List.length_drop, List.length_append]
  omega

private theorem IsFree.not_isPrefix (h : IsFree old (c :: front)) (rest : List Char) :
    ¬old <+: c :: (front ++ (old ++ rest)) :=
  h.not_isPrefix_drop (Nat.zero_lt_succ _) rest

/-- What is behind the first character of a free text is free too. -/
theorem IsFree.tail (h : IsFree old (c :: front)) : IsFree old front :=
  fun i hi => h (i + 1) (Nat.succ_lt_succ hi)

/-- The first occurrence is behind a free front. -/
theorem exists_of_find?_eq_some (h : find? old text = some i) :
    ∃ front rest, text = front ++ (old ++ rest) ∧ IsFree old front ∧
      text.drop (i + old.length) = rest := by
  obtain ⟨hoccurs, hleast⟩ := find?_eq_some_iff.mp h
  obtain ⟨rest, hrest⟩ := hoccurs
  have hlength : (text.take i).length = i :=
    List.length_take_of_le (le_length_of_isLeast (find?_eq_some_iff.mp h))
  have hparts : text = text.take i ++ old ++ rest := by
    rw [List.append_assoc, hrest, List.take_append_drop]
  refine ⟨text.take i, rest, by rwa [← List.append_assoc], fun j hj hold => ?_, ?_⟩
  · have hwhole : old <+: text.drop j := by
      rw [hparts, List.drop_append_of_le_length (by simp at hj ⊢; omega)]
      exact hold.trans (List.prefix_append _ rest)
    have hle := hleast hwhole
    omega
  · rw [← List.drop_drop, ← hrest, List.drop_left]

/-- What does not start with the part is passed over character by character. -/
theorem dropFront?_eq_none (h : ¬old <+: text) : dropFront? old text = none := by
  rw [← Option.not_isSome_iff_eq_none]
  exact fun hsome => h (isSome_dropFront?_iff.mp hsome)

/-! ## One occurrence -/

private theorem replaceNthAfter_append (passed rest : List Char) :
    replaceNthAfter old new k passed.length (passed ++ rest) =
      passed ++ replaceNth old new k rest := by
  induction passed with
  | nil => rfl
  | cons c passed ih => exact congrArg (c :: ·) ih

private theorem replaceNth_cons_of_not_isPrefix (h : ¬old <+: c :: text) :
    replaceNth old new k (c :: text) = c :: replaceNth old new k text := by
  simp only [replaceNth, replaceNthAfter, dropFront?_eq_none h]

/-- An occurrence behind a free front is the first one. -/
theorem replaceNth_append (h : IsFree old front) (k : Nat) (rest : List Char) :
    replaceNth old new k (front ++ (old ++ rest)) =
      front ++ replaceNth old new k (old ++ rest) := by
  induction front with
  | nil => rfl
  | cons c front ih =>
    rw [List.cons_append, replaceNth_cons_of_not_isPrefix (h.not_isPrefix rest), ih h.tail]
    rfl

private theorem replaceNth_zero (hne : old ≠ []) (rest : List Char) :
    replaceNth old new 0 (old ++ rest) = new ++ rest := by
  obtain ⟨o, os, rfl⟩ := List.exists_cons_of_ne_nil hne
  have hfront : dropFront? (o :: os) (o :: (os ++ rest)) = some rest :=
    dropFront?_eq_some_iff.mpr rfl
  simp only [replaceNth, List.cons_append, replaceNthAfter, hfront]

private theorem replaceNth_succ (hne : old ≠ []) (k : Nat) (rest : List Char) :
    replaceNth old new (k + 1) (old ++ rest) = old ++ replaceNth old new k rest := by
  obtain ⟨o, os, rfl⟩ := List.exists_cons_of_ne_nil hne
  have hfront : dropFront? (o :: os) (o :: (os ++ rest)) = some rest :=
    dropFront?_eq_some_iff.mpr rfl
  simp only [replaceNth, List.cons_append, replaceNthAfter, hfront, List.length_cons,
    Nat.add_sub_cancel, replaceNthAfter_append]

/-- A text in which the part does not occur stays as it is. -/
theorem replaceNth_of_absent (h : ∀ j, ¬old <+: text.drop j) :
    replaceNth old new k text = text := by
  induction text with
  | nil => rfl
  | cons c text ih =>
    rw [replaceNth_cons_of_not_isPrefix (h 0), ih fun j => h (j + 1)]

/-! ## All occurrences -/

private theorem replaceAfter_append (passed rest : List Char) :
    replaceAfter old new passed.length (passed ++ rest) = replaceAll old new rest := by
  induction passed with
  | nil => rfl
  | cons c passed ih => exact ih

private theorem replaceAll_cons_of_not_isPrefix (h : ¬old <+: c :: text) :
    replaceAll old new (c :: text) = c :: replaceAll old new text := by
  rw [replaceAll, replaceAfter, if_neg (mt isSome_dropFront?_iff.mp h)]
  rfl

/-- A text without occurrences is left as it is. -/
theorem replaceAll_of_absent (h : ∀ j, ¬old <+: text.drop j) : replaceAll old new text = text := by
  induction text with
  | nil => rfl
  | cons c text ih => rw [replaceAll_cons_of_not_isPrefix (h 0), ih fun j => h (j + 1)]

/-- The first occurrence is replaced, and the others are those behind it. -/
theorem replaceAll_append (hne : old ≠ []) (h : IsFree old front) (rest : List Char) :
    replaceAll old new (front ++ (old ++ rest)) = front ++ (new ++ replaceAll old new rest) := by
  induction front with
  | nil =>
    obtain ⟨o, os, rfl⟩ := List.exists_cons_of_ne_nil hne
    have hfront : (dropFront? (o :: os) (o :: (os ++ rest))).isSome = true :=
      isSome_dropFront?_iff.mpr (List.prefix_append (o :: os) rest)
    rw [List.nil_append, List.cons_append, replaceAll, replaceAfter, if_pos hfront,
      List.length_cons, Nat.add_sub_cancel, replaceAfter_append]
    rfl
  | cons c front ih =>
    rw [List.cons_append, replaceAll_cons_of_not_isPrefix (h.not_isPrefix rest), ih h.tail]
    rfl

/-! ## One occurrence after the other -/

/-- Nothing is replaced if fewer occurrences precede. -/
theorem replaceNth_of_occurrences_le (hne : old ≠ []) (h : occurrences old text ≤ k) :
    replaceNth old new k text = text := by
  fun_induction occurrences old text generalizing k with
  | case1 text hempty =>
    rw [hempty.resolve_left hne]
    rfl
  | case2 text hempty hnone => exact replaceNth_of_absent (find?_eq_none_iff.mp hnone)
  | case3 text hempty i hsome ih =>
    obtain ⟨front, rest, rfl, hfree, hrest⟩ := exists_of_find?_eq_some hsome
    rw [hrest] at h ih
    obtain ⟨k, rfl⟩ := Nat.exists_eq_succ_of_ne_zero (by omega : k ≠ 0)
    rw [replaceNth_append hfree, replaceNth_succ hne, ih (by omega)]

/-- The occurrences behind the first one are replaced as in what follows it. -/
theorem foldr_replaceNth_append (hne : old ≠ []) (hfree : IsFree old front) (rest : List Char)
    (ks : List Nat) :
    ks.foldr (fun k => replaceNth old new (k + 1)) (front ++ (old ++ rest)) =
      front ++ (old ++ ks.foldr (replaceNth old new) rest) := by
  induction ks with
  | nil => rfl
  | cons k ks ih =>
    rw [List.foldr_cons, ih, replaceNth_append hfree, replaceNth_succ hne, List.foldr_cons]

/-- Replacing the occurrences from the last one to the first is replacing all of them. -/
theorem foldr_replaceNth (hne : old ≠ []) (new text : List Char) :
    (List.range (occurrences old text)).foldr (replaceNth old new) text =
      replaceAll old new text := by
  fun_induction occurrences old text with
  | case1 text hempty =>
    rw [hempty.resolve_left hne]
    rfl
  | case2 text hempty hnone => exact (replaceAll_of_absent (find?_eq_none_iff.mp hnone)).symm
  | case3 text hempty i hsome ih =>
    obtain ⟨front, rest, rfl, hfree, hrest⟩ := exists_of_find?_eq_some hsome
    rw [hrest] at ih ⊢
    rw [List.range_succ_eq_map, List.foldr_cons, List.foldr_map, foldr_replaceNth_append hne hfree,
      ih, replaceNth_append hfree, replaceNth_zero hne, replaceAll_append hne hfree]

end Spreadsheet.Text
