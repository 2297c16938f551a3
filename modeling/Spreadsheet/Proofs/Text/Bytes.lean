import Spreadsheet.Proofs.Text.Search
import Spreadsheet.Text.Bytes

/-!
# Texts as bytes

A text is kept as one to four bytes for each character. A search among the bytes finds the same
occurrences as one among the characters: no character starts with a byte that stands inside of
another one, so that no occurrence starts there, and no character is the front of another one.
-/

namespace Spreadsheet.Text

variable {needle text front behind : List Char} {bs : List UInt8} {c : Char} {i : Nat}

/-! ## Bytes of characters -/

private theorem toByteArray_bytes (text : List Char) :
    (bytes text).toByteArray = text.utf8Encode := rfl

/-- A text starts with a part exactly when its bytes start with those of the part. -/
theorem bytes_isPrefix_iff : bytes needle <+: bytes text ↔ needle <+: text := by
  constructor
  · rintro ⟨rest, hrest⟩
    apply List.isPrefix_of_utf8Encode_append_eq_utf8Encode rest.toByteArray
    rw [← toByteArray_bytes, ← toByteArray_bytes, ← hrest, List.toByteArray_append]
  · rintro ⟨rest, rfl⟩
    exact ⟨bytes rest, (bytes_append needle rest).symm⟩

/-- The first byte of a text is one that starts a character. -/
theorem exists_bytes_eq_cons (hne : needle ≠ []) :
    ∃ b bs, bytes needle = b :: bs ∧ b.IsUTF8FirstByte := by
  obtain ⟨c, cs, rfl⟩ := List.exists_cons_of_ne_nil hne
  have hpos : 0 < (String.utf8EncodeChar c).length :=
    List.length_pos_of_ne_nil String.utf8EncodeChar_ne_nil
  have hfirst : (String.utf8EncodeChar c)[0].IsUTF8FirstByte :=
    UInt8.isUTF8FirstByte_getElem_utf8EncodeChar.mpr rfl
  obtain ⟨b, bs, hbytes⟩ := List.exists_cons_of_ne_nil (String.utf8EncodeChar_ne_nil (c := c))
  simp only [hbytes, List.getElem_cons_zero] at hfirst
  exact ⟨b, bs ++ bytes cs, by rw [bytes_cons, hbytes, List.cons_append], hfirst⟩

/-- A text whose bytes go on with those of a part goes on with the part itself: its bytes are cut
between two characters there. -/
theorem exists_append_of_isPrefix_drop (hne : needle ≠ [])
    (h : bytes needle <+: (bytes text).drop i) :
    ∃ front behind, text = front ++ behind ∧ i = (bytes front).length ∧ needle <+: behind := by
  induction text generalizing i with
  | nil =>
    obtain ⟨b, bs, hbytes, -⟩ := exists_bytes_eq_cons hne
    rw [hbytes, bytes_nil, List.drop_nil, List.prefix_nil] at h
    cases h
  | cons c text ih =>
    rw [bytes_cons] at h
    rcases Nat.eq_zero_or_pos i with rfl | hpos
    · rw [List.drop_zero, ← bytes_cons, bytes_isPrefix_iff] at h
      exact ⟨[], c :: text, rfl, rfl, h⟩
    rcases Nat.lt_or_ge i (String.utf8EncodeChar c).length with hinside | hbehind
    · obtain ⟨b, bs, hbytes, hfirst⟩ := exists_bytes_eq_cons hne
      obtain ⟨rest, hrest⟩ := h
      have hhead := congrArg List.head? hrest
      rw [hbytes, List.head?_drop, List.getElem?_append_left hinside,
        List.getElem?_eq_getElem hinside, List.cons_append, List.head?_cons, Option.some_inj]
        at hhead
      have hzero := UInt8.isUTF8FirstByte_getElem_utf8EncodeChar.mp (hhead ▸ hfirst)
      omega
    · rw [List.drop_append, List.drop_eq_nil_of_le hbehind, List.nil_append] at h
      obtain ⟨front, behind, rfl, hi, hneedle⟩ := ih h
      refine ⟨c :: front, behind, rfl, ?_, hneedle⟩
      rw [bytes_cons, List.length_append, ← hi]
      omega

/-- The bytes of a part that is not empty occur where the part does. -/
theorem isPrefix_drop_bytes_iff (hne : needle ≠ []) :
    bytes needle <+: (bytes text).drop i ↔
      ∃ n, needle <+: text.drop n ∧ i = (bytes (text.take n)).length := by
  constructor
  · intro h
    obtain ⟨front, behind, rfl, hi, hneedle⟩ := exists_append_of_isPrefix_drop hne h
    exact ⟨front.length, by rwa [List.drop_left], by rwa [List.take_left]⟩
  · rintro ⟨n, hneedle, rfl⟩
    have hparts : bytes text = bytes (text.take n) ++ bytes (text.drop n) := by
      rw [← bytes_append, List.take_append_drop]
    rwa [hparts, List.drop_left, bytes_isPrefix_iff]

/-! ## Searching -/

private theorem length_bytes_take_le {m n : Nat} (h : m ≤ n) (text : List Char) :
    (bytes (text.take m)).length ≤ (bytes (text.take n)).length :=
  (bytes_isPrefix_iff.mpr (List.take_prefix_take_left h)).length_le

/-- Before the first occurrence among the bytes are the bytes of the characters before the first
occurrence among these. -/
theorem firstMatch?_bytes (needle text : List Char) :
    firstMatch? (bytes needle) (bytes text) =
      (find? needle text).map fun n => (bytes (text.take n)).length := by
  by_cases hne : needle = []
  · have hempty : find? needle text = some 0 :=
      find?_eq_some_iff.mpr ⟨hne ▸ List.nil_prefix, fun _ _ => Nat.zero_le _⟩
    rw [hempty, hne]
    exact firstMatch?_eq_some_iff.mpr ⟨List.nil_prefix, fun _ _ => Nat.zero_le _⟩
  cases hfind : find? needle text with
  | none =>
    rw [find?_eq_none_iff] at hfind
    rw [Option.map_none, firstMatch?_eq_none_iff]
    intro i hi
    obtain ⟨n, hn, -⟩ := (isPrefix_drop_bytes_iff hne).mp hi
    exact hfind n hn
  | some n =>
    obtain ⟨hoccurs, hleast⟩ := find?_eq_some_iff.mp hfind
    rw [Option.map_some, firstMatch?_eq_some_iff]
    refine ⟨(isPrefix_drop_bytes_iff hne).mpr ⟨n, hoccurs, rfl⟩, fun i hi => ?_⟩
    obtain ⟨m, hm, rfl⟩ := (isPrefix_drop_bytes_iff hne).mp hi
    exact length_bytes_take_le (hleast hm) text

/-! ## Cutting -/

private theorem length_bytes_cons (c : Char) (text : List Char) :
    (bytes (c :: text)).length = c.utf8Size + (bytes text).length := by
  rw [bytes_cons, List.length_append, String.length_utf8EncodeChar]

/-- A text is cut exactly between two characters. -/
theorem cutAt?_eq_some_iff :
    cutAt? i text = some (front, behind) ↔ text = front ++ behind ∧ i = (bytes front).length := by
  fun_induction cutAt? i text generalizing front with
  | case1 text =>
    cases front with
    | nil => simp
    | cons c front =>
      have hpos := c.utf8Size_pos
      rw [length_bytes_cons]
      refine iff_of_false (by simp) fun h => ?_
      omega
  | case2 i =>
    refine iff_of_false (by simp) ?_
    rintro ⟨hnil, hi⟩
    obtain ⟨rfl, -⟩ := List.nil_eq_append_iff.mp hnil
    cases hi
  | case3 i c text hfits ih =>
    have hpos := c.utf8Size_pos
    cases front with
    | nil => simp
    | cons d front =>
      simp only [Option.map_eq_some_iff, Prod.mk.injEq, List.cons.injEq, Prod.exists,
        length_bytes_cons, List.cons_append]
      constructor
      · rintro ⟨front, behind, hcut, ⟨rfl, rfl⟩, rfl⟩
        obtain ⟨rfl, hi⟩ := ih.mp hcut
        exact ⟨⟨rfl, rfl⟩, by omega⟩
      · rintro ⟨⟨rfl, rfl⟩, hi⟩
        exact ⟨front, behind, ih.mpr ⟨rfl, by omega⟩, ⟨rfl, rfl⟩, rfl⟩
  | case4 i c text hfits =>
    refine iff_of_false (by simp) ?_
    rintro ⟨htext, hi⟩
    cases front with
    | nil => cases hi
    | cons d front =>
      obtain ⟨rfl, -⟩ := List.cons.inj htext
      rw [length_bytes_cons] at hi
      omega

end Spreadsheet.Text
