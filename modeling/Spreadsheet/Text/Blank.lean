import Spreadsheet.Text.Ranges

/-!
# White space

The characters with the Unicode property `White_Space`, and the removal of such characters from the
ends of a text. The zero-width space and the byte-order mark are not among them.
-/

namespace Spreadsheet.Text

/-- The ranges of white space. -/
def blankRanges : Ranges :=
  [(0x9, 0xD), (0x20, 0x20), (0x85, 0x85), (0xA0, 0xA0), (0x1680, 0x1680), (0x2000, 0x200A),
    (0x2028, 0x2029), (0x202F, 0x202F), (0x205F, 0x205F), (0x3000, 0x3000)]

/-- A character that separates but is not seen. -/
def isBlank (c : Char) : Bool :=
  blankRanges.contains c

/-- The text without the white space at its front. -/
def trimStart (cs : List Char) : List Char :=
  cs.dropWhile isBlank

/-- The text without the white space at its end. -/
def trimEnd (cs : List Char) : List Char :=
  (cs.reverse.dropWhile isBlank).reverse

/-- The text without the white space at both ends. -/
def trim (cs : List Char) : List Char :=
  trimEnd (trimStart cs)

/-- Nothing is left of the empty text. -/
@[simp] theorem trimStart_nil : trimStart [] = [] := rfl

/-- A text that starts with a visible character keeps its front. -/
theorem trimStart_cons_of_not_blank {c : Char} (h : isBlank c = false) (cs : List Char) :
    trimStart (c :: cs) = c :: cs := by
  simp [trimStart, h]

/-- What is removed at the front is white space. -/
theorem exists_blank_append_trimStart (cs : List Char) :
    ∃ front, cs = front ++ trimStart cs ∧ ∀ c ∈ front, isBlank c = true :=
  ⟨cs.takeWhile isBlank, List.takeWhile_append_dropWhile.symm,
    fun _ h => List.all_eq_true.mp List.all_takeWhile _ h⟩

/-- What is trimmed off is white space. -/
theorem exists_blank_append_trim (cs : List Char) :
    ∃ front back, cs = front ++ trim cs ++ back ∧ ∀ c ∈ front ++ back, isBlank c = true := by
  obtain ⟨front, hfront, hblank⟩ := exists_blank_append_trimStart cs
  obtain ⟨back, hback, hblank'⟩ := exists_blank_append_trimStart (trimStart cs).reverse
  have hend : trimStart cs = trim cs ++ back.reverse := by
    rw [← List.reverse_inj, hback]
    simp [trim, trimEnd, trimStart]
  refine ⟨front, back.reverse, ?_, ?_⟩
  · rw [List.append_assoc, ← hend]
    exact hfront
  · intro c hc
    rcases List.mem_append.mp hc with hc | hc
    · exact hblank c hc
    · exact hblank' c (List.mem_reverse.mp hc)

end Spreadsheet.Text
