import Spreadsheet.Proofs.Function.Position
import Spreadsheet.Proofs.Text.Replacement

/-!
# Substitution in texts

Occurrences of a part are substituted at once or by their numbers. Occurrences found earlier stay
where they are if a later one is substituted, so that going through the numbers from the last one to
the first amounts to substituting all, whatever the new text is.
-/

namespace Spreadsheet.Function

variable {text old : String} {index : Nat} {x : Float}

/-- The text with one occurrence substituted, given by its number. -/
def substituteOne (old new : String) (number : Nat) (v : Value) : Value :=
  substitute [v, .text old, .text new, ofCount number]

private theorem toList_isEmpty (hne : old ≠ "") : old.toList.isEmpty = false := by
  rw [List.isEmpty_eq_false_iff]
  exact mt String.toList_eq_nil_iff.mp hne

/-- Without a number all occurrences are substituted. -/
theorem substitute_all (hne : old ≠ "") (text new : String) :
    substitute [.text text, .text old, .text new] =
      ofChars (Text.replaceAll old.toList new.toList text.toList) := by
  simp [substitute, charsAt, textAt, Value.toText, toList_isEmpty hne]

/-- A number from one on stands for the occurrence with as many before it, less one. -/
theorem substitute_number (hne : old ≠ "") (hindex : skipOf? x = some index)
    (text new : String) :
    substitute [.text text, .text old, .text new, .number x] =
      ofChars (Text.replaceNth old.toList new.toList index text.toList) := by
  simp [substitute, charsAt, textAt, numberAt, Value.toText, Value.toNumber, Value.number?,
    toList_isEmpty hne, hindex, orInvalid]

/-- Replacing one occurrence by its number counted from one is replacing it by that from zero. -/
theorem substituteOne_ofChars (hne : old ≠ "") (hindex : index + 1 < 2 ^ 53) (new : String)
    (cs : List Char) :
    substituteOne old new (1 + index) (ofChars cs) =
      ofChars (Text.replaceNth old.toList new.toList index cs) := by
  rw [Nat.add_comm, substituteOne, ofCount_of_lt hindex, ofChars,
    substitute_number hne (skipOf?_toFloat index.succ_pos hindex), String.toList_ofList,
    Nat.succ_sub_one]

/-- Numbers that are told apart stand for their occurrences, one substitution after the other. -/
theorem foldr_substituteOne (hne : old ≠ "") (new : String) (cs : List Char) :
    ∀ indices : List Nat, (∀ index ∈ indices, index + 1 < 2 ^ 53) →
      indices.foldr (fun index => substituteOne old new (1 + index)) (ofChars cs) =
        ofChars (indices.foldr (Text.replaceNth old.toList new.toList) cs)
  | [], _ => rfl
  | index :: indices, h => by
    obtain ⟨hindex, htail⟩ := List.forall_mem_cons.mp h
    rw [List.foldr_cons, foldr_substituteOne hne new cs indices htail,
      substituteOne_ofChars hne hindex, List.foldr_cons]

/-- Substituting the occurrences one after the other, from the last to the first, is substituting
all of them, and a number beyond theirs substitutes nothing. Doubles must tell the numbers apart: no
double counts an occurrence with `2 ^ 53` before it. -/
theorem substitute_one_by_one (hne : old ≠ "")
    (htold : Text.occurrences old.toList text.toList + 1 < 2 ^ 53) (new : String) :
    (List.range' 1 (Text.occurrences old.toList text.toList)).foldr (substituteOne old new)
        (.text text) = substitute [.text text, .text old, .text new] ∧
      ∀ x : Float, (Text.occurrences old.toList text.toList + 1).toFloat ≤ x →
        substitute [.text text, .text old, .text new, .number x] = .text text := by
  have hchars : old.toList ≠ [] := mt String.toList_eq_nil_iff.mp hne
  have htext : Value.text text = ofChars text.toList := by rw [ofChars, String.ofList_toList]
  refine ⟨?_, fun x hx => ?_⟩
  · rw [substitute_all hne, ← Text.foldr_replaceNth hchars, List.range'_eq_map_range,
      List.foldr_map, htext, foldr_substituteOne hne]
    intro index hindex
    have := List.mem_range.mp hindex
    omega
  · have hcount := Number.le_toCount (Nat.succ_pos _) htold hx
    have hone := Number.one_le_of_toFloat_le (Nat.succ_pos _) htold hx
    rw [substitute_number hne ((skipOf?_eq x).trans (if_pos hone)),
      Text.replaceNth_of_occurrences_le hchars (Nat.le_sub_one_of_lt hcount), ← htext]

/-- The new text of this substitution holds the old one and overlaps with what follows. -/
theorem substitute_one_by_one_overlapping :
    ("aa" ≠ "" ∧ Text.occurrences "aa".toList "aaaaa".toList + 1 < 2 ^ 53) ∧
      (List.range' 1 2).foldr (substituteOne "aa" "baa") (.text "aaaaa") = .text "baabaaa" ∧
        ∀ x : Float, Nat.toFloat 3 ≤ x →
          substitute [.text "aaaaa", .text "aa", .text "baa", .number x] = .text "aaaaa" := by
  have hcount : Text.occurrences "aa".toList "aaaaa".toList = 2 := by decide +kernel
  have hfits : Text.occurrences "aa".toList "aaaaa".toList + 1 < 2 ^ 53 := by
    rw [hcount]
    decide
  have h := substitute_one_by_one (by decide) hfits "baa"
  rw [hcount] at h
  have hall : substitute [.text "aaaaa", .text "aa", .text "baa"] = .text "baabaaa" := by
    rfl
  exact ⟨⟨by decide, hfits⟩, h.1.trans hall, h.2⟩

end Spreadsheet.Function
