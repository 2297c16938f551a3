import Mathlib.Data.List.Infix
import Mathlib.Data.List.Sublists
import Mathlib.Order.Bounds.Basic
import Spreadsheet.Text.Search

/-!
# First occurrences

An occurrence of a part in a list is a number of elements behind which the list starts with the
part. The search from left to right ends at the least of them, in characters as in bytes.
-/

namespace Spreadsheet.Text

variable {α : Type} {part whole : List α} {needle text : List Char} {i : Nat}

/-! ## Lists of any kind -/

/-- The search looks at what is left of the list from each place on. -/
theorem firstMatch?_eq_findIdx? [BEq α] (part whole : List α) :
    firstMatch? part whole = whole.tails.findIdx? fun rest => part.isPrefixOf rest := by
  induction whole with
  | nil => cases part <;> rfl
  | cons a whole ih => rw [firstMatch?, ih, List.tails_cons, List.findIdx?_cons]

/-- Only the empty part occurs behind the end, and it occurs at the front as well. -/
theorem le_length_of_isLeast (h : IsLeast {j | part <+: whole.drop j} i) : i ≤ whole.length := by
  by_contra hbeyond
  have hpart : part <+: whole.drop i := h.1
  rw [List.drop_eq_nil_of_le (by omega), List.prefix_nil] at hpart
  subst hpart
  have hfront := h.2 (List.nil_prefix : [] <+: whole.drop 0)
  omega

/-- The search ends at the least occurrence. -/
theorem firstMatch?_eq_some_iff [BEq α] [LawfulBEq α] :
    firstMatch? part whole = some i ↔ IsLeast {j | part <+: whole.drop j} i := by
  simp only [firstMatch?_eq_findIdx?, List.findIdx?_eq_some_iff_getElem, List.getElem_tails,
    List.length_tails, List.isPrefixOf_iff_prefix]
  constructor
  · rintro ⟨-, hpart, hbefore⟩
    exact ⟨hpart, fun j hj => not_lt.mp fun hlt => hbefore j hlt hj⟩
  · intro h
    exact ⟨by have := le_length_of_isLeast h; omega, h.1,
      fun j hlt hj => absurd (h.2 hj) (not_le.mpr hlt)⟩

/-- The search finds nothing if there is no occurrence. -/
theorem firstMatch?_eq_none_iff [BEq α] [LawfulBEq α] :
    firstMatch? part whole = none ↔ ∀ j, ¬part <+: whole.drop j := by
  simp only [firstMatch?_eq_findIdx?, List.findIdx?_eq_none_iff, List.mem_tails, ← Bool.not_eq_true,
    List.isPrefixOf_iff_prefix]
  constructor
  · intro h j
    exact h _ (List.drop_suffix j whole)
  · rintro h rest ⟨front, rfl⟩ hpart
    refine h front.length ?_
    rwa [List.drop_left]

/-! ## Texts -/

/-- A front can be dropped if the text starts with it. -/
theorem isSome_dropFront?_iff : (dropFront? needle text).isSome = true ↔ needle <+: text := by
  simp only [Option.isSome_iff_exists, dropFront?_eq_some_iff]
  exact exists_congr fun rest => eq_comm

/-- The search in a text is the search in the list of its characters. -/
theorem find?_eq_firstMatch? (needle text : List Char) :
    find? needle text = firstMatch? needle text := by
  induction text with
  | nil => cases needle <;> rfl
  | cons c text ih =>
    rw [find?, ih, firstMatch?]
    simp only [isSome_dropFront?_iff, List.isPrefixOf_iff_prefix]

/-- The search in a text ends at the least occurrence. -/
theorem find?_eq_some_iff :
    find? needle text = some i ↔ IsLeast {j | needle <+: text.drop j} i := by
  rw [find?_eq_firstMatch?, firstMatch?_eq_some_iff]

/-- The search in a text finds nothing if there is no occurrence. -/
theorem find?_eq_none_iff : find? needle text = none ↔ ∀ j, ¬needle <+: text.drop j := by
  rw [find?_eq_firstMatch?, firstMatch?_eq_none_iff]

end Spreadsheet.Text
