import Spreadsheet.Value.Basic

/-!
# Texts of errors

A text denotes an error exactly if it is the text of that error, whatever the name or the message is
that the error has for its parameter: nothing is taken off but what stands before the parameter and
the one parenthesis behind a name, and no beginning of a parameter makes a text that stands for
something else. The texts of errors look like errors to those who ask whether a text does.
-/

namespace Spreadsheet.CellError

variable {e : CellError} {s t : String} {cs inner : List Char}

/-! ## Errors with a parameter -/

private theorem dropParenthesis?_eq_some_iff :
    dropParenthesis? cs = some inner ↔ cs = inner ++ [')'] := by
  rw [dropParenthesis?, Option.ite_none_right_eq_some, Option.some.injEq]
  constructor
  · rintro ⟨hlast, rfl⟩
    obtain ⟨front, rfl⟩ := List.getLast?_eq_some_iff.mp hlast
    rw [List.dropLast_concat]
  · rintro rfl
    exact ⟨List.getLast?_concat, List.dropLast_concat⟩

/-- A text starts with another one if it is that one followed by the rest. -/
theorem dropFront?_toList_eq_some_iff {front : String} :
    Text.dropFront? front.toList s.toList = some cs ↔ s = front ++ String.ofList cs := by
  rw [Text.dropFront?_eq_some_iff, ← String.toList_inj, String.toList_append,
    String.toList_ofList]

/-- A text that goes on with a name does not go on with a message. -/
theorem namePrologue_append_ne (s t : String) : namePrologue ++ s ≠ abortedPrologue ++ t := by
  intro h
  have hchars := congrArg String.toList h
  rw [String.toList_append, String.toList_append] at hchars
  -- Both beginnings have the same length.
  have hfront := List.append_inj_left hchars (by decide)
  exact absurd hfront (by decide)

/-- What a text with a parameter is read as has this text. -/
theorem eq_text_of_ofParametricText? (h : ofParametricText? s = some e) : s = e.text := by
  unfold ofParametricText? at h
  split at h
  · next rest hrest =>
    obtain ⟨name, hname, rfl⟩ := Option.map_eq_some_iff.mp h
    rw [dropParenthesis?_eq_some_iff] at hname
    rw [dropFront?_toList_eq_some_iff.mp hrest, hname, String.ofList_append, ← String.append_assoc]
    rfl
  · obtain ⟨message, hmessage, rfl⟩ := Option.map_eq_some_iff.mp h
    exact dropFront?_toList_eq_some_iff.mp hmessage

/-- A name is read up to the last parenthesis, whatever characters it has. -/
theorem ofParametricText?_invalidName (name : String) :
    ofParametricText? (invalidName name).text = some (.invalidName name) := by
  have hfront : Text.dropFront? namePrologue.toList (invalidName name).text.toList =
      some (name.toList ++ [')']) := by
    rw [dropFront?_toList_eq_some_iff, String.ofList_append, String.ofList_toList, text,
      String.append_assoc]
  rw [ofParametricText?, hfront]
  dsimp only
  rw [dropParenthesis?_eq_some_iff.mpr rfl, Option.map_some, String.ofList_toList]

/-- A message is read up to its end, whatever characters it has. -/
theorem ofParametricText?_aborted (message : String) :
    ofParametricText? (aborted message).text = some (.aborted message) := by
  have hname : Text.dropFront? namePrologue.toList (aborted message).text.toList = none := by
    refine Option.eq_none_iff_forall_ne_some.mpr fun rest hrest => ?_
    exact namePrologue_append_ne _ _ (dropFront?_toList_eq_some_iff.mp hrest).symm
  have hfront : Text.dropFront? abortedPrologue.toList (aborted message).text.toList =
      some message.toList := by
    rw [dropFront?_toList_eq_some_iff, String.ofList_toList]
    rfl
  rw [ofParametricText?, hname, hfront]
  dsimp only
  rw [Option.map_some, String.ofList_toList]

/-- A text with a parameter is none of the texts without one. -/
theorem ofText?_eq_ofParametricText? (h : s = namePrologue ++ t ∨ s = abortedPrologue ++ t) :
    ofText? s = ofParametricText? s := by
  have hlong : namePrologue.toList <+: s.toList ∨ abortedPrologue.toList <+: s.toList := by
    rcases h with rfl | rfl
    · exact .inl (String.toList_append ▸ List.prefix_append _ _)
    · exact .inr (String.toList_append ▸ List.prefix_append _ _)
  unfold ofText?
  split
  case h_8 => rfl
  all_goals exact absurd hlong (by decide)

/-! ## All errors -/

/-- The text of an error is read as this error. -/
theorem ofText?_text (e : CellError) : ofText? e.text = some e := by
  cases e with
  | invalidName name =>
    have hname : (invalidName name).text = namePrologue ++ (name ++ ")") := String.append_assoc
    rw [ofText?_eq_ofParametricText? (.inl hname), ofParametricText?_invalidName]
  | aborted message =>
    have hmessage : (aborted message).text = abortedPrologue ++ message := rfl
    rw [ofText?_eq_ofParametricText? (.inr hmessage), ofParametricText?_aborted]
  | _ => rfl

/-- What is read as an error is the text of this error. -/
theorem eq_text_of_ofText? (h : ofText? s = some e) : s = e.text := by
  unfold ofText? at h
  split at h
  case h_8 => exact eq_text_of_ofParametricText? h
  all_goals
    cases h
    rfl

/-- The text of every error starts with the same sign. -/
theorem isError_text (e : CellError) : (Value.text e.text).isError = true := by
  have hhead : e.text.toList.head? = some '#' := by
    cases e with
    | invalidName name =>
      rw [text, String.toList_append, String.toList_append]
      rfl
    | aborted message =>
      rw [text, String.toList_append]
      rfl
    | _ => rfl
  rw [Value.isError, hhead]
  rfl

/-- A text denotes an error exactly if it is the text of that error, whatever its parameter is, and
the texts of all errors count as errors. -/
theorem texts_name_errors :
    (∀ (s : String) (e : CellError), ofText? s = some e ↔ s = e.text) ∧
      ∀ e : CellError, (Value.text e.text).isError = true := by
  refine ⟨fun s e => ⟨eq_text_of_ofText?, ?_⟩, isError_text⟩
  rintro rfl
  exact e.ofText?_text

/-- A parenthesis in a name, and messages that look like other errors. -/
example :
    ofText? "#NAME? (A(1))" = some (.invalidName "A(1)") ∧
      ofText? "#ERROR: #NAME? (X)" = some (.aborted "#NAME? (X)") ∧
      ofText? "#NAME? (#REF!" = none := by
  decide +kernel

end Spreadsheet.CellError
