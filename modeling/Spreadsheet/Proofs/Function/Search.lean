import Spreadsheet.Proofs.Function.Find
import Spreadsheet.Proofs.Text.Case

/-!
# Searches without case

A part is searched for without case in the lower-case form of the text, and its position there is
the answer. It is a position in the text as long as the form has every character at its place, and
the part is found wherever it occurs as long as its form is that which it takes in the text. The
texts of which both are true, whatever is searched for, are exactly those that lower steadily.
-/

namespace Spreadsheet.Function

open Text (lowerFrom lowerSigma nearestIsCased dottedCapitalI dottedSmallI capitalSigma
  LowersSteadily)

variable {needle haystack : String} {front behind : List Char} {k : Nat}

/-- The search without case finds what the search finds, not behind it, and where it finds a part
the text goes on with that part up to case. -/
structure SearchFollowsFind (needle haystack : String) (start : Float) : Prop where
  /-- A part that is found is found without case as well. -/
  found : ∀ p, find [.text needle, .text haystack, .number start] = .number p →
    ∃ q, search [.text needle, .text haystack, .number start] = .number q ∧ q ≤ p
  /-- The part is at the position up to case. -/
  place : ∀ q, search [.text needle, .text haystack, .number start] = .number q →
    lowerCase [middlePart [.text haystack, .number q, length [.text needle]]] =
      lowerCase [.text needle]

/-! ## The functions on characters -/

private theorem find_texts (needle haystack : String) (start : Float) :
    find [.text needle, .text haystack, .number start] =
      locate needle.toList haystack.toList start := rfl

private theorem search_texts (needle haystack : String) (start : Float) :
    search [.text needle, .text haystack, .number start] =
      locate (lowerFrom [] needle.toList) (lowerFrom [] haystack.toList) start := by
  change locate (Text.lower needle).toList (Text.lower haystack).toList start = _
  rw [Text.lower, String.toList_ofList, Text.lower, String.toList_ofList]

private theorem lowerCase_ofChars (cs : List Char) :
    lowerCase [ofChars cs] = ofChars (lowerFrom [] cs) := by
  change Value.text (Text.lower (String.ofList cs)) = _
  rw [Text.lower, String.toList_ofList, ofChars]

private theorem middlePart_position (hk : k + 1 < 2 ^ 53) (hneedle : needle.length < 2 ^ 53)
    (haystack : String) :
    middlePart [.text haystack, .number (k + 1).toFloat, length [.text needle]] =
      ofChars ((haystack.toList.drop k).take needle.length) := by
  have hlength : length [.text needle] = .number needle.length.toFloat :=
    ofCount_of_lt hneedle
  rw [hlength]
  simp [middlePart, numberAt, charsAt, textAt, Value.toNumber, Value.number?, Value.toText,
    skipOf?_toFloat k.succ_pos hk, countOf?_toFloat hneedle, orInvalid]

/-- Two texts with the same lower-case form, one of them a part of a third one. -/
theorem lowerCase_middlePart_iff (hk : k + 1 < 2 ^ 53) (hneedle : needle.length < 2 ^ 53) :
    lowerCase [middlePart [.text haystack, .number (k + 1).toFloat, length [.text needle]]] =
        lowerCase [.text needle] ↔
      lowerFrom [] ((haystack.toList.drop k).take needle.length) = lowerFrom [] needle.toList := by
  have hneedle_form : lowerCase [.text needle] = ofChars (lowerFrom [] needle.toList) := rfl
  rw [middlePart_position hk hneedle, lowerCase_ofChars, hneedle_form, ofChars, ofChars,
    Value.text.injEq, String.ofList_inj]

/-! ## Texts that lower steadily -/

/-- In a text that lowers steadily, an occurrence is one of the lower-case forms. -/
theorem isPrefix_drop_lowerFrom (h : LowersSteadily haystack.toList)
    (hoccurs : needle.toList <+: haystack.toList.drop k) :
    lowerFrom [] needle.toList <+: (lowerFrom [] haystack.toList).drop k := by
  rw [List.prefix_iff_eq_take.mp hoccurs, h.lowerFrom_take_drop]
  exact List.take_prefix _ _

/-- In a text that lowers steadily, the search in lower case agrees with that in the text. -/
theorem searchFollowsFind_of_lowersSteadily (hshort : haystack.length + 1 < 2 ^ 53)
    (h : LowersSteadily haystack.toList) (needle : String) (start : Float) :
    SearchFollowsFind needle haystack start := by
  have hlength : (lowerFrom [] haystack.toList).length = haystack.toList.length :=
    Text.length_lowerFrom h.undotted []
  have hshort_form : (lowerFrom [] haystack.toList).length + 1 < 2 ^ 53 := hlength ▸ hshort
  refine ⟨fun p hp => ?_, fun q hq => ?_⟩
  · rw [find_texts] at hp
    obtain ⟨hstart, k, hk, hleast, rfl⟩ := exists_of_locate_eq_number hshort hp
    have hplace := isPrefix_drop_lowerFrom h (occursAt_iff.mp hleast.1.2)
    rw [search_texts]
    exact exists_locate_eq_number_le ⟨hstart.1, hlength ▸ hstart.2⟩
      ((Nat.succ_le_succ hk).trans_lt hshort) ⟨hleast.1.1, occursAt_iff.mpr hplace⟩
  · rw [search_texts] at hq
    obtain ⟨-, k, hk, hleast, rfl⟩ := exists_of_locate_eq_number hshort_form hq
    have hplace := occursAt_iff.mp hleast.1.2
    rw [Nat.add_sub_cancel] at hplace
    have hneedle := h.length_lowerFrom_part
      (hplace.isInfix.trans (List.drop_suffix _ _).isInfix)
    have hfits : needle.length ≤ haystack.length := by
      have hle := hplace.length_le
      rw [hneedle, List.length_drop, hlength] at hle
      exact hle.trans (Nat.sub_le _ _)
    rw [lowerCase_middlePart_iff (by omega) (by omega), h.lowerFrom_take_drop]
    have heq := List.prefix_iff_eq_take.mp hplace
    rw [hneedle] at heq
    exact heq.symm

/-! ## Texts of which searches go astray -/

/-- A part whose lower-case form is at a place is at that place of the text. -/
theorem lowerFrom_take_drop_of_follows (hfollows : ∀ start, SearchFollowsFind needle haystack start)
    (hk : k ≤ (lowerFrom [] haystack.toList).length) (hlt : k + 1 < 2 ^ 53)
    (hneedle : needle.length < 2 ^ 53)
    (h : lowerFrom [] needle.toList <+: (lowerFrom [] haystack.toList).drop k) :
    lowerFrom [] ((haystack.toList.drop k).take needle.length) = lowerFrom [] needle.toList := by
  rw [← lowerCase_middlePart_iff hlt hneedle]
  refine (hfollows (k + 1).toFloat).place _ ?_
  rw [search_texts, locate_of_isPrefix_drop hk hlt h]

/-- A part that occurs has its lower-case form at the place of the occurrence. -/
theorem isPrefix_drop_lowerFrom_of_follows
    (hfollows : ∀ start, SearchFollowsFind needle haystack start)
    (hshort : haystack.length + 1 < 2 ^ 53) (hdot : dottedCapitalI ∉ haystack.toList)
    (hk : k ≤ haystack.length) (h : needle.toList <+: haystack.toList.drop k) :
    lowerFrom [] needle.toList <+: (lowerFrom [] haystack.toList).drop k := by
  have hlength : (lowerFrom [] haystack.toList).length = haystack.length :=
    Text.length_lowerFrom hdot []
  obtain ⟨q, hq, hle⟩ := (hfollows (k + 1).toFloat).found _
    (by rw [find_texts, locate_of_isPrefix_drop hk (by omega) h])
  rw [search_texts] at hq
  exact isPrefix_drop_of_locate (by omega) (by omega) hq hle

/-- A dotted capital I is found as an i, which it is not. -/
theorem undotted_of_follows (hshort : haystack.length + 1 < 2 ^ 53)
    (hfollows : ∀ needle start, SearchFollowsFind needle haystack start) :
    dottedCapitalI ∉ haystack.toList := by
  intro hdotted
  obtain ⟨front, behind, lowered, rest, htext, hlength, hform⟩ := Text.exists_dottedSmallI hdotted
  have hwithin : front.length < haystack.toList.length := by
    rw [htext, List.length_append, List.length_cons]
    omega
  have hfits : front.length ≤ (lowerFrom [] haystack.toList).length := by
    rw [hform, List.length_append, hlength]
    omega
  have hplace : lowerFrom [] "i".toList <+: (lowerFrom [] haystack.toList).drop front.length := by
    rw [hform, ← hlength, List.drop_left]
    exact ⟨'\u0307' :: rest, rfl⟩
  have hsame := lowerFrom_take_drop_of_follows (hfollows "i") hfits
    ((Nat.succ_lt_succ hwithin).trans hshort) (by decide) hplace
  rw [htext, List.drop_left] at hsame
  cases hsame

/-- The dotted small i cannot be the lower-case form of a single other character. -/
theorem dotless_of_follows (hshort : haystack.length + 1 < 2 ^ 53)
    (hdot : dottedCapitalI ∉ haystack.toList)
    (hfollows : ∀ needle start, SearchFollowsFind needle haystack start) :
    ¬dottedSmallI <:+: lowerFrom [] haystack.toList := by
  rintro ⟨front, behind, hform⟩
  have hlength : (lowerFrom [] haystack.toList).length = haystack.length :=
    Text.length_lowerFrom hdot []
  have hfits : front.length ≤ (lowerFrom [] haystack.toList).length := by
    rw [← hform, List.append_assoc, List.length_append]
    omega
  have hplace :
      lowerFrom [] "\u0130".toList <+: (lowerFrom [] haystack.toList).drop front.length := by
    rw [← hform, List.append_assoc, List.drop_left]
    exact List.prefix_append dottedSmallI behind
  have hsame :=
    lowerFrom_take_drop_of_follows (hfollows "\u0130") hfits (by omega) (by decide) hplace
  have hundotted : dottedCapitalI ∉ (haystack.toList.drop front.length).take 1 :=
    fun hmem => hdot (List.mem_of_mem_drop (List.mem_of_mem_take hmem))
  have htwo : ((haystack.toList.drop front.length).take 1).length = 2 := by
    rw [← Text.length_lowerFrom hundotted []]
    exact congrArg List.length hsame
  have hone := List.length_take_le 1 (haystack.toList.drop front.length)
  omega

/-- A capital sigma takes the same form as in a part that ends with it. -/
theorem lowerSigma_eq_of_follows (hshort : haystack.length + 1 < 2 ^ 53)
    (hdot : dottedCapitalI ∉ haystack.toList)
    (hfollows : ∀ needle start, SearchFollowsFind needle haystack start)
    (front part : List Char) (htext : haystack.toList = front ++ (part ++ capitalSigma :: behind)) :
    lowerSigma part.reverse [] = lowerSigma (front ++ part).reverse behind := by
  have hfront : dottedCapitalI ∉ front ++ part := fun hmem =>
    hdot (by rw [htext, ← List.append_assoc]; exact List.mem_append_left _ hmem)
  have hundotted : dottedCapitalI ∉ part := fun hmem => hfront (List.mem_append_right _ hmem)
  have hfits : front.length ≤ haystack.toList.length := by
    rw [htext, List.length_append]
    omega
  have hoccurs : (String.ofList (part ++ [capitalSigma])).toList <+:
      haystack.toList.drop front.length := by
    rw [String.toList_ofList, htext, List.drop_left]
    exact ⟨behind, by rw [List.append_assoc]; rfl⟩
  have hform := isPrefix_drop_lowerFrom_of_follows (hfollows _) hshort hdot hfits hoccurs
  rw [String.toList_ofList] at hform
  have hpart := Text.getElem?_lowerFrom_capitalSigma hundotted []
  have hwhole := Text.getElem?_lowerFrom_capitalSigma hfront behind
  rw [List.append_assoc, ← htext, List.length_append, ← List.getElem?_drop] at hwhole
  obtain ⟨hlt, hlast⟩ := List.getElem?_eq_some_iff.mp hpart
  have hsame := List.prefix_iff_getElem?.mp hform _ hlt
  rw [hwhole, hlast, Option.some_inj] at hsame
  exact hsame.symm

/-- A capital sigma behind a letter would be found neither by itself nor at the end of its front. -/
theorem initial_of_follows (hshort : haystack.length + 1 < 2 ^ 53)
    (hdot : dottedCapitalI ∉ haystack.toList)
    (hfollows : ∀ needle start, SearchFollowsFind needle haystack start)
    (htext : haystack.toList = front ++ capitalSigma :: behind) :
    nearestIsCased front.reverse = false := by
  -- The sigma by itself is as in the text, and so is the one that ends the front.
  have hwhole := lowerSigma_eq_of_follows hshort hdot hfollows [] front htext
  have hsingle := lowerSigma_eq_of_follows hshort hdot hfollows front [] htext
  rw [List.append_nil] at hsingle
  rw [List.nil_append, ← hsingle] at hwhole
  by_contra hcased
  rw [lowerSigma, Bool.of_not_eq_false hcased] at hwhole
  exact absurd hwhole (by decide +kernel)

/-- The search without case follows the search, in whichever way a part is searched for, exactly in
the texts that lower steadily. -/
theorem searchFollowsFind_iff_lowersSteadily (hshort : haystack.length + 1 < 2 ^ 53) :
    (∀ needle start, SearchFollowsFind needle haystack start) ↔ LowersSteadily haystack.toList := by
  refine ⟨fun hfollows => ?_, searchFollowsFind_of_lowersSteadily hshort⟩
  have hdot := undotted_of_follows hshort hfollows
  exact ⟨⟨hdot, fun _ _ htext => initial_of_follows hshort hdot hfollows htext⟩,
    dotless_of_follows hshort hdot hfollows⟩

/-- A text with capitals at the front of its words. -/
theorem searchFollowsFind_helloWorld :
    "Hello World".length + 1 < 2 ^ 53 ∧
      ∀ needle start, SearchFollowsFind needle "Hello World" start := by
  have hsteady : LowersSteadily "Hello World".toList :=
    .of_notMem (by decide) (by decide) (by decide +kernel)
  exact ⟨by decide, (searchFollowsFind_iff_lowersSteadily (by decide)).mpr hsteady⟩

/-- Behind a dotted capital I, the position is one in the lower-case form. -/
theorem not_searchFollowsFind_dottedCapitalI :
    find [.text "a", .text "\u0130a", .number 1.0] = .number 2.0 ∧
      search [.text "a", .text "\u0130a", .number 1.0] = .number 3.0 ∧
        ¬SearchFollowsFind "a" "\u0130a" 1.0 := by
  have hfind : find [.text "a", .text "\u0130a", .number 1.0] = .number 2.0 := by rfl
  have hsearch : search [.text "a", .text "\u0130a", .number 1.0] = .number 3.0 := by rfl
  refine ⟨hfind, hsearch, fun h => ?_⟩
  obtain ⟨q, hq, hle⟩ := h.found _ hfind
  rw [hsearch] at hq
  obtain rfl := Value.number.inj hq
  exact absurd hle (by decide +kernel)

end Spreadsheet.Function
