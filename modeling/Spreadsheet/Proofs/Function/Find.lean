import Mathlib.Order.ConditionallyCompleteLattice.Basic
import Spreadsheet.Proofs.Function.Position
import Spreadsheet.Proofs.Text.Bytes

/-!
# Positions of parts of texts

A part is found at the first position, from the start on, at which the text goes on with it.
Positions count characters, while the search goes through bytes: it is said here in bytes as well,
with every cut of a text that it makes, and no cut falls inside of a character.
-/

namespace Spreadsheet.Function

open Number (toCount)

variable {needle haystack : List Char} {start : Float} {p : Nat}

/-! ## First positions -/

/-- The start is a position in the text or that behind its end. -/
def StartsWithin (haystack : List Char) (start : Float) : Prop :=
  1.0 ≤ start ∧ toCount start ≤ haystack.length + 1

/-- The characters from a position on are those of the part. -/
def OccursAt (needle haystack : List Char) (p : Nat) : Prop :=
  (haystack.drop (p - 1)).take needle.length = needle

/-- The positions of a part from a start on. -/
def placesFrom (needle haystack : List Char) (start : Float) : Set Nat :=
  {p | toCount start ≤ p ∧ OccursAt needle haystack p}

/-- The answer is the first position of the part from a start within the text on. There is none if
the part does not occur there or the start is not within the text. -/
structure PlacesFirst (needle haystack : List Char) (start : Float) (answer : Value) : Prop where
  /-- The first position is the least one. -/
  first : StartsWithin haystack start → ∀ p, IsLeast (placesFrom needle haystack start) p →
    answer = ofCount p
  /-- The part may not occur. -/
  absent : StartsWithin haystack start → placesFrom needle haystack start = ∅ →
    answer = .error .invalidValue
  /-- The start may not be within the text. -/
  outside : ¬StartsWithin haystack start → answer = .error .invalidValue

/-- A part occurs at a position if what is left of the text there starts with it. -/
theorem occursAt_iff : OccursAt needle haystack p ↔ needle <+: haystack.drop (p - 1) := by
  rw [OccursAt, List.prefix_iff_eq_take, eq_comm]

private theorem add_mem_placesFrom_iff (hpos : 0 < toCount start) (j : Nat) :
    toCount start + j ∈ placesFrom needle haystack start ↔
      needle <+: (haystack.drop (toCount start - 1)).drop j := by
  have hindex : toCount start + j - 1 = toCount start - 1 + j := by omega
  rw [List.drop_drop, ← hindex, ← occursAt_iff]
  exact and_iff_right (Nat.le_add_right _ _)

/-- Positions from the start on are counted on from those in what is left of the text there. -/
theorem isLeast_placesFrom_iff (hpos : 0 < toCount start) {found : Nat} :
    IsLeast (placesFrom needle haystack start) (toCount start + found) ↔
      IsLeast {j | needle <+: (haystack.drop (toCount start - 1)).drop j} found := by
  refine and_congr (add_mem_placesFrom_iff hpos found) ⟨fun h j hj => ?_, fun h p hp => ?_⟩
  · have hle := h ((add_mem_placesFrom_iff hpos j).mpr hj)
    omega
  · obtain ⟨j, rfl⟩ := Nat.exists_eq_add_of_le hp.1
    exact Nat.add_le_add_left (h ((add_mem_placesFrom_iff hpos j).mp hp)) _

/-- A part has no position from the start on if nothing that is left there starts with it. -/
theorem placesFrom_eq_empty_iff (hpos : 0 < toCount start) :
    placesFrom needle haystack start = ∅ ↔
      ∀ j, ¬needle <+: (haystack.drop (toCount start - 1)).drop j := by
  rw [Set.eq_empty_iff_forall_notMem]
  refine ⟨fun h j hj => h _ ((add_mem_placesFrom_iff hpos j).mpr hj), fun h p hp => ?_⟩
  obtain ⟨j, rfl⟩ := Nat.exists_eq_add_of_le hp.1
  exact h j ((add_mem_placesFrom_iff hpos j).mp hp)

/-! ## The search in characters -/

/-- The search within the text. -/
theorem locate_of_startsWithin (h : StartsWithin haystack start) :
    locate needle haystack start =
      match Text.find? needle (haystack.drop (toCount start - 1)) with
      | none => .error .invalidValue
      | some found => ofCount (toCount start + found) := by
  have hpos := Number.toCount_pos h.1
  have hwithin : ¬haystack.length < toCount start - 1 := by
    have := h.2
    omega
  rw [locate, skipOf?_eq, if_pos h.1]
  cases hfind : Text.find? needle (haystack.drop (toCount start - 1)) with
  | none => simp [hwithin, hfind, orInvalid]
  | some found =>
    have hplace : toCount start - 1 + found + 1 = toCount start + found := by omega
    simp [hwithin, hfind, orInvalid, hplace]

/-- The search fails if it does not start within the text. -/
theorem locate_of_not_startsWithin (h : ¬StartsWithin haystack start) :
    locate needle haystack start = .error .invalidValue := by
  rw [locate, skipOf?_eq]
  by_cases hone : 1.0 ≤ start
  · have hpos := Number.toCount_pos hone
    have hbeyond : haystack.length < toCount start - 1 := by
      have : ¬toCount start ≤ haystack.length + 1 := fun hle => h ⟨hone, hle⟩
      omega
    simp [hone, hbeyond, orInvalid]
  · simp [hone, orInvalid]

/-- The search finds the first position. -/
theorem placesFirst_locate (needle haystack : List Char) (start : Float) :
    PlacesFirst needle haystack start (locate needle haystack start) := by
  refine ⟨fun h p hp => ?_, fun h hnone => ?_, locate_of_not_startsWithin⟩
  · have hpos := Number.toCount_pos h.1
    obtain ⟨found, rfl⟩ := Nat.exists_eq_add_of_le hp.1.1
    rw [locate_of_startsWithin h,
      Text.find?_eq_some_iff.mpr ((isLeast_placesFrom_iff hpos).mp hp)]
  · have hpos := Number.toCount_pos h.1
    rw [locate_of_startsWithin h,
      Text.find?_eq_none_iff.mpr ((placesFrom_eq_empty_iff hpos).mp hnone)]

/-! ## Positions as doubles -/

/-- A part that is at the start is found there. -/
theorem locate_of_isPrefix_drop {k : Nat} (hwithin : k ≤ haystack.length) (hlt : k + 1 < 2 ^ 53)
    (h : needle <+: haystack.drop k) :
    locate needle haystack (k + 1).toFloat = .number (k + 1).toFloat := by
  have hcount := Number.toCount_toFloat k.succ_pos hlt
  have hstart : StartsWithin haystack (k + 1).toFloat :=
    ⟨Number.one_le_toFloat k.succ_pos hlt, hcount ▸ Nat.succ_le_succ hwithin⟩
  rw [(placesFirst_locate _ _ _).first hstart (k + 1), ofCount_of_lt hlt]
  exact ⟨⟨hcount.le, occursAt_iff.mpr h⟩, fun p hp => hcount.ge.trans hp.1⟩

/-- A position that is found is the first one. -/
theorem exists_of_locate_eq_number {q : Float} (hshort : haystack.length + 1 < 2 ^ 53)
    (h : locate needle haystack start = .number q) :
    StartsWithin haystack start ∧
      ∃ k, k ≤ haystack.length ∧ IsLeast (placesFrom needle haystack start) (k + 1) ∧
        q = (k + 1).toFloat := by
  by_cases hstart : StartsWithin haystack start
  · refine ⟨hstart, ?_⟩
    have hpos := Number.toCount_pos hstart.1
    rw [locate_of_startsWithin hstart] at h
    cases hfind : Text.find? needle (haystack.drop (toCount start - 1)) with
    | none =>
      rw [hfind] at h
      cases h
    | some found =>
      have hleast := Text.find?_eq_some_iff.mp hfind
      have hwithin := Text.le_length_of_isLeast hleast
      have hend := hstart.2
      rw [List.length_drop] at hwithin
      have hplace : toCount start + found = toCount start - 1 + found + 1 := by omega
      simp only [hfind] at h
      rw [hplace, ofCount_of_lt (by omega)] at h
      refine ⟨toCount start - 1 + found, by omega, ?_, (Value.number.inj h).symm⟩
      rw [← hplace]
      exact (isLeast_placesFrom_iff hpos).mpr hleast
  · rw [locate_of_not_startsWithin hstart] at h
    cases h

/-- Where a part occurs, the search ends at the latest. -/
theorem exists_locate_eq_number_le {k : Nat} (hstart : StartsWithin haystack start)
    (hlt : k + 1 < 2 ^ 53) (h : k + 1 ∈ placesFrom needle haystack start) :
    ∃ q, locate needle haystack start = .number q ∧ q ≤ (k + 1).toFloat := by
  have hleast := isLeast_csInf (Set.nonempty_of_mem h)
  have hle := hleast.2 h
  have hpos := (Number.toCount_pos hstart.1).trans_le hleast.1.1
  have hfirst := (placesFirst_locate _ _ _).first hstart _ hleast
  refine ⟨_, hfirst.trans (ofCount_of_lt (by omega)), ?_⟩
  rwa [Number.toFloat_le_toFloat_iff hpos (by omega) k.succ_pos hlt]

/-- A position that is found at the start, or before it, is that of a part which is at the start. -/
theorem isPrefix_drop_of_locate {k : Nat} {q : Float} (hshort : haystack.length + 1 < 2 ^ 53)
    (hlt : k + 1 < 2 ^ 53) (h : locate needle haystack (k + 1).toFloat = .number q)
    (hle : q ≤ (k + 1).toFloat) : needle <+: haystack.drop k := by
  obtain ⟨-, j, hwithin, hleast, rfl⟩ := exists_of_locate_eq_number hshort h
  have hfrom := hleast.1.1
  rw [Number.toCount_toFloat k.succ_pos hlt] at hfrom
  rw [Number.toFloat_le_toFloat_iff j.succ_pos (by omega) k.succ_pos hlt] at hle
  obtain rfl : j = k := by omega
  exact occursAt_iff.mp hleast.1.2

/-! ## The search in bytes -/

/-- A text is cut where a character starts. -/
theorem cutAt?_byteOffset (n : Nat) (text : List Char) :
    Text.cutAt? (Text.byteOffset n text) text = some (text.take n, text.drop n) :=
  Text.cutAt?_eq_some_iff.mpr ⟨(List.take_append_drop n text).symm, rfl⟩

/-- The bytes of characters in a row add up. -/
theorem byteOffset_add (m n : Nat) (text : List Char) :
    Text.byteOffset m text + (Text.bytes ((text.drop m).take n)).length =
      Text.byteOffset (m + n) text := by
  rw [Text.byteOffset, Text.byteOffset, List.take_add, Text.bytes_append, List.length_append]

/-- The search among the bytes cuts between characters only, and it finds the position that the
search among the characters finds. -/
theorem locateInBytes_eq (needle haystack : List Char) (start : Float) :
    locateInBytes needle haystack start = some (locate needle haystack start) := by
  unfold locateInBytes locate
  cases skipOf? start with
  | none => rfl
  | some skip =>
    by_cases hbeyond : haystack.length < skip
    · simp [hbeyond, orInvalid]
    simp only [hbeyond, if_false, cutAt?_byteOffset, Text.firstMatch?_bytes, Option.bind_eq_bind,
      Option.bind_some]
    cases hfind : Text.find? needle (haystack.drop skip) with
    | none => rfl
    | some found =>
      have hwithin := Text.le_length_of_isLeast (Text.find?_eq_some_iff.mp hfind)
      have hlength : (haystack.take (skip + found)).length = skip + found := by
        rw [List.length_drop] at hwithin
        rw [List.length_take]
        omega
      simp only [Option.map_some, byteOffset_add, cutAt?_byteOffset, Option.bind_some, hlength]
      rfl

/-- A part is found at its first position from the start on, in characters of any number of bytes,
and no text is cut inside of a character on the way. -/
theorem find_placesFirst (args : List Value) :
    PlacesFirst (charsAt args 0) (charsAt args 1) (numberAt args 2 1.0) (find args) ∧
      locateInBytes (charsAt args 0) (charsAt args 1) (numberAt args 2 1.0) = some (find args) :=
  ⟨placesFirst_locate _ _ _, locateInBytes_eq _ _ _⟩

end Spreadsheet.Function
