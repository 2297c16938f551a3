import Spreadsheet.Function.Statistics
import Spreadsheet.Proofs.Number.Order

/-!
# The most frequent number

The mode of some numbers is the first one that no other exceeds in frequency. It exists if two of
the numbers are equal. The numbers are scanned from left to right; each that is equal to none before
it is counted in what is left, which is all of its occurrences.
-/

namespace Spreadsheet.Number

open Float.Model Float.Model.UnpackedFloat

variable {x y z : Float}

/-- Doubles are equal if neither is no number and they are the same one or both zero. -/
theorem beq_iff_unpack : (x == y) = true ↔
    x.toModel.unpack ≠ .notANumber ∧ y.toModel.unpack ≠ .notANumber ∧
      (x.toModel.unpack = y.toModel.unpack ∨
        x.toModel.unpack = .zero .positive ∧ y.toModel.unpack = .zero .negative ∨
        x.toModel.unpack = .zero .negative ∧ y.toModel.unpack = .zero .positive) :=
  beq_iff_ne_notANumber_and_eq _ _

private theorem beq_symm (h : (x == y) = true) : (y == x) = true := by
  rw [beq_iff_unpack] at h ⊢
  grind

private theorem beq_trans (hxy : (x == y) = true) (hyz : (y == z) = true) : (x == z) = true := by
  rw [beq_iff_unpack] at hxy hyz ⊢
  grind

/-- Equal doubles are equal to the same doubles. -/
theorem beq_congr_right (h : (x == y) = true) (z : Float) : (z == x) = (z == y) :=
  Bool.eq_iff_iff.mpr ⟨fun hz => beq_trans hz h, fun hz => beq_trans hz (beq_symm h)⟩

end Spreadsheet.Number

namespace Spreadsheet.Function

variable {xs front behind seen rest : List Float} {x y : Float} {best : Option Repeated}

/-! ## Frequencies -/

/-- The number of values that are equal to a number. -/
def frequency (xs : List Float) (x : Float) : Nat :=
  xs.countP (· == x)

/-- No two values are equal. -/
def AllDiffer (xs : List Float) : Prop :=
  xs.Pairwise fun x y => (x == y) = false

/-- The first of the values that have the greatest frequency in a list. -/
def FirstMostFrequent (xs values : List Float) (x : Float) : Prop :=
  ∃ front behind, values = front ++ x :: behind ∧
    (∀ y ∈ front, frequency xs y < frequency xs x) ∧
      ∀ y ∈ behind, frequency xs y ≤ frequency xs x

/-- The answer is the first of the most frequent values, or it is an error, which it is exactly if
no two values are equal. -/
structure IsMode (xs : List Float) (answer : Value) : Prop where
  /-- Without equal values there is no most frequent one. -/
  absent : answer = .error .notAvailable ↔ AllDiffer xs
  /-- Otherwise the first of the most frequent values is the answer. -/
  first : ¬AllDiffer xs → ∃ x, FirstMostFrequent xs xs x ∧ answer = .number x

/-- Equal numbers are equally frequent. -/
theorem frequency_congr (h : (x == y) = true) : frequency xs x = frequency xs y :=
  List.countP_congr fun z _ => by rw [Number.beq_congr_right h z]

/-- No two values are equal if none is equal to more than one of them. -/
theorem allDiffer_iff : AllDiffer xs ↔ ∀ x ∈ xs, frequency xs x ≤ 1 := by
  rw [AllDiffer, List.pairwise_iff_forall_sublist]
  constructor
  · intro h x _
    rw [frequency, List.countP_eq_length_filter]
    have hsub : (xs.filter (· == x)).Sublist xs := List.filter_sublist
    have hequal : ∀ y ∈ xs.filter (· == x), (y == x) = true :=
      fun y hy => (List.mem_filter.mp hy).2
    generalize xs.filter (· == x) = equals at hsub hequal ⊢
    rcases equals with _ | ⟨a, _ | ⟨b, equals⟩⟩
    · exact Nat.zero_le 1
    · exact Nat.le_refl 1
    · have hab := Number.beq_trans (hequal a (by simp)) (Number.beq_symm (hequal b (by simp)))
      rw [h ((List.sublist_append_left [a, b] equals).trans hsub)] at hab
      cases hab
  · intro h x y hsub
    by_contra hequal
    rw [Bool.not_eq_false] at hequal
    have hself : (y == y) = true := Number.beq_trans (Number.beq_symm hequal) hequal
    have htwo : [x, y].countP (· == y) = 2 := by simp [hequal, hself]
    have hle := hsub.countP_le (p := (· == y))
    have hone := h y (hsub.subset (by simp))
    rw [htwo] at hle
    exact absurd (hle.trans hone) (by decide)

/-! ## The scan -/

namespace FirstMostFrequent

/-- None of the values is more frequent than the first of the most frequent ones. -/
theorem frequency_le (h : FirstMostFrequent xs seen x) (hy : y ∈ seen) :
    frequency xs y ≤ frequency xs x := by
  obtain ⟨front, behind, rfl, hfront, hbehind⟩ := h
  rcases List.mem_append.mp hy with hy | hy
  · exact (hfront y hy).le
  · rcases List.mem_cons.mp hy with rfl | hy
    · exact le_rfl
    · exact hbehind y hy

/-- A value that is not more frequent changes nothing. -/
theorem concat_of_le (h : FirstMostFrequent xs seen x) (hle : frequency xs y ≤ frequency xs x) :
    FirstMostFrequent xs (seen ++ [y]) x := by
  obtain ⟨front, behind, rfl, hfront, hbehind⟩ := h
  refine ⟨front, behind ++ [y], by simp, hfront, fun z hz => ?_⟩
  rcases List.mem_append.mp hz with hz | hz
  · exact hbehind z hz
  · rwa [List.mem_singleton.mp hz]

/-- A value that is more frequent than all before it takes their place. -/
theorem concat_of_lt (h : ∀ z ∈ seen, frequency xs z < frequency xs y) :
    FirstMostFrequent xs (seen ++ [y]) y :=
  ⟨seen, [], rfl, h, by simp⟩

end FirstMostFrequent

/-- What the scan keeps of the values that it has seen: the first of the most frequent ones with its
frequency, if one of them occurs more than once. -/
def Keeps (xs seen : List Float) : Option Repeated → Prop
  | none => ∀ y ∈ seen, frequency xs y ≤ 1
  | some (x, n) => n = frequency xs x ∧ 1 < n ∧ FirstMostFrequent xs seen x

/-- A value is passed over if it occurs once or is as frequent as one that has been seen. -/
theorem Keeps.concat (h : Keeps xs seen best)
    (hle : frequency xs y ≤ 1 ∨ ∃ z ∈ seen, frequency xs y = frequency xs z) :
    Keeps xs (seen ++ [y]) best := by
  cases best with
  | none =>
    intro z hz
    rcases List.mem_append.mp hz with hz | hz
    · exact h z hz
    · rw [List.mem_singleton.mp hz]
      rcases hle with hone | ⟨w, hw, heq⟩
      · exact hone
      · exact heq.trans_le (h w hw)
  | some b =>
    obtain ⟨hn, htwice, hfirst⟩ := h
    refine ⟨hn, htwice, hfirst.concat_of_le ?_⟩
    rcases hle with hone | ⟨z, hz, heq⟩
    · exact hone.trans (htwice.le.trans_eq hn)
    · exact heq.trans_le (hfirst.frequency_le hz)

/-- A value that occurs more than once is kept if it is more frequent than all before. -/
theorem Keeps.moreFrequent (h : Keeps xs seen best) (htwice : 1 < frequency xs x) :
    Keeps xs (seen ++ [x]) (moreFrequent best (x, frequency xs x)) := by
  cases best with
  | none => exact ⟨rfl, htwice, .concat_of_lt fun z hz => (h z hz).trans_lt htwice⟩
  | some b =>
    obtain ⟨hn, hb, hfirst⟩ := h
    unfold Function.moreFrequent
    dsimp only
    split_ifs with hless
    · refine ⟨rfl, htwice, .concat_of_lt fun z hz => ?_⟩
      exact (hfirst.frequency_le hz).trans_lt (hn ▸ hless)
    · exact ⟨hn, hb, hfirst.concat_of_le (hn ▸ not_lt.mp hless)⟩

/-- The occurrences from the first one on are all of them. -/
theorem countP_eq_frequency (hnew : ∀ y ∈ seen, (y == x) = false) :
    (x :: rest).countP (· == x) = frequency (seen ++ x :: rest) x := by
  have hnone : seen.countP (· == x) = 0 :=
    List.countP_eq_zero.mpr fun y hy => Bool.eq_false_iff.mp (hnew y hy)
  rw [frequency, List.countP_append, hnone, Nat.zero_add]

/-- The scan keeps the first of the most frequent values. -/
theorem keeps_mostFrequent (h : Keeps (seen ++ rest) seen best) :
    Keeps (seen ++ rest) (seen ++ rest) (mostFrequent seen.reverse best rest) := by
  induction rest generalizing seen best with
  | nil =>
    rw [List.append_nil] at h ⊢
    exact h
  | cons x rest ih =>
    have hmoved : seen ++ x :: rest = (seen ++ [x]) ++ rest := by simp
    have hseen : x :: seen.reverse = (seen ++ [x]).reverse := by simp
    rw [mostFrequent, hmoved, hseen]
    refine ih ?_
    rw [← hmoved]
    by_cases hold : ∃ y ∈ seen, (x == y) = true
    · have hcontains : seen.reverse.contains x = true := by
        rwa [List.contains_reverse, List.contains_iff_exists_mem_beq]
      obtain ⟨y, hy, hequal⟩ := hold
      rw [if_pos hcontains]
      exact h.concat (.inr ⟨y, hy, frequency_congr hequal⟩)
    · have hcontains : ¬seen.reverse.contains x = true := by
        rwa [List.contains_reverse, List.contains_iff_exists_mem_beq]
      have hnew : ∀ y ∈ seen, (y == x) = false := by
        intro y hy
        by_contra hequal
        exact hold ⟨y, hy, Number.beq_symm (Bool.of_not_eq_false hequal)⟩
      rw [if_neg hcontains, countP_eq_frequency hnew]
      split_ifs with htwice
      · exact h.moreFrequent htwice
      · exact h.concat (.inl (not_lt.mp htwice))

/-- The mode is the first of the most frequent values, and there is one unless no two values are
equal. -/
theorem mode_isMode (args : List Value) : IsMode (numbers args) (mode args) := by
  have hstart : Keeps ([] ++ numbers args) [] none := by simp [Keeps]
  have hkeeps : Keeps (numbers args) (numbers args) (mostFrequent [] none (numbers args)) :=
    keeps_mostFrequent hstart
  unfold mode
  cases hbest : mostFrequent [] none (numbers args) with
  | none =>
    rw [hbest] at hkeeps
    have hdiffer : AllDiffer (numbers args) := allDiffer_iff.mpr hkeeps
    exact ⟨iff_of_true rfl hdiffer, fun h => absurd hdiffer h⟩
  | some b =>
    rw [hbest] at hkeeps
    obtain ⟨hn, htwice, hfirst⟩ := hkeeps
    have hmem : b.1 ∈ numbers args := by
      obtain ⟨front, behind, hnumbers, -⟩ := hfirst
      rw [hnumbers]
      exact List.mem_append_right front List.mem_cons_self
    have hequal : ¬AllDiffer (numbers args) := by
      intro hdiffer
      have hone := allDiffer_iff.mp hdiffer b.1 hmem
      omega
    exact ⟨iff_of_false (by simp) hequal, fun _ => ⟨b.1, hfirst, rfl⟩⟩

end Spreadsheet.Function
