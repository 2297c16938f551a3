import Mathlib.Tactic.ByContra
import Spreadsheet.Function.Lookup

/-!
# Keys in order

A target is found among keys in order at the last key that has not passed it. The search goes from
key to key, leaves out those that the target cannot be compared with, and ends at the first key that
has passed. The main statement says that this is the last of all keys that have not passed the
target, provided that none of them stands behind one that has; nothing is asked of the other keys.
-/

namespace Spreadsheet.Function

variable {passed : Ordering} {target key : Value} {keys front behind : List Value} {i : Nat}
  {best : Option Nat}

/-! ## How keys compare with a target -/

/-- The key comes before the target or is equal to it. -/
def isAtMost (target key : Value) : Bool :=
  (compareKeys key target).any Ordering.isLE

/-- The key comes behind the target or is equal to it. -/
def isAtLeast (target key : Value) : Bool :=
  (compareKeys key target).any Ordering.isGE

/-- The key can be compared with the target and has not passed it. -/
def staysWithin (passed : Ordering) (target key : Value) : Bool :=
  (compareKeys key target).any fun o => o ≠ passed

private theorem isAtMost_eq (target : Value) : isAtMost target = staysWithin .gt target := by
  funext key
  have hsame : Ordering.isLE = fun o => decide (o ≠ .gt) := by
    funext o
    cases o <;> rfl
  rw [isAtMost, staysWithin, hsame]

private theorem isAtLeast_eq (target : Value) : isAtLeast target = staysWithin .lt target := by
  funext key
  have hsame : Ordering.isGE = fun o => decide (o ≠ .lt) := by
    funext o
    cases o <;> rfl
  rw [isAtLeast, staysWithin, hsame]

/-- A key that has not passed the target compares with it otherwise. -/
theorem staysWithin_eq_true_iff : staysWithin passed target key = true ↔
    ∃ o, compareKeys key target = some o ∧ o ≠ passed := by
  simp [staysWithin, Option.any_eq_true]

/-! ## The search -/

/-- A key that has not passed the target is the best one so far. -/
theorem boundary_cons_of_staysWithin (h : staysWithin passed target key = true) :
    boundary passed target i best (key :: keys) =
      boundary passed target (i + 1) (some i) keys := by
  obtain ⟨o, hcompare, hne⟩ := staysWithin_eq_true_iff.mp h
  rw [boundary, hcompare]
  exact if_neg hne

/-- The search goes on behind a key that has not passed the target, whether it can be compared with
it or not. -/
theorem exists_boundary_cons_eq (i : Nat) (best : Option Nat) (keys : List Value)
    (h : compareKeys key target ≠ some passed) :
    ∃ best', boundary passed target i best (key :: keys) =
      boundary passed target (i + 1) best' keys := by
  cases hcompare : compareKeys key target with
  | none => exact ⟨best, by rw [boundary, hcompare]⟩
  | some o =>
    have hne : o ≠ passed := fun heq => h (hcompare.trans (congrArg some heq))
    exact ⟨some i, boundary_cons_of_staysWithin (staysWithin_eq_true_iff.mpr ⟨o, hcompare, hne⟩)⟩

/-- Keys that do not stay within the target change nothing. -/
theorem boundary_of_forall (h : ∀ key ∈ keys, staysWithin passed target key = false) :
    boundary passed target i best keys = best := by
  induction keys generalizing i with
  | nil => rfl
  | cons key keys ih =>
    obtain ⟨hkey, hkeys⟩ := List.forall_mem_cons.mp h
    rw [boundary]
    split
    · exact ih hkeys
    · rename_i o hcompare
      have hpassed : o = passed := by
        by_contra hne
        rw [staysWithin_eq_true_iff.mpr ⟨o, hcompare, hne⟩] at hkey
        cases hkey
      exact if_pos hpassed

/-- Before the first key that has passed, the search finds the last key that stays within the
target. -/
theorem boundary_append_cons (hfront : ∀ k ∈ front, compareKeys k target ≠ some passed)
    (hkey : staysWithin passed target key = true)
    (hbehind : ∀ k ∈ behind, staysWithin passed target k = false) :
    boundary passed target i best (front ++ key :: behind) = some (i + front.length) := by
  induction front generalizing i best with
  | nil =>
    rw [List.nil_append, boundary_cons_of_staysWithin hkey, boundary_of_forall hbehind]
    rfl
  | cons k front ih =>
    obtain ⟨hk, hfront⟩ := List.forall_mem_cons.mp hfront
    obtain ⟨best', hstep⟩ := exists_boundary_cons_eq i best (front ++ key :: behind) hk
    rw [List.cons_append, hstep, ih hfront, List.length_cons]
    congr 1
    omega

/-! ## The place of the last key -/

/-- The answer is the place, counted from one, of the last key with a property, or it is an error,
which it is exactly if no key has the property. -/
structure PlacesLast (p : Value → Bool) (keys : List Value) (answer : Value) : Prop where
  /-- The last key is that with no other one behind it. -/
  last : ∀ front key behind, keys = front ++ key :: behind → p key = true →
    (∀ k ∈ behind, p k = false) → answer = ofCount (front.length + 1)
  /-- There is an error without such a key. -/
  absent : answer = .error .notAvailable ↔ ∀ key ∈ keys, p key = false

/-- Some keys end with those behind the last one that has a property. -/
theorem exists_last {p : Value → Bool} (h : ∃ key ∈ keys, p key = true) :
    ∃ front key behind, keys = front ++ key :: behind ∧ p key = true ∧
      ∀ k ∈ behind, p k = false := by
  induction keys with
  | nil => simp at h
  | cons first keys ih =>
    by_cases hkeys : ∃ key ∈ keys, p key = true
    · obtain ⟨front, key, behind, rfl, hkey, hbehind⟩ := ih hkeys
      exact ⟨first :: front, key, behind, rfl, hkey, hbehind⟩
    · have hnone : ∀ key ∈ keys, p key = false := by simpa using hkeys
      have hfirst : p first = true := by
        obtain ⟨key, hmem, hkey⟩ := h
        rcases List.mem_cons.mp hmem with rfl | hmem
        · exact hkey
        · exact absurd ⟨key, hmem, hkey⟩ hkeys
      exact ⟨[], first, keys, rfl, hfirst, hnone⟩

/-- What a search in keys answers with: the place found, counted from one. -/
def placeAnswer : Option Nat → Value
  | none => .error .notAvailable
  | some place => ofCount (place + 1)

/-- If no key that stays within the target stands behind one that has passed it, the search finds
the last key that stays within the target. -/
theorem placesLast_boundary (h : keys.Pairwise fun earlier later =>
    compareKeys earlier target = some passed → staysWithin passed target later = false) :
    PlacesLast (staysWithin passed target) keys
      (placeAnswer (boundary passed target 0 none keys)) := by
  have hlast : ∀ front key behind, keys = front ++ key :: behind →
      staysWithin passed target key = true → (∀ k ∈ behind, staysWithin passed target k = false) →
      placeAnswer (boundary passed target 0 none keys) = ofCount (front.length + 1) := by
    rintro front key behind rfl hkey hbehind
    have hfront : ∀ k ∈ front, compareKeys k target ≠ some passed := by
      intro k hk hpassed
      obtain ⟨-, -, hacross⟩ := List.pairwise_append.mp h
      have hstays := hacross k hk key List.mem_cons_self hpassed
      rw [hkey] at hstays
      cases hstays
    rw [boundary_append_cons hfront hkey hbehind, Nat.zero_add]
    rfl
  refine ⟨hlast, fun habsent => ?_, fun hnone => ?_⟩
  · by_contra hsome
    have hexists : ∃ key ∈ keys, staysWithin passed target key = true := by simpa using hsome
    obtain ⟨front, key, behind, hkeys, hkey, hbehind⟩ := exists_last hexists
    rw [hlast front key behind hkeys hkey hbehind] at habsent
    cases habsent
  · rw [boundary_of_forall hnone]
    rfl

/-- The number of the order in which keys are said to be, one if it is missing. -/
def orderOf (args : List Value) : Int :=
  Number.toInt64 (Number.truncate (numberAt args 2 1.0))

private theorem position_one (target : Value) (keys : List Value) :
    position 1 target keys = placeAnswer (boundary .gt target 0 none keys) := by
  unfold position
  cases boundary .gt target 0 none keys <;> rfl

private theorem position_neg_one (target : Value) (keys : List Value) :
    position (-1) target keys = placeAnswer (boundary .lt target 0 none keys) := by
  unfold position
  cases boundary .lt target 0 none keys <;> rfl

/-- In the ascending order, the place of a target is that of the last key that is at most the
target, if no such key stands behind a greater one; in the descending order it is that of the last
key that is at least the target, if no such key stands behind a smaller one. Without such a key the
target is not there. Keys that cannot be compared with the target may stand anywhere. -/
theorem findMatch_placesLast (target array : Value) (rest : List Value) :
    (orderOf (target :: array :: rest) = 1 →
      (spread array).Pairwise (fun earlier later =>
        compareKeys earlier target = some .gt → isAtMost target later = false) →
      PlacesLast (isAtMost target) (spread array) (findMatch (target :: array :: rest))) ∧
    (orderOf (target :: array :: rest) = -1 →
      (spread array).Pairwise (fun earlier later =>
        compareKeys earlier target = some .lt → isAtLeast target later = false) →
      PlacesLast (isAtLeast target) (spread array) (findMatch (target :: array :: rest))) := by
  have hfind : findMatch (target :: array :: rest) =
      position (orderOf (target :: array :: rest)) target (spread array) := rfl
  rw [hfind, isAtMost_eq, isAtLeast_eq]
  constructor
  · intro horder harranged
    rw [horder, position_one]
    exact placesLast_boundary harranged
  · intro horder harranged
    rw [horder, position_neg_one]
    exact placesLast_boundary harranged

/-- Texts in ascending order, one of them twice in different cases, with other values among them. -/
def risingKeys : Value :=
  .array
    [ [.boolean true, .text "a", .text "c", .empty],
      [.text "C", .error .notAvailable, .text "x"] ]

/-- Texts in descending order, one of them twice in different cases, with other values among
them. -/
def fallingKeys : Value :=
  .array [[.text "x", .boolean true], [.text "C", .empty], [.text "c", .text "a"]]

/-- Of equal keys the last one is found, in either order. -/
theorem findMatch_risingKeys_fallingKeys :
    orderOf [.text "c", risingKeys, .number 1.0] = 1 ∧
      (spread risingKeys).Pairwise (fun earlier later =>
        compareKeys earlier (.text "c") = some .gt → isAtMost (.text "c") later = false) ∧
      findMatch [.text "c", risingKeys, .number 1.0] = ofCount 5 ∧
    orderOf [.text "c", fallingKeys, .number (-1.0)] = -1 ∧
      (spread fallingKeys).Pairwise (fun earlier later =>
        compareKeys earlier (.text "c") = some .lt → isAtLeast (.text "c") later = false) ∧
      findMatch [.text "c", fallingKeys, .number (-1.0)] = ofCount 5 := by
  have hascending : orderOf [.text "c", risingKeys, .number 1.0] = 1 := by decide +kernel
  have hdescending : orderOf [.text "c", fallingKeys, .number (-1.0)] = -1 := by decide +kernel
  have hrising : (spread risingKeys).Pairwise (fun earlier later =>
      compareKeys earlier (.text "c") = some .gt → isAtMost (.text "c") later = false) := by
    decide
  have hfalling : (spread fallingKeys).Pairwise (fun earlier later =>
      compareKeys earlier (.text "c") = some .lt → isAtLeast (.text "c") later = false) := by
    decide
  have hfromBelow :=
    (findMatch_placesLast (.text "c") risingKeys [.number 1.0]).1 hascending hrising
  have hfromAbove :=
    (findMatch_placesLast (.text "c") fallingKeys [.number (-1.0)]).2 hdescending hfalling
  refine ⟨hascending, hrising, ?_, hdescending, hfalling, ?_⟩
  · exact hfromBelow.last [.boolean true, .text "a", .text "c", .empty] (.text "C")
      [.error .notAvailable, .text "x"] rfl (by decide) (by decide)
  · exact hfromAbove.last [.text "x", .boolean true, .text "C", .empty] (.text "c") [.text "a"] rfl
      (by decide) (by decide)

end Spreadsheet.Function
