import Spreadsheet.Dependency.Graph
import Spreadsheet.Procedure

/-!
# Circular references

A walk in depth along the dependencies of a cell either comes back to a cell on the path that it is
on, or settles every cell that it comes to as one that leads to no cycle. What is still to be done
is kept on a stack, on which a cell may wait more than once before it is entered.
-/

namespace Spreadsheet

namespace Dependency

/-- What a walk in depth has to do with a cell. -/
inductive Visit where
  /-- The walk comes to the cell. -/
  | enter (a : QualifiedAddress)
  /-- The walk is through with all that the cell reads. -/
  | leave (a : QualifiedAddress)

/-- The cell that is visited. -/
def Visit.cell : Visit → QualifiedAddress
  | .enter a => a
  | .leave a => a

/-- A bound on the turns that some visits take, those of the cells that are yet to come aside. -/
def turns : List Visit → Nat
  | [] => 0
  | .enter _ :: stack => 2 + turns stack
  | .leave _ :: stack => 1 + turns stack

/-- How far a walk in depth has come. -/
structure Walk where
  /-- The visits to come, the next one first. -/
  stack : List Visit
  /-- The cells that were entered and not left. -/
  path : AddressSet
  /-- The cells that were left. -/
  settled : AddressSet

namespace Walk

/-- The walk from a cell. -/
def start (a : QualifiedAddress) : Walk :=
  ⟨[.enter a], ∅, ∅⟩

/-- The cell has been entered. -/
def knows (w : Walk) (a : QualifiedAddress) : Bool :=
  w.settled.contains a || w.path.contains a

/-- The walk after a cell was entered that reads the given cells: those that are not settled wait on
top of it, the last one first. -/
def enter (w : Walk) (a : QualifiedAddress) (stack : List Visit)
    (inputs : List QualifiedAddress) : Walk :=
  let waiting := inputs.filter fun b => !w.settled.contains b
  { w with
    stack := waiting.reverse.map .enter ++ .leave a :: stack
    path := w.path.insert a }

end Walk

variable {γ : Type} [Graph γ] {g : γ} {w w' : Walk} {a : QualifiedAddress}

/-- One visit. The walk has met a cycle if the cell that it enters reads a cell on the path, and it
has met none if no visits are left. -/
def visit (g : γ) (w : Walk) : Bool ⊕ Walk :=
  match w.stack with
  | [] => .inl false
  | .leave a :: stack => .inr ⟨stack, w.path.erase a, w.settled.insert a⟩
  | .enter a :: stack =>
    if w.knows a then .inr { w with stack := stack }
    else if (inputs g a).any (w.path.insert a).contains then .inl true
    else .inr (w.enter a stack (inputs g a))

/-- A bound on the visits to come: the two of every cell that waits, the one of every cell on the
path, and those for which the dependencies of the other cells are responsible. -/
def Walk.work (g : γ) (w : Walk) : Nat :=
  unknown (fun a => 2 * (inputs g a).length) w.knows (Graph.recorded g) + turns w.stack

/-- Entering a cell accounts for its dependencies. -/
theorem unknown_enter (h : w.knows a = false) (stack : List Visit) :
    unknown (fun a => 2 * (inputs g a).length) (w.enter a stack (inputs g a)).knows
        (Graph.recorded g) + 2 * (inputs g a).length ≤
      unknown (fun a => 2 * (inputs g a).length) w.knows (Graph.recorded g) := by
  have hmono : ∀ x, w.knows x = true →
      (w.enter a stack (inputs g a)).knows x = true := by
    intro x hx
    simp only [Walk.knows, Walk.enter, Bool.or_eq_true, Std.ExtTreeSet.contains_insert] at hx ⊢
    exact hx.imp id fun hx => Or.inr hx
  by_cases ha : a ∈ Graph.recorded g
  · exact unknown_add_le hmono ha h (by simp [Walk.knows, Walk.enter])
  · rw [inputs_eq_nil ha]
    exact unknown_le (inputs_eq_nil ha ▸ hmono)

/-- Every cell that is to be entered is visited twice. -/
theorem turns_map_enter_append (l : List QualifiedAddress) (stack : List Visit) :
    turns (l.map .enter ++ stack) = 2 * l.length + turns stack := by
  induction l with
  | nil => exact (Nat.zero_add _).symm
  | cons b l ih =>
    simp only [List.map_cons, List.cons_append, turns, ih, List.length_cons]
    omega

/-- A bound on the visits of the cells that wait for one of the inputs of a cell. -/
theorem turns_enter_le (w : Walk) (a : QualifiedAddress) (stack : List Visit)
    (inputs : List QualifiedAddress) :
    turns (w.enter a stack inputs).stack ≤ 2 * inputs.length + 1 + turns stack := by
  have hlength := List.length_filter_le (fun b => !w.settled.contains b) inputs
  simp only [Walk.enter, turns_map_enter_append, turns, List.length_reverse]
  omega

/-- Every visit gets some work done. -/
theorem work_visit_lt (h : visit g w = .inr w') : w'.work g < w.work g := by
  unfold visit at h
  split at h
  · cases h
  · next a stack hstack =>
    obtain rfl := Sum.inr.inj h
    have hmono : ∀ x, w.knows x = true →
        Walk.knows ⟨stack, w.path.erase a, w.settled.insert a⟩ x = true := by
      intro x hx
      simp only [Walk.knows, Bool.or_eq_true, Std.ExtTreeSet.contains_insert,
        Std.ExtTreeSet.contains_erase] at hx ⊢
      by_cases hax : a = x <;> simp_all
    have hle : unknown (fun a => 2 * (inputs g a).length)
        (Walk.knows ⟨stack, w.path.erase a, w.settled.insert a⟩) (Graph.recorded g) ≤ _ :=
      unknown_le hmono
    simp only [Walk.work, hstack, turns]
    omega
  · next a stack hstack =>
    split at h
    · obtain rfl := Sum.inr.inj h
      simp only [Walk.work, hstack, turns]
      have : Walk.knows { w with stack := stack } = w.knows := rfl
      rw [this]
      omega
    · next hnew =>
      split at h
      · cases h
      · obtain rfl := Sum.inr.inj h
        have hknown := unknown_enter (g := g) (Bool.eq_false_iff.mpr hnew) stack
        have hstack' := turns_enter_le w a stack (inputs g a)
        simp only [Walk.work, hstack, turns]
        omega

/-- The walks in depth along the dependencies. -/
def search (g : γ) : Procedure Walk Bool :=
  ⟨visit g, Walk.work g, work_visit_lt⟩

/-- A cycle can be reached from a cell along its dependencies. -/
def reachesCycle (g : γ) (a : QualifiedAddress) : Bool :=
  (search g).run (.start a)

end Dependency

namespace Workbook

/-- The cells that the record of an address says it reads, in order. -/
def inputs (wb : Workbook) (a : QualifiedAddress) : List QualifiedAddress :=
  (wb.dependenciesOf a).toList

/-- The cells whose records say that they read an address, in order. -/
def readers (wb : Workbook) (a : QualifiedAddress) : List QualifiedAddress :=
  (wb.dependentsOf a).toList

/-- A cycle can be reached from a cell along its dependencies. -/
def reachesCycle (wb : Workbook) (a : QualifiedAddress) : Bool :=
  Dependency.reachesCycle wb a

end Workbook

end Spreadsheet
