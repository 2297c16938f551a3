import Spreadsheet.Workbook.Basic

/-!
# Dependency graphs

A dependency graph tells of every cell which cells it reads and which cells read it. Both are told
by records, of which there are finitely many, and nothing says that the two sides of an edge fit
together. A workbook is such a graph.
-/

namespace Spreadsheet

/-- Read access to the edges between cells. -/
class Dependency.Graph (γ : Type) where
  /-- The cells that have a record. -/
  recorded : γ → List QualifiedAddress
  /-- The cells that a cell reads. -/
  dependenciesOf : γ → QualifiedAddress → AddressSet
  /-- The cells that read a cell. -/
  dependentsOf : γ → QualifiedAddress → AddressSet
  /-- A cell without a record reads nothing. -/
  dependenciesOf_eq_empty : ∀ {g : γ} {a}, a ∉ recorded g → dependenciesOf g a = ∅
  /-- A cell without a record is not read. -/
  dependentsOf_eq_empty : ∀ {g : γ} {a}, a ∉ recorded g → dependentsOf g a = ∅

namespace Dependency

/-- The cells that a cell reads, in order. -/
def inputs {γ : Type} [Graph γ] (g : γ) (a : QualifiedAddress) : List QualifiedAddress :=
  (Graph.dependenciesOf g a).toList

/-- The cells that read a cell, in order. -/
def readers {γ : Type} [Graph γ] (g : γ) (a : QualifiedAddress) : List QualifiedAddress :=
  (Graph.dependentsOf g a).toList

/-- A cell without a record reads nothing. -/
theorem inputs_eq_nil {γ : Type} [Graph γ] {g : γ} {a : QualifiedAddress}
    (h : a ∉ Graph.recorded g) : inputs g a = [] := by
  simp [inputs, Graph.dependenciesOf_eq_empty h]

/-- A cell without a record is read by nothing. -/
theorem readers_eq_nil {γ : Type} [Graph γ] {g : γ} {a : QualifiedAddress}
    (h : a ∉ Graph.recorded g) : readers g a = [] := by
  simp [readers, Graph.dependentsOf_eq_empty h]

/-! ## What is left to a walk -/

variable {weight : QualifiedAddress → Nat} {known known' : QualifiedAddress → Bool}
  {cells : List QualifiedAddress} {a : QualifiedAddress}

/-- The cells that are not known yet, each counted by its weight. -/
def unknown (weight : QualifiedAddress → Nat) (known : QualifiedAddress → Bool) :
    (cells : List QualifiedAddress) → Nat
  | [] => 0
  | a :: cells => (if known a then 0 else weight a) + unknown weight known cells

/-- A cell that is still known counts for no more than it did. -/
theorem weight_le {n : Nat} (h : known a = true → known' a = true) :
    (if known' a then 0 else n) ≤ if known a then 0 else n := by
  split
  · exact Nat.zero_le _
  · next hnew => exact Nat.le_of_eq (if_neg fun hold => hnew (h hold)).symm

/-- The more is known, the less is left. -/
theorem unknown_le (h : ∀ x, known x = true → known' x = true) :
    unknown weight known' cells ≤ unknown weight known cells := by
  induction cells with
  | nil => exact Nat.le_refl _
  | cons c cells ih => exact Nat.add_le_add (weight_le (h c)) ih

/-- A cell that becomes known is no longer left. -/
theorem unknown_add_le (h : ∀ x, known x = true → known' x = true) (ha : a ∈ cells)
    (hnew : known a = false) (hknown : known' a = true) :
    unknown weight known' cells + weight a ≤ unknown weight known cells := by
  induction cells with
  | nil => cases ha
  | cons c cells ih =>
    simp only [unknown]
    rcases List.mem_cons.mp ha with rfl | ha
    · have hrest : unknown weight known' cells ≤ unknown weight known cells := unknown_le h
      rw [hnew, hknown]
      simp only [Bool.false_eq_true, if_true, if_false]
      omega
    · have hhead := weight_le (n := weight c) (h c)
      have hrest := ih ha
      omega

end Dependency

instance : Dependency.Graph Workbook where
  recorded := Workbook.addresses
  dependenciesOf := Workbook.dependenciesOf
  dependentsOf := Workbook.dependentsOf
  dependenciesOf_eq_empty h := by
    rw [Workbook.dependenciesOf, Workbook.cell?_of_not_mem_addresses h]
    rfl
  dependentsOf_eq_empty h := by
    rw [Workbook.dependentsOf, Workbook.cell?_of_not_mem_addresses h]
    rfl

end Spreadsheet
