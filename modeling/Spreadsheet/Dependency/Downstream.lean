import Spreadsheet.Dependency.Cycle

/-!
# Cells downstream

The cells that read a cell, directly or through others, are collected by a walk in breadth along the
edges from the cells to their readers.
-/

namespace Spreadsheet

namespace Dependency

/-- How far the collection of the cells downstream has come. -/
structure Collection where
  /-- The cells that were found. -/
  found : AddressSet
  /-- The cells whose readers have not been looked at yet, in the order in which they were found. -/
  queue : List QualifiedAddress

/-- One reader of a cell is found, unless it is the cell that the walk starts from or has been found
before. -/
def discover (start : QualifiedAddress) (c : Collection) (reader : QualifiedAddress) : Collection :=
  if reader = start ∨ c.found.contains reader then c
  else ⟨c.found.insert reader, c.queue ++ [reader]⟩

variable {γ : Type} [Graph γ] {g : γ} {start a : QualifiedAddress} {c c' : Collection}

/-- The readers of one cell are found. -/
def expand (g : γ) (start : QualifiedAddress) (c : Collection) : AddressSet ⊕ Collection :=
  match c.queue with
  | [] => .inl c.found
  | a :: queue => .inr ((readers g a).foldl (discover start) { c with queue := queue })

/-- The cells that read some cell. -/
def readersOfAny (g : γ) : List QualifiedAddress :=
  (Graph.recorded g).flatMap (readers g)

/-- A bound on the cells whose readers are yet to be found. -/
def Collection.work (g : γ) (c : Collection) : Nat :=
  c.queue.length + unknown (fun _ => 1) c.found.contains (readersOfAny g)

/-- A reader that is found is one of those that were to be found. -/
theorem work_discover_le (ha : a ∈ readersOfAny g) :
    (discover start c a).work g ≤ c.work g := by
  unfold discover
  split
  · exact Nat.le_refl _
  · next hnew =>
    have hmono : ∀ x, c.found.contains x = true → (c.found.insert a).contains x = true := by
      intro x hx
      simp [hx]
    have hle : unknown (fun _ => 1) (c.found.insert a).contains (readersOfAny g) + 1 ≤ _ :=
      unknown_add_le hmono ha (Bool.eq_false_iff.mpr (not_or.mp hnew).2) (by simp)
    simp only [Collection.work, List.length_append, List.length_singleton]
    omega

/-- Discovering cells one after the other leaves no more work than there was. -/
theorem work_foldl_discover_le {l : List QualifiedAddress} (h : ∀ a ∈ l, a ∈ readersOfAny g) :
    (l.foldl (discover start) c).work g ≤ c.work g := by
  induction l generalizing c with
  | nil => exact Nat.le_refl _
  | cons a l ih =>
    have hrest := ih (c := discover start c a) fun b hb => h b (List.mem_cons_of_mem a hb)
    exact Nat.le_trans hrest (work_discover_le (h a List.mem_cons_self))

/-- Every cell that leaves the queue gets some work done. -/
theorem work_expand_lt (h : expand g start c = .inr c') : c'.work g < c.work g := by
  unfold expand at h
  split at h
  · cases h
  · next a queue hqueue =>
    obtain rfl := Sum.inr.inj h
    have hreaders : ∀ b ∈ readers g a, b ∈ readersOfAny g := by
      intro b hb
      refine List.mem_flatMap.mpr ⟨a, ?_, hb⟩
      refine Decidable.byContradiction fun ha => ?_
      rw [readers_eq_nil ha] at hb
      cases hb
    have hle : ((readers g a).foldl (discover start) { c with queue := queue }).work g ≤ _ :=
      work_foldl_discover_le hreaders
    simp only [Collection.work, hqueue, List.length_cons] at hle ⊢
    omega

/-- The walks in breadth along the readers of a cell. -/
def spread (g : γ) (start : QualifiedAddress) : Procedure Collection AddressSet :=
  ⟨expand g start, Collection.work g, work_expand_lt⟩

/-- The cells other than `a` that read `a`, directly or through others. -/
def downstream (g : γ) (a : QualifiedAddress) : AddressSet :=
  (spread g a).run ⟨∅, [a]⟩

end Dependency

/-- The cells other than `a` that read `a`, directly or through others. -/
def Workbook.downstream (wb : Workbook) (a : QualifiedAddress) : AddressSet :=
  Dependency.downstream wb a

end Spreadsheet
