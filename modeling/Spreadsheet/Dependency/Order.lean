import Spreadsheet.Dependency.Downstream

/-!
# Order of recalculation

Cells are recalculated after the cells that they read. A cell becomes ready when all its inputs
among the cells to be ordered have had their turn; ready cells take their turns in the order in
which they became so, those without inputs first. Cells that never become ready, because they read
each other, come last in the order of their addresses.
-/

namespace Spreadsheet

namespace Dependency

/-- The cells that are not done yet, each with the number of its inputs that are not done yet. -/
abbrev Pending := Std.ExtTreeMap QualifiedAddress Nat

/-- The cells that wait for some input. -/
def Pending.waiting (pending : Pending) : Pending :=
  pending.filter fun _ count => count != 0

/-- How far the ordering of some cells has come. -/
structure Progress where
  /-- The cells that have had their turns. -/
  done : List QualifiedAddress
  /-- The other cells. -/
  pending : Pending
  /-- The cells among them that wait for no input, the next one first. -/
  ready : List QualifiedAddress

/-- One reader of a cell that is done has an input less to wait for; it joins the cells that became
ready if that was its last one. -/
def release (s : Progress) (reader : QualifiedAddress) : Progress :=
  match s.pending[reader]? with
  | some (count + 1) =>
    { s with
      pending := s.pending.insert reader count
      ready := if count = 0 then s.ready ++ [reader] else s.ready }
  | _ => s

variable {γ : Type} [Graph γ] {g : γ} {s s' : Progress} {a : QualifiedAddress}

/-- The next ready cell takes its turn. When there is none, the cells that are left come last. -/
def takeTurn (g : γ) (s : Progress) : List QualifiedAddress ⊕ Progress :=
  match s.ready with
  | [] => .inl (s.done ++ s.pending.keys)
  | a :: ready => .inr ((readers g a).foldl release ⟨s.done ++ [a], s.pending.erase a, ready⟩)

/-- A bound on the turns to come: those of the cells that are ready and of those that may get so. -/
def Progress.work (s : Progress) : Nat :=
  s.pending.waiting.size + s.ready.length

private theorem waiting_insert_zero (pending : Pending) (a : QualifiedAddress) :
    Pending.waiting (pending.insert a 0) = pending.waiting.erase a := by
  refine Std.ExtTreeMap.ext_getElem? fun b => ?_
  simp only [Pending.waiting, Std.ExtTreeMap.getElem?_filter', Std.ExtTreeMap.getElem?_insert,
    Std.ExtTreeMap.getElem?_erase]
  split <;> simp

private theorem waiting_insert_succ (pending : Pending) (a : QualifiedAddress) (count : Nat) :
    Pending.waiting (pending.insert a (count + 1)) = pending.waiting.insert a (count + 1) := by
  refine Std.ExtTreeMap.ext_getElem? fun b => ?_
  simp only [Pending.waiting, Std.ExtTreeMap.getElem?_filter', Std.ExtTreeMap.getElem?_insert]
  split <;> simp

private theorem waiting_erase (pending : Pending) (a : QualifiedAddress) :
    Pending.waiting (pending.erase a) = pending.waiting.erase a := by
  refine Std.ExtTreeMap.ext_getElem? fun b => ?_
  simp only [Pending.waiting, Std.ExtTreeMap.getElem?_filter', Std.ExtTreeMap.getElem?_erase]
  split <;> simp

/-- A cell that becomes ready waits no longer. -/
theorem work_release_le (s : Progress) (reader : QualifiedAddress) :
    (release s reader).work ≤ s.work := by
  unfold release
  split
  · next count hcount =>
    have hmem : s.pending.waiting.contains reader = true := by
      rw [Std.ExtTreeMap.contains_eq_isSome_getElem?, Pending.waiting,
        Std.ExtTreeMap.getElem?_filter', hcount]
      rfl
    cases count with
    | zero =>
      have hpos : s.pending.waiting.size ≠ 0 := by
        intro h
        rw [Std.ExtTreeMap.eq_empty_iff_size_eq_zero.mpr h] at hmem
        cases hmem
      simp only [Progress.work, waiting_insert_zero, Std.ExtTreeMap.size_erase, hmem, if_true,
        List.length_append, List.length_singleton]
      omega
    | succ count =>
      simp only [Progress.work, waiting_insert_succ, Std.ExtTreeMap.size_insert, hmem, if_true]
      exact Nat.le_refl _
  · exact Nat.le_refl _

/-- Releasing cells one after the other leaves no more work than there was. -/
theorem work_foldl_release_le (l : List QualifiedAddress) (s : Progress) :
    (l.foldl release s).work ≤ s.work := by
  induction l generalizing s with
  | nil => exact Nat.le_refl _
  | cons b l ih => exact Nat.le_trans (ih (release s b)) (work_release_le s b)

/-- Every turn gets some work done. -/
theorem work_takeTurn_lt (h : takeTurn g s = .inr s') : s'.work < s.work := by
  unfold takeTurn at h
  split at h
  · cases h
  · next a ready hready =>
    obtain rfl := Sum.inr.inj h
    have hle := work_foldl_release_le (readers g a) ⟨s.done ++ [a], s.pending.erase a, ready⟩
    have herase : (s.pending.waiting.erase a).size ≤ s.pending.waiting.size :=
      Std.ExtTreeMap.size_erase_le
    simp only [Progress.work, waiting_erase, hready, List.length_cons] at hle ⊢
    omega

/-- The orderings of cells by their dependencies. -/
def ordering (g : γ) : Procedure Progress (List QualifiedAddress) :=
  ⟨takeTurn g, Progress.work, work_takeTurn_lt⟩

/-- The number of other cells of a set that a cell reads. -/
def inputCount (g : γ) (cells : AddressSet) (a : QualifiedAddress) : Nat :=
  ((inputs g a).filter fun b => cells.contains b && b != a).length

/-- The ordering of the cells of a set before the first turn. -/
def Progress.start (g : γ) (cells : AddressSet) : Progress :=
  let counted := cells.toList.map fun a => (a, inputCount g cells a)
  ⟨[], .ofList counted, (counted.filter fun entry => entry.2 == 0).map Prod.fst⟩

/-- The cells of a set, each after the cells of the set that it reads. -/
def order (g : γ) (cells : AddressSet) : List QualifiedAddress :=
  (ordering g).run (.start g cells)

/-- The cells to recalculate after a change of `a`. -/
def recalculationOrder (g : γ) (a : QualifiedAddress) : List QualifiedAddress :=
  order g (downstream g a)

end Dependency

namespace Workbook

/-- The cells of a set, each after the cells of the set that it reads. -/
def order (wb : Workbook) (cells : AddressSet) : List QualifiedAddress :=
  Dependency.order wb cells

/-- The cells to recalculate after a change of `a`. -/
def recalculationOrder (wb : Workbook) (a : QualifiedAddress) : List QualifiedAddress :=
  Dependency.recalculationOrder wb a

end Workbook

end Spreadsheet
