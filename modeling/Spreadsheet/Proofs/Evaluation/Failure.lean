import Spreadsheet.Proofs.Evaluation.Outcome

/-!
# When an evaluation fails

All parts of an expression are evaluated before any of them is used, so that no cell that it
mentions goes unread, apart from the cells of a range on a missing sheet. The main statements say
that an evaluation fails exactly if reading one of these cells does, and that the value of a cell
stays the same when formulas may be followed deeper.
-/

namespace Spreadsheet

namespace Formula

/-- Reading a cell has a result. -/
def Surroundings.Reads (s : Surroundings) (a : QualifiedAddress) : Prop :=
  ∃ v, s.read a = .ok v

/-- Reading a cell of a missing sheet never fails. -/
def Surroundings.MissingRead (s : Surroundings) : Prop :=
  ∀ a, s.hasSheet a.sheet = false → s.Reads a

/-- A computation in two steps has a result if both have. -/
theorem bind_eq_ok {ε α β : Type} {r : Except ε α} {f : α → Except ε β} {b : β}
    (h : r >>= f = .ok b) : ∃ a, r = .ok a ∧ f a = .ok b := by
  cases r with
  | error err => cases h
  | ok a => exact ⟨a, rfl, h⟩

/-- A row of computations has a result only if all of them have. -/
theorem exists_ok_of_mapM {ε α β : Type} {l : List α} {f : α → Except ε β} {bs : List β}
    (h : l.mapM f = .ok bs) : ∀ a ∈ l, ∃ b, f a = .ok b := by
  induction l generalizing bs with
  | nil => exact fun a ha => absurd ha List.not_mem_nil
  | cons a l ih =>
    rw [List.mapM_cons] at h
    obtain ⟨b, hb, hrest⟩ := bind_eq_ok h
    obtain ⟨bs', hbs, -⟩ := bind_eq_ok hrest
    exact List.forall_mem_cons.mpr ⟨⟨b, hb⟩, ih hbs⟩

variable {s : Surroundings} {v : Value}

/-- The cells of a range are the ones in its rows and columns. -/
theorem exists_of_mem_rangeCells {first last : Reference} {sheet : String} {a : QualifiedAddress}
    (h : a ∈ rangeCells first last sheet) :
    ∃ row ∈ (CellRange.ofCorners first.cell last.cell).rows,
      ∃ col ∈ (CellRange.ofCorners first.cell last.cell).cols,
        a = ⟨first.sheetOn sheet, ⟨row, col⟩⟩ := by
  obtain ⟨cell, hcell, rfl⟩ := List.mem_map.mp h
  obtain ⟨hrow, hcol⟩ := CellRange.mem_cells_iff.mp hcell
  exact ⟨cell.row, hrow, cell.col, hcol, rfl⟩

/-- A range that has a value has all its cells read, or they are on a missing sheet. -/
theorem Surroundings.reads_of_range (hs : s.MissingRead) {first last : Reference}
    (h : s.range first last = .ok v) : ∀ a ∈ rangeCells first last s.sheet, s.Reads a := by
  intro a ha
  obtain ⟨row, hrow, col, hcol, rfl⟩ := exists_of_mem_rangeCells ha
  unfold Surroundings.range at h
  dsimp only at h
  split_ifs at h with hsheet
  · obtain ⟨rows, hrows, -⟩ := bind_eq_ok h
    obtain ⟨values, hvalues⟩ := exists_ok_of_mapM hrows row hrow
    exact exists_ok_of_mapM hvalues col hcol
  · exact hs _ (Bool.eq_false_iff.mpr hsheet)

namespace Expr

-- By the constructors, as for locality: the trees in rows and tables are parts of the tree that
-- holds them.
mutual
/-- An expression that has a value has all the cells read that it mentions. -/
theorem reads_of_eval (hs : s.MissingRead) : (e : Expr) → {v : Value} → e.eval s = .ok v →
    ∀ a ∈ e.mentions s.sheet, s.Reads a
  | .number _, _, _ => fun a ha => absurd ha List.not_mem_nil
  | .text _, _, _ => fun a ha => absurd ha List.not_mem_nil
  | .boolean _, _, _ => fun a ha => absurd ha List.not_mem_nil
  | .cell r, v, h => by
    rw [eval] at h
    exact fun a ha => List.mem_singleton.mp ha ▸ ⟨v, h⟩
  | .range first last, _, h => by
    rw [eval] at h
    exact s.reads_of_range hs h
  | .call _ args, _, h => by
    rw [eval] at h
    obtain ⟨values, hvalues, -⟩ := bind_eq_ok h
    exact reads_of_evalRow hs args hvalues
  | .binary _ a b, _, h => by
    rw [eval] at h
    obtain ⟨v, hv, hrest⟩ := bind_eq_ok h
    obtain ⟨w, hw, -⟩ := bind_eq_ok hrest
    exact List.forall_mem_append.mpr ⟨reads_of_eval hs a hv, reads_of_eval hs b hw⟩
  | .unary _ a, _, h => by
    rw [eval] at h
    obtain ⟨v, hv, -⟩ := bind_eq_ok h
    exact reads_of_eval hs a hv
  | .array rows, _, h => by
    rw [eval] at h
    obtain ⟨values, hvalues, -⟩ := bind_eq_ok h
    exact reads_of_evalRows hs rows hvalues

/-- A row that has values has all the cells read that its expressions mention. -/
theorem reads_of_evalRow (hs : s.MissingRead) : (row : List Expr) → {vs : List Value} →
    evalRow s row = .ok vs → ∀ a ∈ mentionsRow s.sheet row, s.Reads a
  | [], _, _ => fun a ha => absurd ha List.not_mem_nil
  | e :: row, _, h => by
    rw [evalRow] at h
    obtain ⟨v, hv, hrest⟩ := bind_eq_ok h
    obtain ⟨vs, hvs, -⟩ := bind_eq_ok hrest
    exact List.forall_mem_append.mpr ⟨reads_of_eval hs e hv, reads_of_evalRow hs row hvs⟩

/-- A table that has values has all the cells read that its expressions mention. -/
theorem reads_of_evalRows (hs : s.MissingRead) : (rows : List (List Expr)) →
    {vss : List (List Value)} → evalRows s rows = .ok vss →
      ∀ a ∈ mentionsRows s.sheet rows, s.Reads a
  | [], _, _ => fun a ha => absurd ha List.not_mem_nil
  | row :: rows, _, h => by
    rw [evalRows] at h
    obtain ⟨vs, hvs, hrest⟩ := bind_eq_ok h
    obtain ⟨vss, hvss, -⟩ := bind_eq_ok hrest
    exact List.forall_mem_append.mpr ⟨reads_of_evalRow hs row hvs, reads_of_evalRows hs rows hvss⟩
end

/-- An expression cannot be evaluated exactly if a cell that it mentions cannot be read. -/
theorem eval_eq_depthExceeded_iff (hs : s.MissingRead) (e : Expr) :
    e.eval s = .error .depthExceeded ↔
      ∃ a ∈ e.mentions s.sheet, s.read a = .error .depthExceeded := by
  constructor
  · intro h
    by_contra hnone
    have hreads : ∀ a ∈ e.mentions s.sheet,
        Yields (fun _ => True) False (s.read a) := by
      intro a ha
      cases hr : s.read a with
      | ok v => trivial
      | error err => exact hnone ⟨a, ha, hr⟩
    obtain ⟨v, hv, -⟩ := (eval_yields (.trivial s.call) e hreads).exists_ok
    rw [h] at hv
    cases hv
  · rintro ⟨a, ha, hread⟩
    cases he : e.eval s with
    | error err => rfl
    | ok v =>
      obtain ⟨w, hw⟩ := reads_of_eval hs e he a ha
      rw [hread] at hw
      cases hw

end Expr

end Formula

namespace Workbook

open Formula

variable {call : String → List Value → Value} {wb : Workbook} {formulas : FormulaTable}
  {depth depth' : Nat} {a : QualifiedAddress} {v : Value}

/-- A cell of a missing sheet has an error for its value. -/
theorem evalCell_of_missing (h : wb.hasSheet a.sheet = false) (depth : Nat) :
    wb.evalCell call formulas depth a = .ok (.error .invalidReference) :=
  evalCell_of_known (by rw [content_eq, if_pos h]) depth

/-- A cell of a missing sheet can be read at any depth. -/
theorem missingRead (wb : Workbook) (formulas : FormulaTable) (depth : Nat) (sheet : String)
    (call : String → List Value → Value) :
    Surroundings.MissingRead ⟨sheet, wb.hasSheet, wb.evalCell call formulas depth, call⟩ :=
  fun _ ha => ⟨_, evalCell_of_missing ha depth⟩

/-- A value that is found at some depth is found at every greater depth. -/
theorem evalCell_mono (hdepth : depth ≤ depth')
    (h : wb.evalCell call formulas depth a = .ok v) :
    wb.evalCell call formulas depth' a = .ok v := by
  induction depth generalizing depth' a v with
  | zero =>
    cases hc : wb.content formulas a with
    | known w => rwa [evalCell_of_known hc] at h ⊢
    | formula e =>
      rw [evalCell, hc] at h
      cases h
  | succ depth ih =>
    cases hc : wb.content formulas a with
    | known w => rwa [evalCell_of_known hc] at h ⊢
    | formula e =>
      obtain ⟨depth', rfl⟩ :=
        Nat.exists_eq_succ_of_ne_zero (Nat.ne_of_gt (Nat.zero_lt_of_lt hdepth))
      rw [evalCell, hc] at h ⊢
      dsimp only at h ⊢
      have hreads := Expr.reads_of_eval (wb.missingRead formulas depth a.sheet call) e h
      rw [← h]
      -- The cells that the formula mentions had values already, and these are kept.
      refine Expr.eval_congr e ⟨rfl, fun _ _ => rfl, fun r hr => ?_, fun _ _ => rfl⟩
      obtain ⟨w, hw⟩ := hreads r hr
      exact (ih (Nat.le_of_succ_le_succ hdepth) hw).trans hw.symm

end Workbook

end Spreadsheet
