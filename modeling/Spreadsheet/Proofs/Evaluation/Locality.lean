import Mathlib.Data.Set.Basic
import Spreadsheet.Document.Basic
import Spreadsheet.Proofs.Address.Range
import Spreadsheet.Proofs.Workbook.Record

/-!
# What a value depends on

The value of an expression depends on the cells that it mentions and on the functions that it calls,
and on nothing else. The main statement carries this over to cells: where two workbooks give every
cell of a set the same content, and the cells of the set mention cells of the set only, all of them
have the same values, to whatever depth formulas are followed.
-/

namespace Spreadsheet

namespace Formula

namespace Expr

mutual
/-- The names by which an expression calls functions. -/
def calls : Expr → List String
  | .call name args => name :: callsRow args
  | .binary _ a b => calls a ++ calls b
  | .unary _ a => calls a
  | .array rows => callsRows rows
  | _ => []

/-- The names by which the expressions of a row call functions. -/
def callsRow : List Expr → List String
  | [] => []
  | e :: row => calls e ++ callsRow row

/-- The names by which the expressions of a table call functions. -/
def callsRows : List (List Expr) → List String
  | [] => []
  | row :: rows => callsRow row ++ callsRows rows
end

end Expr

/-- Two surroundings agree on what is needed to evaluate some cells and calls on one sheet. -/
structure Surroundings.Agree (s t : Surroundings) (cells : List QualifiedAddress)
    (names : List String) : Prop where
  /-- Names without a sheet mean the same. -/
  sheet : s.sheet = t.sheet
  /-- The same of the sheets exist. -/
  hasSheet : ∀ a ∈ cells, s.hasSheet a.sheet = t.hasSheet a.sheet
  /-- The cells have the same values. -/
  read : ∀ a ∈ cells, s.read a = t.read a
  /-- The functions have the same values. -/
  call : ∀ name ∈ names, s.call name = t.call name

namespace Surroundings

variable {s t : Surroundings} {cells cells' : List QualifiedAddress} {names names' : List String}

/-- What is needed for a part is needed for the whole. -/
theorem Agree.mono (h : s.Agree t cells names) (hcells : cells' ⊆ cells)
    (hnames : names' ⊆ names) : s.Agree t cells' names' :=
  ⟨h.sheet, fun a ha => h.hasSheet a (hcells ha), fun a ha => h.read a (hcells ha),
    fun name hname => h.call name (hnames hname)⟩

/-- Surroundings that agree on two lists of cells and of functions agree on the first ones. -/
theorem Agree.left (h : s.Agree t (cells ++ cells') (names ++ names')) : s.Agree t cells names :=
  h.mono (List.subset_append_left cells cells') (List.subset_append_left names names')

/-- Surroundings that agree on two lists of cells and of functions agree on the last ones. -/
theorem Agree.right (h : s.Agree t (cells ++ cells') (names ++ names')) : s.Agree t cells' names' :=
  h.mono (List.subset_append_right cells cells') (List.subset_append_right names names')

end Surroundings

/-- Rows of cells that are read one after the other, all with the same values. -/
theorem mapM_eq_mapM {α β ε : Type} {l : List α} {f g : α → Except ε β}
    (h : ∀ a ∈ l, f a = g a) : l.mapM f = l.mapM g := by
  induction l with
  | nil => rfl
  | cons a l ih =>
    rw [List.mapM_cons, List.mapM_cons, h a List.mem_cons_self,
      ih fun b hb => h b (List.mem_cons_of_mem a hb)]

/-- The cells of a range are those in one of its rows and one of its columns. -/
theorem mem_rangeCells {first last : Reference} {sheet : String} {row col : Nat}
    (hrow : row ∈ (CellRange.ofCorners first.cell last.cell).rows)
    (hcol : col ∈ (CellRange.ofCorners first.cell last.cell).cols) :
    ⟨first.sheetOn sheet, ⟨row, col⟩⟩ ∈ rangeCells first last sheet :=
  List.mem_map.mpr ⟨⟨row, col⟩, CellRange.mem_cells_iff.mpr ⟨hrow, hcol⟩, rfl⟩

/-- A range has a first row and a first column. -/
theorem exists_mem_rangeCells (first last : Reference) (sheet : String) :
    ∃ cell, ⟨first.sheetOn sheet, cell⟩ ∈ rangeCells first last sheet :=
  ⟨_, List.mem_map_of_mem (CellRange.first_mem_cells _)⟩

/-- The value of a range depends on its cells. -/
theorem Surroundings.range_congr {s t : Surroundings} {first last : Reference}
    {names : List String} (h : s.Agree t (rangeCells first last s.sheet) names) :
    s.range first last = t.range first last := by
  obtain ⟨cell, hcell⟩ := exists_mem_rangeCells first last s.sheet
  have hsheet : s.hasSheet (first.sheetOn s.sheet) = t.hasSheet (first.sheetOn t.sheet) := by
    rw [← h.sheet]
    exact h.hasSheet _ hcell
  have hrows : ((CellRange.ofCorners first.cell last.cell).rows.mapM fun row =>
        (CellRange.ofCorners first.cell last.cell).cols.mapM fun col =>
          s.read ⟨first.sheetOn s.sheet, ⟨row, col⟩⟩) =
      (CellRange.ofCorners first.cell last.cell).rows.mapM fun row =>
        (CellRange.ofCorners first.cell last.cell).cols.mapM fun col =>
          t.read ⟨first.sheetOn t.sheet, ⟨row, col⟩⟩ := by
    refine mapM_eq_mapM fun row hrow => mapM_eq_mapM fun col hcol => ?_
    rw [← h.sheet]
    exact h.read _ (mem_rangeCells hrow hcol)
  unfold Surroundings.range
  dsimp only
  rw [hsheet, hrows]

namespace Expr

variable {s t : Surroundings}

-- The trees of a row or a table are parts of the tree that holds it, so that the three statements
-- are proved together, each by the constructors of its argument.
mutual
/-- The value of an expression depends on the cells that it mentions and the functions that it
calls. -/
theorem eval_congr : (e : Expr) → s.Agree t (e.mentions s.sheet) e.calls → e.eval s = e.eval t
  | .number _, _ => rfl
  | .text _, _ => rfl
  | .boolean _, _ => rfl
  | .cell r, h => by
    have hread := h.read (r.on s.sheet) (List.mem_singleton.mpr rfl)
    rw [eval, eval, hread, h.sheet]
  | .range first last, h => by
    rw [eval, eval, Surroundings.range_congr h]
  | .call name args, h => by
    have hargs := evalRow_congr args (h.mono (fun _ ha => ha) (List.subset_cons_self name _))
    rw [eval, eval, hargs, h.call name List.mem_cons_self]
  | .binary op a b, h => by
    have ha := eval_congr a h.left
    have hb := eval_congr b h.right
    rw [eval, eval, ha, hb]
  | .unary op a, h => by
    have ha := eval_congr a h
    rw [eval, eval, ha]
  | .array rows, h => by
    have hrows := evalRows_congr rows h
    rw [eval, eval, hrows]

/-- The values of a row depend on the cells and functions in its expressions. -/
theorem evalRow_congr : (row : List Expr) →
    s.Agree t (mentionsRow s.sheet row) (callsRow row) → evalRow s row = evalRow t row
  | [], _ => rfl
  | e :: row, h => by
    have he := eval_congr e h.left
    have hrow := evalRow_congr row h.right
    rw [evalRow, evalRow, he, hrow]

/-- The values of a table depend on the cells and functions in its expressions. -/
theorem evalRows_congr : (rows : List (List Expr)) →
    s.Agree t (mentionsRows s.sheet rows) (callsRows rows) → evalRows s rows = evalRows t rows
  | [], _ => rfl
  | row :: rows, h => by
    have hrow := evalRow_congr row h.left
    have hrows := evalRows_congr rows h.right
    rw [evalRows, evalRows, hrow, hrows]
end

end Expr

end Formula

namespace Workbook

open Formula

variable {wb wb' : Workbook} {formulas formulas' : FormulaTable}
  {call call' : String → List Value → Value} {S : Set QualifiedAddress}

/-! ## Cells -/

/-- Records differ in what a cell has its value from only if their texts, their errors or their raw
values do. -/
theorem contentOfRecord_congr {a : QualifiedAddress} {c c' : Cell}
    (hformulas : formulas'[a]? = formulas[a]?) (hformula : c'.formula = c.formula)
    (herror : c'.error = c.error) (hvalue : c.formula = none → c'.value = c.value) :
    contentOfRecord formulas' a c' = contentOfRecord formulas a c := by
  unfold contentOfRecord
  rw [herror, hformula, hformulas]
  cases herr : c.error with
  | some e => rfl
  | none =>
    cases htext : c.formula with
    | some text => rfl
    | none => rw [hvalue htext]

/-- What a cell has its value from, by its record. -/
theorem content_eq (wb : Workbook) (formulas : FormulaTable) (a : QualifiedAddress) :
    wb.content formulas a =
      if wb.hasSheet a.sheet = false then .known (.error .invalidReference)
      else if wb.reachesCycle a = true then .known (.error .circularReference)
      else contentOfRecord formulas a (wb.record a) := by
  unfold content record
  cases wb.cell? a <;> simp [contentOfRecord, Cell.blank, Cell.ofValue]

/-- A cell whose value is known has it at every depth. -/
theorem evalCell_of_known {a : QualifiedAddress} {v : Value}
    (h : wb.content formulas a = .known v) (depth : Nat) :
    wb.evalCell call formulas depth a = .ok v := by
  cases depth <;> rw [evalCell, h]

/-- Two workbooks give the cells of a set the same contents, and all that is needed to evaluate
these contents is in the set or the same in both. -/
structure AgreeOn (S : Set QualifiedAddress) (call call' : String → List Value → Value)
    (wb : Workbook) (formulas : FormulaTable) (wb' : Workbook) (formulas' : FormulaTable) :
    Prop where
  /-- The contents are the same. -/
  content : ∀ a ∈ S, wb.content formulas a = wb'.content formulas' a
  /-- The cells that a formula mentions are in the set. -/
  closed : ∀ a ∈ S, ∀ e, wb.content formulas a = .formula e → ∀ r ∈ e.mentions a.sheet, r ∈ S
  /-- The same sheets exist of those that a formula mentions. -/
  hasSheet : ∀ a ∈ S, ∀ e, wb.content formulas a = .formula e →
    ∀ r ∈ e.mentions a.sheet, wb.hasSheet r.sheet = wb'.hasSheet r.sheet
  /-- The functions that a formula calls have the same values. -/
  call : ∀ a ∈ S, ∀ e, wb.content formulas a = .formula e → ∀ name ∈ e.calls, call name = call' name

/-- Cells of the same contents have the same values. -/
theorem AgreeOn.evalCell_eq (h : AgreeOn S call call' wb formulas wb' formulas') (depth : Nat)
    {a : QualifiedAddress} (ha : a ∈ S) :
    wb.evalCell call formulas depth a = wb'.evalCell call' formulas' depth a := by
  induction depth generalizing a with
  | zero => rw [evalCell, evalCell, h.content a ha]
  | succ depth ih =>
    rw [evalCell, evalCell, ← h.content a ha]
    cases hc : wb.content formulas a with
    | known v => rfl
    | formula e =>
      refine Expr.eval_congr e ⟨rfl, h.hasSheet a ha e hc, fun r hr => ?_, h.call a ha e hc⟩
      exact ih (h.closed a ha e hc r hr)

end Workbook

end Spreadsheet
