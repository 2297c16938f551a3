import Spreadsheet.Proofs.Document.Session
import Spreadsheet.Proofs.Evaluation.Failure
import Spreadsheet.Proofs.Evaluation.Outcome
import Spreadsheet.Proofs.Evaluation.Steady

/-!
# Functions of many values

Sums, counts, extrema and the like take any number of arguments and look at the values in them only,
those of a table row by row. A range is a table of the values of its cells. The main statement says
that such a function has the same value for a range as for the cells of the range one by one,
provided that no cell has a table as its value. A table in a cell is one value of a range, but as an
argument it is all of its values, so in general the range is equal to its cells each in a table of
its own.
-/

namespace Spreadsheet

namespace Function

/-! ## Values among arguments -/

/-- The names of the functions that make one value of many. -/
def aggregates : List String :=
  ["SUM", "AVERAGE", "MIN", "MAX", "COUNT", "COUNTA", "MEDIAN", "MODE", "CONCATENATE"]

/-- The function takes any number of arguments from one on, and only the values in them matter. -/
structure Aggregates (f : Function) : Prop where
  /-- Any number of arguments is taken. -/
  accepts : ∀ n, 0 < n → f.accepts n = true
  /-- Arguments with the same values in them are not told apart. -/
  run_eq : ∀ ambient args args', flatten args = flatten args' →
    f.run ambient args = f.run ambient args'

private theorem Aggregates.of_steady {name : String} {category : Category} {least : Nat}
    {run : List Value → Value} (hleast : least ≤ 1)
    (hrun : ∀ args args', flatten args = flatten args' → run args = run args') :
    Aggregates (steady name category least none run) where
  accepts n hn := by
    have hle : least ≤ n := hleast.trans hn
    simp [Function.accepts, steady, hle]
  run_eq _ := hrun

variable {args args' vs : List Value}

private theorem numbers_congr (h : flatten args = flatten args') :
    numbers args = numbers args' := by
  rw [numbers, numbers, h]

/-- The functions of these names are such functions. -/
theorem aggregates_of_name : ∀ f ∈ library, f.name ∈ aggregates → Aggregates f := by
  have hlist : library.filter (fun f => f.name ∈ aggregates) =
      [ steady "SUM" .math 0 none sum,
        steady "AVERAGE" .math 1 none average,
        steady "MIN" .math 0 none minimum,
        steady "MAX" .math 0 none maximum,
        steady "COUNT" .math 0 none count,
        steady "COUNTA" .math 0 none countFilled,
        steady "MEDIAN" .statistical 1 none median,
        steady "MODE" .statistical 1 none mode,
        steady "CONCATENATE" .text 1 none concatenate ] := rfl
  intro f hf hname
  have hmem : f ∈ library.filter (fun f => f.name ∈ aggregates) :=
    List.mem_filter.mpr ⟨hf, decide_eq_true hname⟩
  rw [hlist] at hmem
  simp only [List.mem_cons, List.not_mem_nil, or_false] at hmem
  rcases hmem with rfl | rfl | rfl | rfl | rfl | rfl | rfl | rfl | rfl
  · exact .of_steady (by decide) fun _ _ h => by rw [sum, sum, h]
  · exact .of_steady (by decide) fun _ _ h => by rw [average, average, numbers_congr h]
  · exact .of_steady (by decide) fun _ _ h => by rw [minimum, minimum, numbers_congr h]
  · exact .of_steady (by decide) fun _ _ h => by rw [maximum, maximum, numbers_congr h]
  · exact .of_steady (by decide) fun _ _ h => by rw [count, count, h]
  · exact .of_steady (by decide) fun _ _ h => by rw [countFilled, countFilled, h]
  · exact .of_steady (by decide) fun _ _ h => by rw [median, median, numbers_congr h]
  · exact .of_steady (by decide) fun _ _ h => by rw [mode, mode, numbers_congr h]
  · exact .of_steady (by decide) fun _ _ h => by rw [concatenate, concatenate, h]

/-- A call of such a function with some arguments depends on the values in them. -/
theorem invoke_eq_of_flatten_eq {name : String} (hname : Text.upper name ∈ aggregates)
    (hargs : args ≠ []) (hargs' : args' ≠ []) (h : flatten args = flatten args')
    (ambient : Ambient) : invoke ambient name args = invoke ambient name args' := by
  unfold invoke
  cases hfound : named? name with
  | none => rfl
  | some f =>
    obtain ⟨hmem, hupper⟩ := name_of_named? hfound
    have hf : Aggregates f := aggregates_of_name f hmem (hupper ▸ hname)
    dsimp only
    rw [hf.accepts _ (List.length_pos_iff.mpr hargs),
      hf.accepts _ (List.length_pos_iff.mpr hargs'), hf.run_eq ambient args args' h]

/-- The value is a table. -/
def isTable : Value → Bool
  | .array _ => true
  | _ => false

/-- Values that are no tables are themselves all values in them. -/
theorem flatten_eq_self (h : ∀ v ∈ vs, isTable v = false) : flatten vs = vs := by
  induction vs with
  | nil => rfl
  | cons v vs ih =>
    obtain ⟨hv, hvs⟩ := List.forall_mem_cons.mp h
    have hspread : spread v = [v] := by
      cases v with
      | array rows => cases hv
      | _ => rfl
    rw [flatten, List.flatMap_cons, hspread]
    exact congrArg (v :: ·) (ih hvs)

/-- Values each in a table of its own are the values in these tables. -/
theorem flatten_map_singleton (vs : List Value) :
    flatten (vs.map fun v => .array [[v]]) = vs := by
  rw [flatten, List.flatMap_map]
  exact List.flatMap_singleton' vs

private theorem flatten_singleton_array (rows : List (List Value)) :
    flatten [.array rows] = rows.flatten :=
  List.flatMap_singleton spread (.array rows)

end Function

namespace Formula

/-! ## Values of the cells of a range -/

/-- References to the cells of a range, row by row. -/
def cellReferences (first last : Reference) : List Reference :=
  (CellRange.ofCorners first.cell last.cell).cells.map fun cell => ⟨first.sheet, cell⟩

variable {s : Surroundings} {first last : Reference}

private theorem mapM_flatMap {ε α β γ : Type} (f : β → Except ε γ) (g : α → List β) (l : List α) :
    (l.flatMap g).mapM f = (l.mapM fun a => (g a).mapM f).map List.flatten := by
  induction l with
  | nil => rfl
  | cons a l ih =>
    rw [List.flatMap_cons, List.mapM_append, List.mapM_cons, ih]
    cases (g a).mapM f with
    | error e => rfl
    | ok cs => cases l.mapM fun a => (g a).mapM f <;> rfl

/-- The values of the cells of a range in rows. -/
def Surroundings.rangeRows (s : Surroundings) (first last : Reference) :
    Except EvaluationError (List (List Value)) :=
  let block := CellRange.ofCorners first.cell last.cell
  block.rows.mapM fun row => block.cols.mapM fun col =>
    s.read ⟨first.sheetOn s.sheet, ⟨row, col⟩⟩

/-- On a sheet that exists, the value of a range is the table of its rows. -/
theorem Surroundings.range_eq (h : s.hasSheet (first.sheetOn s.sheet) = true) :
    s.range first last = (s.rangeRows first last).map .array := by
  have hrange : s.range first last = (s.rangeRows first last).bind fun rows => .ok (.array rows) :=
    if_pos h
  rw [hrange]
  cases s.rangeRows first last <;> rfl

/-- The references one by one have the values of the rows one after the other. -/
theorem mapM_cellReferences (s : Surroundings) (first last : Reference) :
    (cellReferences first last).mapM (fun r => s.read (r.on s.sheet)) =
      (s.rangeRows first last).map List.flatten := by
  unfold cellReferences CellRange.cells Surroundings.rangeRows
  simp only [List.mapM_map, mapM_flatMap]
  rfl

private theorem cellReferences_ne_nil (first last : Reference) :
    cellReferences first last ≠ [] := by
  rw [cellReferences, ne_eq, List.map_eq_nil_iff]
  exact List.ne_nil_of_mem (CellRange.first_mem_cells _)

private theorem mem_rangeCells_of_mem_cellReferences {r : Reference} {sheet : String}
    (h : r ∈ cellReferences first last) : r.on sheet ∈ rangeCells first last sheet := by
  obtain ⟨cell, hcell, rfl⟩ := List.mem_map.mp h
  exact List.mem_map.mpr ⟨cell, hcell, rfl⟩

/-- What the values of the cells of a range are, given that all of them can be read. -/
theorem Surroundings.flatten_rangeRows {rows : List (List Value)}
    (h : s.rangeRows first last = .ok rows) :
    rows.flatten ≠ [] ∧
      ∀ v ∈ rows.flatten, ∃ a ∈ rangeCells first last s.sheet, s.read a = .ok v := by
  have hmapM := mapM_cellReferences s first last
  rw [h] at hmapM
  constructor
  · obtain ⟨r, refs, hrefs⟩ := List.exists_cons_of_ne_nil (cellReferences_ne_nil first last)
    rw [hrefs, List.mapM_cons] at hmapM
    obtain ⟨v, -, hrest⟩ := bind_eq_ok hmapM
    obtain ⟨vs, -, hvs⟩ := bind_eq_ok hrest
    have hflatten : v :: vs = rows.flatten := Except.ok.inj hvs
    rw [← hflatten]
    exact List.cons_ne_nil v vs
  · have hyields : Yields
        (fun vs => ∀ v ∈ vs, ∃ a ∈ rangeCells first last s.sheet, s.read a = .ok v) True
        ((cellReferences first last).mapM fun r => s.read (r.on s.sheet)) := by
      refine Yields.mapM fun r hr => ?_
      cases hread : s.read (r.on s.sheet) with
      | error e => trivial
      | ok v => exact ⟨_, mem_rangeCells_of_mem_cellReferences hr, hread⟩
    rw [hmapM] at hyields
    exact hyields

/-! ## A call with a range and calls with its cells -/

namespace Expr

private theorem evalRow_cells (s : Surroundings) (refs : List Reference) :
    evalRow s (refs.map .cell) = refs.mapM fun r => s.read (r.on s.sheet) := by
  induction refs with
  | nil => rfl
  | cons r refs ih =>
    rw [List.map_cons, evalRow, eval, ih, List.mapM_cons]
    rfl

private theorem evalRow_tables (s : Surroundings) (refs : List Reference) :
    evalRow s (refs.map fun r => .array [[.cell r]]) =
      (refs.mapM fun r => s.read (r.on s.sheet)).map (List.map fun v => .array [[v]]) := by
  induction refs with
  | nil => rfl
  | cons r refs ih =>
    rw [List.map_cons, evalRow, ih, List.mapM_cons]
    simp only [eval, evalRows, evalRow]
    cases s.read (r.on s.sheet) with
    | error e => rfl
    | ok v => cases refs.mapM fun r => s.read (r.on s.sheet) <;> rfl

/-- A call with a range is a call with the table of the values of its cells. -/
theorem eval_call_range (name : String) (h : s.hasSheet (first.sheetOn s.sheet) = true) :
    (call name [.range first last]).eval s =
      (s.rangeRows first last).map fun rows => s.call name [.array rows] := by
  simp only [eval, evalRow]
  rw [Surroundings.range_eq h]
  cases s.rangeRows first last <;> rfl

/-- A call with the cells of a range is a call with their values one by one. -/
theorem eval_call_cells (s : Surroundings) (name : String) (first last : Reference) :
    (call name ((cellReferences first last).map .cell)).eval s =
      (s.rangeRows first last).map fun rows => s.call name rows.flatten := by
  rw [eval, evalRow_cells, mapM_cellReferences]
  cases s.rangeRows first last <;> rfl

/-- A call with the cells of a range each in a table of its own. -/
theorem eval_call_tables (s : Surroundings) (name : String) (first last : Reference) :
    (call name ((cellReferences first last).map fun r => .array [[.cell r]])).eval s =
      (s.rangeRows first last).map fun rows =>
        s.call name (rows.flatten.map fun v => .array [[v]]) := by
  rw [eval, evalRow_tables, mapM_cellReferences]
  cases s.rangeRows first last <;> rfl

end Expr

end Formula

namespace Workbook

open Formula

/-- On a sheet that exists, a function of many values has the same value for a range as for the
cells of the range row by row, each in a table of its own; and if the value of none of the cells is
a table, the same value as for the cells themselves. Where reading the cells fails, all these fail
for the same reason. -/
theorem evalExpr_range_eq_evalExpr_cells (ambient : Ambient) (wb : Workbook)
    (formulas : FormulaTable) (depth : Nat) (sheet name : String) (first last : Reference)
    (hname : Text.upper name ∈ Function.aggregates)
    (hsheet : wb.hasSheet (first.sheetOn sheet) = true) :
    wb.evalExpr (Function.invoke ambient) formulas depth sheet (.call name [.range first last]) =
        wb.evalExpr (Function.invoke ambient) formulas depth sheet
          (.call name ((cellReferences first last).map fun r => .array [[.cell r]])) ∧
      ((∀ a ∈ rangeCells first last sheet, ∀ v,
          wb.evalCell (Function.invoke ambient) formulas depth a = .ok v →
            Function.isTable v = false) →
        wb.evalExpr (Function.invoke ambient) formulas depth sheet
            (.call name [.range first last]) =
          wb.evalExpr (Function.invoke ambient) formulas depth sheet
            (.call name ((cellReferences first last).map .cell))) := by
  unfold evalExpr
  rw [Expr.eval_call_range name hsheet, Expr.eval_call_tables, Expr.eval_call_cells]
  cases hrows : Surroundings.rangeRows
      ⟨sheet, wb.hasSheet, wb.evalCell (Function.invoke ambient) formulas depth,
        Function.invoke ambient⟩ first last with
  | error e => exact ⟨rfl, fun _ => rfl⟩
  | ok rows =>
    obtain ⟨hne, hread⟩ := Surroundings.flatten_rangeRows hrows
    have htable : Function.flatten [.array rows] = rows.flatten :=
      Function.flatten_singleton_array rows
    refine ⟨congrArg Except.ok ?_, fun hplain => congrArg Except.ok ?_⟩
    · refine Function.invoke_eq_of_flatten_eq hname (List.cons_ne_nil _ _) ?_ ?_ ambient
      · rwa [ne_eq, List.map_eq_nil_iff]
      · rw [htable, Function.flatten_map_singleton]
    · refine Function.invoke_eq_of_flatten_eq hname (List.cons_ne_nil _ _) hne ?_ ambient
      have hself : Function.flatten rows.flatten = rows.flatten := by
        refine Function.flatten_eq_self fun v hv => ?_
        obtain ⟨a, ha, hvalue⟩ := hread v hv
        exact hplain a ha v hvalue
      rw [htable, hself]

end Workbook

namespace Document

open Formula

/-- A document with cells of all kinds: a number, a text that is one, another text, a truth value,
an empty cell, an error, a formula, and a formula whose value is a table. -/
def cellsOfAllKinds : Document :=
  (Document.ofSettings {}).run .newYear
    [ .write "A1" (.number 1.5) none,
      .write "B1" (.text "2") none,
      .write "A2" (.text "x") none,
      .write "B2" (.boolean true) none,
      .write "B3" (.text "=1/0") none,
      .write "A4" (.text "=A1+B1") none,
      .write "C1" (.text "={1,2}") none ]

/-- The sum over a block without the cell of the table is that of the eight cells one by one. -/
theorem evalExpr_sum_cellsOfAllKinds :
    cellsOfAllKinds.Reachable ∧ Text.upper "Sum" ∈ Function.aggregates ∧
      cellsOfAllKinds.workbook.hasSheet "Sheet1" = true ∧
      (∀ a ∈ rangeCells ⟨none, ⟨1, 1⟩⟩ ⟨none, ⟨4, 2⟩⟩ "Sheet1", ∀ v,
        cellsOfAllKinds.workbook.evalCell (Function.invoke .newYear) cellsOfAllKinds.formulas
          cellsOfAllKinds.settings.maxDepth a = .ok v → Function.isTable v = false) ∧
      cellsOfAllKinds.workbook.evalExpr (Function.invoke .newYear) cellsOfAllKinds.formulas
          cellsOfAllKinds.settings.maxDepth "Sheet1"
          (.call "Sum" [.range ⟨none, ⟨1, 1⟩⟩ ⟨none, ⟨4, 2⟩⟩]) =
        cellsOfAllKinds.workbook.evalExpr (Function.invoke .newYear) cellsOfAllKinds.formulas
          cellsOfAllKinds.settings.maxDepth "Sheet1"
          (.call "Sum"
            [ .cell ⟨none, ⟨1, 1⟩⟩, .cell ⟨none, ⟨1, 2⟩⟩, .cell ⟨none, ⟨2, 1⟩⟩,
              .cell ⟨none, ⟨2, 2⟩⟩, .cell ⟨none, ⟨3, 1⟩⟩, .cell ⟨none, ⟨3, 2⟩⟩,
              .cell ⟨none, ⟨4, 1⟩⟩, .cell ⟨none, ⟨4, 2⟩⟩ ]) := by
  have hname : Text.upper "Sum" ∈ Function.aggregates := by decide +kernel
  have hsheet : cellsOfAllKinds.workbook.hasSheet "Sheet1" = true := by decide +kernel
  have hplain : ∀ a ∈ rangeCells ⟨none, ⟨1, 1⟩⟩ ⟨none, ⟨4, 2⟩⟩ "Sheet1", ∀ v,
      cellsOfAllKinds.workbook.evalCell (Function.invoke .newYear) cellsOfAllKinds.formulas
        cellsOfAllKinds.settings.maxDepth a = .ok v → Function.isTable v = false := by
    have htest : ∀ a ∈ rangeCells ⟨none, ⟨1, 1⟩⟩ ⟨none, ⟨4, 2⟩⟩ "Sheet1",
        (cellsOfAllKinds.workbook.evalCell (Function.invoke .newYear) cellsOfAllKinds.formulas
          cellsOfAllKinds.settings.maxDepth a).toOption.all (!Function.isTable ·) = true := by
      decide +kernel
    intro a ha v hv
    have hall := htest a ha
    rw [hv] at hall
    exact (Bool.not_eq_true' _).mp hall
  obtain ⟨-, hcells⟩ := Workbook.evalExpr_range_eq_evalExpr_cells .newYear cellsOfAllKinds.workbook
    cellsOfAllKinds.formulas cellsOfAllKinds.settings.maxDepth "Sheet1" "Sum" ⟨none, ⟨1, 1⟩⟩
    ⟨none, ⟨4, 2⟩⟩ hname hsheet
  exact ⟨(Reachable.start _).run _ _, hname, hsheet, hplain, hcells hplain⟩

/-- The sum over a range can differ from the sum of its cells: a table in a cell is one value of the
range, which is no number, whereas as an argument it is all of its numbers. -/
theorem not_evalExpr_range_eq_evalExpr_cells : ¬∀ (ambient : Ambient) (doc : Document)
    (sheet name : String) (first last : Reference), doc.Reachable →
      Text.upper name ∈ Function.aggregates →
        doc.workbook.hasSheet (first.sheetOn sheet) = true →
          doc.workbook.evalExpr (Function.invoke ambient) doc.formulas doc.settings.maxDepth sheet
              (.call name [.range first last]) =
            doc.workbook.evalExpr (Function.invoke ambient) doc.formulas doc.settings.maxDepth sheet
              (.call name ((cellReferences first last).map .cell)) := by
  intro hall
  have heq := hall .newYear cellsOfAllKinds "Sheet1" "SUM" ⟨none, ⟨1, 3⟩⟩ ⟨none, ⟨1, 3⟩⟩
    ((Reachable.start _).run _ _) (by decide +kernel) (by decide +kernel)
  have htexts := congrArg (fun outcome => outcome.toOption.map Value.toText) heq
  revert htexts
  decide +kernel

end Document

end Spreadsheet
