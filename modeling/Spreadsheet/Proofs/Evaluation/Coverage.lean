import Spreadsheet.Proofs.Evaluation.Steady

/-!
# The cells that an expression refers to are enough

The dependencies of a cell are taken from its formula by a walk of their own. Nothing that has a
part in the value is passed over on this walk: two workbooks with sheets of the same names may hold
whatever they like elsewhere, and may come by the values of these cells in different ways.
-/

namespace Spreadsheet

namespace Workbook

open Formula

variable {wb wb' : Workbook} {formulas formulas' : FormulaTable} {e : Expr}
  {call call' : String → List Value → Value}

private theorem hasSheet_eq_of_mem_iff (h : ∀ name, name ∈ wb.sheetNames ↔ name ∈ wb'.sheetNames)
    (name : String) : wb.hasSheet name = wb'.hasSheet name := by
  rw [Bool.eq_iff_iff, hasSheet_iff, hasSheet_iff]
  exact h name

/-- Where the sheets have the same names, the values of the cells that an expression refers to and
the functions that it calls determine its value. -/
theorem evalExpr_congr (hnames : ∀ name, name ∈ wb.sheetNames ↔ name ∈ wb'.sheetNames)
    (hcall : ∀ name ∈ e.calls, call name = call' name) (depth : Nat) (sheet : String)
    (hcells : ∀ a ∈ e.references sheet,
      wb.evalCell call formulas depth a = wb'.evalCell call' formulas' depth a) :
    wb.evalExpr call formulas depth sheet e = wb'.evalExpr call' formulas' depth sheet e := by
  have hsheets := hasSheet_eq_of_mem_iff hnames
  refine Expr.eval_congr e ⟨rfl, fun a _ => hsheets a.sheet, fun a ha => ?_, hcall⟩
  exact hcells a (Expr.mem_references.mpr ha)

/-- If all cells that an expression refers to have the same values in two workbooks with sheets of
the same names, or fail to have one, so does the expression, at whatever moments they are evaluated,
provided that it calls no function of the moment itself. -/
theorem evalExpr_eq_of_references (hsteady : e.Steady)
    (hnames : ∀ name, name ∈ wb.sheetNames ↔ name ∈ wb'.sheetNames) (ambient ambient' : Ambient)
    (depth : Nat) (sheet : String)
    (hcells : ∀ a ∈ e.references sheet,
      wb.evalCell (Function.invoke ambient) formulas depth a =
        wb'.evalCell (Function.invoke ambient') formulas' depth a) :
    wb.evalExpr (Function.invoke ambient) formulas depth sheet e =
      wb'.evalExpr (Function.invoke ambient') formulas' depth sheet e := by
  refine evalExpr_congr hnames (fun name hname => ?_) depth sheet hcells
  exact Function.invoke_eq_invoke (hsteady name hname) ambient ambient'

/-- A workbook with a text in its first cell. -/
def textInFirst : Workbook :=
  (ofName "Sheet1").alter ⟨"Sheet1", ⟨1, 1⟩⟩ fun _ => some (.ofValue (.text "x"))

/-- A workbook with the text in the second cell, to which the first one refers. -/
def textInSecond : Workbook :=
  ((ofName "Sheet1").alter ⟨"Sheet1", ⟨1, 2⟩⟩ fun _ => some (.ofValue (.text "x"))).alter
    ⟨"Sheet1", ⟨1, 1⟩⟩ fun _ => some { Cell.blank with formula := some "=B1" }

/-- The formula of the first cell. -/
def secondInFirst : FormulaTable :=
  (∅ : FormulaTable).insert ⟨"Sheet1", ⟨1, 1⟩⟩ (.cell ⟨none, ⟨1, 2⟩⟩)

/-- A call over the first column from below and over a sheet that there is not. -/
def callOverColumn : Expr :=
  .call "Concatenate" [.range ⟨none, ⟨2, 1⟩⟩ ⟨none, ⟨1, 1⟩⟩, .cell ⟨some "Data", ⟨1, 1⟩⟩]

/-- The second cell is in one of the workbooks only, which makes no difference to the call. -/
theorem evalExpr_callOverColumn : let earlier : Ambient := ⟨⟨2024, 1, 1⟩, 0, 0⟩
    let later : Ambient := ⟨⟨2024, 1, 2⟩, 0, 7⟩
    callOverColumn.Steady ∧
      (∀ name, name ∈ textInFirst.sheetNames ↔ name ∈ textInSecond.sheetNames) ∧
      (∀ a ∈ callOverColumn.references "Sheet1",
        textInFirst.evalCell (Function.invoke earlier) ∅ 1 a =
          textInSecond.evalCell (Function.invoke later) secondInFirst 1 a) ∧
      textInFirst.evalExpr (Function.invoke earlier) ∅ 1 "Sheet1" callOverColumn =
        textInSecond.evalExpr (Function.invoke later) secondInFirst 1 "Sheet1" callOverColumn := by
  intro earlier later
  have hsteady : callOverColumn.Steady := by decide +kernel
  have hnames : ∀ name, name ∈ textInFirst.sheetNames ↔ name ∈ textInSecond.sheetNames := by
    have hsame : textInFirst.sheetNames = textInSecond.sheetNames := by decide +kernel
    exact fun name => hsame ▸ Iff.rfl
  have hcells : ∀ a ∈ callOverColumn.references "Sheet1",
      textInFirst.evalCell (Function.invoke earlier) ∅ 1 a =
        textInSecond.evalCell (Function.invoke later) secondInFirst 1 a := by
    intro a ha
    have hmentions : callOverColumn.mentions "Sheet1" =
        [⟨"Sheet1", ⟨1, 1⟩⟩, ⟨"Sheet1", ⟨2, 1⟩⟩, ⟨"Data", ⟨1, 1⟩⟩] := by decide +kernel
    rw [Expr.mem_references, hmentions] at ha
    simp only [List.mem_cons, List.not_mem_nil, or_false] at ha
    rcases ha with rfl | rfl | rfl <;> cbv
  exact ⟨hsteady, hnames, hcells,
    evalExpr_eq_of_references hsteady hnames earlier later 1 "Sheet1" hcells⟩

end Workbook

end Spreadsheet
