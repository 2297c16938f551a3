import Spreadsheet.Proofs.Document.Staleness

/-!
# Formulas that were read before

Formulas need not be read from the texts of their cells each time they are evaluated: a table may
hold those that have been read already. The main statement says that such a table makes no
difference. Whichever formulas it holds, as long as each of them is what the text of its cell stands
for, cells and expressions have the values, or fail as they do, without a table.
-/

namespace Spreadsheet

open Formula

variable {wb : Workbook} {formulas formulas' : FormulaTable} {a : QualifiedAddress}

/-- Every formula of the table is what the text of its cell stands for. -/
def FormulaTable.ReadFrom (formulas : FormulaTable) (wb : Workbook) : Prop :=
  ∀ (a : QualifiedAddress) e, formulas[a]? = some e →
    ∃ c text, wb.cell? a = some c ∧ c.formula = some text ∧ Formula.read text = .formula e

namespace FormulaTable.ReadFrom

/-- A table that lacks some of the formulas will do. -/
theorem mono (h : formulas.ReadFrom wb)
    (hsub : ∀ (a : QualifiedAddress) e, formulas'[a]? = some e → formulas[a]? = some e) :
    formulas'.ReadFrom wb :=
  fun a e he => h a e (hsub a e he)

/-- What a text that is in the record of a cell stands for is what the table has for it, if it has
anything. -/
theorem read_eq (h : formulas.ReadFrom wb) {c : Cell} {text : String} {e : Expr}
    (hc : wb.cell? a = some c) (htext : c.formula = some text) (he : formulas[a]? = some e) :
    Formula.read text = .formula e := by
  obtain ⟨c', text', hc', htext', hread⟩ := h a e he
  obtain rfl := Option.some.inj (hc.symm.trans hc')
  obtain rfl := Option.some.inj (htext.symm.trans htext')
  exact hread

end FormulaTable.ReadFrom

namespace Workbook

variable {call : String → List Value → Value} {depth : Nat} {sheet : String} {e : Expr}

/-- A text of a formula makes the same of its cell whether it is looked up or read. -/
theorem contentOfRecord_eq_of_readFrom (h : formulas.ReadFrom wb) {c : Cell}
    (hc : wb.cell? a = some c) :
    contentOfRecord formulas a c = contentOfRecord ∅ a c := by
  unfold contentOfRecord
  -- The table is consulted only where there is a text and no error that goes before it.
  cases c.error with
  | some err => rfl
  | none =>
    cases htext : c.formula with
    | none => rfl
    | some text =>
      cases he : formulas[a]? with
      | none => rfl
      | some e =>
        have hread := h.read_eq hc htext he
        simp only [Std.ExtTreeMap.getElem?_empty, contentOfText, hread]

/-- The table makes no difference to what a cell has its value from. -/
theorem content_eq_of_readFrom (h : formulas.ReadFrom wb) (a : QualifiedAddress) :
    wb.content formulas a = wb.content ∅ a := by
  unfold content
  cases hc : wb.cell? a with
  | none => rfl
  | some c => simp only [contentOfRecord_eq_of_readFrom h hc]

/-- The table makes no difference to what the value of a cell is computed from. -/
theorem uses_eq_of_readFrom (h : formulas.ReadFrom wb) : wb.Uses formulas = wb.Uses ∅ := by
  funext a b
  simp only [Uses, content_eq_of_readFrom h]

/-- The table makes no difference to whether the value of a cell depends on the moment. -/
theorem steady_iff_of_readFrom (h : formulas.ReadFrom wb) :
    wb.Steady formulas a ↔ wb.Steady ∅ a := by
  simp only [Steady, uses_eq_of_readFrom h, content_eq_of_readFrom h]

/-- The table makes no difference to the value of a cell, at any depth. -/
theorem evalCell_eq_of_readFrom (h : formulas.ReadFrom wb) (call : String → List Value → Value)
    (depth : Nat) (a : QualifiedAddress) :
    wb.evalCell call formulas depth a = wb.evalCell call ∅ depth a := by
  have hagree : AgreeOn Set.univ call call wb formulas wb ∅ :=
    ⟨fun x _ => content_eq_of_readFrom h x, fun _ _ _ _ _ _ => Set.mem_univ _,
      fun _ _ _ _ _ _ => rfl, fun _ _ _ _ _ _ => rfl⟩
  exact hagree.evalCell_eq depth (Set.mem_univ a)

/-- The table makes no difference to the value of an expression. -/
theorem evalExpr_eq_of_readFrom (h : formulas.ReadFrom wb) (call : String → List Value → Value)
    (depth : Nat) (sheet : String) (e : Expr) :
    wb.evalExpr call formulas depth sheet e = wb.evalExpr call ∅ depth sheet e :=
  Expr.eval_congr e
    ⟨rfl, fun _ _ => rfl, fun r _ => evalCell_eq_of_readFrom h call depth r, fun _ _ => rfl⟩

/-- A table of formulas that are what the texts of their cells stand for makes no difference.
Whatever the functions are and however deep formulas are followed, every cell and every expression
has the same value with it as without a table, or fails for the same reason. Where no formula
depends on the moment, evaluations with the table and without it agree even at different moments. -/
theorem evaluation_ignores_readings (wb : Workbook) (formulas : FormulaTable)
    (h : formulas.ReadFrom wb) (depth : Nat) :
    (∀ call a, wb.evalCell call formulas depth a = wb.evalCell call ∅ depth a) ∧
    (∀ call sheet e, wb.evalExpr call formulas depth sheet e = wb.evalExpr call ∅ depth sheet e) ∧
    ∀ ambient ambient' : Ambient,
      (∀ a, wb.Steady ∅ a →
        wb.evalCell (Function.invoke ambient) formulas depth a =
          wb.evalCell (Function.invoke ambient') ∅ depth a) ∧
      ∀ sheet e, e.Steady → (∀ a ∈ e.mentions sheet, wb.Steady ∅ a) →
        wb.evalExpr (Function.invoke ambient) formulas depth sheet e =
          wb.evalExpr (Function.invoke ambient') ∅ depth sheet e := by
  have hcell := fun call a => evalCell_eq_of_readFrom h call depth a
  have hexpr := fun call sheet e => evalExpr_eq_of_readFrom h call depth sheet e
  refine ⟨hcell, hexpr, fun ambient ambient' => ⟨fun a ha => ?_, fun sheet e he hmentions => ?_⟩⟩
  · rw [hcell]
    exact evalCell_eq_of_steady ha ambient' ambient depth
  · rw [hexpr]
    exact evalExpr_eq_of_uncached rfl he hmentions ambient' ambient depth

end Workbook

namespace Document

variable {doc : Document}

/-- The formulas that a document keeps are those of its texts. -/
theorem Consistent.readFrom (h : doc.Consistent) : doc.formulas.ReadFrom doc.workbook := by
  intro a e he
  have hreads := h.reads a
  rw [he] at hreads
  obtain ⟨c, hc⟩ := Workbook.exists_cell?_of_record_ne_blank hreads.ne_blank
  obtain ⟨text, htext, hread⟩ := hreads.exists_text
  rw [Workbook.record_of_cell? hc] at htext
  exact ⟨c, text, hc, htext, hread⟩

/-- Whatever calls lead to a document, reading a cell gives what its texts say, each of them read
anew. -/
theorem Reachable.compute_eq_without_table (h : doc.Reachable) (ambient : Ambient)
    (a : QualifiedAddress) :
    doc.compute ambient a =
      settleValue (doc.workbook.evalCell (Function.invoke ambient) ∅ doc.settings.maxDepth a) := by
  rw [compute, Workbook.evalCell_eq_of_readFrom h.consistent.readFrom]

/-- A document with a chain of three formulas, the last of which also reads a text that is not well
formed, a raw value and an empty cell. -/
def threeFormulas : Document :=
  (Document.ofSettings {}).run .newYear
    [ .write "A1" (.text "x") none,
      .write "B1" (.text "=A1&\"y\"") none,
      .write "C1" (.text "=B1&\"z\"") none,
      .write "A2" (.text "=(") none,
      .write "D1" (.text "=CONCATENATE(A1:C1)&A2&A3") none ]

/-- The first and the last of these formulas, the middle one of the chain being left to be read. -/
def outerFormulas : FormulaTable :=
  threeFormulas.formulas.erase ⟨"Sheet1", ⟨1, 3⟩⟩

/-- Looking up some of the formulas and reading the others makes no difference at any depth, be it
enough for the whole chain or not. -/
theorem evalCell_outerFormulas :
    outerFormulas.ReadFrom threeFormulas.workbook ∧
      outerFormulas[(⟨"Sheet1", ⟨1, 2⟩⟩ : QualifiedAddress)]?.isSome = true ∧
      outerFormulas[(⟨"Sheet1", ⟨1, 3⟩⟩ : QualifiedAddress)]?.isSome = false ∧
      threeFormulas.workbook.Steady ∅ ⟨"Sheet1", ⟨1, 4⟩⟩ ∧
      ∀ depth ambient ambient', threeFormulas.workbook.evalCell (Function.invoke ambient)
          outerFormulas depth ⟨"Sheet1", ⟨1, 4⟩⟩ =
        threeFormulas.workbook.evalCell (Function.invoke ambient') ∅ depth
          ⟨"Sheet1", ⟨1, 4⟩⟩ := by
  have hcon : threeFormulas.Consistent := ((Reachable.start _).run _ _).consistent
  have hread : outerFormulas.ReadFrom threeFormulas.workbook := by
    refine hcon.readFrom.mono fun a e he => ?_
    rw [outerFormulas, Std.ExtTreeMap.getElem?_erase] at he
    split at he
    · cases he
    · exact he
  have hsteady : threeFormulas.workbook.Steady ∅ ⟨"Sheet1", ⟨1, 4⟩⟩ :=
    (Workbook.steady_iff_of_readFrom hcon.readFrom).mp
      (hcon.steady_workbook (steady_of_forall (by decide +kernel) _))
  refine ⟨hread, by decide +kernel, by decide +kernel, hsteady, fun depth ambient ambient' => ?_⟩
  obtain ⟨-, -, hmoments⟩ :=
    Workbook.evaluation_ignores_readings threeFormulas.workbook outerFormulas hread depth
  exact (hmoments ambient ambient').1 _ hsteady

end Document

end Spreadsheet
