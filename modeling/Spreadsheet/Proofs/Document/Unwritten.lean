import Spreadsheet.Proofs.Document.Circularity
import Spreadsheet.Proofs.Document.Table

/-!
# Formulas that are not written into cells

A formula can be evaluated without being written into a cell. It is then read anew, and the cells
that it mentions may be followed one level deeper than from a cell. The main statement says that
this makes no difference: on the sheet of a cell its text has the value of the cell, wherever the
chains of formulas are not too long to be followed, be the text well formed or not.
-/

namespace Spreadsheet.Document

open Formula

variable {ambient ambient' : Ambient} {doc : Document} {a : QualifiedAddress} {c : Cell}
  {text address : String} {e : Formula.Expr} {limit depth depth' : Nat} {sheet : Option String}

namespace Consistent

/-- Where the chains of formulas fit in, the formula of a cell has one value as that of the cell and
by itself, and at all depths. -/
theorem evalCell_eq_evalExpr (h : doc.Consistent) (call : String → List Value → Value)
    (he : doc.formulas[a]? = some e) (hchains : doc.ChainsWithin (limit + 1) a)
    (hdepth : limit ≤ depth) (hdepth' : limit ≤ depth') :
    doc.workbook.evalCell call doc.formulas (depth + 1) a =
      doc.workbook.evalExpr call doc.formulas depth' a.sheet e := by
  rw [Workbook.evalCell, h.content_of_formula he (h.reachesCycle_eq_false hchains)]
  refine Expr.eval_congr e ⟨rfl, fun _ _ => rfl, fun r hr => ?_, fun _ _ => rfl⟩
  have hmentions : doc.Mentions a r := ⟨e, h.hasFormula_iff.mpr he, hr⟩
  obtain ⟨v, hv⟩ := h.exists_evalCell_eq_ok call (chainsWithin_succ_iff.mp hchains r hmentions)
  exact (hv depth hdepth).trans (hv depth' hdepth').symm

/-- The value of a cell is that of the text that it holds. -/
theorem compute_eq_evaluate (h : doc.Consistent)
    (htext : (doc.workbook.record a).formula = some text) (hsteady : doc.Steady a)
    (hchains : doc.ChainsWithin doc.settings.maxDepth a) (ambient ambient' : Ambient) :
    doc.compute ambient a = doc.evaluate ambient' text (some a.sheet) := by
  unfold evaluate
  cases hread : Formula.read text with
  | plain => exact absurd hread ((h.reads a).ne_plain htext)
  | malformed err => exact h.compute_of_malformed htext hread
  | formula e =>
    obtain ⟨he, -⟩ := (h.reads a).of_formula htext hread
    obtain ⟨depth, hdepth⟩ := Nat.exists_eq_succ_of_ne_zero
      (Nat.ne_of_gt (hchains.pos (h.hasFormula_iff.mpr he)))
    rw [h.compute_eq_of_steady hsteady ambient', compute, hdepth]
    rw [hdepth] at hchains
    exact congrArg settleValue
      (h.evalCell_eq_evalExpr _ he hchains (Nat.le_refl depth) (Nat.le_succ depth))

end Consistent

/-- In a document that calls lead to, reading a cell that holds a text of a formula gives what the
text has for a value on the sheet of the cell, at whatever moments both are asked for. It takes that
no formula on the way depends on the moment, and that no chain of formulas that starts at the cell
is longer than formulas are followed. A cell that leads into a cycle starts chains of every
length. -/
theorem Reachable.read_eq_evaluate (h : doc.Reachable) (hrecord : doc.workbook.HasRecord a c)
    (htext : c.formula = some text) (hsteady : doc.Steady a)
    (hchains : doc.ChainsWithin doc.settings.maxDepth a)
    (ha : doc.resolve address sheet = .ok a) (ambient ambient' : Ambient) :
    doc.read ambient address sheet = doc.evaluate ambient' text (some a.sheet) := by
  rw [read_of_resolve ha]
  rw [← h.consistent.record_eq hrecord] at htext
  exact h.consistent.compute_eq_evaluate htext hsteady hchains ambient ambient'

/-- A document in which formulas are followed two levels deep at most and another sheet is active. A
chain of two formulas goes over to that sheet, and a text is not well formed. -/
def otherActive : Document :=
  (Document.ofSettings { maxDepth := 2 }).run .newYear
    [ .write "B1" (.text "=A1&Data!A1") none,
      .write "C1" (.text "=B1&\"x\"") none,
      .write "D1" (.text "=(") none,
      .addSheet "Data",
      .activate "Data",
      .write "A1" (.text "y") none ]

/-- The last formula of the chain and the text that is not well formed have the values of their
cells. -/
theorem read_eq_evaluate_otherActive :
    otherActive.Reachable ∧ otherActive.ChainsWithin 2 ⟨"Sheet1", ⟨1, 3⟩⟩ ∧
      ∀ ambient ambient',
        otherActive.read ambient "C1" (some "Sheet1") =
            otherActive.evaluate ambient' "=B1&\"x\"" (some "Sheet1") ∧
          otherActive.read ambient "D1" (some "Sheet1") =
            otherActive.evaluate ambient' "=(" (some "Sheet1") := by
  have hreach : otherActive.Reachable := (Reachable.start _).run _ _
  have hcon := hreach.consistent
  have hdepth : otherActive.settings.maxDepth = 2 := by decide +kernel
  have hsteady : ∀ a, otherActive.Steady a := steady_of_forall (by decide +kernel)
  have hchains : otherActive.ChainsWithin 2 ⟨"Sheet1", ⟨1, 3⟩⟩ :=
    hcon.chainsWithin_iff.mpr (by decide +kernel)
  have hchains' : otherActive.ChainsWithin 2 ⟨"Sheet1", ⟨1, 4⟩⟩ :=
    hcon.chainsWithin_iff.mpr (by decide +kernel)
  have hC : (otherActive.workbook.cell? ⟨"Sheet1", ⟨1, 3⟩⟩).bind Cell.formula =
      some "=B1&\"x\"" := by decide +kernel
  have hD : (otherActive.workbook.cell? ⟨"Sheet1", ⟨1, 4⟩⟩).bind Cell.formula = some "=(" := by
    decide +kernel
  obtain ⟨c, hc, hctext⟩ := Option.bind_eq_some_iff.mp hC
  obtain ⟨d, hd, hdtext⟩ := Option.bind_eq_some_iff.mp hD
  rw [← hdepth] at hchains hchains'
  refine ⟨hreach, hdepth ▸ hchains, fun ambient ambient' => ⟨?_, ?_⟩⟩
  · exact Reachable.read_eq_evaluate hreach ((Workbook.cell?_eq_some_iff hcon.names).mp hc) hctext
      (hsteady _) hchains (by decide +kernel) ambient ambient'
  · exact Reachable.read_eq_evaluate hreach ((Workbook.cell?_eq_some_iff hcon.names).mp hd) hdtext
      (hsteady _) hchains' (by decide +kernel) ambient ambient'

end Spreadsheet.Document
