import Spreadsheet.Proofs.Document.Mentions
import Spreadsheet.Proofs.Evaluation.Outcome

/-!
# The table satisfies its formulas

The table of a document shows the value that is kept with every cell. Formulas are evaluated from
what was written, by following references to any depth that is allowed; they could also be looked up
in the table, one step at a time. The main statement says that both come to the same after all
formulas were computed anew, wherever the chains of formulas are not too long to be followed.
-/

namespace Spreadsheet

/-- The value that the table shows for a cell: nothing where nothing is recorded, and an error where
there is no such sheet. -/
def Workbook.shown (wb : Workbook) (a : QualifiedAddress) : Value :=
  if wb.hasSheet a.sheet then ((wb.cell? a).map Cell.value).getD .empty
  else .error .invalidReference

private theorem Workbook.shown_eq_record (wb : Workbook) (a : QualifiedAddress) :
    wb.shown a = if wb.hasSheet a.sheet then (wb.record a).value else .error .invalidReference := by
  unfold shown record
  cases wb.cell? a <;> rfl

namespace Document

open Formula

variable {ambient : Ambient} {doc : Document} {a b : QualifiedAddress} {c : Cell} {text : String}
  {e : Formula.Expr} {limit : Nat}

/-- Surroundings in which every cell has the value that the table shows for it. -/
def table (ambient : Ambient) (doc : Document) (sheet : String) : Surroundings :=
  ⟨sheet, doc.workbook.hasSheet, fun a => .ok (doc.workbook.shown a), Function.invoke ambient⟩

/-- What the value of a cell is computed from includes what those of the cells that it mentions are
computed from. -/
theorem Steady.of_mem_references (h : doc.Steady a) (hb : b ∈ doc.references a) :
    doc.Steady b :=
  fun r e' huses he' => h r e' (.head hb huses) he'

namespace Consistent

/-- A formula has its value from the formula that was read, if no cycle gets in the way. -/
theorem content_of_formula (h : doc.Consistent) (he : doc.formulas[a]? = some e)
    (hcycle : doc.workbook.reachesCycle a = false) :
    doc.workbook.content doc.formulas a = .formula e := by
  have hreads := h.reads a
  rw [he] at hreads
  cases hreads with
  | formula text_eq _ error_eq =>
    rw [Workbook.content_eq, h.hasSheet_of_formula he, hcycle, Workbook.contentOfRecord, error_eq,
      text_eq, he]
    rfl

/-- Where formulas that do not depend on the moment are up to date, the table shows the values that
reading the cells gives. -/
theorem compute_eq_shown (h : doc.Consistent) (hup : doc.UpToDate) (hsteady : doc.Steady a)
    (ambient : Ambient) : doc.compute ambient a = doc.workbook.shown a := by
  rw [Workbook.shown_eq_record]
  by_cases hsheet : doc.workbook.hasSheet a.sheet = true
  · rw [if_pos hsheet]
    cases hf : (doc.workbook.record a).formula with
    | none => exact h.compute_of_raw hsheet hf
    | some text =>
      have hformula : (doc.workbook.record a).isFormula = true := by
        rw [Cell.isFormula, hf]
        rfl
      exact (h.upToDate_iff.mp hup a hformula hsteady ambient).symm
  · have hmissing : doc.workbook.content doc.formulas a = .known (.error .invalidReference) := by
      rw [Workbook.content_eq, if_pos (by simpa using hsheet)]
    rw [if_neg hsheet, compute_of_known hmissing]

/-! ## Depth -/

/-- A cell has one value for all depths that its chains of formulas fit into. -/
theorem exists_evalCell_eq_ok (h : doc.Consistent) (call : String → List Value → Value)
    (hchains : doc.ChainsWithin limit a) :
    ∃ v, ∀ depth, limit ≤ depth →
      doc.workbook.evalCell call doc.formulas depth a = .ok v := by
  induction limit generalizing a with
  | zero =>
    cases hc : doc.workbook.content doc.formulas a with
    | known v => exact ⟨v, fun depth _ => Workbook.evalCell_of_known hc depth⟩
    | formula e =>
      have he := h.hasFormula_iff.mpr (h.formula_of_content hc)
      exact absurd ⟨e, he⟩ (chainsWithin_zero_iff.mp hchains)
  | succ limit ih =>
    cases hc : doc.workbook.content doc.formulas a with
    | known v => exact ⟨v, fun depth _ => Workbook.evalCell_of_known hc depth⟩
    | formula e =>
      have he := h.hasFormula_iff.mpr (h.formula_of_content hc)
      have hreads : ∀ r ∈ e.mentions a.sheet, ∃ v, ∀ depth, limit ≤ depth →
          doc.workbook.evalCell call doc.formulas depth r = .ok v :=
        fun r hr => ih (chainsWithin_succ_iff.mp hchains r ⟨e, he, hr⟩)
      have hyields : Yields (fun _ : Value => True) False
          (e.eval ⟨a.sheet, doc.workbook.hasSheet,
            doc.workbook.evalCell call doc.formulas limit, call⟩) := by
        refine Expr.eval_yields (.trivial call) e fun r hr => ?_
        obtain ⟨v, hv⟩ := hreads r hr
        dsimp only
        rw [hv limit (Nat.le_refl limit)]
        trivial
      obtain ⟨v, hv, -⟩ := hyields.exists_ok
      refine ⟨v, fun depth hdepth => ?_⟩
      obtain ⟨depth, rfl⟩ := Nat.exists_eq_add_of_le' hdepth
      rw [← Nat.add_assoc, Workbook.evalCell, hc]
      dsimp only
      rw [← hv]
      -- Deeper evaluation finds the same values in the cells that the formula mentions.
      refine Expr.eval_congr e ⟨rfl, fun _ _ => rfl, fun r hr => ?_, fun _ _ => rfl⟩
      obtain ⟨w, hw⟩ := hreads r hr
      dsimp only
      rw [hw (depth + limit) (Nat.le_add_left limit depth), hw limit (Nat.le_refl limit)]

/-- Where the table is up to date, looking up the cells that a formula mentions gives the value that
is kept with it, if its chains are not longer than formulas are followed. -/
theorem eval_table (h : doc.Consistent) (hup : doc.UpToDate) (he : doc.formulas[a]? = some e)
    (hsteady : doc.Steady a) (hchains : doc.ChainsWithin doc.settings.maxDepth a)
    (ambient : Ambient) :
    e.eval (doc.table ambient a.sheet) = .ok (doc.workbook.record a).value := by
  have hmember := h.hasFormula_iff.mpr he
  obtain ⟨depth, hdepth⟩ := Nat.exists_eq_succ_of_ne_zero (Nat.ne_of_gt (hchains.pos hmember))
  have hcontent := h.content_of_formula he (h.reachesCycle_eq_false hchains)
  rw [hdepth] at hchains
  have hvalue : e.eval (doc.table ambient a.sheet) =
      doc.workbook.evalCell (Function.invoke ambient) doc.formulas (depth + 1) a := by
    rw [Workbook.evalCell, hcontent]
    refine Expr.eval_congr e ⟨rfl, fun _ _ => rfl, fun r hr => ?_, fun _ _ => rfl⟩
    have href : r ∈ doc.references a := by
      rw [references_of_formula he]
      exact Expr.mem_references.mpr hr
    obtain ⟨v, hv⟩ := h.exists_evalCell_eq_ok (Function.invoke ambient)
      (chainsWithin_succ_iff.mp hchains r ⟨e, hmember, hr⟩)
    have hshown : v = doc.workbook.shown r := by
      rw [← h.compute_eq_shown hup (hsteady.of_mem_references href) ambient, Document.compute,
        hdepth, hv (depth + 1) (Nat.le_succ depth)]
      rfl
    exact (congrArg Except.ok hshown.symm).trans (hv depth (Nat.le_refl depth)).symm
  obtain ⟨v, hv⟩ := h.exists_evalCell_eq_ok (Function.invoke ambient) hchains
  have hkept : (doc.workbook.record a).value = v := by
    have hcompute := h.compute_eq_shown hup hsteady ambient
    rw [Workbook.shown_eq_record, if_pos (h.hasSheet_of_formula he), Document.compute, hdepth,
      hv (depth + 1) (Nat.le_refl (depth + 1))] at hcompute
    exact hcompute.symm
  rw [hvalue, hkept]
  exact hv (depth + 1) (Nat.le_refl (depth + 1))

end Consistent

/-- After all formulas of a document were computed anew, the value that is kept with a formula is
the one that the formula has when every cell that it mentions is looked up in the table, provided
that no chain of formulas that starts at its cell is longer than formulas are followed. A cell that
leads into a cycle starts chains of every length. -/
theorem Reachable.eval_table_recalculate (h : doc.Reachable)
    (hrecord : (doc.recalculate ambient).workbook.HasRecord a c) (htext : c.formula = some text)
    (hread : Formula.read text = .formula e) (hsteady : (doc.recalculate ambient).Steady a)
    (hchains : (doc.recalculate ambient).ChainsWithin doc.settings.maxDepth a)
    (ambient' : Ambient) :
    e.eval ((doc.recalculate ambient).table ambient' a.sheet) = .ok c.value := by
  have hcon := h.consistent
  have hafter : (doc.recalculate ambient).Consistent := hcon.refreshAll ambient _
  have hsettings : (doc.recalculate ambient).settings = doc.settings :=
    settings_refreshAll ambient doc _
  have he := hafter.hasFormula_iff.mp ⟨c, text, hrecord, htext, hread⟩
  rw [← hsettings] at hchains
  have heval := hafter.eval_table hcon.upToDate_recalculate he hsteady hchains ambient'
  rw [hafter.record_eq hrecord] at heval
  exact heval

/-- A document in which formulas are followed two levels deep at most. A write has left the value
behind that is kept with the second formula, which also reads an empty cell and a missing sheet. -/
def twoLevels : Document :=
  (Document.ofSettings { maxDepth := 2 }).run .newYear
    [.write "B1" (.text "=A1&\"x\"") none, .write "C1" (.text "=COUNTA(B1:B2)&Data!A1") none,
      .write "A1" (.text "y") none]

/-- The second formula starts a chain of two formulas, and the table satisfies it. -/
theorem eval_table_twoLevels :
    twoLevels.Reachable ∧ (twoLevels.recalculate .newYear).ChainsWithin 2 ⟨"Sheet1", ⟨1, 3⟩⟩ ∧
      ∃ c text e, (twoLevels.recalculate .newYear).workbook.HasRecord ⟨"Sheet1", ⟨1, 3⟩⟩ c ∧
        c.formula = some text ∧ Formula.read text = .formula e ∧ ∀ ambient,
          e.eval ((twoLevels.recalculate .newYear).table ambient "Sheet1") = .ok c.value := by
  have hreach : twoLevels.Reachable := (Reachable.start _).run _ _
  have hcon : (twoLevels.recalculate .newYear).Consistent := hreach.consistent.refreshAll _ _
  have hsome : (twoLevels.recalculate .newYear).formulas[(⟨"Sheet1", ⟨1, 3⟩⟩ :
      QualifiedAddress)]?.isSome = true := by decide +kernel
  have hdepth : twoLevels.settings.maxDepth = 2 := by decide +kernel
  obtain ⟨e, he⟩ := Option.isSome_iff_exists.mp hsome
  obtain ⟨c, text, hc, htext, hread⟩ := hcon.hasFormula_iff.mpr he
  have hchains : (twoLevels.recalculate .newYear).ChainsWithin 2 ⟨"Sheet1", ⟨1, 3⟩⟩ :=
    hcon.chainsWithin_iff.mpr (by decide +kernel)
  refine ⟨hreach, hchains, c, text, e, hc, htext, hread, ?_⟩
  exact Reachable.eval_table_recalculate hreach hc htext hread
    (steady_of_forall (by decide +kernel) _) (by rw [hdepth]; exact hchains)

end Document

end Spreadsheet
