import Mathlib.Data.Finset.Lattice.Fold
import Mathlib.Order.Lattice.Nat
import Spreadsheet.Proofs.Document.Mentions
import Spreadsheet.Proofs.Document.Table
import Spreadsheet.Proofs.Evaluation.Failure

/-!
# How deep formulas refer to formulas

The height of a cell is the number of formulas that are followed one after the other for its value.
Formulas are not followed from a cell that leads into a cycle, so that every cell has a height. The
main statement says that an evaluation is given up exactly if the height is above the limit, and
that below it the limit makes no difference.
-/

namespace Spreadsheet

open Formula

/-- From every cell the walk along the inputs comes to an end, if it stops at cells that lead into a
cycle. -/
theorem Workbook.wellFounded_inputs (wb : Workbook) :
    WellFounded fun b a => wb.reachesCycle a = false ∧ b ∈ wb.inputs a := by
  have hends : ∀ a, Dependency.Ends wb.inputs a →
      Acc (fun b a => wb.reachesCycle a = false ∧ b ∈ wb.inputs a) a := by
    intro a ha
    induction ha with
    | intro a _ ih => exact Acc.intro a fun b hb => ih b hb.2
  refine ⟨fun a => Acc.intro a fun b hb => ?_⟩
  exact hends b ((reachesCycle_eq_false_iff.mp hb.1).inv hb.2)

/-- A formula is followed only from a cell that leads into no cycle. -/
theorem Workbook.reachesCycle_of_content {wb : Workbook} {formulas : FormulaTable}
    {a : QualifiedAddress} {e : Expr} (h : wb.content formulas a = .formula e) :
    wb.reachesCycle a = false := by
  rw [content_eq] at h
  split_ifs at h with _ hcycle
  exact Bool.eq_false_iff.mpr hcycle

namespace Document

variable {ambient ambient' : Ambient} {doc : Document} {a b : QualifiedAddress} {v : Value}
  {e : Formula.Expr} {limit limit' : Nat}

/-- The number of formulas that are followed one after the other for the value of a cell. -/
def height (doc : Document) (a : QualifiedAddress) : Nat :=
  match doc.workbook.content doc.formulas a with
  | .known _ => 0
  | .formula _ =>
    if h : doc.workbook.reachesCycle a = false then
      1 + (doc.workbook.inputs a).toFinset.attach.sup fun b => doc.height b.1
    else 0
termination_by doc.workbook.wellFounded_inputs.wrap a
decreasing_by exact ⟨h, List.mem_toFinset.mp b.2⟩

/-- No formula is followed for the value of a cell: there is no such sheet, or the formulas lead
from the cell into a cycle, or it has no record with a formula and without an error. -/
def Settled (doc : Document) (a : QualifiedAddress) : Prop :=
  doc.workbook.hasSheet a.sheet = false ∨
    (∃ b, Relation.ReflTransGen doc.Mentions a b ∧ Relation.TransGen doc.Mentions b b) ∨
      ∀ c, doc.workbook.HasRecord a c → c.error.isSome = true ∨ c.formula = none

/-- Cells for which no formula is followed have no height, and a formula is by one higher than the
highest of the cells that it refers to. -/
structure IsHeight (doc : Document) (height : QualifiedAddress → Nat) : Prop where
  /-- No formula is followed. -/
  settled : ∀ a, doc.Settled a → height a = 0
  /-- The formula of the cell is followed. -/
  formula : ∀ a, ¬doc.Settled a → ∃ e, doc.HasFormula a e ∧
    height a = 1 + (e.references a.sheet).toList.toFinset.sup height

/-- A cell with a known value has no height. -/
theorem height_of_known (h : doc.workbook.content doc.formulas a = .known v) :
    doc.height a = 0 := by
  rw [height, h]

/-- A formula is by one higher than the highest of the cells that are recorded as its inputs. -/
theorem height_of_formula (h : doc.workbook.content doc.formulas a = .formula e) :
    doc.height a = 1 + (doc.workbook.inputs a).toFinset.sup doc.height := by
  rw [height, h]
  dsimp only
  rw [dif_pos (Workbook.reachesCycle_of_content h), Finset.sup_attach _ doc.height]

private theorem height_of_missing (h : doc.workbook.hasSheet a.sheet = false) : doc.height a = 0 :=
  height_of_known (by rw [Workbook.content_eq, if_pos h])

namespace Consistent

/-- No formula is followed exactly where the value is known. -/
theorem settled_iff (h : doc.Consistent) :
    doc.Settled a ↔ ∃ v, doc.workbook.content doc.formulas a = .known v := by
  constructor
  · intro hsettled
    cases hc : doc.workbook.content doc.formulas a with
    | known v => exact ⟨v, rfl⟩
    | formula e =>
      obtain ⟨c, text, hrecord, htext, hread⟩ := h.hasFormula_iff.mpr (h.formula_of_content hc)
      rcases hsettled with hsheet | hcycle | hraw
      · rw [Workbook.content_eq, if_pos hsheet] at hc
        cases hc
      · rw [Workbook.content_eq, h.reachesCycle_iff.mpr hcycle] at hc
        split at hc <;> cases hc
      · have hreads := h.reads a
        rw [h.record_eq hrecord] at hreads
        obtain ⟨-, herror⟩ := hreads.of_formula htext hread
        rcases hraw c hrecord with hsome | hnone
        · rw [herror] at hsome
          cases hsome
        · rw [htext] at hnone
          cases hnone
  · rintro ⟨v, hc⟩
    by_contra hsettled
    simp only [Settled, not_or, not_forall, ← h.reachesCycle_iff] at hsettled
    obtain ⟨-, hcycle, c, hrecord, herror, hformula⟩ := hsettled
    obtain ⟨text, htext⟩ := Option.ne_none_iff_exists'.mp hformula
    have hreads := h.reads a
    rw [h.record_eq hrecord] at hreads
    generalize he : doc.formulas[a]? = e? at hreads
    cases hreads with
    | formula =>
      rw [h.content_of_formula he (Bool.eq_false_iff.mpr hcycle)] at hc
      cases hc
    | malformed _ _ error_eq =>
      rw [error_eq] at herror
      exact herror rfl
    | raw text_eq =>
      rw [text_eq] at htext
      cases htext

/-- Some cell that a formula mentions is above the limit exactly if some input of its cell is. -/
theorem lt_sup_inputs_iff (h : doc.Consistent) (he : doc.formulas[a]? = some e) :
    limit < (doc.workbook.inputs a).toFinset.sup doc.height ↔
      ∃ r ∈ e.mentions a.sheet, limit < doc.height r := by
  simp only [Finset.lt_sup_iff, List.mem_toFinset, h.mem_inputs_iff, h.mentions_iff,
    references_of_formula he, Expr.mem_references]
  constructor
  · rintro ⟨r, ⟨hr, -⟩, hlt⟩
    exact ⟨r, hr, hlt⟩
  · rintro ⟨r, hr, hlt⟩
    refine ⟨r, ⟨hr, ?_⟩, hlt⟩
    by_contra hsheet
    rw [height_of_missing (Bool.eq_false_iff.mpr hsheet)] at hlt
    exact absurd hlt (Nat.not_lt_zero limit)

/-- The height follows the formulas. -/
theorem isHeight (h : doc.Consistent) : doc.IsHeight doc.height := by
  refine ⟨fun a hsettled => ?_, fun a hsettled => ?_⟩
  · obtain ⟨v, hv⟩ := h.settled_iff.mp hsettled
    exact height_of_known hv
  · cases hc : doc.workbook.content doc.formulas a with
    | known v => exact absurd (h.settled_iff.mpr ⟨v, hc⟩) hsettled
    | formula e =>
      have he := h.formula_of_content hc
      refine ⟨e, h.hasFormula_iff.mpr he, ?_⟩
      rw [height_of_formula hc]
      refine congrArg (1 + ·) (eq_of_forall_lt_iff fun n => ?_)
      simp [h.lt_sup_inputs_iff he, Expr.mem_references]

/-- An evaluation is given up exactly if the cell is higher than formulas are followed. -/
theorem evalCell_eq_depthExceeded_iff_height (h : doc.Consistent)
    (call : String → List Value → Value) :
    doc.workbook.evalCell call doc.formulas limit a = .error .depthExceeded ↔
      limit < doc.height a := by
  -- Along the inputs, which end as long as no formula leads into a cycle.
  induction a using doc.workbook.wellFounded_inputs.induction generalizing limit with
  | _ a ih =>
    cases hc : doc.workbook.content doc.formulas a with
    | known v =>
      rw [Workbook.evalCell_of_known hc, height_of_known hc]
      simp
    | formula e =>
      have he := h.formula_of_content hc
      have hcycle := Workbook.reachesCycle_of_content hc
      rw [height_of_formula hc]
      cases limit with
      | zero =>
        rw [Workbook.evalCell, hc]
        simp [Nat.add_comm 1]
      | succ limit =>
        have hmentions : ∀ r ∈ e.mentions a.sheet,
            (doc.workbook.evalCell call doc.formulas limit r = .error .depthExceeded ↔
              limit < doc.height r) := by
          intro r hr
          by_cases hsheet : doc.workbook.hasSheet r.sheet = true
          · have hinput : r ∈ doc.workbook.inputs a :=
              h.mem_inputs_iff.mpr ⟨⟨e, h.hasFormula_iff.mpr he, hr⟩, hsheet⟩
            exact ih r ⟨hcycle, hinput⟩
          · have hmissing := Bool.eq_false_iff.mpr hsheet
            rw [Workbook.evalCell_of_missing hmissing, height_of_missing hmissing]
            simp
        rw [Workbook.evalCell, hc]
        dsimp only
        rw [Expr.eval_eq_depthExceeded_iff
          (doc.workbook.missingRead doc.formulas limit a.sheet call), Nat.add_comm 1,
          Nat.succ_lt_succ_iff, h.lt_sup_inputs_iff he]
        exact exists_congr fun r => and_congr_right (hmentions r)

end Consistent

/-- Evaluating a cell of a document that calls lead to is given up exactly if the cell is higher
than formulas are followed. A value that does not depend on the moment is the same at every limit
that it is found at. -/
theorem Reachable.evalCell_eq_depthExceeded_iff (h : doc.Reachable) :
    doc.IsHeight doc.height ∧
      (∀ ambient limit a, doc.workbook.evalCell (Function.invoke ambient) doc.formulas limit a =
        .error .depthExceeded ↔ limit < doc.height a) ∧
      ∀ a, doc.Steady a → ∀ ambient ambient' limit limit' v, limit ≤ limit' →
        doc.workbook.evalCell (Function.invoke ambient) doc.formulas limit a = .ok v →
          doc.workbook.evalCell (Function.invoke ambient') doc.formulas limit' a = .ok v := by
  have hcon := h.consistent
  refine ⟨hcon.isHeight, fun ambient limit a => ?_, ?_⟩
  · exact hcon.evalCell_eq_depthExceeded_iff_height (Function.invoke ambient)
  · intro a hsteady ambient ambient' limit limit' v hle hv
    rw [hcon.evalCell_eq_of_steady hsteady ambient ambient']
    exact Workbook.evalCell_mono hle hv

/-- A document in which formulas are followed one level deep at most. A formula reads another one
through a range and a third one on a missing sheet, and two cells read each other. -/
def threeLevels : Document :=
  (Document.ofSettings { maxDepth := 1 }).run .newYear
    [ .write "B1" (.text "=A1&\"x\"") none,
      .write "C1" (.text "=COUNTA(B1:B2)&Data!A1") none,
      .write "D1" (.text "={1,C1}") none,
      .write "E1" (.text "=D1&F1") none,
      .write "F1" (.text "=E1") none ]

/-- The table in the fourth column of the document has three formulas one after the other, and the
cells that read each other have none. -/
theorem evalCell_threeLevels :
    threeLevels.Reachable ∧ threeLevels.height ⟨"Sheet1", ⟨1, 5⟩⟩ = 0 ∧
      ∀ ambient limit, threeLevels.workbook.evalCell (Function.invoke ambient)
        threeLevels.formulas limit ⟨"Sheet1", ⟨1, 4⟩⟩ = .error .depthExceeded ↔ limit < 3 := by
  have hreach : threeLevels.Reachable := (Reachable.start _).run _ _
  have hcon := hreach.consistent
  obtain ⟨hheight, hlimit, -⟩ := Reachable.evalCell_eq_depthExceeded_iff hreach
  have hcycle : threeLevels.Settled ⟨"Sheet1", ⟨1, 5⟩⟩ :=
    .inr (.inl (hcon.reachesCycle_iff.mp (by decide +kernel)))
  have hfails : (threeLevels.workbook.evalCell (Function.invoke .newYear) threeLevels.formulas 2
      ⟨"Sheet1", ⟨1, 4⟩⟩).isOk = false := by decide +kernel
  have hends : (threeLevels.workbook.evalCell (Function.invoke .newYear) threeLevels.formulas 3
      ⟨"Sheet1", ⟨1, 4⟩⟩).isOk = true := by decide +kernel
  have hlow : 2 < threeLevels.height ⟨"Sheet1", ⟨1, 4⟩⟩ := by
    rw [← hlimit .newYear]
    cases hr : threeLevels.workbook.evalCell (Function.invoke .newYear) threeLevels.formulas 2
      ⟨"Sheet1", ⟨1, 4⟩⟩ with
    | error err => rfl
    | ok v =>
      rw [hr] at hfails
      cases hfails
  have hhigh : ¬3 < threeLevels.height ⟨"Sheet1", ⟨1, 4⟩⟩ := by
    rw [← hlimit .newYear]
    intro hr
    rw [hr] at hends
    cases hends
  refine ⟨hreach, hheight.settled _ hcycle, fun ambient limit => ?_⟩
  rw [hlimit]
  omega

end Document

end Spreadsheet
