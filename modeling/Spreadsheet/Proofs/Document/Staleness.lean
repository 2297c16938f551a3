import Spreadsheet.Proofs.Document.Edit

/-!
# Stale values go unread

The values that are kept with formulas and errors may be out of date, and they stand where raw
values stand as well. The main statement says that no evaluation looks at them: workbooks that
differ in nothing else give every cell and every expression the same values, so that computing all
formulas anew changes no answer.
-/

namespace Spreadsheet

open Formula

/-- The record without the value that is kept with a formula or an error. -/
def Cell.uncached (c : Cell) : Cell :=
  if c.isFormula || c.error.isSome then { c with value := .empty } else c

/-- Records with the same texts, errors and edges differ at most in what they keep, if they have a
text or an error, or the same value. -/
theorem Cell.uncached_with_value {c : Cell} {v : Value}
    (h : c.formula = none → c.error = none → v = c.value) :
    { c with value := v }.uncached = c.uncached := by
  unfold uncached isFormula
  cases hformula : c.formula with
  | some text => rfl
  | none =>
    cases herror : c.error with
    | some e => rfl
    | none => rw [h hformula herror, ← hformula, ← herror]

namespace Workbook

variable {wb wb' : Workbook} {formulas : FormulaTable} {a b : QualifiedAddress}
  {call : String → List Value → Value}

/-- The workbook without the values that are kept with formulas and errors. -/
def uncached (wb : Workbook) : Workbook :=
  wb.mapRecords Cell.uncached

/-- The value of `a` is computed from that of `b`, which is `a` itself, or a cell that the formula
of `a` mentions, or a cell that the value of such a cell is computed from. -/
def Uses (wb : Workbook) (formulas : FormulaTable) (a b : QualifiedAddress) : Prop :=
  Relation.ReflTransGen
    (fun x y => ∃ e, wb.content formulas x = .formula e ∧ y ∈ e.mentions x.sheet) a b

/-- No formula that the value of a cell is computed from depends on the moment. -/
def Steady (wb : Workbook) (formulas : FormulaTable) (a : QualifiedAddress) : Prop :=
  ∀ b e, wb.Uses formulas a b → wb.content formulas b = .formula e → e.Steady

/-! ## What a cell has its value from -/

/-- What a record is evaluated from does not include the value that it keeps. -/
theorem contentOfRecord_uncached (formulas : FormulaTable) (a : QualifiedAddress) (c : Cell) :
    contentOfRecord formulas a c.uncached = contentOfRecord formulas a c := by
  unfold contentOfRecord Cell.uncached Cell.isFormula
  cases herror : c.error with
  | some e => simp
  | none =>
    cases hformula : c.formula with
    | some text => simp
    | none => simp [herror, hformula]

private theorem record_uncached (wb : Workbook) (a : QualifiedAddress) :
    wb.uncached.record a = (wb.record a).uncached := by
  rw [record, record, uncached, cell?_mapRecords]
  cases wb.cell? a <;> rfl

private theorem dependencies_uncached (c : Cell) : c.uncached.dependencies = c.dependencies := by
  unfold Cell.uncached
  split <;> rfl

private theorem hasSheet_uncached (wb : Workbook) (name : String) :
    wb.uncached.hasSheet name = wb.hasSheet name :=
  hasSheet_congr (sheetNames_mapRecords Cell.uncached wb) name

/-- The values that are kept with formulas and errors do not matter to what cells have their values
from. -/
theorem content_uncached (wb : Workbook) (formulas : FormulaTable) (a : QualifiedAddress) :
    wb.uncached.content formulas a = wb.content formulas a := by
  have hcycle : wb.uncached.reachesCycle a = wb.reachesCycle a := by
    refine reachesCycle_congr (S := Set.univ) (fun x _ => ?_) (fun _ _ _ _ => Set.mem_univ _)
      (Set.mem_univ a)
    rw [record_uncached, dependencies_uncached]
  rw [content_eq, content_eq, hasSheet_uncached, hcycle, record_uncached,
    contentOfRecord_uncached]

/-- The values that are kept with formulas and errors do not matter to the values of cells. -/
theorem evalCell_uncached (wb : Workbook) (formulas : FormulaTable)
    (call : String → List Value → Value) (depth : Nat) (a : QualifiedAddress) :
    wb.uncached.evalCell call formulas depth a = wb.evalCell call formulas depth a := by
  have hagree : AgreeOn Set.univ call call wb.uncached formulas wb formulas :=
    ⟨fun x _ => wb.content_uncached formulas x, fun _ _ _ _ _ _ => Set.mem_univ _,
      fun _ _ _ _ r _ => wb.hasSheet_uncached r.sheet, fun _ _ _ _ _ _ => rfl⟩
  exact hagree.evalCell_eq depth (Set.mem_univ a)

/-- What is computed from formulas that do not depend on the moment is the same at every moment. -/
theorem evalCell_eq_of_steady (h : wb.Steady formulas a) (ambient ambient' : Ambient)
    (depth : Nat) :
    wb.evalCell (Function.invoke ambient') formulas depth a =
      wb.evalCell (Function.invoke ambient) formulas depth a := by
  have hagree : AgreeOn {b | wb.Uses formulas a b} (Function.invoke ambient')
      (Function.invoke ambient) wb formulas wb formulas :=
    ⟨fun _ _ => rfl, fun x hx e he r hr => hx.tail ⟨e, he, hr⟩, fun _ _ _ _ _ _ => rfl,
      fun x hx e he name hname =>
        Function.invoke_eq_invoke (h x e hx he name hname) ambient' ambient⟩
  exact hagree.evalCell_eq depth .refl

/-! ## Two workbooks -/

/-- Workbooks that differ at most in the values kept with formulas and errors give a cell the same
value. -/
theorem evalCell_eq_of_uncached (h : wb'.uncached = wb.uncached) (hsteady : wb.Steady formulas a)
    (ambient ambient' : Ambient) (depth : Nat) :
    wb'.evalCell (Function.invoke ambient') formulas depth a =
      wb.evalCell (Function.invoke ambient) formulas depth a := by
  rw [← evalCell_uncached wb', h, evalCell_uncached]
  exact evalCell_eq_of_steady hsteady ambient ambient' depth

/-- Workbooks that differ at most in the values kept with formulas and errors give an expression the
same value. -/
theorem evalExpr_eq_of_uncached {sheet : String} {e : Expr} (h : wb'.uncached = wb.uncached)
    (he : e.Steady) (hsteady : ∀ a ∈ e.mentions sheet, wb.Steady formulas a)
    (ambient ambient' : Ambient) (depth : Nat) :
    wb'.evalExpr (Function.invoke ambient') formulas depth sheet e =
      wb.evalExpr (Function.invoke ambient) formulas depth sheet e := by
  refine Expr.eval_congr e ⟨rfl, fun a _ => ?_, fun a ha => ?_, fun name hname => ?_⟩
  · dsimp only
    rw [← hasSheet_uncached wb', h, hasSheet_uncached]
  · exact evalCell_eq_of_uncached h (hsteady a ha) ambient ambient' depth
  · exact Function.invoke_eq_invoke (he name hname) ambient' ambient

end Workbook

namespace Document

variable {ambient : Ambient} {doc : Document} {a : QualifiedAddress}

namespace Consistent

/-- The formulas that a value is computed from are among those that the cell uses. -/
theorem uses_of_content (h : doc.Consistent) {b : QualifiedAddress}
    (huses : doc.workbook.Uses doc.formulas a b) : doc.Uses a b := by
  refine Relation.ReflTransGen.mono (fun x y => ?_) a b huses
  rintro ⟨e, he, hy⟩
  rw [references_of_formula (h.formula_of_content he)]
  exact Expr.mem_references.mpr hy

/-- A cell whose value does not depend on the moment has such a value in the workbook, too. -/
theorem steady_workbook (h : doc.Consistent) (hsteady : doc.Steady a) :
    doc.workbook.Steady doc.formulas a :=
  fun b e huses he => hsteady b e (h.uses_of_content huses) (h.formula_of_content he)

/-- The cells that hold formulas have records. -/
theorem isSome_cell?_of_mem_formulaCells (h : doc.Consistent)
    (ha : a ∈ doc.workbook.formulaCells) : (doc.workbook.cell? a).isSome = true := by
  obtain ⟨sheet, hsheet, hcells⟩ := List.mem_flatMap.mp ha
  obtain ⟨cell, hcell, rfl⟩ := List.mem_map.mp hcells
  obtain ⟨⟨cell, c⟩, hrecord, rfl⟩ := List.mem_map.mp hcell
  have hc : sheet.cell? cell = some c :=
    Std.ExtTreeMap.mem_toList_iff_getElem?_eq_some.mp (List.mem_filter.mp hrecord).1
  rw [(Workbook.cell?_eq_some_iff h.names).mpr ⟨sheet, hsheet, rfl, hc⟩]
  rfl

/-- Computing all formulas anew changes nothing but the values that are kept with them. -/
theorem uncached_recalculate (h : doc.Consistent) (ambient : Ambient) :
    (doc.recalculate ambient).workbook.uncached = doc.workbook.uncached := by
  unfold recalculate
  obtain ⟨hnames, hindex⟩ := sheets_refreshAll ambient doc
    (doc.workbook.order (Std.ExtTreeSet.ofList doc.workbook.formulaCells))
  refine Workbook.eq_of_cell? ?_ ?_ hindex fun x => ?_
  · simpa [Workbook.uncached] using h.names
  · simpa [Workbook.uncached] using hnames
  · rw [Workbook.uncached, Workbook.uncached, Workbook.cell?_mapRecords, Workbook.cell?_mapRecords]
    refine Workbook.map_cell?_eq_of_record ?_ ?_
    · rw [Bool.eq_iff_iff, isSome_cell?_refreshAll]
      intro t ht
      exact h.isSome_cell?_of_mem_formulaCells (Workbook.mem_order_ofList_iff.mp ht)
    · rw [h.record_refreshAll]
      split_ifs with hx
      · exact Cell.uncached_with_value fun hformula _ => h.compute_of_raw hx.2 hformula
      · rfl

/-- Computing all formulas anew makes no difference to the value of a cell. -/
theorem compute_recalculate (h : doc.Consistent) (moment ambient ambient' : Ambient)
    (hsteady : doc.Steady a) :
    (doc.recalculate moment).compute ambient' a = doc.compute ambient a := by
  have hsettings : (doc.recalculate moment).settings = doc.settings := settings_refreshAll _ _ _
  have hformulas : (doc.recalculate moment).formulas = doc.formulas := formulas_refreshAll _ _ _
  rw [compute, compute, hsettings, hformulas, Workbook.evalCell_eq_of_uncached
    (h.uncached_recalculate moment) (h.steady_workbook hsteady) ambient ambient']

/-- Computing all formulas anew makes no difference to what is read. -/
theorem read_recalculate (h : doc.Consistent) (moment ambient ambient' : Ambient)
    {address : String} {sheet : Option String}
    (hsteady : ∀ a, doc.resolve address sheet = .ok a → doc.Steady a) :
    (doc.recalculate moment).read ambient' address sheet = doc.read ambient address sheet := by
  obtain ⟨hnames, hindex⟩ := sheets_refreshAll moment doc
    (doc.workbook.order (Std.ExtTreeSet.ofList doc.workbook.formulaCells))
  have hresolve : (doc.recalculate moment).resolve address sheet = doc.resolve address sheet :=
    resolve_congr hnames hindex address sheet
  unfold read
  rw [hresolve]
  cases ha : doc.resolve address sheet with
  | error _ => rfl
  | ok a => exact h.compute_recalculate moment ambient ambient' (hsteady a ha)

/-- Computing all formulas anew makes no difference to the value of a formula. -/
theorem evaluate_recalculate (h : doc.Consistent) (moment ambient ambient' : Ambient)
    {text : String} {sheet : Option String}
    (hsteady : ∀ e, Formula.read text = .formula e →
      e.Steady ∧ ∀ a ∈ e.mentions (doc.sheetOrActive sheet), doc.Steady a) :
    (doc.recalculate moment).evaluate ambient' text sheet = doc.evaluate ambient text sheet := by
  have hsettings : (doc.recalculate moment).settings = doc.settings := settings_refreshAll _ _ _
  have hformulas : (doc.recalculate moment).formulas = doc.formulas := formulas_refreshAll _ _ _
  obtain ⟨hnames, hindex⟩ := sheets_refreshAll moment doc
    (doc.workbook.order (Std.ExtTreeSet.ofList doc.workbook.formulaCells))
  have hsheet : (doc.recalculate moment).sheetOrActive sheet = doc.sheetOrActive sheet := by
    unfold sheetOrActive activeSheet
    rw [recalculate, Workbook.activeName?_congr hnames hindex]
  unfold evaluate
  cases hread : Formula.read text with
  | plain => rfl
  | malformed _ => rfl
  | formula e =>
    obtain ⟨he, hmentions⟩ := hsteady e hread
    dsimp only
    rw [hsettings, hformulas, hsheet, Workbook.evalExpr_eq_of_uncached
      (h.uncached_recalculate moment) he (fun a ha => h.steady_workbook (hmentions a ha))
      ambient ambient']

end Consistent

/-- No evaluation looks at the values that are kept with formulas and errors. Workbooks that differ
in nothing else give cells and expressions the same values, whatever formulas were read of their
texts; and in a document that calls lead to, reading a cell and evaluating a formula give the same
before and after all formulas are computed anew. -/
theorem reads_ignore_kept_values :
    (∀ wb wb' : Workbook, wb'.uncached = wb.uncached →
      ∀ (formulas : FormulaTable) (depth : Nat) (ambient ambient' : Ambient),
        (∀ a, wb.Steady formulas a →
          wb'.evalCell (Function.invoke ambient') formulas depth a =
            wb.evalCell (Function.invoke ambient) formulas depth a) ∧
        ∀ sheet e, e.Steady → (∀ a ∈ e.mentions sheet, wb.Steady formulas a) →
          wb'.evalExpr (Function.invoke ambient') formulas depth sheet e =
            wb.evalExpr (Function.invoke ambient) formulas depth sheet e) ∧
    ∀ doc : Document, doc.Reachable → ∀ moment ambient ambient' : Ambient,
      (∀ address sheet, (∀ a, doc.resolve address sheet = .ok a → doc.Steady a) →
        (doc.recalculate moment).read ambient' address sheet =
          doc.read ambient address sheet) ∧
      ∀ text sheet, (∀ e, Formula.read text = .formula e →
          e.Steady ∧ ∀ a ∈ e.mentions (doc.sheetOrActive sheet), doc.Steady a) →
        (doc.recalculate moment).evaluate ambient' text sheet =
          doc.evaluate ambient text sheet := by
  constructor
  · intro wb wb' h formulas depth ambient ambient'
    refine ⟨fun a hsteady => ?_, fun sheet e he hsteady => ?_⟩
    · exact Workbook.evalCell_eq_of_uncached h hsteady ambient ambient' depth
    · exact Workbook.evalExpr_eq_of_uncached h he hsteady ambient ambient' depth
  · intro doc hreach moment ambient ambient'
    have h := hreach.consistent
    refine ⟨fun address sheet hsteady => ?_, fun text sheet hsteady => ?_⟩
    · exact h.read_recalculate moment ambient ambient' hsteady
    · exact h.evaluate_recalculate moment ambient ambient' hsteady

/-- A document in which a write has left a stale value behind with the second of two formulas. -/
def staleChain : Document :=
  (Document.ofSettings {}).run .newYear
    [ .write "B1" (.text "=A1&\"x\"") none,
      .write "C1" (.text "=B1&\"y\"") none,
      .write "D1" (.text "=(") none,
      .write "A1" (.text "z") none ]

/-- The value that is kept with the second formula is not the one that computing all formulas anew
gives it, which makes no difference to evaluating its cell, reading it or using it in a formula. -/
theorem read_staleChain :
    staleChain.Reachable ∧
      ((staleChain.workbook.record ⟨"Sheet1", ⟨1, 3⟩⟩).value.toText,
        ((staleChain.recalculate .newYear).workbook.record ⟨"Sheet1", ⟨1, 3⟩⟩).value.toText) =
          ("xy", "zxy") ∧
      (∀ depth ambient, (staleChain.recalculate .newYear).workbook.evalCell
          (Function.invoke ambient) staleChain.formulas depth ⟨"Sheet1", ⟨1, 3⟩⟩ =
        staleChain.workbook.evalCell
          (Function.invoke ambient) staleChain.formulas depth ⟨"Sheet1", ⟨1, 3⟩⟩) ∧
      ∀ moment ambient ambient', (staleChain.recalculate moment).read ambient' "C1" none =
          staleChain.read ambient "C1" none ∧
        (staleChain.recalculate moment).evaluate ambient' "=CONCATENATE(C1:D1)" none =
          staleChain.evaluate ambient "=CONCATENATE(C1:D1)" none := by
  have hreach : staleChain.Reachable := (Reachable.start _).run _ _
  have hcon := hreach.consistent
  have hsteady : ∀ a, staleChain.Steady a := steady_of_forall (by decide +kernel)
  have hformula : (match Formula.read "=CONCATENATE(C1:D1)" with
      | .formula e => decide e.Steady
      | _ => true) = true := by decide +kernel
  obtain ⟨hworkbooks, hdocuments⟩ := reads_ignore_kept_values
  refine ⟨hreach, by decide +kernel, fun depth ambient => ?_, fun moment ambient ambient' => ?_⟩
  · obtain ⟨hcell, -⟩ := hworkbooks _ _ (hcon.uncached_recalculate .newYear) staleChain.formulas
      depth ambient ambient
    exact hcell _ (hcon.steady_workbook (hsteady _))
  · obtain ⟨hread, heval⟩ := hdocuments staleChain hreach moment ambient ambient'
    refine ⟨hread "C1" none fun a _ => hsteady a, heval _ none fun e he => ?_⟩
    rw [he] at hformula
    exact ⟨of_decide_eq_true hformula, fun a _ => hsteady a⟩

end Document

end Spreadsheet
