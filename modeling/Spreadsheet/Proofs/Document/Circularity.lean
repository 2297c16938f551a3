import Spreadsheet.Proofs.Document.Mentions
import Spreadsheet.Proofs.Function.Errors

/-!
# Which cells are circular

A cell that leads into a cycle of the formulas shows an error that says so. The main statement says
that no other cell shows it, unless the error was written into a cell as a raw value. Formulas that
refer to formulas in too long a chain have another error.
-/

namespace Spreadsheet.Document

open Formula

variable {ambient : Ambient} {doc : Document} {a b : QualifiedAddress} {v : Value}
  {err : CellError} {address : String} {sheet : Option String}

/-- No raw value is the error or contains it. -/
def Unmarked (doc : Document) (err : CellError) : Prop :=
  ∀ a c, doc.workbook.HasRecord a c → c.formula = none → ¬c.value.Shows err

namespace Consistent

/-- What the formula of a cell mentions leads into a cycle only if the cell does. -/
theorem reachesCycle_of_mentions (h : doc.Consistent) (hab : doc.Mentions a b)
    (hcycle : doc.workbook.reachesCycle a = false) : doc.workbook.reachesCycle b = false := by
  rw [Bool.eq_false_iff, Ne, h.reachesCycle_iff] at hcycle ⊢
  rintro ⟨c, hbc, hcc⟩
  exact hcycle ⟨c, .head hab hbc, hcc⟩

/-- Where no raw value shows an error, no record without a formula does. -/
theorem not_shows_record (h : doc.Consistent) (hraw : doc.Unmarked err)
    (hformula : (doc.workbook.record a).formula = none) :
    ¬(doc.workbook.record a).value.Shows err := by
  cases hc : doc.workbook.cell? a with
  | none =>
    rw [Workbook.record_of_cell?_none hc]
    rintro ⟨⟩
  | some c =>
    rw [Workbook.record_of_cell? hc] at hformula ⊢
    exact hraw a c ((Workbook.cell?_eq_some_iff h.names).mp hc) hformula

/-- A value that a cell has without an evaluation is no sign of a cycle, if the cell is off all
cycles. -/
theorem not_shows_of_content (h : doc.Consistent) (hraw : doc.Unmarked .circularReference)
    (hcycle : doc.workbook.reachesCycle a = false)
    (hcontent : doc.workbook.content doc.formulas a = .known v) :
    ¬v.Shows .circularReference := by
  rw [Workbook.content_eq, hcycle] at hcontent
  split at hcontent
  · obtain rfl := Content.known.inj hcontent
    rintro ⟨⟩
  · rw [if_neg Bool.false_ne_true, Workbook.contentOfRecord] at hcontent
    have hreads := h.reads a
    generalize doc.formulas[a]? = e? at hreads hcontent
    cases hreads with
    | formula text_eq _ error_eq =>
      rw [text_eq, error_eq] at hcontent
      cases hcontent
    | malformed text_eq _ error_eq =>
      rw [text_eq, error_eq] at hcontent
      obtain rfl := Content.known.inj hcontent
      rintro ⟨⟩
    | raw text_eq error_eq =>
      rw [text_eq, error_eq] at hcontent
      obtain rfl := Content.known.inj hcontent
      exact h.not_shows_record hraw text_eq

/-- A cell off all cycles shows no sign of a cycle, at whatever depth its evaluation ends. -/
theorem yields_evalCell (h : doc.Consistent) (hraw : doc.Unmarked .circularReference)
    (ambient : Ambient) (depth : Nat) (hcycle : doc.workbook.reachesCycle a = false) :
    Yields (fun v => ¬v.Shows .circularReference) True
      (doc.workbook.evalCell (Function.invoke ambient) doc.formulas depth a) := by
  induction depth generalizing a with
  | zero =>
    cases hc : doc.workbook.content doc.formulas a with
    | known v =>
      rw [Workbook.evalCell_of_known hc]
      exact h.not_shows_of_content hraw hcycle hc
    | formula e =>
      rw [Workbook.evalCell, hc]
      trivial
  | succ depth ih =>
    cases hc : doc.workbook.content doc.formulas a with
    | known v =>
      rw [Workbook.evalCell_of_known hc]
      exact h.not_shows_of_content hraw hcycle hc
    | formula e =>
      rw [Workbook.evalCell, hc]
      refine Expr.eval_yields (inherited_not_shows ambient rfl) e fun r hr => ih ?_
      have he := h.hasFormula_iff.mpr (h.formula_of_content hc)
      exact h.reachesCycle_of_mentions ⟨e, he, hr⟩ hcycle

/-- The value of a cell is the error of a cycle exactly if the test for cycles finds one. -/
theorem compute_eq_circularReference_iff (h : doc.Consistent)
    (hraw : doc.Unmarked .circularReference) (hsheet : doc.workbook.hasSheet a.sheet = true)
    (ambient : Ambient) :
    doc.compute ambient a = .error .circularReference ↔ doc.workbook.reachesCycle a = true := by
  constructor
  · intro hvalue
    by_contra hcycle
    have hyields := h.yields_evalCell hraw ambient doc.settings.maxDepth
      (Bool.eq_false_iff.mpr hcycle)
    unfold compute at hvalue
    cases hr : doc.workbook.evalCell (Function.invoke ambient) doc.formulas
        doc.settings.maxDepth a with
    | ok v =>
      rw [hr] at hyields hvalue
      obtain rfl : v = .error .circularReference := hvalue
      exact hyields .error
    | error err =>
      rw [hr] at hvalue
      cases hvalue
  · intro hcycle
    have hcontent : doc.workbook.content doc.formulas a = .known (.error .circularReference) := by
      rw [Workbook.content_eq, hsheet, hcycle]
      rfl
    exact compute_of_known hcontent

end Consistent

/-- What is read under a text is the value of the cell that the text names. -/
theorem read_of_resolve (ha : doc.resolve address sheet = .ok a) :
    doc.read ambient address sheet = doc.compute ambient a := by
  delta read
  rw [ha]

/-- In a document that calls lead to and in which nobody wrote the error of a cycle into a cell, a
cell of a sheet that exists has that error exactly if a path along the formulas leads from it to a
cell that depends on itself. -/
theorem Reachable.read_eq_circularReference_iff (h : doc.Reachable)
    (hraw : doc.Unmarked .circularReference) (ha : doc.resolve address sheet = .ok a)
    (ambient : Ambient) :
    doc.read ambient address sheet = .error .circularReference ↔
      ∃ b, Relation.ReflTransGen doc.Mentions a b ∧ Relation.TransGen doc.Mentions b b := by
  rw [← h.consistent.reachesCycle_iff, read_of_resolve ha]
  exact h.consistent.compute_eq_circularReference_iff hraw (hasSheet_of_resolve ha) ambient

/-- Raw values that are neither tables nor errors of cells show no error of a cell. -/
theorem unmarked_of_isComputed (he : err.isOfCell = true)
    (h : ∀ sheet ∈ doc.workbook.sheets, ∀ record ∈ sheet.records,
      record.2.formula = none → record.2.value.isComputed = true) : doc.Unmarked err := by
  rintro a c ⟨sheet, hsheet, -, hc⟩ hformula
  have hrecord : (a.cell, c) ∈ sheet.records :=
    Std.ExtTreeMap.mem_toList_iff_getElem?_eq_some.mpr hc
  exact Value.not_shows_of_isComputed he (h sheet hsheet (a.cell, c) hrecord hformula)

/-- A document without any depth in which a cycle goes through a range on a sheet that was added
last. A formula that catches errors reads the cycle, and another one reads a raw value. -/
def lateCycle : Document :=
  (Document.ofSettings { maxDepth := 0 }).run .newYear
    [ .write "A1" (.text "=SUM(Data!A1:A2)") none,
      .write "B1" (.text "=IFERROR(A1,\"none\")") none,
      .write "C1" (.text "=C2") none,
      .write "C2" (.boolean true) none,
      .addSheet "Data",
      .write "A2" (.text "=Sheet1!A1") (some "Data") ]

/-- The formula that catches errors shows that it leads into the cycle, and the formula that is not
followed shows no such error. -/
theorem read_eq_circularReference_lateCycle :
    lateCycle.Reachable ∧ lateCycle.Unmarked .circularReference ∧ ∀ ambient,
      lateCycle.read ambient "B1" none = .error .circularReference ∧
        lateCycle.read ambient "C1" none ≠ .error .circularReference := by
  have hreach : lateCycle.Reachable := (Reachable.start _).run _ _
  have hcon := hreach.consistent
  have hraw : lateCycle.Unmarked .circularReference :=
    unmarked_of_isComputed rfl (by decide +kernel)
  have hB : lateCycle.resolve "B1" none = .ok ⟨"Sheet1", ⟨1, 2⟩⟩ := by decide +kernel
  have hC : lateCycle.resolve "C1" none = .ok ⟨"Sheet1", ⟨1, 3⟩⟩ := by decide +kernel
  have hBA : lateCycle.Mentions ⟨"Sheet1", ⟨1, 2⟩⟩ ⟨"Sheet1", ⟨1, 1⟩⟩ :=
    hcon.mentions_iff.mpr (by decide +kernel)
  have hAD : lateCycle.Mentions ⟨"Sheet1", ⟨1, 1⟩⟩ ⟨"Data", ⟨2, 1⟩⟩ :=
    hcon.mentions_iff.mpr (by decide +kernel)
  have hDA : lateCycle.Mentions ⟨"Data", ⟨2, 1⟩⟩ ⟨"Sheet1", ⟨1, 1⟩⟩ :=
    hcon.mentions_iff.mpr (by decide +kernel)
  have hoff : lateCycle.workbook.reachesCycle ⟨"Sheet1", ⟨1, 3⟩⟩ = false := by decide +kernel
  refine ⟨hreach, hraw, fun ambient => ⟨?_, fun hvalue => ?_⟩⟩
  · exact (Reachable.read_eq_circularReference_iff hreach hraw hB ambient).mpr
      ⟨_, .single hBA, .tail (.single hAD) hDA⟩
  · have hcycle := (Reachable.read_eq_circularReference_iff hreach hraw hC ambient).mp hvalue
    exact Bool.false_ne_true (hoff.symm.trans (hcon.reachesCycle_iff.mpr hcycle))

end Spreadsheet.Document
