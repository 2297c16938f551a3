import Spreadsheet.Proofs.Document.Recalculation
import Spreadsheet.Proofs.Workbook.Results

/-!
# Documents with the same texts

The texts of a document determine its formulas, its errors and its edges. So two documents with the
same sheets, the same addresses with records, the same texts and the same raw values are the same,
as soon as they keep the same values with their formulas.
-/

namespace Spreadsheet

/-- Of a text one thing at most can be read, and the record shows an error accordingly. -/
theorem Cell.Reads.congr_right {c d : Cell} {e? e?' : Option Formula.Expr} (h : c.Reads e?)
    (h' : d.Reads e?') (hformula : d.formula = c.formula) : e?' = e? ∧ d.error = c.error := by
  cases h with
  | formula text_eq reading error_eq =>
    obtain ⟨rfl, herror⟩ := h'.of_formula (hformula.trans text_eq) reading
    exact ⟨rfl, herror.trans error_eq.symm⟩
  | malformed text_eq reading error_eq =>
    obtain ⟨rfl, herror⟩ := h'.of_malformed (hformula.trans text_eq) reading
    exact ⟨rfl, herror.trans error_eq.symm⟩
  | raw text_eq error_eq =>
    obtain ⟨rfl, herror⟩ := h'.of_raw (hformula.trans text_eq)
    exact ⟨rfl, herror.trans error_eq.symm⟩

namespace Document

variable {doc doc' : Document} {a x : QualifiedAddress} {S : Set QualifiedAddress}

/-- The document without the values that are kept with formulas. -/
def withoutResults (doc : Document) : Document :=
  { doc with workbook := doc.workbook.withoutResults }

/-- Documents with the same settings, sheets and formulas, in which the same is found everywhere,
are the same. -/
theorem eq_of_cell? (hn : doc.workbook.sheetNames.Nodup) (hsettings : doc'.settings = doc.settings)
    (hnames : doc'.workbook.sheetNames = doc.workbook.sheetNames)
    (hindex : doc'.workbook.activeIndex = doc.workbook.activeIndex)
    (hformulas : ∀ a : QualifiedAddress, doc'.formulas[a]? = doc.formulas[a]?)
    (hcell : ∀ a, doc'.workbook.cell? a = doc.workbook.cell? a) : doc' = doc := by
  have hworkbook : doc'.workbook = doc.workbook := Workbook.eq_of_cell? hn hnames hindex hcell
  have htable : doc'.formulas = doc.formulas := Std.ExtTreeMap.ext_getElem? hformulas
  obtain ⟨workbook, formulas, settings⟩ := doc'
  dsimp only at hworkbook htable hsettings
  subst hworkbook htable hsettings
  rfl

/-- Consistent documents with the same sheets hold the same in cells with the same texts and the
same raw values. -/
theorem SameOn.of_texts (h : doc.Consistent) (h' : doc'.Consistent)
    (hsettings : doc'.settings = doc.settings)
    (hnames : doc'.workbook.sheetNames = doc.workbook.sheetNames)
    (hclosed : ∀ x ∈ S, ∀ r ∈ doc.references x, r ∈ S)
    (htext : ∀ x ∈ S, (doc'.workbook.record x).formula = (doc.workbook.record x).formula)
    (hraw : ∀ x ∈ S, (doc.workbook.record x).formula = none →
      (doc'.workbook.record x).value = (doc.workbook.record x).value) : SameOn S doc doc' := by
  have hreads : ∀ x ∈ S, doc'.formulas[x]? = doc.formulas[x]? ∧
      (doc'.workbook.record x).error = (doc.workbook.record x).error :=
    fun x hx => (h.reads x).congr_right (h'.reads x) (htext x hx)
  have hsheet : ∀ name, doc'.workbook.hasSheet name = doc.workbook.hasSheet name :=
    Workbook.hasSheet_congr hnames
  refine ⟨hsettings, hclosed, fun x _ => hsheet x.sheet, fun x hx => (hreads x hx).1, htext,
    fun x hx => (hreads x hx).2, fun x hx => ?_, hraw⟩
  rw [h'.dependencies, h.dependencies, Workbook.present_congr hsheet, references, references,
    (hreads x hx).1]

namespace SameOn

private theorem references_eq (hs : SameOn S doc doc') (hx : x ∈ S) :
    doc'.references x = doc.references x := by
  rw [references, references, hs.formulas x hx]

/-- Documents hold the same on a set of cells either way round. -/
theorem symm (hs : SameOn S doc doc') : SameOn S doc' doc := by
  refine ⟨hs.settings.symm, fun x hx r hr => ?_, fun x hx => (hs.hasSheet x hx).symm,
    fun x hx => (hs.formulas x hx).symm, fun x hx => (hs.formula x hx).symm,
    fun x hx => (hs.error x hx).symm, fun x hx => (hs.dependencies x hx).symm, fun x hx hraw => ?_⟩
  · rw [hs.references_eq hx] at hr
    exact hs.closed x hx r hr
  · exact (hs.value x hx ((hs.formula x hx).symm.trans hraw)).symm

/-- A cell of the set uses the same cells in both documents. -/
theorem uses_iff (hs : SameOn S doc doc') (hx : x ∈ S) : doc'.Uses x a ↔ doc.Uses x a :=
  ⟨fun huses => (hs.symm.uses hx huses).2, fun huses => (hs.uses hx huses).2⟩

/-- A cell of the set has the same value in both documents, at whatever moments it is computed. -/
theorem compute_eq_of_steady (hs : SameOn S doc doc') (h : doc.Consistent) (hx : x ∈ S)
    (hsteady : doc'.Steady x) (ambient ambient' : Ambient) :
    doc'.compute ambient' x = doc.compute ambient x := by
  rw [hs.compute_eq h hx]
  exact h.compute_eq_of_steady (hs.steady hx hsteady) ambient ambient'

end SameOn

/-- Two documents are the same but for the values that are kept with formulas. -/
structure SameTexts (doc doc' : Document) : Prop where
  /-- The settings are the same. -/
  settings : doc'.settings = doc.settings
  /-- There are the same sheets. -/
  sheetNames : doc'.workbook.sheetNames = doc.workbook.sheetNames
  /-- The same sheet is active. -/
  activeIndex : doc'.workbook.activeIndex = doc.workbook.activeIndex
  /-- The same addresses have records. -/
  recorded : ∀ x, (doc'.workbook.cell? x).isSome = (doc.workbook.cell? x).isSome
  /-- The texts of the formulas are the same. -/
  text : ∀ x, (doc'.workbook.record x).formula = (doc.workbook.record x).formula
  /-- The raw values are the same. -/
  raw : ∀ x, (doc.workbook.record x).formula = none →
    (doc'.workbook.record x).value = (doc.workbook.record x).value

namespace SameTexts

/-- Documents with the same texts hold the same in all cells. -/
theorem sameOn (hs : SameTexts doc doc') (h : doc.Consistent) (h' : doc'.Consistent) :
    SameOn Set.univ doc doc' :=
  .of_texts h h' hs.settings hs.sheetNames (fun _ _ _ _ => Set.mem_univ _) (fun x _ => hs.text x)
    fun x _ => hs.raw x

/-- The edges on both sides are those of the formulas. -/
theorem edges_eq (hs : SameTexts doc doc') (h : doc.Consistent) (h' : doc'.Consistent)
    (x : QualifiedAddress) :
    (doc'.workbook.record x).dependencies = (doc.workbook.record x).dependencies ∧
      (doc'.workbook.record x).dependents = (doc.workbook.record x).dependents := by
  have hdependencies : ∀ y,
      (doc'.workbook.record y).dependencies = (doc.workbook.record y).dependencies :=
    fun y => (hs.sameOn h h').dependencies y (Set.mem_univ y)
  refine ⟨hdependencies x, Std.ExtTreeSet.ext_mem fun y => ?_⟩
  rw [← h'.edges y x, ← h.edges y x, hdependencies y]

/-- The records are the same but for the values that are kept with formulas. -/
theorem withoutResult_eq (hs : SameTexts doc doc') (h : doc.Consistent) (h' : doc'.Consistent)
    (x : QualifiedAddress) :
    (doc'.workbook.record x).withoutResult = (doc.workbook.record x).withoutResult := by
  obtain ⟨hdependencies, hdependents⟩ := hs.edges_eq h h' x
  have herror := (hs.sameOn h h').error x (Set.mem_univ x)
  exact Cell.withoutResult_congr (hs.text x) herror hdependencies hdependents (hs.raw x)

/-- Documents with the same texts are the same without the values that are kept with formulas. -/
theorem withoutResults_eq (hs : SameTexts doc doc') (h : doc.Consistent) (h' : doc'.Consistent) :
    doc'.withoutResults = doc.withoutResults := by
  refine eq_of_cell? ?_ hs.settings ?_ hs.activeIndex
    (fun x => (hs.sameOn h h').formulas x (Set.mem_univ x)) fun x => ?_
  · simpa [withoutResults] using h.names
  · simpa [withoutResults] using hs.sheetNames
  · simp only [withoutResults, Workbook.cell?_withoutResults]
    exact Workbook.map_cell?_eq_of_record (hs.recorded x) (hs.withoutResult_eq h h' x)

/-- What is found at an address is the same, if the same value is kept with its formula. -/
theorem cell?_eq (hs : SameTexts doc doc') (h : doc.Consistent) (h' : doc'.Consistent)
    (hvalue : (doc.workbook.record x).isFormula = true →
      (doc'.workbook.record x).value = (doc.workbook.record x).value) :
    doc'.workbook.cell? x = doc.workbook.cell? x := by
  have hall : (doc'.workbook.record x).value = (doc.workbook.record x).value := by
    cases htext : (doc.workbook.record x).formula with
    | none => exact hs.raw x htext
    | some text => exact hvalue (by rw [Cell.isFormula, htext]; rfl)
  have hrecord := Cell.eq_of_withoutResult (hs.withoutResult_eq h h' x) hall
  simpa using Workbook.map_cell?_eq_of_record (hs.recorded x) (congrArg id hrecord)

end SameTexts

end Document

end Spreadsheet
