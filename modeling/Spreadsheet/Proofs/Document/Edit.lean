import Spreadsheet.Proofs.Document.Texts
import Spreadsheet.Proofs.Document.Visibility

/-!
# Changes of one cell

Writing or clearing a cell puts an entry into it, which does not depend on what the document holds.
The main statements say what the change does to records, texts and raw values, and that, where all
cells downstream are recalculated, it computes the formulas that use the cell and keeps the values
of the others.
-/

namespace Spreadsheet.Document

variable {ambient : Ambient} {doc doc' : Document} {a x : QualifiedAddress}
  {targets : List QualifiedAddress}

/-! ## Addresses with records -/

/-- Putting a record into a cell leaves records of the cell and of those that its formula reads. -/
theorem isSome_cell?_install (ha : doc.workbook.hasSheet a.sheet = true) {cells : AddressSet}
    {e? : Option Formula.Expr} {f : Cell → Cell} :
    ((doc.install a cells e? f).workbook.cell? x).isSome = true ↔
      x = a ∨ x ∈ doc.workbook.present cells ∨ (doc.workbook.cell? x).isSome = true := by
  have hlinked : (doc.workbook.link a cells).hasSheet a.sheet = true := by simpa using ha
  refine (Workbook.isSome_cell?_update hlinked f).trans ?_
  rw [Workbook.isSome_cell?_link ha]
  tauto

/-- Computing a cell anew adds no record. -/
theorem isSome_cell?_refresh (ha : (doc.workbook.cell? a).isSome = true) :
    ((doc.refresh ambient a).workbook.cell? x).isSome = true ↔
      (doc.workbook.cell? x).isSome = true := by
  obtain ⟨c, hc⟩ := Option.isSome_iff_exists.mp ha
  refine (Workbook.isSome_cell?_update (Workbook.hasSheet_of_cell? hc) _).trans ?_
  exact or_iff_right_of_imp fun hx => hx ▸ ha

/-- Computing cells anew that have records makes no record more. -/
theorem isSome_cell?_refreshAll
    (htargets : ∀ t ∈ targets, (doc.workbook.cell? t).isSome = true) :
    ((doc.refreshAll ambient targets).workbook.cell? x).isSome = true ↔
      (doc.workbook.cell? x).isSome = true := by
  induction targets generalizing doc with
  | nil => exact Iff.rfl
  | cons t targets ih =>
    have ht := htargets t List.mem_cons_self
    refine (ih fun u hu => ?_).trans (isSome_cell?_refresh ht)
    exact (isSome_cell?_refresh ht).mpr (htargets u (List.mem_cons_of_mem t hu))

namespace Consistent

/-- The cells that are affected by a change have records. -/
theorem isSome_cell?_of_mem_affected (h : doc.Consistent) (hx : x ∈ doc.affected a) :
    (doc.workbook.cell? x).isSome = true := by
  have hreader : ∀ y, x ∈ doc.workbook.readers y → (doc.workbook.cell? x).isSome = true := by
    intro y hy
    have hedge : y ∈ (doc.workbook.record x).dependencies :=
      (h.edges x y).mpr (Workbook.mem_readers.mp hy)
    refine Workbook.isSome_cell?_of_record_ne_blank fun hblank => ?_
    rw [hblank] at hedge
    exact Std.ExtTreeSet.not_mem_empty hedge
  cases hmode : doc.settings.mode with
  | directDependents =>
    unfold affected at hx
    rw [hmode] at hx
    exact hreader a hx
  | transitive =>
    have hdown := (Workbook.mem_downstream_iff.mp ((mem_affected_iff hmode).mp hx)).2
    obtain ⟨y, -, hy⟩ := Relation.TransGen.tail'_iff.mp hdown
    exact hreader y hy

/-- Who reads a cell mentions it. -/
theorem mem_references_of_mem_readers (h : doc.Consistent) (hx : x ∈ doc.workbook.readers a) :
    a ∈ doc.references x :=
  (h.mem_dependencies_iff.mp ((h.edges x a).mpr (Workbook.mem_readers.mp hx))).1

/-- Where all cells downstream are recalculated, the cells affected by a change are the others that
use the cell. -/
theorem mem_affected_iff_uses (h : doc.Consistent) (hmode : doc.settings.mode = .transitive)
    (ha : doc.workbook.hasSheet a.sheet = true) :
    x ∈ doc.affected a ↔ x ≠ a ∧ doc.Uses x a := by
  rw [mem_affected_iff hmode]
  constructor
  · intro hx
    obtain ⟨hne, hpath⟩ := Workbook.mem_downstream_iff.mp hx
    refine ⟨hne, ?_⟩
    clear hx hne
    induction hpath with
    | single hy => exact .single (h.mem_references_of_mem_readers hy)
    | tail _ hy ih => exact ih.head (h.mem_references_of_mem_readers hy)
  · rintro ⟨hne, huses⟩
    exact h.mem_downstream_of_uses ha huses hne

/-- A raw value is kept when cells are computed anew. -/
theorem value_refreshAll_of_raw (h : doc.Consistent)
    (hraw : (doc.workbook.record x).formula = none) :
    ((doc.refreshAll ambient targets).workbook.record x).value =
      (doc.workbook.record x).value := by
  rw [h.record_refreshAll]
  split_ifs with hx
  · exact h.compute_of_raw hx.2 hraw
  · rfl

end Consistent

/-! ## Entries -/

/-- What is put into a cell. -/
structure Entry where
  /-- The text of a formula, or of what should be one. -/
  text : Option String
  /-- The error that the cell shows. -/
  error : Option CellError
  /-- The formula that was read from the text. -/
  formula : Option Formula.Expr
  /-- The value that the cell has before it is computed; without one it keeps the one it had. -/
  value : Option Value
  /-- The text was read. -/
  reads : Cell.Reads { Cell.blank with formula := text, error := error } formula
  /-- Where there is no text, there is a value. -/
  raw : text = none → value.isSome = true

namespace Entry

/-- The cells that the formula of an entry mentions. -/
def cells (entry : Entry) (a : QualifiedAddress) : AddressSet :=
  (entry.formula.map (Formula.Expr.references a.sheet)).getD ∅

/-- The record with an entry instead of what was written into it. -/
def change (entry : Entry) (c : Cell) : Cell :=
  { c with
    value := entry.value.getD c.value
    formula := entry.text
    error := entry.error }

/-- A raw value as an entry. -/
def ofValue (v : Value) : Entry :=
  ⟨none, none, none, some v, .raw rfl rfl, fun _ => rfl⟩

end Entry

/-- The document with an entry in a cell, before any recalculation. -/
def put (doc : Document) (a : QualifiedAddress) (entry : Entry) : Document :=
  doc.install a (entry.cells a) entry.formula entry.change

/-- What is written into a cell is an entry that does not depend on the document. Unless it is the
text of a formula, it is the value of the entry. -/
theorem exists_store_eq_put (v : Value) :
    ∃ entry : Entry, (entry.text = none → entry.value = some v) ∧
      ∀ (doc : Document) (a : QualifiedAddress), doc.store a v = doc.put a entry := by
  cases v with
  | text text =>
    cases hread : Formula.read text with
    | formula e =>
      refine ⟨⟨some text, none, some e, none, .formula rfl hread rfl, by simp⟩, by simp,
        fun doc a => ?_⟩
      simp only [store, storeText, hread]
      rfl
    | malformed err =>
      refine ⟨⟨some text, some .malformedFormula, none, some (.error .malformedFormula),
        .malformed rfl hread rfl, by simp⟩, by simp, fun doc a => ?_⟩
      simp only [store, storeText, hread]
      rfl
    | plain =>
      refine ⟨.ofValue (.text text), fun _ => rfl, fun doc a => ?_⟩
      simp only [store, storeText, hread]
      rfl
  | _ => exact ⟨.ofValue _, fun _ => rfl, fun _ _ => rfl⟩

variable {entry entry' : Entry}

/-- Putting an entry into a cell keeps a document consistent. -/
theorem Consistent.put (h : doc.Consistent) (ha : doc.workbook.hasSheet a.sheet = true)
    (entry : Entry) : (doc.put a entry).Consistent :=
  h.install ha rfl (fun _ => ⟨rfl, rfl⟩) fun _ => entry.reads.congr rfl rfl

/-- The text of a cell after an entry was put into some cell. -/
theorem formula_record_put (ha : doc.workbook.hasSheet a.sheet = true) (x : QualifiedAddress) :
    ((doc.put a entry).workbook.record x).formula =
      if a = x then entry.text else (doc.workbook.record x).formula := by
  rw [Document.put, record_install ha]
  split_ifs with hx
  · rfl
  · have hwritten := Workbook.written_record_link ha (entry.cells a) x
    simp only [Cell.written, Prod.mk.injEq] at hwritten
    exact hwritten.2.1

/-- The value of another cell is kept when an entry is put into a cell. -/
theorem value_record_put (ha : doc.workbook.hasSheet a.sheet = true) (hx : a ≠ x) :
    ((doc.put a entry).workbook.record x).value = (doc.workbook.record x).value := by
  have hwritten : ((doc.put a entry).workbook.record x).written =
      (doc.workbook.record x).written := written_record_install ha hx
  simp only [Cell.written, Prod.mk.injEq] at hwritten
  exact hwritten.1

/-- A raw value is that of the entry, after it was put into the cell. -/
theorem value_record_put_of_raw (ha : doc.workbook.hasSheet a.sheet = true)
    (hraw : ((doc.put a entry).workbook.record x).formula = none) :
    ((doc.put a entry).workbook.record x).value =
      if a = x then entry.value.getD .empty else (doc.workbook.record x).value := by
  by_cases hx : a = x
  · subst hx
    rw [formula_record_put ha, if_pos rfl] at hraw
    obtain ⟨v, hv⟩ := Option.isSome_iff_exists.mp (entry.raw hraw)
    rw [if_pos rfl, Document.put, record_install ha, if_pos rfl, Entry.change, hv]
    rfl
  · rw [if_neg hx, value_record_put ha hx]

/-! ## Changes of one cell -/

/-- What a change does to a document: an entry is put into a cell, and, where all cells downstream
are recalculated, the formulas that use the cell get new values. -/
structure Edited (ambient : Ambient) (a : QualifiedAddress) (entry : Entry)
    (doc doc' : Document) : Prop where
  /-- Texts, trees and edges agree. -/
  consistent : doc'.Consistent
  /-- The settings are kept. -/
  settings : doc'.settings = doc.settings
  /-- The sheets are kept. -/
  sheetNames : doc'.workbook.sheetNames = doc.workbook.sheetNames
  /-- The active sheet is kept. -/
  activeIndex : doc'.workbook.activeIndex = doc.workbook.activeIndex
  /-- The cell and those that the entry mentions have records, besides those that had one. -/
  recorded : ∀ x, (doc'.workbook.cell? x).isSome = true ↔
    x = a ∨ x ∈ doc.workbook.present (entry.cells a) ∨ (doc.workbook.cell? x).isSome = true
  /-- The text of the cell is that of the entry. -/
  text : ∀ x, (doc'.workbook.record x).formula =
    if a = x then entry.text else (doc.workbook.record x).formula
  /-- The raw value of the cell is that of the entry. -/
  raw : ∀ x, (doc'.workbook.record x).formula = none → (doc'.workbook.record x).value =
    if a = x then entry.value.getD .empty else (doc.workbook.record x).value
  /-- A formula that uses the cell has a new value. -/
  computed : doc.settings.mode = .transitive → ∀ x, (doc'.workbook.record x).isFormula = true →
    doc'.Uses x a → (doc'.workbook.record x).value = doc'.compute ambient x
  /-- A formula that does not use the cell has its value from before. -/
  kept : doc.settings.mode = .transitive → ∀ x, (doc'.workbook.record x).isFormula = true →
    ¬doc'.Uses x a → (doc'.workbook.record x).value = (doc.workbook.record x).value

namespace Consistent

/-- After an entry was put into a cell, the right cells are computed anew. -/
theorem edited (h : doc.Consistent) (ha : doc.workbook.hasSheet a.sheet = true)
    (hrecorded : ∀ t ∈ targets, ((doc.put a entry).workbook.cell? t).isSome = true)
    (htargets : doc.settings.mode = .transitive → ∀ x,
      ((doc.put a entry).workbook.record x).isFormula = true →
        (x ∈ targets ↔ (doc.put a entry).Uses x a)) :
    Edited ambient a entry doc ((doc.put a entry).refreshAll ambient targets) := by
  have hput : (doc.put a entry).Consistent := h.put ha entry
  obtain ⟨hnames, hindex⟩ := sheets_refreshAll ambient (doc.put a entry) targets
  have hformula : ∀ x, (((doc.put a entry).refreshAll ambient targets).workbook.record x).formula =
      ((doc.put a entry).workbook.record x).formula := by
    intro x
    rw [hput.record_refreshAll]
    split_ifs <;> rfl
  have huses : ∀ x, ((doc.put a entry).refreshAll ambient targets).Uses x a ↔
      (doc.put a entry).Uses x a := fun x => uses_congr (formulas_refreshAll _ _ _)
  refine ⟨hput.refreshAll ambient targets, settings_refreshAll _ _ _, hnames.trans ?_,
    hindex.trans (Workbook.activeIndex_link _ _ _), fun x => ?_,
    fun x => (hformula x).trans (formula_record_put ha x), fun x hraw => ?_,
    fun hmode x hx hxa => ?_, fun hmode x hx hxa => ?_⟩
  · simp [Document.put, Document.install]
  · exact (isSome_cell?_refreshAll hrecorded).trans (isSome_cell?_install ha)
  · rw [hformula] at hraw
    rw [hput.value_refreshAll_of_raw hraw, value_record_put_of_raw ha hraw]
  · rw [Cell.isFormula, hformula] at hx
    have hmem : x ∈ targets := (htargets hmode x hx).mpr ((huses x).mp hxa)
    have hsheet := Workbook.hasSheet_of_record_ne_blank (Cell.ne_blank_of_isFormula hx)
    rw [hput.compute_refreshAll, hput.record_refreshAll, if_pos ⟨hmem, hsheet⟩]
  · rw [Cell.isFormula, hformula] at hx
    rw [huses] at hxa
    have hmem : x ∉ targets := fun hmem => hxa ((htargets hmode x hx).mp hmem)
    have hne : a ≠ x := by
      rintro rfl
      exact hxa .refl
    rw [hput.record_refreshAll, if_neg fun hboth => hmem hboth.1, value_record_put ha hne]

/-- Writing into a cell changes the document as the entry that is stored says. -/
theorem edited_writeAt (h : doc.Consistent) (ha : doc.workbook.hasSheet a.sheet = true)
    {v : Value} (hstore : doc.store a v = doc.put a entry) :
    Edited ambient a entry doc (doc.writeAt ambient a v) := by
  rw [writeAt_eq_refreshAll, hstore]
  have hput : (doc.put a entry).Consistent := h.put ha entry
  have hself : ((doc.put a entry).workbook.cell? a).isSome = true :=
    (isSome_cell?_install ha).mpr (Or.inl rfl)
  have hrefresh := hput.refresh ambient a
  refine h.edited ha (fun t ht => ?_) fun hmode x _ => ?_
  · rcases List.mem_cons.mp ht with rfl | ht
    · exact hself
    · exact (isSome_cell?_refresh hself).mp (hrefresh.isSome_cell?_of_mem_affected ht)
  · have hsheet : ((doc.put a entry).refresh ambient a).workbook.hasSheet a.sheet = true := by
      rw [hasSheet_refresh, Document.put, hasSheet_install, ha]
    have huses : ((doc.put a entry).refresh ambient a).Uses x a ↔ (doc.put a entry).Uses x a :=
      uses_congr (formulas_refresh ambient _ a)
    rw [List.mem_cons, hrefresh.mem_affected_iff_uses hmode hsheet, huses]
    by_cases hx : x = a
    · subst hx
      simp [Uses, Relation.ReflTransGen.refl]
    · simp [hx]

/-- Clearing a cell changes the document as the entry of an empty value says. -/
theorem edited_clearAt (h : doc.Consistent) (ha : doc.workbook.hasSheet a.sheet = true) :
    Edited ambient a (.ofValue .empty) doc (doc.clearAt ambient a) := by
  have hput : (doc.put a (.ofValue .empty)).Consistent := h.put ha _
  refine h.edited ha (fun t ht => hput.isSome_cell?_of_mem_affected ht) fun hmode x hx => ?_
  have hsheet : (doc.put a (.ofValue .empty)).workbook.hasSheet a.sheet = true := by
    rw [Document.put, hasSheet_install, ha]
  have hne : x ≠ a := by
    rintro rfl
    rw [Cell.isFormula, formula_record_put ha, if_pos rfl] at hx
    cases hx
  exact (hput.mem_affected_iff_uses hmode hsheet).trans (and_iff_right hne)

end Consistent

namespace Edited

/-- Documents before and after a change hold the same in the cells that do not use the cell. -/
theorem sameOn (hedit : Edited ambient a entry doc doc') (h : doc.Consistent) :
    SameOn {x | ¬doc'.Uses x a} doc doc' := by
  have hne : ∀ x ∈ {x | ¬doc'.Uses x a}, a ≠ x := by
    rintro x hx rfl
    exact hx .refl
  have htext : ∀ x ∈ {x | ¬doc'.Uses x a},
      (doc'.workbook.record x).formula = (doc.workbook.record x).formula := by
    intro x hx
    rw [hedit.text, if_neg (hne x hx)]
  refine .of_texts h hedit.consistent hedit.settings hedit.sheetNames (fun x hx r hr huses => ?_)
    htext fun x hx hraw => ?_
  · have hreads := (h.reads x).congr_right (hedit.consistent.reads x) (htext x hx)
    rw [references, ← hreads.1] at hr
    exact hx (huses.head hr)
  · rw [hedit.raw x ((htext x hx).trans hraw), if_neg (hne x hx)]

/-- The same cells of what an entry mentions exist before and after a change. -/
theorem present (hedit : Edited ambient a entry doc doc') (cells : AddressSet) :
    doc'.workbook.present cells = doc.workbook.present cells :=
  Workbook.present_congr (Workbook.hasSheet_congr hedit.sheetNames) cells

end Edited

end Spreadsheet.Document
