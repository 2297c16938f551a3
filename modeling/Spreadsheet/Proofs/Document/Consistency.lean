import Spreadsheet.Proofs.Document.Session
import Spreadsheet.Proofs.Workbook.Dangling

/-!
# Texts, formulas and edges in step

A document keeps of every formula its text, the tree that was read from it, and the edges to the
cells that it reads. The main statements say that these three agree in every document that calls
can lead to, and that every edge is recorded on both of its sides.
-/

namespace Spreadsheet

/-- What a record holds goes with the tree that was read from its text. -/
inductive Cell.Reads (c : Cell) : Option Formula.Expr → Prop where
  /-- The text is a formula. -/
  | formula {text : String} {e : Formula.Expr} (text_eq : c.formula = some text)
      (reading : Formula.read text = .formula e) (error_eq : c.error = none) : Reads c (some e)
  /-- The text should be a formula and is not well formed. -/
  | malformed {text : String} {err : Formula.SyntaxError} (text_eq : c.formula = some text)
      (reading : Formula.read text = .malformed err)
      (error_eq : c.error = some .malformedFormula) : Reads c none
  /-- There is no text of a formula. -/
  | raw (text_eq : c.formula = none) (error_eq : c.error = none) : Reads c none

namespace Cell.Reads

variable {c d : Cell} {e? : Option Formula.Expr}

/-- Values and edges do not matter to what was read. -/
theorem congr (h : c.Reads e?) (hformula : d.formula = c.formula) (herror : d.error = c.error) :
    d.Reads e? := by
  cases h with
  | formula text_eq reading error_eq =>
    exact .formula (hformula.trans text_eq) reading (herror.trans error_eq)
  | malformed text_eq reading error_eq =>
    exact .malformed (hformula.trans text_eq) reading (herror.trans error_eq)
  | raw text_eq error_eq => exact .raw (hformula.trans text_eq) (herror.trans error_eq)

/-- A tree was read from the text of the record. -/
theorem exists_text {e : Formula.Expr} (h : c.Reads (some e)) :
    ∃ text, c.formula = some text ∧ Formula.read text = .formula e := by
  cases h with
  | formula text_eq reading => exact ⟨_, text_eq, reading⟩

/-- A record with a tree is not blank. -/
theorem ne_blank {e : Formula.Expr} (h : c.Reads (some e)) : c ≠ .blank := by
  obtain ⟨text, htext, -⟩ := h.exists_text
  rintro rfl
  cases htext

/-- A text that is a formula was read as that formula. -/
theorem of_formula (h : c.Reads e?) {text : String} {e : Formula.Expr}
    (htext : c.formula = some text) (hread : Formula.read text = .formula e) :
    e? = some e ∧ c.error = none := by
  cases h with
  | formula text_eq reading error_eq =>
    obtain rfl := Option.some.inj (htext.symm.trans text_eq)
    obtain rfl := Formula.Reading.formula.inj (hread.symm.trans reading)
    exact ⟨rfl, error_eq⟩
  | malformed text_eq reading =>
    obtain rfl := Option.some.inj (htext.symm.trans text_eq)
    cases hread.symm.trans reading
  | raw text_eq => cases htext.symm.trans text_eq

/-- A text that is not well formed was read as nothing, and the record says so. -/
theorem of_malformed (h : c.Reads e?) {text : String} {err : Formula.SyntaxError}
    (htext : c.formula = some text) (hread : Formula.read text = .malformed err) :
    e? = none ∧ c.error = some .malformedFormula := by
  cases h with
  | formula text_eq reading =>
    obtain rfl := Option.some.inj (htext.symm.trans text_eq)
    cases hread.symm.trans reading
  | malformed _ _ error_eq => exact ⟨rfl, error_eq⟩
  | raw text_eq => cases htext.symm.trans text_eq

/-- The text of a record is not a plain one. -/
theorem ne_plain (h : c.Reads e?) {text : String} (htext : c.formula = some text) :
    Formula.read text ≠ .plain := by
  intro hread
  cases h with
  | formula text_eq reading | malformed text_eq reading =>
    obtain rfl := Option.some.inj (htext.symm.trans text_eq)
    cases hread.symm.trans reading
  | raw text_eq => cases htext.symm.trans text_eq

/-- Where there is no text, nothing was read, and there is no error. -/
theorem of_raw (h : c.Reads e?) (htext : c.formula = none) : e? = none ∧ c.error = none := by
  cases h with
  | formula text_eq | malformed text_eq => cases htext.symm.trans text_eq
  | raw _ error_eq => exact ⟨rfl, error_eq⟩

end Cell.Reads

namespace Document

variable {ambient : Ambient} {doc doc' : Document} {a b : QualifiedAddress} {name : String}
  {cells : AddressSet} {e? : Option Formula.Expr} {f : Cell → Cell}

/-- Computing a cell anew keeps the settings. -/
@[simp] theorem settings_refresh (ambient : Ambient) (doc : Document) (a : QualifiedAddress) :
    (doc.refresh ambient a).settings = doc.settings := rfl

/-- Computing a cell anew keeps the formulas. -/
@[simp] theorem formulas_refresh (ambient : Ambient) (doc : Document) (a : QualifiedAddress) :
    (doc.refresh ambient a).formulas = doc.formulas := rfl

/-- Computing a cell anew keeps the sheets. -/
@[simp] theorem hasSheet_refresh (ambient : Ambient) (doc : Document) (a : QualifiedAddress)
    (name : String) : (doc.refresh ambient a).workbook.hasSheet name = doc.workbook.hasSheet name :=
  Workbook.hasSheet_update _ _ _ _

/-- Computing a cell anew changes its own value and nothing else. -/
theorem record_refresh (ambient : Ambient) (doc : Document) (a b : QualifiedAddress) :
    (doc.refresh ambient a).workbook.record b =
      if a = b ∧ doc.workbook.hasSheet a.sheet = true then
        { doc.workbook.record b with value := doc.compute ambient a }
      else doc.workbook.record b :=
  Workbook.record_update _ _ _ _

/-- Computing a cell anew leaves alone what is recorded of the cells besides their values. -/
theorem exists_record_refresh (ambient : Ambient) (doc : Document) (a b : QualifiedAddress) :
    ∃ v, (doc.refresh ambient a).workbook.record b =
      { doc.workbook.record b with value := v } := by
  rw [record_refresh]
  split_ifs
  · exact ⟨_, rfl⟩
  · exact ⟨(doc.workbook.record b).value, rfl⟩

/-- An empty document has no records. -/
theorem record_ofSettings (settings : Settings) (a : QualifiedAddress) :
    (Document.ofSettings settings).workbook.record a = .blank :=
  Workbook.record_ofName settings.defaultSheet a

/-- The cells that the formula of a cell mentions, on whatever sheets. -/
def references (doc : Document) (a : QualifiedAddress) : AddressSet :=
  (doc.formulas[a]?.map (Formula.Expr.references a.sheet)).getD ∅

/-- The cells that are mentioned are those that the formula refers to. -/
theorem references_of_formula {e : Formula.Expr} (he : doc.formulas[a]? = some e) :
    doc.references a = e.references a.sheet := by
  simp [references, he]

/-- Without a formula there are no edges. -/
theorem present_references_of_none (he : doc.formulas[a]? = none) :
    doc.workbook.present (doc.references a) = ∅ := by
  rw [references, he]
  exact doc.workbook.present_empty

/-- The texts, the trees and the edges of a document agree. -/
structure Consistent (doc : Document) : Prop where
  /-- No two sheets share a name. -/
  names : doc.workbook.sheetNames.Nodup
  /-- Every edge is recorded on both sides. -/
  edges : doc.workbook.EdgesInStep
  /-- Every text was read. -/
  reads : ∀ a, (doc.workbook.record a).Reads doc.formulas[a]?
  /-- The edges are those of the formulas, as far as the sheets exist. -/
  dependencies : ∀ a,
    (doc.workbook.record a).dependencies = doc.workbook.present (doc.references a)

namespace Consistent

/-- A formula was read from a cell of a sheet that exists. -/
theorem hasSheet_of_formula (h : doc.Consistent) {e : Formula.Expr}
    (he : doc.formulas[a]? = some e) : doc.workbook.hasSheet a.sheet = true :=
  Workbook.hasSheet_of_record_ne_blank (he ▸ h.reads a).ne_blank

/-- The dependencies are the cells on existing sheets that the formula mentions. -/
theorem mem_dependencies_iff (h : doc.Consistent) :
    b ∈ (doc.workbook.record a).dependencies ↔
      b ∈ doc.references a ∧ doc.workbook.hasSheet b.sheet = true := by
  rw [h.dependencies, Workbook.mem_present]

/-- An empty document is consistent. -/
theorem ofSettings (settings : Settings) : (Document.ofSettings settings).Consistent := by
  have hformulas : ∀ a : QualifiedAddress, (Document.ofSettings settings).formulas[a]? = none :=
    fun a => Std.ExtTreeMap.getElem?_empty
  refine ⟨List.pairwise_singleton _ _, .ofName settings.defaultSheet, fun a => ?_, fun a => ?_⟩
  · rw [record_ofSettings, hformulas]
    exact .raw rfl rfl
  · rw [record_ofSettings, present_references_of_none (hformulas a)]
    rfl

/-- Values, and which sheet is active, do not matter to whether a document is consistent. -/
theorem of_record (h : doc.Consistent) (hformulas : doc'.formulas = doc.formulas)
    (hnames : doc'.workbook.sheetNames = doc.workbook.sheetNames)
    (hrecord : ∀ a, ∃ v, doc'.workbook.record a = { doc.workbook.record a with value := v }) :
    doc'.Consistent := by
  have hsheet : ∀ name, doc'.workbook.hasSheet name = doc.workbook.hasSheet name :=
    Workbook.hasSheet_congr hnames
  refine ⟨hnames ▸ h.names, h.edges.of_record fun a => ?_, fun a => ?_, fun a => ?_⟩
  · obtain ⟨v, hv⟩ := hrecord a
    rw [hv]
    exact ⟨rfl, rfl⟩
  · obtain ⟨v, hv⟩ := hrecord a
    rw [hv, hformulas]
    exact (h.reads a).congr rfl rfl
  · obtain ⟨v, hv⟩ := hrecord a
    rw [hv, Workbook.present_congr hsheet, references, hformulas]
    exact h.dependencies a

end Consistent

/-! ## Writing a cell -/

/-- A cell's formula after another one was installed. -/
theorem formulas_install (doc : Document) (a : QualifiedAddress) (cells : AddressSet)
    (e? : Option Formula.Expr) (f : Cell → Cell) (b : QualifiedAddress) :
    (doc.install a cells e? f).formulas[b]? = if a = b then e? else doc.formulas[b]? := by
  cases e? with
  | none => simp [Document.install, Std.ExtTreeMap.getElem?_erase]
  | some e =>
    simp only [Document.install, Std.ExtTreeMap.getElem?_insert, Std.LawfulEqOrd.compare_eq_iff_eq]

/-- Installing a record keeps the settings. -/
@[simp] theorem settings_install (doc : Document) (a : QualifiedAddress) (cells : AddressSet)
    (e? : Option Formula.Expr) (f : Cell → Cell) :
    (doc.install a cells e? f).settings = doc.settings := rfl

/-- Installing a record keeps the sheets. -/
@[simp] theorem hasSheet_install (doc : Document) (a : QualifiedAddress) (cells : AddressSet)
    (e? : Option Formula.Expr) (f : Cell → Cell) (name : String) :
    (doc.install a cells e? f).workbook.hasSheet name = doc.workbook.hasSheet name := by
  simp [Document.install]

/-- A record is installed on top of the new edges. -/
theorem record_install (ha : doc.workbook.hasSheet a.sheet = true) (b : QualifiedAddress) :
    (doc.install a cells e? f).workbook.record b =
      if a = b then f ((doc.workbook.link a cells).record b)
      else (doc.workbook.link a cells).record b :=
  Workbook.record_update_of_hasSheet (by simpa using ha) b f

/-- Installing a record leaves alone what was written into the other cells. -/
theorem written_record_install (ha : doc.workbook.hasSheet a.sheet = true) (hb : a ≠ b) :
    ((doc.install a cells e? f).workbook.record b).written =
      (doc.workbook.record b).written := by
  rw [record_install ha, if_neg hb]
  exact Workbook.written_record_link ha cells b

/-- Installing a record leaves alone what the other cells read. -/
theorem dependencies_record_install (ha : doc.workbook.hasSheet a.sheet = true) (hb : a ≠ b) :
    ((doc.install a cells e? f).workbook.record b).dependencies =
      (doc.workbook.record b).dependencies := by
  rw [record_install ha, if_neg hb, Workbook.dependencies_record_link ha, if_neg hb]

namespace Consistent

/-- A new record of a cell goes with its formula and its edges. -/
theorem install (h : doc.Consistent) (ha : doc.workbook.hasSheet a.sheet = true)
    (hcells : cells = (e?.map (Formula.Expr.references a.sheet)).getD ∅)
    (hedges : ∀ c, (f c).dependencies = c.dependencies ∧ (f c).dependents = c.dependents)
    (hreads : ∀ c, (f c).Reads e?) : (doc.install a cells e? f).Consistent := by
  refine ⟨?_, ?_, fun b => ?_, fun b => ?_⟩
  · simpa [Document.install] using h.names
  · refine (h.edges.link ha cells).of_record fun b => ?_
    rw [record_install ha]
    split_ifs
    · exact hedges _
    · exact ⟨rfl, rfl⟩
  · rw [formulas_install]
    split_ifs with hb
    · rw [record_install ha, if_pos hb]
      exact hreads _
    · have hw : ((doc.install a cells e? f).workbook.record b).written =
          (doc.workbook.record b).written := written_record_install ha hb
      simp only [Cell.written, Prod.mk.injEq] at hw
      exact (h.reads b).congr hw.2.1 hw.2.2
  · rw [Workbook.present_congr (hasSheet_install doc a cells e? f), references, formulas_install]
    split_ifs with hb
    · subst hb
      rw [record_install ha, if_pos rfl, (hedges _).1, Workbook.dependencies_record_link ha,
        if_pos rfl, hcells]
    · rw [dependencies_record_install ha hb]
      exact h.dependencies b

/-- Storing a raw value keeps a document consistent. -/
theorem storeValue (h : doc.Consistent) (ha : doc.workbook.hasSheet a.sheet = true) (v : Value) :
    (doc.storeValue a v).Consistent :=
  h.install ha rfl (fun _ => ⟨rfl, rfl⟩) fun _ => .raw rfl rfl

/-- Storing a text keeps a document consistent, whatever is read of it. -/
theorem storeText (h : doc.Consistent) (ha : doc.workbook.hasSheet a.sheet = true)
    (text : String) : (doc.storeText a text).Consistent := by
  unfold Document.storeText
  split
  · next e he => exact h.install ha rfl (fun _ => ⟨rfl, rfl⟩) fun _ => .formula rfl he rfl
  · next err he => exact h.install ha rfl (fun _ => ⟨rfl, rfl⟩) fun _ => .malformed rfl he rfl
  · exact h.storeValue ha _

/-- Storing what is written keeps a document consistent. -/
theorem store (h : doc.Consistent) (ha : doc.workbook.hasSheet a.sheet = true) (v : Value) :
    (doc.store a v).Consistent := by
  unfold Document.store
  split
  · exact h.storeText ha _
  · exact h.storeValue ha _

/-! ## Recalculation -/

/-- Computing a cell anew keeps a document consistent. -/
theorem refresh (h : doc.Consistent) (ambient : Ambient) (a : QualifiedAddress) :
    (doc.refresh ambient a).Consistent :=
  h.of_record rfl (Workbook.sheetNames_update _ _ _) (exists_record_refresh ambient doc a)

/-- Computing cells anew keeps a document consistent. -/
theorem refreshAll (h : doc.Consistent) (ambient : Ambient) (cells : List QualifiedAddress) :
    (doc.refreshAll ambient cells).Consistent := by
  induction cells generalizing doc with
  | nil => exact h
  | cons a cells ih => exact ih (h.refresh ambient a)

end Consistent

/-! ## Adding a sheet -/

/-- A formula that is linked to a new sheet is linked to the cells that it mentions. -/
theorem mem_readersOfSheet {p : QualifiedAddress × AddressSet} :
    p ∈ doc.readersOfSheet name ↔
      p.2 = doc.references p.1 ∧ doc.formulas[p.1]?.isSome = true ∧ ∃ r ∈ p.2, r.sheet = name := by
  obtain ⟨a, cells⟩ := p
  have hany : (cells.toList.any fun target => target.sheet == name) = true ↔
      ∃ r ∈ cells, r.sheet = name := by
    simp
  rw [readersOfSheet, List.mem_filter, List.mem_map, hany, ← and_assoc]
  refine and_congr_left fun _ => ⟨?_, ?_⟩
  · rintro ⟨⟨b, e⟩, hb, heq⟩
    obtain ⟨rfl, rfl⟩ := Prod.mk.inj heq
    have he : doc.formulas[b]? = some e := Std.ExtTreeMap.mem_toList_iff_getElem?_eq_some.mp hb
    exact ⟨(references_of_formula he).symm, by simp [he]⟩
  · rintro ⟨hcells, hsome⟩
    obtain ⟨e, he⟩ := Option.isSome_iff_exists.mp hsome
    have heq : e.references a.sheet = cells := (references_of_formula he).symm.trans hcells.symm
    exact ⟨(a, e), Std.ExtTreeMap.mem_toList_iff_getElem?_eq_some.mpr he, congrArg _ heq⟩

/-- The formulas that are linked to a new sheet are those that mention a cell of it. -/
theorem mem_map_readersOfSheet :
    a ∈ (doc.readersOfSheet name).map Prod.fst ↔ ∃ r ∈ doc.references a, r.sheet = name := by
  constructor
  · intro h
    obtain ⟨p, hp, rfl⟩ := List.mem_map.mp h
    obtain ⟨hcells, -, hr⟩ := mem_readersOfSheet.mp hp
    exact hcells ▸ hr
  · intro h
    obtain ⟨r, hr, -⟩ := id h
    refine List.mem_map.mpr ⟨(a, doc.references a), mem_readersOfSheet.mpr ⟨rfl, ?_, h⟩, rfl⟩
    cases he : doc.formulas[a]? with
    | some e => rfl
    | none => simp [references, he] at hr

namespace Consistent

/-- The sheets of the formulas that are linked exist. -/
theorem hasSheet_of_mem_readersOfSheet (h : doc.Consistent) :
    ∀ p ∈ doc.readersOfSheet name, (doc.workbook.extend name).hasSheet p.1.sheet = true := by
  intro p hp
  obtain ⟨e, he⟩ := Option.isSome_iff_exists.mp (mem_readersOfSheet.mp hp).2.1
  exact Workbook.hasSheet_extend.mpr (Or.inl (h.hasSheet_of_formula he))

/-- A new sheet with its edges keeps a document consistent. -/
theorem linked (h : doc.Consistent) (hname : doc.workbook.hasSheet name = false) :
    (doc.linked name).Consistent := by
  have hsheets : ∀ p ∈ doc.readersOfSheet name,
      (doc.workbook.extend name).hasSheet p.1.sheet = true := h.hasSheet_of_mem_readersOfSheet
  have hedges : (doc.workbook.extend name).EdgesInStep :=
    h.edges.of_record fun a => by rw [Workbook.record_extend]; exact ⟨rfl, rfl⟩
  refine ⟨?_, hedges.linkAll hsheets, fun a => ?_, fun a => ?_⟩
  · rw [Document.linked, Workbook.sheetNames_linkAll, Workbook.sheetNames_extend]
    have hnot : name ∉ doc.workbook.sheetNames := fun hmem => by
      rw [Workbook.hasSheet_iff.mpr hmem] at hname
      cases hname
    exact List.nodup_append.mpr ⟨h.names, List.pairwise_singleton _ _, by
      rintro x hx y hy rfl
      exact hnot (List.mem_singleton.mp hy ▸ hx)⟩
  · have hw := Workbook.written_record_linkAll hsheets a
    simp only [Cell.written, Prod.mk.injEq, Workbook.record_extend] at hw
    exact (h.reads a).congr hw.2.1 hw.2.2
  · have hd := Workbook.dependencies_record_linkAll hsheets
      (fun p hp => (mem_readersOfSheet.mp hp).1) a
    refine hd.trans ?_
    split_ifs with hmem
    · exact (Workbook.present_congr (Workbook.hasSheet_linkAll _ _) _).symm
    -- A formula that mentions no cell of the new sheet keeps its edges.
    · have hother : ∀ r ∈ doc.references a, r.sheet ≠ name := fun r hr he =>
        hmem (mem_map_readersOfSheet.mpr ⟨r, hr, he⟩)
      rw [Workbook.record_extend, h.dependencies, ← Workbook.present_extend hother]
      exact (Workbook.present_congr (Workbook.hasSheet_linkAll _ _) _).symm

/-! ## Calls -/

/-- Computing what a cell affects keeps a document consistent. -/
theorem propagate (h : doc.Consistent) (ambient : Ambient) (a : QualifiedAddress) :
    (doc.propagate ambient a).Consistent :=
  h.refreshAll ambient _

/-- Choosing the active sheet keeps a document consistent. -/
theorem activate (h : doc.Consistent) (hd : doc.activate? name = some doc') : doc'.Consistent := by
  obtain ⟨wb, hwb, rfl⟩ := Option.map_eq_some_iff.mp hd
  obtain ⟨index, -, rfl⟩ := Option.map_eq_some_iff.mp hwb
  exact h.of_record rfl rfl fun a => ⟨(doc.workbook.record a).value, rfl⟩

/-- Every call that succeeds keeps a document consistent. -/
theorem attempt (h : doc.Consistent) {action : Action}
    (hd : doc.attempt? ambient action = some doc') : doc'.Consistent := by
  cases action with
  | addSheet name =>
    obtain ⟨hname, rfl⟩ := addSheet_eq_ok_iff.mp (toOption_eq_some_iff.mp hd)
    exact (h.linked hname).refreshAll ambient _
  | activate name => exact h.activate hd
  | write address v sheet =>
    obtain ⟨a, ha, rfl⟩ := write_eq_ok_iff.mp (toOption_eq_some_iff.mp hd)
    exact ((h.store (hasSheet_of_resolve ha) v).refresh ambient a).propagate ambient a
  | clear address sheet =>
    obtain ⟨a, ha, rfl⟩ := clear_eq_ok_iff.mp (toOption_eq_some_iff.mp hd)
    exact (h.storeValue (hasSheet_of_resolve ha) .empty).propagate ambient a
  | recalculate =>
    obtain rfl := Option.some.inj hd
    exact h.refreshAll ambient _

/-- Every call keeps a document consistent. -/
theorem perform (h : doc.Consistent) (ambient : Ambient) (action : Action) :
    (doc.perform ambient action).Consistent := by
  unfold Document.perform
  cases hd : doc.attempt? ambient action with
  | none => exact h
  | some doc' => exact h.attempt hd

end Consistent

/-- Whatever calls lead to a document, its texts, trees and edges agree. -/
theorem Reachable.consistent (h : doc.Reachable) : doc.Consistent := by
  induction h with
  | start settings => exact .ofSettings settings
  | step _ ambient action ih => exact ih.perform ambient action

/-! ## What every document keeps -/

namespace Consistent

/-- What a sheet records for an address is its record. -/
theorem record_eq (h : doc.Consistent) {c : Cell} (hc : doc.workbook.HasRecord a c) :
    doc.workbook.record a = c :=
  Workbook.record_of_cell? ((Workbook.cell?_eq_some_iff h.names).mpr hc)

/-- The dependencies that some record of an address has. -/
theorem exists_mem_dependencies_iff (h : doc.Consistent) :
    (∃ c, doc.workbook.HasRecord a c ∧ b ∈ c.dependencies) ↔
      b ∈ (doc.workbook.record a).dependencies := by
  rw [← Workbook.dependenciesOf_eq, Workbook.mem_dependenciesOf_iff]
  simp only [Workbook.cell?_eq_some_iff h.names]

/-- The readers that some record of an address has. -/
theorem exists_mem_dependents_iff (h : doc.Consistent) :
    (∃ c, doc.workbook.HasRecord b c ∧ a ∈ c.dependents) ↔
      a ∈ (doc.workbook.record b).dependents := by
  rw [← Workbook.dependentsOf_eq, Workbook.mem_dependentsOf_iff]
  simp only [Workbook.cell?_eq_some_iff h.names]

end Consistent

/-- Whatever calls lead to a document, a cell is among the dependencies in a record exactly if it
has a record itself, on a sheet that exists, with the reader among its dependents. -/
theorem Reachable.mem_dependencies_iff_mem_dependents (h : doc.Reachable)
    (a b : QualifiedAddress) :
    (∃ c, doc.workbook.HasRecord a c ∧ b ∈ c.dependencies) ↔
      ∃ d, doc.workbook.HasRecord b d ∧ a ∈ d.dependents := by
  rw [h.consistent.exists_mem_dependencies_iff, h.consistent.exists_mem_dependents_iff]
  exact h.consistent.edges a b

/-- A document in which a formula reads itself and a sheet that is added later, and in which another
formula that reads the first is overwritten by a text that is not well formed. -/
def lateSheet : Document :=
  (Document.ofSettings {}).run .newYear
    [ .write "A1" (.text "=Data!B2+A1") none,
      .write "A2" (.text "=A1") none,
      .addSheet "Data",
      .write "A2" (.text "=A1+") none ]

private theorem reachable_lateSheet : lateSheet.Reachable :=
  (Reachable.start {}).run _ _

/-- The cell on the sheet that was added later has a record with its reader. -/
theorem lateSheet_dependents :
    lateSheet.Reachable ∧ ∃ d, lateSheet.workbook.HasRecord ⟨"Data", ⟨2, 2⟩⟩ d ∧
      ⟨"Sheet1", ⟨1, 1⟩⟩ ∈ d.dependents := by
  refine ⟨reachable_lateSheet, (Reachable.mem_dependencies_iff_mem_dependents reachable_lateSheet
    ⟨"Sheet1", ⟨1, 1⟩⟩ ⟨"Data", ⟨2, 2⟩⟩).mp ?_⟩
  rw [reachable_lateSheet.consistent.exists_mem_dependencies_iff]
  decide +kernel

/-- Whatever calls lead to a document, the trees that it keeps are those of the texts in its
records, a record has an error exactly if its text is not well formed, and its dependencies are the
cells that its formula mentions on the sheets that exist. -/
theorem Reachable.records_match_formulas (h : doc.Reachable) :
    (∀ sheet ∈ doc.workbook.sheets, ∀ cell c, sheet.cell? cell = some c →
      (∀ text e, c.formula = some text → Formula.read text = .formula e →
        doc.formulas[(⟨sheet.name, cell⟩ : QualifiedAddress)]? = some e ∧ c.error = none ∧
          ∀ r, r ∈ c.dependencies ↔
            r ∈ e.references sheet.name ∧ doc.workbook.hasSheet r.sheet = true) ∧
      (∀ text err, c.formula = some text → Formula.read text = .malformed err →
        c.error = some .malformedFormula ∧ c.dependencies = ∅ ∧
          doc.formulas[(⟨sheet.name, cell⟩ : QualifiedAddress)]? = none) ∧
      (∀ text, c.formula = some text → Formula.read text ≠ .plain) ∧
      (c.formula = none → c.error = none ∧ c.dependencies = ∅ ∧
        doc.formulas[(⟨sheet.name, cell⟩ : QualifiedAddress)]? = none)) ∧
    ∀ a e, doc.formulas[a]? = some e → ∃ c text, doc.workbook.HasRecord a c ∧
      c.formula = some text ∧ Formula.read text = .formula e := by
  have hcon := h.consistent
  refine ⟨fun sheet hsheet cell c hc => ?_, fun a e he => ?_⟩
  · have hrecord := hcon.record_eq (a := ⟨sheet.name, cell⟩) ⟨sheet, hsheet, rfl, hc⟩
    have hreads := hcon.reads ⟨sheet.name, cell⟩
    have hdeps := hcon.dependencies ⟨sheet.name, cell⟩
    rw [hrecord] at hreads hdeps
    refine ⟨fun text e htext hread => ?_, fun text err htext hread => ?_,
      fun text htext => hreads.ne_plain htext, fun htext => ?_⟩
    · obtain ⟨he, herror⟩ := hreads.of_formula htext hread
      refine ⟨he, herror, fun r => ?_⟩
      rw [hdeps, references_of_formula he, Workbook.mem_present]
    · obtain ⟨he, herror⟩ := hreads.of_malformed htext hread
      exact ⟨herror, hdeps.trans (present_references_of_none he), he⟩
    · obtain ⟨he, herror⟩ := hreads.of_raw htext
      exact ⟨herror, hdeps.trans (present_references_of_none he), he⟩
  · have hreads := hcon.reads a
    rw [he] at hreads
    obtain ⟨c, hc⟩ := Workbook.exists_cell?_of_record_ne_blank hreads.ne_blank
    obtain ⟨text, htext, hread⟩ := hreads.exists_text
    rw [Workbook.record_of_cell? hc] at htext
    exact ⟨c, text, (Workbook.cell?_eq_some_iff hcon.names).mp hc, htext, hread⟩

/-- The formula that mentions a sheet that was added later is kept as it was read, and its edges are
those to the cells of both sheets. -/
theorem lateSheet_formula :
    lateSheet.Reachable ∧ ∃ c text e, lateSheet.workbook.HasRecord ⟨"Sheet1", ⟨1, 1⟩⟩ c ∧
      c.formula = some text ∧ Formula.read text = .formula e ∧ c.error = none ∧
        ∀ r, r ∈ c.dependencies ↔
          r ∈ e.references "Sheet1" ∧ lateSheet.workbook.hasSheet r.sheet = true := by
  obtain ⟨hrecords, hformulas⟩ := Reachable.records_match_formulas reachable_lateSheet
  have hsome : lateSheet.formulas[(⟨"Sheet1", ⟨1, 1⟩⟩ : QualifiedAddress)]?.isSome = true := by
    decide +kernel
  obtain ⟨e, he⟩ := Option.isSome_iff_exists.mp hsome
  obtain ⟨c, text, ⟨sheet, hsheet, hname, hc⟩, htext, hread⟩ := hformulas _ e he
  obtain ⟨-, herror, hdeps⟩ := (hrecords sheet hsheet ⟨1, 1⟩ c hc).1 text e htext hread
  refine ⟨reachable_lateSheet, c, text, e, ⟨sheet, hsheet, hname, hc⟩, htext, hread, herror, ?_⟩
  rw [hname] at hdeps
  exact hdeps

end Document

end Spreadsheet
