import Spreadsheet.Proofs.Workbook.Edges

/-!
# Workbooks with the same records

A workbook is determined by its sheets and by what is found at every address. Where the values that
are kept with formulas are left out of account, it is determined by the other parts of its records.
The last statements say which addresses have records, as a change leaves some that hold nothing but
edges.
-/

namespace Spreadsheet

/-! ## Records without results -/

/-- The record without the value that is kept with a formula. -/
def Cell.withoutResult (c : Cell) : Cell :=
  if c.isFormula then { c with value := .empty } else c

/-- Records that are the same but for the values that are kept with formulas. -/
theorem Cell.withoutResult_congr {c d : Cell} (hformula : c.formula = d.formula)
    (herror : c.error = d.error) (hdependencies : c.dependencies = d.dependencies)
    (hdependents : c.dependents = d.dependents) (hvalue : d.formula = none → c.value = d.value) :
    c.withoutResult = d.withoutResult := by
  obtain ⟨v, text, error, dependencies, dependents⟩ := c
  obtain ⟨w, text', error', dependencies', dependents'⟩ := d
  dsimp only at hformula herror hdependencies hdependents hvalue
  subst hformula herror hdependencies hdependents
  cases text with
  | some text => rfl
  | none =>
    obtain rfl := hvalue rfl
    rfl

/-- The value that is kept with a formula is all that is missing. -/
theorem Cell.eq_of_withoutResult {c d : Cell} (h : c.withoutResult = d.withoutResult)
    (hvalue : c.value = d.value) : c = d := by
  have hall : ∀ c : Cell, c = { c.withoutResult with value := c.value } := by
    intro c
    unfold withoutResult
    split <;> rfl
  rw [hall c, hall d, h, hvalue]

/-- The sheet without the values that are kept with formulas. -/
def Sheet.withoutResults (sheet : Sheet) : Sheet :=
  { sheet with cells := sheet.cells.map fun _ c => c.withoutResult }

namespace Workbook

/-- The workbook without the values that are kept with formulas. -/
def withoutResults (wb : Workbook) : Workbook :=
  { wb with sheets := wb.sheets.map Sheet.withoutResults }

/-- The workbook with every record changed in the same way. -/
def mapRecords (g : Cell → Cell) (wb : Workbook) : Workbook :=
  { wb with sheets := wb.sheets.map fun sheet =>
      { sheet with cells := sheet.cells.map fun _ c => g c } }

/-- The sheets stay when all records change. -/
@[simp] theorem sheetNames_mapRecords (g : Cell → Cell) (wb : Workbook) :
    (wb.mapRecords g).sheetNames = wb.sheetNames := by
  simp only [sheetNames, mapRecords, List.map_map]
  rfl

/-- Changing all records changes each of them alike. -/
theorem cell?_mapRecords (g : Cell → Cell) (wb : Workbook) (a : QualifiedAddress) :
    (wb.mapRecords g).cell? a = (wb.cell? a).map g := by
  have hfind : (wb.mapRecords g).sheet? a.sheet = (wb.sheet? a.sheet).map fun sheet =>
      { sheet with cells := sheet.cells.map fun _ c => g c } := by
    simp only [sheet?, mapRecords, List.find?_map]
    rfl
  rw [cell?, cell?, hfind]
  cases wb.sheet? a.sheet with
  | none => rfl
  | some sheet => simp [Sheet.cell?]

/-- The sheets stay when results are left out. -/
@[simp] theorem sheetNames_withoutResults (wb : Workbook) :
    wb.withoutResults.sheetNames = wb.sheetNames :=
  sheetNames_mapRecords Cell.withoutResult wb

/-- Leaving out results leaves out that of each record. -/
theorem cell?_withoutResults (wb : Workbook) (a : QualifiedAddress) :
    wb.withoutResults.cell? a = (wb.cell? a).map Cell.withoutResult :=
  cell?_mapRecords Cell.withoutResult wb a

/-! ## Equality -/

variable {wb wb' : Workbook} {a b : QualifiedAddress} {f : Cell → Cell}

/-- What is found on a sheet, where no two sheets share a name. -/
theorem cell?_of_mem (hn : wb.sheetNames.Nodup) {sheet : Sheet} (h : sheet ∈ wb.sheets)
    (cell : CellAddress) : wb.cell? ⟨sheet.name, cell⟩ = sheet.cell? cell := by
  have hfind : wb.sheet? sheet.name = some sheet :=
    (find?_eq_some_iff_of_nodup hn).mpr ⟨h, rfl⟩
  rw [cell?, hfind, Option.bind_some]

/-- Workbooks with the same sheets, in which the same is found everywhere, are the same. -/
theorem eq_of_cell? (hn : wb.sheetNames.Nodup) (hnames : wb'.sheetNames = wb.sheetNames)
    (hindex : wb'.activeIndex = wb.activeIndex) (hcell : ∀ a, wb'.cell? a = wb.cell? a) :
    wb' = wb := by
  have hlength : wb'.sheets.length = wb.sheets.length := by
    simpa [sheetNames] using congrArg List.length hnames
  have hsheets : wb'.sheets = wb.sheets := by
    refine List.ext_getElem hlength fun i hi' hi => ?_
    have hname : (wb'.sheets[i]).name = (wb.sheets[i]).name := by
      have hith := congrArg (fun names => names[i]?) hnames
      simpa [sheetNames, hi, hi'] using hith
    have hcells : (wb'.sheets[i]).cells = (wb.sheets[i]).cells := by
      refine Std.ExtTreeMap.ext_getElem? fun cell => ?_
      have hfound := cell?_of_mem hn (List.getElem_mem hi) cell
      have hfound' := cell?_of_mem (hnames ▸ hn) (List.getElem_mem hi') cell
      rw [hname] at hfound'
      exact hfound'.symm.trans ((hcell _).trans hfound)
    exact congrArg₂ Sheet.mk hname hcells
  exact congrArg₂ Workbook.mk hsheets hindex

/-- Where there is a record in both or in none, what is found is the record. -/
theorem map_cell?_eq_of_record {α : Type} {g : Cell → α}
    (hsome : (wb'.cell? a).isSome = (wb.cell? a).isSome) (hg : g (wb'.record a) = g (wb.record a)) :
    (wb'.cell? a).map g = (wb.cell? a).map g := by
  unfold record at hg
  cases hc' : wb'.cell? a <;> cases hc : wb.cell? a <;> simp_all

/-! ## Addresses with records -/

/-- A cell that is not blank has a record. -/
theorem isSome_cell?_of_record_ne_blank (h : wb.record a ≠ .blank) :
    (wb.cell? a).isSome = true :=
  Option.isSome_iff_exists.mpr (exists_cell?_of_record_ne_blank h)

/-- Making or changing a record, on a sheet that exists, leaves a record of the address. -/
theorem isSome_cell?_update (h : wb.hasSheet a.sheet = true) (f : Cell → Cell) :
    ((wb.update a f).cell? b).isSome = true ↔ b = a ∨ (wb.cell? b).isSome = true := by
  rw [cell?_update]
  by_cases hb : a = b
  · simp [hb, hb ▸ h]
  · simp [hb, Ne.symm hb]

private theorem isSome_cell?_detach (reader : QualifiedAddress) (targets : List QualifiedAddress)
    (wb : Workbook) : ((wb.detach reader targets).cell? b).isSome = (wb.cell? b).isSome := by
  induction targets generalizing wb with
  | nil => rfl
  | cons t targets ih =>
    refine (ih _).trans ?_
    rw [cell?_adjust]
    split_ifs <;> simp

/-- Attaching a reader leaves records of the given cells. -/
theorem isSome_cell?_attach {reader : QualifiedAddress} {targets : List QualifiedAddress}
    (h : ∀ t ∈ targets, wb.hasSheet t.sheet = true) :
    ((wb.attach reader targets).cell? b).isSome = true ↔
      b ∈ targets ∨ (wb.cell? b).isSome = true := by
  induction targets generalizing wb with
  | nil => simp [attach]
  | cons t targets ih =>
    have hs : ∀ u ∈ targets, (wb.update t (Cell.addDependent reader)).hasSheet u.sheet = true := by
      intro u hu
      rw [hasSheet_update]
      exact h u (List.mem_cons_of_mem t hu)
    refine (ih hs).trans ?_
    rw [isSome_cell?_update (h t List.mem_cons_self), List.mem_cons]
    tauto

/-- Linking a cell leaves records of the cell and of those that it reads. -/
theorem isSome_cell?_link {reader : QualifiedAddress} (h : wb.hasSheet reader.sheet = true)
    (cells : AddressSet) :
    ((wb.link reader cells).cell? b).isSome = true ↔
      b = reader ∨ b ∈ wb.present cells ∨ (wb.cell? b).isSome = true := by
  have hs := hasSheet_detach_of_mem_present wb reader (wb.dependenciesOf reader).toList cells
  rw [link_eq, isSome_cell?_update (by simpa using h), isSome_cell?_attach hs,
    isSome_cell?_detach, Std.ExtTreeSet.mem_toList]

/-- Linking many cells leaves records of them and of those that they read. -/
theorem isSome_cell?_linkAll {readers : List (QualifiedAddress × AddressSet)}
    (h : ∀ p ∈ readers, wb.hasSheet p.1.sheet = true) :
    ((wb.linkAll readers).cell? b).isSome = true ↔
      (∃ p ∈ readers, b = p.1 ∨ b ∈ wb.present p.2) ∨ (wb.cell? b).isSome = true := by
  induction readers generalizing wb with
  | nil => simp [linkAll]
  | cons p readers ih =>
    have hp : wb.hasSheet p.1.sheet = true := h p List.mem_cons_self
    refine (ih (hasSheet_of_linked h)).trans ?_
    simp only [isSome_cell?_link hp, present_congr (hasSheet_link p.1 p.2 wb), List.mem_cons,
      or_and_right, exists_or, exists_eq_left, or_assoc]
    exact or_left_comm.trans (or_congr_right or_left_comm)

end Workbook

end Spreadsheet
