import Spreadsheet.Proofs.Workbook.Record
import Spreadsheet.Workbook.Edges

/-!
# Both sides of every edge

Linking a cell anew is described record by record: its own dependencies are replaced, it joins the
readers of the cells that it reads now and leaves those of the cells that it read before, and what
was written into any cell stays. The main statement says that both sides of every edge remain in
step, for one cell and for a list of cells that are linked one after the other.
-/

namespace Spreadsheet

namespace Cell

/-- What is recorded of a cell besides its edges. -/
def written (c : Cell) : Value × Option String × Option CellError :=
  (c.value, c.formula, c.error)

private theorem removeDependent_blank (reader : QualifiedAddress) :
    blank.removeDependent reader = blank := by
  simp [removeDependent, blank, ofValue]

/-- A reader that is taken away is no reader any more, and the others stay. -/
@[simp] theorem mem_dependents_removeDependent {reader a : QualifiedAddress} {c : Cell} :
    a ∈ (c.removeDependent reader).dependents ↔ reader ≠ a ∧ a ∈ c.dependents := by
  simp [removeDependent]

/-- A reader that is added is a reader, and the others stay. -/
@[simp] theorem mem_dependents_addDependent {reader a : QualifiedAddress} {c : Cell} :
    a ∈ (c.addDependent reader).dependents ↔ reader = a ∨ a ∈ c.dependents := by
  simp [addDependent]

/-- Leaving the readers twice is leaving them once. -/
theorem removeDependent_removeDependent (reader : QualifiedAddress) (c : Cell) :
    (c.removeDependent reader).removeDependent reader = c.removeDependent reader := by
  have h : (c.dependents.erase reader).erase reader = c.dependents.erase reader := by
    ext a
    simp
  simp [removeDependent, h]

/-- Joining the readers twice is joining them once. -/
theorem addDependent_addDependent (reader : QualifiedAddress) (c : Cell) :
    (c.addDependent reader).addDependent reader = c.addDependent reader := by
  have h : (c.dependents.insert reader).insert reader = c.dependents.insert reader := by
    ext a
    simp
  simp [addDependent, h]

end Cell

namespace Workbook

/-! ## Linking one cell -/

/-- The sheets stay when a reader leaves its cells. -/
@[simp] theorem sheetNames_detach (reader : QualifiedAddress) (targets : List QualifiedAddress)
    (wb : Workbook) : (wb.detach reader targets).sheetNames = wb.sheetNames := by
  induction targets generalizing wb with
  | nil => rfl
  | cons t targets ih => exact (ih _).trans (sheetNames_adjust wb t _)

/-- The sheets stay when a reader comes to its cells. -/
@[simp] theorem sheetNames_attach (reader : QualifiedAddress) (targets : List QualifiedAddress)
    (wb : Workbook) : (wb.attach reader targets).sheetNames = wb.sheetNames := by
  induction targets generalizing wb with
  | nil => rfl
  | cons t targets ih => exact (ih _).trans (sheetNames_update wb t _)

/-- The sheets stay when a cell is linked. -/
@[simp] theorem sheetNames_link (reader : QualifiedAddress) (cells : AddressSet) (wb : Workbook) :
    (wb.link reader cells).sheetNames = wb.sheetNames := by
  simp [link]

/-- The same sheets exist after a reader has left its cells. -/
@[simp] theorem hasSheet_detach (reader : QualifiedAddress) (targets : List QualifiedAddress)
    (wb : Workbook) (name : String) : (wb.detach reader targets).hasSheet name = wb.hasSheet name :=
  hasSheet_congr (sheetNames_detach reader targets wb) name

/-- The same sheets exist after a reader has come to its cells. -/
@[simp] theorem hasSheet_attach (reader : QualifiedAddress) (targets : List QualifiedAddress)
    (wb : Workbook) (name : String) : (wb.attach reader targets).hasSheet name = wb.hasSheet name :=
  hasSheet_congr (sheetNames_attach reader targets wb) name

/-- The same sheets exist after a cell was linked. -/
@[simp] theorem hasSheet_link (reader : QualifiedAddress) (cells : AddressSet) (wb : Workbook)
    (name : String) : (wb.link reader cells).hasSheet name = wb.hasSheet name :=
  hasSheet_congr (sheetNames_link reader cells wb) name

/-- Detaching a reader changes the records of the given cells only. -/
theorem record_detach (reader : QualifiedAddress) (targets : List QualifiedAddress) (wb : Workbook)
    (b : QualifiedAddress) :
    (wb.detach reader targets).record b =
      if b ∈ targets then (wb.record b).removeDependent reader else wb.record b := by
  induction targets generalizing wb with
  | nil => rfl
  | cons t targets ih =>
    have ht := record_adjust wb t b (Cell.removeDependent_blank reader)
    refine (ih _).trans ?_
    rw [ht]
    by_cases hb : t = b
    · subst hb
      simp [Cell.removeDependent_removeDependent]
    · simp [hb, Ne.symm hb]

/-- Attaching a reader changes the records of the given cells only. -/
theorem record_attach (reader : QualifiedAddress) {targets : List QualifiedAddress} {wb : Workbook}
    (h : ∀ t ∈ targets, wb.hasSheet t.sheet = true) (b : QualifiedAddress) :
    (wb.attach reader targets).record b =
      if b ∈ targets then (wb.record b).addDependent reader else wb.record b := by
  induction targets generalizing wb with
  | nil => rfl
  | cons t targets ih =>
    have ht := record_update_of_hasSheet (h t List.mem_cons_self) b (Cell.addDependent reader)
    have hs : ∀ u ∈ targets, (wb.update t (Cell.addDependent reader)).hasSheet u.sheet = true := by
      intro u hu
      rw [hasSheet_update]
      exact h u (List.mem_cons_of_mem t hu)
    refine (ih hs).trans ?_
    rw [ht]
    by_cases hb : t = b
    · subst hb
      simp [Cell.addDependent_addDependent]
    · simp [hb, Ne.symm hb]

/-- The cells of a set whose sheets exist. -/
def present (wb : Workbook) (cells : AddressSet) : AddressSet :=
  cells.filter fun target => wb.hasSheet target.sheet

/-- Of some cells, those are there whose sheets exist. -/
theorem mem_present {wb : Workbook} {cells : AddressSet} {a : QualifiedAddress} :
    a ∈ wb.present cells ↔ a ∈ cells ∧ wb.hasSheet a.sheet = true :=
  AddressSet.mem_filter

/-- None of no cells is there. -/
@[simp] theorem present_empty (wb : Workbook) : wb.present ∅ = ∅ := by
  ext a
  simp [mem_present]

/-- The same sheets have the same cells. -/
theorem present_congr {wb wb' : Workbook} (h : ∀ name, wb'.hasSheet name = wb.hasSheet name)
    (cells : AddressSet) : wb'.present cells = wb.present cells := by
  simp only [present, h]

/-- A new sheet makes no difference to cells that do not lie on it. -/
theorem present_extend {wb : Workbook} {name : String} {cells : AddressSet}
    (h : ∀ r ∈ cells, r.sheet ≠ name) : (wb.extend name).present cells = wb.present cells := by
  ext r
  rw [mem_present, mem_present, hasSheet_extend]
  exact and_congr_right fun hr => ⟨fun hs => hs.resolve_right (h r hr), Or.inl⟩

variable {wb : Workbook} {reader : QualifiedAddress}

/-- Linking a cell takes its old edges back, makes the new ones, and records what it reads. -/
theorem link_eq (reader : QualifiedAddress) (cells : AddressSet) (wb : Workbook) :
    wb.link reader cells =
      ((wb.detach reader (wb.dependenciesOf reader).toList).attach reader
        (wb.present cells).toList).update reader
          fun c => { c with dependencies := wb.present cells } := rfl

/-- The sheets of the cells to which there are new edges are there while the edges are made. -/
theorem hasSheet_detach_of_mem_present (wb : Workbook) (reader : QualifiedAddress)
    (targets : List QualifiedAddress) (cells : AddressSet) :
    ∀ t ∈ (wb.present cells).toList, (wb.detach reader targets).hasSheet t.sheet = true := by
  intro t ht
  rw [hasSheet_detach]
  exact (mem_present.mp (Std.ExtTreeSet.mem_toList.mp ht)).2

/-- What linking a cell does to a record: the old edge to it goes, the new one comes, and the cell
itself gets its new dependencies if its sheet exists. -/
theorem record_link_eq (reader : QualifiedAddress) (cells : AddressSet) (wb : Workbook)
    (b : QualifiedAddress) :
    (wb.link reader cells).record b =
      let left :=
        if b ∈ (wb.record reader).dependencies then (wb.record b).removeDependent reader
        else wb.record b
      let joined := if b ∈ wb.present cells then left.addDependent reader else left
      if reader = b ∧ wb.hasSheet reader.sheet = true then
        { joined with dependencies := wb.present cells }
      else joined := by
  have hs := hasSheet_detach_of_mem_present wb reader (wb.dependenciesOf reader).toList cells
  rw [link_eq, record_update, hasSheet_attach, hasSheet_detach, record_attach reader hs,
    record_detach, dependenciesOf_eq]
  simp only [Std.ExtTreeSet.mem_toList]

/-- What linking a cell on a sheet that exists does to a record. -/
theorem record_link (h : wb.hasSheet reader.sheet = true) (cells : AddressSet)
    (b : QualifiedAddress) :
    (wb.link reader cells).record b =
      let left :=
        if b ∈ (wb.record reader).dependencies then (wb.record b).removeDependent reader
        else wb.record b
      let joined := if b ∈ wb.present cells then left.addDependent reader else left
      if reader = b then { joined with dependencies := wb.present cells } else joined := by
  rw [record_link_eq]
  simp only [h, and_true]

/-- Linking a cell leaves alone what was written into the cells. -/
theorem written_record_link (h : wb.hasSheet reader.sheet = true) (cells : AddressSet)
    (b : QualifiedAddress) :
    ((wb.link reader cells).record b).written = (wb.record b).written := by
  rw [record_link h]
  dsimp only
  split_ifs <;> rfl

/-- The dependencies of a cell after some cell was linked. -/
theorem dependencies_link (reader : QualifiedAddress) (cells : AddressSet) (wb : Workbook)
    (b : QualifiedAddress) :
    ((wb.link reader cells).record b).dependencies =
      if reader = b ∧ wb.hasSheet reader.sheet = true then wb.present cells
      else (wb.record b).dependencies := by
  rw [record_link_eq]
  dsimp only
  split_ifs <;> rfl

/-- The dependencies of a cell after some cell on a sheet that exists was linked. -/
theorem dependencies_record_link (h : wb.hasSheet reader.sheet = true) (cells : AddressSet)
    (b : QualifiedAddress) :
    ((wb.link reader cells).record b).dependencies =
      if reader = b then wb.present cells else (wb.record b).dependencies := by
  rw [dependencies_link]
  simp only [h, and_true]

/-- The readers of a cell after some cell was linked, on whatever sheet it is. -/
theorem mem_dependents_record_link {cells : AddressSet} {a b : QualifiedAddress} :
    a ∈ ((wb.link reader cells).record b).dependents ↔
      reader = a ∧ b ∈ wb.present cells ∨
        a ∈ (wb.record b).dependents ∧
          ¬(reader = a ∧ b ∈ (wb.record reader).dependencies) := by
  rw [record_link_eq]
  dsimp only
  split_ifs <;> simp_all <;> tauto

/-! ## Edges in step -/

/-- A cell is among the dependencies of another exactly if that one is among its dependents. -/
def EdgesInStep (wb : Workbook) : Prop :=
  ∀ a b, b ∈ (wb.record a).dependencies ↔ a ∈ (wb.record b).dependents

/-- Without records, nothing is out of step. -/
theorem EdgesInStep.ofName (first : String) : (Workbook.ofName first).EdgesInStep := by
  intro a b
  rw [record_ofName, record_ofName]
  simp [Cell.blank, Cell.ofValue]

/-- Linking a cell keeps the edges in step. -/
theorem EdgesInStep.link (hw : wb.EdgesInStep) (h : wb.hasSheet reader.sheet = true)
    (cells : AddressSet) : (wb.link reader cells).EdgesInStep := by
  intro a b
  rw [mem_dependents_record_link, dependencies_record_link h, ← hw a b]
  by_cases ha : reader = a
  · subst ha
    simp
  · simp [ha]

/-- Where the edges of all records are the same, they are in step or not alike. -/
theorem EdgesInStep.of_record {wb' : Workbook} (hw : wb.EdgesInStep)
    (h : ∀ a, (wb'.record a).dependencies = (wb.record a).dependencies ∧
      (wb'.record a).dependents = (wb.record a).dependents) : wb'.EdgesInStep := by
  intro a b
  rw [(h a).1, (h b).2]
  exact hw a b

/-! ## Linking many cells -/

variable {readers : List (QualifiedAddress × AddressSet)}

/-- The sheets stay when cells are linked. -/
@[simp] theorem sheetNames_linkAll (readers : List (QualifiedAddress × AddressSet))
    (wb : Workbook) : (wb.linkAll readers).sheetNames = wb.sheetNames := by
  induction readers generalizing wb with
  | nil => rfl
  | cons p readers ih => exact (ih _).trans (sheetNames_link p.1 p.2 wb)

/-- The same sheets exist after cells were linked. -/
@[simp] theorem hasSheet_linkAll (readers : List (QualifiedAddress × AddressSet)) (wb : Workbook)
    (name : String) : (wb.linkAll readers).hasSheet name = wb.hasSheet name :=
  hasSheet_congr (sheetNames_linkAll readers wb) name

/-- After the first of some readers was linked, the sheets of the others are still there. -/
theorem hasSheet_of_linked {p : QualifiedAddress × AddressSet}
    (h : ∀ q ∈ p :: readers, wb.hasSheet q.1.sheet = true) :
    ∀ q ∈ readers, (wb.link p.1 p.2).hasSheet q.1.sheet = true := by
  intro q hq
  rw [hasSheet_link]
  exact h q (List.mem_cons_of_mem p hq)

/-- Linking cells leaves alone what was written into the cells. -/
theorem written_record_linkAll (h : ∀ p ∈ readers, wb.hasSheet p.1.sheet = true)
    (b : QualifiedAddress) :
    ((wb.linkAll readers).record b).written = (wb.record b).written := by
  induction readers generalizing wb with
  | nil => rfl
  | cons p readers ih =>
    have hp : wb.hasSheet p.1.sheet = true := h p List.mem_cons_self
    exact (ih (hasSheet_of_linked h)).trans (written_record_link hp p.2 b)

/-- After some readers were linked, each of them has its new dependencies, and the other cells have
their old ones. -/
theorem dependencies_record_linkAll {cells : QualifiedAddress → AddressSet}
    (h : ∀ p ∈ readers, wb.hasSheet p.1.sheet = true) (hcells : ∀ p ∈ readers, p.2 = cells p.1)
    (b : QualifiedAddress) :
    ((wb.linkAll readers).record b).dependencies =
      if b ∈ readers.map Prod.fst then wb.present (cells b) else (wb.record b).dependencies := by
  induction readers generalizing wb with
  | nil => rfl
  | cons p readers ih =>
    have hp : wb.hasSheet p.1.sheet = true := h p List.mem_cons_self
    have hrest := ih (hasSheet_of_linked h) fun q hq => hcells q (List.mem_cons_of_mem p hq)
    refine hrest.trans ?_
    rw [dependencies_record_link hp, present_congr (hasSheet_link p.1 p.2 wb),
      hcells p List.mem_cons_self]
    by_cases hb : b ∈ readers.map Prod.fst
    · simp [hb]
    · by_cases hpb : p.1 = b
      · subst hpb
        simp
      · simp [hb, hpb, Ne.symm hpb]

end Workbook

end Spreadsheet
