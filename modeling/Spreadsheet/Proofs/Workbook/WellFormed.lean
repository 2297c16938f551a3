import Spreadsheet.Proofs.Document.Visibility
import Spreadsheet.Proofs.Stored.Workbook

/-!
# Sheets that can be found

In a well-formed workbook no two sheets share a name and one of the sheets is active, so that every
sheet is found by its name and the active sheet can be asked for. Workbooks are made with one sheet,
or read from a text, and are changed from there. The main statement says when a workbook is well
formed after some changes: every change keeps it so, but what is read from a text need not be, and
only choosing another sheet to be active can make up for that in part.
-/

namespace Spreadsheet.Workbook

variable {wb : Workbook} {name : String}

/-- No two sheets share a name, and one of the sheets is active. -/
structure WellFormed (wb : Workbook) : Prop where
  /-- The names are different. -/
  nodup : wb.sheetNames.Nodup
  /-- The active sheet exists. -/
  active : wb.activeIndex < wb.sheets.length

private theorem length_sheetNames (wb : Workbook) : wb.sheetNames.length = wb.sheets.length :=
  List.length_map _

/-- The active sheet has a name exactly if it exists. -/
theorem isSome_activeName?_iff :
    wb.activeName?.isSome = true ↔ wb.activeIndex < wb.sheets.length := by
  simp [activeName?]

/-- Names are different exactly if each of them leads to the place where it stands. -/
theorem nodup_iff_sheetIndex? : wb.sheetNames.Nodup ↔
    ∀ i, (h : i < wb.sheets.length) → wb.sheetIndex? wb.sheets[i].name = some i := by
  have hplace : ∀ i j, (hi : i < wb.sheets.length) → (hj : j < wb.sheets.length) →
      (wb.sheetNames[i]? = wb.sheetNames[j]? ↔ wb.sheets[i].name = wb.sheets[j].name) := by
    intro i j hi hj
    simp [sheetNames, hi, hj]
  rw [List.nodup_iff_getElem?_ne_getElem?]
  simp only [sheetIndex?, List.findIdx?_eq_some_iff_getElem, beq_iff_eq]
  constructor
  · intro hne i hi
    refine ⟨hi, trivial, fun j hj => ?_⟩
    have hdiff := hne j i hj (by rwa [length_sheetNames])
    rw [Ne, hplace j i (hj.trans hi) hi] at hdiff
    exact hdiff
  · intro hfind i j hij hj
    rw [length_sheetNames] at hj
    obtain ⟨_, -, hfirst⟩ := hfind j hj
    rw [Ne, hplace i j (hij.trans hj) hj]
    exact hfirst i hij

/-- A workbook is well formed exactly if its active sheet can be asked for and every sheet is the
one that its name leads to. -/
theorem wellFormed_iff_found : wb.WellFormed ↔ wb.activeName?.isSome = true ∧
    ∀ i, (h : i < wb.sheets.length) → wb.sheetIndex? wb.sheets[i].name = some i := by
  rw [isSome_activeName?_iff, ← nodup_iff_sheetIndex?]
  exact ⟨fun h => ⟨h.active, h.nodup⟩, fun h => ⟨h.2, h.1⟩⟩

/-- A workbook with a single sheet is well formed. -/
theorem wellFormed_ofName (first : String) : (ofName first).WellFormed :=
  ⟨List.nodup_singleton first, Nat.zero_lt_one⟩

/-! ## Changes -/

/-- A change of a workbook by those who hold it. -/
inductive Change where
  /-- An empty sheet is added. -/
  | addSheet (name : String)
  /-- Another sheet becomes the active one. -/
  | activate (name : String)
  /-- A record is made, if it is missing, and changed in some way. -/
  | record (a : QualifiedAddress) (f : Cell → Cell)
  /-- The cells that a cell reads are replaced. -/
  | link (reader : QualifiedAddress) (cells : AddressSet)

/-- The workbook after a change, the same as before if the change is refused. -/
def perform (wb : Workbook) : Change → Workbook
  | .addSheet name =>
    match wb.addSheet name with
    | .ok (_, wb') => wb'
    | .error _ => wb
  | .activate name => (wb.activate? name).getD wb
  | .record a f => wb.update a f
  | .link reader cells => wb.link reader cells

/-- The workbook after some changes. -/
def run (wb : Workbook) (changes : List Change) : Workbook :=
  changes.foldl perform wb

/-- One of the changes makes a sheet active that is there when its turn comes. -/
def Activates (wb : Workbook) : List Change → Prop
  | [] => False
  | change :: changes =>
    (∃ name, change = .activate name ∧ wb.hasSheet name = true) ∨
      (wb.perform change).Activates changes

/-- A sheet is added under a new name only. -/
theorem perform_addSheet (wb : Workbook) (name : String) : wb.perform (.addSheet name) =
    if wb.hasSheet name then wb else wb.extend name := by
  simp only [perform, addSheet, extend]
  cases wb.hasSheet name <;> rfl

/-- A sheet has a place exactly if it is there. -/
theorem sheetIndex?_eq_none_iff : wb.sheetIndex? name = none ↔ wb.hasSheet name = false := by
  simp [sheetIndex?, hasSheet, sheet?]

/-- The names of the sheets after a change. -/
theorem sheetNames_perform (wb : Workbook) (change : Change) :
    (wb.perform change).sheetNames = wb.sheetNames ∨
      ∃ name, wb.hasSheet name = false ∧
        (wb.perform change).sheetNames = wb.sheetNames ++ [name] := by
  cases change with
  | addSheet name =>
    rw [perform_addSheet]
    cases hname : wb.hasSheet name with
    | true => exact Or.inl rfl
    | false => exact Or.inr ⟨name, hname, sheetNames_extend wb name⟩
  | activate name =>
    refine Or.inl ?_
    cases hindex : wb.sheetIndex? name <;> simp [perform, activate?, hindex, sheetNames]
  | record a f => exact Or.inl (sheetNames_update wb a f)
  | link reader cells => exact Or.inl (sheetNames_link reader cells wb)

/-- A change keeps names different, and equal names equal. -/
theorem nodup_sheetNames_perform (wb : Workbook) (change : Change) :
    (wb.perform change).sheetNames.Nodup ↔ wb.sheetNames.Nodup := by
  rcases sheetNames_perform wb change with heq | ⟨name, hname, heq⟩
  · rw [heq]
  · have hnot : name ∉ wb.sheetNames := by
      rw [← hasSheet_iff, hname]
      exact Bool.false_ne_true
    rw [heq, List.nodup_append]
    refine ⟨fun h => h.1, fun h => ⟨h, List.nodup_singleton name, fun x hx y hy => ?_⟩⟩
    rintro rfl
    exact hnot (List.mem_singleton.mp hy ▸ hx)

/-- No change takes a sheet away. -/
theorem length_sheets_perform (wb : Workbook) (change : Change) :
    wb.sheets.length ≤ (wb.perform change).sheets.length := by
  rw [← length_sheetNames, ← length_sheetNames]
  rcases sheetNames_perform wb change with heq | ⟨name, -, heq⟩
  · rw [heq]
  · rw [heq, List.length_append]
    exact Nat.le_add_right _ _

/-- A change leaves the active sheet active, or makes one active that is there. -/
theorem activeIndex_perform (wb : Workbook) (change : Change) :
    (∃ name, change = .activate name ∧ wb.hasSheet name = true) ∧
        (wb.perform change).activeIndex < wb.sheets.length ∨
      (¬∃ name, change = .activate name ∧ wb.hasSheet name = true) ∧
        (wb.perform change).activeIndex = wb.activeIndex := by
  cases change with
  | addSheet name =>
    refine Or.inr ⟨by simp, ?_⟩
    rw [perform_addSheet]
    cases wb.hasSheet name <;> rfl
  | activate name =>
    cases hindex : wb.sheetIndex? name with
    | none =>
      refine Or.inr ⟨?_, by simp [perform, activate?, hindex]⟩
      rintro ⟨_, heq, hname⟩
      cases heq
      rw [sheetIndex?_eq_none_iff.mp hindex] at hname
      cases hname
    | some index =>
      have hname : wb.hasSheet name = true := by
        by_contra hnot
        rw [Bool.not_eq_true, ← sheetIndex?_eq_none_iff, hindex] at hnot
        cases hnot
      obtain ⟨hlt, -⟩ := List.findIdx?_eq_some_iff_getElem.mp hindex
      exact Or.inl ⟨⟨name, rfl, hname⟩, by simpa [perform, activate?, hindex] using hlt⟩
  | record a f => exact Or.inr ⟨by simp, rfl⟩
  | link reader cells => exact Or.inr ⟨by simp, activeIndex_link reader cells wb⟩

/-! ## Runs -/

/-- Changes neither bring equal names of sheets about nor undo them. -/
theorem nodup_sheetNames_run (wb : Workbook) (changes : List Change) :
    (wb.run changes).sheetNames.Nodup ↔ wb.sheetNames.Nodup := by
  induction changes generalizing wb with
  | nil => exact Iff.rfl
  | cons change changes ih => exact (ih _).trans (nodup_sheetNames_perform wb change)

/-- Changes never take sheets away. -/
theorem length_sheets_run (wb : Workbook) (changes : List Change) :
    wb.sheets.length ≤ (wb.run changes).sheets.length := by
  induction changes generalizing wb with
  | nil => exact Nat.le_refl _
  | cons change changes ih => exact (length_sheets_perform wb change).trans (ih _)

/-- The active sheet exists after some changes exactly if the place that was active at first is
taken by a sheet in the end, or another sheet was made active since. -/
theorem activeIndex_run_lt_iff (wb : Workbook) (changes : List Change) :
    (wb.run changes).activeIndex < (wb.run changes).sheets.length ↔
      wb.activeIndex < (wb.run changes).sheets.length ∨ wb.Activates changes := by
  induction changes generalizing wb with
  | nil => exact (or_iff_left id).symm
  | cons change changes ih =>
    have hlength : wb.sheets.length ≤ ((wb.perform change).run changes).sheets.length :=
      (length_sheets_perform wb change).trans (length_sheets_run _ changes)
    refine (ih (wb.perform change)).trans ?_
    rcases activeIndex_perform wb change with ⟨hactivates, hlt⟩ | ⟨hnot, heq⟩
    · exact iff_of_true (Or.inl (hlt.trans_le hlength)) (Or.inr (Or.inl hactivates))
    · rw [heq, Activates, or_iff_right hnot]
      rfl

/-- Whether a workbook is well formed after some changes. -/
theorem wellFormed_run (wb : Workbook) (changes : List Change) :
    (wb.run changes).WellFormed ↔ wb.sheetNames.Nodup ∧
      (wb.activeIndex < (wb.run changes).sheets.length ∨ wb.Activates changes) := by
  rw [← nodup_sheetNames_run wb changes, ← activeIndex_run_lt_iff]
  exact ⟨fun h => ⟨h.nodup, h.active⟩, fun h => ⟨h.1, h.2⟩⟩

/-! ## Workbooks that are read from a text -/

/-- Sheets without records. -/
def ofNames (names : List String) (index : Nat) : Workbook :=
  ⟨names.map Sheet.blank, index⟩

private theorem sheetNames_ofNames (names : List String) (index : Nat) :
    (ofNames names index).sheetNames = names := by
  simp [ofNames, sheetNames, Function.comp_def, Sheet.blank]

/-- Sheets without records are read back from their text, whatever their names are and whichever
place is said to be active. -/
theorem ofStored?_ofNames (names : List String) {index : Nat} (h : index ≤ Json.greatestWord) :
    ofStored? (ofNames names index).toStored = some (ofNames names index) := by
  have hrecords : ∀ name, (Sheet.blank name).records = [] := fun _ => rfl
  have hsheets : ∀ sheet ∈ (ofNames names index).sheets, sheet.records = [] := by
    intro sheet hsheet
    obtain ⟨name, -, rfl⟩ := List.mem_map.mp hsheet
    exact hrecords name
  have hnumbers : ∀ sheet ∈ (ofNames names index).sheets, ∀ x, ¬sheet.HasNumber x := by
    rintro sheet hsheet x ⟨record, hrecord, -⟩
    rw [hsheets sheet hsheet] at hrecord
    exact List.not_mem_nil hrecord
  have hstorable : (ofNames names index).Storable := by
    refine ⟨fun sheet hsheet x hx => absurd hx (hnumbers sheet hsheet x), fun sheet hsheet => ?_,
      fun sheet hsheet => ?_, h⟩
    · rw [Sheet.InRange, hsheets sheet hsheet]
      exact List.forall_mem_nil _
    · rw [hsheets sheet hsheet]
      exact List.forall_mem_nil _
  refine ofStored?_toStored hstorable
    (fun sheet hsheet x hx => absurd hx (hnumbers sheet hsheet x)) ?_
  simp [ofNames, toJson, Sheet.toJson, Sheet.cellsToJson, hrecords, storedLevels]

/-- A workbook is well formed exactly if its active sheet can be asked for and every sheet is the
one that its name leads to. One that was made with a single sheet stays well formed whatever is
changed. One that was read from a text is well formed after some changes exactly if the names in the
text are different and the place that the text calls active is taken by a sheet in the end, unless
another sheet was made active since. There are texts with any names and with any place. -/
theorem wellFormed_run_iff (wb : Workbook) (changes : List Change) :
    (wb.WellFormed ↔ wb.activeName?.isSome = true ∧
      ∀ i, (h : i < wb.sheets.length) → wb.sheetIndex? wb.sheets[i].name = some i) ∧
    (∀ first, wb = ofName first → (wb.run changes).WellFormed) ∧
    (∀ text, ofStored? text = some wb →
      ((wb.run changes).WellFormed ↔ wb.sheetNames.Nodup ∧
        (wb.activeIndex < (wb.run changes).sheets.length ∨ wb.Activates changes))) ∧
    ∀ names index, index ≤ Json.greatestWord → ∃ text read, ofStored? text = some read ∧
      read.sheetNames = names ∧ read.activeIndex = index := by
  refine ⟨wellFormed_iff_found, ?_, fun _ _ => wellFormed_run wb changes,
    fun names index hindex => ?_⟩
  · rintro first rfl
    have hfirst := wellFormed_ofName first
    exact (wellFormed_run _ changes).mpr
      ⟨hfirst.nodup, Or.inl (hfirst.active.trans_le (length_sheets_run _ changes))⟩
  · exact ⟨_, _, ofStored?_ofNames names hindex, sheetNames_ofNames names index, rfl⟩

/-- A text with two sheets, of which a third is said to be active. -/
def thirdOfTwo : String := "[[[\"A\"],[\"B\"]],2]"

/-- A text with two sheets of one name. -/
def twiceOneName : String := "[[[\"A\"],[\"A\"]]]"

private theorem exists_ofStored?_eq (text : String) (names : List String) (index : Nat)
    (h : (ofStored? text).map (fun wb => (wb.sheetNames, wb.activeIndex)) = some (names, index)) :
    ∃ wb, ofStored? text = some wb ∧ wb.sheetNames = names ∧ wb.activeIndex = index := by
  obtain ⟨wb, hwb, heq⟩ := Option.map_eq_some_iff.mp h
  exact ⟨wb, hwb, congrArg Prod.fst heq, congrArg Prod.snd heq⟩

/-- The missing active sheet is made up for by making another sheet active, not by adding a sheet
under a name that is taken already. Any names can be read, also the same name twice. -/
theorem wellFormed_run_thirdOfTwo :
    (∃ wb, ofStored? thirdOfTwo = some wb ∧ ¬(wb.run [.addSheet "B"]).WellFormed ∧
      (wb.run [.addSheet "B", .activate "B"]).WellFormed) ∧
    ∃ text wb, ofStored? text = some wb ∧ wb.sheetNames = ["A", "A"] ∧ wb.activeIndex = 2 := by
  obtain ⟨wb, hwb, hnames, hindex⟩ :=
    exists_ofStored?_eq thirdOfTwo ["A", "B"] 2 (by decide +kernel)
  have hlength : wb.sheets.length = 2 := by
    rw [← length_sheetNames, hnames]
    rfl
  have hsheet : wb.hasSheet "B" = true := by
    rw [hasSheet_iff, hnames]
    decide
  have hadd : wb.perform (.addSheet "B") = wb := by rw [perform_addSheet, if_pos hsheet]
  obtain ⟨-, -, hadded, hall⟩ := wellFormed_run_iff wb [.addSheet "B"]
  obtain ⟨-, -, hactivated, -⟩ := wellFormed_run_iff wb [.addSheet "B", .activate "B"]
  refine ⟨⟨wb, hwb, fun hwell => ?_, (hactivated _ hwb).mpr ⟨?_, ?_⟩⟩, hall _ 2 (by decide)⟩
  · obtain ⟨-, hactive | hactive⟩ := (hadded _ hwb).mp hwell
    · have hrun : wb.run [.addSheet "B"] = wb := hadd
      rw [hrun, hindex, hlength] at hactive
      exact Nat.lt_irrefl 2 hactive
    · rcases hactive with ⟨name, heq, -⟩ | hactive
      · cases heq
      · exact hactive
  · rw [hnames]
    decide
  · refine Or.inr (Or.inr (Or.inl ⟨"B", rfl, ?_⟩))
    rw [hadd, hsheet]

/-- What is read from a text need not be well formed: there are texts without an active sheet, and
texts with two sheets of one name. -/
theorem not_wellFormed_ofStored? :
    (∃ wb, ofStored? thirdOfTwo = some wb ∧ wb.activeName? = none ∧ ¬(wb.run []).WellFormed) ∧
      ∃ wb, ofStored? twiceOneName = some wb ∧ wb.sheetNames = ["A", "A"] ∧
        ¬(wb.run []).WellFormed := by
  constructor
  · obtain ⟨wb, hwb, hnames, hindex⟩ :=
      exists_ofStored?_eq thirdOfTwo ["A", "B"] 2 (by decide +kernel)
    have hactive : ¬wb.activeIndex < wb.sheets.length := by
      rw [← length_sheetNames, hnames, hindex]
      decide
    refine ⟨wb, hwb, ?_, fun hwell => hactive hwell.active⟩
    rwa [← isSome_activeName?_iff, Option.not_isSome_iff_eq_none] at hactive
  · obtain ⟨wb, hwb, hnames, -⟩ :=
      exists_ofStored?_eq twiceOneName ["A", "A"] 0 (by decide +kernel)
    refine ⟨wb, hwb, hnames, fun hwell => ?_⟩
    have hnodup := hwell.nodup
    rw [run, List.foldl_nil, hnames] at hnodup
    exact absurd hnodup (by decide)

end Spreadsheet.Workbook
