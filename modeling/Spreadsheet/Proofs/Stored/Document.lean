import Spreadsheet.Proofs.Document.Mentions
import Spreadsheet.Proofs.Document.NewSheet
import Spreadsheet.Proofs.Document.Staleness
import Spreadsheet.Proofs.Formula.Mentions
import Spreadsheet.Proofs.Stored.Workbook

/-!
# Tables of documents read back

Hosts take the table of a sheet as a text and read it back. The main statement says when a table is
read back that calls with finite numbers lead to: the values of its formulas have to be finite as
well, no edge may lead to the sheet without a name, and nothing may be nested too deeply. Cells and
edges, texts, errors and raw values are read back in any case. If one of the three conditions fails,
the text is refused.
-/

namespace Spreadsheet

open Json (ReadsBack)

/-- The numbers in the value that a call writes are finite. -/
def Action.hasFiniteInput : Action → Bool
  | .write _ v _ => v.isFinite
  | _ => true

namespace Sheet

/-- What a sheet is like of which the text of its table holds everything. -/
structure Readable (sheet : Sheet) : Prop where
  /-- The values of formulas are finite. -/
  isFinite : ∀ record ∈ sheet.records, record.2.isFormula = true →
    record.2.value.isFinite = true
  /-- The edges lead to sheets with names. -/
  isNamed : ∀ record ∈ sheet.records, ∀ a ∈ record.2.edges, a.sheet ≠ ""
  /-- The text is not nested too deeply. -/
  fits : sheet.cellsToJson.fits storedLevels = true

/-- Where raw values are finite, all values are if those of formulas are. -/
theorem readable_iff {sheet : Sheet} (hraw : ∀ record ∈ sheet.records,
    record.2.formula = none → record.2.value.isFinite = true) :
    sheet.Readable ↔ (sheet.isStorable && sheet.cellsToJson.fits storedLevels) = true := by
  rw [Bool.and_eq_true, isStorable_iff]
  constructor
  · rintro ⟨hfinite, hnamed, hfits⟩
    refine ⟨⟨?_, hnamed⟩, hfits⟩
    rintro x ⟨record, hrecord, hx⟩
    have hvalue : record.2.value.isFinite = true := by
      cases hformula : record.2.formula with
      | none => exact hraw record hrecord hformula
      | some text => exact hfinite record hrecord (by simp [Cell.isFormula, hformula])
    exact List.all_eq_true.mp hvalue x hx
  · rintro ⟨⟨hfinite, hnamed⟩, hfits⟩
    refine ⟨fun record hrecord _ => List.all_eq_true.mpr fun x hx => ?_, hnamed, hfits⟩
    exact hfinite x ⟨record, hrecord, hx⟩

end Sheet

namespace Document

variable {ambient : Ambient} {doc doc' : Document} {a b : QualifiedAddress} {entry : Entry}
  {name : String} {targets : List QualifiedAddress} {allowed : Action → Prop}

/-- A document that calls of a certain kind lead to from an empty one. -/
inductive ReachableBy (allowed : Action → Prop) : Document → Prop where
  /-- The empty document with any settings. -/
  | start (settings : Settings) : ReachableBy allowed (.ofSettings settings)
  /-- One call more, at any moment. -/
  | step {doc : Document} (h : ReachableBy allowed doc) (ambient : Ambient) {action : Action}
      (haction : allowed action) : ReachableBy allowed (doc.perform ambient action)

/-- Allowed calls lead on to documents that allowed calls lead to. -/
theorem ReachableBy.run (h : doc.ReachableBy allowed) (ambient : Ambient) {actions : List Action}
    (hactions : ∀ action ∈ actions, allowed action) :
    (doc.run ambient actions).ReachableBy allowed := by
  induction actions generalizing doc with
  | nil => exact h
  | cons action actions ih =>
    rw [List.forall_mem_cons] at hactions
    exact ih (h.step ambient hactions.1) hactions.2

private theorem ReachableBy.reachable (h : doc.ReachableBy allowed) : doc.Reachable := by
  induction h with
  | start settings => exact .start settings
  | step _ ambient _ ih => exact ih.step ambient _

/-! ## What was written -/

/-- Records belong to cells that exist, and raw values are finite. -/
structure Sound (doc : Document) : Prop where
  /-- A cell with a record exists. -/
  inRange : ∀ a, (doc.workbook.cell? a).isSome = true → a.cell.InRange
  /-- A value that is not computed is finite. -/
  isFinite : ∀ a, (doc.workbook.record a).formula = none →
    (doc.workbook.record a).value.isFinite = true

/-- A text names cells that exist. -/
theorem inRange_of_resolve {address : String} {sheet : Option String}
    (h : doc.resolve address sheet = .ok a) : a.cell.InRange := by
  unfold resolve at h
  split at h
  · cases h
  · rename_i cell hcell
    dsimp only at h
    split at h
    · obtain rfl := Except.ok.inj h
      exact CellAddress.inRange_of_ofText hcell
    · cases h

/-- The cells that an entry mentions exist. -/
theorem Entry.inRange (hb : b ∈ entry.cells a) : b.cell.InRange := by
  unfold Entry.cells at hb
  have hreads := entry.reads
  cases he : entry.formula with
  | none => simp [he] at hb
  | some e =>
    rw [he] at hb hreads
    obtain ⟨text, -, hread⟩ := hreads.exists_text
    exact Formula.inRange_of_read hread (Formula.Expr.mem_references.mp hb)

namespace Consistent

/-- The cells that are read by the formulas of a document exist. -/
theorem inRange_of_mem_references (h : doc.Consistent) (hb : b ∈ doc.references a) :
    b.cell.InRange := by
  obtain ⟨e, ⟨_, _, -, -, hread⟩, hmem⟩ := h.mentions_iff.mpr hb
  exact Formula.inRange_of_read hread hmem

/-- The formulas that are linked to a new sheet have records. -/
theorem isSome_cell?_of_mem_readersOfSheet (h : doc.Consistent)
    {p : QualifiedAddress × AddressSet} (hp : p ∈ doc.readersOfSheet name) :
    (doc.workbook.cell? p.1).isSome = true := by
  obtain ⟨e, he⟩ := Option.isSome_iff_exists.mp (mem_readersOfSheet.mp hp).2.1
  have hreads := h.reads p.1
  rw [he] at hreads
  exact Workbook.isSome_cell?_of_record_ne_blank hreads.ne_blank

/-- The ends of edges have records. -/
theorem isSome_cell?_of_mem_edges (h : doc.Consistent)
    (hb : b ∈ (doc.workbook.record a).edges) : (doc.workbook.cell? b).isSome = true := by
  -- The edge is recorded on its other side, too.
  rw [Cell.edges, List.mem_append, Std.ExtTreeSet.mem_toList, Std.ExtTreeSet.mem_toList,
    h.edges a b, ← h.edges b a] at hb
  refine Workbook.isSome_cell?_of_record_ne_blank fun hblank => ?_
  rw [hblank] at hb
  exact hb.elim Std.ExtTreeSet.not_mem_empty Std.ExtTreeSet.not_mem_empty

end Consistent

namespace Sound

/-- A new document is sound. -/
theorem ofSettings (settings : Settings) : (Document.ofSettings settings).Sound := by
  refine ⟨fun a ha => ?_, fun a _ => ?_⟩
  · obtain ⟨c, hc⟩ := Option.isSome_iff_exists.mp ha
    obtain ⟨sheet, hsheet, hcell⟩ := Option.bind_eq_some_iff.mp hc
    obtain rfl := List.mem_singleton.mp (List.mem_of_find?_eq_some hsheet)
    simp at hcell
  · rw [record_ofSettings]
    rfl

/-- Putting an entry with a finite value into a cell that exists keeps a document sound. -/
theorem edited (h : doc.Sound) (hedit : Edited ambient a entry doc doc') (ha : a.cell.InRange)
    (hentry : entry.text = none → (entry.value.getD .empty).isFinite = true) : doc'.Sound := by
  refine ⟨fun x hx => ?_, fun x hraw => ?_⟩
  · rcases (hedit.recorded x).mp hx with rfl | hx | hx
    · exact ha
    · exact Entry.inRange (Workbook.mem_present.mp hx).1
    · exact h.inRange x hx
  · have htext := hedit.text x
    rw [hedit.raw x hraw]
    rw [hraw] at htext
    split_ifs at htext ⊢
    · exact hentry htext.symm
    · exact h.isFinite x htext.symm

/-- Computing cells anew that have records keeps a document sound. -/
theorem refreshAll (h : doc.Sound) (hcon : doc.Consistent)
    (htargets : ∀ t ∈ targets, (doc.workbook.cell? t).isSome = true) :
    (doc.refreshAll ambient targets).Sound := by
  refine ⟨fun x hx => h.inRange x ((isSome_cell?_refreshAll htargets).mp hx), fun x hraw => ?_⟩
  have hformula : (doc.workbook.record x).formula = none := by
    rw [hcon.record_refreshAll] at hraw
    split_ifs at hraw <;> exact hraw
  rw [hcon.value_refreshAll_of_raw hformula]
  exact h.isFinite x hformula

/-- A sheet more with its edges keeps a document sound. -/
theorem linked (h : doc.Sound) (hcon : doc.Consistent) (name : String) :
    (doc.linked name).Sound := by
  refine ⟨fun x hx => ?_, fun x hraw => ?_⟩
  · rcases (Workbook.isSome_cell?_linkAll hcon.hasSheet_of_mem_readersOfSheet).mp hx with
      ⟨p, hp, rfl | hmem⟩ | hx
    · exact h.inRange _ (hcon.isSome_cell?_of_mem_readersOfSheet hp)
    · have hcell := (Workbook.mem_present.mp hmem).1
      rw [(mem_readersOfSheet.mp hp).1] at hcell
      exact hcon.inRange_of_mem_references hcell
    · rw [Workbook.cell?_extend] at hx
      exact h.inRange x hx
  · have hwritten := hcon.written_record_linked name x
    simp only [Cell.written, Prod.mk.injEq] at hwritten
    rw [hwritten.1]
    exact h.isFinite x (hwritten.2.1.symm.trans hraw)

/-- A new sheet keeps a document sound. -/
theorem addSheet (h : doc.Sound) (hcon : doc.Consistent)
    (hname : doc.workbook.hasSheet name = false) :
    ((doc.linked name).refreshAll ambient ((doc.linked name).workbook.order
      (Std.ExtTreeSet.ofList ((doc.readersOfSheet name).map Prod.fst)))).Sound := by
  refine (h.linked hcon name).refreshAll (hcon.linked hname) fun t ht => ?_
  obtain ⟨p, hp, rfl⟩ := List.mem_map.mp (Workbook.mem_order_ofList_iff.mp ht)
  exact (Workbook.isSome_cell?_linkAll hcon.hasSheet_of_mem_readersOfSheet).mpr
    (.inl ⟨p, hp, .inl rfl⟩)

/-- A call with finite numbers that succeeds keeps a document sound. -/
theorem attempt (h : doc.Sound) (hcon : doc.Consistent) {action : Action}
    (haction : action.hasFiniteInput = true) (hd : doc.attempt? ambient action = some doc') :
    doc'.Sound := by
  cases action with
  | addSheet name =>
    obtain ⟨hname, rfl⟩ := addSheet_eq_ok_iff.mp (toOption_eq_some_iff.mp hd)
    exact h.addSheet hcon hname
  | activate name =>
    obtain ⟨wb, hwb, rfl⟩ := Option.map_eq_some_iff.mp hd
    obtain ⟨index, -, rfl⟩ := Option.map_eq_some_iff.mp hwb
    exact ⟨h.inRange, h.isFinite⟩
  | write address v sheet =>
    obtain ⟨a, ha, rfl⟩ := write_eq_ok_iff.mp (toOption_eq_some_iff.mp hd)
    obtain ⟨entry, hvalue, hstore⟩ := exists_store_eq_put v
    have hfinite : entry.text = none → (entry.value.getD .empty).isFinite = true := by
      intro htext
      rw [hvalue htext]
      exact haction
    exact h.edited (hcon.edited_writeAt (hasSheet_of_resolve ha) (hstore doc a))
      (inRange_of_resolve ha) hfinite
  | clear address sheet =>
    obtain ⟨a, ha, rfl⟩ := clear_eq_ok_iff.mp (toOption_eq_some_iff.mp hd)
    exact h.edited (hcon.edited_clearAt (hasSheet_of_resolve ha)) (inRange_of_resolve ha)
      fun _ => rfl
  | recalculate =>
    obtain rfl := Option.some.inj hd
    refine h.refreshAll hcon fun t ht => ?_
    exact hcon.isSome_cell?_of_mem_formulaCells (Workbook.mem_order_ofList_iff.mp ht)

end Sound

/-- Whatever calls with finite numbers lead to a document, it is sound. -/
theorem ReachableBy.sound (h : doc.ReachableBy fun action => action.hasFiniteInput = true) :
    doc.Sound := by
  induction h with
  | start settings => exact .ofSettings settings
  | @step doc hdoc ambient action haction ih =>
    unfold Document.perform
    cases hd : doc.attempt? ambient action with
    | none => exact ih
    | some doc' => exact ih.attempt hdoc.reachable.consistent haction hd

/-! ## Tables -/

variable {sheet : Sheet} {record : CellAddress × Cell}

namespace Consistent

/-- What a sheet lists is what is recorded at the address. -/
theorem cell?_of_mem_records (h : doc.Consistent) (hsheet : sheet ∈ doc.workbook.sheets)
    (hrecord : record ∈ sheet.records) :
    doc.workbook.cell? ⟨sheet.name, record.1⟩ = some record.2 := by
  rw [Workbook.cell?_of_mem h.names hsheet]
  exact Std.ExtTreeMap.mem_toList_iff_getElem?_eq_some.mp hrecord

/-- If all sheets have names, so have those that edges lead to. -/
theorem isNamed_of_mem_edges (h : doc.Consistent) (hname : doc.workbook.hasSheet "" = false)
    (hsheet : sheet ∈ doc.workbook.sheets) (hrecord : record ∈ sheet.records)
    {a : QualifiedAddress} (ha : a ∈ record.2.edges) : a.sheet ≠ "" := by
  rw [← Workbook.record_of_cell? (h.cell?_of_mem_records hsheet hrecord)] at ha
  obtain ⟨c, hc⟩ := Option.isSome_iff_exists.mp (h.isSome_cell?_of_mem_edges ha)
  intro hempty
  rw [← hempty, Workbook.hasSheet_of_cell? hc] at hname
  cases hname

end Consistent

/-- The cells and the edges of every sheet exist. -/
theorem Sound.inRange_sheet (h : doc.Sound) (hcon : doc.Consistent)
    (hsheet : sheet ∈ doc.workbook.sheets) : sheet.InRange := by
  intro record hrecord
  have hcell := hcon.cell?_of_mem_records hsheet hrecord
  refine ⟨h.inRange ⟨sheet.name, record.1⟩ (by rw [hcell]; rfl), fun a ha => ?_⟩
  rw [← Workbook.record_of_cell? hcell] at ha
  exact h.inRange a (hcon.isSome_cell?_of_mem_edges ha)

/-- A table of a document that calls with finite numbers lead to is read back from its text exactly
if the values of its formulas are finite, its edges lead to sheets with names and it is not nested
too deeply. Otherwise its text is refused. -/
theorem ReachableBy.readsBack_iff_readable
    (h : doc.ReachableBy fun action => action.hasFiniteInput = true)
    (hsheet : sheet ∈ doc.workbook.sheets)
    (hnumbers : ∀ x, sheet.HasNumber x → x.isFinite = true → ReadsBack x) :
    (Sheet.cellsOfStored? sheet.cellsToStored = some sheet.cells ↔ sheet.Readable) ∧
      (¬sheet.Readable → Sheet.cellsOfStored? sheet.cellsToStored = none) := by
  have hcon := h.reachable.consistent
  have hraw : ∀ record ∈ sheet.records, record.2.formula = none →
      record.2.value.isFinite = true := by
    intro record hrecord hformula
    have heq := Workbook.record_of_cell? (hcon.cell?_of_mem_records hsheet hrecord)
    rw [← heq] at hformula ⊢
    exact h.sound.isFinite _ hformula
  rw [Sheet.cellsOfStored?_cellsToStored (h.sound.inRange_sheet hcon hsheet) hnumbers,
    Sheet.readable_iff hraw]
  split_ifs with hreadable
  · exact ⟨iff_of_true rfl hreadable, fun hnot => absurd hreadable hnot⟩
  · exact ⟨iff_of_false nofun hreadable, fun _ => rfl⟩

/-- Two sheets, one of which has a mark in its name, with formulas that read cells of both, a table
and a text that is not well formed. -/
def quotedSheets : Document :=
  (Document.ofSettings {}).run .newYear
    [ .addSheet "a!\"b\"",
      .write "A1" (.number (-2.5e-7)) none,
      .write "B1" (.text "='a!\"b\"'!A1&\"é\"") none,
      .write "C1" (.text "=\x7b0.1,\"x\";A1,B1\x7d") none,
      .write "A1" (.text "=(") (some "a!\"b\"") ]

/-- The tables of both sheets are read back. -/
theorem readsBack_quotedSheets :
    (quotedSheets.ReachableBy fun action => action.hasFiniteInput = true) ∧
      ∀ sheet ∈ quotedSheets.workbook.sheets,
        (∀ x, sheet.HasNumber x → x.isFinite = true → ReadsBack x) ∧ sheet.Readable ∧
          Sheet.cellsOfStored? sheet.cellsToStored = some sheet.cells := by
  have hreach : quotedSheets.ReachableBy fun action => action.hasFiniteInput = true :=
    (ReachableBy.start _).run _ (by decide +kernel)
  have hrecords : ∀ sheet ∈ quotedSheets.workbook.sheets, ∀ record ∈ sheet.records,
      ∀ x ∈ record.2.value.numbers, ReadsBack x := by decide +kernel
  have hfinite : ∀ sheet ∈ quotedSheets.workbook.sheets, ∀ record ∈ sheet.records,
      record.2.isFormula = true → record.2.value.isFinite = true := by decide +kernel
  have hfits : ∀ sheet ∈ quotedSheets.workbook.sheets,
      sheet.cellsToJson.fits storedLevels = true := by decide +kernel
  refine ⟨hreach, fun sheet hsheet => ?_⟩
  have hnumbers : ∀ x, sheet.HasNumber x → x.isFinite = true → ReadsBack x := by
    rintro x ⟨record, hrecord, hx⟩ -
    exact hrecords sheet hsheet record hrecord x hx
  have hreadable : sheet.Readable := by
    refine ⟨hfinite sheet hsheet, fun record hrecord a ha => ?_, hfits sheet hsheet⟩
    exact hreach.reachable.consistent.isNamed_of_mem_edges (by decide +kernel) hsheet hrecord ha
  exact ⟨hnumbers, hreadable,
    (ReachableBy.readsBack_iff_readable hreach hsheet hnumbers).1.mpr hreadable⟩

/-- A document with a formula on a sheet without a name. -/
def namelessSheet : Document :=
  (Document.ofSettings {}).run .newYear [.addSheet "", .write "A1" (.text "=B1") (some "")]

/-- Not every table that calls with finite numbers lead to is read back: edges on a sheet without a
name are refused. -/
theorem not_readsBack_namelessSheet : ¬∀ (doc : Document) (sheet : Sheet),
    (doc.ReachableBy fun action => action.hasFiniteInput = true) → sheet ∈ doc.workbook.sheets →
      (∀ x, sheet.HasNumber x → x.isFinite = true → ReadsBack x) →
        Sheet.cellsOfStored? sheet.cellsToStored = some sheet.cells := by
  intro hall
  have hreach : namelessSheet.ReachableBy fun action => action.hasFiniteInput = true :=
    (ReachableBy.start _).run _ (by decide +kernel)
  have hrefused : ∃ sheet ∈ namelessSheet.workbook.sheets,
      (∀ record ∈ sheet.records, record.2.value.numbers = []) ∧
        (Sheet.cellsOfStored? sheet.cellsToStored).isSome = false := by decide +kernel
  obtain ⟨sheet, hsheet, hnumbers, hnone⟩ := hrefused
  have hread := hall namelessSheet sheet hreach hsheet (by
    rintro x ⟨record, hrecord, hx⟩ -
    rw [hnumbers record hrecord] at hx
    cases hx)
  rw [hread] at hnone
  cases hnone

/-- Finite numbers can have a median that is infinite, which leaves its formula unreadable. -/
example : (Function.median [.number 1.7e308, .number 1.7e308]).isFinite = false := by
  have hmedian : ∀ x : Float,
      Function.median [.number x, .number x] = .number ((x + x) / 2.0) := by
    intro x
    simp [Function.median, Function.middle?, Function.ascending, Function.numbers,
      Function.flatten, Function.spread, Function.countedNumber?, Value.isBlank, Value.number?,
      List.mergeSort]
  rw [hmedian]
  decide +kernel

end Document

end Spreadsheet
