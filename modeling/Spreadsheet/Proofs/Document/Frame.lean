import Spreadsheet.Proofs.Document.Commutation

/-!
# What a change leaves alone

Writing or clearing a cell reaches into the records of the cells that its old formula read, of those
that its new formula reads, and of those whose formulas read it. The main statement says how much of
these records the change touches, that all other records stay as they were, and which records are
new. Where only the direct readers are recalculated, the cell and these readers end with the values
that evaluating them gives.
-/

namespace Spreadsheet

/-- Where there is a record, it is what is found. -/
theorem Workbook.cell?_eq_some_record {wb : Workbook} {a : QualifiedAddress}
    (h : (wb.cell? a).isSome = true) : wb.cell? a = some (wb.record a) := by
  obtain ⟨c, hc⟩ := Option.isSome_iff_exists.mp h
  rw [record_of_cell? hc, hc]

namespace Document

variable {ambient : Ambient} {doc doc' : Document} {a b x : QualifiedAddress} {c c' : Cell}
  {entry : Entry} {targets : List QualifiedAddress}

/-- A change of `a` can change the value that is kept with `b`, which reads `a` directly or, where
all cells downstream are recalculated, through others. -/
def Follows (doc : Document) (b a : QualifiedAddress) : Prop :=
  match doc.settings.mode with
  | .directDependents => b ∈ doc.workbook.dependentsOf a
  | .transitive => Relation.TransGen (fun x y => y ∈ doc.workbook.dependentsOf x) a b

/-- What becomes of the record of another cell when `a` is changed. -/
structure RecordKept (a : QualifiedAddress) (c c' : Cell) : Prop where
  /-- The text is kept. -/
  formula : c'.formula = c.formula
  /-- The error is kept. -/
  error : c'.error = c.error
  /-- What the cell reads is kept. -/
  dependencies : c'.dependencies = c.dependencies
  /-- The readers are kept, apart from the changed cell. -/
  dependents : ∀ x ≠ a, x ∈ c'.dependents ↔ x ∈ c.dependents
  /-- A raw value is kept. -/
  value : c.formula = none → c'.value = c.value

/-- What a change of `a` does to a document at most. -/
structure Framed (ambient : Ambient) (a : QualifiedAddress) (doc doc' : Document) : Prop where
  /-- The settings are kept. -/
  settings : doc'.settings = doc.settings
  /-- No sheet is added or removed. -/
  sheetNames : doc'.workbook.sheetNames = doc.workbook.sheetNames
  /-- No other sheet becomes active. -/
  activeIndex : doc'.workbook.activeIndex = doc.workbook.activeIndex
  /-- The other records are kept but for their readers and the values of those that follow it. -/
  kept : ∀ b ≠ a, ∀ c, doc.workbook.cell? b = some c →
    ∃ c', doc'.workbook.cell? b = some c' ∧ RecordKept a c c' ∧
      (c'.value ≠ c.value → doc'.Follows b a)
  /-- A new record is that of the cell, or it records for a cell that the formula mentions that it
  is read, and nothing else. -/
  made : ∀ b c', doc.workbook.cell? b = none → doc'.workbook.cell? b = some c' →
    b = a ∨ b ∈ doc'.references a ∧ c' = Cell.blank.addDependent a
  /-- Where only direct readers are recalculated, they and the cell have the values that evaluating
  them gives. -/
  fresh : doc.settings.mode = .directDependents →
    ∀ b, b = a ∨ b ∈ doc'.workbook.dependentsOf a → ∃ c', doc'.workbook.cell? b = some c' ∧
      c'.value = doc'.compute ambient b ∧
      (doc'.Steady b → ∀ ambient', c'.value = doc'.compute ambient' b)

/-! ## Putting an entry into a cell -/

/-- What is recorded of another cell before any recalculation. -/
theorem recordKept_put (ha : doc.workbook.hasSheet a.sheet = true) (hb : b ≠ a) :
    RecordKept a (doc.workbook.record b) ((doc.put a entry).workbook.record b) := by
  have hwritten : ((doc.put a entry).workbook.record b).written =
      (doc.workbook.record b).written := written_record_install ha hb.symm
  simp only [Cell.written, Prod.mk.injEq] at hwritten
  refine ⟨hwritten.2.1, hwritten.2.2, dependencies_record_install ha hb.symm, fun x hx => ?_,
    fun _ => hwritten.1⟩
  rw [Document.put, record_install ha, if_neg hb.symm, Workbook.mem_dependents_record_link]
  simp [hx.symm]

/-- A cell that an entry mentions and that had no record gets one with nothing but its reader. -/
theorem Consistent.record_put_of_none (h : doc.Consistent)
    (ha : doc.workbook.hasSheet a.sheet = true) (hb : b ≠ a) (hnone : doc.workbook.cell? b = none)
    (hmem : b ∈ doc.workbook.present (entry.cells a)) :
    (doc.put a entry).workbook.record b = Cell.blank.addDependent a := by
  have hblank : doc.workbook.record b = .blank := Workbook.record_of_cell?_none hnone
  have hold : b ∉ (doc.workbook.record a).dependencies := by
    rw [h.edges a b, hblank]
    exact Std.ExtTreeSet.not_mem_empty
  rw [Document.put, record_install ha, if_neg hb.symm, Workbook.record_link ha]
  dsimp only
  rw [if_neg hold, if_pos hmem, if_neg hb.symm, hblank]

/-- The cells that the formula of a cell mentions after an entry was put into it. -/
theorem references_put (doc : Document) (a : QualifiedAddress) (entry : Entry) :
    (doc.put a entry).references a = entry.cells a := by
  rw [references, Document.put, formulas_install, if_pos rfl]
  rfl

/-! ## Recalculation -/

/-- Computing cells anew leaves their edges alone. -/
theorem dependentsOf_refreshAll (ambient : Ambient) (doc : Document)
    (targets : List QualifiedAddress) (a : QualifiedAddress) :
    (doc.refreshAll ambient targets).workbook.dependentsOf a = doc.workbook.dependentsOf a := by
  induction targets generalizing doc with
  | nil => rfl
  | cons t targets ih =>
    refine (ih (doc.refresh ambient t)).trans ?_
    obtain ⟨v, hv⟩ := exists_record_refresh ambient doc t a
    rw [Workbook.dependentsOf_eq, Workbook.dependentsOf_eq, hv]

private theorem references_refreshAll (ambient : Ambient) (doc : Document)
    (targets : List QualifiedAddress) (a : QualifiedAddress) :
    (doc.refreshAll ambient targets).references a = doc.references a := by
  rw [references, references, formulas_refreshAll]

private theorem follows_refreshAll (ambient : Ambient) (doc : Document)
    (targets : List QualifiedAddress) : (doc.refreshAll ambient targets).Follows b a ↔
      doc.Follows b a := by
  simp only [Follows, settings_refreshAll, dependentsOf_refreshAll]

/-- The cells that are affected by a change follow the changed cell. -/
theorem follows_of_mem_affected (hb : b ∈ doc.affected a) : doc.Follows b a := by
  unfold Follows
  cases hmode : doc.settings.mode with
  | directDependents =>
    unfold affected at hb
    rw [hmode] at hb
    exact Std.ExtTreeSet.mem_toList.mp hb
  | transitive =>
    obtain ⟨-, hpath⟩ := Workbook.mem_downstream_iff.mp ((mem_affected_iff hmode).mp hb)
    simpa only [Workbook.readers, Std.ExtTreeSet.mem_toList] using hpath

/-- Where only direct readers are recalculated, all of them are. -/
theorem mem_affected_of_mem_dependentsOf (hmode : doc.settings.mode = .directDependents)
    (hb : b ∈ doc.workbook.dependentsOf a) : b ∈ doc.affected a := by
  unfold affected
  rw [hmode]
  exact Std.ExtTreeSet.mem_toList.mpr hb

namespace Consistent

/-- Computing cells anew leaves their records alone but for the values of those with formulas. -/
theorem recordKept_refreshAll (h : doc.Consistent)
    (hkept : RecordKept a c (doc.workbook.record b)) :
    RecordKept a c ((doc.refreshAll ambient targets).workbook.record b) := by
  have hvalue : c.formula = none →
      ((doc.refreshAll ambient targets).workbook.record b).value = c.value := fun hraw =>
    (h.value_refreshAll_of_raw (hkept.formula.trans hraw)).trans (hkept.value hraw)
  rw [h.record_refreshAll] at hvalue ⊢
  split_ifs at hvalue ⊢ with hb
  · exact ⟨hkept.formula, hkept.error, hkept.dependencies, hkept.dependents, hvalue⟩
  · exact hkept

/-- A record without a formula is not changed by computing cells anew. -/
theorem record_refreshAll_of_raw (h : doc.Consistent)
    (hraw : (doc.workbook.record b).formula = none) :
    (doc.refreshAll ambient targets).workbook.record b = doc.workbook.record b := by
  rw [h.record_refreshAll]
  split_ifs with hb
  · rw [h.compute_of_raw hb.2 hraw]
  · rfl

/-- A cell that was computed anew has the value that evaluating it gives. -/
theorem value_refreshAll_eq_compute (h : doc.Consistent)
    (hsheet : doc.workbook.hasSheet b.sheet = true)
    (hb : b ∈ targets ∨ (doc.workbook.record b).formula = none) :
    ((doc.refreshAll ambient targets).workbook.record b).value =
      (doc.refreshAll ambient targets).compute ambient b := by
  rw [h.compute_refreshAll]
  rcases hb with hmem | hraw
  · rw [h.record_refreshAll, if_pos ⟨hmem, hsheet⟩]
  · rw [h.value_refreshAll_of_raw hraw, h.compute_of_raw hsheet hraw]

/-- Putting an entry into a cell and computing cells anew that follow it, the cell itself among them
unless its value is raw, stays within the frame. -/
theorem framed (h : doc.Consistent) (ha : doc.workbook.hasSheet a.sheet = true)
    (htargets : ∀ t ∈ targets, t = a ∨ (doc.put a entry).Follows t a)
    (hrecorded : ∀ t ∈ targets, ((doc.put a entry).workbook.cell? t).isSome = true)
    (hself : a ∈ targets ∨ entry.text = none)
    (hreaders : doc.settings.mode = .directDependents →
      ∀ b ∈ (doc.put a entry).workbook.dependentsOf a, b ∈ targets) :
    Framed ambient a doc ((doc.put a entry).refreshAll ambient targets) := by
  have hput : (doc.put a entry).Consistent := h.put ha entry
  have hafter := hput.refreshAll ambient targets
  obtain ⟨hnames, hindex⟩ := sheets_refreshAll ambient (doc.put a entry) targets
  have hfound : ∀ b, ((doc.put a entry).workbook.cell? b).isSome = true →
      ((doc.put a entry).refreshAll ambient targets).workbook.cell? b =
        some (((doc.put a entry).refreshAll ambient targets).workbook.record b) := fun b hb =>
    Workbook.cell?_eq_some_record ((isSome_cell?_refreshAll hrecorded).mpr hb)
  refine ⟨settings_refreshAll _ _ _, hnames.trans ?_,
    hindex.trans (Workbook.activeIndex_link _ _ _),
    fun b hb c hc => ?kept, fun b c' hnone hc' => ?made, fun hmode b hb => ?fresh⟩
  · simp [Document.put, Document.install]
  case kept =>
    have hsome : (doc.workbook.cell? b).isSome = true := by simp [hc]
    have hkept : RecordKept a c ((doc.put a entry).workbook.record b) :=
      Workbook.record_of_cell? hc ▸ recordKept_put ha hb
    refine ⟨_, hfound b ((isSome_cell?_install ha).mpr (Or.inr (Or.inr hsome))),
      hput.recordKept_refreshAll hkept, fun hchanged => ?_⟩
    -- A cell that is not computed anew keeps its value.
    by_contra hnot
    rw [follows_refreshAll] at hnot
    have hmem : b ∉ targets := fun hmem => (htargets b hmem).elim hb hnot
    rw [hput.record_refreshAll, if_neg fun hboth => hmem hboth.1, value_record_put ha hb.symm,
      Workbook.record_of_cell? hc] at hchanged
    exact hchanged rfl
  case made =>
    have hsome : ((doc.put a entry).workbook.cell? b).isSome = true :=
      (isSome_cell?_refreshAll hrecorded).mp (by rw [hc']; rfl)
    by_cases hb : b = a
    · exact Or.inl hb
    have hmem : b ∈ doc.workbook.present (entry.cells a) := by
      rcases (isSome_cell?_install ha).mp hsome with heq | hmem | hold
      · exact absurd heq hb
      · exact hmem
      · rw [hnone] at hold
        cases hold
    have hrecord := h.record_put_of_none ha hb hnone hmem
    refine Or.inr ⟨?_, ?_⟩
    · rw [references_refreshAll, references_put]
      exact (Workbook.mem_present.mp hmem).1
    · rw [← Workbook.record_of_cell? hc', hput.record_refreshAll_of_raw (by rw [hrecord]; rfl),
        hrecord]
  case fresh =>
    rw [dependentsOf_refreshAll] at hb
    have hsome : ((doc.put a entry).workbook.cell? b).isSome = true := by
      rcases hb with rfl | hb
      · exact (isSome_cell?_install ha).mpr (Or.inl rfl)
      · exact hrecorded b (hreaders hmode b hb)
    have hcomputed : b ∈ targets ∨ ((doc.put a entry).workbook.record b).formula = none := by
      rcases hb with rfl | hb
      · exact hself.imp_right fun hraw => by rw [formula_record_put ha, if_pos rfl, hraw]
      · exact Or.inl (hreaders hmode b hb)
    obtain ⟨c, hc⟩ := Option.isSome_iff_exists.mp hsome
    have hvalue : (((doc.put a entry).refreshAll ambient targets).workbook.record b).value =
        ((doc.put a entry).refreshAll ambient targets).compute ambient b :=
      hput.value_refreshAll_eq_compute (Workbook.hasSheet_of_cell? hc) hcomputed
    refine ⟨_, hfound b hsome, hvalue, fun hsteady ambient' => ?_⟩
    exact hvalue.trans (hafter.compute_eq_of_steady hsteady ambient' ambient)

end Consistent

/-! ## Calls -/

namespace Consistent

/-- Writing into a cell leaves alone what it does not concern. -/
theorem framed_writeAt (h : doc.Consistent) (ha : doc.workbook.hasSheet a.sheet = true) {v : Value}
    (hstore : doc.store a v = doc.put a entry) :
    Framed ambient a doc (doc.writeAt ambient a v) := by
  rw [writeAt_eq_refreshAll, hstore]
  have hput : (doc.put a entry).Consistent := h.put ha entry
  have hrefresh := hput.refresh ambient a
  have hself : ((doc.put a entry).workbook.cell? a).isSome = true :=
    (isSome_cell?_install ha).mpr (Or.inl rfl)
  -- The affected cells are found after the value of the cell itself was computed.
  have hfollows : ∀ b, ((doc.put a entry).refresh ambient a).Follows b a ↔
      (doc.put a entry).Follows b a := fun b => follows_refreshAll ambient _ [a]
  have hdependents : ((doc.put a entry).refresh ambient a).workbook.dependentsOf a =
      (doc.put a entry).workbook.dependentsOf a := dependentsOf_refreshAll ambient _ [a] a
  refine h.framed ha (fun t ht => ?_) (fun t ht => ?_) (Or.inl List.mem_cons_self)
    fun hmode b hb => ?_
  · rcases List.mem_cons.mp ht with rfl | ht
    · exact Or.inl rfl
    · exact Or.inr ((hfollows t).mp (follows_of_mem_affected ht))
  · rcases List.mem_cons.mp ht with rfl | ht
    · exact hself
    · exact (isSome_cell?_refresh hself).mp (hrefresh.isSome_cell?_of_mem_affected ht)
  · refine List.mem_cons_of_mem a (mem_affected_of_mem_dependentsOf ?_ (hdependents ▸ hb))
    rw [settings_refresh, Document.put, settings_install, hmode]

/-- Clearing a cell leaves alone what it does not concern. -/
theorem framed_clearAt (h : doc.Consistent) (ha : doc.workbook.hasSheet a.sheet = true) :
    Framed ambient a doc (doc.clearAt ambient a) := by
  have hput : (doc.put a (.ofValue .empty)).Consistent := h.put ha _
  have hcleared : doc.clearAt ambient a = (doc.put a (.ofValue .empty)).refreshAll ambient
      ((doc.put a (.ofValue .empty)).affected a) := rfl
  rw [hcleared]
  refine h.framed ha (fun t ht => Or.inr (follows_of_mem_affected ht))
    (fun t ht => hput.isSome_cell?_of_mem_affected ht) (Or.inr rfl) fun hmode b hb => ?_
  exact mem_affected_of_mem_dependentsOf hmode hb

end Consistent

/-- Whatever calls lead to a document, a call that writes or clears a cell leaves alone the texts,
errors and dependencies of all other records, their readers apart from the cell, the values of those
that do not follow it, and the sheets. The only new records are that of the cell and those of cells
that its formula mentions, which hold nothing but their reader. Where only direct readers are
recalculated, they and the cell have the values that evaluating them gives. -/
theorem Reachable.framed_edit {action : Action} (h : doc.Reachable)
    (ha : doc.target? action = some a) (hd : doc.attempt? ambient action = some doc') :
    Framed ambient a doc doc' := by
  have hcon := h.consistent
  cases action with
  | write address v sheet =>
    have hresolve := resolve_eq_ok_of_toOption ha
    obtain ⟨b, hb, rfl⟩ := write_eq_ok_iff.mp (toOption_eq_some_iff.mp hd)
    obtain rfl := Except.ok.inj (hresolve.symm.trans hb)
    obtain ⟨entry, -, hstore⟩ := exists_store_eq_put v
    exact hcon.framed_writeAt (hasSheet_of_resolve hresolve) (hstore doc a)
  | clear address sheet =>
    have hresolve := resolve_eq_ok_of_toOption ha
    obtain ⟨b, hb, rfl⟩ := clear_eq_ok_iff.mp (toOption_eq_some_iff.mp hd)
    obtain rfl := Except.ok.inj (hresolve.symm.trans hb)
    exact hcon.framed_clearAt (hasSheet_of_resolve hresolve)
  | addSheet name | activate name => cases ha
  | recalculate => cases ha

/-- A document with a chain of three formulas, the first of which reads two cells. -/
def shortChain : Document :=
  (Document.ofSettings {}).run .newYear
    [ .write "A1" (.text "x") none,
      .write "B1" (.text "=A1&A2") none,
      .write "C1" (.text "=B1&\"y\"") none,
      .write "D1" (.text "=C1") none ]

/-- The first formula is replaced by one that reads itself, one of the cells that the old one read
and another one, of which nothing was recorded before. -/
theorem framed_shortChain :
    shortChain.Reachable ∧ shortChain.settings.mode = .directDependents ∧
      ∃ doc', shortChain.attempt? .newYear (.write "B1" (.text "=A2&A3&B1") none) = some doc' ∧
        Framed .newYear ⟨"Sheet1", ⟨1, 2⟩⟩ shortChain doc' ∧
        doc'.workbook.cell? ⟨"Sheet1", ⟨3, 1⟩⟩ =
          some (Cell.blank.addDependent ⟨"Sheet1", ⟨1, 2⟩⟩) := by
  have hreach : shortChain.Reachable := (Reachable.start _).run _ _
  have ha : shortChain.target? (.write "B1" (.text "=A2&A3&B1") none) =
      some ⟨"Sheet1", ⟨1, 2⟩⟩ := by decide +kernel
  have hd : shortChain.attempt? .newYear (.write "B1" (.text "=A2&A3&B1") none) =
      some (shortChain.writeAt .newYear ⟨"Sheet1", ⟨1, 2⟩⟩ (.text "=A2&A3&B1")) :=
    toOption_eq_some_iff.mpr (write_eq_ok_iff.mpr ⟨_, resolve_eq_ok_of_toOption ha, rfl⟩)
  have hframed := Reachable.framed_edit hreach ha hd
  have hbefore : (shortChain.workbook.cell? ⟨"Sheet1", ⟨3, 1⟩⟩).isNone = true := by
    decide +kernel
  have hafter : ((shortChain.writeAt .newYear ⟨"Sheet1", ⟨1, 2⟩⟩
      (.text "=A2&A3&B1")).workbook.cell? ⟨"Sheet1", ⟨3, 1⟩⟩).isSome = true := by
    decide +kernel
  refine ⟨hreach, by decide +kernel, _, hd, hframed, ?_⟩
  obtain ⟨c', hc'⟩ := Option.isSome_iff_exists.mp hafter
  have hmade := hframed.made _ c' (Option.isNone_iff_eq_none.mp hbefore) hc'
  rw [hc', (hmade.resolve_left (by decide)).2]

end Document

end Spreadsheet
