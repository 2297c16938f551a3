import Spreadsheet.Proofs.Document.Edit

/-!
# Changes of different cells commute

The formulas that are computed by one of two changes are those that use one of the cells in the end,
whatever the document was like in between. The main statement compares the documents to which two
changes of different cells lead in either order.
-/

namespace Spreadsheet.Document

variable {ambient now now' later later' : Ambient} {doc doc' doc₁ doc₂ docA docB : Document}
  {a b x : QualifiedAddress} {entry entry' : Entry}

namespace Edited

/-- Two changes of different cells lead to the same texts in either order. -/
theorem sameTexts (hne : a ≠ b) (hfirst : Edited now a entry doc doc₁)
    (hthen : Edited later b entry' doc₁ docA) (hsecond : Edited now' b entry' doc doc₂)
    (hthen' : Edited later' a entry doc₂ docB) : SameTexts docB docA := by
  have htext : ∀ x, (docA.workbook.record x).formula = (docB.workbook.record x).formula := by
    intro x
    rw [hthen.text, hfirst.text, hthen'.text, hsecond.text]
    by_cases ha : a = x
    · subst ha
      simp [hne.symm]
    · simp [ha]
  refine ⟨?_, ?_, ?_, fun x => ?_, htext, fun x hraw => ?_⟩
  · rw [hthen.settings, hfirst.settings, hthen'.settings, hsecond.settings]
  · rw [hthen.sheetNames, hfirst.sheetNames, hthen'.sheetNames, hsecond.sheetNames]
  · rw [hthen.activeIndex, hfirst.activeIndex, hthen'.activeIndex, hsecond.activeIndex]
  · rw [Bool.eq_iff_iff, hthen.recorded, hfirst.recorded, hthen'.recorded, hsecond.recorded,
      hfirst.present, hsecond.present]
    tauto
  · have hrawA : (docA.workbook.record x).formula = none := (htext x).trans hraw
    rw [hthen.raw x hrawA, hthen'.raw x hraw]
    by_cases ha : a = x
    · subst ha
      rw [hthen.text, if_neg hne.symm] at hrawA
      rw [if_neg hne.symm, hfirst.raw a hrawA, if_pos rfl, if_pos rfl]
    by_cases hb : b = x
    · subst hb
      rw [hthen'.text, if_neg hne] at hraw
      rw [if_neg hne, hsecond.raw b hraw, if_pos rfl, if_pos rfl]
    · rw [hthen.text, if_neg hb] at hrawA
      rw [hthen'.text, if_neg ha] at hraw
      rw [if_neg hb, if_neg ha, hfirst.raw x hrawA, hsecond.raw x hraw, if_neg ha, if_neg hb]

/-- After two changes, the formulas that use one of the cells have new values, and the others have
those from before. -/
theorem value_of_two (hmode : doc.settings.mode = .transitive)
    (hfirst : Edited now a entry doc doc₁) (hthen : Edited later b entry' doc₁ docA)
    (hx : (docA.workbook.record x).isFormula = true) (hsteady : docA.Steady x) :
    (docA.Uses x a ∨ docA.Uses x b →
      (docA.workbook.record x).value = docA.compute later x) ∧
    (¬(docA.Uses x a ∨ docA.Uses x b) →
      (docA.workbook.record x).value = (doc.workbook.record x).value) := by
  have hmode₁ : doc₁.settings.mode = .transitive := by rw [hfirst.settings, hmode]
  by_cases hb : docA.Uses x b
  · exact ⟨fun _ => hthen.computed hmode₁ x hx hb, fun hnot => absurd (Or.inr hb) hnot⟩
  -- What does not use the second cell is as it was after the first change.
  have hsame : SameOn {x | ¬docA.Uses x b} doc₁ docA := hthen.sameOn hfirst.consistent
  have hvalue := hthen.kept hmode₁ x hx hb
  have hx₁ : (doc₁.workbook.record x).isFormula = true := by
    rw [Cell.isFormula, ← hsame.formula x hb]
    exact hx
  have huses : docA.Uses x a ↔ doc₁.Uses x a := hsame.uses_iff hb
  refine ⟨fun hor => ?_, fun hnot => ?_⟩
  · have ha : doc₁.Uses x a := huses.mp (hor.resolve_right hb)
    rw [hvalue, hfirst.computed hmode x hx₁ ha]
    exact (hsame.compute_eq_of_steady hfirst.consistent hb hsteady now later).symm
  · have ha : ¬doc₁.Uses x a := fun ha => hnot (Or.inl (huses.mpr ha))
    rw [hvalue, hfirst.kept hmode x hx₁ ha]

/-- Two changes of different cells lead to the same values of the formulas in either order. -/
theorem value_eq (hmode : doc.settings.mode = .transitive) (hne : a ≠ b)
    (hfirst : Edited now a entry doc doc₁) (hthen : Edited later b entry' doc₁ docA)
    (hsecond : Edited now' b entry' doc doc₂) (hthen' : Edited later' a entry doc₂ docB)
    (hx : (docB.workbook.record x).isFormula = true) (hsteady : docA.Steady x) :
    (docA.workbook.record x).value = (docB.workbook.record x).value := by
  have hs : SameOn Set.univ docB docA :=
    (sameTexts hne hfirst hthen hsecond hthen').sameOn hthen'.consistent hthen.consistent
  have hmem : x ∈ Set.univ := Set.mem_univ x
  have hxA : (docA.workbook.record x).isFormula = true := by
    rw [Cell.isFormula, hs.formula x hmem]
    exact hx
  obtain ⟨hcomputed, hkept⟩ := value_of_two hmode hfirst hthen hxA hsteady
  obtain ⟨hcomputed', hkept'⟩ := value_of_two hmode hsecond hthen' hx (hs.steady hmem hsteady)
  have huses : ∀ y, docA.Uses x y ↔ docB.Uses x y := fun y => hs.uses_iff hmem
  by_cases hor : docA.Uses x a ∨ docA.Uses x b
  · have hor' : docB.Uses x b ∨ docB.Uses x a := by
      rw [← huses, ← huses]
      exact hor.symm
    rw [hcomputed hor, hcomputed' hor']
    exact hs.compute_eq_of_steady hthen'.consistent hmem hsteady later' later
  · have hnor : ¬(docB.Uses x b ∨ docB.Uses x a) := by
      rw [← huses, ← huses]
      exact fun hor' => hor hor'.symm
    rw [hkept hor, hkept' hnor]

end Edited

/-! ## Calls -/

/-- A call that succeeds leads to the document after the call. -/
theorem eq_perform_of_attempt? {action : Action} (h : doc.attempt? ambient action = some doc') :
    doc' = doc.perform ambient action := by
  rw [perform, h]
  rfl

/-- The cell that a call writes or clears, if it does. -/
def target? (doc : Document) : Action → Option QualifiedAddress
  | .write address _ sheet | .clear address sheet => (doc.resolve address sheet).toOption
  | _ => none

/-- In documents with the same sheets, the same of which is active, a call changes the same cell. -/
theorem target?_congr (hnames : doc'.workbook.sheetNames = doc.workbook.sheetNames)
    (hindex : doc'.workbook.activeIndex = doc.workbook.activeIndex) (action : Action) :
    doc'.target? action = doc.target? action := by
  cases action <;> simp only [target?, resolve_congr hnames hindex]

/-- A text that is resolved to a cell, whatever the error would be, is resolved without an error. -/
theorem resolve_eq_ok_of_toOption {address : String} {sheet : Option String}
    (h : (doc.resolve address sheet).toOption = some a) : doc.resolve address sheet = .ok a := by
  cases hr : doc.resolve address sheet with
  | error e =>
    rw [hr] at h
    cases h
  | ok c =>
    rw [hr] at h
    obtain rfl := Option.some.inj h
    rfl

/-- A call that writes or clears a cell succeeds and puts the same entry into the cell, whatever
the document holds. -/
theorem exists_edited (action : Action) :
    ∃ entry : Entry, ∀ (ambient : Ambient) (doc : Document) (a : QualifiedAddress),
      doc.Consistent → doc.target? action = some a →
        ∃ doc', doc.attempt? ambient action = some doc' ∧ Edited ambient a entry doc doc' := by
  cases action with
  | write address v sheet =>
    obtain ⟨entry, -, hstore⟩ := exists_store_eq_put v
    refine ⟨entry, fun ambient doc a h ha => ?_⟩
    have hresolve := resolve_eq_ok_of_toOption ha
    refine ⟨_, toOption_eq_some_iff.mpr (write_eq_ok_iff.mpr ⟨a, hresolve, rfl⟩), ?_⟩
    exact h.edited_writeAt (hasSheet_of_resolve hresolve) (hstore doc a)
  | clear address sheet =>
    refine ⟨.ofValue .empty, fun ambient doc a h ha => ?_⟩
    have hresolve := resolve_eq_ok_of_toOption ha
    refine ⟨_, toOption_eq_some_iff.mpr (clear_eq_ok_iff.mpr ⟨a, hresolve, rfl⟩), ?_⟩
    exact h.edited_clearAt (hasSheet_of_resolve hresolve)
  | addSheet name | activate name => exact ⟨.ofValue .empty, fun _ _ _ _ ha => by cases ha⟩
  | recalculate => exact ⟨.ofValue .empty, fun _ _ _ _ ha => by cases ha⟩

/-- Two calls that write or clear different cells can be made in either order. The documents that
they lead to are the same but for the values that are kept with formulas, and, where all cells
downstream are recalculated, these are the same too, if they do not depend on the moment. -/
theorem Reachable.edits_commute {first second : Action} (h : doc.Reachable)
    (ha : doc.target? first = some a) (hb : doc.target? second = some b) (hne : a ≠ b)
    (hfirst : doc.attempt? now first = some doc₁) (hsecond : doc.attempt? now' second = some doc₂)
    (later later' : Ambient) :
    ∃ docA docB, doc₁.attempt? later second = some docA ∧
      doc₂.attempt? later' first = some docB ∧ docA.withoutResults = docB.withoutResults ∧
      (doc.settings.mode = .transitive →
        (∀ x, docA.Steady x → docA.workbook.cell? x = docB.workbook.cell? x) ∧
        ((∀ p ∈ docA.formulas.toList, p.2.Steady) → docA = docB)) := by
  obtain ⟨entry, hentry⟩ := exists_edited first
  obtain ⟨entry', hentry'⟩ := exists_edited second
  obtain ⟨_, hattempt, hedit⟩ := hentry now doc a h.consistent ha
  obtain rfl := Option.some.inj (hfirst.symm.trans hattempt)
  obtain ⟨_, hattempt', hedit'⟩ := hentry' now' doc b h.consistent hb
  obtain rfl := Option.some.inj (hsecond.symm.trans hattempt')
  obtain ⟨docA, hthen, heditA⟩ := hentry' later doc₁ b hedit.consistent
    ((target?_congr hedit.sheetNames hedit.activeIndex second).trans hb)
  obtain ⟨docB, hthen', heditB⟩ := hentry later' doc₂ a hedit'.consistent
    ((target?_congr hedit'.sheetNames hedit'.activeIndex first).trans ha)
  have htexts : SameTexts docB docA := Edited.sameTexts hne hedit heditA hedit' heditB
  have hcell : doc.settings.mode = .transitive → ∀ x, docA.Steady x →
      docA.workbook.cell? x = docB.workbook.cell? x := by
    intro hmode x hsteady
    refine htexts.cell?_eq heditB.consistent heditA.consistent fun hx => ?_
    exact Edited.value_eq hmode hne hedit heditA hedit' heditB hx hsteady
  refine ⟨docA, docB, hthen, hthen',
    htexts.withoutResults_eq heditB.consistent heditA.consistent, fun hmode => ⟨hcell hmode, ?_⟩⟩
  intro hall
  have hsame := htexts.sameOn heditB.consistent heditA.consistent
  exact eq_of_cell? heditB.consistent.names htexts.settings htexts.sheetNames htexts.activeIndex
    (fun x => hsame.formulas x (Set.mem_univ x))
    fun x => hcell hmode x (steady_of_forall hall x)

/-- A document in which a formula reads two empty cells. -/
def joined : Document :=
  (Document.ofSettings { mode := .transitive }).run .newYear [.write "C1" (.text "=A1&B1") none]

/-- Two formulas that read each other, and make the reader of both depend on a cycle, lead to the
same document in either order. -/
theorem edits_commute_mutual :
    joined.Reachable ∧ joined.settings.mode = .transitive ∧ ∃ doc₁ doc₂ doc',
      joined.attempt? .newYear (.write "A1" (.text "=B1") none) = some doc₁ ∧
      joined.attempt? .newYear (.write "B1" (.text "=A1") none) = some doc₂ ∧
      doc₁.attempt? .newYear (.write "B1" (.text "=A1") none) = some doc' ∧
      doc₂.attempt? .newYear (.write "A1" (.text "=B1") none) = some doc' := by
  have hreach : joined.Reachable := (Reachable.start _).run _ _
  have hmode : joined.settings.mode = .transitive := by decide +kernel
  have ha : joined.target? (.write "A1" (.text "=B1") none) = some ⟨"Sheet1", ⟨1, 1⟩⟩ := by
    decide +kernel
  have hb : joined.target? (.write "B1" (.text "=A1") none) = some ⟨"Sheet1", ⟨1, 2⟩⟩ := by
    decide +kernel
  have hfirst : joined.attempt? .newYear (.write "A1" (.text "=B1") none) =
      some (joined.writeAt .newYear ⟨"Sheet1", ⟨1, 1⟩⟩ (.text "=B1")) :=
    toOption_eq_some_iff.mpr (write_eq_ok_iff.mpr ⟨_, resolve_eq_ok_of_toOption ha, rfl⟩)
  have hsecond : joined.attempt? .newYear (.write "B1" (.text "=A1") none) =
      some (joined.writeAt .newYear ⟨"Sheet1", ⟨1, 2⟩⟩ (.text "=A1")) :=
    toOption_eq_some_iff.mpr (write_eq_ok_iff.mpr ⟨_, resolve_eq_ok_of_toOption hb, rfl⟩)
  obtain ⟨docA, docB, hthen, hthen', -, hsame⟩ :=
    Reachable.edits_commute hreach ha hb (by decide) hfirst hsecond .newYear .newYear
  have hall : ∀ p ∈ docA.formulas.toList, p.2.Steady := by
    rw [eq_perform_of_attempt? hthen]
    decide +kernel
  obtain rfl := (hsame hmode).2 hall
  exact ⟨hreach, hmode, _, _, docA, hfirst, hsecond, hthen, hthen'⟩

end Spreadsheet.Document
