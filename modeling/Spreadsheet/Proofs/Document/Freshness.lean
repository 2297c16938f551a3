import Spreadsheet.Proofs.Dependency.Downstream
import Spreadsheet.Proofs.Dependency.Order
import Spreadsheet.Proofs.Document.Recalculation

/-!
# Stored values are the computed ones

A document is up to date if the value that is kept with a formula is the one that the formula has
when it is computed. Writing or clearing a cell can change the values of the cells that use it, and
of no others. The main statement says that, where all cells downstream are recalculated, a document
stays up to date whatever is written, cycles and errors included.
-/

namespace Spreadsheet.Document

variable {ambient : Ambient} {doc doc' : Document} {a b : QualifiedAddress} {cells : AddressSet}
  {e? : Option Formula.Expr} {f : Cell → Cell} {v : Value} {targets : List QualifiedAddress}

/-- The values kept with formulas that do not depend on the moment are those that reading the cells
gives at any moment. -/
def UpToDate (doc : Document) : Prop :=
  ∀ a c, doc.workbook.HasRecord a c → c.isFormula = true → doc.Steady a →
    ∀ ambient, c.value = doc.compute ambient a

namespace Consistent

/-- Whether a document is up to date, by its records. -/
theorem upToDate_iff (h : doc.Consistent) : doc.UpToDate ↔
    ∀ a, (doc.workbook.record a).isFormula = true → doc.Steady a →
      ∀ ambient, (doc.workbook.record a).value = doc.compute ambient a := by
  constructor
  · intro hup a hf hsteady
    obtain ⟨c, hc⟩ := Workbook.exists_cell?_of_record_ne_blank (Cell.ne_blank_of_isFormula hf)
    have hrecord := (Workbook.cell?_eq_some_iff h.names).mp hc
    rw [h.record_eq hrecord] at hf ⊢
    exact hup a c hrecord hf hsteady
  · intro hall a c hc hf
    have hrecord := h.record_eq hc
    rw [← hrecord] at hf ⊢
    exact hall a hf

/-- A document without formulas is up to date. -/
theorem upToDate_ofSettings (settings : Settings) : (Document.ofSettings settings).UpToDate := by
  refine (ofSettings settings).upToDate_iff.mpr fun a hf => ?_
  exact absurd (record_ofSettings settings a) (Cell.ne_blank_of_isFormula hf)

/-- After cells were computed anew, a document is up to date exactly if the others were. -/
theorem upToDate_refreshAll_iff (h : doc.Consistent) :
    (doc.refreshAll ambient targets).UpToDate ↔
      ∀ b, (doc.workbook.record b).isFormula = true → doc.Steady b → b ∉ targets →
        ∀ ambient', (doc.workbook.record b).value = doc.compute ambient' b := by
  have hsteady : ∀ b, (doc.refreshAll ambient targets).Steady b ↔ doc.Steady b :=
    fun b => steady_congr (formulas_refreshAll ambient doc targets)
  rw [(h.refreshAll ambient targets).upToDate_iff]
  refine forall_congr' fun b => ?_
  -- What was computed anew is right at every moment, because it is steady.
  rw [hsteady, h.record_refreshAll]
  simp only [h.compute_refreshAll]
  split_ifs with hb
  · refine ⟨fun _ _ _ hnot => absurd hb.1 hnot, fun _ _ hs ambient' => ?_⟩
    exact (h.compute_eq_of_steady hs ambient ambient').symm
  · refine ⟨fun hall hf hs _ => hall hf hs, fun hall hf hs => hall hf hs fun hmem => hb ⟨hmem, ?_⟩⟩
    exact Workbook.hasSheet_of_record_ne_blank (Cell.ne_blank_of_isFormula hf)

/-! ## Cells that use a cell -/

/-- A cell whose formula mentions another lies on a sheet that exists. -/
theorem hasSheet_of_mem_references (h : doc.Consistent) (hb : b ∈ doc.references a) :
    doc.workbook.hasSheet a.sheet = true := by
  cases he : doc.formulas[a]? with
  | some e => exact h.hasSheet_of_formula he
  | none => simp [references, he] at hb

/-- A cell that is mentioned, on a sheet that exists, knows who mentions it. -/
theorem mem_readers (h : doc.Consistent) (hb : b ∈ doc.references a)
    (hsheet : doc.workbook.hasSheet b.sheet = true) : a ∈ doc.workbook.readers b := by
  rw [Workbook.mem_readers, ← h.edges a b, h.mem_dependencies_iff]
  exact ⟨hb, hsheet⟩

/-- A path along the formulas, from a cell to one whose sheet exists, is a path along the readers in
the opposite direction. -/
theorem transGen_readers (h : doc.Consistent) (ha : doc.workbook.hasSheet a.sheet = true)
    (hpath : Relation.TransGen (fun x y => y ∈ doc.references x) b a) :
    Relation.TransGen (fun x y => y ∈ doc.workbook.readers x) a b ∧
      doc.workbook.hasSheet b.sheet = true := by
  induction hpath using Relation.TransGen.head_induction_on with
  | single hb => exact ⟨.single (h.mem_readers hb ha), h.hasSheet_of_mem_references hb⟩
  | head hb _ ih => exact ⟨ih.1.tail (h.mem_readers hb ih.2), h.hasSheet_of_mem_references hb⟩

/-- The other cells that use a cell are downstream of it. -/
theorem mem_downstream_of_uses (h : doc.Consistent)
    (ha : doc.workbook.hasSheet a.sheet = true) (huses : doc.Uses b a) (hne : b ≠ a) :
    b ∈ doc.workbook.downstream a := by
  have hpath : Relation.TransGen (fun x y => y ∈ doc.references x) b a :=
    (Relation.reflTransGen_iff_eq_or_transGen.mp huses).resolve_left (Ne.symm hne)
  exact Workbook.mem_downstream_iff.mpr ⟨hne, (h.transGen_readers ha hpath).1⟩

end Consistent

/-! ## Writing and clearing a cell -/

/-- A document stays as it was in the cells that do not use the cell that is written. -/
theorem sameOn_install (ha : doc.workbook.hasSheet a.sheet = true) :
    SameOn {b | ¬(doc.install a cells e? f).Uses b a} doc (doc.install a cells e? f) := by
  have hne : ∀ b ∈ {b | ¬(doc.install a cells e? f).Uses b a}, a ≠ b := by
    rintro b hb rfl
    exact hb .refl
  have hformulas : ∀ b ∈ {b | ¬(doc.install a cells e? f).Uses b a},
      (doc.install a cells e? f).formulas[b]? = doc.formulas[b]? := by
    intro b hb
    rw [formulas_install, if_neg (hne b hb)]
  have hwritten : ∀ b ∈ {b | ¬(doc.install a cells e? f).Uses b a},
      ((doc.install a cells e? f).workbook.record b).written =
        (doc.workbook.record b).written := fun b hb => written_record_install ha (hne b hb)
  simp only [Cell.written, Prod.mk.injEq] at hwritten
  refine ⟨rfl, fun b hb r hr huses => hb (.head ?_ huses), fun b _ => hasSheet_install _ _ _ _ _ _,
    hformulas, fun b hb => (hwritten b hb).2.1, fun b hb => (hwritten b hb).2.2,
    fun b hb => dependencies_record_install ha (hne b hb), fun b hb _ => (hwritten b hb).1⟩
  rw [references, hformulas b hb]
  exact hr

/-- After a record was installed, a document is up to date again as soon as all formulas that use
the cell were computed anew. -/
theorem Consistent.upToDate_install (h : doc.Consistent)
    (ha : doc.workbook.hasSheet a.sheet = true) (hup : doc.UpToDate)
    (h' : (doc.install a cells e? f).Consistent)
    (htargets : ∀ b, ((doc.install a cells e? f).workbook.record b).isFormula = true →
      (doc.install a cells e? f).Uses b a → b ∈ targets) :
    ((doc.install a cells e? f).refreshAll ambient targets).UpToDate := by
  refine h'.upToDate_refreshAll_iff.mpr fun b hf hsteady hnot ambient' => ?_
  -- A formula that is not computed anew does not use the cell, so that neither the value that is
  -- kept with it nor its computed value has changed.
  have hb : b ∈ {b | ¬(doc.install a cells e? f).Uses b a} := fun huses =>
    hnot (htargets b hf huses)
  have hsame : SameOn _ doc (doc.install a cells e? f) := sameOn_install ha
  have hwritten : ((doc.install a cells e? f).workbook.record b).written =
      (doc.workbook.record b).written := by
    refine written_record_install ha ?_
    rintro rfl
    exact hb .refl
  simp only [Cell.written, Prod.mk.injEq] at hwritten
  rw [hsame.compute_eq h hb, hwritten.1]
  rw [Cell.isFormula, hwritten.2.1] at hf
  exact h.upToDate_iff.mp hup b hf (hsame.steady hb hsteady) ambient'

/-- Writing a cell installs a record. -/
theorem exists_store_eq_install (doc : Document) (a : QualifiedAddress) (v : Value) :
    ∃ cells e? f, doc.store a v = doc.install a cells e? f := by
  unfold store
  split
  · unfold storeText
    split <;> exact ⟨_, _, _, rfl⟩
  · exact ⟨_, _, _, rfl⟩

/-- After a cell was written, it is computed anew before the cells that the change affects. -/
theorem writeAt_eq_refreshAll (ambient : Ambient) (doc : Document) (a : QualifiedAddress)
    (v : Value) : doc.writeAt ambient a v = (doc.store a v).refreshAll ambient
      (a :: ((doc.store a v).refresh ambient a).affected a) := rfl

/-- Where all cells downstream are recalculated, these are the cells affected by a change. -/
theorem mem_affected_iff (hmode : doc.settings.mode = .transitive) :
    b ∈ doc.affected a ↔ b ∈ doc.workbook.downstream a := by
  unfold affected
  rw [hmode]
  exact Workbook.mem_order_iff

/-- Storing what is written keeps the settings. -/
theorem settings_store (doc : Document) (a : QualifiedAddress) (v : Value) :
    (doc.store a v).settings = doc.settings := by
  obtain ⟨cells, e?, f, hstore⟩ := exists_store_eq_install doc a v
  rw [hstore, settings_install]

/-- No call changes the settings. -/
theorem settings_perform (ambient : Ambient) (doc : Document) (action : Action) :
    (doc.perform ambient action).settings = doc.settings := by
  unfold perform
  cases hd : doc.attempt? ambient action with
  | none => rfl
  | some doc' =>
    cases action with
    | addSheet name =>
      obtain ⟨-, rfl⟩ := addSheet_eq_ok_iff.mp (toOption_eq_some_iff.mp hd)
      exact settings_refreshAll _ _ _
    | activate name =>
      obtain ⟨wb, -, rfl⟩ := Option.map_eq_some_iff.mp hd
      rfl
    | write address v sheet =>
      obtain ⟨a, -, rfl⟩ := write_eq_ok_iff.mp (toOption_eq_some_iff.mp hd)
      exact (settings_refreshAll _ _ _).trans (settings_store doc a v)
    | clear address sheet =>
      obtain ⟨a, -, rfl⟩ := clear_eq_ok_iff.mp (toOption_eq_some_iff.mp hd)
      exact settings_refreshAll _ _ _
    | recalculate =>
      obtain rfl := Option.some.inj hd
      exact settings_refreshAll _ _ _

namespace Consistent

/-- Writing a cell keeps a document up to date. -/
theorem upToDate_writeAt (h : doc.Consistent) (hmode : doc.settings.mode = .transitive)
    (ha : doc.workbook.hasSheet a.sheet = true) (hup : doc.UpToDate) (v : Value) :
    (doc.writeAt ambient a v).UpToDate := by
  have h' : (doc.store a v).Consistent := h.store ha v
  obtain ⟨cells, e?, f, hstore⟩ := exists_store_eq_install doc a v
  rw [writeAt_eq_refreshAll]
  rw [hstore] at h' ⊢
  have hsheet :
      ((doc.install a cells e? f).refresh ambient a).workbook.hasSheet a.sheet = true := by
    rw [hasSheet_refresh, hasSheet_install, ha]
  refine h.upToDate_install ha hup h' fun b _ huses => ?_
  by_cases hb : b = a
  · exact hb ▸ List.mem_cons_self
  · have huses' : ((doc.install a cells e? f).refresh ambient a).Uses b a :=
      (uses_congr (formulas_refresh ambient _ a)).mpr huses
    have hmode' : ((doc.install a cells e? f).refresh ambient a).settings.mode = .transitive := by
      rw [settings_refresh, settings_install, hmode]
    refine List.mem_cons_of_mem a ((mem_affected_iff hmode').mpr ?_)
    exact (h'.refresh ambient a).mem_downstream_of_uses hsheet huses' hb

/-- Clearing a cell keeps a document up to date. -/
theorem upToDate_clearAt (h : doc.Consistent) (hmode : doc.settings.mode = .transitive)
    (ha : doc.workbook.hasSheet a.sheet = true) (hup : doc.UpToDate) :
    (doc.clearAt ambient a).UpToDate := by
  have h' : (doc.storeValue a .empty).Consistent := h.storeValue ha .empty
  have hsheet : (doc.storeValue a .empty).workbook.hasSheet a.sheet = true :=
    (hasSheet_install _ _ _ _ _ _).trans ha
  have hmode' : (doc.storeValue a .empty).settings.mode = .transitive := by
    rw [Document.storeValue, settings_install, hmode]
  unfold Document.clearAt Document.propagate
  unfold Document.storeValue at h' hsheet hmode' ⊢
  refine h.upToDate_install ha hup h' fun b hf huses => ?_
  have hb : b ≠ a := by
    rintro rfl
    rw [record_install ha, if_pos rfl] at hf
    cases hf
  exact (mem_affected_iff hmode').mpr (h'.mem_downstream_of_uses hsheet huses hb)

/-! ## Other calls -/

/-- Which sheet is active makes no difference to values. -/
theorem upToDate_activate {name : String} (h : doc.Consistent) (hup : doc.UpToDate)
    (hd : doc.activate? name = some doc') : doc'.UpToDate := by
  have h' := h.activate hd
  obtain ⟨wb, hwb, rfl⟩ := Option.map_eq_some_iff.mp hd
  obtain ⟨index, -, rfl⟩ := Option.map_eq_some_iff.mp hwb
  have hsame : SameOn Set.univ doc
      { doc with workbook := { doc.workbook with activeIndex := index } } :=
    .of_record rfl rfl rfl (fun a => ⟨(doc.workbook.record a).value, rfl⟩) fun _ _ => rfl
  refine h'.upToDate_iff.mpr fun a hf hsteady ambient => ?_
  rw [hsame.compute_eq h (Set.mem_univ a)]
  exact h.upToDate_iff.mp hup a hf (hsame.steady (Set.mem_univ a) hsteady) ambient

/-- After all formulas were computed anew, a document is up to date, whatever it was before. -/
theorem upToDate_recalculate (h : doc.Consistent) : (doc.recalculate ambient).UpToDate := by
  unfold recalculate
  refine h.upToDate_refreshAll_iff.mpr fun b hf _ hnot => absurd ?_ hnot
  rw [Workbook.mem_order_ofList_iff]
  exact Workbook.mem_formulaCells hf

/-- Writing or clearing a cell keeps a document up to date. -/
theorem upToDate_edit {address : String} {sheet : Option String} (h : doc.Consistent)
    (hmode : doc.settings.mode = .transitive) (hup : doc.UpToDate)
    (hedit : doc.write ambient address v sheet = .ok doc' ∨
      doc.clear ambient address sheet = .ok doc') : doc'.UpToDate := by
  rcases hedit with hwrite | hclear
  · obtain ⟨a, ha, rfl⟩ := write_eq_ok_iff.mp hwrite
    exact h.upToDate_writeAt hmode (hasSheet_of_resolve ha) hup v
  · obtain ⟨a, ha, rfl⟩ := clear_eq_ok_iff.mp hclear
    exact h.upToDate_clearAt hmode (hasSheet_of_resolve ha) hup

/-- Every call that adds no sheet keeps a document up to date. -/
theorem upToDate_perform {action : Action} (h : doc.Consistent)
    (hmode : doc.settings.mode = .transitive) (hup : doc.UpToDate)
    (haction : action.addsSheet = false) : (doc.perform ambient action).UpToDate := by
  unfold Document.perform
  cases hd : doc.attempt? ambient action with
  | none => exact hup
  | some doc' =>
    cases action with
    | addSheet name => cases haction
    | activate name => exact h.upToDate_activate hup hd
    | write address v sheet =>
      exact h.upToDate_edit hmode hup (Or.inl (toOption_eq_some_iff.mp hd))
    | clear address sheet =>
      exact h.upToDate_edit (v := .empty) hmode hup (Or.inr (toOption_eq_some_iff.mp hd))
    | recalculate =>
      obtain rfl := Option.some.inj hd
      exact h.upToDate_recalculate

/-- A session that adds no sheet keeps a document up to date. -/
theorem upToDate_run {actions : List Action} (h : doc.Consistent)
    (hmode : doc.settings.mode = .transitive) (hup : doc.UpToDate)
    (hactions : ∀ action ∈ actions, action.addsSheet = false) :
    (doc.run ambient actions).UpToDate := by
  induction actions generalizing doc with
  | nil => exact hup
  | cons action actions ih =>
    refine ih (h.perform ambient action) ?_ (h.upToDate_perform hmode hup ?_) ?_
    · rw [settings_perform, hmode]
    · exact hactions action List.mem_cons_self
    · exact fun next hnext => hactions next (List.mem_cons_of_mem action hnext)

end Consistent

/-- Whatever is written into a cell of a document that is up to date, or when it is cleared, the
document stays up to date, if all cells downstream are recalculated. -/
theorem Reachable.upToDate_of_edit {address : String} {sheet : Option String} (h : doc.Reachable)
    (hmode : doc.settings.mode = .transitive) (hup : doc.UpToDate)
    (hedit : doc.write ambient address v sheet = .ok doc' ∨
      doc.clear ambient address sheet = .ok doc') : doc'.UpToDate :=
  h.consistent.upToDate_edit hmode hup hedit

/-- A document in which one formula reads another that reads an empty cell. -/
def chain : Document :=
  (Document.ofSettings { mode := .transitive }).run .newYear
    [.write "A1" (.text "=B1") none, .write "C1" (.text "=A1") none]

/-- The document is up to date before the chain is closed to a cycle, and afterwards. -/
theorem upToDate_of_closed_chain :
    chain.Reachable ∧ chain.settings.mode = .transitive ∧ chain.UpToDate ∧
      ∃ doc', chain.write .newYear "B1" (.text "=C1") none = .ok doc' ∧ doc'.UpToDate := by
  have hreach : chain.Reachable := (Reachable.start _).run _ _
  have hmode : chain.settings.mode = .transitive := by decide +kernel
  have hup : chain.UpToDate :=
    (Consistent.ofSettings _).upToDate_run rfl (Consistent.upToDate_ofSettings _) (by decide)
  have hwrite : chain.write .newYear "B1" (.text "=C1") none =
      .ok (chain.writeAt .newYear ⟨"Sheet1", ⟨1, 2⟩⟩ (.text "=C1")) :=
    write_eq_ok_iff.mpr ⟨_, by decide +kernel, rfl⟩
  exact ⟨hreach, hmode, hup, _, hwrite, Reachable.upToDate_of_edit hreach hmode hup (Or.inl hwrite)⟩

end Spreadsheet.Document
