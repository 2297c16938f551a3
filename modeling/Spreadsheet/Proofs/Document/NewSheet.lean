import Spreadsheet.Proofs.Document.Freshness

/-!
# A sheet that is added later

When a sheet is added, the formulas that mention its cells are linked to them and computed anew, and
no others. The main statement says when the document stays up to date: exactly if the sheet makes no
difference to the value of any formula that uses its cells through other cells only. One such
formula for which it does make a difference is enough to leave a stored value behind.
-/

namespace Spreadsheet

namespace Value

/-- The value is the given text. -/
def isTextOf (s : String) : Value → Bool
  | .text t => t == s
  | _ => false

private theorem eq_text_of_isTextOf {s : String} {v : Value} (h : v.isTextOf s = true) :
    v = .text s := by
  unfold isTextOf at h
  split at h
  · rw [eq_of_beq h]
  · cases h

end Value

namespace Document

variable {ambient : Ambient} {doc doc' : Document} {a b : QualifiedAddress} {name : String}

/-- Linking formulas to a new sheet keeps them. -/
@[simp] theorem formulas_linked (doc : Document) (name : String) :
    (doc.linked name).formulas = doc.formulas := rfl

/-- There is one more sheet after formulas were linked to it. -/
theorem hasSheet_linked {other : String} :
    (doc.linked name).workbook.hasSheet other = true ↔
      doc.workbook.hasSheet other = true ∨ other = name := by
  rw [linked, Workbook.hasSheet_linkAll, Workbook.hasSheet_extend]

/-- The formulas that are computed anew after a sheet was added are those that mention a cell of
it. -/
theorem not_mem_order_linked_iff :
    b ∉ (doc.linked name).workbook.order
        (Std.ExtTreeSet.ofList ((doc.readersOfSheet name).map Prod.fst)) ↔
      ∀ r ∈ doc.references b, r.sheet ≠ name := by
  rw [Workbook.mem_order_ofList_iff, mem_map_readersOfSheet]
  simp only [not_exists, not_and, ne_eq]

namespace Consistent

/-- A sheet more leaves alone what was written into the cells. -/
theorem written_record_linked (h : doc.Consistent) (name : String) (b : QualifiedAddress) :
    ((doc.linked name).workbook.record b).written = (doc.workbook.record b).written := by
  have hw : ((doc.linked name).workbook.record b).written =
      ((doc.workbook.extend name).record b).written :=
    Workbook.written_record_linkAll h.hasSheet_of_mem_readersOfSheet b
  rw [hw, Workbook.record_extend]

/-- A sheet more leaves alone what the formulas read that mention no cell of it. -/
theorem dependencies_record_linked (h : doc.Consistent)
    (hb : ∀ r ∈ doc.references b, r.sheet ≠ name) :
    ((doc.linked name).workbook.record b).dependencies =
      (doc.workbook.record b).dependencies := by
  have hsheets : ∀ p ∈ doc.readersOfSheet name,
      (doc.workbook.extend name).hasSheet p.1.sheet = true := h.hasSheet_of_mem_readersOfSheet
  have hd := Workbook.dependencies_record_linkAll hsheets
    (fun p hp => (mem_readersOfSheet.mp hp).1) b
  have hnot : b ∉ (doc.readersOfSheet name).map Prod.fst := fun hmem => by
    obtain ⟨r, hr, hsheet⟩ := mem_map_readersOfSheet.mp hmem
    exact hb r hr hsheet
  rw [if_neg hnot, Workbook.record_extend] at hd
  exact hd

/-- A document stays as it was in the cells that use no cell of a sheet that is added. -/
theorem sameOn_linked (h : doc.Consistent) (name : String) :
    SameOn {b | ∀ r, doc.Uses b r → r.sheet ≠ name} doc (doc.linked name) := by
  have hwritten := h.written_record_linked name
  simp only [Cell.written, Prod.mk.injEq] at hwritten
  refine ⟨rfl, fun b hb r hr s hs => hb s (.head hr hs), fun b hb => ?_, fun _ _ => rfl,
    fun b _ => (hwritten b).2.1, fun b _ => (hwritten b).2.2, fun b hb => ?_,
    fun b _ _ => (hwritten b).1⟩
  · have hne : b.sheet ≠ name := hb b .refl
    rw [Bool.eq_iff_iff, hasSheet_linked]
    exact ⟨fun hs => hs.resolve_right hne, Or.inl⟩
  · exact h.dependencies_record_linked fun r hr => hb r (.single hr)

end Consistent

/-- After a sheet was added to a document that is up to date, the document is up to date exactly if
the new sheet makes no difference to the values of the formulas that use its cells without
mentioning any of them. -/
theorem Reachable.upToDate_addSheet_iff (h : doc.Reachable) (hup : doc.UpToDate)
    (hadd : doc.addSheet ambient name = .ok doc') :
    doc'.UpToDate ↔ ∀ a c, doc.workbook.HasRecord a c → c.isFormula = true → doc.Steady a →
      (∃ r, doc.Uses a r ∧ r.sheet = name) → (∀ r ∈ doc.references a, r.sheet ≠ name) →
        ∀ ambient', doc'.compute ambient' a = doc.compute ambient' a := by
  obtain ⟨hname, rfl⟩ := addSheet_eq_ok_iff.mp hadd
  have hcon := h.consistent
  have hlinked := hcon.linked hname
  have hwritten := hcon.written_record_linked name
  simp only [Cell.written, Prod.mk.injEq] at hwritten
  have hformula : ∀ b, ((doc.linked name).workbook.record b).isFormula =
      (doc.workbook.record b).isFormula := fun b => by
    rw [Cell.isFormula, Cell.isFormula, (hwritten b).2.1]
  rw [hlinked.upToDate_refreshAll_iff]
  simp only [not_mem_order_linked_iff, hlinked.compute_refreshAll, hformula, (hwritten _).1,
    steady_congr (formulas_linked doc name)]
  -- Only formulas that do not mention the new sheet are left, with the values they had before.
  constructor
  · intro hall a c hc hf hsteady _ hother ambient'
    have hrecord := hcon.record_eq hc
    rw [← hrecord] at hf
    rw [← hall a hf hsteady hother, hcon.upToDate_iff.mp hup a hf hsteady ambient']
  · intro hall b hf hsteady hother ambient'
    have hvalue := hcon.upToDate_iff.mp hup b hf hsteady ambient'
    by_cases huses : ∃ r, doc.Uses b r ∧ r.sheet = name
    · obtain ⟨c, hc⟩ := Workbook.exists_cell?_of_record_ne_blank (Cell.ne_blank_of_isFormula hf)
      have hrecord := (Workbook.cell?_eq_some_iff hcon.names).mp hc
      rw [hvalue, hall b c hrecord (hcon.record_eq hrecord ▸ hf) hsteady huses hother]
    · have hb : b ∈ {b | ∀ r, doc.Uses b r → r.sheet ≠ name} := fun r hr hs => huses ⟨r, hr, hs⟩
      rw [hvalue, (hcon.sameOn_linked name).compute_eq hcon hb]

/-- A document in which one formula reads a sheet that is missing, and another one is given. -/
def missingSheet (formula : String) : Document :=
  (Document.ofSettings { mode := .transitive }).run .newYear
    [.write "B1" (.text "=Data!A1") none, .write "C1" (.text formula) none]

private theorem reachable_missingSheet (formula : String) : (missingSheet formula).Reachable :=
  (Reachable.start _).run _ _

private theorem upToDate_missingSheet (formula : String) : (missingSheet formula).UpToDate :=
  (Consistent.ofSettings _).upToDate_run rfl (Consistent.upToDate_ofSettings _)
    (by simp [Action.addsSheet])

/-- The missing sheet can be added. -/
theorem addSheet_missingSheet {formula : String}
    (h : (missingSheet formula).workbook.hasSheet "Data" = false) :
    (missingSheet formula).addSheet .newYear "Data" =
      .ok ((missingSheet formula).perform .newYear (.addSheet "Data")) := by
  obtain ⟨doc', hadd⟩ : ∃ doc', (missingSheet formula).addSheet .newYear "Data" = .ok doc' :=
    ⟨_, addSheet_eq_ok_iff.mpr ⟨h, rfl⟩⟩
  rw [perform, attempt?, hadd]
  rfl

/-- A formula that uses the new sheet through another one only, and has the same value without it,
leaves the document up to date. -/
theorem upToDate_addSheet_of_choice :
    (missingSheet "=IF(TRUE,\"x\",B1)").Reachable ∧
      (missingSheet "=IF(TRUE,\"x\",B1)").UpToDate ∧
        ∃ doc', (missingSheet "=IF(TRUE,\"x\",B1)").addSheet .newYear "Data" = .ok doc' ∧
          doc'.UpToDate := by
  have hreach := reachable_missingSheet "=IF(TRUE,\"x\",B1)"
  have hup := upToDate_missingSheet "=IF(TRUE,\"x\",B1)"
  have hname : (missingSheet "=IF(TRUE,\"x\",B1)").workbook.hasSheet "Data" = false := by
    decide +kernel
  have hadd := addSheet_missingSheet hname
  have hcon := hreach.consistent
  have hcon' := (hreach.step .newYear (.addSheet "Data")).consistent
  have hformulas : ∀ a ∈ (missingSheet "=IF(TRUE,\"x\",B1)").workbook.formulaCells,
      a = ⟨"Sheet1", ⟨1, 2⟩⟩ ∨ a = ⟨"Sheet1", ⟨1, 3⟩⟩ := by decide +kernel
  refine ⟨hreach, hup, _, hadd, (Reachable.upToDate_addSheet_iff hreach hup hadd).mpr ?_⟩
  intro a c hc hf hsteady _ hother ambient
  rw [← hcon.record_eq hc] at hf
  rcases hformulas a (Workbook.mem_formulaCells hf) with rfl | rfl
  · exact absurd rfl (hother ⟨"Data", ⟨1, 1⟩⟩ (by decide +kernel))
  · have hsteady' : ((missingSheet "=IF(TRUE,\"x\",B1)").perform .newYear
        (.addSheet "Data")).Steady ⟨"Sheet1", ⟨1, 3⟩⟩ := steady_of_forall (by decide +kernel) _
    rw [hcon'.compute_eq_of_steady hsteady' .newYear ambient,
      hcon.compute_eq_of_steady hsteady .newYear ambient]
    exact (Value.eq_text_of_isTextOf (s := "x") (by decide +kernel)).trans
      (Value.eq_text_of_isTextOf (by decide +kernel)).symm

/-- Adding a sheet does not always keep a document up to date, even if all cells downstream of a
change are to be recalculated: the error of a reference to a missing sheet stays with the formula
that reads the formula with this reference. -/
theorem not_upToDate_addSheet : ¬∀ (doc doc' : Document) (ambient : Ambient) (name : String),
    doc.Reachable → doc.settings.mode = .transitive → doc.UpToDate →
      doc.addSheet ambient name = .ok doc' → doc'.UpToDate := by
  intro hall
  have hreach := reachable_missingSheet "=B1"
  have hmode : (missingSheet "=B1").settings.mode = .transitive := by decide +kernel
  have hup := hall (missingSheet "=B1") _ .newYear "Data" hreach hmode
    (upToDate_missingSheet "=B1") (addSheet_missingSheet (by decide +kernel))
  have hcon := (hreach.step .newYear (.addSheet "Data")).consistent
  have hvalue := hcon.upToDate_iff.mp hup ⟨"Sheet1", ⟨1, 3⟩⟩ (by decide +kernel)
    (steady_of_forall (by decide +kernel) _) .newYear
  have herror := congrArg Value.isError hvalue
  revert herror
  decide +kernel

end Document

end Spreadsheet
