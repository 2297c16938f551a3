import Spreadsheet.Proofs.Workbook.Edges

/-!
# Dangling edges

A cell whose sheet does not exist can still be linked: the cells that it reads gain a reader, but
there is no record to say what the reader reads. The main statements say that both sides of the
edges get out of step in this way only, for one cell and for cells that are linked one after the
other: linking more cells does not mend an edge that dangles.
-/

namespace Spreadsheet.Workbook

variable {wb : Workbook} {reader a b : QualifiedAddress} {cells : AddressSet}

/-! ## Readers without records -/

/-- A cell on a missing sheet has a blank record. -/
theorem record_of_missing (h : wb.hasSheet a.sheet = false) : wb.record a = .blank := by
  apply record_of_cell?_none
  cases hc : wb.cell? a with
  | none => rfl
  | some c => exact absurd (hasSheet_of_cell? hc) (ne_true_of_eq_false h)

/-- A cell on a missing sheet reads nothing. -/
theorem not_mem_dependencies_of_missing (h : wb.hasSheet a.sheet = false) :
    b ∉ (wb.record a).dependencies := by
  rw [record_of_missing h]
  exact Std.ExtTreeSet.not_mem_empty

/-- While edges are in step, no reader is on a missing sheet. -/
theorem EdgesInStep.not_mem_dependents (hw : wb.EdgesInStep)
    (h : wb.hasSheet a.sheet = false) : a ∉ (wb.record b).dependents := by
  rw [← hw a b]
  exact not_mem_dependencies_of_missing h

/-- An edge from a missing sheet is never taken back, since nothing says that it is there. -/
theorem mem_dependents_link_of_missing (h : wb.hasSheet a.sheet = false) :
    a ∈ ((wb.link reader cells).record b).dependents ↔
      reader = a ∧ b ∈ wb.present cells ∨ a ∈ (wb.record b).dependents := by
  rw [mem_dependents_record_link]
  apply or_congr_right
  apply and_iff_left
  rintro ⟨rfl, hread⟩
  exact not_mem_dependencies_of_missing h hread

/-! ## Linking one cell -/

/-- The edges of the other cells stay as they are. -/
theorem edges_link_of_ne (h : a ≠ reader) :
    ((wb.link reader cells).record a).dependencies = (wb.record a).dependencies ∧
      ∀ b, a ∈ ((wb.link reader cells).record b).dependents ↔ a ∈ (wb.record b).dependents := by
  constructor
  · rw [dependencies_link, if_neg fun hreader => h hreader.1.symm]
  · intro b
    rw [mem_dependents_record_link]
    simp only [h.symm, false_and, false_or, not_false_eq_true, and_true]

/-- A cell on a missing sheet becomes a reader of the cells that are there but reads nothing. -/
theorem EdgesInStep.edges_link_of_missing (hw : wb.EdgesInStep)
    (h : wb.hasSheet reader.sheet = false) (cells : AddressSet) (b : QualifiedAddress) :
    b ∉ ((wb.link reader cells).record reader).dependencies ∧
      (reader ∈ ((wb.link reader cells).record b).dependents ↔ b ∈ wb.present cells) := by
  constructor
  · apply not_mem_dependencies_of_missing
    rwa [hasSheet_link]
  · rw [mem_dependents_link_of_missing h, or_iff_left (hw.not_mem_dependents h),
      and_iff_right rfl]

/-- Linking a cell keeps the edges in step exactly if its sheet exists or no cell that it reads is
there. -/
theorem EdgesInStep.link_iff (hw : wb.EdgesInStep) :
    (wb.link reader cells).EdgesInStep ↔
      wb.hasSheet reader.sheet = true ∨ ∀ b, b ∉ wb.present cells := by
  cases h : wb.hasSheet reader.sheet with
  | true => exact iff_of_true (hw.link h cells) (.inl rfl)
  | false =>
    rw [or_iff_right Bool.false_ne_true]
    have hreader := hw.edges_link_of_missing h cells
    constructor
    · intro hlink b hb
      exact (hreader b).1 ((hlink reader b).mpr ((hreader b).2.mpr hb))
    · intro hnone a b
      by_cases ha : a = reader
      · subst ha
        exact iff_of_false (hreader b).1 fun hread => hnone b ((hreader b).2.mp hread)
      · obtain ⟨hreads, hread⟩ := edges_link_of_ne ha
        rw [hreads, hread b]
        exact hw a b

/-- Linking a cell keeps the edges in step exactly if its sheet exists or the sheets of all cells
that it is to read are missing. The edges of other cells stay as they are. A cell on a sheet that
exists reads the given cells whose sheets exist, and one on a missing sheet becomes a reader of
these but reads nothing. -/
theorem EdgesInStep.edges_link (hw : wb.EdgesInStep) (cell : QualifiedAddress)
    (cells : AddressSet) :
    ((wb.link cell cells).EdgesInStep ↔
        wb.hasSheet cell.sheet = true ∨ ∀ b ∈ cells, wb.hasSheet b.sheet = false) ∧
      (∀ a, a ≠ cell →
        ((wb.link cell cells).record a).dependencies = (wb.record a).dependencies ∧
          ∀ b, a ∈ ((wb.link cell cells).record b).dependents ↔ a ∈ (wb.record b).dependents) ∧
      (wb.hasSheet cell.sheet = true → ∀ b,
        b ∈ ((wb.link cell cells).record cell).dependencies ↔
          b ∈ cells ∧ wb.hasSheet b.sheet = true) ∧
      (wb.hasSheet cell.sheet = false → ∀ b,
        b ∉ ((wb.link cell cells).record cell).dependencies ∧
          (cell ∈ ((wb.link cell cells).record b).dependents ↔
            b ∈ cells ∧ wb.hasSheet b.sheet = true)) := by
  refine ⟨?_, fun a ha => edges_link_of_ne ha, fun h b => ?_, fun h b => ?_⟩
  · rw [hw.link_iff]
    simp only [mem_present, not_and, Bool.not_eq_true]
  · rw [dependencies_record_link h, if_pos rfl, mem_present]
  · rw [← mem_present]
    exact hw.edges_link_of_missing h cells b

/-- The first cell of a sheet. -/
def firstOf (sheet : String) : QualifiedAddress :=
  ⟨sheet, ⟨1, 1⟩⟩

/-- A set of cells with a single member. -/
theorem mem_insert_empty {c : QualifiedAddress} : a ∈ (∅ : AddressSet).insert c ↔ c = a := by
  rw [AddressSet.mem_insert, or_iff_left Std.ExtTreeSet.not_mem_empty]

/-- A cell that is there reads itself, and one on a missing sheet may be linked to itself too. -/
theorem edges_link_firstOf :
    (ofName "Here").EdgesInStep ∧
      firstOf "Here" ∈ (((ofName "Here").link (firstOf "Here")
        ((∅ : AddressSet).insert (firstOf "Here"))).record (firstOf "Here")).dependencies ∧
      ((ofName "Here").link (firstOf "Away")
        ((∅ : AddressSet).insert (firstOf "Away"))).EdgesInStep := by
  have hhere : (ofName "Here").hasSheet "Here" = true := by decide
  have haway : (ofName "Here").hasSheet "Away" = false := by decide
  have hw := EdgesInStep.ofName "Here"
  refine ⟨hw, ?_, ?_⟩
  · obtain ⟨-, -, hreads, -⟩ :=
      hw.edges_link (firstOf "Here") ((∅ : AddressSet).insert (firstOf "Here"))
    exact (hreads hhere (firstOf "Here")).mpr ⟨mem_insert_empty.mpr rfl, hhere⟩
  · obtain ⟨hstep, -⟩ := hw.edges_link (firstOf "Away") ((∅ : AddressSet).insert (firstOf "Away"))
    refine hstep.mpr (.inr fun b hb => ?_)
    obtain rfl := mem_insert_empty.mp hb
    exact haway

/-- From a missing sheet, one side of the edge is recorded only. -/
theorem not_edgesInStep_link_firstOf :
    (ofName "Here").EdgesInStep ∧
      ¬((ofName "Here").link (firstOf "Away")
        ((∅ : AddressSet).insert (firstOf "Here"))).EdgesInStep := by
  have hhere : (ofName "Here").hasSheet "Here" = true := by decide
  have haway : (ofName "Here").hasSheet "Away" = false := by decide
  have hw := EdgesInStep.ofName "Here"
  refine ⟨hw, fun hstep => ?_⟩
  rcases hw.link_iff.mp hstep with hsheet | hnone
  · rw [firstOf, haway] at hsheet
    cases hsheet
  · exact hnone (firstOf "Here") (mem_present.mpr ⟨mem_insert_empty.mpr rfl, hhere⟩)

/-! ## Linking many cells -/

variable {readers : List (QualifiedAddress × AddressSet)}

/-- An edge from a missing sheet stays, whatever is linked. -/
theorem mem_dependents_linkAll_of_missing (h : wb.hasSheet a.sheet = false)
    (ha : a ∈ (wb.record b).dependents) : a ∈ ((wb.linkAll readers).record b).dependents := by
  induction readers generalizing wb with
  | nil => exact ha
  | cons p readers ih =>
    have hp : a ∈ ((wb.link p.1 p.2).record b).dependents :=
      (mem_dependents_link_of_missing h).mpr (.inr ha)
    exact ih (by rwa [hasSheet_link]) hp

/-- Linking cells one by one keeps the edges in step exactly if each of these links does. -/
theorem EdgesInStep.linkAll_iff (hw : wb.EdgesInStep) :
    (wb.linkAll readers).EdgesInStep ↔
      ∀ p ∈ readers, wb.hasSheet p.1.sheet = true ∨ ∀ b, b ∉ wb.present p.2 := by
  induction readers generalizing wb with
  | nil => exact iff_of_true hw (List.forall_mem_nil _)
  | cons p readers ih =>
    rw [List.forall_mem_cons, ← hw.link_iff]
    by_cases hp : (wb.link p.1 p.2).EdgesInStep
    · have hrest := ih hp
      simp only [hasSheet_link, present_congr (hasSheet_link p.1 p.2 wb)] at hrest
      rw [and_iff_right hp]
      exact hrest
    · rw [iff_false_right fun h => hp h.1]
      -- The edge that the first reader leaves dangling is still there at the end.
      rw [hw.link_iff, not_or, Bool.not_eq_true, not_forall] at hp
      obtain ⟨hmissing, b, hb⟩ := hp
      have hread : p.1 ∈ ((wb.link p.1 p.2).record b).dependents :=
        (mem_dependents_link_of_missing hmissing).mpr (.inl ⟨rfl, not_not.mp hb⟩)
      intro hall
      have hlinked : (wb.link p.1 p.2).hasSheet p.1.sheet = false := by rwa [hasSheet_link]
      have hend : p.1 ∈ (((wb.link p.1 p.2).linkAll readers).record b).dependents :=
        mem_dependents_linkAll_of_missing hlinked hread
      exact hall.not_mem_dependents (by rwa [hasSheet_linkAll]) hend

/-- Linking cells whose sheets exist keeps the edges in step. -/
theorem EdgesInStep.linkAll (hw : wb.EdgesInStep)
    (h : ∀ p ∈ readers, wb.hasSheet p.1.sheet = true) : (wb.linkAll readers).EdgesInStep :=
  hw.linkAll_iff.mpr fun p hp => .inl (h p hp)

end Spreadsheet.Workbook
