import Spreadsheet.Dependency.Downstream
import Spreadsheet.Proofs.Dependency.Cycle

/-!
# The cells downstream

Every cell that a walk in breadth finds waits in the queue until all its readers are found as well.
The main statement says that the cells downstream are those that the edges to the readers lead to,
apart from the cell itself, for every graph with or without cycles.
-/

namespace Spreadsheet

namespace Dependency

variable {γ : Type} [Graph γ] {g : γ} {start a b : QualifiedAddress} {c c' : Collection}
  {l : List QualifiedAddress} {cells : AddressSet}

private theorem mem_found_discover :
    b ∈ (discover start c a).found ↔ b ∈ c.found ∨ b = a ∧ b ≠ start := by
  unfold discover
  split
  · next hold =>
    rw [Std.ExtTreeSet.contains_iff_mem] at hold
    refine ⟨Or.inl, ?_⟩
    rintro (hb | ⟨rfl, hne⟩)
    · exact hb
    · exact hold.resolve_left hne
  · next hnew =>
    rw [AddressSet.mem_insert]
    constructor
    · rintro (rfl | hb)
      · exact Or.inr ⟨rfl, fun h => hnew (Or.inl h)⟩
      · exact Or.inl hb
    · rintro (hb | ⟨rfl, -⟩)
      · exact Or.inr hb
      · exact Or.inl rfl

private theorem mem_queue_discover :
    b ∈ (discover start c a).queue ↔ b ∈ c.queue ∨ (b = a ∧ b ≠ start) ∧ b ∉ c.found := by
  unfold discover
  split
  · next hold =>
    rw [Std.ExtTreeSet.contains_iff_mem] at hold
    refine ⟨Or.inl, fun hb => hb.resolve_right ?_⟩
    rintro ⟨⟨rfl, hne⟩, hnot⟩
    exact hold.elim hne hnot
  · next hnew =>
    rw [Std.ExtTreeSet.contains_iff_mem, not_or] at hnew
    rw [List.mem_append, List.mem_singleton]
    constructor
    · rintro (hb | rfl)
      · exact Or.inl hb
      · exact Or.inr ⟨⟨rfl, hnew.1⟩, hnew.2⟩
    · exact Or.imp id fun hb => hb.1.1

/-- The readers of a cell are found, apart from the start. -/
theorem mem_found_foldl_discover :
    b ∈ (l.foldl (discover start) c).found ↔ b ∈ c.found ∨ b ∈ l ∧ b ≠ start := by
  induction l generalizing c with
  | nil => simp
  | cons a l ih =>
    rw [List.foldl_cons, ih, mem_found_discover, List.mem_cons]
    tauto

/-- Those readers of a cell are queued that were not found before. -/
theorem mem_queue_foldl_discover :
    b ∈ (l.foldl (discover start) c).queue ↔
      b ∈ c.queue ∨ (b ∈ l ∧ b ≠ start) ∧ b ∉ c.found := by
  induction l generalizing c with
  | nil => simp
  | cons a l ih =>
    rw [List.foldl_cons, ih, mem_queue_discover, mem_found_discover, List.mem_cons]
    tauto

/-- What a walk in breadth from a cell knows at any time. -/
structure Collected (g : γ) (start : QualifiedAddress) (c : Collection) : Prop where
  /-- What is found can be reached from the start along the readers. -/
  reached : ∀ b ∈ c.found, b ≠ start ∧ Relation.TransGen (fun x y => y ∈ readers g x) start b
  /-- What is queued is the start or was found. -/
  queued : ∀ b ∈ c.queue, b = start ∨ b ∈ c.found
  /-- The readers of what is no longer queued were found. -/
  closed : ∀ a, a = start ∨ a ∈ c.found → a ∉ c.queue →
    ∀ b ∈ readers g a, b = start ∨ b ∈ c.found

namespace Collected

/-- Before anything is found, the start is queued. -/
theorem init (g : γ) (start : QualifiedAddress) : Collected g start ⟨∅, [start]⟩ where
  reached b hb := absurd hb Std.ExtTreeSet.not_mem_empty
  queued b hb := Or.inl (List.mem_singleton.mp hb)
  closed a ha hnot := by
    rcases ha with rfl | ha
    · exact absurd (List.mem_singleton.mpr rfl) hnot
    · exact absurd ha Std.ExtTreeSet.not_mem_empty

/-- Every cell that leaves the queue leaves its readers found. -/
theorem expand (h : Collected g start c) (hexpand : expand g start c = .inr c') :
    Collected g start c' := by
  unfold Dependency.expand at hexpand
  split at hexpand
  · cases hexpand
  · next a queue hqueue =>
    obtain rfl := Sum.inr.inj hexpand
    obtain ⟨reached, queued, closed⟩ := h
    rw [hqueue] at queued closed
    have hstart : Relation.ReflTransGen (fun x y => y ∈ readers g x) start a := by
      rcases queued a List.mem_cons_self with rfl | ha
      · exact .refl
      · exact (reached a ha).2.to_reflTransGen
    refine ⟨fun b hb => ?_, fun b hb => ?_, fun x hx hnot b hb => ?_⟩
    · rcases mem_found_foldl_discover.mp hb with hb | ⟨hb, hne⟩
      · exact reached b hb
      · exact ⟨hne, .tail' hstart hb⟩
    · rw [mem_found_foldl_discover]
      rcases mem_queue_foldl_discover.mp hb with hb | ⟨hb, -⟩
      · exact (queued b (List.mem_cons_of_mem a hb)).imp id Or.inl
      · exact Or.inr (Or.inr hb)
    · rw [mem_found_foldl_discover] at hx ⊢
      rw [mem_queue_foldl_discover, not_or] at hnot
      by_cases hb' : b = start
      · exact Or.inl hb'
      refine Or.inr ?_
      by_cases hxa : x = a
      · exact Or.inr ⟨hxa ▸ hb, hb'⟩
      -- What was found only now is queued, so that `x` was there before.
      have hold : x = start ∨ x ∈ c.found := by tauto
      have hleft : x ∉ a :: queue := fun hmem => (List.mem_cons.mp hmem).elim hxa hnot.1
      exact Or.inl ((closed x hold hleft b hb).resolve_left hb')

/-- When nothing is queued, all that the edges to the readers lead to is found. -/
theorem result (h : Collected g start c) (hexpand : Dependency.expand g start c = .inl cells) :
    ∀ b, b ∈ cells ↔
      b ≠ start ∧ Relation.TransGen (fun x y => y ∈ readers g x) start b := by
  unfold Dependency.expand at hexpand
  split at hexpand
  · next hqueue =>
    obtain rfl := Sum.inl.inj hexpand
    have hclosed : ∀ a, a = start ∨ a ∈ c.found → ∀ b ∈ readers g a, b = start ∨ b ∈ c.found := by
      intro a ha
      exact h.closed a ha (hqueue ▸ List.not_mem_nil)
    have hall : ∀ b, Relation.TransGen (fun x y => y ∈ readers g x) start b →
        b = start ∨ b ∈ c.found := by
      intro b hpath
      induction hpath with
      | single hb => exact hclosed start (Or.inl rfl) _ hb
      | tail _ hb ih => exact hclosed _ ih _ hb
    exact fun b => ⟨h.reached b, fun ⟨hne, hpath⟩ => (hall b hpath).resolve_left hne⟩
  · cases hexpand

end Collected

/-- The cells downstream are the others that read a cell, directly or through others. -/
theorem mem_downstream_iff :
    b ∈ downstream g a ↔ b ≠ a ∧ Relation.TransGen (fun x y => y ∈ readers g x) a b := by
  refine Procedure.run_of_invariant (p := spread g a) (P := Collected g a)
    (Q := fun result => ∀ b, b ∈ result ↔
      b ≠ a ∧ Relation.TransGen (fun x y => y ∈ readers g x) a b)
    (fun c c' h hexpand => ?_) (fun c result h hexpand => ?_) (Collected.init g a) b
  · exact h.expand hexpand
  · exact h.result hexpand

end Dependency

namespace Workbook

variable {wb : Workbook} {a b : QualifiedAddress}

/-- The readers of a cell are the dependents in its record. -/
theorem mem_readers : b ∈ wb.readers a ↔ b ∈ (wb.record a).dependents := by
  rw [readers, Std.ExtTreeSet.mem_toList, dependentsOf_eq]

/-- The cells downstream are the others that read a cell, directly or through others. -/
theorem mem_downstream_iff :
    b ∈ wb.downstream a ↔ b ≠ a ∧ Relation.TransGen (fun x y => y ∈ wb.readers x) a b :=
  Dependency.mem_downstream_iff

end Workbook

end Spreadsheet
