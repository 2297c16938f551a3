import Mathlib.Data.Set.Basic
import Mathlib.Logic.Relation
import Spreadsheet.Dependency.Cycle
import Spreadsheet.Proofs.Procedure
import Spreadsheet.Proofs.Workbook.Record

/-!
# The test for cycles

A walk along the dependencies comes to an end from wherever it starts exactly if it cannot go round
in a cycle. The cells on the path of the walk in depth lead to all that is stacked above them, so
that it is right where it says that it met a cycle; and what they read has been dealt with when they
are left, so that it is right where it says that it met none. The main statement says that it gives
its answer after finitely many visits.
-/

namespace Spreadsheet

namespace Dependency

variable {next next' : QualifiedAddress → List QualifiedAddress} {a b : QualifiedAddress}

/-- Every walk from a cell comes to an end. -/
def Ends (next : QualifiedAddress → List QualifiedAddress) (a : QualifiedAddress) : Prop :=
  Acc (fun b c => b ∈ next c) a

/-- A walk that comes to an end from a cell never returns to it. -/
theorem Ends.not_transGen (h : Ends next a) :
    ¬ Relation.TransGen (fun b c => b ∈ next c) a a := by
  have hacc : Acc (Relation.TransGen fun b c => b ∈ next c) a := h.transGen
  induction hacc with
  | intro a _ ih =>
    intro hcycle
    exact ih a hcycle h hcycle

/-- Where graphs agree on cells that lead to such cells only, walks that end in one end in the
other. -/
theorem Ends.of_agree {S : Set QualifiedAddress} (hnext : ∀ a ∈ S, next' a = next a)
    (hclosed : ∀ a ∈ S, ∀ b ∈ next a, b ∈ S) (ha : a ∈ S) (h : Ends next a) : Ends next' a := by
  induction h with
  | intro a _ ih =>
    refine Acc.intro a fun b hb => ?_
    have hb : b ∈ next a := hnext a ha ▸ hb
    exact ih b hb (hclosed a ha b hb)

/-- A walk that comes to an end comes to an end from every cell on its way. -/
theorem Ends.of_reflTransGen (h : Ends next a)
    (hab : Relation.ReflTransGen (fun x y => y ∈ next x) a b) : Ends next b := by
  induction hab with
  | refl => exact h
  | tail _ hbc ih => exact ih.inv hbc

/-- There is a cycle that the dependencies of a cell lead to. -/
def LeadsToCycle (next : QualifiedAddress → List QualifiedAddress) (a : QualifiedAddress) : Prop :=
  ∃ b, Relation.ReflTransGen (fun x y => y ∈ next x) a b ∧
    Relation.TransGen (fun x y => y ∈ next x) b b

/-- From a cell that leads to a cycle some walk goes on for ever. -/
theorem LeadsToCycle.not_ends (h : LeadsToCycle next a) : ¬Ends next a := by
  obtain ⟨b, hab, hbb⟩ := h
  intro hends
  exact (hends.of_reflTransGen hab).not_transGen (Relation.transGen_swap.mp hbb)

/-! ## What is on the stack -/

/-- What a cell reads that is to be left is known by then: it was known before the visits of the
stack, or it is the cell of a visit above. -/
def Covered (next : QualifiedAddress → List QualifiedAddress) :
    (known : QualifiedAddress → Prop) → List Visit → Prop
  | _, [] => True
  | known, v :: stack =>
    (∀ a, v = .leave a → ∀ b ∈ next a, known b) ∧
      Covered next (fun b => known b ∨ b = v.cell) stack

/-- Where more is known, the same visits are covered. -/
theorem Covered.mono {known known' : QualifiedAddress → Prop} {stack : List Visit}
    (h : Covered next known stack) (hknown : ∀ b, known b → known' b) :
    Covered next known' stack := by
  induction stack generalizing known known' with
  | nil => trivial
  | cons v stack ih =>
    refine ⟨fun a hv b hb => hknown b (h.1 a hv b hb), ih h.2 fun b => ?_⟩
    exact Or.imp (hknown b) id

/-- Cells that are to be entered are known to what lies below them. -/
theorem Covered.append {known : QualifiedAddress → Prop} {l : List QualifiedAddress}
    {stack : List Visit} (h : Covered next (fun b => known b ∨ b ∈ l) stack) :
    Covered next known (l.map .enter ++ stack) := by
  induction l generalizing known with
  | nil => exact h.mono fun b hb => hb.resolve_right List.not_mem_nil
  | cons c l ih =>
    refine ⟨nofun, ih (h.mono fun b hb => ?_)⟩
    rw [List.mem_cons, ← or_assoc] at hb
    exact hb

variable {γ : Type} [Graph γ] {g : γ} {start : QualifiedAddress} {w w' : Walk}
  {stack : List Visit} {result : Bool}

/-- The cell of one visit is another cell, which leads to it. -/
def Above (g : γ) (v v' : Visit) : Prop :=
  ∀ p, v' = .leave p →
    v.cell ≠ p ∧ Relation.TransGen (fun x y => y ∈ inputs g x) p v.cell

/-- After a cell was entered, those of its inputs are to be entered that are not settled, and the
cell is to be left. -/
theorem mem_stack_enter {v : Visit} {l : List QualifiedAddress} :
    v ∈ (w.enter a stack l).stack ↔
      (∃ b ∈ l, b ∉ w.settled ∧ v = .enter b) ∨ v ∈ Visit.leave a :: stack := by
  simp only [Walk.enter, List.mem_append, List.mem_map, List.mem_reverse, List.mem_filter,
    Bool.not_eq_true', Bool.eq_false_iff, ne_eq, Std.ExtTreeSet.contains_iff_mem, and_assoc,
    eq_comm (a := v)]

/-- A cell that is entered and the cells on the path lead to its inputs, which are different. -/
theorem above_enter (habove : (Visit.enter a :: stack).Pairwise (Above g))
    (hinputs : ∀ b ∈ inputs g a, .leave b ∉ Visit.leave a :: stack) :
    (w.enter a stack (inputs g a)).stack.Pairwise (Above g) := by
  obtain ⟨hself, habove⟩ := List.pairwise_cons.mp habove
  refine List.pairwise_append.mpr
    ⟨List.pairwise_map.mpr ?_, List.pairwise_cons.mpr ⟨hself, habove⟩, ?_⟩
  · exact List.pairwise_of_forall fun _ _ => nofun
  · rintro v hv _ hp p rfl
    obtain ⟨b, hb, rfl⟩ := List.mem_map.mp hv
    have hb : b ∈ inputs g a := (List.mem_filter.mp (List.mem_reverse.mp hb)).1
    refine ⟨?_, ?_⟩
    · rintro rfl
      exact hinputs b hb hp
    · rcases List.mem_cons.mp hp with hp | hp
      · obtain rfl := Visit.leave.inj hp
        exact .single hb
      · exact (hself _ hp p rfl).2.tail hb

/-- The inputs of a cell that is entered lie above it, unless they are settled. -/
theorem covered_enter {l : List QualifiedAddress} (hl : ∀ b ∈ next a, b ∈ l)
    (h : Covered next (fun b => b ∈ w.settled ∨ b = a) stack) :
    Covered next (· ∈ w.settled) (w.enter a stack l).stack := by
  refine Covered.append ⟨?_, h.mono fun b => Or.imp Or.inl id⟩
  rintro c hc b hb
  obtain rfl := Visit.leave.inj hc
  rw [List.mem_reverse, List.mem_filter, Bool.not_eq_true', Bool.eq_false_iff, ne_eq,
    Std.ExtTreeSet.contains_iff_mem]
  exact (em (b ∈ w.settled)).imp id fun hnew => ⟨hl b hb, hnew⟩

/-- What a walk in depth from a cell knows at any time. -/
structure Explored (g : γ) (start : QualifiedAddress) (w : Walk) : Prop where
  /-- The cells on the path are those that are to be left. -/
  mem_path : ∀ a, a ∈ w.path ↔ .leave a ∈ w.stack
  /-- The start leads to every cell on the stack. -/
  reached : ∀ v ∈ w.stack, Relation.ReflTransGen (fun x y => y ∈ inputs g x) start v.cell
  /-- A cell on the path leads to all cells above it, which are different. -/
  above : w.stack.Pairwise (Above g)
  /-- When a cell is left, all that it reads is settled. -/
  covered : Covered (inputs g) (· ∈ w.settled) w.stack
  /-- All walks end from the cells that are settled. -/
  settled : ∀ a ∈ w.settled, Ends (inputs g) a
  /-- The start is not lost. -/
  start : start ∈ w.settled ∨ ∃ v ∈ w.stack, v.cell = start

namespace Explored

/-- Before the first visit, the start is all that is on the stack. -/
theorem init (g : γ) (start : QualifiedAddress) : Explored g start (.start start) where
  mem_path a := by simp [Walk.start]
  reached v hv := by
    rw [List.mem_singleton.mp hv]
    exact .refl
  above := List.pairwise_singleton _ _
  covered := ⟨nofun, trivial⟩
  settled a ha := absurd ha Std.ExtTreeSet.not_mem_empty
  start := Or.inr ⟨_, List.mem_singleton.mpr rfl, rfl⟩

/-- A cell that is left is settled. -/
theorem leave (h : Explored g start w) (hstack : w.stack = .leave a :: stack) :
    Explored g start ⟨stack, w.path.erase a, w.settled.insert a⟩ := by
  obtain ⟨mem_path, reached, above, covered, settled, hstart⟩ := h
  rw [hstack] at mem_path reached above covered hstart
  obtain ⟨hself, habove⟩ := List.pairwise_cons.mp above
  obtain ⟨hinputs, hcovered⟩ := covered
  have hsettled : ∀ b, b ∈ w.settled ∨ b = a ↔ b ∈ w.settled.insert a := by
    intro b
    rw [AddressSet.mem_insert, or_comm, eq_comm]
  refine ⟨fun b => ?_, fun v hv => reached v (List.mem_cons_of_mem _ hv), habove,
    hcovered.mono fun b => (hsettled b).mp, fun b hb => ?_, ?_⟩
  · have hfresh : .leave a ∉ stack := fun hmem => (hself _ hmem a rfl).1 rfl
    simp only [Std.ExtTreeSet.mem_erase, Std.LawfulEqOrd.compare_eq_iff_eq, ne_eq, mem_path,
      List.mem_cons, Visit.leave.injEq]
    constructor
    · rintro ⟨hne, rfl | hb⟩
      · exact absurd rfl hne
      · exact hb
    · intro hb
      refine ⟨?_, Or.inr hb⟩
      rintro rfl
      exact hfresh hb
  · rcases (hsettled b).mpr hb with hb | rfl
    · exact settled b hb
    · exact Acc.intro b fun c hc => settled c (hinputs b rfl c hc)
  · rcases hstart with hstart | ⟨v, hv, rfl⟩
    · exact Or.inl ((hsettled start).mp (Or.inl hstart))
    · rcases List.mem_cons.mp hv with rfl | hv
      · exact Or.inl ((hsettled _).mp (Or.inr rfl))
      · exact Or.inr ⟨v, hv, rfl⟩

/-- A cell that is on the path is not entered again while it is there. -/
theorem mem_settled_of_knows (h : Explored g start w) (hstack : w.stack = .enter a :: stack)
    (ha : w.knows a = true) : a ∈ w.settled := by
  rw [Walk.knows, Bool.or_eq_true] at ha
  refine Std.ExtTreeSet.contains_iff_mem.mp (ha.resolve_right fun hpath => ?_)
  have hleave := (h.mem_path a).mp (Std.ExtTreeSet.contains_iff_mem.mp hpath)
  have habove := h.above
  rw [hstack] at hleave habove
  have hmem : Visit.leave a ∈ stack := by simpa using hleave
  exact ((List.pairwise_cons.mp habove).1 _ hmem a rfl).1 rfl

/-- Nothing is to be done about a cell that is settled. -/
theorem skip (h : Explored g start w) (hstack : w.stack = .enter a :: stack)
    (ha : a ∈ w.settled) : Explored g start { w with stack := stack } := by
  obtain ⟨mem_path, reached, above, covered, settled, hstart⟩ := h
  rw [hstack] at mem_path reached above covered hstart
  refine ⟨fun b => ?_, fun v hv => reached v (List.mem_cons_of_mem _ hv),
    (List.pairwise_cons.mp above).2, covered.2.mono fun b hb => ?_, settled, ?_⟩
  · simpa using mem_path b
  · rcases hb with hb | rfl
    · exact hb
    · exact ha
  · rcases hstart with hstart | ⟨v, hv, rfl⟩
    · exact Or.inl hstart
    · rcases List.mem_cons.mp hv with rfl | hv
      · exact Or.inl ha
      · exact Or.inr ⟨v, hv, rfl⟩

/-- A cell is entered that reads no cell on the path, itself included. -/
theorem enter (h : Explored g start w) (hstack : w.stack = .enter a :: stack)
    (hpath : ∀ b ∈ inputs g a, b ∉ w.path.insert a) :
    Explored g start (w.enter a stack (inputs g a)) := by
  obtain ⟨mem_path, reached, above, covered, settled, hstart⟩ := h
  rw [hstack] at mem_path reached above covered hstart
  have ha : Relation.ReflTransGen (fun x y => y ∈ inputs g x) start a :=
    reached _ List.mem_cons_self
  have hleave : ∀ b, b ∈ w.path.insert a ↔ .leave b ∈ Visit.leave a :: stack := by
    intro b
    rw [AddressSet.mem_insert, mem_path, List.mem_cons, List.mem_cons, Visit.leave.injEq,
      eq_comm (a := a)]
    simp
  refine ⟨fun b => ?_, fun v hv => ?_, above_enter above fun b hb => ?_,
    covered_enter (fun _ hb => hb) covered.2, settled, ?_⟩
  · rw [mem_stack_enter, ← hleave]
    simp [Walk.enter]
  · rcases mem_stack_enter.mp hv with ⟨b, hb, -, rfl⟩ | hv
    · exact ha.tail hb
    · rcases List.mem_cons.mp hv with rfl | hv
      · exact ha
      · exact reached v (List.mem_cons_of_mem _ hv)
  · rw [← hleave]
    exact hpath b hb
  · refine hstart.imp id ?_
    rintro ⟨v, hv, rfl⟩
    rcases List.mem_cons.mp hv with rfl | hv
    · exact ⟨.leave a, mem_stack_enter.mpr (Or.inr List.mem_cons_self), rfl⟩
    · exact ⟨v, mem_stack_enter.mpr (Or.inr (List.mem_cons_of_mem _ hv)), rfl⟩

/-- Every visit keeps what is known. -/
theorem visit (h : Explored g start w) (hvisit : visit g w = .inr w') :
    Explored g start w' := by
  unfold Dependency.visit at hvisit
  split at hvisit
  · cases hvisit
  · next a stack hstack =>
    obtain rfl := Sum.inr.inj hvisit
    exact h.leave hstack
  · next a stack hstack =>
    split_ifs at hvisit with hknown hcycle
    · obtain rfl := Sum.inr.inj hvisit
      exact h.skip hstack (h.mem_settled_of_knows hstack hknown)
    · obtain rfl := Sum.inr.inj hvisit
      refine h.enter hstack fun b hb hpath => hcycle ?_
      exact List.any_eq_true.mpr ⟨b, hb, Std.ExtTreeSet.contains_iff_mem.mpr hpath⟩

/-- The last visit has the right answer. -/
theorem answer (h : Explored g start w) (hvisit : Dependency.visit g w = .inl result) :
    if result then LeadsToCycle (inputs g) start else Ends (inputs g) start := by
  unfold Dependency.visit at hvisit
  split at hvisit
  · next hstack =>
    obtain rfl := Sum.inl.inj hvisit
    refine h.settled start (h.start.resolve_right ?_)
    rintro ⟨v, hv, -⟩
    rw [hstack] at hv
    cases hv
  · cases hvisit
  · next a stack hstack =>
    split_ifs at hvisit with hknown hcycle
    obtain rfl := Sum.inl.inj hvisit
    obtain ⟨b, hb, hpath⟩ := List.any_eq_true.mp hcycle
    have ha := h.reached (.enter a) (hstack ▸ List.mem_cons_self)
    rcases AddressSet.mem_insert.mp (Std.ExtTreeSet.contains_iff_mem.mp hpath) with rfl | hpath
    · exact ⟨a, ha, .single hb⟩
    · have hleave := (h.mem_path b).mp hpath
      have habove := h.above
      rw [hstack] at habove
      have hmem : Visit.leave b ∈ stack := by simpa [hstack] using hleave
      exact ⟨b, h.reached _ hleave, ((List.pairwise_cons.mp habove).1 _ hmem b rfl).2.tail hb⟩

end Explored

/-- A walk in depth meets a cycle, or it finds that all walks end. -/
theorem reachesCycle_spec (g : γ) (a : QualifiedAddress) :
    if reachesCycle g a then LeadsToCycle (inputs g) a else Ends (inputs g) a := by
  refine Procedure.run_of_invariant (p := search g) (P := Explored g a)
    (Q := fun result => if result then LeadsToCycle (inputs g) a else Ends (inputs g) a)
    (fun w w' h hvisit => ?_) (fun w result h hvisit => ?_) (Explored.init g a)
  · exact h.visit hvisit
  · exact h.answer hvisit

/-- The test says that there is a cycle exactly if the cell leads to one. -/
theorem reachesCycle_iff : reachesCycle g a = true ↔ LeadsToCycle (inputs g) a := by
  have hspec := reachesCycle_spec g a
  split at hspec
  · next h => exact ⟨fun _ => hspec, fun _ => h⟩
  · next h => exact ⟨fun h' => absurd h' h, fun hcycle => absurd hspec hcycle.not_ends⟩

/-- The test says that there is no cycle exactly if every walk from the cell comes to an end. -/
theorem reachesCycle_eq_false_iff : reachesCycle g a = false ↔ Ends (inputs g) a := by
  have hspec := reachesCycle_spec g a
  rw [Bool.eq_false_iff]
  split at hspec
  · next h => exact ⟨fun h' => absurd h h', fun hends => absurd hends hspec.not_ends⟩
  · next h => exact ⟨fun _ => hspec, fun _ => h⟩

/-- The number of edges by the records of the cells that read. -/
def edgeCount (g : γ) : Nat :=
  ((Graph.recorded g).flatMap (inputs g)).length

/-- Before the walk starts, all edges are before it. -/
theorem work_start (g : γ) (a : QualifiedAddress) :
    (Walk.start a).work g = 2 * edgeCount g + 2 := by
  have hknows : ∀ c, (Walk.start a).knows c = false := by simp [Walk.knows, Walk.start]
  have hunknown : ∀ cells : List QualifiedAddress,
      unknown (fun a => 2 * (inputs g a).length) (Walk.start a).knows cells =
        2 * (cells.flatMap (inputs g)).length := by
    intro cells
    induction cells with
    | nil => rfl
    | cons c cells ih =>
      rw [unknown, hknows, ih, List.flatMap_cons, List.length_append]
      simp only [Bool.false_eq_true, if_false]
      omega
  rw [Walk.work, hunknown, edgeCount]
  rfl

/-- In every graph with finitely many records, whether or not the sides of its edges fit together,
the walk in depth from a cell has an answer within three visits more than there are ends of edges.
The answer is that a cycle can be reached exactly if the dependencies lead from the cell to one that
they lead back to. -/
theorem search_answers_iff_leadsToCycle (g : γ) (a : QualifiedAddress) :
    (∃ n ≤ 2 * edgeCount g + 3, (search g).Answers n (.start a) (reachesCycle g a)) ∧
      (reachesCycle g a = true ↔
        ∃ b, Relation.ReflTransGen (fun x y => y ∈ Graph.dependenciesOf g x) a b ∧
          Relation.TransGen (fun x y => y ∈ Graph.dependenciesOf g x) b b) := by
  obtain ⟨n, hn, hanswers⟩ := (search g).exists_answers (.start a)
  have hwork : (search g).work (.start a) = 2 * edgeCount g + 2 := work_start g a
  refine ⟨⟨n, by omega, hanswers⟩, ?_⟩
  have hreads : (fun x y => y ∈ Graph.dependenciesOf g x) = fun x y => y ∈ inputs g x := by
    funext x y
    rw [inputs, Std.ExtTreeSet.mem_toList]
  rw [hreads]
  exact reachesCycle_iff

end Dependency

namespace Workbook

/-- The inputs of a cell are the dependencies in its record. -/
theorem mem_inputs {wb : Workbook} {a b : QualifiedAddress} :
    b ∈ wb.inputs a ↔ b ∈ (wb.record a).dependencies := by
  rw [inputs, Std.ExtTreeSet.mem_toList, dependenciesOf_eq]

/-- The test finds no cycle exactly if every walk along the dependencies ends. -/
theorem reachesCycle_eq_false_iff {wb : Workbook} {a : QualifiedAddress} :
    wb.reachesCycle a = false ↔ Dependency.Ends wb.inputs a :=
  Dependency.reachesCycle_eq_false_iff

/-- The test finds a cycle exactly if the inputs lead to one. -/
theorem reachesCycle_iff_transGen {wb : Workbook} {a : QualifiedAddress} :
    wb.reachesCycle a = true ↔ ∃ b, Relation.ReflTransGen (fun x y => y ∈ wb.inputs x) a b ∧
      Relation.TransGen (fun x y => y ∈ wb.inputs x) b b :=
  Dependency.reachesCycle_iff

/-- Where two workbooks agree on the dependencies of cells that lead to such cells only, they agree
on whether a cycle can be reached. -/
theorem reachesCycle_congr {wb wb' : Workbook} {S : Set QualifiedAddress}
    (hdeps : ∀ a ∈ S, (wb'.record a).dependencies = (wb.record a).dependencies)
    (hclosed : ∀ a ∈ S, ∀ b ∈ (wb.record a).dependencies, b ∈ S) {a : QualifiedAddress}
    (ha : a ∈ S) : wb'.reachesCycle a = wb.reachesCycle a := by
  have hinputs : ∀ x ∈ S, wb'.inputs x = wb.inputs x := by
    intro x hx
    rw [inputs, inputs, dependenciesOf_eq, dependenciesOf_eq, hdeps x hx]
  have hstay : ∀ x ∈ S, ∀ y ∈ wb.inputs x, y ∈ S := fun x hx y hy =>
    hclosed x hx y (mem_inputs.mp hy)
  have hstay' : ∀ x ∈ S, ∀ y ∈ wb'.inputs x, y ∈ S := fun x hx => hinputs x hx ▸ hstay x hx
  rw [Bool.eq_iff_iff, ← not_iff_not, Bool.not_eq_true, Bool.not_eq_true,
    reachesCycle_eq_false_iff, reachesCycle_eq_false_iff]
  exact ⟨.of_agree (fun x hx => (hinputs x hx).symm) hstay' ha, .of_agree hinputs hstay ha⟩

end Workbook

end Spreadsheet
