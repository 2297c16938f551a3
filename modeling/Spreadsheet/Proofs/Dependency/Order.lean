import Mathlib.Data.Set.Finite.List
import Mathlib.Order.WellFounded
import Spreadsheet.Dependency.Order
import Spreadsheet.Proofs.Dependency.Downstream
import Spreadsheet.Proofs.Workbook.Dangling

/-!
# What the order lists

Cells wait for their turn until they get it, and those that wait in vain come last. The main
statements say that an order of a set of cells lists the cells of the set once each, whatever cycles
there are among them; and that, where both sides of every edge fit together, exactly those cells
come last that lead to a cycle among them, and each of the others comes after all that it reads.
-/

namespace Spreadsheet

namespace Dependency

variable {γ : Type} [Graph γ] {g : γ} {cells : AddressSet} {s s' : Progress}
  {a b : QualifiedAddress} {l : List QualifiedAddress}

private theorem nodup_inputs (g : γ) (a : QualifiedAddress) : (inputs g a).Nodup :=
  AddressSet.nodup_toList _

private theorem nodup_readers (g : γ) (a : QualifiedAddress) : (readers g a).Nodup :=
  AddressSet.nodup_toList _

/-- Among finitely many cells each of which reads one of them, some cell reads itself, directly or
through others. -/
theorem exists_transGen_self (next : QualifiedAddress → List QualifiedAddress)
    {S : Set QualifiedAddress} (hfinite : S.Finite) (hne : S.Nonempty)
    (h : ∀ a ∈ S, ∃ b ∈ next a, b ∈ S) :
    ∃ a ∈ S, Relation.TransGen (fun x y => y ∈ next x) a a := by
  by_contra hnone
  -- Otherwise the cells are ordered by what leads to what, so that one of them is the last.
  have : Finite S := hfinite.to_subtype
  have : Std.Irrefl fun x y : S => Relation.TransGen (fun x y => y ∈ next x) y.1 x.1 :=
    ⟨fun x hx => hnone ⟨x.1, x.2, hx⟩⟩
  have : IsTrans S fun x y => Relation.TransGen (fun x y => y ∈ next x) y.1 x.1 :=
    ⟨fun _ _ _ hxy hyz => hyz.trans hxy⟩
  obtain ⟨last, -, hlast⟩ := (Finite.wellFounded_of_trans_of_irrefl fun x y : S =>
    Relation.TransGen (fun x y => y ∈ next x) y.1 x.1).has_min Set.univ
      ⟨⟨hne.some, hne.some_mem⟩, trivial⟩
  obtain ⟨b, hb, hbS⟩ := h last.1 last.2
  exact hlast ⟨b, hbS⟩ trivial (.single hb)

/-- In a list of cells each of which reads one of them, every cell leads to a cycle. -/
theorem LeadsToCycle.of_forall_exists {next : QualifiedAddress → List QualifiedAddress}
    (h : ∀ a ∈ l, ∃ b ∈ next a, b ∈ l) (ha : a ∈ l) : LeadsToCycle next a := by
  have hfinite : {b | b ∈ l ∧ Relation.ReflTransGen (fun x y => y ∈ next x) a b}.Finite :=
    l.finite_toSet.subset fun b hb => hb.1
  obtain ⟨b, ⟨-, hab⟩, hbb⟩ := exists_transGen_self next hfinite ⟨a, ha, .refl⟩
    fun b ⟨hb, hab⟩ => by
      obtain ⟨c, hc, hcl⟩ := h b hb
      exact ⟨c, hc, hcl, hab.tail hc⟩
  exact ⟨b, hab, hbb⟩

/-! ## One turn -/

/-- A reader that is released waits for one input less. -/
theorem getElem?_pending_release (s : Progress) (a b : QualifiedAddress) :
    (release s a).pending[b]? = if a = b then s.pending[b]?.map (· - 1) else s.pending[b]? := by
  unfold release
  split
  · next count hcount =>
    simp only [Std.ExtTreeMap.getElem?_insert, Std.LawfulEqOrd.compare_eq_iff_eq]
    split_ifs with hab
    · rw [← hab, hcount]
      rfl
    · rfl
  · next hnone =>
    split_ifs with hab
    · subst hab
      cases hcount : s.pending[a]? with
      | none => rfl
      | some count =>
        cases count with
        | zero => rfl
        | succ count => exact absurd hcount (hnone count)
    · rfl

/-- A reader that is released gets ready if it waited for one input. -/
theorem ready_release (s : Progress) (a : QualifiedAddress) :
    (release s a).ready = if s.pending[a]? = some 1 then s.ready ++ [a] else s.ready := by
  unfold release
  split
  · next count hcount => simp [hcount]
  · next hnone => rw [if_neg (hnone 0)]

private theorem done_release (s : Progress) (a : QualifiedAddress) :
    (release s a).done = s.done := by
  unfold release
  split <;> rfl

private theorem getElem?_pending_foldl_release (h : l.Nodup) (s : Progress) (b : QualifiedAddress) :
    (l.foldl release s).pending[b]? =
      if b ∈ l then s.pending[b]?.map (· - 1) else s.pending[b]? := by
  induction l generalizing s with
  | nil => rfl
  | cons a l ih =>
    obtain ⟨ha, hl⟩ := List.nodup_cons.mp h
    rw [List.foldl_cons, ih hl, getElem?_pending_release]
    by_cases hab : a = b
    · subst hab
      simp [ha]
    · simp [hab, Ne.symm hab]

private theorem ready_foldl_release (h : l.Nodup) (s : Progress) :
    (l.foldl release s).ready = s.ready ++ l.filter fun b => s.pending[b]? = some 1 := by
  induction l generalizing s with
  | nil => simp
  | cons a l ih =>
    obtain ⟨ha, hl⟩ := List.nodup_cons.mp h
    have hrest : (l.filter fun b => (release s a).pending[b]? = some 1) =
        l.filter fun b => s.pending[b]? = some 1 := by
      refine List.filter_congr fun b hb => ?_
      rw [getElem?_pending_release, if_neg]
      rintro rfl
      exact ha hb
    rw [List.foldl_cons, ih hl, hrest, ready_release, List.filter_cons]
    split_ifs <;> simp_all

private theorem done_foldl_release (l : List QualifiedAddress) (s : Progress) :
    (l.foldl release s).done = s.done := by
  induction l generalizing s with
  | nil => rfl
  | cons a l ih => rw [List.foldl_cons, ih, done_release]

/-- What a turn does: the next ready cell is done and waits no longer, its readers wait for one
input less, and those among them for which it was the last one get ready. -/
theorem takeTurn_eq_inr (h : takeTurn g s = .inr s') :
    ∃ a ready, s.ready = a :: ready ∧ s'.done = s.done ++ [a] ∧
      s'.ready = ready ++ (readers g a).filter (fun b => a ≠ b ∧ s.pending[b]? = some 1) ∧
      ∀ b, s'.pending[b]? = if a = b then none
        else if b ∈ readers g a then s.pending[b]?.map (· - 1) else s.pending[b]? := by
  unfold takeTurn at h
  split at h
  · cases h
  · next a ready hready =>
    obtain rfl := Sum.inr.inj h
    have herase : ∀ b, (s.pending.erase a)[b]? = if a = b then none else s.pending[b]? := by
      intro b
      simp only [Std.ExtTreeMap.getElem?_erase, Std.LawfulEqOrd.compare_eq_iff_eq]
    refine ⟨a, ready, hready, done_foldl_release _ _, ?_, fun b => ?_⟩
    · rw [ready_foldl_release (nodup_readers g a)]
      refine congrArg _ (List.filter_congr fun b _ => ?_)
      rw [herase]
      by_cases hab : a = b <;> simp [hab]
    · rw [getElem?_pending_foldl_release (nodup_readers g a), herase]
      split_ifs <;> rfl

/-! ## Every cell once -/

/-- What is known of the cells at any time. -/
structure Scheduled (cells : AddressSet) (s : Progress) : Prop where
  /-- No cell has had two turns. -/
  nodup_done : s.done.Nodup
  /-- No cell will have two turns. -/
  nodup_ready : s.ready.Nodup
  /-- The ready cells are those that wait for no input. -/
  mem_ready : ∀ a, a ∈ s.ready ↔ s.pending[a]? = some 0
  /-- Every cell has had its turn or is yet to have it. -/
  mem_cells : ∀ a, a ∈ cells ↔ a ∈ s.done ∨ s.pending[a]?.isSome = true
  /-- No cell has had its turn and is yet to have it. -/
  not_both : ∀ a ∈ s.done, s.pending[a]? = none

namespace Scheduled

/-- A turn keeps every cell done once or yet to be done once. -/
theorem takeTurn (h : Scheduled cells s) (hturn : takeTurn g s = .inr s') :
    Scheduled cells s' := by
  obtain ⟨a, ready, hready, hdone, hready', hpending⟩ := takeTurn_eq_inr hturn
  have hzero : s.pending[a]? = some 0 := (h.mem_ready a).mp (hready ▸ List.mem_cons_self)
  have hnodup := h.nodup_ready
  rw [hready, List.nodup_cons] at hnodup
  obtain ⟨hfresh, hnodup⟩ := hnodup
  have hmem : ∀ b, b ∈ ready ↔ a ≠ b ∧ s.pending[b]? = some 0 := by
    intro b
    rw [← h.mem_ready, hready, List.mem_cons]
    constructor
    · intro hb
      exact ⟨fun hab => hfresh (hab ▸ hb), Or.inr hb⟩
    · rintro ⟨hab, rfl | hb⟩
      · exact absurd rfl hab
      · exact hb
  refine ⟨?_, ?_, fun b => ?_, fun b => ?_, fun b hb => ?_⟩
  · rw [hdone, List.nodup_append]
    refine ⟨h.nodup_done, List.pairwise_singleton _ _, fun b hb c hc => ?_⟩
    rintro rfl
    have hnone := h.not_both b hb
    rw [List.mem_singleton.mp hc, hzero] at hnone
    cases hnone
  · rw [hready', List.nodup_append]
    refine ⟨hnodup, (nodup_readers g a).filter _, fun b hb c hc => ?_⟩
    rintro rfl
    have hone := (of_decide_eq_true (List.mem_filter.mp hc).2).2
    rw [((hmem b).mp hb).2] at hone
    cases hone
  · rw [hready', hpending, List.mem_append, hmem, List.mem_filter, decide_eq_true_iff]
    by_cases hab : a = b
    · simp [hab]
    · by_cases hb : b ∈ readers g a
      · cases hcount : s.pending[b]? with
        | none => simp [hab, hb]
        | some count =>
          simp only [hab, hb, ne_eq, not_false_eq_true, true_and, if_true, if_false,
            Option.map_some, Option.some.injEq]
          omega
      · simp [hab, hb]
  · rw [h.mem_cells, hdone, hpending, List.mem_append, List.mem_singleton]
    by_cases hab : a = b
    · subst hab
      simp [hzero]
    · simp only [hab, Ne.symm hab, or_false, if_false]
      split_ifs <;> simp
  · rw [hdone, List.mem_append, List.mem_singleton] at hb
    rw [hpending]
    by_cases hab : a = b
    · rw [if_pos hab]
    · have hnone := h.not_both b (hb.resolve_right (Ne.symm hab))
      simp [hnone]

end Scheduled

/-- Before the first turn, every cell waits for its inputs among the cells. -/
theorem getElem?_pending_start (g : γ) (cells : AddressSet) (a : QualifiedAddress) :
    (Progress.start g cells).pending[a]? =
      if a ∈ cells then some (inputCount g cells a) else none := by
  have hdistinct : (cells.toList.map fun a => (a, inputCount g cells a)).Pairwise
      fun x y => ¬compare x.1 y.1 = .eq := by
    refine List.pairwise_map.mpr (cells.distinct_toList.imp fun hne => ?_)
    exact hne
  dsimp only [Progress.start]
  split_ifs with ha
  · refine Std.ExtTreeMap.getElem?_ofList_of_mem Std.ReflCmp.compare_self hdistinct ?_
    exact List.mem_map.mpr ⟨a, Std.ExtTreeSet.mem_toList.mpr ha, rfl⟩
  · refine Std.ExtTreeMap.getElem?_ofList_of_contains_eq_false ?_
    simpa using ha

private theorem ready_start (g : γ) (cells : AddressSet) :
    (Progress.start g cells).ready = cells.toList.filter fun a => inputCount g cells a == 0 := by
  simp [Progress.start, List.filter_map, Function.comp_def]

/-- Before the first turn, every cell is yet to be done. -/
theorem Scheduled.init (g : γ) (cells : AddressSet) : Scheduled cells (.start g cells) where
  nodup_done := List.nodup_nil
  nodup_ready := by
    rw [ready_start]
    exact (AddressSet.nodup_toList cells).filter _
  mem_ready a := by
    rw [ready_start, getElem?_pending_start, List.mem_filter, Std.ExtTreeSet.mem_toList]
    split_ifs with ha <;> simp [ha]
  mem_cells a := by
    rw [getElem?_pending_start]
    by_cases ha : a ∈ cells <;> simp [ha, Progress.start]
  not_both a ha := absurd ha List.not_mem_nil

/-- The turns end when no cell is ready, and what is left over follows what is done. -/
theorem takeTurn_eq_inl (h : takeTurn g s = .inl l) :
    s.ready = [] ∧ l = s.done ++ s.pending.keys := by
  unfold takeTurn at h
  split at h
  · next hready => exact ⟨hready, (Sum.inl.inj h).symm⟩
  · cases h

private theorem mem_keys {pending : Pending} : a ∈ pending.keys ↔ pending[a]?.isSome = true := by
  rw [Std.ExtTreeMap.mem_keys, Std.ExtTreeMap.mem_iff_isSome_getElem?]

/-- What is done and what is left over are all the cells, each of them once. -/
theorem Scheduled.result (h : Scheduled cells s) :
    (s.done ++ s.pending.keys).Nodup ∧ ∀ a, a ∈ s.done ++ s.pending.keys ↔ a ∈ cells := by
  refine ⟨List.nodup_append.mpr ⟨h.nodup_done, Std.ExtTreeMap.nodup_keys, ?_⟩, fun a => ?_⟩
  · rintro a ha b hb rfl
    rw [mem_keys, h.not_both a ha] at hb
    cases hb
  · rw [List.mem_append, mem_keys, h.mem_cells]

/-- Every cell of a set is listed once, and no other cell. -/
theorem order_lists_once (g : γ) (cells : AddressSet) :
    (order g cells).Nodup ∧ ∀ a, a ∈ order g cells ↔ a ∈ cells := by
  refine Procedure.run_of_invariant (p := ordering g) (P := Scheduled cells)
    (Q := fun l => l.Nodup ∧ ∀ a, a ∈ l ↔ a ∈ cells)
    (fun s s' h hturn => ?_) (fun s l h hturn => ?_) (Scheduled.init g cells)
  · exact h.takeTurn hturn
  · rw [(takeTurn_eq_inl hturn).2]
    exact h.result

/-! ## Inputs before the cells that read them -/

/-- The edges from the cells to their readers are those from the readers to their inputs. -/
def Symmetric (g : γ) : Prop :=
  ∀ a b, b ∈ Graph.dependenciesOf g a ↔ a ∈ Graph.dependentsOf g b

/-- A cell is a reader of its inputs. -/
theorem Symmetric.mem_readers_iff (h : Symmetric g) : b ∈ readers g a ↔ a ∈ inputs g b := by
  rw [readers, inputs, Std.ExtTreeSet.mem_toList, Std.ExtTreeSet.mem_toList, h b a]

/-- The other cells of a set that a cell reads. -/
def inputsAmong (g : γ) (cells : QualifiedAddress → Bool) (a : QualifiedAddress) :
    List QualifiedAddress :=
  (inputs g a).filter fun b => cells b && b != a

private theorem mem_inputsAmong {cells : QualifiedAddress → Bool} :
    b ∈ inputsAmong g cells a ↔ b ∈ inputs g a ∧ cells b = true ∧ b ≠ a := by
  rw [inputsAmong, List.mem_filter, Bool.and_eq_true, bne_iff_ne]

/-- Without one of its inputs, a cell has one less. -/
theorem length_inputsAmong_erase (g : γ) (pending : Pending) (a b : QualifiedAddress) :
    (inputsAmong g (fun x => pending.contains x && x != a) b).length =
      if a ∈ inputsAmong g pending.contains b then
        (inputsAmong g pending.contains b).length - 1
      else (inputsAmong g pending.contains b).length := by
  have hnodup : (inputsAmong g pending.contains b).Nodup := (nodup_inputs g b).filter _
  have herase : inputsAmong g (fun x => pending.contains x && x != a) b =
      (inputsAmong g pending.contains b).erase a := by
    rw [hnodup.erase_eq_filter, inputsAmong, inputsAmong, List.filter_filter]
    refine List.filter_congr fun x _ => ?_
    rw [Bool.and_right_comm, Bool.and_comm]
  rw [herase, List.length_erase]

/-- What is known of the inputs of the cells at any time, where both sides of every edge fit
together. -/
structure Sequenced (g : γ) (cells : AddressSet) (s : Progress) : Prop
    extends Scheduled cells s where
  /-- A cell waits for as many inputs as are not done. -/
  counted : ∀ a count, s.pending[a]? = some count →
    count = (inputsAmong g s.pending.contains a).length
  /-- A cell that is done comes after its inputs. -/
  before : ∀ earlier a later, s.done = earlier ++ a :: later →
    ∀ b ∈ inputsAmong g cells.contains a, b ∈ earlier
  /-- A cell that is done leads to no cycle among the cells. -/
  ends : ∀ a ∈ s.done, Ends (inputsAmong g cells.contains) a

namespace Sequenced

/-- Before the first turn, a cell waits for all of its inputs among the cells. -/
theorem init (g : γ) (cells : AddressSet) : Sequenced g cells (.start g cells) where
  toScheduled := .init g cells
  counted a count hcount := by
    have hcontains : (Progress.start g cells).pending.contains = cells.contains := by
      funext b
      rw [Std.ExtTreeMap.contains_eq_isSome_getElem?, getElem?_pending_start, Bool.eq_iff_iff,
        Std.ExtTreeSet.contains_iff_mem]
      split_ifs with hb <;> simp [hb]
    rw [getElem?_pending_start] at hcount
    split_ifs at hcount
    rw [hcontains, ← Option.some.inj hcount]
    rfl
  before earlier a later h := by simp [Progress.start] at h
  ends a ha := absurd ha List.not_mem_nil

/-- The inputs of a cell that waits for none are done. -/
theorem mem_done_of_count_eq_zero (h : Sequenced g cells s) (hzero : s.pending[a]? = some 0) :
    ∀ b ∈ inputsAmong g cells.contains a, b ∈ s.done := by
  intro b hb
  obtain ⟨hinput, hcells, hne⟩ := mem_inputsAmong.mp hb
  refine ((h.mem_cells b).mp (Std.ExtTreeSet.contains_iff_mem.mp hcells)).resolve_right ?_
  intro hpending
  have hnone := List.eq_nil_of_length_eq_zero (h.counted a 0 hzero).symm
  have hwaits : b ∈ inputsAmong g s.pending.contains a := by
    refine mem_inputsAmong.mpr ⟨hinput, ?_, hne⟩
    rw [Std.ExtTreeMap.contains_eq_isSome_getElem?]
    exact hpending
  rw [hnone] at hwaits
  cases hwaits

/-- A turn keeps the counts right and the cells that are done behind their inputs. -/
theorem takeTurn (h : Sequenced g cells s) (hg : Symmetric g)
    (hturn : takeTurn g s = .inr s') : Sequenced g cells s' := by
  obtain ⟨a, ready, hready, hdone, -, hpending⟩ := takeTurn_eq_inr hturn
  have hzero : s.pending[a]? = some 0 := (h.mem_ready a).mp (hready ▸ List.mem_cons_self)
  have hinputs := h.mem_done_of_count_eq_zero hzero
  refine ⟨h.toScheduled.takeTurn hturn, fun b count hcount => ?_,
    fun earlier b later hsplit => ?_, fun b hb => ?_⟩
  · have hcontains : s'.pending.contains = fun x => s.pending.contains x && x != a := by
      funext x
      rw [Std.ExtTreeMap.contains_eq_isSome_getElem?, Std.ExtTreeMap.contains_eq_isSome_getElem?,
        hpending]
      by_cases hax : a = x
      · simp [hax]
      · have hne : (x != a) = true := bne_iff_ne.mpr (Ne.symm hax)
        simp only [hax, hne, Bool.and_true, if_false]
        split_ifs <;> simp
    have hwaits : s.pending.contains a = true := by
      rw [Std.ExtTreeMap.contains_eq_isSome_getElem?, hzero]
      rfl
    rw [hcontains, length_inputsAmong_erase]
    rw [hpending] at hcount
    split_ifs at hcount with hab hreader
    · obtain ⟨old, hold, rfl⟩ := Option.map_eq_some_iff.mp hcount
      rw [if_pos (mem_inputsAmong.mpr ⟨hg.mem_readers_iff.mp hreader, hwaits, hab⟩),
        h.counted b old hold]
    · rw [if_neg fun hmem => hreader (hg.mem_readers_iff.mpr (mem_inputsAmong.mp hmem).1)]
      exact h.counted b count hcount
  · rw [hdone] at hsplit
    rcases List.eq_nil_or_concat later with rfl | ⟨later, c, rfl⟩
    · obtain ⟨rfl, hb⟩ := List.append_inj' hsplit rfl
      obtain rfl := (List.cons.inj hb).1
      exact hinputs
    · rw [List.concat_eq_append, ← List.cons_append, ← List.append_assoc] at hsplit
      exact h.before earlier b later (List.append_inj' hsplit rfl).1
  · rw [hdone, List.mem_append, List.mem_singleton] at hb
    rcases hb with hb | rfl
    · exact h.ends b hb
    · exact Acc.intro b fun c hc => h.ends c (hinputs c hc)

/-- When no cell is ready, every cell that is left waits for another one. -/
theorem exists_mem_keys (h : Sequenced g cells s) (hready : s.ready = [])
    (ha : a ∈ s.pending.keys) :
    ∃ b ∈ inputsAmong g cells.contains a, b ∈ s.pending.keys := by
  rw [mem_keys] at ha
  obtain ⟨count, hcount⟩ := Option.isSome_iff_exists.mp ha
  have hpos : count ≠ 0 := by
    rintro rfl
    have hmem := (h.mem_ready a).mpr hcount
    rw [hready] at hmem
    cases hmem
  rw [h.counted a count hcount] at hpos
  obtain ⟨b, hb⟩ := List.exists_mem_of_length_pos (Nat.pos_of_ne_zero hpos)
  obtain ⟨hinput, hwaits, hne⟩ := mem_inputsAmong.mp hb
  rw [Std.ExtTreeMap.contains_eq_isSome_getElem?] at hwaits
  have hcells : b ∈ cells := (h.mem_cells b).mpr (Or.inr hwaits)
  exact ⟨b, mem_inputsAmong.mpr ⟨hinput, Std.ExtTreeSet.contains_iff_mem.mpr hcells, hne⟩,
    mem_keys.mpr hwaits⟩

/-- When no cell is ready, those are left that lead to a cycle among the cells. -/
theorem mem_keys_iff (h : Sequenced g cells s) (hready : s.ready = []) :
    a ∈ s.pending.keys ↔ a ∈ cells ∧ LeadsToCycle (inputsAmong g cells.contains) a := by
  constructor
  · intro ha
    refine ⟨(h.mem_cells a).mpr (Or.inr (mem_keys.mp ha)), ?_⟩
    exact .of_forall_exists (fun b hb => h.exists_mem_keys hready hb) ha
  · rintro ⟨ha, hcycle⟩
    refine mem_keys.mpr (((h.mem_cells a).mp ha).resolve_left fun hdone => ?_)
    exact hcycle.not_ends (h.ends a hdone)

end Sequenced

/-- The last turn finds no cell ready, and all that is known of the cells still holds. -/
theorem exists_order_eq (hg : Symmetric g) (cells : AddressSet) :
    ∃ s, Sequenced g cells s ∧ s.ready = [] ∧ order g cells = s.done ++ s.pending.keys := by
  refine Procedure.run_of_invariant (p := ordering g) (P := Sequenced g cells)
    (Q := fun l => ∃ s, Sequenced g cells s ∧ s.ready = [] ∧ l = s.done ++ s.pending.keys)
    (fun s s' h hturn => ?_) (fun s l h hturn => ?_) (Sequenced.init g cells)
  · exact h.takeTurn hg hturn
  · obtain ⟨hready, hl⟩ := takeTurn_eq_inl hturn
    exact ⟨s, h, hready, hl⟩

/-- A cell depends on another one of a set. -/
def ReadsAmong (g : γ) (cells : AddressSet) (a b : QualifiedAddress) : Prop :=
  b ∈ Graph.dependenciesOf g a ∧ b ∈ cells ∧ b ≠ a

private theorem mem_inputsAmong_cells :
    b ∈ inputsAmong g cells.contains a ↔ ReadsAmong g cells a b := by
  rw [mem_inputsAmong, inputs, Std.ExtTreeSet.mem_toList, Std.ExtTreeSet.contains_iff_mem,
    ReadsAmong]

/-- The cells of a set in two parts: those that can be computed one after the other, and those for
which a cycle is in the way. -/
structure Arranged (g : γ) (cells : AddressSet) (first last : List QualifiedAddress) : Prop where
  /-- In the first part, every cell comes after the other cells of the set that it reads. -/
  before : ∀ earlier a later, first = earlier ++ a :: later →
    ∀ b, ReadsAmong g cells a b → b ∈ earlier
  /-- The cells of the last part are those that lead to a cycle among the cells. -/
  mem_last : ∀ a, a ∈ last ↔ a ∈ cells ∧
    ∃ b, Relation.ReflTransGen (ReadsAmong g cells) a b ∧
      Relation.TransGen (ReadsAmong g cells) b b
  /-- The last part has the order of the addresses. -/
  sorted : last.Pairwise fun a b => compare a b = .lt

/-- When no cell is ready, the cells are arranged as they should be. -/
theorem Sequenced.arranged (h : Sequenced g cells s) (hready : s.ready = []) :
    Arranged g cells s.done s.pending.keys where
  before earlier a later hsplit b hb :=
    h.before earlier a later hsplit b (mem_inputsAmong_cells.mpr hb)
  mem_last a := by
    rw [h.mem_keys_iff hready, LeadsToCycle]
    simp only [mem_inputsAmong_cells]
  sorted := Std.ExtTreeMap.ordered_keys

/-- The order of a set of cells lists every cell of the set once, in every graph. Where both sides
of every edge fit together, it has a first part, in which every cell comes after the other cells of
the set that it reads, and a last part of just those cells that lead to a cycle among the cells. -/
theorem order_lists_once_and_arranged (g : γ) (cells : AddressSet) :
    ((order g cells).Nodup ∧ ∀ a, a ∈ order g cells ↔ a ∈ cells) ∧
      (Symmetric g → ∃ first last, order g cells = first ++ last ∧
        Arranged g cells first last) := by
  refine ⟨order_lists_once g cells, fun hg => ?_⟩
  obtain ⟨s, h, hready, heq⟩ := exists_order_eq hg cells
  exact ⟨s.done, s.pending.keys, heq, h.arranged hready⟩

end Dependency

namespace Workbook

variable {wb : Workbook} {a b : QualifiedAddress}

/-- Where both sides of every edge are recorded, the workbook is symmetric as a graph. -/
theorem EdgesInStep.symmetric (h : wb.EdgesInStep) : Dependency.Symmetric wb := by
  intro a b
  change b ∈ wb.dependenciesOf a ↔ a ∈ wb.dependentsOf b
  rw [dependenciesOf_eq, dependentsOf_eq]
  exact h a b

/-- A row of cells in which the second cell reads the first one, the third and the fourth read each
other and the first one, and the fifth reads itself and the second one. -/
def crossing : Workbook :=
  let edges : List (QualifiedAddress × List QualifiedAddress) :=
    [(⟨"Sheet1", ⟨1, 2⟩⟩, [⟨"Sheet1", ⟨1, 1⟩⟩]),
      (⟨"Sheet1", ⟨1, 3⟩⟩, [⟨"Sheet1", ⟨1, 1⟩⟩, ⟨"Sheet1", ⟨1, 4⟩⟩]),
      (⟨"Sheet1", ⟨1, 4⟩⟩, [⟨"Sheet1", ⟨1, 1⟩⟩, ⟨"Sheet1", ⟨1, 3⟩⟩]),
      (⟨"Sheet1", ⟨1, 5⟩⟩, [⟨"Sheet1", ⟨1, 2⟩⟩, ⟨"Sheet1", ⟨1, 5⟩⟩])]
  (ofName "Sheet1").linkAll (edges.map fun edge => (edge.1, .ofList edge.2))

private theorem edgesInStep_crossing : crossing.EdgesInStep :=
  (EdgesInStep.ofName "Sheet1").linkAll (by decide +kernel)

/-- The order of the cells that depend on the first one falls into two such parts. -/
theorem arranged_order_crossing :
    Dependency.Symmetric crossing ∧ ∃ first last,
      first ++ last = [⟨"Sheet1", ⟨1, 2⟩⟩, ⟨"Sheet1", ⟨1, 5⟩⟩, ⟨"Sheet1", ⟨1, 3⟩⟩,
        ⟨"Sheet1", ⟨1, 4⟩⟩] ∧
      Dependency.Arranged crossing (crossing.downstream ⟨"Sheet1", ⟨1, 1⟩⟩) first last := by
  have hsymmetric := edgesInStep_crossing.symmetric
  obtain ⟨first, last, heq, harranged⟩ := (Dependency.order_lists_once_and_arranged crossing
    (crossing.downstream ⟨"Sheet1", ⟨1, 1⟩⟩)).2 hsymmetric
  refine ⟨hsymmetric, first, last, ?_, harranged⟩
  rw [← heq]
  decide +kernel

/-! ## What is recalculated -/

/-- The order of a set of cells lists just these cells. -/
theorem mem_order_iff {cells : AddressSet} : a ∈ wb.order cells ↔ a ∈ cells :=
  (Dependency.order_lists_once wb cells).2 a

/-- The order of the cells of a list contains just these cells. -/
theorem mem_order_ofList_iff {cells : List QualifiedAddress} :
    a ∈ wb.order (Std.ExtTreeSet.ofList cells) ↔ a ∈ cells := by
  rw [mem_order_iff, Std.ExtTreeSet.mem_ofList, List.contains_iff_mem]

/-- What leads from a cell to its readers leads back from them along the dependencies. -/
theorem EdgesInStep.transGen_readers_iff (h : wb.EdgesInStep) :
    Relation.TransGen (fun x y => y ∈ wb.readers x) a b ↔
      Relation.TransGen (fun x y => y ∈ wb.dependenciesOf x) b a := by
  have hreads : (fun x y => y ∈ wb.readers x) =
      Function.swap fun x y => y ∈ wb.dependenciesOf x := by
    funext x y
    refine propext ?_
    rw [mem_readers, ← h y x, ← dependenciesOf_eq]
  rw [hreads, Relation.transGen_swap]

/-- Where the edges are in step, the cells downstream of a cell are the others that depend on it,
directly or through others, and each of them is listed once among the cells to recalculate. -/
theorem mem_downstream_iff_and_recalculationOrder_lists_once (h : wb.EdgesInStep)
    (a : QualifiedAddress) :
    (∀ b, b ∈ wb.downstream a ↔
        b ≠ a ∧ Relation.TransGen (fun x y => y ∈ wb.dependenciesOf x) b a) ∧
      (wb.recalculationOrder a).Nodup ∧
        ∀ b, b ∈ wb.recalculationOrder a ↔ b ∈ wb.downstream a := by
  refine ⟨fun b => ?_, Dependency.order_lists_once wb (wb.downstream a)⟩
  rw [mem_downstream_iff, h.transGen_readers_iff]

/-- The third cell depends on itself through the fourth one, which alone is to be recalculated. -/
theorem recalculationOrder_crossing :
    crossing.EdgesInStep ∧ ∀ b, b ∈ [(⟨"Sheet1", ⟨1, 4⟩⟩ : QualifiedAddress)] ↔
      b ≠ ⟨"Sheet1", ⟨1, 3⟩⟩ ∧
        Relation.TransGen (fun x y => y ∈ crossing.dependenciesOf x) b ⟨"Sheet1", ⟨1, 3⟩⟩ := by
  have horder : crossing.recalculationOrder ⟨"Sheet1", ⟨1, 3⟩⟩ = [⟨"Sheet1", ⟨1, 4⟩⟩] := by
    decide +kernel
  obtain ⟨hdownstream, -, hmem⟩ :=
    mem_downstream_iff_and_recalculationOrder_lists_once edgesInStep_crossing ⟨"Sheet1", ⟨1, 3⟩⟩
  refine ⟨edgesInStep_crossing, fun b => ?_⟩
  rw [← horder, hmem, hdownstream]

end Workbook

end Spreadsheet
