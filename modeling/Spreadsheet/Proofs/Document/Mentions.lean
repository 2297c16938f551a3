import Mathlib.Data.List.Chain
import Spreadsheet.Proofs.Document.Freshness

/-!
# The graph of the formulas

A formula leads from its cell to every cell that it mentions. The graph is read off the texts of the
formulas, without a look at the edges that are recorded. The main statements say that the recorded
edges lead to the same cycles, and that a cell is off all cycles if the chains of formulas that
start at it have a greatest length.
-/

namespace Spreadsheet.Document

variable {doc : Document} {a b : QualifiedAddress} {e : Formula.Expr} {limit : Nat}

/-- A record of the cell holds a text that reads as the given formula. -/
def HasFormula (doc : Document) (a : QualifiedAddress) (e : Formula.Expr) : Prop :=
  ∃ c text, doc.workbook.HasRecord a c ∧ c.formula = some text ∧ Formula.read text = .formula e

/-- The formula of `a` mentions `b`, alone or inside a range. -/
def Mentions (doc : Document) (a b : QualifiedAddress) : Prop :=
  ∃ e, doc.HasFormula a e ∧ b ∈ e.mentions a.sheet

/-- The formulas of the cells lead from each cell to the next one. -/
structure FormulaChain (doc : Document) (cells : List QualifiedAddress) : Prop where
  /-- Every cell has a formula. -/
  formulas : ∀ a ∈ cells, ∃ e, doc.HasFormula a e
  /-- Every cell mentions the next one. -/
  mentions : cells.IsChain doc.Mentions

/-- No chain of formulas that starts at the cell is longer than the limit. -/
def ChainsWithin (doc : Document) (limit : Nat) (a : QualifiedAddress) : Prop :=
  ∀ cells, doc.FormulaChain (a :: cells) → (a :: cells).length ≤ limit

namespace Consistent

/-- The formulas that the texts read as are those that are kept. -/
theorem hasFormula_iff (h : doc.Consistent) : doc.HasFormula a e ↔ doc.formulas[a]? = some e := by
  constructor
  · rintro ⟨c, text, hc, htext, hread⟩
    have hreads := h.reads a
    rw [h.record_eq hc] at hreads
    exact (hreads.of_formula htext hread).1
  · intro he
    have hreads := h.reads a
    rw [he] at hreads
    obtain ⟨c, hc⟩ := Workbook.exists_cell?_of_record_ne_blank hreads.ne_blank
    obtain ⟨text, htext, hread⟩ := hreads.exists_text
    rw [Workbook.record_of_cell? hc] at htext
    exact ⟨c, text, (Workbook.cell?_eq_some_iff h.names).mp hc, htext, hread⟩

/-- What the formula in the text of a cell mentions is what the kept formula refers to. -/
theorem mentions_iff (h : doc.Consistent) : doc.Mentions a b ↔ b ∈ doc.references a := by
  constructor
  · rintro ⟨e, he, hb⟩
    rw [references_of_formula (h.hasFormula_iff.mp he)]
    exact Formula.Expr.mem_references.mpr hb
  · intro hb
    cases he : doc.formulas[a]? with
    | none => simp [references, he] at hb
    | some e =>
      rw [references_of_formula he] at hb
      exact ⟨e, h.hasFormula_iff.mpr he, Formula.Expr.mem_references.mp hb⟩

/-- An input of a cell is a cell that its formula mentions, on a sheet that exists. -/
theorem mem_inputs_iff (h : doc.Consistent) :
    b ∈ doc.workbook.inputs a ↔ doc.Mentions a b ∧ doc.workbook.hasSheet b.sheet = true := by
  rw [Workbook.mem_inputs, h.mem_dependencies_iff, h.mentions_iff]

/-! ## Cycles -/

/-- A path along the formulas to a cell of a sheet that exists is a path along the inputs. -/
theorem transGen_inputs (h : doc.Consistent) (hb : doc.workbook.hasSheet b.sheet = true)
    (hpath : Relation.TransGen doc.Mentions a b) :
    Relation.TransGen (fun x y => y ∈ doc.workbook.inputs x) a b ∧
      doc.workbook.hasSheet a.sheet = true := by
  induction hpath using Relation.TransGen.head_induction_on with
  | @single x hx =>
    exact ⟨.single (h.mem_inputs_iff.mpr ⟨hx, hb⟩),
      h.hasSheet_of_mem_references (h.mentions_iff.mp hx)⟩
  | @head x y hxy _ ih =>
    obtain ⟨hpath, hy⟩ := ih
    exact ⟨.head (h.mem_inputs_iff.mpr ⟨hxy, hy⟩) hpath,
      h.hasSheet_of_mem_references (h.mentions_iff.mp hxy)⟩

/-- The test for cycles finds a cycle exactly if the formulas lead to one. -/
theorem reachesCycle_iff (h : doc.Consistent) :
    doc.workbook.reachesCycle a = true ↔
      ∃ b, Relation.ReflTransGen doc.Mentions a b ∧ Relation.TransGen doc.Mentions b b := by
  rw [Workbook.reachesCycle_iff_transGen]
  constructor
  · rintro ⟨b, hab, hbb⟩
    have hmono : ∀ x y, y ∈ doc.workbook.inputs x → doc.Mentions x y :=
      fun x y hy => (h.mem_inputs_iff.mp hy).1
    exact ⟨b, Relation.ReflTransGen.mono hmono a b hab, Relation.TransGen.mono hmono b b hbb⟩
  · rintro ⟨b, hab, hbb⟩
    obtain ⟨c, hbc, -⟩ := Relation.TransGen.head'_iff.mp hbb
    have hb : doc.workbook.hasSheet b.sheet = true :=
      h.hasSheet_of_mem_references (h.mentions_iff.mp hbc)
    refine ⟨b, ?_, (h.transGen_inputs hb hbb).1⟩
    rcases Relation.reflTransGen_iff_eq_or_transGen.mp hab with rfl | htrans
    · exact .refl
    · exact (h.transGen_inputs hb htrans).1.to_reflTransGen

end Consistent

/-! ## Chains of formulas -/

/-- Only where there is no formula is there no chain. -/
theorem chainsWithin_zero_iff : doc.ChainsWithin 0 a ↔ ¬∃ e, doc.HasFormula a e := by
  constructor
  · intro h he
    have hle := h [] ⟨List.forall_mem_singleton.mpr he, .singleton a⟩
    exact absurd hle (Nat.not_succ_le_zero _)
  · intro hnone cells hchain
    exact absurd (hchain.formulas a List.mem_cons_self) hnone

/-- Chains that start at the cells that a formula mentions are shorter by one. -/
theorem chainsWithin_succ_iff :
    doc.ChainsWithin (limit + 1) a ↔ ∀ b, doc.Mentions a b → doc.ChainsWithin limit b := by
  constructor
  · intro h b hab cells hchain
    obtain ⟨e, he, -⟩ := id hab
    have hlonger : doc.FormulaChain (a :: b :: cells) :=
      ⟨List.forall_mem_cons.mpr ⟨⟨e, he⟩, hchain.formulas⟩, .cons_cons hab hchain.mentions⟩
    have hle := h (b :: cells) hlonger
    rw [List.length_cons] at hle
    exact Nat.le_of_succ_le_succ hle
  · intro h cells hchain
    cases cells with
    | nil => exact Nat.le_add_left 1 limit
    | cons b cells =>
      obtain ⟨hab, hrest⟩ := List.isChain_cons_cons.mp hchain.mentions
      have hle := h b hab cells ⟨(List.forall_mem_cons.mp hchain.formulas).2, hrest⟩
      rw [List.length_cons]
      exact Nat.succ_le_succ hle

/-- A formula is a chain by itself. -/
theorem ChainsWithin.pos (h : doc.ChainsWithin limit a) (he : doc.HasFormula a e) : 0 < limit := by
  refine Nat.pos_of_ne_zero ?_
  rintro rfl
  exact chainsWithin_zero_iff.mp h ⟨e, he⟩

/-- The test for whether the chains that start at a cell fit into a length, by the formulas that
were read. -/
def chainsFit (doc : Document) : (limit : Nat) → QualifiedAddress → Bool
  | 0, a => doc.formulas[a]?.isNone
  | limit + 1, a => (doc.references a).toList.all (doc.chainsFit limit)

/-- The test says whether the chains that start at a cell fit into a length. -/
theorem Consistent.chainsWithin_iff (h : doc.Consistent) :
    doc.ChainsWithin limit a ↔ doc.chainsFit limit a = true := by
  induction limit generalizing a with
  | zero =>
    simp only [chainsWithin_zero_iff, h.hasFormula_iff, chainsFit, Option.isNone_iff_eq_none,
      Option.eq_none_iff_forall_ne_some, not_exists, ne_eq]
  | succ limit ih =>
    simp only [chainsWithin_succ_iff, h.mentions_iff, chainsFit, List.all_eq_true,
      Std.ExtTreeSet.mem_toList, ih]

/-- Where the chains have a greatest length, none of them goes round in a cycle. -/
theorem Consistent.reachesCycle_eq_false (h : doc.Consistent) (hchains : doc.ChainsWithin limit a) :
    doc.workbook.reachesCycle a = false := by
  refine Workbook.reachesCycle_eq_false_iff.mpr ?_
  induction limit generalizing a with
  | zero =>
    refine Acc.intro a fun b hb => ?_
    obtain ⟨⟨e, he, -⟩, -⟩ := h.mem_inputs_iff.mp hb
    exact absurd ⟨e, he⟩ (chainsWithin_zero_iff.mp hchains)
  | succ limit ih =>
    refine Acc.intro a fun b hb => ?_
    exact ih (chainsWithin_succ_iff.mp hchains b (h.mem_inputs_iff.mp hb).1)

end Spreadsheet.Document
