import Spreadsheet.Proofs.Dependency.Cycle
import Spreadsheet.Proofs.Document.Consistency
import Spreadsheet.Proofs.Evaluation.Steady

/-!
# Values are computed from what was written

The value of a cell is computed from the cells that its formula mentions, from those that these
mention, and so on. Two documents that hold the same in all of them give it the same value. The main
statements say that recalculation changes nothing that values are computed from, in whatever order
cells have their turns, and what it stores.
-/

namespace Spreadsheet.Document

variable {ambient ambient' : Ambient} {doc doc' : Document} {a b : QualifiedAddress}
  {S : Set QualifiedAddress} {e : Formula.Expr}

/-- The value of `a` is computed from that of `b`, which is `a` itself, or a cell that the formula
of `a` mentions, or a cell that the value of such a cell is computed from. -/
def Uses (doc : Document) (a b : QualifiedAddress) : Prop :=
  Relation.ReflTransGen (fun x y => y ∈ doc.references x) a b

/-- No formula that the value of a cell is computed from depends on the moment. -/
def Steady (doc : Document) (a : QualifiedAddress) : Prop :=
  ∀ b e, doc.Uses a b → doc.formulas[b]? = some e → e.Steady

/-- What a value is computed from depends on the formulas that were read. -/
theorem uses_congr (hformulas : doc'.formulas = doc.formulas) : doc'.Uses a b ↔ doc.Uses a b := by
  simp only [Uses, references, hformulas]

/-- Whether a value depends on the moment is said by the formulas that were read. -/
theorem steady_congr (hformulas : doc'.formulas = doc.formulas) :
    doc'.Steady a ↔ doc.Steady a := by
  simp only [Steady, uses_congr hformulas, hformulas]

/-- Where all formulas are steady, so is what is computed from them. -/
theorem steady_of_forall (h : ∀ p ∈ doc.formulas.toList, p.2.Steady) (a : QualifiedAddress) :
    doc.Steady a := by
  intro b e _ he
  exact h (b, e) (Std.ExtTreeMap.mem_toList_iff_getElem?_eq_some.mpr he)

/-- Two documents hold the same in the cells of a set that mention cells of the set only; the values
that they keep with formulas may differ. -/
structure SameOn (S : Set QualifiedAddress) (doc doc' : Document) : Prop where
  /-- The settings are the same. -/
  settings : doc'.settings = doc.settings
  /-- The cells that a formula mentions are in the set. -/
  closed : ∀ a ∈ S, ∀ r ∈ doc.references a, r ∈ S
  /-- The same sheets exist. -/
  hasSheet : ∀ a ∈ S, doc'.workbook.hasSheet a.sheet = doc.workbook.hasSheet a.sheet
  /-- The same formulas were read. -/
  formulas : ∀ a ∈ S, doc'.formulas[a]? = doc.formulas[a]?
  /-- The texts of the formulas are the same. -/
  formula : ∀ a ∈ S, (doc'.workbook.record a).formula = (doc.workbook.record a).formula
  /-- The errors are the same. -/
  error : ∀ a ∈ S, (doc'.workbook.record a).error = (doc.workbook.record a).error
  /-- The dependencies are the same. -/
  dependencies : ∀ a ∈ S,
    (doc'.workbook.record a).dependencies = (doc.workbook.record a).dependencies
  /-- Raw values are the same. -/
  value : ∀ a ∈ S, (doc.workbook.record a).formula = none →
    (doc'.workbook.record a).value = (doc.workbook.record a).value

/-! ## Values -/

/-- A cell that has its value from a formula has it from the formula that was read. -/
theorem Consistent.formula_of_content (h : doc.Consistent)
    (hc : doc.workbook.content doc.formulas a = .formula e) : doc.formulas[a]? = some e := by
  have hreads := h.reads a
  rw [Workbook.content_eq] at hc
  split_ifs at hc
  unfold Workbook.contentOfRecord at hc
  cases he : doc.formulas[a]? with
  | some e' =>
    rw [he] at hreads
    cases hreads with
    | formula text_eq _ error_eq =>
      rw [error_eq, text_eq, he] at hc
      exact congrArg some (Content.formula.inj hc)
  | none =>
    rw [he] at hreads
    cases hreads with
    | malformed text_eq _ error_eq | raw text_eq error_eq =>
      rw [error_eq, text_eq] at hc
      cases hc

/-- A cell from which no formula was read leads into no cycle. -/
theorem Consistent.reachesCycle_of_none (h : doc.Consistent) (he : doc.formulas[a]? = none) :
    doc.workbook.reachesCycle a = false := by
  refine Workbook.reachesCycle_eq_false_iff.mpr (Acc.intro a fun b hb => ?_)
  rw [Workbook.mem_inputs, h.dependencies, present_references_of_none he] at hb
  exact absurd hb Std.ExtTreeSet.not_mem_empty

/-- A known value is the value of its cell, however deep formulas are followed. -/
theorem compute_of_known {v : Value} (hc : doc.workbook.content doc.formulas a = .known v) :
    doc.compute ambient a = v := by
  rw [compute, Workbook.evalCell_of_known hc]
  rfl

/-- A raw value is the value of its cell. -/
theorem Consistent.compute_of_raw (h : doc.Consistent)
    (hsheet : doc.workbook.hasSheet a.sheet = true)
    (hraw : (doc.workbook.record a).formula = none) :
    doc.compute ambient a = (doc.workbook.record a).value := by
  obtain ⟨he, herror⟩ := (h.reads a).of_raw hraw
  refine compute_of_known ?_
  rw [Workbook.content_eq, hsheet, h.reachesCycle_of_none he, Workbook.contentOfRecord, herror,
    hraw]
  rfl

/-- A text that is not well formed is the error of its cell. -/
theorem Consistent.compute_of_malformed (h : doc.Consistent) {text : String}
    {err : Formula.SyntaxError} (htext : (doc.workbook.record a).formula = some text)
    (hread : Formula.read text = .malformed err) :
    doc.compute ambient a = .error .malformedFormula := by
  obtain ⟨he, herror⟩ := (h.reads a).of_malformed htext hread
  have hsheet : doc.workbook.hasSheet a.sheet = true := by
    refine Workbook.hasSheet_of_record_ne_blank fun hblank => ?_
    rw [hblank] at htext
    cases htext
  refine compute_of_known ?_
  rw [Workbook.content_eq, hsheet, h.reachesCycle_of_none he, Workbook.contentOfRecord, herror]
  rfl

namespace SameOn

/-- A document holds the same as itself. -/
theorem refl (hclosed : ∀ a ∈ S, ∀ r ∈ doc.references a, r ∈ S) : SameOn S doc doc :=
  ⟨rfl, hclosed, fun _ _ => rfl, fun _ _ => rfl, fun _ _ => rfl, fun _ _ => rfl, fun _ _ => rfl,
    fun _ _ _ => rfl⟩

/-- Documents that differ in nothing but the values they keep with formulas hold the same in all
cells. -/
theorem of_record (hsettings : doc'.settings = doc.settings)
    (hformulas : doc'.formulas = doc.formulas)
    (hnames : doc'.workbook.sheetNames = doc.workbook.sheetNames)
    (hrecord : ∀ a, ∃ v, doc'.workbook.record a = { doc.workbook.record a with value := v })
    (hraw : ∀ a, (doc.workbook.record a).formula = none →
      (doc'.workbook.record a).value = (doc.workbook.record a).value) :
    SameOn Set.univ doc doc' := by
  have hsame : ∀ a, (doc'.workbook.record a).formula = (doc.workbook.record a).formula ∧
      (doc'.workbook.record a).error = (doc.workbook.record a).error ∧
        (doc'.workbook.record a).dependencies = (doc.workbook.record a).dependencies := by
    intro a
    obtain ⟨v, hv⟩ := hrecord a
    rw [hv]
    exact ⟨rfl, rfl, rfl⟩
  exact ⟨hsettings, fun _ _ _ _ => Set.mem_univ _, fun a _ => Workbook.hasSheet_congr hnames _,
    fun a _ => by rw [hformulas], fun a _ => (hsame a).1, fun a _ => (hsame a).2.1,
    fun a _ => (hsame a).2.2, fun a _ => hraw a⟩

/-- What a value in the set is computed from is in the set and the same in both documents. -/
theorem uses (hs : SameOn S doc doc') (ha : a ∈ S) (huses : doc.Uses a b) :
    b ∈ S ∧ doc'.Uses a b := by
  induction huses with
  | refl => exact ⟨ha, .refl⟩
  | tail _ hb ih =>
    obtain ⟨hx, hpath⟩ := ih
    refine ⟨hs.closed _ hx _ hb, hpath.tail ?_⟩
    rw [references, hs.formulas _ hx]
    exact hb

/-- Cells of the set that do not depend on the moment in one document do not in the other. -/
theorem steady (hs : SameOn S doc doc') (ha : a ∈ S) (hsteady : doc'.Steady a) :
    doc.Steady a := by
  intro b e huses he
  obtain ⟨hb, huses'⟩ := hs.uses ha huses
  exact hsteady b e huses' ((hs.formulas b hb).trans he)

/-- Cells that hold the same have their values from the same. -/
theorem content_eq (h : doc.Consistent) (hs : SameOn S doc doc') (ha : a ∈ S) :
    doc'.workbook.content doc'.formulas a = doc.workbook.content doc.formulas a := by
  have hcycle : doc'.workbook.reachesCycle a = doc.workbook.reachesCycle a := by
    refine Workbook.reachesCycle_congr hs.dependencies (fun x hx y hy => ?_) ha
    exact hs.closed x hx y (h.mem_dependencies_iff.mp hy).1
  rw [Workbook.content_eq, Workbook.content_eq, hs.hasSheet a ha, hcycle,
    Workbook.contentOfRecord_congr (hs.formulas a ha) (hs.formula a ha) (hs.error a ha)
      (hs.value a ha)]

/-- Documents that hold the same in some cells agree on them, if the functions in their formulas
have the same values. -/
theorem agreeOn (h : doc.Consistent) (hs : SameOn S doc doc')
    (hcalls : ∀ a ∈ S, ∀ e, doc.formulas[a]? = some e →
      ∀ name ∈ e.calls, Function.invoke ambient name = Function.invoke ambient' name) :
    Workbook.AgreeOn S (Function.invoke ambient) (Function.invoke ambient')
      doc.workbook doc.formulas doc'.workbook doc'.formulas := by
  have hmentions : ∀ x ∈ S, ∀ e, doc.workbook.content doc.formulas x = .formula e →
      ∀ r ∈ e.mentions x.sheet, r ∈ S := by
    intro x hx e hc r hr
    refine hs.closed x hx r ?_
    rw [references_of_formula (h.formula_of_content hc)]
    exact Formula.Expr.mem_references.mpr hr
  exact ⟨fun x hx => (hs.content_eq h hx).symm, hmentions,
    fun x hx e hc r hr => (hs.hasSheet r (hmentions x hx e hc r hr)).symm,
    fun x hx e hc => hcalls x hx e (h.formula_of_content hc)⟩

/-- Cells that hold the same have the same values, if the functions in their formulas have. -/
theorem compute_eq_of_calls (h : doc.Consistent) (hs : SameOn S doc doc')
    (hcalls : ∀ a ∈ S, ∀ e, doc.formulas[a]? = some e →
      ∀ name ∈ e.calls, Function.invoke ambient name = Function.invoke ambient' name)
    (ha : a ∈ S) : doc'.compute ambient' a = doc.compute ambient a := by
  unfold compute
  rw [hs.settings, (hs.agreeOn h hcalls).evalCell_eq doc.settings.maxDepth ha]

/-- Cells that hold the same have the same values at the same moment. -/
theorem compute_eq (h : doc.Consistent) (hs : SameOn S doc doc') (ha : a ∈ S) :
    doc'.compute ambient a = doc.compute ambient a :=
  hs.compute_eq_of_calls h (fun _ _ _ _ _ _ => rfl) ha

end SameOn

/-- What is computed from formulas that do not depend on the moment is the same at every moment, to
whatever depth formulas are followed. -/
theorem Consistent.evalCell_eq_of_steady (h : doc.Consistent) (hsteady : doc.Steady a)
    (ambient ambient' : Ambient) (depth : Nat) :
    doc.workbook.evalCell (Function.invoke ambient') doc.formulas depth a =
      doc.workbook.evalCell (Function.invoke ambient) doc.formulas depth a := by
  have hs : SameOn {b | doc.Uses a b} doc doc := .refl fun b hb r hr => hb.tail hr
  refine ((hs.agreeOn h fun b hb e he name hname => ?_).evalCell_eq depth .refl).symm
  exact Function.invoke_eq_invoke (hsteady b e hb he name hname) ambient ambient'

/-- What does not depend on the moment is the same at every moment. -/
theorem Consistent.compute_eq_of_steady (h : doc.Consistent) (hsteady : doc.Steady a)
    (ambient ambient' : Ambient) : doc.compute ambient' a = doc.compute ambient a := by
  rw [compute, compute, h.evalCell_eq_of_steady hsteady ambient ambient']

/-! ## Recalculation -/

/-- Computing a cell anew changes nothing that values are computed from. -/
theorem Consistent.sameOn_refresh (h : doc.Consistent) (ambient : Ambient)
    (a : QualifiedAddress) : SameOn Set.univ doc (doc.refresh ambient a) := by
  refine .of_record rfl rfl (Workbook.sheetNames_update _ _ _)
    (exists_record_refresh ambient doc a) fun b hraw => ?_
  rw [record_refresh]
  split_ifs with hb
  · obtain ⟨rfl, hsheet⟩ := hb
    exact h.compute_of_raw hsheet hraw
  · rfl

/-- Computing a cell anew changes no value that is computed. -/
theorem Consistent.compute_refresh (h : doc.Consistent) (a b : QualifiedAddress) :
    (doc.refresh ambient a).compute ambient' b = doc.compute ambient' b :=
  (h.sameOn_refresh ambient a).compute_eq h (Set.mem_univ b)

/-- Computing cells anew changes no value that is computed. -/
theorem Consistent.compute_refreshAll (h : doc.Consistent) (cells : List QualifiedAddress)
    (b : QualifiedAddress) :
    (doc.refreshAll ambient cells).compute ambient' b = doc.compute ambient' b := by
  induction cells generalizing doc with
  | nil => rfl
  | cons a cells ih => exact (ih (h.refresh ambient a)).trans (h.compute_refresh a b)

/-- Computing cells anew keeps the settings. -/
theorem settings_refreshAll (ambient : Ambient) (doc : Document) (cells : List QualifiedAddress) :
    (doc.refreshAll ambient cells).settings = doc.settings := by
  induction cells generalizing doc with
  | nil => rfl
  | cons a cells ih => exact ih (doc.refresh ambient a)

/-- Computing cells anew keeps the formulas. -/
theorem formulas_refreshAll (ambient : Ambient) (doc : Document) (cells : List QualifiedAddress) :
    (doc.refreshAll ambient cells).formulas = doc.formulas := by
  induction cells generalizing doc with
  | nil => rfl
  | cons a cells ih => exact ih (doc.refresh ambient a)

/-- Computing cells anew stores the values of these cells and changes nothing else. The order does
not matter, since no value is computed from one that is stored with a formula. -/
theorem Consistent.record_refreshAll (h : doc.Consistent) (cells : List QualifiedAddress)
    (b : QualifiedAddress) :
    (doc.refreshAll ambient cells).workbook.record b =
      if b ∈ cells ∧ doc.workbook.hasSheet b.sheet = true then
        { doc.workbook.record b with value := doc.compute ambient b }
      else doc.workbook.record b := by
  induction cells generalizing doc with
  | nil => exact (if_neg fun hb => absurd hb.1 List.not_mem_nil).symm
  | cons a cells ih =>
    -- The value computed at a later turn is the one that could have been computed at first.
    refine (ih (h.refresh ambient a)).trans ?_
    rw [hasSheet_refresh, h.compute_refresh, record_refresh]
    by_cases hb : doc.workbook.hasSheet b.sheet = true
    · by_cases hab : a = b
      · subst hab
        simp [hb]
      · simp [hab, Ne.symm hab]
    · have hnot : ¬(a = b ∧ doc.workbook.hasSheet a.sheet = true) := by
        rintro ⟨rfl, ha⟩
        exact hb ha
      rw [if_neg hnot, if_neg fun hmem => hb hmem.2, if_neg fun hmem => hb hmem.2]

end Spreadsheet.Document
