import Spreadsheet.Proofs.Document.Session
import Spreadsheet.Proofs.Evaluation.Outcome
import Spreadsheet.Proofs.Formula.RoundTrip
import Spreadsheet.Proofs.Function.Finite

/-!
# Evaluations that stay finite

Numbers enter an evaluation as raw values, as numbers in formulas and as results of functions and
operators. Operators replace results that are not finite by errors, and so do most functions. The
main statement says where the others come from: if the raw values are finite, then all values that
an evaluation comes to are finite exactly if the numbers in the formulas are and no call overflows.
-/

namespace Spreadsheet

open Formula

namespace Formula

private theorem isFinite_binary (op : BinaryOp) (v w : Value) : (op.apply v w).isFinite = true := by
  cases op with
  | div =>
    unfold BinaryOp.apply quotient
    dsimp only
    split
    · rfl
    · exact Value.isFinite_ofResult _
  | add | sub | mul | pow => exact Value.isFinite_ofResult _
  | concat | eq | ne | lt | gt | le | ge => rfl

private theorem isFinite_unary (op : UnaryOp) (v : Value) : (op.apply v).isFinite = true := by
  cases op <;> exact Value.isFinite_ofResult _

/-- Tables of finite values are finite, and so is whatever an operator yields. -/
theorem handedOn_isFinite : HandedOn fun v => v.isFinite = true where
  text _ := rfl
  boolean _ := rfl
  missing := rfl
  array _ h := Value.isFinite_array_iff.mpr h
  binary op v w _ _ := isFinite_binary op v w
  unary op v _ := isFinite_unary op v

end Formula

namespace Workbook

/-! ## What an evaluation involves -/

/-- An expression to be evaluated on a sheet, formulas being followed to a depth. -/
structure Task where
  /-- The depth. -/
  depth : Nat
  /-- The sheet. -/
  sheet : String
  /-- The expression. -/
  expr : Expr

/-- What the expression of a task refers to. -/
def Task.surroundings (call : String → List Value → Value) (wb : Workbook) (formulas : FormulaTable)
    (t : Task) : Surroundings :=
  ⟨t.sheet, wb.hasSheet, wb.evalCell call formulas t.depth, call⟩

/-- The outcome of a task. -/
def Task.outcome (call : String → List Value → Value) (wb : Workbook) (formulas : FormulaTable)
    (t : Task) : Except EvaluationError Value :=
  wb.evalExpr call formulas t.depth t.sheet t.expr

/-- The tasks that a task involves: to evaluate the parts of its expression, and, one level less
deep, the formulas of the cells that the expression mentions. -/
inductive Involves (wb : Workbook) (formulas : FormulaTable) : Task → Task → Prop where
  /-- A part of the expression. -/
  | part {depth : Nat} {sheet : String} {e p : Expr} (h : p.PartOf e) :
    Involves wb formulas ⟨depth, sheet, e⟩ ⟨depth, sheet, p⟩
  /-- What the formula of a cell involves. -/
  | cell {depth : Nat} {sheet : String} {e f : Expr} {a : QualifiedAddress} {t : Task}
    (ha : a ∈ e.mentions sheet) (hf : wb.content formulas a = .formula f)
    (h : Involves wb formulas ⟨depth, a.sheet, f⟩ t) :
    Involves wb formulas ⟨depth + 1, sheet, e⟩ t

variable {wb : Workbook} {formulas : FormulaTable} {ambient : Ambient}

/-- What is involved by a task involved is involved. -/
theorem Involves.trans {s t u : Task} (hst : Involves wb formulas s t)
    (htu : Involves wb formulas t u) : Involves wb formulas s u := by
  induction hst with
  | part hpart =>
    cases htu with
    | part h => exact .part (h.trans hpart)
    | cell ha hf h => exact .cell (hpart.mem_mentions ha) hf h
  | cell ha hf _ ih => exact .cell ha hf (ih htu)

/-! ## Where numbers come from -/

/-- The raw values are finite, those of cells without a formula and without an error. -/
def HasFiniteRaws (wb : Workbook) : Prop :=
  ∀ a c, wb.cell? a = some c → c.error = none → c.formula = none → c.value.isFinite = true

/-- What is known of a cell without evaluating a formula is finite. -/
theorem HasFiniteRaws.isFinite_of_known (h : wb.HasFiniteRaws) {a : QualifiedAddress} {v : Value}
    (hv : wb.content formulas a = .known v) : v.isFinite = true := by
  unfold content at hv
  split at hv
  · cases hv
    rfl
  split at hv
  · cases hv
    rfl
  split at hv
  · cases hv
    rfl
  rename_i c hc
  unfold contentOfRecord at hv
  split at hv
  · cases hv
    rfl
  · rename_i herror hformula
    cases hv
    exact h a c hc herror hformula
  · split at hv
    · cases hv
    · unfold contentOfText at hv
      split at hv <;> cases hv <;> rfl

/-- A task whose expression is no number that is not finite, and no call that overflows for finite
arguments. -/
structure Task.Harmless (ambient : Ambient) (wb : Workbook) (formulas : FormulaTable) (t : Task) :
    Prop where
  /-- A number is finite. -/
  number : ∀ x, t.expr = .number x → x.isFinite = true
  /-- A call that may overflow does not. -/
  call : ∀ name args vs, t.expr = .call name args →
    Expr.evalRow (t.surroundings (Function.invoke ambient) wb formulas) args = .ok vs →
      (∀ v ∈ vs, v.isFinite = true) → Function.MayOverflow (Text.upper name) vs →
        (Function.invoke ambient name vs).isFinite = true

/-- An expression with harmless parts has a finite value if the cells that it mentions have. -/
theorem yields_of_read (htoday : ambient.today.isValid = true) {depth : Nat} {sheet : String}
    {e : Expr} (h : ∀ p, p.PartOf e → Task.Harmless ambient wb formulas ⟨depth, sheet, p⟩)
    (hread : ∀ a ∈ e.mentions sheet, Yields (fun v => v.isFinite = true) True
      (wb.evalCell (Function.invoke ambient) formulas depth a)) :
    Yields (fun v => v.isFinite = true) True
      (wb.evalExpr (Function.invoke ambient) formulas depth sheet e) := by
  refine Expr.Grounded.yields handedOn_isFinite e ⟨hread, fun x hx => ?_, ?_⟩
  · rw [Value.isFinite_number]
    exact (h _ hx).number x rfl
  · intro name args vs hcall heq hvs
    by_cases hguard : Function.MayOverflow (Text.upper name) vs
    · exact (h _ hcall).call name args vs rfl heq hvs hguard
    · exact Function.isFinite_invoke htoday hvs hguard

/-- A task that involves harmless tasks only has a finite outcome, if it has one. -/
theorem yields_of_harmless (hraw : wb.HasFiniteRaws) (htoday : ambient.today.isValid = true)
    {depth : Nat} {sheet : String} {e : Expr}
    (h : ∀ t, Involves wb formulas ⟨depth, sheet, e⟩ t → t.Harmless ambient wb formulas) :
    Yields (fun v => v.isFinite = true) True
      (wb.evalExpr (Function.invoke ambient) formulas depth sheet e) := by
  -- By induction on the depth, on which the cells that the expression mentions are evaluated.
  induction depth generalizing sheet e with
  | zero =>
    refine yields_of_read htoday (fun p hp => h _ (.part hp)) fun a _ => ?_
    cases hc : wb.content formulas a with
    | known v =>
      rw [evalCell_of_known hc]
      exact hraw.isFinite_of_known hc
    | formula f =>
      rw [evalCell, hc]
      exact True.intro
  | succ depth ih =>
    refine yields_of_read htoday (fun p hp => h _ (.part hp)) fun a ha => ?_
    cases hc : wb.content formulas a with
    | known v =>
      rw [evalCell_of_known hc]
      exact hraw.isFinite_of_known hc
    | formula f =>
      rw [evalCell, hc]
      exact ih fun t ht => h t (.cell ha hc ht)

/-- Let the raw values of a workbook be finite. All values that an evaluation comes to, its own and
those of all that it involves, are finite exactly if all numbers in the formulas that are evaluated
are finite, and no call overflows in one of the few ways that calls can for finite arguments. -/
theorem isFinite_outcomes_iff (ambient : Ambient) (wb : Workbook) (formulas : FormulaTable)
    (hraw : wb.HasFiniteRaws) (htoday : ambient.today.isValid = true) (task : Task) :
    (∀ t, Involves wb formulas task t → ∀ v,
      t.outcome (Function.invoke ambient) wb formulas = .ok v → v.isFinite = true) ↔
        ∀ t, Involves wb formulas task t → t.Harmless ambient wb formulas := by
  constructor
  · intro h t ht
    refine ⟨fun x hx => ?_, fun name args vs hcall heq _ _ => ?_⟩
    · have hvalue := h t ht (.number x)
      rw [Value.isFinite_number, Task.outcome, hx] at hvalue
      exact hvalue rfl
    · refine h t ht _ ?_
      rw [Task.outcome, hcall, evalExpr, Expr.eval]
      rw [Task.surroundings] at heq
      rw [heq]
      rfl
  · intro h t ht v hv
    have hyields := yields_of_harmless hraw htoday fun u hu => h u (ht.trans hu)
    rw [Task.outcome] at hv
    rw [hv] at hyields
    exact hyields

/-! ## Numbers near the greatest one -/

/-- A workbook with a number in its first cell that is nearly the greatest one. -/
def nearlyGreatest : Workbook :=
  (ofName "Sheet1").update ⟨"Sheet1", ⟨1, 1⟩⟩ fun _ => .ofValue (.number 1.7e308)

private theorem cell?_nearlyGreatest (a : QualifiedAddress) :
    nearlyGreatest.cell? a =
      if ⟨"Sheet1", ⟨1, 1⟩⟩ = a then some (.ofValue (.number 1.7e308)) else none := by
  have hsheet : (ofName "Sheet1").hasSheet "Sheet1" = true := by decide +kernel
  rw [nearlyGreatest, cell?_update, cell?_ofName]
  simp [hsheet]

private theorem hasFiniteRaws_nearlyGreatest : nearlyGreatest.HasFiniteRaws := by
  intro a c hc _ _
  rw [cell?_nearlyGreatest] at hc
  split_ifs at hc
  cases hc
  decide +kernel

private theorem content_nearlyGreatest :
    nearlyGreatest.content ∅ ⟨"Sheet1", ⟨1, 1⟩⟩ = .known (.number 1.7e308) := by
  unfold content
  rw [if_neg (by decide +kernel), if_neg (by decide +kernel), cell?_nearlyGreatest, if_pos rfl]
  rfl

/-- The magnitude of the number, ten times. -/
def tenfoldMagnitude : Expr :=
  .binary .mul (.call "ABS" [.cell ⟨none, ⟨1, 1⟩⟩]) (.number 10.0)

/-- The magnitude is finite, and the product becomes an error. -/
theorem isFinite_tenfoldMagnitude :
    nearlyGreatest.HasFiniteRaws ∧ Ambient.newYear.today.isValid = true ∧
      ∀ t, Involves nearlyGreatest ∅ ⟨0, "Sheet1", tenfoldMagnitude⟩ t → ∀ v,
        t.outcome (Function.invoke .newYear) nearlyGreatest ∅ = .ok v → v.isFinite = true := by
  have htoday : Ambient.newYear.today.isValid = true := by decide
  refine ⟨hasFiniteRaws_nearlyGreatest, htoday,
    (isFinite_outcomes_iff .newYear nearlyGreatest ∅ hasFiniteRaws_nearlyGreatest htoday _).mpr ?_⟩
  intro t ht
  cases ht with
  | part hpart =>
    cases hpart with
    | whole => exact ⟨nofun, nofun⟩
    | left h =>
      cases h with
      | whole =>
        refine ⟨nofun, fun name args vs hcall heq _ _ => ?_⟩
        cases hcall
        rw [Expr.evalRow, Expr.evalRow, Expr.eval, Task.surroundings] at heq
        change (do
          let v ← nearlyGreatest.evalCell (Function.invoke .newYear) ∅ 0 ⟨"Sheet1", ⟨1, 1⟩⟩
          .ok [v]) = .ok vs at heq
        rw [evalCell_of_known content_nearlyGreatest] at heq
        cases heq
        decide +kernel
      | argument he h =>
        obtain rfl := List.mem_singleton.mp he
        cases h
        exact ⟨nofun, nofun⟩
    | right h =>
      cases h
      refine ⟨fun x hx => ?_, nofun⟩
      cases hx
      decide +kernel

/-- Finite raw values do not keep the values of formulas finite: a text may start with a number that
is too great. -/
theorem not_isFinite_evalExpr : ¬∀ (ambient : Ambient) (wb : Workbook) (text : String) (e : Expr)
    (depth : Nat) (sheet : String) (v : Value), wb.HasFiniteRaws → ambient.today.isValid = true →
      Formula.ofText text = .ok e →
        wb.evalExpr (Function.invoke ambient) ∅ depth sheet e = .ok v → v.isFinite = true := by
  intro hall
  have hraw : (ofName "Sheet1").HasFiniteRaws := by
    intro a c hc _ _
    rw [cell?_ofName] at hc
    cases hc
  obtain ⟨e, hread, htest⟩ := exists_ok_of_any (r := ofText "MAX(\"1e999\")")
    (p := fun e =>
      ((ofName "Sheet1").evalExpr (Function.invoke .newYear) ∅ 0 "Sheet1" e).toOption.any
        fun v => !v.isFinite) (by decide +kernel)
  obtain ⟨v, hv, hinfinite⟩ := exists_ok_of_any htest
  have hfinite := hall .newYear (ofName "Sheet1") _ e 0 "Sheet1" v hraw (by decide) hread hv
  rw [hfinite] at hinfinite
  cases hinfinite

end Workbook

end Spreadsheet
