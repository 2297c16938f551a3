import Spreadsheet.Proofs.Evaluation.Locality
import Spreadsheet.Proofs.Formula.Parts

/-!
# What an evaluation can come to

The outcome of an evaluation is built from numbers and the outcomes of reading cells, by functions,
operators and tables. The main statement carries over what is known of the numbers and calls in an
expression and of all cells that it mentions, of the values they may have and of whether reading
them may fail, to the expression itself.
-/

namespace Spreadsheet.Formula

/-- The outcome is a result with a property, or a failure where failures are granted. -/
def Yields {ε α : Type} (P : α → Prop) (fails : Prop) : Except ε α → Prop
  | .ok a => P a
  | .error _ => fails

namespace Yields

variable {ε α β : Type} {P : α → Prop} {Q : β → Prop} {fails : Prop}

/-- A computation goes on with a result of the first step, or stops at its failure. -/
theorem bind {r : Except ε α} {f : α → Except ε β} (h : Yields P fails r)
    (hf : ∀ a, P a → Yields Q fails (f a)) : Yields Q fails (r >>= f) := by
  cases r with
  | error _ => exact h
  | ok a => exact hf a h

/-- A computation whose second step asks what the result of the first step is the result of. -/
theorem bind_of_ok {r : Except ε α} {f : α → Except ε β} (h : Yields P fails r)
    (hf : ∀ a, r = .ok a → P a → Yields Q fails (f a)) : Yields Q fails (r >>= f) := by
  cases r with
  | error _ => exact h
  | ok a => exact hf a rfl h

/-- A row of computations of one kind. -/
theorem mapM {l : List α} {f : α → Except ε β} (h : ∀ a ∈ l, Yields Q fails (f a)) :
    Yields (fun bs => ∀ b ∈ bs, Q b) fails (l.mapM f) := by
  induction l with
  | nil => exact fun b hb => absurd hb List.not_mem_nil
  | cons a l ih =>
    rw [List.mapM_cons]
    refine (h a List.mem_cons_self).bind fun b hb => ?_
    refine (ih fun c hc => h c (List.mem_cons_of_mem a hc)).bind fun bs hbs => ?_
    exact List.forall_mem_cons.mpr ⟨hb, hbs⟩

/-- Where failures are not granted, there is a result. -/
theorem exists_ok {r : Except ε α} (h : Yields P False r) : ∃ a, r = .ok a ∧ P a := by
  cases r with
  | error _ => exact h.elim
  | ok a => exact ⟨a, rfl, h⟩

end Yields

/-- A property that tables and operators hand on, and that texts, truth values and the error of a
missing sheet have anyway. -/
structure HandedOn (P : Value → Prop) : Prop where
  /-- Texts have it. -/
  text : ∀ s, P (.text s)
  /-- Truth values have it. -/
  boolean : ∀ b, P (.boolean b)
  /-- The error of a reference to a missing sheet has it. -/
  missing : P (.error .invalidReference)
  /-- A table has it if its cells have. -/
  array : ∀ rows : List (List Value), (∀ row ∈ rows, ∀ v ∈ row, P v) → P (.array rows)
  /-- The value of an operator between two values has it. -/
  binary : ∀ (op : BinaryOp) v w, P v → P w → P (op.apply v w)
  /-- The value of an operator before a value has it. -/
  unary : ∀ (op : UnaryOp) v, P v → P (op.apply v)

/-- A property that all values have which an evaluation can build from values with the property. -/
structure Inherited (call : String → List Value → Value) (P : Value → Prop) : Prop
    extends HandedOn P where
  /-- Numbers have it. -/
  number : ∀ x, P (.number x)
  /-- The value of a function has it if the arguments have. -/
  call : ∀ name args, (∀ v ∈ args, P v) → P (call name args)

/-- Every value has the property that says nothing. -/
theorem Inherited.trivial (call : String → List Value → Value) :
    Inherited call fun _ => True where
  text _ := .intro
  boolean _ := .intro
  missing := .intro
  array _ _ := .intro
  binary _ _ _ _ _ := .intro
  unary _ _ _ := .intro
  number _ := .intro
  call _ _ _ := .intro

variable {s : Surroundings} {P : Value → Prop} {fails : Prop}

/-- What is known of the cells of a range is known of the range. -/
theorem Surroundings.range_yields {first last : Reference} (hP : HandedOn P)
    (h : ∀ a ∈ rangeCells first last s.sheet, Yields P fails (s.read a)) :
    Yields P fails (s.range first last) := by
  unfold Surroundings.range
  dsimp only
  split_ifs
  · have hrows : Yields (fun rows : List (List Value) => ∀ row ∈ rows, ∀ v ∈ row, P v) fails
        ((CellRange.ofCorners first.cell last.cell).rows.mapM fun row =>
          (CellRange.ofCorners first.cell last.cell).cols.mapM fun col =>
            s.read ⟨first.sheetOn s.sheet, ⟨row, col⟩⟩) := by
      refine Yields.mapM fun row hrow => Yields.mapM fun col hcol => ?_
      exact h _ (mem_rangeCells hrow hcol)
    exact hrows.bind fun rows hcells => hP.array rows hcells
  · exact hP.missing

namespace Expr

/-- The property is known of the cells that an expression mentions, of its numbers, and of its calls
as far as it is known of their arguments. -/
structure Grounded (s : Surroundings) (P : Value → Prop) (fails : Prop) (e : Expr) : Prop where
  /-- The cells that are mentioned. -/
  read : ∀ a ∈ e.mentions s.sheet, Yields P fails (s.read a)
  /-- The numbers. -/
  number : ∀ x, PartOf (.number x) e → P (.number x)
  /-- The calls. -/
  call : ∀ name args vs, PartOf (.call name args) e → evalRow s args = .ok vs →
    (∀ v ∈ vs, P v) → P (s.call name vs)

/-- What an expression is grounded in, its parts are grounded in. -/
theorem Grounded.part {p e : Expr} (h : Grounded s P fails e) (hpart : PartOf p e) :
    Grounded s P fails p where
  read a ha := h.read a (hpart.mem_mentions ha)
  number x hx := h.number x (hx.trans hpart)
  call name args vs hcall := h.call name args vs (hcall.trans hpart)

-- As for locality, the trees in rows and tables are parts of the tree that holds them.
mutual
/-- What an expression is grounded in is known of the expression. -/
theorem Grounded.yields (hP : HandedOn P) : (e : Expr) → Grounded s P fails e →
    Yields P fails (e.eval s)
  | .number x, h => by
    rw [eval]
    exact h.number x .whole
  | .text t, _ => by
    rw [eval]
    exact hP.text t
  | .boolean b, _ => by
    rw [eval]
    exact hP.boolean b
  | .cell r, h => by
    rw [eval]
    exact h.read _ (List.mem_singleton.mpr rfl)
  | .range first last, h => by
    rw [eval]
    exact s.range_yields hP h.read
  | .call name args, h => by
    rw [eval]
    have hargs := Grounded.row_yields hP args fun e he => h.part (.argument he .whole)
    exact hargs.bind_of_ok fun values heq hvalues => h.call name args values .whole heq hvalues
  | .binary op a b, h => by
    rw [eval]
    have ha := Grounded.yields hP a (h.part (.left .whole))
    have hb := Grounded.yields hP b (h.part (.right .whole))
    exact ha.bind fun v hv => hb.bind fun w hw => hP.binary op v w hv hw
  | .unary op a, h => by
    rw [eval]
    exact (Grounded.yields hP a (h.part (.operand .whole))).bind fun v hv => hP.unary op v hv
  | .array rows, h => by
    rw [eval]
    have hrows := Grounded.rows_yields hP rows fun row hrow e he => h.part (.entry hrow he .whole)
    exact hrows.bind fun values hvalues => hP.array values hvalues

/-- What the expressions of a row are grounded in is known of all its values. -/
theorem Grounded.row_yields (hP : HandedOn P) : (row : List Expr) →
    (∀ e ∈ row, Grounded s P fails e) → Yields (fun vs => ∀ v ∈ vs, P v) fails (evalRow s row)
  | [], _ => by
    rw [evalRow]
    exact fun v hv => absurd hv List.not_mem_nil
  | e :: row, h => by
    rw [evalRow]
    have he := Grounded.yields hP e (h e List.mem_cons_self)
    have hrow := Grounded.row_yields hP row fun f hf => h f (List.mem_cons_of_mem e hf)
    exact he.bind fun v hv => hrow.bind fun vs hvs => List.forall_mem_cons.mpr ⟨hv, hvs⟩

/-- What the expressions of a table are grounded in is known of all its values. -/
theorem Grounded.rows_yields (hP : HandedOn P) : (rows : List (List Expr)) →
    (∀ row ∈ rows, ∀ e ∈ row, Grounded s P fails e) →
      Yields (fun vss => ∀ vs ∈ vss, ∀ v ∈ vs, P v) fails (evalRows s rows)
  | [], _ => by
    rw [evalRows]
    exact fun vs hvs => absurd hvs List.not_mem_nil
  | row :: rows, h => by
    rw [evalRows]
    have hrow := Grounded.row_yields hP row (h row List.mem_cons_self)
    have hrows := Grounded.rows_yields hP rows fun r hr => h r (List.mem_cons_of_mem row hr)
    exact hrow.bind fun vs hvs => hrows.bind fun vss hvss =>
      List.forall_mem_cons.mpr ⟨hvs, hvss⟩
end

/-- What is known of the cells that an expression mentions is known of the expression. -/
theorem eval_yields (hP : Inherited s.call P) (e : Expr)
    (h : ∀ a ∈ e.mentions s.sheet, Yields P fails (s.read a)) : Yields P fails (e.eval s) :=
  Grounded.yields hP.toHandedOn e ⟨h, fun x _ => hP.number x, fun name _ vs _ _ => hP.call name vs⟩

end Expr

end Spreadsheet.Formula
