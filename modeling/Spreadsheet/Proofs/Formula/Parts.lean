import Spreadsheet.Formula.References

/-!
# Parts of expressions

The parts of an expression are its operands, its arguments, the cells of its tables, and the parts
of these. What a part mentions is mentioned by the whole.
-/

namespace Spreadsheet.Formula.Expr

/-- The expression is a part of another one, or all of it. -/
inductive PartOf (p : Expr) : Expr → Prop where
  /-- All of it. -/
  | whole : PartOf p p
  /-- A part of an argument. -/
  | argument {name : String} {args : List Expr} {e : Expr} (he : e ∈ args) (h : PartOf p e) :
    PartOf p (.call name args)
  /-- A part of the left operand. -/
  | left {op : BinaryOp} {a b : Expr} (h : PartOf p a) : PartOf p (.binary op a b)
  /-- A part of the right operand. -/
  | right {op : BinaryOp} {a b : Expr} (h : PartOf p b) : PartOf p (.binary op a b)
  /-- A part of the only operand. -/
  | operand {op : UnaryOp} {a : Expr} (h : PartOf p a) : PartOf p (.unary op a)
  /-- A part of a cell of a table. -/
  | entry {rows : List (List Expr)} {row : List Expr} {e : Expr} (hrow : row ∈ rows) (he : e ∈ row)
    (h : PartOf p e) : PartOf p (.array rows)

namespace PartOf

variable {p q e : Expr}

/-- A part of a part is a part. -/
theorem trans (hpq : PartOf p q) (hqe : PartOf q e) : PartOf p e := by
  induction hqe with
  | whole => exact hpq
  | argument he _ ih => exact .argument he ih
  | left _ ih => exact .left ih
  | right _ ih => exact .right ih
  | operand _ ih => exact .operand ih
  | entry hrow he _ ih => exact .entry hrow he ih

/-- What a part mentions is mentioned by the whole. -/
theorem mem_mentions {sheet : String} {a : QualifiedAddress} (h : PartOf p e)
    (ha : a ∈ p.mentions sheet) : a ∈ e.mentions sheet := by
  induction h with
  | whole => exact ha
  | argument he _ ih => exact mem_mentionsRow.mpr ⟨_, he, ih⟩
  | left _ ih => exact List.mem_append_left _ ih
  | right _ ih => exact List.mem_append_right _ ih
  | operand _ ih => exact ih
  | entry hrow he _ ih => exact mem_mentionsRows.mpr ⟨_, hrow, _, he, ih⟩

end PartOf

end Spreadsheet.Formula.Expr
