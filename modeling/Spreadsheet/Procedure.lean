/-!
# Procedures

A procedure works in turns: every turn either has the answer or leaves something to do. What it
leaves is less than what it found, so that the answer comes after finitely many turns.
-/

namespace Spreadsheet

/-- A procedure that takes turns until one of them has the answer. -/
structure Procedure (σ α : Type) where
  /-- A turn has the answer or leaves something to do. -/
  turn : σ → α ⊕ σ
  /-- A bound on the turns to come. -/
  work : σ → Nat
  /-- Every turn without the answer gets some work done. -/
  work_lt : ∀ {s s' : σ}, turn s = .inr s' → work s' < work s

/-- The answer of the last turn. -/
def Procedure.run {σ α : Type} (p : Procedure σ α) (s : σ) : α :=
  match _ : p.turn s with
  | .inl answer => answer
  | .inr rest => p.run rest
termination_by p.work s
decreasing_by exact p.work_lt ‹_›

end Spreadsheet
