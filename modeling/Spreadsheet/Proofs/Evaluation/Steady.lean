import Spreadsheet.Proofs.Evaluation.Locality

/-!
# Functions of the moment

Four functions depend on the day, on the time of the day or on chance. The main statement says that
a call of any other name has the same value at every moment, so that a formula without calls of
these four has its value from its cells alone.
-/

namespace Spreadsheet

namespace Function

/-- The names of the functions that depend on more than their arguments. -/
def volatile : List String := ["RAND", "RANDBETWEEN", "TODAY", "NOW"]

/-- All other functions of the library depend on their arguments alone. -/
theorem mem_volatile_or_run_eq :
    ∀ f ∈ library, f.name ∈ volatile ∨ ∀ s t, f.run s = f.run t := by
  simp [library, mathematical, statistical, textual, temporal, logical, lookups, financial, steady,
    volatile]

/-- A function that is found has the name that was looked for. -/
theorem name_of_named? {name : String} {f : Function} (h : named? name = some f) :
    f ∈ library ∧ f.name = Text.upper name := by
  unfold named? at h
  have hname := List.find?_some h
  exact ⟨List.mem_of_find?_eq_some h, by simpa using hname⟩

/-- A call of any other name has the same value at every moment. -/
theorem invoke_eq_invoke {name : String} (h : Text.upper name ∉ volatile) (s t : Ambient) :
    invoke s name = invoke t name := by
  funext args
  unfold invoke
  cases hf : named? name with
  | none => rfl
  | some f =>
    obtain ⟨hmem, hname⟩ := name_of_named? hf
    have hrun : f.run s = f.run t :=
      (mem_volatile_or_run_eq f hmem).resolve_left (hname ▸ h) s t
    simp only [hrun]

end Function

namespace Formula.Expr

/-- The expression calls none of the functions that depend on the moment. -/
def Steady (e : Expr) : Prop :=
  ∀ name ∈ e.calls, Text.upper name ∉ Function.volatile

instance (e : Expr) : Decidable e.Steady :=
  inferInstanceAs (Decidable (∀ name ∈ e.calls, Text.upper name ∉ Function.volatile))

end Formula.Expr

end Spreadsheet
