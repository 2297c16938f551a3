import Spreadsheet.Function.Library

/-!
# Functions that pass values on

A choice, an error that is replaced, and a lookup yield a value that they were given, or a cell of a
table that they were given. What they yield instead is an error, a truth value or nothing. Hence a
property of values that does not get lost when tables are taken apart and put together holds of what
these functions yield if it holds of all their arguments.
-/

namespace Spreadsheet.Function

/-- A step that may fail for an unfit argument. -/
theorem orInvalid_bind {α : Type} {p : Value → Bool} (unfit : p (.error .invalidValue) = true)
    (a? : Option α) {f : α → Option Value} (h : ∀ a, p (orInvalid (f a)) = true) :
    p (orInvalid (a? >>= f)) = true := by
  cases a? with
  | none => exact unfit
  | some a => exact h a

/-- A property that is kept by functions that pass values on. -/
structure PassedOn (P : Value → Prop) : Prop where
  /-- Nothing has it. -/
  empty : P .empty
  /-- Truth values have it. -/
  boolean : ∀ b, P (.boolean b)
  /-- The error of an unfit argument has it. -/
  unfit : P (.error .invalidValue)
  /-- The error of a key that is not found has it. -/
  absent : P (.error .notAvailable)
  /-- The error of a place outside of a table has it. -/
  nowhere : P (.error .invalidReference)
  /-- A table has it if its cells have. -/
  array : ∀ rows : List (List Value), (∀ row ∈ rows, ∀ v ∈ row, P v) → P (.array rows)
  /-- The cells of a value that is taken as a table have it if the value has. -/
  cells : ∀ v, P v → ∀ row ∈ v.toRows, ∀ w ∈ row, P w

namespace PassedOn

variable {P : Value → Prop} {ambient : Ambient} {args : List Value} {rows : List (List Value)}
  {row col : Nat}

/-- A choice hands on one of its arguments. -/
theorem choice (hP : PassedOn P) (h : ∀ v ∈ args, P v) : P (choice args) := by
  unfold Function.choice
  split
  · rename_i condition whenTrue rest
    simp only [List.forall_mem_cons] at h
    obtain ⟨-, htrue, hrest⟩ := h
    split
    · exact htrue
    · cases rest with
      | nil => exact hP.boolean false
      | cons whenFalse rest => exact hrest whenFalse List.mem_cons_self
  · exact hP.unfit

/-- A fallback hands on one of its arguments. -/
theorem fallback (hP : PassedOn P) (h : ∀ v ∈ args, P v) : P (fallback args) := by
  unfold Function.fallback
  split
  · split
    · exact h _ (List.mem_cons_of_mem _ List.mem_cons_self)
    · exact h _ List.mem_cons_self
  · exact hP.unfit

/-- A test of several arguments answers by a truth value or an error. -/
theorem testFilled (hP : PassedOn P) (test : List Value → Bool) : P (testFilled test args) := by
  unfold Function.testFilled
  dsimp only
  split
  · exact hP.unfit
  · exact hP.boolean _

/-- A test of one argument answers by a truth value. -/
theorem testFirst (hP : PassedOn P) (test : Value → Bool) : P (testFirst test args) := by
  cases args with
  | nil => exact hP.unfit
  | cons v args => exact hP.boolean _

/-- A cell that may be missing in a table. -/
theorem cellAt (hP : PassedOn P) (h : ∀ row ∈ rows, ∀ v ∈ row, P v) :
    P (orNowhere (cellAt? rows row col)) := by
  cases hcell : cellAt? rows row col with
  | none => exact hP.nowhere
  | some v =>
    obtain ⟨cells, hcells, hv⟩ := Option.bind_eq_some_iff.mp hcell
    exact h cells (List.mem_of_getElem? hcells) v (List.mem_of_getElem? hv)

/-- A lookup hands on a cell, if its body does. -/
theorem lookUp (hP : PassedOn P) {keys : List (List Value) → List Value}
    {cell? : List (List Value) → Nat → Nat → Option Value}
    (hcell : ∀ rows : List (List Value), (∀ row ∈ rows, ∀ v ∈ row, P v) →
      ∀ found selected, P (orNowhere (cell? rows found selected)))
    (h : ∀ v ∈ args, P v) : P (lookUp keys cell? args) := by
  unfold Function.lookUp
  split
  · rename_i target table rest
    have htable : P table := h table (List.mem_cons_of_mem _ List.mem_cons_self)
    split
    · exact hP.unfit
    · dsimp only
      split
      · exact hP.absent
      · exact hcell _ (hP.cells table htable) _ _
  · exact hP.unfit

/-- A lookup by row hands on a cell of the table. -/
theorem lookUpRow (hP : PassedOn P) (h : ∀ v ∈ args, P v) : P (lookUpRow args) :=
  hP.lookUp (fun _ hrows _ _ => hP.cellAt hrows) h

/-- A lookup by column hands on a cell of the table. -/
theorem lookUpColumn (hP : PassedOn P) (h : ∀ v ∈ args, P v) : P (lookUpColumn args) :=
  hP.lookUp (fun _ hrows _ _ => hP.cellAt hrows) h

/-- A part of a table has cells of the table. -/
theorem part (hP : PassedOn P) (h : ∀ row ∈ rows, ∀ v ∈ row, P v) : P (part rows row col) := by
  unfold Function.part
  split
  · exact hP.array rows h
  · rename_i col
    refine hP.array _ fun row hrow v hv => ?_
    obtain ⟨cells, hcells, rfl⟩ := List.mem_map.mp hrow
    obtain rfl := List.mem_singleton.mp hv
    cases hcell : cells[col]? with
    | none => exact hP.empty
    | some v => exact h cells hcells v (List.mem_of_getElem? hcell)
  · rename_i row
    refine hP.array _ fun cells hrow v hv => ?_
    obtain rfl := List.mem_singleton.mp hrow
    cases hcells : rows[row]? with
    | none => simp [hcells] at hv
    | some cells =>
      rw [hcells] at hv
      exact h cells (List.mem_of_getElem? hcells) v hv
  · exact hP.cellAt h

/-- An index hands on a part of a table. -/
theorem index (hP : PassedOn P) (h : ∀ v ∈ args, P v) : P (index args) := by
  unfold Function.index
  split
  · exact hP.unfit
  · rename_i table rest
    have htable : P table := h table List.mem_cons_self
    dsimp only
    split
    · exact hP.unfit
    · split
      · exact hP.nowhere
      · exact hP.part (hP.cells table htable)

/-! ## The library -/

/-- What a logical function yields has the property if the arguments have. -/
theorem logical (hP : PassedOn P) (h : ∀ v ∈ args, P v) :
    ∀ f ∈ logical, P (f.run ambient args) := by
  simp [Function.logical, steady, hP.choice h, hP.fallback h, conjunction, disjunction, negation,
    constant, hP.testFilled, hP.testFirst, hP.boolean]

/-- What a lookup function yields has the property if the arguments have, and if the places that
are found have. -/
theorem lookups (hP : PassedOn P) (h : ∀ v ∈ args, P v) (hplace : P (findMatch args)) :
    ∀ f ∈ lookups, P (f.run ambient args) := by
  simp [Function.lookups, steady, hP.lookUpRow h, hP.lookUpColumn h, hP.index h, hplace]

end PassedOn

end Spreadsheet.Function
