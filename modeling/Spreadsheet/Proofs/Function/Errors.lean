import Spreadsheet.Proofs.Evaluation.Outcome
import Spreadsheet.Proofs.Evaluation.Steady
import Spreadsheet.Proofs.Function.Passing

/-!
# Errors of cells and errors of functions

Some errors say that a calculation went wrong: a division by zero, an unfit argument, an unknown
name. Others say what is wrong with a cell: it leads into a cycle, its formula has no meaning, or it
was given up. Functions and operators make errors of the first kind only. The main statement says
that a call shows an error of a cell only if it was given that error, alone or inside a table.
-/

namespace Spreadsheet

/-- Errors that say what is wrong with a cell, and not with a calculation. -/
def CellError.isOfCell : CellError → Bool
  | .circularReference | .malformedFormula | .aborted _ => true
  | _ => false

namespace Value

/-- The value is an error, or a table with a cell that shows it. -/
inductive Shows (e : CellError) : Value → Prop where
  /-- The error itself. -/
  | error : Shows e (.error e)
  /-- A cell of a table shows the error. -/
  | array {rows : List (List Value)} {row : List Value} {v : Value} (hrow : row ∈ rows)
      (hv : v ∈ row) (shows_cell : Shows e v) : Shows e (.array rows)

/-- A value that a function made by itself: no table, and no error of a cell. -/
def isComputed : Value → Bool
  | .array _ => false
  | .error e => !e.isOfCell
  | _ => true

variable {e : CellError} {v w : Value} {rows : List (List Value)} {row : List Value}

private theorem not_shows_array (h : ∀ row ∈ rows, ∀ v ∈ row, ¬v.Shows e) :
    ¬(Value.array rows).Shows e := by
  intro hshows
  cases hshows with
  | array hrow hv hcell => exact h _ hrow _ hv hcell

/-- What a function made by itself shows no error of a cell. -/
theorem not_shows_of_isComputed (he : e.isOfCell = true) (h : v.isComputed = true) :
    ¬v.Shows e := by
  intro hshows
  cases hshows with
  | error => simp [isComputed, he] at h
  | array => cases h

/-- The cells of a value that is taken as a table show no more than the value. -/
theorem not_shows_of_mem_toRows (h : ¬v.Shows e) (hrow : row ∈ v.toRows) (hw : w ∈ row) :
    ¬w.Shows e := by
  intro hshows
  cases v with
  | array rows => exact h (.array hrow hw hshows)
  | empty | number | text | boolean | error =>
    obtain rfl := List.mem_singleton.mp hrow
    obtain rfl := List.mem_singleton.mp hw
    exact h hshows

/-- Numbers are computed. -/
@[simp] theorem isComputed_number (x : Float) : (Value.number x).isComputed = true := rfl

/-- Texts are computed. -/
@[simp] theorem isComputed_text (s : String) : (Value.text s).isComputed = true := rfl

/-- Truth values are computed. -/
@[simp] theorem isComputed_boolean (b : Bool) : (Value.boolean b).isComputed = true := rfl

/-- The errors that come from no cell are computed. -/
@[simp] theorem isComputed_error : (Value.error e).isComputed = !e.isOfCell := rfl

/-- Results of arithmetic are computed. -/
@[simp] theorem isComputed_ofResult (x : Float) : (ofResult x).isComputed = true := by
  unfold ofResult
  split <;> rfl

end Value

namespace Function

open Value

/-! ## Functions that make their values -/

/-- Whole numbers that may be out of range are computed. -/
@[simp] theorem isComputed_orOutOfRange (n? : Option Int) :
    (orOutOfRange n?).isComputed = true := by
  cases n? <;> rfl

/-- The least and the greatest of some numbers are computed. -/
@[simp] theorem isComputed_extremum (choose : Float → Float → Float) (xs : List Float) :
    (extremum choose xs).isComputed = true := by
  cases xs <;> rfl

/-- Rounded numbers are computed. -/
@[simp] theorem isComputed_roundWith (op : Float → Float) (args : List Value) :
    (roundWith op args).isComputed = true := by
  unfold roundWith roundPlaces
  dsimp only
  split_ifs
  · exact isComputed_ofResult _
  · rfl
  · exact isComputed_ofResult _

/-- Positions of texts are computed. -/
@[simp] theorem isComputed_locate (needle haystack : List Char) (start : Float) :
    (locate needle haystack start).isComputed = true := by
  unfold locate
  refine orInvalid_bind rfl _ fun skip => ?_
  split
  · rfl
  · exact orInvalid_bind rfl _ fun found => rfl

/-- Positions of keys are computed. -/
@[simp] theorem isComputed_findMatch (args : List Value) : (findMatch args).isComputed = true := by
  unfold findMatch position
  split
  · dsimp only
    split <;> rfl
  · rfl

variable (ambient : Ambient) (args : List Value)

private theorem isComputed_mathematical :
    ∀ f ∈ mathematical, (f.run ambient args).isComputed = true := by
  simp [mathematical, steady, sum, average, minimum, maximum, count, countFilled, countBlank,
    round, roundUp, roundDown, magnitude, power, squareRoot, exponential, naturalLog, logarithm,
    decimalLog, remainder, circleRatio, random, randomBetween, ofCount, apply_ite isComputed,
    CellError.isOfCell]

private theorem isComputed_statistical :
    ∀ f ∈ statistical, (f.run ambient args).isComputed = true := by
  simp only [statistical, steady, List.forall_mem_cons, List.not_mem_nil, false_imp_iff,
    implies_true, and_true]
  refine ⟨?_, ?_, ?_, ?_⟩
  · unfold median
    split <;> rfl
  · unfold mode
    split <;> rfl
  · unfold deviation
    split
    · exact isComputed_ofResult _
    · rfl
  · unfold variance
    split
    · exact isComputed_ofResult _
    · rfl

private theorem isComputed_textual : ∀ f ∈ textual, (f.run ambient args).isComputed = true := by
  have hleft : (left args).isComputed = true := orInvalid_bind rfl _ fun _ => rfl
  have hright : (right args).isComputed = true := orInvalid_bind rfl _ fun _ => rfl
  have hmiddle : (middlePart args).isComputed = true :=
    orInvalid_bind rfl _ fun _ => orInvalid_bind rfl _ fun _ => rfl
  have hsubstitute : (substitute args).isComputed = true := by
    unfold substitute
    dsimp only
    split_ifs
    · rfl
    · rfl
    · exact orInvalid_bind rfl _ fun _ => rfl
  simp [textual, steady, concatenate, hleft, hright, hmiddle, length, lowerCase, upperCase,
    properCase, trimSpaces, hsubstitute, find, search, ofCount, ofChars]

private theorem isComputed_temporal : ∀ f ∈ temporal, (f.run ambient args).isComputed = true := by
  simp [temporal, steady, makeDate, year, month, day, hour, minute, second, weekday, datePart,
    timePart, today, now]

private theorem isComputed_financial : ∀ f ∈ financial, (f.run ambient args).isComputed = true := by
  have hrate : (internalRate args).isComputed = true := by
    unfold internalRate
    dsimp only
    split
    · split <;> rfl
    · rfl
  simp [financial, steady, payment, futureValue, presentValue, netPresentValue, hrate,
    apply_ite isComputed, CellError.isOfCell]

/-! ## The library -/

variable {ambient args} {e : CellError}

/-- Functions that pass values on show no error of a cell that they were not given. -/
theorem passedOn_not_shows (he : e.isOfCell = true) : PassedOn fun v => ¬v.Shows e where
  empty := not_shows_of_isComputed he rfl
  boolean _ := not_shows_of_isComputed he rfl
  unfit := not_shows_of_isComputed he rfl
  absent := not_shows_of_isComputed he rfl
  nowhere := not_shows_of_isComputed he rfl
  array _ h := not_shows_array h
  cells _ h _ hrow _ hw := not_shows_of_mem_toRows h hrow hw

/-- No function makes up an error of a cell. -/
theorem not_shows_run (he : e.isOfCell = true) (h : ∀ v ∈ args, ¬v.Shows e) :
    ∀ f ∈ library, ¬(f.run ambient args).Shows e := by
  intro f hf
  simp only [library, List.mem_append] at hf
  obtain (((((hf | hf) | hf) | hf) | hf) | hf) | hf := hf
  · exact not_shows_of_isComputed he (isComputed_mathematical ambient args f hf)
  · exact not_shows_of_isComputed he (isComputed_statistical ambient args f hf)
  · exact not_shows_of_isComputed he (isComputed_textual ambient args f hf)
  · exact not_shows_of_isComputed he (isComputed_temporal ambient args f hf)
  · exact (passedOn_not_shows he).logical h f hf
  · have hplace := not_shows_of_isComputed he (isComputed_findMatch args)
    exact (passedOn_not_shows he).lookups h hplace f hf
  · exact not_shows_of_isComputed he (isComputed_financial ambient args f hf)

/-- A call shows an error of a cell only if an argument shows it. -/
theorem not_shows_invoke {name : String} (he : e.isOfCell = true) (h : ∀ v ∈ args, ¬v.Shows e) :
    ¬(invoke ambient name args).Shows e := by
  unfold invoke
  split
  · exact not_shows_of_isComputed he rfl
  · rename_i f hf
    split
    · exact not_shows_run he h f (name_of_named? hf).1
    · exact not_shows_of_isComputed he rfl

end Function

namespace Formula

/-- Operators compute their values. -/
theorem isComputed_binary (op : BinaryOp) (v w : Value) : (op.apply v w).isComputed = true := by
  cases op with
  | div =>
    unfold BinaryOp.apply quotient
    dsimp only
    split
    · rfl
    · exact Value.isComputed_ofResult _
  | add | sub | mul | pow => exact Value.isComputed_ofResult _
  | concat | eq | ne | lt | gt | le | ge => rfl

/-- Signs compute their values. -/
theorem isComputed_unary (op : UnaryOp) (v : Value) : (op.apply v).isComputed = true := by
  cases op <;> exact Value.isComputed_ofResult _

/-- Whatever an evaluation builds from values that do not show an error of a cell does not show it
either. -/
theorem inherited_not_shows {e : CellError} (ambient : Ambient) (he : e.isOfCell = true) :
    Inherited (Function.invoke ambient) fun v => ¬v.Shows e where
  number _ := Value.not_shows_of_isComputed he rfl
  text _ := Value.not_shows_of_isComputed he rfl
  boolean _ := Value.not_shows_of_isComputed he rfl
  missing := Value.not_shows_of_isComputed he rfl
  array _ h := Value.not_shows_array h
  binary op v w _ _ := Value.not_shows_of_isComputed he (isComputed_binary op v w)
  unary op v _ := Value.not_shows_of_isComputed he (isComputed_unary op v)
  call _ _ h := Function.not_shows_invoke he h

end Formula

end Spreadsheet
