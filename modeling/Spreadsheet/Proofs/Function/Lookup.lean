import Mathlib.LinearAlgebra.Matrix.Defs
import Spreadsheet.Function.Lookup
import Spreadsheet.Proofs.Number.Counting

/-!
# Lookup by row and by column

A lookup finds one line of a table by a key and selects the other one by a number. Rows without
cells have no key, so the place of a key among the keys may be another one than that of its row. The
main statements say from which row an exact lookup answers and when this is the row of the key, and
that a lookup by row is a lookup by column in the transposed table.
-/

namespace Spreadsheet.Function

variable {target table col mode : Value} {rest : List Value} {rows : List (List Value)}

/-! ## Answers -/

/-- The line that a value selects, counted from one. -/
def lineOf (v : Value) : Nat :=
  Number.toCount (Number.truncate v.toNumber)

/-- The answer from a row that was found, if one was: its cell in a column counted from one. -/
def answerFrom (rows : List (List Value)) (col : Nat) : Option Nat → Value
  | none => .error .notAvailable
  | some row => orNowhere (cellAt? rows row (col - 1))

/-- A number that is at least one selects a line. -/
theorem selectedLine?_eq {args : List Value} (harg : args[2]? = some col)
    (hcol : 1.0 ≤ col.toNumber) : selectedLine? args = some (lineOf col - 1) := by
  obtain ⟨hone, -, hnan⟩ := Number.not_lt_of_one_le (Number.one_le_truncate hcol)
  simp only [selectedLine?, numberAt, harg, Option.map_some, Option.getD_some, hone, hnan,
    decide_false, Bool.or_self, Bool.false_eq_true, if_false]
  rfl

/-- A lookup by row answers from the row at the place of the key among the keys. -/
theorem lookUpRow_eq (target table : Value) (rest : List Value) (hcol : 1.0 ≤ col.toNumber) :
    lookUpRow (target :: table :: col :: rest) =
      answerFrom table.toRows (lineOf col)
        (findKey (isApproximate (target :: table :: col :: rest)) target
          (table.toRows.filterMap List.head?)) := by
  unfold lookUpRow lookUp
  dsimp only
  rw [selectedLine?_eq rfl hcol]
  dsimp only
  cases findKey _ target _ <;> rfl

/-! ## Rows without cells -/

/-- The first row that starts with a key equal to the target. -/
def rowOf? (target : Value) (rows : List (List Value)) : Option Nat :=
  rows.findIdx? fun cells => cells.head?.any (matchesKey target)

/-- The number of rows without cells above a row. -/
def gapsAbove (rows : List (List Value)) (row : Nat) : Nat :=
  (rows.take row).countP List.isEmpty

private theorem gapsAbove_le (rows : List (List Value)) (row : Nat) : gapsAbove rows row ≤ row :=
  List.countP_le_length.trans (List.length_take_le row rows)

private theorem gapsAbove_nil_cons (rows : List (List Value)) (row : Nat) :
    gapsAbove ([] :: rows) (row + 1) = gapsAbove rows row + 1 := by
  simp [gapsAbove]

private theorem gapsAbove_cons_cons (key : Value) (cells : List Value) (rows : List (List Value))
    (row : Nat) : gapsAbove ((key :: cells) :: rows) (row + 1) = gapsAbove rows row := by
  simp [gapsAbove]

/-- The place of a key among the keys is that of its row, less the rows without cells above it. -/
theorem findIdx?_keys (p : Value → Bool) (rows : List (List Value)) :
    (rows.filterMap List.head?).findIdx? p =
      (rows.findIdx? fun cells => cells.head?.any p).map fun row => row - gapsAbove rows row := by
  induction rows with
  | nil => rfl
  | cons cells rows ih =>
    cases cells with
    | nil =>
      rw [List.filterMap_cons_none rfl, ih, List.findIdx?_cons, List.head?_nil, Option.any_none,
        if_neg Bool.false_ne_true, Option.map_map]
      apply congrArg (Option.map · _)
      ext row
      rw [Function.comp_apply, gapsAbove_nil_cons, Nat.add_sub_add_right]
    | cons key cells =>
      rw [List.filterMap_cons_some List.head?_cons, List.findIdx?_cons, List.findIdx?_cons, ih,
        List.head?_cons, Option.any_some]
      split
      · rfl
      · rw [Option.map_map, Option.map_map]
        apply congrArg (Option.map · _)
        ext row
        rw [Function.comp_apply, Function.comp_apply, gapsAbove_cons_cons,
          Nat.sub_add_comm (gapsAbove_le rows row)]

/-- In exact mode, a lookup by row answers from the row that stands as many places above the row of
the key as there are rows without cells above it. So it answers from the row of the key itself if no
row above it is without cells, and otherwise exactly if both rows give the same answer. -/
theorem lookUpRow_eq_answerFrom_iff (target table col mode : Value) (hcol : 1.0 ≤ col.toNumber)
    (hmode : mode.isTruthy = false) :
    lookUpRow [target, table, col, mode] =
        answerFrom table.toRows (lineOf col)
          ((rowOf? target table.toRows).map fun row => row - gapsAbove table.toRows row) ∧
      (lookUpRow [target, table, col, mode] =
          answerFrom table.toRows (lineOf col) (rowOf? target table.toRows) ↔
        ∀ row, rowOf? target table.toRows = some row → gapsAbove table.toRows row ≠ 0 →
          answerFrom table.toRows (lineOf col) (some (row - gapsAbove table.toRows row)) =
            answerFrom table.toRows (lineOf col) (some row)) := by
  have happroximate : isApproximate [target, table, col, mode] = false := hmode
  have hanswer : lookUpRow [target, table, col, mode] =
      answerFrom table.toRows (lineOf col)
        ((rowOf? target table.toRows).map fun row => row - gapsAbove table.toRows row) := by
    rw [lookUpRow_eq target table [mode] hcol, happroximate, findKey, if_neg Bool.false_ne_true,
      findIdx?_keys, rowOf?]
  refine ⟨hanswer, ?_⟩
  rw [hanswer]
  cases rowOf? target table.toRows with
  | none => simp
  | some row =>
    simp only [Option.map_some, Option.some.injEq, forall_eq']
    by_cases hgaps : gapsAbove table.toRows row = 0
    · simp [hgaps]
    · simp [hgaps]

/-- The number of a line selects that line. -/
theorem lineOf_toFloat {n : Nat} (hpos : 0 < n) (hlt : n < 2 ^ 53) :
    lineOf (.number n.toFloat) = n := by
  change Number.toCount (Number.truncate n.toFloat) = n
  rw [Number.truncate_toFloat hpos hlt, Number.toCount_toFloat hpos hlt]

/-- The selector of the second line. -/
def secondLine : Value :=
  .number (Nat.toFloat 2)

/-- The second line can be selected. -/
theorem one_le_secondLine : 1.0 ≤ secondLine.toNumber :=
  Number.one_le_toFloat (by decide) (by decide)

/-- The selector of the second line selects it. -/
theorem lineOf_secondLine : lineOf secondLine = 2 :=
  lineOf_toFloat (by decide) (by decide)

/-- A table that begins with a row without cells, with the given text at its end. -/
def behindGap (last : String) : List (List Value) :=
  [[], [.text "a", .text "p"], [.text "b", .text last]]

private theorem rowOf?_behindGap (last : String) :
    rowOf? (.text "b") (behindGap last) = some 2 := rfl

private theorem gapsAbove_behindGap (last : String) : gapsAbove (behindGap last) 2 = 1 := rfl

/-- The answer from another row may be the right one. -/
theorem lookUpRow_behindGap :
    1.0 ≤ secondLine.toNumber ∧ (Value.boolean false).isTruthy = false ∧
      lookUpRow [.text "b", .array (behindGap "p"), secondLine, .boolean false] =
        answerFrom (behindGap "p") 2 (some 2) := by
  obtain ⟨-, hright⟩ := lookUpRow_eq_answerFrom_iff (.text "b") (.array (behindGap "p"))
    secondLine (.boolean false) one_le_secondLine rfl
  have hrows : (Value.array (behindGap "p")).toRows = behindGap "p" := rfl
  rw [hrows, lineOf_secondLine, rowOf?_behindGap] at hright
  refine ⟨one_le_secondLine, rfl, hright.mpr ?_⟩
  rintro row hsome -
  obtain rfl := Option.some.inj hsome
  rw [gapsAbove_behindGap]
  rfl

/-- Behind a row without cells, an exact lookup need not answer from the row of the key. -/
theorem not_lookUpRow_eq_answerFrom_rowOf? :
    1.0 ≤ secondLine.toNumber ∧ lineOf secondLine = 2 ∧
      rowOf? (.text "b") (behindGap "q") = some 2 ∧
        lookUpRow [.text "b", .array (behindGap "q"), secondLine, .boolean false] = .text "p" ∧
          answerFrom (behindGap "q") 2 (some 2) = .text "q" := by
  have hfound : findKey false (.text "b") ((behindGap "q").filterMap List.head?) = some 1 := by
    decide
  have hrows : (Value.array (behindGap "q")).toRows = behindGap "q" := rfl
  have hmode : isApproximate [.text "b", .array (behindGap "q"), secondLine, .boolean false] =
      false := rfl
  refine ⟨one_le_secondLine, lineOf_secondLine, rowOf?_behindGap "q", ?_, rfl⟩
  rw [lookUpRow_eq (.text "b") (.array (behindGap "q")) [.boolean false] one_le_secondLine,
    lineOf_secondLine, hrows, hmode, hfound]
  rfl

/-! ## Transposed tables -/

section Transposed

variable {m n : Nat} (M : Matrix (Fin m) (Fin n) Value)

/-- The table of a matrix, row by row. -/
def tableOf (M : Matrix (Fin m) (Fin n) Value) : List (List Value) :=
  List.ofFn fun row => List.ofFn (M row)

/-- Every table whose rows have the same number of cells is that of a matrix. -/
theorem exists_tableOf_eq (h : ∀ cells ∈ rows, cells.length = n) :
    ∃ M : Matrix (Fin rows.length) (Fin n) Value, tableOf M = rows := by
  have hlength : ∀ row : Fin rows.length, rows[row].length = n := fun row =>
    h _ (List.getElem_mem row.isLt)
  refine ⟨fun row col => rows[row].get (col.cast (hlength row).symm), ?_⟩
  apply List.ext_getElem
  · simp [tableOf]
  · intro row hrow hrow'
    apply List.ext_getElem
    · simpa [tableOf] using (hlength ⟨row, hrow'⟩).symm
    · intro col hcol hcol'
      simp [tableOf]

/-- The cells of the table of a matrix are its entries. -/
theorem cellAt?_tableOf (row col : Nat) :
    cellAt? (tableOf M) row col =
      if h : row < m ∧ col < n then some (M ⟨row, h.1⟩ ⟨col, h.2⟩) else none := by
  unfold cellAt? tableOf
  rw [List.getElem?_ofFn]
  by_cases hrow : row < m
  · simp [hrow, List.getElem?_ofFn]
  · simp [hrow]

/-- The first cells of the rows of a matrix are the first row of its transpose. -/
theorem keys_tableOf : (tableOf M).filterMap List.head? = (tableOf M.transpose).head?.getD [] := by
  cases n with
  | zero => simp [tableOf]
  | succ n =>
    have hcells : tableOf M = (List.finRange m).map fun row =>
        M row 0 :: List.ofFn fun col : Fin n => M row col.succ := by
      simp only [tableOf, List.ofFn_succ, List.ofFn_eq_map]
    have hfirst : (tableOf M.transpose).head? = some (List.ofFn fun row => M row 0) := by
      rw [tableOf, List.ofFn_succ, List.head?_cons]
      rfl
    rw [hcells, hfirst, List.filterMap_map, List.ofFn_eq_map]
    exact congrFun List.filterMap_eq_map' _

/-- The rows of one table are the columns of another one: they have the same cells with rows and
columns exchanged, and the keys of the rows are those of the columns. -/
structure Transposes (rows columns : List (List Value)) : Prop where
  /-- The cells are the same. -/
  cell_eq : ∀ row col, cellAt? rows row col = cellAt? columns col row
  /-- The keys are the same. -/
  keys_eq : rows.filterMap List.head? = columns.head?.getD []

/-- The table of a matrix has the rows of which that of the transpose has the columns. -/
theorem transposes_tableOf : Transposes (tableOf M) (tableOf M.transpose) := by
  refine ⟨fun row col => ?_, keys_tableOf M⟩
  rw [cellAt?_tableOf, cellAt?_tableOf]
  simp only [Matrix.transpose_apply, and_comm]

/-- A lookup by row takes the same way through the rows of a table as a lookup by column takes
through its columns. -/
theorem Transposes.lookUpRow_eq {columns : List (List Value)} (h : Transposes rows columns)
    (target : Value) (rest : List Value) :
    lookUpRow (target :: .array rows :: rest) =
      lookUpColumn (target :: .array columns :: rest) := by
  have hline : selectedLine? (target :: .array rows :: rest) =
      selectedLine? (target :: .array columns :: rest) := rfl
  have hmode : isApproximate (target :: .array rows :: rest) =
      isApproximate (target :: .array columns :: rest) := rfl
  unfold lookUpRow lookUpColumn lookUp
  simp only [Value.toRows, hline, hmode, h.keys_eq, h.cell_eq]

/-- A lookup by row is a lookup by column in the transposed table, whatever line is selected and in
whatever mode. -/
theorem lookUpRow_eq_lookUpColumn_transpose (target : Value) (rest : List Value) :
    lookUpRow (target :: .array (tableOf M) :: rest) =
      lookUpColumn (target :: .array (tableOf M.transpose) :: rest) :=
  (transposes_tableOf M).lookUpRow_eq target rest

/-- The columns of a table, as many as are asked for, from top to bottom. -/
def columnsOf (n : Nat) (rows : List (List Value)) : List (List Value) :=
  (List.range n).map fun col => rows.map fun cells => cells[col]?.getD .empty

/-- The columns of the table of a matrix are the rows of that of its transpose. -/
theorem columnsOf_tableOf : columnsOf n (tableOf M) = tableOf M.transpose := by
  simp only [columnsOf, tableOf, ← List.map_coe_finRange_eq_range, List.ofFn_eq_map, List.map_map]
  refine List.map_congr_left fun col _ => List.map_congr_left fun row _ => ?_
  simp

/-- In a table whose rows have the same number of cells, a lookup by row is a lookup by column among
its columns. -/
theorem lookUpRow_eq_lookUpColumn_columnsOf (h : ∀ cells ∈ rows, cells.length = n)
    (target : Value) (rest : List Value) :
    lookUpRow (target :: .array rows :: rest) =
      lookUpColumn (target :: .array (columnsOf n rows) :: rest) := by
  obtain ⟨M, hM⟩ := exists_tableOf_eq h
  have hcolumns := columnsOf_tableOf M
  rw [hM] at hcolumns
  rw [hcolumns]
  exact (hM ▸ transposes_tableOf M).lookUpRow_eq target rest

end Transposed

end Spreadsheet.Function
