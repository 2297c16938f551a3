import Spreadsheet.Proofs.Function.Index

/-!
# Cells of whole rows and columns

A cell of a table can be taken at once, or from its row or its column after that was taken as a
whole. A row that is taken as a whole keeps its length, but in a column the rows that are too short
for it have a blank cell. So a missing cell is an error when it is taken at once or from its row,
and blank when it is taken from its column; the main statement says that the three ways agree
everywhere else, outside of the table too.
-/

namespace Spreadsheet.Function

variable {row col : Value} {rows : List (List Value)} {r c : Nat}

/-- The selector of all lines. -/
def allLines : Value :=
  .number 0.0

/-- The selector of the first line. -/
def firstLine : Value :=
  .number 1.0

private theorem selects_allLines : Selects allLines :=
  ⟨by decide +kernel, by decide +kernel⟩

private theorem lineOf_allLines : lineOf allLines = 0 := by
  decide +kernel

private theorem one_le_firstLine : 1.0 ≤ firstLine.toNumber := by
  decide

private theorem lineOf_firstLine : lineOf firstLine = 1 := by
  rfl

/-- The row and the column lie within the table, but the row has too few cells for the column. Both
are counted from one. -/
def IsGap (rows : List (List Value)) (row col : Nat) : Prop :=
  row ≤ rows.length ∧ col ≤ tableWidth rows ∧ cellAt? rows (row - 1) (col - 1) = none

/-! ## The three ways to a cell -/

/-- Below a table there are no cells. -/
theorem cellAt?_of_length_le (h : rows.length ≤ r) (c : Nat) : cellAt? rows r c = none := by
  rw [cellAt?, List.getElem?_eq_none h]
  rfl

/-- Outside of a table there are no cells. -/
theorem cellAt?_of_outside (h : rows.length < r + 1 ∨ tableWidth rows < c + 1) :
    cellAt? rows r c = none := by
  rcases h with hrow | hcol
  · exact cellAt?_of_length_le (Nat.le_of_lt_succ hrow) c
  · exact cellAt?_of_tableWidth_le r (Nat.le_of_lt_succ hcol)

/-- A cell that is taken at once. -/
theorem index_eq_cell (table : Value) (hrow : 1.0 ≤ row.toNumber) (hcol : 1.0 ≤ col.toNumber) :
    index [table, row, col] =
      orNowhere (cellAt? table.toRows (lineOf row - 1) (lineOf col - 1)) := by
  obtain ⟨r, hr⟩ := Nat.exists_eq_succ_of_ne_zero (Nat.ne_of_gt (lineOf_pos hrow))
  obtain ⟨c, hc⟩ := Nat.exists_eq_succ_of_ne_zero (Nat.ne_of_gt (lineOf_pos hcol))
  rw [index_eq_part table (selects_of_one_le hrow) (selects_of_one_le hcol), hr, hc]
  split
  · rename_i houtside
    rw [Nat.succ_sub_one, Nat.succ_sub_one, cellAt?_of_outside houtside]
    rfl
  · rfl

/-- A row as a whole. -/
theorem index_allLines_right (table : Value) (hrow : 1.0 ≤ row.toNumber) :
    index [table, row, allLines] =
      if table.toRows.length < lineOf row then .error .invalidReference
      else .array [table.toRows[lineOf row - 1]?.getD []] := by
  obtain ⟨r, hr⟩ := Nat.exists_eq_succ_of_ne_zero (Nat.ne_of_gt (lineOf_pos hrow))
  rw [index_eq_part table (selects_of_one_le hrow) selects_allLines, lineOf_allLines, hr]
  simp only [Nat.not_lt_zero, or_false]
  rfl

/-- A column as a whole. -/
theorem index_allLines_left (table : Value) (hcol : 1.0 ≤ col.toNumber) :
    index [table, allLines, col] =
      if tableWidth table.toRows < lineOf col then .error .invalidReference
      else .array (table.toRows.map fun cells => [cells[lineOf col - 1]?.getD .empty]) := by
  obtain ⟨c, hc⟩ := Nat.exists_eq_succ_of_ne_zero (Nat.ne_of_gt (lineOf_pos hcol))
  rw [index_eq_part table selects_allLines (selects_of_one_le hcol), lineOf_allLines, hc]
  simp only [Nat.not_lt_zero, false_or]
  rfl

/-- The error of a missing reference is all that can be taken from it. -/
theorem orNowhere_cellAt?_nowhere (r c : Nat) :
    orNowhere (cellAt? [[.error .invalidReference]] r c) = .error .invalidReference := by
  cases r with
  | zero => cases c <;> rfl
  | succ r => rfl

/-- From a row as a whole, every cell is taken as it is at once. -/
theorem index_index_right (table : Value) (hrow : 1.0 ≤ row.toNumber)
    (hcol : 1.0 ≤ col.toNumber) :
    index [index [table, row, allLines], firstLine, col] = index [table, row, col] := by
  rw [index_eq_cell _ one_le_firstLine hcol, index_eq_cell table hrow hcol, lineOf_firstLine,
    index_allLines_right table hrow]
  split
  · rename_i houtside
    have hmissing : table.toRows.length ≤ lineOf row - 1 := Nat.le_sub_one_of_lt houtside
    rw [cellAt?_of_length_le hmissing]
    exact orNowhere_cellAt?_nowhere 0 _
  · unfold cellAt?
    cases table.toRows[lineOf row - 1]? <;> rfl

/-- The cells of a column, blank where a row is too short. -/
theorem cellAt?_column (rows : List (List Value)) (r c : Nat) :
    cellAt? (rows.map fun cells => [cells[c]?.getD .empty]) r 0 =
      rows[r]?.map fun cells => cells[c]?.getD .empty := by
  rw [cellAt?, List.getElem?_map]
  cases rows[r]? <;> rfl

/-- From a column as a whole, a cell is blank if its row is too short, and else it is taken as it is
at once. -/
theorem index_index_left (table : Value) (hrow : 1.0 ≤ row.toNumber) (hcol : 1.0 ≤ col.toNumber) :
    index [index [table, allLines, col], row, firstLine] =
      if lineOf row ≤ table.toRows.length ∧ lineOf col ≤ tableWidth table.toRows then
        (cellAt? table.toRows (lineOf row - 1) (lineOf col - 1)).getD .empty
      else .error .invalidReference := by
  have hrows : ∀ rows : List (List Value), (Value.array rows).toRows = rows := fun _ => rfl
  have hpos := lineOf_pos hrow
  rw [index_eq_cell _ hrow one_le_firstLine, lineOf_firstLine, index_allLines_left table hcol]
  by_cases hwidth : tableWidth table.toRows < lineOf col
  · rw [if_pos hwidth, if_neg fun h => absurd h.2 (Nat.not_le_of_lt hwidth)]
    exact orNowhere_cellAt?_nowhere _ _
  · rw [if_neg hwidth, hrows, cellAt?_column]
    by_cases hlength : lineOf row ≤ table.toRows.length
    · have hlt : lineOf row - 1 < table.toRows.length := by omega
      rw [if_pos ⟨hlength, Nat.le_of_not_lt hwidth⟩, cellAt?, List.getElem?_eq_getElem hlt]
      rfl
    · have hmissing : table.toRows.length ≤ lineOf row - 1 := by omega
      rw [if_neg fun h => hlength h.1, List.getElem?_eq_none hmissing]
      rfl

/-- A cell is the same whether it is taken at once or from its row. It is also the same if it is
taken from its column, unless it is missing in a row that is too short: then it is an error by
itself and blank in the column. -/
theorem index_eq_index_index (table row col : Value) (hrow : 1.0 ≤ row.toNumber)
    (hcol : 1.0 ≤ col.toNumber) :
    index [table, row, col] = index [index [table, row, allLines], firstLine, col] ∧
      (index [table, row, col] = index [index [table, allLines, col], row, firstLine] ↔
        ¬IsGap table.toRows (lineOf row) (lineOf col)) ∧
      (IsGap table.toRows (lineOf row) (lineOf col) →
        index [table, row, col] = .error .invalidReference ∧
          index [index [table, allLines, col], row, firstLine] = .empty) := by
  have hgap : IsGap table.toRows (lineOf row) (lineOf col) →
      index [table, row, col] = .error .invalidReference ∧
        index [index [table, allLines, col], row, firstLine] = .empty := by
    rintro ⟨hlength, hwidth, hmissing⟩
    rw [index_eq_cell table hrow hcol, index_index_left table hrow hcol,
      if_pos ⟨hlength, hwidth⟩, hmissing]
    exact ⟨rfl, rfl⟩
  refine ⟨(index_index_right table hrow hcol).symm, ⟨fun heq hmissing => ?_, fun hnone => ?_⟩, hgap⟩
  · obtain ⟨herror, hblank⟩ := hgap hmissing
    rw [herror, hblank] at heq
    cases heq
  · rw [index_eq_cell table hrow hcol, index_index_left table hrow hcol]
    by_cases hinside : lineOf row ≤ table.toRows.length ∧ lineOf col ≤ tableWidth table.toRows
    · rw [if_pos hinside]
      cases hcell : cellAt? table.toRows (lineOf row - 1) (lineOf col - 1) with
      | none => exact absurd ⟨hinside.1, hinside.2, hcell⟩ hnone
      | some v => rfl
    · have hpos := lineOf_pos hrow
      have hpos' := lineOf_pos hcol
      rw [if_neg hinside, cellAt?_of_outside (by omega)]
      rfl

/-- A table with a short row below a long one. -/
def shortBelowLong : List (List Value) :=
  [[.text "a", .text "b"], [.text "c"], [.text "d", .text "e"]]

/-- A row that is too short does not matter to the cells of other rows; the cell that it lacks is
blank in its column. -/
theorem index_eq_index_index_shortBelowLong :
    1.0 ≤ secondLine.toNumber ∧ 1.0 ≤ firstLine.toNumber ∧
      index [.array shortBelowLong, firstLine, secondLine] = .text "b" ∧
      index [index [.array shortBelowLong, firstLine, allLines], firstLine, secondLine] =
        .text "b" ∧
      index [index [.array shortBelowLong, allLines, secondLine], firstLine, firstLine] =
        .text "b" ∧
      IsGap shortBelowLong 2 2 ∧
      index [index [.array shortBelowLong, allLines, secondLine], secondLine, firstLine] =
        .empty := by
  have hrows : (Value.array shortBelowLong).toRows = shortBelowLong := rfl
  obtain ⟨hright, hleft, -⟩ := index_eq_index_index (.array shortBelowLong) firstLine secondLine
    one_le_firstLine one_le_secondLine
  have hcell : index [.array shortBelowLong, firstLine, secondLine] = .text "b" := by
    rw [index_eq_cell _ one_le_firstLine one_le_secondLine, lineOf_firstLine, lineOf_secondLine]
    rfl
  have hpresent : ¬IsGap shortBelowLong 1 2 := by
    rintro ⟨-, -, hmissing⟩
    cases hmissing
  rw [hrows, lineOf_firstLine, lineOf_secondLine] at hleft
  obtain ⟨-, -, hgap⟩ := index_eq_index_index (.array shortBelowLong) secondLine secondLine
    one_le_secondLine one_le_secondLine
  have hmissing : IsGap shortBelowLong 2 2 := ⟨by decide, by decide, rfl⟩
  rw [hrows, lineOf_secondLine] at hgap
  exact ⟨one_le_secondLine, one_le_firstLine, hcell, hright ▸ hcell, hleft.mpr hpresent ▸ hcell,
    hmissing, (hgap hmissing).2⟩

/-- A cell that is missing in a short row is not the same by itself and in its column. -/
theorem not_index_eq_index_index :
    lineOf secondLine = 2 ∧ 2 ≤ shortBelowLong.length ∧ 2 ≤ tableWidth shortBelowLong ∧
      index [.array shortBelowLong, secondLine, secondLine] = .error .invalidReference ∧
      index [index [.array shortBelowLong, allLines, secondLine], secondLine, firstLine] = .empty ∧
      index [.array shortBelowLong, secondLine, secondLine] ≠
        index [index [.array shortBelowLong, allLines, secondLine], secondLine, firstLine] := by
  have hrows : (Value.array shortBelowLong).toRows = shortBelowLong := rfl
  have hcell : index [.array shortBelowLong, secondLine, secondLine] =
      .error .invalidReference := by
    rw [index_eq_cell _ one_le_secondLine one_le_secondLine, lineOf_secondLine]
    rfl
  have hcolumn : index [index [.array shortBelowLong, allLines, secondLine], secondLine,
      firstLine] = .empty := by
    rw [index_index_left _ one_le_secondLine one_le_secondLine, lineOf_secondLine, hrows,
      if_pos (by decide)]
    rfl
  refine ⟨lineOf_secondLine, by decide, by decide, hcell, hcolumn, ?_⟩
  rw [hcell, hcolumn]
  nofun

end Spreadsheet.Function
