import Spreadsheet.Proofs.Function.Lookup

/-!
# Cells at found places

A place among the keys of a table is one of its rows, and the cell there can be taken in two ways:
by a lookup that finds the place and answers from it, or by finding the place first and taking the
cell at it. The main statement says that both come to the same where every row has a key.
-/

namespace Spreadsheet.Function

variable {target row col : Value} {rows : List (List Value)} {keys : List Value}

/-! ## Places of keys -/

/-- A place that is found is that of a key, or the best one so far. -/
theorem boundary_eq_some {passed : Ordering} {i place : Nat} {best : Option Nat}
    (h : boundary passed target i best keys = some place) :
    best = some place ∨ i ≤ place ∧ place < i + keys.length := by
  induction keys generalizing i best with
  | nil => exact .inl h
  | cons key keys ih =>
    rw [List.length_cons]
    unfold boundary at h
    split at h
    · rcases ih h with hbest | hplace
      · exact .inl hbest
      · right
        omega
    · split at h
      · exact .inl h
      · rcases ih h with hbest | hplace
        · obtain rfl := Option.some.inj hbest
          right
          omega
        · right
          omega

private theorem lt_length_of_findKey {approximate : Bool} {place : Nat}
    (h : findKey approximate target keys = some place) : place < keys.length := by
  unfold findKey at h
  split at h
  · rcases boundary_eq_some h with hbest | ⟨-, hlt⟩
    · cases hbest
    · rwa [Nat.zero_add] at hlt
  · exact (List.findIdx?_eq_some_iff_getElem.mp h).1

/-- The number of an order without and with keys in ascending order. -/
theorem toInt64_ofBool (approximate : Bool) :
    Number.toInt64 (Number.truncate (Value.ofBool approximate)) = if approximate then 1 else 0 := by
  cases approximate <;> decide +kernel

private theorem position_eq (approximate : Bool) (target : Value) (keys : List Value) :
    position (if approximate then 1 else 0) target keys =
      match findKey approximate target keys with
      | none => .error .notAvailable
      | some place => ofCount (place + 1) := by
  unfold position findKey
  cases approximate with
  | false =>
    simp only [Bool.false_eq_true, if_false, if_true]
    cases keys.findIdx? (matchesKey target) <;> rfl
  | true =>
    simp only [if_true, one_ne_zero, if_false]
    cases boundary .gt target 0 none keys <;> rfl

/-- The place of a key by equality or in ascending keys is what a lookup finds in its two modes. -/
theorem findMatch_eq (approximate : Bool) (target keys : Value) :
    findMatch [target, keys, .number (Value.ofBool approximate)] =
      match findKey approximate target (spread keys) with
      | none => .error .notAvailable
      | some place => ofCount (place + 1) := by
  have horder : numberAt [target, keys, .number (Value.ofBool approximate)] 2 1.0 =
      Value.ofBool approximate := rfl
  unfold findMatch
  dsimp only
  rw [horder, toInt64_ofBool, position_eq]

/-! ## Cells at places -/

/-- No row is longer than the table is wide. -/
theorem length_le_tableWidth {cells : List Value} (h : cells ∈ rows) :
    cells.length ≤ tableWidth rows := by
  rw [tableWidth, List.foldl_max]
  exact (List.le_max?_getD_of_mem (List.mem_map_of_mem h)).trans (le_max_right _ _)

/-- Right of the longest row there are no cells. -/
theorem cellAt?_of_tableWidth_le (row : Nat) {col : Nat} (h : tableWidth rows ≤ col) :
    cellAt? rows row col = none := by
  unfold cellAt?
  cases hcells : rows[row]? with
  | none => rfl
  | some cells =>
    rw [Option.bind_some, List.getElem?_eq_none_iff]
    exact (length_le_tableWidth (List.mem_of_getElem? hcells)).trans h

/-- The first column consists of the keys if every row has one. -/
theorem spread_firstColumn (h : ∀ cells ∈ rows, cells ≠ []) :
    spread (part rows 0 1) = rows.filterMap List.head? := by
  induction rows with
  | nil => rfl
  | cons cells rows ih =>
    obtain ⟨hcells, hrows⟩ := List.forall_mem_cons.mp h
    obtain ⟨key, rest, rfl⟩ := List.exists_cons_of_ne_nil hcells
    rw [List.filterMap_cons_some List.head?_cons, ← ih hrows]
    rfl

/-- A number that is at least one selects a line counted from one. -/
theorem lineOf_pos (hcol : 1.0 ≤ col.toNumber) : 0 < lineOf col :=
  Number.toCount_pos (Number.one_le_truncate hcol)

/-- The value can select a line or all lines: it counts as a number, and not as a negative one. -/
structure Selects (v : Value) : Prop where
  /-- The number is not negative. -/
  not_neg : ¬Number.truncate v.toNumber < 0.0
  /-- There is a number. -/
  isNaN_eq : (Number.truncate v.toNumber).isNaN = false

/-- A number that is at least one selects. -/
theorem selects_of_one_le (h : 1.0 ≤ col.toNumber) : Selects col := by
  obtain ⟨-, hneg, hnan⟩ := Number.not_lt_of_one_le (Number.one_le_truncate h)
  exact ⟨hneg, hnan⟩

/-- The part of a table at two lines, none of which lies outside. -/
theorem index_eq_part (table : Value) (hrow : Selects row) (hcol : Selects col) :
    index [table, row, col] =
      if table.toRows.length < lineOf row ∨ tableWidth table.toRows < lineOf col then
        .error .invalidReference
      else part table.toRows (lineOf row) (lineOf col) := by
  have hselectors : selectors table.toRows [table, row, col] =
      (Number.truncate row.toNumber, Number.truncate col.toNumber) := rfl
  unfold index
  simp only [hselectors, hrow.not_neg, hrow.isNaN_eq, hcol.not_neg, hcol.isNaN_eq, decide_false,
    Bool.or_self, Bool.false_eq_true, if_false, Bool.or_eq_true, decide_eq_true_eq]
  rfl

/-- The cell of a table at a row and a column that are given by numbers. -/
theorem index_eq_answerFrom {row : Nat} (hpos : 0 < row) (hle : row ≤ rows.length)
    (hlt : row < 2 ^ 53) (hcol : 1.0 ≤ col.toNumber) :
    index [.array rows, .number row.toFloat, col] =
      answerFrom rows (lineOf col) (some (row - 1)) := by
  have hrow : Selects (.number row.toFloat) := selects_of_one_le (Number.one_le_toFloat hpos hlt)
  rw [index_eq_part (.array rows) hrow (selects_of_one_le hcol), lineOf_toFloat hpos hlt]
  obtain ⟨row, rfl⟩ := Nat.exists_eq_succ_of_ne_zero (Nat.ne_of_gt hpos)
  obtain ⟨selected, hselected⟩ := Nat.exists_eq_succ_of_ne_zero (Nat.ne_of_gt (lineOf_pos hcol))
  rw [hselected]
  split
  · rename_i houtside
    have hwidth : tableWidth rows ≤ selected :=
      Nat.le_of_lt_succ (houtside.resolve_left (Nat.not_lt_of_le hle))
    rw [answerFrom, Nat.succ_sub_one, Nat.succ_sub_one, cellAt?_of_tableWidth_le row hwidth]
    rfl
  · rfl

/-- In a table whose rows all have cells, the place of a key among the first cells leads to the cell
that a lookup by row in the same mode answers with. Doubles tell the places of up to `2 ^ 53` rows
apart, which are more than fit into memory. -/
theorem lookUpRow_eq_index_findMatch (target col : Value) (rest : List Value)
    (hrows : ∀ cells ∈ rows, cells ≠ []) (hcol : 1.0 ≤ col.toNumber) :
    let args := target :: .array rows :: col :: rest
    let place := findMatch [target, part rows 0 1, .number (Value.ofBool (isApproximate args))]
    (∀ p, place = .number p → rows.length < 2 ^ 53 →
        lookUpRow args = index [.array rows, .number p, col]) ∧
      (place = .error .notAvailable → lookUpRow args = .error .notAvailable) ∧
        ((∃ p, place = .number p) ∨ place = .error .notAvailable) := by
  intro args place
  have hanswer : lookUpRow args = answerFrom rows (lineOf col)
      (findKey (isApproximate args) target (rows.filterMap List.head?)) :=
    lookUpRow_eq target (.array rows) rest hcol
  have hplace : place = match findKey (isApproximate args) target (rows.filterMap List.head?) with
      | none => .error .notAvailable
      | some place => ofCount (place + 1) := by
    rw [← spread_firstColumn hrows]
    exact findMatch_eq (isApproximate args) target (part rows 0 1)
  rw [hanswer, hplace]
  cases hfound : findKey (isApproximate args) target (rows.filterMap List.head?) with
  | none =>
    refine ⟨?_, fun _ => rfl, .inr rfl⟩
    rintro p ⟨⟩
  | some found =>
    refine ⟨fun p hp hlength => ?_, ?_, .inl ⟨_, rfl⟩⟩
    · have hlt : found < rows.length :=
        (lt_length_of_findKey hfound).trans_le (List.length_filterMap_le _ _)
      have hcount : min (found + 1) countLimit = found + 1 := by
        have hlimit : countLimit = 2 ^ 64 - 1 := rfl
        omega
      obtain rfl : (found + 1).toFloat = p := by
        rw [← hcount]
        exact Value.number.inj hp
      rw [index_eq_answerFrom (Nat.succ_pos found) hlt (by omega) hcol, Nat.succ_sub_one]
    · rintro ⟨⟩

/-- A table whose keys ascend. -/
def ascendingRows : List (List Value) :=
  [[.text "a", .text "p"], [.text "b", .text "q"], [.text "d", .text "s"]]

/-- Among ascending keys the last one that has not passed the target is found, and among the same
keys by equality there may be none. -/
theorem lookUpRow_eq_index_findMatch_ascending :
    (∀ cells ∈ ascendingRows, cells ≠ []) ∧ 1.0 ≤ secondLine.toNumber ∧
      ascendingRows.length < 2 ^ 53 ∧
        findMatch [.text "c", part ascendingRows 0 1, .number 1.0] = ofCount 2 ∧
          lookUpRow [.text "c", .array ascendingRows, secondLine] =
            index [.array ascendingRows, ofCount 2, secondLine] ∧
        findMatch [.text "c", part ascendingRows 0 1, .number 0.0] = .error .notAvailable ∧
          lookUpRow [.text "c", .array ascendingRows, secondLine, .boolean false] =
            .error .notAvailable := by
  have hrows : ∀ cells ∈ ascendingRows, cells ≠ [] := by simp [ascendingRows]
  have hlength : ascendingRows.length < 2 ^ 53 := by simp [ascendingRows]
  have hfirst : findKey true (.text "c") (spread (part ascendingRows 0 1)) = some 1 := by decide
  have habsent : findKey false (.text "c") (spread (part ascendingRows 0 1)) = none := by decide
  have hplace : findMatch [.text "c", part ascendingRows 0 1, .number 1.0] = ofCount 2 := by
    have h := findMatch_eq true (.text "c") (part ascendingRows 0 1)
    rwa [hfirst] at h
  have hnowhere :
      findMatch [.text "c", part ascendingRows 0 1, .number 0.0] = .error .notAvailable := by
    have h := findMatch_eq false (.text "c") (part ascendingRows 0 1)
    rwa [habsent] at h
  obtain ⟨hfound, -⟩ :=
    lookUpRow_eq_index_findMatch (.text "c") secondLine [] hrows one_le_secondLine
  obtain ⟨-, hmissing, -⟩ :=
    lookUpRow_eq_index_findMatch (.text "c") secondLine [.boolean false] hrows one_le_secondLine
  exact ⟨hrows, one_le_secondLine, hlength, hplace, hfound _ hplace hlength, hnowhere,
    hmissing hnowhere⟩

end Spreadsheet.Function
