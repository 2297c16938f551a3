import Spreadsheet.Address.Range
import Spreadsheet.Proofs.Address.Column

/-!
# Cells of a range

Two opposite corners, in whatever order they are given, have the cells between them listed row by
row, none of them twice. Their rows and columns are counted without leaving the words that hold
rows and columns.
-/

namespace Spreadsheet

/-- The cell comes before the other one row by row. -/
def CellAddress.Precedes (c d : CellAddress) : Prop :=
  c.row < d.row ∨ c.row = d.row ∧ c.col < d.col

/-- The row and the column of the cell lie between those of two others, each counted from whichever
of the two comes first. -/
structure CellAddress.Between (c a b : CellAddress) : Prop where
  /-- The row lies between the two rows. -/
  row : a.row ≤ c.row ∧ c.row ≤ b.row ∨ b.row ≤ c.row ∧ c.row ≤ a.row
  /-- The column lies between the two columns. -/
  col : a.col ≤ c.col ∧ c.col ≤ b.col ∨ b.col ≤ c.col ∧ c.col ≤ a.col

namespace CellRange

variable {a b c : CellAddress} {range : CellRange} {n : Nat}

/-- The number of places from the first one to the last one; the difference and the sum are held in
words. -/
def extent? (first last : Nat) : Option Nat :=
  if first ≤ last then
    (Column.held? (last - first)).bind fun difference => Column.held? (difference + 1)
  else none

/-- The cells of the range are those between two corners, row by row, and they can be counted. -/
structure Enumerates (range : CellRange) (a b : CellAddress) : Prop where
  /-- A cell is listed if it lies between the corners. -/
  mem_iff : ∀ c, c ∈ range.cells ↔ c.Between a b
  /-- Every cell comes before those that are listed behind it. -/
  increasing : range.cells.Pairwise CellAddress.Precedes
  /-- No cell is listed twice. -/
  nodup : range.cells.Nodup
  /-- There are as many cells as rows times columns. -/
  length_eq : range.cells.length = range.height * range.width
  /-- The rows are counted in words. -/
  height_eq : extent? range.first.row range.last.row = some range.height
  /-- The columns are counted in words. -/
  width_eq : extent? range.first.col range.last.col = some range.width

/-- The first row and the first column are not behind the last ones. -/
structure Ordered (range : CellRange) : Prop where
  /-- The rows are in order. -/
  row_le : range.first.row ≤ range.last.row
  /-- The columns are in order. -/
  col_le : range.first.col ≤ range.last.col

/-- Corners are put in order. -/
theorem ordered_ofCorners (a b : CellAddress) : (ofCorners a b).Ordered :=
  ⟨min_le_max, min_le_max⟩

/-! ## Rows and columns -/

private theorem Ordered.mem_rows_iff (h : range.Ordered) :
    n ∈ range.rows ↔ range.first.row ≤ n ∧ n ≤ range.last.row := by
  have hrow := h.row_le
  rw [rows, List.mem_range'_1, height]
  omega

private theorem Ordered.mem_cols_iff (h : range.Ordered) :
    n ∈ range.cols ↔ range.first.col ≤ n ∧ n ≤ range.last.col := by
  have hcol := h.col_le
  rw [cols, List.mem_range'_1, width]
  omega

/-- There are as many rows as the range is high. -/
@[simp] theorem length_rows (range : CellRange) : range.rows.length = range.height :=
  List.length_range'

/-- There are as many columns as the range is wide. -/
@[simp] theorem length_cols (range : CellRange) : range.cols.length = range.width :=
  List.length_range'

/-- Places that are counted from one on are counted in words. -/
theorem extent?_eq_some {first last : Nat} (hpos : 1 ≤ first) (hle : first ≤ last)
    (hlimit : last ≤ axisLimit) : extent? first last = some (last - first + 1) := by
  rw [extent?, if_pos hle, Option.bind_eq_some_iff]
  exact ⟨last - first, Column.held?_eq_some_iff.mpr ⟨rfl, by omega⟩,
    Column.held?_eq_some_iff.mpr ⟨rfl, by omega⟩⟩

/-- The rows and columns of a range are counted in words, given that its corners exist. -/
theorem extent?_ofCorners (ha : a.InRange) (hb : b.InRange) :
    extent? (ofCorners a b).first.row (ofCorners a b).last.row = some (ofCorners a b).height ∧
      extent? (ofCorners a b).first.col (ofCorners a b).last.col =
        some (ofCorners a b).width := by
  obtain ⟨hrow, hcol⟩ := ordered_ofCorners a b
  exact ⟨extent?_eq_some (le_min ha.row_pos hb.row_pos) hrow (max_le ha.row_le hb.row_le),
    extent?_eq_some (le_min ha.col_pos hb.col_pos) hcol (max_le ha.col_le hb.col_le)⟩

/-! ## Cells -/

/-- A cell is listed if its row and its column are. -/
theorem mem_cells_iff : c ∈ range.cells ↔ c.row ∈ range.rows ∧ c.col ∈ range.cols := by
  rw [cells, List.mem_flatMap]
  constructor
  · rintro ⟨row, hrow, hcell⟩
    obtain ⟨col, hcol, rfl⟩ := List.mem_map.mp hcell
    exact ⟨hrow, hcol⟩
  · rintro ⟨hrow, hcol⟩
    exact ⟨c.row, hrow, List.mem_map.mpr ⟨c.col, hcol, rfl⟩⟩

/-- No range is empty. -/
theorem first_mem_cells (range : CellRange) : range.first ∈ range.cells :=
  mem_cells_iff.mpr
    ⟨List.mem_range'_1.mpr ⟨Nat.le_refl _, Nat.lt_add_of_pos_right (Nat.succ_pos _)⟩,
      List.mem_range'_1.mpr ⟨Nat.le_refl _, Nat.lt_add_of_pos_right (Nat.succ_pos _)⟩⟩

/-- The cells of a range are those that lie between its corners. -/
theorem mem_cells_ofCorners_iff : c ∈ (ofCorners a b).cells ↔ c.Between a b := by
  have hordered := ordered_ofCorners a b
  rw [mem_cells_iff, hordered.mem_rows_iff, hordered.mem_cols_iff]
  dsimp only [ofCorners]
  constructor
  · rintro ⟨hrow, hcol⟩
    exact ⟨by omega, by omega⟩
  · rintro ⟨hrow, hcol⟩
    exact ⟨by omega, by omega⟩

/-- The cells between two cells that exist do exist. -/
theorem inRange_of_mem_cells (ha : a.InRange) (hb : b.InRange)
    (hc : c ∈ (ofCorners a b).cells) : c.InRange := by
  obtain ⟨hrow, hcol⟩ := mem_cells_ofCorners_iff.mp hc
  obtain ⟨ha₁, ha₂, ha₃, ha₄⟩ := ha
  obtain ⟨hb₁, hb₂, hb₃, hb₄⟩ := hb
  constructor <;> omega

/-- The cells of a range are listed row by row, and from left to right in each row. -/
theorem pairwise_precedes_cells (range : CellRange) :
    range.cells.Pairwise CellAddress.Precedes := by
  rw [cells, List.pairwise_flatMap]
  constructor
  · intro row _
    rw [List.pairwise_map]
    exact (List.pairwise_lt_range' 1).imp fun hlt => .inr ⟨rfl, hlt⟩
  · refine (List.pairwise_lt_range' 1).imp fun hlt => ?_
    intro c hc d hd
    obtain ⟨_, -, rfl⟩ := List.mem_map.mp hc
    obtain ⟨_, -, rfl⟩ := List.mem_map.mp hd
    exact .inl hlt

/-- No cell is listed twice. -/
theorem nodup_cells (range : CellRange) : range.cells.Nodup := by
  refine range.pairwise_precedes_cells.imp fun {c d} hprecedes heq => ?_
  subst heq
  rcases hprecedes with hrow | ⟨-, hcol⟩
  · exact Nat.lt_irrefl _ hrow
  · exact Nat.lt_irrefl _ hcol

/-- There are as many cells as rows times columns. -/
theorem length_cells (range : CellRange) :
    range.cells.length = range.height * range.width := by
  simp only [cells, List.length_flatMap, List.length_map, length_cols, List.map_const',
    List.sum_replicate_nat, length_rows]

/-- Two corners that exist, in whatever order they are given, have the cells between them listed. -/
theorem enumerates_ofCorners (ha : a.InRange) (hb : b.InRange) :
    (ofCorners a b).Enumerates a b :=
  have ⟨hheight, hwidth⟩ := extent?_ofCorners ha hb
  ⟨fun _ => mem_cells_ofCorners_iff, pairwise_precedes_cells _, nodup_cells _, length_cells _,
    hheight, hwidth⟩

end CellRange

end Spreadsheet
