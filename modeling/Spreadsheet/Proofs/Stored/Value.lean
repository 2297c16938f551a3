import Spreadsheet.Proofs.Json.RoundTrip
import Spreadsheet.Stored.Value

/-!
# Values read back from their stored form

The stored form of a value is read back as the value exactly if all numbers in it are finite and it
is not nested too deeply: what is not finite has no stored form, and deep tables are refused.
-/

namespace Spreadsheet

open Json (ReadsBack)

/-! ## Reading in a row -/

/-- Things of which each is read back or refused are all read back or refused together. -/
theorem mapM_map_eq_ite {α β : Type} {store : α → β} {read : β → Option α} {good : α → Bool}
    {as : List α} (h : ∀ a ∈ as, read (store a) = if good a then some a else none) :
    (as.map store).mapM read = if as.all good then some as else none := by
  induction as with
  | nil => rfl
  | cons a as ih =>
    have hhead := h a List.mem_cons_self
    have htail := ih fun b hb => h b (List.mem_cons_of_mem a hb)
    rw [List.map_cons, List.mapM_cons, hhead, htail, List.all_cons]
    cases good a <;> cases as.all good <;> rfl

/-- Reading goes on behind something that is read back. -/
theorem bind_ite {α β : Type} (good : Bool) (a : α) (read : α → Option β) :
    ((if good then some a else none) >>= read) = if good then read a else none := by
  cases good <;> rfl

/-- What is read in two steps is read back if both are good. -/
theorem ite_ite_none {β : Type} (good good' : Bool) (b? : Option β) :
    (if good then if good' then b? else none else none) = if good && good' then b? else none := by
  cases good <;> rfl

namespace Json

variable {levels : Nat}

/-- A text fits anywhere. -/
@[simp] theorem fits_text (s : String) : fits levels (.text s) = true := by
  cases levels <;> rfl

/-- A truth value fits anywhere. -/
@[simp] theorem fits_boolean (b : Bool) : fits levels (.boolean b) = true := by
  cases levels <;> rfl

/-- A double fits anywhere. -/
@[simp] theorem fits_decimal (x : Float) : fits levels (.decimal x) = true := by
  cases levels <;> rfl

/-- A whole number fits anywhere. -/
@[simp] theorem fits_integer (n : Int) : fits levels (.integer n) = true := by
  cases levels <;> rfl

/-- An array needs a level. -/
@[simp] theorem fits_zero_array (items : List Json) : fits 0 (.array items) = false := rfl

/-- An object needs a level. -/
@[simp] theorem fits_zero_object (members : List (String × Json)) :
    fits 0 (.object members) = false := rfl

/-- An array fits if its items fit on the levels below. -/
@[simp] theorem fits_array (items : List Json) :
    fits (levels + 1) (.array items) = items.all (fits levels) := rfl

/-- An object fits if the values of its members fit on the levels below. -/
@[simp] theorem fits_object (members : List (String × Json)) :
    fits (levels + 1) (.object members) = members.all fun member => fits levels member.2 := rfl

end Json

/-! ## Errors -/

namespace CellError

variable {levels : Nat}

/-- An error is written without numbers. -/
theorem asWritten_toJson (e : CellError) : e.toJson.asWritten = e.toJson := by
  cases e <;> simp [toJson, Json.asWritten]

/-- An error has no numbers to lose. -/
theorem keepsNumbers_toJson (e : CellError) : e.toJson.KeepsNumbers := by
  cases e <;> simp [toJson, Json.KeepsNumbers]

/-- An error is read back if it fits. -/
theorem ofJson?_toJson (levels : Nat) (e : CellError) :
    ofJson? levels .text e.toJson = if e.toJson.fits levels then some e else none := by
  cases e with
  | invalidName s | aborted s =>
    cases levels with
    | zero => rfl
    | succ levels => simp [toJson, ofJson?, Json.variant?]
  | _ =>
    rw [toJson, Json.fits_text, if_pos rfl]
    rfl

end CellError

/-! ## Values -/

namespace Value

mutual
/-- The numbers in a value, at whatever depth. -/
def numbers : Value → List Float
  | .number x => [x]
  | .array rows => numbersOfRows rows
  | _ => []

/-- The numbers in the rows of a table. -/
def numbersOfRows : List (List Value) → List Float
  | [] => []
  | row :: rows => numbersOfRow row ++ numbersOfRows rows

/-- The numbers in a row. -/
def numbersOfRow : List Value → List Float
  | [] => []
  | v :: row => v.numbers ++ numbersOfRow row
end

/-- All numbers in a value are finite. -/
def isFinite (v : Value) : Bool :=
  v.numbers.all Float.isFinite

private theorem rowToJson_eq_map (row : List Value) : rowToJson row = row.map toJson := by
  induction row with
  | nil => rfl
  | cons v row ih => rw [rowToJson, ih, List.map_cons]

private theorem rowsToJson_eq_map (rows : List (List Value)) :
    rowsToJson rows = rows.map fun row => .array (row.map toJson) := by
  induction rows with
  | nil => rfl
  | cons row rows ih => rw [rowsToJson, ih, rowToJson_eq_map, List.map_cons]

private theorem numbersOfRow_eq_flatMap (row : List Value) :
    numbersOfRow row = row.flatMap numbers := by
  induction row with
  | nil => rfl
  | cons v row ih => rw [numbersOfRow, ih, List.flatMap_cons]

private theorem numbersOfRows_eq_flatMap (rows : List (List Value)) :
    numbersOfRows rows = rows.flatMap fun row => row.flatMap numbers := by
  induction rows with
  | nil => rfl
  | cons row rows ih => rw [numbersOfRows, ih, numbersOfRow_eq_flatMap, List.flatMap_cons]

/-- An array is finite if all of its values are. -/
theorem isFinite_array (rows : List (List Value)) :
    (Value.array rows).isFinite = rows.all fun row => row.all isFinite := by
  rw [isFinite, numbers, numbersOfRows_eq_flatMap]
  simp only [List.all_flatMap]
  rfl

mutual
/-- The stored form of a value keeps the numbers of the value. -/
theorem keepsNumbers_toJson : (v : Value) →
    (∀ x ∈ v.numbers, x.isFinite = true → ReadsBack x) → v.toJson.KeepsNumbers
  | .empty, _ => by simp [toJson, Json.KeepsNumbers]
  | .number x, h => by
    simpa [toJson, tagged, Json.KeepsNumbers] using h x List.mem_cons_self
  | .text s, _ => by simp [toJson, tagged, Json.KeepsNumbers]
  | .boolean b, _ => by simp [toJson, tagged, Json.KeepsNumbers]
  | .array rows, h => by
    simpa [toJson, tagged, Json.KeepsNumbers] using keepsNumbers_rowsToJson rows h
  | .error e, _ => by
    simpa [toJson, tagged, Json.KeepsNumbers] using e.keepsNumbers_toJson

private theorem keepsNumbers_rowsToJson : (rows : List (List Value)) →
    (∀ x ∈ numbersOfRows rows, x.isFinite = true → ReadsBack x) →
      ∀ item ∈ rowsToJson rows, item.KeepsNumbers
  | [], _ => List.forall_mem_nil _
  | row :: rows, h => by
    rw [rowsToJson, List.forall_mem_cons, Json.KeepsNumbers]
    exact ⟨keepsNumbers_rowToJson row fun x hx => h x (List.mem_append_left _ hx),
      keepsNumbers_rowsToJson rows fun x hx => h x (List.mem_append_right _ hx)⟩

private theorem keepsNumbers_rowToJson : (row : List Value) →
    (∀ x ∈ numbersOfRow row, x.isFinite = true → ReadsBack x) →
      ∀ item ∈ rowToJson row, item.KeepsNumbers
  | [], _ => List.forall_mem_nil _
  | v :: row, h => by
    rw [rowToJson, List.forall_mem_cons]
    exact ⟨keepsNumbers_toJson v fun x hx => h x (List.mem_append_left _ hx),
      keepsNumbers_rowToJson row fun x hx => h x (List.mem_append_right _ hx)⟩
end

private theorem asWritten_tagged (type : String) (content : Json) :
    (tagged type content).asWritten = tagged type content.asWritten := by
  simp [tagged, Json.asWritten]

/-- The type of a stored value comes first. -/
theorem parts?_tagged (levels : Nat) (type : String) (content : Json) :
    parts? levels .text (tagged type content) = some ⟨type, some content, .text⟩ := by
  have hfields : (tagged type content).fields? ["type", "value"] =
      some [some (.text type), some content] := rfl
  unfold parts? tagged
  dsimp only
  rw [← tagged, hfields]
  rfl

/-- A value that is no table is read from its content. -/
theorem ofJson?_tagged_scalar {type : String} (h : type ≠ "Array") (levels : Nat)
    (content : Json) :
    ofJson? (levels + 1) .text (tagged type content) =
      ofScalar? levels ⟨type, some content, .text⟩ := by
  rw [ofJson?, parts?_tagged]
  dsimp only [Option.bind_eq_bind, Option.bind_some]
  split
  · exact absurd rfl h
  · rfl

/-- A table is read row by row, if there are levels left for the rows. -/
theorem ofJson?_tagged_array (levels : Nat) (rows : List Json) :
    ofJson? (levels + 3) .text (tagged "Array" (.array rows)) =
      (rowsOfJson? (ofJson? levels .text) rows).map Value.array := by
  rw [ofJson?, parts?_tagged]
  rfl

/-- The rows of a table are read back if all values in them are. -/
theorem rowsOfJson?_map {store : Value → Json} {read : Json → Option Value} {good : Value → Bool}
    {rows : List (List Value)}
    (h : ∀ row ∈ rows, ∀ v ∈ row, read (store v) = if good v then some v else none) :
    rowsOfJson? read (rows.map fun row => .array (row.map store)) =
      if rows.all fun row => row.all good then some rows else none :=
  mapM_map_eq_ite fun row hrow => mapM_map_eq_ite (h row hrow)

private theorem asWritten_array (rows : List (List Value)) :
    (Value.array rows).toJson.asWritten =
      tagged "Array"
        (.array (rows.map fun row => .array (row.map fun v => v.toJson.asWritten))) := by
  rw [toJson, asWritten_tagged, rowsToJson_eq_map]
  simp [Json.asWritten, Function.comp_def]

/-- A table without room for its rows is read back if there are none. -/
theorem ofJson?_tagged_array_of_lt {levels : Nat} (hlevels : levels < 2) (rows : List Json) :
    ofJson? (levels + 1) .text (tagged "Array" (.array rows)) =
      if levels = 1 ∧ rows = [] then some (.array []) else none := by
  rw [ofJson?, parts?_tagged]
  obtain rfl | rfl : levels = 0 ∨ levels = 1 := by omega
  · rfl
  · cases rows <;> rfl

/-- A table is read back if the values in it are and there is room for its rows. -/
theorem ofJson?_array {levels : Nat} (ih : ∀ k < levels + 1, ∀ v : Value,
    ofJson? k .text v.toJson.asWritten = if v.isFinite && v.toJson.fits k then some v else none)
    (rows : List (List Value)) :
    ofJson? (levels + 1) .text (Value.array rows).toJson.asWritten =
      if (Value.array rows).isFinite && (Value.array rows).toJson.fits (levels + 1) then
        some (.array rows) else none := by
  have hfits : (Value.array rows).toJson.fits (levels + 1) =
      Json.fits levels (.array (rows.map fun row => .array (row.map toJson))) := by
    rw [toJson, rowsToJson_eq_map]
    simp [tagged]
  rw [asWritten_array, isFinite_array, hfits]
  by_cases hlevels : levels < 2
  · rw [ofJson?_tagged_array_of_lt hlevels]
    obtain rfl | rfl : levels = 0 ∨ levels = 1 := by omega
    · simp
    · cases rows <;> simp
  · obtain ⟨levels, rfl⟩ : ∃ k, levels = k + 2 := ⟨levels - 2, by omega⟩
    have hall : (rows.all fun row => row.all fun v => v.isFinite && v.toJson.fits levels) =
        ((rows.all fun row => row.all isFinite) && Json.fits (levels + 2)
          (.array (rows.map fun row => .array (row.map toJson)))) := by
      rw [Bool.eq_iff_iff]
      simp [forall_and]
    rw [ofJson?_tagged_array, rowsOfJson?_map fun row _ v _ => ih levels (by omega) v, hall]
    split <;> rfl

/-- A value is read back if its numbers are finite and it is not nested too deeply. -/
theorem ofJson?_toJson (levels : Nat) (v : Value) :
    ofJson? levels .text v.toJson.asWritten =
      if v.isFinite && v.toJson.fits levels then some v else none := by
  induction levels using Nat.strongRecOn generalizing v with
  | _ levels ih =>
    cases levels with
    | zero =>
      have hfits : v.toJson.fits 0 = false := by cases v <;> rfl
      rw [hfits, Bool.and_false]
      rfl
    | succ levels =>
      cases v with
      | empty =>
        have hread : ofJson? (levels + 1) .text (.object [("type", .text "Empty")]) =
            some .empty := by
          rw [ofJson?]
          rfl
        simp [toJson, Json.asWritten, isFinite, numbers, hread]
      | number x =>
        rw [toJson, asWritten_tagged, ofJson?_tagged_scalar (by decide)]
        by_cases hfinite : x.isFinite = true <;>
          simp [Json.asWritten, hfinite, isFinite, numbers, tagged, ofScalar?, Json.toNumber?]
      | text s =>
        rw [toJson, asWritten_tagged, ofJson?_tagged_scalar (by decide)]
        simp [Json.asWritten, isFinite, numbers, tagged, ofScalar?, Json.toText?]
      | boolean b =>
        rw [toJson, asWritten_tagged, ofJson?_tagged_scalar (by decide)]
        simp [Json.asWritten, isFinite, numbers, tagged, ofScalar?, Json.toBoolean?]
      | error e =>
        rw [toJson, asWritten_tagged, ofJson?_tagged_scalar (by decide), e.asWritten_toJson]
        simp [isFinite, numbers, tagged, ofScalar?, e.ofJson?_toJson]
      | array rows => exact ofJson?_array ih rows

end Value

end Spreadsheet
