import Spreadsheet.Proofs.Address.Text
import Spreadsheet.Proofs.Stored.Value
import Spreadsheet.Stored.Cell

/-!
# Records read back from their stored form

The edges of a record are stored as the texts of their cells, and fields with nothing in them are
left out. A record whose edges lead to cells that exist is read back exactly if its value is, if no
edge leads to a sheet without a name, and if all of it fits into the levels that are left.
-/

namespace Spreadsheet

open Json (ReadsBack)

/-- The set of the cells that are listed of a set is the set. -/
theorem ofList_toList (cells : AddressSet) : Std.ExtTreeSet.ofList cells.toList = cells := by
  refine Std.ExtTreeSet.ext_mem fun a => ?_
  rw [Std.ExtTreeSet.mem_ofList, List.contains_iff_mem, Std.ExtTreeSet.mem_toList]

/-! ## Edges -/

section Edges

variable {cells : AddressSet}

/-- The sheet of an edge has a name. -/
def QualifiedAddress.isNamed (a : QualifiedAddress) : Bool :=
  !a.sheet.isEmpty

/-- An edge to a cell that exists is read back if its sheet has a name. -/
theorem addressOfJson?_text {a : QualifiedAddress} (h : a.cell.InRange) :
    addressOfJson? (.text a.text) = if a.isNamed then some a else none := by
  have hread : addressOfJson? (.text a.text) = (QualifiedAddress.ofText a.text).toOption := rfl
  rw [hread, QualifiedAddress.toOption_ofText_text h, QualifiedAddress.isNamed]
  by_cases hsheet : a.sheet = "" <;> simp [hsheet]

private theorem asWritten_addressesToJson (cells : AddressSet) :
    (addressesToJson cells).asWritten = addressesToJson cells := by
  simp [addressesToJson, Json.asWritten]

private theorem keepsNumbers_addressesToJson (cells : AddressSet) :
    (addressesToJson cells).KeepsNumbers := by
  simp [addressesToJson, Json.KeepsNumbers]

private theorem fits_addressesToJson (levels : Nat) (cells : AddressSet) :
    (addressesToJson cells).fits levels = (levels != 0) := by
  cases levels <;> simp [addressesToJson]

/-- Edges are read back if all their sheets have names. -/
theorem addressesOfJson?_addressesToJson (levels : Nat) (h : ∀ a ∈ cells, a.cell.InRange) :
    addressesOfJson? levels (some (addressesToJson cells)) =
      if cells.toList.all QualifiedAddress.isNamed && (addressesToJson cells).fits levels then
        some cells else none := by
  have hread : (cells.toList.map fun a => Json.text a.text).mapM addressOfJson? =
      if cells.toList.all QualifiedAddress.isNamed then some cells.toList else none := by
    apply mapM_map_eq_ite
    intro a ha
    exact addressOfJson?_text (h a (Std.ExtTreeSet.mem_toList.mp ha))
  rw [fits_addressesToJson, addressesToJson, addressesOfJson?, hread]
  cases levels with
  | zero => simp
  | succ levels =>
    cases cells.toList.all QualifiedAddress.isNamed
    · rfl
    · simp [ofList_toList]

/-- A set of cells as a field. -/
def edgesOption (cells : AddressSet) : Option Json :=
  if cells.isEmpty then none else some (addressesToJson cells)

/-- Edges are read back from their field, which is left out if there are none. -/
theorem addressesOfJson?_edgesOption (levels : Nat) (h : ∀ a ∈ cells, a.cell.InRange) :
    addressesOfJson? levels (edgesOption cells) =
      if cells.toList.all QualifiedAddress.isNamed && (edgesOption cells).all (Json.fits levels)
      then some cells else none := by
  unfold edgesOption
  split
  · next hempty =>
    obtain rfl := Std.ExtTreeSet.isEmpty_iff.mp hempty
    rfl
  · exact addressesOfJson?_addressesToJson levels h

end Edges

/-! ## Fields that may be missing -/

/-- A field that may be missing is read back if what is in it is. -/
theorem optional?_map {α : Type} {store : α → Json} {read : Json → Option α} {good : α → Bool}
    (hnull : ∀ a, store a ≠ .null) (h : ∀ a, read (store a) = if good a then some a else none)
    (a? : Option α) :
    Json.optional? read (a?.map store) = if a?.all good then some a? else none := by
  cases a? with
  | none => rfl
  | some a =>
    have hread : Json.optional? read (some (store a)) = (read (store a)).map some := by
      unfold Json.optional?
      split
      · next heq => cases heq
      · next heq => exact absurd (Option.some.inj heq) (hnull a)
      · next heq => rw [Option.some.inj heq]
    rw [Option.map_some, hread, h, Option.all_some]
    split <;> rfl

/-! ## Records -/

namespace Cell

/-- The cells at the other ends of the edges of a record. -/
def edges (c : Cell) : List QualifiedAddress :=
  c.dependencies.toList ++ c.dependents.toList

private theorem edgesField_eq (name : String) (cells : AddressSet) :
    edgesField name cells = (edgesOption cells).toList.map fun json => (name, json) := by
  unfold edgesField edgesOption
  split <;> rfl

/-- The fields of a record, some of which may be missing. -/
def members (value : Json) (formula error dependencies dependents : Option Json) :
    List (String × Json) :=
  ("value", value) ::
    (formula.toList.map fun json => ("formula", json)) ++
    (error.toList.map fun json => ("error", json)) ++
    (dependencies.toList.map fun json => ("dependencies", json)) ++
    (dependents.toList.map fun json => ("dependents", json))

private theorem fields?_members (value : Json)
    (formula error dependencies dependents : Option Json) :
    (Json.object (members value formula error dependencies dependents)).fields? fieldNames =
      some [some value, formula, error, dependencies, dependents] := by
  cases formula <;> cases error <;> cases dependencies <;> cases dependents <;> rfl

/-- A cell is stored as its members, where edges are left out that it does not have. -/
theorem toJson_eq (c : Cell) : c.toJson = .object (members c.value.toJson
    (c.formula.map Json.text) (c.error.map CellError.toJson) (edgesOption c.dependencies)
      (edgesOption c.dependents)) := by
  rw [toJson, edgesField_eq, edgesField_eq, members]
  cases c.formula <;> cases c.error <;> rfl

private theorem asWritten_members (value : Json)
    (formula error dependencies dependents : Option Json) :
    (Json.object (members value formula error dependencies dependents)).asWritten =
      .object (members value.asWritten (formula.map Json.asWritten) (error.map Json.asWritten)
        (dependencies.map Json.asWritten) (dependents.map Json.asWritten)) := by
  rw [Json.asWritten]
  cases formula <;> cases error <;> cases dependencies <;> cases dependents <;> rfl

/-- The written form of a cell is that of its value with the other members unchanged. -/
theorem asWritten_toJson (c : Cell) : c.toJson.asWritten =
    .object (members c.value.toJson.asWritten (c.formula.map Json.text)
      (c.error.map CellError.toJson) (edgesOption c.dependencies) (edgesOption c.dependents)) := by
  have hedges : ∀ cells, (edgesOption cells).map Json.asWritten = edgesOption cells := by
    intro cells
    unfold edgesOption
    split
    · rfl
    · rw [Option.map_some, asWritten_addressesToJson]
  have htext : Json.asWritten ∘ Json.text = Json.text := by
    funext s
    simp [Json.asWritten]
  have herror : Json.asWritten ∘ CellError.toJson = CellError.toJson :=
    funext CellError.asWritten_toJson
  rw [toJson_eq, asWritten_members, hedges, hedges, Option.map_map, Option.map_map, htext, herror]

private theorem fits_members (levels : Nat) (value : Json)
    (formula error dependencies dependents : Option Json) :
    (Json.object (members value formula error dependencies dependents)).fits (levels + 1) =
      (value.fits levels && formula.all (Json.fits levels) && error.all (Json.fits levels) &&
        dependencies.all (Json.fits levels) && dependents.all (Json.fits levels)) := by
  cases formula <;> cases error <;> cases dependencies <;> cases dependents <;>
    simp [members, Bool.and_assoc]

private theorem fits_toJson (levels : Nat) (c : Cell) : c.toJson.fits (levels + 1) =
    (c.value.toJson.fits levels && c.error.all (fun e => e.toJson.fits levels) &&
      (edgesOption c.dependencies).all (Json.fits levels) &&
        (edgesOption c.dependents).all (Json.fits levels)) := by
  rw [toJson_eq, fits_members]
  simp [Option.all_map]

private theorem keepsNumbers_members {value : Json}
    {formula error dependencies dependents : Option Json}
    (hvalue : value.KeepsNumbers) (hformula : ∀ json ∈ formula, json.KeepsNumbers)
    (herror : ∀ json ∈ error, json.KeepsNumbers)
    (hdependencies : ∀ json ∈ dependencies, json.KeepsNumbers)
    (hdependents : ∀ json ∈ dependents, json.KeepsNumbers) :
    (Json.object (members value formula error dependencies dependents)).KeepsNumbers := by
  rw [Json.KeepsNumbers, members]
  simp only [List.forall_mem_append, List.forall_mem_cons, List.forall_mem_map, Option.mem_toList]
  exact ⟨⟨⟨⟨hvalue, hformula⟩, herror⟩, hdependencies⟩, hdependents⟩

/-- The stored form of a record keeps the numbers of its value. -/
theorem keepsNumbers_toJson {c : Cell}
    (h : ∀ x ∈ c.value.numbers, x.isFinite = true → ReadsBack x) : c.toJson.KeepsNumbers := by
  have hedges : ∀ cells, ∀ json ∈ edgesOption cells, json.KeepsNumbers := by
    intro cells json hjson
    unfold edgesOption at hjson
    split at hjson
    · cases hjson
    · cases hjson
      exact keepsNumbers_addressesToJson cells
  rw [toJson_eq]
  refine keepsNumbers_members (Value.keepsNumbers_toJson c.value h) ?_ ?_ (hedges _) (hedges _)
  · intro json hjson
    obtain ⟨s, -, rfl⟩ := Option.map_eq_some_iff.mp hjson
    simp [Json.KeepsNumbers]
  · intro json hjson
    obtain ⟨e, -, rfl⟩ := Option.map_eq_some_iff.mp hjson
    exact e.keepsNumbers_toJson

/-- All that a record holds has a stored form: its numbers are finite and the sheets of its edges
have names. -/
def isStorable (c : Cell) : Bool :=
  c.value.isFinite && c.edges.all QualifiedAddress.isNamed

/-- A record is read back if all of it has a stored form and it is not nested too deeply. -/
theorem ofJson?_toJson (levels : Nat) {c : Cell} (h : ∀ a ∈ c.edges, a.cell.InRange) :
    ofJson? levels c.toJson.asWritten =
      if c.isStorable && c.toJson.fits levels then some c else none := by
  have hdependencies : ∀ a ∈ c.dependencies, a.cell.InRange := fun a ha =>
    h a (List.mem_append_left _ (Std.ExtTreeSet.mem_toList.mpr ha))
  have hdependents : ∀ a ∈ c.dependents, a.cell.InRange := fun a ha =>
    h a (List.mem_append_right _ (Std.ExtTreeSet.mem_toList.mpr ha))
  cases levels with
  | zero =>
    have hfits : c.toJson.fits 0 = false := rfl
    rw [hfits, Bool.and_false]
    rfl
  | succ levels =>
    have hformula : Json.optional? Json.toText? (c.formula.map Json.text) = some c.formula := by
      cases c.formula <;> rfl
    have hnull : ∀ e : CellError, e.toJson ≠ .null := by
      intro e
      cases e <;> simp [CellError.toJson]
    have herror := optional?_map hnull (CellError.ofJson?_toJson levels) c.error
    have hvalue := Value.ofJson?_toJson levels c.value
    have hto := addressesOfJson?_edgesOption levels hdependencies
    have hfrom := addressesOfJson?_edgesOption levels hdependents
    rw [fits_toJson, asWritten_toJson, ofJson?, fields?_members]
    simp only [hvalue, hformula, herror, hto, hfrom, isStorable, edges, List.all_append]
    simp only [bind_ite, Option.bind_eq_bind, Option.bind_some, ite_ite_none]
    congr 2
    ac_rfl

end Cell

end Spreadsheet
