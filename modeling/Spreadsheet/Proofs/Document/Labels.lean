import Spreadsheet.Proofs.Address.Text
import Spreadsheet.Proofs.Document.Visibility
import Spreadsheet.Proofs.Formula.RoundTrip
import Spreadsheet.Proofs.Formula.Tiling

/-!
# Labels in formulas and labels of written cells

A label in a formula is split at its first digit, and a label under which a cell is written is read
once the white space around it is gone. A name in a formula has no white space, and for names the
two readers agree: they accept the same ones, whatever their length, the case of their letters and
the zeros before their rows, and find the same cells. So a cell that was written under a label is
the one that a formula reads under that label.
-/

namespace Spreadsheet

namespace Formula

variable {label : String} {sheet : Option String} {r : Reference} {a : CellAddress}

/-- The text is a name that is read from some text. -/
def IsName (label : String) : Prop :=
  ∃ s found position, tokens s = .ok found ∧ ⟨.name label, position⟩ ∈ found

/-- A name that is read from some text is a name wherever it stands. -/
theorem IsName.lexical (h : IsName label) : (Token.name label).Lexical := by
  obtain ⟨s, found, position, hfound, hmem⟩ := h
  obtain ⟨body, finish, rfl, hbody⟩ := lexical_of_tokensFrom hfound
  rcases List.mem_append.mp hmem with hname | hfinish
  · exact hbody _ hname
  · cases List.mem_singleton.mp hfinish

/-- There is no white space in a name. -/
theorem IsName.isBlank_eq_false (h : IsName label) :
    ∀ c ∈ label.toList, Text.isBlank c = false := by
  obtain ⟨first, others, hchars, hfirst, hothers⟩ := h.lexical
  rw [hchars, List.forall_mem_cons]
  refine ⟨isBlank_of_continuesName ?_, fun c hc => isBlank_of_continuesName (hothers c hc)⟩
  rw [continuesName, hfirst, Bool.true_or, Bool.true_or]

/-- A name is the text of the cell that it labels. -/
theorem IsName.ofText_eq_ok_iff (h : IsName label) :
    CellAddress.ofText label = .ok a ↔ Labels label a := by
  rw [← String.ofList_toList (s := label), ← CellAddress.ofLabel?_eq_some_iff,
    String.ofList_toList, CellAddress.ofText, Text.trim_eq_self h.isBlank_eq_false]
  cases CellAddress.ofLabel? label.toList <;> simp

/-- The reader of labels in formulas accepts the names that are texts of cells. -/
theorem IsName.reference_eq_ok_iff (h : IsName label) :
    reference sheet label = .ok r ↔ ∃ a, CellAddress.ofText label = .ok a ∧ r = ⟨sheet, a⟩ := by
  rw [Formula.reference_eq_ok_iff]
  exact exists_congr fun a => and_congr_left fun _ => h.ofText_eq_ok_iff.symm

/-- A label by itself is a formula that refers to the cell. -/
theorem Labels.ofText_eq (h : Labels label a) : ofText label = .ok (.cell ⟨none, a⟩) := by
  have hforms : Forms 1 [.name label] (.cell ⟨none, a⟩) :=
    (Forms.reference (.cell h)).lower (by decide) (by decide)
  have htext : textOf [.name label] = label := by
    simp [textOf, Token.render]
  obtain ⟨body, position, hbody, hread⟩ := ofText_textOf hforms
    (List.forall_mem_singleton.mpr h.lexical) (by simp [Expr.literals])
  rw [← hbody] at hforms
  rw [htext] at hread
  rw [hread]
  rcases parse_of_forms hforms with hparse | ⟨hlong, -⟩
  · exact hparse
  · have hlength := congrArg List.length hbody
    rw [List.length_map, List.length_singleton] at hlength
    rw [hlength] at hlong
    exact absurd hlong (by decide)

/-- A label behind an equals sign is the formula that refers to its cell. -/
theorem Labels.read_eq (h : Labels label a) :
    read ("=" ++ label) = .formula (.cell ⟨none, a⟩) := by
  have hchars : ("=" ++ label).toList = '=' :: label.toList := by simp
  unfold read
  split
  · next body hbody =>
    obtain ⟨-, rfl⟩ := List.cons.inj (hchars.symm.trans hbody)
    rw [String.ofList_toList, h.ofText_eq]
  · next hplain => exact absurd hchars (hplain _)

end Formula

namespace Document

open Formula

variable {ambient : Ambient} {doc doc' : Document} {x : QualifiedAddress} {v : Value}
  {address label : String} {sheet : Option String}

/-- A text names a cell of the sheet that is given, or else of the active one. -/
theorem resolve_eq_ok (h : doc.resolve address sheet = .ok x) :
    CellAddress.ofText address = .ok x.cell ∧ x.sheet = doc.sheetOrActive sheet := by
  unfold resolve at h
  split at h
  · cases h
  · next cell hcell =>
    dsimp only at h
    split_ifs at h
    cases h
    exact ⟨hcell, rfl⟩

/-- Writing a cell leaves the meaning of texts alone. -/
theorem resolve_writeAt (ambient : Ambient) (doc : Document) (x : QualifiedAddress) (v : Value)
    (address : String) (sheet : Option String) :
    (doc.writeAt ambient x v).resolve address sheet = doc.resolve address sheet := by
  obtain ⟨cells, e?, f, hstore⟩ := exists_store_eq_install doc x v
  rw [writeAt_eq_refreshAll, hstore]
  obtain ⟨hnames, hindex⟩ := sheets_refreshAll ambient (doc.install x cells e? f)
    (x :: ((doc.install x cells e? f).refresh ambient x).affected x)
  rw [resolve_congr hnames hindex, resolve_install]

/-- A formula that is a label has the value of the cell that the label names. -/
theorem evaluate_label (hx : doc.resolve label sheet = .ok x) (hlabel : Labels label x.cell) :
    doc.evaluate ambient ("=" ++ label) sheet = doc.compute ambient x := by
  obtain ⟨-, hsheet⟩ := resolve_eq_ok hx
  rw [evaluate, hlabel.read_eq, ← hsheet]
  rfl

/-- A name is accepted as a label in formulas exactly if it is the text of a cell, and then it
refers to that cell. A cell that was written under such a label is the only one that a formula
refers to that consists of the label, and the value of this formula is that of the cell. -/
theorem labels_name_same_cells (h : IsName label) :
    (∀ (sheet : Option String) (r : Reference),
      reference sheet label = .ok r ↔
        ∃ a, CellAddress.ofText label = .ok a ∧ r = ⟨sheet, a⟩) ∧
    ∀ (now : Ambient) (doc doc' : Document) (v : Value) (sheet : Option String),
      doc.write now label v sheet = .ok doc' →
        ∃ x e, doc.resolve label sheet = .ok x ∧ doc' = doc.writeAt now x v ∧
          Formula.read ("=" ++ label) = .formula e ∧ e.mentions x.sheet = [x] ∧
          ∀ later, doc'.evaluate later ("=" ++ label) sheet = doc'.compute later x := by
  refine ⟨fun _ _ => h.reference_eq_ok_iff, fun now doc doc' v sheet hwrite => ?_⟩
  obtain ⟨x, hx, rfl⟩ := write_eq_ok_iff.mp hwrite
  have hlabel : Labels label x.cell := h.ofText_eq_ok_iff.mp (resolve_eq_ok hx).1
  refine ⟨x, .cell ⟨none, x.cell⟩, hx, rfl, hlabel.read_eq, rfl, fun later => ?_⟩
  exact evaluate_label ((resolve_writeAt now doc x v label sheet).trans hx) hlabel

/-- The last cell, with letters in both cases and zeros before its row. -/
theorem labels_name_same_cells_last :
    let label := "mwLQkwu0004294967295"
    let x : QualifiedAddress := ⟨"Sheet1", ⟨4294967295, 4294967295⟩⟩
    let doc := Document.ofSettings {}
    IsName label ∧ reference none label = .ok ⟨none, x.cell⟩ ∧
      doc.write .newYear label (.number 5) none = .ok (doc.writeAt .newYear x (.number 5)) ∧
      ∃ e, Formula.read ("=" ++ label) = .formula e ∧ e.mentions "Sheet1" = [x] ∧
        ∀ later, (doc.writeAt .newYear x (.number 5)).evaluate later ("=" ++ label) none =
          (doc.writeAt .newYear x (.number 5)).compute later x := by
  intro label x doc
  have hname : IsName label := by
    obtain ⟨found, hfound, htest⟩ := exists_ok_of_any (r := tokens label)
      (p := fun found => found.head? == some ⟨.name label, 0⟩) (by decide +kernel)
    exact ⟨label, found, 0, hfound, List.mem_of_mem_head? (beq_iff_eq.mp htest)⟩
  have hcell : CellAddress.ofText label = .ok x.cell := by decide +kernel
  have hx : doc.resolve label none = .ok x := by decide +kernel
  have hwrite := write_eq_ok_iff.mpr ⟨x, hx, (rfl : doc.writeAt .newYear x (.number 5) = _)⟩
  obtain ⟨hreaders, hwritten⟩ := labels_name_same_cells hname
  obtain ⟨y, e, hy, -, hread, hmentions, hvalue⟩ := hwritten _ _ _ _ _ hwrite
  obtain rfl := Except.ok.inj (hx.symm.trans hy)
  exact ⟨hname, (hreaders none _).mpr ⟨x.cell, hcell, rfl⟩, hwrite, e, hread, hmentions, hvalue⟩

end Document

end Spreadsheet
