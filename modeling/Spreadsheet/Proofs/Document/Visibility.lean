import Spreadsheet.Proofs.Document.Freshness

/-!
# Where a change is visible

Writing or clearing a cell is visible in the cells that lead to it along the recorded dependencies,
and in no others. The main statement compares what a text reads before and after the change, for
texts that name cells and for those that name none.
-/

namespace Spreadsheet

namespace Workbook

variable {wb wb' : Workbook} {reader : QualifiedAddress}

/-- Which sheet is active depends on the names of the sheets and on the place of the active one. -/
theorem activeName?_congr (hnames : wb'.sheetNames = wb.sheetNames)
    (hindex : wb'.activeIndex = wb.activeIndex) : wb'.activeName? = wb.activeName? := by
  have hname : ∀ wb : Workbook, wb.activeName? = wb.sheetNames[wb.activeIndex]? := by
    intro wb
    rw [activeName?, sheetNames, List.getElem?_map]
  rw [hname, hname, hnames, hindex]

/-- Linking a cell leaves the active sheet active. -/
theorem activeIndex_link (reader : QualifiedAddress) (cells : AddressSet) (wb : Workbook) :
    (wb.link reader cells).activeIndex = wb.activeIndex := by
  have hdetach : ∀ (targets : List QualifiedAddress) (wb : Workbook),
      (wb.detach reader targets).activeIndex = wb.activeIndex := by
    intro targets
    induction targets with
    | nil => exact fun _ => rfl
    | cons t targets ih => exact fun wb => ih (wb.adjust t (Cell.removeDependent reader))
  have hattach : ∀ (targets : List QualifiedAddress) (wb : Workbook),
      (wb.attach reader targets).activeIndex = wb.activeIndex := by
    intro targets
    induction targets with
    | nil => exact fun _ => rfl
    | cons t targets ih => exact fun wb => ih (wb.update t (Cell.addDependent reader))
  exact (hattach _ _).trans (hdetach _ _)

end Workbook

namespace Document

variable {ambient : Ambient} {doc doc' : Document} {x y : QualifiedAddress} {v : Value}
  {address : String} {sheet : Option String} {cells : AddressSet} {e? : Option Formula.Expr}
  {f : Cell → Cell}

/-! ## What texts name -/

/-- Two documents with the same sheets, the same of which is active, take a text for the same
cell. -/
theorem resolve_congr (hnames : doc'.workbook.sheetNames = doc.workbook.sheetNames)
    (hindex : doc'.workbook.activeIndex = doc.workbook.activeIndex) (address : String)
    (sheet : Option String) : doc'.resolve address sheet = doc.resolve address sheet := by
  have hactive : doc'.sheetOrActive sheet = doc.sheetOrActive sheet := by
    unfold sheetOrActive activeSheet
    rw [Workbook.activeName?_congr hnames hindex]
  unfold resolve
  dsimp only
  rw [hactive, Workbook.hasSheet_congr hnames]

/-- Installing a record leaves the meaning of texts alone. -/
theorem resolve_install (doc : Document) (x : QualifiedAddress) (cells : AddressSet)
    (e? : Option Formula.Expr) (f : Cell → Cell) (address : String) (sheet : Option String) :
    (doc.install x cells e? f).resolve address sheet = doc.resolve address sheet := by
  refine resolve_congr ?_ ?_ address sheet
  · simp [install]
  · exact Workbook.activeIndex_link x cells doc.workbook

/-- Computing cells anew leaves the sheets and the choice of the active one alone. -/
theorem sheets_refreshAll (ambient : Ambient) (doc : Document) (targets : List QualifiedAddress) :
    (doc.refreshAll ambient targets).workbook.sheetNames = doc.workbook.sheetNames ∧
      (doc.refreshAll ambient targets).workbook.activeIndex = doc.workbook.activeIndex := by
  induction targets generalizing doc with
  | nil => exact ⟨rfl, rfl⟩
  | cons a targets ih =>
    obtain ⟨hnames, hindex⟩ := ih (doc.refresh ambient a)
    exact ⟨hnames.trans (Workbook.sheetNames_update _ _ _), hindex⟩

/-! ## Changes of one cell -/

/-- A call that writes or clears a cell installs a record of it and computes some cells anew. -/
theorem Consistent.exists_install_of_edit (h : doc.Consistent)
    (hx : doc.resolve address sheet = .ok x)
    (hedit : doc.write ambient address v sheet = .ok doc' ∨
      doc.clear ambient address sheet = .ok doc') :
    ∃ cells e? f targets, (doc.install x cells e? f).Consistent ∧
      doc' = (doc.install x cells e? f).refreshAll ambient targets := by
  have hsheet : doc.workbook.hasSheet x.sheet = true := hasSheet_of_resolve hx
  rcases hedit with hwrite | hclear
  · obtain ⟨a, ha, rfl⟩ := write_eq_ok_iff.mp hwrite
    obtain rfl := Except.ok.inj (ha.symm.trans hx)
    have hcon := h.store hsheet v
    obtain ⟨cells, e?, f, hstore⟩ := exists_store_eq_install doc a v
    rw [writeAt_eq_refreshAll]
    rw [hstore] at hcon ⊢
    exact ⟨cells, e?, f, _, hcon, rfl⟩
  · obtain ⟨a, ha, rfl⟩ := clear_eq_ok_iff.mp hclear
    obtain rfl := Except.ok.inj (ha.symm.trans hx)
    exact ⟨∅, none, _, _, h.storeValue hsheet .empty, rfl⟩

/-- A cell that uses a cell of a sheet that exists leads to it along the recorded dependencies. -/
theorem Consistent.reflTransGen_of_uses (h : doc.Consistent)
    (hx : doc.workbook.hasSheet x.sheet = true) (huses : doc.Uses y x) :
    Relation.ReflTransGen (fun a b => b ∈ doc.workbook.dependenciesOf a) y x := by
  have hboth : Relation.ReflTransGen (fun a b => b ∈ doc.workbook.dependenciesOf a) y x ∧
      doc.workbook.hasSheet y.sheet = true := by
    induction huses using Relation.ReflTransGen.head_induction_on with
    | refl => exact ⟨.refl, hx⟩
    | @head a b hab _ ih =>
      obtain ⟨hpath, hb⟩ := ih
      have hedge : b ∈ doc.workbook.dependenciesOf a := by
        rw [Workbook.dependenciesOf_eq]
        exact h.mem_dependencies_iff.mpr ⟨hab, hb⟩
      exact ⟨.head hedge hpath, h.hasSheet_of_mem_references hab⟩
  exact hboth.1

/-- A cell that does not use the cell for which a record is installed keeps its value. -/
theorem Consistent.compute_install (h : doc.Consistent)
    (hx : doc.workbook.hasSheet x.sheet = true) (hnot : ¬(doc.install x cells e? f).Uses y x)
    (hsteady : (doc.install x cells e? f).Steady y) (before after : Ambient) :
    (doc.install x cells e? f).compute after y = doc.compute before y := by
  have hsame : SameOn {b | ¬(doc.install x cells e? f).Uses b x} doc (doc.install x cells e? f) :=
    sameOn_install hx
  have hstill : doc.Steady y := hsame.steady hnot hsteady
  rw [hsame.compute_eq h hnot]
  exact h.compute_eq_of_steady hstill before after

/-- After a cell was written or cleared, every text reads what it read before, unless it names the
cell or one that leads to it along the recorded dependencies. -/
theorem Reachable.read_eq_of_edit {address' : String} {sheet' : Option String}
    (h : doc.Reachable) (hx : doc.resolve address sheet = .ok x)
    (hedit : doc.write ambient address v sheet = .ok doc' ∨
      doc.clear ambient address sheet = .ok doc')
    (hother : ∀ y, doc.resolve address' sheet' = .ok y → y ≠ x ∧
      ¬Relation.TransGen (fun a b => b ∈ doc'.workbook.dependenciesOf a) y x ∧ doc'.Steady y)
    (before after : Ambient) :
    doc'.read after address' sheet' = doc.read before address' sheet' := by
  have hcon := h.consistent
  have hsheet : doc.workbook.hasSheet x.sheet = true := hasSheet_of_resolve hx
  obtain ⟨cells, e?, f, targets, hinstall, rfl⟩ := hcon.exists_install_of_edit hx hedit
  have hresolve : ((doc.install x cells e? f).refreshAll ambient targets).resolve address' sheet' =
      doc.resolve address' sheet' := by
    obtain ⟨hnames, hindex⟩ := sheets_refreshAll ambient (doc.install x cells e? f) targets
    rw [resolve_congr hnames hindex, resolve_install]
  unfold read
  rw [hresolve]
  cases hy : doc.resolve address' sheet' with
  | error _ => rfl
  | ok y =>
    obtain ⟨hne, hpath, hsteady⟩ := hother y hy
    have hformulas := formulas_refreshAll ambient (doc.install x cells e? f) targets
    have hrefreshed := hinstall.refreshAll ambient targets
    have hexists : ((doc.install x cells e? f).refreshAll ambient targets).workbook.hasSheet
        x.sheet = true := by
      rw [Workbook.hasSheet_congr (sheets_refreshAll ambient _ targets).1, hasSheet_install, hsheet]
    -- A path along the formulas would be one along the recorded dependencies.
    have hnot : ¬(doc.install x cells e? f).Uses y x := by
      intro huses
      have hleads := hrefreshed.reflTransGen_of_uses hexists ((uses_congr hformulas).mpr huses)
      rcases Relation.reflTransGen_iff_eq_or_transGen.mp hleads with heq | htrans
      · exact hne heq.symm
      · exact hpath htrans
    have hinstalled : (doc.install x cells e? f).Steady y := (steady_congr hformulas).mp hsteady
    dsimp only
    rw [hinstall.compute_refreshAll]
    exact hcon.compute_install hsheet hnot hinstalled before after

/-- From a set of cells that lead to cells of the set only, no other cell is reached. -/
theorem not_transGen_of_closed {wb : Workbook} (cells : List QualifiedAddress)
    (hclosed : ∀ a ∈ cells, ∀ b ∈ wb.inputs a, b ∈ cells) (hy : y ∈ cells) (hx : x ∉ cells) :
    ¬Relation.TransGen (fun a b => b ∈ wb.dependenciesOf a) y x := by
  have hstay : ∀ z, Relation.TransGen (fun a b => b ∈ wb.dependenciesOf a) y z → z ∈ cells := by
    intro z hpath
    induction hpath with
    | single hb => exact hclosed y hy _ (Std.ExtTreeSet.mem_toList.mpr hb)
    | tail _ hb ih => exact hclosed _ ih _ (Std.ExtTreeSet.mem_toList.mpr hb)
  exact fun hpath => hx (hstay x hpath)

/-- A document in which one formula reads an empty cell and another one reads two further cells. -/
def twoGroups : Document :=
  (Document.ofSettings {}).run .newYear
    [.write "B1" (.text "=A1") none, .write "D1" (.text "=C1&D2") none,
      .write "D2" (.text "x") none]

/-- A write that closes a cycle is not visible in the formula that does not lead to the cycle. -/
theorem read_after_closed_cycle :
    twoGroups.Reachable ∧ ∃ doc', twoGroups.write .newYear "A1" (.text "=B1") none = .ok doc' ∧
      ∀ before after, doc'.read after "D1" none = twoGroups.read before "D1" none := by
  have hreach : twoGroups.Reachable := (Reachable.start {}).run _ _
  have hx : twoGroups.resolve "A1" none = .ok ⟨"Sheet1", ⟨1, 1⟩⟩ := by decide +kernel
  have hy : twoGroups.resolve "D1" none = .ok ⟨"Sheet1", ⟨1, 4⟩⟩ := by decide +kernel
  have hwrite := write_eq_ok_iff.mpr
    ⟨_, hx, (rfl : twoGroups.writeAt .newYear ⟨"Sheet1", ⟨1, 1⟩⟩ (.text "=B1") = _)⟩
  refine ⟨hreach, _, hwrite, Reachable.read_eq_of_edit hreach hx (Or.inl hwrite) ?_⟩
  intro y hresolve
  obtain rfl := Except.ok.inj (hy.symm.trans hresolve)
  refine ⟨by decide, ?_, steady_of_forall (by decide +kernel) _⟩
  refine not_transGen_of_closed
    [⟨"Sheet1", ⟨1, 4⟩⟩, ⟨"Sheet1", ⟨1, 3⟩⟩, ⟨"Sheet1", ⟨2, 4⟩⟩] ?_ (by decide) (by decide)
  decide +kernel

end Document

end Spreadsheet
