import Spreadsheet.Document.Write
import Spreadsheet.Proofs.Workbook.Record

/-!
# Sessions

A document is reached from an empty one by calls that add and choose sheets, write and clear cells,
and recalculate. A call that fails leaves the document as it was. Every call may come at another
moment.
-/

namespace Spreadsheet

/-- A call that changes a document. -/
inductive Action where
  /-- An empty sheet is added. -/
  | addSheet (name : String)
  /-- Another sheet becomes the active one. -/
  | activate (name : String)
  /-- A value or a formula is written into a cell. -/
  | write (address : String) (v : Value) (sheet : Option String)
  /-- A cell is cleared. -/
  | clear (address : String) (sheet : Option String)
  /-- All formulas are computed anew. -/
  | recalculate

/-- The call adds a sheet, if it succeeds. -/
def Action.addsSheet : Action → Bool
  | .addSheet _ => true
  | _ => false

/-- A moment at which nothing is drawn. -/
def Ambient.newYear : Ambient :=
  ⟨⟨2024, 1, 1⟩, 0, 0⟩

namespace Document

/-- The document after a call, if the call succeeds. -/
def attempt? (ambient : Ambient) (doc : Document) : Action → Option Document
  | .addSheet name => (doc.addSheet ambient name).toOption
  | .activate name => doc.activate? name
  | .write address v sheet => (doc.write ambient address v sheet).toOption
  | .clear address sheet => (doc.clear ambient address sheet).toOption
  | .recalculate => some (doc.recalculate ambient)

/-- The document after a call, which is the same as before if the call fails. -/
def perform (ambient : Ambient) (doc : Document) (action : Action) : Document :=
  (doc.attempt? ambient action).getD doc

/-- The document after some calls at one moment. -/
def run (ambient : Ambient) (doc : Document) (actions : List Action) : Document :=
  actions.foldl (perform ambient) doc

/-- A document that some calls lead to from an empty one. -/
inductive Reachable : Document → Prop where
  /-- The empty document with any settings. -/
  | start (settings : Settings) : Reachable (.ofSettings settings)
  /-- One call more, at any moment. -/
  | step {doc : Document} (h : Reachable doc) (ambient : Ambient) (action : Action) :
      Reachable (doc.perform ambient action)

variable {ambient : Ambient} {doc doc' : Document} {address name : String} {sheet : Option String}
  {a : QualifiedAddress} {v : Value}

/-- Calls lead from documents that calls lead to, to such documents. -/
theorem Reachable.run (h : doc.Reachable) (ambient : Ambient) (actions : List Action) :
    (doc.run ambient actions).Reachable := by
  induction actions generalizing doc with
  | nil => exact h
  | cons action actions ih => exact ih (h.step ambient action)

/-! ## Calls that succeed -/

/-- A call leads to a document exactly if it succeeds with it. -/
theorem toOption_eq_some_iff {result : Except DocumentError Document} :
    result.toOption = some doc ↔ result = .ok doc := by
  cases result <;> simp [Except.toOption]

/-- A text names cells of existing sheets only. -/
theorem hasSheet_of_resolve (h : doc.resolve address sheet = .ok a) :
    doc.workbook.hasSheet a.sheet = true := by
  unfold resolve at h
  split at h
  · cases h
  · dsimp only at h
    split at h
    · next hs =>
      cases h
      exact hs
    · cases h

/-- Writing succeeds exactly if the text names a cell, and then it writes into this cell. -/
theorem write_eq_ok_iff : doc.write ambient address v sheet = .ok doc' ↔
    ∃ a, doc.resolve address sheet = .ok a ∧ doc' = doc.writeAt ambient a v := by
  unfold write
  cases doc.resolve address sheet with
  | error e => simp [bind, Except.bind]
  | ok a => simp [bind, Except.bind, pure, Except.pure, eq_comm]

/-- Clearing succeeds exactly if the text names a cell, and then it clears this cell. -/
theorem clear_eq_ok_iff : doc.clear ambient address sheet = .ok doc' ↔
    ∃ a, doc.resolve address sheet = .ok a ∧ doc' = doc.clearAt ambient a := by
  unfold clear
  cases doc.resolve address sheet with
  | error e => simp [bind, Except.bind]
  | ok a => simp [bind, Except.bind, pure, Except.pure, eq_comm]

/-- The document with an empty sheet more and with the edges to its cells, before any
recalculation. -/
def linked (doc : Document) (name : String) : Document :=
  { doc with
    workbook := (doc.workbook.extend name).linkAll (doc.readersOfSheet name) }

/-- A sheet is added under a new name, and the formulas that mention its cells are computed anew. -/
theorem addSheet_eq_ok_iff : doc.addSheet ambient name = .ok doc' ↔
    doc.workbook.hasSheet name = false ∧
      doc' = (doc.linked name).refreshAll ambient ((doc.linked name).workbook.order
        (Std.ExtTreeSet.ofList ((doc.readersOfSheet name).map Prod.fst))) := by
  have hlink : ({ doc with workbook := doc.workbook.extend name } : Document).linkSheet ambient
      name = (doc.linked name).refreshAll ambient ((doc.linked name).workbook.order
        (Std.ExtTreeSet.ofList ((doc.readersOfSheet name).map Prod.fst))) := rfl
  rw [← hlink]
  unfold addSheet Workbook.addSheet Workbook.extend
  cases doc.workbook.hasSheet name <;> simp [eq_comm]

end Document

end Spreadsheet
