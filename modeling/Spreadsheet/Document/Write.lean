import Spreadsheet.Document.Recalculation
import Spreadsheet.Workbook.Edges

/-!
# Changes of a document

Cells are written and cleared, and sheets are added. Every change keeps three things in step: the
record of the cell, the formula as it was read, and the edges to the cells that the formula reads.
Then values are computed anew.
-/

namespace Spreadsheet.Document

/-- The document with a new record of a cell, which reads the given cells. -/
def install (doc : Document) (a : QualifiedAddress) (cells : AddressSet)
    (formula : Option Formula.Expr) (f : Cell → Cell) : Document :=
  { doc with
    workbook := (doc.workbook.link a cells).update a f
    formulas :=
      match formula with
      | some e => doc.formulas.insert a e
      | none => doc.formulas.erase a }

/-- The document with a raw value in a cell. -/
def storeValue (doc : Document) (a : QualifiedAddress) (v : Value) : Document :=
  doc.install a ∅ none fun c => { c with value := v, formula := none, error := none }

/-- The document with a formula in a cell. -/
def storeFormula (doc : Document) (a : QualifiedAddress) (text : String) (e : Formula.Expr) :
    Document :=
  doc.install a (e.references a.sheet) (some e) fun c =>
    { c with formula := some text, error := none }

/-- The document with a text in a cell that should be a formula and is none. -/
def storeMalformed (doc : Document) (a : QualifiedAddress) (text : String) : Document :=
  doc.install a ∅ none fun c =>
    { c with
      value := .error .malformedFormula
      formula := some text
      error := some .malformedFormula }

/-- The document with a text in a cell. -/
def storeText (doc : Document) (a : QualifiedAddress) (text : String) : Document :=
  match Formula.read text with
  | .formula e => doc.storeFormula a text e
  | .malformed _ => doc.storeMalformed a text
  | .plain => doc.storeValue a (.text text)

/-- The document with a value or a formula in a cell, before any recalculation. -/
def store (doc : Document) (a : QualifiedAddress) (v : Value) : Document :=
  match v with
  | .text text => doc.storeText a text
  | v => doc.storeValue a v

/-- The document with a value or a formula written into a cell. -/
def writeAt (ambient : Ambient) (doc : Document) (a : QualifiedAddress) (v : Value) : Document :=
  ((doc.store a v).refresh ambient a).propagate ambient a

/-- The document with a cell cleared. -/
def clearAt (ambient : Ambient) (doc : Document) (a : QualifiedAddress) : Document :=
  (doc.storeValue a .empty).propagate ambient a

/-- The document with a value or a formula written into the cell that a text names. -/
def write (ambient : Ambient) (doc : Document) (address : String) (v : Value)
    (sheet : Option String) : Except DocumentError Document := do
  let a ← doc.resolve address sheet
  return doc.writeAt ambient a v

/-- The document with the cell cleared that a text names. -/
def clear (ambient : Ambient) (doc : Document) (address : String) (sheet : Option String) :
    Except DocumentError Document := do
  let a ← doc.resolve address sheet
  return doc.clearAt ambient a

/-- The formulas that read cells of a sheet, with the cells that they read. -/
def readersOfSheet (doc : Document) (name : String) : List (QualifiedAddress × AddressSet) :=
  (doc.formulas.toList.map fun (a, e) => (a, e.references a.sheet)).filter fun (_, cells) =>
    cells.toList.any fun target => target.sheet == name

/-- The document in which formulas that were written before a sheet was added read its cells. -/
def linkSheet (ambient : Ambient) (doc : Document) (name : String) : Document :=
  let linked := doc.readersOfSheet name
  let wb := doc.workbook.linkAll linked
  { doc with workbook := wb }.refreshAll ambient
    (wb.order (Std.ExtTreeSet.ofList (linked.map Prod.fst)))

/-- The document with an empty sheet more. -/
def addSheet (ambient : Ambient) (doc : Document) (name : String) :
    Except DocumentError Document :=
  match doc.workbook.addSheet name with
  | .error e => .error (.workbook e)
  | .ok (_, wb) => .ok ({ doc with workbook := wb }.linkSheet ambient name)

end Spreadsheet.Document
