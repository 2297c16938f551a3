import Spreadsheet.Address.Cell

/-!
# Expressions

The tree of a formula. Binary operators have a precedence, the higher the closer they bind, and a
chain of operators of one precedence leans to the left.
-/

namespace Spreadsheet.Formula

/-- A cell as a formula names it, on the sheet of the formula unless a sheet is given. -/
structure Reference where
  /-- The sheet that is given. -/
  sheet : Option String
  /-- The cell of the sheet. -/
  cell : CellAddress
  deriving DecidableEq, Repr

/-- The operators between two operands. -/
inductive BinaryOp where
  /-- Addition. -/
  | add
  /-- Subtraction. -/
  | sub
  /-- Multiplication. -/
  | mul
  /-- Division. -/
  | div
  /-- Raising to a power. -/
  | pow
  /-- Joining of texts. -/
  | concat
  /-- Equality. -/
  | eq
  /-- Inequality. -/
  | ne
  /-- Less than. -/
  | lt
  /-- Greater than. -/
  | gt
  /-- Less than or equal. -/
  | le
  /-- Greater than or equal. -/
  | ge
  deriving DecidableEq, Repr

/-- The operators before an operand. -/
inductive UnaryOp where
  /-- Change of sign. -/
  | neg
  /-- No change of sign. -/
  | pos
  deriving DecidableEq, Repr

/-- The tree of a formula. -/
inductive Expr where
  /-- A number. -/
  | number (x : Float)
  /-- A text. -/
  | text (s : String)
  /-- A truth value. -/
  | boolean (b : Bool)
  /-- A cell. -/
  | cell (r : Reference)
  /-- A block of cells between two corners; the sheet of the first counts. -/
  | range (first last : Reference)
  /-- A function, named as in the formula, with its arguments. -/
  | call (name : String) (args : List Expr)
  /-- An operator between two operands. -/
  | binary (op : BinaryOp) (left right : Expr)
  /-- An operator before an operand. -/
  | unary (op : UnaryOp) (operand : Expr)
  /-- A table, row by row. -/
  | array (rows : List (List Expr))
  deriving Inhabited

namespace BinaryOp

/-- How closely an operator binds. -/
def precedence : BinaryOp → Nat
  | .eq | .ne | .lt | .gt | .le | .ge => 1
  | .concat => 2
  | .add | .sub => 3
  | .mul | .div => 4
  | .pow => 5

/-- The sign of an operator. -/
def sign : BinaryOp → String
  | .add => "+"
  | .sub => "-"
  | .mul => "*"
  | .div => "/"
  | .pow => "^"
  | .concat => "&"
  | .eq => "="
  | .ne => "<>"
  | .lt => "<"
  | .gt => ">"
  | .le => "<="
  | .ge => ">="

end BinaryOp

/-- The sign of an operator before an operand. -/
def UnaryOp.sign : UnaryOp → String
  | .neg => "-"
  | .pos => "+"

namespace Expr

/-- How closely an operand before which an operator stands is bound. -/
def unaryPrecedence : Nat := 6

/-- How closely the parts of an expression are bound. -/
def precedence : Expr → Nat
  | .binary op _ _ => op.precedence
  | .unary _ _ => unaryPrecedence
  | _ => 7

mutual
/-- Two trees have the same shape and the same parts, numbers being compared as numbers. -/
def same : Expr → Expr → Bool
  | .number x, .number y => x == y
  | .text s, .text t => s == t
  | .boolean a, .boolean b => a == b
  | .cell r, .cell s => r == s
  | .range a b, .range c d => a == c && b == d
  | .call f args, .call g brgs => f == g && sameRow args brgs
  | .binary o a b, .binary p c d => o == p && same a c && same b d
  | .unary o a, .unary p b => o == p && same a b
  | .array rows, .array sows => sameRows rows sows
  | _, _ => false

/-- Two rows have the same items. -/
def sameRow : List Expr → List Expr → Bool
  | [], [] => true
  | a :: row, b :: sow => same a b && sameRow row sow
  | _, _ => false

/-- Two tables have the same rows. -/
def sameRows : List (List Expr) → List (List Expr) → Bool
  | [], [] => true
  | row :: rows, sow :: sows => sameRow row sow && sameRows rows sows
  | _, _ => false
end

mutual
/-- The number of links on the longest way from the root of a tree to a leaf. -/
def depth : Expr → Nat
  | .call _ args => rowDepth args
  | .binary _ a b => max a.depth b.depth + 1
  | .unary _ a => a.depth + 1
  | .array rows => rowsDepth rows
  | _ => 0

/-- The depth of a list of trees below a common root. -/
def rowDepth : List Expr → Nat
  | [] => 0
  | e :: row => max (e.depth + 1) (rowDepth row)

/-- The depth of a table of trees below a common root. -/
def rowsDepth : List (List Expr) → Nat
  | [] => 0
  | row :: rows => max (rowDepth row) (rowsDepth rows)
end

end Expr

end Spreadsheet.Formula
