/-!
# Errors in addresses

A text that should name a cell or a block of cells may fail to do so.
-/

namespace Spreadsheet

/-- Why a text names no place in a workbook. -/
inductive AddressError where
  /-- The text is no cell address. -/
  | invalidCell (text : String)
  /-- The text is no range of cells. -/
  | invalidRange (text : String)
  deriving DecidableEq, Repr

/-- The message of an error in an address. -/
def AddressError.message : AddressError → String
  | .invalidCell text => "Invalid cell address: " ++ text
  | .invalidRange text => "Invalid range: " ++ text

end Spreadsheet
