import Spreadsheet.Text.Blank

/-!
# Settings of a document

How far a change is followed at once, how deep formulas may refer to formulas, and what the first
sheet is called.
-/

namespace Spreadsheet

/-- Which cells are recalculated after a change. -/
inductive RecalculationMode where
  /-- The cells that read the changed cell directly. -/
  | directDependents
  /-- All cells that read the changed cell, directly or through others. -/
  | transitive
  deriving DecidableEq, Repr

/-- The settings of a document. -/
structure Settings where
  /-- Which cells are recalculated after a change. -/
  mode : RecalculationMode := .directDependents
  /-- How deep formulas may refer to formulas. -/
  maxDepth : Nat := 256
  /-- The name of the first sheet. -/
  defaultSheet : String := "Sheet1"
  deriving DecidableEq, Repr

/-- Why settings are refused. -/
inductive SettingsError where
  /-- No formula could be evaluated. -/
  | depthZero
  /-- The first sheet would have no visible name. -/
  | blankSheet
  deriving DecidableEq, Repr

/-- The message about settings that are refused. -/
def SettingsError.message : SettingsError → String
  | .depthZero => "Invalid configuration: max_depth must be at least 1"
  | .blankSheet => "Invalid configuration: default_sheet must not be empty"

namespace Settings

/-- The settings, if they can be used. -/
def check (settings : Settings) : Except SettingsError Settings :=
  if settings.maxDepth = 0 then .error .depthZero
  else if (Text.trim settings.defaultSheet.toList).isEmpty then .error .blankSheet
  else .ok settings

end Settings

end Spreadsheet
