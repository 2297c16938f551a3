import Spreadsheet.Document.Settings
import Spreadsheet.Stored.Workbook

/-!
# Settings in stored form

All fields may be missing, and have their usual values then. Settings that can be read are checked.
-/

namespace Spreadsheet

/-- Why stored settings have no meaning. -/
inductive StoredSettingsError where
  /-- The text is not the stored form of any settings. -/
  | unreadable
  /-- The settings are refused. -/
  | refused (e : SettingsError)
  deriving DecidableEq, Repr

namespace Settings

/-- The stored name of a recalculation mode. -/
def modeName : RecalculationMode → String
  | .directDependents => "direct_dependents"
  | .transitive => "transitive"

/-- The recalculation mode of the given name. -/
def modeOfName? : String → Option RecalculationMode
  | "direct_dependents" => some .directDependents
  | "transitive" => some .transitive
  | _ => none

/-- A field that may be missing. -/
def fieldOr? {α : Type} (usual : α) (read : Json → Option α) : Option Json → Option α
  | none => some usual
  | some json => read json

/-- The names of the fields. -/
def fieldNames : List String :=
  ["recalc_mode", "max_depth", "default_sheet"]

/-- The settings with the given stored form. -/
def ofJson? : (levels : Nat) → Json → Option Settings
  | 0, _ => none
  | levels + 1, json =>
    match json.fields? fieldNames with
    | some [mode, maxDepth, defaultSheet] => do
      let usual : Settings := {}
      let mode ← fieldOr? usual.mode
        (fun json => (json.plainVariant? levels .text).bind modeOfName?) mode
      let maxDepth ← fieldOr? usual.maxDepth Json.toCount? maxDepth
      let defaultSheet ← fieldOr? usual.defaultSheet Json.toText? defaultSheet
      return ⟨mode, maxDepth, defaultSheet⟩
    | _ => none

/-- The settings that are stored as a text. -/
def ofStored (s : String) : Except StoredSettingsError Settings :=
  match (Json.ofText? s).bind (ofJson? storedLevels) with
  | none => .error .unreadable
  | some settings =>
    match settings.check with
    | .ok settings => .ok settings
    | .error e => .error (.refused e)

end Settings

end Spreadsheet
