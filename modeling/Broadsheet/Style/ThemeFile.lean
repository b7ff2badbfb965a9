import Broadsheet.Style.Theme
import Broadsheet.Toml.Document

/-!
# Broadsheet.Style.ThemeFile

Reading a theme from a TOML file with the tables `[base]`, `[block.<kind>]`
and `[inline.<kind>]`.  A kind must be a known one and stand in the table of
its category.
-/

namespace Broadsheet

/-- Why a theme file was refused. -/
inductive ThemeError
  /-- The text is no TOML document, or a table holds something else than properties. -/
  | malformed
  | unknownKind (name : String) (table : Category)
  | wrongTable (name : String) (expected found : Category)
  deriving DecidableEq

/-- The wording of the error. -/
def ThemeError.message : ThemeError → String
  | malformed => "Invalid theme file"
  | unknownKind name table => "Unknown element kind `" ++ name ++ "` in [" ++ table.name ++ "]"
  | wrongTable name expected found =>
    "Element kind `" ++ name ++ "` belongs in [" ++ expected.name ++ "], found in [" ++
      found.name ++ "]"

namespace Theme

/-- The properties of a table; every value must be a string. -/
def readProperties : Toml.Value → Option Properties
  | .table _ entries => do
    let pairs ← entries.mapM fun
      | (key, .string value) => some (key, value)
      | _ => none
    return Properties.ofPairs pairs
  | _ => none

/-- The properties under each name of a table. -/
def readNamed : Toml.Value → Option (List (String × Properties))
  | .table _ entries => entries.mapM fun (name, v) => (readProperties v).map fun p => (name, p)
  | _ => none

/-- The kind of a name in the table of a category. -/
def kindInTable (table : Category) (name : String) : Except ThemeError ElementKind :=
  match ElementKind.ofName? name with
  | none => .error (.unknownKind name table)
  | some k =>
    if k.category = table then .ok k else .error (.wrongTable name k.category table)

/-- The table of a category from its named entries.  Of several faults the one whose name is
least is reported. -/
def tableOfNamed (table : Category) (named : List (String × Properties)) :
    Except ThemeError KindTable := do
  let entries ← (named.mergeSort fun a b => a.1 ≤ b.1).mapM fun (name, props) => do
    return (← kindInTable table name, props)
  return .ofEntries entries

/-- A part of the file under its key, or nothing. -/
def readPart {α : Type} (file : Toml.Entries) (key : String) (absent : α)
    (read : Toml.Value → Option α) : Except ThemeError α :=
  match file.get? key with
  | none => .ok absent
  | some v => match read v with
    | some a => .ok a
    | none => .error .malformed

/-- Reads a theme file.  Keys besides the three tables are passed over. -/
def ofToml (source : String) : Except ThemeError Theme := do
  match Toml.parse source with
  | none => .error .malformed
  | some file =>
    let base ← readPart file "base" ∅ readProperties
    let block ← readPart file "block" [] readNamed
    let inline ← readPart file "inline" [] readNamed
    return ⟨base, ← tableOfNamed .block block, ← tableOfNamed .inline inline⟩

end Theme

end Broadsheet
