import Broadsheet.Config.Settings
import Broadsheet.Text.Word
import Broadsheet.Toml.Document

/-!
# Broadsheet.Config.File

The content of a configuration file, before addresses are expanded and paths
resolved.  Keys that are not known are passed over.  A section can also be an
array, which gives its fields in order.
-/

namespace Broadsheet

/-- The section on diagrams as it is written. -/
structure DiagramSection where
  krokiUrl : Option String
  timeoutSecs : Option Nat
  cacheDir : Option String

/-- A configuration file as it is written. -/
structure ConfigFile where
  defaults : DefaultChoices
  assets : AssetSettings
  diagrams : Option DiagramSection

namespace ConfigFile

/-! ## Values -/

/-- A text. -/
def text? : Toml.Value → Option String
  | .string s => some s
  | _ => none

/-- A choice of yes or no. -/
def boolean? : Toml.Value → Option Bool
  | .boolean b => some b
  | _ => none

/-- A number of seconds, below 2 to the 64. -/
def seconds? : Toml.Value → Option Nat
  | .integer n => if 0 ≤ n ∧ fitsWord 64 n then some n.toNat else none
  | _ => none

/-- A policy, by its name or as a table with its name for the only key. -/
def policy? : Toml.Value → Option FallbackPolicy
  | .string s => FallbackPolicy.ofName? s
  | .table _ [(name, .table _ [])] => FallbackPolicy.ofName? name
  | _ => none

/-! ## Sections -/

/-- The fields of a section whose names are given in order: by key from a table, by place from an
array.  A date counts as a section without fields. -/
def fields? (names : List String) : Toml.Value → Option (String → Option Toml.Value)
  | .table _ entries => some fun name => entries.lookup name
  | .array items => some fun name => (names.zip items).lookup name
  | .date _ => some fun _ => none
  | _ => none

/-- A field of a section, or its default. -/
def field {α : Type} (fields : String → Option Toml.Value) (name : String)
    (read : Toml.Value → Option α) (default : α) : Option α :=
  match fields name with
  | none => some default
  | some v => read v

/-- The choices for rendering. -/
def defaults? (v : Toml.Value) : Option DefaultChoices := do
  let fs ← fields? ["theme", "font_family", "font_size", "primary_color", "legend", "code_theme",
    "use_indent", "citations", "mac_code_blocks", "footnote_heading", "custom_css", "fallback"] v
  let base := DefaultChoices.builtin
  return {
    theme := ← field fs "theme" text? base.theme
    fontFamily := ← field fs "font_family" text? base.fontFamily
    fontSize := ← field fs "font_size" text? base.fontSize
    primaryColor := ← field fs "primary_color" text? base.primaryColor
    legend := ← field fs "legend" text? base.legend
    codeTheme := ← field fs "code_theme" text? base.codeTheme
    useIndent := ← field fs "use_indent" boolean? base.useIndent
    citations := ← field fs "citations" boolean? base.citations
    macCodeBlocks := ← field fs "mac_code_blocks" boolean? base.macCodeBlocks
    footnoteHeading := ← field fs "footnote_heading" (fun v => (text? v).map some) none
    customCss := ← field fs "custom_css" (fun v => (text? v).map some) none
    fallback := ← field fs "fallback" policy? base.fallback }

/-- Where style sheets come from. -/
def assets? (v : Toml.Value) : Option AssetSettings := do
  let fs ← fields? ["stylesheet_url", "timeout_secs"] v
  let base := AssetSettings.builtin
  return {
    stylesheetUrl := ← field fs "stylesheet_url" text? base.stylesheetUrl
    timeoutSecs := ← field fs "timeout_secs" seconds? base.timeoutSecs }

/-- How diagrams are rendered. -/
def diagrams? (v : Toml.Value) : Option DiagramSection := do
  let fs ← fields? ["kroki_url", "timeout_secs", "cache_dir"] v
  return {
    krokiUrl := ← field fs "kroki_url" (fun v => (text? v).map some) none
    timeoutSecs := ← field fs "timeout_secs" (fun v => (seconds? v).map some) none
    cacheDir := ← field fs "cache_dir" (fun v => (text? v).map some) none }

/-- Reads a configuration file; `none` for a text that is none. -/
def parse (source : String) : Option ConfigFile := do
  let file ← Toml.parse source
  return {
    defaults := ← field file.get? "defaults" defaults? .builtin
    assets := ← field file.get? "assets" assets? .builtin
    diagrams := ← field file.get? "diagrams" (fun v => (diagrams? v).map some) none }

end ConfigFile

end Broadsheet
