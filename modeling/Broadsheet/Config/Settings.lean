/-!
# Broadsheet.Config.Settings

The settings of the program, as a configuration file and the command line
give them.  Choices are still the texts that a user wrote.
-/

namespace Broadsheet

/-- What happens to a choice that stands for no known value. -/
inductive FallbackPolicy
  /-- The default is taken. -/
  | warn
  /-- The choice is an error. -/
  | reject
  deriving DecidableEq

namespace FallbackPolicy

/-- The policy's name in settings. -/
def name : FallbackPolicy → String
  | warn => "warn"
  | reject => "reject"

/-- The policy of a given name. -/
def ofName? : String → Option FallbackPolicy
  | "warn" => some warn
  | "reject" => some reject
  | _ => none

end FallbackPolicy

/-- Choices for rendering. -/
structure DefaultChoices where
  theme : String
  fontFamily : String
  fontSize : String
  primaryColor : String
  legend : String
  codeTheme : String
  useIndent : Bool
  citations : Bool
  macCodeBlocks : Bool
  footnoteHeading : Option String
  /-- The file of a user's style sheet. -/
  customCss : Option String
  fallback : FallbackPolicy
  deriving DecidableEq

/-- The choices where nothing is chosen. -/
def DefaultChoices.builtin : DefaultChoices where
  theme := "default"
  fontFamily := "无衬线"
  fontSize := "14px"
  primaryColor := "经典蓝"
  legend := "title"
  codeTheme := "tokyo-night-light"
  useIndent := false
  citations := false
  macCodeBlocks := true
  footnoteHeading := none
  customCss := none
  fallback := .warn

/-- Where the style sheets for code come from. -/
structure AssetSettings where
  /-- The address, with `{theme}` in place of the style sheet's name. -/
  stylesheetUrl : String
  timeoutSecs : Nat
  deriving DecidableEq

/-- The address of style sheets unless another is set. -/
def defaultStylesheetUrl : String :=
  "https://cdn.bootcdn.net/ajax/libs/highlight.js/11.10.0/styles/\x7btheme\x7d.min.css"

/-- The settings where nothing is set. -/
def AssetSettings.builtin : AssetSettings := ⟨defaultStylesheetUrl, 10⟩

/-- How diagrams are rendered. -/
structure DiagramSettings where
  /-- The server that renders them; without one they are not rendered. -/
  krokiUrl : Option String
  timeoutSecs : Nat
  /-- The directory that keeps rendered diagrams. -/
  cacheDir : Option String
  deriving DecidableEq

/-- The settings where nothing is set. -/
def DiagramSettings.builtin : DiagramSettings := ⟨none, 30, none⟩

/-- All settings. -/
structure Config where
  defaults : DefaultChoices
  assets : AssetSettings
  diagrams : DiagramSettings
  /-- The file that the settings come from. -/
  path : Option String
  deriving DecidableEq

/-- The settings without any file. -/
def Config.builtin : Config := ⟨.builtin, .builtin, .builtin, none⟩

/-- Settings of the command line; those given win over the file's. -/
structure CliSettings where
  theme : Option String
  fontFamily : Option String
  fontSize : Option String
  primaryColor : Option String
  legend : Option String
  codeTheme : Option String
  useIndent : Option Bool
  citations : Option Bool
  macCodeBlocks : Option Bool
  fallback : Option FallbackPolicy
  customCss : Option String
  krokiUrl : Option String

namespace Config

/-- The settings with those of the command line over them. -/
def withCli (c : Config) (s : CliSettings) : Config :=
  { c with
    defaults :=
      { c.defaults with
        theme := s.theme.getD c.defaults.theme
        fontFamily := s.fontFamily.getD c.defaults.fontFamily
        fontSize := s.fontSize.getD c.defaults.fontSize
        primaryColor := s.primaryColor.getD c.defaults.primaryColor
        legend := s.legend.getD c.defaults.legend
        codeTheme := s.codeTheme.getD c.defaults.codeTheme
        useIndent := s.useIndent.getD c.defaults.useIndent
        citations := s.citations.getD c.defaults.citations
        macCodeBlocks := s.macCodeBlocks.getD c.defaults.macCodeBlocks
        fallback := s.fallback.getD c.defaults.fallback
        customCss := s.customCss.or c.defaults.customCss }
    diagrams := { c.diagrams with krokiUrl := s.krokiUrl.or c.diagrams.krokiUrl } }

end Config

end Broadsheet
