import Broadsheet.Style.Compile
import Broadsheet.Document.Render

/-!
# Broadsheet.Document.Options

What can be chosen for one rendering.  All values are resolved: labels are
looked up, and defaults filled in, before options are built.
-/

namespace Broadsheet

/-- The sans-serif fonts. -/
def sansSerifFonts : String :=
  "-apple-system-font,BlinkMacSystemFont, Helvetica Neue, " ++
    "PingFang SC, Hiragino Sans GB , Microsoft YaHei UI , Microsoft YaHei ,Arial,sans-serif"

/-- The options of a rendering. -/
structure RenderOptions where
  theme : ThemeId
  fontFamily : String
  fontSize : String
  /-- Whether the first line of every paragraph is indented. -/
  useIndent : Bool
  primaryColor : String
  /-- Whether links get numbered citations after the body. -/
  citations : Bool
  legend : Legend
  /-- Whether code blocks show the dots of a window. -/
  macCodeBlocks : Bool
  /-- The style sheet of highlighted code. -/
  codeTheme : String
  /-- A user's style sheet over the theme. -/
  customCss : Option String
  footnoteHeading : String

namespace RenderOptions

/-- The options where nothing is chosen. -/
def default : RenderOptions where
  theme := .default
  fontFamily := sansSerifFonts
  fontSize := "14px"
  useIndent := false
  primaryColor := "#0F4C81"
  citations := false
  legend := .title
  macCodeBlocks := true
  codeTheme := "tokyo-night-light"
  customCss := none
  footnoteHeading := defaultFootnoteHeading

/-- The parameters that the theme is compiled with. -/
def themeParams (o : RenderOptions) : ThemeParams :=
  ⟨o.fontFamily, o.fontSize, o.useIndent, o.primaryColor⟩

end RenderOptions

end Broadsheet
