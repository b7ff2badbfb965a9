import Broadsheet.Config.Choices
import Broadsheet.Config.Settings
import Broadsheet.Text.Quoted

/-!
# Broadsheet.Config.Resolve

From choices to the options of a rendering.  A choice that stands for no
known value is replaced by the default or refused, as the policy says; the
first such choice is the one that is reported.
-/

namespace Broadsheet

/-- A choice that stands for no known value. -/
structure OptionError where
  field : String
  value : String
  deriving DecidableEq

/-- The wording of the error. -/
def OptionError.message (e : OptionError) : String :=
  "Invalid value for " ++ e.field ++ ": " ++ quoteText e.value

namespace DefaultChoices

/-- The value that a choice was found to stand for; without one, the policy decides. -/
def pick {α : Type} (policy : FallbackPolicy) (field value : String) (found : Option α)
    (default : α) : Except OptionError α :=
  match found, policy with
  | some a, _ => .ok a
  | none, .warn => .ok default
  | none, .reject => .error ⟨field, value⟩

/-- The options that the choices stand for.  A style sheet is not among them: its file is read by
whoever renders. -/
def resolve (d : DefaultChoices) : Except OptionError RenderOptions := do
  let base := RenderOptions.default
  let theme ← pick d.fallback "theme" d.theme (ThemeId.ofText? d.theme) base.theme
  let fontFamily ←
    pick d.fallback "font_family" d.fontFamily (Choices.fontFamily? d.fontFamily) base.fontFamily
  let fontSize ← pick d.fallback "font_size" d.fontSize (Choices.fontSize? d.fontSize) base.fontSize
  let primaryColor ←
    pick d.fallback "primary_color" d.primaryColor (Choices.color? d.primaryColor)
      base.primaryColor
  let legend ← pick d.fallback "legend" d.legend (Choices.legend? d.legend) base.legend
  let codeTheme ←
    pick d.fallback "code_theme" d.codeTheme (Choices.codeTheme? d.codeTheme) base.codeTheme
  return {
    theme := theme
    fontFamily := fontFamily
    fontSize := fontSize
    useIndent := d.useIndent
    primaryColor := primaryColor
    citations := d.citations
    legend := legend
    macCodeBlocks := d.macCodeBlocks
    codeTheme := codeTheme
    customCss := none
    footnoteHeading := d.footnoteHeading.getD base.footnoteHeading }

end DefaultChoices

end Broadsheet
