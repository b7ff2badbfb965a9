import Broadsheet.Document.FrontMatter
import Broadsheet.Document.Options
import Broadsheet.Document.Page
import Broadsheet.Markdown.Document
import Broadsheet.Preview
import Broadsheet.Style.Builtin
import Broadsheet.Stylesheet.Cache

/-!
# Broadsheet.Converter

From a Markdown document to a page.  The document's attributes are split off,
its theme is compiled with the user's style sheet over it, its body is rendered
and put into a page, and the style sheet of its code goes with it.

A document without text is refused before anything is asked of a service.
-/

namespace Broadsheet

/-- What a conversion calls. -/
structure Converter (m : Type → Type) where
  services : Services m
  /-- Fetches the style sheet of a name. -/
  fetchStylesheet : String → m (Except FetchError String)

/-- Why there is no page. -/
inductive ConvertError
  | emptyInput
  deriving DecidableEq

/-- The wording of the error. -/
def ConvertError.message : ConvertError → String
  | emptyInput => "markdown input is empty"

/-- A page, and what came up while it was made. -/
structure Conversion where
  html : String
  attributes : Attributes
  warnings : List String

namespace RenderOptions

/-- The theme, with the user's style sheet over it if that has any text. -/
def styledTheme (o : RenderOptions) : Theme :=
  match o.customCss with
  | some css =>
    if blankText css then Theme.builtin o.theme
    else (Theme.builtin o.theme).withOverrides (CssRules.parse css)
  | none => Theme.builtin o.theme

/-- The styles of every element. -/
def styles (o : RenderOptions) : Styles := o.styledTheme.compile o.themeParams

/-- The settings for rendering a body. -/
def renderSettings (o : RenderOptions) : RenderSettings :=
  { RenderSettings.ofStyles o.styles with
    legend := o.legend
    citations := o.citations
    footnoteHeading := o.footnoteHeading }

/-- The page around a rendered body. -/
def page (o : RenderOptions) (html footnotes stylesheet : String) : String :=
  exportPage (assemble html footnotes o.styles o.macCodeBlocks) o.primaryColor stylesheet

end RenderOptions

namespace Converter

variable {m : Type → Type} [Monad m]

/-- Converts a document.  The store holds the style sheets that were fetched before, and after. -/
def convert (c : Converter m) (store : StylesheetStore) (markdown : String)
    (options : RenderOptions) : m (Except ConvertError Conversion × StylesheetStore) := do
  if blankText markdown then return (.error .emptyInput, store)
  let (attributes, body) := FrontMatter.splitText markdown
  let rendering ←
    renderEvents c.services options.renderSettings (Markdown.documentEvents body)
  let (stylesheet, store) ← store.getOrFetch c.fetchStylesheet options.codeTheme
  let html := options.page rendering.html rendering.footnotes stylesheet
  return (.ok ⟨html, attributes, rendering.warnings⟩, store)

/-- Converts the document that previews a style. -/
def preview (c : Converter m) (store : StylesheetStore) (options : RenderOptions) :
    m (Except ConvertError Conversion × StylesheetStore) :=
  c.convert store previewDocument options

/-- Fetches a style sheet ahead of time; whether it is there then. -/
def prefetch (c : Converter m) (store : StylesheetStore) (codeTheme : String) :
    m (Bool × StylesheetStore) :=
  store.prefetch c.fetchStylesheet codeTheme

end Converter

end Broadsheet
