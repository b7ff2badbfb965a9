import Broadsheet.Html.Escape

/-!
# Broadsheet.Document.Services

What rendering asks of the outside: a highlighter for code, and a renderer for
diagrams if there is one.  Either can fail, and its answers may depend on
anything that the monad holds.
-/

namespace Broadsheet

/-! ## Highlighting -/

/-- Code that could not be highlighted. -/
structure HighlightError where
  language : String
  reason : String
  deriving DecidableEq

/-- The wording of the error. -/
def HighlightError.message (e : HighlightError) : String :=
  "Failed to highlight " ++ e.language ++ " code: " ++ e.reason

/-- The highlighter that only escapes. -/
def plainHighlight (code _language : String) : String := escapeText code

/-- Highlighting of text without a grammar: it is marked as such and escaped. -/
def plainTextHighlight (code : String) : String :=
  "<span class=\"hljs-text hljs-plain\">" ++ escapeText code ++ "</span>"

/-! ## Diagrams -/

/-- Why a diagram could not be rendered. -/
inductive DiagramFailure
  | http (reason : String)
  | io (reason : String)
  | invalidSvg
  deriving DecidableEq

/-- The wording of the cause. -/
def DiagramFailure.message : DiagramFailure → String
  | http reason => "HTTP error: " ++ reason
  | io reason => "I/O error: " ++ reason
  | invalidSvg => "response is not an SVG document"

/-- A diagram that could not be rendered. -/
structure DiagramError where
  id : String
  failure : DiagramFailure
  deriving DecidableEq

/-- The wording of the error. -/
def DiagramError.message (e : DiagramError) : String :=
  "diagram " ++ e.id ++ ": " ++ e.failure.message

/-- The element id of a document's diagram, counted from zero. -/
def diagramId (index : Nat) : String := "mermaid-diagram-" ++ toString index

/-! ## Both together -/

/-- What a rendering calls. -/
structure Services (m : Type → Type) where
  /-- Highlights code of a language. -/
  highlight : (code language : String) → m (Except HighlightError String)
  /-- Renders a diagram's source to an SVG whose root has the given id. -/
  diagram? : Option ((source id : String) → m (Except DiagramError String))

/-- Escaping only, and no diagrams. -/
def Services.plain {m : Type → Type} [Pure m] : Services m where
  highlight code language := pure (.ok (plainHighlight code language))
  diagram? := none

end Broadsheet
