import Broadsheet.Style.Theme

/-!
# Broadsheet.Style.Compile

Flattening a theme into the style attributes of an article.  The entry of a
kind is the theme's base, then the parameters of this rendering, then the
family root's declarations, then the kind's own, each winning over the ones
before.  A kind that neither it nor its family root mentions gets no entry.
-/

namespace Broadsheet

/-- The custom property that carries the primary color until export. -/
def primaryColorProperty : String := "--md-primary-color"

/-- How property values refer to the primary color. -/
def primaryColorReference : String := "var(--md-primary-color)"

/-- The values of one rendering that are layered over a theme's base. -/
structure ThemeParams where
  fontFamily : String
  fontSize : String
  useIndent : Bool
  primaryColor : String

/-- The resolved declarations of those kinds that have an entry. -/
structure Styles where
  entry? : ElementKind → Option Properties

namespace Styles

/-- No attributes at all. -/
def empty : Styles := ⟨fun _ => none⟩

/-- The declarations of a kind, written out. -/
def declarations? (s : Styles) (k : ElementKind) : Option String := (s.entry? k).map Properties.write

/-- The number of kinds with an entry. -/
def size (s : Styles) : Nat := ElementKind.all.countP fun k => (s.entry? k).isSome

/-- Whether no kind has an entry. -/
def isEmpty (s : Styles) : Bool := s.size == 0

/-- A double quote would end the attribute value, so it is written as a reference. -/
def escapeAttribute (value : List Char) : List Char :=
  value.flatMap fun c => if c = '"' then "&quot;".toList else [c]

/-- The text between the quotes of a style attribute. -/
def attributeValue (declarations addition : String) : String :=
  String.ofList (escapeAttribute declarations.toList) ++
    String.ofList (escapeAttribute addition.toList)

/-- The style attribute of a kind with a text appended to its declarations, or nothing for a kind
without an entry.  A blank precedes the attribute. -/
def styleAttributeWith (s : Styles) (k : ElementKind) (addition : String) : String :=
  match s.declarations? k with
  | some d => " style=\"" ++ attributeValue d addition ++ "\""
  | none => ""

/-- The style attribute of a kind. -/
def styleAttribute (s : Styles) (k : ElementKind) : String := s.styleAttributeWith k ""

end Styles

namespace Theme

/-- The theme's base with the parameters of a rendering over it. -/
def baseWith (t : Theme) (params : ThemeParams) : Properties :=
  ((t.base.insert "font-family" params.fontFamily).insert "font-size" params.fontSize).insert
    primaryColorProperty params.primaryColor

/-- The own declarations of a kind.  Indented paragraphs get an indent below those. -/
def ownDeclarations (t : Theme) (useIndent : Bool) (k : ElementKind) : Option Properties :=
  if k = .paragraph ∧ useIndent then
    some ((Properties.ofPairs [("text-indent", "2em")]).overlay ((t.entry? k).getD ∅))
  else t.entry? k

/-- Flattens a theme for one rendering. -/
def compile (t : Theme) (params : ThemeParams) : Styles where
  entry? k :=
    let own := t.ownDeclarations params.useIndent k
    let root := k.familyRoot.bind t.entry?
    if own.isNone && root.isNone then none
    else some (((t.baseWith params).overlay (root.getD ∅)).overlay (own.getD ∅))

end Theme

end Broadsheet
