import Broadsheet.Style.Kind

/-!
# Broadsheet.Document.Event

A document as a flat stream of events, the form in which it comes from the
Markdown reader.  A tag that is opened is closed by a later event; streams
that do not balance are values too, and what reads them takes them as they
come.
-/

namespace Broadsheet

/-- How the cells of a table's column are aligned. -/
inductive Alignment
  | none | left | center | right
  deriving DecidableEq

/-- What an opening event opens. -/
inductive Tag
  | paragraph
  | heading (level : HeadingLevel)
  | quote (alert : Option AlertVariant)
  /-- A fenced block of code with the text after its opening fence. -/
  | fencedCode (info : String)
  | indentedCode
  | htmlBlock
  /-- A list; an ordered one has the number of its first item. -/
  | list (start : Option UInt64)
  | item
  | footnoteDefinition (label : String)
  | definitionList
  | definitionTitle
  | definitionBody
  | table (columns : List Alignment)
  | tableHead
  | tableRow
  | tableCell
  | emphasis
  | strong
  | strikethrough
  | superscript
  | subscript
  | link (href title : String)
  | image (src title : String)
  | metadata
  deriving DecidableEq

/-- What a closing event closes. -/
inductive TagEnd
  | paragraph
  | heading (level : HeadingLevel)
  | quote
  | code
  | htmlBlock
  | list (ordered : Bool)
  | item
  | footnoteDefinition
  | definitionList
  | definitionTitle
  | definitionBody
  | table
  | tableHead
  | tableRow
  | tableCell
  | emphasis
  | strong
  | strikethrough
  | superscript
  | subscript
  | link
  | image
  | metadata
  deriving DecidableEq

/-- The closing event that belongs to an opening one. -/
def Tag.toEnd : Tag → TagEnd
  | paragraph => .paragraph
  | heading level => .heading level
  | quote _ => .quote
  | fencedCode _ => .code
  | indentedCode => .code
  | htmlBlock => .htmlBlock
  | list start => .list start.isSome
  | item => .item
  | footnoteDefinition _ => .footnoteDefinition
  | definitionList => .definitionList
  | definitionTitle => .definitionTitle
  | definitionBody => .definitionBody
  | table _ => .table
  | tableHead => .tableHead
  | tableRow => .tableRow
  | tableCell => .tableCell
  | emphasis => .emphasis
  | strong => .strong
  | strikethrough => .strikethrough
  | superscript => .superscript
  | subscript => .subscript
  | link _ _ => .link
  | image _ _ => .image
  | metadata => .metadata

/-- One event of a document. -/
inductive Event
  | opening (tag : Tag)
  | closing (tag : TagEnd)
  | text (s : String)
  | code (s : String)
  | html (s : String)
  | inlineHtml (s : String)
  | inlineMath (s : String)
  | displayMath (s : String)
  | footnoteReference (label : String)
  | softBreak
  | hardBreak
  | rule
  | taskMarker (checked : Bool)
  deriving DecidableEq

end Broadsheet
