import Broadsheet.Markdown.Inline
import Broadsheet.Markdown.Table

/-!
# Broadsheet.Markdown.Block

The blocks of a document as a tree, and the events that they stand for.

The content of a block is kept as it is written, since what it means depends
on the definitions of the whole document.  A list is tight when no blank line
stands between its items or the blocks in them; the paragraphs of its items
have no tags.
-/

namespace Broadsheet.Markdown

/-- A paragraph's or heading's content, with the state of the task box before it if it has one. -/
structure Content where
  task : Option Bool
  text : List Char
  deriving DecidableEq

/-- A block of a document. -/
inductive Block
  | rule
  | heading (level : HeadingLevel) (content : Content)
  | paragraph (content : Content)
  /-- The box of a task without text. -/
  | task (checked : Bool)
  | fencedCode (info : List Char) (lines : List (List Char))
  | indentedCode (lines : List (List Char))
  /-- Raw HTML, with the columns that its lines are indented by. -/
  | html (lines : List (Nat × List Char))
  | table (columns : List Alignment) (header : List (List Char)) (rows : List (List (List Char)))
  | quote (alert : Option AlertVariant) (inner : List Block)
  | list (start : Option UInt64) (tight : Bool) (items : List (List Block))

/-! ## Events -/

/-- Events between the tags of an element. -/
def within (tag : Tag) (inner : List Event) : List Event :=
  .opening tag :: inner ++ [.closing tag.toEnd]

/-- An event of text. -/
def textEvent (s : List Char) : Event := .text (String.ofList s)

/-- The events of a content. -/
def Content.events (ds : Definitions) (c : Content) : List Event :=
  (match c.task with
    | some checked => [.taskMarker checked]
    | none => []) ++ inlineEvents ds c.text

/-- The events of a line of raw HTML. -/
def htmlLineEvents : Nat × List Char → List Event
  | (0, s) => [.html (String.ofList s)]
  | (indent, s) => [textEvent (List.replicate indent ' '), .html (String.ofList s)]

/-- The events of a table's row. -/
def rowEvents (ds : Definitions) (tag : Tag) (cells : List (List Char)) : List Event :=
  within tag (cells.flatMap fun cell => within .tableCell (inlineEvents ds cell))

mutual

/-- The events of a block.  In a tight list paragraphs have no tags. -/
def Block.events (ds : Definitions) (tight : Bool) : Block → List Event
  | .rule => [.rule]
  | .heading level content => within (.heading level) (content.events ds)
  | .paragraph content =>
    if tight then content.events ds else within .paragraph (content.events ds)
  | .task checked => [.taskMarker checked]
  | .fencedCode info lines =>
    within (.fencedCode (String.ofList (unescape info))) (lines.map textEvent)
  | .indentedCode lines => within .indentedCode (lines.map textEvent)
  | .html lines => within .htmlBlock (lines.flatMap htmlLineEvents)
  | .table columns header rows =>
    let fit := fitCells columns.length
    within (.table columns)
      (rowEvents ds .tableHead (fit header) ++
        rows.flatMap fun cells => rowEvents ds .tableRow (fit cells))
  | .quote alert inner => within (.quote alert) (blocksEvents ds false inner)
  | .list start tight items => within (.list start) (itemsEvents ds tight items)

/-- The events of blocks side by side. -/
def blocksEvents (ds : Definitions) (tight : Bool) : List Block → List Event
  | [] => []
  | b :: bs => b.events ds tight ++ blocksEvents ds tight bs

/-- The events of a list's items. -/
def itemsEvents (ds : Definitions) (tight : Bool) : List (List Block) → List Event
  | [] => []
  | i :: is => within .item (blocksEvents ds tight i) ++ itemsEvents ds tight is

end

end Broadsheet.Markdown
