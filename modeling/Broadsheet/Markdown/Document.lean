import Broadsheet.Markdown.Leaf

/-!
# Broadsheet.Markdown.Document

Reading a Markdown document as a stream of events.

Blocks are read one at a time.  A line first continues the open containers,
then opens new ones, and what is left of it starts a leaf, which may take
lines below it.  After the box of a task there is only text.  Contents turn
into events when all definitions are known.
-/

namespace Broadsheet.Markdown

/-! ## Containers of a line -/

/-- What is left of a line when its containers are open. -/
inductive Remainder
  /-- Nothing: the line began an item and is otherwise blank. -/
  | none
  /-- Nothing: the line named the alert of a quote. -/
  | alert
  /-- The text after a task's box. -/
  | task (checked : Bool) (s : List Char)
  | leaf (c : LineCursor)

/-- Opens the containers that begin in a line.  Each has a mark, so that `fuel` need not exceed
the length of the line. -/
def openContainers : (fuel : Nat) → Outline → LineCursor → Outline × Remainder
  | 0, o, c => (o, .leaf c)
  | fuel + 1, o, c =>
    match c.take 4 with
    | (0, _) => (o, .leaf c)
    | (missing, d) =>
      match itemMark? (4 - missing) d with
      | some (m, e) =>
        let o := (o.continueList m).enter (.item m.indent [])
        if blankRest e.rest then ({ o with emptyItem := true }, .none)
        else match task? e with
          | some (checked, e) =>
            if blankRest e.rest then ({ o.add (.task checked) with emptyItem := true }, .none)
            else (o, .task checked (skipSpacing e.rest))
          | none => openContainers fuel o e
      | none =>
        match quoteMark? d with
        | some e =>
          match alert? e.rest with
          | some alert => (o.finishList.enter (.quote (some alert) []), .alert)
          | none => openContainers fuel (o.finishList.enter (.quote none [])) e
        | none => (o, .leaf c)

/-! ## Leaves -/

/-- Adds a block that ends the list before it. -/
def Outline.addLeaf (b : Block) (o : Outline) : Outline := o.finishList.add b

/-- Reads an indented block of code, whose first line is read up to its code. -/
def readIndented (o : Outline) (c : LineCursor) (stop : List Char) (below : List Line) :
    Outline × List Line :=
  let o := o.finishList
  let (more, rest) :=
    indentedLines o.spine (if Line.goesOn stop then some false else none) below
  let lines := trimBlankLines ((false, codeLine c stop) :: more)
  ({ o.add (.indentedCode lines) with afterBlank := more.getLast?.any (·.1) }, rest)

/-- Reads a definition that starts with the text `s`: the outline with it, and the lines after
it. -/
def readDefinitionBlock? (o : Outline) (s : List Char) (below : List Line) :
    Option (Outline × List Line) := do
  let (more, _, _) := paragraphLines o.finishList.spine below
  let text := joinParagraph s ['\n'] (more.map fun l => (l.1, ['\n']))
  let (definition, rest) ← readDefinition? text
  -- what is left of the paragraph are whole lines
  let left := if rest.isEmpty then 0 else rest.count '\n' + 1
  return (o.finishList.define definition, below.drop (more.length - left))

/-- Reads a paragraph that starts with the text `s`, or what turns out to be a table or a heading.
A table has no box. -/
def readParagraph (o : Outline) (task : Option Bool) (s stop : List Char) (below : List Line) :
    Outline × List Line :=
  let o := o.finishList
  match tableColumns? o.spine s below with
  | some columns =>
    let (rows, rest) := tableRows o.spine (below.drop 1)
    (o.add (.table columns (rowCells s) rows), rest)
  | none =>
    let (more, e, rest) := paragraphLines o.spine below
    let content := ⟨task, joinParagraph s stop more⟩
    match e with
    | .plain => (o.add (.paragraph content), rest)
    | .underlined level => (o.add (.heading level content), rest)

/-- Reads a leaf that starts at a place in a line. -/
def readLeaf (o : Outline) (c : LineCursor) (stop : List Char) (below : List Line) :
    Outline × List Line :=
  match c.take 4 with
  | (0, d) => readIndented o d stop below
  | (missing, d) =>
    let indent := 4 - missing
    let s := d.rest
    match Html.blockStart? false s with
    | some e =>
      let o := o.finishList
      let (more, rest) := htmlLines o.spine e (Line.goesOn stop) s below
      (o.add (.html ((max c.pending indent, s ++ plainLineEnd stop) :: more)), rest)
    | none =>
      if isRule s then (o.addLeaf .rule, below)
      else match heading? s with
        | some (level, t) => (o.addLeaf (.heading level ⟨none, headingContent t⟩), below)
        | none =>
          let (tail, afterTail) := Line.tail stop below
          match fence? s tail with
          | some f =>
            let o := o.finishList
            let (code, rest) := fencedLines o.spine indent f false afterTail
            (o.add (.fencedCode (trimSpacing (skipSpacing f.info)) code), rest)
          | none =>
            match readDefinitionBlock? o s below with
            | some found => found
            | none => readParagraph o none s stop below

/-! ## Documents -/

/-- Reads the leaf of a line that may be blank. -/
def readRemainder (o : Outline) (c : LineCursor) (stop : List Char) (below : List Line) :
    Outline × List Line :=
  if blankRest c.rest then (o.blankLine, below) else readLeaf o c stop below

/-- Reads a block from a line on.  The line below an alert's name continues a paragraph, as it
were, that holds the name: what could not interrupt a paragraph is text there. -/
def readBlock (o : Outline) (l : Line) (below : List Line) : Outline × List Line :=
  let (n, c) := enterAll o.spine (LineCursor.start l.text)
  let o := Outline.closeMany (o.frames.length - n) o
  match openContainers (l.text.length + 1) o c with
  | (o, .none) => (o, below)
  | (o, .task checked s) => readParagraph o (some checked) s l.stop below
  | (o, .leaf c) => readRemainder o c l.stop below
  | (o, .alert) =>
    match below with
    | [] => (o, below)
    | next :: rest =>
      let (entered, c) := enterLine o.spine next
      let (missing, d) := c.take 4
      if missing ≠ 0 && interrupts o.spine entered d.rest next.stop rest then (o, below)
      else readRemainder o d.skipIndent next.stop rest

/-- Reads blocks to the end of a document.  Each takes at least a line, so that `fuel` need not
exceed their number. -/
def readBlocks : (fuel : Nat) → Outline → List Line → Outline
  | 0, o, _ => o
  | _, o, [] => o
  | fuel + 1, o, l :: ls =>
    let (o, rest) := readBlock o l ls
    readBlocks fuel o rest

/-- The events of a Markdown document. -/
def documentEvents (text : String) : List Event :=
  let lines := Line.ofText text.toList
  let o := readBlocks lines.length Outline.empty lines
  blocksEvents o.definitions false o.finish

end Broadsheet.Markdown
