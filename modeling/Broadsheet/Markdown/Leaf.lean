import Broadsheet.Markdown.Html
import Broadsheet.Markdown.Outline
import Broadsheet.Markdown.Table

/-!
# Broadsheet.Markdown.Leaf

The lines of blocks that hold no others: code, raw HTML, tables and paragraphs.
Each function takes the lines below and gives back those that are not part of
the block.

A paragraph goes on until something interrupts it.  Its lines need no longer
start with the marks of all open containers; a line that lacks some only
belongs to the paragraph if nothing else can start there.
-/

namespace Broadsheet.Markdown

/-- The place in a line after the marks of the open containers, and whether it has all of them. -/
def enterLine (fs : List Frame) (l : Line) : Bool × LineCursor :=
  let (n, c) := enterAll fs (LineCursor.start l.text)
  (n == fs.length, c)

/-- The rest of a line of code with its end. -/
def codeLine (c : LineCursor) (stop : List Char) : List Char := c.padded ++ plainLineEnd stop

/-! ## Code -/

/-- The lines of a fenced block, whose opening fence is indented by `indent` columns.  With
`goingOn` the first line belongs to a line of code above. -/
def fencedLines (fs : List Frame) (indent : Nat) (f : Fence) : (goingOn : Bool) →
    List Line → List (List Char) × List Line
  | _, [] => ([], [])
  | true, l :: ls =>
    let (code, rest) := fencedLines fs indent f (Line.goesOn l.stop) ls
    ((l.text ++ plainLineEnd l.stop) :: code, rest)
  | false, l :: ls =>
    match enterLine fs l with
    | (false, _) => ([], l :: ls)
    | (true, c) =>
      let c := (c.take indent).2
      let (missing, d) := c.take (4 - indent)
      if missing ≠ 0 && f.closedBy d.rest then ([], ls)
      else
        let (code, rest) := fencedLines fs indent f (Line.goesOn l.stop) ls
        (codeLine c l.stop :: code, rest)

/-- The lines of an indented block after its first one, each with whether it is blank.  The first
line belongs to the line of code above if that goes on. -/
def indentedLines (fs : List Frame) : (goingOn : Option Bool) → List Line →
    List (Bool × List Char) × List Line
  | _, [] => ([], [])
  | some blank, l :: ls =>
    let (code, rest) := indentedLines fs (if Line.goesOn l.stop then some blank else none) ls
    ((blank, l.text ++ plainLineEnd l.stop) :: code, rest)
  | none, l :: ls =>
    match enterLine fs l with
    | (false, _) => ([], l :: ls)
    | (true, c) =>
      let (missing, d) := c.take 4
      if (missing ≠ 0 && !d.atEnd) || (d.atEnd && l.stop.isEmpty) then ([], l :: ls)
      else
        let blank := blankRest d.rest
        let (code, rest) := indentedLines fs (if Line.goesOn l.stop then some blank else none) ls
        ((blank, codeLine d l.stop) :: code, rest)

/-- The lines of an indented block without blank ones at the end. -/
def trimBlankLines (ls : List (Bool × List Char)) : List (List Char) :=
  ((ls.reverse.dropWhile (·.1)).map (·.2)).reverse

/-! ## HTML -/

/-- A line of raw HTML: the columns that it is indented by, and the rest with its end. -/
def htmlLine (c : LineCursor) (stop : List Char) : Nat × List Char :=
  (c.pending, c.rest ++ plainLineEnd stop)

/-- Whether a block of HTML is over with a line of the given text. -/
def Html.BlockEnd.reached : Html.BlockEnd → List Char → Bool
  | .after mark, s => contains mark.toList s
  | .blank, _ => false

/-- The lines of a block of HTML after a line with the given text.  The first line belongs to
that one if it goes on. -/
def htmlLines (fs : List Frame) (e : Html.BlockEnd) :
    (goingOn : Bool) → (above : List Char) → List Line → List (Nat × List Char) × List Line
  | _, _, [] => ([], [])
  | true, above, l :: ls =>
    let (html, rest) := htmlLines fs e (Line.goesOn l.stop) (above ++ l.text) ls
    ((0, l.text ++ plainLineEnd l.stop) :: html, rest)
  | false, above, l :: ls =>
    match enterLine fs l with
    | (false, _) => ([], l :: ls)
    | (true, c) =>
      if e.reached above || (e == .blank && blankRest c.rest) || (c.atEnd && l.stop.isEmpty) then
        ([], l :: ls)
      else
        let (html, rest) := htmlLines fs e (Line.goesOn l.stop) c.rest ls
        (htmlLine c l.stop :: html, rest)

/-! ## Interruptions -/

/-- The columns of a table whose first line has the text `s`, if the line below delimits it. -/
def tableColumns? (fs : List Frame) (s : List Char) : List Line → Option (List Alignment)
  | [] => none
  | l :: _ =>
    match headerColumns? s, enterLine fs l with
    | some n, (true, c) => (delimiterRow? c).filter fun columns => columns.length == n
    | _, _ => none

/-- Whether a line with the text `s` and the end `stop` interrupts a paragraph or a table, where
`anyItem` lets all items of lists do so. -/
def interruptsText (anyItem : Bool) (s stop : List Char) (below : List Line) : Bool :=
  s.isEmpty || isRule s || (heading? s).isSome || (fence? s (Line.tail stop below).1).isSome ||
    s.head? = some '>' || (itemInterrupts s below.head?).any (fun first => first || anyItem) ||
    (Html.blockStart? true s).isSome

/-- Whether a line interrupts a paragraph.  Any item does so where the line lacks the mark of a
container, and a table does if it starts with a bar. -/
def interrupts (fs : List Frame) (entered : Bool) (s stop : List Char) (below : List Line) : Bool :=
  interruptsText (!entered) s stop below ||
    (s.head? = some '|' && (tableColumns? fs s below).isSome)

/-! ## Tables -/

/-- The rows of a table below its delimiter row. -/
def tableRows (fs : List Frame) : List Line → List (List (List Char)) × List Line
  | [] => ([], [])
  | l :: ls =>
    match enterLine fs l with
    | (false, _) => ([], l :: ls)
    | (true, c) =>
      let s := c.skipIndent.rest
      let cells := rowCells s
      if interruptsText true s l.stop ls || cells.isEmpty then ([], l :: ls)
      else
        let (rows, rest) := tableRows fs ls
        (cells :: rows, rest)

/-! ## Paragraphs -/

/-- How the lines of a paragraph end. -/
inductive ParagraphEnd
  | plain
  /-- With a line that makes the paragraph a heading. -/
  | underlined (level : HeadingLevel)

/-- The lines of a paragraph after its first one, each without the marks of containers, what
ends them, and the lines below. -/
def paragraphLines (fs : List Frame) :
    List Line → List (List Char × List Char) × ParagraphEnd × List Line
  | [] => ([], .plain, [])
  | l :: ls =>
    let (entered, c) := enterLine fs l
    let (missing, d) := c.take 4
    let underline := if entered && missing ≠ 0 then underline? d.rest else none
    match underline with
    | some level => ([], .underlined level, ls)
    | none =>
      if (missing ≠ 0 && interrupts fs entered d.rest l.stop ls) || d.skipIndent.atEnd then
        ([], .plain, l :: ls)
      else
        let (text, e, rest) := paragraphLines fs ls
        ((c.rest, l.stop) :: text, e, rest)

/-- The text of a paragraph whose first line is `s` and ends with `stop`: the last line has no
end. -/
def joinParagraph (s stop : List Char) : List (List Char × List Char) → List Char
  | [] => s
  | (t, stop') :: ls => s ++ stop ++ joinParagraph t stop' ls

end Broadsheet.Markdown
