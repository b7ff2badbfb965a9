import Broadsheet.Markdown.Block
import Broadsheet.Markdown.Mark

/-!
# Broadsheet.Markdown.Outline

The blocks of a document up to some line, and the quotes, lists and items that
are still open there.

A line belongs to the open containers whose marks or indentation it starts
with; the first one that it lacks is closed, and all inside it.
-/

namespace Broadsheet.Markdown

/-! ## Containers -/

/-- An open container with what is in it so far, latest first. -/
inductive Frame
  | quote (alert : Option AlertVariant) (inner : List Block)
  | list (mark : Char) (start : Nat) (tight : Bool) (items : List (List Block))
  | item (indent : Nat) (inner : List Block)

/-- The place in a line after what it needs to belong to a container.  An item takes empty
lines however they are indented. -/
def Frame.enter? : Frame → LineCursor → Option LineCursor
  | .quote _ _, c => quoteMark? c
  | .list _ _ _ _, c => some c
  | .item indent _, c =>
    match c.take indent with
    | (0, d) => some d
    | (_, d) => if d.atEnd then some d else none

/-- How many containers, outermost first, a line belongs to, and the place after what it needs
for them. -/
def enterAll : List Frame → LineCursor → Nat × LineCursor
  | [], c => (0, c)
  | f :: fs, c =>
    match f.enter? c with
    | some d => let (n, e) := enterAll fs d; (n + 1, e)
    | none => (0, c)

/-- The list that starts with the given mark and number. -/
def listStart (mark : Char) (number : Nat) : Option UInt64 :=
  if mark == '.' || mark == ')' then some (UInt64.ofNat number) else none

/-! ## Outlines -/

/-- A document up to some line. -/
structure Outline where
  /-- The finished blocks at the top, latest first. -/
  blocks : List Block
  /-- The open containers, innermost first. -/
  frames : List Frame
  /-- Whether a blank line came last, where it counts for a list. -/
  afterBlank : Bool
  /-- Whether the innermost item has just begun with a blank line. -/
  emptyItem : Bool
  definitions : Definitions

namespace Outline

/-- The outline before the first line. -/
def empty : Outline := ⟨[], [], false, false, []⟩

/-- The open containers, outermost first. -/
def spine (o : Outline) : List Frame := o.frames.reverse

/-- Adds a block to the innermost container.  In a list it is an item of its own. -/
def add (b : Block) (o : Outline) : Outline :=
  match o.frames with
  | [] => { o with blocks := b :: o.blocks }
  | .quote alert inner :: fs => { o with frames := .quote alert (b :: inner) :: fs }
  | .item indent inner :: fs => { o with frames := .item indent (b :: inner) :: fs }
  | .list mark start tight items :: fs =>
    { o with frames := .list mark start tight ([b] :: items) :: fs }

/-- Closes the innermost container. -/
def close (o : Outline) : Outline :=
  match o.frames with
  | [] => o
  | .quote alert inner :: fs => { o with frames := fs }.add (.quote alert inner.reverse)
  | .list mark start tight items :: fs =>
    { o with frames := fs, emptyItem := o.emptyItem && !tight }.add
      (.list (listStart mark start) tight items.reverse)
  | .item _ inner :: .list mark start tight items :: fs =>
    { o with frames := .list mark start tight (inner.reverse :: items) :: fs }
  | .item _ inner :: fs => { o with frames := fs, blocks := inner ++ o.blocks }

/-- Closes so many containers. -/
def closeMany : Nat → Outline → Outline
  | 0, o => o
  | n + 1, o => closeMany n o.close

/-- Opens a container. -/
def enter (f : Frame) (o : Outline) : Outline := { o with frames := f :: o.frames }

/-- Settles an item that began with a blank line: after another one it is over. -/
def settleEmptyItem (o : Outline) : Outline :=
  let ended := match o.frames with
    | .item _ _ :: _ => o.emptyItem && o.afterBlank
    | _ => false
  { (if ended then o.close else o) with emptyItem := false }

/-- Makes the list around the innermost item loose. -/
def loosen (o : Outline) : Outline :=
  match o.frames with
  | f :: .list mark start _ items :: fs =>
    { o with frames := f :: .list mark start false items :: fs }
  | _ => o

/-- Ends a list whose items are not continued, and makes the list around it loose if a blank line
came last. -/
def finishList (o : Outline) : Outline :=
  let o := o.settleEmptyItem
  let o := match o.frames with
    | .list _ _ _ _ :: _ => o.close
    | _ => o
  if o.afterBlank then { o.loosen with afterBlank := false } else o

/-- Continues the list that was left open if it has the given mark, and starts one otherwise. -/
def continueList (m : ItemMark) (o : Outline) : Outline :=
  let o := o.settleEmptyItem
  let fresh (o : Outline) : Outline :=
    { o.finishList.enter (.list m.mark m.number true []) with afterBlank := false }
  match o.frames with
  | .list mark start tight items :: fs =>
    if mark == m.mark then
      { o with
        frames := .list mark start (tight && !o.afterBlank) items :: fs
        afterBlank := false }
    else fresh o
  | _ => fresh o

/-- Notes a blank line.  After it an item that began with one has no indentation. -/
def blankLine (o : Outline) : Outline :=
  match o.frames with
  | .quote _ _ :: _ => o
  | .item indent inner :: fs =>
    { o with
      frames := .item (if o.emptyItem then 0 else indent) inner :: fs
      afterBlank := true }
  | _ => { o with afterBlank := true }

/-- Adds a definition; the first one of a label counts. -/
def define (d : List Char × Target) (o : Outline) : Outline :=
  { o with definitions := o.definitions ++ [d] }

/-- The blocks of the whole document, with all containers closed. -/
def finish (o : Outline) : List Block := (closeMany o.frames.length o).blocks.reverse

end Outline

end Broadsheet.Markdown
