import Broadsheet.Markdown.Line
import Broadsheet.Style.Kind
import Broadsheet.Text.Category
import Broadsheet.Text.Double
import Broadsheet.Text.Search

/-!
# Broadsheet.Markdown.Mark

The marks that blocks begin with, each recognised at a place in a line: rules,
headings, fences, list items, tasks, quotes and alerts.
-/

namespace Broadsheet.Markdown

/-! ## Leaves -/

/-- A rule: three or more of one of `*`, `-` and `_`, with white space anywhere between. -/
def isRule (s : List Char) : Bool :=
  match s with
  | c :: _ =>
    (c == '*' || c == '-' || c == '_') && s.all (fun x => x == c || isIndent x) &&
      3 ≤ s.countP (· == c)
  | [] => false

/-- The level of a heading that starts with so many `#`, and what follows them. -/
def heading? (s : List Char) : Option (HeadingLevel × List Char) :=
  let n := runLength '#' s
  let r := s.drop n
  if r.head?.all isGap then (HeadingLevel.ofNat? n).map (·, r) else none

/-- The content of a heading's line: without the white space around it, and without a closing
run of `#` that stands alone or after white space. -/
def headingContent (s : List Char) : List Char :=
  let s := trimSpacing (skipSpacing s)
  let body := (s.reverse.dropWhile (· == '#')).reverse
  match body.getLast? with
  | none => []
  | some c => if isIndent c then trimSpacing body else s

/-- A line of `=` or `-` alone, which makes the paragraph above it a heading. -/
def underline? (s : List Char) : Option HeadingLevel :=
  match s with
  | '=' :: _ => if blankRest (s.dropWhile (· == '=')) then some .one else none
  | '-' :: _ => if blankRest (s.dropWhile (· == '-')) then some .two else none
  | _ => none

/-- The opening fence of a block of code. -/
structure Fence where
  mark : Char
  length : Nat
  /-- The text after the fence. -/
  info : List Char

/-- An opening fence: three or more of `~` or of the backtick, the latter with no other backtick
in the line, which goes on with `tail`. -/
def fence? (s tail : List Char) : Option Fence :=
  match s with
  | c :: _ =>
    let n := runLength c s
    let r := s.drop n ++ tail
    if (c == '\x60' && !r.contains '\x60' || c == '~') && 3 ≤ n then some ⟨c, n, r⟩ else none
  | [] => none

/-- Whether a line closes a block with the given fence: it holds at least as many marks and
nothing else. -/
def Fence.closedBy (f : Fence) (s : List Char) : Bool :=
  let n := runLength f.mark s
  f.length ≤ n && (s.drop n).all (· == ' ')

/-! ## List items -/

/-- The mark of a list item. -/
structure ItemMark where
  /-- The bullet, or the character after the number. -/
  mark : Char
  /-- The number, which is zero for a bullet. -/
  number : Nat
  /-- The columns that lines of the item are indented by. -/
  indent : Nat

/-- The place after the white space that follows an item's mark of the given width: one column
of it, and up to three more if there is text after them. -/
def afterItemMark? (width : Nat) (c : LineCursor) : Option (Nat × LineCursor) :=
  match c.take? 1, c.atEnd with
  | none, false => none
  | none, true => some (width + 1, c)
  | some d, _ =>
    if blankRest d.rest then some (width + 1, d)
    else match d.take 4 with
      | (0, _) => some (width + 1, d)
      | (missing, e) => some (width + 1 + (4 - missing), e)

/-- Reads the mark of a list item that stands `outer` columns from its margin. -/
def itemMark? (outer : Nat) (c : LineCursor) : Option (ItemMark × LineCursor) :=
  let marked (mark : Char) (number width : Nat) :=
    (afterItemMark? (outer + width) (c.skip width)).map fun (indent, d) =>
      (ItemMark.mk mark number indent, d)
  match c.rest with
  | [] => none
  | x :: _ =>
    if x == '-' || x == '+' || x == '*' then
      if isRule c.rest then none else marked x 0 1
    else
      let digits := c.rest.takeWhile Decimal.isDigit
      match digits.length, c.rest[digits.length]? with
      | 0, _ => none
      | n, some y => if n ≤ 9 && (y == '.' || y == ')') then marked y (Decimal.natValue digits) (n + 1) else none
      | _, none => none

/-- Whether a list item that starts here, with the given line below, may interrupt a paragraph:
it is the first of its list, and neither it nor the next line is blank. -/
def itemInterrupts (s : List Char) (below : Option Line) : Option Bool :=
  (itemMark? 0 (LineCursor.start s)).map fun (m, c) =>
    (m.number = 1 || m.mark == '-' || m.mark == '+' || m.mark == '*') &&
      !(blankRest c.rest && below.all fun l => blankRest l.text)

/-- Reads the box of a task, `[ ]` or `[x]` with white space after it: whether it is checked. -/
def task? (c : LineCursor) : Option (Bool × LineCursor) :=
  let d := (c.take 3).2
  match d.rest with
  | '[' :: x :: ']' :: y :: _ =>
    if !isSpacing y then none
    else if isSpacing x then some (false, d.skip 3)
    else if x == 'x' || x == 'X' then some (true, d.skip 3)
    else none
  | _ => none

/-! ## Quotes -/

/-- Reads the mark of a quote, `>` with up to three columns before it and one after it. -/
def quoteMark? (c : LineCursor) : Option LineCursor :=
  let d := (c.take 3).2
  match d.pending, d.rest with
  | 0, '>' :: _ => some ((d.skip 1).take 1).2
  | _, _ => none

/-- The alert that a line names when it holds nothing but `[!name]`. -/
def alert? (s : List Char) : Option AlertVariant := do
  let name ← after? ['[', '!'] s
  AlertVariant.all.find? fun v =>
    let n := v.name.length
    (name.take n).map Char.toLower == v.name.toList &&
      (match name.drop n with
        | ']' :: r => blankRest r
        | _ => false)

end Broadsheet.Markdown
