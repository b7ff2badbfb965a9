import Broadsheet.Markdown.Spacing

/-!
# Broadsheet.Markdown.Line

The lines of a text, and cursors at the start of a line.

Indentation is measured in columns, and a tab reaches to the next multiple of
four.  Where a tab is wider than what is asked for, the rest of it stays ahead
as pending columns.
-/

namespace Broadsheet.Markdown

/-! ## Lines -/

/-- A line, and what ended it: nothing at the end of a text. -/
structure Line where
  text : List Char
  stop : List Char
  deriving DecidableEq

namespace Line

/-- Adds a character to the front of the first line. -/
def consText (c : Char) : List Line → List Line
  | [] => [⟨[c], []⟩]
  | l :: ls => { l with text := c :: l.text } :: ls

/-- The lines of a text.  A text that ends with a line's end has no empty line after it. -/
def ofText : List Char → List Line
  | [] => []
  | '\r' :: '\n' :: cs => ⟨[], ['\r', '\n']⟩ :: ofText cs
  | '\r' :: cs => ⟨[], ['\r']⟩ :: ofText cs
  | '\n' :: cs => ⟨[], ['\n']⟩ :: ofText cs
  | c :: cs => consText c (ofText cs)

/-- Whether a line goes on below in code and raw HTML, where a carriage return alone does not end
it. -/
def goesOn (stop : List Char) : Bool := stop == ['\r']

/-- What lines of code hold after a line that ended with `stop`, and the lines below that. -/
def tail (stop : List Char) : List Line → List Char × List Line
  | [] => ([], [])
  | l :: ls =>
    if goesOn stop then
      let (s, rest) := tail l.stop ls
      ('\r' :: l.text ++ s, rest)
    else ([], l :: ls)

/-- The text that lines come from. -/
def toText (ls : List Line) : List Char := ls.flatMap fun l => l.text ++ l.stop

theorem toText_consText (c : Char) (ls : List Line) : toText (consText c ls) = c :: toText ls := by
  cases ls <;> rfl

/-- Nothing of a text is lost. -/
theorem toText_ofText (s : List Char) : toText (ofText s) = s := by
  fun_induction ofText s with
  | case1 => rfl
  | case2 cs ih | case3 cs _ ih | case4 cs ih =>
    simp only [toText, List.flatMap_cons] at ih ⊢
    simp [ih]
  | case5 c cs _ _ _ ih => rw [toText_consText, ih]

end Line

/-! ## Cursors -/

/-- A place in a line, up to which everything has been read. -/
structure LineCursor where
  rest : List Char
  column : Nat
  /-- Columns ahead of the rest that belong to a tab. -/
  pending : Nat

namespace LineCursor

/-- The start of a line. -/
def start (s : List Char) : LineCursor := ⟨s, 0, 0⟩

/-- Takes up to `n` columns of white space: how many of them were missing, and the place after
the others. -/
def takeFrom : (n column : Nat) → List Char → Nat × LineCursor
  | 0, column, s => (0, ⟨s, column, 0⟩)
  | n + 1, column, ' ' :: s => takeFrom n (column + 1) s
  | n + 1, column, '\t' :: s =>
    let width := 4 - column % 4
    if width ≤ n + 1 then takeFrom (n + 1 - width) (column + width) s
    else (0, ⟨s, column + width, width - (n + 1)⟩)
  | n, column, s => (n, ⟨s, column, 0⟩)

/-- Takes up to `n` columns of white space, pending ones first. -/
def take (n : Nat) (c : LineCursor) : Nat × LineCursor :=
  if n ≤ c.pending then (0, { c with pending := c.pending - n })
  else takeFrom (n - c.pending) c.column c.rest

/-- Takes exactly `n` columns of white space. -/
def take? (n : Nat) (c : LineCursor) : Option LineCursor :=
  match c.take n with
  | (0, d) => some d
  | _ => none

/-- Drops all white space that indents. -/
def skipIndent (c : LineCursor) : LineCursor :=
  { c with rest := c.rest.dropWhile isIndent, pending := 0 }

/-- The place after so many characters that are no tabs. -/
def skip (n : Nat) (c : LineCursor) : LineCursor :=
  { c with rest := c.rest.drop n, column := c.column + n }

/-- Whether the line ends here. -/
def atEnd (c : LineCursor) : Bool := c.rest.isEmpty

/-- The rest of the line, with blanks for the pending columns. -/
def padded (c : LineCursor) : List Char := List.replicate c.pending ' ' ++ c.rest

end LineCursor

end Broadsheet.Markdown
