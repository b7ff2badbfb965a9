/-!
# Broadsheet.Markdown.Spacing

White space as Markdown sees it.  Only characters of ASCII count: blanks, tabs,
vertical tabs and form feeds within a line, and line feeds and carriage returns
between lines.
-/

namespace Broadsheet.Markdown

/-! ## Classes -/

/-- White space within a line. -/
def isSpacing (c : Char) : Bool := c == ' ' || c == '\t' || c == '\x0b' || c == '\x0c'

/-- Characters that end a line. -/
def isLineEnd (c : Char) : Bool := c == '\n' || c == '\r'

/-- White space within or between lines. -/
def isGap (c : Char) : Bool := isSpacing c || isLineEnd c

/-- Blanks and tabs, the white space that indents. -/
def isIndent (c : Char) : Bool := c == ' ' || c == '\t'

/-! ## Skipping -/

/-- Whether the rest of a line holds nothing. -/
def blankRest (s : List Char) : Bool := s.all isSpacing

/-- Drops white space from the start of a line's rest. -/
def skipSpacing (s : List Char) : List Char := s.dropWhile isSpacing

/-- Drops white space from the end of a line's rest. -/
def trimSpacing (s : List Char) : List Char := (s.reverse.dropWhile isSpacing).reverse

/-- What follows a line's end: a line feed, a carriage return, or both in one. -/
def afterLineEnd? : List Char → Option (List Char)
  | '\r' :: '\n' :: r => some r
  | '\r' :: r => some r
  | '\n' :: r => some r
  | _ => none

/-- Drops white space with at most one line's end in it. -/
def skipGap (s : List Char) : List Char :=
  let s := skipSpacing s
  match afterLineEnd? s with
  | some r => skipSpacing r
  | none => s

/-- The number of characters `c` that a text starts with. -/
def runLength (c : Char) (s : List Char) : Nat := (s.takeWhile (· == c)).length

/-- A line feed stands for a carriage return and a line feed. -/
def plainLineEnd (s : List Char) : List Char := if s = ['\r', '\n'] then ['\n'] else s

end Broadsheet.Markdown
