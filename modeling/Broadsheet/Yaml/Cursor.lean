/-!
# Broadsheet.Yaml.Cursor

Where the reading of a YAML text stands: the text ahead, and the line and
column that it starts in.  Five characters end a line; a carriage return and
a line feed after it end one line together.
-/

namespace Broadsheet.Yaml

/-- Whether a character ends a line. -/
def isBreak (c : Char) : Bool :=
  c == '\n' || c == '\r' || c == '\u0085' || c == '\u2028' || c == '\u2029'

/-- A blank or tab. -/
def isSpace (c : Char) : Bool := c == ' ' || c == '\t'

/-- Characters of names. -/
def isNameChar (c : Char) : Bool := c.isAlphanum || c == '_' || c == '-'

/-- Whether a text has a blank, a line's end, or its own end in front. -/
def blankAhead : List Char → Bool
  | [] => true
  | c :: _ => isSpace c || isBreak c

/-- Whether a text has a line's end or its own end in front. -/
def endAhead : List Char → Bool
  | [] => true
  | c :: _ => isBreak c

/-- A place in a text. -/
structure Cursor where
  rest : List Char
  /-- The number of characters before the place. -/
  index : Nat
  line : Nat
  column : Nat

namespace Cursor

/-- The start of a text. -/
def start (s : List Char) : Cursor := ⟨s, 0, 0, 0⟩

/-- The place after so many characters of the same line. -/
def skip (c : Cursor) (n : Nat) : Cursor :=
  { c with rest := c.rest.drop n, index := c.index + n, column := c.column + n }

/-- The place after a run of characters of the same line. -/
def skipWhile (c : Cursor) (p : Char → Bool) : Cursor := c.skip (c.rest.takeWhile p).length

/-- The run of characters ahead. -/
def run (c : Cursor) (p : Char → Bool) : List Char := c.rest.takeWhile p

/-- The place after a line's end, and the text that the line's end stands for: a line feed, but
for the two separators of Unicode, which stand for themselves. -/
def takeBreak (c : Cursor) : List Char × Cursor :=
  match c.rest with
  | '\r' :: '\n' :: r => (['\n'], ⟨r, c.index + 2, c.line + 1, 0⟩)
  | b :: r =>
    if isBreak b then
      (if b == '\u2028' || b == '\u2029' then [b] else ['\n'], ⟨r, c.index + 1, c.line + 1, 0⟩)
    else ([], c)
  | [] => ([], c)

/-- The place after a line's end. -/
def skipBreak (c : Cursor) : Cursor := c.takeBreak.2

/-- The place after blanks and a comment, at the end of the line if there is nothing else on it. -/
def skipComment (c : Cursor) : Cursor :=
  let c := c.skipWhile isSpace
  if c.rest.head? == some '#' then c.skipWhile fun x => !isBreak x else c

/-- Whether a mark of three characters stands at the start of a line, with a blank after it. -/
def atMark (c : Cursor) (mark : Char) : Bool :=
  c.column == 0 &&
  match c.rest with
  | a :: b :: d :: r => a == mark && b == mark && d == mark && blankAhead r
  | _ => false

/-- Whether a document starts or ends here. -/
def atDocumentMark (c : Cursor) : Bool := c.atMark '-' || c.atMark '.'

end Cursor

end Broadsheet.Yaml
