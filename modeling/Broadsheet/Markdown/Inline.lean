import Broadsheet.Markdown.Emphasis
import Broadsheet.Markdown.Html
import Broadsheet.Markdown.Link

/-!
# Broadsheet.Markdown.Inline

The content of a paragraph, a heading or a cell as events.

It is read from left to right.  Code, raw HTML and addresses are settled as
soon as they start; brackets wait for the one that closes them, and a link
never holds another.  Emphasis is settled last, for the content of each link
and then for what is around the links.
-/

namespace Broadsheet.Markdown

/-! ## Code -/

/-- Drops the first run of exactly `n` backticks and all that comes before it; `run` backticks
come before the text. -/
def skipCode? (n : Nat) : (run : Nat) → List Char → Option (List Char)
  | run, [] => if run = n then some [] else none
  | run, c :: s =>
    if c == '\x60' then skipCode? n (run + 1) s
    else if run = n then some (c :: s)
    else skipCode? n 0 s

/-- Line ends as blanks. -/
def blankLineEnds : List Char → List Char
  | '\r' :: '\n' :: s => ' ' :: blankLineEnds s
  | c :: s => (if isLineEnd c then ' ' else c) :: blankLineEnds s
  | [] => []

/-- The text of a span of code: one blank is taken from both ends, if both have one and the span
does not consist of blanks. -/
def codeText (s : List Char) : List Char :=
  let s := blankLineEnds s
  if s.head? = some ' ' ∧ s.getLast? = some ' ' ∧ !s.all (· == ' ') then (s.drop 1).dropLast else s

/-- Reads a span of code that starts with `n` backticks, which have been read. -/
def readCode? (n : Nat) (s : List Char) : Option (List Char × List Char) :=
  (skipCode? n 0 s).map fun r => (codeText (s.take (s.length - r.length - n)), r)

/-! ## Brackets -/

/-- A bracket that waits to be closed. -/
structure Bracket where
  image : Bool
  /-- Whether a link may still start here. -/
  active : Bool
  /-- The text after the bracket. -/
  label : List Char
  /-- The pieces before the bracket, latest first. -/
  outer : List Piece

namespace Bracket

/-- The bracket as text. -/
def text (b : Bracket) : Piece := .event (.text (if b.image then "![" else "["))

/-- The tag of the link or image that starts here. -/
def tag (b : Bracket) (t : Target) : Tag :=
  if b.image then .image t.destination t.title else .link t.destination t.title

end Bracket

/-- The pieces since the innermost open bracket, latest first, and the open brackets, innermost
first. -/
structure InlineState where
  pieces : List Piece
  brackets : List Bracket

namespace InlineState

/-- Adds a piece. -/
def add (p : Piece) (s : InlineState) : InlineState := { s with pieces := p :: s.pieces }

/-- Adds text. -/
def addText (t : List Char) (s : InlineState) : InlineState :=
  s.add (.event (.text (String.ofList t)))

/-- Opens a bracket. -/
def openBracket (image : Bool) (rest : List Char) (s : InlineState) : InlineState :=
  ⟨[], ⟨image, true, rest, s.pieces⟩ :: s.brackets⟩

/-- Gives up a bracket: it is text. -/
def dropBracket (b : Bracket) (brackets : List Bracket) (s : InlineState) : InlineState :=
  ⟨s.pieces ++ b.text :: b.outer, brackets⟩

/-- Wraps the pieces since a bracket in a link or an image.  No link may start before a link. -/
def closeBracket (b : Bracket) (t : Target) (brackets : List Bracket) (s : InlineState) :
    InlineState :=
  let tag := b.tag t
  let inner := settle s.pieces.reverse
  let pieces := (Event.closing tag.toEnd :: inner ++ [Event.opening tag]).map Piece.event
  ⟨pieces ++ b.outer,
    if b.image then brackets else brackets.map fun c => { c with active := c.active && c.image }⟩

/-- The events of everything read, with open brackets as text. -/
def events (s : InlineState) : List Event :=
  let pieces := s.brackets.foldl (fun ps b => ps ++ b.text :: b.outer) s.pieces
  (settle pieces.reverse).reverse

end InlineState

/-- The target of a label. -/
def findTarget? (ds : Definitions) (label : List Char) : Option Target :=
  ds.lookup (normalLabel label)

/-- The target of a bracket that is closed before `rest`, and the text after all of the link: a
target in parentheses, a label in brackets, or else the bracket's own text as a label. -/
def bracketTarget? (ds : Definitions) (b : Bracket) (rest : List Char) :
    Option (Target × List Char) :=
  let own (rest' : List Char) : Option (Target × List Char) := do
    let (label, r) ← readLabel? b.label
    guard (r.length = rest.length)
    (findTarget? ds label).map (·, rest')
  match readTarget? rest with
  | some found => some found
  | none =>
    match rest with
    | '[' :: ']' :: r => own r
    | '[' :: s =>
      match readLabel? s with
      | some (label, r) => (findTarget? ds label).map (·, r)
      | none => own rest
    | _ => own rest

/-! ## Reading -/

/-- Whether a character may begin something other than text. -/
def isSpecial (c : Char) : Bool := isGap c || "\\*_~\x60<![]&".toList.contains c

/-- What the end of a line stands for, by the number of characters of white space before it. -/
def lineBreak (spacing : Nat) : Piece := .event (if 2 ≤ spacing then .hardBreak else .softBreak)

/-- Reads the end of a line, and the indentation of the next one. -/
def nextLine? (s : List Char) : Option (List Char) :=
  (afterLineEnd? s).map fun r => r.dropWhile isIndent

/-- Reads one piece that starts with `c`, a special character.  The result is the new state, the
last character that was read, and the rest, no longer than `s`. -/
def readSpecial (ds : Definitions) (before : Option Char) (c : Char) (s : List Char)
    (st : InlineState) : InlineState × Char × List Char :=
  let asText := (st.addText [c], c, s)
  if isSpacing c then
    let width := (s.takeWhile isSpacing).length
    let r := s.drop width
    match nextLine? r with
    | some t => (st.add (lineBreak (width + 1)), '\n', t)
    | none =>
      if r.isEmpty then (st, c, r)
      else (st.addText (c :: s.take width), ((c :: s.take width).getLast?).getD c, r)
  else if isLineEnd c then
    (st.add (lineBreak 0), '\n', (nextLine? (c :: s)).getD s)
  else match c, s with
  | '\\', x :: r =>
    if isAsciiPunctuation x then (st.addText [x], x, r)
    else match nextLine? s with
      | some t => (st.add .escapedBreak, '\n', t)
      | none => asText
  | '\x60', _ =>
    let n := runLength '\x60' s
    let r := s.drop n
    match readCode? (n + 1) r with
    | some (code, t) => (st.add (.event (.code (String.ofList code))), '\x60', t)
    | none => (st.addText (List.replicate (n + 1) '\x60'), '\x60', r)
  | '<', _ =>
    match readAddress? s with
    | some (address, r) =>
      let text := String.ofList address
      (((st.add (.event (.opening (.link text "")))).add (.event (.text text))).add
        (.event (.closing .link)), '>', r)
    | none =>
      match Html.skipMarkup? s with
      | some r =>
        (st.add (.event (.inlineHtml (String.ofList (c :: s.take (s.length - r.length))))), '>', r)
      | none => asText
  | '!', '[' :: r => (st.openBracket true r, '[', r)
  | '[', _ => (st.openBracket false s, '[', s)
  | ']', _ =>
    match st.brackets with
    | [] => asText
    | b :: bs =>
      match if b.active then bracketTarget? ds b s else none with
      | some (target, r) => (st.closeBracket b target bs, ']', r)
      | none => ((st.dropBracket b bs).addText [c], c, s)
  | '&', _ =>
    match Entity.read? s with
    | some (value, r) => (st.addText value, ';', r)
    | none => asText
  | _, _ =>
    if c == '*' || c == '_' || c == '~' then
      let n := runLength c s
      let r := s.drop n
      let run := MarkRun.between before c (n + 1) r.head?
      if run.isMark then (st.add (.run run), c, r)
      else (st.addText (List.replicate (n + 1) c), c, r)
    else asText

/-- Reads pieces to the end of the content.  Every piece has a character, so that `fuel` need not
exceed the length. -/
def readPieces (ds : Definitions) : (fuel : Nat) → (before : Option Char) → List Char →
    InlineState → InlineState
  | 0, _, _, st => st
  | _, _, [], st => st
  | fuel + 1, before, c :: s, st =>
    if isSpecial c then
      let (st, last, r) := readSpecial ds before c s st
      readPieces ds fuel (some last) r st
    else
      let n := (s.takeWhile fun x => !isSpecial x).length
      let t := c :: s.take n
      readPieces ds fuel t.getLast? (s.drop n) (st.addText t)

/-- The events of a content, with the document's definitions at hand. -/
def inlineEvents (ds : Definitions) (content : List Char) : List Event :=
  (readPieces ds content.length none content ⟨[], []⟩).events

end Broadsheet.Markdown
