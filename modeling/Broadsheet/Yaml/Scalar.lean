import Broadsheet.Yaml.Cursor
import Broadsheet.Text.Double

/-!
# Broadsheet.Yaml.Scalar

Reading scalars: between quotes, plain, and as blocks.  Line breaks inside a
scalar are folded: one of them becomes a blank, and of several the first is
dropped.  `none` means that the text is no YAML.
-/

namespace Broadsheet.Yaml

open Decimal (hexDigit digitsValue isDigit)

/-! ## Folding -/

/-- White space between two pieces of a scalar. -/
structure Gap where
  /-- Whether a line ended. -/
  broken : Bool
  /-- Blanks of the one line. -/
  blanks : List Char
  /-- The first line's end. -/
  first : List Char
  /-- The ends of the lines after it. -/
  more : List Char

namespace Gap

/-- No white space. -/
def none : Gap := ⟨false, [], [], []⟩

/-- The text that the gap stands for. -/
def text (g : Gap) : List Char :=
  if g.broken then
    if g.first.head? == some '\n' then (if g.more.isEmpty then [' '] else g.more)
    else g.first ++ g.more
  else g.blanks

/-- Reads blanks and line breaks.  In a plain scalar of a block, a tab may not stand before the
column that the block's content starts in. -/
def read (tabLimit : Nat) : (fuel : Nat) → Gap → Cursor → Option (Gap × Cursor)
  | 0, g, c => some (g, c)
  | fuel + 1, g, c =>
    match c.rest with
    | [] => some (g, c)
    | x :: _ =>
      if isSpace x then
        if g.broken then
          if x == '\t' && c.column < tabLimit then Option.none
          else read tabLimit fuel g (c.skip 1)
        else read tabLimit fuel { g with blanks := g.blanks ++ [x] } (c.skip 1)
      else if isBreak x then
        let (b, c) := c.takeBreak
        if g.broken then read tabLimit fuel { g with more := g.more ++ b } c
        else read tabLimit fuel ⟨true, [], b, []⟩ c
      else some (g, c)

end Gap

/-! ## Quoted scalars -/

/-- The character of an escape that is given by a letter. -/
def escapeLetter : Char → Option Char
  | '0' => some '\x00'
  | 'a' => some '\x07'
  | 'b' => some '\x08'
  | 't' => some '\t'
  | '\t' => some '\t'
  | 'n' => some '\n'
  | 'v' => some '\x0b'
  | 'f' => some '\x0c'
  | 'r' => some '\r'
  | 'e' => some '\x1b'
  | ' ' => some ' '
  | '"' => some '"'
  | '/' => some '/'
  | '\\' => some '\\'
  | 'N' => some '\u0085'
  | '_' => some '\u00a0'
  | 'L' => some '\u2028'
  | 'P' => some '\u2029'
  | _ => none

/-- The number of digits of an escape that is given by a number. -/
def escapeLength : Char → Option Nat
  | 'x' => some 2
  | 'u' => some 4
  | 'U' => some 8
  | _ => none

/-- The character of hexadecimal digits. -/
def hexScalar (digits : List Char) : Option Char := do
  guard (digits.all fun c => (hexDigit c).isSome)
  let n := digitsValue 16 hexDigit 0 digits
  guard (n < 0xD800 ∨ (0xDFFF < n ∧ n < 0x110000))
  return Char.ofNat n

/-- Reads an escape after its backslash. -/
def readEscape (c : Cursor) : Option (Char × Cursor) :=
  match c.rest with
  | [] => none
  | x :: r =>
    match escapeLetter x, escapeLength x with
    | some e, _ => some (e, c.skip 1)
    | none, some n =>
      if (r.take n).length = n then (hexScalar (r.take n)).map fun e => (e, c.skip (n + 1))
      else none
    | none, none => none

/-- Reads the rest of a quoted scalar.  `gap` is white space that was read and not yet written. -/
def readQuoted (single : Bool) : (fuel : Nat) → Cursor → Option (List Char × Cursor)
  | 0, _ => none
  | fuel + 1, c =>
    if c.atDocumentMark then none
    else match c.rest with
      | [] => none
      | x :: r =>
        let quote := if single then '\'' else '"'
        if x = quote then
          if single && r.head? == some '\'' then do
            let (text, c) ← readQuoted single fuel (c.skip 2)
            return ('\'' :: text, c)
          else some ([], c.skip 1)
        else if !single && x == '\\' then
          if !r.isEmpty && endAhead r then do
            -- an escaped line break joins two lines without a blank
            let (gap, c) ← Gap.read 0 (r.length + 1) ⟨true, [], [], []⟩ (c.skip 1).skipBreak
            let (text, c) ← readQuoted single fuel c
            return (gap.text ++ text, c)
          else do
            let (e, c) ← readEscape (c.skip 1)
            let (text, c) ← readQuoted single fuel c
            return (e :: text, c)
        else if isSpace x || isBreak x then do
          let (gap, c) ← Gap.read 0 (r.length + 2) .none c
          let (text, c) ← readQuoted single fuel c
          return (gap.text ++ text, c)
        else do
          let (text, c) ← readQuoted single fuel (c.skip 1)
          return (x :: text, c)

/-! ## Plain scalars -/

/-- Whether a plain scalar ends before a character, given what follows it. -/
def endsPlain (flow : Bool) (x : Char) (r : List Char) : Bool :=
  (x == ':' && blankAhead r) || (flow && x ∈ [',', '[', ']', '{', '}'])

/-- Whether a colon inside a plain scalar stands before an indicator of a flow collection, where
none may. -/
def badColon (flow : Bool) (x : Char) (r : List Char) : Bool :=
  flow && x == ':' && r.head?.any fun y => y ∈ [',', '?', '[', ']', '{', '}']

/-- Reads the characters of a plain scalar up to white space or its end: the characters, and
whether the scalar ends with them. -/
def plainRun (flow : Bool) : List Char → Option (List Char × Bool)
  | [] => some ([], true)
  | x :: r =>
    if isSpace x || isBreak x then some ([], false)
    else if badColon flow x r then none
    else if endsPlain flow x r then some ([], true)
    else (plainRun flow r).map fun (run, ends) => (x :: run, ends)

/-- A plain scalar, and whether a line ended behind it. -/
structure PlainScalar where
  text : List Char
  broken : Bool
  cursor : Cursor

/-- Reads a plain scalar with white space before its next piece.  `indent` is the column that the
block's content starts in. -/
def readPlain (flow : Bool) (indent : Nat) : (fuel : Nat) → Gap → Cursor → Option PlainScalar
  | 0, _, _ => none
  | fuel + 1, gap, c =>
    if c.atDocumentMark || c.rest.head? == some '#' then some ⟨[], gap.broken, c⟩
    else do
      let (run, ends) ← plainRun flow c.rest
      let after := c.skip run.length
      -- a gap with nothing behind it is not part of the scalar
      let written := if run.isEmpty then [] else gap.text ++ run
      let gapLeft := if run.isEmpty then gap else .none
      if ends then return ⟨written, gapLeft.broken, after⟩
      else
        let (gap, next) ← Gap.read indent (after.rest.length + 1) gapLeft after
        if !flow && next.column < indent then return ⟨written, gap.broken, next⟩
        else
          let more ← readPlain flow indent fuel gap next
          return { more with text := written ++ more.text }

/-! ## Block scalars -/

/-- What becomes of the line breaks at the end of a block. -/
inductive Chomp
  | strip | clip | keep
  deriving DecidableEq

/-- Reads the indicators after the start of a block: the number of columns of its indentation, if
it is given, and what becomes of the last line breaks. -/
def readBlockHead (c : Cursor) : Option (Option Nat × Chomp × Cursor) :=
  let chomp (x : Char) : Chomp := if x == '+' then .keep else .strip
  let digit (x : Char) : Option Nat := if x == '0' then none else some (x.toNat - 48)
  match c.rest with
  | x :: r =>
    if x == '+' || x == '-' then
      match r with
      | d :: _ =>
        if isDigit d then (digit d).map fun n => (some n, chomp x, c.skip 2)
        else some (none, chomp x, c.skip 1)
      | [] => some (none, chomp x, c.skip 1)
    else if isDigit x then
      match r with
      | s :: _ =>
        if s == '+' || s == '-' then (digit x).map fun n => (some n, chomp s, c.skip 2)
        else (digit x).map fun n => (some n, .clip, c.skip 1)
      | [] => (digit x).map fun n => (some n, .clip, c.skip 1)
    else some (none, .clip, c)
  | [] => some (none, .clip, c)

/-- Reads blank lines of a block, and the indentation of the line after them.  Without a known
indentation any number of blanks is one, and the widest line is remembered.  A tab may not be part
of the indentation. -/
def blockBreaks (indent : Option Nat) : (fuel : Nat) → (widest : Nat) → List Char → Cursor →
    Option (Nat × List Char × Cursor)
  | 0, _, _, _ => none
  | fuel + 1, widest, breaks, c =>
    let blanks := c.run (· == ' ')
    let count := match indent with
      | some n => min blanks.length (n - c.column)
      | none => blanks.length
    let c := c.skip count
    let widest := max widest c.column
    let inIndent := match indent with
      | some n => c.column < n
      | none => true
    match c.rest with
    | [] => some (widest, breaks, c)
    | x :: _ =>
      if inIndent && x == '\t' then none
      else if isBreak x then
        let (b, c) := c.takeBreak
        blockBreaks indent fuel widest (breaks ++ b) c
      else some (widest, breaks, c)

/-- Reads the lines of a block whose indentation is known: its text, the end of its last line, and
the breaks after that. -/
def blockLines (literal : Bool) (indent : Nat) : (fuel : Nat) → (lead trail : List Char) →
    (leadBlank : Bool) → Cursor → Option (List Char × List Char × List Char × Cursor)
  | 0, _, _, _, _ => none
  | fuel + 1, lead, trail, leadBlank, c =>
    if c.column ≠ indent ∨ c.rest.isEmpty then some ([], lead, trail, c)
    else do
      let blank := c.rest.head?.any isSpace
      let joint :=
        if !literal && lead.head? == some '\n' && !leadBlank && !blank then
          (if trail.isEmpty then [' '] else [])
        else lead
      let line := c.run fun x => !isBreak x
      let (lead, c) := (c.skip line.length).takeBreak
      let (_, breaks, c) ← blockBreaks (some indent) (c.rest.length + 1) 0 [] c
      let (text, lead, tail, c) ← blockLines literal indent fuel lead breaks blank c
      return (joint ++ trail ++ line ++ text, lead, tail, c)

/-- Reads a block scalar after its indicator.  `outer` is one more than the column of the block
around it, and zero outside all blocks. -/
def readBlock (literal : Bool) (outer : Nat) (c : Cursor) : Option (List Char × Cursor) := do
  let (given, chomp, c) ← readBlockHead c
  let c := c.skipComment
  guard (endAhead c.rest)
  let c := c.skipBreak
  let known := given.map fun n => (outer - 1) + n
  let (widest, trail, c) ← blockBreaks known (c.rest.length + 1) 0 [] c
  let indent := known.getD (max (max widest outer) 1)
  let (text, lead, trail, c) ← blockLines literal indent (c.rest.length + 1) [] trail false c
  let tail := match chomp with
    | .strip => []
    | .clip => lead
    | .keep => lead ++ trail
  return (text ++ tail, c)

end Broadsheet.Yaml
