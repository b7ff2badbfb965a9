import Broadsheet.Yaml.Scalar

/-!
# Broadsheet.Yaml.Token

From a YAML text to its tokens.  Indentation becomes tokens of its own: the
start of a block is found when its first entry or key is read.  A key without
a mark is known as one only at the colon behind it, so the tokens for the key
and for its block are put in front of what was read since the key began.
-/

namespace Broadsheet.Yaml

/-- A token. -/
inductive Token
  | streamEnd
  | version (major minor : Nat)
  | tagDirective (handle start : String)
  | documentStart
  | documentEnd
  | blockSequenceStart
  | blockMappingStart
  | blockEnd
  | flowSequenceStart
  | flowSequenceEnd
  | flowMappingStart
  | flowMappingEnd
  | blockEntry
  | flowEntry
  | key
  | value
  | alias (name : String)
  | anchor (name : String)
  | tag (handle suffix : String)
  | scalar (text : String) (plain : Bool)
  deriving DecidableEq

/-- A place where a key without a mark may have begun. -/
structure SimpleKey where
  /-- Whether nothing but a key can stand there. -/
  required : Bool
  /-- The number of tokens before it. -/
  position : Nat
  index : Nat
  line : Nat
  column : Nat

/-- What the reading of tokens holds. -/
structure Scanner where
  cursor : Cursor
  /-- The column of the innermost block, and those of the blocks around it; there is no block
  where the list is empty. -/
  indents : List Nat
  /-- Whether a key without a mark may begin here. -/
  keyAllowed : Bool
  /-- The key that may have begun in each collection, the innermost first; the last place belongs
  to the blocks, the others to flow collections. -/
  keys : List (Option SimpleKey)
  /-- The tokens so far, the last one first. -/
  tokens : List Token

namespace Scanner

/-- The start of a text. -/
def start (s : List Char) : Scanner := ⟨Cursor.start s, [], true, [none], []⟩

/-- Whether the place is inside a flow collection. -/
def inFlow (s : Scanner) : Bool := s.keys.length != 1

/-- One more than the column of the innermost block, and zero outside all blocks. -/
def contentColumn (s : Scanner) : Nat := match s.indents with
  | [] => 0
  | n :: _ => n + 1

/-- Adds a token. -/
def push (s : Scanner) (t : Token) : Scanner := { s with tokens := t :: s.tokens }

/-- Puts a token in front of those after a position. -/
def insertAt (s : Scanner) (position : Nat) (t : Token) : Scanner :=
  let later := s.tokens.length - position
  { s with tokens := s.tokens.take later ++ t :: s.tokens.drop later }

/-- Goes on by so many characters. -/
def skip (s : Scanner) (n : Nat) : Scanner := { s with cursor := s.cursor.skip n }

/-! ## Keys without a mark -/

/-- Forgets the key that may have begun; if it had to be one, the text is no YAML. -/
def dropKey (s : Scanner) : Option Scanner :=
  match s.keys with
  | some k :: ks => if k.required then none else some { s with keys := none :: ks }
  | _ => some s

/-- Remembers that a key may begin here. -/
def saveKey (s : Scanner) : Option Scanner :=
  if s.keyAllowed then do
    let s ← s.dropKey
    let c := s.cursor
    let key : SimpleKey := {
      required := !s.inFlow && s.indents.head? == some c.column
      position := s.tokens.length
      index := c.index
      line := c.line
      column := c.column }
    return { s with keys := some key :: s.keys.tail }
  else some s

/-- Forgets a key that began on an earlier line or too many characters ago. -/
def expireKey (c : Cursor) : Option SimpleKey → Option (Option SimpleKey)
  | none => some none
  | some k =>
    if k.line < c.line || k.index + 1024 < c.index then
      if k.required then none else some none
    else some (some k)

/-- Forgets the keys that are too far back. -/
def expireKeys (s : Scanner) : Option Scanner := do
  let keys ← s.keys.mapM (expireKey s.cursor)
  return { s with keys := keys }

/-! ## Blocks -/

/-- Ends the blocks whose column is right of a given one. -/
def closeBlocks (above : Nat → Bool) (s : Scanner) : Scanner :=
  if s.inFlow then s
  else
    let closed := s.indents.takeWhile above
    { s with
      indents := s.indents.drop closed.length
      tokens := List.replicate closed.length .blockEnd ++ s.tokens }

/-- Ends all blocks. -/
def closeAllBlocks (s : Scanner) : Scanner := s.closeBlocks fun _ => true

/-- Begins a block at a column that is right of the innermost one. -/
def openBlock (s : Scanner) (column : Nat) (position : Nat) (t : Token) : Scanner :=
  if !s.inFlow && s.contentColumn ≤ column then
    { (s.insertAt position t) with indents := column :: s.indents }
  else s

/-! ## White space -/

/-- Goes to the next token.  Tabs are white space only where no key may begin. -/
def skipSpace : (fuel : Nat) → Scanner → Scanner
  | 0, s => s
  | fuel + 1, s =>
    let c := s.cursor
    let c := if c.index == 0 && c.rest.head? == some '\uFEFF' then c.skip 1 else c
    let c := c.skipWhile fun x => x == ' ' || (x == '\t' && (s.inFlow || !s.keyAllowed))
    let c := if c.rest.head? == some '#' then c.skipWhile fun x => !isBreak x else c
    if c.rest.head?.any isBreak then
      skipSpace fuel { s with cursor := c.skipBreak, keyAllowed := s.keyAllowed || !s.inFlow }
    else { s with cursor := c }

/-! ## Directives -/

/-- Reads a number of at most nine digits. -/
def readNumber (c : Cursor) : Option (Nat × Cursor) :=
  let digits := c.run Decimal.isDigit
  if digits.isEmpty || digits.length > 9 then none
  else some (Decimal.natValue digits, c.skip digits.length)

/-- Reads the handle of a tag: a mark, and a name with a mark behind it if there is one. -/
def readHandle (c : Cursor) : Option (List Char × Cursor) :=
  match c.rest with
  | '!' :: r =>
    let name := r.takeWhile isNameChar
    let close := if r[name.length]? == some '!' then ['!'] else []
    some ('!' :: name ++ close, c.skip (1 + name.length + close.length))
  | _ => none

/-- Characters of tags; some only stand in tags between brackets. -/
def isTagChar (verbatim : Bool) (c : Char) : Bool :=
  isNameChar c || c ∈ [';', '/', '?', ':', '@', '&', '=', '+', '$', '.', '%', '!', '~', '*', '\'',
    '(', ')'] || (verbatim && c ∈ [',', '[', ']'])

/-- Reads a byte that is written as a percent sign and two digits. -/
def percentByte : List Char → Option (Nat × List Char)
  | '%' :: a :: b :: r => do
    return ((← Decimal.hexDigit a) * 16 + (← Decimal.hexDigit b), r)
  | _ => none

/-- Reads so many further bytes of a character. -/
def moreBytes : (count : Nat) → (value : Nat) → List Char → Option (Nat × List Char)
  | 0, v, s => some (v, s)
  | n + 1, v, s => do
    let (b, s) ← percentByte s
    guard (b / 64 = 2)
    moreBytes n (v * 64 + b % 64) s

/-- Reads a character that is written in bytes. -/
def percentChar (s : List Char) : Option (Char × List Char) := do
  let (b, s) ← percentByte s
  let (n, v) ←
    if b < 0x80 then some (0, b)
    else if b / 32 = 6 then some (1, b % 32)
    else if b / 16 = 14 then some (2, b % 16)
    else if b / 8 = 30 then some (3, b % 8)
    else none
  let (v, s) ← moreBytes n v s
  guard (v.isValidChar)
  return (Char.ofNat v, s)

/-- Takes the escapes out of a tag. -/
def plainTag : (fuel : Nat) → List Char → Option (List Char)
  | 0, _ => none
  | _, [] => some []
  | fuel + 1, c :: r =>
    if c = '%' then do
      let (x, r) ← percentChar (c :: r)
      return x :: (← plainTag fuel r)
    else (plainTag fuel r).map (c :: ·)

/-- Reads the characters of a tag. -/
def readTagText (verbatim : Bool) (c : Cursor) : Option (List Char × Cursor) := do
  let run := c.run (isTagChar verbatim)
  return (← plainTag (run.length + 1) run, c.skip run.length)

/-- Reads a directive after its percent sign. -/
def readDirective (c : Cursor) : Option (Token × Cursor) := do
  let name := c.run isNameChar
  let c := c.skip name.length
  guard (!name.isEmpty && blankAhead c.rest)
  let c := c.skipWhile isSpace
  let (token, c) ←
    if name = "YAML".toList then do
      let (major, c) ← readNumber c
      guard (c.rest.head? == some '.')
      let (minor, c) ← readNumber (c.skip 1)
      some (Token.version major minor, c)
    else if name = "TAG".toList then do
      let (handle, c) ← readHandle c
      guard (handle == ['!'] || (handle.length > 1 && handle.getLast? == some '!'))
      guard (c.rest.head?.any isSpace)
      let (start, c) ← readTagText true (c.skipWhile isSpace)
      guard (!start.isEmpty && blankAhead c.rest)
      some (Token.tagDirective (String.ofList handle) (String.ofList start), c)
    else none
  let c := c.skipComment
  guard (endAhead c.rest)
  return (token, c.skipBreak)

/-! ## Anchors and tags -/

/-- Reads the name of an anchor or an alias. -/
def readName (c : Cursor) : Option (String × Cursor) := do
  let name := c.run isNameChar
  let c := c.skip name.length
  guard (!name.isEmpty)
  guard (blankAhead c.rest || c.rest.head?.any fun x => x ∈ ['?', ':', ',', ']', '}', '%', '@', '`'])
  return (String.ofList name, c)

/-- Reads a tag: `!<text>`, `!handle!suffix`, `!suffix` or `!`. -/
def readTag (flow : Bool) (c : Cursor) : Option (Token × Cursor) := do
  let (token, c) ←
    match c.rest with
    | '!' :: '<' :: _ => do
      let (text, c) ← readTagText true (c.skip 2)
      guard (!text.isEmpty && c.rest.head? == some '>')
      some (Token.tag "" (String.ofList text), c.skip 1)
    | _ => do
      let (handle, next) ← readHandle c
      let (text, next) ← readTagText false next
      if handle.length > 1 && handle.getLast? == some '!' then do
        guard (!text.isEmpty)
        some (Token.tag (String.ofList handle) (String.ofList text), next)
      else
        let suffix := handle.tail ++ text
        if suffix.isEmpty then some (Token.tag "" "!", next)
        else some (Token.tag "!" (String.ofList suffix), next)
  guard (blankAhead c.rest || (flow && c.rest.head? == some ','))
  return (token, c)

/-! ## Tokens -/

/-- Reads a token that a key may begin with. -/
def readKeyToken (s : Scanner) (read : Scanner → Option (Token × Cursor)) : Option Scanner := do
  let s ← s.saveKey
  let (token, c) ← read s
  return { s with cursor := c, keyAllowed := false }.push token

/-- Reads a mark of the document's structure. -/
def readMark (s : Scanner) (t : Token) : Option Scanner := do
  let s ← s.closeAllBlocks.dropKey
  return ({ s with keyAllowed := false }.skip 3).push t

/-- Begins a flow collection. -/
def openFlow (s : Scanner) (t : Token) : Option Scanner := do
  let s ← s.saveKey
  return ({ s with keys := none :: s.keys, keyAllowed := true }.skip 1).push t

/-- Ends a flow collection. -/
def closeFlow (s : Scanner) (t : Token) : Option Scanner := do
  let s ← s.dropKey
  let keys := if s.inFlow then s.keys.tail else s.keys
  return ({ s with keys := keys, keyAllowed := false }.skip 1).push t

/-- Divides the entries of a flow collection. -/
def readComma (s : Scanner) : Option Scanner := do
  let s ← s.dropKey
  return ({ s with keyAllowed := true }.skip 1).push .flowEntry

/-- Begins an entry of a block sequence. -/
def readDash (s : Scanner) : Option Scanner := do
  guard (s.inFlow || s.keyAllowed)
  let s ← (s.openBlock s.cursor.column s.tokens.length .blockSequenceStart).dropKey
  return ({ s with keyAllowed := true }.skip 1).push .blockEntry

/-- Begins a key with a mark. -/
def readQuestion (s : Scanner) : Option Scanner := do
  guard (s.inFlow || s.keyAllowed)
  let s ← (s.openBlock s.cursor.column s.tokens.length .blockMappingStart).dropKey
  return ({ s with keyAllowed := !s.inFlow }.skip 1).push .key

/-- Begins a value.  If a key without a mark stands before it, its token is added now. -/
def readColon (s : Scanner) : Option Scanner :=
  match s.keys with
  | some k :: ks =>
    let s := (s.insertAt k.position .key).openBlock k.column k.position .blockMappingStart
    some (({ s with keys := none :: ks, keyAllowed := false }.skip 1).push .value)
  | _ => do
    guard (s.inFlow || s.keyAllowed)
    let s := s.openBlock s.cursor.column s.tokens.length .blockMappingStart
    return ({ s with keyAllowed := !s.inFlow }.skip 1).push .value

/-- Reads a block scalar. -/
def readBlockScalar (s : Scanner) (literal : Bool) : Option Scanner := do
  let s ← s.dropKey
  let (text, c) ← readBlock literal s.contentColumn (s.cursor.skip 1)
  return { s with cursor := c, keyAllowed := true }.push (.scalar (String.ofList text) false)

/-- Reads a quoted scalar. -/
def readQuotedScalar (s : Scanner) (single : Bool) : Option Scanner :=
  s.readKeyToken fun s => do
    let c := s.cursor.skip 1
    let (text, c) ← readQuoted single (c.rest.length + 1) c
    return (.scalar (String.ofList text) false, c)

/-- Reads a plain scalar.  A key may begin after it if a line ended behind it. -/
def readPlainScalar (s : Scanner) : Option Scanner := do
  let s ← s.saveKey
  let p ← readPlain s.inFlow s.contentColumn (s.cursor.rest.length + 1) .none s.cursor
  return { s with cursor := p.cursor, keyAllowed := p.broken }.push
    (.scalar (String.ofList p.text) true)

/-- Characters that no plain scalar begins with. -/
def isIndicator (c : Char) : Bool :=
  c ∈ ['-', '?', ':', ',', '[', ']', '{', '}', '#', '&', '*', '!', '|', '>', '\'', '"', '%', '@',
    '`']

/-- Whether a plain scalar begins with a character, given what follows it. -/
def beginsPlain (flow : Bool) (x : Char) (r : List Char) : Bool :=
  !(isSpace x || isBreak x || isIndicator x) ||
  (x == '-' && !r.head?.any isSpace) ||
  (!flow && (x == '?' || x == ':') && !blankAhead r)

/-- Reads the next token, behind the white space before it. -/
def next (s : Scanner) : Option Scanner :=
  match s.cursor.rest with
  | [] => do
    let s ← s.closeAllBlocks.dropKey
    return { s with keyAllowed := false }.push .streamEnd
  | x :: r =>
    if s.cursor.column == 0 && x == '%' then do
      let s ← s.closeAllBlocks.dropKey
      let (token, c) ← readDirective (s.cursor.skip 1)
      return { s with cursor := c, keyAllowed := false }.push token
    else if s.cursor.atMark '-' then s.readMark .documentStart
    else if s.cursor.atMark '.' then s.readMark .documentEnd
    else if x == '[' then s.openFlow .flowSequenceStart
    else if x == '{' then s.openFlow .flowMappingStart
    else if x == ']' then s.closeFlow .flowSequenceEnd
    else if x == '}' then s.closeFlow .flowMappingEnd
    else if x == ',' then s.readComma
    else if x == '-' && blankAhead r then s.readDash
    else if x == '?' && (s.inFlow || blankAhead r) then s.readQuestion
    else if x == ':' && (s.inFlow || blankAhead r) then s.readColon
    else if x == '*' then
      s.readKeyToken fun s => (readName (s.cursor.skip 1)).map fun (n, c) => (.alias n, c)
    else if x == '&' then
      s.readKeyToken fun s => (readName (s.cursor.skip 1)).map fun (n, c) => (.anchor n, c)
    else if x == '!' then s.readKeyToken fun s => readTag s.inFlow s.cursor
    else if x == '|' && !s.inFlow then s.readBlockScalar true
    else if x == '>' && !s.inFlow then s.readBlockScalar false
    else if x == '\'' then s.readQuotedScalar true
    else if x == '"' then s.readQuotedScalar false
    else if beginsPlain s.inFlow x r then s.readPlainScalar
    else none

/-- Reads all tokens; the last one is the end of the text. -/
def run : (fuel : Nat) → Scanner → Option (List Token)
  | 0, _ => none
  | fuel + 1, s => do
    let s ← (s.skipSpace (s.cursor.rest.length + 1)).expireKeys
    let s := s.closeBlocks fun n => s.cursor.column < n
    let done := s.cursor.rest.isEmpty
    let s ← s.next
    if done then return s.tokens.reverse else run fuel s

end Scanner

/-- Whether a character may stand in a YAML text. -/
def isAllowed (c : Char) : Bool :=
  let n := c.toNat
  n == 9 || n == 10 || n == 13 || (0x20 ≤ n && n ≤ 0x7E) || n == 0x85 ||
    (0xA0 ≤ n && n ≤ 0xFFFD) || 0x10000 ≤ n

/-- The tokens of a text. -/
def tokens? (s : List Char) : Option (List Token) :=
  if s.all isAllowed then (Scanner.start s).run (s.length + 1) else none

end Broadsheet.Yaml
