import Broadsheet.Toml.Scalar
import Broadsheet.Toml.Quoted

/-!
# Broadsheet.Toml.Document

Reading a TOML document to its table.  `parse` gives `none` for every text
that is no document, whatever the reason; a key that is defined twice is among
the reasons.
-/

namespace Broadsheet.Toml

/-! ## Adding to tables -/

namespace Entries

/-- Replaces the value of a key that is there. -/
def replace (es : Entries) (key : String) (v : Value) : Entries :=
  es.map fun e => if e.1 == key then (key, v) else e

/-- Adds a value by a dotted key.  Tables on the way are made where they are missing; one that a
header or braces define takes no values in this way. -/
def insertDotted (es : Entries) : (key : List String) → Value → Option Entries
  | [], _ => none
  | [k], v => if (es.lookup k).isSome then none else some (es ++ [(k, v)])
  | k :: ks, v =>
    match es.lookup k with
    | none => (insertDotted [] ks v).map fun sub => es ++ [(k, .table .dotted sub)]
    | some (.table .dotted sub) =>
      (insertDotted sub ks v).map fun sub => es.replace k (.table .dotted sub)
    | some (.table .parent sub) =>
      (insertDotted sub ks v).map fun sub => es.replace k (.table .parent sub)
    | some _ => none

/-- Changes the table that a header's path leads to.  Tables on the way are made where they are
missing; under a `[[header]]` the path goes on in its last table. -/
def atPath (es : Entries) (path : List String) (change : Entries → Option Entries) :
    Option Entries :=
  match path with
  | [] => change es
  | k :: ks =>
    match es.lookup k with
    | none => (atPath [] ks change).map fun sub => es ++ [(k, .table .parent sub)]
    | some (.table .braces _) => none
    | some (.table origin sub) =>
      (atPath sub ks change).map fun sub => es.replace k (.table origin sub)
    | some (.tables last earlier) =>
      (atPath last ks change).map fun last => es.replace k (.tables last earlier)
    | some _ => none

/-- Defines the table of a `[header]`.  It may be there as the parent of another header. -/
def openTable (key : String) (es : Entries) : Option Entries :=
  match es.lookup key with
  | none => some (es ++ [(key, .table .header [])])
  | some (.table .parent sub) => some (es.replace key (.table .header sub))
  | some _ => none

/-- Adds a table for a `[[header]]`. -/
def appendTable (key : String) (es : Entries) : Option Entries :=
  match es.lookup key with
  | none => some (es ++ [(key, .tables [] [])])
  | some (.tables last earlier) => some (es.replace key (.tables [] (last :: earlier)))
  | some _ => none

end Entries

/-! ## Blanks and comments -/

/-- Drops blanks and tabs from the front. -/
def skipSpace (s : List Char) : List Char := s.dropWhile isSpace

/-- Drops a comment up to the end of its line. -/
def skipComment (s : List Char) : Option (List Char) :=
  match s with
  | '#' :: t =>
    let rest := t.dropWhile isPlain
    if rest.isEmpty || (afterNewline? rest).isSome then some rest else none
  | _ => some s

/-- Drops blanks, line breaks and comments. -/
def skipAll : (fuel : Nat) → List Char → Option (List Char)
  | 0, _ => none
  | fuel + 1, s => do
    let s ← skipComment (skipSpace s)
    match afterNewline? s with
    | some r => skipAll fuel r
    | none => return s

/-- Drops what may stand after a value or a header up to the next line. -/
def endLine (s : List Char) : Option (List Char) := do
  let s ← skipComment (skipSpace s)
  if s.isEmpty then return [] else afterNewline? s

/-! ## Keys -/

/-- Characters of a key without quotes. -/
def isBareKey (c : Char) : Bool := c.isAlphanum || c == '_' || c == '-'

/-- Reads one part of a key. -/
def readKeyPart (s : List Char) : Option (String × List Char) :=
  let bare := s.takeWhile isBareKey
  if bare.isEmpty then readLineString s else some (String.ofList bare, s.drop bare.length)

/-- Reads a key with its dots, and the blanks after it. -/
def readKey : (fuel : Nat) → List Char → Option (List String × List Char)
  | 0, _ => none
  | fuel + 1, s => do
    let (part, s) ← readKeyPart (skipSpace s)
    match skipSpace s with
    | '.' :: t =>
      let (parts, rest) ← readKey fuel t
      return (part :: parts, rest)
    | t => return ([part], t)

/-! ## Values -/

/-- Characters that end a value without delimiters. -/
def endsScalar (c : Char) : Bool :=
  isSpace c || c ∈ ['\n', '\r', '#', ',', '[', ']', '{', '}', '=', '"', '\'']

/-- Takes a value without delimiters from the front.  A time may follow its date after one
blank. -/
def takeScalar (s : List Char) : List Char × List Char :=
  let first := s.takeWhile fun c => !endsScalar c
  let rest := s.drop first.length
  match rest with
  | ' ' :: c :: t =>
    if afterDate? first == some [] && Decimal.isDigit c then
      let second := (c :: t).takeWhile fun c => !endsScalar c
      (first ++ ' ' :: second, (c :: t).drop second.length)
    else (first, rest)
  | _ => (first, rest)

/-- How deep arrays and inline tables may be nested. -/
def depthLimit : Nat := 80

mutual

/-- Reads a value. -/
def readValue : (fuel depth : Nat) → List Char → Option (Value × List Char)
  | 0, _, _ => none
  | fuel + 1, depth, s =>
    match s with
    | '"' :: _ | '\'' :: _ => (readString s).map fun (t, r) => (.string t, r)
    | '[' :: t => do
      guard (depth < depthLimit)
      let (items, rest) ← readItems fuel (depth + 1) t
      return (.array items, rest)
    | '{' :: t => do
      guard (depth < depthLimit)
      let (entries, rest) ← readEntries fuel (depth + 1) [] t
      return (.table .braces entries, rest)
    | _ => do
      let (text, rest) := takeScalar s
      return (← readScalar text, rest)

/-- Reads the rest of an array. -/
def readItems : (fuel depth : Nat) → List Char → Option (List Value × List Char)
  | 0, _, _ => none
  | fuel + 1, depth, s => do
    match ← skipAll (s.length + 1) s with
    | ']' :: t => return ([], t)
    | t =>
      let (v, t) ← readValue fuel depth t
      match ← skipAll (t.length + 1) t with
      | ',' :: t =>
        let (vs, rest) ← readItems fuel depth t
        return (v :: vs, rest)
      | ']' :: t => return ([v], t)
      | _ => none

/-- Reads the rest of an inline table after the entries that it has already. -/
def readEntries : (fuel depth : Nat) → Entries → List Char → Option (Entries × List Char)
  | 0, _, _, _ => none
  | fuel + 1, depth, es, s => do
    match ← skipAll (s.length + 1) s with
    | '}' :: t => return (es, t)
    | t =>
      let (key, t) ← readKey (t.length + 1) t
      let t ← after? ['='] t
      let (v, t) ← readValue fuel depth (skipSpace t)
      let es ← es.insertDotted key v
      match ← skipAll (t.length + 1) t with
      | ',' :: t => readEntries fuel depth es t
      | '}' :: t => return (es, t)
      | _ => none

end

/-! ## Documents -/

/-- Reads the rest of a header up to its closing brackets. -/
def readHeader (close : List Char) (s : List Char) : Option (List String × List Char) := do
  let (key, s) ← readKey (s.length + 1) s
  return (key, ← endLine (← after? close s))

/-- Reads a document from one line on, after the entries before it.  `path` is that of the last
header. -/
def readLines : (fuel : Nat) → (path : List String) → Entries → List Char → Option Entries
  | 0, _, _, _ => none
  | fuel + 1, path, es, s => do
    match ← skipAll (s.length + 1) s with
    | [] => return es
    | '[' :: '[' :: t =>
      let (key, t) ← readHeader [']', ']'] t
      let last ← key.getLast?
      let es ← es.atPath key.dropLast (Entries.appendTable last)
      readLines fuel key es t
    | '[' :: t =>
      let (key, t) ← readHeader [']'] t
      let last ← key.getLast?
      let es ← es.atPath key.dropLast (Entries.openTable last)
      readLines fuel key es t
    | t =>
      let (key, t) ← readKey (t.length + 1) t
      let t ← after? ['='] t
      let (v, t) ← readValue (2 * t.length + 2) 0 (skipSpace t)
      let es ← es.atPath path fun table => table.insertDotted key v
      readLines fuel path es (← endLine t)

/-- Reads a document.  A byte order mark may stand before it. -/
def parse (source : String) : Option Entries :=
  let s := source.toList
  let s := (after? ['\uFEFF'] s).getD s
  readLines (s.length + 1) [] [] s

end Broadsheet.Toml
