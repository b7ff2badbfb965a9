import Broadsheet.Yaml.Token

/-!
# Broadsheet.Yaml.Node

From tokens to the tree of a document.  An alias stands in the tree as the
node that it names; one that names a node around itself has no tree.
-/

namespace Broadsheet.Yaml

/-- A node of a document.  A tag is held in full, with its handle resolved. -/
inductive Node
  | scalar (tag : Option String) (plain : Bool) (text : String)
  | sequence (tag : Option String) (items : List Node)
  | mapping (tag : Option String) (entries : List (Node × Node))
  /-- What an alias names. -/
  | alias (target : Node)

/-- A scalar that is not written. -/
def Node.empty : Node := .scalar none true ""

/-- What the reading of nodes holds beside the tokens ahead. -/
structure Composer where
  tokens : List Token
  /-- The starts of tags by handle, as directives give them. -/
  handles : List (String × String)
  /-- The nodes by anchor, the last one first; a node that is still being read is missing. -/
  anchors : List (String × Option Node)
  /-- The number of events of the document so far. -/
  events : Nat

namespace Composer

/-- The token ahead. -/
def peek (s : Composer) : Token := s.tokens.headD .streamEnd

/-- Goes on by one token. -/
def advance (s : Composer) : Composer := { s with tokens := s.tokens.tail }

/-- Counts events. -/
def count (s : Composer) (n : Nat) : Composer := { s with events := s.events + n }

/-- The full text of a tag. -/
def fullTag (s : Composer) (handle suffix : String) : Option String :=
  if handle.isEmpty then some suffix
  else
    match s.handles.lookup handle with
    | some start => some (start ++ suffix)
    | none =>
      if handle == "!" then some ("!" ++ suffix)
      else if handle == "!!" then some ("tag:yaml.org,2002:" ++ suffix)
      else none

/-- The properties before a node: its anchor and its tag, in either order. -/
structure Properties where
  anchor : Option String
  tag : Option String

/-- Reads the properties before a node. -/
def readProperties (s : Composer) : Option (Properties × Composer) :=
  match s.peek with
  | .anchor a =>
    match s.advance.peek with
    | .tag h t => (s.fullTag h t).map fun tag => (⟨some a, some tag⟩, s.advance.advance)
    | _ => some (⟨some a, none⟩, s.advance)
  | .tag h t => do
    let tag ← s.fullTag h t
    match s.advance.peek with
    | .anchor a => return (⟨some a, some tag⟩, s.advance.advance)
    | _ => return (⟨none, some tag⟩, s.advance)
  | _ => some (⟨none, none⟩, s)

/-- Remembers the node of an anchor. -/
def bind (s : Composer) (anchor : Option String) (node : Option Node) : Composer :=
  match anchor with
  | some a => { s with anchors := (a, node) :: s.anchors }
  | none => s

/-- A scalar that is not written, counted. -/
def emptyScalar (s : Composer) : Node × Composer := (.empty, s.count 1)

/-- Whether a node may follow in a block: none of these tokens begins one. -/
def endsItem : Token → Bool
  | .blockEntry | .key | .value | .blockEnd => true
  | _ => false

mutual

/-- Reads a node.  `block` says whether it may be a block, and `dashes` whether its entries may
stand in the column of the block around it. -/
def readNode : (fuel : Nat) → (block dashes : Bool) → Composer → Option (Node × Composer)
  | 0, _, _, _ => none
  | fuel + 1, block, dashes, s =>
    match s.peek with
    | .alias name =>
      match s.anchors.lookup name with
      | some (some node) => some (.alias node, s.advance.count 1)
      | _ => none
    | _ => do
      let (props, s) ← s.readProperties
      let collect (begun : Composer) (read : Composer → Option (Node × Composer)) :
          Option (Node × Composer) := do
        let (node, s) ← read ((begun.bind props.anchor none).count 2)
        return (node, s.bind props.anchor (some node))
      match s.peek with
      | .scalar text plain =>
        let node := Node.scalar props.tag plain text
        return (node, (s.advance.count 1).bind props.anchor (some node))
      | .flowSequenceStart => collect s.advance fun s => do
          let (items, s) ← readFlowItems fuel true s
          return (.sequence props.tag items, s)
      | .flowMappingStart => collect s.advance fun s => do
          let (entries, s) ← readFlowEntries fuel true s
          return (.mapping props.tag entries, s)
      | .blockEntry =>
        if dashes then collect s fun s => do
          let (items, s) ← readDashes fuel s
          return (.sequence props.tag items, s)
        else readAbsent props s
      | .blockSequenceStart =>
        if block then collect s.advance fun s => do
          let (items, s) ← readBlockItems fuel s
          return (.sequence props.tag items, s)
        else readAbsent props s
      | .blockMappingStart =>
        if block then collect s.advance fun s => do
          let (entries, s) ← readBlockEntries fuel s
          return (.mapping props.tag entries, s)
        else readAbsent props s
      | _ => readAbsent props s

/-- Reads a node that is given by its properties alone. -/
def readAbsent (props : Properties) (s : Composer) : Option (Node × Composer) :=
  if props.anchor.isSome || props.tag.isSome then
    let node := Node.scalar props.tag true ""
    some (node, (s.count 1).bind props.anchor (some node))
  else none

/-- Reads the items of a block sequence. -/
def readBlockItems : (fuel : Nat) → Composer → Option (List Node × Composer)
  | 0, _ => none
  | fuel + 1, s =>
    match s.peek with
    | .blockEnd => some ([], s.advance)
    | .blockEntry => do
      let s := s.advance
      let (item, s) ← match s.peek with
        | .blockEntry | .blockEnd => some s.emptyScalar
        | _ => readNode fuel true false s
      let (items, s) ← readBlockItems fuel s
      return (item :: items, s)
    | _ => none

/-- Reads the items of a sequence in the column of the mapping around it. -/
def readDashes : (fuel : Nat) → Composer → Option (List Node × Composer)
  | 0, _ => none
  | fuel + 1, s =>
    match s.peek with
    | .blockEntry => do
      let s := s.advance
      let (item, s) ← if endsItem s.peek then some s.emptyScalar else readNode fuel true false s
      let (items, s) ← readDashes fuel s
      return (item :: items, s)
    | _ => some ([], s)

/-- Reads the entries of a block mapping. -/
def readBlockEntries : (fuel : Nat) → Composer → Option (List (Node × Node) × Composer)
  | 0, _ => none
  | fuel + 1, s =>
    match s.peek with
    | .blockEnd => some ([], s.advance)
    | .key => do
      let part (s : Composer) : Option (Node × Composer) :=
        match s.peek with
        | .key | .value | .blockEnd => some s.emptyScalar
        | _ => readNode fuel true true s
      let (key, s) ← part s.advance
      let (value, s) ← if s.peek = .value then part s.advance else some s.emptyScalar
      let (entries, s) ← readBlockEntries fuel s
      return ((key, value) :: entries, s)
    | _ => none

/-- Reads the items of a flow sequence.  An item with a colon is a mapping of one entry. -/
def readFlowItems : (fuel : Nat) → (first : Bool) → Composer → Option (List Node × Composer)
  | 0, _, _ => none
  | fuel + 1, first, s => do
    if s.peek = .flowSequenceEnd then return ([], s.advance)
    let s ← if first then some s
      else if s.peek = .flowEntry then some s.advance
      else none
    match s.peek with
    | .flowSequenceEnd => return ([], s.advance)
    | .key =>
      let s := s.advance.count 2
      let (key, s) ← match s.peek with
        -- an empty key takes the token that ends it along
        | .value | .flowEntry | .flowSequenceEnd => some s.advance.emptyScalar
        | _ => readNode fuel false false s
      let (value, s) ←
        if s.peek = .value then
          let s := s.advance
          match s.peek with
          | .flowEntry | .flowSequenceEnd => some s.emptyScalar
          | _ => readNode fuel false false s
        else some s.emptyScalar
      let (items, s) ← readFlowItems fuel false s
      return (.mapping none [(key, value)] :: items, s)
    | _ =>
      let (item, s) ← readNode fuel false false s
      let (items, s) ← readFlowItems fuel false s
      return (item :: items, s)

/-- Reads the entries of a flow mapping. -/
def readFlowEntries : (fuel : Nat) → (first : Bool) → Composer →
    Option (List (Node × Node) × Composer)
  | 0, _, _ => none
  | fuel + 1, first, s => do
    if s.peek = .flowMappingEnd then return ([], s.advance)
    let s ← if first then some s
      else if s.peek = .flowEntry then some s.advance
      else none
    match s.peek with
    | .flowMappingEnd => return ([], s.advance)
    | .key =>
      let s := s.advance
      let (key, s) ← match s.peek with
        | .value | .flowEntry | .flowMappingEnd => some s.emptyScalar
        | _ => readNode fuel false false s
      let (value, s) ←
        if s.peek = .value then
          let s := s.advance
          match s.peek with
          | .flowEntry | .flowMappingEnd => some s.emptyScalar
          | _ => readNode fuel false false s
        else some s.emptyScalar
      let (entries, s) ← readFlowEntries fuel false s
      return ((key, value) :: entries, s)
    | _ =>
      let (key, s) ← readNode fuel false false s
      let (value, s) := s.emptyScalar
      let (entries, s) ← readFlowEntries fuel false s
      return ((key, value) :: entries, s)

end

/-! ## Documents -/

/-- Reads the directives before a document. -/
def readDirectives : (fuel : Nat) → (versioned : Bool) → Composer → Option Composer
  | 0, _, _ => none
  | fuel + 1, versioned, s =>
    match s.peek with
    | .version major minor =>
      if versioned || major ≠ 1 || !(minor == 1 || minor == 2) then none
      else readDirectives fuel true s.advance
    | .tagDirective handle start =>
      if (s.handles.lookup handle).isSome then none
      else readDirectives fuel versioned
        { s.advance with handles := (handle, start) :: s.handles }
    | _ => some s

/-- Whether a token stands between documents. -/
def endsDocument : Token → Bool
  | .version _ _ | .tagDirective _ _ | .documentStart | .documentEnd | .streamEnd => true
  | _ => false

/-- Reads the first document of a text without its directives; none for a text without a
document. -/
def readDocument (fuel : Nat) (s : Composer) : Option (Option Node × Composer) :=
  match s.peek with
  | .streamEnd => some (none, s)
  | _ => do
    if endsDocument s.peek then
      let s ← readDirectives fuel false s
      guard (s.peek = .documentStart)
      let s := s.advance
      if endsDocument s.peek then
        let (node, s) := s.emptyScalar
        return (some node, s)
      else
        let (node, s) ← readNode fuel true false s
        return (some node, s)
    else
      let (node, s) ← readNode fuel true false s
      return (some node, s)

end Composer

/-- The tree of a text with one document, and the number of its events.  A text with more than one
document has no tree; neither has one that holds no document. -/
structure Document where
  root : Option Node
  events : Nat

/-- Drops marks of a document's end. -/
def dropDocumentEnds (tokens : List Token) : List Token :=
  tokens.dropWhile fun t => t == .documentEnd

/-- Reads a text as one document. -/
def Document.ofText (s : List Char) : Option Document := do
  let tokens ← tokens? s
  let (root, c) ← Composer.readDocument (2 * tokens.length + 4) ⟨tokens, [], [], 0⟩
  guard (dropDocumentEnds c.tokens == [.streamEnd])
  return ⟨root, c.events⟩

end Broadsheet.Yaml
