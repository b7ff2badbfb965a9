import Broadsheet.Text.Blank
import Broadsheet.Document.Event

/-!
# Broadsheet.Proofs.Document.Content

Documents as trees.  An event stream is well-nested when every opening event
has its own closing event, and what stands between the two is well-nested
again.  `Content` is the tree of such a stream and `Content.events` the stream
itself, so a statement about every well-nested stream is one about
`c.events` for every `c`.

What else a stream from a Markdown reader keeps to is said of the tree, one
condition for each rule:

* `codeIsText` — a code block holds texts only;
* `imagesApart`, `linksApart` — no image stands in an image, no link in a link;
* `tablesInOrder` — a table is one head and then rows, heads and rows hold
  cells, and none of them stands elsewhere;
* `cellsInRows` — the part of this that drawing depends on: a cell stands in a
  row, and that row in a table;
* `noHtml` — there is no HTML from the author.
-/

namespace Broadsheet

/-! ## Trees -/

/-- An event that opens and closes nothing. -/
inductive Leaf
  | text (s : String)
  | code (s : String)
  | html (s : String)
  | inlineHtml (s : String)
  | inlineMath (s : String)
  | displayMath (s : String)
  | footnoteReference (label : String)
  | softBreak
  | hardBreak
  | rule
  | taskMarker (checked : Bool)
  deriving DecidableEq

/-- The event itself. -/
def Leaf.event : Leaf → Event
  | text s => .text s
  | code s => .code s
  | html s => .html s
  | inlineHtml s => .inlineHtml s
  | inlineMath s => .inlineMath s
  | displayMath s => .displayMath s
  | footnoteReference label => .footnoteReference label
  | softBreak => .softBreak
  | hardBreak => .hardBreak
  | rule => .rule
  | taskMarker checked => .taskMarker checked

/-- The tree of a well-nested stream: first an event that stands alone, or an
element with what it holds, and then the rest. -/
inductive Content
  | nil
  | leaf (l : Leaf) (rest : Content)
  | element (tag : Tag) (inner rest : Content)
  deriving DecidableEq

namespace Content

/-- The stream of a tree. -/
def events : Content → List Event
  | nil => []
  | leaf l rest => l.event :: rest.events
  | element t inner rest =>
      .opening t :: (inner.events ++ .closing t.toEnd :: rest.events)

@[simp] theorem events_nil : nil.events = [] := rfl

@[simp] theorem events_leaf (l : Leaf) (rest : Content) :
    (leaf l rest).events = l.event :: rest.events := rfl

@[simp] theorem events_element (t : Tag) (inner rest : Content) :
    (element t inner rest).events =
      .opening t :: (inner.events ++ .closing t.toEnd :: rest.events) := rfl

end Content

/-! ## Elements of a stream -/

/-- An element of a document with the events before it. -/
structure Element where
  before : List Event
  tag : Tag
  content : Content

namespace Element

/-- The events before the element's closing event. -/
def opened (e : Element) : List Event := e.before ++ .opening e.tag :: e.content.events

/-- The events up to the element's closing event. -/
def closed (e : Element) : List Event := e.opened ++ [.closing e.tag.toEnd]

end Element

/-- The elements of a tree, at any depth, whose stream follows on `before`. -/
def Content.elements (before : List Event) : Content → List Element
  | nil => []
  | leaf l rest => rest.elements (before ++ [l.event])
  | element t inner rest =>
      ⟨before, t, inner⟩ :: (inner.elements (before ++ [.opening t]) ++
        rest.elements (Element.closed ⟨before, t, inner⟩))

/-! ## Kinds of tags -/

namespace Tag

def isImage : Tag → Bool
  | image _ _ => true
  | _ => false

def isLink : Tag → Bool
  | link _ _ => true
  | _ => false

/-- The info of a code block; other tags have none. -/
def codeInfo? : Tag → Option String
  | fencedCode info => some (trimText info)
  | indentedCode => some ""
  | _ => none

def isCode (t : Tag) : Bool := t.codeInfo?.isSome

end Tag

/-- Whether the event is HTML from the author. -/
def Leaf.isHtml : Leaf → Bool
  | html _ | inlineHtml _ => true
  | _ => false

/-! ## Conditions on trees -/

namespace Content

/-- Some element, at any depth, has a tag that `p` picks. -/
def has (p : Tag → Bool) : Content → Bool
  | nil => false
  | leaf _ rest => rest.has p
  | element t inner rest => p t || inner.has p || rest.has p

/-- Every element, at any depth, satisfies `p` with what it holds. -/
def every (p : Tag → Content → Bool) : Content → Bool
  | nil => true
  | leaf _ rest => rest.every p
  | element t inner rest => p t inner && inner.every p && rest.every p

/-- Nothing but texts. -/
def isText : Content → Bool
  | nil => true
  | leaf (.text _) rest => rest.isText
  | leaf _ _ | element _ _ _ => false

/-- A code block holds texts only. -/
def codeIsText (c : Content) : Bool := c.every fun t inner => !t.isCode || inner.isText

/-- No image stands in an image. -/
def imagesApart (c : Content) : Bool :=
  c.every fun t inner => !t.isImage || !inner.has Tag.isImage

/-- No link stands in a link. -/
def linksApart (c : Content) : Bool :=
  c.every fun t inner => !t.isLink || !inner.has Tag.isLink

/-- There is no HTML from the author. -/
def noHtml : Content → Bool
  | nil => true
  | leaf l rest => !l.isHtml && rest.noHtml
  | element _ inner rest => inner.noHtml && rest.noHtml

/-- The parts of a table, by what may stand in them. -/
inductive TablePart
  /-- Outside tables, and in cells. -/
  | flow
  /-- In a table before its head. -/
  | table
  /-- In a table after its head. -/
  | rows
  /-- In a head or a row. -/
  | cells
  deriving DecidableEq

/-- The part inside an element, if the element may stand in the given part. -/
def TablePart.inside : TablePart → Tag → Option TablePart
  | flow, .table _ => some table
  | flow, .tableHead | flow, .tableRow | flow, .tableCell => none
  | flow, _ => some flow
  | table, .tableHead => some cells
  | rows, .tableRow => some cells
  | cells, .tableCell => some flow
  | _, _ => none

/-- The part after an element. -/
def TablePart.after : TablePart → TablePart
  | table => rows
  | p => p

/-- A table is one head and then rows; heads and rows hold cells; none of the
three stands elsewhere. -/
def tablesInOrder : TablePart → Content → Bool
  | p, nil => p != .table
  | p, leaf _ rest => p == .flow && rest.tablesInOrder p
  | p, element t inner rest =>
      match p.inside t with
      | some q => inner.tablesInOrder q && rest.tablesInOrder p.after
      | none => false

/-- How far into a table a place is. -/
inductive TableDepth
  | outside
  | table
  | row
  deriving DecidableEq

/-- The depth inside an element.  A row outside tables is no row of a table. -/
def TableDepth.inside : TableDepth → Tag → TableDepth
  | outside, .table _ => table
  | table, .tableHead | table, .tableRow => row
  | d, _ => d

/-- A cell stands in a row, and that row in a table. -/
def cellsInRows : TableDepth → Content → Bool
  | _, nil => true
  | d, leaf _ rest => rest.cellsInRows d
  | d, element t inner rest =>
      (t != .tableCell || d == .row) && inner.cellsInRows (d.inside t) && rest.cellsInRows d

/-- The text of a code block. -/
def source : Content → String
  | nil => ""
  | leaf (.text s) rest => s ++ rest.source
  | leaf _ rest | element _ _ rest => rest.source

/-- Where nothing is picked at all, every element is free of it. -/
theorem every_of_not_has {p : Tag → Bool} {q : Tag → Content → Bool}
    (hq : ∀ t inner, p t = false → q t inner = true) :
    (c : Content) → c.has p = false → c.every q = true
  | nil, _ => rfl
  | leaf _ rest, h => every_of_not_has hq rest h
  | element t inner rest, h => by
      simp only [has, Bool.or_eq_false_iff] at h
      obtain ⟨⟨ht, hinner⟩, hrest⟩ := h
      simp only [every, Bool.and_eq_true]
      exact ⟨⟨hq t inner ht, every_of_not_has hq inner hinner⟩, every_of_not_has hq rest hrest⟩

/-- A condition that passes from a tree to its parts, and excludes the tags that `p` picks, leaves
no element that `p` picks at any depth. -/
theorem not_has_of_hereditary {p : Tag → Bool} {P : Content → Prop}
    (hleaf : ∀ l rest, P (leaf l rest) → P rest)
    (helement : ∀ t inner rest, P (element t inner rest) → p t = false ∧ P inner ∧ P rest) :
    (c : Content) → P c → c.has p = false
  | nil, _ => rfl
  | leaf l rest, h => not_has_of_hereditary hleaf helement rest (hleaf l rest h)
  | element t inner rest, h => by
      obtain ⟨ht, hinner, hrest⟩ := helement t inner rest h
      simp only [has, Bool.or_eq_false_iff]
      exact ⟨⟨ht, not_has_of_hereditary hleaf helement inner hinner⟩,
        not_has_of_hereditary hleaf helement rest hrest⟩

/-- Without code blocks, no event of the stream closes one. -/
theorem ne_closing_code_of_not_has : (c : Content) → c.has Tag.isCode = false →
    ∀ e ∈ c.events, e ≠ .closing .code
  | nil, _ => by simp
  | leaf l rest, h => by
      have hl : l.event ≠ .closing .code := by cases l <;> simp [Leaf.event]
      rw [events_leaf, List.forall_mem_cons]
      exact ⟨hl, ne_closing_code_of_not_has rest h⟩
  | element t inner rest, h => by
      simp only [has, Bool.or_eq_false_iff] at h
      obtain ⟨⟨ht, hinner⟩, hrest⟩ := h
      have hclose : Event.closing t.toEnd ≠ .closing .code := by
        cases t <;> simp_all [Tag.isCode, Tag.codeInfo?, Tag.toEnd]
      rw [events_element, List.forall_mem_cons, List.forall_mem_append, List.forall_mem_cons]
      exact ⟨by simp, ne_closing_code_of_not_has inner hinner, hclose,
        ne_closing_code_of_not_has rest hrest⟩

end Content

end Broadsheet
