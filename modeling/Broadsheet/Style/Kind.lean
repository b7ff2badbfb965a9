/-!
# Broadsheet.Style.Kind

Every element of an article is styled through exactly one `ElementKind`.  A
kind has a stable name, which theme files and user style sheets use, and
belongs to one of a theme's two tables.  Kinds of an alert (`> [!NOTE]`)
inherit the declarations of the plain quote's kind, their family root.
-/

namespace Broadsheet

/-! ## Alerts -/

/-- The five kinds of alert. -/
inductive AlertVariant
  | note | tip | important | warning | caution
  deriving DecidableEq

namespace AlertVariant

/-- Every variant. -/
def all : List AlertVariant := [note, tip, important, warning, caution]

/-- The variant's name inside the names of its kinds. -/
def name : AlertVariant → String
  | note => "note"
  | tip => "tip"
  | important => "important"
  | warning => "warning"
  | caution => "caution"

/-- The heading that an alert shows. -/
def title : AlertVariant → String
  | note => "Note"
  | tip => "Tip"
  | important => "Important"
  | warning => "Warning"
  | caution => "Caution"

/-- The sign before the heading of an alert. -/
def icon : AlertVariant → String
  | note => "ℹ️"
  | tip => "💡"
  | important => "❗"
  | warning => "⚠️"
  | caution => "🔴"

/-- The variant of a given name. -/
def ofName? (s : String) : Option AlertVariant := all.find? fun v => v.name == s

end AlertVariant

/-! ## Headings -/

/-- The six levels of headings. -/
inductive HeadingLevel
  | one | two | three | four | five | six
  deriving DecidableEq

namespace HeadingLevel

/-- Every level. -/
def all : List HeadingLevel := [one, two, three, four, five, six]

/-- The level's number. -/
def toNat : HeadingLevel → Nat
  | one => 1
  | two => 2
  | three => 3
  | four => 4
  | five => 5
  | six => 6

/-- The level of a number from 1 to 6. -/
def ofNat? : Nat → Option HeadingLevel
  | 1 => some one
  | 2 => some two
  | 3 => some three
  | 4 => some four
  | 5 => some five
  | 6 => some six
  | _ => none

theorem ofNat?_toNat (l : HeadingLevel) : ofNat? l.toNat = some l := by cases l <;> rfl

/-- The level's element name, `h1` to `h6`. -/
def name : HeadingLevel → String
  | one => "h1"
  | two => "h2"
  | three => "h3"
  | four => "h4"
  | five => "h5"
  | six => "h6"

end HeadingLevel

/-! ## Kinds -/

/-- The table of a theme that a kind belongs to. -/
inductive Category
  | block | inline
  deriving DecidableEq

/-- The table's name in theme files. -/
def Category.name : Category → String
  | block => "block"
  | inline => "inline"

/-- What a piece of an article can be styled as.  The kinds of quotes carry the alert variant
that they belong to, or none for plain quotes. -/
inductive ElementKind
  | container
  | heading (level : HeadingLevel)
  | paragraph
  | quote (alert : Option AlertVariant)
  | quoteTitle (alert : Option AlertVariant)
  | quoteParagraph (alert : Option AlertVariant)
  | codeBlock
  | code
  | image
  | orderedList
  | bulletList
  | footnotes
  | figure
  | rule
  | listItem
  | codeSpan
  | link
  | platformLink
  | strong
  | table
  | tableHead
  | tableCell
  | footnote
  | figureCaption
  | emphasis
  deriving DecidableEq

namespace ElementKind

/-- Every kind, those of the block table first. -/
def all : List ElementKind :=
  [container] ++ HeadingLevel.all.map heading ++ [paragraph, quote none, quoteParagraph none] ++
  AlertVariant.all.map (fun v => quote (some v)) ++ [quoteTitle none] ++
  AlertVariant.all.map (fun v => quoteTitle (some v)) ++
  AlertVariant.all.map (fun v => quoteParagraph (some v)) ++
  [codeBlock, code, image, orderedList, bulletList, footnotes, figure, rule] ++
  [listItem, codeSpan, link, platformLink, strong, table, tableHead, tableCell, footnote,
    figureCaption, emphasis]

theorem mem_all (k : ElementKind) : k ∈ all := by
  rcases k with _ | l | _ | a | a | a | _ | _ | _ | _ | _ | _ | _ | _ | _ | _ | _ | _ | _ | _ | _ |
    _ | _ | _ | _ <;> try decide
  · cases l <;> decide
  · rcases a with _ | v
    · decide
    · cases v <;> decide
  · rcases a with _ | v
    · decide
    · cases v <;> decide
  · rcases a with _ | v
    · decide
    · cases v <;> decide

theorem nodup_all : all.Nodup := by decide

/-- The kind's stable name. -/
def name : ElementKind → String
  | container => "container"
  | heading level => level.name
  | paragraph => "p"
  | quote none => "blockquote"
  | quote (some v) => "blockquote_" ++ v.name
  | quoteTitle none => "blockquote_title"
  | quoteTitle (some v) => "blockquote_title_" ++ v.name
  | quoteParagraph none => "blockquote_p"
  | quoteParagraph (some v) => "blockquote_p_" ++ v.name
  | codeBlock => "code_pre"
  | code => "code"
  | image => "image"
  | orderedList => "ol"
  | bulletList => "ul"
  | footnotes => "footnotes"
  | figure => "figure"
  | rule => "hr"
  | listItem => "listitem"
  | codeSpan => "codespan"
  | link => "link"
  | platformLink => "wx_link"
  | strong => "strong"
  | table => "table"
  | tableHead => "thead"
  | tableCell => "td"
  | footnote => "footnote"
  | figureCaption => "figcaption"
  | emphasis => "em"

/-- The kind of a given name. -/
def ofName? (s : String) : Option ElementKind := all.find? fun k => k.name == s

/-- The table that the kind belongs to. -/
def category : ElementKind → Category
  | listItem | codeSpan | link | platformLink | strong | table | tableHead | tableCell | footnote
  | figureCaption | emphasis => .inline
  | _ => .block

/-- The plain kind that an alert's kind inherits from. -/
def familyRoot : ElementKind → Option ElementKind
  | quote (some _) => some (quote none)
  | quoteTitle (some _) => some (quoteTitle none)
  | quoteParagraph (some _) => some (quoteParagraph none)
  | _ => none

/-- Whether a user's style sheet may restyle the kind. -/
def acceptsUserCss : ElementKind → Bool
  | footnotes | figure | table | tableHead | tableCell | footnote | figureCaption | emphasis => false
  | _ => true

end ElementKind

/-- The element kind of a heading's level, if the level is one from 1 to 6. -/
def ElementKind.ofHeadingLevel? (level : Nat) : Option ElementKind :=
  (HeadingLevel.ofNat? level).map .heading

/-- A name that no element kind has. -/
structure UnknownKind where
  name : String
  deriving DecidableEq

/-- The wording of the error. -/
def UnknownKind.message (e : UnknownKind) : String := "unknown element kind: " ++ e.name

end Broadsheet
