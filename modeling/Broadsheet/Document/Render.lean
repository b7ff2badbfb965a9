import Broadsheet.Document.Event
import Broadsheet.Document.Legend
import Broadsheet.Document.Services
import Broadsheet.Document.CodeText
import Broadsheet.Document.Citations

/-!
# Broadsheet.Document.Render

Rendering a stream of events to markup whose styles stand in every tag.

The wrapper of a paragraph, a heading or a link depends on what is inside it,
so their content is captured in a buffer of its own; the text of an image and
the source of a code block are captured as plain text.  Everything else is
written as it comes.  One event changes the state in one step, and only the
end of a code block calls a service.
-/

namespace Broadsheet

/-! ## State -/

/-- The numbering of an enclosing list. -/
inductive ListNumbering
  | bullet
  | ordered (next : UInt64)
  deriving DecidableEq

namespace ListNumbering

/-- The numbering of a list that starts. -/
def ofStart : Option UInt64 → ListNumbering
  | none => bullet
  | some n => ordered n

/-- What the next item starts with. -/
def itemMark : ListNumbering → String
  | bullet => "• "
  | ordered n => toString n.toNat ++ ". "

/-- The numbering after one more item. -/
def next : ListNumbering → ListNumbering
  | bullet => bullet
  | ordered n => ordered (n + 1)

end ListNumbering

/-- An enclosing block that changes how paragraphs are rendered. -/
inductive Enclosure
  | quote (alert : Option AlertVariant)
  | item
  deriving DecidableEq

/-- The kind of a paragraph by its innermost enclosure; in a list item it has no wrapper. -/
def Enclosure.paragraphKind : Option Enclosure → Option ElementKind
  | none => some .paragraph
  | some (.quote alert) => some (.quoteParagraph alert)
  | some .item => none

/-- A link that is not closed yet, with the plain text of its label so far. -/
structure PendingLink where
  href : String
  title : String
  label : String

/-- An image that is not closed yet, with the plain text inside it so far. -/
structure PendingImage where
  src : String
  title : String
  alt : String

/-- A code block that is not closed yet, with its text so far. -/
structure PendingCode where
  info : String
  source : String

/-- Where in a table the next cell stands. -/
structure TableCursor where
  columns : List Alignment
  cell : Nat

/-- What a rendering holds between two events.  Innermost things are first. -/
structure RenderState where
  output : Markup
  /-- Outputs that wait for a captured content to end. -/
  saved : List Markup
  enclosures : List Enclosure
  lists : List ListNumbering
  links : List PendingLink
  code : Option PendingCode
  table : TableCursor
  image : Option PendingImage
  citations : Citations
  /-- The number of diagrams so far. -/
  diagrams : Nat
  warnings : List String

namespace RenderState

/-- The state before the first event. -/
def initial : RenderState where
  output := []
  saved := []
  enclosures := []
  lists := []
  links := []
  code := none
  table := ⟨[], 0⟩
  image := none
  citations := []
  diagrams := 0
  warnings := []

end RenderState

/-- What a rendering is asked for, besides its events. -/
structure RenderSettings where
  styles : Styles
  legend : Legend
  /-- Whether links get citations. -/
  citations : Bool
  /-- The heading over the citations. -/
  footnoteHeading : String

/-- The heading over the citations unless another is set. -/
def defaultFootnoteHeading : String := "引用链接"

/-- Settings with the given styles and nothing else asked for. -/
def RenderSettings.ofStyles (styles : Styles) : RenderSettings where
  styles := styles
  legend := .title
  citations := false
  footnoteHeading := defaultFootnoteHeading

/-! ## What is written -/

/-- Whether content is a figure, as far as its written form tells. -/
def isFigure (html : String) : Bool := containsText "<figure" html && containsText "<img" html

/-- The content of a paragraph as it is written.  A figure, blank content and the content of a list
item's paragraph get no wrapper. -/
def paragraphMarkup (cfg : RenderSettings) (enclosure : Option Enclosure) (content : Markup) :
    Markup :=
  let html := content.write cfg.styles
  if isFigure html || blankText html then content
  else match Enclosure.paragraphKind enclosure with
    | some kind => [.styled "p" kind] ++ content ++ [.endTag "p"]
    | none => content

/-- The content of a heading as it is written. -/
def headingMarkup (level : HeadingLevel) (content : Markup) : Markup :=
  [.styled level.name (.heading level)] ++ content ++ [.endTag level.name]

/-- Links to this host are kept as links; a reader of the article can follow no others. -/
def platformPrefix : String := "https://mp.weixin.qq.com"

namespace PendingLink

/-- Whether the link can be followed in the article. -/
def onPlatform (l : PendingLink) : Bool := startsWithText platformPrefix l.href

/-- The title that the link is cited with: its own, or its label, or its address. -/
def citationTitle (l : PendingLink) : String := Legend.orElse (Legend.orElse l.title l.label) l.href

/-- The citation of the link, if it is cited.  A link that shows its address needs none. -/
def citation? (cfg : RenderSettings) (l : PendingLink) : Option Citation :=
  if l.onPlatform || l.href == l.label || !cfg.citations then none
  else some ⟨l.citationTitle, l.href⟩

/-- The link without a citation around the markup of its label. -/
def markup (l : PendingLink) (label : Markup) : Markup :=
  if l.onPlatform then
    [.startTag "a"
        [.escaped "href" l.href, .escaped "title" (Legend.orElse l.title l.label),
          .themed .platformLink ""]] ++ label ++ [.endTag "a"]
  else if l.href = l.label then label
  else [.styled "span" .link] ++ label ++ [.endTag "span"]

end PendingLink

/-- The mark that leads from a link to its citation. -/
def citationMark (number : Nat) : Markup :=
  [.styled "sup" .footnote, .raw ("[" ++ toString number ++ "]"), .endTag "sup"]

/-- A cited link around the markup of its label. -/
def citedMarkup (number : Nat) (label : Markup) : Markup :=
  [.styled "span" .link] ++ label ++ citationMark number ++ [.endTag "span"]

/-- The figure of an image. -/
def figure (cfg : RenderSettings) (i : PendingImage) : Markup :=
  let caption := cfg.legend.caption i.alt i.title
  [.styled "figure" .figure,
    .voidTag "img"
      [.themed .image "", .escaped "src" i.src, .escaped "title" i.title, .escaped "alt" i.alt]
      .slash] ++
  (if caption.isEmpty then []
    else [.styled "figcaption" .figureCaption, .text caption, .endTag "figcaption"]) ++
  [.endTag "figure"]

/-- Inline code. -/
def codeSpanMarkup (t : String) : Markup := [.styled "code" .codeSpan, .text t, .endTag "code"]

/-- A line break. -/
def lineBreakMarkup : Markup := [.voidTag "br" [] .slash]

/-- A rule between blocks. -/
def ruleMarkup : Markup := [.voidTag "hr" [.themed .rule ""] .slash]

/-- The box of a task. -/
def taskMarkup (checked : Bool) : Markup :=
  [.voidTag "input"
      ([.fixed "type" "checkbox"] ++ (if checked then [.flag "checked"] else []) ++
        [.flag "disabled"]) .plain,
    .raw " "]

/-- The declaration that aligns the next cell. -/
def TableCursor.alignment (t : TableCursor) : String :=
  match t.columns[t.cell]? with
  | some .left => "; text-align: left"
  | some .center => "; text-align: center"
  | some .right => "; text-align: right"
  | some .none => ""
  | none => ""

/-- The head of an alert. -/
def alertTitle (v : AlertVariant) : Markup :=
  [.styled "p" (.quoteTitle (some v)), .raw (v.icon ++ " " ++ v.title), .endTag "p"]

/-- What an opening event writes at once.  Tags whose wrapper depends on what is inside, and those
that are not shown, write nothing. -/
def Tag.markup (numbering : Option ListNumbering) (table : TableCursor) : Tag → Markup
  | .quote alert => .styled "blockquote" (.quote alert) :: (alert.map alertTitle).getD []
  | .list start => [if start.isSome then .styled "ol" .orderedList else .styled "ul" .bulletList]
  | .item => [.styled "li" .listItem, .raw ((numbering.map ListNumbering.itemMark).getD "")]
  | .table _ =>
    [.startTag "section" [.fixed "style" "padding:0 8px; max-width: 100%; overflow: auto"],
      .startTag "table" [.fixed "class" "preview-table", .themed .table ""]]
  | .tableHead => [.styled "thead" .tableHead, .startTag "tr" []]
  | .tableRow => [.startTag "tr" []]
  | .tableCell => [.startTag "td" [.themed .tableCell table.alignment]]
  | .emphasis => [.styled "span" .emphasis]
  | .strong => [.styled "strong" .strong]
  | .strikethrough => [.startTag "del" []]
  | .superscript => [.startTag "sup" []]
  | .subscript => [.startTag "sub" []]
  | .paragraph | .heading _ | .link _ _ | .image _ _ | .fencedCode _ | .indentedCode
  | .footnoteDefinition _ | .htmlBlock | .metadata | .definitionList | .definitionTitle
  | .definitionBody => []

/-- What the closing event of such a tag writes. -/
def TagEnd.markup : TagEnd → Markup
  | .quote => [.endTag "blockquote"]
  | .list ordered => [.endTag (if ordered then "ol" else "ul")]
  | .item => [.endTag "li"]
  | .table => [.endTag "tbody", .endTag "table", .endTag "section"]
  | .tableHead => [.endTag "tr", .endTag "thead", .startTag "tbody" []]
  | .tableRow => [.endTag "tr"]
  | .tableCell => [.endTag "td"]
  | .emphasis => [.endTag "span"]
  | .strong => [.endTag "strong"]
  | .strikethrough => [.endTag "del"]
  | .superscript => [.endTag "sup"]
  | .subscript => [.endTag "sub"]
  | .paragraph | .heading _ | .link | .image | .code | .footnoteDefinition | .htmlBlock | .metadata
  | .definitionList | .definitionTitle | .definitionBody => []

/-! ## Code blocks and diagrams -/

/-- What a service gave for a code block. -/
inductive CodeAnswer
  /-- There is no service for it. -/
  | unasked
  | html (s : String)
  | failed (message : String)

/-- The warnings that come with an answer: a failure does not stop the rendering. -/
def CodeAnswer.warnings : CodeAnswer → List String
  | failed message => [message]
  | unasked | html _ => []

namespace PendingCode

/-- The code block without the line feed at its end. -/
def trimmed (c : PendingCode) : PendingCode :=
  { c with source := String.ofList (dropLineFeed c.source.toList) }

/-- The number of diagrams that a code block is. -/
def diagrams (c : PendingCode) : Nat := if isDiagram c.info then 1 else 0

/-- A diagram's block.  Where there is no picture, the source itself is shown. -/
def diagramMarkup (c : PendingCode) (a : CodeAnswer) : Markup :=
  [.startTag "pre" [.fixed "class" "mermaid"],
    match a with
    | .html svg => .raw svg
    | .unasked | .failed _ => .text c.source,
    .endTag "pre"]

/-- A block of code; where it is not highlighted, it is shown as plain text. -/
def codeMarkup (c : PendingCode) (a : CodeAnswer) : Markup :=
  [.startTag "pre" [.fixed "class" "hljs code__pre", .themed .codeBlock ""]] ++ macSign ++
    [.startTag "code" [.escaped "class" ("language-" ++ c.info), .themed .code ""],
      .raw (flattenText (match a with
        | .html html => html
        | .unasked | .failed _ => escapeText c.source)),
      .endTag "code", .endTag "pre"]

/-- The block as it is written with what a service gave for it. -/
def markup (c : PendingCode) (a : CodeAnswer) : Markup :=
  if isDiagram c.info then c.diagramMarkup a else c.codeMarkup a

end PendingCode

/-- Asks the service for a code block.  A diagram is given the id of its number. -/
def Services.answer {m : Type → Type} [Monad m] (services : Services m) (c : PendingCode)
    (number : Nat) : m CodeAnswer := do
  if isDiagram c.info then
    match services.diagram? with
    | none => return .unasked
    | some render =>
      match ← render c.source (diagramId number) with
      | .ok svg => return .html svg
      | .error e => return .failed e.message
  else
    match ← services.highlight c.source (languageToken c.info) with
    | .ok html => return .html html
    | .error e => return .failed e.message

namespace RenderState

/-! ## Writing and capturing -/

/-- Appends markup to the output. -/
def emit (s : RenderState) (m : Markup) : RenderState := { s with output := s.output ++ m }

/-- Starts to capture what is written. -/
def beginCapture (s : RenderState) : RenderState :=
  { s with output := [], saved := s.output :: s.saved }

/-- Ends the innermost capture: what was captured, and the state with the outer output. -/
def endCapture (s : RenderState) : Markup × RenderState :=
  (s.output, { s with output := s.saved.headD [], saved := s.saved.tail })

/-- Adds plain text to the label of the innermost link. -/
def addToLabel (s : RenderState) (text : String) : RenderState :=
  { s with links := s.links.modifyHead fun l => { l with label := l.label ++ text } }

/-! ## Text -/

/-- Text goes to the open code block, else to the open image, else to the output, where it also
counts for the label of the innermost link. -/
def text (t : String) (s : RenderState) : RenderState :=
  match s.code, s.image with
  | some c, _ => { s with code := some { c with source := c.source ++ t } }
  | none, some i => { s with image := some { i with alt := i.alt ++ t } }
  | none, none => (s.addToLabel t).emit [.text t]

/-- Inline code counts as text for images and labels. -/
def inlineCode (t : String) (s : RenderState) : RenderState :=
  match s.image with
  | some i => { s with image := some { i with alt := i.alt ++ t } }
  | none => (s.addToLabel t).emit (codeSpanMarkup t)

/-- A line break is a blank in an image's text. -/
def lineBreak (s : RenderState) : RenderState :=
  match s.image with
  | some i => { s with image := some { i with alt := i.alt ++ " " } }
  | none => s.emit lineBreakMarkup

/-! ## Tags -/

/-- What an opening event does. -/
def openTag (tag : Tag) (s : RenderState) : RenderState :=
  let opened := s.emit (tag.markup s.lists.head? s.table)
  match tag with
  | .paragraph | .heading _ => s.beginCapture
  | .quote alert => { opened with enclosures := .quote alert :: s.enclosures }
  | .list start => { opened with lists := .ofStart start :: s.lists }
  | .item =>
    { opened with
      enclosures := .item :: s.enclosures
      lists := s.lists.modifyHead ListNumbering.next }
  | .table columns => { opened with table := ⟨columns, 0⟩ }
  | .tableHead | .tableRow => { opened with table := { s.table with cell := 0 } }
  | .tableCell | .emphasis | .strong | .strikethrough | .superscript | .subscript => opened
  | .fencedCode info => { s with code := some ⟨trimText info, ""⟩ }
  | .indentedCode => { s with code := some ⟨"", ""⟩ }
  | .link href title =>
    if s.image.isSome then s
    else { s with links := ⟨href, title, ""⟩ :: s.links }.beginCapture
  | .image src title => { s with image := some ⟨src, title, ""⟩ }
  | .footnoteDefinition _ | .htmlBlock | .metadata | .definitionList | .definitionTitle
  | .definitionBody => s

/-- Writes a link around the markup of its label, and records its citation. -/
def link (cfg : RenderSettings) (l : PendingLink) (label : Markup) (s : RenderState) :
    RenderState :=
  match l.citation? cfg with
  | some c =>
    let (number, citations) := s.citations.add c.title c.link
    emit { s with citations := citations } (citedMarkup number label)
  | none => s.emit (l.markup label)

/-- What a closing event does; the end of a code block is not among them. -/
def closeTag (cfg : RenderSettings) (tag : TagEnd) (s : RenderState) : RenderState :=
  let closed := s.emit tag.markup
  match tag with
  | .paragraph =>
    let (content, s) := s.endCapture
    s.emit (paragraphMarkup cfg s.enclosures.head? content)
  | .heading level =>
    let (content, s) := s.endCapture
    s.emit (headingMarkup level content)
  | .quote | .item => { closed with enclosures := s.enclosures.tail }
  | .list _ => { closed with lists := s.lists.tail }
  | .tableCell => { closed with table := { s.table with cell := s.table.cell + 1 } }
  | .table | .tableHead | .tableRow | .emphasis | .strong | .strikethrough | .superscript
  | .subscript => closed
  | .link =>
    if s.image.isSome then s
    else
      let (content, s) := s.endCapture
      match s.links with
      | [] => s
      | l :: ls => { s with links := ls }.link cfg l content
  | .image =>
    match s.image with
    | none => s
    | some i => ({ s with image := none }.addToLabel i.alt).emit (figure cfg i)
  | .code | .footnoteDefinition | .htmlBlock | .metadata | .definitionList | .definitionTitle
  | .definitionBody => s

/-- Ends the open code block with what a service gave for it; without an open one, an empty block
ends. -/
def endCode (c : PendingCode) (a : CodeAnswer) (s : RenderState) : RenderState :=
  { s with
    output := s.output ++ c.markup a
    code := none
    diagrams := s.diagrams + c.diagrams
    warnings := s.warnings ++ a.warnings }

/-- What the end of a code block does. -/
def closeCode {m : Type → Type} [Monad m] (services : Services m) (s : RenderState) :
    m RenderState := do
  let c := (s.code.getD ⟨"", ""⟩).trimmed
  return s.endCode c (← services.answer c s.diagrams)

/-! ## Events -/

/-- What an event does that calls no service. -/
def quietStep (cfg : RenderSettings) (s : RenderState) : Event → RenderState
  | .opening tag => s.openTag tag
  | .closing tag => s.closeTag cfg tag
  | .text t => s.text t
  | .code t => s.inlineCode t
  | .html t | .inlineHtml t => s.emit [.raw t]
  | .softBreak | .hardBreak => s.lineBreak
  | .rule => s.emit ruleMarkup
  | .taskMarker checked => s.emit (taskMarkup checked)
  | .footnoteReference _ | .inlineMath _ | .displayMath _ => s

/-- What one event does. -/
def step {m : Type → Type} [Monad m] (services : Services m) (cfg : RenderSettings)
    (s : RenderState) (e : Event) : m RenderState :=
  match e with
  | .closing .code => s.closeCode services
  | e => pure (s.quietStep cfg e)

/-- What a list of events does. -/
def run {m : Type → Type} [Monad m] (services : Services m) (cfg : RenderSettings)
    (s : RenderState) (events : List Event) : m RenderState :=
  events.foldlM (step services cfg) s

end RenderState

/-! ## Whole documents -/

/-- A rendered document. -/
structure Rendered where
  html : String
  /-- The section of the citations, empty without citations. -/
  footnotes : String
  warnings : List String

/-- What is shown of a final state.  Content that is still captured then is dropped. -/
def RenderState.finish (cfg : RenderSettings) (s : RenderState) : Rendered where
  html := s.output.write cfg.styles
  footnotes := (s.citations.sectionMarkup cfg.footnoteHeading).write cfg.styles
  warnings := s.warnings

/-- Renders a document. -/
def renderEvents {m : Type → Type} [Monad m] (services : Services m) (cfg : RenderSettings)
    (events : List Event) : m Rendered := do
  return (← RenderState.initial.run services cfg events).finish cfg

end Broadsheet
