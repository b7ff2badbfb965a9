import Broadsheet.Markdown.Spacing
import Broadsheet.Text.Search

/-!
# Broadsheet.Markdown.Html

Raw HTML in Markdown: tags, comments, instructions, declarations and character
data within a paragraph, and the lines that begin a block of HTML.
-/

namespace Broadsheet.Markdown

namespace Html

/-! ## Tags -/

/-- Characters of a tag's name. -/
def isNameChar (c : Char) : Bool := c.isAlphanum || c == '-'

/-- Characters that an attribute's name starts with. -/
def isAttrStart (c : Char) : Bool := c.isAlpha || c == '_' || c == ':'

/-- Characters of an attribute's name. -/
def isAttrChar (c : Char) : Bool :=
  c.isAlphanum || c == '_' || c == '.' || c == ':' || c == '-'

/-- Characters that end a value without quotes. -/
def endsValue (c : Char) : Bool :=
  c == ' ' || c == '\t' || isLineEnd c || c == '\'' || c == '"' || c == '=' || c == '<' ||
    c == '>' || c == '\x60'

/-- Skips the value of an attribute. -/
def skipValue? : List Char → Option (List Char)
  | [] => none
  | c :: r =>
    if c == '"' || c == '\'' then (splitOnce (· == c) r).map (·.2)
    else if endsValue c then none
    else some (r.dropWhile fun x => !endsValue x)

/-- Skips an attribute: its name, and its value if there is one. -/
def skipAttr? : List Char → Option (List Char)
  | [] => none
  | c :: r =>
    if isAttrStart c then
      let r := r.dropWhile isAttrChar
      match r.dropWhile isGap with
      | '=' :: v => skipValue? (v.dropWhile isGap)
      | _ => some r
    else none

/-- Skips the attributes of an opening tag and what closes it. -/
def skipAttrs? : (fuel : Nat) → List Char → Option (List Char)
  | 0, _ => none
  | fuel + 1, s =>
    match s.dropWhile isGap with
    | '>' :: r => some r
    | '/' :: '>' :: r => some r
    | t => if t.length < s.length then (skipAttr? t).bind (skipAttrs? fuel) else none

/-- Skips an opening or closing tag, of which the first `<` has been read. -/
def skipTag? : List Char → Option (List Char)
  | '/' :: c :: r =>
    if c.isAlpha then
      match (r.dropWhile isNameChar).dropWhile isGap with
      | '>' :: t => some t
      | _ => none
    else none
  | c :: r =>
    if c.isAlpha then
      let r := r.dropWhile isNameChar
      skipAttrs? (r.length + 1) r
    else none
  | [] => none

/-! ## Other markup -/

/-- Skips to the end of the first place where `mark` occurs. -/
def skipPast? (mark : String) (s : List Char) : Option (List Char) := (cut? mark.toList s).map (·.2)

/-- Skips any piece of markup, of which the first `<` has been read.  `<!-->` and `<!--->` are
whole comments. -/
def skipMarkup? : List Char → Option (List Char)
  | '?' :: r => skipPast? "?>" r
  | '!' :: '-' :: '-' :: r =>
    match r with
    | '>' :: t => some t
    | '-' :: '>' :: t => some t
    | _ => skipPast? "-->" r
  | '!' :: r =>
    match after? "[CDATA[".toList r with
    | some t => skipPast? "]]>" t
    | none => if r.head?.any Char.isAlpha then skipPast? ">" r else none
  | s => skipTag? s

/-! ## Blocks -/

/-- Where a block of HTML ends. -/
inductive BlockEnd
  /-- After the line that the text stands in. -/
  | after (mark : String)
  /-- Before a blank line. -/
  | blank
  deriving DecidableEq

/-- The elements whose text is taken as it is, up to their closing tag. -/
def rawElements : List String := ["pre", "style", "script", "textarea"]

/-- The elements of a page's structure. -/
def structureElements : List String := [
  "address", "article", "aside", "base", "basefont", "blockquote", "body", "caption", "center",
  "col", "colgroup", "dd", "details", "dialog", "dir", "div", "dl", "dt", "fieldset",
  "figcaption", "figure", "footer", "form", "frame", "frameset", "h1", "h2", "h3", "h4", "h5",
  "h6", "head", "header", "hr", "html", "iframe", "legend", "li", "link", "main", "menu",
  "menuitem", "nav", "noframes", "ol", "optgroup", "option", "p", "param", "search", "section",
  "summary", "table", "tbody", "td", "tfoot", "th", "thead", "title", "tr", "track", "ul"]

/-- The name at the start of a text, in lower case, and what follows it. -/
def elementName (s : List Char) : String × List Char :=
  (String.ofList ((s.takeWhile Char.isAlphanum).map Char.toLower), s.dropWhile Char.isAlphanum)

/-- Markup that begins a block ended by a text of its own; the first `<` has been read. -/
def closedBlock? (s : List Char) : Option BlockEnd :=
  let (name, r) := elementName s
  if rawElements.contains name && r.head?.all (fun c => isGap c || c == '>') then
    some (.after ("</" ++ name ++ ">"))
  else if startsWith "!--".toList s then some (.after "-->")
  else if startsWith ['?'] s then some (.after "?>")
  else if startsWith "![CDATA[".toList s then some (.after "]]>")
  else match s with
    | '!' :: c :: _ => if c.isAlpha then some (.after ">") else none
    | _ => none

/-- Whether a tag of the page's structure follows; the first `<` has been read. -/
def startsStructure (s : List Char) : Bool :=
  let (name, r) := elementName (match s with
    | '/' :: t => t
    | t => t)
  structureElements.contains name &&
    (match r with
      | [] => true
      | '/' :: '>' :: _ => true
      | c :: _ => isIndent c || isLineEnd c || c == '>')

/-- How a block of HTML that starts a line ends.  Only the first two kinds of it interrupt a
paragraph. -/
def blockStart? (interrupting : Bool) : List Char → Option BlockEnd
  | '<' :: s =>
    match closedBlock? s with
    | some e => some e
    | none =>
      if startsStructure s then some .blank
      else if !interrupting && (skipTag? s).any blankRest then some .blank
      else none
  | _ => none

end Html

end Broadsheet.Markdown
