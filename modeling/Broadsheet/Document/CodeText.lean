import Broadsheet.Text.Blank
import Broadsheet.Text.Search
import Broadsheet.Html.Markup

/-!
# Broadsheet.Document.CodeText

Code as it stands in an article.  Editors that take an article over collapse
white space, so highlighted code is flattened to one line: a tab becomes four
blanks, a line break a `<br/>`, and every white space character outside tags a
`&nbsp;`.
-/

namespace Broadsheet

/-! ## The text after a fence -/

/-- Whether a fence asks for a diagram. -/
def isDiagram (info : String) : Bool := startsWithText "mermaid" info

/-- The language of a fence: the first word after it. -/
def languageToken (info : String) : String :=
  String.ofList ((trimStart info.toList).takeWhile fun c => !isBlank c)

/-! ## Flattening -/

/-- Writes each tab as four blanks. -/
def expandTabs (s : List Char) : List Char :=
  s.flatMap fun c => if c = '\t' then "    ".toList else [c]

/-- Writes each line break as a tag. -/
def breakLines : List Char → List Char
  | [] => []
  | '\r' :: '\n' :: cs => "<br/>".toList ++ breakLines cs
  | '\n' :: cs => "<br/>".toList ++ breakLines cs
  | c :: cs => c :: breakLines cs

/-- Writes white space outside tags so that it is kept.  A tag reaches from `<` to the next
`>`. -/
def keepBlanks : (inTag : Bool) → List Char → List Char
  | _, [] => []
  | true, c :: cs => c :: keepBlanks (c != '>') cs
  | false, c :: cs =>
    if c = '<' then c :: keepBlanks true cs
    else if isBlank c then "&nbsp;".toList ++ keepBlanks false cs
    else c :: keepBlanks false cs

/-- Flattens highlighted code to one line. -/
def flatten (html : List Char) : List Char := keepBlanks false (breakLines (expandTabs html))

/-- Flattens highlighted code to one line. -/
def flattenText (html : String) : String := String.ofList (flatten html.toList)

/-! ## The sign on code blocks -/

/-- One dot of the sign. -/
def macDot (cx stroke fill : String) : Piece :=
  .voidTag "ellipse"
    [.fixed "cx" cx, .fixed "cy" "65", .fixed "rx" "50", .fixed "ry" "52", .fixed "stroke" stroke,
      .fixed "stroke-width" "2", .fixed "fill" fill]
    .spacedSlash

/-- The three dots of a window, hidden unless the page's style sheet shows them. -/
def macSign : Markup :=
  [.startTag "span"
      [.fixed "class" "mac-sign", .fixed "style" "padding: 10px 14px 0;", .flag "hidden"],
    .startTag "svg"
      [.fixed "xmlns" "http://www.w3.org/2000/svg", .fixed "version" "1.1", .fixed "x" "0px",
        .fixed "y" "0px", .fixed "width" "45px", .fixed "height" "13px",
        .fixed "viewBox" "0 0 450 130"],
    macDot "50" "rgb(220,60,54)" "rgb(237,108,96)",
    macDot "225" "rgb(218,151,33)" "rgb(247,193,81)",
    macDot "400" "rgb(27,161,37)" "rgb(100,200,86)",
    .endTag "svg", .endTag "span"]

end Broadsheet
