import Broadsheet.Text.Search
import Broadsheet.Style.Compile
import Broadsheet.Document.Render

/-!
# Broadsheet.Document.Page

From a rendered body to a page.  `assemble` puts the body into the article's
container; `exportPage` makes a document of its own of that, with the primary
color written in place of its custom property.
-/

namespace Broadsheet

/-! ## The article -/

/-- The style block after every article. -/
def decorationStyle : String :=
  "<style>.preview-wrapper pre::before \x7bposition: absolute;top: 0;right: 0;color: #ccc;" ++
    "text-align: center;font-size: 0.8em;padding: 5px 10px 0;line-height: 15px;height: 15px;" ++
    "font-weight: 600;\x7d</style>"

/-- The style block that shows the sign on code blocks. -/
def macCodeStyle : String :=
  "<style>.hljs.code__pre > .mac-sign \x7bdisplay: flex;\x7d" ++
    ".code__pre \x7bpadding: 0 !important;\x7d" ++
    ".hljs.code__pre code \x7bdisplay: -webkit-box;padding: 0.5em 1em 1em;overflow-x: auto;" ++
    "text-indent: 0;\x7d</style>"

/-- Takes the top margin from the first style attribute, so that the article starts flush. -/
def flushFirstMargin (html : List Char) : List Char :=
  match cut? "style=\"".toList html with
  | none => html
  | some (before, rest) =>
    match splitOnce (· == '"') rest with
    | none => html
    | some (value, after) =>
      before ++ "style=\"".toList ++ value ++ ";margin-top: 0".toList ++ '"' :: after

/-- The article: the body in its container, with the citations and style blocks after it. -/
def assemble (html footnotes : String) (styles : Styles) (macCodeBlocks : Bool) : String :=
  "<section" ++ styles.styleAttribute .container ++ ">" ++
    String.ofList (flushFirstMargin html.toList) ++ footnotes ++ decorationStyle ++
    (if macCodeBlocks then macCodeStyle else "") ++ "</section>"

/-! ## The page -/

/-- The rest after a declaration of the primary color that a text begins with: the property, a
value without semicolons and quotes, a semicolon, and one white space character if there is
one. -/
def afterColorDeclaration? (s : List Char) : Option (List Char) := do
  let value ← after? (primaryColorProperty ++ ":").toList s
  match value.dropWhile fun c => c != ';' && c != '"' with
  | ';' :: rest =>
    match rest with
    | c :: more => return if isBlank c then more else rest
    | [] => return []
  | _ => none

/-- Takes out declarations of the primary color, with `skip` characters of the last one still to
be passed over. -/
def dropColorDeclarationsFrom : (skip : Nat) → List Char → List Char
  | _, [] => []
  | k + 1, _ :: cs => dropColorDeclarationsFrom k cs
  | 0, c :: cs =>
    match afterColorDeclaration? (c :: cs) with
    | some rest => dropColorDeclarationsFrom (cs.length - rest.length) cs
    | none => c :: dropColorDeclarationsFrom 0 cs

/-- Writes the primary color in place of references to it and takes its declarations out. -/
def resolvePrimaryColor (color content : List Char) : List Char :=
  dropColorDeclarationsFrom 0 (replaceAll primaryColorReference.toList color content)

/-- A document of its own around an article, with the style sheet of its code inside. -/
def exportPage (content primaryColor stylesheet : String) : String :=
  "<html><head><meta charset=\"utf-8\" /><style>" ++ stylesheet ++ "</style></head>" ++
    "<body><div style=\"width: 750px; margin: auto;\">" ++
    String.ofList (resolvePrimaryColor primaryColor.toList content.toList) ++
    "</div></body></html>"

end Broadsheet
