import Std.Data.ExtTreeMap
import Broadsheet.Text.Blank
import Broadsheet.Yaml.Resolve

/-!
# Broadsheet.Document.FrontMatter

A document may begin with a block of attributes between two fences.  The first
line is `---`; the block ends at the first later line that is `---` or `...`.
What stands between is a YAML mapping.  Where it is not, the document has no
attributes, and the fences are part of its body.
-/

namespace Broadsheet

/-- Attributes by name. -/
abbrev Attributes := Std.ExtTreeMap String Yaml.Value

namespace FrontMatter

/-- The lines of a text with their ends. -/
def lines : List Char → List (List Char)
  | [] => []
  | c :: cs =>
    if c = '\n' then [c] :: lines cs
    else match lines cs with
      | [] => [[c]]
      | l :: ls => (c :: l) :: ls

/-- A line without the carriage returns and line feeds at its end. -/
def content (line : List Char) : List Char :=
  (line.reverse.dropWhile fun c => c == '\r' || c == '\n').reverse

/-- Whether a line ends the block. -/
def isFence (line : List Char) : Bool :=
  content line == "---".toList || content line == "...".toList

/-- The text before the first line that ends a block, and the text after that line. -/
def splitFence : List (List Char) → Option (List Char × List Char)
  | [] => none
  | l :: ls =>
    if isFence l then some ([], ls.flatten)
    else (splitFence ls).map fun (before, rest) => (l ++ before, rest)

/-- The text after the fence that a document begins with. -/
def afterFence? (s : List Char) : Option (List Char) :=
  let s := (after? ['\uFEFF'] s).getD s
  after? "---\r\n".toList s <|> after? "---\n".toList s

/-- The block that a document begins with, and the body after it. -/
def block? (s : List Char) : Option (List Char × List Char) := do
  splitFence (lines (← afterFence? s))

/-- The attributes of a mapping's entries; of two entries with one name the later counts. -/
def attributes (entries : List (String × Yaml.Value)) : Attributes :=
  entries.foldl (fun acc e => acc.insert e.1 e.2) ∅

/-- Splits a document into attributes and body, `parse` being what reads the block. -/
def splitWith (parse : List Char → Option Attributes) (s : List Char) : Attributes × List Char :=
  match block? s with
  | none => (∅, s)
  | some (text, body) =>
    let text := trim text
    if text.isEmpty then (∅, body)
    else match parse text with
      | some a => (a, body)
      | none => (∅, s)

/-- Splits a document into attributes and body. -/
def split (s : List Char) : Attributes × List Char :=
  splitWith (fun t => (Yaml.readMapping t).map attributes) s

/-- Splits a document into attributes and body. -/
def splitText (s : String) : Attributes × String :=
  let (a, body) := split s.toList
  (a, String.ofList body)

end FrontMatter

end Broadsheet
