import Broadsheet.Html.Markup

/-!
# Broadsheet.Document.Citations

Links that readers cannot follow are cited: the link gets a number, and a
section after the body lists the citations in the order of their numbers.
-/

namespace Broadsheet

/-- A cited link. -/
structure Citation where
  title : String
  link : String
  deriving DecidableEq

/-- The citations of a document in order; the first has number 1. -/
abbrev Citations := List Citation

namespace Citations

/-- Records a citation and gives its number. -/
def add (cs : Citations) (title link : String) : Nat × Citations :=
  (cs.length + 1, cs ++ [⟨title, link⟩])

/-- The line of a citation.  The title is left out where it is the link itself. -/
def item (number : Nat) (c : Citation) : Markup :=
  let label : Markup :=
    [.startTag "code" [.fixed "style" "font-size: 90%; opacity: 0.6;"],
      .raw ("[" ++ toString number ++ "]"), .endTag "code"]
  let link : Markup :=
    [.startTag "i" [.fixed "style" "word-break: break-all"], .text c.link, .endTag "i",
      .voidTag "br" [] .slash]
  if c.title = c.link then label ++ [.raw ": "] ++ link
  else label ++ [.raw " ", .text c.title, .raw ": "] ++ link

/-- The lines of citations whose first has the given number, divided by line feeds. -/
def itemsFrom : (number : Nat) → Citations → Markup
  | _, [] => []
  | n, [c] => item n c
  | n, c :: cs => item n c ++ [.raw "\n"] ++ itemsFrom (n + 1) cs

/-- The section that lists the citations; without citations there is none. -/
def sectionMarkup (cs : Citations) (heading : String) : Markup :=
  if cs.isEmpty then []
  else
    [.styled "h4" (.heading .four), .text heading, .endTag "h4", .styled "p" .footnotes] ++
      itemsFrom 1 cs ++ [.endTag "p"]

end Citations

end Broadsheet
