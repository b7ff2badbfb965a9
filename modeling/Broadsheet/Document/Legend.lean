/-!
# Broadsheet.Document.Legend

Which text of an image becomes the caption of its figure.
-/

namespace Broadsheet

/-- The choice of a caption.  The compound choices take the second text where the first is
empty. -/
inductive Legend
  | titleAlt | altTitle | title | alt | none
  deriving DecidableEq

namespace Legend

/-- Every choice. -/
def all : List Legend := [titleAlt, altTitle, title, alt, none]

/-- The choice's name in settings. -/
def name : Legend → String
  | titleAlt => "title-alt"
  | altTitle => "alt-title"
  | title => "title"
  | alt => "alt"
  | none => "none"

/-- The choice of a given name. -/
def ofName? (s : String) : Option Legend := all.find? fun l => l.name == s

/-- The first of two texts, or the second where the first is empty. -/
def orElse (first second : String) : String := if first.isEmpty then second else first

/-- The caption of an image; an empty one is not shown. -/
def caption (l : Legend) (altText titleText : String) : String :=
  match l with
  | titleAlt => orElse titleText altText
  | altTitle => orElse altText titleText
  | title => titleText
  | alt => altText
  | none => ""

end Legend

end Broadsheet
