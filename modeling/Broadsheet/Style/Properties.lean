import Std.Data.ExtTreeMap
import Broadsheet.Text.Search
import Broadsheet.Text.Blank

/-!
# Broadsheet.Style.Properties

A `Properties` value maps property names to values, and is listed in the
order of the names.  Two of them are equal when they give every name the same
value, so laws about layering are plain equations.
-/

namespace Broadsheet

/-- Style declarations: property name to value. -/
abbrev Properties := Std.ExtTreeMap String String

namespace Properties

/-- Layers `upper` over `lower`; where both have a property, `upper` wins. -/
def overlay (lower upper : Properties) : Properties := lower ∪ upper

/-- The declarations of a list of pairs, later ones winning. -/
def ofPairs (pairs : List (String × String)) : Properties :=
  pairs.foldl (fun acc p => acc.insert p.1 p.2) ∅

/-- Reads one declaration, `name: value`.  The first colon divides; the name must not be
blank. -/
def readDeclaration (s : List Char) : Option (String × String) := do
  let (name, value) ← splitOnce (· == ':') s
  let name := trim name
  guard (!name.isEmpty)
  return (String.ofList name, String.ofList (trim value))

/-- Reads the text between the braces of a rule: declarations divided by semicolons, the last of
two for one property winning.  A piece that is no declaration is passed over. -/
def parse (s : List Char) : Properties :=
  ofPairs ((splitAt (· == ';') s).filterMap readDeclaration)

/-- Writes declarations as `name: value; name: value`. -/
def write (p : Properties) : String :=
  "; ".intercalate (p.toList.map fun (name, value) => name ++ ": " ++ value)

end Properties

end Broadsheet
