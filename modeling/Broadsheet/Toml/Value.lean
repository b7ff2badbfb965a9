/-!
# Broadsheet.Toml.Value

The values of a TOML document.  A table remembers how it came about, because
that decides which later lines may add to it.
-/

namespace Broadsheet.Toml

/-- How a table came about. -/
inductive Origin
  /-- Defined by a `[header]`, or the document itself. -/
  | header
  /-- Named only as the parent in a header. -/
  | parent
  /-- Named by the dotted key of a value. -/
  | dotted
  /-- Written in braces. -/
  | braces
  deriving DecidableEq

/-- A value.  Of floats and dates only the written form is kept. -/
inductive Value
  | string (s : String)
  | integer (n : Int)
  | float (literal : List Char)
  | boolean (b : Bool)
  | date (literal : List Char)
  | array (items : List Value)
  /-- The tables under one `[[header]]`, the last one first. -/
  | tables (last : List (String × Value)) (earlier : List (List (String × Value)))
  | table (origin : Origin) (entries : List (String × Value))

/-- The entries of a table in the order of the document, each key once. -/
abbrev Entries := List (String × Value)

/-- The value of a key. -/
def Entries.get? (es : Entries) (key : String) : Option Value := es.lookup key

end Broadsheet.Toml
