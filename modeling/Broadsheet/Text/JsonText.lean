import Broadsheet.Text.Double

/-!
# Broadsheet.Text.JsonText

Texts as JSON strings.  Quotes, backslashes and control characters are
escaped, five of the latter by a letter; everything else stands for itself.
-/

namespace Broadsheet

namespace JsonText

/-- A hexadecimal digit in lower case. -/
def hexChar (n : Nat) : Char := if n < 10 then Char.ofNat (48 + n) else Char.ofNat (87 + n)

/-- A character inside a JSON string. -/
def escapeChar (c : Char) : List Char :=
  if c = '"' then ['\\', '"']
  else if c = '\\' then ['\\', '\\']
  else if c = '\x08' then ['\\', 'b']
  else if c = '\t' then ['\\', 't']
  else if c = '\n' then ['\\', 'n']
  else if c = '\x0c' then ['\\', 'f']
  else if c = '\r' then ['\\', 'r']
  else if c.toNat < 0x20 then ['\\', 'u', '0', '0', hexChar (c.toNat / 16), hexChar (c.toNat % 16)]
  else [c]

/-- The characters of a text inside a JSON string. -/
def escape (s : List Char) : List Char := s.flatMap escapeChar

@[simp] theorem escape_nil : escape [] = [] := rfl

@[simp] theorem escape_append (s t : List Char) : escape (s ++ t) = escape s ++ escape t := by
  simp [escape]

end JsonText

/-- The JSON string of a text. -/
def jsonText (s : String) : String :=
  "\"" ++ String.ofList (JsonText.escape s.toList) ++ "\""

end Broadsheet
