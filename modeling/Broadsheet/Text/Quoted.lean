import Broadsheet.Text.Category

/-!
# Broadsheet.Text.Quoted

A text in double quotes, for messages that show a value.  Quotes, backslashes
and line breaks are escaped, and so is every character that would not show by
itself.
-/

namespace Broadsheet

/-- A number in hexadecimal digits. -/
def hexText (n : Nat) : List Char := Nat.toDigits 16 n

/-- A character inside quotes. -/
def quoteChar (c : Char) : List Char :=
  if c = '\x00' then ['\\', '0']
  else if c = '\t' then ['\\', 't']
  else if c = '\r' then ['\\', 'r']
  else if c = '\n' then ['\\', 'n']
  else if c = '"' then ['\\', '"']
  else if c = '\\' then ['\\', '\\']
  else if extendsGrapheme c || !isPrintable c then
    ['\\', 'u', '{'] ++ hexText c.toNat ++ ['}']
  else [c]

/-- A text in quotes. -/
def quoteText (s : String) : String :=
  String.ofList (['"'] ++ s.toList.flatMap quoteChar ++ ['"'])

end Broadsheet
