/-!
# Broadsheet.Text.Ranges

Sets of characters as lists of ranges of code points, written in hexadecimal:
`aa b5 c0-d6`.
-/

namespace Broadsheet

/-- Inclusive ranges of code points in rising order. -/
abbrev Ranges := List (Nat × Nat)

namespace Ranges

/-- A hexadecimal digit of the tables. -/
def digit (c : Char) : Nat := if c.toNat < 58 then c.toNat - 48 else c.toNat - 87

/-- Reads ranges, within a range whose first bound may be known and whose last one has begun. -/
def readFrom : (first : Option Nat) → (last : Nat) → List Char → Ranges
  | first, n, [] => [(first.getD n, n)]
  | first, n, ' ' :: cs => (first.getD n, n) :: readFrom none 0 cs
  | _, n, '-' :: cs => readFrom (some n) 0 cs
  | first, n, c :: cs => readFrom first (n * 16 + digit c) cs

/-- Reads ranges from their text. -/
def ofText (s : String) : Ranges := readFrom none 0 s.toList

/-- Whether a character is in one of the ranges. -/
def mem (rs : Ranges) (c : Char) : Bool := rs.any fun r => r.1 ≤ c.toNat && c.toNat ≤ r.2

end Ranges

end Broadsheet
