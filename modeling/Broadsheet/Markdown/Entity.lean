import Broadsheet.Markdown.EntityTable
import Broadsheet.Text.CaseFold
import Broadsheet.Text.Category
import Broadsheet.Text.Double
import Broadsheet.Text.Search

/-!
# Broadsheet.Markdown.Entity

Character references and escapes.  `&name;` stands for the characters of that
name, `&#n;` and `&#xn;` for the character with that code point, and a
backslash before punctuation for the punctuation itself.  What is none of
these stands for itself.
-/

namespace Broadsheet.Markdown

namespace Entity

/-- The characters that a name stands for. -/
def named? (name : List Char) : Option (List Char) := do
  let c ← name.head?
  let text ← EntityTable.texts.lookup c
  let codes ← (splitAt (· == ' ') text.toList).findSome? (after? (name ++ ['=']))
  return (splitAt (· == '+') codes).map fun code => Char.ofNat (CaseFold.number code)

/-- The character of a code point, if it is one; zero stands for the replacement character. -/
def numbered? (n : Nat) : Option (List Char) :=
  if n = 0 then some ['\uFFFD']
  else if n < 0xD800 ∨ (0xDFFF < n ∧ n < 0x110000) then some [Char.ofNat n]
  else none

/-- Reads a number of at most so many digits, with a semicolon after it. -/
def readNumber? (base : Nat) (digit : Char → Option Nat) (limit : Nat) (s : List Char) :
    Option (List Char × List Char) :=
  let digits := (s.takeWhile fun c => (digit c).isSome).take limit
  match digits, s.drop digits.length with
  | _ :: _, ';' :: r => (numbered? (Decimal.digitsValue base digit 0 digits)).map (·, r)
  | _, _ => none

/-- Reads what follows an ampersand as a reference: the characters that it stands for, and the
rest of the text. -/
def read? : List Char → Option (List Char × List Char)
  | '#' :: 'x' :: s => readNumber? 16 Decimal.hexDigit 6 s
  | '#' :: 'X' :: s => readNumber? 16 Decimal.hexDigit 6 s
  | '#' :: s => readNumber? 10 Decimal.decimalDigit 7 s
  | s =>
    let name := s.takeWhile Char.isAlphanum
    match s.drop name.length with
    | ';' :: r => (named? name).map (·, r)
    | _ => none

end Entity

/-- Resolves references and escapes, with `skip` characters still to be passed over.  Carriage
returns are dropped. -/
def unescapeFrom : (skip : Nat) → List Char → List Char
  | _, [] => []
  | k + 1, _ :: cs => unescapeFrom k cs
  | 0, '\\' :: c :: cs =>
    if isAsciiPunctuation c then c :: unescapeFrom 1 (c :: cs) else '\\' :: unescapeFrom 0 (c :: cs)
  | 0, '&' :: cs =>
    match Entity.read? cs with
    | some (value, rest) => value ++ unescapeFrom (cs.length - rest.length) cs
    | none => '&' :: unescapeFrom 0 cs
  | 0, '\r' :: cs => unescapeFrom 0 cs
  | 0, c :: cs => c :: unescapeFrom 0 cs

/-- Resolves the references and escapes of a text. -/
def unescape (s : List Char) : List Char := unescapeFrom 0 s

end Broadsheet.Markdown
