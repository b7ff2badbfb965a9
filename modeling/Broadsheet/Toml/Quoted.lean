import Broadsheet.Text.Double
import Broadsheet.Text.Search

/-!
# Broadsheet.Toml.Quoted

Strings between quotes.  Double quotes allow escapes, single quotes none; in
either form three quotes allow line breaks.
-/

namespace Broadsheet.Toml

open Decimal (hexDigit digitsValue)

/-- The character of a Unicode scalar value. -/
def scalar? (n : Nat) : Option Char :=
  if n < 0xD800 ∨ (0xDFFF < n ∧ n < 0x110000) then some (Char.ofNat n) else none

/-- A character given by so many hexadecimal digits. -/
def hexChar (count : Nat) (s : List Char) : Option (Char × List Char) := do
  let digits := s.take count
  guard (digits.length = count ∧ digits.all fun c => (hexDigit c).isSome)
  return (← scalar? (digitsValue 16 hexDigit 0 digits), s.drop count)

/-- Reads an escape after its backslash. -/
def readEscape : List Char → Option (Char × List Char)
  | 'b' :: s => some ('\x08', s)
  | 't' :: s => some ('\t', s)
  | 'n' :: s => some ('\n', s)
  | 'f' :: s => some ('\x0c', s)
  | 'r' :: s => some ('\r', s)
  | 'e' :: s => some ('\x1b', s)
  | '"' :: s => some ('"', s)
  | '\\' :: s => some ('\\', s)
  | 'x' :: s => hexChar 2 s
  | 'u' :: s => hexChar 4 s
  | 'U' :: s => hexChar 8 s
  | _ => none

/-- Whether a character may stand for itself: control characters may not, a tab apart. -/
def isPlain (c : Char) : Bool := c == '\t' || (0x20 ≤ c.toNat && c.toNat != 0x7F)

/-- A blank or tab. -/
def isSpace (c : Char) : Bool := c == ' ' || c == '\t'

/-- Takes a line break from the front. -/
def afterNewline? : List Char → Option (List Char)
  | '\n' :: s => some s
  | '\r' :: '\n' :: s => some s
  | _ => none

/-- Drops blanks and line breaks from the front. -/
def dropSpace : (fuel : Nat) → List Char → List Char
  | 0, s => s
  | fuel + 1, s =>
    match s with
    | c :: t =>
      if isSpace c then dropSpace fuel t
      else match afterNewline? s with
        | some r => dropSpace fuel r
        | none => s
    | [] => []

/-- Reads the rest of a string in double quotes, and what follows it. -/
def basicString : (fuel : Nat) → List Char → Option (List Char × List Char)
  | 0, _ => none
  | _, [] => none
  | _, '"' :: s => some ([], s)
  | fuel + 1, '\\' :: s => do
    let (c, s) ← readEscape s
    let (text, rest) ← basicString fuel s
    return (c :: text, rest)
  | fuel + 1, c :: s => do
    guard (isPlain c)
    let (text, rest) ← basicString fuel s
    return (c :: text, rest)

/-- Reads the rest of a string in single quotes, and what follows it. -/
def literalString : List Char → Option (List Char × List Char)
  | [] => none
  | '\'' :: s => some ([], s)
  | c :: s => do
    guard (isPlain c)
    let (text, rest) ← literalString s
    return (c :: text, rest)

/-- Ends a string of three quotes, from the first of them: up to two more quotes before them are
text. -/
def closeThree (quote : Char) (s : List Char) : Option (List Char × List Char) :=
  let quotes := s.takeWhile (· == quote)
  if quotes.length < 3 then none
  else if quotes.length ≤ 5 then some (List.replicate (quotes.length - 3) quote, s.drop quotes.length)
  else some ([quote, quote], s.drop 5)

/-- Reads the rest of a string in three single quotes, and what follows it. -/
def multilineLiteral : (fuel : Nat) → List Char → Option (List Char × List Char)
  | 0, _ => none
  | _, [] => none
  | fuel + 1, c :: s =>
    match if c = '\'' then closeThree '\'' (c :: s) else none with
    | some done => some done
    | none => do
      guard (isPlain c || (afterNewline? (c :: s)).isSome)
      let (text, rest) ← multilineLiteral fuel s
      return (c :: text, rest)

/-- Reads the rest of a string in three double quotes, and what follows it.  A backslash at the
end of a line takes away all blanks and line breaks after it. -/
def multilineBasic : (fuel : Nat) → List Char → Option (List Char × List Char)
  | 0, _ => none
  | _, [] => none
  | fuel + 1, '\\' :: s =>
    match afterNewline? (s.dropWhile isSpace) with
    | some r => multilineBasic fuel (dropSpace s.length r)
    | none => do
      let (c, s) ← readEscape s
      let (text, rest) ← multilineBasic fuel s
      return (c :: text, rest)
  | fuel + 1, c :: s =>
    match if c = '"' then closeThree '"' (c :: s) else none with
    | some done => some done
    | none => do
      guard (isPlain c || (afterNewline? (c :: s)).isSome)
      let (text, rest) ← multilineBasic fuel s
      return (c :: text, rest)

/-- Drops a line break that directly follows three opening quotes. -/
def dropFirstBreak (s : List Char) : List Char := (afterNewline? s).getD s

/-- Reads a string of one line from its opening quote on. -/
def readLineString : List Char → Option (String × List Char)
  | '"' :: s => (basicString (s.length + 1) s).map fun (t, r) => (String.ofList t, r)
  | '\'' :: s => (literalString s).map fun (t, r) => (String.ofList t, r)
  | _ => none

/-- Reads a string in any form from its opening quote on. -/
def readString (s : List Char) : Option (String × List Char) :=
  match s with
  | '"' :: '"' :: '"' :: t =>
    (multilineBasic (t.length + 1) (dropFirstBreak t)).map fun (t, r) => (String.ofList t, r)
  | '\'' :: '\'' :: '\'' :: t =>
    (multilineLiteral (t.length + 1) (dropFirstBreak t)).map fun (t, r) => (String.ofList t, r)
  | _ => readLineString s

end Broadsheet.Toml
