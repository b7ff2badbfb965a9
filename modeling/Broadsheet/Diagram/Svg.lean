import Broadsheet.Text.Blank
import Broadsheet.Text.Category
import Broadsheet.Text.Search

/-!
# Broadsheet.Diagram.Svg

Changes to an SVG document before it is put into an article.  Imports of web
fonts are taken out, and the root element gets the id that the article gives
it; rules inside the document that name the old id are renamed with it.
-/

namespace Broadsheet

namespace Svg

/-! ## Imports of fonts -/

/-- Drops white space and then a semicolon from the front, as far as they are there. -/
def afterImport (s : List Char) : List Char :=
  match trimStart s with
  | ';' :: rest => rest
  | rest => rest

/-- The rest after an import of web fonts that a text begins with. -/
def afterFontImport? (s : List Char) : Option (List Char) := do
  let gap ← after? "@import".toList s
  guard (gap.head?.any isBlank)
  let inside ← after? "url(".toList (trimStart gap)
  let (address, rest) ← splitOnce (· == ')') inside
  guard (contains "fonts.googleapis.com".toList address)
  return afterImport rest

/-- Takes out imports of web fonts, with `skip` characters of the last one still to be passed
over. -/
def dropFontImportsFrom : (skip : Nat) → List Char → List Char
  | _, [] => []
  | k + 1, _ :: cs => dropFontImportsFrom k cs
  | 0, c :: cs =>
    match afterFontImport? (c :: cs) with
    | some rest => dropFontImportsFrom (cs.length - rest.length) cs
    | none => c :: dropFontImportsFrom 0 cs

/-- Takes out imports of web fonts. -/
def dropFontImports (s : List Char) : List Char := dropFontImportsFrom 0 s

/-! ## Templates -/

/-- Characters of a reference without braces. -/
def isReferenceChar (c : Char) : Bool := c.isAlphanum || c == '_'

/-- The text that a reference stands for: a group by its number, and nothing for all else. -/
def group (groups : List (List Char)) (name : List Char) : List Char :=
  let digits := (after? ['+'] name).getD name
  if digits.isEmpty || !digits.all Char.isDigit then []
  else groups.getD (digits.foldl (fun n c => n * 10 + (c.toNat - 48)) 0) []

/-- Fills in a template, with `skip` characters of the last reference still to be passed over.
`$n` and `${n}` stand for a group and `$$` for a dollar sign. -/
def fillFrom (groups : List (List Char)) : (skip : Nat) → List Char → List Char
  | _, [] => []
  | k + 1, _ :: cs => fillFrom groups k cs
  | 0, c :: cs =>
    if c = '$' then
      match cs with
      | '$' :: _ => '$' :: fillFrom groups 1 cs
      | '{' :: t =>
        let name := t.takeWhile (· != '}')
        if name.length < t.length then group groups name ++ fillFrom groups (name.length + 2) cs
        else '$' :: fillFrom groups 0 cs
      | _ =>
        let name := cs.takeWhile isReferenceChar
        if name.isEmpty then '$' :: fillFrom groups 0 cs
        else group groups name ++ fillFrom groups name.length cs
    else c :: fillFrom groups 0 cs

/-- Fills in a template. -/
def fill (groups : List (List Char)) (template : List Char) : List Char := fillFrom groups 0 template

/-! ## The root's id -/

/-- The value of an id attribute that begins with a blank, and what follows its closing quote. -/
def idHere? (c : Char) (s : List Char) : Option (List Char × List Char) := do
  guard (isBlank c)
  splitOnce (· == '"') (← after? "id=\"".toList s)

/-- The id attribute inside a start tag: what stands before it, its value, and what follows its
closing quote. -/
def idAttribute? : List Char → Option (List Char × List Char × List Char)
  | [] => none
  | c :: cs =>
    ((idHere? c cs).map fun (value, rest) => ([c], value, rest)) <|>
      if c = '>' then none
      else (idAttribute? cs).map fun (before, value, rest) => (c :: before, value, rest)

/-- The id attribute of a root element, from the text after `<svg` on. -/
def rootId? (s : List Char) : Option (List Char × List Char × List Char) :=
  if s.head?.any isWordChar then none else idAttribute? s

/-- Whether a selector of an id ends before a text. -/
def selectorEnds (s : List Char) : Bool := !s.head?.any fun c => isWordChar c || c == '-'

/-- Renames the selectors of an id, with `skip` characters of the last one still to be passed over.
The character after a selector belongs to it. -/
def renameFrom (old new : List Char) : (skip : Nat) → List Char → List Char
  | _, [] => []
  | k + 1, _ :: cs => renameFrom old new k cs
  | 0, c :: cs =>
    match after? ('#' :: old) (c :: cs) with
    | some rest =>
      if selectorEnds rest then
        let next := rest.take 1
        fill ['#' :: old ++ next, next] ('#' :: new ++ "$\x7b1\x7d".toList) ++
          renameFrom old new (old.length + next.length) cs
      else c :: renameFrom old new 0 cs
    | none => c :: renameFrom old new 0 cs

/-- Gives the root element an id.  What stands before it is dropped; without a root element there
is no answer.

The selectors of the old id are found by a pattern that is made from the id.  Every character of
the id is escaped in it, so it is a pattern; the answer `none` for an id that is too long for the
pattern to be compiled within its size limit is left out. -/
def withId? (svg id : List Char) : Option (List Char) := do
  let (_, rest) ← cut? "<svg".toList svg
  match rootId? rest with
  | none => return "<svg id=\"".toList ++ id ++ '"' :: rest
  | some (before, old, after) =>
    let start := "<svg".toList ++ before
    let whole := start ++ "id=\"".toList ++ old ++ ['"']
    let renamed :=
      fill [whole, start, old] ("$\x7b1\x7did=\"".toList ++ id ++ ['"']) ++ after
    if old.isEmpty || old == id then return renamed
    else return renameFrom old id 0 renamed

/-- Takes out imports of web fonts. -/
def dropFontImportsText (svg : String) : String := String.ofList (dropFontImports svg.toList)

/-- Gives the root element an id: `withId?` on texts, which leaves out the failure of a pattern
that does not compile. -/
def withIdText? (svg id : String) : Option String :=
  (withId? svg.toList id.toList).map String.ofList

end Svg

end Broadsheet
