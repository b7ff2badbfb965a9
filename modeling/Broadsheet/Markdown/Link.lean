import Broadsheet.Markdown.Entity
import Broadsheet.Markdown.Spacing
import Broadsheet.Text.Blank

/-!
# Broadsheet.Markdown.Link

The parts of links: labels, destinations and titles, the definitions that give
a label its destination, and addresses in angle brackets.

Two labels are the same when they agree up to case and to the amount of white
space in them.
-/

namespace Broadsheet.Markdown

/-! ## Labels -/

/-- Reads a label up to its closing bracket; the opening one has been read.  Brackets inside a
label are escaped. -/
def readBracketed? : List Char → Option (List Char × List Char)
  | [] => none
  | '[' :: _ => none
  | ']' :: r => some ([], r)
  | '\\' :: c :: r => (readBracketed? r).map fun (s, t) => ('\\' :: c :: s, t)
  | c :: r => (readBracketed? r).map fun (s, t) => (c :: s, t)

/-- Reads a label that is not blank and shorter than a thousand characters. -/
def readLabel? (s : List Char) : Option (List Char × List Char) :=
  (readBracketed? s).filter fun (label, _) => !label.all isGap && label.length < 1000

/-- A run of white space is one blank. -/
def collapseGaps : (inGap : Bool) → List Char → List Char
  | _, [] => []
  | inGap, c :: cs =>
    if isGap c then (if inGap then collapseGaps true cs else ' ' :: collapseGaps true cs)
    else c :: collapseGaps false cs

/-- The form in which labels are compared. -/
def normalLabel (s : List Char) : List Char := foldCase (trim (collapseGaps false s))

/-! ## Destinations -/

/-- Reads a destination in angle brackets, the first of which has been read. -/
def readAngled? : List Char → Option (List Char × List Char)
  | [] => none
  | '>' :: r => some ([], r)
  | '\\' :: c :: r =>
    if isAsciiPunctuation c then (readAngled? r).map fun (s, t) => ('\\' :: c :: s, t)
    else (readAngled? (c :: r)).map fun (s, t) => ('\\' :: s, t)
  | c :: r =>
    if c == '<' || isLineEnd c then none else (readAngled? r).map fun (s, t) => (c :: s, t)

/-- How deep parentheses may nest in a destination without angle brackets. -/
def maxParentheses : Nat := 6

/-- Reads a destination without angle brackets, inside so many parentheses. -/
def readBare? : (depth : Nat) → List Char → Option (List Char × List Char)
  | depth, [] => if depth = 0 then some ([], []) else none
  | depth, '\\' :: c :: r =>
    if isAsciiPunctuation c then (readBare? depth r).map fun (s, t) => ('\\' :: c :: s, t)
    else (readBare? depth (c :: r)).map fun (s, t) => ('\\' :: s, t)
  | depth, '(' :: r =>
    if depth < maxParentheses then (readBare? (depth + 1) r).map fun (s, t) => ('(' :: s, t)
    else none
  | 0, ')' :: r => some ([], ')' :: r)
  | depth + 1, ')' :: r => (readBare? depth r).map fun (s, t) => (')' :: s, t)
  | depth, c :: r =>
    if c.toNat ≤ 0x20 then (if depth = 0 then some ([], c :: r) else none)
    else (readBare? depth r).map fun (s, t) => (c :: s, t)

/-- Reads a destination, which may be empty. -/
def readDestination? : List Char → Option (List Char × List Char)
  | '<' :: r => readAngled? r
  | s => readBare? 0 s

/-! ## Titles -/

/-- Reads a title up to the given quote; in parentheses it holds no opening one. -/
def readQuoted? (close : Char) : List Char → Option (List Char × List Char)
  | [] => none
  | '\\' :: c :: r => (readQuoted? close r).map fun (s, t) => ('\\' :: c :: s, t)
  | c :: r =>
    if c == close then some ([], r)
    else if c == '(' && close == ')' then none
    else (readQuoted? close r).map fun (s, t) => (c :: s, t)

/-- Joins the lines of a title: the white space that a line starts with is dropped. -/
def joinLines : (skipping : Bool) → List Char → List Char
  | _, [] => []
  | skipping, c :: cs =>
    if isLineEnd c then (if skipping then joinLines true cs else '\n' :: joinLines true cs)
    else if skipping && isIndent c then joinLines true cs
    else c :: joinLines false cs

/-- Reads a title in quotes or parentheses. -/
def readTitle? : List Char → Option (List Char × List Char)
  | c :: r =>
    if c == '"' || c == '\'' then (readQuoted? c r).map fun (s, t) => (joinLines false s, t)
    else if c == '(' then (readQuoted? ')' r).map fun (s, t) => (joinLines false s, t)
    else none
  | [] => none

/-! ## Targets -/

/-- Where a link leads. -/
structure Target where
  destination : String
  title : String
  deriving DecidableEq

/-- The target with the given destination and title as they are written. -/
def Target.ofRaw (destination title : List Char) : Target :=
  ⟨String.ofList (unescape destination), String.ofList (unescape title)⟩

/-- Reads the target of a link in parentheses. -/
def readTarget? : List Char → Option (Target × List Char)
  | '(' :: s => do
    let (destination, s) ← readDestination? (skipGap s)
    let s := skipGap s
    let (title, s) := match readTitle? s with
      | some (title, r) => (title, skipGap r)
      | none => ([], s)
    match s with
    | ')' :: r => some (Target.ofRaw destination title, r)
    | _ => none
  | _ => none

/-- The targets of the labels that a document defines, the first definition of a label first. -/
abbrev Definitions := List (List Char × Target)

/-- What follows the end of the line that a text starts with, if only white space stands before
it. -/
def endOfLine? (s : List Char) : Option (List Char) :=
  match skipSpacing s with
  | [] => some []
  | t => afterLineEnd? t

/-- Reads the definition of a label from the start of a paragraph: the label with its target,
and the paragraph's other lines.  A title must end its line; one that does not, on a line of its
own, is no part of the definition. -/
def readDefinition? : List Char → Option ((List Char × Target) × List Char)
  | '[' :: s => do
    let (label, s) ← readLabel? s
    let s ← after? [':'] s
    let s := skipGap s
    let (destination, r) ← readDestination? s
    guard (r.length < s.length)
    let define (title : List Char) := (normalLabel label, Target.ofRaw destination title)
    let gap := skipGap r
    guard (r.isEmpty || gap.length < r.length)
    let titled : Option ((List Char × Target) × List Char) := do
      let (title, t) ← readTitle? gap
      let t ← endOfLine? t
      return (define title, t)
    let untitled := (endOfLine? r).map fun t => (define [], t)
    titled.or untitled
  | _ => none

/-! ## Addresses -/

/-- Reads an address with a scheme, up to the closing angle bracket; the opening one has been
read. -/
def readUri? (s : List Char) : Option (List Char × List Char) :=
  let isSchemeChar (c : Char) := c.isAlphanum || c == '.' || c == '-' || c == '+'
  let scheme := s.takeWhile isSchemeChar
  match s.drop scheme.length with
  | ':' :: t =>
    if s.head?.any Char.isAlpha && 2 ≤ scheme.length && scheme.length ≤ 32 then
      let path := t.takeWhile fun c => c != '>' && c != '<' && 0x20 < c.toNat
      match t.drop path.length with
      | '>' :: r => some (scheme ++ ':' :: path, r)
      | _ => none
    else none
  | _ => none

/-- A part of a host's name: letters, digits and inner hyphens. -/
def isHostLabel (s : List Char) : Bool :=
  !s.isEmpty && s.length ≤ 63 && s.all (fun c => c.isAlphanum || c == '-') &&
    s.head? != some '-' && s.getLast? != some '-'

/-- Characters of a mailbox's name. -/
def isMailboxChar (c : Char) : Bool := c.isAlphanum || ".!#$%&'*+/=?^_`\x7b|\x7d~-".toList.contains c

/-- Reads a mail address, up to the closing angle bracket; the opening one has been read. -/
def readMail? (s : List Char) : Option (List Char × List Char) :=
  let mailbox := s.takeWhile isMailboxChar
  match mailbox, s.drop mailbox.length with
  | _ :: _, '@' :: t =>
    match splitOnce (· == '>') t with
    | some (host, r) =>
      if (splitAt (· == '.') host).all isHostLabel then some (mailbox ++ '@' :: host, r) else none
    | none => none
  | _, _ => none

/-- Reads an address in angle brackets, of which the opening one has been read. -/
def readAddress? (s : List Char) : Option (List Char × List Char) := (readUri? s).or (readMail? s)

end Broadsheet.Markdown
