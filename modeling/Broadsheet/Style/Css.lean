import Broadsheet.Style.Properties

/-!
# Broadsheet.Style.Css

Reading a user's style sheet.  A style sheet is a run of rules
`selector, selector { name: value; ... }`.  There is no cascade, no nesting
and no specificity: a selector is a plain name, and later declarations for a
selector win over earlier ones.  Comments are taken out first, so they may
stand anywhere, also inside a name.
-/

namespace Broadsheet

/-- Declarations by selector. -/
abbrev CssRules := Std.ExtTreeMap String Properties

namespace CssRules

/-! ## Comments -/

/-- Takes out each `/* ... */`, with `skip` characters of the last one still to be passed over.
A comment that does not end is kept as text. -/
def dropCommentsFrom : (skip : Nat) → List Char → List Char
  | _, [] => []
  | k + 1, _ :: cs => dropCommentsFrom k cs
  | 0, c :: cs =>
    match after? ['/', '*'] (c :: cs) with
    | some inside =>
      match cut? ['*', '/'] inside with
      | some (text, _) => dropCommentsFrom (text.length + 3) cs
      | none => c :: dropCommentsFrom 0 cs
    | none => c :: dropCommentsFrom 0 cs

/-- The text without its comments. -/
def dropComments (css : List Char) : List Char := dropCommentsFrom 0 css

/-! ## Rules -/

/-- Where the reading of rules stands: before an opening brace, or behind it. -/
inductive Scan
  | selector (seen : List Char)
  | block (selector seen : List Char)

/-- The rules of a text, each as its selector text and the text between its braces.  A rule
reaches to the first closing brace after its opening one; text without a closing brace is
dropped.  What was seen is held in reverse. -/
def scan : Scan → List Char → List (List Char × List Char)
  | _, [] => []
  | .selector seen, c :: cs =>
    if c = '{' then scan (.block seen.reverse []) cs else scan (.selector (c :: seen)) cs
  | .block sel seen, c :: cs =>
    if c = '}' then (sel, seen.reverse) :: scan (.selector []) cs
    else scan (.block sel (c :: seen)) cs

/-- The selectors of a rule: the non-blank pieces between commas. -/
def selectors (s : List Char) : List String :=
  ((splitAt (· == ',') s).map trim).filter (fun t => !t.isEmpty) |>.map String.ofList

/-- Adds declarations to those of one selector. -/
def addRule (rules : CssRules) (selector : String) (props : Properties) : CssRules :=
  rules.insert selector ((rules.getD selector ∅).overlay props)

/-- Adds a rule as it was scanned, for each of its selectors. -/
def addScanned (rules : CssRules) (r : List Char × List Char) : CssRules :=
  (selectors r.1).foldl (fun acc s => acc.addRule s (Properties.parse r.2)) rules

/-- Reads a style sheet.  Nothing is refused: what is no complete rule is passed over. -/
def parse (css : String) : CssRules :=
  (scan (.selector []) (dropComments css.toList)).foldl addScanned ∅

end CssRules

end Broadsheet
