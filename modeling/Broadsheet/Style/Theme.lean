import Broadsheet.Style.Kind
import Broadsheet.Style.Css

/-!
# Broadsheet.Style.Theme

A theme gives base declarations for every element and declarations for single
kinds, in a block table and an inline table.  Themes are layered: an overlay
or a user's style sheet adds to a theme, and what is laid on top wins property
by property.  A kind can have an entry with no declarations, and that is not
the same as no entry.
-/

namespace Broadsheet

/-- The declarations of those kinds that have an entry. -/
abbrev KindTable := ElementKind → Option Properties

namespace KindTable

/-- The table without entries. -/
def empty : KindTable := fun _ => none

/-- The table whose last entry for a kind in the list counts. -/
def ofEntries (entries : List (ElementKind × Properties)) : KindTable := fun k =>
  (entries.reverse.find? fun e => e.1 == k).map (·.2)

/-- The kinds that have an entry, with their declarations. -/
def entries (t : KindTable) : List (ElementKind × Properties) :=
  ElementKind.all.filterMap fun k => (t k).map fun p => (k, p)

end KindTable

/-- An entry with `upper` laid over it; without `upper` it stays as it is. -/
def layEntry (lower upper : Option Properties) : Option Properties :=
  match upper with
  | none => lower
  | some p => some ((lower.getD ∅).overlay p)

/-- Layered style definitions. -/
structure Theme where
  base : Properties
  block : KindTable
  inline : KindTable

namespace Theme

/-- The theme that says nothing. -/
def empty : Theme := ⟨∅, .empty, .empty⟩

/-- The table that a category selects. -/
def table (t : Theme) : Category → KindTable
  | .block => t.block
  | .inline => t.inline

/-- The entry of a kind, in the table of its category. -/
def entry? (t : Theme) (k : ElementKind) : Option Properties := t.table k.category k

/-- The table of one category with an entry laid over each kind of that category. -/
def layTable (c : Category) (t : KindTable) (add : ElementKind → Option Properties) : KindTable :=
  fun k => if k.category = c then layEntry (t k) (add k) else t k

/-- The theme with more declarations for its kinds laid over it, each in the table of the kind's
category. -/
def lay (t : Theme) (add : ElementKind → Option Properties) : Theme where
  base := t.base
  block := layTable .block t.block add
  inline := layTable .inline t.inline add

/-- `upper` laid over `t`.  An entry of `upper` counts from either of its tables. -/
def overlay (t upper : Theme) : Theme :=
  { ((t.lay upper.block).lay upper.inline) with base := t.base.overlay upper.base }

/-- The rule of a style sheet that a kind takes: the one under its name, if it takes any. -/
def userRule (rules : CssRules) (k : ElementKind) : Option Properties :=
  if k.acceptsUserCss then rules[k.name]? else none

/-- The theme with a user's style sheet laid over it.  Selectors that name no kind, or one that
users may not restyle, have no effect. -/
def withOverrides (t : Theme) (rules : CssRules) : Theme := t.lay (userRule rules)

end Theme

/-! ## Built-in themes by name -/

/-- The built-in themes. -/
inductive ThemeId
  | default | grace
  deriving DecidableEq

namespace ThemeId

/-- Every built-in theme. -/
def all : List ThemeId := [default, grace]

/-- The theme's name in settings. -/
def name : ThemeId → String
  | default => "default"
  | grace => "grace"

/-- The name that readers see. -/
def label : ThemeId → String
  | default => "经典"
  | grace => "优雅"

/-- The theme of a given name or label. -/
def ofText? (s : String) : Option ThemeId := all.find? fun t => t.name == s || t.label == s

end ThemeId

end Broadsheet
