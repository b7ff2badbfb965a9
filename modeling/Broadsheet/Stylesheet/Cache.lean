import Std.Data.ExtTreeMap
import Broadsheet.Stylesheet.Fetch

/-!
# Broadsheet.Stylesheet.Cache

Style sheets that were fetched are kept, and fetched no more.  A failed fetch
gives the empty style sheet and is not kept, so that a later call tries again.
-/

namespace Broadsheet

/-- The style sheets that were fetched, by name. -/
abbrev StylesheetStore := Std.ExtTreeMap String String

namespace StylesheetStore

/-- The style sheet of a name, fetched if it is not there, and the store after that. -/
def getOrFetch {m : Type → Type} [Monad m] (fetch : String → m (Except FetchError String))
    (store : StylesheetStore) (theme : String) : m (String × StylesheetStore) := do
  match store[theme]? with
  | some text => return (text, store)
  | none =>
    match ← fetch theme with
    | .ok text => return (text, store.insert theme text)
    | .error _ => return ("", store)

/-- Fetches a style sheet if it is not there; whether it is there then. -/
def prefetch {m : Type → Type} [Monad m] (fetch : String → m (Except FetchError String))
    (store : StylesheetStore) (theme : String) : m (Bool × StylesheetStore) := do
  let (_, store) ← getOrFetch fetch store theme
  return (store.contains theme, store)

end StylesheetStore

end Broadsheet
