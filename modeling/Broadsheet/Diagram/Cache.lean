import Std.Data.ExtTreeMap
import Broadsheet.Text.Sha256
import Broadsheet.Host.Basic
import Broadsheet.Host.Path

/-!
# Broadsheet.Diagram.Cache

Stores of rendered diagrams.  A diagram is kept under the hash of all that it
depends on, and without an element id, so that one entry serves it at any
place in any article.
-/

namespace Broadsheet

/-- What a rendered diagram depends on. -/
structure DiagramKey where
  source : String
  /-- The kind of diagram, as the server names it. -/
  endpoint : String
  format : String
  deriving DecidableEq

namespace DiagramKey

/-- The text that stands for the key. -/
def text (k : DiagramKey) : String := k.endpoint ++ ":" ++ k.format ++ ":" ++ k.source

/-- The hash that the key's diagram is kept under. -/
def hash (k : DiagramKey) : String := Sha256.hexDigest k.text

/-- The name of the file that keeps the key's diagram. -/
def fileName (k : DiagramKey) : String := k.hash ++ "." ++ k.format

end DiagramKey

/-- A store of diagrams. -/
structure DiagramCache (m : Type → Type) where
  get? : DiagramKey → m (Option String)
  put : DiagramKey → String → m Unit

/-- Diagrams in memory, by hash. -/
abbrev DiagramStore := Std.ExtTreeMap String String

namespace DiagramCache

/-- The store that keeps nothing. -/
def none {m : Type → Type} [Pure m] : DiagramCache m where
  get? _ := pure .none
  put _ _ := pure ()

/-- The store in memory. -/
def memory {m : Type → Type} [Monad m] [MonadStateOf DiagramStore m] : DiagramCache m where
  get? k := return (← getThe DiagramStore)[k.hash]?
  put k content := modifyThe DiagramStore fun store => store.insert k.hash content

/-- The store in the files of a directory.  A diagram that cannot be written is not kept, and one
that cannot be read is not there. -/
def files {m : Type → Type} [Monad m] (host : Host m) (directory : String) : DiagramCache m where
  get? k := return (← host.readFile (Path.join directory k.fileName)).toOption
  put k content := do
    match ← host.createDirectories directory with
    | .error _ => return ()
    | .ok _ =>
      let _ ← host.writeFile (Path.join directory k.fileName) content
      return ()

end DiagramCache

end Broadsheet
