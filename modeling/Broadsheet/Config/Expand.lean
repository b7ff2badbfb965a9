import Broadsheet.Text.Category
import Broadsheet.Text.Search

/-!
# Broadsheet.Config.Expand

References to environment variables in addresses.  `${NAME}` stands for the
value of a variable and `${NAME:-text}` for the text where the variable is not
set.  Only texts with a braced reference are looked at; in those `$NAME`
stands for a variable too, and `$$` for a dollar sign.
-/

namespace Broadsheet

namespace Expand

/-- A reference without a value. -/
structure Unset where
  name : String
  deriving DecidableEq

/-- Characters of a name without braces. -/
def isNameChar (c : Char) : Bool := isAlphanumeric c || c == '_'

/-- The parts of a braced reference: the name, and the text for an unset variable.  There is no
such text where the name would be empty. -/
def splitReference (inside : List Char) : List Char × Option (List Char) :=
  match cut? [':', '-'] inside with
  | some ([], _) => (inside, none)
  | some (name, text) => (name, some text)
  | none => (inside, none)

/-- What a braced reference stands for. -/
def lookUp (env : String → Option String) (inside : List Char) : Except Unset (List Char) :=
  let (name, text) := splitReference inside
  match env (String.ofList name), text with
  | some value, _ => .ok value.toList
  | none, some text => .ok text
  | none, none => .error ⟨String.ofList name⟩

/-- Replaces the references of a text, with `skip` characters of the last one still to be passed
over. -/
def expandFrom (env : String → Option String) : (skip : Nat) → List Char →
    Except Unset (List Char)
  | _, [] => .ok []
  | k + 1, _ :: cs => expandFrom env k cs
  | 0, c :: cs =>
    if c = '$' then
      match cs with
      | '{' :: t =>
        let inside := t.takeWhile (· != '}')
        if inside.length < t.length then do
          let value ← lookUp env inside
          return value ++ (← expandFrom env (inside.length + 2) cs)
        else do return ['$', '{'] ++ (← expandFrom env 1 cs)
      | '$' :: _ => do return '$' :: (← expandFrom env 1 cs)
      | _ =>
        let name := cs.takeWhile isNameChar
        if name.isEmpty then do return '$' :: (← expandFrom env 0 cs)
        else match env (String.ofList name) with
          | some value => do return value.toList ++ (← expandFrom env name.length cs)
          | none => .error ⟨String.ofList name⟩
    else do return c :: (← expandFrom env 0 cs)

/-- Replaces the references of a text that has a braced one. -/
def expand (env : String → Option String) (s : String) : Except Unset String :=
  if containsText "$\x7b" s then (expandFrom env 0 s.toList).map String.ofList else .ok s

end Expand

end Broadsheet
