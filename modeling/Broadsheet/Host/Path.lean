/-!
# Broadsheet.Host.Path

Paths as texts with slashes.  Joining and going up leave a path as it was
written: nothing is resolved or normalised.
-/

namespace Broadsheet

namespace Path

/-- Whether a path starts at the root. -/
def isAbsolute (path : String) : Bool := path.toList.head? == some '/'

/-- A path seen from a directory.  An absolute path stays as it is. -/
def join (base path : String) : String :=
  if isAbsolute path || base.isEmpty then path
  else if base.toList.getLast? == some '/' then base ++ path
  else base ++ "/" ++ path

/-- The pieces of a path between slashes. -/
def pieces : List Char → List (List Char)
  | [] => [[]]
  | c :: cs =>
    if c = '/' then [] :: pieces cs
    else match pieces cs with
      | [] => [[c]]
      | p :: ps => (c :: p) :: ps

/-- The names on a path; empty pieces and single dots are no names. -/
def names (path : String) : List String :=
  ((pieces path.toList).filter fun p => p != [] && p != ['.']).map String.ofList

/-- Drops pieces from the end that are no names.  A dot at the start of a relative path is kept,
because it stands for a directory. -/
def dropEmptyEnd (absolute : Bool) (ps : List (List Char)) : List (List Char) :=
  let kept := (ps.reverse.dropWhile fun p => p == [] || p == ['.']).reverse
  if kept.isEmpty && !absolute && ps.head? == some ['.'] then [['.']] else kept

/-- The path of the directory that a path lies in; the root and the empty path lie in none. -/
def parent? (path : String) : Option String :=
  let absolute := isAbsolute path
  let body := pieces (if absolute then path.toList.drop 1 else path.toList)
  match dropEmptyEnd absolute body with
  | [] => none
  | kept =>
    let up := dropEmptyEnd absolute kept.dropLast
    let text := String.ofList (['/'].intercalate up)
    some (if absolute then "/" ++ text else text)

end Path

end Broadsheet
