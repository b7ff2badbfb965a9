import Broadsheet.Host.Basic
import Broadsheet.Host.Path

/-!
# Broadsheet.Host.Described

A system that is described by a value: a tree of files, variables, streams,
and a function that answers requests.  A program over it is a plain function
on descriptions, and what the program did can be read off the last one.
-/

namespace Broadsheet

/-! ## Trees of files -/

/-- What stands at a place of a tree. -/
inductive FileNode
  | file (content : String)
  | directory
  deriving DecidableEq

/-- A tree of files: what stands at a list of names from the root on.  The root itself is always
there. -/
abbrev FileTree := List (List String × FileNode)

namespace FileTree

/-- What stands at a place. -/
def at? (t : FileTree) (place : List String) : Option FileNode :=
  if place.isEmpty then some .directory else t.lookup place

/-- The tree with something put at a place. -/
def put (t : FileTree) (place : List String) (node : FileNode) : FileTree :=
  (place, node) :: t.filter fun e => e.1 != place

/-- The length in bytes that a name may have. -/
def nameLimit : Nat := 255

/-- Walks names from a directory on.  `..` goes up; every place on the way must be a directory. -/
def walk (t : FileTree) : (place : List String) → List String → Except IoError (List String)
  | place, [] => .ok place
  | place, n :: ns =>
    match t.at? place with
    | none => .error .notFound
    | some (.file _) => .error .notDirectory
    | some .directory =>
      if n = ".." then walk t place.dropLast ns
      else if nameLimit < n.utf8ByteSize then .error (.other "File name too long (os error 36)")
      else walk t (place ++ [n]) ns

/-- The place that a path leads to from a directory. -/
def resolve (t : FileTree) (cwd : List String) (path : String) : Except IoError (List String) :=
  if path.isEmpty then .error .notFound
  else if path.toList.contains '\x00' then
    .error (.other "file name contained an unexpected NUL byte")
  else t.walk (if Path.isAbsolute path then [] else cwd) (Path.names path)

/-- Whether a path can only mean a directory. -/
def namesDirectory (path : String) : Bool := path.toList.getLast? == some '/'

/-- What a path leads to. -/
def find (t : FileTree) (cwd : List String) (path : String) : Except IoError FileNode := do
  let place ← t.resolve cwd path
  match t.at? place with
  | none => throw .notFound
  | some (.file content) =>
    if namesDirectory path then throw .notDirectory else return .file content
  | some .directory => return .directory

/-- Reads a file. -/
def read (t : FileTree) (cwd : List String) (path : String) : Except IoError String := do
  match ← t.find cwd path with
  | .file content => return content
  | .directory => throw .isDirectory

/-- Writes a file in a directory that is there. -/
def write (t : FileTree) (cwd : List String) (path content : String) :
    Except IoError FileTree := do
  let place ← t.resolve cwd path
  match t.at? place, t.at? place.dropLast with
  | some .directory, _ => throw .isDirectory
  | some (.file _), _ => if namesDirectory path then throw .notDirectory
  | none, some .directory => if namesDirectory path then throw .isDirectory
  | none, _ => throw .notFound
  return t.put place (.file content)

/-- Makes the directories of a list of names below a place. -/
def makeBelow (t : FileTree) : (place : List String) → List String → Except IoError FileTree
  | _, [] => .ok t
  | place, n :: ns =>
    if n = ".." then makeBelow t place.dropLast ns
    else
      let next := place ++ [n]
      match t.at? next with
      | some .directory => makeBelow t next ns
      | some (.file _) => .error .notDirectory
      | none => makeBelow (t.put next .directory) next ns

/-- Makes a directory and those that it lies in. -/
def makeDirectories (t : FileTree) (cwd : List String) (path : String) : Except IoError FileTree :=
  t.makeBelow (if Path.isAbsolute path then [] else cwd) (Path.names path)

end FileTree

/-! ## Machines -/

/-- A machine as a value, with what a program did to it. -/
structure Machine where
  files : FileTree
  cwd : List String
  environment : String → Option String
  input : String
  output : String
  errors : String
  /-- Answers requests, or says why it does not. -/
  network : HttpRequest → Except String HttpResponse
  /-- The requests so far. -/
  requests : List HttpRequest

/-- Programs on a described machine. -/
abbrev Described := StateM Machine

namespace Machine

/-- The described machine as a host. -/
def host : Host Described where
  currentDirectory := return "/" ++ "/".intercalate (← get).cwd
  pathExists path := do
    let s ← get
    return (s.files.find s.cwd path).toOption.isSome
  readFile path := do
    let s ← get
    return s.files.read s.cwd path
  writeFile path content := do
    let s ← get
    match s.files.write s.cwd path content with
    | .ok files => set { s with files := files }; return .ok ()
    | .error e => return .error e
  createDirectories path := do
    let s ← get
    match s.files.makeDirectories s.cwd path with
    | .ok files => set { s with files := files }; return .ok ()
    | .error e => return .error e
  environment := return (← get).environment
  readInput := return .ok (← get).input
  writeOutput text := modify fun s => { s with output := s.output ++ text }
  writeError text := modify fun s => { s with errors := s.errors ++ text }
  send r := modifyGet fun s => (s.network r, { s with requests := s.requests ++ [r] })

end Machine

end Broadsheet
