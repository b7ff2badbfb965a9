/-!
# Broadsheet.Host.Basic

What the program asks of the system that it runs on: files, environment
variables, standard streams, and HTTP.  Every operation is a field of `Host`,
so that a program over it can run on a real system and on a described one.
-/

namespace Broadsheet

/-- Why the system refused. -/
inductive IoError
  | notFound
  | notDirectory
  | isDirectory
  /-- A file that holds no text. -/
  | invalidText
  | other (reason : String)
  deriving DecidableEq

/-- The wording of the error. -/
def IoError.message : IoError → String
  | notFound => "No such file or directory (os error 2)"
  | notDirectory => "Not a directory (os error 20)"
  | isDirectory => "Is a directory (os error 21)"
  | invalidText => "stream did not contain valid UTF-8"
  | other reason => reason

/-- A request to a server. -/
structure HttpRequest where
  method : String
  url : String
  /-- The type of the body; a request without a body has none. -/
  contentType : Option String
  body : String
  timeoutSecs : Nat

/-- What a server answered. -/
structure HttpResponse where
  status : Nat
  /-- The body, or why it could not be read. -/
  body : Except String String

/-- The reason why a request finds no server on a machine without a network. -/
def noNetwork : String := "io: Network is unreachable (os error 101)"

/-- The system that a program runs on. -/
structure Host (m : Type → Type) where
  currentDirectory : m String
  pathExists : (path : String) → m Bool
  readFile : (path : String) → m (Except IoError String)
  writeFile : (path content : String) → m (Except IoError Unit)
  /-- Makes a directory and those that it lies in, as far as they are missing. -/
  createDirectories : (path : String) → m (Except IoError Unit)
  /-- The values of environment variables. -/
  environment : m (String → Option String)
  readInput : m (Except IoError String)
  writeOutput : (text : String) → m Unit
  writeError : (text : String) → m Unit
  /-- Sends a request; the error is the reason why there was no response. -/
  send : HttpRequest → m (Except String HttpResponse)

/-- The same system for programs with more effects. -/
def Host.lift {m n : Type → Type} [MonadLiftT m n] (h : Host m) : Host n where
  currentDirectory := monadLift h.currentDirectory
  pathExists path := monadLift (h.pathExists path)
  readFile path := monadLift (h.readFile path)
  writeFile path content := monadLift (h.writeFile path content)
  createDirectories path := monadLift (h.createDirectories path)
  environment := monadLift h.environment
  readInput := monadLift h.readInput
  writeOutput text := monadLift (h.writeOutput text)
  writeError text := monadLift (h.writeError text)
  send r := monadLift (h.send r)

end Broadsheet
