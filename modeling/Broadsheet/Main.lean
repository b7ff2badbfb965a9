import Broadsheet.CommandLine.Run

/-!
# Broadsheet.Main

The program itself: the command line on the system that it was started on.
Files, variables and streams are the system's.  There is no transport to
servers, so that every request ends as on a machine without a network: code
goes unstyled by a fetched style sheet, and a diagram stays its source.
-/

namespace Broadsheet

namespace Main

/-! ## Errors -/

/-- An error of the system with its number. -/
def numbered (reason : String) (code : UInt32) : IoError :=
  .other (reason ++ " (os error " ++ toString code.toNat ++ ")")

/-- The cause of a system error. -/
def causeOf : IO.Error → IoError
  | .noFileOrDirectory _ _ _ => .notFound
  | .inappropriateType _ code _ => if code = 21 then .isDirectory else .notDirectory
  | .permissionDenied _ code _ => numbered "Permission denied" code
  | .resourceBusy code reason => numbered reason code
  | .resourceExhausted _ code reason => numbered reason code
  | .invalidArgument _ code reason => numbered reason code
  | .otherError code reason => numbered reason code
  | e => .other (toString e)

/-- What an action gives, or the cause why it gives nothing. -/
def attempt {α : Type} (action : IO α) : IO (Except IoError α) := do
  match ← action.toBaseIO with
  | .ok a => return .ok a
  | .error e => return .error (causeOf e)

/-! ## The system -/

/-- Bytes as a text. -/
def decode (bytes : ByteArray) : Except IoError String :=
  match String.fromUTF8? bytes with
  | some s => .ok s
  | none => .error .invalidText

/-- Reads a file of text. -/
def readText (path : String) : IO (Except IoError String) :=
  return (← attempt (IO.FS.readBinFile path)).bind decode

/-- A variable and its value, as the system lists them. -/
def splitVariable (entry : String) : String × String :=
  let name := entry.toList.takeWhile (· != '=')
  (String.ofList name, String.ofList (entry.toList.drop (name.length + 1)))

/-- The environment variables, of which those that are no text are left out. -/
def processEnvironment : IO (String → Option String) := do
  let listed := (← readText "/proc/self/environ").toOption.getD ""
  let entries := (listed.splitOn "\x00").map splitVariable
  return fun name => entries.lookup name

/-- Writes to a stream and does not wait for more. -/
def writeTo (stream : IO.FS.Stream) (text : String) : IO Unit := do
  stream.putStr text
  stream.flush

/-- The system that the program was started on. -/
def host : Host IO where
  currentDirectory := return (← IO.currentDir).toString
  pathExists path := do ((← IO.currentDir) / path).pathExists
  readFile := readText
  writeFile path content := attempt (IO.FS.writeFile path content)
  createDirectories path := attempt (IO.FS.createDirAll path)
  environment := processEnvironment
  readInput := readText "/dev/stdin"
  writeOutput text := do writeTo (← IO.getStdout) text
  writeError text := do writeTo (← IO.getStderr) text
  send _ := return .error noNetwork

end Main

end Broadsheet

/-- Runs the program. -/
def main (args : List String) : IO UInt32 := do
  return (← Broadsheet.CommandLine.run Broadsheet.Main.host args).exitCode
