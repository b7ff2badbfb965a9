import Broadsheet.CommandLine.Help
import Broadsheet.Config.Load
import Broadsheet.Config.Resolve
import Broadsheet.Converter
import Broadsheet.Diagram.Kroki
import Broadsheet.Text.JsonText

/-!
# Broadsheet.CommandLine.Run

What the program does with its arguments.  A command is prepared first: the
document, the configuration and the user's style sheet are read.  Only when
all of them are there is anything asked of a server or written, and the page
is written last.

The page goes to the standard output or to a file; every message goes to the
standard error.
-/

namespace Broadsheet

namespace CommandLine

/-! ## Failures -/

/-- Why a command did not reach its end. -/
inductive Failure
  /-- The document or the user's style sheet cannot be read. -/
  | read (error : IoError)
  | config (error : ConfigError)
  | option (error : OptionError)
  | convert (error : ConvertError)
  /-- The page cannot be written. -/
  | write (error : IoError)
  deriving DecidableEq

/-- The wording of the failure. -/
def Failure.message : Failure → String
  | read e => e.message
  | config e => e.message
  | option e => e.message
  | convert e => e.message
  | write e => e.message

/-- How the program ends. -/
inductive Outcome
  | success
  | failure
  /-- The arguments were refused. -/
  | misuse
  deriving DecidableEq

/-- The number that the program exits with. -/
def Outcome.exitCode : Outcome → UInt32
  | success => 0
  | failure => 1
  | misuse => 2

/-! ## Preparing -/

/-- What a command works on. -/
structure Job where
  document : String
  config : Config
  options : RenderOptions

section Prepare

variable {m : Type → Type} [Monad m]

/-- Reads the document of an invocation: the preview's own, a file, or the standard input, which
a hyphen stands for too. -/
def readDocument (host : Host m) (call : Invocation) : m (Except IoError String) :=
  match call.command, call.input with
  | .preview, _ => return .ok previewDocument
  | .convert, none => host.readInput
  | .convert, some path => if path = "-" then host.readInput else host.readFile path

/-- Reads the user's style sheet into the options. -/
def readCustomCss (host : Host m) (options : RenderOptions) :
    (path : Option String) → m (Except IoError RenderOptions)
  | none => return .ok options
  | some path => do
    match ← host.readFile path with
    | .error e => return .error e
    | .ok css => return .ok { options with customCss := some css }

/-- The options of a configuration. -/
def readOptions? (host : Host m) (config : Config) : m (Except Failure RenderOptions) := do
  match config.defaults.resolve with
  | .error e => return .error (.option e)
  | .ok options =>
    return (← readCustomCss host options config.defaults.customCss).mapError .read

/-- Reads everything that a command needs. -/
def prepare (host : Host m) (call : Invocation) : m (Except Failure Job) := do
  match ← readDocument host call with
  | .error e => return .error (.read e)
  | .ok document =>
    match ← Config.load host call.config (some call.settings) with
    | .error e => return .error (.config e)
    | .ok config =>
      match ← readOptions? host config with
      | .error e => return .error e
      | .ok options => return .ok ⟨document, config, options⟩

end Prepare

/-! ## Converting -/

section Convert

variable {m : Type → Type} [Monad m] [MonadStateOf DiagramStore m]

/-- Where rendered diagrams are kept. -/
def diagramCache (host : Host m) (directory : Option String) : DiagramCache m :=
  match directory with
  | some path => .files host path
  | none => .memory

/-- The renderer for diagrams, if a server is set. -/
def diagramRenderer (host : Host m) (d : DiagramSettings) :
    Option ((source id : String) → m (Except DiagramError String)) :=
  d.krokiUrl.map fun url =>
    Kroki.render host ⟨url, d.timeoutSecs, diagramCache host d.cacheDir⟩

/-- The converter of a configuration. -/
def converter (host : Host m) (config : Config) : Converter m where
  services := {
    highlight := fun code _ => return .ok (plainTextHighlight code)
    diagram? := diagramRenderer host config.diagrams }
  fetchStylesheet :=
    StylesheetSource.fetch host ⟨config.assets.stylesheetUrl, config.assets.timeoutSecs⟩

/-- Converts the document of a job. -/
def convertJob (host : Host m) (job : Job) : m (Except ConvertError Conversion) := do
  let (result, _) ← (converter host job.config).convert ∅ job.document job.options
  return result

end Convert

/-! ## Writing -/

/-- The page as the value of a JSON document. -/
def jsonEnvelope (html : String) : String :=
  "\x7b\"status\":\"success\",\"data\":\x7b\"html\":" ++ jsonText html ++ "\x7d\x7d"

/-- The text that is written for a page. -/
def Invocation.render (call : Invocation) (html : String) : String :=
  if call.json then jsonEnvelope html else html

/-- The message that a page was written to a file. -/
def Command.writtenMessage : Command → (path : String) → String
  | .convert, path => "Wrote " ++ path
  | .preview, path => "Wrote preview to " ++ path

section Run

variable {m : Type → Type} [Monad m]

/-- Writes a line of message. -/
def say (host : Host m) (message : String) : m Unit := host.writeError (message ++ "\n")

/-- Writes the page. -/
def writePage (host : Host m) (call : Invocation) (text : String) : m (Except IoError Unit) := do
  match call.output with
  | none =>
    host.writeOutput (text ++ "\n")
    return .ok ()
  | some path =>
    match ← host.writeFile path text with
    | .error e => return .error e
    | .ok () =>
      say host (call.command.writtenMessage path)
      return .ok ()

/-- Reports what came up in a conversion and writes its page. -/
def finish (host : Host m) (call : Invocation) (conversion : Conversion) :
    m (Except IoError Unit) := do
  for warning in conversion.warnings do
    say host ("Warning: " ++ warning)
  writePage host call (call.render conversion.html)

/-! ## Running -/

/-- Carries out a command. -/
def perform [MonadStateOf DiagramStore m] (host : Host m) (call : Invocation) :
    m (Except Failure Unit) := do
  match ← prepare host call with
  | .error e => return .error e
  | .ok job =>
    match ← convertJob host job with
    | .error e => return .error (.convert e)
    | .ok conversion => return (← finish host call conversion).mapError .write

/-- Carries out a command with an empty store of diagrams, and reports a failure. -/
def performAndReport (host : Host m) (call : Invocation) : m Outcome := do
  let (result, _) ← (perform host.lift call : StateT DiagramStore m _).run ∅
  match result with
  | .ok () => return .success
  | .error e =>
    say host ("Error: " ++ e.message)
    return .failure

/-- Says why arguments were not read to their end. -/
def stop (host : Host m) (env : String → Option String) : Stop → m Outcome
  | .help command => do
    host.writeOutput (helpText env command)
    return .success
  | .version => do
    host.writeOutput versionText
    return .success
  | .misuse e => do
    host.writeError e.message
    return .misuse

/-- Runs the program on its arguments. -/
def run (host : Host m) (args : List String) : m Outcome := do
  let env ← host.environment
  match readArguments env args with
  | .error s => stop host env s
  | .ok call => performAndReport host call

end Run

end CommandLine

end Broadsheet
