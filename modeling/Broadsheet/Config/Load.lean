import Broadsheet.Config.Expand
import Broadsheet.Config.File
import Broadsheet.Host.Basic
import Broadsheet.Host.Path

/-!
# Broadsheet.Config.Load

Finding and loading the configuration.  A file is given by its path or looked
for in the working directory and the directories above it.  Its addresses are
expanded, its paths are taken from its directory, and the result is checked;
then the command line is laid over it, and the result checked again.
-/

namespace Broadsheet

/-- Why there is no configuration. -/
inductive ConfigError
  | notFound (path : String)
  | io (error : IoError)
  | malformed
  | invalid (reason : String)
  | unsetVariable (field name : String)
  deriving DecidableEq

/-- The wording of the error. -/
def ConfigError.message : ConfigError → String
  | notFound path => "Configuration file not found: " ++ path
  | io error => "I/O error: " ++ error.message
  | malformed => "TOML parse error"
  | invalid reason => "Configuration error: " ++ reason
  | unsetVariable field name =>
    "Environment variable error in " ++ field ++ ": $\x7b" ++ name ++ "\x7d not set"

namespace Config

/-! ## Checks -/

/-- Whether an address is one of the web. -/
def isWebUrl (url : String) : Bool :=
  startsWithText "http://" url || startsWithText "https://" url

/-- An address of the web, or an error that names its field. -/
def requireWebUrl (field url : String) : Except ConfigError Unit :=
  if isWebUrl url then .ok ()
  else .error (.invalid (field ++ " must start with http:// or https://"))

/-- Checks a configuration; of several faults the first in this order is reported. -/
def validate (c : Config) : Except ConfigError Unit := do
  requireWebUrl "assets.stylesheet_url" c.assets.stylesheetUrl
  if !containsText "\x7btheme\x7d" c.assets.stylesheetUrl then
    throw (.invalid "assets.stylesheet_url must contain \x7btheme\x7d")
  if c.assets.timeoutSecs = 0 then
    throw (.invalid "assets.timeout_secs must be greater than 0")
  match c.diagrams.krokiUrl with
  | some url => requireWebUrl "diagrams.kroki_url" url
  | none => pure ()
  if c.diagrams.timeoutSecs = 0 then
    throw (.invalid "diagrams.timeout_secs must be greater than 0")

/-! ## From a file's content -/

/-- Replaces the references of an address to variables. -/
def expandField (env : String → Option String) (field value : String) :
    Except ConfigError String :=
  match Expand.expand env value with
  | .ok s => .ok s
  | .error e => .error (.unsetVariable field e.name)

/-- Expands an address that may not be given. -/
def expandOption (env : String → Option String) (field : String) :
    Option String → Except ConfigError (Option String)
  | none => .ok none
  | some value => (expandField env field value).map some

/-- The settings on diagrams; a section on them needs a server. -/
def diagramSettings (directory : String) (krokiUrl : Option String) :
    Option DiagramSection → Except ConfigError DiagramSettings
  | none => .ok .builtin
  | some s =>
    match krokiUrl with
    | none => .error (.invalid "[diagrams] section requires kroki_url to be set")
    | some url => .ok {
        krokiUrl := some url
        timeoutSecs := s.timeoutSecs.getD DiagramSettings.builtin.timeoutSecs
        cacheDir := s.cacheDir.map (Path.join directory) }

/-- The configuration of a file's content. -/
def ofContent (env : String → Option String) (path content : String) :
    Except ConfigError Config := do
  match ConfigFile.parse content with
  | none => throw .malformed
  | some file =>
    let stylesheetUrl ← expandField env "assets.stylesheet_url" file.assets.stylesheetUrl
    let krokiUrl ← expandOption env "diagrams.kroki_url" (file.diagrams.bind (·.krokiUrl))
    let directory := (Path.parent? path).getD "."
    let diagrams ← diagramSettings directory krokiUrl file.diagrams
    let config : Config := {
      defaults :=
        { file.defaults with customCss := file.defaults.customCss.map (Path.join directory) }
      assets := { file.assets with stylesheetUrl := stylesheetUrl }
      diagrams := diagrams
      path := some path }
    config.validate
    return config

/-! ## Loading -/

/-- The name of configuration files. -/
def fileName : String := "mdstyle.toml"

/-- Looks for a configuration file in a directory and those above it. -/
def discover {m : Type → Type} [Monad m] (host : Host m) : (fuel : Nat) → (directory : String) →
    m (Option String)
  | 0, _ => return none
  | fuel + 1, directory => do
    let candidate := Path.join directory fileName
    if ← host.pathExists candidate then return some candidate
    else match Path.parent? directory with
      | none => return none
      | some up => discover host fuel up

/-- Loads a configuration file. -/
def loadFile {m : Type → Type} [Monad m] (host : Host m) (path : String) :
    m (Except ConfigError Config) := do
  match ← host.readFile path with
  | .error e => return .error (.io e)
  | .ok content => return ofContent (← host.environment) path content

/-- The configuration of a given or discovered file, or the built-in one. -/
def loadBase {m : Type → Type} [Monad m] (host : Host m) :
    (path : Option String) → m (Except ConfigError Config)
  | some path => do
    if ← host.pathExists path then loadFile host path else return .error (.notFound path)
  | none => do
    let cwd ← host.currentDirectory
    match ← discover host (cwd.length + 1) cwd with
    | some path => loadFile host path
    | none => return .ok .builtin

/-- Lays the command line over a configuration and checks the result. -/
def applyCli (c : Config) : Option CliSettings → Except ConfigError Config
  | none => .ok c
  | some s => do
    let c := c.withCli s
    c.validate
    return c

/-- Loads the configuration. -/
def load {m : Type → Type} [Monad m] (host : Host m) (path : Option String)
    (cli : Option CliSettings) : m (Except ConfigError Config) := do
  match ← loadBase host path with
  | .error e => return .error e
  | .ok c => return c.applyCli cli

end Config

end Broadsheet
