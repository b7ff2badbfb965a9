import Broadsheet.Config.Settings

/-!
# Broadsheet.CommandLine.Arguments

The arguments of the program.  A command's options may stand in any order and
around its operand, each at most once; short ones may be joined.  A value
follows its option as the next argument, or in the same one after an equals
sign, and must then be used to begin with a hyphen.  After `--` nothing is an
option.

The first argument that does not fit is what is reported.
-/

namespace Broadsheet

namespace CommandLine

/-! ## Options -/

/-- What can be set. -/
inductive OptionName
  | help | version | verbose
  | output | json | config
  | theme | fontFamily | fontSize | primaryColor | legend | codeTheme | customCss
  | indent | citations | noMac | fallback | krokiUrl
  deriving DecidableEq

/-- What an option is followed by. -/
inductive OptionValue
  | nothing
  | text
  /-- A path, which is not empty. -/
  | path
  /-- The name of a fallback policy. -/
  | policy
  deriving DecidableEq

/-- How an option is written. -/
structure OptionSpec where
  name : OptionName
  long : String
  short : Option Char
  value : OptionValue
  /-- What the option does, for the help text. -/
  about : String

/-- The name of the value in the help text. -/
def OptionSpec.valueName (o : OptionSpec) : String :=
  "<" ++ o.long.map (fun c => if c == '-' then '_' else c.toUpper) ++ ">"

/-- The environment variable that names the server for diagrams if no option does. -/
def serverVariable : String := "MDSTYLE_KROKI_URL"

/-- The option that asks for more messages. -/
def verboseOption : OptionSpec :=
  ⟨.verbose, "verbose", some 'v', .nothing,
    "Enable verbose output (cache activity, fallbacks, diagram warnings)"⟩

/-- The option that asks for help. -/
def helpOption : OptionSpec := ⟨.help, "help", some 'h', .nothing, "Print help"⟩

/-- The options before a command. -/
def programOptions : List OptionSpec := [
  verboseOption,
  helpOption,
  ⟨.version, "version", some 'V', .nothing, "Print version"⟩]

/-- The options of every command. -/
def commandOptions : List OptionSpec := [
  ⟨.output, "output", some 'o', .path, "Output HTML file (default: stdout)"⟩,
  verboseOption,
  ⟨.json, "json", none, .nothing, "Wrap the document in a JSON envelope"⟩,
  ⟨.config, "config", some 'c', .path,
    "Path to configuration file (default: auto-discover mdstyle.toml)"⟩,
  ⟨.theme, "theme", none, .text, "Theme: `default` / `grace` (or 经典 / 优雅)"⟩,
  ⟨.fontFamily, "font-family", none, .text,
    "Font family: 无衬线 / 衬线 / 等宽 (or sans-serif / serif / monospace)"⟩,
  ⟨.fontSize, "font-size", none, .text, "Font size, 12px to 16px"⟩,
  ⟨.primaryColor, "primary-color", none, .text,
    "Primary color: a named color such as 翡翠绿, or #rrggbb"⟩,
  ⟨.legend, "legend", none, .text,
    "Image caption source: title-alt, alt-title, title, alt, none"⟩,
  ⟨.codeTheme, "code-theme", none, .text, "highlight.js theme for code blocks"⟩,
  ⟨.customCss, "custom-css", none, .path, "CSS file layered over the theme"⟩,
  ⟨.indent, "indent", none, .nothing, "Indent the first line of paragraphs"⟩,
  ⟨.citations, "citations", none, .nothing, "Turn external links into numbered citations"⟩,
  ⟨.noMac, "no-mac", none, .nothing, "Hide the macOS-style window dots on code blocks"⟩,
  ⟨.fallback, "fallback", none, .policy, "What to do with unrecognized option values"⟩,
  ⟨.krokiUrl, "kroki-url", none, .text,
    "Kroki server URL for diagram rendering (overrides config)"⟩,
  helpOption]

/-! ## Commands -/

/-- The commands. -/
inductive Command
  /-- Converts a document. -/
  | convert
  /-- Converts the document that previews a style. -/
  | preview
  deriving DecidableEq

namespace Command

/-- Every command. -/
def all : List Command := [convert, preview]

/-- The command's name. -/
def name : Command → String
  | convert => "convert"
  | preview => "preview"

/-- What the command does, for the help text. -/
def about : Command → String
  | convert => "Convert markdown to HTML"
  | preview => "Render the built-in preview document"

/-- The command of a given name. -/
def ofName? (s : String) : Option Command := all.find? fun c => c.name == s

/-- Whether the command takes the path of a document. -/
def takesInput : Command → Bool
  | convert => true
  | preview => false

end Command

/-! ## Reading options -/

/-- Why the arguments are refused. -/
inductive Misuse
  | noCommand
  | unknownCommand (name : String)
  | unexpected (argument : String)
  | missingValue (option : String)
  | unwantedValue (option : String)
  | invalidValue (option value : String)
  | repeated (option : String)
  deriving DecidableEq

/-- Options with their values; an option without a value has the empty one. -/
abbrev Given := List (OptionName × String)

/-- What stops the reading of arguments before their end. -/
inductive Stop
  /-- Help on a command, or on the whole program. -/
  | help (command : Option Command)
  | version
  | misuse (m : Misuse)
  deriving DecidableEq

/-- Whether a value is fit for an option. -/
def OptionValue.accepts : OptionValue → String → Bool
  | .path, s => !s.isEmpty
  | .policy, s => (FallbackPolicy.ofName? s).isSome
  | _, _ => true

/-- Sets an option, once. -/
def Given.set (given : Given) (command : Option Command) (o : OptionSpec) (value : String) :
    Except Stop Given :=
  match o.name with
  | .help => .error (.help command)
  | .version => .error .version
  | name =>
    if given.any fun g => g.1 == name then .error (.misuse (.repeated o.long))
    else if !o.value.accepts value then .error (.misuse (.invalidValue o.long value))
    else .ok ((name, value) :: given)

/-- Whether an argument is read as options.  A hyphen alone is not. -/
def isOptions (arg : String) : Bool :=
  match arg.toList with
  | '-' :: _ :: _ => true
  | _ => false

/-- Sets an option to the next argument. -/
def setFromNext (given : Given) (command : Option Command) (o : OptionSpec) (args : List String) :
    Except Stop (Given × List String) :=
  match args with
  | value :: rest =>
    if isOptions value then .error (.misuse (.missingValue o.long))
    else (given.set command o value).map (·, rest)
  | [] => .error (.misuse (.missingValue o.long))

/-- Reads joined short options; the value of the last one is the rest of them, or else the next
argument. -/
def readShort (specs : List OptionSpec) (command : Option Command) (arg : String) :
    (letters : List Char) → Given → (rest : List String) → Except Stop (Given × List String)
  | [], given, rest => .ok (given, rest)
  | c :: cs, given, rest =>
    match specs.find? fun o => o.short == some c with
    | none => .error (.misuse (.unexpected arg))
    | some o =>
      if o.value == .nothing then do
        readShort specs command arg cs (← given.set command o "") rest
      else match cs with
        | [] => setFromNext given command o rest
        | '=' :: value => (given.set command o (String.ofList value)).map (·, rest)
        | value => (given.set command o (String.ofList value)).map (·, rest)

/-- Reads a long option, which may have its value after an equals sign. -/
def readLong (specs : List OptionSpec) (command : Option Command) (arg : String)
    (body : List Char) (given : Given) (rest : List String) : Except Stop (Given × List String) :=
  let name := body.takeWhile (· != '=')
  match specs.find? fun o => o.long.toList == name with
  | none => .error (.misuse (.unexpected arg))
  | some o =>
    match body.drop name.length, o.value == .nothing with
    | [], true => (given.set command o "").map (·, rest)
    | [], false => setFromNext given command o rest
    | _ :: _, true => .error (.misuse (.unwantedValue o.long))
    | _ :: value, false => (given.set command o (String.ofList value)).map (·, rest)

/-- Reads an argument of options. -/
def readOptions (specs : List OptionSpec) (command : Option Command) (arg : String)
    (given : Given) (rest : List String) : Except Stop (Given × List String) :=
  match arg.toList with
  | '-' :: '-' :: body => readLong specs command arg body given rest
  | _ :: letters => readShort specs command arg letters given rest
  | [] => .error (.misuse (.unexpected arg))

/-! ## Reading commands -/

/-- What a user asks for. -/
structure Invocation where
  command : Command
  /-- The document; without a path it is read from the standard input. -/
  input : Option String
  /-- The file to write; without one the page goes to the standard output. -/
  output : Option String
  json : Bool
  config : Option String
  settings : CliSettings

/-- The value of an option. -/
def Given.value? (given : Given) (name : OptionName) : Option String := given.lookup name

/-- A setting that an option turns on or off. -/
def Given.switch (given : Given) (name : OptionName) (setting : Bool) : Option Bool :=
  if (given.value? name).isSome then some setting else none

/-- The settings that options stand for; the last one may come from the environment. -/
def Given.settings (given : Given) (env : String → Option String) : CliSettings where
  theme := given.value? .theme
  fontFamily := given.value? .fontFamily
  fontSize := given.value? .fontSize
  primaryColor := given.value? .primaryColor
  legend := given.value? .legend
  codeTheme := given.value? .codeTheme
  useIndent := given.switch .indent true
  citations := given.switch .citations true
  macCodeBlocks := given.switch .noMac false
  fallback := (given.value? .fallback).bind FallbackPolicy.ofName?
  customCss := given.value? .customCss
  krokiUrl := (given.value? .krokiUrl).or (env serverVariable)

/-- Reads the operand of a command. -/
def readOperand (command : Command) (input : Option String) (arg : String) :
    Except Stop (Option String) :=
  if command.takesInput && input.isNone then
    if arg.isEmpty then .error (.misuse (.invalidValue "input" arg)) else .ok (some arg)
  else .error (.misuse (.unexpected arg))

/-- Reads the arguments of a command.  Each step takes one of them, so that `fuel` need not
exceed their number. -/
def readCommand (command : Command) : (fuel : Nat) → (operands : Bool) → Given →
    (input : Option String) → List String → Except Stop (Given × Option String)
  | 0, _, given, input, _ => .ok (given, input)
  | _, _, given, input, [] => .ok (given, input)
  | fuel + 1, operands, given, input, arg :: rest =>
    if !operands && arg == "--" then readCommand command fuel true given input rest
    else if !operands && isOptions arg then do
      let (given, rest) ← readOptions commandOptions (some command) arg given rest
      readCommand command fuel false given input rest
    else do
      readCommand command fuel operands given (← readOperand command input arg) rest

/-- Reads what follows the request for help by name. -/
def readHelp : List String → Stop
  | [] => .help none
  | name :: rest =>
    if name == "help" then
      match rest with
      | [] => .help none
      | other :: _ => .misuse (.unknownCommand other)
    else match Command.ofName? name, rest with
      | some c, [] => .help (some c)
      | some _, other :: _ => .misuse (.unknownCommand other)
      | none, _ => .misuse (.unknownCommand name)

/-- Reads the arguments of the program, up to the command and then those of the command. -/
def readProgram (env : String → Option String) : (fuel : Nat) → Given → List String →
    Except Stop Invocation
  | 0, _, _ => .error (.misuse .noCommand)
  | _, _, [] => .error (.misuse .noCommand)
  | fuel + 1, given, arg :: rest =>
    if arg == "--" then .error (.misuse (rest.head?.elim .noCommand .unexpected))
    else if isOptions arg then do
      let (given, rest) ← readOptions programOptions none arg given rest
      readProgram env fuel given rest
    else if arg == "help" then .error (readHelp rest)
    else match Command.ofName? arg with
      | none => .error (.misuse (.unknownCommand arg))
      | some command => do
        let (given, input) ← readCommand command rest.length false [] none rest
        return {
          command := command
          input := input
          output := given.value? .output
          json := (given.value? .json).isSome
          config := given.value? .config
          settings := given.settings env }

/-- Reads the arguments of the program. -/
def readArguments (env : String → Option String) (args : List String) : Except Stop Invocation :=
  readProgram env args.length [] args

end CommandLine

end Broadsheet
