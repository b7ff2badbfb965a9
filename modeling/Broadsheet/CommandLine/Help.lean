import Broadsheet.CommandLine.Arguments

/-!
# Broadsheet.CommandLine.Help

The texts that the program says about itself: its version, help on it and on
its commands, and what is wrong with arguments that it refuses.
-/

namespace Broadsheet

namespace CommandLine

/-- The name that the program is called by. -/
def programName : String := "mdstyle"

/-- The line that tells the version. -/
def versionText : String := programName ++ " 0.1.0\n"

/-! ## Help -/

/-- Texts as lines, each with its end. -/
def lines (ls : List String) : String := String.join (ls.map (· ++ "\n"))

/-- Spaces that bring a text to a width. -/
def pad (width : Nat) (s : String) : String :=
  s ++ String.ofList (List.replicate (width - s.length) ' ')

/-- How an option is written, with the name of its value. -/
def OptionSpec.form (o : OptionSpec) : String :=
  let short := match o.short with
    | some c => "-" ++ c.toString ++ ", "
    | none => "    "
  let value := if o.value == .nothing then "" else " " ++ o.valueName
  short ++ "--" ++ o.long ++ value

/-- What an option does, with the variable that can stand for it and that variable's value. -/
def OptionSpec.description (env : String → Option String) (o : OptionSpec) : String :=
  if o.name = .krokiUrl then
    o.about ++ " [env: " ++ serverVariable ++ "=" ++ (env serverVariable).getD "" ++ "]"
  else o.about

/-- Names with what they mean, in two columns. -/
def columns (rows : List (String × String)) : List String :=
  let width := (rows.map fun r => r.1.length).foldl max 0
  rows.map fun (name, about) => "  " ++ pad width name ++ "  " ++ about

/-- Names with what they mean, each on lines of their own. -/
def stacked (rows : List (String × String)) : List String :=
  rows.flatMap fun (name, about) => ["  " ++ name, "          " ++ about]

/-- The arguments of a command beside its options. -/
def Command.operandForm (c : Command) : String := if c.takesInput then " [INPUT]" else ""

/-- Help on the program. -/
def programHelp (env : String → Option String) : String :=
  lines <|
    ["Markdown to inline-styled HTML - CLI", "",
      "Usage: " ++ programName ++ " [OPTIONS] <COMMAND>", "", "Commands:"]
    ++ columns (Command.all.map (fun c => (c.name, c.about))
      ++ [("help", "Print this message or the help of the given subcommand(s)")])
    ++ ["", "Options:"]
    ++ columns (programOptions.map fun o => (o.form, o.description env))

/-- Help on a command. -/
def commandHelp (env : String → Option String) (c : Command) : String :=
  lines <|
    [c.about, "", "Usage: " ++ programName ++ " " ++ c.name ++ " [OPTIONS]" ++ c.operandForm, ""]
    ++ (if c.takesInput then
        ["Arguments:"]
        ++ columns [("[INPUT]", "Markdown file to convert (\x60-\x60 or omitted: read stdin)")]
        ++ [""]
      else [])
    ++ ["Options:"]
    ++ stacked (commandOptions.map fun o => (o.form, o.description env))

/-- Help on a command, or without one on the program. -/
def helpText (env : String → Option String) : Option Command → String
  | none => programHelp env
  | some c => commandHelp env c

/-! ## Misuse -/

/-- What is wrong with the arguments. -/
def Misuse.reason : Misuse → String
  | noCommand => "'" ++ programName ++ "' requires a subcommand but one was not provided"
  | unknownCommand name => "unrecognized subcommand '" ++ name ++ "'"
  | unexpected argument => "unexpected argument '" ++ argument ++ "' found"
  | missingValue option => "a value is required for '--" ++ option ++ "' but none was supplied"
  | unwantedValue option => "unexpected value for '--" ++ option ++ "' found; no more were expected"
  | invalidValue option value => "invalid value '" ++ value ++ "' for '" ++ option ++ "'"
  | repeated option => "the argument '--" ++ option ++ "' cannot be used multiple times"

/-- The message about arguments that are refused. -/
def Misuse.message (m : Misuse) : String :=
  lines ["error: " ++ m.reason, "", "For more information, try '--help'."]

end CommandLine

end Broadsheet
