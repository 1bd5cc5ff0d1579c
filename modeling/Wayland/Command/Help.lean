import Wayland.Command.Line

/-!
Contract: the texts that explain the program and its commands.

Owns: what each command is for, and the layout of usage lines, commands and flags.

Does not own: which commands and flags there are.
-/

namespace Wayland.Command

def padded
    (width : Nat)
    (text : String) :
    String :=
  text ++ String.ofList (List.replicate (width - text.length) ' ')

/-! ## Purposes -/

def programPurpose : String :=
  "wlscanner parses Wayland protocol descriptions (XML or YAML), validates them\n"
    ++ "and generates typed Go client and server bindings over a shared wire runtime."

def Name.purpose : Name → String
  | .generate => "Generate Go bindings for the catalog or the given documents"
  | .validate => "Parse and validate the catalog or the given documents"
  | .dump => "Print the parsed model of one document"
  | .serve => "Compile the catalog and serve it over HTTP"
  | .version => "Print version information"
  | .help => "Help about any command"
  | .completion => "Generate the autocompletion script for the specified shell"

def Name.description : Name → String
  | .serve =>
      "serve compiles the catalog and exposes it over a read-only HTTP API with\n"
        ++ "prometheus metrics. SIGHUP recompiles; SIGINT and SIGTERM stop the server."
  | .help =>
      "Help provides help for any command in the application.\n"
        ++ "Simply type wlscanner help [path to command] for full details."
  | .completion =>
      "Generate the autocompletion script for wlscanner for the specified shell.\n"
        ++ "See each sub-command's help for details on how to use the generated script."
  | command => command.purpose

/-- The arguments of a command as its usage line shows them. -/
def Name.arguments : Name → String
  | .generate => " [documents...]"
  | .validate => " [documents...]"
  | .dump => " <document>"
  | .help => " [command]"
  | _ => ""

/-- The commands below a command, with their purposes. -/
def Name.subcommands : Name → List (String × String)
  | .completion =>
      shells.map fun shell =>
        (shell, "Generate the autocompletion script for " ++ shell)
  | _ => []

/-! ## Layout -/

/-- What a flag takes, as its line shows it. -/
def FlagKind.placeholder : FlagKind → String
  | .text => " string"
  | .texts => " strings"
  | .number => " int"
  | .switch => ""

def Flag.heading
    (flag : Flag) :
    String :=
  let letter := match flag.letter? with
    | some letter => "  -" ++ String.singleton letter ++ ", --"
    | none => "      --"
  letter ++ flag.name ++ flag.kind.placeholder

/-- The lines of flags, by name.  Their purposes stand in one column. -/
def flagLines
    (flags : List Flag) :
    String :=
  let sorted := flags.mergeSort fun left right => decide (left.name ≤ right.name)
  let width := (sorted.map fun flag => flag.heading.length).foldl max 0
  let lines := sorted.map fun flag =>
    padded (width + 3) flag.heading ++ flag.purpose
      ++ if flag.standard.isEmpty then "" else " (default " ++ Text.quote flag.standard ++ ")"
  String.intercalate "\n" lines

def commandLines
    (commands : List (String × String)) :
    String :=
  String.join (commands.map fun (name, purpose) => "\n  " ++ padded 12 name ++ purpose)

/-- A titled list of commands; nothing if there are none. -/
def commandSection
    (commands : List (String × String)) :
    String :=
  if commands.isEmpty then "" else "\n\nAvailable Commands:" ++ commandLines commands

def flagSection
    (title : String)
    (flags : List Flag) :
    String :=
  "\n\n" ++ title ++ ":\n" ++ flagLines flags

/-- The hint that closes the usage of what has commands below it. -/
def closing
    (path : String) :
    String :=
  "\n\nUse \"" ++ path ++ " [command] --help\" for more information about a command."

/-- The commands of the program by name, with their purposes. -/
def programCommands : List (String × String) :=
  let sorted := Name.all.mergeSort fun left right => decide (left.word ≤ right.word)
  sorted.map fun command => (command.word, command.purpose)

def programUsage
    (flags : List Flag) :
    String :=
  "Usage:\n  " ++ programName ++ " [command]" ++ commandSection programCommands
    ++ flagSection "Flags" flags ++ closing programName ++ "\n"

def Name.usage
    (command : Name) :
    String :=
  let path := programName ++ " " ++ command.word
  let below := command.subcommands
  let line :=
    if below.isEmpty then path ++ command.arguments ++ " [flags]" else path ++ " [command]"
  "Usage:\n  " ++ line ++ commandSection below
    ++ flagSection "Flags" (command.ownFlags ++ [helpFlag command.word])
    ++ flagSection "Global Flags" commonFlags
    ++ (if below.isEmpty then "" else closing path) ++ "\n"

def explanation : Option Name → String
  | none => programPurpose ++ "\n\n" ++ programUsage (flagsOf none)
  | some command => command.description ++ "\n\n" ++ command.usage

/-- A word between backquotes, or between quotes if it holds what cannot stand between those. -/
def quoteTopic
    (word : String) :
    String :=
  let plain := word.toList.all fun char =>
    char != '\x60' && char.toNat != 127 && char.toNat != 0xFEFF && (32 ≤ char.toNat || char == '\t')
  if plain then "\x60" ++ word ++ "\x60" else Text.quote word

/-- The answer to a question about something that is not known. -/
def unknownTopic
    (words : List String) :
    String :=
  "Unknown help topic [" ++ String.intercalate " " (words.map quoteTopic) ++ "]\n"
    ++ programUsage commonFlags

end Wayland.Command
