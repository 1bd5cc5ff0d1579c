import Wayland.Command.Flag

/-!
Contract: command lines of the program.

Owns: the commands with their flags, how a command is found between flags, which names are
suggested for an unknown one, and how many arguments a command takes.

Does not own: what commands do, and how they are explained.
-/

namespace Wayland.Command

open Wayland.Text (Bytes)

inductive Name where
  | generate
  | validate
  | dump
  | serve
  | version
  /-- Explains the other commands. -/
  | help
  /-- Writes scripts that complete command lines. -/
  | completion
deriving DecidableEq, Repr

def Name.word : Name → String
  | .generate => "generate"
  | .validate => "validate"
  | .dump => "dump"
  | .serve => "serve"
  | .version => "version"
  | .help => "help"
  | .completion => "completion"

def programName : String := "wlscanner"

/-- All commands, in the order in which they are suggested. -/
def Name.all : List Name :=
  [.generate, .validate, .dump, .serve, .version, .help, .completion]

def commonFlags : List Flag :=
  [{ name := "config", kind := .text, purpose := "config file path" },
   { name := "log-level", kind := .text, purpose := "log level (trace, debug, info, warn, error)" },
   { name := "log-pretty", kind := .switch, purpose := "enable pretty logging" },
   { name := "manifest", kind := .text, purpose := "catalog manifest path" },
   { name := "collection", kind := .texts, purpose := "compile only the named collections" },
   { name := "concurrency", kind := .number
     purpose := "collections compiled in parallel (0 = GOMAXPROCS)" },
   { name := "metrics-textfile", kind := .text
     purpose := "write a prometheus snapshot here after the run" }]

/-- The flag that asks for an explanation of a command, or of the program. -/
def helpFlag
    (subject : String) :
    Flag :=
  { name := "help", kind := .switch, purpose := "help for " ++ subject, letter? := some 'h' }

/-- The flag for documents that are only referred to. -/
def importFlag : Flag :=
  { name := "import", kind := .texts
    purpose := "dependency documents used for name resolution only" }

def Name.ownFlags : Name → List Flag
  | .generate =>
      [{ name := "output", kind := .text, purpose := "output directory", letter? := some 'o' },
       { name := "import-path", kind := .text, purpose := "import path of the output directory" },
       { name := "runtime-path", kind := .text
         purpose := "import path prefix of the wire and session packages" },
       { name := "role", kind := .texts, purpose := "roles to generate (client, server)" },
       importFlag]
  | .validate => [importFlag]
  | .dump =>
      [{ name := "format", kind := .text, purpose := "output format (yaml, json)"
         letter? := some 'f', standard := "yaml" }]
  | .serve =>
      [{ name := "listen-addr", kind := .text, purpose := "HTTP listen address" },
       { name := "cors", kind := .switch, purpose := "allow cross-origin reads" }]
  | _ => []

def shells : List String := ["bash", "fish", "powershell", "zsh"]

/-- The flag for scripts that leave explanations out. -/
def tersenessFlag : Flag :=
  { name := "no-descriptions", kind := .switch, purpose := "disable completion descriptions" }

/-- A command with its flags and other arguments. -/
structure Invocation where
  command : Name
  given : Given
  arguments : List String
deriving DecidableEq, Repr

/-- What a command line asks for. -/
inductive Request where
  /-- An explanation of a command, or of the whole program. -/
  | explanation (topic? : Option Name)
  /-- An explanation of something that is not known. -/
  | unknownTopic (words : List String)
  | run (invocation : Invocation)
deriving DecidableEq, Repr

/-! ## Finding the command -/

/-- Whether an argument looks like a flag whose value is the next argument.  A short one is two
bytes long. -/
def takesNext
    (flags : List Flag)
    (argument : String) :
    Bool :=
  if argument.toList.contains '=' then false
  else
    match argument.toList with
    | '-' :: '-' :: name =>
        (flagNamed? flags (String.ofList name)).all (·.kind != .switch)
    | ['-', letter] =>
        letter.utf8Size = 1 && (flagLettered? flags letter).all (·.kind != .switch)
    | _ => false

def isDashed
    (argument : String) :
    Bool :=
  argument.toList.head? == some '-'

/-- The first argument that is neither a flag nor the value of one.  A flag at the end hides what
may follow it. -/
def firstWord?
    (flags : List Flag)
    (skip : Bool) :
    List String → Option String
  | [] => none
  | argument :: rest =>
      if skip then firstWord? flags false rest
      else if argument == "--" then none
      else if takesNext flags argument then
        if rest.length ≤ 1 then none else firstWord? flags true rest
      else if !argument.isEmpty && !isDashed argument then some argument
      else firstWord? flags false rest

/-- The arguments without the first occurrence of a word that is neither a flag nor the value of
one. -/
def removeWord
    (flags : List Flag)
    (word : String)
    (skip : Bool) :
    List String → List String
  | [] => []
  | argument :: rest =>
      if skip then argument :: removeWord flags word false rest
      else if argument == "--" then argument :: rest
      else if takesNext flags argument then argument :: removeWord flags word true rest
      else if !isDashed argument && argument == word then rest
      else argument :: removeWord flags word false rest

/-! ## Suggestions -/

/-- One more row of the table of edit distances between the beginnings of two texts. -/
def distanceRow
    (byte : UInt8)
    (above : Nat)
    (left : Nat) :
    List (UInt8 × Nat) → List Nat
  | [] => []
  | (other, here) :: rest =>
      let change := if byte == other then above else above + 1
      let value := min change (min (left + 1) (here + 1))
      value :: distanceRow byte here value rest

/-- The last row of the table of edit distances. -/
def distanceRows
    (target : Bytes)
    (row : List Nat) :
    Bytes → List Nat
  | [] => row
  | byte :: rest =>
      let first := row.headD 0
      let next := (first + 1) :: distanceRow byte first (first + 1) (target.zip (row.drop 1))
      distanceRows target next rest

/-- How many bytes have to be inserted, removed or changed to make one text the other. -/
def editDistance
    (source target : Bytes) :
    Nat :=
  (distanceRows target (List.range (target.length + 1)) source).getLast?.getD 0

/-- The commands that may be meant by an unknown name: those at most two edits away, and those that
start with it. -/
def suggestions
    (name : String) :
    List String :=
  let typed := Bytes.ofText (Text.lowerText name)
  (Name.all.filter (· != .help)).filterMap fun command =>
    let word := Bytes.ofText command.word
    if editDistance typed word ≤ 2 || typed.isPrefixOf word then some command.word else none

/-! ## Reading a command line -/

def flagsOf : Option Name → List Flag
  | some command => commonFlags ++ command.ownFlags ++ [helpFlag command.word]
  | none => commonFlags ++ [helpFlag programName]

def Name.ofWord?
    (word : String) :
    Option Name :=
  Name.all.find? (·.word == word)

/-- The request for an explanation of what the first word names; without a word, of the program. -/
def explain
    (words : List String) :
    Request :=
  match firstWord? commonFlags false words with
  | none => .explanation none
  | some word =>
      match Name.ofWord? word with
      | some command => .explanation (some command)
      | none => .unknownTopic words

def requestOf
    (command? : Option Name)
    (arguments : List String) :
    Except UsageProblem Request :=
  match parseFrom (flagsOf command?) {} false arguments with
  | .error problem => .error problem
  | .ok parsed =>
      let rest := parsed.latest.reverse
      if parsed.given.switch? "help" == some true then .ok (.explanation command?)
      else
        match command? with
        | none => .ok (.explanation none)
        | some .help => .ok (explain rest)
        | some .completion => .ok (.explanation (some .completion))
        | some .dump =>
            if rest.length = 1 then .ok (.run ⟨.dump, parsed.given, rest⟩)
            else .error (.wrongCount 1 rest.length)
        | some command => .ok (.run ⟨command, parsed.given, rest⟩)

/-- The request of arguments for the script of a shell, which takes flags only. -/
def scriptRequest
    (shell : String)
    (arguments : List String) :
    Except UsageProblem Request :=
  match parseFrom (commonFlags ++ [tersenessFlag, helpFlag shell]) {} false arguments with
  | .error problem => .error problem
  | .ok parsed =>
      let path := programName ++ " " ++ Name.completion.word ++ " " ++ shell
      match parsed.given.switch? "help", parsed.latest.getLast? with
      | some true, _ => .ok (.explanation (some .completion))
      | _, some word => .error (.unknownCommand word path [])
      | _, none => .ok (.explanation (some .completion))

def parse
    (arguments : List String) :
    Except UsageProblem Request :=
  match firstWord? commonFlags false arguments with
  | none => requestOf none arguments
  | some word =>
      match Name.ofWord? word with
      | none => .error (.unknownCommand word programName (suggestions word))
      | some command =>
          let rest := removeWord commonFlags word false arguments
          match if command = .completion then firstWord? commonFlags false rest else none with
          | none => requestOf (some command) rest
          | some shell =>
              if shells.contains shell then
                scriptRequest shell (removeWord commonFlags shell false rest)
              else requestOf (some command) rest

end Wayland.Command
