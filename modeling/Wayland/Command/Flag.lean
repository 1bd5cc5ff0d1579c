import Wayland.Text.Case
import Wayland.Text.Literal
import Wayland.Text.Separated

/-!
Contract: flags on a command line.

Owns:
- kinds of flags, their values, and how often-given flags add up;
- the grammar of long and short flags between other arguments;
- the reports on flags that cannot be understood.

Does not own: which flags a command has.
-/

namespace Wayland.Command

open Wayland.Text (quote)

/-- What a flag takes. -/
inductive FlagKind where
  | text
  /-- Texts separated by commas, from all times the flag is given. -/
  | texts
  | number
  /-- A flag that needs no argument. -/
  | switch
deriving DecidableEq, Repr

/-- A flag, with its letter if it has one, what it is for, and the text that stands for it unless it
is given. -/
structure Flag where
  name : String
  kind : FlagKind
  purpose : String
  letter? : Option Char := none
  standard : String := ""
deriving DecidableEq, Repr

inductive FlagValue where
  | text (value : String)
  | texts (values : List String)
  | number (value : Int)
  | switch (value : Bool)
deriving DecidableEq, Repr

/-- The flags that were given, with their values. -/
structure Given where
  values : List (String × FlagValue) := []
deriving DecidableEq, Repr

namespace Given

def value?
    (given : Given)
    (name : String) :
    Option FlagValue :=
  given.values.lookup name

def text?
    (given : Given)
    (name : String) :
    Option String :=
  match given.value? name with
  | some (.text value) => some value
  | _ => none

/-- The texts of a flag that was given: what their record says.  A single empty text leaves the
record empty, so that there is none. -/
def texts?
    (given : Given)
    (name : String) :
    Option (List String) :=
  match given.value? name with
  | some (.texts values) => some (Text.Separated.ofRecord (Text.Separated.record values))
  | _ => none

def number?
    (given : Given)
    (name : String) :
    Option Int :=
  match given.value? name with
  | some (.number value) => some value
  | _ => none

def switch?
    (given : Given)
    (name : String) :
    Option Bool :=
  match given.value? name with
  | some (.switch value) => some value
  | _ => none

/-- Notes a value; texts are added to those already there, other values are replaced. -/
def put
    (given : Given)
    (name : String)
    (value : FlagValue) :
    Given :=
  let value :=
    match given.value? name, value with
    | some (.texts before), .texts values => .texts (before ++ values)
    | _, value => value
  ⟨(name, value) :: given.values.filter (·.1 != name)⟩

end Given

/-- Why a command line cannot be understood. -/
inductive UsageProblem where
  /-- A word that names no command of those below `parent`. -/
  | unknownCommand (name parent : String) (suggestions : List String)
  | unknownFlag (name : String)
  | unknownLetter (letter : Char) (letters : String)
  | malformedFlag (argument : String)
  | missingValue (argument : String)
  | missingLetterValue (letter : Char) (letters : String)
  | badValue (value flag reason : String)
  | wrongCount (wanted found : Nat)
deriving DecidableEq, Repr

def quoteLetter
    (letter : Char) :
    String :=
  if letter == '\'' then "'\\''"
  else if letter == '"' then "'\"'"
  else String.ofList ('\'' :: Text.quoteChar letter ++ ['\''])

def UsageProblem.message : UsageProblem → String
  | .unknownCommand name parent suggestions =>
      "unknown command " ++ quote name ++ " for " ++ quote parent
        ++ if suggestions.isEmpty then ""
          else
            "\n\nDid you mean this?\n"
              ++ String.join (suggestions.map fun suggestion => "\t" ++ suggestion ++ "\n")
  | .unknownFlag name => "unknown flag: --" ++ name
  | .unknownLetter letter letters =>
      "unknown shorthand flag: " ++ quoteLetter letter ++ " in -" ++ letters
  | .malformedFlag argument => "bad flag syntax: " ++ argument
  | .missingValue argument => "flag needs an argument: " ++ argument
  | .missingLetterValue letter letters =>
      "flag needs an argument: " ++ quoteLetter letter ++ " in -" ++ letters
  | .badValue value flag reason =>
      "invalid argument " ++ quote value ++ " for " ++ quote flag ++ " flag: " ++ reason
  | .wrongCount wanted found =>
      "accepts " ++ toString wanted ++ " arg(s), received " ++ toString found

def Flag.label
    (flag : Flag) :
    String :=
  match flag.letter? with
  | some letter => "-" ++ String.singleton letter ++ ", --" ++ flag.name
  | none => "--" ++ flag.name

def Flag.read
    (flag : Flag)
    (text : String) :
    Except UsageProblem FlagValue :=
  match flag.kind with
  | .text => .ok (.text text)
  | .texts =>
      if text.isEmpty then .ok (.texts [])
      else
        match Text.Separated.values text with
        | .ok values => .ok (.texts values)
        | .error fault => .error (.badValue text flag.label fault.message)
  | .number =>
      match Text.readInteger text with
      | .ok value => .ok (.number value)
      | .error fault => .error (.badValue text flag.label (fault.message text))
  | .switch =>
      match Text.flagWord? text with
      | some value => .ok (.switch value)
      | none => .error (.badValue text flag.label (Text.flagReport text))

def flagNamed?
    (flags : List Flag)
    (name : String) :
    Option Flag :=
  flags.find? (·.name == name)

def flagLettered?
    (flags : List Flag)
    (letter : Char) :
    Option Flag :=
  flags.find? (·.letter? == some letter)

/-- What is known after a part of a command line: the flags, and the other arguments, latest first.
-/
structure Parsed where
  given : Given := {}
  latest : List String := []
deriving DecidableEq, Repr

def Parsed.put
    (parsed : Parsed)
    (flag : Flag)
    (text : String) :
    Except UsageProblem Parsed :=
  match flag.read text with
  | .error problem => .error problem
  | .ok value => .ok { parsed with given := parsed.given.put flag.name value }

/-- Cuts a text at its first equals sign. -/
def cutAtEquals
    (chars : List Char) :
    List Char × Option (List Char) :=
  match chars.dropWhile (· != '=') with
  | [] => (chars, none)
  | _ :: value => (chars.takeWhile (· != '='), some value)

/-- Reads a long flag, whose value is in the same argument or, if the flag needs one, the next.
The second part tells whether the next argument was taken. -/
def longFlag
    (flags : List Flag)
    (parsed : Parsed)
    (argument : String)
    (next? : Option String) :
    Except UsageProblem (Parsed × Bool) :=
  let (name, value?) := cutAtEquals (argument.toList.drop 2)
  match name with
  | [] => .error (.malformedFlag argument)
  | first :: _ =>
      if first == '-' then .error (.malformedFlag argument)
      else
        match flagNamed? flags (String.ofList name) with
        | none => .error (.unknownFlag (String.ofList name))
        | some flag =>
            match value?, flag.kind == .switch, next? with
            | some value, _, _ => (parsed.put flag (String.ofList value)).map (·, false)
            | none, true, _ => (parsed.put flag "true").map (·, false)
            | none, false, some next => (parsed.put flag next).map (·, true)
            | none, false, none => .error (.missingValue argument)

/-- The beginning of short flags that are meant for a test runner. -/
def testLetters : List Char := "test.".toList

/-- Reads short flags written together, passing over those for a test runner.  The second part tells
whether the next argument was taken. -/
def shortFlags
    (flags : List Flag)
    (parsed : Parsed)
    (next? : Option String) :
    List Char → Except UsageProblem (Parsed × Bool)
  | [] => .ok (parsed, false)
  | letter :: rest =>
      if testLetters.isPrefixOf (letter :: rest) then .ok (parsed, false)
      else
        let letters := String.ofList (letter :: rest)
        match flagLettered? flags letter with
        | none =>
            let byte := (Text.Bytes.ofText (String.singleton letter)).headD 0
            .error (.unknownLetter (Char.ofNat byte.toNat) letters)
        | some flag =>
            match rest, flag.kind == .switch, next? with
            | '=' :: value :: others, _, _ =>
                (parsed.put flag (String.ofList (value :: others))).map (·, false)
            | rest, true, _ =>
                match parsed.put flag "true" with
                | .error problem => .error problem
                | .ok parsed => shortFlags flags parsed next? rest
            | value :: others, false, _ =>
                (parsed.put flag (String.ofList (value :: others))).map (·, false)
            | [], false, some next => (parsed.put flag next).map (·, true)
            | [], false, none => .error (.missingLetterValue letter letters)

/-- Reads arguments: flags wherever they stand, up to a double dash, and everything else.  `skip`
tells that the first argument belongs to a flag before it. -/
def parseFrom
    (flags : List Flag)
    (parsed : Parsed)
    (skip : Bool) :
    List String → Except UsageProblem Parsed
  | [] => .ok parsed
  | argument :: rest =>
      if skip then parseFrom flags parsed false rest
      else
        match argument.toList with
        | '-' :: '-' :: [] => .ok { parsed with latest := rest.reverse ++ parsed.latest }
        | '-' :: '-' :: _ =>
            match longFlag flags parsed argument rest.head? with
            | .error problem => .error problem
            | .ok (parsed, taken) => parseFrom flags parsed taken rest
        | '-' :: letter :: letters =>
            match shortFlags flags parsed rest.head? (letter :: letters) with
            | .error problem => .error problem
            | .ok (parsed, taken) => parseFrom flags parsed taken rest
        | _ => parseFrom flags { parsed with latest := argument :: parsed.latest } false rest

end Wayland.Command
