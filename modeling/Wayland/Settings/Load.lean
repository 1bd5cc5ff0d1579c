import Wayland.Document.Error
import Wayland.File.Fault
import Wayland.Settings.Reading
import Wayland.Text.Case

/-!
Contract: loading the settings of the program from three layers, the environment before a file before
standard values.

Owns:
- which layer a value comes from, and what an outer value hides;
- the names of environment variables;
- the effective values of all keys;
- reading the file of settings, and the reports on settings that cannot be loaded.

Does not own: which values are accepted.
-/

namespace Wayland.Settings

open Wayland.Document (MappingFault)
open Wayland.Yaml (Tree)

/-! ## Layers -/

/-- The names on the way to a value, outermost first. -/
abbrev Path := List String

/-- The layers.  The keys of the file are in lower case. -/
structure Layers where
  environment : String → Option String
  file : List (String × Tree)
  standard : List (String × Tree)

def Path.key
    (path : Path) :
    String :=
  String.intercalate "." path

def Path.variableName
    (path : Path) :
    String :=
  Text.upperText ("WLSCANNER_" ++ String.intercalate "_" path)

def pathOfKey
    (key : String) :
    Path :=
  (Text.splitChars '.' key.toList).map String.ofList

/-- The value at a path, name by name. -/
def valueAt?
    (entries : List (String × Tree)) :
    Path → Option Tree
  | [] => some (.mapping entries)
  | name :: rest =>
      match entries.lookup name, rest with
      | none, _ => none
      | some tree, [] => some tree
      | some (.mapping inner), rest => valueAt? inner rest
      | some _, _ => none

/-- The proper beginnings of a path, shortest first. -/
def Path.beginnings
    (path : Path) :
    List Path :=
  (List.range path.length).filterMap fun length =>
    if length = 0 then none else some (path.take length)

/-- The value under a key: by name in a mapping, by position in a list. -/
def child?
    (key : String) :
    Tree → Option Tree
  | .mapping entries => entries.lookup key
  | .list items => if key.toList.all Char.isDigit then key.toNat?.bind (items[·]?) else none
  | _ => none

/-- The value below the longest key of at most `length` names of a path.  What follows the key is
looked up by `deeper`. -/
def searchKeys?
    (deeper : Tree → Path → Option Tree)
    (tree : Tree)
    (path : Path) :
    (length : Nat) → Option Tree
  | 0 => none
  | length + 1 =>
      let found : Option Tree :=
        match child? (Path.key (path.take (length + 1))) tree, path.drop (length + 1) with
        | none, _ => none
        | some .null, [] => none
        | some next, [] => some next
        | some next, rest => deeper next rest
      match found with
      | some value => some value
      | none => searchKeys? deeper tree path length

/-- The value at a path of which several names may be one key, the longest such key first.
`fuel` bounds the number of keys on the way. -/
def search? : (fuel : Nat) → Tree → Path → Option Tree
  | 0, _, _ => none
  | fuel + 1, tree, path => searchKeys? (search? fuel) tree path path.length

namespace Layers

/-- The value of an environment variable; an empty one counts as not set. -/
def override?
    (layers : Layers)
    (path : Path) :
    Option String :=
  (layers.environment path.variableName).filter (!·.isEmpty)

/-- Whether a value that is no mapping stands above a path. -/
def isHidden
    (entries : List (String × Tree)) :
    List Path → Bool
  | [] => false
  | above :: rest =>
      match valueAt? entries above with
      | none => false
      | some .null => false
      | some (.mapping _) => isHidden entries rest
      | some _ => true

def value?
    (layers : Layers)
    (path : Path) :
    Option Tree :=
  match layers.override? path with
  | some value => some (.text value)
  | none =>
      if path.beginnings.any fun above => (layers.override? above).isSome then none
      else
        match search? (path.length + 1) (.mapping layers.file) path with
        | some value => some value
        | none =>
            if isHidden layers.file path.beginnings then none
            else
              match valueAt? layers.standard path with
              | some .null => none
              | found => found

end Layers

mutual

/-- The keys of all values that are no mappings.  Nothing below a key of `hidden` is listed. -/
def leafKeys
    (hidden : List String)
    (above : String) :
    List (String × Tree) → List String
  | [] => []
  | (name, tree) :: rest => leavesOf hidden (above ++ name) tree ++ leafKeys hidden above rest

/-- The keys of the values in a tree that stands at `key`. -/
def leavesOf
    (hidden : List String)
    (key : String) :
    Tree → List String
  | .mapping entries => if hidden.contains key then [] else leafKeys hidden (key ++ ".") entries
  | _ => [key]

end

/-- Puts a value at a path; whatever stands on the way and is no mapping gives way. -/
def putAt
    (value : Tree) :
    Path → List (String × Tree) → List (String × Tree)
  | [], entries => entries
  | [name], entries => (name, value) :: entries.filter (·.1 != name)
  | name :: rest, entries =>
      let inner :=
        match entries.lookup name with
        | some (.mapping inner) => inner
        | _ => []
      (name, .mapping (putAt value rest inner)) :: entries.filter (·.1 != name)

def Layers.entries
    (layers : Layers) :
    List (String × Tree) :=
  let inFile := leafKeys [] "" layers.file
  let keys := inFile ++ leafKeys inFile "" layers.standard
  (keys.eraseDups.map pathOfKey).foldl
    (fun entries path =>
      match layers.value? path with
      | some value => putAt value path entries
      | none => entries)
    []

mutual

/-- A tree below a table, with texts in lower case as keys.  What stands in lists stays as it is. -/
def lowerBelowTable : Tree → Tree
  | .mapping entries => .mapping (lowerEntriesBelowTable entries)
  | .table entries => .mapping (lowerRows entries)
  | tree => tree

def lowerEntriesBelowTable : List (String × Tree) → List (String × Tree)
  | [] => []
  | (key, value) :: entries =>
      (Text.lowerText key, lowerBelowTable value) :: lowerEntriesBelowTable entries

/-- The entries of a table with the texts of all keys in lower case. -/
def lowerRows : List (Yaml.Value × Tree) → List (String × Tree)
  | [] => []
  | (key, value) :: entries =>
      (Text.lowerText key.keyText, lowerBelowTable value) :: lowerRows entries

end

mutual

def lowerKeys : Tree → Tree
  | .mapping entries => .mapping (lowerEntries entries)
  | .table entries => .mapping (lowerRows entries)
  | .list items => .list (lowerItems items)
  | tree => tree

def lowerEntries : List (String × Tree) → List (String × Tree)
  | [] => []
  | (key, value) :: entries => (Text.lowerText key, lowerKeys value) :: lowerEntries entries

def lowerItems : List Tree → List Tree
  | [] => []
  | item :: items => lowerKeys item :: lowerItems items

end

/-! ## Loading -/

/-- Why settings cannot be loaded. -/
inductive LoadFault where
  | unreadable (path : String) (fault : File.Fault)
  | malformed (path : String) (fault : MappingFault)
  /-- Some values are not accepted. -/
  | unaccepted (reports : List String)
  | invalid (problem : Problem)
deriving DecidableEq, Repr

def LoadFault.message : LoadFault → String
  | .unreadable path fault => "failed to read config file " ++ path ++ ": " ++ fault.message
  | .malformed path fault =>
      "failed to read config file " ++ path ++ ": While parsing config: " ++ fault.message
  | .unaccepted reports =>
      "failed to unmarshal config: decoding failed due to the following error(s):\n\n"
        ++ String.intercalate "\n" reports
  | .invalid problem => "config validation failed: " ++ problem.text

/-- The entries of a file of settings, with keys in lower case. -/
def fileEntries
    (bytes : Text.Bytes) :
    Except MappingFault (List (String × Tree)) :=
  match Yaml.Document.ofBytes bytes with
  | .error fault => .error (.syntaxError fault.message)
  | .ok none => .ok []
  | .ok (some document) =>
      match Tree.rootShape.ofDocument (4 * (bytes.length + 1)) [] document with
      | .error fault => .error (.syntaxError fault.message)
      | .ok (.error faults) => .error (.shape faults)
      | .ok (.ok entries) => .ok (lowerEntries entries)

def ofLayers
    (environment : String → Option String)
    (file : List (String × Tree)) :
    Except LoadFault Settings :=
  let standard : Settings := {}
  let read := ofEntries (Layers.entries ⟨environment, file, standard.entries⟩)
  if !read.reports.isEmpty then .error (.unaccepted read.reports)
  else
    match read.value.problem? with
    | some problem => .error (.invalid problem)
    | none => .ok read.value

/-- Loads settings from an environment and the file with the given path and contents, if there is
one. -/
def load
    (environment : String → Option String)
    (file? : Option (String × File.Contents)) :
    Except LoadFault Settings :=
  match file? with
  | none => ofLayers environment []
  | some (path, .error fault) => .error (.unreadable path fault)
  | some (path, .ok bytes) =>
      match fileEntries bytes with
      | .error fault => .error (.malformed path fault)
      | .ok entries => ofLayers environment entries

end Wayland.Settings
