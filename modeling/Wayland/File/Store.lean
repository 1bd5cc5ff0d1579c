import Wayland.File.Fault
import Wayland.Text.Blank

/-!
Contract: a disk as a value.

Owns:
- what stands at a path, which is followed component by component from a working directory;
- reading, writing and making directories, with the reason of every failure.

Does not own: permissions and links, of which there are none.
-/

namespace Wayland.File

open Wayland.Text (Bytes splitChars)

/-- What stands at a place. -/
inductive Entry where
  | directory
  | file (content : Bytes)
deriving DecidableEq, Repr

abbrev Place := List String

/-- Directories and files.  The working directory and all above it exist. -/
structure Store where
  workingDirectory : Place
  entries : List (Place × Entry) := []
deriving DecidableEq, Repr

def maxNameBytes : Nat := 255

def maxPathBytes : Nat := 4095

namespace Store

def entryAt
    (store : Store)
    (place : Place) :
    Option Entry :=
  if place.isPrefixOf store.workingDirectory then some .directory
  else store.entries.lookup place

/-- A store with something put at a place. -/
def put
    (store : Store)
    (place : Place)
    (entry : Entry) :
    Store :=
  { store with entries := (place, entry) :: store.entries.filter (·.1 != place) }

/-- Follows names from a place.  Every place that is left must be a directory. -/
def follow
    (store : Store)
    (place : Place) :
    List String → Except Reason Place
  | [] => .ok place
  | name :: rest =>
      match store.entryAt place with
      | none => .error .missing
      | some (.file _) => .error .notDirectory
      | some .directory =>
          if name.isEmpty || name == "." then store.follow place rest
          else if name == ".." then store.follow place.dropLast rest
          else if maxNameBytes < name.utf8ByteSize then .error .nameTooLong
          else store.follow (place ++ [name]) rest

/-- The place a path leads to, which need not exist. -/
def place
    (store : Store)
    (path : String) :
    Except Reason Place :=
  let chars := path.toList
  if chars.contains '\x00' then .error .badName
  else if chars.isEmpty then .error .missing
  else if maxPathBytes < path.utf8ByteSize then .error .nameTooLong
  else
    let start := if chars.head? == some '/' then [] else store.workingDirectory
    store.follow start ((splitChars '/' chars).map String.ofList)

def entry
    (store : Store)
    (path : String) :
    Except Reason Entry :=
  match store.place path with
  | .error reason => .error reason
  | .ok place =>
      match store.entryAt place with
      | some found => .ok found
      | none => .error .missing

def read
    (store : Store)
    (path : String) :
    Contents :=
  match store.entry path with
  | .error reason => .error ⟨.opening, path, reason⟩
  | .ok .directory => .error ⟨.reading, path, .isDirectory⟩
  | .ok (.file content) => .ok content

/-- Makes one directory, whose parent must exist. -/
def makeDirectory
    (store : Store)
    (path : String) :
    Except Fault Store :=
  match store.place path with
  | .error reason => .error ⟨.makingDirectory, path, reason⟩
  | .ok place =>
      match store.entryAt place with
      | some _ => .error ⟨.makingDirectory, path, .alreadyThere⟩
      | none =>
          match store.entryAt place.dropLast with
          | some .directory => .ok (store.put place .directory)
          | some (.file _) => .error ⟨.makingDirectory, path, .notDirectory⟩
          | none => .error ⟨.makingDirectory, path, .missing⟩

/-- A path and the paths above it, the path itself first. -/
def pathsAbove
    (path : String) :
    List String :=
  let names := splitChars '/' path.toList
  let paths := (List.range names.length).map fun dropped =>
    String.intercalate "/" ((names.take (names.length - dropped)).map String.ofList)
  paths.filter (!·.isEmpty)

/-- The paths that have to be made, the deepest first, up to the first that exists. -/
def missingDirectories
    (store : Store)
    (latest : List String) :
    List String → Except Fault (List String)
  | [] => .ok latest
  | path :: rest =>
      match store.entry path with
      | .ok .directory => .ok latest
      | .ok (.file _) => .error ⟨.makingDirectory, path, .notDirectory⟩
      | .error _ => store.missingDirectories (path :: latest) rest

/-- Makes directories in order.  The second part tells what stopped it. -/
def makeAll
    (store : Store) :
    List String → Store × Option Fault
  | [] => (store, none)
  | path :: rest =>
      match store.makeDirectory path with
      | .error fault => (store, some fault)
      | .ok store => store.makeAll rest

/-- Makes a directory and all directories above it that are missing. -/
def makeDirectories
    (store : Store)
    (path : String) :
    Store × Option Fault :=
  match store.missingDirectories [] (pathsAbove path) with
  | .error fault => (store, some fault)
  | .ok paths => store.makeAll paths

/-- Writes a file, whose directory must exist. -/
def write
    (store : Store)
    (path : String)
    (content : Bytes) :
    Store × Option Fault :=
  let fail (reason : Reason) : Store × Option Fault := (store, some ⟨.opening, path, reason⟩)
  match store.place path with
  | .error reason => fail reason
  | .ok place =>
      match store.entryAt place with
      | some .directory => fail .isDirectory
      | some (.file _) => (store.put place (.file content), none)
      | none =>
          match store.entryAt place.dropLast with
          | some .directory =>
              if path.toList.getLast? == some '/' then fail .isDirectory
              else (store.put place (.file content), none)
          | some (.file _) => fail .notDirectory
          | none => fail .missing

def outcome : Option Fault → Except Fault Unit
  | none => .ok ()
  | some fault => .error fault

def disk : Disk (StateM Store) where
  read path := do return (← get).read path
  makeDirectories path := do
    let (store, fault) := (← get).makeDirectories path
    set store
    return outcome fault
  write path content := do
    let (store, fault) := (← get).write path content
    set store
    return outcome fault

/-- A store with the given files and the directories they are in; a path with a slash at its end
stands for a directory. -/
def addFiles
    (store : Store) :
    List (String × Bytes) → Store
  | [] => store
  | (path, content) :: rest =>
      match path.toList.reverse with
      | '/' :: lead => (store.makeDirectories (String.ofList lead.reverse)).1.addFiles rest
      | _ =>
          let above := ((pathsAbove path).drop 1).headD "."
          ((store.makeDirectories above).1.write path content).1.addFiles rest

/-- The files below the working directory that are new or changed since an earlier state, by their
relative paths in order. -/
def changes
    (store before : Store) :
    List (String × Bytes) :=
  let changed := store.entries.filterMap fun (place, entry) =>
    match entry with
    | .directory => none
    | .file content =>
        if store.workingDirectory.isPrefixOf place && before.entryAt place != some entry then
          some (String.intercalate "/" (place.drop store.workingDirectory.length), content)
        else none
  changed.mergeSort fun left right => decide (left.1 ≤ right.1)

end Store

end Wayland.File
