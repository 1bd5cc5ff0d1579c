import Wayland.Binding.Output
import Wayland.Catalog.Source
import Wayland.Check.Rules

/-!
Contract: compiling the collections of a manifest.

Owns:
- what becomes of a collection: its documents are read, checked together with the imports, and
  rendered if there is a generator;
- that a failing collection does not stop the others;
- what a run records for the metrics, and the order in which generated files are written.

Does not own: the checks, the generator, and the disk.
-/

namespace Wayland.Catalog

open Wayland.Binding (Generator Output)
open Wayland.Model (Protocol)

/-- What became of a collection. -/
inductive Verdict where
  | compiled (outputs : List Output)
  | failed (failure : Failure)
  | skipped (reason : String)
deriving DecidableEq, Repr

/-- The outcome of a collection, with the protocols that could be read. -/
structure Outcome where
  name : String
  version : String
  description : String
  protocols : List Protocol := []
  verdict : Verdict
deriving DecidableEq, Repr

/-- The outcomes of a run, in the order of the manifest. -/
structure Result where
  imports : List Protocol
  outcomes : List Outcome
deriving DecidableEq, Repr

/-- What a document is read for. -/
inductive DocumentRole where
  | imported
  | collected
deriving DecidableEq, Repr

/-- Something that is counted. -/
inductive Record where
  | document (role : DocumentRole) (accepted : Bool)
  | collection (outcome : Outcome)
  | run (result : Result)
deriving DecidableEq, Repr

/-- The three classes of verdicts. -/
inductive Status where
  | compiled
  | failed
  | skipped
deriving DecidableEq, Repr

def Status.word : Status → String
  | .compiled => "compiled"
  | .failed => "failed"
  | .skipped => "skipped"

namespace Outcome

def status
    (outcome : Outcome) :
    Status :=
  match outcome.verdict with
  | .compiled _ => .compiled
  | .failed _ => .failed
  | .skipped _ => .skipped

/-- The reason why a collection was skipped; empty if it was not. -/
def reason
    (outcome : Outcome) :
    String :=
  match outcome.verdict with
  | .skipped reason => reason
  | _ => ""

def outputs
    (outcome : Outcome) :
    List Output :=
  match outcome.verdict with
  | .compiled outputs => outputs
  | _ => []

def failure?
    (outcome : Outcome) :
    Option Failure :=
  match outcome.verdict with
  | .failed failure => some failure
  | _ => none

end Outcome

namespace Result

def failures
    (result : Result) :
    List Failure :=
  result.outcomes.filterMap fun outcome =>
    outcome.failure?.map (·.within ("collection " ++ outcome.name))

def outcome?
    (result : Result)
    (name : String) :
    Option Outcome :=
  result.outcomes.find? (·.name == name)

def count
    (result : Result)
    (status : Status) :
    Nat :=
  result.outcomes.countP (·.status == status)

/-- The protocols of all compiled collections, by name. -/
def protocols
    (result : Result) :
    List Protocol :=
  let compiled := (result.outcomes.filter (·.status == .compiled)).flatMap (·.protocols)
  compiled.mergeSort fun left right => Text.precedes left.name right.name

end Result

/-- What a run is given: the manifest, the contents of files, and a generator if code is wanted. -/
structure Run where
  manifest : Manifest
  read : Reader
  generator? : Option Generator := none
  cancelled : Bool := false

/-- Reads documents in order up to the first that fails, with the records of reading. -/
def readDocuments
    (role : DocumentRole)
    (read : String → Except Failure Protocol) :
    List String → List Protocol × List Record × Option (String × Failure)
  | [] => ([], [], none)
  | document :: rest =>
      match read document with
      | .error failure => ([], [.document role false], some (document, failure))
      | .ok protocol =>
          let (protocols, records, failure?) := readDocuments role read rest
          (protocol :: protocols, .document role true :: records, failure?)

namespace Run

/-- Reads a document of the manifest.  A cancelled run reads nothing. -/
def document
    (run : Run)
    (document : String) :
    Except Failure Protocol :=
  if run.cancelled then .error { problem := .cancelled }
  else readDocument run.read (run.manifest.documentPath document)

def imports
    (run : Run) :
    List Record × Except Failure (List Protocol) :=
  match readDocuments .imported run.document run.manifest.imports with
  | (_, records, some (document, failure)) =>
      (records, .error (failure.within ("import " ++ document)))
  | (protocols, records, none) => (records, .ok protocols)

def cleanPath
    (run : Run)
    (document : String) :
    String :=
  File.Path.clean (run.manifest.documentPath document)

/-- The imports of a collection: those that are not documents of the collection itself. -/
def foreignImports
    (run : Run)
    (imports : List Protocol)
    (collection : Collection) :
    List Protocol :=
  let own := collection.documents.map run.cleanPath
  ((run.manifest.imports.zip imports).filter fun (document, _) =>
    !own.contains (run.cleanPath document)).map (·.2)

def judge
    (run : Run)
    (imports : List Protocol)
    (collection : Collection)
    (protocols : List Protocol) :
    Verdict :=
  match Check.check ⟨protocols, run.foreignImports imports collection⟩ with
  | .error violations => .failed { problem := .violations violations }
  | .ok _ =>
      match run.generator? with
      | none => .compiled []
      | some generator =>
          match generator.generateAll run.cancelled protocols with
          | .error error => .failed { problem := .binding error }
          | .ok outputs => .compiled outputs

/-- Compiles one collection, with the records of reading. -/
def compileCollection
    (run : Run)
    (imports : List Protocol)
    (collection : Collection) :
    List Record × Outcome :=
  let outcome (protocols : List Protocol) (verdict : Verdict) : Outcome :=
    { name := collection.name
      version := collection.version
      description := collection.description
      protocols
      verdict }
  if !collection.enabled then ([], outcome [] (.skipped collection.disabled))
  else
    match readDocuments .collected run.document collection.documents with
    | (protocols, records, some (_, failure)) => (records, outcome protocols (.failed failure))
    | (protocols, records, none) =>
        (records, outcome protocols (run.judge imports collection protocols))

/-- Compiles all collections.  Only a broken import or a cancellation ends a run without a result.
-/
def compile
    (run : Run) :
    List Record × Except Failure Result :=
  match run.imports with
  | (records, .error failure) => (records, .error failure)
  | (records, .ok imports) =>
      if run.cancelled && run.manifest.collections.any (·.enabled) then
        (records, .error { problem := .cancelled })
      else
        let compiled := run.manifest.collections.map (run.compileCollection imports)
        let result : Result := ⟨imports, compiled.map (·.2)⟩
        let collected := compiled.flatMap fun (read, outcome) => read ++ [.collection outcome]
        (records ++ collected ++ [.run result], .ok result)

end Run

/-! ## Writing -/

/-- Writes generated files below a directory, up to the first that fails; the paths that were
written, latest first, and the failure. -/
def writeFiles
    {m : Type → Type}
    [Monad m]
    (disk : File.Disk m)
    (directory : String)
    (written : List String) :
    List (String × Binding.File) → m (List String × Option Failure)
  | [] => return (written, none)
  | (collection, file) :: rest => do
      let path := File.Path.join [directory, file.path]
      let parent := File.Path.directory path
      match ← disk.makeDirectories parent with
      | .error fault =>
          return (written, some ⟨["collection " ++ collection, "create " ++ parent], .file fault⟩)
      | .ok () =>
          match ← disk.write path (Text.Bytes.ofText file.content) with
          | .error fault =>
              return (written, some ⟨["collection " ++ collection, "write " ++ path], .file fault⟩)
          | .ok () => writeFiles disk directory (path :: written) rest

/-- The generated files with the names of their collections, in order. -/
def Result.files
    (result : Result) :
    List (String × Binding.File) :=
  result.outcomes.flatMap fun outcome =>
    (outcome.outputs.flatMap (·.files)).map fun file => (outcome.name, file)

def Result.write
    {m : Type → Type}
    [Monad m]
    (result : Result)
    (disk : File.Disk m)
    (directory : String) :
    m (List String × Option Failure) := do
  let (written, failure?) ← writeFiles disk directory [] result.files
  return (written.reverse, failure?)

end Wayland.Catalog
