import Wayland.Binding.Error
import Wayland.Catalog.Manifest
import Wayland.Check.Violation
import Wayland.Document.Format
import Wayland.Document.Mapping
import Wayland.Document.Markup
import Wayland.File.Fault

/-!
Contract: manifests and protocol documents from files.

Owns:
- the problems that can end a run or a collection, with the context they arose in;
- which syntax a document is read in, and the reports on files that cannot be read.

Does not own: the syntaxes, and where the contents of files come from.
-/

namespace Wayland.Catalog

open Wayland.Document (Format)
open Wayland.Model (Protocol)

/-! ## Problems -/

/-- What went wrong. -/
inductive Problem where
  | manifest (problem : ManifestProblem)
  | file (fault : File.Fault)
  | document (error : Document.Error)
  | violations (violations : List Check.Violation)
  | binding (error : Binding.Error)
  | cancelled
deriving DecidableEq, Repr

def Problem.text : Problem → String
  | .manifest problem => problem.text
  | .file fault => fault.message
  | .document error => error.message
  | .violations found => Check.report found
  | .binding error => error.message
  | .cancelled => "context canceled"

/-- A problem and its context, from the outside in. -/
structure Failure where
  context : List String := []
  problem : Problem
deriving DecidableEq, Repr

namespace Failure

def message
    (failure : Failure) :
    String :=
  String.intercalate ": " (failure.context ++ [failure.problem.text])

def within
    (failure : Failure)
    (context : String) :
    Failure :=
  { failure with context := context :: failure.context }

def report
    (failures : List Failure) :
    String :=
  String.intercalate "\n" (failures.map message)

end Failure

/-! ## Files -/

abbrev Reader := String → File.Contents

def readFormat
    (format : Format)
    (path : String)
    (bytes : Text.Bytes) :
    Except Document.Error Protocol :=
  match format with
  | .markup => Document.readMarkup path bytes
  | .mapping => Document.readMapping path bytes

/-- The line that is reported for a file that cannot be read to its end. -/
def unreadableLine : Format → Nat
  | .markup => 1
  | .mapping => 0

/-- Reads the document at a path, whose extension tells the syntax. -/
def readDocument
    (read : Reader)
    (path : String) :
    Except Failure Protocol :=
  match Format.ofPath path with
  | .error problem => .error { problem := .document { document := path, problem } }
  | .ok format =>
      match read path with
      | .error fault =>
          if fault.step == .reading then
            .error {
              problem := .document {
                document := path
                line := unreadableLine format
                problem := .unreadable fault.message } }
          else .error ⟨["failed to open protocol document"], .file fault⟩
      | .ok bytes =>
          match readFormat format path bytes with
          | .error error => .error { problem := .document error }
          | .ok protocol => .ok protocol

def readManifest
    (path : String) :
    File.Contents → Except Failure Manifest
  | .error fault => .error ⟨["failed to read catalog manifest"], .file fault⟩
  | .ok bytes =>
      match Manifest.ofBytes bytes with
      | .error problem => .error ⟨[path], .manifest problem⟩
      | .ok manifest => .ok (manifest.locate path)

/-- The paths of the documents that a run over a manifest reads. -/
def Manifest.documentPaths
    (manifest : Manifest) :
    List String :=
  let documents := manifest.imports
    ++ (manifest.collections.filter (·.enabled)).flatMap (·.documents)
  (documents.map manifest.documentPath).filter fun path => (Format.ofPath path).toBool

/-- The contents of some files of a disk, read once. -/
def readAll
    {m : Type → Type}
    [Monad m]
    (disk : File.Disk m)
    (paths : List String) :
    m Reader := do
  let contents ← paths.eraseDups.mapM fun path => do return (path, ← disk.read path)
  return fun path => (contents.lookup path).getD (.error ⟨.opening, path, .missing⟩)

end Wayland.Catalog
