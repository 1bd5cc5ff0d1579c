import Wayland.Document.Error
import Wayland.File.Path
import Wayland.Text.Blank
import Wayland.Yaml.Shape

/-!
Contract: manifests, which list collections of protocol documents.

Owns:
- the shape of a manifest, and which manifests are valid;
- looking a collection up and narrowing a manifest to some collections;
- where the documents of a manifest are.

Does not own: reading files, and the documents themselves.
-/

namespace Wayland.Catalog

open Wayland.Document (MappingFault)
open Wayland.Text (trim)
open Wayland.Yaml (Shape)
open Wayland.Yaml.Shape (field)

/-- A named set of documents that are compiled together. -/
structure Collection where
  name : String := ""
  version : String := ""
  description : String := ""
  documents : List String := []
  /-- The reason why the collection is left out; blank if it is not. -/
  disabled : String := ""
deriving DecidableEq, Repr

def Collection.enabled
    (collection : Collection) :
    Bool :=
  (trim collection.disabled).isEmpty

/-- The collections of a catalog. -/
structure Manifest where
  /-- The directory that documents are relative to. -/
  baseDirectory : String := ""
  /-- Documents that every collection may refer to, and for which nothing is generated. -/
  imports : List String := []
  collections : List Collection := []
deriving DecidableEq, Repr

/-- Why a manifest cannot be used. -/
inductive ManifestProblem where
  /-- The text holds no document at all. -/
  | noDocument
  | mapping (fault : MappingFault)
  | noCollections
  | missingName (position : Nat)
  | duplicateName (name : String)
  | noDocuments (name : String)
  | unknownCollection (name : String)
  | collectionDisabled (name reason : String)
deriving DecidableEq, Repr

def ManifestProblem.text : ManifestProblem → String
  | .noDocument => "failed to decode catalog manifest: EOF"
  | .mapping fault => "failed to decode catalog manifest: " ++ fault.message
  | .noCollections => "catalog: manifest lists no collections"
  | .missingName position =>
      "catalog: collection without a name: entry " ++ toString position
  | .duplicateName name => "catalog: duplicate collection name: " ++ name
  | .noDocuments name => "catalog: collection lists no documents: " ++ name
  | .unknownCollection name => "catalog: unknown collection: " ++ name
  | .collectionDisabled name reason =>
      "catalog: collection is disabled: " ++ name ++ ": " ++ reason

def textsShape : Shape (Option (List String)) :=
  .list "[]string" .text ""

def collectionShape : Shape Collection :=
  .record "catalog.Collection"
    [field "name" .text (·.name) fun record value => { record with name := value },
      field "version" .text (·.version) fun record value => { record with version := value },
      field "description" .text (·.description)
        fun record value => { record with description := value },
      field "documents" textsShape (some ·.documents)
        fun record value => { record with documents := value.getD [] },
      field "disabled" .text (·.disabled) fun record value => { record with disabled := value }]
    false

def manifestShape : Shape Manifest :=
  .record "catalog.Manifest"
    [field "base_dir" .text (·.baseDirectory)
        fun record value => { record with baseDirectory := value },
      field "imports" textsShape (some ·.imports)
        fun record value => { record with imports := value.getD [] },
      field "collections" (.list "[]catalog.Collection" collectionShape {}) (some ·.collections)
        fun record value => { record with collections := value.getD [] }]
    false

namespace Manifest

/-- The first problem of the collections from a position on.  `seen` holds the names before. -/
def problemFrom?
    (position : Nat)
    (seen : List String) :
    List Collection → Option ManifestProblem
  | [] => none
  | collection :: rest =>
      if (trim collection.name).isEmpty then some (.missingName position)
      else if seen.contains collection.name then some (.duplicateName collection.name)
      else if collection.enabled && collection.documents.isEmpty then
        some (.noDocuments collection.name)
      else problemFrom? (position + 1) (collection.name :: seen) rest

def problem?
    (manifest : Manifest) :
    Option ManifestProblem :=
  if manifest.collections.isEmpty then some .noCollections
  else problemFrom? 0 [] manifest.collections

def checked
    (manifest : Manifest) :
    Except ManifestProblem Manifest :=
  match manifest.problem? with
  | some problem => .error problem
  | none => .ok manifest

def ofBytes
    (bytes : Text.Bytes) :
    Except ManifestProblem Manifest :=
  match Yaml.Document.ofBytes bytes with
  | .error fault => .error (.mapping (.syntaxError fault.message))
  | .ok none => .error .noDocument
  | .ok (some tree) =>
      match manifestShape.ofDocument (bytes.length + 1) {} tree with
      | .error fault => .error (.mapping (.syntaxError fault.message))
      | .ok (.error faults) => .error (.mapping (.shape faults))
      | .ok (.ok manifest) => manifest.checked

def collection
    (manifest : Manifest)
    (name : String) :
    Except ManifestProblem Collection :=
  match manifest.collections.find? (·.name == name) with
  | some found => .ok found
  | none => .error (.unknownCollection name)

/-- The first problem of selecting collections by name. -/
def selectProblem?
    (manifest : Manifest) :
    List String → Option ManifestProblem
  | [] => none
  | name :: rest =>
      match manifest.collection name with
      | .error problem => some problem
      | .ok found =>
          if found.enabled then manifest.selectProblem? rest
          else some (.collectionDisabled found.name found.disabled)

/-- A manifest with the named collections only, in their order there; without names all are kept.
-/
def select
    (manifest : Manifest)
    (names : List String) :
    Except ManifestProblem Manifest :=
  if names.isEmpty then .ok manifest
  else
    match manifest.selectProblem? names with
    | some problem => .error problem
    | none =>
        .ok { manifest with
          collections := manifest.collections.filter (names.contains ·.name) }

/-- A manifest as seen from outside: the base directory of one at `path` is relative to the
directory of the manifest. -/
def locate
    (manifest : Manifest)
    (path : String) :
    Manifest :=
  if File.Path.isAbsolute manifest.baseDirectory then manifest
  else
    { manifest with
      baseDirectory := File.Path.join [File.Path.directory path, manifest.baseDirectory] }

def documentPath
    (manifest : Manifest)
    (document : String) :
    String :=
  if File.Path.isAbsolute document then document
  else File.Path.join [manifest.baseDirectory, document]

end Manifest

end Wayland.Catalog
