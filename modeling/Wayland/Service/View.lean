import Wayland.Catalog.Compile
import Wayland.Model.Json

/-!
Contract: what a published result offers, and how it is shown.

Owns:
- the list of protocols with the collections that compiled them, and the search by name;
- the JSON forms: member names, their order, and which members are left out when empty.

Does not own: which of the forms answers a request.
-/

namespace Wayland.Service

open Wayland.Catalog (Outcome Result Status)
open Wayland.Catalog (Result)
open Wayland.Json (Value)
open Wayland.Model (Protocol)

/-! ## Offered protocols -/

/-- A protocol and the collection it is listed under. -/
structure Listed where
  collection : String
  protocol : Protocol
deriving DecidableEq, Repr

/-- The collection under which protocols are listed that were only imported. -/
def importCollection : String := "imports"

/-- Every protocol that may be listed: those of compiled collections in the order of the
collections, then the imports. -/
def candidates
    (result : Result) :
    List Listed :=
  let compiled := result.outcomes.filter (·.status == .compiled)
  compiled.flatMap (fun outcome => outcome.protocols.map (Listed.mk outcome.name))
    ++ result.imports.map (Listed.mk importCollection)

/-- The first candidate of each name that was not seen before. -/
def firstOfEach
    (seen : List String) :
    List Listed → List Listed
  | [] => []
  | candidate :: rest =>
      if seen.contains candidate.protocol.name then firstOfEach seen rest
      else candidate :: firstOfEach (candidate.protocol.name :: seen) rest

/-- The protocols that are offered, each name once. -/
def index
    (result : Result) :
    List Listed :=
  firstOfEach [] (candidates result)

def listed?
    (result : Result)
    (name : String) :
    Option Listed :=
  (index result).find? (·.protocol.name == name)

/-! ## JSON forms -/

/-- A result with the name of its run and the time at which the run ended. -/
structure Published where
  result : Result
  run : String
  finished : String
deriving DecidableEq, Repr

/-- The counts of those statuses that occur. -/
def statusCounts
    (result : Result) :
    List (String × Value) :=
  [Status.compiled, .failed, .skipped].filterMap fun status =>
    (Value.nonZero (result.count status)).map (status.word, ·)

/-- The state of the service: one failed collection degrades it. -/
def healthView : Option Published → Value
  | none => .object [("status", .text "starting")]
  | some published =>
      let counts := statusCounts published.result
      let status := if published.result.count .failed = 0 then "ok" else "degraded"
      .ofOptions [
        ("status", some (.text status)),
        ("run_id", Value.nonEmpty published.run),
        ("finished", Value.nonEmpty published.finished),
        ("collections", if counts.isEmpty then none else some (.object counts))]

/-- A collection.  The time that it took is not measured. -/
def collectionView
    (outcome : Outcome) :
    Value :=
  .ofOptions [
    ("name", some (.text outcome.name)),
    ("version", Value.nonEmpty outcome.version),
    ("description", Value.nonEmpty outcome.description),
    ("status", some (.text outcome.status.word)),
    ("reason", Value.nonEmpty outcome.reason),
    ("error", outcome.failure?.bind fun failure => Value.nonEmpty failure.message),
    ("protocols", Value.nonEmptyList (outcome.protocols.map fun protocol => .text protocol.name)),
    ("duration_ms", some (.number 0))]

def protocolView
    (listed : Listed) :
    Value :=
  .ofOptions [
    ("name", some (.text listed.protocol.name)),
    ("collection", some (.text listed.collection)),
    ("document", Value.nonEmpty listed.protocol.document),
    ("summary", Value.nonEmpty listed.protocol.description.summary),
    ("interfaces", some (.list (listed.protocol.interfaces.map fun interface =>
      .text interface.name)))]

end Wayland.Service
