import Wayland.Catalog.Compile
import Wayland.Metrics.Registry

/-!
Contract: what catalog runs count.

Owns: the collectors of runs, and the effect of every record on them.

Does not own: when records arise, and how long anything takes.
-/

namespace Wayland.Catalog

open Wayland.Metrics (Description Registry countBounds sizeBounds)

def metricName
    (name : String) :
    String :=
  Metrics.fullName "wlscanner" "catalog" name

def metricDescriptions : List Description :=
  [{ name := metricName "collections_total"
     help := "Collections processed, by result"
     kind := .counter
     isVector := true
     labels := ["result"] },
    { name := metricName "documents_total"
      help := "Protocol documents parsed, by role and result"
      kind := .counter
      isVector := true
      labels := ["role", "result"] },
    { name := metricName "interfaces_per_document"
      help := "Interfaces declared per compiled document"
      kind := .histogram countBounds },
    { name := metricName "generated_file_bytes"
      help := "Size of generated source files"
      kind := .histogram sizeBounds },
    { name := metricName "last_run_collections"
      help := "Collections of the last run, by result"
      kind := .gauge
      isVector := true
      labels := ["result"] }]

/-- The collectors before the first run. -/
def initialMetrics : Registry :=
  metricDescriptions.foldl (fun registry next => (registry.register next).getD registry) {}

def DocumentRole.word : DocumentRole → String
  | .imported => "import"
  | .collected => "collection"

def observeAll
    (registry : Registry)
    (name : String)
    (amounts : List Nat) :
    Registry :=
  amounts.foldl
    (fun registry (amount : Nat) => registry.add (metricName name) [] (amount : Int)) registry

def countOutcome
    (registry : Registry)
    (outcome : Outcome) :
    Registry :=
  let registry := registry.add (metricName "collections_total") [outcome.status.word] 1
  let registry := observeAll registry "interfaces_per_document"
    (outcome.protocols.map (·.interfaces.length))
  observeAll registry "generated_file_bytes"
    ((outcome.outputs.flatMap (·.files)).map (·.content.utf8ByteSize))

/-- Notes how many collections of a run have each status. -/
def countResult
    (registry : Registry)
    (result : Result) :
    Registry :=
  [Status.compiled, .failed, .skipped].foldl
    (fun registry status =>
      registry.set (metricName "last_run_collections") [status.word] (result.count status))
    registry

/-- The effect of a record. -/
def Record.count
    (registry : Registry) :
    Record → Registry
  | .document role accepted =>
      let status : Status := if accepted then .compiled else .failed
      registry.add (metricName "documents_total") [role.word, status.word] 1
  | .collection outcome => countOutcome registry outcome
  | .run result => countResult registry result

/-- The collectors after records, in order. -/
def countRecords
    (registry : Registry)
    (records : List Record) :
    Registry :=
  records.foldl Record.count registry

end Wayland.Catalog
