import Wayland.Metrics.Exposition
import Wayland.Service.Alternative
import Wayland.Service.Route
import Wayland.Service.View

/-!
Contract: what every endpoint answers.

Owns: the statuses, the bodies, and the codes and messages of problems.

Does not own: which endpoint is asked, and what surrounds the answer.
-/

namespace Wayland.Service

open Wayland.Json (Value)
open Wayland.Metrics (Registry)
open Wayland.Text (Bytes)

/-- What the service knows when it answers. -/
structure State where
  published? : Option Published := none
  registry : Registry
  /-- The time of the answer. -/
  now : String

/-- What stands between a request and its answer. -/
inductive Problem where
  | notReady
  | unknownCollection (name : Bytes)
  | unknownProtocol (name : Bytes)
  | unknownInterface (name : Bytes) (protocol : String)
  | unknownPath
  | wrongMethod
deriving DecidableEq, Repr

namespace Problem

def status : Problem → Nat
  | .notReady => 503
  | .wrongMethod => 405
  | _ => 404

def code : Problem → String
  | .notReady => "not_ready"
  | .unknownCollection _ => "collection_not_found"
  | .unknownProtocol _ => "protocol_not_found"
  | .unknownInterface _ _ => "interface_not_found"
  | .unknownPath => "not_found"
  | .wrongMethod => "method_not_allowed"

/-- The message of a problem.  Names from a path need not be well-formed texts. -/
def message : Problem → Value
  | .notReady => .text "catalog has not been compiled yet"
  | .unknownCollection name => .text ("unknown collection " ++ Bytes.toText name)
  | .unknownProtocol name => .text ("unknown protocol " ++ Bytes.toText name)
  | .unknownInterface name _ => .text ("unknown interface " ++ Bytes.toText name)
  | .unknownPath => .text "no such route"
  | .wrongMethod => .text "Method Not Allowed"

/-- More on a problem. -/
def details? : Problem → Option Value
  | .unknownInterface _ protocol => some (.object [("protocol", .text protocol)])
  | _ => none

end Problem

/-- A request on its way to an answer, with the headers that its response has so far. -/
structure Exchange where
  request : Request
  /-- The name by which the request is known. -/
  id : String
  headers : Headers

def Exchange.json
    (exchange : Exchange)
    (status : Nat)
    (value : Value) :
    Response :=
  { status
    headers := exchange.headers.set "Content-Type" "application/json"
    body := value.compact ++ "\n" }

def Exchange.problem
    (exchange : Exchange)
    (now : String)
    (problem : Problem) :
    Response :=
  exchange.json problem.status (.object [("error", .ofOptions [
    ("code", some (.text problem.code)),
    ("message", some problem.message),
    ("request_id", Value.nonEmpty exchange.id),
    ("timestamp", some (.text now)),
    ("details", problem.details?)])])

/-- The type of published metrics whose names are escaped in the given way. -/
def metricsType
    (escaping : String) :
    String :=
  "text/plain; version=0.0.4; charset=utf-8; escaping=" ++ escaping

/-- The response with the metrics, packed if the request prefers that. -/
def Exchange.metrics
    (exchange : Exchange)
    (registry : Registry) :
    Response :=
  let asked := exchange.request.headers
  let headers := exchange.headers.set "Content-Type" (metricsType (escaping (asked.value "Accept")))
  { status := 200
    headers :=
      if prefersGzip (asked.values "Accept-Encoding") then
        headers.set "Content-Encoding" "gzip"
      else headers
    body := registry.exposition }

namespace State

def result
    (state : State) :
    Except Problem Catalog.Result :=
  match state.published? with
  | none => .error .notReady
  | some published => .ok published.result

def collection
    (state : State)
    (name : Bytes) :
    Except Problem Catalog.Outcome := do
  let result ← state.result
  match result.outcome? (Bytes.toText name) with
  | none => .error (.unknownCollection name)
  | some outcome => .ok outcome

def protocol
    (state : State)
    (name : Bytes) :
    Except Problem Model.Protocol := do
  let result ← state.result
  match listed? result (Bytes.toText name) with
  | none => .error (.unknownProtocol name)
  | some listed => .ok listed.protocol

def interface
    (state : State)
    (protocolName name : Bytes) :
    Except Problem Model.Interface := do
  let protocol ← state.protocol protocolName
  match protocol.interface? (Bytes.toText name) with
  | none => .error (.unknownInterface name protocol.name)
  | some interface => .ok interface

/-- What an endpoint other than those for health and metrics shows. -/
def view
    (state : State)
    (captures : Captures) :
    Endpoint → Except Problem Value
  | .collections => do return .list ((← state.result).outcomes.map collectionView)
  | .collection => do return collectionView (← state.collection (captures.value "name"))
  | .protocols => do return .list ((index (← state.result)).map protocolView)
  | .protocol => do return (← state.protocol (captures.value "name")).json
  | .interface => do
      return (← state.interface (captures.value "name") (captures.value "iface")).json
  | _ => .error .unknownPath

/-- The answer of an endpoint, or why it broke off. -/
def answer
    (state : State)
    (exchange : Exchange)
    (captures : Captures) :
    Endpoint → Except String Response
  | .broken reason => .error reason
  | .health =>
      .ok (exchange.json (if state.published?.isSome then 200 else 503)
        (healthView state.published?))
  | .metrics => .ok (exchange.metrics state.registry)
  | endpoint =>
      match state.view captures endpoint with
      | .ok value => .ok (exchange.json 200 value)
      | .error problem => .ok (exchange.problem state.now problem)

end State

end Wayland.Service
