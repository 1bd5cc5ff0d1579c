import Wayland.Log.Level
import Wayland.Service.Answer
import Wayland.Settings.Basic
import Wayland.Text.Quoted

/-!
Contract: how a server deals with a request.

Owns:
- the name of a request, and the log entries about it;
- the answers to requests from other origins, and the packing of bodies;
- the way to a clean path, and the report of an endpoint that broke off.

Does not own: what the endpoints answer.
-/

namespace Wayland.Service

open Wayland.Text (Bytes)

/-- A server: how it is set up, and where requests lead. -/
structure Server where
  settings : Settings.Service
  routes : List Route
  logger : Log.Logger

def Server.ofSettings
    (settings : Settings)
    (logger : Log.Logger) :
    Server where
  settings := settings.service
  routes := catalogRoutes ++ if settings.metrics.enabled then [metricsRoute] else []
  logger := logger.component "http-api"

def idField : String := "X-Request-ID"

/-- The name of a request: the one that it brings, unless it is empty or too long. -/
def requestId
    (fresh : String)
    (request : Request) :
    String :=
  let brought := request.headers.value idField
  if brought.isEmpty || 128 < brought.utf8ByteSize then fresh else brought

/-- What became of a request: its response, the template of the route that was taken, why the
endpoint broke off, if it did, and the status that is logged. -/
structure Reply where
  response : Response
  route : String := ""
  broke? : Option String := none
  status : Nat := response.status

/-! ## Routing -/

def Exchange.broken
    (exchange : Exchange) :
    Response where
  status := 500
  headers := exchange.headers.set "Content-Type" "application/json"
  body := "\x7b\"error\":\x7b\"code\":\"internal\",\"message\":\"internal error\",\"request_id\":"
    ++ Text.quote exchange.id ++ "\x7d\x7d\n"

/-- The response that leads to the clean form of a path. -/
def Exchange.moved
    (exchange : Exchange)
    (target : Target) :
    Response where
  status := 301
  headers := exchange.headers.set "Location" target.text

/-- Follows the routes.  A path that is not clean is first cleaned by whoever asks. -/
def Server.route
    (server : Server)
    (state : State)
    (exchange : Exchange) :
    Reply :=
  let target := exchange.request.target
  let clean := cleanPath target.path
  if clean ≠ target.path then { response := exchange.moved { target with path := clean } }
  else
    match destination exchange.request.method target.path server.routes with
    | .unknown => { response := exchange.problem state.now .unknownPath }
    | .wrongMethod => { response := exchange.problem state.now .wrongMethod }
    | .found route captures =>
        let template := route.template.text
        match state.answer exchange captures route.endpoint with
        | .ok response => { response, route := template }
        | .error reason =>
            { response := exchange.broken, route := template, broke? := some reason }

def packedType
    (encoding : String) :
    String :=
  if encoding == "gzip" then "application/x-gzip" else "application/octet-stream"

/-- A reply whose body is packed.  When the endpoint breaks off, the packed body is ended before
anything is reported: the response has begun well, is empty, and shows the type of what it is packed
in. -/
def Reply.packed
    (reply : Reply)
    (encoding : String)
    (headers : Headers) :
    Reply :=
  if reply.broke?.isNone then reply
  else
    { reply with
      response := { status := 200, headers := headers.set "Content-Type" (packedType encoding) }
      status := reply.response.status }

/-- Packs the body, if the server does so and the request accepts it. -/
def Server.pack
    (server : Server)
    (state : State)
    (exchange : Exchange) :
    Reply :=
  if !server.settings.compress then server.route state exchange
  else
    let request := exchange.request
    let marked := { exchange with headers := exchange.headers.add "Vary" "Accept-Encoding" }
    match packing? (request.headers.value "Accept-Encoding") with
    | none => server.route state marked
    | some encoding =>
        if !(request.headers.value "Upgrade").isEmpty then server.route state marked
        else
          let unmarked := { request with headers := request.headers.erase "Accept-Encoding" }
          let headers := marked.headers.set "Content-Encoding" encoding
          (server.route state { marked with request := unmarked, headers }).packed encoding headers

/-! ## Other origins -/

def sharedMethods : List String := ["GET", "HEAD", "OPTIONS"]

/-- The methods that need no permission. -/
def simpleMethods : List String := ["GET", "HEAD", "POST"]

def sharedFields : List String := ["Content-Type", canonicalName idField]

/-- The fields that need no permission. -/
def simpleFields : List String := ["Accept", "Accept-Language", "Content-Language", "Origin"]

/-- The fields that a request for permission names, less those that need none. -/
def requestedFields
    (headers : Headers) :
    List String :=
  let listed := Text.splitText ',' (headers.value "Access-Control-Request-Headers")
  (listed.map fun field => canonicalName (Text.trim field)).filter fun field =>
    !field.isEmpty && !simpleFields.contains field

/-- The answer to another origin that asks whether it may send a request. -/
def Exchange.permission
    (exchange : Exchange) :
    Response :=
  let asked := exchange.request.headers
  let method := asked.value "Access-Control-Request-Method"
  let fields := requestedFields asked
  let refusal (status : Nat) : Response := { status, headers := exchange.headers }
  if !asked.contains "Access-Control-Request-Method" then refusal 400
  else if !sharedMethods.contains method then refusal 405
  else if fields.any (!sharedFields.contains ·) then refusal 403
  else
    let headers := exchange.headers
    let headers :=
      if fields.isEmpty then headers
      else headers.set "Access-Control-Allow-Headers" (String.intercalate "," fields)
    let headers :=
      if simpleMethods.contains method then headers
      else headers.set "Access-Control-Allow-Methods" method
    { status := 200, headers := headers.set "Access-Control-Allow-Origin" "*" }

/-- Lets other origins in, if the server is open to them.  A question for permission is not passed
on, even if it names no origin. -/
def Server.share
    (server : Server)
    (state : State)
    (exchange : Exchange) :
    Reply :=
  let foreign := !(exchange.request.headers.value "Origin").isEmpty
  let asking := exchange.request.method == "OPTIONS"
  if !server.settings.crossOrigin then server.pack state exchange
  else if asking then
    { response := if foreign then exchange.permission
        else { status := 200, headers := exchange.headers } }
  else if foreign then
    let headers := exchange.headers.set "Access-Control-Expose-Headers" (canonicalName idField)
    server.pack state { exchange with headers := headers.set "Access-Control-Allow-Origin" "*" }
  else server.pack state exchange

/-! ## Logging -/

/-- The paths whose successful requests are not worth much notice. -/
def quietPaths : List Bytes := [Bytes.ofText "/metrics", Bytes.ofText "/healthz"]

def accessLevel
    (path : Bytes)
    (status : Nat) :
    Log.Level :=
  if 500 ≤ status then .error
  else if 400 ≤ status then .warn
  else if quietPaths.contains path then .debug
  else .info

/-- The log entries about a request: why it broke off, if it did, and how it was answered. -/
def Server.entries
    (server : Server)
    (exchange : Exchange)
    (reply : Reply) :
    List Log.Entry :=
  let path := exchange.request.target.path
  let status := reply.status
  let broke := reply.broke?.bind fun reason =>
    server.logger.log? .error
      [("request_id", .text exchange.id), ("path", .text (Bytes.toText path)),
        ("panic", .text reason)]
      "http_panic"
  let access := server.logger.log? (accessLevel path status)
    [("request_id", .text exchange.id),
     ("method", .text exchange.request.method),
     ("path", .text (Bytes.toText path)),
     ("route", .text reply.route),
     ("status", .number status)]
    "http_request"
  broke.toList ++ access.toList

/-- Deals with a request, which is given a fresh name if it brings none. -/
def Server.serve
    (server : Server)
    (state : State)
    (fresh : String)
    (request : Request) :
    Response × List Log.Entry :=
  let id := requestId fresh request
  let exchange : Exchange := { request, id, headers := Headers.set {} idField id }
  let reply := server.share state exchange
  (reply.response, server.entries exchange reply)

end Wayland.Service
