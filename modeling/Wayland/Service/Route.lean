import Wayland.Service.Message

/-!
Contract: which endpoint answers a request.

Owns: path templates and what their variables capture, the routes of the service, and the choice
among them.

Does not own: what an endpoint answers.
-/

namespace Wayland.Service

open Wayland.Text (Bytes)

/-- A component of a path template. -/
inductive Segment where
  | literal (text : String)
  | capture (name : String)
deriving DecidableEq, Repr

/-- A path template. -/
structure Template where
  segments : List Segment
deriving DecidableEq, Repr

/-- What the variables of a template stand for. -/
structure Captures where
  bindings : List (String × Bytes) := []
deriving DecidableEq, Repr

/-- What a variable stands for; empty if there is no such variable. -/
def Captures.value
    (captures : Captures)
    (name : String) :
    Bytes :=
  (captures.bindings.lookup name).getD []

def Segment.text : Segment → String
  | .literal text => text
  | .capture name => "\x7b" ++ name ++ "\x7d"

namespace Template

def text
    (template : Template) :
    String :=
  String.join (template.segments.map fun segment => "/" ++ segment.text)

/-- Compares segments with path components one by one.  A variable stands for one component that is
not empty. -/
def captureAll : List Segment → List Bytes → Option (List (String × Bytes))
  | [], [] => some []
  | .literal text :: segments, component :: rest =>
      if component = Bytes.ofText text then captureAll segments rest else none
  | .capture name :: segments, component :: rest =>
      if component = [] then none
      else (captureAll segments rest).map ((name, component) :: ·)
  | _, _ => none

/-- What the variables of a template stand for in a path, if the path has the form of the template.
-/
def captures?
    (template : Template)
    (path : Bytes) :
    Option Captures :=
  match components path with
  | [] :: rest => (captureAll template.segments rest).map Captures.mk
  | _ => none

end Template

/-- What answers a request. -/
inductive Endpoint where
  | health
  | collections
  | collection
  | protocols
  | protocol
  | interface
  | metrics
  /-- An endpoint that breaks off whenever it is reached. -/
  | broken (reason : String)
deriving DecidableEq, Repr

/-- A route: requests for paths of the template are answered by the endpoint, if their method is
among those given; without any given, every method is. -/
structure Route where
  template : Template
  methods? : Option (List String) := some ["GET"]
  endpoint : Endpoint
deriving DecidableEq, Repr

def Route.takes
    (route : Route)
    (method : String) :
    Bool :=
  route.methods?.all (·.contains method)

/-- Where a request leads. -/
inductive Destination where
  | found (route : Route) (captures : Captures)
  | wrongMethod
  | unknown
deriving DecidableEq, Repr

/-- The first route that has the path of a request and takes its method.  If some routes have the
path but none takes the method, that is what is wrong. -/
def destination
    (method : String)
    (path : Bytes) :
    List Route → Destination
  | [] => .unknown
  | route :: routes =>
      match route.template.captures? path with
      | none => destination method path routes
      | some captures =>
          if route.takes method then .found route captures
          else
            match destination method path routes with
            | .unknown => .wrongMethod
            | other => other

def catalogRoutes : List Route :=
  let version : Segment := .literal "v1"
  let name : Segment := .capture "name"
  let collections := [version, .literal "collections"]
  let protocols := [version, .literal "protocols"]
  [{ template := ⟨[.literal "healthz"]⟩, methods? := some ["GET", "HEAD"], endpoint := .health },
   { template := ⟨collections⟩, endpoint := .collections },
   { template := ⟨collections ++ [name]⟩, endpoint := .collection },
   { template := ⟨protocols⟩, endpoint := .protocols },
   { template := ⟨protocols ++ [name]⟩, endpoint := .protocol },
   { template := ⟨protocols ++ [name, .literal "interfaces", .capture "iface"]⟩
     endpoint := .interface }]

def metricsRoute : Route :=
  { template := ⟨[.literal "metrics"]⟩, endpoint := .metrics }

end Wayland.Service
