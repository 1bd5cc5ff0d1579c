import Wayland.Binding.Plan
import Wayland.Text.Case

/-!
Contract: the methods and callbacks of a role.

Owns:
- the accepted spellings of a role, and what a role sends and receives;
- the parameter, the sent value and the received value of every argument;
- the methods that send messages and the callbacks that receive them;
- the declarations of a role package and their first clash.

Does not own: the text of the package.
-/

namespace Wayland.Binding

open Wayland.Model
open Wayland.Wire (Direction Side)

/-! ## Roles -/

/-- The side that a text names, in any case and with white space around it. -/
def sideNamed?
    (text : String) :
    Option Side :=
  let plain := Text.lowerText (Text.trim text)
  [.client, .server].find? (·.text == plain)

/-- A role as it was configured.  Its label is used as written in paths and texts; every label but
the plain name of the client is laid out as the server side. -/
structure Role where
  label : String
deriving DecidableEq, Repr

namespace Role

def isClient
    (role : Role) :
    Bool :=
  role.label == Side.client.text

def isServer
    (role : Role) :
    Bool :=
  role.label == Side.server.text

def sends
    (role : Role) :
    Direction :=
  if role.isClient then Side.client.sends else Side.server.sends

def receives
    (role : Role) :
    Direction :=
  if role.isClient then Side.client.receives else Side.server.receives

end Role

/-! ## Arguments -/

/-- A parameter of a method or callback. -/
structure Parameter where
  name : String
  typeText : String
deriving DecidableEq, Repr

def Parameter.text
    (parameter : Parameter) :
    String :=
  parameter.name ++ " " ++ parameter.typeText

/-- A value that a method sends, made from parameters. -/
inductive SentValue where
  /-- A number; `converted` tells that the parameter has an enumeration type. -/
  | int (name : String) (converted : Bool)
  | uint (name : String) (converted : Bool)
  | fixed (name : String)
  | string (name : String)
  | optionalString (name : String)
  | object (name : String)
  /-- The object of a typed handle. -/
  | handle (name : String)
  | newId
  /-- A new object whose interface and version are parameters. -/
  | dynamicNewId (interface version : String)
  | array (name : String)
  | fd (name : String)
deriving DecidableEq, Repr

def SentValue.text : SentValue → String
  | .int name false => "wire.Int(" ++ name ++ ")"
  | .int name true => "wire.Int(int32(" ++ name ++ "))"
  | .uint name false => "wire.Uint(" ++ name ++ ")"
  | .uint name true => "wire.Uint(uint32(" ++ name ++ "))"
  | .fixed name => "wire.FixedArg(" ++ name ++ ")"
  | .string name => "wire.String(" ++ name ++ ")"
  | .optionalString name => "optString(" ++ name ++ ")"
  | .object name => "session.Ref(" ++ name ++ ")"
  | .handle name => "session.Ref(" ++ name ++ ".Object())"
  | .newId => "wire.NewID(0)"
  | .dynamicNewId interface version =>
      "wire.DynamicNewID(" ++ interface ++ ", " ++ version ++ ", 0)"
  | .array name => "wire.Array(" ++ name ++ ")"
  | .fd name => "wire.FD(" ++ name ++ ")"

/-- A value that a callback gets, read from an incoming message. -/
inductive ReceivedValue where
  /-- A field of the argument at an index, converted to an enumeration type if there is one. -/
  | field (index : Nat) (name : String) (enumeration : Option String)
  /-- A text that may be missing. -/
  | optionalString (index : Nat)
  | object (index : Nat)
  /-- An object as a typed handle. -/
  | handle (index : Nat) (typeName : String)
  /-- A variable that was set before. -/
  | variable (name : String)
deriving DecidableEq, Repr

def ReceivedValue.text : ReceivedValue → String
  | .field index name none => "in.Args[" ++ toString index ++ "]." ++ name
  | .field index name (some typeName) =>
      typeName ++ "(in.Args[" ++ toString index ++ "]." ++ name ++ ")"
  | .optionalString index => "stringPtr(in.Args[" ++ toString index ++ "])"
  | .object index => "in.Object(" ++ toString index ++ ")"
  | .handle index typeName => "as" ++ typeName ++ "(in.Object(" ++ toString index ++ "))"
  | .variable name => name

/-- What a method returns besides an error. -/
inductive Returned where
  | nothing
  /-- The created object. -/
  | object
  /-- The created object as a typed handle. -/
  | handle (typeName : String)
deriving DecidableEq, Repr

def Returned.types : Returned → String
  | .nothing => "error"
  | .object => "(*session.Object, error)"
  | .handle typeName => "(*" ++ typeName ++ ", error)"

def Returned.value? : Returned → Option String
  | .nothing => none
  | .object => some "objs[0]"
  | .handle typeName => some ("as" ++ typeName ++ "(objs[0])")

/-- What one argument adds to a method. -/
structure Outgoing where
  parameters : List Parameter
  values : List SentValue
  returned : Returned := .nothing
deriving DecidableEq, Repr

/-- What one argument adds to a callback. -/
structure Incoming where
  parameter : Parameter
  value : ReceivedValue
  /-- A variable to set before the callbacks are looked at. -/
  preparation : Option (String × ReceivedValue) := none
deriving DecidableEq, Repr

/-- What arguments are typed with: the protocol, the interface they belong to, and the names that
parameters must not have. -/
structure Context where
  protocol : ProtocolPlan
  owner : String
  reserved : List String

namespace Context

def handleType?
    (context : Context)
    (interface : String) :
    Option String :=
  (context.protocol.interface? interface).map (·.typeName)

def enumerationType?
    (context : Context)
    (arg : Arg) :
    Option String :=
  context.protocol.enumerationType? context.owner arg

/-- What an argument adds to the method of its message. -/
def outgoing
    (context : Context)
    (arg : Arg) :
    Outgoing :=
  let name := localName context.reserved arg.name
  match arg.kind with
  | .int =>
      match context.enumerationType? arg with
      | some typeName => ⟨[⟨name, typeName⟩], [.int name true], .nothing⟩
      | none => ⟨[⟨name, "int32"⟩], [.int name false], .nothing⟩
  | .uint =>
      match context.enumerationType? arg with
      | some typeName => ⟨[⟨name, typeName⟩], [.uint name true], .nothing⟩
      | none => ⟨[⟨name, "uint32"⟩], [.uint name false], .nothing⟩
  | .fixed => ⟨[⟨name, "wire.Fixed"⟩], [.fixed name], .nothing⟩
  | .string =>
      if arg.nullable then ⟨[⟨name, "*string"⟩], [.optionalString name], .nothing⟩
      else ⟨[⟨name, "string"⟩], [.string name], .nothing⟩
  | .object =>
      match context.handleType? arg.interface with
      | some typeName => ⟨[⟨name, "*" ++ typeName⟩], [.handle name], .nothing⟩
      | none => ⟨[⟨name, "*session.Object"⟩], [.object name], .nothing⟩
  | .newId =>
      if arg.interface.isEmpty then
        let interface := localName context.reserved (arg.name ++ "_interface")
        let version := localName context.reserved (arg.name ++ "_version")
        ⟨[⟨interface, "string"⟩, ⟨version, "uint32"⟩], [.dynamicNewId interface version], .object⟩
      else
        match context.handleType? arg.interface with
        | some typeName => ⟨[], [.newId], .handle typeName⟩
        | none => ⟨[], [.newId], .object⟩
  | .array => ⟨[⟨name, "[]byte"⟩], [.array name], .nothing⟩
  | .fd => ⟨[⟨name, "int"⟩], [.fd name], .nothing⟩
  | .unassigned _ => ⟨[], [], .nothing⟩

/-- What an argument at an index adds to the callback of its message. -/
def incoming
    (context : Context)
    (arg : Arg)
    (index : Nat) :
    Incoming :=
  let name := localName context.reserved arg.name
  match arg.kind with
  | .int =>
      match context.enumerationType? arg with
      | some typeName => ⟨⟨name, typeName⟩, .field index "Int" (some typeName), none⟩
      | none => ⟨⟨name, "int32"⟩, .field index "Int" none, none⟩
  | .uint =>
      match context.enumerationType? arg with
      | some typeName => ⟨⟨name, typeName⟩, .field index "Uint" (some typeName), none⟩
      | none => ⟨⟨name, "uint32"⟩, .field index "Uint" none, none⟩
  | .fixed => ⟨⟨name, "wire.Fixed"⟩, .field index "Fixed" none, none⟩
  | .string =>
      if arg.nullable then ⟨⟨name, "*string"⟩, .optionalString index, none⟩
      else ⟨⟨name, "string"⟩, .field index "String" none, none⟩
  | .object =>
      match context.handleType? arg.interface with
      | some typeName => ⟨⟨name, "*" ++ typeName⟩, .handle index typeName, none⟩
      | none => ⟨⟨name, "*session.Object"⟩, .object index, none⟩
  | .newId =>
      match context.handleType? arg.interface with
      | some typeName =>
          ⟨⟨name, "*" ++ typeName⟩, .variable name, some (name, .handle index typeName)⟩
      | none => ⟨⟨name, "*session.Object"⟩, .object index, none⟩
  | .array => ⟨⟨name, "[]byte"⟩, .field index "Array" none, none⟩
  | .fd => ⟨⟨name, "int"⟩, .field index "FD" none, none⟩
  | .unassigned _ => ⟨⟨name, ""⟩, .field index "" none, none⟩

end Context

/-- The words and names that tell the layouts of the two sides apart. -/
structure Layout where
  callbacks : String
  setter : String
  field : String
  noun : String
  received : String
deriving DecidableEq, Repr

def Role.layout
    (role : Role) :
    Layout :=
  if role.isClient then ⟨"Listener", "SetListener", "listener", "handle", "event"⟩
  else ⟨"Handler", "SetHandler", "handler", "resource", "request"⟩

/-- A method that sends a message. -/
structure Method where
  message : String
  name : String
  documentation : List String
  parameters : List Parameter
  values : List SentValue
  opcode : String
  returned : Returned
deriving DecidableEq, Repr

/-- A callback that receives a message. -/
structure Callback where
  message : String
  name : String
  documentation : List String
  opcode : String
  arguments : List Incoming
deriving DecidableEq, Repr

/-- An interface in a role package. -/
structure RoleInterface where
  interface : InterfacePlan
  methods : List Method
  callbacks : List Callback
deriving DecidableEq, Repr

/-- A role package. -/
structure RolePlan where
  role : Role
  protocol : ProtocolPlan
  interfaces : List RoleInterface
deriving DecidableEq, Repr

/-- The names that parameters of a protocol's role packages must not have. -/
def ProtocolPlan.reserved
    (protocol : ProtocolPlan) :
    List String :=
  reservedNames protocol.package
    ++ ("optString" :: "stringPtr" :: protocol.interfaces.map (fun interface =>
      "as" ++ interface.typeName))

def ProtocolPlan.context
    (protocol : ProtocolPlan)
    (interface : InterfacePlan) :
    Context :=
  ⟨protocol, interface.name, protocol.reserved⟩

def accessors
    (role : Role)
    (receivesAny : Bool) :
    List String :=
  ["Object", "Version", "Dispatch"] ++ (if receivesAny then [role.layout.setter] else [])

def methodDocumentation
    (role : Role)
    (name : String)
    (message : MessagePlan) :
    List String :=
  let word := if role.isServer then "event" else "request"
  let first :=
    if message.summary.isEmpty then
      name ++ " sends the " ++ message.message.name ++ " " ++ word ++ "."
    else name ++ " sends " ++ message.message.name ++ ": " ++ message.summary ++ "."
  [first]
    ++ (if message.message.destructor then
      ["", "The " ++ role.layout.noun ++ " is destroyed and must not be used afterwards."] else [])
    ++ (if message.message.since > 1 then
      ["", "Available since version " ++ toString message.message.since.toNat ++ "."] else [])

def callbackDocumentation
    (role : Role)
    (message : MessagePlan) :
    List String :=
  let first :=
    if message.summary.isEmpty then
      message.name ++ " is called for the " ++ message.message.name ++ " " ++ role.layout.received
        ++ "."
    else message.name ++ " is called for " ++ message.message.name ++ ": " ++ message.summary ++ "."
  [first]
    ++ (if message.message.destructor then
      ["The " ++ role.layout.noun ++ " is already destroyed when it runs."] else [])

/-- The method of a message.  A message named like an accessor leaves that name free. -/
def planMethod
    (role : Role)
    (context : Context)
    (receivesAny : Bool)
    (message : MessagePlan) :
    Method :=
  let parts := message.message.args.map context.outgoing
  let name :=
    if (accessors role receivesAny).contains message.name then message.name ++ "Msg"
    else message.name
  { message := message.message.name
    name
    documentation := methodDocumentation role name message
    parameters := parts.flatMap (·.parameters)
    values := parts.flatMap (·.values)
    opcode := context.protocol.package ++ "." ++ message.opcodeName
    returned :=
      ((parts.map (·.returned)).filter (· ≠ .nothing)).getLast?.getD .nothing }

def planCallback
    (role : Role)
    (context : Context)
    (message : MessagePlan) :
    Callback :=
  { message := message.message.name
    name := message.name
    documentation := callbackDocumentation role message
    opcode := context.protocol.package ++ "." ++ message.opcodeName
    arguments := message.message.args.zipIdx.map fun (arg, index) => context.incoming arg index }

def planRoleInterface
    (protocol : ProtocolPlan)
    (role : Role)
    (interface : InterfacePlan) :
    RoleInterface :=
  let context := protocol.context interface
  let received := interface.messages role.receives
  { interface
    methods := (interface.messages role.sends).map
      (planMethod role context (!received.isEmpty))
    callbacks := received.map (planCallback role context) }

def planRole
    (protocol : ProtocolPlan)
    (role : Role) :
    RolePlan :=
  ⟨role, protocol, protocol.interfaces.map (planRoleInterface protocol role)⟩

def roleInterfaceDeclarations
    (role : Role)
    (plan : RoleInterface) :
    List Declaration :=
  let name := plan.interface.name
  let typeName := plan.interface.typeName
  [⟨typeName, (if role.isServer then "resource" else "handle") ++ " of " ++ name⟩]
    ++ (if plan.callbacks.isEmpty then []
      else [⟨typeName ++ role.layout.callbacks, "callbacks of " ++ name⟩])
    ++ [⟨"as" ++ typeName, "wrapper of " ++ name⟩,
      ⟨typeName ++ "FromObject", "conversion of " ++ name⟩,
      ⟨"Bind" ++ typeName, "binding of " ++ name⟩]

def RolePlan.declarations
    (plan : RolePlan) :
    List Declaration :=
  ⟨"optString", "helper"⟩ :: ⟨"stringPtr", "helper"⟩
    :: plan.interfaces.flatMap (roleInterfaceDeclarations plan.role)

/-- The first clash among the callbacks, then among the methods, of an interface. -/
def RoleInterface.clash?
    (plan : RoleInterface) :
    Option Problem :=
  let callbacks := plan.callbacks.map fun callback =>
    (⟨callback.name, "message " ++ callback.message⟩ : Declaration)
  let methods := plan.methods.map fun method =>
    (⟨method.name, "message " ++ method.message⟩ : Declaration)
  (Binding.clash? callbacks).orElse fun _ => Binding.clash? methods

/-- The first clash of a role package, with the interface it is in. -/
def RolePlan.clash?
    (plan : RolePlan) :
    Option Error :=
  let inner := plan.interfaces.findSome? fun interface =>
    interface.clash?.map fun problem => (⟨[interface.interface.name], problem⟩ : Error)
  inner.orElse fun _ => (Binding.clash? plan.declarations).map fun problem => ⟨[], problem⟩

end Wayland.Binding
