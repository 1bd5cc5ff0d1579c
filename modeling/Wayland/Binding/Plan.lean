import Wayland.Binding.Error
import Wayland.Binding.Name
import Wayland.Model.Basic
import Wayland.Text.Number

/-!
Contract: what the shared package of a protocol declares.

Owns:
- the Go names of interfaces, messages, enumerations and entries;
- the descriptor table as Go constants name it;
- the first clash of two declared names.

Does not own: the text of the package, or the packages of the roles.
-/

namespace Wayland.Binding

open Wayland.Model

/-- An identifier and what it is declared for. -/
structure Declaration where
  name : String
  purpose : String
deriving DecidableEq, Repr

/-- The first declaration of a name that is already declared, as a problem. -/
def clashAfter?
    (earlier : List Declaration) :
    List Declaration → Option Problem
  | [] => none
  | next :: rest =>
      match earlier.find? (·.name == next.name) with
      | some first => some (.nameCollision next.name first.purpose next.purpose)
      | none => clashAfter? (next :: earlier) rest

def clash?
    (declarations : List Declaration) :
    Option Problem :=
  clashAfter? [] declarations

def kindConstant? : Wire.Kind → Option String
  | .int => some "wire.KindInt"
  | .uint => some "wire.KindUint"
  | .fixed => some "wire.KindFixed"
  | .string => some "wire.KindString"
  | .object => some "wire.KindObject"
  | .newId => some "wire.KindNewID"
  | .array => some "wire.KindArray"
  | .fd => some "wire.KindFD"
  | .unassigned _ => none

/-- A row of the descriptor table for one argument. -/
structure SlotPlan where
  name : String
  kind : Option String
  nullable : Bool
  interface : String
deriving DecidableEq, Repr

/-- A message with its constants. -/
structure MessagePlan where
  message : Message
  name : String
  opcode : UInt16
  opcodeName : String
  sinceName : String
  summary : String
  slots : List SlotPlan
deriving DecidableEq, Repr

/-- An entry with its constant. -/
structure EntryPlan where
  name : String
  constant : String
  number : UInt32
  value : String
  summary : String
deriving DecidableEq, Repr

/-- An enumeration with its type. -/
structure EnumerationPlan where
  name : String
  typeName : String
  summary : String
  bitfield : Bool
  entries : List EntryPlan
deriving DecidableEq, Repr

/-- An interface with its names. -/
structure InterfacePlan where
  name : String
  typeName : String
  version : UInt32
  summary : String
  requests : List MessagePlan
  events : List MessagePlan
  enumerations : List EnumerationPlan
deriving DecidableEq, Repr

/-- The shared package of a protocol. -/
structure ProtocolPlan where
  name : String
  package : String
  summary : String
  interfaces : List InterfacePlan
deriving DecidableEq, Repr

def InterfacePlan.descriptorName
    (interface : InterfacePlan) :
    String :=
  interface.typeName ++ "Interface"

def InterfacePlan.messages
    (interface : InterfacePlan) :
    Wire.Direction → List MessagePlan
  | .request => interface.requests
  | .event => interface.events

/-- The first entry of every value, in order. -/
def EnumerationPlan.distinct
    (enumeration : EnumerationPlan) :
    List EntryPlan :=
  (enumeration.entries.foldl
    (fun (kept : List EntryPlan) entry =>
      if kept.any (·.number == entry.number) then kept else entry :: kept)
    []).reverse

def ProtocolPlan.hasEnumerations
    (protocol : ProtocolPlan) :
    Bool :=
  protocol.interfaces.any (!·.enumerations.isEmpty)

def ProtocolPlan.hasBitfields
    (protocol : ProtocolPlan) :
    Bool :=
  protocol.interfaces.any (·.enumerations.any (·.bitfield))

def directionLabel : Wire.Direction → String
  | .request => "Request"
  | .event => "Event"

def planSlot
    (arg : Arg) :
    SlotPlan :=
  ⟨arg.name, (Wire.Kind.ofName? arg.typeName).bind kindConstant?, arg.nullable, arg.interface⟩

def planMessage
    (owner : String)
    (direction : Wire.Direction)
    (message : Message)
    (position : Nat) :
    MessagePlan :=
  let name := exportedName message.name
  let stem := owner ++ directionLabel direction ++ name
  { message
    name
    opcode := UInt16.ofNat position
    opcodeName := stem ++ "Opcode"
    sinceName := stem ++ "SinceVersion"
    summary := sentence message.description.summary
    slots := message.args.map planSlot }

def planEnumeration
    (owner : String)
    (enumeration : Enumeration) :
    EnumerationPlan :=
  let typeName := owner ++ exportedName enumeration.name
  { name := enumeration.name
    typeName
    summary := sentence enumeration.description.summary
    bitfield := enumeration.bitfield
    entries := enumeration.entries.map fun entry =>
      { name := entry.name
        constant := typeName ++ exportedName entry.name
        number := entry.value
        value := Text.writeUInt32 enumeration.bitfield entry.value
        summary := sentence entry.summary } }

def planInterface
    (interface : Interface) :
    InterfacePlan :=
  let typeName := exportedName interface.name
  let messages (direction : Wire.Direction) : List MessagePlan :=
    (interface.messages direction).zipIdx.map fun (message, position) =>
      planMessage typeName direction message position
  { name := interface.name
    typeName
    version := interface.version
    summary := Text.capitalize (sentence interface.description.summary)
    requests := messages .request
    events := messages .event
    enumerations := interface.enumerations.map (planEnumeration typeName) }

def planProtocol
    (protocol : Protocol) :
    ProtocolPlan :=
  { name := protocol.name
    package := packageName protocol.name
    summary := Text.capitalize (sentence protocol.description.summary)
    interfaces := protocol.interfaces.map planInterface }

def messageDeclarations
    (interface : InterfacePlan)
    (direction : Wire.Direction) :
    List Declaration :=
  (interface.messages direction).flatMap fun message =>
    let purpose := directionLabel direction ++ " " ++ interface.name ++ "." ++ message.message.name
    [⟨message.opcodeName, purpose⟩, ⟨message.sinceName, purpose⟩]

def enumerationDeclarations
    (interface : InterfacePlan)
    (enumeration : EnumerationPlan) :
    List Declaration :=
  let path := interface.name ++ "." ++ enumeration.name
  ⟨enumeration.typeName, "enum " ++ path⟩
    :: enumeration.entries.map fun entry => ⟨entry.constant, "entry " ++ path ++ "." ++ entry.name⟩

def interfaceDeclarations
    (interface : InterfacePlan) :
    List Declaration :=
  ⟨interface.descriptorName, "descriptor of " ++ interface.name⟩
    :: (messageDeclarations interface .request ++ messageDeclarations interface .event
      ++ interface.enumerations.flatMap (enumerationDeclarations interface))

def ProtocolPlan.declarations
    (protocol : ProtocolPlan) :
    List Declaration :=
  ⟨"Interfaces", "descriptor list"⟩ :: ⟨"formatBits", "helper"⟩
    :: protocol.interfaces.flatMap interfaceDeclarations

/-- The interface with a name; of several, the last one counts. -/
def ProtocolPlan.interface?
    (protocol : ProtocolPlan)
    (name : String) :
    Option InterfacePlan :=
  protocol.interfaces.reverse.find? (·.name == name)

/-- The enumerations by their qualified names, in order. -/
def ProtocolPlan.qualifiedEnumerations
    (protocol : ProtocolPlan) :
    List (String × EnumerationPlan) :=
  protocol.interfaces.flatMap fun interface =>
    interface.enumerations.map fun enumeration =>
      (interface.name ++ "." ++ enumeration.name, enumeration)

/-- The type of an argument that refers to an enumeration of the same document. -/
def ProtocolPlan.enumerationType?
    (protocol : ProtocolPlan)
    (owner : String)
    (arg : Arg) :
    Option String :=
  if arg.enumeration.isEmpty then none
  else
    let (interface, name) := arg.enumerationRef
    let qualified := (if interface.isEmpty then owner else interface) ++ "." ++ name
    (protocol.qualifiedEnumerations.reverse.lookup qualified).map fun enumeration =>
      protocol.package ++ "." ++ enumeration.typeName

end Wayland.Binding
