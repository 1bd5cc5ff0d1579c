import Wayland.Wire.Signature

/-!
Contract: the model of a protocol document.

Owns: protocols, interfaces, messages, arguments, enumerations and their documentation, and lookup
by name.

Does not own: how a model is read, checked, printed or compiled.
-/

namespace Wayland.Model

open Wayland.Wire (Kind Direction)

/-- Documentation attached to a node. -/
structure Description where
  summary : String := ""
  text : String := ""
deriving DecidableEq, Repr, Inhabited

/-- Whether no documentation is attached. -/
def Description.isEmpty
    (description : Description) :
    Bool :=
  description.summary.isEmpty && description.text.isEmpty

/-- One positional argument of a message.  The type is kept as it was written; a type without a
kind is possible in a model that was not read from a document. -/
structure Arg where
  name : String := ""
  typeName : String := ""
  nullable : Bool := false
  interface : String := ""
  enumeration : String := ""
  summary : String := ""
  description : Description := {}
deriving DecidableEq, Repr, Inhabited

/-- A request or an event. -/
structure Message where
  name : String := ""
  opcode : UInt16 := 0
  since : UInt32 := 0
  deprecatedSince : UInt32 := 0
  destructor : Bool := false
  description : Description := {}
  args : List Arg := []
deriving DecidableEq, Repr, Inhabited

/-- One label of an enumeration. -/
structure Entry where
  name : String := ""
  value : UInt32 := 0
  since : UInt32 := 0
  deprecatedSince : UInt32 := 0
  summary : String := ""
  description : Description := {}
deriving DecidableEq, Repr, Inhabited

/-- A named set of integer constants.  A list of entries that was never written is told apart from
an empty one. -/
structure Enumeration where
  name : String := ""
  since : UInt32 := 0
  bitfield : Bool := false
  description : Description := {}
  entries? : Option (List Entry) := none
deriving DecidableEq, Repr, Inhabited

/-- A named, versioned object type. -/
structure Interface where
  name : String := ""
  version : UInt32 := 0
  frozen : Bool := false
  description : Description := {}
  requests : List Message := []
  events : List Message := []
  enumerations : List Enumeration := []
deriving DecidableEq, Repr, Inhabited

/-- One protocol document. -/
structure Protocol where
  name : String := ""
  document : String := ""
  copyright : String := ""
  description : Description := {}
  interfaces : List Interface := []
deriving DecidableEq, Repr, Inhabited

namespace Arg

/-- The encoding class of an argument type; code 0 stands for a type that has none. -/
def kind
    (arg : Arg) :
    Kind :=
  (Kind.ofName? arg.typeName).getD (Kind.ofCode 0)

/-- Splits a text at its last dot: what stands before it and what stands after it. -/
def splitLastDot
    (chars : List Char) :
    Option (List Char × List Char) :=
  let name := (chars.reverse.takeWhile (· != '.')).reverse
  match chars.reverse.dropWhile (· != '.') with
  | [] => none
  | _ :: owner => some (owner.reverse, name)

/-- The interface and the name an enumeration reference stands for; an unqualified reference has an
empty interface. -/
def enumerationRef
    (arg : Arg) :
    String × String :=
  match splitLastDot arg.enumeration.toList with
  | some (owner, name) => (String.ofList owner, String.ofList name)
  | none => ("", arg.enumeration)

end Arg

/-- The arguments of a message that create objects, in order. -/
def Message.newIds
    (message : Message) :
    List Arg :=
  message.args.filter (·.kind == .newId)

def Enumeration.entries
    (enumeration : Enumeration) :
    List Entry :=
  enumeration.entries?.getD []

namespace Interface

/-- The messages of one direction, in opcode order. -/
def messages
    (interface : Interface) :
    Direction → List Message
  | .request => interface.requests
  | .event => interface.events

/-- The first message of a direction with the given name. -/
def message?
    (interface : Interface)
    (direction : Direction)
    (name : String) :
    Option Message :=
  (interface.messages direction).find? (·.name == name)

/-- The first enumeration with the given name. -/
def enumeration?
    (interface : Interface)
    (name : String) :
    Option Enumeration :=
  interface.enumerations.find? (·.name == name)

/-- The first destructor of a direction. -/
def destructor?
    (interface : Interface)
    (direction : Direction) :
    Option Message :=
  (interface.messages direction).find? (·.destructor)

end Interface

/-- The first interface with the given name. -/
def Protocol.interface?
    (protocol : Protocol)
    (name : String) :
    Option Interface :=
  protocol.interfaces.find? (·.name == name)

def directionWord : Direction → String
  | .request => "request"
  | .event => "event"

end Wayland.Model
