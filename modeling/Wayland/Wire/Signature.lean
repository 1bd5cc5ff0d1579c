import Wayland.Wire.Kind

/-!
Contract: the run-time descriptors of interfaces.

Owns: argument slots, message signatures, interface descriptors and lookup by opcode, and the two
sides of a connection.

Does not own: how descriptors arise from a protocol document, or how messages are laid out.
-/

namespace Wayland.Wire

/-- One positional argument of a message.  For `object` and `newId` an empty interface leaves the
interface open; an open `newId` carries its interface inside the message. -/
structure Slot where
  name : String
  kind : Kind
  nullable : Bool := false
  interface : String := ""
deriving DecidableEq, Repr

/-- Whether a slot creates an object whose interface is named in the message. -/
def Slot.isDynamic
    (slot : Slot) :
    Bool :=
  slot.kind == .newId && slot.interface == ""

/-- A request or an event.  Its position in the owning list is its opcode. -/
structure Signature where
  name : String
  since : UInt32 := 0
  destructor : Bool := false
  slots : List Slot := []
deriving DecidableEq, Repr

/-- The side of an interface a message belongs to. -/
inductive Direction where
  | request
  | event
deriving DecidableEq, Repr

/-- The two sides of a connection. -/
inductive Side where
  | client
  | server
deriving DecidableEq, Repr

namespace Side

def text : Side → String
  | .client => "client"
  | .server => "server"

def peer : Side → Side
  | .client => .server
  | .server => .client

def sends : Side → Direction
  | .client => .request
  | .server => .event

def receives
    (side : Side) :
    Direction :=
  side.peer.sends

end Side

/-- The descriptor of an interface, shared by both peers. -/
structure Interface where
  name : String
  version : UInt32
  requests : List Signature := []
  events : List Signature := []
deriving DecidableEq, Repr

namespace Interface

/-- The messages of one direction, by opcode. -/
def messages
    (interface : Interface) :
    Direction → List Signature
  | .request => interface.requests
  | .event => interface.events

def message?
    (interface : Interface)
    (direction : Direction)
    (opcode : UInt16) :
    Option Signature :=
  (interface.messages direction)[opcode.toNat]?

/-- The printed form `name@version`. -/
def text
    (interface : Interface) :
    String :=
  interface.name ++ "@" ++ toString interface.version.toNat

/-- The printed form of an interface that may be missing. -/
def optionText : Option Interface → String
  | some interface => interface.text
  | none => "<nil>"

end Interface

end Wayland.Wire
