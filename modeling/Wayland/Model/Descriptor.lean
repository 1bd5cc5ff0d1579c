import Wayland.Model.Basic

/-!
Contract: run-time descriptors of a model.

Owns: the signature of a message, the descriptor of an interface, and the descriptors of a protocol
in document order.

Does not own: generated code that carries the same table as text.
-/

namespace Wayland.Model

open Wayland

def Arg.slot
    (arg : Arg) :
    Wire.Slot :=
  ⟨arg.name, arg.kind, arg.nullable, arg.interface⟩

def Message.signature
    (message : Message) :
    Wire.Signature :=
  ⟨message.name, message.since, message.destructor, message.args.map Arg.slot⟩

def Interface.descriptor
    (interface : Interface) :
    Wire.Interface :=
  ⟨interface.name, interface.version, interface.requests.map Message.signature,
    interface.events.map Message.signature⟩

def Protocol.descriptors
    (protocol : Protocol) :
    List Wire.Interface :=
  protocol.interfaces.map Interface.descriptor

end Wayland.Model
