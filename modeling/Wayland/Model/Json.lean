import Wayland.Json.Value
import Wayland.Model.Basic

/-!
Contract: the JSON form of a model.

Owns: member names, their order, and which members are left out when empty.

Does not own: the text of a JSON value.
-/

namespace Wayland.Model

open Wayland.Json (Value)

def Description.json
    (description : Description) :
    Value :=
  .ofOptions [
    ("summary", Value.nonEmpty description.summary),
    ("text", Value.nonEmpty description.text)]

def Arg.json
    (arg : Arg) :
    Value :=
  .ofOptions [
    ("name", some (.text arg.name)),
    ("type", some (.text arg.typeName)),
    ("allow_null", Value.whenTrue arg.nullable),
    ("interface", Value.nonEmpty arg.interface),
    ("enum", Value.nonEmpty arg.enumeration),
    ("summary", Value.nonEmpty arg.summary),
    ("description", some arg.description.json)]

def Message.json
    (message : Message) :
    Value :=
  .ofOptions [
    ("name", some (.text message.name)),
    ("opcode", some (.number message.opcode.toNat)),
    ("since", some (.number message.since.toNat)),
    ("deprecated_since", Value.nonZero message.deprecatedSince.toNat),
    ("destructor", Value.whenTrue message.destructor),
    ("description", some message.description.json),
    ("args", Value.nonEmptyList (message.args.map Arg.json))]

def Entry.json
    (entry : Entry) :
    Value :=
  .ofOptions [
    ("name", some (.text entry.name)),
    ("value", some (.number entry.value.toNat)),
    ("since", some (.number entry.since.toNat)),
    ("deprecated_since", Value.nonZero entry.deprecatedSince.toNat),
    ("summary", Value.nonEmpty entry.summary),
    ("description", some entry.description.json)]

/-- The JSON form of an enumeration; a list of entries that was never written is null. -/
def Enumeration.json
    (enumeration : Enumeration) :
    Value :=
  .ofOptions [
    ("name", some (.text enumeration.name)),
    ("since", some (.number enumeration.since.toNat)),
    ("bitfield", Value.whenTrue enumeration.bitfield),
    ("description", some enumeration.description.json),
    ("entries", some (match enumeration.entries? with
      | some entries => .list (entries.map Entry.json)
      | none => .null))]

def Interface.json
    (interface : Interface) :
    Value :=
  .ofOptions [
    ("name", some (.text interface.name)),
    ("version", some (.number interface.version.toNat)),
    ("frozen", Value.whenTrue interface.frozen),
    ("description", some interface.description.json),
    ("requests", Value.nonEmptyList (interface.requests.map Message.json)),
    ("events", Value.nonEmptyList (interface.events.map Message.json)),
    ("enums", Value.nonEmptyList (interface.enumerations.map Enumeration.json))]

def Protocol.json
    (protocol : Protocol) :
    Value :=
  .ofOptions [
    ("name", some (.text protocol.name)),
    ("document", Value.nonEmpty protocol.document),
    ("copyright", Value.nonEmpty protocol.copyright),
    ("description", some protocol.description.json),
    ("interfaces", some (.list (protocol.interfaces.map Interface.json)))]

end Wayland.Model
