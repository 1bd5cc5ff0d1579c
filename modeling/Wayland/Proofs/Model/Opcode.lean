import Wayland.Binding.Plan
import Wayland.Model.Descriptor

/-!
Contract: one number for a message everywhere.

Owns:
- interfaces whose messages carry their positions as opcodes, few enough for the width of opcodes;
- that descriptors and the plans of generated packages then use the same opcodes.

Does not own: that documents which are read give such interfaces.
-/

namespace Wayland.Model

open Wayland.Wire (Direction)

/-- Messages that carry their positions, and of which there are no more than opcodes. -/
structure Positioned (messages : List Message) : Prop where
  length_le : messages.length ≤ 0x10000
  opcode_eq :
    ∀ (position : Nat) (message : Message), messages[position]? = some message →
      message.opcode = UInt16.ofNat position

/-- What holds of a message at a position in every place that counts messages. -/
structure Interface.NumberedAt
    (interface : Interface)
    (direction : Direction)
    (position : Nat)
    (message : Message) : Prop where
  opcode : message.opcode.toNat = position
  described :
    interface.descriptor.message? direction (UInt16.ofNat position) =
      some {
        name := message.name
        since := message.since
        destructor := message.destructor
        slots := message.args.map fun arg => ⟨arg.name, arg.kind, arg.nullable, arg.interface⟩ }
  planned :
    ∃ plan : Binding.MessagePlan,
      ((Binding.planInterface interface).messages direction)[position]? = some plan ∧
        plan.message = message ∧ plan.opcode.toNat = position ∧
          plan.opcodeName =
            Binding.exportedName interface.name ++ Binding.directionLabel direction ++
              Binding.exportedName message.name ++ "Opcode"

/-- Every place that counts the messages of a direction gives them the same opcodes, and gives no
other opcodes. -/
structure Interface.Numbered
    (interface : Interface)
    (direction : Direction) : Prop where
  length_le : (interface.messages direction).length ≤ 0x10000
  at_position :
    ∀ (position : Nat) (message : Message),
      (interface.messages direction)[position]? = some message →
        interface.NumberedAt direction position message
  past_end :
    ∀ opcode : UInt16, (interface.messages direction).length ≤ opcode.toNat →
      interface.descriptor.message? direction opcode = none

variable {interface : Interface} {direction : Direction} {messages : List Message}

theorem messages_descriptor
    (interface : Interface)
    (direction : Direction) :
    interface.descriptor.messages direction =
      (interface.messages direction).map Message.signature := by
  cases direction <;> rfl

theorem messages_planInterface
    (interface : Interface)
    (direction : Direction) :
    (Binding.planInterface interface).messages direction =
      (interface.messages direction).zipIdx.map fun (message, position) =>
        Binding.planMessage (Binding.exportedName interface.name) direction message position := by
  cases direction <;> rfl

theorem message?_descriptor
    (interface : Interface)
    (direction : Direction)
    (opcode : UInt16) :
    interface.descriptor.message? direction opcode =
      ((interface.messages direction)[opcode.toNat]?).map Message.signature := by
  rw [Wire.Interface.message?, messages_descriptor, List.getElem?_map]

/-- A position among no more messages than opcodes is an opcode. -/
theorem toNat_ofNat_position
    {position : Nat}
    {message : Message}
    (few : messages.length ≤ 0x10000)
    (found : messages[position]? = some message) :
    (UInt16.ofNat position).toNat = position := by
  have inside : position < messages.length := (List.getElem?_eq_some_iff.mp found).1
  exact UInt16.toNat_ofNat_of_lt' (Nat.lt_of_lt_of_le inside few)

theorem Positioned.numbered
    (positioned : Positioned (interface.messages direction)) :
    interface.Numbered direction where
  length_le := positioned.length_le
  at_position := by
    intro position message found
    have exact := toNat_ofNat_position positioned.length_le found
    refine ⟨?_, ?_, ?_⟩
    · rw [positioned.opcode_eq position message found, exact]
    · rw [message?_descriptor, exact, found]
      rfl
    · refine ⟨Binding.planMessage (Binding.exportedName interface.name) direction message position,
        ?_, rfl, exact, rfl⟩
      rw [messages_planInterface, List.getElem?_map, List.getElem?_zipIdx, found]
      simp
  past_end := by
    intro opcode beyond
    rw [message?_descriptor, List.getElem?_eq_none beyond]
    rfl

end Wayland.Model
