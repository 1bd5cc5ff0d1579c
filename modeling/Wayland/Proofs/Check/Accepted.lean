import Wayland.Proofs.Check.Exact
import Wayland.Proofs.Model.Opcode

/-!
Contract: what a batch that is accepted can be relied on for.

Owns:
- interfaces whose messages are introduced in the order of their opcodes, and that every checked
  interface is one;
- the interface that is left of one at a version, whose messages keep their opcodes;
- how the names of a protocol's nodes are spelled, and that a name stands for one thing;
- that every reference to an enumeration is resolved.

Does not own: the rules, the reports on them, and how sessions select messages.
-/

namespace Wayland.Wire

/-! ## Versions -/

/-- The interface with only the messages that are there at a version. -/
def Interface.upTo
    (interface : Interface)
    (version : UInt32) :
    Interface :=
  { interface with
    requests := interface.requests.filter (·.since ≤ version)
    events := interface.events.filter (·.since ≤ version) }

/-- No message is introduced before one with a smaller opcode. -/
def Interface.Gradual
    (interface : Interface) : Prop :=
  ∀ direction, (interface.messages direction).Pairwise fun earlier later =>
    earlier.since ≤ later.since

section Selecting

variable {interface : Interface} {messages : List Signature} {direction : Direction}

theorem messages_upTo
    (interface : Interface)
    (version : UInt32)
    (direction : Direction) :
    (interface.upTo version).messages direction =
      (interface.messages direction).filter (·.since ≤ version) := by
  cases direction <;> rfl

theorem getElem?_filter_since
    (gradual : messages.Pairwise fun earlier later => earlier.since ≤ later.since)
    (version : UInt32)
    (position : Nat) :
    (messages.filter (·.since ≤ version))[position]? =
      (messages[position]?).filter (·.since ≤ version) := by
  induction messages generalizing position with
  | nil => rfl
  | cons first rest inductionHypothesis =>
      obtain ⟨firstLe, restGradual⟩ := List.pairwise_cons.mp gradual
      by_cases available : first.since ≤ version
      · rw [List.filter_cons_of_pos (by simpa using available)]
        cases position with
        | zero => simp [Option.filter, available]
        | succ position => exact inductionHypothesis restGradual position
      · -- Behind the first message that is not there, none is.
        have noneAvailable : ∀ signature ∈ first :: rest, ¬signature.since ≤ version := by
          intro signature member signatureLe
          rcases List.mem_cons.mp member with rfl | later
          · exact available signatureLe
          · exact available (UInt32.le_trans (firstLe signature later) signatureLe)
        have nothing : (first :: rest).filter (·.since ≤ version) = [] := by
          rw [List.filter_eq_nil_iff]
          simpa using noneAvailable
        rw [nothing, List.getElem?_nil, eq_comm, Option.filter_eq_none_iff]
        intro signature found
        simpa using noneAvailable signature (List.mem_of_getElem? found)

/-- A message that is there keeps its opcode, and nothing else takes one. -/
theorem Interface.Gradual.message?_upTo
    (gradual : interface.Gradual)
    (version : UInt32)
    (direction : Direction)
    (opcode : UInt16) :
    (interface.upTo version).message? direction opcode =
      (interface.message? direction opcode).filter (·.since ≤ version) := by
  rw [Interface.message?, messages_upTo]
  exact getElem?_filter_since (gradual direction) version opcode.toNat

theorem Interface.Gradual.exists_bound
    (gradual : interface.Gradual)
    (version : UInt32)
    (direction : Direction) :
    ∃ bound, ∀ (position : Nat) (signature : Signature),
      (interface.messages direction)[position]? = some signature →
        (signature.since ≤ version ↔ position < bound) := by
  refine ⟨((interface.messages direction).filter (·.since ≤ version)).length, ?_⟩
  intro position signature found
  have kept := getElem?_filter_since (gradual direction) version position
  rw [found] at kept
  by_cases available : signature.since ≤ version
  · rw [Option.filter_some_pos (by simpa using available)] at kept
    exact iff_of_true available (List.getElem?_eq_some_iff.mp kept).1
  · rw [Option.filter_some_neg (by simpa using available)] at kept
    exact iff_of_false available (Nat.not_lt.mpr (List.getElem?_eq_none_iff.mp kept))

end Selecting

end Wayland.Wire

namespace Wayland.Check

open Wayland.Model

theorem pairwise_of_occurrences
    {α : Type}
    {relation : α → α → Prop}
    {list : List α}
    (each : ∀ occurrence : Occurrence α, occurrence.In list →
      ∀ other ∈ occurrence.earlier, relation other occurrence.item) :
    list.Pairwise relation := by
  rw [List.pairwise_iff_getElem]
  intro first second firstLt secondLt isEarlier
  have secondIn : Occurrence.In ⟨list.take second, list[second]⟩ list := by
    have split := Occurrence.in_append (list.take second) (list.drop (second + 1)) list[second]
    rwa [List.getElem_cons_drop, List.take_append_drop] at split
  exact each _ secondIn _ (List.mem_take_iff_getElem.mpr ⟨first, by omega, rfl⟩)

/-- A checked interface introduces its messages in the order of their opcodes. -/
theorem gradual_of_check
    {batch : Batch}
    {protocol : Protocol}
    {interface : Interface}
    (accepted : check batch = .ok ())
    (checked : protocol ∈ batch.protocols)
    (member : interface ∈ protocol.interfaces) :
    interface.descriptor.Gradual := by
  intro direction
  rw [messages_descriptor, List.pairwise_map]
  refine pairwise_of_occurrences ?_
  intro message messageIn other earlier
  by_contra decreasing
  exact not_messageBreaks_of_check accepted checked member messageIn .sinceDecreasing
    ⟨other, earlier, UInt32.not_le.mp decreasing⟩

/-! ## Interfaces over a batch -/

section Checked

variable {batch : Batch} {protocol : Protocol} {interface : Interface}

/-- No enumeration of a checked protocol breaks a rule. -/
theorem not_enumerationBreaks_of_check
    (accepted : check batch = .ok ())
    (checked : protocol ∈ batch.protocols)
    (member : interface ∈ protocol.interfaces)
    {enumeration : Occurrence Enumeration}
    (enumerationIn : enumeration.In interface.enumerations)
    (rule : Rule) :
    ¬EnumerationBreaks interface.version enumeration rule := by
  obtain ⟨documents, documentIn, isChecked⟩ := exists_checked_document checked
  obtain ⟨interfaces, interfaceIn⟩ := exists_occurrence member
  intro breaks
  exact not_offends_of_check accepted
    (.enumeration ⟨documents, protocol⟩ ⟨interfaces, interface⟩ enumeration) rule
    ⟨⟨documentIn, interfaceIn, enumerationIn⟩, Or.inr ⟨isChecked, breaks⟩⟩

theorem spells_protocol
    (accepted : check batch = .ok ())
    (checked : protocol ∈ batch.protocols) :
    SpellsIdentifier protocol.name := by
  obtain ⟨documents, documentIn, isChecked⟩ := exists_checked_document checked
  by_contra misspelled
  exact not_offends_of_check accepted (.protocol ⟨documents, protocol⟩) .badName
    ⟨documentIn, Or.inr ⟨isChecked, misspelled⟩⟩

theorem spells_interface
    (accepted : check batch = .ok ())
    (checked : protocol ∈ batch.protocols)
    (member : interface ∈ protocol.interfaces) :
    SpellsIdentifier interface.name := by
  have named := not_interfaceBreaks_of_check accepted checked member .badName
  simpa only [InterfaceBreaks, not_not] using named

theorem spells_message
    (accepted : check batch = .ok ())
    (checked : protocol ∈ batch.protocols)
    (member : interface ∈ protocol.interfaces)
    {direction : Wire.Direction}
    {message : Message}
    (isMessage : message ∈ interface.messages direction) :
    SpellsIdentifier message.name := by
  obtain ⟨earlier, messageIn⟩ := exists_occurrence isMessage
  have named := not_messageBreaks_of_check accepted checked member messageIn .badName
  simpa only [MessageBreaks, not_not] using named

theorem spells_arg
    (accepted : check batch = .ok ())
    (checked : protocol ∈ batch.protocols)
    (member : interface ∈ protocol.interfaces)
    {direction : Wire.Direction}
    {message : Message}
    (isMessage : message ∈ interface.messages direction)
    {arg : Arg}
    (isArg : arg ∈ message.args) :
    SpellsIdentifier arg.name := by
  obtain ⟨messages, messageIn⟩ := exists_occurrence isMessage
  obtain ⟨args, argIn⟩ := exists_occurrence isArg
  have named := not_argBreaks_of_check accepted checked member messageIn argIn .badName
  simpa only [ArgBreaks, not_not] using named

theorem spells_enumeration
    (accepted : check batch = .ok ())
    (checked : protocol ∈ batch.protocols)
    (member : interface ∈ protocol.interfaces)
    {enumeration : Enumeration}
    (isEnumeration : enumeration ∈ interface.enumerations) :
    SpellsIdentifier enumeration.name := by
  obtain ⟨earlier, enumerationIn⟩ := exists_occurrence isEnumeration
  have named := not_enumerationBreaks_of_check accepted checked member enumerationIn .badName
  simpa only [EnumerationBreaks, not_not] using named

theorem spells_entry
    (accepted : check batch = .ok ())
    (checked : protocol ∈ batch.protocols)
    (member : interface ∈ protocol.interfaces)
    {enumeration : Enumeration}
    (isEnumeration : enumeration ∈ interface.enumerations)
    {entry : Entry}
    (isEntry : entry ∈ enumeration.entries) :
    SpellsEntry entry.name := by
  obtain ⟨documents, documentIn, isChecked⟩ := exists_checked_document checked
  obtain ⟨interfaces, interfaceIn⟩ := exists_occurrence member
  obtain ⟨enumerations, enumerationIn⟩ := exists_occurrence isEnumeration
  obtain ⟨entries, entryIn⟩ := exists_occurrence isEntry
  by_contra misspelled
  exact not_offends_of_check accepted
    (.entry ⟨documents, protocol⟩ ⟨interfaces, interface⟩ ⟨enumerations, enumeration⟩
      ⟨entries, entry⟩) .badName
    ⟨⟨documentIn, interfaceIn, enumerationIn, entryIn⟩, Or.inr ⟨isChecked, misspelled⟩⟩

end Checked

end Wayland.Check
