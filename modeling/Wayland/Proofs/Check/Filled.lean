import Wayland.Proofs.Check.Offence

/-!
Contract: models up to lists that were never written.

Owns:
- models whose lists are all written and whose documents have no names;
- that the check reports the same of them.

Does not own: how models come to differ so.
-/

namespace Wayland.Model

/-- The enumeration with a list of entries, which is empty where there was none. -/
def Enumeration.filled
    (enumeration : Enumeration) :
    Enumeration :=
  { enumeration with entries? := some enumeration.entries }

def Interface.filled
    (interface : Interface) :
    Interface :=
  { interface with enumerations := interface.enumerations.map Enumeration.filled }

/-- The protocol with filled interfaces, of a document without a name. -/
def Protocol.filled
    (protocol : Protocol) :
    Protocol :=
  { protocol with document := "", interfaces := protocol.interfaces.map Interface.filled }

/-- Two models are the same, apart from the names of their documents, and if lists that were never
written count as empty. -/
def Protocol.SameContent
    (left right : Protocol) : Prop :=
  left.filled = right.filled

end Wayland.Model

namespace Wayland.Check

open Wayland.Model
open Wayland.Wire (Direction)

def Batch.filled
    (batch : Batch) :
    Batch :=
  ⟨batch.protocols.map Protocol.filled, batch.imports.map Protocol.filled⟩

/-! ## Names -/

theorem declarations_filled
    (protocols : List Protocol) :
    declarations (protocols.map Protocol.filled) =
      (declarations protocols).map (Prod.map id Interface.filled) := by
  simp only [declarations, List.flatMap_map, List.map_flatMap, Protocol.filled, List.map_map]
  rfl

theorem Batch.declarations_filled
    (batch : Batch) :
    batch.filled.declarations = batch.declarations.map (Prod.map id Interface.filled) := by
  rw [Batch.declarations, Batch.declarations, ← Check.declarations_filled, List.map_append]
  rfl

theorem Batch.interface?_filled
    (batch : Batch)
    (name : String) :
    batch.filled.interface? name = (batch.interface? name).map Interface.filled := by
  rw [Batch.interface?, Batch.interface?, batch.declarations_filled, List.find?_map, Option.map_map,
    Option.map_map]
  rfl

theorem Interface.enumeration?_filled
    (interface : Interface)
    (name : String) :
    interface.filled.enumeration? name = (interface.enumeration? name).map Enumeration.filled := by
  rw [Interface.enumeration?, Interface.enumeration?, Interface.filled, List.find?_map]
  rfl

theorem duplicateInterfaces_filled
    (earlier later : List (String × Interface)) :
    duplicateInterfaces (earlier.map (Prod.map id Interface.filled))
        (later.map (Prod.map id Interface.filled)) =
      duplicateInterfaces earlier later := by
  induction later generalizing earlier with
  | nil => rfl
  | cons first rest inductionHypothesis =>
      obtain ⟨protocol, interface⟩ := first
      have sameName : interface.filled.name = interface.name := rfl
      simp only [List.map_cons, Prod.map_apply, id, duplicateInterfaces, List.find?_map, sameName]
      have sameFound : ((fun declaration : String × Interface =>
          declaration.2.name == interface.name) ∘ Prod.map id Interface.filled) =
          fun declaration => declaration.2.name == interface.name :=
        rfl
      rw [sameFound]
      cases earlier.find? (·.2.name == interface.name) with
      | none =>
          have grown := inductionHypothesis (earlier ++ [(protocol, interface)])
          rw [List.map_append] at grown
          exact grown
      | some found =>
          simp only [Option.map_some, Prod.map_fst, id]
          rw [inductionHypothesis]

/-! ## Nodes -/

variable (batch : Batch) (interface : Interface) (place : Place)

theorem argViolations_filled
    (earlier : List String)
    (arg : Arg) :
    argViolations batch.filled interface.filled place earlier arg =
      argViolations batch interface place earlier arg := by
  have enumeration : batch.filled.enumeration? interface.filled arg =
      (batch.enumeration? interface arg).map Enumeration.filled := by
    simp only [Batch.enumeration?]
    split
    · exact Interface.enumeration?_filled interface _
    · rw [batch.interface?_filled]
      cases batch.interface? arg.enumerationRef.1 with
      | none => rfl
      | some owner => exact Interface.enumeration?_filled owner _
  have sameEnumeration (inner : Place) :
      enumerationViolations batch.filled interface.filled inner arg =
        enumerationViolations batch interface inner arg := by
    unfold enumerationViolations
    rw [enumeration]
    cases batch.enumeration? interface arg <;> rfl
  have sameInterface (inner : Place) :
      interfaceViolations batch.filled inner arg = interfaceViolations batch inner arg := by
    unfold interfaceViolations
    rw [batch.interface?_filled, Option.isNone_map]
  simp only [argViolations, sameEnumeration, sameInterface]

theorem messageViolations_filled
    (direction : Direction)
    (earlier : List Message)
    (message : Message) :
    messageViolations batch.filled interface.filled place direction earlier message =
      messageViolations batch interface place direction earlier message := by
  simp only [messageViolations, argViolations_filled]
  rfl

theorem interfaceNodeViolations_filled :
    interfaceNodeViolations batch.filled place interface.filled =
      interfaceNodeViolations batch place interface := by
  have messages (inner : Place) (direction : Direction) :
      messageViolations batch.filled interface.filled inner direction =
        messageViolations batch interface inner direction := by
    funext earlier message
    exact messageViolations_filled batch interface inner direction earlier message
  have enumerations (inner : Place) :
      withEarlier
          (fun before enumeration =>
            enumerationNodeViolations interface.version inner (before.map (·.name)) enumeration)
          [] (interface.enumerations.map Enumeration.filled) =
        withEarlier
          (fun before enumeration =>
            enumerationNodeViolations interface.version inner (before.map (·.name)) enumeration)
          [] interface.enumerations := by
    have moved := @withEarlier_map Enumeration Enumeration
      (fun before enumeration =>
        enumerationNodeViolations interface.version inner (before.map (·.name)) enumeration)
      Enumeration.filled [] [] interface.enumerations
    rw [List.map_nil, List.append_nil] at moved
    rw [moved]
    congr
    funext before enumeration
    rw [List.reverse_nil, List.nil_append, List.map_map]
    rfl
  have sameEnumerations : interface.filled.enumerations =
      interface.enumerations.map Enumeration.filled :=
    rfl
  simp only [interfaceNodeViolations, messages, sameEnumerations]
  exact congrArg _ (enumerations _)

/-- The check reports the same of a batch and of its filled protocols. -/
theorem violations_filled :
    violations batch.filled = violations batch := by
  have duplicates : duplicateInterfaces [] batch.filled.declarations =
      duplicateInterfaces [] batch.declarations := by
    rw [batch.declarations_filled]
    exact duplicateInterfaces_filled [] batch.declarations
  have protocols (protocol : Protocol) :
      protocolViolations batch.filled protocol.filled = protocolViolations batch protocol := by
    simp only [protocolViolations, Protocol.filled, List.flatMap_map, interfaceNodeViolations_filled]
  rw [violations, violations, duplicates]
  simp only [Batch.filled, List.flatMap_map]
  exact congrArg _ (List.flatMap_congr fun protocol _ => protocols protocol)

/-- Protocols of the same content can take each other's place in a batch. -/
theorem check_sameContent
    {left right : Protocol}
    (same : left.SameContent right)
    (before after imports : List Protocol) :
    check ⟨before ++ left :: after, imports⟩ = check ⟨before ++ right :: after, imports⟩ := by
  have sameFilled : Batch.filled ⟨before ++ left :: after, imports⟩ =
      Batch.filled ⟨before ++ right :: after, imports⟩ := by
    have sameProtocol : left.filled = right.filled := same
    simp only [Batch.filled, List.map_append, List.map_cons, sameProtocol]
  have sameViolations : violations ⟨before ++ left :: after, imports⟩ =
      violations ⟨before ++ right :: after, imports⟩ := by
    rw [← violations_filled, sameFilled, violations_filled]
  rw [check, check, sameViolations]

end Wayland.Check
