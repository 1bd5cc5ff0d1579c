import Mathlib.Data.List.Forall2
import Wayland.Document.Mapping
import Wayland.Document.Markup
import Wayland.Proofs.Model.Opcode
import Wayland.Proofs.Wire.Grammar

/-!
Contract: protocols keep the order of what they are read from.

Owns:
- things made one after another, each under its position, and that messages made so, and not too
  many, carry their positions;
- that the records of a list are finished in order, and the messages of a direction under their
  positions;
- the reading of elements child by child: what every child preserves holds at the end, and the
  messages of a direction are read in order from the children that stand for them.

Does not own: how records are read from YAML, and the syntax of markup.
-/

namespace Wayland.Document

open Wayland.Model
open Wayland.Wire (Direction bind_eq_ok_iff guard_eq_ok_iff)

/-- Things made from others in order, each under its own position. -/
def MadeInOrder
    {α β : Type}
    (makes : Nat → α → β → Prop)
    (written : List α)
    (made : List β) : Prop :=
  List.Forall₂ (fun item result => makes item.2 item.1 result) written.zipIdx made

section Order

variable {α β : Type} {makes : Nat → α → β → Prop} {written : List α} {made : List β}

theorem MadeInOrder.length_eq
    (inOrder : MadeInOrder makes written made) :
    written.length = made.length := by
  rw [← List.Forall₂.length_eq inOrder, List.length_zipIdx]

theorem MadeInOrder.concat
    {item : α}
    {result : β}
    (inOrder : MadeInOrder makes written made)
    (makesNext : makes made.length item result) :
    MadeInOrder makes (written ++ [item]) (made ++ [result]) := by
  unfold MadeInOrder
  rw [List.zipIdx_append, List.zipIdx_singleton, Nat.zero_add]
  refine List.rel_append inOrder ?_
  rw [← inOrder.length_eq] at makesNext
  exact List.forall₂_cons.mpr ⟨makesNext, List.Forall₂.nil⟩

theorem MadeInOrder.at_position
    {position : Nat}
    {result : β}
    (inOrder : MadeInOrder makes written made)
    (found : made[position]? = some result) :
    ∃ item, makes position item result := by
  obtain ⟨inside, rfl⟩ := List.getElem?_eq_some_iff.mp found
  have numbered : position < written.zipIdx.length := by
    rw [List.length_zipIdx, inOrder.length_eq]
    exact inside
  have here := List.Forall₂.get inOrder numbered inside
  simp only [List.get_eq_getElem, List.getElem_zipIdx, Nat.zero_add] at here
  exact ⟨_, here⟩

theorem MadeInOrder.positioned
    {makes : Nat → α → Message → Prop}
    {messages : List Message}
    (inOrder : MadeInOrder makes written messages)
    (numbers : ∀ {position item message}, makes position item message →
      message.opcode = UInt16.ofNat position)
    (few : messages.length ≤ 0x10000) :
    Positioned messages where
  length_le := few
  opcode_eq := by
    intro position message found
    obtain ⟨item, made⟩ := inOrder.at_position found
    exact numbers made

end Order

/-! ## Records -/

namespace FromMapping

section Lists

variable {α : Type} {finish : Spot → α → Except Error α}

theorem finishAll_eq_ok
    {latest finished : List α}
    {items : List (Spot × α)}
    (done : finishAll finish latest items = .ok finished) :
    ∃ rest, finished = latest.reverse ++ rest ∧
      List.Forall₂ (fun item result => finish item.1 item.2 = .ok result) items rest := by
  induction items generalizing latest with
  | nil =>
      cases done
      exact ⟨[], (List.append_nil _).symm, List.Forall₂.nil⟩
  | cons item items inductionHypothesis =>
      obtain ⟨spot, value⟩ := item
      rw [finishAll] at done
      split at done
      · cases done
      · rename_i result finishedOne
        obtain ⟨rest, rfl, each⟩ := inductionHypothesis done
        exact ⟨result :: rest, by simp, List.forall₂_cons.mpr ⟨finishedOne, each⟩⟩

theorem length_items
    (spot : Spot)
    (length : Nat) :
    (spot.items length).length = length := by
  unfold Spot.items
  split
  · simp only [List.length_append, List.length_map, List.length_take, List.length_replicate]
    omega
  · exact List.length_replicate

/-- Every item of a list is finished at some spot, in order. -/
theorem finishAll_items
    {spot : Spot}
    {values finished : List α}
    (done : finishAll finish [] ((spot.items values.length).zip values) = .ok finished) :
    List.Forall₂ (fun value result => ∃ spot, finish spot value = .ok result) values finished := by
  obtain ⟨rest, rfl, each⟩ := finishAll_eq_ok done
  have atSpots :
      List.Forall₂ (fun item result => ∃ spot, finish spot item.2 = .ok result)
        ((spot.items values.length).zip values) finished :=
    each.imp fun item _ finishedOne => ⟨item.1, finishedOne⟩
  have all : ((spot.items values.length).zip values).map Prod.snd = values :=
    List.map_snd_zip (Nat.le_of_eq (length_items spot _).symm)
  rw [← all]
  exact List.forall₂_map_left_iff.mpr atSpots

end Lists

/-- A written message is finished at some spot under a number. -/
def Finishes
    (document kind : String)
    (path : Path)
    (position : Nat)
    (written message : Message) : Prop :=
  ∃ spot, finishMessage document kind path position spot written = .ok message

/-- The messages of an interface are the written ones of the same direction, in order. -/
def InterfaceInOrder
    (document : String)
    (written interface : Interface) : Prop :=
  ∃ path, ∀ direction,
    MadeInOrder (Finishes document (directionWord direction) path) (written.messages direction)
      (interface.messages direction)

theorem finishes_opcode
    {document kind : String}
    {path : Path}
    {position : Nat}
    {written message : Message}
    (finishes : Finishes document kind path position written message) :
    message.opcode = UInt16.ofNat position := by
  obtain ⟨spot, finished⟩ := finishes
  simp only [finishMessage] at finished
  obtain ⟨-, finished⟩ := (guard_eq_ok_iff ⟨_, rfl⟩).mp finished
  obtain ⟨-, finished⟩ := (guard_eq_ok_iff ⟨_, rfl⟩).mp finished
  obtain ⟨args, -, made⟩ := bind_eq_ok_iff.mp finished
  cases made
  rfl

theorem finishMessages_inOrder
    {document kind : String}
    {parent : Path}
    {spot : Spot}
    {written messages : List Message}
    (finished : finishMessages document kind parent spot written = .ok messages) :
    messages.length ≤ 0x10000 ∧ MadeInOrder (Finishes document kind parent) written messages := by
  unfold finishMessages at finished
  obtain ⟨few, finished⟩ := (guard_eq_ok_iff ⟨_, rfl⟩).mp finished
  obtain ⟨pairs, done, made⟩ := bind_eq_ok_iff.mp finished
  cases made
  rw [← List.length_zipIdx] at done
  have each := finishAll_items done
  have inOrder : MadeInOrder (Finishes document kind parent) written (pairs.map (·.1)) := by
    refine List.forall₂_map_right_iff.mpr (each.imp ?_)
    rintro ⟨message, position⟩ pair ⟨spot, finishedOne⟩
    obtain ⟨result, finishedMessage, made⟩ := bind_eq_ok_iff.mp finishedOne
    cases made
    exact ⟨spot, finishedMessage⟩
  refine ⟨?_, inOrder⟩
  rw [← inOrder.length_eq]
  omega

/-- What is known of a finished interface: it keeps the order of what is written, and its messages
are numbered. -/
theorem finishInterface_inOrder
    {document : String}
    {parent : Path}
    {spot : Spot}
    {written interface : Interface}
    (finished : finishInterface document parent spot written = .ok interface) :
    InterfaceInOrder document written interface ∧
      ∀ direction, (interface.messages direction).length ≤ 0x10000 := by
  simp only [finishInterface] at finished
  obtain ⟨-, finished⟩ := (guard_eq_ok_iff ⟨_, rfl⟩).mp finished
  obtain ⟨-, finished⟩ := (guard_eq_ok_iff ⟨_, rfl⟩).mp finished
  simp only [bind_eq_ok_iff] at finished
  obtain ⟨requests, finishedRequests, events, finishedEvents, enumerations, -, made⟩ := finished
  cases made
  have requestsInOrder := finishMessages_inOrder finishedRequests
  have eventsInOrder := finishMessages_inOrder finishedEvents
  refine ⟨⟨parent.push "interface" written.name, fun direction => ?_⟩, fun direction => ?_⟩
  · cases direction
    · exact requestsInOrder.2
    · exact eventsInOrder.2
  · cases direction
    · exact requestsInOrder.1
    · exact eventsInOrder.1

theorem InterfaceInOrder.numbered
    {document : String}
    {written interface : Interface}
    {direction : Direction}
    (inOrder : InterfaceInOrder document written interface)
    (few : (interface.messages direction).length ≤ 0x10000) :
    interface.Numbered direction := by
  obtain ⟨path, ordered⟩ := inOrder
  exact ((ordered direction).positioned finishes_opcode few).numbered

theorem finishProtocol_inOrder
    {document : String}
    {root : Yaml.Node}
    {written protocol : Protocol}
    (finished : finishProtocol document root written = .ok protocol) :
    List.Forall₂
      (fun writtenInterface interface => InterfaceInOrder document writtenInterface interface ∧
        ∀ direction, interface.Numbered direction)
      written.interfaces protocol.interfaces := by
  simp only [finishProtocol] at finished
  obtain ⟨-, finished⟩ := (guard_eq_ok_iff ⟨_, rfl⟩).mp finished
  obtain ⟨-, finished⟩ := (guard_eq_ok_iff ⟨_, rfl⟩).mp finished
  obtain ⟨interfaces, done, made⟩ := bind_eq_ok_iff.mp finished
  cases made
  refine (finishAll_items done).imp ?_
  rintro writtenInterface interface ⟨spot, finishedOne⟩
  obtain ⟨inOrder, few⟩ := finishInterface_inOrder finishedOne
  exact ⟨inOrder, fun direction => inOrder.numbered (few direction)⟩

end FromMapping

/-! ## Elements -/

namespace FromMarkup

open Wayland.Markup (Node Failure)

/-- The elements among nodes, in order. -/
def elements : List Node → List Element
  | [] => []
  | .text _ _ :: rest => elements rest
  | .element tag attributes line content cut :: rest =>
      ⟨tag, attributes, line, content, cut⟩ :: elements rest

def childrenNamed
    (element : Element)
    (tag : String) :
    List Element :=
  (elements element.content).filter (·.tag == tag)

section Content

variable {σ : Type} {document : String} {path : Path} {child : σ → Element → Except Error σ}
  {holds : List Element → σ → Prop}

/-- What every child preserves holds when the content of an element is read. -/
theorem contentFrom_preserves
    {cut : Option Failure}
    {before : List Element}
    {state final : σ}
    {texts : List String}
    {text : String}
    {nodes : List Node}
    (preserves : ∀ before state next after, holds before state →
      child state next = .ok after → holds (before ++ [next]) after)
    (start : holds before state)
    (read : contentFrom document path child cut state texts nodes = .ok (final, text)) :
    holds (before ++ elements nodes) final := by
  induction nodes generalizing before state texts with
  | nil =>
      unfold contentFrom at read
      split at read
      · cases read
      · cases read
        rwa [elements, List.append_nil]
  | cons node rest inductionHypothesis =>
      cases node with
      | text content line =>
          rw [contentFrom] at read
          exact inductionHypothesis start read
      | element tag attributes line content inner =>
          rw [contentFrom] at read
          split at read
          · cases read
          · rename_i after stepped
            have later := inductionHypothesis (preserves before state _ after start stepped) read
            rwa [List.append_assoc] at later

theorem children_preserves
    {element : Element}
    {initial final : σ}
    (preserves : ∀ before state next after, holds before state →
      child state next = .ok after → holds (before ++ [next]) after)
    (start : holds [] initial)
    (read : children document path element initial child = .ok final) :
    holds (elements element.content) final := by
  simp only [children, content, bind_eq_ok_iff] at read
  obtain ⟨⟨state, text⟩, readContent, read⟩ := read
  have whole := contentFrom_preserves preserves start readContent
  split at read
  · cases read
    exact whole
  · cases read

end Content

def InterfaceParts.messages
    (parts : InterfaceParts) :
    Direction → List Message
  | .request => parts.requests.toList
  | .event => parts.events.toList

def Reads
    (document : String)
    (path : Path)
    (position : Nat)
    (element : Element)
    (message : Message) : Prop :=
  FromMarkup.message document path position element = .ok message

/-- The messages of an interface are read from the children that stand for messages of the same
direction, in order.  Other children between them do not count. -/
def InterfaceInOrder
    (document : String)
    (element : Element)
    (interface : Interface) : Prop :=
  ∃ path, ∀ direction,
    MadeInOrder (Reads document path) (childrenNamed element (directionWord direction))
      (interface.messages direction)

theorem reads_opcode
    {document : String}
    {path : Path}
    {position : Nat}
    {element : Element}
    {message : Message}
    (reads : Reads document path position element message) :
    position < 0x10000 ∧ message.opcode = UInt16.ofNat position := by
  simp only [Reads, FromMarkup.message, bind_eq_ok_iff] at reads
  obtain ⟨values, -, reads⟩ := reads
  -- A message whose number does not fit is refused.
  obtain ⟨fits, reads⟩ := (guard_eq_ok_iff ⟨_, rfl⟩).mp reads
  refine ⟨by omega, ?_⟩
  split at reads <;>
  · simp only [bind_eq_ok_iff] at reads
    obtain ⟨destructor, -, since, -, deprecatedSince, -, parts, -, made⟩ := reads
    cases made
    rfl

section Interfaces

variable {document : String} {path : Path} {before : List Element}
  {parts after : InterfaceParts} {next : Element}

/-- The messages read so far come from the children before. -/
def ReadSoFar
    (document : String)
    (path : Path)
    (before : List Element)
    (parts : InterfaceParts) : Prop :=
  ∀ direction, MadeInOrder (Reads document path)
    (before.filter (·.tag == directionWord direction)) (parts.messages direction)

/-- A child that stands for a message of a direction adds it behind those read so far, and no other
child changes them. -/
def Takes
    (document : String)
    (path : Path)
    (parts : InterfaceParts)
    (next : Element)
    (after : InterfaceParts) : Prop :=
  ∀ direction,
    (next.tag = directionWord direction ∧ ∃ message,
        Reads document path (parts.messages direction).length next message ∧
          after.messages direction = parts.messages direction ++ [message]) ∨
      (next.tag ≠ directionWord direction ∧ after.messages direction = parts.messages direction)

theorem ReadSoFar.takes
    (soFar : ReadSoFar document path before parts)
    (takes : Takes document path parts next after) :
    ReadSoFar document path (before ++ [next]) after := by
  intro direction
  rw [List.filter_append]
  rcases takes direction with ⟨isTag, message, reads, grown⟩ | ⟨isOther, same⟩
  · rw [grown, List.filter_cons_of_pos (by simpa using isTag), List.filter_nil]
    exact (soFar direction).concat reads
  · rw [same, List.filter_cons_of_neg (by simpa using isOther), List.filter_nil, List.append_nil]
    exact soFar direction

theorem takes_other
    (isOther : next.tag ≠ "request" ∧ next.tag ≠ "event")
    (same : after.requests = parts.requests ∧ after.events = parts.events) :
    Takes document path parts next after := by
  intro direction
  cases direction with
  | request => exact Or.inr ⟨isOther.1, congrArg Array.toList same.1⟩
  | event => exact Or.inr ⟨isOther.2, congrArg Array.toList same.2⟩

theorem takes_of_interfaceChild
    (stepped : interfaceChild document path parts next = .ok after) :
    Takes document path parts next after := by
  simp only [interfaceChild, beq_iff_eq] at stepped
  split at stepped
  · rename_i isTag
    obtain ⟨description, -, made⟩ := bind_eq_ok_iff.mp stepped
    cases made
    exact takes_other (by rw [isTag]; decide) ⟨rfl, rfl⟩
  split at stepped
  · rename_i isTag
    obtain ⟨message, reads, made⟩ := bind_eq_ok_iff.mp stepped
    cases made
    intro direction
    cases direction with
    | request => exact Or.inl ⟨isTag, message, reads, by simp [InterfaceParts.messages]⟩
    | event => exact Or.inr ⟨by rw [isTag]; decide, rfl⟩
  split at stepped
  · rename_i isTag
    obtain ⟨message, reads, made⟩ := bind_eq_ok_iff.mp stepped
    cases made
    intro direction
    cases direction with
    | request => exact Or.inr ⟨by rw [isTag]; decide, rfl⟩
    | event => exact Or.inl ⟨isTag, message, reads, by simp [InterfaceParts.messages]⟩
  split at stepped
  · rename_i isTag
    obtain ⟨enumeration, -, made⟩ := bind_eq_ok_iff.mp stepped
    cases made
    exact takes_other (by rw [isTag]; decide) ⟨rfl, rfl⟩
  · cases stepped

theorem interface_inOrder
    {parent : Path}
    {element : Element}
    {interface : Interface}
    (read : FromMarkup.interface document parent element = .ok interface) :
    InterfaceInOrder document element interface := by
  simp only [FromMarkup.interface, bind_eq_ok_iff] at read
  obtain ⟨values, -, version, -, frozen, -, parts, readParts, made⟩ := read
  cases made
  have whole : ReadSoFar document (parent.push "interface" (value values "name"))
      (elements element.content) parts := by
    refine children_preserves ?_ ?_ readParts
    · intro before parts next after soFar stepped
      exact soFar.takes (takes_of_interfaceChild stepped)
    · intro direction
      cases direction <;> exact List.Forall₂.nil
  refine ⟨parent.push "interface" (value values "name"), fun direction => ?_⟩
  cases direction
  · exact whole .request
  · exact whole .event

end Interfaces

/-- The interfaces read so far come from the children before. -/
def InterfacesSoFar
    (document : String)
    (before : List Element)
    (parts : ProtocolParts) : Prop :=
  List.Forall₂ (InterfaceInOrder document) (before.filter (·.tag == "interface"))
    parts.interfaces.toList

theorem InterfacesSoFar.child
    {document : String}
    {path : Path}
    {before : List Element}
    {parts after : ProtocolParts}
    {next : Element}
    (soFar : InterfacesSoFar document before parts)
    (stepped : protocolChild document path parts next = .ok after) :
    InterfacesSoFar document (before ++ [next]) after := by
  have same
      (isOther : next.tag ≠ "interface")
      (unchanged : after.interfaces = parts.interfaces) :
      InterfacesSoFar document (before ++ [next]) after := by
    unfold InterfacesSoFar
    rw [unchanged, List.filter_append, List.filter_cons_of_neg (by simpa using isOther),
      List.filter_nil, List.append_nil]
    exact soFar
  simp only [protocolChild, beq_iff_eq] at stepped
  split at stepped
  · rename_i isTag
    obtain ⟨-, stepped⟩ := (guard_eq_ok_iff ⟨_, rfl⟩).mp stepped
    simp only [bind_eq_ok_iff] at stepped
    obtain ⟨values, -, text, -, made⟩ := stepped
    cases made
    exact same (by rw [isTag]; decide) rfl
  split at stepped
  · rename_i isTag
    obtain ⟨description, -, made⟩ := bind_eq_ok_iff.mp stepped
    cases made
    exact same (by rw [isTag]; decide) rfl
  split at stepped
  · rename_i isTag
    obtain ⟨interface, read, made⟩ := bind_eq_ok_iff.mp stepped
    cases made
    unfold InterfacesSoFar
    rw [List.filter_append, List.filter_cons_of_pos (by simpa using isTag), List.filter_nil,
      Array.toList_push]
    exact List.rel_append soFar
      (List.forall₂_cons.mpr ⟨interface_inOrder read, List.Forall₂.nil⟩)
  · cases stepped

/-- The interfaces of a protocol are read from the children of its element that stand for
interfaces, in order. -/
theorem protocol_inOrder
    {document : String}
    {element : Element}
    {protocol : Protocol}
    (read : FromMarkup.protocol document element = .ok protocol) :
    List.Forall₂ (InterfaceInOrder document) (childrenNamed element "interface")
      protocol.interfaces := by
  simp only [FromMarkup.protocol, bind_eq_ok_iff] at read
  obtain ⟨values, -, parts, readParts, read⟩ := read
  have start : InterfacesSoFar document [] {} := List.Forall₂.nil
  have whole : InterfacesSoFar document (elements element.content) parts :=
    children_preserves (fun _ _ _ _ soFar stepped => soFar.child stepped) start readParts
  obtain ⟨-, made⟩ := (guard_eq_ok_iff ⟨_, rfl⟩).mp read
  cases made
  exact whole

theorem root_eq_ok
    {document : String}
    {failure : Option Failure}
    {nodes : List Node}
    {protocol : Protocol}
    (read : root document failure nodes = .ok protocol) :
    ∃ element, (elements nodes).head? = some element ∧
      FromMarkup.protocol document element = .ok protocol := by
  induction nodes with
  | nil =>
      unfold root at read
      split at read <;> cases read
  | cons node rest inductionHypothesis =>
      cases node with
      | text content line =>
          rw [root] at read
          split at read
          · exact inductionHypothesis read
          · cases read
      | element tag attributes line content cut =>
          rw [root] at read
          split at read
          · exact ⟨_, rfl, read⟩
          · cases read

theorem InterfaceInOrder.numbered
    {document : String}
    {element : Element}
    {interface : Interface}
    (inOrder : InterfaceInOrder document element interface)
    (direction : Direction) :
    interface.Numbered direction := by
  obtain ⟨path, ordered⟩ := inOrder
  have made := ordered direction
  refine (made.positioned (fun reads => (reads_opcode reads).2) ?_).numbered
  -- A message behind the last opcode would have been refused.
  by_contra many
  have found := List.getElem?_eq_getElem (Nat.lt_of_not_le many)
  obtain ⟨child, reads⟩ := made.at_position found
  exact absurd (reads_opcode reads).1 (Nat.lt_irrefl _)

end FromMarkup

end Wayland.Document
