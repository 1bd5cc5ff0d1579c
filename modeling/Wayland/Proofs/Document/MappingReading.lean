import Mathlib.Data.List.Forall2
import Wayland.Proofs.Document.Finishing
import Wayland.Proofs.Document.MappingForm

/-!
Contract: what is read from the nodes of an outline.

Owns: that a document in YAML is read exactly if its outline is readable, all its parts have names,
and no message gives zero as its first version, and then gives the model of the outline without the
zeros.

Does not own: documents that are no outlines.
-/

namespace Wayland.Document

namespace FromMapping

open Outline
open Wayland.Model (Arg)
open Wayland.Yaml (Node)

variable {document : String} {node : Node} {key : String}

/-! ## Spots -/

def spotOf
    (node : Node) :
    Spot :=
  ⟨node, true⟩

theorem has_spotOf
    (node : Node)
    (key : String) :
    (spotOf node).has key = (entryNamed? key node).isSome := by
  simp [spotOf, Spot.has]

theorem isSome_of_maybeGiven
    {α : Type}
    {valueAt : Node → α → Prop}
    {value? : Option α}
    {node? : Option Node}
    (maybe : MaybeAt (GivenAt valueAt) none value? node?) :
    node?.isSome = value?.isSome := by
  cases node? with
  | none =>
      have absent : value? = none := maybe
      rw [absent]
      rfl
  | some node =>
      obtain ⟨value, rfl, -⟩ := maybe
      rfl

section Lists

variable {α β : Type} {itemAt : Node → β → Prop} {items : List β}

/-- The spots of a list are those of its nodes. -/
theorem spots_of_items
    (maybe : MaybeAt (ItemsAt itemAt) [] items (entryNamed? key node)) :
    ∃ nodes, ((spotOf node).key key).items items.length = nodes.map spotOf ∧
      List.Forall₂ itemAt nodes items := by
  cases found : entryNamed? key node with
  | none =>
      rw [found] at maybe
      have isEmpty : items = [] := maybe
      subst isEmpty
      refine ⟨[], ?_, .nil⟩
      simp [spotOf, Spot.key, Spot.items, found]
  | some value =>
      rw [found] at maybe
      obtain ⟨tag, nodes, line, rfl, listed⟩ := maybe
      refine ⟨nodes, ?_, listed⟩
      have sameLength := listed.length_eq
      have whole : nodes.take items.length = nodes := by rw [← sameLength, List.take_length]
      simp [spotOf, Spot.key, Spot.items, found, sameLength, whole]

/-- What the items of a list under a key need at their spots. -/
theorem forall_place_iff
    {needs : Spot → α → Prop}
    {decoded : β → α}
    {fits : β → Prop}
    (maybe : MaybeAt (ItemsAt itemAt) [] items (entryNamed? key node))
    (each : ∀ node, ∀ item ∈ items, itemAt node item →
      (needs (spotOf node) (decoded item) ↔ fits item)) :
    (∀ placed ∈ ((spotOf node).key key).place (items.map decoded), needs placed.1 placed.2) ↔
      ∀ item ∈ items, fits item := by
  obtain ⟨nodes, areSpots, listed⟩ := spots_of_items maybe
  unfold Spot.place
  rw [List.length_map, areSpots]
  clear areSpots maybe
  induction listed with
  | nil => simp
  | @cons node item nodes items isItem rest inductionHypothesis =>
      obtain ⟨here, others⟩ :=
        List.forall_mem_cons.mp fun item isMember node => each node item isMember
      rw [List.forall_mem_cons, ← here node isItem,
        ← inductionHypothesis fun node item isMember => others item isMember node]
      simp

end Lists

/-! ## Defaults -/

section Since

variable {since? : Option Nat}

/-- A first version in range is decoded as zero where it is zero or left out. -/
theorem decoded_eq_zero_iff
    (fits : Fits since?) :
    UInt32.ofNat (since?.getD 0) = 0 ↔ since?.getD 0 = 0 := by
  constructor
  · intro isZero
    have sameNat := congrArg UInt32.toNat isZero
    rwa [UInt32.toNat_ofNat_of_lt' fits] at sameNat
  · intro isZero
    rw [isZero]
    rfl

/-- A first version is one where it is zero or left out, and otherwise itself. -/
theorem sinceOrOne_decoded
    (fits : Fits since?) :
    sinceOrOne (UInt32.ofNat (since?.getD 0)) = UInt32.ofNat ((unlessZero since?).getD 1) := by
  have isZero := decoded_eq_zero_iff fits
  unfold sinceOrOne
  simp only [beq_iff_eq, isZero]
  cases since? with
  | none => rfl
  | some since =>
      by_cases zero : since = 0 <;> simp [unlessZero, Option.filter, zero]

end Since

/-! ## Parts -/

theorem messageFits_iff_readable
    {message : Message}
    (messageAt : MessageAt node message)
    (inRange : MessageInRange message) :
    MessageFits (spotOf node) (decodedMessage message) ↔
      message.Readable ∧ message.Named ∧ message.since? ≠ some 0 := by
  have isZero := decoded_eq_zero_iff inRange.1
  have given : (spotOf node).has "since" = message.since?.isSome := by
    rw [has_spotOf, isSome_of_maybeGiven messageAt.since]
  have dated : ((decodedMessage message).since = 0 → (spotOf node).has "since" = false) ↔
      message.since? ≠ some 0 := by
    rw [given]
    show (UInt32.ofNat (message.since?.getD 0) = 0 → _) ↔ _
    rw [isZero]
    cases message.since? <;> simp
  rw [messageFits_iff, dated]
  have fits : Fits message.since? ∧ Fits message.deprecatedSince? := inRange
  simp only [Message.Readable, Message.Named, decodedMessage, forall_and]
  tauto

theorem finishedMessages_decoded
    {messages : List Message}
    (inRange : ∀ message ∈ messages, MessageInRange message) :
    finishedMessages (messages.map decodedMessage) =
      models 0 (messages.map Message.withoutZero) := by
  have each : ∀ numbered ∈ messages.zipIdx,
      finishedMessage numbered.2 (decodedMessage numbered.1) =
        numbered.1.withoutZero.model numbered.2 := by
    intro numbered isNumbered
    have fits := (inRange _ (List.fst_mem_of_mem_zipIdx isNumbered)).1
    unfold Message.model
    rw [Message.withoutZero, ← sinceOrOne_decoded fits]
    rfl
  unfold finishedMessages models
  rw [List.zipIdx_map, List.zipIdx_map, List.map_map, List.map_map]
  exact List.map_congr_left each

theorem messagesFit_iff_readable
    {messages : List Message}
    (maybe : MaybeAt (ItemsAt MessageAt) [] messages (entryNamed? key node))
    (inRange : ∀ message ∈ messages, MessageInRange message) :
    MessagesFit ((spotOf node).key key) (messages.map decodedMessage) ↔
      MessagesReadable messages ∧ (∀ message ∈ messages, message.Named) ∧
        ∀ message ∈ messages, message.since? ≠ some 0 := by
  have each := forall_place_iff maybe fun node message isMember messageAt =>
    messageFits_iff_readable messageAt (inRange message isMember)
  rw [messagesFit_iff, each, List.length_map]
  simp only [MessagesReadable, forall_and]
  tauto

theorem entryFits_iff_named
    {entry : Entry}
    (entryAt : EntryAt node entry) :
    EntryFits (spotOf node) (decodedEntry entry) ↔ entry.name ≠ "" := by
  obtain ⟨value, isValue, -⟩ := entryAt.value
  have valued : (spotOf node).has "value" = true := by
    rw [has_spotOf, isValue]
    rfl
  simp [entryFits_iff, valued, decodedEntry]

theorem finishedEntry_decoded
    {entry : Entry}
    (fits : Fits entry.since?) :
    finishedEntry (decodedEntry entry) = entry.withoutZero.model := by
  unfold Entry.model
  rw [Entry.withoutZero, ← sinceOrOne_decoded fits]
  rfl

/-- The spots of the entries of an enumeration, whether they are written or not. -/
theorem maybeAt_entries
    {enumeration : Enumeration}
    (enumerationAt : EnumerationAt node enumeration) :
    MaybeAt (ItemsAt EntryAt) [] enumeration.entries (entryNamed? "entries" node) := by
  have maybe := enumerationAt.entries
  unfold Enumeration.entries
  cases found : entryNamed? "entries" node with
  | none =>
      rw [found] at maybe
      have absent : enumeration.entries? = none := maybe
      rw [absent]
      rfl
  | some value =>
      rw [found] at maybe
      obtain ⟨entries, isGiven, entriesAt⟩ := maybe
      rw [isGiven]
      exact entriesAt

theorem enumerationFits_iff_named
    {enumeration : Enumeration}
    (enumerationAt : EnumerationAt node enumeration) :
    EnumerationFits (spotOf node) (decodedEnumeration enumeration) ↔ enumeration.Named := by
  have decodedEntries : (decodedEnumeration enumeration).entries =
      enumeration.entries.map decodedEntry := by
    unfold Model.Enumeration.entries Enumeration.entries decodedEnumeration
    cases enumeration.entries? <;> rfl
  have each := forall_place_iff (maybeAt_entries enumerationAt) fun node entry _ entryAt =>
    entryFits_iff_named entryAt
  rw [enumerationFits_iff, decodedEntries, each]
  rfl

theorem finishedEnumeration_decoded
    {enumeration : Enumeration}
    (readable : enumeration.Readable) :
    finishedEnumeration (decodedEnumeration enumeration) = enumeration.withoutZeros.model := by
  obtain ⟨fits, entriesFit⟩ := readable
  have entries : (enumeration.entries?.map (·.map decodedEntry)).map (·.map finishedEntry) =
      (enumeration.entries?.map (·.map Entry.withoutZero)).map (·.map Entry.model) := by
    unfold Enumeration.entries at entriesFit
    cases given : enumeration.entries? with
    | none => rfl
    | some entries =>
        rw [given] at entriesFit
        simp only [Option.map_some, List.map_map]
        refine congrArg some (List.map_congr_left fun entry isMember => ?_)
        exact finishedEntry_decoded (entriesFit entry isMember).2.1
  unfold Enumeration.model
  rw [Enumeration.withoutZeros, ← sinceOrOne_decoded fits, ← entries]
  rfl

theorem interfaceFits_iff_readable
    {interface : Interface}
    (interfaceAt : InterfaceAt node interface)
    (inRange : InterfaceInRange interface) :
    InterfaceFits (spotOf node) (decodedInterface interface) ↔
      interface.Readable ∧ interface.Named ∧ interface.MessagesDated := by
  obtain ⟨fits, requestsInRange, eventsInRange, readable⟩ := inRange
  obtain ⟨version, isVersion, -⟩ := interfaceAt.version
  have versioned : (spotOf node).has "version" = true := by
    rw [has_spotOf, isVersion]
    rfl
  have enumerations := forall_place_iff interfaceAt.enumerations
    fun node enumeration _ enumerationAt => enumerationFits_iff_named enumerationAt
  rw [interfaceFits_iff, versioned]
  simp only [decodedInterface, messagesFit_iff_readable interfaceAt.requests requestsInRange,
    messagesFit_iff_readable interfaceAt.events eventsInRange, enumerations, Interface.Readable,
    Interface.Named, Interface.MessagesDated]
  tauto

theorem finishedInterface_decoded
    {interface : Interface}
    (inRange : InterfaceInRange interface) :
    finishedInterface (decodedInterface interface) = interface.withoutZeros.model := by
  obtain ⟨-, requestsInRange, eventsInRange, readable⟩ := inRange
  have enumerations :
      (interface.enumerations.map decodedEnumeration).map finishedEnumeration =
        (interface.enumerations.map Enumeration.withoutZeros).map Enumeration.model := by
    rw [List.map_map, List.map_map]
    exact List.map_congr_left fun enumeration isMember =>
      finishedEnumeration_decoded (readable enumeration isMember)
  unfold finishedInterface decodedInterface
  simp only [finishedMessages_decoded requestsInRange, finishedMessages_decoded eventsInRange,
    enumerations]
  rfl

theorem protocolFits_iff_readable
    {protocol : Protocol}
    (protocolAt : ProtocolAt node protocol)
    (inRange : ∀ interface ∈ protocol.interfaces, InterfaceInRange interface) :
    ProtocolFits node (decodedProtocol protocol) ↔
      protocol.Readable ∧ protocol.Named ∧ protocol.MessagesDated := by
  have interfaces := forall_place_iff protocolAt.interfaces
    fun node interface isMember interfaceAt =>
      interfaceFits_iff_readable interfaceAt (inRange interface isMember)
  unfold spotOf at interfaces
  rw [protocolFits_iff]
  simp only [decodedProtocol, interfaces, forall_and, Protocol.Readable, Protocol.Named,
    Protocol.MessagesDated, ne_eq, List.map_eq_nil_iff]
  tauto

theorem finishedProtocol_decoded
    {protocol : Protocol}
    (inRange : ∀ interface ∈ protocol.interfaces, InterfaceInRange interface) :
    finishedProtocol document (decodedProtocol protocol) =
      protocol.withoutZeros.model document := by
  have interfaces : (protocol.interfaces.map decodedInterface).map finishedInterface =
      (protocol.interfaces.map Interface.withoutZeros).map Interface.model := by
    rw [List.map_map, List.map_map]
    exact List.map_congr_left fun interface isMember =>
      finishedInterface_decoded (inRange interface isMember)
  unfold finishedProtocol decodedProtocol
  simp only [interfaces]
  rfl

/-! ## Documents -/

theorem inRange_of_readable
    {protocol : Protocol}
    (readable : protocol.Readable) :
    ∀ interface ∈ protocol.interfaces, InterfaceInRange interface := by
  intro interface isInterface
  obtain ⟨version, ⟨-, requests⟩, ⟨-, events⟩, enumerations⟩ := readable.2 interface isInterface
  have inRange {message : Message} (readable : message.Readable) : MessageInRange message :=
    ⟨readable.1, readable.2.1⟩
  exact ⟨version, fun message isRequest => inRange (requests message isRequest),
    fun message isEvent => inRange (events message isEvent), enumerations⟩

section Documents

variable {bytes : Text.Bytes} {protocol : Protocol}

/-- A document in YAML is read exactly if its outline is readable, has all names, and has no message
with a first version of zero.  The model is that of the outline without the zeros. -/
theorem readMapping_outline
    (inMapping : protocol.InMapping bytes) :
    Answers (readMapping document bytes)
      (protocol.Readable ∧ protocol.Named ∧ protocol.MessagesDated)
      (protocol.withoutZeros.model document) := by
  obtain ⟨tree, isTree, protocolAt⟩ := inMapping.root
  have nesting : bytes.length + 1 = (bytes.length - 4) + 5 := by
    have room : 4 ≤ bytes.length := inMapping.room
    omega
  obtain ⟨value, faults, settles, ofFit, ofUnfit⟩ :=
    @protocol_reads (bytes.length - 4) tree.root protocol protocolAt {}
  obtain ⟨nodes, ran⟩ := settles ⟨tree.anchored, []⟩ {} rfl rfl
  unfold readMapping
  simp only [isTree, Yaml.Shape.ofDocument, nesting, ran, List.append_nil]
  by_cases inRange : ∀ interface ∈ protocol.interfaces, InterfaceInRange interface
  · obtain ⟨rfl, isDecoded⟩ := ofFit inRange
    rw [isDecoded rfl]
    exact ((finishProtocol_answers tree.root (decodedProtocol protocol)).congr
      (protocolFits_iff_readable protocolAt inRange)).congr_value fun _ =>
        finishedProtocol_decoded inRange
  · have notEmpty : faults.isEmpty = false := by simpa using ofUnfit inRange
    simp only [notEmpty]
    exact (Answers.of_error rfl).congr
      ⟨False.elim, fun both => inRange (inRange_of_readable both.1)⟩

/-- Without zeros, the model is that of the outline itself. -/
theorem readMapping_answers
    (inMapping : protocol.InMapping bytes)
    (dated : protocol.Dated) :
    Answers (readMapping document bytes) (protocol.Readable ∧ protocol.Named)
      (protocol.model document) := by
  have answers := @readMapping_outline document bytes protocol inMapping
  rw [Protocol.withoutZeros_eq_self dated] at answers
  refine answers.congr ?_
  rw [and_iff_left dated.messages]

end Documents

end FromMapping

end Wayland.Document
