import Wayland.Catalog.Source
import Wayland.Proofs.Check.Filled
import Wayland.Proofs.Document.Agreement
import Wayland.Proofs.Document.DumpForm
import Wayland.Proofs.Document.Order
import Wayland.Proofs.Document.Settled

/-!
Contract: the messages of documents, and dumps as documents.

Owns:
- protocols that keep the order of what a document holds, in both syntaxes;
- that every protocol that is read does, and numbers its messages by their order among those of the
  same direction;
- the model that is read from the outline of a model;
- that the dump of a model which was read is read as the same model exactly if the model has all
  names and first versions, and is then judged the same.

Does not own: that texts of values are read back as these values.
-/

namespace Wayland.Document

open Outline (Fits IsTyped given?)
open Wayland.Model
open Wayland.Text (Bytes)
open Wayland.Wire (Direction)

/-! ## Numbers of messages -/

section Numbering

/-- A protocol has the interfaces and messages of a document in the order in which the document has
them. -/
def FollowsOrder
    (format : Format)
    (document : String)
    (bytes : Text.Bytes)
    (protocol : Protocol) : Prop :=
  match format with
  | .markup =>
      ∃ root, (FromMarkup.elements (Markup.Tree.ofBytes bytes).nodes).head? = some root ∧
        List.Forall₂ (FromMarkup.InterfaceInOrder document)
          (FromMarkup.childrenNamed root "interface") protocol.interfaces
  | .mapping =>
      ∃ tree written, Yaml.Document.ofBytes bytes = .ok (some tree) ∧
        FromMapping.protocolShape.ofDocument (bytes.length + 1) {} tree = .ok (.ok written) ∧
          List.Forall₂ (FromMapping.InterfaceInOrder document) written.interfaces
            protocol.interfaces

variable {document : String} {bytes : Text.Bytes} {protocol : Protocol}

theorem readMarkup_inOrder
    (read : readMarkup document bytes = .ok protocol) :
    FollowsOrder .markup document bytes protocol ∧
      ∀ interface ∈ protocol.interfaces, ∀ direction, interface.Numbered direction := by
  obtain ⟨root, isRoot, readRoot⟩ := FromMarkup.root_eq_ok read
  have inOrder := FromMarkup.protocol_inOrder readRoot
  have both :
      List.Forall₂
        (fun interface element => (∀ direction, interface.Numbered direction) ∧
          FromMarkup.InterfaceInOrder document element interface)
        protocol.interfaces (FromMarkup.childrenNamed root "interface") :=
    inOrder.flip.imp fun _ _ readOne =>
      ⟨FromMarkup.InterfaceInOrder.numbered readOne, readOne⟩
  exact ⟨⟨root, isRoot, inOrder⟩, ((List.forall₂_and_left _ _).mp both).1⟩

theorem readMapping_inOrder
    (read : readMapping document bytes = .ok protocol) :
    FollowsOrder .mapping document bytes protocol ∧
      ∀ interface ∈ protocol.interfaces, ∀ direction, interface.Numbered direction := by
  unfold readMapping at read
  split at read
  · cases read
  · cases read
  · rename_i tree isTree
    split at read
    · cases read
    · cases read
    · rename_i written isWritten
      have inOrder := FromMapping.finishProtocol_inOrder read
      have both :
          List.Forall₂
            (fun interface writtenInterface => (∀ direction, interface.Numbered direction) ∧
              FromMapping.InterfaceInOrder document writtenInterface interface)
            protocol.interfaces written.interfaces :=
        inOrder.flip.imp fun _ _ finishedOne => ⟨finishedOne.2, finishedOne.1⟩
      exact ⟨⟨tree, written, isTree, isWritten, inOrder.imp fun _ _ finishedOne => finishedOne.1⟩,
        ((List.forall₂_and_left _ _).mp both).1⟩

/-- Every document that is read gives its messages the numbers by which they stand in the document
among those of their direction.  Descriptors and generated packages use the same numbers. -/
theorem readFormat_numbers_messages
    {format : Format}
    (read : Catalog.readFormat format document bytes = .ok protocol) :
    FollowsOrder format document bytes protocol ∧
      ∀ interface ∈ protocol.interfaces, ∀ direction, interface.Numbered direction := by
  cases format with
  | markup => exact readMarkup_inOrder read
  | mapping => exact readMapping_inOrder read

/-- A document of one interface, whose two requests stand around an event. -/
def lampDocument : Text.Bytes :=
  ("<protocol name=\"room\"><interface name=\"lamp\" version=\"1\"><request name=\"light\"/>" ++
    "<event name=\"lit\"/><request name=\"dim\"/></interface></protocol>").toUTF8.toList

def lampProtocol : Protocol :=
  { name := "room"
    document := "room.xml"
    interfaces := [{
      name := "lamp"
      version := 1
      requests := [{ name := "light", since := 1 }, { name := "dim", opcode := 1, since := 1 }]
      events := [{ name := "lit", since := 1 }] }] }

theorem lamp_messages_are_numbered :
    Catalog.readFormat .markup "room.xml" lampDocument = .ok lampProtocol ∧
      FollowsOrder .markup "room.xml" lampDocument lampProtocol ∧
      ∀ interface ∈ lampProtocol.interfaces, ∀ direction, interface.Numbered direction := by
  have read : Catalog.readFormat .markup "room.xml" lampDocument = .ok lampProtocol := by
    decide +kernel
  exact ⟨read, readFormat_numbers_messages read⟩

end Numbering

/-! ## The outline of a model -/

section Numbers

variable (number : UInt32)

theorem fits_given? :
    Fits (given? number) := by
  unfold Fits given?
  split
  · simp [UInt32.size]
  · exact number.toNat_lt

theorem given?_ne_zero :
    given? number ≠ some 0 := by
  unfold given?
  split
  · simp
  · rename_i notZero
    intro isZero
    exact notZero (UInt32.toNat_inj.mp (Option.some.inj isZero))

theorem ofNat_given?_zero :
    UInt32.ofNat ((given? number).getD 0) = number := by
  unfold given?
  split
  · rename_i isZero
    rw [isZero]
    rfl
  · simp

theorem ofNat_given?
    {number : UInt32}
    (notZero : number ≠ 0)
    (absent : Nat) :
    UInt32.ofNat ((given? number).getD absent) = number := by
  simp [given?, notZero]

end Numbers

section Models

theorem message_again
    {message : Message}
    {position : Nat}
    (settled : MessageSettled message)
    (notZero : message.since ≠ 0)
    (isPosition : message.opcode = UInt16.ofNat position) :
    (Outline.Message.of message).model position = message := by
  have args : message.args.map Outline.normalArg = message.args :=
    (List.map_congr_left fun arg isArg => (settled.2 arg isArg).2).trans (List.map_id _)
  have description : FromMapping.normalDescription message.description = message.description :=
    settled.1
  simp only [Outline.Message.of, Outline.Message.model, ofNat_given? notZero, ofNat_given?_zero,
    args, description, ← isPosition]

/-- Messages that carry their positions are numbered so again. -/
theorem messages_again
    {messages : List Message}
    (settled : ∀ message ∈ messages, MessageSettled message)
    (notZero : ∀ message ∈ messages, message.since ≠ 0)
    (positions : ∀ (position : Nat) (message : Message), messages[position]? = some message →
      message.opcode = UInt16.ofNat position) :
    Outline.models 0 (messages.map .of) = messages := by
  have each : ∀ numbered ∈ messages.zipIdx,
      (Outline.Message.of numbered.1).model numbered.2 = numbered.1 := by
    rintro ⟨message, position⟩ isNumbered
    have found := List.mem_zipIdx_iff_getElem?.mp isNumbered
    have isMessage := List.mem_of_getElem? found
    exact message_again (settled message isMessage) (notZero message isMessage)
      (positions position message found)
  unfold Outline.models
  rw [List.zipIdx_map, List.map_map]
  refine (List.map_congr_left each).trans ?_
  exact List.zipIdx_map_fst 0 messages

theorem entry_again
    {entry : Entry}
    (settled : EntrySettled entry)
    (notZero : entry.since ≠ 0) :
    (Outline.Entry.of entry).model = entry := by
  have description : FromMapping.normalDescription entry.description = entry.description :=
    settled.2
  simp only [Outline.Entry.of, Outline.Entry.model, ofNat_given? notZero, ofNat_given?_zero,
    UInt32.ofNat_toNat, settled.1, description]

theorem enumeration_again
    {enumeration : Enumeration}
    (settled : EnumerationSettled enumeration)
    (complete : EnumerationComplete enumeration) :
    (Outline.Enumeration.of enumeration).model = enumeration.filled := by
  have description :
      FromMapping.normalDescription enumeration.description = enumeration.description :=
    settled.1
  have entries : (enumeration.entries.map .of).map Outline.Entry.model = enumeration.entries := by
    rw [List.map_map]
    refine (List.map_congr_left fun entry isEntry => ?_).trans (List.map_id _)
    exact entry_again (settled.2 entry isEntry) (complete.2.2 entry isEntry).2
  simp only [Outline.Enumeration.of, Outline.Enumeration.model, ofNat_given? complete.2.1,
    Option.map_some, entries, description]
  rfl

theorem interface_again
    {interface : Interface}
    (settled : InterfaceSettled interface)
    (complete : InterfaceComplete interface)
    (numbered : ∀ direction, interface.Numbered direction) :
    (Outline.Interface.of interface).model = interface.filled := by
  have positions (direction : Wire.Direction) (position : Nat) (message : Message)
      (found : (interface.messages direction)[position]? = some message) :
      message.opcode = UInt16.ofNat position := by
    rw [← ((numbered direction).at_position position message found).opcode, UInt16.ofNat_toNat]
  have requests : Outline.models 0 (interface.requests.map .of) = interface.requests :=
    messages_again settled.requests
      (fun message isRequest => (complete.requests message isRequest).2.1) (positions .request)
  have events : Outline.models 0 (interface.events.map .of) = interface.events :=
    messages_again settled.events
      (fun message isEvent => (complete.events message isEvent).2.1) (positions .event)
  have enumerations : (interface.enumerations.map .of).map Outline.Enumeration.model =
      interface.enumerations.map Enumeration.filled := by
    rw [List.map_map]
    exact List.map_congr_left fun enumeration isMember =>
      enumeration_again (settled.enumerations enumeration isMember)
        (complete.enumerations enumeration isMember)
  have description : FromMapping.normalDescription interface.description = interface.description :=
    settled.description
  simp only [Outline.Interface.of, Outline.Interface.model, UInt32.ofNat_toNat, requests, events,
    enumerations, description]
  rfl

/-- The outline of a complete model that was read stands for the same model. -/
theorem protocol_again
    {protocol : Protocol}
    (settled : ProtocolSettled protocol)
    (complete : ProtocolComplete protocol)
    (numbered : ∀ interface ∈ protocol.interfaces, ∀ direction, interface.Numbered direction)
    (document : String) :
    ((Outline.Protocol.of protocol).model document).SameContent protocol := by
  have interfaces : (protocol.interfaces.map .of).map Outline.Interface.model =
      protocol.interfaces.map Interface.filled := by
    rw [List.map_map]
    exact List.map_congr_left fun interface isMember =>
      interface_again (settled.interfaces interface isMember)
        (complete.interfaces interface isMember) (numbered interface isMember)
  have description : FromMapping.normalDescription protocol.description = protocol.description :=
    settled.description
  have twice : (protocol.interfaces.map Interface.filled).map Interface.filled =
      protocol.interfaces.map Interface.filled := by
    simp [List.map_map, Function.comp_def, Interface.filled, Enumeration.filled,
      Enumeration.entries]
  simp only [Protocol.SameContent, Protocol.filled, Outline.Protocol.of, Outline.Protocol.model,
    interfaces, description, twice, settled.copyright]

end Models

/-! ## What is read of it -/

theorem readable_of_settled
    {protocol : Protocol}
    (settled : ProtocolSettled protocol)
    (numbered : ∀ interface ∈ protocol.interfaces, ∀ direction, interface.Numbered direction) :
    (Outline.Protocol.of protocol).Readable := by
  have messages {messages : List Message}
      (few : messages.length ≤ 0x10000)
      (areSettled : ∀ message ∈ messages, MessageSettled message) :
      Outline.MessagesReadable (messages.map .of) := by
    refine ⟨by simpa using few, List.forall_mem_map.mpr fun message isMessage => ?_⟩
    exact ⟨fits_given? _, fits_given? _, fun arg isArg =>
      ((areSettled message isMessage).2 arg isArg).1⟩
  refine ⟨by simpa [Outline.Protocol.of] using settled.inhabited,
    List.forall_mem_map.mpr fun interface isMember => ?_⟩
  have areSettled := settled.interfaces interface isMember
  refine ⟨interface.version.toNat_lt,
    messages (numbered interface isMember .request).length_le areSettled.requests,
    messages (numbered interface isMember .event).length_le areSettled.events,
    List.forall_mem_map.mpr fun enumeration _ => ⟨fits_given? _, ?_⟩⟩
  exact List.forall_mem_map.mpr fun entry _ => ⟨entry.value.toNat_lt, fits_given? _, fits_given? _⟩

theorem named_of_complete
    {protocol : Protocol}
    (complete : ProtocolComplete protocol) :
    (Outline.Protocol.of protocol).Named := by
  have messages {messages : List Message}
      (areComplete : ∀ message ∈ messages, MessageComplete message) :
      ∀ message ∈ messages.map .of, Outline.Message.Named message :=
    List.forall_mem_map.mpr fun message isMessage =>
      ⟨(areComplete message isMessage).1, (areComplete message isMessage).2.2⟩
  refine ⟨complete.name, List.forall_mem_map.mpr fun interface isMember => ?_⟩
  have isComplete := complete.interfaces interface isMember
  refine ⟨isComplete.name, messages isComplete.requests, messages isComplete.events,
    List.forall_mem_map.mpr fun enumeration isMember => ?_⟩
  have isComplete := isComplete.enumerations enumeration isMember
  exact ⟨isComplete.1, List.forall_mem_map.mpr fun entry isEntry =>
    (isComplete.2.2 entry isEntry).1⟩

theorem dated_of
    (protocol : Protocol) :
    (Outline.Protocol.of protocol).Dated := by
  refine List.forall_mem_map.mpr fun interface _ => ?_
  refine ⟨List.forall_mem_map.mpr fun message _ => given?_ne_zero _,
    List.forall_mem_map.mpr fun message _ => given?_ne_zero _,
    List.forall_mem_map.mpr fun enumeration _ => ⟨given?_ne_zero _, ?_⟩⟩
  exact List.forall_mem_map.mpr fun entry _ => given?_ne_zero _

theorem length_le_ofText
    (text : String) :
    text.toList.length ≤ (Bytes.ofText text).length := by
  have positive (char : Char) : 1 ≤ (Bytes.ofChar char).length := by
    unfold Bytes.ofChar
    split
    · exact Nat.le_refl _
    · rw [String.length_utf8EncodeChar]
      exact Char.utf8Size_pos char
  unfold Bytes.ofText
  induction text.toList with
  | nil => exact Nat.le_refl _
  | cons char chars inductionHypothesis =>
      have first := positive char
      rw [List.flatMap_cons, List.length_append, List.length_cons]
      omega

/-- The dump of a model starts with a key, for which it has room. -/
theorem room_of_dump
    (protocol : Protocol) :
    "name".length ≤ (Bytes.ofText (dump protocol .yaml)).length := by
  refine Nat.le_trans ?_ (length_le_ofText _)
  have key : Yaml.scalarText 2 "name" = "name".toList := by decide
  have ended (piece : List Char) : piece.length ≤ (Yaml.endLine piece).length := by
    unfold Yaml.endLine
    split
    · exact Nat.le_refl _
    · simp
  let rest := textEntry "copyright" protocol.copyright ++ descriptionEntry protocol.description ++
    [("interfaces", Yaml.Tree.list (protocol.interfaces.map interfaceTree))]
  let first := "name".toList ++ ':' :: ' ' :: Yaml.scalarText 2 protocol.name
  have pieces : dump protocol .yaml =
      String.ofList ((first :: Yaml.entryPieces 0 rest).flatMap Yaml.endLine) := by
    simp [dump, protocolTree, Yaml.Tree.render, Yaml.inlineText, Yaml.Tree.pieces,
      Yaml.entryPieces, Yaml.blanks, key, first, rest]
  have room : "name".length ≤ first.length := by
    rw [List.length_append, String.length_toList]
    exact Nat.le_add_right _ _
  rw [pieces, String.toList_ofList, List.flatMap_cons, List.length_append]
  exact Nat.le_trans (Nat.le_trans room (ended first)) (Nat.le_add_right _ _)

/-- The dump of a model is written as its outline. -/
theorem inMapping_of_readsBack
    {protocol : Protocol}
    (readsBack : Yaml.ReadsBack (protocolTree protocol)) :
    (Outline.Protocol.of protocol).InMapping (Text.Bytes.ofText (dump protocol .yaml)) := by
  obtain ⟨document, isDocument, carries⟩ := readsBack
  exact ⟨room_of_dump protocol, document, isDocument, Outline.protocolAt_of_carries carries⟩

/-- Lists that were never written have no names to miss. -/
theorem complete_filled_iff
    {protocol : Protocol} :
    ProtocolComplete protocol.filled ↔ ProtocolComplete protocol := by
  have interfaceComplete (interface : Interface) :
      InterfaceComplete interface.filled ↔ InterfaceComplete interface := by
    constructor
    · rintro ⟨name, requests, events, enumerations⟩
      exact ⟨name, requests, events, fun enumeration isMember =>
        enumerations enumeration.filled (List.mem_map_of_mem isMember)⟩
    · rintro ⟨name, requests, events, enumerations⟩
      exact ⟨name, requests, events, List.forall_mem_map.mpr enumerations⟩
  constructor
  · rintro ⟨name, interfaces⟩
    exact ⟨name, fun interface isMember =>
      (interfaceComplete interface).mp (List.forall_mem_map.mp interfaces interface isMember)⟩
  · rintro ⟨name, interfaces⟩
    exact ⟨name, List.forall_mem_map.mpr fun interface isMember =>
      (interfaceComplete interface).mpr (interfaces interface isMember)⟩

/-! ## Documents -/

section Documents

variable {format : Format} {document : String} {bytes : Bytes} {protocol : Protocol}

theorem readFormat_settled
    (read : Catalog.readFormat format document bytes = .ok protocol) :
    ProtocolSettled protocol := by
  cases format with
  | markup => exact FromMarkup.readMarkup_settled read
  | mapping => exact (FromMapping.readMapping_settled read).1

/-- The YAML text of a model is read as the same model, which is judged the same in every batch. -/
def DumpsFaithfully
    (protocol : Protocol)
    (document : String) : Prop :=
  ∃ copy, readMapping document (Bytes.ofText (dump protocol .yaml)) = .ok copy ∧
    copy.SameContent protocol ∧
      ∀ before after imports,
        Check.check ⟨before ++ copy :: after, imports⟩ =
          Check.check ⟨before ++ protocol :: after, imports⟩

/-- The dump of a complete model that was read is read as this model. -/
theorem dumpsFaithfully_of_complete
    (settled : ProtocolSettled protocol)
    (numbered : ∀ interface ∈ protocol.interfaces, ∀ direction, interface.Numbered direction)
    (complete : ProtocolComplete protocol)
    (readsBack : Yaml.ReadsBack (protocolTree protocol))
    (copyName : String) :
    DumpsFaithfully protocol copyName := by
  have answers := @FromMapping.readMapping_answers copyName _ _ (inMapping_of_readsBack readsBack)
    (dated_of protocol)
  have isRead := answers.ok ⟨readable_of_settled settled numbered, named_of_complete complete⟩
  have same := protocol_again settled complete numbered copyName
  exact ⟨_, isRead, same, Check.check_sameContent same⟩

/-- A model whose dump is read as the same model is complete, as all models from YAML are. -/
theorem complete_of_dumpsFaithfully
    {copyName : String}
    (faithful : DumpsFaithfully protocol copyName) :
    ProtocolComplete protocol := by
  obtain ⟨copy, isRead, same, -⟩ := faithful
  have isComplete := (FromMapping.readMapping_settled isRead).2
  rw [← complete_filled_iff] at isComplete ⊢
  have sameFilled : copy.filled = protocol.filled := same
  rwa [← sameFilled]

/-- The dump of a document that was read is itself a document of the same model, judged the same,
exactly if no name is missing and no first version is zero.  Every document in YAML is of this
kind; markup may write empty names and the version zero, which YAML refuses or takes for one. -/
theorem dump_faithful_iff_complete
    (read : Catalog.readFormat format document bytes = .ok protocol)
    (readsBack : Yaml.ReadsBack (protocolTree protocol))
    (copyName : String) :
    (DumpsFaithfully protocol copyName ↔ ProtocolComplete protocol) ∧
      (format = .mapping → ProtocolComplete protocol) := by
  have settled := readFormat_settled read
  have numbered : ∀ interface ∈ protocol.interfaces, ∀ direction, interface.Numbered direction := by
    cases format with
    | markup => exact (readMarkup_inOrder read).2
    | mapping => exact (readMapping_inOrder read).2
  refine ⟨⟨complete_of_dumpsFaithfully, fun complete => ?_⟩, ?_⟩
  · exact dumpsFaithfully_of_complete settled numbered complete readsBack copyName
  · rintro rfl
    exact (FromMapping.readMapping_settled read).2

end Documents

/-! ## A lamp -/

def lightDocument : Bytes :=
  ("<protocol name=\"room\"><interface name=\"lamp\" version=\"1\">" ++
    "<request name=\"light\"/></interface></protocol>").toUTF8.toList

def lightProtocol : Protocol :=
  { name := "room"
    document := "room.xml"
    interfaces := [{ name := "lamp", version := 1, requests := [{ name := "light", since := 1 }] }] }

def oneOf
    (line : Nat) :
    Yaml.Node :=
  .scalar "!!int" "1" .plain line

def dumpedLamp : Yaml.Node :=
  .mapping "!!map"
    [(textOf "name" 3, textOf "lamp" 3), (textOf "version" 4, oneOf 4),
      (textOf "requests" 5, .sequence "!!seq"
        [.mapping "!!map"
          [(textOf "name" 6, textOf "light" 6), (textOf "since" 7, oneOf 7)] 6] 6)] 3

def dumpedRoom : Yaml.Node :=
  .mapping "!!map"
    [(textOf "name" 1, textOf "room" 1), (textOf "interfaces" 2, .sequence "!!seq" [dumpedLamp] 3)] 1

theorem root_dumpedRoom :
    ∃ tree, Yaml.Document.ofBytes (Bytes.ofText (dump lightProtocol .yaml)) = .ok (some tree) ∧
      tree.root = dumpedRoom :=
  exists_tree_of_isSame (by decide +kernel)

theorem carries_textOf
    (text : String)
    (line : Nat) :
    Yaml.Carries (textOf text line) (.text text) :=
  .text (Yaml.Shape.scalarValue_str text)

theorem carries_oneOf
    (line : Nat) :
    Yaml.Carries (oneOf line) (.int 1) := by
  have isInt : Yaml.scalarTag "" (toString 1) .plain = "!!int" := rfl
  have carries := @Yaml.Carries.number 1 1 line rfl
  rwa [isInt] at carries

theorem lightProtocol_readsBack :
    Yaml.ReadsBack (protocolTree lightProtocol) := by
  obtain ⟨tree, isTree, isRoom⟩ := root_dumpedRoom
  refine ⟨tree, isTree, ?_⟩
  rw [isRoom]
  have request : Yaml.Carries
      (.mapping "!!map" [(textOf "name" 6, textOf "light" 6), (textOf "since" 7, oneOf 7)] 6)
      (.mapping [("name", .text "light"), ("since", .int 1)]) :=
    .mapping (.cons (carries_textOf "light" 6) (.cons (carries_oneOf 7) .nil))
  have lamp : Yaml.Carries dumpedLamp
      (.mapping [("name", .text "lamp"), ("version", .int 1),
        ("requests", .list [.mapping [("name", .text "light"), ("since", .int 1)]])]) :=
    .mapping (.cons (carries_textOf "lamp" 3) (.cons (carries_oneOf 4)
      (.cons (.list (.cons request .nil)) .nil)))
  exact .mapping (.cons (carries_textOf "room" 1) (.cons (.list (.cons lamp .nil)) .nil))

theorem lamp_dumps_faithfully :
    Catalog.readFormat .markup "room.xml" lightDocument = .ok lightProtocol ∧
      Yaml.ReadsBack (protocolTree lightProtocol) ∧ ProtocolComplete lightProtocol ∧
        DumpsFaithfully lightProtocol "room.yaml" := by
  have read : Catalog.readFormat .markup "room.xml" lightDocument = .ok lightProtocol := by
    decide +kernel
  have complete : ProtocolComplete lightProtocol := by
    refine ⟨by decide, List.forall_mem_singleton.mpr ⟨by decide, ?_, by simp, by simp⟩⟩
    simp [MessageComplete]
  exact ⟨read, lightProtocol_readsBack, complete,
    (dump_faithful_iff_complete read lightProtocol_readsBack "room.yaml").1.mpr complete⟩

/-- A protocol without a name in markup. -/
def namelessDocument : Bytes :=
  "<protocol name=\"\"><interface name=\"lamp\" version=\"1\"/></protocol>".toUTF8.toList

def namelessProtocol : Protocol :=
  { name := "", document := "room.xml", interfaces := [{ name := "lamp", version := 1 }] }

/-- A protocol without a name is read from markup, but its dump is refused. -/
theorem nameless_dump_is_refused :
    Catalog.readFormat .markup "room.xml" namelessDocument = .ok namelessProtocol ∧
      dump namelessProtocol .yaml =
          "name: \"\"\ninterfaces:\n  - name: lamp\n    version: 1\n" ∧
        readMapping "room.yaml" (Bytes.ofText (dump namelessProtocol .yaml)) =
          .error ⟨"room.yaml", ["protocol"], 1, .missingAttribute "name"⟩ := by
  decide +kernel

end Wayland.Document
