import Wayland.Proofs.Check.Exact
import Wayland.Proofs.Document.Agreement
import Wayland.Proofs.Document.Settled

/-!
Contract: first versions of zero.

Owns:
- that validation reports every first version of zero;
- that documents in YAML are refused where a message gives one, that every other one is read as one,
  and that markup keeps them all.

Does not own: other versions.
-/

namespace Wayland.Check

open Wayland.Model

/-! ## Reports -/

def Node.since? : Node → Option UInt32
  | .message _ _ _ messageAt => some messageAt.item.since
  | .enumeration _ _ enumerationAt => some enumerationAt.item.since
  | .entry _ _ _ entryAt => some entryAt.item.since
  | _ => none

def Batch.IsReported
    (batch : Batch)
    (node : Node)
    (rule : Rule) : Prop :=
  ∃ found, check batch = .error found ∧
    ∃ violation ∈ found, violation.place = node.place ∧ violation.rule = rule

theorem Batch.Offends.isReported
    {batch : Batch}
    {node : Node}
    {rule : Rule}
    (offends : batch.Offends node rule) :
    batch.IsReported node rule := by
  obtain ⟨sites, -, exact, places⟩ := reports_violations batch
  have isSite : (node, rule) ∈ sites := (exact node rule).mpr offends
  have isPlace : (node.place, rule) ∈
      (violations batch).map fun violation => (violation.place, violation.rule) := by
    rw [places]
    exact List.mem_map_of_mem isSite
  obtain ⟨violation, isFound, same⟩ := List.mem_map.mp isPlace
  obtain ⟨isNode, isRule⟩ := Prod.mk.inj same
  rcases check_eq batch with ⟨-, empty⟩ | ⟨refused, -⟩
  · rw [empty] at isFound
    cases isFound
  · exact ⟨_, refused, violation, isFound, isNode, isRule⟩

theorem Occurrence.In.mem
    {α : Type}
    {occurrence : Occurrence α}
    {list : List α}
    (isIn : occurrence.In list) :
    occurrence.item ∈ list :=
  List.IsPrefix.subset isIn (List.mem_append_right _ List.mem_cons_self)

/-- Zero is a first version of no interface. -/
theorem zero_isReported
    {batch : Batch}
    {node : Node}
    (isIn : node.In batch)
    (checked : batch.Checks node.document)
    (isZero : node.since? = some 0) :
    batch.IsReported node .sinceOutOfRange := by
  have outside {version since : UInt32} (isZero : some since = some 0) :
      ¬SinceInRange version since := by
    rintro ⟨positive, -⟩
    rw [Option.some.inj isZero] at positive
    exact absurd positive (by decide)
  have breaks : node.Breaks batch .sinceOutOfRange := by
    cases node with
    | message => exact outside isZero
    | enumeration => exact outside isZero
    | entry => exact outside isZero
    | _ => cases isZero
  exact Batch.Offends.isReported ⟨isIn, .inr ⟨checked, breaks⟩⟩

end Wayland.Check

namespace Wayland.Document

open Wayland.Check (Batch)
open Wayland.Document.FromMapping (finishedProtocol protocolShape ProtocolFits)
open Wayland.Markup (Tree)
open Wayland.Text (Bytes)
open Outline

/-! ## Models -/

theorem InterfaceComplete.message
    {interface : Model.Interface}
    (complete : InterfaceComplete interface)
    {direction : Wire.Direction} :
    ∀ message ∈ interface.messages direction, MessageComplete message := by
  cases direction
  · exact complete.requests
  · exact complete.events

/-- In a model with first versions, no node has one of zero. -/
theorem ProtocolComplete.since_ne_zero
    {protocol : Model.Protocol}
    (complete : ProtocolComplete protocol)
    {batch : Batch}
    {node : Check.Node}
    (isIn : node.In batch)
    (isModel : node.document.item = protocol) :
    node.since? ≠ some 0 := by
  subst isModel
  have interface {interfaceAt : Check.Occurrence Model.Interface}
      (isIn : interfaceAt.In node.document.item.interfaces) : InterfaceComplete interfaceAt.item :=
    complete.interfaces _ isIn.mem
  cases node with
  | message _ interfaceAt direction messageAt =>
      obtain ⟨-, interfaceIn, messageIn⟩ := isIn
      obtain ⟨-, since, -⟩ := (interface interfaceIn).message _ messageIn.mem
      simpa [Check.Node.since?] using since
  | enumeration _ interfaceAt enumerationAt =>
      obtain ⟨-, interfaceIn, enumerationIn⟩ := isIn
      obtain ⟨-, since, -⟩ := (interface interfaceIn).enumerations _ enumerationIn.mem
      simpa [Check.Node.since?] using since
  | entry _ interfaceAt enumerationAt entryAt =>
      obtain ⟨-, interfaceIn, enumerationIn, entryIn⟩ := isIn
      obtain ⟨-, -, entries⟩ := (interface interfaceIn).enumerations _ enumerationIn.mem
      simpa [Check.Node.since?] using (entries _ entryIn.mem).2
  | _ => simp [Check.Node.since?]

/-! ## Documents -/

/-- A document in YAML is refused where a key of a message gives zero as its first version.  Any
other first version of zero is read as one, whether it is given or left out, so that no node of a
model has one, and validation has nothing to report.  Without references, these are the zeros of
enumerations and entries.  The same document in markup is read with all its zeros. -/
theorem zero_since_is_caught_on_messages_only
    {mapping : Bytes}
    {tree : Yaml.Document}
    {written : Model.Protocol}
    (isTree : Yaml.Document.ofBytes mapping = .ok (some tree))
    (isDecoded : protocolShape.ofDocument (mapping.length + 1) {} tree = .ok (.ok written))
    (document : String) :
    Answers (readMapping document mapping) (ProtocolFits tree.root written)
        (finishedProtocol document written) ∧
      (∀ model, readMapping document mapping = .ok model →
        ∀ (batch : Batch) (node : Check.Node), node.In batch → node.document.item = model →
          node.since? ≠ some 0) ∧
      (∀ (batch : Batch) (node : Check.Node), node.In batch → batch.Checks node.document →
        node.since? = some 0 → batch.IsReported node .sinceOutOfRange) ∧
      ∀ outline : Outline.Protocol, outline.InMapping mapping →
        Answers (readMapping document mapping)
            (outline.Readable ∧ outline.Named ∧ outline.MessagesDated)
            (outline.withoutZeros.model document) ∧
          ∀ markup, outline.InMarkup (Tree.ofBytes markup) →
            Answers (readMarkup document markup) outline.Readable (outline.model document) := by
  refine ⟨?_, fun model read batch node isIn isModel => ?_, fun batch node => Check.zero_isReported,
    fun outline inMapping => ⟨FromMapping.readMapping_outline inMapping,
      fun markup inMarkup => FromMarkup.readMarkup_answers inMarkup⟩⟩
  · rw [FromMapping.readMapping_decoded isTree isDecoded]
    exact FromMapping.finishProtocol_answers tree.root written
  · exact (FromMapping.readMapping_settled read).2.since_ne_zero isIn isModel

/-! ## A mode -/

def dimOutline : Outline.Entry :=
  { name := "dim", value := 0, since? := some 0 }

def modeOutline : Outline.Enumeration :=
  { name := "mode", since? := some 0, entries? := some [dimOutline] }

def dimmerInterface : Outline.Interface :=
  { name := "lamp", version := 1, enumerations := [modeOutline] }

def dimmerOutline : Outline.Protocol :=
  { name := "room", interfaces := [dimmerInterface] }

def dimmerMapping : Bytes :=
  ("name: room\ninterfaces:\n- name: lamp\n  version: 1\n  enums:\n  - name: mode\n" ++
    "    since: 0\n    entries:\n    - name: dim\n      value: 0\n      since: 0\n").toUTF8.toList

def dimmerMarkup : Bytes :=
  ("<protocol name=\"room\"><interface name=\"lamp\" version=\"1\">" ++
    "<enum name=\"mode\" since=\"0\"><entry name=\"dim\" value=\"0\" since=\"0\"/></enum>" ++
    "</interface></protocol>").toUTF8.toList

def dimNode : Yaml.Node :=
  .mapping "!!map"
    [(textOf "name" 9, textOf "dim" 9), (textOf "value" 10, .scalar "!!int" "0" .plain 10),
      (textOf "since" 11, .scalar "!!int" "0" .plain 11)] 9

def modeNode : Yaml.Node :=
  .mapping "!!map"
    [(textOf "name" 6, textOf "mode" 6), (textOf "since" 7, .scalar "!!int" "0" .plain 7),
      (textOf "entries" 8, .sequence "!!seq" [dimNode] 9)] 6

def dimmerLampNode : Yaml.Node :=
  .mapping "!!map"
    [(textOf "name" 3, textOf "lamp" 3), (textOf "version" 4, .scalar "!!int" "1" .plain 4),
      (textOf "enums" 5, .sequence "!!seq" [modeNode] 6)] 3

def dimmerNode : Yaml.Node :=
  .mapping "!!map"
    [(textOf "name" 1, textOf "room" 1),
      (textOf "interfaces" 2, .sequence "!!seq" [dimmerLampNode] 3)] 1

theorem root_dimmerMapping :
    "name".length ≤ dimmerMapping.length ∧
      ∃ tree, Yaml.Document.ofBytes dimmerMapping = .ok (some tree) ∧ tree.root = dimmerNode :=
  ⟨by decide +kernel, exists_tree_of_isSame (by decide +kernel)⟩

theorem dimmerOutline_inMapping :
    dimmerOutline.InMapping dimmerMapping := by
  obtain ⟨room, tree, isTree, isDimmer⟩ := root_dimmerMapping
  refine ⟨room, tree, isTree, ?_⟩
  rw [isDimmer]
  have isInt : Yaml.scalarTag "" (toString 0) .plain = "!!int" := by decide
  have zero (line : Nat) : NumberAt (.scalar "!!int" "0" .plain line) 0 := by
    refine ⟨line, ?_⟩
    rw [isInt]
    rfl
  have entry : EntryAt dimNode dimOutline := {
    record := recordAt_of_keys [("name", 9), ("value", 10), ("since", 11)] rfl (by simp) (by simp)
    name := textAt_textOf "dim" 9
    value := ⟨_, rfl, zero 10⟩
    since := ⟨0, rfl, zero 11⟩
    deprecatedSince := rfl
    summary := rfl
    description := rfl }
  have enumeration : EnumerationAt modeNode modeOutline := {
    record := recordAt_of_keys [("name", 6), ("since", 7), ("entries", 8)] rfl (by simp) (by simp)
    name := textAt_textOf "mode" 6
    since := ⟨0, rfl, zero 7⟩
    bitfield := rfl
    description := rfl
    entries := ⟨[dimOutline], rfl, _, _, _, rfl, .cons entry .nil⟩ }
  have interface : InterfaceAt dimmerLampNode dimmerInterface := {
    record := recordAt_of_keys [("name", 3), ("version", 4), ("enums", 5)] rfl (by simp) (by simp)
    name := textAt_textOf "lamp" 3
    version := ⟨_, rfl, 4, Yaml.Node.eq_of_isSame _ _ (by decide)⟩
    frozen := rfl
    description := rfl
    requests := rfl
    events := rfl
    enumerations := ⟨_, _, _, rfl, .cons enumeration .nil⟩ }
  exact {
    record := recordAt_of_keys [("name", 1), ("interfaces", 2)] rfl (by simp) (by simp)
    name := textAt_textOf "room" 1
    copyright := rfl
    description := rfl
    interfaces := ⟨_, _, _, rfl, .cons interface .nil⟩ }

def dimElement : Element :=
  ⟨"entry", [attributeOf "name" "dim", attributeOf "value" "0", attributeOf "since" "0"], 1, [],
    none⟩

def modeElement : Element :=
  ⟨"enum", [attributeOf "name" "mode", attributeOf "since" "0"], 1, [nodeOf dimElement], none⟩

def dimmerLampElement : Element :=
  ⟨"interface", [attributeOf "name" "lamp", attributeOf "version" "1"], 1, [nodeOf modeElement],
    none⟩

def dimmerElement : Element :=
  ⟨"protocol", [attributeOf "name" "room"], 1, [nodeOf dimmerLampElement], none⟩

theorem nodes_dimmerMarkup :
    (Tree.ofBytes dimmerMarkup).nodes = [nodeOf dimmerElement] :=
  Markup.eq_of_areSame _ _ (by decide +kernel)

theorem dimmerOutline_inMarkup :
    dimmerOutline.InMarkup (Tree.ofBytes dimmerMarkup) := by
  refine ⟨[], _, [], _, _, _, _, nodes_dimmerMarkup, by simp, ?_⟩
  have entry : EntryIn dimElement dimOutline := {
    plain := by constructor <;> simp [dimElement, attributeOf]
    name := by simp [Element.attribute?, dimElement, dimOutline, attributeOf]
    value := by decide
    summary := by simp [WritesText, Element.attribute?, dimElement, dimOutline, attributeOf]
    since := Or.inl (by decide)
    deprecatedSince := Or.inl (by decide)
    children := ⟨by simp [Element.IsSpaced, texts, dimElement], none, rfl, .nil⟩ }
  have enumeration : EnumerationIn modeElement modeOutline := {
    plain := by constructor <;> simp [modeElement, attributeOf]
    name := by simp [Element.attribute?, modeElement, modeOutline, attributeOf]
    since := Or.inl rfl
    bitfield := by
      unfold WritesFlag
      decide
    children :=
      ⟨by simp [Element.IsSpaced, texts, modeElement, nodeOf], none, rfl, .item entry .nil⟩
    listed := by simp [modeOutline] }
  have interface : InterfaceIn dimmerLampElement dimmerInterface := {
    plain := by constructor <;> simp [dimmerLampElement, attributeOf]
    name := by simp [Element.attribute?, dimmerLampElement, dimmerInterface, attributeOf]
    version := by decide
    frozen := by
      unfold WritesFlag
      decide
    spaced := by simp [Element.IsSpaced, texts, dimmerLampElement, nodeOf]
    members := ⟨none, rfl, .enumeration enumeration .nil⟩ }
  exact {
    plain := by constructor <;> simp [attributeOf, dimmerElement]
    name := by simp [Element.attribute?, dimmerOutline, attributeOf, dimmerElement]
    spaced := by simp [Element.IsSpaced, texts, dimmerElement, nodeOf]
    children := ⟨none, none, rfl, rfl, .interface interface .nil⟩ }

theorem dimmerOutline_readable :
    dimmerOutline.Readable ∧ dimmerOutline.Named ∧ dimmerOutline.MessagesDated := by
  refine ⟨?_, ?_, ?_⟩
  · simp [Outline.Protocol.Readable, Interface.Readable, MessagesReadable, Enumeration.Readable,
      Enumeration.entries, Entry.Readable, Fits, UInt32.size, dimmerOutline, dimmerInterface,
      modeOutline, dimOutline]
  · simp [Outline.Protocol.Named, Interface.Named, Enumeration.Named, Enumeration.entries,
      dimmerOutline, dimmerInterface, modeOutline, dimOutline]
  · simp [Outline.Protocol.MessagesDated, Interface.MessagesDated, dimmerOutline, dimmerInterface]

theorem dimmerMapping_isRead :
    readMapping "room.yaml" dimmerMapping =
      .ok (dimmerOutline.withoutZeros.model "room.yaml") :=
  (FromMapping.readMapping_outline dimmerOutline_inMapping).ok dimmerOutline_readable

theorem dimmerMarkup_isRead
    (document : String) :
    readMarkup document dimmerMarkup = .ok (dimmerOutline.model document) :=
  (FromMarkup.readMarkup_answers dimmerOutline_inMarkup).ok dimmerOutline_readable.1

theorem dimmer_zeros_are_read_as_one :
    ∃ tree written, Yaml.Document.ofBytes dimmerMapping = .ok (some tree) ∧
      protocolShape.ofDocument (dimmerMapping.length + 1) {} tree = .ok (.ok written) ∧
        readMapping "room.yaml" dimmerMapping = .ok (dimmerOutline.withoutZeros.model "room.yaml") ∧
          readMarkup "room.yaml" dimmerMarkup = .ok (dimmerOutline.model "room.yaml") := by
  obtain ⟨tree, written, isTree, isDecoded, -, -⟩ := FromMapping.exists_decoded dimmerMapping_isRead
  obtain ⟨-, -, -, outlines⟩ :=
    zero_since_is_caught_on_messages_only isTree isDecoded "room.yaml"
  obtain ⟨fromMapping, fromMarkup⟩ := outlines dimmerOutline dimmerOutline_inMapping
  exact ⟨tree, written, isTree, isDecoded, fromMapping.ok dimmerOutline_readable,
    (fromMarkup dimmerMarkup dimmerOutline_inMarkup).ok dimmerOutline_readable.1⟩

/-- The zeros of an enumeration and of its entry are read as one, and the model passes validation.
The same document in markup is reported. -/
theorem zero_of_enumeration_passes :
    (∃ model, readMapping "room.yaml" dimmerMapping = .ok model ∧
      (model.interfaces.flatMap (·.enumerations)).map (·.since) = [1] ∧
      Check.check ⟨[model], []⟩ = .ok ()) ∧
    ∃ model found, readMarkup "room.xml" dimmerMarkup = .ok model ∧
      (model.interfaces.flatMap (·.enumerations)).map (·.since) = [0] ∧
      Check.check ⟨[model], []⟩ = .error found ∧
      found.map (·.rule) = [.sinceOutOfRange, .sinceOutOfRange] :=
  ⟨⟨_, dimmerMapping_isRead, by decide, by decide⟩,
    _, Check.violations ⟨[dimmerOutline.model "room.xml"], []⟩, dimmerMarkup_isRead "room.xml",
    by decide, by decide, by decide⟩

end Wayland.Document
