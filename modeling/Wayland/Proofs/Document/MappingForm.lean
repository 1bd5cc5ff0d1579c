import Wayland.Proofs.Document.Outline
import Wayland.Proofs.Yaml.Decode

/-!
Contract: the nodes that an outline is written as, and what they are decoded as.

Owns:
- mappings with different known keys, in any order;
- how texts, flags, numbers and lists stand as nodes, and that what is absent may be left out;
- how fields that may be left out are read;
- the records that the nodes of an outline are decoded as, before defaults, and that they are
  decoded exactly if all numbers fit.

Does not own: defaults and required fields, and references between nodes.
-/

namespace Wayland.Document.Outline

open Wayland.Document.FromMapping (entryNamed?)
open Wayland.Model (Arg Description)
open Wayland.Yaml (Node scalarValue)
open Wayland.Yaml.Shape (IsRecord)

variable {α : Type}

/-! ## Values -/

/-- A text, in any way of writing it. -/
def TextAt
    (node : Node)
    (text : String) : Prop :=
  ∃ tag written style line, node = .scalar tag written style line ∧
    scalarValue tag written = pure (.text text)

def FlagAt
    (node : Node)
    (flag : Bool) : Prop :=
  ∃ style line, node = .scalar "!!bool" (toString flag) style line

def NumberAt
    (node : Node)
    (number : Nat) : Prop :=
  ∃ line, node =
    .scalar (Yaml.scalarTag "" (toString number) .plain) (toString number) .plain line

def ItemsAt
    (itemAt : Node → α → Prop)
    (node : Node)
    (items : List α) : Prop :=
  ∃ tag nodes line, node = .sequence tag nodes line ∧ List.Forall₂ itemAt nodes items

def GivenAt
    (valueAt : Node → α → Prop)
    (node : Node)
    (value? : Option α) : Prop :=
  ∃ value, value? = some value ∧ valueAt node value

/-- A value under a key, or no key where the value is absent. -/
def MaybeAt
    (valueAt : Node → α → Prop)
    (absent : α)
    (value : α) :
    Option Node → Prop
  | some node => valueAt node value
  | none => value = absent

/-- A mapping with different known keys. -/
def RecordAt
    (node : Node)
    (known : List String) : Prop :=
  ∃ entries line, node = .mapping "!!map" entries line ∧ IsRecord entries ∧
    ∀ entry ∈ entries, entry.1.text ∈ known

/-! ## Records -/

structure DescriptionAt
    (node : Node)
    (description : Description) : Prop where
  record : RecordAt node ["summary", "text"]
  summary : MaybeAt TextAt "" description.summary (entryNamed? "summary" node)
  text : MaybeAt TextAt "" description.text (entryNamed? "text" node)

/-- An argument. -/
structure ArgAt
    (node : Node)
    (arg : Arg) : Prop where
  record : RecordAt node
    ["name", "type", "allow_null", "interface", "enum", "summary", "description"]
  name : MaybeAt TextAt "" arg.name (entryNamed? "name" node)
  typeName : MaybeAt TextAt "" arg.typeName (entryNamed? "type" node)
  nullable : MaybeAt FlagAt false arg.nullable (entryNamed? "allow_null" node)
  interface : MaybeAt TextAt "" arg.interface (entryNamed? "interface" node)
  enumeration : MaybeAt TextAt "" arg.enumeration (entryNamed? "enum" node)
  summary : MaybeAt TextAt "" arg.summary (entryNamed? "summary" node)
  description : MaybeAt DescriptionAt {} arg.description (entryNamed? "description" node)

structure MessageAt
    (node : Node)
    (message : Message) : Prop where
  record : RecordAt node
    ["name", "since", "deprecated_since", "destructor", "description", "args"]
  name : MaybeAt TextAt "" message.name (entryNamed? "name" node)
  since : MaybeAt (GivenAt NumberAt) none message.since? (entryNamed? "since" node)
  deprecatedSince :
    MaybeAt (GivenAt NumberAt) none message.deprecatedSince? (entryNamed? "deprecated_since" node)
  destructor : MaybeAt FlagAt false message.destructor (entryNamed? "destructor" node)
  description : MaybeAt DescriptionAt {} message.description (entryNamed? "description" node)
  args : MaybeAt (ItemsAt ArgAt) [] message.args (entryNamed? "args" node)

/-- An entry, whose value is never left out. -/
structure EntryAt
    (node : Node)
    (entry : Entry) : Prop where
  record : RecordAt node
    ["name", "value", "since", "deprecated_since", "summary", "description"]
  name : MaybeAt TextAt "" entry.name (entryNamed? "name" node)
  value : ∃ value, entryNamed? "value" node = some value ∧ NumberAt value entry.value
  since : MaybeAt (GivenAt NumberAt) none entry.since? (entryNamed? "since" node)
  deprecatedSince :
    MaybeAt (GivenAt NumberAt) none entry.deprecatedSince? (entryNamed? "deprecated_since" node)
  summary : MaybeAt TextAt "" entry.summary (entryNamed? "summary" node)
  description : MaybeAt DescriptionAt {} entry.description (entryNamed? "description" node)

structure EnumerationAt
    (node : Node)
    (enumeration : Enumeration) : Prop where
  record : RecordAt node ["name", "since", "bitfield", "description", "entries"]
  name : MaybeAt TextAt "" enumeration.name (entryNamed? "name" node)
  since : MaybeAt (GivenAt NumberAt) none enumeration.since? (entryNamed? "since" node)
  bitfield : MaybeAt FlagAt false enumeration.bitfield (entryNamed? "bitfield" node)
  description : MaybeAt DescriptionAt {} enumeration.description (entryNamed? "description" node)
  entries :
    MaybeAt (GivenAt (ItemsAt EntryAt)) none enumeration.entries? (entryNamed? "entries" node)

/-- An interface, whose version is never left out. -/
structure InterfaceAt
    (node : Node)
    (interface : Interface) : Prop where
  record : RecordAt node
    ["name", "version", "frozen", "description", "requests", "events", "enums"]
  name : MaybeAt TextAt "" interface.name (entryNamed? "name" node)
  version : ∃ version, entryNamed? "version" node = some version ∧
    NumberAt version interface.version
  frozen : MaybeAt FlagAt false interface.frozen (entryNamed? "frozen" node)
  description : MaybeAt DescriptionAt {} interface.description (entryNamed? "description" node)
  requests : MaybeAt (ItemsAt MessageAt) [] interface.requests (entryNamed? "requests" node)
  events : MaybeAt (ItemsAt MessageAt) [] interface.events (entryNamed? "events" node)
  enumerations :
    MaybeAt (ItemsAt EnumerationAt) [] interface.enumerations (entryNamed? "enums" node)

structure ProtocolAt
    (node : Node)
    (protocol : Protocol) : Prop where
  record : RecordAt node ["name", "copyright", "description", "interfaces"]
  name : MaybeAt TextAt "" protocol.name (entryNamed? "name" node)
  copyright : MaybeAt TextAt "" protocol.copyright (entryNamed? "copyright" node)
  description : MaybeAt DescriptionAt {} protocol.description (entryNamed? "description" node)
  interfaces : MaybeAt (ItemsAt InterfaceAt) [] protocol.interfaces (entryNamed? "interfaces" node)

/-- A document in YAML: its root stands for the protocol, and the text has room for a key. -/
structure Protocol.InMapping
    (protocol : Protocol)
    (bytes : Text.Bytes) : Prop where
  room : "name".length ≤ bytes.length
  root : ∃ tree, Yaml.Document.ofBytes bytes = .ok (some tree) ∧ ProtocolAt tree.root protocol

end Wayland.Document.Outline

namespace Wayland.Document

namespace FromMapping

open Outline
open Wayland.Model (Arg Description)
open Wayland.Yaml (Node Shape Yields)
open Wayland.Yaml.Shape

variable {limit : Nat} {node : Node}

/-! ## Values -/

theorem text_reads
    {typeName text : String}
    (textAt : TextAt node text)
    (initial : String) :
    Reads (.namedText typeName) limit node True initial text := by
  obtain ⟨tag, written, style, line, rfl, isValue⟩ := textAt
  exact fun current => (namedText_yields isValue typeName current).imp fun _ isRead _ => isRead

theorem flag_reads
    {flag : Bool}
    (flagAt : FlagAt node flag)
    (initial : Bool) :
    Reads .bool limit node True initial flag := by
  obtain ⟨style, line, rfl⟩ := flagAt
  exact fun current => (bool_yields flag current).imp fun _ isRead _ => isRead

theorem number_reads
    {number : Nat}
    (numberAt : NumberAt node number)
    (initial : UInt32) :
    Reads .uint32 limit node (number < UInt32.size) initial (UInt32.ofNat number) := by
  obtain ⟨line, rfl⟩ := numberAt
  exact fun current => (uint32_yields number current).imp fun _ isRead _ => isRead

theorem list_reads
    {α β : Type}
    {typeName : String}
    {shape : Shape α}
    {initialItem : α}
    {itemAt : Node → β → Prop}
    {fits : β → Prop}
    {meaning : β → α}
    {items : List β}
    (itemsAt : ItemsAt itemAt node items)
    (reads : ∀ node item, itemAt node item →
      Reads shape limit node (fits item) initialItem (meaning item))
    (initial : Option (List α)) :
    Reads (.list typeName shape initialItem) limit node (∀ item ∈ items, fits item) initial
      (some (items.map meaning)) := by
  obtain ⟨tag, nodes, line, rfl, listed⟩ := itemsAt
  intro current
  refine (list_yields (fun node item isItem => ?_) listed current).imp fun _ isRead _ => isRead
  exact (reads node item isItem initialItem).imp fun _ isRead => isRead rfl

/-! ## Fields -/

section Fields

variable {σ α β : Type} {parts : List (Shape.Part σ)} {initial target : σ} {node? : Option Node}

/-- A field whose value may be left out. -/
theorem maybe_reads
    {name : String}
    {shape : Shape α}
    {get : σ → α}
    {put : σ → α → σ}
    {valueAt : Node → β → Prop}
    {absent value : β}
    {fits : Prop}
    (isPart : IsPart parts name get put)
    (maybe : MaybeAt valueAt absent value node?)
    (reads : ∀ node, valueAt node value → Reads shape limit node fits (get initial) (get target))
    (ofAbsent : value = absent → fits ∧ get initial = get target) :
    ReadsField (field name shape get put) limit parts fits initial target node? := by
  refine field_reads isPart (fun node isNode => ?_) fun isNone => ?_
  · rw [isNode] at maybe
    exact reads node maybe
  · rw [isNone] at maybe
    exact ofAbsent maybe

/-- A text, which is empty if it is left out. -/
theorem textField_reads
    {name typeName text : String}
    {get : σ → String}
    {put : σ → String → σ}
    (isPart : IsPart parts name get put)
    (maybe : MaybeAt TextAt "" text node?)
    (isInitial : get initial = "")
    (isTarget : get target = text) :
    ReadsField (field name (.namedText typeName) get put) limit parts True initial target
      node? := by
  refine maybe_reads isPart maybe (fun node textAt => ?_) fun isEmpty => ⟨trivial, ?_⟩
  · rw [isTarget]
    exact text_reads textAt (get initial)
  · rw [isInitial, isTarget, isEmpty]

/-- A flag, which is not set if it is left out. -/
theorem flagField_reads
    {name : String}
    {flag : Bool}
    {get : σ → Bool}
    {put : σ → Bool → σ}
    (isPart : IsPart parts name get put)
    (maybe : MaybeAt FlagAt false flag node?)
    (isInitial : get initial = false)
    (isTarget : get target = flag) :
    ReadsField (field name .bool get put) limit parts True initial target node? := by
  refine maybe_reads isPart maybe (fun node flagAt => ?_) fun isUnset => ⟨trivial, ?_⟩
  · rw [isTarget]
    exact flag_reads flagAt (get initial)
  · rw [isInitial, isTarget, isUnset]

/-- A number, which is zero if it is left out. -/
theorem numberField_reads
    {name : String}
    {number? : Option Nat}
    {get : σ → UInt32}
    {put : σ → UInt32 → σ}
    (isPart : IsPart parts name get put)
    (maybe : MaybeAt (GivenAt NumberAt) none number? node?)
    (isInitial : get initial = 0)
    (isTarget : get target = UInt32.ofNat (number?.getD 0)) :
    ReadsField (field name .uint32 get put) limit parts (Fits number?) initial target node? := by
  refine maybe_reads isPart maybe (fun node given => ?_) ?_
  · obtain ⟨number, rfl, numberAt⟩ := given
    rw [isTarget]
    exact number_reads numberAt (get initial)
  · rintro rfl
    exact ⟨by simp [Fits], by rw [isInitial, isTarget]; rfl⟩

/-- A number that is never left out. -/
theorem maybeAt_of_number
    {number : Nat}
    (written : ∃ node, node? = some node ∧ NumberAt node number) :
    MaybeAt (GivenAt NumberAt) none (some number) node? := by
  obtain ⟨node, rfl, numberAt⟩ := written
  exact ⟨number, rfl, numberAt⟩

/-- A list, which is empty if it is left out. -/
theorem listField_reads
    {name typeName : String}
    {shape : Shape α}
    {initialItem : α}
    {get : σ → List α}
    {put : σ → Option (List α) → σ}
    {itemAt : Node → β → Prop}
    {fits : β → Prop}
    {meaning : β → α}
    {items : List β}
    {all : Prop}
    (isPart : IsPart parts name (some <| get ·) put)
    (maybe : MaybeAt (ItemsAt itemAt) [] items node?)
    (reads : ∀ node item, itemAt node item →
      Reads shape limit node (fits item) initialItem (meaning item))
    (isInitial : get initial = [])
    (isTarget : get target = items.map meaning)
    (allFit : (∀ item ∈ items, fits item) ↔ all) :
    ReadsField (field name (.list typeName shape initialItem) (some <| get ·) put) limit parts all
      initial target node? := by
  rw [← propext allFit]
  refine maybe_reads isPart maybe (fun node itemsAt => ?_) ?_
  · rw [isTarget]
    exact list_reads itemsAt reads _
  · rintro rfl
    exact ⟨by simp, by rw [isInitial, isTarget]; rfl⟩

/-- A list that is told apart from one that is left out. -/
theorem givenListField_reads
    {name typeName : String}
    {shape : Shape α}
    {initialItem : α}
    {get : σ → Option (List α)}
    {put : σ → Option (List α) → σ}
    {itemAt : Node → β → Prop}
    {fits : β → Prop}
    {meaning : β → α}
    {items? : Option (List β)}
    {all : Prop}
    (isPart : IsPart parts name get put)
    (maybe : MaybeAt (GivenAt (ItemsAt itemAt)) none items? node?)
    (reads : ∀ node item, itemAt node item →
      Reads shape limit node (fits item) initialItem (meaning item))
    (isInitial : get initial = none)
    (isTarget : get target = items?.map (·.map meaning))
    (allFit : (∀ item ∈ items?.getD [], fits item) ↔ all) :
    ReadsField (field name (.list typeName shape initialItem) get put) limit parts all initial
      target node? := by
  rw [← propext allFit]
  refine maybe_reads isPart maybe (fun node given => ?_) ?_
  · obtain ⟨items, rfl, itemsAt⟩ := given
    rw [isTarget]
    exact list_reads itemsAt reads _
  · rintro rfl
    exact ⟨by simp, by rw [isInitial, isTarget]; rfl⟩

end Fields

/-! ## Records -/

/-- A record with known keys is read where all its fields are. -/
theorem record_reads
    {σ : Type}
    {typeName : String}
    {fields : List (Shape.Field σ)}
    {optional : Bool}
    {fits : Prop}
    {initial target : σ}
    (parts : List (Shape.Part σ))
    (fitsAt : String → Prop)
    (recordAt : RecordAt node (fields.map (·.name)))
    (reads : ∀ found ∈ fields, ReadsField found limit parts (fitsAt found.name) initial target
      (entryNamed? found.name node))
    (others : ∀ part ∈ parts, part.key ∉ fields.map (·.name) → part.get initial = part.get target)
    (complete : ∀ {left right : σ}, (∀ part ∈ parts, part.get left = part.get right) → left = right)
    (allFit : (∀ found ∈ fields, fitsAt found.name) ↔ fits) :
    Reads (.record typeName fields optional) (limit + 1) node fits initial target := by
  obtain ⟨entries, line, rfl, isRecord, known⟩ := recordAt
  exact MakesUp.reads_record ⟨isRecord, known, reads, others, complete⟩ allFit

def descriptionParts : List (Shape.Part Description) :=
  [⟨"summary", (·.summary)⟩, ⟨"text", (·.text)⟩]

theorem description_reads
    {description : Description}
    (descriptionAt : DescriptionAt node description) :
    Reads descriptionShape (limit + 1) node True {} description := by
  unfold descriptionShape
  refine record_reads descriptionParts (fun _ => True) descriptionAt.record ?_ ?_ ?_ ?_
  · simp only [List.forall_mem_cons]
    refine ⟨textField_reads ?_ descriptionAt.summary rfl rfl,
      textField_reads ?_ descriptionAt.text rfl rfl, by simp⟩ <;>
    constructor <;> simp [descriptionParts]
  · simp [descriptionParts]
  · rintro ⟨summary, text⟩ ⟨otherSummary, otherText⟩ same
    simpa [descriptionParts] using same
  · simp

/-- Documentation, which is empty if it is left out. -/
theorem descriptionField_reads
    {σ : Type}
    {parts : List (Shape.Part σ)}
    {initial target : σ}
    {node? : Option Node}
    {name : String}
    {description : Description}
    {get : σ → Description}
    {put : σ → Description → σ}
    (isPart : IsPart parts name get put)
    (maybe : MaybeAt DescriptionAt {} description node?)
    (isInitial : get initial = {})
    (isTarget : get target = description) :
    ReadsField (field name descriptionShape get put) (limit + 1) parts True initial target
      node? := by
  refine maybe_reads isPart maybe (fun node descriptionAt => ?_) fun isEmpty => ⟨trivial, ?_⟩
  · rw [isInitial, isTarget]
    exact description_reads descriptionAt
  · rw [isInitial, isTarget, isEmpty]

def argParts : List (Shape.Part Arg) :=
  [⟨"name", (·.name)⟩, ⟨"type", (·.typeName)⟩, ⟨"allow_null", (·.nullable)⟩,
    ⟨"interface", (·.interface)⟩, ⟨"enum", (·.enumeration)⟩, ⟨"summary", (·.summary)⟩,
    ⟨"description", (·.description)⟩]

theorem arg_reads
    {arg : Arg}
    (argAt : ArgAt node arg) :
    Reads argShape (limit + 2) node True {} arg := by
  unfold argShape
  refine record_reads argParts (fun _ => True) argAt.record ?_ ?_ ?_ ?_
  · simp only [List.forall_mem_cons]
    refine ⟨textField_reads ?_ argAt.name rfl rfl, textField_reads ?_ argAt.typeName rfl rfl,
      flagField_reads ?_ argAt.nullable rfl rfl, textField_reads ?_ argAt.interface rfl rfl,
      textField_reads ?_ argAt.enumeration rfl rfl, textField_reads ?_ argAt.summary rfl rfl,
      descriptionField_reads ?_ argAt.description rfl rfl, by simp⟩ <;>
    constructor <;> simp [argParts]
  · simp [argParts]
  · rintro ⟨⟩ ⟨⟩ same
    simpa [argParts] using same
  · simp

/-- A message as it is decoded, before defaults. -/
def decodedMessage
    (message : Message) :
    Model.Message where
  name := message.name
  since := UInt32.ofNat (message.since?.getD 0)
  deprecatedSince := UInt32.ofNat (message.deprecatedSince?.getD 0)
  destructor := message.destructor
  description := message.description
  args := message.args

def MessageInRange
    (message : Message) : Prop :=
  Fits message.since? ∧ Fits message.deprecatedSince?

def messageParts : List (Shape.Part Model.Message) :=
  [⟨"name", (·.name)⟩, ⟨"", (·.opcode)⟩, ⟨"since", (·.since)⟩,
    ⟨"deprecated_since", (·.deprecatedSince)⟩, ⟨"destructor", (·.destructor)⟩,
    ⟨"description", (·.description)⟩, ⟨"args", (some ·.args)⟩]

/-- The numbers of a message that stand under a key fit. -/
def MessageFitsAt
    (message : Message)
    (key : String) : Prop :=
  (key = "since" → Fits message.since?) ∧
    (key = "deprecated_since" → Fits message.deprecatedSince?)

theorem message_reads
    {message : Message}
    (messageAt : MessageAt node message) :
    Reads messageShape (limit + 3) node (MessageInRange message) {} (decodedMessage message) := by
  unfold messageShape
  refine record_reads messageParts (MessageFitsAt message) messageAt.record ?_ ?_ ?_ ?_
  · simp only [List.forall_mem_cons, field_name, MessageFitsAt, String.reduceEq, false_imp_iff,
      true_imp_iff, and_true, true_and]
    refine ⟨textField_reads ?_ messageAt.name rfl rfl, numberField_reads ?_ messageAt.since rfl rfl,
      numberField_reads ?_ messageAt.deprecatedSince rfl rfl,
      flagField_reads ?_ messageAt.destructor rfl rfl,
      descriptionField_reads ?_ messageAt.description rfl rfl,
      listField_reads ?_ messageAt.args (fun node arg argAt => arg_reads argAt) rfl
        (List.map_id _).symm (by simp), by simp⟩ <;>
    constructor <;> simp [messageParts]
  · simp [messageParts, decodedMessage]
  · rintro ⟨⟩ ⟨⟩ same
    simpa [messageParts] using same
  · simp [MessageFitsAt, MessageInRange]

/-- An entry as it is decoded, before defaults. -/
def decodedEntry
    (entry : Entry) :
    Model.Entry where
  name := entry.name
  value := UInt32.ofNat entry.value
  since := UInt32.ofNat (entry.since?.getD 0)
  deprecatedSince := UInt32.ofNat (entry.deprecatedSince?.getD 0)
  summary := entry.summary
  description := entry.description

def entryParts : List (Shape.Part Model.Entry) :=
  [⟨"name", (·.name)⟩, ⟨"value", (·.value)⟩, ⟨"since", (·.since)⟩,
    ⟨"deprecated_since", (·.deprecatedSince)⟩, ⟨"summary", (·.summary)⟩,
    ⟨"description", (·.description)⟩]

/-- The numbers of an entry that stand under a key fit. -/
def EntryFitsAt
    (entry : Entry)
    (key : String) : Prop :=
  (key = "value" → Fits (some entry.value)) ∧ (key = "since" → Fits entry.since?) ∧
    (key = "deprecated_since" → Fits entry.deprecatedSince?)

theorem entry_reads
    {entry : Entry}
    (entryAt : EntryAt node entry) :
    Reads entryShape (limit + 2) node entry.Readable {} (decodedEntry entry) := by
  unfold entryShape
  refine record_reads entryParts (EntryFitsAt entry) entryAt.record ?_ ?_ ?_ ?_
  · simp only [List.forall_mem_cons, field_name, EntryFitsAt, String.reduceEq, false_imp_iff,
      true_imp_iff, and_true, true_and]
    refine ⟨textField_reads ?_ entryAt.name rfl rfl,
      numberField_reads ?_ (maybeAt_of_number entryAt.value) rfl rfl,
      numberField_reads ?_ entryAt.since rfl rfl,
      numberField_reads ?_ entryAt.deprecatedSince rfl rfl,
      textField_reads ?_ entryAt.summary rfl rfl,
      descriptionField_reads ?_ entryAt.description rfl rfl, by simp⟩ <;>
    constructor <;> simp [entryParts]
  · simp [entryParts]
  · rintro ⟨⟩ ⟨⟩ same
    simpa [entryParts] using same
  · simp [EntryFitsAt, Entry.Readable, Fits]

/-- An enumeration as it is decoded, before defaults. -/
def decodedEnumeration
    (enumeration : Enumeration) :
    Model.Enumeration where
  name := enumeration.name
  since := UInt32.ofNat (enumeration.since?.getD 0)
  bitfield := enumeration.bitfield
  description := enumeration.description
  entries? := enumeration.entries?.map (·.map decodedEntry)

def enumerationParts : List (Shape.Part Model.Enumeration) :=
  [⟨"name", (·.name)⟩, ⟨"since", (·.since)⟩, ⟨"bitfield", (·.bitfield)⟩,
    ⟨"description", (·.description)⟩, ⟨"entries", (·.entries?)⟩]

/-- The numbers of an enumeration that stand under a key fit. -/
def EnumerationFitsAt
    (enumeration : Enumeration)
    (key : String) : Prop :=
  (key = "since" → Fits enumeration.since?) ∧
    (key = "entries" → ∀ entry ∈ enumeration.entries, entry.Readable)

theorem enumeration_reads
    {enumeration : Enumeration}
    (enumerationAt : EnumerationAt node enumeration) :
    Reads enumerationShape (limit + 3) node enumeration.Readable {}
      (decodedEnumeration enumeration) := by
  unfold enumerationShape
  refine record_reads enumerationParts (EnumerationFitsAt enumeration) enumerationAt.record ?_ ?_ ?_
    ?_
  · simp only [List.forall_mem_cons, field_name, EnumerationFitsAt, String.reduceEq, false_imp_iff,
      true_imp_iff, and_true, true_and]
    refine ⟨textField_reads ?_ enumerationAt.name rfl rfl,
      numberField_reads ?_ enumerationAt.since rfl rfl,
      flagField_reads ?_ enumerationAt.bitfield rfl rfl,
      descriptionField_reads ?_ enumerationAt.description rfl rfl,
      givenListField_reads ?_ enumerationAt.entries (fun node entry entryAt => entry_reads entryAt)
        rfl rfl Iff.rfl, by simp⟩ <;>
    constructor <;> simp [enumerationParts]
  · simp [enumerationParts]
  · rintro ⟨⟩ ⟨⟩ same
    simpa [enumerationParts] using same
  · simp [EnumerationFitsAt, Enumeration.Readable]

/-- An interface as it is decoded, before defaults. -/
def decodedInterface
    (interface : Interface) :
    Model.Interface where
  name := interface.name
  version := UInt32.ofNat interface.version
  frozen := interface.frozen
  description := interface.description
  requests := interface.requests.map decodedMessage
  events := interface.events.map decodedMessage
  enumerations := interface.enumerations.map decodedEnumeration

/-- The numbers of an interface and of its parts fit. -/
def InterfaceInRange
    (interface : Interface) : Prop :=
  interface.version < UInt32.size ∧ (∀ message ∈ interface.requests, MessageInRange message) ∧
    (∀ message ∈ interface.events, MessageInRange message) ∧
    ∀ enumeration ∈ interface.enumerations, enumeration.Readable

def interfaceParts : List (Shape.Part Model.Interface) :=
  [⟨"name", (·.name)⟩, ⟨"version", (·.version)⟩, ⟨"frozen", (·.frozen)⟩,
    ⟨"description", (·.description)⟩, ⟨"requests", (some ·.requests)⟩,
    ⟨"events", (some ·.events)⟩, ⟨"enums", (some ·.enumerations)⟩]

/-- The numbers of an interface, or of its parts, that stand under a key fit. -/
def InterfaceFitsAt
    (interface : Interface)
    (key : String) : Prop :=
  (key = "version" → Fits (some interface.version)) ∧
    (key = "requests" → ∀ message ∈ interface.requests, MessageInRange message) ∧
    (key = "events" → ∀ message ∈ interface.events, MessageInRange message) ∧
    (key = "enums" → ∀ enumeration ∈ interface.enumerations, enumeration.Readable)

theorem interface_reads
    {interface : Interface}
    (interfaceAt : InterfaceAt node interface) :
    Reads interfaceShape (limit + 4) node (InterfaceInRange interface) {}
      (decodedInterface interface) := by
  unfold interfaceShape
  refine record_reads interfaceParts (InterfaceFitsAt interface) interfaceAt.record ?_ ?_ ?_ ?_
  · simp only [List.forall_mem_cons, field_name, InterfaceFitsAt, String.reduceEq, false_imp_iff,
      true_imp_iff, and_true, true_and]
    refine ⟨textField_reads ?_ interfaceAt.name rfl rfl,
      numberField_reads ?_ (maybeAt_of_number interfaceAt.version) rfl rfl,
      flagField_reads ?_ interfaceAt.frozen rfl rfl,
      descriptionField_reads ?_ interfaceAt.description rfl rfl,
      listField_reads ?_ interfaceAt.requests
        (fun node message isMessage => message_reads isMessage) rfl rfl Iff.rfl,
      listField_reads ?_ interfaceAt.events
        (fun node message isMessage => message_reads isMessage) rfl rfl Iff.rfl,
      listField_reads ?_ interfaceAt.enumerations
        (fun node enumeration isEnumeration => enumeration_reads isEnumeration) rfl rfl Iff.rfl,
      by simp⟩ <;>
    constructor <;> simp [interfaceParts]
  · simp [interfaceParts]
  · rintro ⟨⟩ ⟨⟩ same
    simpa [interfaceParts] using same
  · simp [InterfaceFitsAt, InterfaceInRange, Fits]

/-- A protocol as it is decoded, before defaults. -/
def decodedProtocol
    (protocol : Protocol) :
    Model.Protocol where
  name := protocol.name
  copyright := protocol.copyright
  description := protocol.description
  interfaces := protocol.interfaces.map decodedInterface

def protocolParts : List (Shape.Part Model.Protocol) :=
  [⟨"name", (·.name)⟩, ⟨"", (·.document)⟩, ⟨"copyright", (·.copyright)⟩,
    ⟨"description", (·.description)⟩, ⟨"interfaces", (some ·.interfaces)⟩]

/-- The numbers of the interfaces of a protocol fit if they stand under a key. -/
def ProtocolFitsAt
    (protocol : Protocol)
    (key : String) : Prop :=
  key = "interfaces" → ∀ interface ∈ protocol.interfaces, InterfaceInRange interface

theorem protocol_reads
    {protocol : Protocol}
    (protocolAt : ProtocolAt node protocol) :
    Reads protocolShape (limit + 5) node
      (∀ interface ∈ protocol.interfaces, InterfaceInRange interface) {}
      (decodedProtocol protocol) := by
  unfold protocolShape
  refine record_reads protocolParts (ProtocolFitsAt protocol) protocolAt.record ?_ ?_ ?_ ?_
  · simp only [List.forall_mem_cons, field_name, ProtocolFitsAt, String.reduceEq, false_imp_iff,
      true_imp_iff]
    refine ⟨textField_reads ?_ protocolAt.name rfl rfl,
      textField_reads ?_ protocolAt.copyright rfl rfl,
      descriptionField_reads ?_ protocolAt.description rfl rfl,
      listField_reads ?_ protocolAt.interfaces
        (fun node interface isInterface => interface_reads isInterface) rfl rfl Iff.rfl,
      by simp⟩ <;>
    constructor <;> simp [protocolParts]
  · simp [protocolParts, decodedProtocol]
  · rintro ⟨⟩ ⟨⟩ same
    simpa [protocolParts] using same
  · simp [ProtocolFitsAt]

end FromMapping

end Wayland.Document
