import Wayland.Document.Dump
import Wayland.Proofs.Document.MappingForm
import Wayland.Proofs.Yaml.Expansion

/-!
Contract: the outline of a dump.

Owns:
- the outline that a model is written as, in which zeros are left out;
- that nodes which stand for the values of a model are written as its outline.

Does not own: how the outline is read.
-/

namespace Wayland.Document

open Wayland.Document.FromMapping (entryNamed?)
open Wayland.Model (Arg Description)
open Wayland.Yaml (CarryEntries Carries Node Tree)

namespace Outline

/-! ## Outlines of models -/

/-- A number that is left out where it is zero. -/
def given?
    (number : UInt32) :
    Option Nat :=
  if number = 0 then none else some number.toNat

def Message.of
    (message : Model.Message) :
    Message where
  name := message.name
  since? := given? message.since
  deprecatedSince? := given? message.deprecatedSince
  destructor := message.destructor
  description := message.description
  args := message.args

def Entry.of
    (entry : Model.Entry) :
    Entry where
  name := entry.name
  value := entry.value.toNat
  since? := given? entry.since
  deprecatedSince? := given? entry.deprecatedSince
  summary := entry.summary
  description := entry.description

/-- The outline of an enumeration, whose entries are always listed. -/
def Enumeration.of
    (enumeration : Model.Enumeration) :
    Enumeration where
  name := enumeration.name
  since? := given? enumeration.since
  bitfield := enumeration.bitfield
  description := enumeration.description
  entries? := some (enumeration.entries.map Entry.of)

def Interface.of
    (interface : Model.Interface) :
    Interface where
  name := interface.name
  version := interface.version.toNat
  frozen := interface.frozen
  description := interface.description
  requests := interface.requests.map Message.of
  events := interface.events.map Message.of
  enumerations := interface.enumerations.map Enumeration.of

def Protocol.of
    (protocol : Model.Protocol) :
    Protocol where
  name := protocol.name
  copyright := protocol.copyright
  description := protocol.description
  interfaces := protocol.interfaces.map Interface.of

/-! ## Entries -/

section Entries

variable {α : Type} (key other : String)

theorem lookup_singleton
    (tree : Tree) :
    [(key, tree)].lookup other = if other = key then some tree else none := by
  by_cases isKey : other = key
  · simp [isKey]
  · have notKey : (other == key) = false := beq_eq_false_iff_ne.mpr isKey
    rw [List.lookup_cons, notKey, if_neg isKey]
    rfl

theorem lookup_textEntry
    (value : String) :
    (textEntry key value).lookup other =
      if other = key ∧ value ≠ "" then some (.text value) else none := by
  unfold textEntry
  by_cases isEmpty : value = "" <;> simp [isEmpty, lookup_singleton]

theorem lookup_numberEntry
    (value : UInt32) :
    (numberEntry key value).lookup other =
      if other = key ∧ value ≠ 0 then some (.int value.toNat) else none := by
  unfold numberEntry
  by_cases isZero : value = 0 <;> simp [isZero, lookup_singleton]

theorem lookup_flagEntry
    (value : Bool) :
    (flagEntry key value).lookup other =
      if other = key ∧ value = true then some (.bool true) else none := by
  unfold flagEntry
  cases value <;> simp [lookup_singleton]

theorem lookup_listEntry
    (tree : α → Tree)
    (items : List α) :
    (listEntry key tree items).lookup other =
      if other = key ∧ items ≠ [] then some (.list (items.map tree)) else none := by
  unfold listEntry
  by_cases isEmpty : items = [] <;> simp [isEmpty, lookup_singleton]

def descriptionTree
    (description : Description) :
    Tree :=
  .mapping (textEntry "summary" description.summary ++ textEntry "text" description.text)

theorem lookup_descriptionEntry
    (description : Description) :
    (descriptionEntry description).lookup other =
      if other = "description" ∧ description ≠ {} then some (descriptionTree description)
      else none := by
  unfold descriptionEntry
  by_cases isEmpty : description = {}
  · simp [isEmpty, Description.isEmpty]
  · have notEmpty : description.isEmpty = false := by
      obtain ⟨summary, text⟩ := description
      simpa [Description.isEmpty] using isEmpty
    simp [isEmpty, notEmpty, lookup_singleton, descriptionTree]

theorem keys_textEntry
    (value : String) :
    List.Sublist ((textEntry key value).map (·.1)) [key] := by
  unfold textEntry
  split <;> simp

theorem keys_numberEntry
    (value : UInt32) :
    List.Sublist ((numberEntry key value).map (·.1)) [key] := by
  unfold numberEntry
  split <;> simp

theorem keys_flagEntry
    (value : Bool) :
    List.Sublist ((flagEntry key value).map (·.1)) [key] := by
  unfold flagEntry
  split <;> simp

theorem keys_listEntry
    (tree : α → Tree)
    (items : List α) :
    List.Sublist ((listEntry key tree items).map (·.1)) [key] := by
  unfold listEntry
  split <;> simp

theorem keys_descriptionEntry
    (description : Description) :
    List.Sublist ((descriptionEntry description).map (·.1)) ["description"] := by
  unfold descriptionEntry
  split <;> simp

end Entries

/-! ## Nodes -/

section Nodes

variable {nodes : List (Node × Node)} {entries : List (String × Tree)} {known : List String}
  {line : Nat} {node? : Option Node}

/-- A mapping whose keys are among different known ones. -/
theorem recordAt_of_carry
    (carry : CarryEntries nodes entries)
    (keys : List.Sublist (entries.map (·.1)) known)
    (different : known.Nodup) :
    RecordAt (.mapping "!!map" nodes line) known := by
  refine ⟨nodes, line, rfl, carry.isRecord (different.sublist keys), fun entry isEntry => ?_⟩
  exact keys.subset (carry.keys ▸ List.mem_map_of_mem isEntry)

/-- Under every key, a mapping holds what its entries do. -/
theorem carried_entryNamed?
    (carry : CarryEntries nodes entries)
    (line : Nat)
    (key : String) :
    Option.Rel Carries (entryNamed? key (.mapping "!!map" nodes line)) (entries.lookup key) :=
  carry.lookup key

theorem maybeAt_of_carried
    {α : Type}
    {valueAt : Node → α → Prop}
    {absent value : α}
    {present : Prop}
    [Decidable present]
    {tree : Tree}
    (carried : Option.Rel Carries node? (if present then some tree else none))
    (ofPresent : present → ∀ node, Carries node tree → valueAt node value)
    (ofAbsent : ¬present → value = absent) :
    MaybeAt valueAt absent value node? := by
  by_cases isPresent : present
  · rw [if_pos isPresent] at carried
    cases carried with
    | some carries => exact ofPresent isPresent _ carries
  · rw [if_neg isPresent] at carried
    cases carried with
    | none => exact ofAbsent isPresent

theorem textAt_of_carries
    {node : Node}
    {text : String}
    (carries : Carries node (.text text)) :
    TextAt node text := by
  cases carries with
  | text isValue => exact ⟨_, _, _, _, rfl, isValue⟩

theorem numberAt_of_carries
    {node : Node}
    {number : Nat}
    (carries : Carries node (.int number)) :
    NumberAt node number := by
  cases carries with
  | number isNumber =>
      cases Int.ofNat.inj isNumber
      exact ⟨_, rfl⟩

theorem maybeText
    (text : String)
    (carried : Option.Rel Carries node? (if text ≠ "" then some (.text text) else none)) :
    MaybeAt TextAt "" text node? :=
  maybeAt_of_carried carried (fun _ _ => textAt_of_carries) (by simp)

theorem alwaysText
    (text : String)
    (carried : Option.Rel Carries node? (some (.text text))) :
    MaybeAt TextAt "" text node? := by
  cases carried with
  | some carries => exact textAt_of_carries carries

theorem alwaysNumber
    (number : Nat)
    (carried : Option.Rel Carries node? (some (.int number))) :
    ∃ node, node? = some node ∧ NumberAt node number := by
  cases carried with
  | some carries => exact ⟨_, rfl, numberAt_of_carries carries⟩

theorem maybeNumber
    (number : UInt32)
    (carried : Option.Rel Carries node? (if number ≠ 0 then some (.int number.toNat) else none)) :
    MaybeAt (GivenAt NumberAt) none (given? number) node? := by
  refine maybeAt_of_carried carried (fun notZero node carries => ?_) fun isZero => ?_
  · exact ⟨number.toNat, if_neg notZero, numberAt_of_carries carries⟩
  · exact if_pos (not_not.mp isZero)

theorem maybeFlag
    (flag : Bool)
    (carried : Option.Rel Carries node? (if flag = true then some (.bool true) else none)) :
    MaybeAt FlagAt false flag node? := by
  refine maybeAt_of_carried carried (fun isSet node carries => ?_) (by simp)
  rw [isSet]
  cases carries with
  | flag => exact ⟨_, _, rfl⟩

theorem itemsAt_of_carries
    {α β : Type}
    {itemAt : Node → β → Prop}
    {tree : α → Tree}
    {outline : α → β}
    (items : List α)
    (each : ∀ node, ∀ item ∈ items, Carries node (tree item) → itemAt node (outline item))
    {node : Node}
    (carries : Carries node (.list (items.map tree))) :
    ItemsAt itemAt node (items.map outline) := by
  cases carries with
  | @list tag nodes _ line carry =>
      refine ⟨tag, nodes, line, rfl, ?_⟩
      have listed := carry.forall₂
      clear carry
      induction items generalizing nodes with
      | nil =>
          cases listed
          exact .nil
      | cons item items inductionHypothesis =>
          cases listed with
          | cons first rest =>
              exact .cons (each _ item (List.mem_cons_self ..) first)
                (inductionHypothesis (fun node item isItem =>
                  each node item (List.mem_cons_of_mem _ isItem)) rest)

theorem maybeList
    {α β : Type}
    {itemAt : Node → β → Prop}
    {tree : α → Tree}
    {outline : α → β}
    {items : List α}
    (carried : Option.Rel Carries node? (if items ≠ [] then some (.list (items.map tree)) else none))
    (each : ∀ node, ∀ item ∈ items, Carries node (tree item) → itemAt node (outline item)) :
    MaybeAt (ItemsAt itemAt) [] (items.map outline) node? :=
  maybeAt_of_carried carried (fun _ _ => itemsAt_of_carries items each) (by simp)

theorem alwaysList
    {α β : Type}
    {itemAt : Node → β → Prop}
    {tree : α → Tree}
    {outline : α → β}
    {items : List α}
    (carried : Option.Rel Carries node? (some (.list (items.map tree))))
    (each : ∀ node, ∀ item ∈ items, Carries node (tree item) → itemAt node (outline item)) :
    MaybeAt (ItemsAt itemAt) [] (items.map outline) node? := by
  cases carried with
  | some carries => exact itemsAt_of_carries items each carries

theorem alwaysGivenList
    {α β : Type}
    {itemAt : Node → β → Prop}
    {tree : α → Tree}
    {outline : α → β}
    {items : List α}
    (carried : Option.Rel Carries node? (some (.list (items.map tree))))
    (each : ∀ node, ∀ item ∈ items, Carries node (tree item) → itemAt node (outline item)) :
    MaybeAt (GivenAt (ItemsAt itemAt)) none (some (items.map outline)) node? := by
  cases carried with
  | some carries => exact ⟨_, rfl, itemsAt_of_carries items each carries⟩

/-! ## Records -/

theorem descriptionAt_of_carries
    {node : Node}
    {description : Description}
    (carries : Carries node (descriptionTree description)) :
    DescriptionAt node description := by
  cases carries with
  | @mapping nodes _ line carry =>
      have carried := carried_entryNamed? carry line
      simp only [List.lookup_append, lookup_textEntry] at carried
      have keys := (keys_textEntry "summary" description.summary).append
        (keys_textEntry "text" description.text)
      rw [← List.map_append] at keys
      exact {
        record := recordAt_of_carry carry keys (by simp)
        summary := maybeText description.summary (by simpa using carried "summary")
        text := maybeText description.text (by simpa using carried "text") }

theorem maybeDescription
    (description : Description)
    (carried : Option.Rel Carries node?
      (if description ≠ {} then some (descriptionTree description) else none)) :
    MaybeAt DescriptionAt {} description node? :=
  maybeAt_of_carried carried (fun _ _ => descriptionAt_of_carries) (by simp)

theorem argAt_of_carries
    {node : Node}
    {arg : Arg}
    (carries : Carries node (argTree arg)) :
    ArgAt node arg := by
  cases carries with
  | @mapping nodes _ line carry =>
      have carried := carried_entryNamed? carry line
      simp only [List.lookup_append, List.lookup_cons, lookup_textEntry, lookup_flagEntry,
        lookup_descriptionEntry] at carried
      have keys := ((((((List.Sublist.refl ["name", "type"]).append
        (keys_flagEntry "allow_null" arg.nullable)).append
        (keys_textEntry "interface" arg.interface)).append
        (keys_textEntry "enum" arg.enumeration)).append
        (keys_textEntry "summary" arg.summary)).append
        (keys_descriptionEntry arg.description))
      exact {
        record := recordAt_of_carry carry (by simpa using keys) (by simp)
        name := alwaysText arg.name (by simpa using carried "name")
        typeName := alwaysText arg.typeName (by simpa using carried "type")
        nullable := maybeFlag arg.nullable (by simpa using carried "allow_null")
        interface := maybeText arg.interface (by simpa using carried "interface")
        enumeration := maybeText arg.enumeration (by simpa using carried "enum")
        summary := maybeText arg.summary (by simpa using carried "summary")
        description := maybeDescription arg.description (by simpa using carried "description") }

theorem messageAt_of_carries
    {node : Node}
    {message : Model.Message}
    (carries : Carries node (messageTree message)) :
    MessageAt node (.of message) := by
  cases carries with
  | @mapping nodes _ line carry =>
      have carried := carried_entryNamed? carry line
      simp only [List.lookup_append, List.lookup_cons, lookup_numberEntry, lookup_flagEntry,
        lookup_descriptionEntry, lookup_listEntry] at carried
      have keys := (((((List.Sublist.refl ["name"]).append
        (keys_numberEntry "since" message.since)).append
        (keys_numberEntry "deprecated_since" message.deprecatedSince)).append
        (keys_flagEntry "destructor" message.destructor)).append
        (keys_descriptionEntry message.description)).append
        (keys_listEntry "args" argTree message.args)
      have args : MaybeAt (ItemsAt ArgAt) [] (message.args.map id)
          (entryNamed? "args" (.mapping "!!map" nodes line)) :=
        maybeList (by simpa using carried "args") fun _ _ _ => argAt_of_carries
      rw [List.map_id] at args
      exact {
        record := recordAt_of_carry carry (by simpa using keys) (by simp)
        name := alwaysText message.name (by simpa using carried "name")
        since := maybeNumber message.since (by simpa using carried "since")
        deprecatedSince := maybeNumber message.deprecatedSince (by simpa using carried "deprecated_since")
        destructor := maybeFlag message.destructor (by simpa using carried "destructor")
        description := maybeDescription message.description (by simpa using carried "description")
        args }

theorem entryAt_of_carries
    {node : Node}
    {entry : Model.Entry}
    (carries : Carries node (entryTree entry)) :
    EntryAt node (.of entry) := by
  cases carries with
  | @mapping nodes _ line carry =>
      have carried := carried_entryNamed? carry line
      simp only [List.lookup_append, List.lookup_cons, lookup_numberEntry, lookup_textEntry,
        lookup_descriptionEntry] at carried
      have keys := ((((List.Sublist.refl ["name", "value"]).append
        (keys_numberEntry "since" entry.since)).append
        (keys_numberEntry "deprecated_since" entry.deprecatedSince)).append
        (keys_textEntry "summary" entry.summary)).append
        (keys_descriptionEntry entry.description)
      exact {
        record := recordAt_of_carry carry (by simpa using keys) (by simp)
        name := alwaysText entry.name (by simpa using carried "name")
        value := alwaysNumber entry.value.toNat (by simpa using carried "value")
        since := maybeNumber entry.since (by simpa using carried "since")
        deprecatedSince := maybeNumber entry.deprecatedSince (by simpa using carried "deprecated_since")
        summary := maybeText entry.summary (by simpa using carried "summary")
        description := maybeDescription entry.description (by simpa using carried "description") }

theorem enumerationAt_of_carries
    {node : Node}
    {enumeration : Model.Enumeration}
    (carries : Carries node (enumerationTree enumeration)) :
    EnumerationAt node (.of enumeration) := by
  cases carries with
  | @mapping nodes _ line carry =>
      have carried := carried_entryNamed? carry line
      simp only [List.lookup_append, List.lookup_cons, lookup_numberEntry, lookup_flagEntry,
        lookup_descriptionEntry] at carried
      have keys := ((((List.Sublist.refl ["name"]).append
        (keys_numberEntry "since" enumeration.since)).append
        (keys_flagEntry "bitfield" enumeration.bitfield)).append
        (keys_descriptionEntry enumeration.description)).append
        (List.Sublist.refl ["entries"])
      have entries : Option.Rel Carries (entryNamed? "entries" (.mapping "!!map" nodes line))
          (some (.list (enumeration.entries.map entryTree))) := by
        simpa using carried "entries"
      exact {
        record := recordAt_of_carry carry (by simpa using keys) (by simp)
        name := alwaysText enumeration.name (by simpa using carried "name")
        since := maybeNumber enumeration.since (by simpa using carried "since")
        bitfield := maybeFlag enumeration.bitfield (by simpa using carried "bitfield")
        description := maybeDescription enumeration.description (by simpa using carried "description")
        entries := alwaysGivenList entries fun _ _ _ => entryAt_of_carries }

theorem interfaceAt_of_carries
    {node : Node}
    {interface : Model.Interface}
    (carries : Carries node (interfaceTree interface)) :
    InterfaceAt node (.of interface) := by
  cases carries with
  | @mapping nodes _ line carry =>
      have carried := carried_entryNamed? carry line
      simp only [List.lookup_append, List.lookup_cons, lookup_flagEntry, lookup_descriptionEntry,
        lookup_listEntry] at carried
      have keys := (((((List.Sublist.refl ["name", "version"]).append
        (keys_flagEntry "frozen" interface.frozen)).append
        (keys_descriptionEntry interface.description)).append
        (keys_listEntry "requests" messageTree interface.requests)).append
        (keys_listEntry "events" messageTree interface.events)).append
        (keys_listEntry "enums" enumerationTree interface.enumerations)
      exact {
        record := recordAt_of_carry carry (by simpa using keys) (by simp)
        name := alwaysText interface.name (by simpa using carried "name")
        version := alwaysNumber interface.version.toNat (by simpa using carried "version")
        frozen := maybeFlag interface.frozen (by simpa using carried "frozen")
        description := maybeDescription interface.description (by simpa using carried "description")
        requests := maybeList (by simpa using carried "requests")
          fun _ _ _ => messageAt_of_carries
        events := maybeList (by simpa using carried "events") fun _ _ _ => messageAt_of_carries
        enumerations := maybeList (by simpa using carried "enums")
          fun _ _ _ => enumerationAt_of_carries }

theorem protocolAt_of_carries
    {node : Node}
    {protocol : Model.Protocol}
    (carries : Carries node (protocolTree protocol)) :
    ProtocolAt node (.of protocol) := by
  cases carries with
  | @mapping nodes _ line carry =>
      have carried := carried_entryNamed? carry line
      simp only [List.lookup_append, List.lookup_cons, lookup_textEntry,
        lookup_descriptionEntry] at carried
      have keys := (((List.Sublist.refl ["name"]).append
        (keys_textEntry "copyright" protocol.copyright)).append
        (keys_descriptionEntry protocol.description)).append
        (List.Sublist.refl ["interfaces"])
      have interfaces : Option.Rel Carries
          (entryNamed? "interfaces" (.mapping "!!map" nodes line))
          (some (.list (protocol.interfaces.map interfaceTree))) := by
        simpa using carried "interfaces"
      exact {
        record := recordAt_of_carry carry (by simpa using keys) (by simp)
        name := alwaysText protocol.name (by simpa using carried "name")
        copyright := maybeText protocol.copyright (by simpa using carried "copyright")
        description := maybeDescription protocol.description (by simpa using carried "description")
        interfaces := alwaysList interfaces fun _ _ _ => interfaceAt_of_carries }

end Nodes

end Outline

end Wayland.Document
