import Wayland.Proofs.Document.Finishing
import Wayland.Proofs.Document.MarkupReading

/-!
Contract: what holds of every model that is read.

Owns:
- texts in normal form, arguments with kinds, and at least one interface, whichever reader gave the
  model;
- names and first versions, which the reader of YAML insists on.

Does not own: which documents are read.
-/

namespace Wayland.Document

open Wayland.Document.FromMapping (normalDescription)
open Wayland.Model
open Wayland.Text (normalize normalize_normalize trim trim_trim)
open Wayland.Wire (Direction bind_eq_ok_iff guard_eq_ok_iff)

/-! ## Settled models -/

def IsNormal
    (description : Description) : Prop :=
  normalDescription description = description

/-- An argument with a kind, whose texts are in normal form. -/
def ArgSettled
    (arg : Arg) : Prop :=
  Outline.IsTyped arg ∧ Outline.normalArg arg = arg

def MessageSettled
    (message : Message) : Prop :=
  IsNormal message.description ∧ ∀ arg ∈ message.args, ArgSettled arg

/-- The texts of an entry are in normal form. -/
def EntrySettled
    (entry : Entry) : Prop :=
  trim entry.summary = entry.summary ∧ IsNormal entry.description

/-- The texts and entries of an enumeration are settled. -/
def EnumerationSettled
    (enumeration : Enumeration) : Prop :=
  IsNormal enumeration.description ∧ ∀ entry ∈ enumeration.entries, EntrySettled entry

/-- The texts and parts of an interface are settled. -/
structure InterfaceSettled
    (interface : Interface) : Prop where
  description : IsNormal interface.description
  requests : ∀ message ∈ interface.requests, MessageSettled message
  events : ∀ message ∈ interface.events, MessageSettled message
  enumerations : ∀ enumeration ∈ interface.enumerations, EnumerationSettled enumeration

/-- The texts of a protocol are settled, and so are its interfaces, of which there is one. -/
structure ProtocolSettled
    (protocol : Protocol) : Prop where
  copyright : normalize protocol.copyright = protocol.copyright
  description : IsNormal protocol.description
  inhabited : protocol.interfaces ≠ []
  interfaces : ∀ interface ∈ protocol.interfaces, InterfaceSettled interface

/-- A message with a first version and all names. -/
def MessageComplete
    (message : Message) : Prop :=
  message.name ≠ "" ∧ message.since ≠ 0 ∧ ∀ arg ∈ message.args, arg.name ≠ ""

/-- An enumeration with first versions and all names. -/
def EnumerationComplete
    (enumeration : Enumeration) : Prop :=
  enumeration.name ≠ "" ∧ enumeration.since ≠ 0 ∧
    ∀ entry ∈ enumeration.entries, entry.name ≠ "" ∧ entry.since ≠ 0

/-- An interface with first versions and all names. -/
structure InterfaceComplete
    (interface : Interface) : Prop where
  name : interface.name ≠ ""
  requests : ∀ message ∈ interface.requests, MessageComplete message
  events : ∀ message ∈ interface.events, MessageComplete message
  enumerations : ∀ enumeration ∈ interface.enumerations, EnumerationComplete enumeration

/-- A protocol with first versions and all names. -/
structure ProtocolComplete
    (protocol : Protocol) : Prop where
  name : protocol.name ≠ ""
  interfaces : ∀ interface ∈ protocol.interfaces, InterfaceComplete interface

theorem isNormal_normalDescription
    (description : Description) :
    IsNormal (normalDescription description) := by
  unfold IsNormal normalDescription
  rw [trim_trim, normalize_normalize]

theorem isNormal_empty :
    IsNormal {} := by
  unfold IsNormal
  decide

theorem isNormal_getD
    {found : Option Description}
    (normal : ∀ description ∈ found, IsNormal description) :
    IsNormal (found.getD {}) := by
  cases found with
  | none => exact isNormal_empty
  | some description => exact normal description rfl

/-! ## Markup -/

namespace FromMarkup

variable {document : String} {path : Path} {element : Element}

theorem description_isNormal
    {earlier found : Option Description}
    (read : FromMarkup.description document path element earlier = .ok found) :
    ∀ description ∈ found, IsNormal description := by
  simp only [FromMarkup.description] at read
  obtain ⟨-, read⟩ := (guard_eq_ok_iff ⟨_, rfl⟩).mp read
  simp only [bind_eq_ok_iff] at read
  obtain ⟨values, -, text, -, made⟩ := read
  cases made
  rintro _ ⟨⟩
  exact isNormal_normalDescription ⟨(values.lookup "summary").getD "", text⟩

theorem onlyDescription_isNormal
    {found : Option Description}
    (read : children document path element none (onlyDescription document path) = .ok found) :
    ∀ description ∈ found, IsNormal description := by
  refine @children_preserves _ document path (onlyDescription document path)
    (fun _ found => ∀ description ∈ found, IsNormal description) element none found ?_ (by simp)
    read
  intro before found child after _ stepped
  unfold onlyDescription at stepped
  split at stepped
  · exact description_isNormal stepped
  · cases stepped

theorem forall_mem_push
    {α : Type}
    {settled : α → Prop}
    {items : Array α}
    {item : α}
    (before : ∀ value ∈ items.toList, settled value)
    (isSettled : settled item) :
    ∀ value ∈ (items.push item).toList, settled value := by
  rw [Array.toList_push, List.forall_mem_append, List.forall_mem_singleton]
  exact ⟨before, isSettled⟩

section Parts

variable {α : Type} {tag : String} {item : Element → Except Error α} {settled : α → Prop}

def PartsSettled
    (settled : α → Prop)
    (parts : Parts α) : Prop :=
  (∀ description ∈ parts.description, IsNormal description) ∧
    ∀ value ∈ parts.items.toList, settled value

theorem parts_settled
    {parts : Parts α}
    (each : ∀ child value, item child = .ok value → settled value)
    (read : children document path element {} (partsChild document path tag item) = .ok parts) :
    PartsSettled settled parts := by
  refine @children_preserves _ document path (partsChild document path tag item)
    (fun _ parts => PartsSettled settled parts) element {} parts ?_ ?_ read
  · intro before parts child after ⟨normal, areSettled⟩ stepped
    unfold partsChild at stepped
    split at stepped
    · obtain ⟨description, isRead, made⟩ := bind_eq_ok_iff.mp stepped
      cases made
      exact ⟨description_isNormal isRead, areSettled⟩
    split at stepped
    · obtain ⟨value, isRead, made⟩ := bind_eq_ok_iff.mp stepped
      cases made
      exact ⟨normal, forall_mem_push areSettled (each child value isRead)⟩
    · cases stepped
  · exact ⟨by simp, by simp⟩

end Parts

theorem arg_settled
    {arg : Arg}
    (read : FromMarkup.arg document path element = .ok arg) :
    ArgSettled arg := by
  simp only [FromMarkup.arg, bind_eq_ok_iff] at read
  obtain ⟨values, -, read⟩ := read
  obtain ⟨isTyped, read⟩ := (guard_eq_ok_iff ⟨_, rfl⟩).mp read
  simp only [bind_eq_ok_iff] at read
  obtain ⟨nullable, -, found, readChildren, made⟩ := read
  cases made
  have normal := isNormal_getD (onlyDescription_isNormal readChildren)
  refine ⟨by simpa [Outline.IsTyped, Option.isSome_iff_ne_none] using isTyped, ?_⟩
  unfold IsNormal at normal
  simp only [Outline.normalArg, trim_trim, normal]

theorem message_settled
    {opcode : Nat}
    {message : Message}
    (read : FromMarkup.message document path opcode element = .ok message) :
    MessageSettled message := by
  simp only [FromMarkup.message, bind_eq_ok_iff] at read
  obtain ⟨values, -, read⟩ := read
  obtain ⟨-, read⟩ := (guard_eq_ok_iff ⟨_, rfl⟩).mp read
  split at read <;>
  · simp only [bind_eq_ok_iff] at read
    obtain ⟨destructor, -, since, -, deprecatedSince, -, parts, readParts, made⟩ := read
    cases made
    have areSettled : PartsSettled ArgSettled parts :=
      @parts_settled document _ element _ "arg" _ _ parts (fun _ _ => arg_settled) readParts
    exact ⟨isNormal_getD areSettled.1, areSettled.2⟩

theorem entry_settled
    {entry : Entry}
    (read : FromMarkup.entry document path element = .ok entry) :
    EntrySettled entry := by
  simp only [FromMarkup.entry, bind_eq_ok_iff] at read
  obtain ⟨values, -, number, -, since, -, deprecatedSince, -, found, readChildren, made⟩ := read
  cases made
  exact ⟨trim_trim _, isNormal_getD (onlyDescription_isNormal readChildren)⟩

theorem enumeration_settled
    {enumeration : Enumeration}
    (read : FromMarkup.enumeration document path element = .ok enumeration) :
    EnumerationSettled enumeration := by
  simp only [FromMarkup.enumeration, bind_eq_ok_iff] at read
  obtain ⟨values, -, since, -, bitfield, -, parts, readParts, made⟩ := read
  cases made
  have areSettled : PartsSettled EntrySettled parts :=
    @parts_settled document _ element _ "entry" _ _ parts (fun _ _ => entry_settled) readParts
  refine ⟨isNormal_getD areSettled.1, fun entry isEntry => areSettled.2 entry ?_⟩
  unfold Enumeration.entries at isEntry
  dsimp only at isEntry
  split at isEntry
  · cases isEntry
  · exact isEntry

/-- What holds of the parts of an interface that are read so far. -/
structure InterfacePartsSettled
    (parts : InterfaceParts) : Prop where
  description : ∀ description ∈ parts.description, IsNormal description
  requests : ∀ message ∈ parts.requests.toList, MessageSettled message
  events : ∀ message ∈ parts.events.toList, MessageSettled message
  enumerations : ∀ enumeration ∈ parts.enumerations.toList, EnumerationSettled enumeration

theorem InterfacePartsSettled.child
    {parts after : InterfaceParts}
    (areSettled : InterfacePartsSettled parts)
    (stepped : interfaceChild document path parts element = .ok after) :
    InterfacePartsSettled after := by
  simp only [interfaceChild] at stepped
  split at stepped
  · obtain ⟨description, isRead, made⟩ := bind_eq_ok_iff.mp stepped
    cases made
    exact { areSettled with description := description_isNormal isRead }
  split at stepped
  · obtain ⟨message, isRead, made⟩ := bind_eq_ok_iff.mp stepped
    cases made
    exact { areSettled with
      requests := forall_mem_push areSettled.requests (message_settled isRead) }
  split at stepped
  · obtain ⟨message, isRead, made⟩ := bind_eq_ok_iff.mp stepped
    cases made
    exact { areSettled with
      events := forall_mem_push areSettled.events (message_settled isRead) }
  split at stepped
  · obtain ⟨enumeration, isRead, made⟩ := bind_eq_ok_iff.mp stepped
    cases made
    exact { areSettled with
      enumerations := forall_mem_push areSettled.enumerations (enumeration_settled isRead) }
  · cases stepped

theorem interface_settled
    {interface : Interface}
    (read : FromMarkup.interface document path element = .ok interface) :
    InterfaceSettled interface := by
  simp only [FromMarkup.interface, bind_eq_ok_iff] at read
  obtain ⟨values, -, version, -, frozen, -, parts, readParts, made⟩ := read
  cases made
  have whole := @children_preserves _ document _ _ (fun _ => InterfacePartsSettled) element {} parts
    (fun _ _ _ _ areSettled stepped => areSettled.child stepped)
    ⟨by simp, by simp, by simp, by simp⟩ readParts
  exact {
    description := isNormal_getD whole.description
    requests := whole.requests
    events := whole.events
    enumerations := whole.enumerations }

/-- What holds of the parts of a protocol that are read so far. -/
structure ProtocolPartsSettled
    (parts : ProtocolParts) : Prop where
  copyright : ∀ copyright ∈ parts.copyright, normalize copyright = copyright
  description : ∀ description ∈ parts.description, IsNormal description
  interfaces : ∀ interface ∈ parts.interfaces.toList, InterfaceSettled interface

theorem ProtocolPartsSettled.child
    {parts after : ProtocolParts}
    (areSettled : ProtocolPartsSettled parts)
    (stepped : protocolChild document path parts element = .ok after) :
    ProtocolPartsSettled after := by
  simp only [protocolChild] at stepped
  split at stepped
  · obtain ⟨-, stepped⟩ := (guard_eq_ok_iff ⟨_, rfl⟩).mp stepped
    simp only [bind_eq_ok_iff] at stepped
    obtain ⟨values, -, text, -, made⟩ := stepped
    cases made
    refine { areSettled with copyright := ?_ }
    rintro _ ⟨⟩
    exact normalize_normalize text
  split at stepped
  · obtain ⟨description, isRead, made⟩ := bind_eq_ok_iff.mp stepped
    cases made
    exact { areSettled with description := description_isNormal isRead }
  split at stepped
  · obtain ⟨interface, isRead, made⟩ := bind_eq_ok_iff.mp stepped
    cases made
    exact { areSettled with
      interfaces := forall_mem_push areSettled.interfaces (interface_settled isRead) }
  · cases stepped

theorem protocol_settled
    {protocol : Protocol}
    (read : FromMarkup.protocol document element = .ok protocol) :
    ProtocolSettled protocol := by
  simp only [FromMarkup.protocol, bind_eq_ok_iff] at read
  obtain ⟨values, -, parts, readParts, read⟩ := read
  have whole := @children_preserves _ document _ _ (fun _ => ProtocolPartsSettled) element {} parts
    (fun _ _ _ _ areSettled stepped => areSettled.child stepped) ⟨by simp, by simp, by simp⟩
    readParts
  obtain ⟨notEmpty, made⟩ := (guard_eq_ok_iff ⟨_, rfl⟩).mp read
  cases made
  refine ⟨?_, isNormal_getD whole.description, by simpa using notEmpty, whole.interfaces⟩
  cases isCopyright : parts.copyright with
  | none =>
      show normalize "" = ""
      decide
  | some copyright => exact whole.copyright copyright isCopyright

theorem readMarkup_settled
    {bytes : Text.Bytes}
    {protocol : Protocol}
    (read : readMarkup document bytes = .ok protocol) :
    ProtocolSettled protocol := by
  obtain ⟨element, -, isRead⟩ := root_eq_ok read
  exact protocol_settled isRead

end FromMarkup

/-! ## Mappings -/

namespace FromMapping

variable {document : String} {spot : Spot}

theorem normalArg_settled
    {arg : Arg}
    (isTyped : Outline.IsTyped arg) :
    ArgSettled (Outline.normalArg arg) := by
  refine ⟨isTyped, ?_⟩
  have normal := isNormal_normalDescription arg.description
  unfold IsNormal at normal
  simp only [Outline.normalArg, trim_trim, normal]

theorem finishedMessages_settled
    {messages : List Message}
    (fits : MessagesFit spot messages) :
    ∀ message ∈ finishedMessages messages, MessageSettled message ∧ MessageComplete message := by
  refine List.forall_mem_map.mpr fun numbered isNumbered => ?_
  obtain ⟨own, name, -, args⟩ := exists_spot fits.each (List.fst_mem_of_mem_zipIdx isNumbered)
  refine ⟨⟨isNormal_normalDescription _, ?_⟩, name, sinceOrOne_ne_zero _, ?_⟩
  · exact List.forall_mem_map.mpr fun arg isArg => normalArg_settled (args arg isArg).1
  · exact List.forall_mem_map.mpr fun arg isArg => (args arg isArg).2

theorem finishedEnumeration_settled
    {enumeration : Enumeration}
    (fits : EnumerationFits spot enumeration) :
    EnumerationSettled (finishedEnumeration enumeration) ∧
      EnumerationComplete (finishedEnumeration enumeration) := by
  have entries : (finishedEnumeration enumeration).entries =
      enumeration.entries.map finishedEntry := by
    unfold finishedEnumeration Enumeration.entries
    cases enumeration.entries? <;> rfl
  constructor
  · refine ⟨isNormal_normalDescription _, ?_⟩
    rw [entries, List.forall_mem_map]
    exact fun entry _ => ⟨trim_trim _, isNormal_normalDescription _⟩
  · refine ⟨fits.name, sinceOrOne_ne_zero _, ?_⟩
    rw [entries, List.forall_mem_map]
    intro entry isEntry
    obtain ⟨own, name, -⟩ := exists_spot fits.entries isEntry
    exact ⟨name, sinceOrOne_ne_zero _⟩

theorem finishedInterface_settled
    {interface : Interface}
    (fits : InterfaceFits spot interface) :
    InterfaceSettled (finishedInterface interface) ∧
      InterfaceComplete (finishedInterface interface) := by
  have requests := finishedMessages_settled fits.requests
  have events := finishedMessages_settled fits.events
  have enumerations : ∀ enumeration ∈ interface.enumerations.map finishedEnumeration,
      EnumerationSettled enumeration ∧ EnumerationComplete enumeration := by
    refine List.forall_mem_map.mpr fun enumeration isMember => ?_
    obtain ⟨own, enumerationFits⟩ := exists_spot fits.enumerations isMember
    exact finishedEnumeration_settled enumerationFits
  constructor
  · exact {
      description := isNormal_normalDescription _
      requests := fun message isRequest => (requests message isRequest).1
      events := fun message isEvent => (events message isEvent).1
      enumerations := fun enumeration isMember => (enumerations enumeration isMember).1 }
  · exact {
      name := fits.name
      requests := fun message isRequest => (requests message isRequest).2
      events := fun message isEvent => (events message isEvent).2
      enumerations := fun enumeration isMember => (enumerations enumeration isMember).2 }

theorem finishedProtocol_settled
    {root : Yaml.Node}
    {written : Protocol}
    (fits : ProtocolFits root written) :
    ProtocolSettled (finishedProtocol document written) ∧
      ProtocolComplete (finishedProtocol document written) := by
  have interfaces : ∀ interface ∈ written.interfaces.map finishedInterface,
      InterfaceSettled interface ∧ InterfaceComplete interface := by
    refine List.forall_mem_map.mpr fun interface isMember => ?_
    obtain ⟨own, interfaceFits⟩ := exists_spot fits.interfaces isMember
    exact finishedInterface_settled interfaceFits
  constructor
  · exact {
      copyright := by simp only [finishedProtocol, normalize_normalize]
      description := isNormal_normalDescription written.description
      inhabited := mt List.map_eq_nil_iff.mp fits.inhabited
      interfaces := fun interface isMember => (interfaces interface isMember).1 }
  · exact {
      name := fits.name
      interfaces := fun interface isMember => (interfaces interface isMember).2 }

theorem readMapping_settled
    {bytes : Text.Bytes}
    {protocol : Protocol}
    (read : readMapping document bytes = .ok protocol) :
    ProtocolSettled protocol ∧ ProtocolComplete protocol := by
  obtain ⟨tree, written, -, -, fits, rfl⟩ := exists_decoded read
  exact finishedProtocol_settled fits

end FromMapping

end Wayland.Document
