import Wayland.Document.Mapping

/-!
Contract: protocol documents apart from any syntax.

Owns:
- the outline of a document: its names, texts and flags, numbers of any size, and which of them are
  left out;
- which outlines a reader can accept, and the model they stand for.

Does not own: how an outline is written.
-/

namespace Wayland.Document.Outline

open Wayland.Document.FromMapping (normalDescription)
open Wayland.Model (Arg Description)
open Wayland.Text (normalize trim)

/-- A request or an event as it is written. -/
structure Message where
  name : String
  since? : Option Nat := none
  deprecatedSince? : Option Nat := none
  destructor : Bool := false
  description : Description := {}
  args : List Arg := []
deriving DecidableEq

/-- An entry of an enumeration as it is written. -/
structure Entry where
  name : String
  value : Nat
  since? : Option Nat := none
  deprecatedSince? : Option Nat := none
  summary : String := ""
  description : Description := {}
deriving DecidableEq

/-- An enumeration as it is written. -/
structure Enumeration where
  name : String
  since? : Option Nat := none
  bitfield : Bool := false
  description : Description := {}
  entries? : Option (List Entry) := none
deriving DecidableEq

def Enumeration.entries
    (enumeration : Enumeration) :
    List Entry :=
  enumeration.entries?.getD []

/-- An interface as it is written. -/
structure Interface where
  name : String
  version : Nat
  frozen : Bool := false
  description : Description := {}
  requests : List Message := []
  events : List Message := []
  enumerations : List Enumeration := []
deriving DecidableEq

/-- A protocol document as it is written. -/
structure Protocol where
  name : String
  copyright : String := ""
  description : Description := {}
  interfaces : List Interface := []
deriving DecidableEq

/-! ## What can be read -/

/-- A number that may be left out fits into 32 bits. -/
def Fits
    (number? : Option Nat) : Prop :=
  number?.getD 0 < UInt32.size

def IsTyped
    (arg : Arg) : Prop :=
  (Wire.Kind.ofName? arg.typeName).isSome = true

/-- The numbers of a message fit, and its arguments have types. -/
def Message.Readable
    (message : Message) : Prop :=
  Fits message.since? ∧ Fits message.deprecatedSince? ∧ ∀ arg ∈ message.args, IsTyped arg

def Entry.Readable
    (entry : Entry) : Prop :=
  entry.value < UInt32.size ∧ Fits entry.since? ∧ Fits entry.deprecatedSince?

/-- The numbers of an enumeration and of its entries fit. -/
def Enumeration.Readable
    (enumeration : Enumeration) : Prop :=
  Fits enumeration.since? ∧ ∀ entry ∈ enumeration.entries, entry.Readable

/-- The messages of one direction can be read, and there is an opcode for each. -/
def MessagesReadable
    (messages : List Message) : Prop :=
  messages.length ≤ 0x10000 ∧ ∀ message ∈ messages, message.Readable

/-- The version fits, and all parts can be read. -/
def Interface.Readable
    (interface : Interface) : Prop :=
  interface.version < UInt32.size ∧ MessagesReadable interface.requests ∧
    MessagesReadable interface.events ∧
    ∀ enumeration ∈ interface.enumerations, enumeration.Readable

def Protocol.Readable
    (protocol : Protocol) : Prop :=
  protocol.interfaces ≠ [] ∧ ∀ interface ∈ protocol.interfaces, interface.Readable

/-! ## What is well formed -/

def Message.Named
    (message : Message) : Prop :=
  message.name ≠ "" ∧ ∀ arg ∈ message.args, arg.name ≠ ""

def Enumeration.Named
    (enumeration : Enumeration) : Prop :=
  enumeration.name ≠ "" ∧ ∀ entry ∈ enumeration.entries, entry.name ≠ ""

def Interface.Named
    (interface : Interface) : Prop :=
  interface.name ≠ "" ∧ (∀ message ∈ interface.requests, message.Named) ∧
    (∀ message ∈ interface.events, message.Named) ∧
    ∀ enumeration ∈ interface.enumerations, enumeration.Named

def Protocol.Named
    (protocol : Protocol) : Prop :=
  protocol.name ≠ "" ∧ ∀ interface ∈ protocol.interfaces, interface.Named

/-- No version zero is given as the first one of an enumeration or of its entries. -/
def Enumeration.Dated
    (enumeration : Enumeration) : Prop :=
  enumeration.since? ≠ some 0 ∧ ∀ entry ∈ enumeration.entries, entry.since? ≠ some 0

/-- No version zero is given as the first one of a part of the interface. -/
def Interface.Dated
    (interface : Interface) : Prop :=
  (∀ message ∈ interface.requests, message.since? ≠ some 0) ∧
    (∀ message ∈ interface.events, message.since? ≠ some 0) ∧
    ∀ enumeration ∈ interface.enumerations, enumeration.Dated

/-- Every first version that is given is at least one. -/
def Protocol.Dated
    (protocol : Protocol) : Prop :=
  ∀ interface ∈ protocol.interfaces, interface.Dated

/-- No message of the interface gives zero as its first version. -/
def Interface.MessagesDated
    (interface : Interface) : Prop :=
  (∀ message ∈ interface.requests, message.since? ≠ some 0) ∧
    ∀ message ∈ interface.events, message.since? ≠ some 0

/-- No message gives zero as its first version. -/
def Protocol.MessagesDated
    (protocol : Protocol) : Prop :=
  ∀ interface ∈ protocol.interfaces, interface.MessagesDated

theorem Protocol.Dated.messages
    {protocol : Protocol}
    (dated : protocol.Dated) :
    protocol.MessagesDated :=
  fun interface isMember => ⟨(dated interface isMember).1, (dated interface isMember).2.1⟩

/-! ## Zeros left out -/

/-- A first version, left out where it is zero. -/
def unlessZero
    (since? : Option Nat) :
    Option Nat :=
  since?.filter (· ≠ 0)

theorem unlessZero_eq_self
    {since? : Option Nat}
    (dated : since? ≠ some 0) :
    unlessZero since? = since? := by
  cases since? with
  | none => rfl
  | some since =>
      have notZero : since ≠ 0 := fun isZero => dated (congrArg some isZero)
      simp [unlessZero, notZero]

/-- The message with a first version of zero left out. -/
def Message.withoutZero
    (message : Message) :
    Message :=
  { message with since? := unlessZero message.since? }

/-- The entry with a first version of zero left out. -/
def Entry.withoutZero
    (entry : Entry) :
    Entry :=
  { entry with since? := unlessZero entry.since? }

/-- The enumeration with first versions of zero left out. -/
def Enumeration.withoutZeros
    (enumeration : Enumeration) :
    Enumeration :=
  { enumeration with
    since? := unlessZero enumeration.since?
    entries? := enumeration.entries?.map (·.map Entry.withoutZero) }

/-- The interface with first versions of zero left out. -/
def Interface.withoutZeros
    (interface : Interface) :
    Interface :=
  { interface with
    requests := interface.requests.map Message.withoutZero
    events := interface.events.map Message.withoutZero
    enumerations := interface.enumerations.map Enumeration.withoutZeros }

/-- The document with first versions of zero left out. -/
def Protocol.withoutZeros
    (protocol : Protocol) :
    Protocol :=
  { protocol with interfaces := protocol.interfaces.map Interface.withoutZeros }

theorem map_withoutZero
    {messages : List Message}
    (dated : ∀ message ∈ messages, message.since? ≠ some 0) :
    messages.map Message.withoutZero = messages := by
  rw [List.map_congr_left, List.map_id]
  intro message isMember
  rw [Message.withoutZero, unlessZero_eq_self (dated message isMember)]
  rfl

theorem Enumeration.withoutZeros_eq_self
    {enumeration : Enumeration}
    (dated : enumeration.Dated) :
    enumeration.withoutZeros = enumeration := by
  have entries : enumeration.entries?.map (·.map Entry.withoutZero) = enumeration.entries? := by
    cases given : enumeration.entries? with
    | none => rfl
    | some entries =>
        have areDated : ∀ entry ∈ entries, entry.since? ≠ some 0 := fun entry isMember =>
          dated.2 entry (by rwa [Enumeration.entries, given])
        rw [Option.map_some, List.map_congr_left, List.map_id]
        intro entry isMember
        rw [Entry.withoutZero, unlessZero_eq_self (areDated entry isMember)]
        rfl
  rw [Enumeration.withoutZeros, unlessZero_eq_self dated.1, entries]

theorem Protocol.withoutZeros_eq_self
    {protocol : Protocol}
    (dated : protocol.Dated) :
    protocol.withoutZeros = protocol := by
  have each : ∀ interface ∈ protocol.interfaces, interface.withoutZeros = id interface := by
    intro interface isMember
    obtain ⟨requests, events, enumerations⟩ := dated interface isMember
    have same : interface.enumerations.map Enumeration.withoutZeros = interface.enumerations := by
      rw [List.map_congr_left, List.map_id]
      exact fun enumeration isEnumeration =>
        Enumeration.withoutZeros_eq_self (enumerations enumeration isEnumeration)
    rw [Interface.withoutZeros, map_withoutZero requests, map_withoutZero events, same]
    rfl
  rw [Protocol.withoutZeros, List.map_congr_left each, List.map_id]

/-! ## Models -/

def normalArg
    (arg : Arg) :
    Arg :=
  { arg with
    summary := trim arg.summary
    description := normalDescription arg.description }

def Message.model
    (message : Message)
    (opcode : Nat) :
    Model.Message where
  name := message.name
  opcode := UInt16.ofNat opcode
  since := UInt32.ofNat (message.since?.getD 1)
  deprecatedSince := UInt32.ofNat (message.deprecatedSince?.getD 0)
  destructor := message.destructor
  description := normalDescription message.description
  args := message.args.map normalArg

/-- The models of messages, with opcodes counted from a first one. -/
def models
    (first : Nat)
    (messages : List Message) :
    List Model.Message :=
  (messages.zipIdx first).map fun numbered => numbered.1.model numbered.2

def Entry.model
    (entry : Entry) :
    Model.Entry where
  name := entry.name
  value := UInt32.ofNat entry.value
  since := UInt32.ofNat (entry.since?.getD 1)
  deprecatedSince := UInt32.ofNat (entry.deprecatedSince?.getD 0)
  summary := trim entry.summary
  description := normalDescription entry.description

def Enumeration.model
    (enumeration : Enumeration) :
    Model.Enumeration where
  name := enumeration.name
  since := UInt32.ofNat (enumeration.since?.getD 1)
  bitfield := enumeration.bitfield
  description := normalDescription enumeration.description
  entries? := enumeration.entries?.map (·.map Entry.model)

def Interface.model
    (interface : Interface) :
    Model.Interface where
  name := interface.name
  version := UInt32.ofNat interface.version
  frozen := interface.frozen
  description := normalDescription interface.description
  requests := models 0 interface.requests
  events := models 0 interface.events
  enumerations := interface.enumerations.map Enumeration.model

def Protocol.model
    (protocol : Protocol)
    (document : String) :
    Model.Protocol where
  name := protocol.name
  document
  copyright := normalize protocol.copyright
  description := normalDescription protocol.description
  interfaces := protocol.interfaces.map Interface.model

theorem models_nil
    (first : Nat) :
    models first [] = [] :=
  rfl

theorem models_cons
    (first : Nat)
    (message : Message)
    (rest : List Message) :
    models first (message :: rest) = message.model first :: models (first + 1) rest :=
  rfl

end Wayland.Document.Outline
