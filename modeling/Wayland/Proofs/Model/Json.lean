import Wayland.Model.Json
import Wayland.Proofs.Json.Reading

/-!
Contract: models are read back from their JSON form.

Owns:
- the members of objects, where a member that was left out is empty, zero, false or no list;
- models from JSON values, member by member;
- that the JSON form of a model is read as this model, with its texts mended.

Does not own: the text of a JSON value.
-/

namespace Wayland.Json

/-! ## Members -/

def Value.member? : Value → String → Option Value
  | .object members, key => members.lookup key
  | _, _ => none

/-- The text of a member; empty if there is none. -/
def textOf : Option Value → String
  | some (.text text) => text
  | _ => ""

def numberOf : Option Value → Nat
  | some (.number number) => number.toNat
  | _ => 0

def flagOf : Option Value → Bool
  | some (.bool flag) => flag
  | _ => false

def listOf? : Option Value → Option (List Value)
  | some (.list items) => some items
  | _ => none

/-- Names of members that differ and have no stray bytes. -/
def ArePlain
    (keys : List String) : Prop :=
  keys.Nodup ∧ ∀ key ∈ keys, mend key = key

instance : DecidablePred ArePlain :=
  fun _ => inferInstanceAs (Decidable (_ ∧ _))

/-- The members of an object that was made with or without some of them. -/
theorem member?_mended
    {value : Value}
    {members : List (String × Option Value)}
    (isObject : value = .ofOptions members)
    (keys : List String)
    (areKeys : members.map Prod.fst = keys)
    (arePlain : ArePlain keys)
    (key : String) :
    value.mended.member? key = (members.lookup key).bind (·.map Value.mended) := by
  subst isObject areKeys
  obtain ⟨distinct, plain⟩ := arePlain
  rw [Value.ofOptions, Value.mended, mendedMembers_eq, Value.member?]
  induction members with
  | nil => rfl
  | cons member members inductionHypothesis =>
      obtain ⟨name, value?⟩ := member
      obtain ⟨isNew, others⟩ := List.nodup_cons.mp distinct
      obtain ⟨isPlain, arePlain⟩ := List.forall_mem_cons.mp plain
      have rest := inductionHypothesis others arePlain
      rw [List.lookup_cons]
      cases value? with
      | none =>
          rw [List.filterMap_cons_none rfl, rest]
          cases same : key == name with
          | false => rfl
          | true =>
              have notLater : members.lookup key = none := by
                refine List.lookup_eq_none_iff.mpr fun member isMember => ?_
                have isListed : member.1 ∈ members.map Prod.fst := List.mem_map_of_mem isMember
                rw [eq_of_beq same]
                exact bne_iff_ne.mpr fun isName => isNew (isName ▸ isListed)
              rw [notLater]
              rfl
      | some value =>
          simp only [List.filterMap_cons, Option.map_some, List.map_cons, isPlain, List.lookup_cons]
          rw [rest]
          cases key == name <;> rfl

section Kinds

variable {text : String} {number : Nat} {flag : Bool} {items : List Value}

@[simp]
theorem textOf_text :
    textOf (some (.text text)) = text :=
  rfl

@[simp]
theorem textOf_nonEmpty :
    textOf ((Value.nonEmpty text).map Value.mended) = mend text := by
  unfold Value.nonEmpty
  split
  · rename_i isEmpty
    rw [String.isEmpty_iff.mp isEmpty]
    decide
  · rfl

@[simp]
theorem numberOf_number :
    numberOf (some (.number number)) = number :=
  rfl

@[simp]
theorem numberOf_nonZero :
    numberOf ((Value.nonZero number).map Value.mended) = number := by
  unfold Value.nonZero
  split
  · rename_i isZero
    exact isZero.symm
  · rfl

@[simp]
theorem flagOf_whenTrue :
    flagOf ((Value.whenTrue flag).map Value.mended) = flag := by
  cases flag <;> rfl

@[simp]
theorem listOf?_list :
    listOf? (some (.list items)) = some items :=
  rfl

@[simp]
theorem listOf?_null :
    listOf? (some .null) = none :=
  rfl

@[simp]
theorem listOf?_nonEmptyList :
    (listOf? ((Value.nonEmptyList items).map Value.mended)).getD [] = items.map Value.mended := by
  unfold Value.nonEmptyList
  split
  · rename_i isEmpty
    rw [List.isEmpty_iff.mp isEmpty]
    rfl
  · rw [Option.map_some, Value.mended_list, listOf?_list, Option.getD_some]

end Kinds

end Wayland.Json

namespace Wayland.Model

open Wayland.Json

/-! ## Reading -/

def Description.ofJson
    (value : Value) :
    Description where
  summary := textOf (value.member? "summary")
  text := textOf (value.member? "text")

def descriptionOf
    (value : Value) :
    Description :=
  Description.ofJson ((value.member? "description").getD .null)

def Arg.ofJson
    (value : Value) :
    Arg where
  name := textOf (value.member? "name")
  typeName := textOf (value.member? "type")
  nullable := flagOf (value.member? "allow_null")
  interface := textOf (value.member? "interface")
  enumeration := textOf (value.member? "enum")
  summary := textOf (value.member? "summary")
  description := descriptionOf value

def Message.ofJson
    (value : Value) :
    Message where
  name := textOf (value.member? "name")
  opcode := UInt16.ofNat (numberOf (value.member? "opcode"))
  since := UInt32.ofNat (numberOf (value.member? "since"))
  deprecatedSince := UInt32.ofNat (numberOf (value.member? "deprecated_since"))
  destructor := flagOf (value.member? "destructor")
  description := descriptionOf value
  args := ((listOf? (value.member? "args")).getD []).map Arg.ofJson

def Entry.ofJson
    (value : Value) :
    Entry where
  name := textOf (value.member? "name")
  value := UInt32.ofNat (numberOf (value.member? "value"))
  since := UInt32.ofNat (numberOf (value.member? "since"))
  deprecatedSince := UInt32.ofNat (numberOf (value.member? "deprecated_since"))
  summary := textOf (value.member? "summary")
  description := descriptionOf value

/-- An enumeration without a list of entries is told apart from one whose list is empty. -/
def Enumeration.ofJson
    (value : Value) :
    Enumeration where
  name := textOf (value.member? "name")
  since := UInt32.ofNat (numberOf (value.member? "since"))
  bitfield := flagOf (value.member? "bitfield")
  description := descriptionOf value
  entries? := (listOf? (value.member? "entries")).map (·.map Entry.ofJson)

def Interface.ofJson
    (value : Value) :
    Interface where
  name := textOf (value.member? "name")
  version := UInt32.ofNat (numberOf (value.member? "version"))
  frozen := flagOf (value.member? "frozen")
  description := descriptionOf value
  requests := ((listOf? (value.member? "requests")).getD []).map Message.ofJson
  events := ((listOf? (value.member? "events")).getD []).map Message.ofJson
  enumerations := ((listOf? (value.member? "enums")).getD []).map Enumeration.ofJson

def Protocol.ofJson
    (value : Value) :
    Protocol where
  name := textOf (value.member? "name")
  document := textOf (value.member? "document")
  copyright := textOf (value.member? "copyright")
  description := descriptionOf value
  interfaces := ((listOf? (value.member? "interfaces")).getD []).map Interface.ofJson

/-! ## Mended models -/

def Description.mended
    (description : Description) :
    Description :=
  ⟨mend description.summary, mend description.text⟩

def Arg.mended
    (arg : Arg) :
    Arg :=
  { arg with
    name := mend arg.name
    typeName := mend arg.typeName
    interface := mend arg.interface
    enumeration := mend arg.enumeration
    summary := mend arg.summary
    description := arg.description.mended }

def Message.mended
    (message : Message) :
    Message :=
  { message with
    name := mend message.name
    description := message.description.mended
    args := message.args.map Arg.mended }

def Entry.mended
    (entry : Entry) :
    Entry :=
  { entry with
    name := mend entry.name
    summary := mend entry.summary
    description := entry.description.mended }

def Enumeration.mended
    (enumeration : Enumeration) :
    Enumeration :=
  { enumeration with
    name := mend enumeration.name
    description := enumeration.description.mended
    entries? := enumeration.entries?.map (·.map Entry.mended) }

def Interface.mended
    (interface : Interface) :
    Interface :=
  { interface with
    name := mend interface.name
    description := interface.description.mended
    requests := interface.requests.map Message.mended
    events := interface.events.map Message.mended
    enumerations := interface.enumerations.map Enumeration.mended }

/-- A protocol in whose texts a replacement character stands for each stray byte. -/
def Protocol.mended
    (protocol : Protocol) :
    Protocol where
  name := mend protocol.name
  document := mend protocol.document
  copyright := mend protocol.copyright
  description := protocol.description.mended
  interfaces := protocol.interfaces.map Interface.mended

/-! ## What is read back -/

theorem Description.ofJson_json
    (description : Description) :
    Description.ofJson description.json.mended = description.mended := by
  have members := member?_mended (rfl : description.json = .ofOptions _) ["summary", "text"] rfl
    (by decide)
  simp [Description.ofJson, Description.mended, members, List.lookup_cons]

theorem Arg.ofJson_json
    (arg : Arg) :
    Arg.ofJson arg.json.mended = arg.mended := by
  have members := member?_mended (rfl : arg.json = .ofOptions _)
    ["name", "type", "allow_null", "interface", "enum", "summary", "description"] rfl (by decide)
  simp [Arg.ofJson, Arg.mended, descriptionOf, members, List.lookup_cons, Description.ofJson_json]

theorem Message.ofJson_json
    (message : Message) :
    Message.ofJson message.json.mended = message.mended := by
  have members := member?_mended (rfl : message.json = .ofOptions _)
    ["name", "opcode", "since", "deprecated_since", "destructor", "description", "args"] rfl
    (by decide)
  simp [Message.ofJson, Message.mended, descriptionOf, members, List.lookup_cons,
    Description.ofJson_json, Arg.ofJson_json]

theorem Entry.ofJson_json
    (entry : Entry) :
    Entry.ofJson entry.json.mended = entry.mended := by
  have members := member?_mended (rfl : entry.json = .ofOptions _)
    ["name", "value", "since", "deprecated_since", "summary", "description"] rfl (by decide)
  simp [Entry.ofJson, Entry.mended, descriptionOf, members, List.lookup_cons,
    Description.ofJson_json]

theorem Enumeration.ofJson_json
    (enumeration : Enumeration) :
    Enumeration.ofJson enumeration.json.mended = enumeration.mended := by
  have members := member?_mended (rfl : enumeration.json = .ofOptions _)
    ["name", "since", "bitfield", "description", "entries"] rfl (by decide)
  cases entries : enumeration.entries? <;>
    simp [Enumeration.ofJson, Enumeration.mended, descriptionOf, members, List.lookup_cons,
      Description.ofJson_json, entries, Entry.ofJson_json]

theorem Interface.ofJson_json
    (interface : Interface) :
    Interface.ofJson interface.json.mended = interface.mended := by
  have members := member?_mended (rfl : interface.json = .ofOptions _)
    ["name", "version", "frozen", "description", "requests", "events", "enums"] rfl (by decide)
  simp [Interface.ofJson, Interface.mended, descriptionOf, members, List.lookup_cons,
    Description.ofJson_json, Message.ofJson_json, Enumeration.ofJson_json]

/-- The JSON form of a protocol is read as the protocol. -/
theorem Protocol.ofJson_json
    (protocol : Protocol) :
    Protocol.ofJson protocol.json.mended = protocol.mended := by
  have members := member?_mended (rfl : protocol.json = .ofOptions _)
    ["name", "document", "copyright", "description", "interfaces"] rfl (by decide)
  simp [Protocol.ofJson, Protocol.mended, descriptionOf, members, List.lookup_cons,
    Description.ofJson_json, Interface.ofJson_json]

end Wayland.Model
