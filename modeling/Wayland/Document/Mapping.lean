import Wayland.Document.Error
import Wayland.Model.Basic
import Wayland.Text.Blank
import Wayland.Yaml.Shape

/-!
Contract: protocol models from YAML trees.

Owns:
- the shape of a protocol document: the fields of every record;
- the defaults of absent fields, required fields, and normal forms of texts;
- the lines that reports point to.

Does not own: the syntax of YAML.
-/

namespace Wayland.Document

open Wayland.Model
open Wayland.Text (normalize trim)
open Wayland.Yaml (Node Shape)
open Wayland.Yaml.Shape (field)

namespace FromMapping

def descriptionShape : Shape Description :=
  .record "protocol.Description"
    [field "summary" .text (·.summary) fun record value => { record with summary := value },
      field "text" .text (·.text) fun record value => { record with text := value }]
    false

def argShape : Shape Arg :=
  .record "protocol.Arg"
    [field "name" .text (·.name) fun record value => { record with name := value },
      field "type" (.namedText "protocol.ArgType") (·.typeName)
        fun record value => { record with typeName := value },
      field "allow_null" .bool (·.nullable) fun record value => { record with nullable := value },
      field "interface" .text (·.interface)
        fun record value => { record with interface := value },
      field "enum" .text (·.enumeration) fun record value => { record with enumeration := value },
      field "summary" .text (·.summary) fun record value => { record with summary := value },
      field "description" descriptionShape (·.description)
        fun record value => { record with description := value }]
    true

def messageShape : Shape Message :=
  .record "protocol.Message"
    [field "name" .text (·.name) fun record value => { record with name := value },
      field "since" .uint32 (·.since) fun record value => { record with since := value },
      field "deprecated_since" .uint32 (·.deprecatedSince)
        fun record value => { record with deprecatedSince := value },
      field "destructor" .bool (·.destructor)
        fun record value => { record with destructor := value },
      field "description" descriptionShape (·.description)
        fun record value => { record with description := value },
      field "args" (.list "[]*protocol.Arg" argShape {}) (some ·.args)
        fun record value => { record with args := value.getD [] }]
    true

def entryShape : Shape Entry :=
  .record "protocol.Entry"
    [field "name" .text (·.name) fun record value => { record with name := value },
      field "value" .uint32 (·.value) fun record value => { record with value := value },
      field "since" .uint32 (·.since) fun record value => { record with since := value },
      field "deprecated_since" .uint32 (·.deprecatedSince)
        fun record value => { record with deprecatedSince := value },
      field "summary" .text (·.summary) fun record value => { record with summary := value },
      field "description" descriptionShape (·.description)
        fun record value => { record with description := value }]
    true

def enumerationShape : Shape Enumeration :=
  .record "protocol.Enum"
    [field "name" .text (·.name) fun record value => { record with name := value },
      field "since" .uint32 (·.since) fun record value => { record with since := value },
      field "bitfield" .bool (·.bitfield) fun record value => { record with bitfield := value },
      field "description" descriptionShape (·.description)
        fun record value => { record with description := value },
      field "entries" (.list "[]*protocol.Entry" entryShape {}) (·.entries?)
        fun record value => { record with entries? := value }]
    true

def interfaceShape : Shape Interface :=
  .record "protocol.Interface"
    [field "name" .text (·.name) fun record value => { record with name := value },
      field "version" .uint32 (·.version) fun record value => { record with version := value },
      field "frozen" .bool (·.frozen) fun record value => { record with frozen := value },
      field "description" descriptionShape (·.description)
        fun record value => { record with description := value },
      field "requests" (.list "[]*protocol.Message" messageShape {}) (some ·.requests)
        fun record value => { record with requests := value.getD [] },
      field "events" (.list "[]*protocol.Message" messageShape {}) (some ·.events)
        fun record value => { record with events := value.getD [] },
      field "enums" (.list "[]*protocol.Enum" enumerationShape {}) (some ·.enumerations)
        fun record value => { record with enumerations := value.getD [] }]
    true

def protocolShape : Shape Protocol :=
  .record "protocol.Protocol"
    [field "name" .text (·.name) fun record value => { record with name := value },
      field "copyright" .text (·.copyright) fun record value => { record with copyright := value },
      field "description" descriptionShape (·.description)
        fun record value => { record with description := value },
      field "interfaces" (.list "[]*protocol.Interface" interfaceShape {}) (some ·.interfaces)
        fun record value => { record with interfaces := value.getD [] }]
    false

/-! ## Places in the tree -/

/-- The value of the first entry with the given key. -/
def entryNamed?
    (key : String) :
    Node → Option Node
  | .mapping _ entries _ => (entries.find? (·.1.text == key)).map (·.2)
  | _ => none

def item?
    (index : Nat) :
    Node → Option Node
  | .sequence _ nodes _ => nodes[index]?
  | _ => none

/-- A place in the tree: the deepest node that exists on the way to it, and whether that is the
place itself.  References are not followed. -/
structure Spot where
  node : Node
  exact : Bool

def Spot.key
    (spot : Spot)
    (key : String) :
    Spot :=
  match spot.exact, entryNamed? key spot.node with
  | true, some node => ⟨node, true⟩
  | _, _ => { spot with exact := false }

/-- The spots of the items of a list of the given length. -/
def Spot.items
    (spot : Spot)
    (length : Nat) :
    List Spot :=
  let missing : Spot := { spot with exact := false }
  match spot.exact, spot.node with
  | true, .sequence _ nodes _ =>
      (nodes.take length).map (fun node => ⟨node, true⟩)
        ++ List.replicate (length - nodes.length) missing
  | _, _ => List.replicate length missing

def Spot.has
    (spot : Spot)
    (key : String) :
    Bool :=
  spot.exact && (entryNamed? key spot.node).isSome

def Spot.line
    (spot : Spot) :
    Nat :=
  spot.node.line

/-! ## Defaults and required fields -/

def normalDescription
    (description : Description) :
    Description :=
  ⟨trim description.summary, normalize description.text⟩

def fail
    {α : Type}
    (document : String)
    (path : Path)
    (spot : Spot)
    (problem : Problem) :
    Except Error α :=
  .error ⟨document, path, spot.line, problem⟩

def finishAll
    {α : Type}
    (finish : Spot → α → Except Error α)
    (latest : List α) :
    List (Spot × α) → Except Error (List α)
  | [] => .ok latest.reverse
  | (spot, value) :: rest =>
      match finish spot value with
      | .error error => .error error
      | .ok value => finishAll finish (value :: latest) rest

def finishArg
    (document : String)
    (parent : Path)
    (spot : Spot)
    (arg : Arg) :
    Except Error Arg := do
  if arg.name.isEmpty then
    fail document (parent.push "arg" "") spot (.missingAttribute "name")
  let path := parent.push "arg" arg.name
  if arg.typeName.isEmpty then fail document path spot (.missingAttribute "type")
  if (Wire.Kind.ofName? arg.typeName).isNone then
    fail document path (spot.key "type") (.badArgType arg.typeName)
  return { arg with
    summary := trim arg.summary
    description := normalDescription arg.description }

/-- Finishes a message.  `kind` is the word for its direction. -/
def finishMessage
    (document kind : String)
    (parent : Path)
    (opcode : Nat)
    (spot : Spot)
    (message : Message) :
    Except Error Message := do
  if message.name.isEmpty then
    fail document (parent.push kind "") spot (.missingAttribute "name")
  let path := parent.push kind message.name
  if message.since == 0 && spot.has "since" then fail document path spot .zeroSince
  let spots := (spot.key "args").items message.args.length
  let args ← finishAll (finishArg document path) [] (spots.zip message.args)
  return { message with
    opcode := UInt16.ofNat opcode
    since := if message.since == 0 then 1 else message.since
    description := normalDescription message.description
    args }

def finishMessages
    (document kind : String)
    (parent : Path)
    (spot : Spot)
    (messages : List Message) :
    Except Error (List Message) := do
  if messages.length > 0x10000 then fail document parent spot (.tooManyMessages kind)
  let numbered := messages.zipIdx
  let finished ← finishAll
    (fun spot (message, opcode) => do
      return (← finishMessage document kind parent opcode spot message, opcode))
    [] ((spot.items messages.length).zip numbered)
  return finished.map (·.1)

/-- Finishes an entry, whose value must be written. -/
def finishEntry
    (document : String)
    (parent : Path)
    (spot : Spot)
    (entry : Entry) :
    Except Error Entry := do
  if entry.name.isEmpty then
    fail document (parent.push "entry" "") spot (.missingAttribute "name")
  if !spot.has "value" then
    fail document (parent.push "entry" entry.name) spot (.missingAttribute "value")
  return { entry with
    since := if entry.since == 0 then 1 else entry.since
    summary := trim entry.summary
    description := normalDescription entry.description }

def finishEnumeration
    (document : String)
    (parent : Path)
    (spot : Spot)
    (enumeration : Enumeration) :
    Except Error Enumeration := do
  if enumeration.name.isEmpty then
    fail document (parent.push "enum" "") spot (.missingAttribute "name")
  let path := parent.push "enum" enumeration.name
  let spots := (spot.key "entries").items enumeration.entries.length
  let entries ← finishAll (finishEntry document path) [] (spots.zip enumeration.entries)
  return { enumeration with
    since := if enumeration.since == 0 then 1 else enumeration.since
    description := normalDescription enumeration.description
    entries? := enumeration.entries?.map fun _ => entries }

def finishInterface
    (document : String)
    (parent : Path)
    (spot : Spot)
    (interface : Interface) :
    Except Error Interface := do
  if interface.name.isEmpty then
    fail document (parent.push "interface" "") spot (.missingAttribute "name")
  let path := parent.push "interface" interface.name
  if interface.version == 0 && !spot.has "version" then
    fail document path spot (.missingAttribute "version")
  let requests ← finishMessages document "request" path (spot.key "requests") interface.requests
  let events ← finishMessages document "event" path (spot.key "events") interface.events
  let spots := (spot.key "enums").items interface.enumerations.length
  let enumerations ← finishAll (finishEnumeration document path) []
    (spots.zip interface.enumerations)
  return { interface with
    description := normalDescription interface.description
    requests, events, enumerations }

def finishProtocol
    (document : String)
    (root : Node)
    (protocol : Protocol) :
    Except Error Protocol := do
  let spot : Spot := ⟨root, true⟩
  if protocol.name.isEmpty then fail document ["protocol"] spot (.missingAttribute "name")
  let path := Path.push [] "protocol" protocol.name
  if protocol.interfaces.isEmpty then fail document path spot .noInterfaces
  let spots := (spot.key "interfaces").items protocol.interfaces.length
  let interfaces ← finishAll (finishInterface document path) [] (spots.zip protocol.interfaces)
  return { protocol with
    document
    copyright := normalize protocol.copyright
    description := normalDescription protocol.description
    interfaces }

/-- What follows the first occurrence of a word. -/
def afterWord?
    (word : List Char) :
    List Char → Option (List Char)
  | [] => none
  | char :: rest =>
      if word.isPrefixOf (char :: rest) then some ((char :: rest).drop word.length)
      else afterWord? word rest

/-- The first line number that a report names, 0 if it names none. -/
def reportedLine
    (report : String) :
    Nat :=
  match afterWord? "line ".toList report.toList with
  | some rest => (Text.natOfDigits? 10 (rest.takeWhile Char.isDigit)).getD 0
  | none => 0

end FromMapping

def readMapping
    (document : String)
    (bytes : Text.Bytes) :
    Except Error Protocol :=
  match Yaml.Document.ofBytes bytes with
  | .error fault =>
      .error {
        document
        line := FromMapping.reportedLine fault.message
        problem := .mapping (.syntaxError fault.message) }
  | .ok none => .error { document, problem := .emptyDocument }
  | .ok (some tree) =>
      match FromMapping.protocolShape.ofDocument (bytes.length + 1) {} tree with
      | .error fault =>
          .error {
            document
            line := FromMapping.reportedLine fault.message
            problem := .mapping (.syntaxError fault.message) }
      | .ok (.error faults) =>
          .error {
            document
            line := FromMapping.reportedLine (faults.headD "")
            problem := .mapping (.shape faults) }
      | .ok (.ok protocol) => FromMapping.finishProtocol document tree.root protocol

end Wayland.Document
