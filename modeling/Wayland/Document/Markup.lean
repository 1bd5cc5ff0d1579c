import Wayland.Document.Error
import Wayland.Markup.Element
import Wayland.Model.Basic
import Wayland.Text.Number

/-!
Contract: protocol models from element trees.

Owns: which elements, attributes and texts a protocol document may hold, the defaults of absent
attributes, and the order in which problems are noticed: a start tag is looked at before the
content of its element, and content in document order.

Does not own: the syntax of markup.
-/

namespace Wayland.Document

open Wayland.Markup (Node Tree Attribute Failure)
open Wayland.Model
open Wayland.Text (normalize trim readUInt32?)

/-- A start tag with its content. -/
structure Element where
  tag : String
  attributes : List Attribute
  line : Nat
  content : List Node
  cut : Option Failure

namespace FromMarkup

def fail
    {α : Type}
    (document : String)
    (path : Path)
    (line : Nat)
    (problem : Problem) :
    Except Error α :=
  .error ⟨document, path, line, problem⟩

abbrev Values := List (String × String)

/-- Collects attributes, of which only the given names may occur.  The last of several values under
one name counts; attributes that bind qualifiers are passed over. -/
def collect
    (document : String)
    (path : Path)
    (line : Nat)
    (known : List String)
    (values : Values) :
    List Attribute → Except Error Values
  | [] => .ok values
  | given :: rest =>
      if given.name.space == Markup.bindingWord
          || given.name.label == Markup.bindingWord then
        collect document path line known values rest
      else if known.contains given.name.label then
        collect document path line known ((given.name.label, given.value) :: values) rest
      else fail document path line (.unknownAttribute given.name.label)

/-- The attribute values of an element: only known names, and all required ones. -/
def attributes
    (document : String)
    (path : Path)
    (element : Element)
    (required optional : List String) :
    Except Error Values := do
  let values ← collect document path element.line (required ++ optional) [] element.attributes
  match required.find? fun name => (values.lookup name).isNone with
  | some name => fail document path element.line (.missingAttribute name)
  | none => return values

/-- Reads the content of an element: child elements change a state, texts are joined.  A cut ends
the reading after the content that precedes it. -/
def contentFrom
    {σ : Type}
    (document : String)
    (path : Path)
    (child : σ → Element → Except Error σ)
    (cut : Option Failure)
    (state : σ)
    (texts : List String) :
    List Node → Except Error (σ × String)
  | [] =>
      match cut with
      | some failure => fail document path failure.line (.markup failure)
      | none => .ok (state, String.join texts.reverse)
  | .text content _ :: rest => contentFrom document path child cut state (content :: texts) rest
  | .element tag attributes line content inner :: rest =>
      match child state ⟨tag, attributes, line, content, inner⟩ with
      | .error error => .error error
      | .ok state => contentFrom document path child cut state texts rest

/-- Reads the content of an element that may hold text and the children that `child` takes. -/
def content
    {σ : Type}
    (document : String)
    (path : Path)
    (element : Element)
    (initial : σ)
    (child : σ → Element → Except Error σ) :
    Except Error (σ × String) :=
  contentFrom document path child element.cut initial [] element.content

/-- Refuses a child element that has no place where it stands. -/
def unknownChild
    {α : Type}
    (document : String)
    (path : Path)
    (child : Element) :
    Except Error α :=
  fail document (path.push child.tag "") child.line .unknownElement

/-- Reads an element that holds text only. -/
def leaf
    (document : String)
    (path : Path)
    (element : Element) :
    Except Error String := do
  let (_, text) ← content document path element () fun _ child => unknownChild document path child
  return text

/-- Reads the children of an element that may hold no text. -/
def children
    {σ : Type}
    (document : String)
    (path : Path)
    (element : Element)
    (initial : σ)
    (child : σ → Element → Except Error σ) :
    Except Error σ := do
  let (state, text) ← content document path element initial child
  if (trim text).isEmpty then return state
  fail document path element.line .unexpectedText

/-- Reads a description, of which a parent has at most one. -/
def description
    (document : String)
    (parent : Path)
    (element : Element)
    (earlier : Option Description) :
    Except Error (Option Description) := do
  let path := parent.push "description" ""
  if earlier.isSome then fail document path element.line .duplicateElement
  let values ← attributes document path element [] ["summary"]
  let text ← leaf document path element
  return some ⟨trim ((values.lookup "summary").getD ""), normalize text⟩

/-- The value of an attribute, empty where it is absent. -/
def value
    (values : Values)
    (name : String) :
    String :=
  (values.lookup name).getD ""

/-- A numeric attribute, or a default where it is absent. -/
def number
    (document : String)
    (path : Path)
    (line : Nat)
    (values : Values)
    (name : String)
    (absent : UInt32) :
    Except Error UInt32 :=
  match values.lookup name with
  | none => .ok absent
  | some text =>
      match readUInt32? text with
      | some number => .ok number
      | none => fail document path line (.badNumber name text)

def flag? : String → Option Bool
  | "true" => some true
  | "false" => some false
  | _ => none

/-- A flag attribute, false where it is absent. -/
def flag
    (document : String)
    (path : Path)
    (line : Nat)
    (values : Values)
    (name : String) :
    Except Error Bool :=
  match values.lookup name with
  | none => .ok false
  | some text =>
      match flag? text with
      | some value => .ok value
      | none => fail document path line (.badFlag name text)

/-- Reads the only child an argument or an entry may have. -/
def onlyDescription
    (document : String)
    (path : Path)
    (earlier : Option Description)
    (child : Element) :
    Except Error (Option Description) :=
  if child.tag == "description" then description document path child earlier
  else unknownChild document path child

def arg
    (document : String)
    (parent : Path)
    (element : Element) :
    Except Error Arg := do
  let values ← attributes document (parent.push "arg" "") element ["name", "type"]
    ["summary", "interface", "allow-null", "enum"]
  let name := value values "name"
  let path := parent.push "arg" name
  let typeName := value values "type"
  if (Wire.Kind.ofName? typeName).isNone then
    fail document path element.line (.badArgType typeName)
  let nullable ← flag document path element.line values "allow-null"
  let found ← children document path element none (onlyDescription document path)
  return {
    name, typeName, nullable
    interface := value values "interface"
    enumeration := value values "enum"
    summary := trim (value values "summary")
    description := found.getD {} }

/-- What is known of a message or enumeration while its children are read. -/
structure Parts (α : Type) where
  description : Option Description := none
  items : Array α := #[]

/-- Reads a request or an event.  `opcode` is the number of messages of its direction before it. -/
def message
    (document : String)
    (parent : Path)
    (opcode : Nat)
    (element : Element) :
    Except Error Message := do
  let kind := element.tag
  let values ← attributes document (parent.push kind "") element ["name"]
    ["type", "since", "deprecated-since"]
  let name := value values "name"
  let path := parent.push kind name
  if opcode > 0xffff then fail document path element.line (.tooManyMessages kind)
  let destructor ←
    match values.lookup "type" with
    | none => pure false
    | some "destructor" => pure true
    | some text => fail document path element.line (.badMessageType text)
  let since ← number document path element.line values "since" 1
  let deprecatedSince ← number document path element.line values "deprecated-since" 0
  let parts ← children document path element ({} : Parts Arg) fun parts child => do
    if child.tag == "description" then
      return { parts with description := ← description document path child parts.description }
    else if child.tag == "arg" then
      return { parts with items := parts.items.push (← arg document path child) }
    else unknownChild document path child
  return {
    name, since, deprecatedSince, destructor
    opcode := UInt16.ofNat opcode
    description := parts.description.getD {}
    args := parts.items.toList }

def entry
    (document : String)
    (parent : Path)
    (element : Element) :
    Except Error Entry := do
  let values ← attributes document (parent.push "entry" "") element ["name", "value"]
    ["summary", "since", "deprecated-since"]
  let name := value values "name"
  let path := parent.push "entry" name
  let number' ← number document path element.line values "value" 0
  let since ← number document path element.line values "since" 1
  let deprecatedSince ← number document path element.line values "deprecated-since" 0
  let found ← children document path element none (onlyDescription document path)
  return {
    name, since, deprecatedSince
    value := number'
    summary := trim (value values "summary")
    description := found.getD {} }

def enumeration
    (document : String)
    (parent : Path)
    (element : Element) :
    Except Error Enumeration := do
  let values ← attributes document (parent.push "enum" "") element ["name"] ["since", "bitfield"]
  let name := value values "name"
  let path := parent.push "enum" name
  let since ← number document path element.line values "since" 1
  let bitfield ← flag document path element.line values "bitfield"
  let parts ← children document path element ({} : Parts Entry) fun parts child => do
    if child.tag == "description" then
      return { parts with description := ← description document path child parts.description }
    else if child.tag == "entry" then
      return { parts with items := parts.items.push (← entry document path child) }
    else unknownChild document path child
  return {
    name, since, bitfield
    description := parts.description.getD {}
    entries? := if parts.items.isEmpty then none else some parts.items.toList }

/-- What is known of an interface while its children are read. -/
structure InterfaceParts where
  description : Option Description := none
  requests : Array Message := #[]
  events : Array Message := #[]
  enumerations : Array Enumeration := #[]

/-- Reads a child of an interface.  A message is numbered by the messages of its direction before
it. -/
def interfaceChild
    (document : String)
    (path : Path)
    (parts : InterfaceParts)
    (child : Element) :
    Except Error InterfaceParts := do
  if child.tag == "description" then
    return { parts with description := ← description document path child parts.description }
  else if child.tag == "request" then
    return { parts with
      requests := parts.requests.push (← message document path parts.requests.size child) }
  else if child.tag == "event" then
    return { parts with
      events := parts.events.push (← message document path parts.events.size child) }
  else if child.tag == "enum" then
    return { parts with
      enumerations := parts.enumerations.push (← enumeration document path child) }
  else unknownChild document path child

def interface
    (document : String)
    (parent : Path)
    (element : Element) :
    Except Error Interface := do
  let values ← attributes document (parent.push "interface" "") element ["name", "version"]
    ["frozen"]
  let name := value values "name"
  let path := parent.push "interface" name
  let version ← number document path element.line values "version" 0
  let frozen ← flag document path element.line values "frozen"
  let parts ← children document path element {} (interfaceChild document path)
  return {
    name, version, frozen
    description := parts.description.getD {}
    requests := parts.requests.toList
    events := parts.events.toList
    enumerations := parts.enumerations.toList }

/-- What is known of a protocol while its children are read. -/
structure ProtocolParts where
  copyright : Option String := none
  description : Option Description := none
  interfaces : Array Interface := #[]

def protocolChild
    (document : String)
    (path : Path)
    (parts : ProtocolParts)
    (child : Element) :
    Except Error ProtocolParts := do
  if child.tag == "copyright" then
    let inner := path.push "copyright" ""
    if parts.copyright.isSome then fail document inner child.line .duplicateElement
    let _ ← attributes document inner child [] []
    let text ← leaf document inner child
    return { parts with copyright := some (normalize text) }
  else if child.tag == "description" then
    return { parts with description := ← description document path child parts.description }
  else if child.tag == "interface" then
    return { parts with interfaces := parts.interfaces.push (← interface document path child) }
  else unknownChild document path child

def protocol
    (document : String)
    (element : Element) :
    Except Error Protocol := do
  let values ← attributes document ["protocol"] element ["name"] []
  let name := value values "name"
  let path := Path.push [] "protocol" name
  let parts ← children document path element {} (protocolChild document path)
  if parts.interfaces.isEmpty then fail document path element.line .noInterfaces
  return {
    name, document
    copyright := parts.copyright.getD ""
    description := parts.description.getD {}
    interfaces := parts.interfaces.toList }

/-- Reads the first element of a document, before which only white space may stand. -/
def root
    (document : String)
    (failure : Option Failure) :
    List Node → Except Error Protocol
  | [] =>
      match failure with
      | some failure => fail document [] failure.line (.markup failure)
      | none => fail document [] 0 .emptyDocument
  | .text content line :: rest =>
      if (trim content).isEmpty then root document failure rest
      else fail document [] line .unexpectedText
  | .element tag attributes line content cut :: _ =>
      if tag == "protocol" then protocol document ⟨tag, attributes, line, content, cut⟩
      else fail document [tag] line .unexpectedRoot

end FromMarkup

def readMarkup
    (document : String)
    (bytes : Text.Bytes) :
    Except Error Protocol :=
  let tree := Tree.ofBytes bytes
  FromMarkup.root document tree.failure tree.nodes

end Wayland.Document
