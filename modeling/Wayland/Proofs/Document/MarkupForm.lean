import Wayland.Proofs.Document.Order
import Wayland.Proofs.Document.Outline
import Wayland.Proofs.Text.Normal

/-!
Contract: the elements that an outline is written as.

Owns:
- elements with plain attributes, in any order;
- how texts, flags and numbers stand in attributes, with what may be left out;
- the children of every element: each kind in its own order, the kinds in any mixture, and white
  space between them.

Does not own: how elements are read.
-/

namespace Wayland.Document

open Wayland.Document.FromMarkup (elements)
open Wayland.Markup (Node Attribute Tree)
open Wayland.Model (Arg Description)
open Wayland.Text (IsReindented isBlank)

/-! ## Elements -/

/-- The texts among nodes, in order. -/
def texts : List Node → List String
  | [] => []
  | .text content _ :: rest => content :: texts rest
  | .element _ _ _ _ _ :: rest => texts rest

namespace Element

def attribute?
    (element : Element)
    (label : String) :
    Option String :=
  (element.attributes.find? (·.name.label == label)).map (·.value)

/-- The text of an element without the elements in it. -/
def text
    (element : Element) :
    String :=
  String.join (texts element.content)

/-- A whole element with a tag, whose attributes have no qualifiers and different known names. -/
structure IsPlain
    (element : Element)
    (tag : String)
    (known : List String) : Prop where
  tag : element.tag = tag
  whole : element.cut = none
  unqualified : ∀ given ∈ element.attributes, given.name.space = ""
  known : ∀ given ∈ element.attributes, given.name.label ∈ known
  different : (element.attributes.map (·.name.label)).Nodup

/-- Only white space stands between the children. -/
def IsSpaced
    (element : Element) : Prop :=
  ∀ text ∈ texts element.content, ∀ char ∈ text.toList, isBlank char = true

end Element

namespace Outline

/-! ## Attributes -/

/-- A text, which may be left out if it is empty. -/
def WritesText
    (found : Option String)
    (text : String) : Prop :=
  found.getD "" = text

/-- A flag, which may be left out if it is false. -/
def WritesFlag
    (found : Option String)
    (flag : Bool) : Prop :=
  found.getD "false" = toString flag

/-- A number in decimal.  One that is left out may also be given as what it stands for. -/
def WritesNumber
    (found : Option String)
    (absent : Nat)
    (number? : Option Nat) : Prop :=
  found = number?.map toString ∨ (number? = none ∧ found = some (toString absent))

/-! ## Children -/

/-- Documentation, whose lines may be moved. -/
structure DescriptionIn
    (element : Element)
    (description : Description) : Prop where
  plain : element.IsPlain "description" ["summary"]
  summary : WritesText (element.attribute? "summary") description.summary
  childless : elements element.content = []
  text : IsReindented description.text element.text

/-- Items in their order, and at most one description anywhere among them. -/
inductive PartsIn
    {α : Type}
    (itemIn : Element → α → Prop) :
    Option Description → List α → List Element → Prop where
  | nil : PartsIn itemIn none [] []
  | item
      {description? : Option Description}
      {items : List α}
      {children : List Element}
      {child : Element}
      {item : α} :
      itemIn child item →
      PartsIn itemIn description? items children →
      PartsIn itemIn description? (item :: items) (child :: children)
  | description
      {items : List α}
      {children : List Element}
      {child : Element}
      {description : Description} :
      DescriptionIn child description →
      PartsIn itemIn none items children →
      PartsIn itemIn (some description) items (child :: children)

/-- The children of an element that holds items and documentation, which may be left out if it is
empty. -/
def ChildrenIn
    {α : Type}
    (itemIn : Element → α → Prop)
    (element : Element)
    (description : Description)
    (items : List α) : Prop :=
  element.IsSpaced ∧ ∃ description?, description?.getD {} = description ∧
    PartsIn itemIn description? items (elements element.content)

/-- The children of an element that holds documentation only. -/
def OnlyDescriptionIn
    (element : Element)
    (description : Description) : Prop :=
  ChildrenIn (fun _ (_ : Empty) => False) element description []

/-- An argument. -/
structure ArgIn
    (element : Element)
    (arg : Arg) : Prop where
  plain : element.IsPlain "arg" ["name", "type", "summary", "interface", "allow-null", "enum"]
  name : element.attribute? "name" = some arg.name
  typeName : element.attribute? "type" = some arg.typeName
  summary : WritesText (element.attribute? "summary") arg.summary
  interface : WritesText (element.attribute? "interface") arg.interface
  enumeration : WritesText (element.attribute? "enum") arg.enumeration
  nullable : WritesFlag (element.attribute? "allow-null") arg.nullable
  children : OnlyDescriptionIn element arg.description

/-- A message of the direction that the tag stands for. -/
structure MessageIn
    (tag : String)
    (element : Element)
    (message : Message) : Prop where
  plain : element.IsPlain tag ["name", "type", "since", "deprecated-since"]
  name : element.attribute? "name" = some message.name
  destructor : element.attribute? "type" = if message.destructor then some "destructor" else none
  since : WritesNumber (element.attribute? "since") 1 message.since?
  deprecatedSince : WritesNumber (element.attribute? "deprecated-since") 0 message.deprecatedSince?
  children : ChildrenIn ArgIn element message.description message.args

structure EntryIn
    (element : Element)
    (entry : Entry) : Prop where
  plain : element.IsPlain "entry" ["name", "value", "summary", "since", "deprecated-since"]
  name : element.attribute? "name" = some entry.name
  value : element.attribute? "value" = some (toString entry.value)
  summary : WritesText (element.attribute? "summary") entry.summary
  since : WritesNumber (element.attribute? "since") 1 entry.since?
  deprecatedSince : WritesNumber (element.attribute? "deprecated-since") 0 entry.deprecatedSince?
  children : OnlyDescriptionIn element entry.description

/-- An enumeration.  Without entries, there is no list of them. -/
structure EnumerationIn
    (element : Element)
    (enumeration : Enumeration) : Prop where
  plain : element.IsPlain "enum" ["name", "since", "bitfield"]
  name : element.attribute? "name" = some enumeration.name
  since : WritesNumber (element.attribute? "since") 1 enumeration.since?
  bitfield : WritesFlag (element.attribute? "bitfield") enumeration.bitfield
  children : ChildrenIn EntryIn element enumeration.description enumeration.entries
  listed : enumeration.entries? ≠ some []

/-- Requests, events and enumerations, each in their order, and at most one description anywhere
among them. -/
inductive MembersIn :
    Option Description → List Message → List Message → List Enumeration → List Element → Prop where
  | nil : MembersIn none [] [] [] []
  | request
      {description? : Option Description}
      {requests events : List Message}
      {enumerations : List Enumeration}
      {children : List Element}
      {child : Element}
      {message : Message} :
      MessageIn "request" child message →
      MembersIn description? requests events enumerations children →
      MembersIn description? (message :: requests) events enumerations (child :: children)
  | event
      {description? : Option Description}
      {requests events : List Message}
      {enumerations : List Enumeration}
      {children : List Element}
      {child : Element}
      {message : Message} :
      MessageIn "event" child message →
      MembersIn description? requests events enumerations children →
      MembersIn description? requests (message :: events) enumerations (child :: children)
  | enumeration
      {description? : Option Description}
      {requests events : List Message}
      {enumerations : List Enumeration}
      {children : List Element}
      {child : Element}
      {enumeration : Enumeration} :
      EnumerationIn child enumeration →
      MembersIn description? requests events enumerations children →
      MembersIn description? requests events (enumeration :: enumerations) (child :: children)
  | description
      {requests events : List Message}
      {enumerations : List Enumeration}
      {children : List Element}
      {child : Element}
      {description : Description} :
      DescriptionIn child description →
      MembersIn none requests events enumerations children →
      MembersIn (some description) requests events enumerations (child :: children)

structure InterfaceIn
    (element : Element)
    (interface : Interface) : Prop where
  plain : element.IsPlain "interface" ["name", "version", "frozen"]
  name : element.attribute? "name" = some interface.name
  version : element.attribute? "version" = some (toString interface.version)
  frozen : WritesFlag (element.attribute? "frozen") interface.frozen
  spaced : element.IsSpaced
  members : ∃ description?, description?.getD {} = interface.description ∧
    MembersIn description? interface.requests interface.events interface.enumerations
      (elements element.content)

/-- A notice of rights, whose lines may be moved. -/
structure CopyrightIn
    (element : Element)
    (copyright : String) : Prop where
  plain : element.IsPlain "copyright" []
  childless : elements element.content = []
  text : IsReindented copyright element.text

/-- Interfaces in their order, and at most one notice of rights and one description anywhere among
them. -/
inductive InterfacesIn :
    Option String → Option Description → List Interface → List Element → Prop where
  | nil : InterfacesIn none none [] []
  | interface
      {copyright? : Option String}
      {description? : Option Description}
      {interfaces : List Interface}
      {children : List Element}
      {child : Element}
      {interface : Interface} :
      InterfaceIn child interface →
      InterfacesIn copyright? description? interfaces children →
      InterfacesIn copyright? description? (interface :: interfaces) (child :: children)
  | copyright
      {description? : Option Description}
      {interfaces : List Interface}
      {children : List Element}
      {child : Element}
      {copyright : String} :
      CopyrightIn child copyright →
      InterfacesIn none description? interfaces children →
      InterfacesIn (some copyright) description? interfaces (child :: children)
  | description
      {copyright? : Option String}
      {interfaces : List Interface}
      {children : List Element}
      {child : Element}
      {description : Description} :
      DescriptionIn child description →
      InterfacesIn copyright? none interfaces children →
      InterfacesIn copyright? (some description) interfaces (child :: children)

structure ProtocolIn
    (element : Element)
    (protocol : Protocol) : Prop where
  plain : element.IsPlain "protocol" ["name"]
  name : element.attribute? "name" = some protocol.name
  spaced : element.IsSpaced
  children : ∃ copyright? description?, copyright?.getD "" = protocol.copyright ∧
    description?.getD {} = protocol.description ∧
    InterfacesIn copyright? description? protocol.interfaces (elements element.content)

/-- A document in markup: its root element stands for the protocol, and only white space stands
before it. -/
def Protocol.InMarkup
    (protocol : Protocol)
    (tree : Tree) : Prop :=
  ∃ before root after line content attributes cut,
    tree.nodes = before ++ .element root attributes line content cut :: after ∧
    (∀ node ∈ before, ∃ text line, node = .text text line ∧
      ∀ char ∈ text.toList, isBlank char = true) ∧
    ProtocolIn ⟨root, attributes, line, content, cut⟩ protocol

end Outline

end Wayland.Document
