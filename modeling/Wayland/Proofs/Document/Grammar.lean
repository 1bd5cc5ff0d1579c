import Wayland.Proofs.Document.MarkupForm
import Wayland.Proofs.Markup.Nesting

/-!
Contract: the grammar of protocol documents in markup, and the model that a tree stands for.

Owns:
- which attributes count, and what an element must have and may hold, kind by kind;
- the description, argument, message, entry, enumeration, interface and protocol that an element
  stands for, all in document order;
- what one more child changes.

Does not own: how elements are read, and the tree of a document.
-/

namespace Wayland.Document

open Wayland.Document.FromMarkup (elements childrenNamed)
open Wayland.Markup (Node Attribute Tree bindingWord)
open Wayland.Text (isBlank normalize readUInt32? trim)

/-! ## Attributes -/

def bindsQualifier
    (given : Attribute) :
    Bool :=
  given.name.space == bindingWord || given.name.label == bindingWord

namespace Element

/-- The attributes that count: all but those that bind qualifiers. -/
def counted
    (element : Element) :
    List Attribute :=
  element.attributes.filter (!bindsQualifier ·)

/-- The value of an attribute, the last one where several have the label. -/
def last?
    (element : Element)
    (label : String) :
    Option String :=
  (element.counted.filter (·.name.label == label)).getLast?.map (·.value)

/-- The value of an attribute, empty where it is absent. -/
def textAt
    (element : Element)
    (label : String) :
    String :=
  (element.last? label).getD ""

/-- The number of an attribute, or a default where it is absent. -/
def numberAt
    (element : Element)
    (label : String)
    (absent : UInt32) :
    UInt32 :=
  ((element.last? label).bind readUInt32?).getD absent

/-- The flag of an attribute, false where it is absent. -/
def flagAt
    (element : Element)
    (label : String) :
    Bool :=
  element.last? label == some "true"

/-- All required attributes are there, and only known ones. -/
structure Takes
    (element : Element)
    (required optional : List String) : Prop where
  known : ∀ given ∈ element.counted, given.name.label ∈ required ++ optional
  present : ∀ label ∈ required, (element.last? label).isSome = true

def HasNumber
    (element : Element)
    (label : String) : Prop :=
  ∀ text, element.last? label = some text → (readUInt32? text).isSome = true

def HasFlag
    (element : Element)
    (label : String) : Prop :=
  ∀ text, element.last? label = some text → text = "true" ∨ text = "false"

def node
    (element : Element) :
    Node :=
  .element element.tag element.attributes element.line element.content element.cut

/-- An element that is closed by its end tag, as are all elements in it. -/
structure IsWhole
    (element : Element) : Prop where
  closed : element.cut = none
  inner : ∀ node ∈ element.content, node.IsWhole

end Element

namespace Grammar

/-! ## Elements -/

/-- Documentation: text and an optional summary. -/
structure IsDescription
    (element : Element) : Prop where
  takes : element.Takes [] ["summary"]
  childless : elements element.content = []

/-- A notice of rights: text only. -/
structure IsCopyright
    (element : Element) : Prop where
  takes : element.Takes [] []
  childless : elements element.content = []

/-- Children of which each is a description or otherwise allowed, and one a description at most. -/
structure Admits
    (allowed : Element → Prop)
    (children : List Element) : Prop where
  once : (children.filter (·.tag == "description")).length ≤ 1
  each : ∀ child ∈ children, child.tag = "description" ∧ IsDescription child ∨ allowed child

/-- An element contains admitted children, and only white space between them. -/
structure Contains
    (element : Element)
    (allowed : Element → Prop) : Prop where
  spaced : element.IsSpaced
  admits : Admits allowed (elements element.content)

/-- An argument, of a known type. -/
structure IsArg
    (element : Element) : Prop where
  takes : element.Takes ["name", "type"] ["summary", "interface", "allow-null", "enum"]
  typed : (Wire.Kind.ofName? (element.textAt "type")).isSome = true
  nullable : element.HasFlag "allow-null"
  contains : Contains element fun _ => False

/-- A request or an event, which may be a destructor. -/
structure IsMessage
    (element : Element) : Prop where
  takes : element.Takes ["name"] ["type", "since", "deprecated-since"]
  destructor : ∀ text, element.last? "type" = some text → text = "destructor"
  since : element.HasNumber "since"
  deprecatedSince : element.HasNumber "deprecated-since"
  contains : Contains element fun child => child.tag = "arg" ∧ IsArg child

/-- An entry of an enumeration. -/
structure IsEntry
    (element : Element) : Prop where
  takes : element.Takes ["name", "value"] ["summary", "since", "deprecated-since"]
  value : element.HasNumber "value"
  since : element.HasNumber "since"
  deprecatedSince : element.HasNumber "deprecated-since"
  contains : Contains element fun _ => False

structure IsEnumeration
    (element : Element) : Prop where
  takes : element.Takes ["name"] ["since", "bitfield"]
  since : element.HasNumber "since"
  bitfield : element.HasFlag "bitfield"
  contains : Contains element fun child => child.tag = "entry" ∧ IsEntry child

def IsMember
    (child : Element) : Prop :=
  (child.tag = "request" ∨ child.tag = "event") ∧ IsMessage child ∨
    child.tag = "enum" ∧ IsEnumeration child

/-- An interface, with no more messages of a direction than there are opcodes. -/
structure IsInterface
    (element : Element) : Prop where
  takes : element.Takes ["name", "version"] ["frozen"]
  version : element.HasNumber "version"
  frozen : element.HasFlag "frozen"
  contains : Contains element IsMember
  requests : (childrenNamed element "request").length ≤ 65536
  events : (childrenNamed element "event").length ≤ 65536

def IsPart
    (child : Element) : Prop :=
  child.tag = "copyright" ∧ IsCopyright child ∨ child.tag = "interface" ∧ IsInterface child

/-- A protocol: some interfaces, and one notice of rights at most. -/
structure IsProtocol
    (element : Element) : Prop where
  tag : element.tag = "protocol"
  takes : element.Takes ["name"] []
  contains : Contains element IsPart
  copyright : (childrenNamed element "copyright").length ≤ 1
  interfaces : childrenNamed element "interface" ≠ []

/-- A node that is white space. -/
def IsBlankText
    (node : Node) : Prop :=
  ∃ text line, node = .text text line ∧ ∀ char ∈ text.toList, isBlank char = true

/-- An element stands first among nodes: only white space precedes it. -/
def StandsFirst
    (element : Element)
    (nodes : List Node) : Prop :=
  ∃ before after, nodes = before ++ element.node :: after ∧ ∀ node ∈ before, IsBlankText node

/-! ## Models -/

def descriptionOf
    (element : Element) :
    Model.Description :=
  { summary := trim (element.textAt "summary")
    text := normalize element.text }

/-- What the first of the elements with a tag stands for. -/
def firstOf?
    {α : Type}
    (tag : String)
    (meaning : Element → α)
    (children : List Element) :
    Option α :=
  (children.filter (·.tag == tag)).head?.map meaning

/-- The first description among elements. -/
def firstDescription?
    (children : List Element) :
    Option Model.Description :=
  firstOf? "description" descriptionOf children

/-- The documentation of an element: what its description stands for, if it has one. -/
def documentation
    (element : Element) :
    Model.Description :=
  (firstDescription? (elements element.content)).getD {}

def argOf
    (element : Element) :
    Model.Arg :=
  { name := element.textAt "name"
    typeName := element.textAt "type"
    interface := element.textAt "interface"
    enumeration := element.textAt "enum"
    nullable := element.flagAt "allow-null"
    summary := trim (element.textAt "summary")
    description := documentation element }

/-- The message that an element stands for, by its position among those of its direction. -/
def messageOf
    (position : Nat)
    (element : Element) :
    Model.Message :=
  { name := element.textAt "name"
    opcode := UInt16.ofNat position
    destructor := (element.last? "type").isSome
    since := element.numberAt "since" 1
    deprecatedSince := element.numberAt "deprecated-since" 0
    description := documentation element
    args := (childrenNamed element "arg").map argOf }

def entryOf
    (element : Element) :
    Model.Entry :=
  { name := element.textAt "name"
    value := element.numberAt "value" 0
    since := element.numberAt "since" 1
    deprecatedSince := element.numberAt "deprecated-since" 0
    summary := trim (element.textAt "summary")
    description := documentation element }

/-- The enumeration that an element stands for.  Without entries, there is no list of them. -/
def enumerationOf
    (element : Element) :
    Model.Enumeration :=
  { name := element.textAt "name"
    since := element.numberAt "since" 1
    bitfield := element.flagAt "bitfield"
    description := documentation element
    entries? :=
      match childrenNamed element "entry" with
      | [] => none
      | entries => some (entries.map entryOf) }

def interfaceOf
    (element : Element) :
    Model.Interface :=
  { name := element.textAt "name"
    version := element.numberAt "version" 0
    frozen := element.flagAt "frozen"
    description := documentation element
    requests := (childrenNamed element "request").mapIdx messageOf
    events := (childrenNamed element "event").mapIdx messageOf
    enumerations := (childrenNamed element "enum").map enumerationOf }

/-- The first notice of rights among elements. -/
def firstCopyright?
    (children : List Element) :
    Option String :=
  firstOf? "copyright" (normalize ·.text) children

def protocolOf
    (document : String)
    (element : Element) :
    Model.Protocol :=
  { name := element.textAt "name"
    document
    copyright := (firstCopyright? (elements element.content)).getD ""
    description := documentation element
    interfaces := (childrenNamed element "interface").map interfaceOf }

/-! ## One more child -/

section Concat

variable {allowed : Element → Prop} {before : List Element} {next : Element} {tag : String}

theorem filter_concat_same
    (isTag : next.tag = tag) :
    (before ++ [next]).filter (·.tag == tag) = before.filter (·.tag == tag) ++ [next] := by
  rw [List.filter_append, List.filter_cons_of_pos (by simpa using isTag), List.filter_nil]

theorem filter_concat_other
    (isOther : next.tag ≠ tag) :
    (before ++ [next]).filter (·.tag == tag) = before.filter (·.tag == tag) := by
  rw [List.filter_append, List.filter_cons_of_neg (by simpa using isOther), List.filter_nil,
    List.append_nil]

theorem admits_nil :
    Admits allowed [] :=
  ⟨Nat.zero_le 1, by simp⟩

/-- Fewer children are of a kind than of that kind among more. -/
theorem length_filter_concat_le
    (before : List Element)
    (next : Element)
    (tag : String) :
    (before.filter (·.tag == tag)).length ≤ ((before ++ [next]).filter (·.tag == tag)).length := by
  rw [List.filter_append, List.length_append]
  omega

theorem Admits.of_concat
    (admits : Admits allowed (before ++ [next])) :
    Admits allowed before :=
  ⟨(length_filter_concat_le before next "description").trans admits.once,
    fun child member => admits.each child (List.mem_append_left _ member)⟩

section First

variable {α : Type} {meaning : Element → α}

theorem firstOf?_concat_same
    (isTag : next.tag = tag)
    (isFirst : firstOf? tag meaning before = none) :
    firstOf? tag meaning (before ++ [next]) = some (meaning next) := by
  have noneBefore : before.filter (·.tag == tag) = [] := by
    simpa [firstOf?] using isFirst
  rw [firstOf?, filter_concat_same isTag, noneBefore]
  rfl

theorem firstOf?_concat_other
    (isOther : next.tag ≠ tag) :
    firstOf? tag meaning (before ++ [next]) = firstOf? tag meaning before := by
  rw [firstOf?, filter_concat_other isOther, firstOf?]

/-- There is one element with a tag at most if one more with it is the first. -/
theorem once_concat_iff
    (meaning : Element → α)
    (once : (before.filter (·.tag == tag)).length ≤ 1) :
    ((before ++ [next]).filter (·.tag == tag)).length ≤ 1 ↔
      (next.tag = tag → firstOf? tag meaning before = none) := by
  have isFirst : firstOf? tag meaning before = none ↔
      (before.filter (·.tag == tag)).length = 0 := by
    simp [firstOf?]
  by_cases isTag : next.tag = tag
  · rw [isFirst, filter_concat_same isTag, List.length_append, List.length_singleton]
    simp only [isTag, forall_const]
    omega
  · simp [filter_concat_other isTag, isTag, once]

end First

/-- One more child is admitted if it is the first description or otherwise allowed. -/
theorem Admits.concat_iff
    (admits : Admits allowed before) :
    Admits allowed (before ++ [next]) ↔
      (next.tag = "description" → firstDescription? before = none) ∧
        (next.tag = "description" ∧ IsDescription next ∨ allowed next) := by
  rw [firstDescription?, ← once_concat_iff descriptionOf admits.once]
  constructor
  · exact fun more => ⟨more.once, more.each next (by simp)⟩
  · rintro ⟨once, isAllowed⟩
    refine ⟨once, fun child member => ?_⟩
    rcases List.mem_append.mp member with earlier | isNext
    · exact admits.each child earlier
    · rwa [List.mem_singleton.mp isNext]

/-- A child that is neither a description nor otherwise allowed is not admitted. -/
theorem Admits.not_concat
    (notDescription : next.tag ≠ "description")
    (notAllowed : ¬allowed next) :
    ¬Admits allowed (before ++ [next]) := by
  intro more
  rcases more.each next (by simp) with ⟨isDescription, -⟩ | isAllowed
  · exact notDescription isDescription
  · exact notAllowed isAllowed

/-- A child other than a description is admitted if it is allowed. -/
theorem Admits.concat_other_iff
    (admits : Admits allowed before)
    (notDescription : next.tag ≠ "description") :
    Admits allowed (before ++ [next]) ↔ allowed next := by
  rw [admits.concat_iff]
  simp [notDescription]

end Concat

end Grammar

end Wayland.Document
