import Wayland.Markup.Token

/-!
Contract: the element tree of a document.

Owns: nesting of tags, the spaces that qualifiers stand for, and trees of documents that break off:
an element that a failure cuts off keeps the content read so far and the failure.

Does not own: which elements and attributes mean anything.
-/

namespace Wayland.Markup

/-- A part of a document. -/
inductive Node where
  | text (content : String) (line : Nat)
  /-- An element with the line its start tag ends on.  `cut` is the failure that prevented its end
  tag from being read. -/
  | element (tag : String) (attributes : List Attribute) (line : Nat) (content : List Node)
      (cut : Option Failure)

/-- The parts of a whole document, and the failure that ended them. -/
structure Tree where
  nodes : List Node
  failure : Option Failure

/-- What qualifiers stand for; the first binding of a qualifier counts. -/
abbrev Spaces := List (String × String)

def bindingWord : String := "xmlns"

/-- The bindings that hold after the attributes of a start tag. -/
def bindSpaces
    (spaces : Spaces)
    (attributes : List Attribute) :
    Spaces :=
  attributes.foldl
    (fun spaces given =>
      if given.name.space == bindingWord then (given.name.label, given.value) :: spaces
      else if given.name.space == "" && given.name.label == bindingWord then
        ("", given.value) :: spaces
      else spaces)
    spaces

/-- An attribute whose qualifier is replaced by the space it stands for. -/
def resolveAttribute
    (spaces : Spaces)
    (given : Attribute) :
    Attribute :=
  let space := given.name.space
  if space == "" || space == bindingWord then given
  else
    let space := if space == "xml" then "http://www.w3.org/XML/1998/namespace" else space
    { given with name := { given.name with space := (spaces.lookup space).getD space } }

/-- An element whose end tag has not been read.  Its content is kept latest first. -/
structure OpenElement where
  name : Name
  attributes : List Attribute
  line : Nat
  latest : List Node
  /-- The bindings that hold inside the element. -/
  spaces : Spaces

def OpenElement.finish
    (element : OpenElement)
    (cut : Option Failure) :
    Node :=
  .element element.name.label element.attributes element.line element.latest.reverse cut

/-- A tree under construction: the open elements, innermost first, and the nodes outside them,
latest first. -/
structure Builder where
  stack : List OpenElement := []
  outside : List Node := []

namespace Builder

def add
    (builder : Builder)
    (node : Node) :
    Builder :=
  match builder.stack with
  | [] => { builder with outside := node :: builder.outside }
  | innermost :: others =>
      { builder with stack := { innermost with latest := node :: innermost.latest } :: others }

/-- The bindings that hold where the document is being read. -/
def spaces
    (builder : Builder) :
    Spaces :=
  (builder.stack.head?.map (·.spaces)).getD []

/-- The fault of an end tag, if it does not end the innermost element. -/
def endFault?
    (builder : Builder)
    (name : Name) :
    Option Fault :=
  match builder.stack with
  | [] => some (.unmatchedEnd name.label)
  | innermost :: _ =>
      if innermost.name.label != name.label then
        some (.crossedTags innermost.name.label name.label)
      else if innermost.name.space != name.space then
        some (.crossedSpaces innermost.name.label innermost.name.space name.label name.space)
      else none

def push
    (builder : Builder)
    (located : LocatedToken) :
    Except Failure Builder :=
  match located.token with
  | .text content => .ok (builder.add (.text content located.line))
  | .startTag name attributes selfClosing =>
      let spaces := bindSpaces builder.spaces attributes
      let element : OpenElement :=
        ⟨name, attributes.map (resolveAttribute spaces), located.line, [], spaces⟩
      if selfClosing then .ok (builder.add (element.finish none))
      else .ok { builder with stack := element :: builder.stack }
  | .endTag name =>
      match builder.endFault? name, builder.stack with
      | some fault, _ => .error ⟨located.line, fault⟩
      | none, innermost :: others =>
          .ok ({ builder with stack := others }.add (innermost.finish none))
      | none, [] => .ok builder

/-- Ends every open element by a failure, innermost first. -/
def cutOff
    (failure : Option Failure) :
    (stack : List OpenElement) → (outside : List Node) → List Node
  | [], outside => outside.reverse
  | [outermost], outside => (outermost.finish failure :: outside).reverse
  | innermost :: parent :: others, outside =>
      cutOff failure
        ({ parent with latest := innermost.finish failure :: parent.latest } :: others) outside
  termination_by stack => stack.length

def finish
    (builder : Builder)
    (failure : Option Failure) :
    Tree :=
  ⟨cutOff failure builder.stack builder.outside, failure⟩

end Builder

/-- Takes in tokens until one does not fit. -/
def buildFrom
    (builder : Builder)
    (stream : TokenStream) :
    List LocatedToken → Tree
  | [] =>
      match stream.failure with
      | some failure => builder.finish (some failure)
      | none =>
          if builder.stack.isEmpty then builder.finish none
          else builder.finish (some ⟨stream.lastLine, .unexpectedEnd⟩)
  | located :: rest =>
      match builder.push located with
      | .ok builder => buildFrom builder stream rest
      | .error failure => builder.finish (some failure)

def Tree.ofBytes
    (document : Text.Bytes) :
    Tree :=
  let stream := tokens document
  buildFrom {} stream stream.tokens

end Wayland.Markup
