import Wayland.Yaml.Event
import Wayland.Yaml.Value

/-!
Contract: the tree of the first document of a YAML text.

Owns: nodes with their tags and lines, anchors and aliases, and reading a text into its tree.

Does not own: the values that programs expect in a tree.
-/

namespace Wayland.Yaml

/-- A part of a document.  Lines count from one. -/
inductive Node where
  | scalar (tag value : String) (style : Style) (line : Nat)
  | sequence (tag : String) (items : List Node) (line : Nat)
  | mapping (tag : String) (entries : List (Node × Node)) (line : Nat)
  /-- A reference, by its own number and that of the anchor. -/
  | alias (name : String) (number anchor : Nat) (line : Nat)
deriving Inhabited

/-- A document: its root and the anchored nodes by anchor number. -/
structure Document where
  root : Node
  anchored : List (Nat × Node)

namespace Node

def line : Node → Nat
  | .scalar _ _ _ line => line
  | .sequence _ _ line => line
  | .mapping _ _ line => line
  | .alias _ _ _ line => line

/-- The text of a scalar, the name of an alias, and nothing for collections. -/
def text : Node → String
  | .scalar _ value _ _ => value
  | .alias name _ _ _ => name
  | _ => ""

/-- The short tag of a node; references have none. -/
def shortTag : Node → String
  | .scalar tag _ _ _ => tag
  | .sequence tag _ _ => tag
  | .mapping tag _ _ => tag
  | .alias _ _ _ _ => ""

/-- Whether a scalar is the key that merges other mappings. -/
def isMerge : Node → Bool
  | .scalar tag value _ _ => value == "<<" && tag == "!!merge"
  | _ => false

end Node

/-- The tag of a scalar: the one it is given, else that of texts for quoted scalars and that of the
value for plain ones. -/
def scalarTag
    (given value : String)
    (style : Style) :
    String :=
  if given != "" && given != "!" then shortTag given
  else if style ≠ .plain then "!!str"
  else if value == "<<" then "!!merge"
  else (plainValue true value).tag

def collectionTag
    (given standard : String) :
    String :=
  if given != "" && given != "!" then shortTag given else standard

/-- A collection that is being read.  Its nodes are kept latest first; in a mapping, keys and
values alternate. -/
structure Frame where
  isMapping : Bool
  tag : String
  line : Nat
  /-- The number of the anchor, if the collection has one. -/
  anchor : Option Nat
  latest : List Node := []

def pairUp : List Node → List (Node × Node)
  | key :: value :: rest => (key, value) :: pairUp rest
  | _ => []

def Frame.node
    (frame : Frame) :
    Node :=
  if frame.isMapping then .mapping frame.tag (pairUp frame.latest.reverse) frame.line
  else .sequence frame.tag frame.latest.reverse frame.line

/-- A tree under construction. -/
structure Composer where
  frames : List Frame := []
  root : Option Node := none
  /-- The number of each anchor name, latest first. -/
  names : List (String × Nat) := []
  /-- The finished nodes by anchor number. -/
  anchored : List (Nat × Node) := []
  nextAnchor : Nat := 0
  nextAlias : Nat := 0

namespace Composer

/-- Adds a finished node to the innermost collection, or makes it the root. -/
def add
    (composer : Composer)
    (node : Node) :
    Composer :=
  match composer.frames with
  | [] => { composer with root := some node }
  | frame :: others =>
      { composer with frames := { frame with latest := node :: frame.latest } :: others }

def name
    (composer : Composer)
    (anchor : String) :
    Option Nat × Composer :=
  if anchor.isEmpty then (none, composer)
  else
    (some composer.nextAnchor,
      { composer with
        names := (anchor, composer.nextAnchor) :: composer.names
        nextAnchor := composer.nextAnchor + 1 })

def keep
    (composer : Composer)
    (anchor : Option Nat)
    (node : Node) :
    Composer :=
  match anchor with
  | some number => { composer with anchored := (number, node) :: composer.anchored }
  | none => composer

def openFrame
    (composer : Composer)
    (isMapping : Bool)
    (anchor tag : String)
    (line : Nat) :
    Composer :=
  let (number, composer) := composer.name anchor
  { composer with frames := { isMapping, tag, line, anchor := number } :: composer.frames }

def closeFrame
    (composer : Composer) :
    Composer :=
  match composer.frames with
  | [] => composer
  | frame :: others =>
      ({ composer with frames := others }.keep frame.anchor frame.node).add frame.node

def push
    (composer : Composer)
    (event : Event) :
    Except Fault Composer :=
  let line := event.start.line + 1
  match event.kind with
  | .alias name =>
      match composer.names.lookup name with
      | none => .error (.plain ("unknown anchor '" ++ name ++ "' referenced"))
      | some anchor =>
          let node := Node.alias name composer.nextAlias anchor line
          .ok ({ composer with nextAlias := composer.nextAlias + 1 }.add node)
  | .scalar anchor tag value style =>
      let (number, composer) := composer.name anchor
      let node := Node.scalar (scalarTag tag value style) value style line
      .ok ((composer.keep number node).add node)
  | .sequenceStart anchor tag =>
      .ok (composer.openFrame false anchor (collectionTag tag "!!seq") line)
  | .mappingStart anchor tag =>
      .ok (composer.openFrame true anchor (collectionTag tag "!!map") line)
  | .sequenceEnd => .ok composer.closeFrame
  | .mappingEnd => .ok composer.closeFrame
  | _ => .ok composer

def document?
    (composer : Composer) :
    Option Document :=
  composer.root.map fun root => ⟨root, composer.anchored⟩

end Composer

/-- Reads events into a tree until the first document ends. -/
def composeFrom
    (reader : Reader)
    (composer : Composer) :
    (fuel : Nat) → Except Fault (Option Document)
  | 0 => .ok composer.document?
  | fuel + 1 =>
      match reader.next with
      | .error fault => .error fault
      | .ok (event, reader) =>
          match event.kind with
          | .streamEnd => .ok none
          | .documentEnd => .ok composer.document?
          | _ =>
              match composer.push event with
              | .error fault => .error fault
              | .ok composer => composeFrom reader composer fuel

/-- The first document of a text, if it has one. -/
def Document.ofBytes
    (bytes : Text.Bytes) :
    Except Fault (Option Document) :=
  let input := Input.ofBytes bytes
  match Reader.ofInput input with
  | .error fault => .error fault
  | .ok reader => composeFrom reader {} (16 * (input.size + 16))

end Wayland.Yaml
