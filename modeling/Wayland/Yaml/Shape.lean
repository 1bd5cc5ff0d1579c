import Wayland.Text.Base64
import Wayland.Text.Quoted
import Wayland.Yaml.Node

/-!
Contract: YAML trees as records, lists and scalars of known types.

Owns:
- which scalars a text, a flag or a 32-bit number accepts;
- lists, whose unusable items are left out;
- records, whose fields may come from merged mappings and of which only known ones are accepted;
- the collection of all shape faults of a tree.

Does not own: the records of any particular document.
-/

namespace Wayland.Yaml

open Wayland.Text

/-- What is known while a tree is read: the anchored nodes, and the references that are being
followed. -/
structure Trail where
  anchored : List (Nat × Node)
  followed : List Nat := []

/-- What has been read so far: the shape faults, latest first, and how many nodes were read, in all
and below references. -/
structure Progress where
  faults : List String := []
  /-- The document itself counts as a node. -/
  nodes : Nat := 1
  referenced : Nat := 0

/-- Whether too many of the nodes are read through references: over 99 of 100 in small documents,
and over a share that falls to 10 of 100 in huge ones. -/
def Progress.isExcessive
    (progress : Progress) :
    Bool :=
  let low := 400000
  let high := 4000000
  let share :=
    if progress.nodes ≤ low then 99 * (high - low)
    else if high ≤ progress.nodes then 10 * (high - low)
    else 99 * (high - low) - 89 * (progress.nodes - low)
  progress.referenced > 100 && progress.nodes > 1000
    && 100 * (high - low) * progress.referenced > share * progress.nodes

/-- A computation that collects shape faults and stops at a fault of the text. -/
abbrev Decode := ReaderT Trail (StateT Progress (Except Fault))

namespace Decode

def note
    (fault : String) :
    Decode Unit :=
  modify fun progress => { progress with faults := fault :: progress.faults }

def stop
    {α : Type}
    (text : String) :
    Decode α :=
  throw (.plain text)

def count : Decode Unit := do
  let trail ← read
  let progress ← get
  let progress :=
    { progress with
      nodes := progress.nodes + 1
      referenced := progress.referenced + (if trail.followed.isEmpty then 0 else 1) }
  set progress
  if progress.isExcessive then stop "document contains excessive aliasing"

/-- Reads the node that a node stands for: itself, or for a reference the anchored one. -/
def resolve
    {α : Type}
    (readNode : Node → Decode α)
    (node : Node) :
    Decode α := do
  count
  match node with
  | .alias name number anchor _ =>
      let trail ← read
      if trail.followed.contains number then stop ("anchor '" ++ name ++ "' value contains itself")
      match trail.anchored.lookup anchor with
      | none => stop ("unknown anchor '" ++ name ++ "' referenced")
      | some target =>
          withReader (fun trail => { trail with followed := number :: trail.followed }) do
            count
            readNode target
  | node => readNode node

end Decode

/-- What a node becomes.  `read` takes a bound on the nesting of merges, the node and the value so
far, and tells whether the node was usable. -/
structure Shape (α : Type) where
  /-- The name of the type in reports. -/
  typeName : String
  read : (limit : Nat) → Node → α → Decode (α × Bool)

/-- The text of a scalar in reports: long ones are cut after seven bytes. -/
def excerpt
    (text : String) :
    String :=
  let bytes := Bytes.ofText text
  if bytes.length > 10 then Bytes.toText (bytes.take 7) ++ "..." else text

def mismatch
    (node : Node)
    (typeName : String) :
    Decode Unit :=
  let tag := node.shortTag
  let value :=
    if tag == "!!seq" || tag == "!!map" then "" else " \x60" ++ excerpt node.text ++ "\x60"
  .note ("line " ++ toString node.line ++ ": cannot unmarshal " ++ tag ++ value ++ " into "
    ++ typeName)

/-- The value of a scalar with its tag.  A standard tag that contradicts the value stops the
reading; under any other tag the scalar is a text. -/
def scalarValue
    (tag text : String) :
    Decode Value :=
  if tag == "!!binary" then
    match Base64.bytes? text with
    | some bytes => return .text (Bytes.toText bytes)
    | none => .stop "!!binary value contains invalid base64 data"
  else if !(["!!bool", "!!int", "!!float", "!!null", "!!timestamp"].contains tag) then
    return .text text
  else
    let value := plainValue (tag == "!!timestamp") text
    let contradiction (value : Value) : Decode Value :=
      .stop ("cannot decode " ++ value.tag ++ " \x60" ++ text ++ "\x60 as a " ++ tag)
    if value.tag == tag then return value
    else
      match tag, value with
      | "!!float", .int number =>
          if number < Nat.pow 2 63 then
            return .real (.finite ⟨decide (number < 0), number.natAbs, 0⟩)
          else contradiction value
      | _, _ => contradiction value

namespace Shape

/-- A scalar that is put into a value by `accept`; null leaves the value as it is. -/
def scalar
    {α : Type}
    (typeName : String)
    (accept : Value → String → Option α) :
    Shape α where
  typeName
  read _ node current :=
    Decode.resolve
      (fun node => do
        match node with
        | .scalar tag text _ _ =>
            match ← scalarValue tag text with
            | .null => return (current, false)
            | value =>
                match accept value text with
                | some result => return (result, true)
                | none =>
                    mismatch node typeName
                    return (current, false)
        | _ =>
            mismatch node typeName
            return (current, false))
      node

/-- A text under a type name: any scalar as it is written. -/
def namedText
    (typeName : String) :
    Shape String :=
  scalar typeName fun value written =>
    match value with
    | .text value => some value
    | _ => some written

def text : Shape String := namedText "string"

/-- The whole part of a number that is not below zero. -/
def Real.natural? : Real → Option Nat
  | .finite value =>
      let (significand, place) := value.toBinary
      let whole :=
        if 0 ≤ place then significand * Nat.pow 2 place.toNat
        else significand / Nat.pow 2 (-place).toNat
      if value.negative && whole != 0 then none else some whole
  | _ => none

/-- A number of 32 bits; the fraction of a number is cut off. -/
def uint32 : Shape UInt32 :=
  scalar "uint32" fun value _ =>
    let natural? : Option Nat :=
      match value with
      | .int value => if 0 ≤ value then some value.toNat else none
      | .real value => Real.natural? value
      | _ => none
    match natural? with
    | some value => if value < Nat.pow 2 32 then some (UInt32.ofNat value) else none
    | none => none

/-- A flag; besides the words for flags, some older words are taken for one. -/
def bool : Shape Bool :=
  scalar "bool" fun value _ =>
    match value with
    | .bool value => some value
    | .text word =>
        if ["y", "Y", "yes", "Yes", "YES", "on", "On", "ON"].contains word then some true
        else if ["n", "N", "no", "No", "NO", "off", "Off", "OFF"].contains word then some false
        else none
    | _ => none

/-- Reads list items; an item that is not usable is left out. -/
def items
    {α : Type}
    (shape : Shape α)
    (limit : Nat)
    (initial : α)
    (latest : List α) :
    List Node → Decode (List α)
  | [] => return latest.reverse
  | node :: rest => do
      let (value, usable) ← shape.read limit node initial
      items shape limit initial (if usable then value :: latest else latest) rest

/-- A list; null stands for a list that was never written. -/
def list
    {α : Type}
    (typeName : String)
    (shape : Shape α)
    (initial : α) :
    Shape (Option (List α)) where
  typeName
  read limit node current :=
    Decode.resolve
      (fun node => do
        match node with
        | .sequence _ nodes _ => return (some (← items shape limit initial [] nodes), true)
        | .scalar tag text _ _ =>
            match ← scalarValue tag text with
            | .null => return (none, true)
            | _ =>
                mismatch node typeName
                return (current, false)
        | _ =>
            mismatch node typeName
            return (current, false))
      node

/-- A field of a record. -/
structure Field (σ : Type) where
  name : String
  read : (limit : Nat) → Node → σ → Decode σ

/-- The field with a shape, by how it is taken from and put into a record. -/
def field
    {σ α : Type}
    (name : String)
    (shape : Shape α)
    (get : σ → α)
    (put : σ → α → σ) :
    Field σ where
  name
  read limit node record := do
    let (value, _) ← shape.read limit node (get record)
    return put record value

/-- Whether two keys count as the same: same kind of node and same text. -/
def sameKey : Node → Node → Bool
  | .scalar _ left _ _, .scalar _ right _ _ => left == right
  | .alias left _ _ _, .alias right _ _ _ => left == right
  | .sequence _ _ _, .sequence _ _ _ => true
  | .mapping _ _ _, .mapping _ _ _ => true
  | _, _ => false

/-- The reports on keys that repeat an earlier one. -/
def repeatedKeys : List Node → List String
  | [] => []
  | key :: rest =>
      (rest.filter (sameKey key)).map
          (fun later =>
            "line " ++ toString later.line ++ ": mapping key " ++ quote later.text
              ++ " already defined at line " ++ toString key.line)
        ++ repeatedKeys rest

/-- The keys of a mapping, which merged mappings do not override. -/
def ownKeys : List (Node × Node) → Decode (List Value)
  | [] => return []
  | (key, _) :: rest => do
      let name? ← Decode.resolve
        (fun node => do
          match node with
          | .scalar tag text _ _ => return some (← scalarValue tag text)
          | _ => return none)
        key
      let others ← ownKeys rest
      return name?.toList ++ others

/-- Which keys are already set when a mapping is merged; `none` outside merges. -/
abbrev Taken := Option (List Value)

def Taken.has
    (taken : Taken)
    (key : Value) :
    Bool :=
  (taken.getD []).any (·.isSame key)

/-- Reads the entries of a record that are no merges.  `seen` holds the fields set so far. -/
def entriesFrom
    {σ : Type}
    (typeName : String)
    (fields : List (Field σ))
    (limit : Nat)
    (taken : Taken)
    (seen : List String)
    (record : σ) :
    List (Node × Node) → Decode (σ × Taken)
  | [] => return (record, taken)
  | (key, value) :: rest => do
      if key.isMerge then entriesFrom typeName fields limit taken seen record rest
      else
        let (name, usable) ← text.read limit key ""
        if !usable || taken.has (.text name) then
          entriesFrom typeName fields limit taken seen record rest
        else
          let taken := taken.map (.text name :: ·)
          match fields.find? (·.name == name) with
          | some found =>
              if seen.contains name then
                Decode.note ("line " ++ toString key.line ++ ": field " ++ name
                  ++ " already set in type " ++ typeName)
                entriesFrom typeName fields limit taken seen record rest
              else
                let record ← found.read limit value record
                entriesFrom typeName fields limit taken (name :: seen) record rest
          | none =>
              Decode.note ("line " ++ toString key.line ++ ": field " ++ name
                ++ " not found in type " ++ typeName)
              entriesFrom typeName fields limit taken seen record rest

/-- The fault of a merge of something that is no mapping. -/
def badMerge
    {α : Type} :
    Decode α :=
  .stop "map merge requires map or sequence of maps as the value"

/-- Reads one merged mapping with `readOne`. -/
def mergeOne
    {α : Type}
    (readOne : List (Node × Node) → Decode α)
    (node : Node) :
    Decode α := do
  let trail ← readThe Trail
  let isMapping : Node → Bool
    | .mapping _ _ _ => true
    | _ => false
  let accepted :=
    match node with
    | .alias _ _ anchor _ => (trail.anchored.lookup anchor).any isMapping
    | node => isMapping node
  if !accepted then badMerge
  Decode.resolve
    (fun node => do
      match node with
      | .mapping _ entries _ => readOne entries
      | _ => badMerge)
    node

/-- The nodes that a merge key brings in, in order. -/
def mergeSources : Node → List Node
  | .sequence _ nodes _ => nodes
  | node => [node]

/-- Reads the mappings merged into a record, each behind the ones before it. -/
def mergeFrom
    {σ : Type}
    (readOne : Taken → σ → List (Node × Node) → Decode (σ × Taken))
    (taken : Taken)
    (record : σ) :
    List Node → Decode (σ × Taken)
  | [] => return (record, taken)
  | node :: rest => do
      let (record, taken) ← mergeOne (readOne taken record) node
      mergeFrom readOne taken record rest

/-- Reads a record from a mapping: its own entries first, then what it merges.  A mapping that
repeats a key is not read at all. -/
def recordFrom
    {σ : Type}
    (typeName : String)
    (fields : List (Field σ)) :
    (limit : Nat) → Taken → σ → List (Node × Node) → Decode (σ × Taken)
  | 0, taken, record, _ => return (record, taken)
  | limit + 1, taken, record, entries => do
      let repeated := repeatedKeys (entries.map (·.1))
      if !repeated.isEmpty then
        for report in repeated do Decode.note report
        return (record, taken)
      let (record, taken) ← entriesFrom typeName fields limit taken [] record entries
      match (entries.filter (·.1.isMerge)).getLast? with
      | none => return (record, taken)
      | some (_, source) =>
          let within ←
            match taken with
            | some names => pure names
            | none => ownKeys entries
          let (record, after) ←
            mergeFrom (recordFrom typeName fields limit) (some within) record (mergeSources source)
          return (record, if taken.isSome then after else none)

/-- A record.  Null leaves it as it is; where `optional`, the record may be null, and then a
collection with the tag of null is not accepted in its place. -/
def record
    {σ : Type}
    (typeName : String)
    (fields : List (Field σ))
    (optional : Bool) :
    Shape σ where
  typeName
  read limit node current :=
    let optionalName := "*" ++ typeName
    Decode.resolve
      (fun node => do
        let refused := optional && node.shortTag == "!!null"
        match node with
        | .mapping _ entries _ =>
            if refused && (repeatedKeys (entries.map (·.1))).isEmpty then
              mismatch node optionalName
              return (current, false)
            else
              let (result, _) ← recordFrom typeName fields limit none current entries
              return (result, true)
        | .scalar tag text _ _ =>
            match ← scalarValue tag text with
            | .null => return (current, optional)
            | _ =>
                mismatch node typeName
                return (current, false)
        | _ =>
            mismatch node (if refused then optionalName else typeName)
            return (current, false))
      node

end Shape

def Shape.ofDocument
    {α : Type}
    (shape : Shape α)
    (limit : Nat)
    (initial : α)
    (document : Document) :
    Except Fault (Except (List String) α) :=
  match ((shape.read limit document.root initial).run ⟨document.anchored, []⟩).run {} with
  | .error fault => .error fault
  | .ok ((value, _), progress) =>
      if progress.faults.isEmpty then .ok (.ok value) else .ok (.error progress.faults.reverse)

end Wayland.Yaml
