import Wayland.Text.Shortest
import Wayland.Yaml.Shape

/-!
Contract: YAML documents as plain values.

Owns:
- values of any shape, with the mappings merged into others;
- the kind and type words for values, the two ways reports show them, and the order of keys.

Does not own: what a program expects of a value.
-/

namespace Wayland.Yaml

open Wayland.Text

/-- A value of any shape.  Entries keep the order in which their keys were written. -/
inductive Tree where
  | scalar (value : Value)
  | list (items : List Tree)
  /-- Entries whose keys are texts. -/
  | mapping (entries : List (String × Tree))
  /-- Entries whose keys are scalars of any kind. -/
  | table (entries : List (Value × Tree))
deriving Repr, Inhabited

/-- The text of a floating point value without a power of ten. -/
def Real.plainText : Real → String
  | .notANumber => "NaN"
  | .infinite negative => if negative then "-Inf" else "+Inf"
  | .finite value => Shortest.plainText value

def Real.reportText : Real → String
  | .notANumber => "NaN"
  | .infinite negative => if negative then "-Inf" else "+Inf"
  | .finite value => Shortest.generalText value

def unitsOf
    (value : Decimal) :
    Int :=
  let (significand, place) := value.toBinary
  let units : Int := significand * Nat.pow 2 (place + 1074).toNat
  if value.negative then -units else units

/-- The order of floating point values; what is not a number comes first. -/
def Real.precedes : Real → Real → Bool
  | .notANumber, _ => true
  | _, .notANumber => false
  | .infinite true, _ => true
  | _, .infinite true => false
  | _, .infinite false => true
  | .infinite false, _ => false
  | .finite left, .finite right => decide (unitsOf left ≤ unitsOf right)

/-- Whether an integer needs all 64 bits for its magnitude. -/
def isHuge
    (value : Int) :
    Bool :=
  decide ((Nat.pow 2 63 : Int) ≤ value)

namespace Value

def kindName : Value → String
  | .null => "invalid"
  | .bool _ => "bool"
  | .int value => if isHuge value then "uint64" else "int"
  | .real _ => "float64"
  | .date _ => "struct"
  | .text _ => "string"

def shown : Value → String
  | .null => "<nil>"
  | .bool value => if value then "true" else "false"
  | .int value => toString value
  | .real value => value.reportText
  | .date value => value.text
  | .text value => value

def literal : Value → String
  | .null => "interface \x7b\x7d(nil)"
  | .int value =>
      if isHuge value then "0x" ++ String.ofList (Nat.toDigits 16 value.toNat) else toString value
  | .date value => value.literal
  | .text value => quote value
  | value => value.shown

/-- A value as a key among texts. -/
def keyText : Value → String
  | .null => ""
  | .real value => value.plainText
  | value => value.shown

def kindRank : Value → Nat
  | .null => 0
  | .bool _ => 1
  | .real _ => 2
  | .int value => if isHuge value then 5 else 3
  | .text _ => 4
  | .date _ => 6

/-- The order of keys: by kind, then by value. -/
def precedes
    (left right : Value) :
    Bool :=
  match left, right with
  | .bool left, .bool right => !left || right
  | .real left, .real right => left.precedes right
  | .int left, .int right => decide (left ≤ right)
  | .text left, .text right => Text.precedes left right
  | .date left, .date right => left.precedes right
  | left, right => decide (left.kindRank ≤ right.kindRank)

end Value

namespace Tree

@[match_pattern]
abbrev null : Tree := .scalar .null

@[match_pattern]
abbrev bool (value : Bool) : Tree := .scalar (.bool value)

@[match_pattern]
abbrev int (value : Int) : Tree := .scalar (.int value)

@[match_pattern]
abbrev real (value : Real) : Tree := .scalar (.real value)

@[match_pattern]
abbrev date (value : Instant) : Tree := .scalar (.date value)

@[match_pattern]
abbrev text (value : String) : Tree := .scalar (.text value)

def kindName : Tree → String
  | .scalar value => value.kindName
  | .list _ => "slice"
  | .mapping _ => "map"
  | .table _ => "map"

def typeName : Tree → String
  | .date _ => "time.Time"
  | .list _ => "[]interface \x7b\x7d"
  | .mapping _ => "map[string]interface \x7b\x7d"
  | .table _ => "map[interface \x7b\x7d]interface \x7b\x7d"
  | value => value.kindName

def sortEntries
    (entries : List (Value × String)) :
    List (Value × String) :=
  entries.mergeSort fun left right => left.1.precedes right.1

/-- Entries as reports show them, in the order of their keys. -/
def joinShown
    (entries : List (Value × String)) :
    String :=
  "map[" ++ String.intercalate " "
    ((sortEntries entries).map fun (key, value) => key.shown ++ ":" ++ value) ++ "]"

/-- Entries as they would be written in Go, in the order of their keys. -/
def joinLiterals
    (keyType : String)
    (entries : List (Value × String)) :
    String :=
  "map[" ++ keyType ++ "]interface \x7b\x7d\x7b" ++ String.intercalate ", "
    ((sortEntries entries).map fun (key, value) => key.literal ++ ":" ++ value) ++ "\x7d"

mutual

def shown : Tree → String
  | .scalar value => value.shown
  | .list items => "[" ++ String.intercalate " " (shownItems items) ++ "]"
  | .mapping entries => joinShown (shownEntries entries)
  | .table entries => joinShown (shownRows entries)

def shownItems : List Tree → List String
  | [] => []
  | item :: items => item.shown :: shownItems items

def shownEntries : List (String × Tree) → List (Value × String)
  | [] => []
  | (key, value) :: entries => (.text key, value.shown) :: shownEntries entries

/-- Entries of a table with their values as reports show them. -/
def shownRows : List (Value × Tree) → List (Value × String)
  | [] => []
  | (key, value) :: entries => (key, value.shown) :: shownRows entries

end

mutual

/-- A value with its type, as it would be written in Go. -/
def literal : Tree → String
  | .scalar value => value.literal
  | .list items =>
      "[]interface \x7b\x7d\x7b" ++ String.intercalate ", " (literalItems items) ++ "\x7d"
  | .mapping entries => joinLiterals "string" (literalEntries entries)
  | .table entries => joinLiterals "interface \x7b\x7d" (literalRows entries)

def literalItems : List Tree → List String
  | [] => []
  | item :: items => item.literal :: literalItems items

/-- Entries with their values as they would be written in Go. -/
def literalEntries : List (String × Tree) → List (Value × String)
  | [] => []
  | (key, value) :: entries => (.text key, value.literal) :: literalEntries entries

/-- Entries of a table with their values as they would be written in Go. -/
def literalRows : List (Value × Tree) → List (Value × String)
  | [] => []
  | (key, value) :: entries => (key, value.literal) :: literalRows entries

end

/-- Reads a key that must be a text, or `none` if it is not usable. -/
def textKey
    (key : Node) :
    Decode (Option Value) := do
  let (name, usable) ← Shape.text.read 0 key ""
  return if usable then some (.text name) else none

/-- Reads a key of any kind; collections are no keys. -/
def anyKey
    (readValue : Node → Decode (Option Tree))
    (key : Node) :
    Decode (Option Value) := do
  match ← readValue key with
  | none => return none
  | some (.scalar value) => return some value
  | some tree => Decode.stop ("invalid map key: " ++ tree.literal)

/-- Sets the value of a key.  Entries are kept latest first. -/
def setKey
    (key : Value)
    (tree : Tree) :
    List (Value × Tree) → List (Value × Tree)
  | [] => [(key, tree)]
  | entries =>
      if entries.any (·.1.isSame key) then
        entries.map fun entry => if entry.1.isSame key then (key, tree) else entry
      else (key, tree) :: entries

/-- Reads the entries of a mapping that are no merges. -/
def entriesFrom
    (readKey : Node → Decode (Option Value))
    (readValue : Node → Decode (Option Tree))
    (taken : Shape.Taken)
    (latest : List (Value × Tree)) :
    List (Node × Node) → Decode (List (Value × Tree) × Shape.Taken)
  | [] => return (latest, taken)
  | (key, value) :: rest => do
      if key.isMerge then entriesFrom readKey readValue taken latest rest
      else
        match ← readKey key with
        | none => entriesFrom readKey readValue taken latest rest
        | some name =>
            if taken.has name then entriesFrom readKey readValue taken latest rest
            else
              let taken := taken.map (name :: ·)
              match ← readValue value with
              | none => entriesFrom readKey readValue taken latest rest
              | some tree => entriesFrom readKey readValue taken (setKey name tree latest) rest

/-- Reads a mapping: its own entries first, then what it merges.  A mapping that repeats a key is
not read at all.  Entries are kept latest first. -/
def mappingFrom
    (readKey : Node → Decode (Option Value))
    (readValue : Node → Decode (Option Tree)) :
    (limit : Nat) → Shape.Taken → List (Value × Tree) → List (Node × Node) →
      Decode (List (Value × Tree) × Shape.Taken)
  | 0, taken, latest, _ => return (latest, taken)
  | limit + 1, taken, latest, entries => do
      let repeated := Shape.repeatedKeys (entries.map (·.1))
      if !repeated.isEmpty then
        for report in repeated do Decode.note report
        return (latest, taken)
      let (latest, taken) ← entriesFrom readKey readValue taken latest entries
      match (entries.filter (·.1.isMerge)).getLast? with
      | none => return (latest, taken)
      | some (_, source) =>
          let within ←
            match taken with
            | some names => pure names
            | none => Shape.ownKeys entries
          let (latest, after) ←
            Shape.mergeFrom (mappingFrom readKey readValue limit) (some within) latest
              (Shape.mergeSources source)
          return (latest, if taken.isSome then after else none)

/-- The entries whose keys are texts, in the order in which they were written. -/
def textEntries
    (latest : List (Value × Tree)) :
    List (String × Tree) :=
  latest.reverse.filterMap fun (key, tree) =>
    match key with
    | .text name => some (name, tree)
    | _ => none

/-- Whether all keys of a mapping are texts or merges, by their tags. -/
def hasTextKeys
    (anchored : List (Nat × Node))
    (entries : List (Node × Node)) :
    Bool :=
  entries.all fun (key, _) =>
    let tag :=
      match key with
      | .alias _ _ anchor _ => ((anchored.lookup anchor).map Node.shortTag).getD ""
      | key => key.shortTag
    tag == "!!str" || tag == "!!merge"

/-- Reads a node; a mapping that repeats a key has no value.  `limit` bounds the nesting. -/
def read : (limit : Nat) → Node → Decode (Option Tree)
  | 0, _ => return none
  | limit + 1, node =>
      Decode.resolve
        (fun node => do
          match node with
          | .scalar tag written _ _ => return some (.scalar (← scalarValue tag written))
          | .sequence _ nodes _ => return some (.list ((← nodes.mapM (read limit)).filterMap id))
          | .mapping _ entries _ =>
              let trail ← readThe Trail
              let textual := hasTextKeys trail.anchored entries
              let readKey := if textual then textKey else anyKey (read limit)
              let (latest, _) ← mappingFrom readKey (read limit) (limit + 1) none [] entries
              return if !(Shape.repeatedKeys (entries.map (·.1))).isEmpty then none
                else if textual then some (.mapping (textEntries latest))
                else some (.table latest.reverse)
          | _ => return none)
        node

/-- The shape of a whole document that must be a mapping; null is an empty one. -/
def rootShape : Shape (List (String × Tree)) where
  typeName := "map[string]interface \x7b\x7d"
  read limit node current :=
    Decode.resolve
      (fun node => do
        match node with
        | .mapping _ entries _ =>
            let (latest, _) ← mappingFrom textKey (read limit) limit none [] entries
            return (textEntries latest, true)
        | .scalar tag written _ _ =>
            match ← scalarValue tag written with
            | .null => return (current, false)
            | _ =>
                mismatch node "map[string]interface \x7b\x7d"
                return (current, false)
        | _ =>
            mismatch node "map[string]interface \x7b\x7d"
            return (current, false))
      node

end Tree

end Wayland.Yaml
