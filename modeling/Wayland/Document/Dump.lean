import Wayland.Model.Json
import Wayland.Yaml.Printer

/-!
Contract: protocol models as documents.

Owns: the values a model is written as, with empty parts left out, and the two texts of a model.

Does not own: the layout of YAML and JSON.
-/

namespace Wayland.Document

open Wayland.Model
open Wayland.Yaml (Tree)

/-- An entry that is left out when its text is empty. -/
def textEntry
    (key value : String) :
    List (String × Tree) :=
  if value.isEmpty then [] else [(key, .text value)]

/-- An entry that is left out when its number is zero. -/
def numberEntry
    (key : String)
    (value : UInt32) :
    List (String × Tree) :=
  if value == 0 then [] else [(key, .int value.toNat)]

/-- An entry that is left out when its flag is not set. -/
def flagEntry
    (key : String)
    (value : Bool) :
    List (String × Tree) :=
  if value then [(key, .bool true)] else []

/-- An entry that is left out when its list is empty. -/
def listEntry
    {α : Type}
    (key : String)
    (tree : α → Tree)
    (items : List α) :
    List (String × Tree) :=
  if items.isEmpty then [] else [(key, .list (items.map tree))]

/-- The entry of documentation, which is left out when there is none. -/
def descriptionEntry
    (description : Description) :
    List (String × Tree) :=
  if description.isEmpty then []
  else
    [("description",
      .mapping (textEntry "summary" description.summary ++ textEntry "text" description.text))]

def argTree
    (arg : Arg) :
    Tree :=
  .mapping
    ([("name", Tree.text arg.name), ("type", .text arg.typeName)]
      ++ flagEntry "allow_null" arg.nullable
      ++ textEntry "interface" arg.interface
      ++ textEntry "enum" arg.enumeration
      ++ textEntry "summary" arg.summary
      ++ descriptionEntry arg.description)

def messageTree
    (message : Message) :
    Tree :=
  .mapping
    ([("name", Tree.text message.name)]
      ++ numberEntry "since" message.since
      ++ numberEntry "deprecated_since" message.deprecatedSince
      ++ flagEntry "destructor" message.destructor
      ++ descriptionEntry message.description
      ++ listEntry "args" argTree message.args)

def entryTree
    (entry : Entry) :
    Tree :=
  .mapping
    ([("name", Tree.text entry.name), ("value", .int entry.value.toNat)]
      ++ numberEntry "since" entry.since
      ++ numberEntry "deprecated_since" entry.deprecatedSince
      ++ textEntry "summary" entry.summary
      ++ descriptionEntry entry.description)

def enumerationTree
    (enumeration : Enumeration) :
    Tree :=
  .mapping
    ([("name", Tree.text enumeration.name)]
      ++ numberEntry "since" enumeration.since
      ++ flagEntry "bitfield" enumeration.bitfield
      ++ descriptionEntry enumeration.description
      ++ [("entries", Tree.list (enumeration.entries.map entryTree))])

def interfaceTree
    (interface : Interface) :
    Tree :=
  .mapping
    ([("name", Tree.text interface.name), ("version", .int interface.version.toNat)]
      ++ flagEntry "frozen" interface.frozen
      ++ descriptionEntry interface.description
      ++ listEntry "requests" messageTree interface.requests
      ++ listEntry "events" messageTree interface.events
      ++ listEntry "enums" enumerationTree interface.enumerations)

def protocolTree
    (protocol : Protocol) :
    Tree :=
  .mapping
    ([("name", Tree.text protocol.name)]
      ++ textEntry "copyright" protocol.copyright
      ++ descriptionEntry protocol.description
      ++ [("interfaces", Tree.list (protocol.interfaces.map interfaceTree))])

inductive DumpFormat where
  | yaml
  | json
deriving DecidableEq, Repr

/-- The form with a name, in either case of letters. -/
def DumpFormat.ofName? : String → Option DumpFormat
  | "yaml" => some .yaml
  | "json" => some .json
  | _ => none

def dump
    (protocol : Protocol) :
    DumpFormat → String
  | .yaml => (protocolTree protocol).render
  | .json => protocol.json.indented "" ++ "\n"

end Wayland.Document
