import Wayland.Check.Violation
import Wayland.Text.Quoted

/-!
Contract: the consistency check of a set of protocols.

Owns:
- resolution of interface names over a whole set, imports first;
- the violations of every node, in document order;
- the verdict on a set.

Does not own: the wording of whole reports, or how documents are read.
-/

namespace Wayland.Check

open Wayland.Model
open Wayland.Text (quote)
open Wayland.Wire (Direction)

/-- What is checked together.  Imports take part in name resolution only. -/
structure Batch where
  protocols : List Protocol
  imports : List Protocol := []
deriving DecidableEq, Repr

/-- The interfaces of a list of protocols in order, each with the name of its protocol. -/
def declarations
    (protocols : List Protocol) :
    List (String × Interface) :=
  protocols.flatMap fun protocol => protocol.interfaces.map (protocol.name, ·)

/-- All interfaces of a batch in resolution order: imports first. -/
def Batch.declarations
    (batch : Batch) :
    List (String × Interface) :=
  Check.declarations (batch.imports ++ batch.protocols)

/-- The interface a name stands for: the first declared under it. -/
def Batch.interface?
    (batch : Batch)
    (name : String) :
    Option Interface :=
  (batch.declarations.find? (·.2.name == name)).map (·.2)

/-- Reports every interface whose name an earlier one has taken. -/
def duplicateInterfaces
    (earlier : List (String × Interface)) :
    List (String × Interface) → List Violation
  | [] => []
  | (protocol, interface) :: rest =>
      match earlier.find? (·.2.name == interface.name) with
      | some (owner, _) =>
          { place := { protocol := protocol, interface := interface.name },
            rule := .duplicateInterface,
            detail := "interface " ++ quote interface.name ++ " is already declared by protocol "
              ++ quote owner }
            :: duplicateInterfaces earlier rest
      | none => duplicateInterfaces (earlier ++ [(protocol, interface)]) rest

/-- Letters, digits and the underscore. -/
def isNameChar
    (char : Char) :
    Bool :=
  char.isAlphanum || char == '_'

/-- A name that can stand for a protocol, interface, message, argument or enumeration. -/
def isIdentifier
    (name : String) :
    Bool :=
  match name.toList with
  | [] => false
  | first :: rest => (first.isAlpha || first == '_') && rest.all isNameChar

/-- A name that can stand for an entry, which may start with a digit. -/
def isEntryName
    (name : String) :
    Bool :=
  !name.isEmpty && name.toList.all isNameChar

/-- The violation, if any, of a condition that must not hold. -/
def when
    (condition : Bool)
    (place : Place)
    (rule : Rule)
    (detail : String) :
    List Violation :=
  if condition then [⟨place, rule, detail⟩] else []

def nameViolations
    (place : Place)
    (kind name : String)
    (accepted : Bool) :
    List Violation :=
  when (!accepted) place .badName
    (kind ++ " name " ++ quote name ++ " is not a valid identifier")

def sinceViolations
    (place : Place)
    (version : UInt32)
    (kind : String)
    (since deprecated : UInt32) :
    List Violation :=
  when (since < 1 || version < since) place .sinceOutOfRange
      (kind ++ " since " ++ toString since.toNat ++ " outside 1.." ++ toString version.toNat)
    ++ when (deprecated != 0 && (deprecated ≤ since || version < deprecated)) place
        .badDeprecatedSince
        ("deprecated-since " ++ toString deprecated.toNat ++ " must be above since "
          ++ toString since.toNat ++ " and at most " ++ toString version.toNat)

/-- The enumeration an argument refers to, on its own interface or on a named one. -/
def Batch.enumeration?
    (batch : Batch)
    (interface : Interface)
    (arg : Arg) :
    Option Enumeration :=
  let (owner, name) := arg.enumerationRef
  if owner.isEmpty then interface.enumeration? name
  else (batch.interface? owner).bind (·.enumeration? name)

def interfaceViolations
    (batch : Batch)
    (place : Place)
    (arg : Arg) :
    List Violation :=
  if arg.kind == .object || arg.kind == .newId then
    when (!arg.interface.isEmpty && (batch.interface? arg.interface).isNone) place
      .unresolvedInterface ("interface " ++ quote arg.interface ++ " is not declared")
  else
    when (!arg.interface.isEmpty) place .interfaceArgType
      ("interface attribute on " ++ arg.typeName ++ " argument")

def enumerationViolations
    (batch : Batch)
    (interface : Interface)
    (place : Place)
    (arg : Arg) :
    List Violation :=
  if arg.enumeration.isEmpty then []
  else if !(arg.kind == .int || arg.kind == .uint) then
    [⟨place, .enumerationArgType,
      "enum " ++ quote arg.enumeration ++ " on " ++ arg.typeName ++ " argument"⟩]
  else
    match batch.enumeration? interface arg with
    | none =>
        [⟨place, .unresolvedEnumeration, "enum " ++ quote arg.enumeration ++ " is not declared"⟩]
    | some enumeration =>
        when (enumeration.bitfield && arg.kind != .uint) place .bitfieldArgType
          ("bitfield enum " ++ quote arg.enumeration ++ " on " ++ arg.typeName ++ " argument")

/-- The violations of one argument.  `earlier` holds the names before it. -/
def argViolations
    (batch : Batch)
    (interface : Interface)
    (place : Place)
    (earlier : List String)
    (arg : Arg) :
    List Violation :=
  let place := { place with arg := arg.name }
  nameViolations place "arg" arg.name (isIdentifier arg.name)
    ++ when (earlier.contains arg.name) place .duplicateArg
        ("argument " ++ quote arg.name ++ " declared twice")
    ++ interfaceViolations batch place arg
    ++ when (arg.nullable && !(arg.kind == .string || arg.kind == .object)) place .nullableArgType
        ("allow-null on " ++ arg.typeName ++ " argument")
    ++ enumerationViolations batch interface place arg

/-- Checks each element of a list with the elements before it at hand. -/
def withEarlier
    {α : Type}
    (check : List α → α → List Violation)
    (earlier : List α) :
    List α → List Violation
  | [] => []
  | element :: rest =>
      check earlier.reverse element ++ withEarlier check (element :: earlier) rest

/-- The message with the greatest `since` so far: the last one that did not step back. -/
def newestMessage?
    (messages : List Message) :
    Option Message :=
  messages.foldl
    (fun newest message =>
      match newest with
      | some previous => if message.since < previous.since then some previous else some message
      | none => some message)
    none

/-- The violations of one message.  `earlier` holds the messages of its direction before it. -/
def messageViolations
    (batch : Batch)
    (interface : Interface)
    (place : Place)
    (direction : Direction)
    (earlier : List Message)
    (message : Message) :
    List Violation :=
  let word := directionWord direction
  let place := { place with direction := word, message := message.name }
  nameViolations place word message.name (isIdentifier message.name)
    ++ when (earlier.any (·.name == message.name)) place .duplicateMessage
        (word ++ " " ++ quote message.name ++ " declared twice")
    ++ sinceViolations place interface.version word message.since message.deprecatedSince
    ++ (match newestMessage? earlier with
      | none => []
      | some newest =>
          when (message.since < newest.since) place .sinceDecreasing
            ("since " ++ toString message.since.toNat ++ " follows " ++ quote newest.name
              ++ " at since " ++ toString newest.since.toNat
              ++ "; new messages must be appended"))
    ++ (match earlier.find? (·.destructor) with
      | none => []
      | some first =>
          when message.destructor place .multipleDestructors
            (quote first.name ++ " is already the destructor " ++ word))
    ++ when (message.newIds.length > 1) place .multipleNewIds
        (toString message.newIds.length
          ++ " new_id arguments; a message creates at most one object")
    ++ withEarlier
        (fun before arg => argViolations batch interface place (before.map (·.name)) arg)
        [] message.args

/-- The violations of one entry.  `earlier` holds the names before it. -/
def entryViolations
    (version : UInt32)
    (place : Place)
    (earlier : List String)
    (entry : Entry) :
    List Violation :=
  let place := { place with entry := entry.name }
  nameViolations place "entry" entry.name (isEntryName entry.name)
    ++ when (earlier.contains entry.name) place .duplicateEntry
        ("entry " ++ quote entry.name ++ " declared twice")
    ++ sinceViolations place version "entry" entry.since entry.deprecatedSince

/-- The violations of one enumeration.  `earlier` holds the names before it. -/
def enumerationNodeViolations
    (version : UInt32)
    (place : Place)
    (earlier : List String)
    (enumeration : Enumeration) :
    List Violation :=
  let place := { place with enumeration := enumeration.name }
  nameViolations place "enum" enumeration.name (isIdentifier enumeration.name)
    ++ when (earlier.contains enumeration.name) place .duplicateEnumeration
        ("enum " ++ quote enumeration.name ++ " declared twice")
    ++ sinceViolations place version "enum" enumeration.since 0
    ++ withEarlier
        (fun before entry => entryViolations version place (before.map (·.name)) entry)
        [] enumeration.entries

def interfaceNodeViolations
    (batch : Batch)
    (place : Place)
    (interface : Interface) :
    List Violation :=
  let place := { place with interface := interface.name }
  nameViolations place "interface" interface.name (isIdentifier interface.name)
    ++ when (interface.version < 1) place .badVersion
        ("version must be at least 1, got " ++ toString interface.version.toNat)
    ++ withEarlier (messageViolations batch interface place .request) [] interface.requests
    ++ withEarlier (messageViolations batch interface place .event) [] interface.events
    ++ withEarlier
        (fun before enumeration =>
          enumerationNodeViolations interface.version place (before.map (·.name)) enumeration)
        [] interface.enumerations

def protocolViolations
    (batch : Batch)
    (protocol : Protocol) :
    List Violation :=
  let place : Place := { protocol := protocol.name }
  nameViolations place "protocol" protocol.name (isIdentifier protocol.name)
    ++ protocol.interfaces.flatMap (interfaceNodeViolations batch place)

/-- Every violation of a batch: name clashes between interfaces first, then each protocol. -/
def violations
    (batch : Batch) :
    List Violation :=
  duplicateInterfaces [] batch.declarations
    ++ batch.protocols.flatMap (protocolViolations batch)

/-- The verdict: nothing, or every violation. -/
def check
    (batch : Batch) :
    Except (List Violation) PUnit :=
  match violations batch with
  | [] => .ok ()
  | found => .error found

end Wayland.Check
