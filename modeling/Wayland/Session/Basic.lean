import Wayland.Session.Error
import Wayland.Wire.Frame

/-!
Contract: one side of a connection.

Owns:
- registered interfaces, well-known objects, release and reset;
- sending: checks, new objects, and the framed message;
- receiving: decoding, lifecycle effects, and handlers;
- the record of what every operation did.

Does not own: the transport beyond one write, or what records are counted for.
-/

namespace Wayland.Session

open Wayland.Text
open Wayland.Wire

/-- A received message with its lifecycle effects applied. -/
structure Incoming where
  target : Object
  opcode : UInt16
  signature : Signature
  arguments : List Argument
  /-- The object of every argument that names or makes one. -/
  objects : List (Option Object)
  descriptorsUsed : Nat
deriving DecidableEq, Repr

def Incoming.object?
    (incoming : Incoming)
    (index : Int) :
    Option Object :=
  if index < 0 then none else (incoming.objects[index.toNat]?).join

/-- What receives the messages of an object: it may refuse a message with a text. -/
abbrev Handler := Incoming → Except String Unit

/-- What is attached to an object. -/
structure Attachment where
  handler : Option Handler := none
  data : Option String := none

/-- What an operation did. -/
inductive Record where
  | created (interface : String)
  | destroyed (interface : String)
  /-- A message left or came, with its framed size. -/
  | sent (interface : String) (size : Nat)
  | received (interface : String) (size : Nat)
  | failed (blame : Blame)
  /-- The table was reset while so many objects were alive. -/
  | reset (live : Nat)
deriving DecidableEq, Repr

/-- A buffer of outgoing messages.  It may refuse the next one. -/
structure Transport where
  bytes : Bytes := []
  descriptors : List Int := []
  refusal : Option String := none
deriving DecidableEq, Repr

/-- Appends a message, or uses up the refusal. -/
def Transport.write
    (transport : Transport)
    (payload : Payload) :
    Transport × Option String :=
  match transport.refusal with
  | some text => ({ transport with refusal := none }, some text)
  | none =>
      ({ transport with
          bytes := transport.bytes ++ payload.body
          descriptors := transport.descriptors ++ payload.descriptors }, none)

end Wayland.Session

namespace Wayland

/-- One side of a connection. -/
structure Session where
  /-- What tells sessions apart. -/
  number : Nat
  side : Wire.Side
  table : Session.Table := {}
  /-- The registered interfaces by name, latest first. -/
  interfaces : List (String × Wire.Interface) := []
  /-- How many objects were made. -/
  made : Nat := 0
  /-- What is attached to objects, by serial number, latest first. -/
  attachments : List (Nat × Session.Attachment) := []

end Wayland

namespace Wayland.Session

open Wayland.Text
open Wayland.Wire

/-- The outcome of an operation. -/
structure Outcome (α : Type) where
  session : Session
  records : List Record := []
  result : Except Failure α

/-- A received message before it is decoded. -/
structure Inbound where
  sender : ObjectId
  opcode : UInt16
  payload : Payload
deriving DecidableEq, Repr

/-- A value for a message that is sent.  A reference remembers the handle it was made from. -/
structure Passed where
  value : Argument
  handle : Option Object := none
deriving DecidableEq, Repr

/-- The reference to an object; nothing is the null object. -/
def Passed.reference : Option Object → Passed
  | some object => ⟨.object object.id, some object⟩
  | none => ⟨.object 0, none⟩

/-- Registers an interface; its version is the one supported here. -/
def register
    (session : Session)
    (interface : Interface) :
    Session :=
  { session with interfaces := (interface.name, interface) :: session.interfaces }

def interface?
    (session : Session)
    (name : String) :
    Option Interface :=
  session.interfaces.lookup name

def isAlive
    (session : Session)
    (object : Object) :
    Bool :=
  object.session == session.number && session.table.lookup object.id == some object

def attachment
    (session : Session)
    (object : Object) :
    Attachment :=
  (session.attachments.lookup object.serial).getD {}

def attach
    (session : Session)
    (object : Object)
    (attachment : Attachment) :
    Session :=
  { session with attachments := (object.serial, attachment) :: session.attachments }

def setHandler
    (session : Session)
    (object : Object)
    (handler : Option Handler) :
    Session :=
  session.attach object { session.attachment object with handler }

def setData
    (session : Session)
    (object : Object)
    (data : String) :
    Session :=
  session.attach object { session.attachment object with data := some data }

/-- The outcome of a refused operation, which is put on record. -/
def refuse
    {α : Type}
    (session : Session)
    (error : Error) :
    Outcome α :=
  ⟨session, [.failed error.blame], .error (.refused error)⟩

def blueprint
    (session : Session)
    (interface : Interface)
    (version : UInt32) :
    Blueprint :=
  ⟨session.number, session.made, interface, version⟩

def afterMaking
    (session : Session)
    (table : Table) :
    Session :=
  { session with
    table
    made := session.made + 1 }

/-- Makes a well-known object outside of any message.  An interface that is not registered gets
registered, and the version is the smaller of the two. -/
def bind
    (session : Session)
    (id : ObjectId)
    (interface : Interface)
    (version : UInt32) :
    Outcome Object :=
  let known := session.interface? interface.name
  let interface := known.getD interface
  let session := if known.isSome then session else session.register interface
  let negotiated := min version interface.version
  if negotiated = 0 then
    session.refuse { blame := .caller, reason := .bindVersion interface.name version }
  else
    match session.table.insert id true (session.blueprint interface negotiated) with
    | .error fault =>
        session.refuse { blame := .caller, reason := .bindRefused fault interface.name id }
    | .ok (object, table) =>
        ⟨session.afterMaking table, [.created interface.name], .ok object⟩

/-- What is wrong with the handle a reference was made from. -/
def handleFault?
    (session : Session)
    (id : ObjectId) :
    Option Object → Option ArgumentFault
  | none => none
  | some object =>
      if object.session ≠ session.number then some (.foreign object)
      else if object.id ≠ id ∨ !session.isAlive object then some (.stale object)
      else none

/-- What is wrong with a reference to an id that is not null. -/
def referenceFault?
    (session : Session)
    (slot : Slot)
    (id : ObjectId) :
    Option ArgumentFault :=
  match session.table.lookup id with
  | none => some (if session.table.isDestroyed id then .destroyed id else .unknown id)
  | some object =>
      if slot.interface ≠ "" ∧ object.interface.name ≠ slot.interface then
        some (.wrongInterface object slot.interface)
      else none

/-- The interface and version of an object about to be made: a typed child inherits the version of
its parent, an open one asks for its own, and both are capped by what is supported here. -/
def resolveNewId
    (session : Session)
    (parent : Object)
    (slot : Slot)
    (name : Bytes)
    (version : UInt32) :
    Except ArgumentFault (Interface × UInt32) :=
  let wanted := if slot.isDynamic then name else Bytes.ofText slot.interface
  let requested := if slot.isDynamic then version else parent.version
  match session.interfaces.find? fun (known, _) => Bytes.ofText known == wanted with
  | none => .error (.unknownInterface wanted)
  | some (known, interface) =>
      let negotiated := min requested interface.version
      if negotiated = 0 then .error (.badVersion known requested)
      else .ok (interface, negotiated)

/-- A message under construction: the session so far, the objects made and the final values, both
latest first. -/
structure Draft where
  session : Session
  created : List Object := []
  values : List Argument := []

/-- Checks one value and completes it; a new object is made. -/
def prepareOne
    (target : Object)
    (slot : Slot)
    (passed : Passed)
    (draft : Draft) :
    Except Reason Draft :=
  if passed.value.kind ≠ slot.kind then
    .error (.argumentKind slot.name slot.kind passed.value.kind)
  else
    match passed.value with
    | .object id =>
        match draft.session.handleFault? id passed.handle with
        | some fault => .error (.argument fault slot.name)
        | none =>
            let done := { draft with values := .object id :: draft.values }
            if id = 0 then .ok done
            else
              match draft.session.referenceFault? slot id with
              | some fault => .error (.argument fault slot.name)
              | none => .ok done
    | .newId id name version =>
        if id ≠ 0 then .error (.argument .preset slot.name)
        else
          match draft.session.resolveNewId target slot name version with
          | .error fault => .error (.argument fault slot.name)
          | .ok (interface, negotiated) =>
              let blueprint := draft.session.blueprint interface negotiated
              match draft.session.table.allocate draft.session.side blueprint with
              | .error _ => .error .exhausted
              | .ok (object, table) =>
                  let version := if slot.isDynamic then negotiated else version
                  .ok
                    { session := draft.session.afterMaking table
                      created := object :: draft.created
                      values := .newId object.id name version :: draft.values }
    | value => .ok { draft with values := value :: draft.values }

/-- Checks and completes values in order, up to the first that is refused. -/
def prepare
    (target : Object)
    (draft : Draft) :
    List (Slot × Passed) → Draft × Option Reason
  | [] => (draft, none)
  | (slot, passed) :: rest =>
      match prepareOne target slot passed draft with
      | .error reason => (draft, some reason)
      | .ok draft => prepare target draft rest

/-- Takes back objects that never reached the peer, the latest first. -/
def abandonAll
    (session : Session)
    (created : List Object) :
    Session :=
  { session with table := created.foldl Table.abandon session.table }

/-- Destroys the target of a destructor. -/
def destroyTarget
    (session : Session)
    (target : Object)
    (signature : Signature) :
    Session × List Record :=
  if signature.destructor then
    ({ session with table := session.table.destroy target.id }, [.destroyed target.interface.name])
  else (session, [])

def Draft.frame
    (draft : Draft)
    (target : Object)
    (opcode : UInt16)
    (signature : Signature) :
    Except Wire.Error Payload :=
  match Wire.encode signature draft.values.reverse with
  | .error error => .error error
  | .ok payload =>
      match Frame.encode target.id opcode payload.body with
      | .error error => .error error
      | .ok bytes => .ok ⟨bytes, payload.descriptors⟩

def write
    (draft : Draft)
    (transport : Transport)
    (target : Object)
    (opcode : UInt16)
    (signature : Signature) :
    Outcome (List Object) × Transport :=
  match draft.frame target opcode signature with
  | .error error =>
      ((draft.session.abandonAll draft.created).refuse
        (.atObject .caller target (some signature) (.wire error)), transport)
  | .ok payload =>
      match transport.write payload with
      | (transport, some text) =>
          (⟨draft.session.abandonAll draft.created, [],
            .error (.write target signature.name text)⟩, transport)
      | (transport, none) =>
          let created := draft.created.reverse
          let (session, destroyed) := draft.session.destroyTarget target signature
          (⟨session,
            created.map (fun object => .created object.interface.name)
              ++ [.sent target.interface.name payload.body.length] ++ destroyed,
            .ok created⟩, transport)

/-- Sends a message on a target.  The ids of new objects are allocated here, and the new objects
are returned in argument order.  After a failure nothing is written. -/
def send
    (session : Session)
    (transport : Transport)
    (target : Option Object)
    (opcode : UInt16)
    (values : List Passed) :
    Outcome (List Object) × Transport :=
  match target with
  | none => (session.refuse { blame := .caller, reason := .unknownObject }, transport)
  | some target =>
      let misuse (signature : Option Signature) (reason : Reason) :=
        ((session.refuse (.atObject .caller target signature reason) : Outcome (List Object)),
          transport)
      if !session.isAlive target then misuse none .destroyedObject
      else
        match target.interface.message? session.side.sends opcode with
        | none => misuse none (.unknownOpcode opcode)
        | some signature =>
            if signature.since > target.version then
              misuse (some signature) (.versionUnavailable signature.since target.version)
            else if values.length ≠ signature.slots.length then
              misuse (some signature) (.argumentCount signature.slots.length values.length)
            else
              match prepare target { session } (signature.slots.zip values) with
              | (draft, some reason) =>
                  ((draft.session.abandonAll draft.created).refuse
                    (.atObject .caller target (some signature) reason), transport)
              | (draft, none) => write draft transport target opcode signature

/-- Resolves the references of a message, up to the first that is refused. -/
def resolveReferences
    (session : Session) :
    List (Slot × Argument) → Except Reason (List (Option Object))
  | [] => .ok []
  | (slot, .object id) :: rest =>
      match if id = 0 then none else session.referenceFault? slot id with
      | some fault => .error (.argument fault slot.name)
      | none =>
          match resolveReferences session rest with
          | .error reason => .error reason
          | .ok objects => .ok (session.table.lookup id :: objects)
  | _ :: rest =>
      match resolveReferences session rest with
      | .error reason => .error reason
      | .ok objects => .ok (none :: objects)

def acceptNewId
    (session : Session)
    (parent : Object)
    (slot : Slot)
    (id : ObjectId)
    (name : Bytes)
    (version : UInt32) :
    Except ArgumentFault (Object × Session) :=
  if !(IdRange.ofSide session.side.peer).contains id then .error (.outOfRange id)
  else
    match session.resolveNewId parent slot name version with
    | .error fault => .error fault
    | .ok (interface, negotiated) =>
        match session.table.insert id false (session.blueprint interface negotiated) with
        | .error fault => .error (.refused fault id)
        | .ok (object, table) => .ok (object, session.afterMaking table)

/-- The objects a message announces: the session so far and the objects, latest first, with what
stands at every argument. -/
structure Arrivals where
  session : Session
  created : List Object := []
  objects : List (Option Object) := []

/-- Makes the announced objects in order, up to the first that is refused. -/
def acceptAll
    (parent : Object)
    (arrivals : Arrivals) :
    List ((Slot × Argument) × Option Object) → Arrivals × Option Reason
  | [] => (arrivals, none)
  | ((slot, .newId id name version), _) :: rest =>
      match arrivals.session.acceptNewId parent slot id name version with
      | .error fault => (arrivals, some (.argument fault slot.name))
      | .ok (object, session) =>
          acceptAll parent
            { session
              created := object :: arrivals.created
              objects := some object :: arrivals.objects }
            rest
  | (_, object) :: rest =>
      acceptAll parent { arrivals with objects := object :: arrivals.objects } rest

/-- Decodes a message and applies its lifecycle effects.  Every error is the fault of the peer. -/
def decode
    (session : Session)
    (inbound : Inbound) :
    Outcome Incoming :=
  match session.table.lookup inbound.sender with
  | none =>
      let destroyed := session.table.isDestroyed inbound.sender
      session.refuse
        { blame := .peer
          object := inbound.sender
          reason := if destroyed then .destroyedObject else .unknownObject }
  | some target =>
      let fault (session : Session) (signature : Option Signature) (reason : Reason) :=
        (session.refuse (.atObject .peer target signature reason) : Outcome Incoming)
      match target.interface.message? session.side.receives inbound.opcode with
      | none => fault session none (.unknownOpcode inbound.opcode)
      | some signature =>
          if signature.since > target.version then
            fault session (some signature) (.versionUnavailable signature.since target.version)
          else
            match Wire.decode signature inbound.payload with
            | .error error => fault session (some signature) (.wire error)
            | .ok decoded =>
                let pairs := signature.slots.zip decoded.arguments
                match session.resolveReferences pairs with
                | .error reason => fault session (some signature) reason
                | .ok references =>
                    match acceptAll target { session } (pairs.zip references) with
                    | (arrivals, some reason) =>
                        fault (arrivals.session.abandonAll arrivals.created) (some signature) reason
                    | (arrivals, none) =>
                        let (session, destroyed) :=
                          arrivals.session.destroyTarget target signature
                        ⟨session,
                          arrivals.created.reverse.map
                              (fun object => .created object.interface.name)
                            ++ [.received target.interface.name
                                (headerSize + inbound.payload.body.length)]
                            ++ destroyed,
                          .ok
                            { target
                              opcode := inbound.opcode
                              signature
                              arguments := decoded.arguments
                              objects := arrivals.objects.reverse
                              descriptorsUsed := decoded.descriptorsUsed }⟩

/-- What a dispatched message did: the descriptors it used, and the message if a handler saw it. -/
structure Dispatched where
  outcome : Outcome Unit
  descriptorsUsed : Nat := 0
  handled : Option Incoming := none

/-- Decodes a message and hands it to the handler of its target, if there is one. -/
def dispatch
    (session : Session)
    (inbound : Inbound) :
    Dispatched :=
  match session.decode inbound with
  | ⟨session, records, .error failure⟩ => { outcome := ⟨session, records, .error failure⟩ }
  | ⟨session, records, .ok incoming⟩ =>
      match (session.attachment incoming.target).handler with
      | none =>
          { outcome := ⟨session, records, .ok ()⟩
            descriptorsUsed := incoming.descriptorsUsed }
      | some handler =>
          let result : Except Failure Unit :=
            match handler incoming with
            | .ok () => .ok ()
            | .error text => .error (.handler incoming.target incoming.signature.name text)
          { outcome := ⟨session, records, result⟩
            descriptorsUsed := incoming.descriptorsUsed
            handled := some incoming }

def release
    (session : Session)
    (id : ObjectId) :
    Outcome Unit :=
  match session.table.release id with
  | .error fault =>
      session.refuse { blame := .caller, object := id, reason := .releaseRefused fault }
  | .ok table => ⟨{ session with table }, [], .ok ()⟩

/-- Drops every object and starts a new epoch. -/
def reset
    (session : Session) :
    Outcome Unit :=
  ⟨{ session with table := session.table.reset }, [.reset session.table.live], .ok ()⟩

end Wayland.Session
