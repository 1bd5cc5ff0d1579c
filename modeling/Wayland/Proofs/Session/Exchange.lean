import Wayland.Session.Link
import Wayland.Proofs.Session.Flow

/-!
Contract: two sessions that exchange messages, step by step.

Owns:
- delivery of one message, and that a delivery is made of such steps;
- the setup of two sessions: registered interfaces and well-known objects;
- the actions of an exchange, which of them are allowed, and which end in a fault;
- the logs of an exchange: what happened to the ids, what was sent, and what was received.

Does not own: what every exchange keeps.
-/

namespace Wayland.Session

open Wayland.Text
open Wayland.Wire

namespace Delivery

def advance
    (delivery : Delivery) :
    Delivery :=
  match Frame.split delivery.transport.bytes with
  | .error .truncated => delivery
  | .error error =>
      { delivery with
        transport := { delivery.transport with bytes := [] }
        failure := some (.refused { blame := .peer, reason := .wire error }) }
  | .ok (frame, rest) => delivery.step frame rest

/-- A delivery goes on message by message while bytes leave the transport and nothing fails. -/
theorem run_eq_advance
    (delivery : Delivery) :
    delivery.run =
      if delivery.advance.transport.bytes.length < delivery.transport.bytes.length ∧
          delivery.advance.failure = none then
        delivery.advance.run
      else delivery.advance := by
  rw [run]
  unfold advance
  by_cases isEmpty : delivery.transport.bytes = []
  · simp [isEmpty, Frame.split, Header.decode, Word.decode?]
  · rw [if_neg (by simpa using isEmpty)]
    cases cut : Frame.split delivery.transport.bytes with
    | error error => cases error <;> simp
    | ok message =>
        obtain ⟨frame, rest⟩ := message
        simp only
        rw [step_bytes]
        cases failed : (delivery.step frame rest).failure with
        | none => simp [Frame.length_lt_of_split cut]
        | some failure => simp

end Delivery

namespace Link

/-- Delivers the first message of a side to the other one. -/
def deliverOne
    (link : Link)
    (side : Side) :
    Link × Delivery :=
  let delivery := Delivery.advance
    { transport := link.transport side, session := link.session side.peer }
  let link := (link.withTransport delivery.transport side).withSession delivery.session side.peer
  ({ link with records := link.records ++ delivery.records }, delivery)

variable (link : Link) (side other : Side)

@[simp]
theorem session_withSession
    (session : Session) :
    (link.withSession session side).session other =
      if other = side then session else link.session other := by
  cases side <;> cases other <;> rfl

@[simp]
theorem transport_withSession
    (session : Session) :
    (link.withSession session side).transport other = link.transport other := by
  cases side <;> cases other <;> rfl

@[simp]
theorem session_withTransport
    (transport : Transport) :
    (link.withTransport transport side).session other = link.session other := by
  cases side <;> cases other <;> rfl

@[simp]
theorem transport_withTransport
    (transport : Transport) :
    (link.withTransport transport side).transport other =
      if other = side then transport else link.transport other := by
  cases side <;> cases other <;> rfl

@[simp]
theorem session_withRecords
    (records : List Record) :
    { link with records }.session other = link.session other := by
  cases other <;> rfl

@[simp]
theorem transport_withRecords
    (records : List Record) :
    { link with records }.transport other = link.transport other := by
  cases other <;> rfl

@[simp]
theorem session_absorb
    {α : Type}
    (outcome : Outcome α) :
    (link.absorb side outcome).1.session other =
      if other = side then outcome.session else link.session other := by
  simp [absorb]

@[simp]
theorem transport_absorb
    {α : Type}
    (outcome : Outcome α) :
    (link.absorb side outcome).1.transport other = link.transport other := by
  simp [absorb]

end Link

/-- The first message in a transport, with all the descriptors there. -/
def Transport.first?
    (transport : Transport) :
    Option Inbound :=
  match Frame.split transport.bytes with
  | .error _ => none
  | .ok (frame, _) =>
      some ⟨frame.header.sender, frame.header.opcode, ⟨frame.body, transport.descriptors⟩⟩

/-- What two sessions do before their first message: each registers interfaces, and both make the
same well-known objects in the same order. -/
structure Setup where
  interfaces : Side → List Interface
  wellKnown : List (ObjectId × Interface × UInt32)

namespace Setup

def number : Side → Nat
  | .client => 0
  | .server => 1

/-- The session of a side once its interfaces are registered. -/
def registered
    (setup : Setup)
    (side : Side) :
    Session :=
  (fresh (number side) side).performAll ((setup.interfaces side).map .register)

/-- Both sides registered the same interfaces. -/
def Agreed
    (setup : Setup) : Prop :=
  SameInterfaces (setup.registered .client) (setup.registered .server)

/-- The operations of a side before its first message. -/
def operations
    (setup : Setup)
    (side : Side) :
    List Operation :=
  (setup.interfaces side).map .register
    ++ setup.wellKnown.map fun (id, interface, version) => .bind id interface version

end Setup

/-- An operation of one side that sent a message, and what it returned. -/
structure Sent where
  target : Object
  opcode : UInt16
  passed : List Passed
  created : List Object

def Object.naming
    (object : Object) :
    ObjectId × String × UInt32 :=
  (object.id, object.interface.name, object.version)

/-- A message that a side sent was received as such: on the same target, with the arguments that were
passed, and with the objects that were made for it. -/
structure Sent.ReceivedAs
    (side : Side)
    (sent : Sent)
    (incoming : Incoming) : Prop where
  target_eq : incoming.target.id = sent.target.id
  opcode_eq : incoming.opcode = sent.opcode
  message : sent.target.interface.message? side.sends sent.opcode = some incoming.signature
  arguments_eq :
    incoming.arguments = arrivingArguments incoming.signature.slots sent.passed sent.created
  created_eq : incoming.created.map Object.naming = sent.created.map Object.naming

/-- Two connected sessions, with logs of what they did. -/
structure Exchange where
  link : Link
  /-- What happened to the ids of either session. -/
  history : Side → List Event
  /-- The messages that either session sent, in order. -/
  sent : Side → List Sent := fun _ => []
  /-- The messages of either session as its peer received them, in order. -/
  received : Side → List Incoming := fun _ => []

/-- Two sessions after their setup, with empty transports. -/
def Setup.start
    (setup : Setup) :
    Exchange where
  link :=
    { client := (fresh (number .client) .client).performAll (setup.operations .client)
      server := (fresh (number .server) .server).performAll (setup.operations .server) }
  history := fun side => historyOf (fresh (number side) side) (setup.operations side)

/-- What can be done in an exchange. -/
inductive Action where
  | send (side : Side) (target : Option Object) (opcode : UInt16) (values : List Passed)
  /-- The first message of a side is delivered to its peer. -/
  | deliver (side : Side)
  /-- Both sides release an id. -/
  | release (id : ObjectId)
  /-- The transport of a side will refuse the next message. -/
  | refuseNext (side : Side) (text : String)
  /-- A handler or data is attached to an object on a side. -/
  | attach (side : Side) (object : Object) (attachment : Attachment)

/-- A log of both sides with another entry for one. -/
def logged
    {α : Type}
    (log : Side → α)
    (side : Side)
    (entry : α) :
    Side → α :=
  fun other => if other = side then entry else log other

@[simp]
theorem logged_self
    {α : Type}
    (log : Side → α)
    (side : Side)
    (entry : α) :
    logged log side entry side = entry :=
  if_pos rfl

@[simp]
theorem logged_peer
    {α : Type}
    (log : Side → α)
    (side : Side)
    (entry : α) :
    logged log side entry side.peer = log side.peer :=
  if_neg (Side.peer_ne side)

@[simp]
theorem logged_of_peer
    {α : Type}
    (log : Side → α)
    (side : Side)
    (entry : α) :
    logged log side.peer entry side = log side :=
  if_neg (Side.peer_ne side).symm

namespace Exchange

/-- The message that a successful sending adds to the log. -/
def sending
    (target : Option Object)
    (opcode : UInt16)
    (passed : List Passed) :
    Except Failure (List Object) → List Sent
  | .error _ => []
  | .ok created => target.toList.map fun target => ⟨target, opcode, passed, created⟩

/-- The message that a successful decoding adds to the log. -/
def receiving : Except Failure Incoming → List Incoming
  | .error _ => []
  | .ok incoming => [incoming]

def act
    (exchange : Exchange) :
    Action → Exchange
  | .send side target opcode values =>
      let sent := exchange.link.send side target opcode values
      { exchange with
        link := sent.1
        history := logged exchange.history side
          (exchange.history side ++
            Operation.events (exchange.link.session side)
              (.send (exchange.link.transport side) target opcode values))
        sent := logged exchange.sent side
          (exchange.sent side ++ sending target opcode values sent.2) }
  | .deliver side =>
      let session := exchange.link.session side.peer
      match (exchange.link.transport side).first? with
      | none => { exchange with link := (exchange.link.deliverOne side).1 }
      | some inbound =>
          { exchange with
            link := (exchange.link.deliverOne side).1
            history := logged exchange.history side.peer
              (exchange.history side.peer ++ Operation.events session (.decode inbound))
            received := logged exchange.received side
              (exchange.received side ++ receiving (session.decode inbound).result) }
  | .release id =>
      { exchange with
        link := ((exchange.link.release .client id).1.release .server id).1
        history := fun side =>
          exchange.history side ++
            Operation.events (exchange.link.session side) (.release id) }
  | .refuseNext side text => { exchange with link := exchange.link.refuseNext side text }
  | .attach side object attachment =>
      { exchange with
        link :=
          exchange.link.withSession ((exchange.link.session side).attach object attachment) side }

def Idle
    (exchange : Exchange) : Prop :=
  ∀ side, (exchange.link.transport side).bytes = []

/-- What may be done: a message refers only to objects that are live with its sender, and ids are
released only while no message is in flight. -/
def Allows
    (exchange : Exchange) :
    Action → Prop
  | .send side _ _ values =>
      ∀ passed ∈ values, ∀ id, passed.value = .object id → id ≠ 0 →
        ∃ object, (exchange.link.session side).table.lookup id = some object
  | .release _ => exchange.Idle
  | _ => True

/-- The fault that an action ends in: a delivered message is refused. -/
def fault?
    (exchange : Exchange) :
    Action → Option Error
  | .deliver side =>
      match (exchange.link.deliverOne side).2.failure with
      | some (.refused error) => some error
      | _ => none
  | _ => none

/-- A delivery ends in a fault exactly if it fails because its message is refused. -/
theorem fault?_deliver_iff
    {exchange : Exchange}
    {side : Side}
    {error : Error} :
    exchange.fault? (.deliver side) = some error ↔
      (exchange.link.deliverOne side).2.failure = some (.refused error) := by
  unfold fault?
  simp only
  split
  · rename_i report failed
    simp [failed]
  · rename_i notRefused
    constructor
    · intro impossible
      cases impossible
    · intro failed
      exact absurd failed (notRefused error)

/-- The exchanges that come about by allowed actions, none of which ended in a fault. -/
inductive Reachable
    (setup : Setup) :
    Exchange → Prop where
  | start : Reachable setup setup.start
  | step {exchange : Exchange} {action : Action} :
      Reachable setup exchange → exchange.Allows action → exchange.fault? action = none →
        Reachable setup (exchange.act action)

/-- A side of an exchange, with what happened to its ids. -/
def party
    (exchange : Exchange)
    (side : Side) :
    Party :=
  ⟨exchange.link.session side, exchange.history side⟩

@[simp]
theorem session_party
    (exchange : Exchange)
    (side : Side) :
    (exchange.party side).session = exchange.link.session side :=
  rfl

section Views

variable (exchange : Exchange) (side : Side)

theorem party_send_self
    (target : Option Object)
    (opcode : UInt16)
    (values : List Passed) :
    (exchange.act (.send side target opcode values)).party side =
      { session :=
          ((exchange.link.session side).send (exchange.link.transport side) target opcode
            values).1.session
        history :=
          exchange.history side ++
            Operation.events (exchange.link.session side)
              (.send (exchange.link.transport side) target opcode values) } := by
  simp [act, party, Link.send]

theorem party_send_peer
    (target : Option Object)
    (opcode : UInt16)
    (values : List Passed) :
    (exchange.act (.send side target opcode values)).party side.peer =
      exchange.party side.peer := by
  simp [act, party, Link.send, Side.peer_ne]

theorem transport_send_self
    (target : Option Object)
    (opcode : UInt16)
    (values : List Passed) :
    (exchange.act (.send side target opcode values)).link.transport side =
      ((exchange.link.session side).send (exchange.link.transport side) target opcode
        values).2 := by
  simp [act, Link.send]

theorem transport_send_peer
    (target : Option Object)
    (opcode : UInt16)
    (values : List Passed) :
    (exchange.act (.send side target opcode values)).link.transport side.peer =
      exchange.link.transport side.peer := by
  simp [act, Link.send, Side.peer_ne]

theorem sent_send_self
    (target : Option Object)
    (opcode : UInt16)
    (values : List Passed) :
    (exchange.act (.send side target opcode values)).sent side =
      exchange.sent side ++
        sending target opcode values
          ((exchange.link.session side).send (exchange.link.transport side) target opcode
            values).1.result := by
  simp [act, Link.send, Link.absorb]

theorem sent_send_peer
    (target : Option Object)
    (opcode : UInt16)
    (values : List Passed) :
    (exchange.act (.send side target opcode values)).sent side.peer =
      exchange.sent side.peer := by
  simp [act]

section Delivering

variable {exchange side} {inbound : Inbound}

theorem party_deliver_self
    (first : (exchange.link.transport side).first? = some inbound) :
    (exchange.act (.deliver side)).party side = exchange.party side := by
  simp [act, first, party, Link.deliverOne, (Side.peer_ne side).symm]

theorem party_deliver_peer
    (first : (exchange.link.transport side).first? = some inbound) :
    (exchange.act (.deliver side)).party side.peer =
      { session := (exchange.link.deliverOne side).2.session
        history :=
          exchange.history side.peer ++
            Operation.events (exchange.link.session side.peer) (.decode inbound) } := by
  simp [act, first, party, Link.deliverOne]

theorem transport_deliver_self
    (first : (exchange.link.transport side).first? = some inbound) :
    (exchange.act (.deliver side)).link.transport side =
      (exchange.link.deliverOne side).2.transport := by
  simp [act, first, Link.deliverOne]

theorem transport_deliver_peer
    (first : (exchange.link.transport side).first? = some inbound) :
    (exchange.act (.deliver side)).link.transport side.peer =
      exchange.link.transport side.peer := by
  simp [act, first, Link.deliverOne, Side.peer_ne]

theorem sent_deliver
    (first : (exchange.link.transport side).first? = some inbound) :
    (exchange.act (.deliver side)).sent = exchange.sent := by
  simp [act, first]

theorem received_deliver_self
    (first : (exchange.link.transport side).first? = some inbound) :
    (exchange.act (.deliver side)).received side =
      exchange.received side ++
        receiving ((exchange.link.session side.peer).decode inbound).result := by
  simp [act, first]

theorem received_deliver_peer
    (first : (exchange.link.transport side).first? = some inbound) :
    (exchange.act (.deliver side)).received side.peer = exchange.received side.peer := by
  simp [act, first]

end Delivering

theorem party_attach_self
    (object : Object)
    (attachment : Attachment) :
    (exchange.act (.attach side object attachment)).party side =
      { session := (exchange.link.session side).attach object attachment
        history := exchange.history side } := by
  simp [act, party]

theorem party_attach_peer
    (object : Object)
    (attachment : Attachment) :
    (exchange.act (.attach side object attachment)).party side.peer =
      exchange.party side.peer := by
  simp [act, party, Side.peer_ne]

theorem party_release
    (id : ObjectId) :
    (exchange.act (.release id)).party side =
      { session := ((exchange.link.session side).release id).session
        history :=
          exchange.history side ++
            Operation.events (exchange.link.session side) (.release id) } := by
  cases side <;> simp [act, party, Link.release]

end Views

end Exchange

end Wayland.Session
