import Wayland.Session.Basic

/-!
Contract: two sessions that are connected to each other.

Owns:
- the loop that cuts messages off a transport and dispatches them, and where it stops;
- the client and the server session, the transport each writes to, and the operations of either side
  with their joint record.

Does not own: what a message or an operation does to one session.
-/

namespace Wayland.Session

open Wayland.Wire

/-! ## Delivery -/

/-- The state of a delivery. -/
structure Delivery where
  transport : Transport
  session : Session
  records : List Record := []
  /-- How many messages were delivered. -/
  delivered : Nat := 0
  /-- The messages that handlers saw, latest first, each with the session as it then was. -/
  handled : List (Session × Incoming) := []
  failure : Option Failure := none

namespace Delivery

/-- Hands the first message, already cut off, to the session. -/
def step
    (delivery : Delivery)
    (frame : Frame)
    (rest : Text.Bytes) :
    Delivery :=
  let dispatched := delivery.session.dispatch
    ⟨frame.header.sender, frame.header.opcode, ⟨frame.body, delivery.transport.descriptors⟩⟩
  let session := dispatched.outcome.session
  let next : Delivery :=
    { transport :=
        { delivery.transport with
          bytes := rest
          descriptors := delivery.transport.descriptors.drop dispatched.descriptorsUsed }
      session
      records := delivery.records ++ dispatched.outcome.records
      delivered := delivery.delivered
      handled := (dispatched.handled.map fun incoming => (session, incoming)).toList
        ++ delivery.handled }
  match dispatched.outcome.result with
  | .ok () => { next with delivered := delivery.delivered + 1 }
  | .error failure => { next with failure := some failure }

/-- A step leaves the bytes after the message. -/
theorem step_bytes
    (delivery : Delivery)
    (frame : Frame)
    (rest : Text.Bytes) :
    (delivery.step frame rest).transport.bytes = rest := by
  unfold step
  simp only
  split <;> rfl

/-- Delivers messages until the transport is empty, holds only part of a message, or an error
arises; the message of an error is dropped.  Bytes that cannot be a message are all dropped. -/
def run
    (delivery : Delivery) :
    Delivery :=
  if delivery.transport.bytes.isEmpty then delivery
  else
    match _cut : Frame.split delivery.transport.bytes with
    | .error .truncated => delivery
    | .error error =>
        { delivery with
          transport := { delivery.transport with bytes := [] }
          failure := some (.refused { blame := .peer, reason := .wire error }) }
    | .ok (frame, rest) =>
        let next := delivery.step frame rest
        if next.failure.isSome then next else next.run
termination_by delivery.transport.bytes.length
decreasing_by
  rw [step_bytes]
  exact Frame.length_lt_of_split _cut

end Delivery

def Transport.deliverTo
    (transport : Transport)
    (session : Session) :
    Delivery :=
  Delivery.run { transport, session }

/-! ## Both sides -/

/-- A client and a server with the transports they write to. -/
structure Link where
  client : Session := { number := 0, side := .client }
  server : Session := { number := 1, side := .server }
  fromClient : Transport := {}
  fromServer : Transport := {}
  /-- What the operations so far did. -/
  records : List Record := []

namespace Link

def session
    (link : Link) :
    Side → Session
  | .client => link.client
  | .server => link.server

def transport
    (link : Link) :
    Side → Transport
  | .client => link.fromClient
  | .server => link.fromServer

def withSession
    (link : Link)
    (session : Session) :
    Side → Link
  | .client => { link with client := session }
  | .server => { link with server := session }

def withTransport
    (link : Link)
    (transport : Transport) :
    Side → Link
  | .client => { link with fromClient := transport }
  | .server => { link with fromServer := transport }

def sideOf
    (link : Link)
    (object : Object) :
    Side :=
  if object.session = link.client.number then .client else .server

def isAlive
    (link : Link)
    (object : Object) :
    Bool :=
  (link.session (link.sideOf object)).isAlive object

def absorb
    {α : Type}
    (link : Link)
    (side : Side)
    (outcome : Outcome α) :
    Link × Except Failure α :=
  let link := link.withSession outcome.session side
  ({ link with records := link.records ++ outcome.records }, outcome.result)

def register
    (link : Link)
    (side : Side)
    (interface : Interface) :
    Link :=
  link.withSession ((link.session side).register interface) side

def bind
    (link : Link)
    (side : Side)
    (id : ObjectId)
    (interface : Interface)
    (version : UInt32) :
    Link × Except Failure Object :=
  link.absorb side ((link.session side).bind id interface version)

def send
    (link : Link)
    (side : Side)
    (target : Option Object)
    (opcode : UInt16)
    (values : List Passed) :
    Link × Except Failure (List Object) :=
  let (outcome, transport) := (link.session side).send (link.transport side) target opcode values
  (link.withTransport transport side).absorb side outcome

/-- Sends a message from the side that owns the target.  Without a target nothing is put on
record. -/
def sendFromOwner
    (link : Link)
    (target : Option Object)
    (opcode : UInt16)
    (values : List Passed) :
    Link × Except Failure (List Object) :=
  match target with
  | none => (link, .error (.refused { blame := .caller, reason := .unknownObject }))
  | some object => link.send (link.sideOf object) target opcode values

def decode
    (link : Link)
    (side : Side)
    (inbound : Inbound) :
    Link × Except Failure Incoming :=
  link.absorb side ((link.session side).decode inbound)

def dispatch
    (link : Link)
    (side : Side)
    (inbound : Inbound) :
    Link × Dispatched :=
  let dispatched := (link.session side).dispatch inbound
  ((link.absorb side dispatched.outcome).1, dispatched)

def deliver
    (link : Link)
    (side : Side) :
    Link × Delivery :=
  let delivery := (link.transport side).deliverTo (link.session side.peer)
  let link := (link.withTransport delivery.transport side).withSession delivery.session side.peer
  ({ link with records := link.records ++ delivery.records }, delivery)

def release
    (link : Link)
    (side : Side)
    (id : ObjectId) :
    Link × Except Failure Unit :=
  link.absorb side ((link.session side).release id)

def reset
    (link : Link)
    (side : Side) :
    Link :=
  (link.absorb side (link.session side).reset).1

/-- Makes the transport of a side refuse its next message. -/
def refuseNext
    (link : Link)
    (side : Side)
    (text : String) :
    Link :=
  link.withTransport { link.transport side with refusal := some text } side

/-- Writes bytes and descriptors to the transport of a side; a refusal is returned. -/
def inject
    (link : Link)
    (side : Side)
    (payload : Payload) :
    Link × Option String :=
  let (transport, refusal) := (link.transport side).write payload
  (link.withTransport transport side, refusal)

end Link

end Wayland.Session
