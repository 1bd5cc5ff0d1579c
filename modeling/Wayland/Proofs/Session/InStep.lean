import Mathlib.Data.List.Forall2
import Wayland.Proofs.Session.Concord
import Wayland.Proofs.Session.Exchange

/-!
Contract: two parties that stay in step.

Owns:
- what a transport holds, as messages in flight;
- the invariant of an exchange: both flows, what the two parties come to once all messages in flight
  are taken, and the logs;
- how each action carries the invariant on, and which faults a delivery can end in.

Does not own: the setup of an exchange.
-/

namespace Wayland.Session

open Wayland.Text
open Wayland.Wire

/-- A transport holds exactly these messages. -/
structure Transport.Holds
    (transport : Transport)
    (queue : List Departure) : Prop where
  bytes_eq : transport.bytes = queue.flatMap Departure.bytes
  descriptors_eq : transport.descriptors = queue.flatMap fun departure =>
    departure.payload.descriptors

section Holding

variable {transport next : Transport} {departure : Departure} {queue : List Departure}
variable {side : Side} {known? : Bytes → Option (String × Interface)}

/-- A transport that carries one more message holds it behind the others. -/
theorem Transport.Holds.concat
    (holds : transport.Holds queue)
    (carries : transport.Carries next departure.bytes departure.payload.descriptors) :
    next.Holds (queue ++ [departure]) where
  bytes_eq := by
    rw [carries.1, holds.bytes_eq, List.flatMap_append, List.flatMap_singleton]
  descriptors_eq := by
    rw [carries.2, holds.descriptors_eq, List.flatMap_append, List.flatMap_singleton]

/-- A transport that carries nothing more holds the same. -/
theorem Transport.Holds.same
    (holds : transport.Holds queue)
    (carries : transport.Carries next [] []) :
    next.Holds queue where
  bytes_eq := by rw [carries.1, holds.bytes_eq, List.append_nil]
  descriptors_eq := by rw [carries.2, holds.descriptors_eq, List.append_nil]

/-- The first message is cut off whole. -/
theorem Transport.Holds.split_bytes
    (holds : transport.Holds (departure :: queue))
    (formed : departure.Formed side known?) :
    ∃ size, Frame.split transport.bytes =
      .ok (⟨⟨departure.target.id, departure.opcode, size⟩, departure.payload.body⟩,
        queue.flatMap Departure.bytes) := by
  rw [holds.bytes_eq, List.flatMap_cons]
  exact ⟨_, Frame.split_encode_append formed.framed (length_encode_mod formed.encoded) _⟩

/-- The first message with all the descriptors is the one that was sent. -/
theorem Transport.Holds.first?_eq
    (holds : transport.Holds (departure :: queue))
    (formed : departure.Formed side known?) :
    transport.first? =
      some (departure.inbound (queue.flatMap fun later => later.payload.descriptors)) := by
  obtain ⟨size, cut⟩ := holds.split_bytes formed
  unfold Transport.first?
  rw [cut, holds.descriptors_eq, List.flatMap_cons]
  rfl

/-- An empty transport holds no message. -/
theorem Transport.Holds.nil_of_bytes
    (holds : transport.Holds queue)
    (formed : ∀ departure ∈ queue, departure.Formed side known?)
    (isEmpty : transport.bytes = []) :
    queue = [] := by
  cases queue with
  | nil => rfl
  | cons departure queue =>
      have bytes := holds.bytes_eq
      rw [isEmpty, List.flatMap_cons] at bytes
      exact absurd (List.append_eq_nil_iff.mp bytes.symm).1
        (Frame.encode_ne_nil (formed departure (by simp)).framed)

end Holding

/-- Nothing is cut off no bytes. -/
theorem split_nil :
    Frame.split [] = .error .truncated :=
  rfl

section Dispatching

variable {session : Session} {inbound : Inbound}

/-- A dispatched message has the effects of the decoded one. -/
theorem dispatch_session :
    (session.dispatch inbound).outcome.session = (session.decode inbound).session := by
  unfold dispatch
  rcases session.decode inbound with ⟨next, records, failure | incoming⟩
  · rfl
  · simp only
    split <;> rfl

theorem dispatch_of_error
    {failure : Failure}
    (refused : (session.decode inbound).result = .error failure) :
    (session.dispatch inbound).outcome.result = .error failure ∧
      (session.dispatch inbound).descriptorsUsed = 0 := by
  unfold dispatch
  rcases decoded : session.decode inbound with ⟨next, records, result⟩
  rw [decoded] at refused
  cases refused
  exact ⟨rfl, rfl⟩

/-- A message that is decoded ends in no fault, whatever its handler says. -/
theorem dispatch_of_ok
    {incoming : Incoming}
    (accepted : (session.decode inbound).result = .ok incoming) :
    (session.dispatch inbound).descriptorsUsed = incoming.descriptorsUsed ∧
      ∀ error, (session.dispatch inbound).outcome.result ≠ .error (.refused error) := by
  unfold dispatch
  rcases decoded : session.decode inbound with ⟨next, records, result⟩
  rw [decoded] at accepted
  cases accepted
  simp only
  split
  · exact ⟨rfl, by simp⟩
  · rename_i handler _
    refine ⟨rfl, fun error => ?_⟩
    simp only
    split <;> simp

end Dispatching

/-- A message in flight as its sender logged it. -/
def Departure.sent
    (departure : Departure) :
    Sent :=
  ⟨departure.target, departure.opcode, departure.passed, departure.created⟩

/-- What both sides call a new object, told from its mark. -/
def Mark.naming : Mark → ObjectId × String × UInt32
  | .creates id outline => (id, outline.interface.name, outline.version)
  | .destroys id => (id, "", 0)

/-- A message that reads as it was sent was received as such. -/
theorem Departure.Reads.receivedAs
    {departure : Departure}
    {incoming : Incoming}
    (reads : departure.Reads incoming)
    {side : Side}
    {known? : Bytes → Option (String × Interface)}
    (formed : departure.Formed side known?) :
    departure.sent.ReceivedAs side incoming where
  target_eq := reads.target_eq
  opcode_eq := reads.opcode_eq
  message := by
    rw [reads.signature_eq]
    exact formed.message
  arguments_eq := by
    rw [reads.signature_eq]
    exact reads.arguments_eq
  created_eq := by
    have naming : Object.naming = Mark.naming ∘ Object.mark := rfl
    rw [naming, ← List.map_map, ← List.map_map, reads.created_eq]
    rfl

section Delivering

variable {transport : Transport} {session : Session} {departure : Departure}
variable {queue : List Departure} {side : Side} {known? : Bytes → Option (String × Interface)}

/-- What a delivery of one message leaves in the transport and the session. -/
theorem Delivery.step_state
    (delivery : Delivery)
    (frame : Frame)
    (rest : Bytes) :
    (delivery.step frame rest).session =
        (delivery.session.decode ⟨frame.header.sender, frame.header.opcode,
          ⟨frame.body, delivery.transport.descriptors⟩⟩).session ∧
      (delivery.step frame rest).transport =
        { delivery.transport with
          bytes := rest
          descriptors := delivery.transport.descriptors.drop
            (delivery.session.dispatch ⟨frame.header.sender, frame.header.opcode,
              ⟨frame.body, delivery.transport.descriptors⟩⟩).descriptorsUsed } := by
  rw [← dispatch_session]
  unfold Delivery.step
  simp only
  split <;> exact ⟨rfl, rfl⟩

/-- A delivery of one message fails with what its dispatch does. -/
theorem Delivery.step_failure_iff
    (delivery : Delivery)
    (frame : Frame)
    (rest : Bytes)
    (failure : Failure) :
    (delivery.step frame rest).failure = some failure ↔
      (delivery.session.dispatch ⟨frame.header.sender, frame.header.opcode,
        ⟨frame.body, delivery.transport.descriptors⟩⟩).outcome.result = .error failure := by
  unfold Delivery.step
  simp only
  split
  · rename_i succeeded
    simp [succeeded]
  · rename_i failed
    simp [failed]

/-- The first message reaches the session as it was sent. -/
theorem advance_of_holds
    (session : Session)
    (holds : transport.Holds (departure :: queue))
    (formed : departure.Formed side known?) :
    ∃ inbound,
      inbound = departure.inbound (queue.flatMap fun later => later.payload.descriptors) ∧
        (Delivery.advance { transport, session }).session = (session.decode inbound).session ∧
        (Delivery.advance { transport, session }).transport.bytes =
          queue.flatMap Departure.bytes ∧
        (Delivery.advance { transport, session }).transport.descriptors =
          transport.descriptors.drop (session.dispatch inbound).descriptorsUsed ∧
        ∀ failure, (Delivery.advance { transport, session }).failure = some failure ↔
          (session.dispatch inbound).outcome.result = .error failure := by
  obtain ⟨size, cut⟩ := holds.split_bytes formed
  have descriptors : transport.descriptors =
      departure.payload.descriptors ++ queue.flatMap fun later => later.payload.descriptors := by
    rw [holds.descriptors_eq, List.flatMap_cons]
  unfold Delivery.advance
  simp only [cut]
  refine ⟨_, rfl, ?_, ?_, ?_, ?_⟩
  · rw [(Delivery.step_state _ _ _).1, descriptors]
    rfl
  · rw [Delivery.step_bytes]
  · rw [(Delivery.step_state _ _ _).2]
    simp only [descriptors]
    rfl
  · intro failure
    rw [Delivery.step_failure_iff, descriptors]
    rfl

end Delivering

namespace Exchange

/-- An exchange whose parties are in concord, with the messages in flight and the logs of them. -/
structure InStep
    (exchange : Exchange)
    (queue : Side → List Departure) : Prop where
  concord : ∀ side,
    Concord side (exchange.party side) (exchange.party side.peer) (queue side) (queue side.peer)
  holds : ∀ side, (exchange.link.transport side).Holds (queue side)
  recorded : ∀ side, ∃ delivered,
    exchange.sent side = delivered ++ (queue side).map Departure.sent ∧
      List.Forall₂ (Sent.ReceivedAs side) delivered (exchange.received side)

namespace InStep

section Actions

variable {exchange : Exchange} {queue : Side → List Departure}

/-- An exchange whose transports hold the same messages, with the same parties and logs, is in
step. -/
theorem same
    (inStep : exchange.InStep queue)
    {next : Exchange}
    (party : ∀ side, next.party side = exchange.party side)
    (holds : ∀ side, (next.link.transport side).Holds (queue side))
    (sent : next.sent = exchange.sent)
    (received : next.received = exchange.received) :
    next.InStep queue where
  concord := by
    intro side
    rw [party, party]
    exact inStep.concord side
  holds := holds
  recorded := by
    rw [sent, received]
    exact inStep.recorded

/-- An idle exchange has no message in flight. -/
theorem queue_of_idle
    (inStep : exchange.InStep queue)
    (idle : exchange.Idle)
    (side : Side) :
    queue side = [] :=
  (inStep.holds side).nil_of_bytes (inStep.concord side).flow.formed (idle side)

/-- A sending that failed caused no events. -/
theorem events_of_send_error
    {session : Session}
    {transport : Transport}
    {target : Option Object}
    {opcode : UInt16}
    {values : List Passed}
    {failure : Failure}
    (result : (session.send transport target opcode values).1.result = .error failure) :
    Operation.events session (.send transport target opcode values) = [] := by
  simp [Operation.events, Operation.created, Operation.endings, result]

/-- What a sending caused: the objects that were made, and the destructor it may be. -/
theorem events_of_send_ok
    {session : Session}
    {transport : Transport}
    {target : Object}
    {opcode : UInt16}
    {values : List Passed}
    {created : List Object}
    {signature : Signature}
    (result : (session.send transport (some target) opcode values).1.result = .ok created)
    (message : target.interface.message? session.side.sends opcode = some signature) :
    Operation.events session (.send transport (some target) opcode values) =
      created.map .created ++ ended .sending target signature := by
  simp [Operation.events, Operation.created, Operation.endings, result, endedBySending, message]

/-- Sending keeps the parties in step, whether a message leaves or not. -/
theorem send
    (inStep : exchange.InStep queue)
    {side : Side}
    {target : Option Object}
    {opcode : UInt16}
    {values : List Passed}
    (allowed : exchange.Allows (.send side target opcode values)) :
    ∃ queue, (exchange.act (.send side target opcode values)).InStep queue := by
  have concord := inStep.concord side
  have wellFormed : (exchange.link.session side).WellFormed := concord.own_sound.wellFormed
  rcases send_cases wellFormed (exchange.link.transport side) target opcode values with
    failed | sent
  · obtain ⟨failure, result, untouched, carries⟩ := failed
    refine ⟨queue, Concord.forall_side side ?_, ?_, ?_⟩
    · rw [party_send_self, party_send_peer, events_of_send_error result, List.append_nil]
      have ownSide : (exchange.link.session side).side = side := concord.own_side
      rw [ownSide] at untouched
      exact concord.rests (Party.rests_of_untouched untouched concord.own_sound)
    · refine (Side.forall_iff side).mpr ⟨?_, ?_⟩
      · rw [transport_send_self]
        exact (inStep.holds side).same carries
      · rw [transport_send_peer]
        exact inStep.holds _
    · refine (Side.forall_iff side).mpr ⟨?_, ?_⟩
      · rw [sent_send_self, result, sending, List.append_nil]
        exact inStep.recorded side
      · rw [sent_send_peer]
        exact inStep.recorded side.peer
  · obtain ⟨departure, rfl, rfl, rfl, result, leaves, carries⟩ := sent
    refine ⟨logged queue side (queue side ++ [departure]), Concord.forall_side side ?_, ?_, ?_⟩
    · rw [party_send_self, party_send_peer, logged_self, logged_peer,
        events_of_send_ok result leaves.message]
      exact (concord.sends leaves rfl allowed).2
    · refine (Side.forall_iff side).mpr ⟨?_, ?_⟩
      · rw [transport_send_self, logged_self]
        exact (inStep.holds side).concat carries
      · rw [transport_send_peer, logged_peer]
        exact inStep.holds _
    · refine (Side.forall_iff side).mpr ⟨?_, ?_⟩
      · obtain ⟨delivered, sentEq, receivedAs⟩ := inStep.recorded side
        refine ⟨delivered, ?_, receivedAs⟩
        rw [sent_send_self, result, logged_self, sentEq, List.map_append, List.append_assoc]
        rfl
      · rw [sent_send_peer, logged_peer]
        exact inStep.recorded side.peer

/-- Delivering from an empty transport changes nothing. -/
theorem deliver_nil
    (inStep : exchange.InStep queue)
    {side : Side}
    (isEmpty : queue side = []) :
    exchange.fault? (.deliver side) = none ∧
      (exchange.act (.deliver side)).InStep queue := by
  have bytes : (exchange.link.transport side).bytes = [] := by
    rw [(inStep.holds side).bytes_eq, isEmpty]
    rfl
  have stays : Delivery.advance
      { transport := exchange.link.transport side, session := exchange.link.session side.peer } =
        { transport := exchange.link.transport side,
          session := exchange.link.session side.peer } := by
    unfold Delivery.advance
    simp only [bytes, split_nil]
  have noMessage : (exchange.link.transport side).first? = none := by
    unfold Transport.first?
    rw [bytes, split_nil]
  have sameParty : ∀ other, (exchange.act (.deliver side)).party other = exchange.party other := by
    intro other
    simp only [act, noMessage, party, Link.deliverOne, stays]
    by_cases same : other = side.peer <;> simp [same]
  refine ⟨by simp [fault?, Link.deliverOne, stays], inStep.same sameParty ?_ ?_ ?_⟩
  · intro other
    simp only [act, noMessage, Link.deliverOne, stays]
    by_cases same : other = side
    · simpa [same] using inStep.holds side
    · simpa [same] using inStep.holds other
  · simp only [act, noMessage]
  · simp only [act, noMessage]

/-- Delivering a message ends in a fault about an object that the receiver destroyed itself, or keeps
the parties in step. -/
theorem deliver_cons
    (inStep : exchange.InStep queue)
    {side : Side}
    {departure : Departure}
    {rest : List Departure}
    (queueEq : queue side = departure :: rest) :
    (∃ error id,
      exchange.fault? (.deliver side) = some error ∧ error.destroyedId? = some id ∧
        (exchange.party side.peer).Gone id) ∨
    (exchange.fault? (.deliver side) = none ∧
      ∃ queue, (exchange.act (.deliver side)).InStep queue) := by
  have concord := inStep.concord side
  have holds := inStep.holds side
  rw [queueEq] at concord holds
  have formed := concord.flow.formed departure (by simp)
  obtain ⟨inbound, inboundEq, session, bytes, descriptors, failed⟩ :=
    advance_of_holds (exchange.link.session side.peer) holds formed
  have first : (exchange.link.transport side).first? = some inbound := by
    rw [inboundEq]
    exact holds.first?_eq formed
  have decodes := concord.decodes (rest.flatMap fun later => later.payload.descriptors)
  rw [← inboundEq, session_party] at decodes
  rcases decodes with ⟨error, id, refused, about, isGone⟩ | ⟨incoming, accepted, reads, next⟩
  · refine Or.inl ⟨error, id, fault?_deliver_iff.mpr ?_, about, isGone⟩
    exact (failed _).mpr (dispatch_of_error refused).1
  · obtain ⟨used, notRefused⟩ := dispatch_of_ok accepted
    refine Or.inr ⟨?_, logged queue side rest, Concord.forall_side side ?_, ?_, ?_⟩
    · rw [Option.eq_none_iff_forall_ne_some]
      intro error fault
      exact notRefused error ((failed _).mp (fault?_deliver_iff.mp fault))
    · rw [party_deliver_self first, party_deliver_peer first, logged_self, logged_peer]
      rw [← session] at next
      exact next
    · refine (Side.forall_iff side).mpr ⟨?_, ?_⟩
      · rw [transport_deliver_self first, logged_self]
        refine ⟨bytes, descriptors.trans ?_⟩
        rw [holds.descriptors_eq, List.flatMap_cons, used, reads.descriptorsUsed_eq,
          List.drop_left]
      · rw [transport_deliver_peer first, logged_peer]
        exact inStep.holds _
    · rw [sent_deliver first]
      refine (Side.forall_iff side).mpr ⟨?_, ?_⟩
      · obtain ⟨delivered, sentEq, receivedAs⟩ := inStep.recorded side
        rw [queueEq] at sentEq
        refine ⟨delivered ++ [departure.sent], ?_, ?_⟩
        · rw [sentEq, logged_self]
          simp
        · rw [received_deliver_self first, accepted]
          exact List.rel_append receivedAs (.cons (reads.receivedAs formed) .nil)
      · rw [received_deliver_peer first, logged_peer]
        exact inStep.recorded side.peer

/-- Releasing an id on both sides keeps an idle exchange in step. -/
theorem release
    (inStep : exchange.InStep queue)
    (idle : exchange.Idle)
    (id : ObjectId) :
    (exchange.act (.release id)).InStep queue := by
  have noQueue := inStep.queue_of_idle idle
  refine ⟨?_, ?_, inStep.recorded⟩
  · intro side
    have concord := inStep.concord side
    rw [noQueue, noQueue] at concord
    rw [party_release, party_release, noQueue, noQueue]
    exact concord.releases id
  · intro side
    simpa [act, Link.release] using inStep.holds side

/-- A transport that will refuse a message holds the same. -/
theorem refuseNext
    (inStep : exchange.InStep queue)
    (side : Side)
    (text : String) :
    (exchange.act (.refuseNext side text)).InStep queue := by
  have sameParty : ∀ other,
      (exchange.act (.refuseNext side text)).party other = exchange.party other := by
    intro other
    simp [act, party, Link.refuseNext]
  refine inStep.same sameParty ((Side.forall_iff side).mpr ⟨?_, ?_⟩) rfl rfl
  · obtain ⟨bytes, descriptors⟩ := inStep.holds side
    simp only [act, Link.refuseNext, Link.transport_withTransport, if_true]
    exact ⟨bytes, descriptors⟩
  · simp only [act, Link.refuseNext, Link.transport_withTransport, Side.peer_ne, if_false]
    exact inStep.holds side.peer

/-- Attaching to an object is not seen by the peer. -/
theorem attach
    (inStep : exchange.InStep queue)
    (side : Side)
    (object : Object)
    (attachment : Attachment) :
    (exchange.act (.attach side object attachment)).InStep queue := by
  refine ⟨Concord.forall_side side ?_, ?_, inStep.recorded⟩
  · rw [party_attach_self, party_attach_peer]
    apply (inStep.concord side).rests
    exact ⟨fun _ => rfl, rfl, (inStep.concord side).own_sound, rfl, rfl, Nat.le_refl _, rfl⟩
  · intro other
    simpa [act] using inStep.holds other

/-- Every delivery ends in a fault about an object that the receiver destroyed itself, or keeps the
parties in step. -/
theorem deliver
    (inStep : exchange.InStep queue)
    (side : Side) :
    (∃ error id,
      exchange.fault? (.deliver side) = some error ∧ error.destroyedId? = some id ∧
        (exchange.party side.peer).Gone id) ∨
    (exchange.fault? (.deliver side) = none ∧
      ∃ queue, (exchange.act (.deliver side)).InStep queue) := by
  cases queueEq : queue side with
  | nil =>
      obtain ⟨noFault, next⟩ := inStep.deliver_nil queueEq
      exact Or.inr ⟨noFault, queue, next⟩
  | cons departure rest => exact inStep.deliver_cons queueEq

/-- Every allowed action without a fault keeps the parties in step. -/
theorem act
    (inStep : exchange.InStep queue)
    {action : Action}
    (allowed : exchange.Allows action)
    (noFault : exchange.fault? action = none) :
    ∃ queue, (exchange.act action).InStep queue := by
  cases action with
  | send side target opcode values => exact inStep.send allowed
  | deliver side =>
      rcases inStep.deliver side with ⟨error, id, fault, -⟩ | ⟨-, next⟩
      · rw [noFault] at fault
        cases fault
      · exact next
  | release id => exact ⟨queue, inStep.release allowed id⟩
  | refuseNext side text => exact ⟨queue, inStep.refuseNext side text⟩
  | attach side object attachment => exact ⟨queue, inStep.attach side object attachment⟩

end Actions

end InStep

end Exchange

section Starting

variable {left right : Session} {leftHistory rightHistory : List Event}

/-- The same well-known objects, made in the same order, leave twins. -/
theorem Twins.performAll
    (twins : Twins left right)
    (leftFollows : Follows leftHistory left)
    (rightFollows : Follows rightHistory right)
    (wellKnown : List (ObjectId × Interface × UInt32)) :
    Twins
      (left.performAll (wellKnown.map fun (id, interface, version) => .bind id interface version))
      (right.performAll
        (wellKnown.map fun (id, interface, version) => .bind id interface version)) := by
  induction wellKnown generalizing left right leftHistory rightHistory with
  | nil => exact twins
  | cons bind wellKnown inductionHypothesis =>
      obtain ⟨id, interface, version⟩ := bind
      have leftNext :=
        (perform_effect leftFollows.wellFormed (.bind id interface version)).follows leftFollows
      have rightNext :=
        (perform_effect rightFollows.wellFormed (.bind id interface version)).follows rightFollows
      exact inductionHypothesis
        (twins.bind leftFollows.wellFormed rightFollows.wellFormed id interface version)
        leftNext rightNext

/-- Registering interfaces makes no object. -/
theorem table_performAll_register
    (session : Session)
    (interfaces : List Interface) :
    (session.performAll (interfaces.map .register)).table = session.table := by
  induction interfaces generalizing session with
  | nil => rfl
  | cons interface interfaces inductionHypothesis =>
      exact inductionHypothesis (session.register interface)

/-- After their setup, the two sessions are twins. -/
theorem Setup.twins
    {setup : Setup}
    (agreed : setup.Agreed) :
    Twins (setup.start.link.session .client) (setup.start.link.session .server) := by
  have start : ∀ side, setup.start.link.session side =
      (setup.registered side).performAll
        (setup.wellKnown.map fun (id, interface, version) => .bind id interface version) := by
    intro side
    cases side <;> exact List.foldl_append
  have table : ∀ side, (setup.registered side).table = {} :=
    fun side => table_performAll_register _ _
  have registered : Twins (setup.registered .client) (setup.registered .server) :=
    ⟨agreed, by rw [table, table], fun side => by rw [table, table]⟩
  rw [start, start]
  exact registered.performAll (follows_run _ _ _) (follows_run _ _ _) _

/-- After their setup, the two sessions are in step. -/
theorem Setup.inStep_start
    {setup : Setup}
    (agreed : setup.Agreed) :
    setup.start.InStep fun _ => [] := by
  have twins := setup.twins agreed
  have follows : ∀ side, Follows (setup.start.history side) (setup.start.link.session side) := by
    intro side
    cases side <;> exact follows_run _ _ _
  have sideEq : ∀ side, (setup.start.link.session side).side = side := by
    intro side
    cases side <;> exact (performAll_identity (follows_fresh _ _) _).2
  refine ⟨Concord.forall_side .client ?_, ?_, ?_⟩
  · apply Concord.of_idle
    · exact sideEq .client
    · exact sideEq .server
    · exact follows .client
    · exact follows .server
    · exact funext twins.sameInterfaces.known?_eq
    · exact twins.standing_eq
    · exact Nat.le_of_eq (twins.extent_eq _)
    · exact Nat.le_of_eq (twins.extent_eq _).symm
  · intro side
    cases side <;> exact ⟨rfl, rfl⟩
  · intro side
    exact ⟨[], rfl, .nil⟩

end Starting

/-- Every exchange that comes about without a fault is in step. -/
theorem Exchange.Reachable.inStep
    {setup : Setup}
    (agreed : setup.Agreed)
    {exchange : Exchange}
    (reachable : Exchange.Reachable setup exchange) :
    ∃ queue, exchange.InStep queue := by
  induction reachable with
  | start => exact ⟨_, setup.inStep_start agreed⟩
  | step _ allowed noFault inductionHypothesis =>
      obtain ⟨queue, inStep⟩ := inductionHypothesis
      exact inStep.act allowed noFault

end Wayland.Session
