import Wayland.Proofs.Session.Relay

/-!
Contract: whose descriptors a message gets.

Owns:
- relays: any sendings and deliveries after a setup, faults and refusals of handlers included, with the
  logs of what was sent and what became of it;
- the descriptors of each direction are drawn in order by the messages that are accepted;
- an accepted message gets the descriptors that were passed with it, as long as no message before it
  was refused with a descriptor; past such a message the descriptors change hands.

Does not own: how a single message is read.
-/

namespace Wayland.Session

open Wayland.Text
open Wayland.Wire

/-- Two connected sessions with the messages that were sent, and what became of those that were
delivered, in order and by the side that sent them. -/
structure Relay where
  link : Link
  sent : Side → List Sent := fun _ => []
  verdicts : Side → List (Except Failure Incoming) := fun _ => []

namespace Relay

/-- What may happen between two sessions after their setup. -/
inductive Move where
  | send (side : Side) (target : Option Object) (opcode : UInt16) (values : List Passed)
  /-- What a side wrote is delivered to its peer, up to the first error. -/
  | deliver (side : Side)
  | refuseNext (side : Side) (text : String)
  | attach (side : Side) (object : Object) (attachment : Attachment)

def delivery
    (relay : Relay)
    (side : Side) :
    Delivery :=
  { transport := relay.link.transport side, session := relay.link.session side.peer }

def move
    (relay : Relay) :
    Move → Relay
  | .send side target opcode values =>
      let sent := relay.link.send side target opcode values
      { relay with
        link := sent.1
        sent := logged relay.sent side
          (relay.sent side ++ Exchange.sending target opcode values sent.2) }
  | .deliver side =>
      { relay with
        link := (relay.link.deliver side).1
        verdicts := logged relay.verdicts side
          (relay.verdicts side ++ (relay.delivery side).verdicts) }
  | .refuseNext side text => { relay with link := relay.link.refuseNext side text }
  | .attach side object attachment =>
      { relay with
        link := relay.link.withSession ((relay.link.session side).attach object attachment) side }

def run
    (relay : Relay)
    (moves : List Move) :
    Relay :=
  moves.foldl move relay

/-- The messages of a side that were delivered, each with what became of it. -/
def settled
    (relay : Relay)
    (side : Side) :
    List (Sent × Except Failure Incoming) :=
  (relay.sent side).zip (relay.verdicts side)

/-- The registry and the messages in flight of a relay fit its sessions, its transports and its
logs. -/
structure Ledger
    (relay : Relay)
    (known? : Bytes → Option (String × Interface))
    (registry : Standing)
    (queue : Side → List Departure) : Prop where
  awaits : ∀ side,
    Awaits registry side known? (relay.link.session side.peer) (relay.link.transport side)
      (queue side)
  judged : ∀ side, ∃ done,
    relay.sent side = done ++ (queue side).map Departure.sent ∧
      List.Forall₂ (Judged side known?) done (relay.verdicts side)
  draws : ∀ side,
    Draws ((relay.sent side).flatMap Sent.descriptors) (relay.settled side)
      (relay.link.transport side).descriptors

/-- A log is the same with the entry it has. -/
theorem logged_same
    {α : Type}
    (log : Side → α)
    (side : Side) :
    logged log side (log side) = log := by
  funext other
  unfold logged
  split
  · rename_i same
    rw [same]
  · rfl

/-- What has no partner at the end of the longer list is left out. -/
theorem zip_append_of_length_eq
    {α β : Type}
    {left more : List α}
    {right : List β}
    (sameLength : left.length = right.length) :
    (left ++ more).zip right = left.zip right := by
  have zipped : (left ++ more).zip (right ++ []) = left.zip right ++ more.zip [] :=
    List.zip_append sameLength
  rwa [List.append_nil, List.zip_nil_right, List.append_nil] at zipped

namespace Ledger

variable {relay next : Relay} {known? : Bytes → Option (String × Interface)} {registry : Standing}
variable {queue : Side → List Departure} {side : Side}

theorem registered
    (ledger : relay.Ledger known? registry queue)
    (side : Side) :
    Registered registry side (relay.link.session side) := by
  have registered := (ledger.awaits side.peer).registered
  rwa [Side.peer_peer] at registered

/-- A ledger stays when the sessions are registered as before, and neither the logs nor what the
transports hold changes. -/
theorem same
    (ledger : relay.Ledger known? registry queue)
    (registered : ∀ side, Registered registry side (next.link.session side))
    (known_eq : ∀ side, (next.link.session side).known? = (relay.link.session side).known?)
    (bytes_eq : ∀ side, (next.link.transport side).bytes = (relay.link.transport side).bytes)
    (descriptors_eq : ∀ side,
      (next.link.transport side).descriptors = (relay.link.transport side).descriptors)
    (sent_eq : next.sent = relay.sent)
    (verdicts_eq : next.verdicts = relay.verdicts) :
    next.Ledger known? registry queue where
  awaits := by
    intro side
    obtain ⟨-, known, formed, listed, bytes⟩ := ledger.awaits side
    exact ⟨registered side.peer, (known_eq side.peer).trans known, formed, listed,
      (bytes_eq side).trans bytes⟩
  judged := by
    rw [sent_eq, verdicts_eq]
    exact ledger.judged
  draws := by
    intro side
    unfold settled
    rw [sent_eq, verdicts_eq, descriptors_eq]
    exact ledger.draws side

/-- A message that leaves is registered with its objects, and waits behind the others. -/
theorem leave
    (ledger : relay.Ledger known? registry queue)
    {departure : Departure}
    (leaves : departure.Leaves (relay.link.session side) (next.link.session side))
    (peer : next.link.session side.peer = relay.link.session side.peer)
    (carries : (relay.link.transport side).Carries (next.link.transport side) departure.bytes
      departure.payload.descriptors)
    (peerTransport : next.link.transport side.peer = relay.link.transport side.peer)
    (sent_eq : next.sent = logged relay.sent side (relay.sent side ++ [departure.sent]))
    (verdicts_eq : next.verdicts = relay.verdicts) :
    next.Ledger known? (registry.after (departure.created.map Object.mark))
      (logged queue side (queue side ++ [departure])) := by
  have registered := ledger.registered side
  have bears := leaves.bears
  rw [registered.side_eq] at bears
  have keeps := registered.keeps bears
  have ownKnown : (relay.link.session side).known? = known? := by
    have known := (ledger.awaits side.peer).known_eq
    rwa [Side.peer_peer] at known
  have formed : departure.Formed side known? := by
    refine ⟨?_, leaves.available, leaves.sameLength, ?_, leaves.encoded, leaves.framed⟩
    · rw [← registered.side_eq]
      exact leaves.message
    · exact ⟨relay.link.session side, fun wanted => congrFun ownKnown wanted, leaves.completes⟩
  have listed : departure.Listed (registry.after (departure.created.map Object.mark)) := by
    have target := registered.live _ _ (Table.standing_of_live bears.live)
    refine ⟨?_, registered.created_listed bears⟩
    rw [keeps _ (by simp [target]), target]
  obtain ⟨done, sentEq, judged⟩ := ledger.judged side
  constructor
  · refine (Side.forall_iff side).mpr ⟨?_, ?_⟩
    · obtain ⟨peerRegistered, known, allFormed, allListed, bytes⟩ := ledger.awaits side
      rw [logged_self, peer]
      refine ⟨peerRegistered.peer_sends registered bears, known, ?_, ?_, ?_⟩
      · simpa [or_imp, forall_and] using ⟨allFormed, formed⟩
      · simpa [or_imp, forall_and] using
          ⟨fun earlier member => (allListed earlier member).keeps keeps, listed⟩
      · rw [carries.1, bytes, List.flatMap_append, List.flatMap_singleton]
    · obtain ⟨-, -, allFormed, allListed, bytes⟩ := ledger.awaits side.peer
      rw [logged_peer, Side.peer_peer, peerTransport]
      refine ⟨?_, (funext bears.known?_eq).trans ownKnown, allFormed,
        fun earlier member => (allListed earlier member).keeps keeps, bytes⟩
      rw [Side.peer_peer]
      exact registered.sends bears
  · rw [sent_eq, verdicts_eq]
    refine (Side.forall_iff side).mpr ⟨?_, ?_⟩
    · refine ⟨done, ?_, judged⟩
      rw [logged_self, logged_self, sentEq, List.map_append, List.append_assoc]
      rfl
    · rw [logged_peer, logged_peer]
      exact ledger.judged side.peer
  · unfold settled
    rw [sent_eq, verdicts_eq]
    refine (Side.forall_iff side).mpr ⟨?_, ?_⟩
    · have draws := (ledger.draws side).behind departure.sent.descriptors
      have sameLength := judged.length_eq
      unfold settled at draws
      rw [sentEq, zip_append_of_length_eq sameLength] at draws
      rw [logged_self, carries.2, List.flatMap_append, List.flatMap_singleton, sentEq,
        List.append_assoc done, zip_append_of_length_eq sameLength, formed.sent_descriptors]
      exact draws
    · rw [logged_peer, peerTransport]
      exact ledger.draws side.peer

/-- Sending keeps a ledger, whether a message leaves or not. -/
theorem send
    (ledger : relay.Ledger known? registry queue)
    (side : Side)
    (target : Option Object)
    (opcode : UInt16)
    (values : List Passed) :
    ∃ registry queue,
      (relay.move (.send side target opcode values)).Ledger known? registry queue := by
  have registered := ledger.registered side
  have peerSession : (relay.move (.send side target opcode values)).link.session side.peer =
      relay.link.session side.peer := by
    simp [move, Link.send, Side.peer_ne]
  have peerTransport : (relay.move (.send side target opcode values)).link.transport side.peer =
      relay.link.transport side.peer := by
    simp [move, Link.send, Side.peer_ne]
  have session : (relay.move (.send side target opcode values)).link.session side =
      ((relay.link.session side).send (relay.link.transport side) target opcode
        values).1.session := by
    simp [move, Link.send]
  have transport : (relay.move (.send side target opcode values)).link.transport side =
      ((relay.link.session side).send (relay.link.transport side) target opcode values).2 := by
    simp [move, Link.send]
  have sent : (relay.move (.send side target opcode values)).sent =
      logged relay.sent side (relay.sent side ++ Exchange.sending target opcode values
        ((relay.link.session side).send (relay.link.transport side) target opcode
          values).1.result) := rfl
  rcases send_cases registered.wellFormed (relay.link.transport side) target opcode values with
    ⟨failure, result, untouched, carries⟩ | ⟨departure, rfl, rfl, rfl, result, leaves, carries⟩
  · rw [← session] at untouched
    rw [← transport] at carries
    rw [result] at sent
    refine ⟨registry, queue, ledger.same ((Side.forall_iff side).mpr ⟨?_, ?_⟩)
      ((Side.forall_iff side).mpr ⟨?_, ?_⟩) ((Side.forall_iff side).mpr ⟨?_, ?_⟩)
      ((Side.forall_iff side).mpr ⟨?_, ?_⟩) ?_ rfl⟩
    · exact registered.untouched untouched
    · rw [peerSession]
      exact ledger.registered side.peer
    · rw [untouched.session_eq]
      rfl
    · rw [peerSession]
    · rw [carries.1, List.append_nil]
    · rw [peerTransport]
    · rw [carries.2, List.append_nil]
    · rw [peerTransport]
    · rw [sent, Exchange.sending, List.append_nil]
      exact logged_same relay.sent side
  · rw [← session] at leaves
    rw [← transport] at carries
    rw [result] at sent
    exact ⟨_, _, ledger.leave leaves peerSession carries peerTransport sent rfl⟩

/-- A delivery keeps a ledger, wherever it stops. -/
theorem deliver
    (ledger : relay.Ledger known? registry queue)
    (side : Side) :
    ∃ queue, (relay.move (.deliver side)).Ledger known? registry queue := by
  have awaits : Awaits registry side known? (relay.delivery side).session
      (relay.delivery side).transport (queue side) :=
    ledger.awaits side
  obtain ⟨taken, left, queueEq, waits, allJudged, drawn⟩ := awaits.run
  obtain ⟨done, sentEq, judged⟩ := ledger.judged side
  have session : (relay.move (.deliver side)).link.session side.peer =
      (relay.delivery side).run.session := by
    simp [move, Link.deliver, delivery, Transport.deliverTo]
  have ownSession : (relay.move (.deliver side)).link.session side = relay.link.session side := by
    simp [move, Link.deliver, (Side.peer_ne side).symm]
  have transport : (relay.move (.deliver side)).link.transport side =
      (relay.delivery side).run.transport := by
    simp [move, Link.deliver, delivery, Transport.deliverTo]
  have peerTransport : (relay.move (.deliver side)).link.transport side.peer =
      relay.link.transport side.peer := by
    simp [move, Link.deliver, Side.peer_ne]
  have verdicts : (relay.move (.deliver side)).verdicts =
      logged relay.verdicts side (relay.verdicts side ++ (relay.delivery side).verdicts) := rfl
  have sent : (relay.move (.deliver side)).sent = relay.sent := rfl
  have sentHere : relay.sent side =
      (done ++ taken.map Departure.sent) ++ left.map Departure.sent := by
    rw [sentEq, queueEq, List.map_append, List.append_assoc]
  refine ⟨logged queue side left, ?_, ?_, ?_⟩
  · refine (Side.forall_iff side).mpr ⟨?_, ?_⟩
    · rw [logged_self, session, transport]
      exact waits
    · rw [logged_peer, Side.peer_peer, ownSession, peerTransport]
      have peer := ledger.awaits side.peer
      rwa [Side.peer_peer] at peer
  · rw [sent, verdicts]
    refine (Side.forall_iff side).mpr ⟨?_, ?_⟩
    · rw [logged_self, logged_self]
      exact ⟨done ++ taken.map Departure.sent, sentHere, List.rel_append judged allJudged⟩
    · rw [logged_peer, logged_peer]
      exact ledger.judged side.peer
  · unfold settled
    rw [sent, verdicts]
    refine (Side.forall_iff side).mpr ⟨?_, ?_⟩
    · have before := ledger.draws side
      unfold settled at before
      rw [sentEq, zip_append_of_length_eq judged.length_eq, ← sentEq] at before
      have bothLength : (done ++ taken.map Departure.sent).length =
          (relay.verdicts side ++ (relay.delivery side).verdicts).length := by
        rw [List.length_append, List.length_append, judged.length_eq, allJudged.length_eq]
      rw [logged_self, transport, sentHere, zip_append_of_length_eq bothLength, ← sentHere,
        List.zip_append judged.length_eq]
      exact before.trans drawn
    · rw [logged_peer, peerTransport]
      exact ledger.draws side.peer

/-- Every move keeps a ledger. -/
theorem move
    (ledger : relay.Ledger known? registry queue)
    (move : Move) :
    ∃ registry queue, (relay.move move).Ledger known? registry queue := by
  cases move with
  | send side target opcode values => exact ledger.send side target opcode values
  | deliver side => exact ⟨registry, ledger.deliver side⟩
  | refuseNext side text =>
      have session : ∀ other, (relay.move (.refuseNext side text)).link.session other =
          relay.link.session other := by
        intro other
        simp [Relay.move, Link.refuseNext]
      refine ⟨registry, queue, ledger.same ?_ ?_ ?_ ?_ rfl rfl⟩
      · intro other
        rw [session]
        exact ledger.registered other
      · intro other
        rw [session]
      · intro other
        by_cases same : other = side <;> simp [Relay.move, Link.refuseNext, same]
      · intro other
        by_cases same : other = side <;> simp [Relay.move, Link.refuseNext, same]
  | attach side object attachment =>
      have transport : ∀ other, (relay.move (.attach side object attachment)).link.transport other =
          relay.link.transport other := by
        intro other
        simp [Relay.move]
      have session : ∀ other, ∃ attachments,
          (relay.move (.attach side object attachment)).link.session other =
            { relay.link.session other with attachments } := by
        intro other
        by_cases same : other = side
        · rw [same]
          refine ⟨(object.serial, attachment) :: (relay.link.session side).attachments, ?_⟩
          simp [Relay.move, Session.attach]
        · refine ⟨(relay.link.session other).attachments, ?_⟩
          simp [Relay.move, same]
      refine ⟨registry, queue, ledger.same ?_ ?_ ?_ ?_ rfl rfl⟩
      · intro other
        obtain ⟨attachments, sessionEq⟩ := session other
        have registered := ledger.registered other
        rw [sessionEq]
        exact registered.same rfl registered.wellFormed rfl
      · intro other
        obtain ⟨attachments, sessionEq⟩ := session other
        rw [sessionEq]
        rfl
      · intro other
        rw [transport]
      · intro other
        rw [transport]

/-- Every run of moves keeps a ledger. -/
theorem run
    (ledger : relay.Ledger known? registry queue)
    (moves : List Move) :
    ∃ registry queue, (relay.run moves).Ledger known? registry queue := by
  induction moves generalizing relay registry queue with
  | nil => exact ⟨registry, queue, ledger⟩
  | cons first moves inductionHypothesis =>
      obtain ⟨registry, queue, next⟩ := ledger.move first
      exact inductionHypothesis next

end Ledger

end Relay

def Setup.relay
    (setup : Setup) :
    Relay where
  link := setup.start.link

/-- After their setup, the objects of two sessions are registered, and nothing is in flight. -/
theorem Setup.ledger_start
    {setup : Setup}
    (agreed : setup.Agreed) :
    ∃ known? registry, setup.relay.Ledger known? registry fun _ => [] := by
  have inStep := setup.inStep_start agreed
  have standing : ∀ side, (setup.relay.link.session side).table.standing =
      (setup.relay.link.session .client).table.standing := by
    intro side
    cases side
    · rfl
    · exact (setup.twins agreed).standing_eq.symm
  have known : ∀ side, (setup.relay.link.session side).known? =
      (setup.relay.link.session .client).known? := by
    intro side
    cases side
    · rfl
    · exact funext fun wanted => ((setup.twins agreed).sameInterfaces.known?_eq wanted).symm
  have registered : ∀ side, Registered (setup.relay.link.session .client).table.standing side
      (setup.relay.link.session side) := by
    intro side
    have concord := inStep.concord side
    refine ⟨concord.own_side, concord.own_sound.wellFormed, ?_, ?_⟩
    · rw [standing]
      exact fun id outline live => live
    · rw [standing]
      exact fun id inside vacant => vacant
  refine ⟨(setup.relay.link.session .client).known?,
    (setup.relay.link.session .client).table.standing, ?_, ?_, ?_⟩
  · intro side
    exact ⟨registered side.peer, known side.peer, by simp, by simp, (inStep.holds side).bytes_eq⟩
  · intro side
    exact ⟨[], rfl, .nil⟩
  · intro side
    rw [show (setup.relay.link.transport side).descriptors = [] from
      (inStep.holds side).descriptors_eq]
    exact .nothing

/-- In either direction the accepted messages draw the descriptors of all that was sent, in order; a
refused message leaves its own to the next. -/
theorem descriptors_drawn_in_order
    {setup : Setup}
    (agreed : setup.Agreed)
    (moves : List Relay.Move)
    (side : Side) :
    let relay := setup.relay.run moves
    (relay.verdicts side).length ≤ (relay.sent side).length ∧
      Draws ((relay.sent side).flatMap Sent.descriptors) (relay.settled side)
        (relay.link.transport side).descriptors := by
  obtain ⟨known?, registry, start⟩ := setup.ledger_start agreed
  obtain ⟨registry, queue, ledger⟩ := start.run moves
  obtain ⟨done, sentEq, judged⟩ := ledger.judged side
  refine ⟨?_, ledger.draws side⟩
  rw [sentEq, List.length_append, judged.length_eq]
  omega

/-- A descriptor that arrives in an argument was passed for that argument. -/
theorem passed_of_arriving
    {slots : List Slot}
    {passed : List Passed}
    {created : List Object}
    {index : Nat}
    {descriptor : Int}
    (arriving : (arrivingArguments slots passed created)[index]? = some (.fd descriptor)) :
    (passed[index]?).map Passed.value = some (.fd descriptor) := by
  fun_induction arrivingArguments slots passed created generalizing index with
  | case1 slot slots id name version handle passed object created inductionHypothesis =>
      cases index with
      | zero =>
          simp only [List.getElem?_cons_zero, Option.some.injEq] at arriving
          split at arriving <;> cases arriving
      | succ index =>
          rw [List.getElem?_cons_succ] at arriving ⊢
          exact inductionHypothesis arriving
  | case2 slot slots value handle passed created notMade inductionHypothesis =>
      cases index with
      | zero => simpa using arriving
      | succ index =>
          rw [List.getElem?_cons_succ] at arriving ⊢
          exact inductionHypothesis arriving
  | case3 => cases arriving

/-- Whatever two sessions send and deliver, faults and refusals of handlers included, an accepted
message was received as it was sent, each descriptor in the argument it was passed for, unless a
message before it was refused with a descriptor. -/
theorem accepted_message_keeps_descriptors
    {setup : Setup}
    (agreed : setup.Agreed)
    (moves : List Relay.Move)
    (side : Side)
    {earlier later : List (Sent × Except Failure Incoming)}
    {sent : Sent}
    {incoming : Incoming}
    (settled : (setup.relay.run moves).settled side = earlier ++ (sent, .ok incoming) :: later)
    (noneStranded : NoneStranded earlier) :
    sent.ReceivedAs side incoming ∧
      ∀ (index : Nat) (descriptor : Int), incoming.arguments[index]? = some (.fd descriptor) →
        (sent.passed[index]?).map Passed.value = some (.fd descriptor) := by
  obtain ⟨known?, registry, start⟩ := setup.ledger_start agreed
  obtain ⟨registry, queue, ledger⟩ := start.run moves
  obtain ⟨done, sentEq, allJudged⟩ := ledger.judged side
  have draws := ledger.draws side
  have zipped : (setup.relay.run moves).settled side =
      done.zip ((setup.relay.run moves).verdicts side) := by
    unfold Relay.settled
    rw [sentEq, Relay.zip_append_of_length_eq allJudged.length_eq]
  have doneEq : done = earlier.map Prod.fst ++ sent :: later.map Prod.fst := by
    have firsts := congrArg (List.map Prod.fst) (zipped.symm.trans settled)
    rwa [List.map_fst_zip (Nat.le_of_eq allJudged.length_eq), List.map_append,
      List.map_cons] at firsts
  obtain ⟨departure, rfl, formed, reaches⟩ : Judged side known? sent (.ok incoming) := by
    apply (List.forall₂_iff_zip.mp allJudged).2
    rw [← zipped, settled]
    simp
  have own : descriptorsOf incoming.arguments = departure.payload.descriptors := by
    rw [settled] at draws
    rw [formed.sent_descriptors]
    apply draws.own noneStranded
    rw [sentEq, doneEq, List.append_assoc, List.flatMap_append, List.cons_append,
      List.flatMap_cons]
  have receivedAs := ((reaches incoming rfl).reads formed own).receivedAs formed
  refine ⟨receivedAs, fun index descriptor held => ?_⟩
  rw [receivedAs.arguments_eq] at held
  exact passed_of_arriving held

/-- An interface with a request that passes a descriptor, one that passes none, and an event that
destroys the object. -/
def socket : Interface :=
  { name := "socket"
    version := 1
    requests := [{ name := "plug", slots := [{ name := "cable", kind := .fd }] }, { name := "nod" }]
    events := [{ name := "gone", destructor := true }] }

def socketSetup : Setup where
  interfaces := fun _ => [socket]
  wellKnown := [(1, socket, 1), (2, socket, 1)]

theorem socketSetup_agreed :
    socketSetup.Agreed :=
  ⟨fun _ => rfl, fun _ => rfl⟩

/-- The server destroys the first socket while a request for it is on its way, with a plug for the
second socket behind it; then the server takes what there is, twice. -/
def socketLost
    (opcode : UInt16)
    (values : List Passed) :
    List Relay.Move :=
  let known (side : Side) (id : ObjectId) :=
    (socketSetup.relay.link.session side).table.lookup id
  [.send .server (known .server 1) 0 [],
    .send .client (known .client 1) opcode values,
    .send .client (known .client 2) 0 [⟨.fd 8, none⟩],
    .deliver .client,
    .deliver .client]

/-- What was passed with each message that a relay delivered, and what arrived if it was accepted. -/
def Relay.exchanged
    (relay : Relay)
    (side : Side) :
    List (List Argument × Option (List Argument)) :=
  (relay.settled side).map fun (sent, verdict) =>
    (sent.passed.map Passed.value, verdict.toOption.map Incoming.arguments)

/-- If two messages were delivered and only the second was accepted, they are what was exchanged. -/
theorem Relay.settled_of_exchanged
    {relay : Relay}
    {side : Side}
    {first second arrived : List Argument}
    (exchanged : relay.exchanged side = [(first, none), (second, some arrived)]) :
    ∃ refused failure sent incoming,
      relay.settled side = [(refused, .error failure)] ++ [(sent, .ok incoming)] ∧
        refused.passed.map Passed.value = first ∧ sent.passed.map Passed.value = second ∧
          incoming.arguments = arrived := by
  obtain ⟨⟨refused, verdict⟩, others, settledEq, firstEq, rest⟩ :=
    List.map_eq_cons_iff.mp exchanged
  obtain ⟨⟨sent, last⟩, none, rfl, secondEq, empty⟩ := List.map_eq_cons_iff.mp rest
  obtain rfl := List.map_eq_nil_iff.mp empty
  cases verdict with
  | ok incoming => cases firstEq
  | error failure =>
      cases last with
      | error failure => cases secondEq
      | ok incoming =>
          cases firstEq
          cases secondEq
          exact ⟨refused, failure, sent, incoming, settledEq, rfl, rfl, rfl⟩

/-- The plug behind a request without a descriptor keeps its own, though the request was refused. -/
theorem plug_keeps_descriptor :
    socketSetup.Agreed ∧
      ∃ refused failure sent incoming,
        (socketSetup.relay.run (socketLost 1 [])).settled .client =
            [(refused, .error failure)] ++ [(sent, .ok incoming)] ∧
          NoneStranded [(refused, .error failure)] ∧
            incoming.arguments = [.fd 8] ∧ sent.ReceivedAs .client incoming ∧
              ∀ (index : Nat) (descriptor : Int),
                incoming.arguments[index]? = some (.fd descriptor) →
                  (sent.passed[index]?).map Passed.value = some (.fd descriptor) := by
  have exchanged : (socketSetup.relay.run (socketLost 1 [])).exchanged .client =
      [([], none), ([.fd 8], some [.fd 8])] := by
    decide +kernel
  obtain ⟨refused, failure, sent, incoming, settled, nothing, -, arrived⟩ :=
    Relay.settled_of_exchanged exchanged
  have noneStranded : NoneStranded [(refused, .error failure)] := by
    intro pair member _ _
    rw [List.mem_singleton.mp member]
    simp [Sent.descriptors, nothing, descriptorsOf]
  exact ⟨socketSetup_agreed, refused, failure, sent, incoming, settled, noneStranded, arrived,
    accepted_message_keeps_descriptors socketSetup_agreed _ _ settled noneStranded⟩

/-- The plug behind a refused plug gets the descriptor of that one. -/
theorem plug_takes_stranded_descriptor :
    ∃ refused failure sent incoming,
      (socketSetup.relay.run (socketLost 0 [⟨.fd 7, none⟩])).settled .client =
          [(refused, .error failure)] ++ [(sent, .ok incoming)] ∧
        refused.passed.map Passed.value = [.fd 7] ∧ sent.passed.map Passed.value = [.fd 8] ∧
          incoming.arguments = [.fd 7] := by
  have exchanged : (socketSetup.relay.run (socketLost 0 [⟨.fd 7, none⟩])).exchanged .client =
      [([.fd 7], none), ([.fd 8], some [.fd 7])] := by
    decide +kernel
  exact Relay.settled_of_exchanged exchanged

end Wayland.Session
