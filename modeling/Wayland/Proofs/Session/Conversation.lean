import Wayland.Proofs.Session.InStep

/-!
Contract: what two sessions can rely on when they talk to each other.

Owns:
- the first fault of an exchange: it is about an object that the receiver destroyed itself;
- an exchange without faults: messages arrive as they were sent, and both tables agree whenever no
  message is in flight.

Does not own: how an exchange is kept in step.
-/

namespace Wayland.Session

open Wayland.Text
open Wayland.Wire

/-- What is gone with a party is told by its history: the latest object of the id, a destructor that
the party sent on it, and no release since. -/
theorem Party.Gone.latestAt
    {party : Party}
    {id : ObjectId}
    (gone : party.Gone id)
    (sound : party.Sound) :
    ∃ object after, LatestAt party.history id object after ∧
      .destroyed .sending object ∈ after ∧ .released id ∉ after := by
  obtain ⟨object, life⟩ := gone
  obtain ⟨after, latest, destructor, noRelease⟩ := latestAt_of_destroyed sound.chronicle life
  exact ⟨object, after, latest, destructor, noRelease⟩

/-- The first fault of an exchange between sessions that registered the same interfaces and made the
same well-known objects is about a destroyed object, and the id it complains about is one whose
current object the receiver destroyed by sending a destructor on it. -/
theorem first_fault_is_own_destruction
    {setup : Setup}
    (agreed : setup.Agreed)
    {exchange : Exchange}
    (reachable : Exchange.Reachable setup exchange)
    {side : Side}
    {error : Error}
    (fault : exchange.fault? (.deliver side) = some error) :
    error.reason.cause = .destroyedObject ∧
      ∃ id object after,
        error.destroyedId? = some id ∧ LatestAt (exchange.history side.peer) id object after ∧
          .destroyed .sending object ∈ after ∧ .released id ∉ after := by
  obtain ⟨queue, inStep⟩ := reachable.inStep agreed
  rcases inStep.deliver side with ⟨found, id, foundFault, about, isGone⟩ | ⟨noFault, -⟩
  · rw [fault] at foundFault
    cases foundFault
    obtain ⟨object, after, latest, destructor, noRelease⟩ :=
      isGone.latestAt (inStep.concord side).peer_sound
    exact ⟨Error.cause_of_destroyedId? about, id, object, after, about, latest, destructor,
      noRelease⟩
  · rw [fault] at noFault
    cases noFault

/-- An interface whose only request is a destructor. -/
def lamp : Interface :=
  { name := "lamp"
    version := 2
    requests := [{ name := "drop", destructor := true }] }

/-- An interface with a request that makes an object of any interface, and an event about a lamp. -/
def desk : Interface :=
  { name := "desk"
    version := 3
    requests :=
      [{ name := "place"
         slots := [{ name := "thing", kind := .newId }, { name := "plug", kind := .fd }] }]
    events :=
      [{ name := "lit"
         slots := [{ name := "lamp", kind := .object, interface := "lamp" }] }] }

def deskSetup : Setup where
  interfaces := fun _ => [desk, lamp]
  wellKnown := [(1, desk, 2)]

theorem deskSetup_agreed :
    deskSetup.Agreed :=
  ⟨fun _ => rfl, fun _ => rfl⟩

/-- The client placed a lamp and asked for a version that is not supported. -/
def lampPlaced : Exchange :=
  let start := deskSetup.start
  let placing : Action := .send .client (start.link.client.table.lookup 1) 0
    [⟨.newId 0 (Bytes.ofText "lamp") 5, none⟩, ⟨.fd 7, none⟩]
  (start.act placing).act (.deliver .client)

theorem lampPlaced_reachable :
    Exchange.Reachable deskSetup lampPlaced := by
  unfold lampPlaced
  refine .step (.step .start ?_ ?_) ?_ ?_
  · simp [Exchange.Allows]
  · rfl
  · trivial
  · decide

/-- The client dropped the lamp while an event about it is on its way. -/
def lampDropped : Exchange :=
  let lighting : Action := .send .server (lampPlaced.link.server.table.lookup 1) 0
    [⟨.object 2, none⟩]
  let dropping : Action := .send .client (lampPlaced.link.client.table.lookup 2) 0 []
  (lampPlaced.act lighting).act dropping

theorem lampDropped_reachable :
    Exchange.Reachable deskSetup lampDropped := by
  unfold lampDropped
  refine .step (.step lampPlaced_reachable ?_ ?_) ?_ ?_
  · have live : (lampPlaced.link.server.table.lookup 2).isSome = true := by decide
    simpa [Exchange.Allows, Link.session, Option.isSome_iff_exists] using live
  · rfl
  · simp [Exchange.Allows]
  · rfl

/-- An event about a lamp that the client dropped meanwhile ends in a fault about that lamp. -/
theorem dropped_lamp_faults :
    deskSetup.Agreed ∧ Exchange.Reachable deskSetup lampDropped ∧
      ∃ error, lampDropped.fault? (.deliver .server) = some error ∧
        error.reason.cause = .destroyedObject ∧
          ∃ id object after,
            error.destroyedId? = some id ∧ LatestAt (lampDropped.history .client) id object after ∧
              .destroyed .sending object ∈ after ∧ .released id ∉ after := by
  have fault : lampDropped.fault? (.deliver .server) =
      some
        { blame := .peer
          object := 1
          interface := "desk"
          message := "lit"
          reason := .argument (.destroyed 2) "lamp" } := by
    decide
  exact ⟨deskSetup_agreed, lampDropped_reachable, _, fault,
    first_fault_is_own_destruction deskSetup_agreed lampDropped_reachable fault⟩

section Agreeing

variable {own peer : Party}

/-- An object of one party has a namesake with the other, if both have the same standings. -/
theorem lookup_namesake
    (ownSound : own.Sound)
    (peerSound : peer.Sound)
    (standing_eq : own.standing = peer.standing)
    {id : ObjectId}
    {object : Object}
    (found : own.session.table.lookup id = some object) :
    ∃ other, peer.session.table.lookup id = some other ∧ object.naming = other.naming := by
  have live := Table.lookup_eq_some_iff.mp found
  have peerStanding : peer.session.table.standing id = .live object.outline := by
    rw [← Table.standing_of_live live]
    exact (congrFun standing_eq id).symm
  obtain ⟨other, otherLive, outlineEq⟩ := Table.status_of_standing_live peerStanding
  refine ⟨other, Table.lookup_eq_some_iff.mpr otherLive, ?_⟩
  have sameId : object.id = other.id := by
    rw [ownSound.wellFormed.id_of_live live, peerSound.wellFormed.id_of_live otherLive]
  simp only [Object.outline, Outline.mk.injEq] at outlineEq
  simp only [Object.naming, sameId, outlineEq.1, outlineEq.2]

/-- Parties with the same standings have the same objects and the same destroyed ids. -/
theorem lookup_agree
    (ownSound : own.Sound)
    (peerSound : peer.Sound)
    (standing_eq : own.standing = peer.standing)
    (id : ObjectId) :
    (own.session.table.lookup id).map Object.naming =
        (peer.session.table.lookup id).map Object.naming ∧
      own.session.table.isDestroyed id = peer.session.table.isDestroyed id := by
  have same : own.session.table.standing id = peer.session.table.standing id :=
    congrFun standing_eq id
  constructor
  · cases found : own.session.table.lookup id with
    | none =>
        cases otherFound : peer.session.table.lookup id with
        | none => rfl
        | some other =>
            obtain ⟨object, impossible, -⟩ :=
              lookup_namesake peerSound ownSound standing_eq.symm otherFound
            rw [found] at impossible
            cases impossible
    | some object =>
        obtain ⟨other, otherFound, named⟩ := lookup_namesake ownSound peerSound standing_eq found
        rw [otherFound, Option.map_some, Option.map_some, named]
  · rw [Bool.eq_iff_iff, Table.isDestroyed_iff, Table.isDestroyed_iff,
      ← Table.standing_eq_destroyed_iff, ← Table.standing_eq_destroyed_iff, same]

end Agreeing

/-- In an exchange without a fault, the messages of either side arrive in order as they were sent, and
whenever no message is in flight both tables have the same objects and the same destroyed ids. -/
theorem faultless_exchange_agrees
    {setup : Setup}
    (agreed : setup.Agreed)
    {exchange : Exchange}
    (reachable : Exchange.Reachable setup exchange) :
    (∀ side, ∃ delivered inFlight,
      exchange.sent side = delivered ++ inFlight ∧
        List.Forall₂ (Sent.ReceivedAs side) delivered (exchange.received side) ∧
          ((exchange.link.transport side).bytes = [] → inFlight = [])) ∧
    (exchange.Idle → ∀ id,
      ((exchange.link.session .client).table.lookup id).map Object.naming =
          ((exchange.link.session .server).table.lookup id).map Object.naming ∧
        (exchange.link.session .client).table.isDestroyed id =
          (exchange.link.session .server).table.isDestroyed id) := by
  obtain ⟨queue, inStep⟩ := reachable.inStep agreed
  refine ⟨?_, ?_⟩
  · intro side
    obtain ⟨delivered, sentEq, receivedAs⟩ := inStep.recorded side
    refine ⟨delivered, (queue side).map Departure.sent, sentEq, receivedAs, ?_⟩
    intro isEmpty
    rw [(inStep.holds side).nil_of_bytes (inStep.concord side).flow.formed isEmpty]
    rfl
  · intro idle id
    have concord := inStep.concord .client
    rw [inStep.queue_of_idle idle, inStep.queue_of_idle idle] at concord
    exact lookup_agree concord.own_sound concord.peer_sound concord.standing_eq id

/-- A lamp that was placed is the same on both sides, and its descriptor arrived. -/
theorem placed_lamp_agrees :
    deskSetup.Agreed ∧ Exchange.Reachable deskSetup lampPlaced ∧ lampPlaced.Idle ∧
      (lampPlaced.received .client).map (fun incoming => incoming.arguments) =
          [[.newId 2 (Bytes.ofText "lamp") 2, .fd 7]] ∧
        (∃ delivered inFlight,
          lampPlaced.sent .client = delivered ++ inFlight ∧
            List.Forall₂ (Sent.ReceivedAs .client) delivered (lampPlaced.received .client)) ∧
          ∀ id,
            ((lampPlaced.link.session .client).table.lookup id).map Object.naming =
                ((lampPlaced.link.session .server).table.lookup id).map Object.naming ∧
              (lampPlaced.link.session .client).table.isDestroyed id =
                (lampPlaced.link.session .server).table.isDestroyed id := by
  have idle : lampPlaced.Idle := by
    intro side
    cases side <;> decide
  obtain ⟨arrived, agreeing⟩ := faultless_exchange_agrees deskSetup_agreed lampPlaced_reachable
  obtain ⟨delivered, inFlight, sentEq, receivedAs, -⟩ := arrived .client
  exact ⟨deskSetup_agreed, lampPlaced_reachable, idle, by decide,
    ⟨delivered, inFlight, sentEq, receivedAs⟩, agreeing idle⟩

end Wayland.Session
