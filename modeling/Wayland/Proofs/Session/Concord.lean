import Wayland.Proofs.Session.Flow

/-!
Contract: two parties that agree on what their messages come to.

Owns:
- the flows in both directions, and the standings both come to once all messages are taken;
- how parties stay in concord when one of them sends, receives or rests, and when both release an
  id.

Does not own: the transports that carry the messages, or the order of steps.
-/

namespace Wayland.Session

open Wayland.Wire

/-- Two parties in concord, with the messages in flight from one to the other and back. -/
structure Concord
    (side : Side)
    (own peer : Party)
    (queue back : List Departure) : Prop where
  own_side : own.session.side = side
  peer_side : peer.session.side = side.peer
  own_sound : own.Sound
  peer_sound : peer.Sound
  sameKnown : own.session.known? = peer.session.known?
  flow : Flow side own peer queue
  backFlow : Flow side.peer peer own back
  /-- Once all messages in flight are taken, both have the same standings. -/
  confluent : own.standing.after (marksOf back) = peer.standing.after (marksOf queue)

namespace Concord

section Steps

variable {side : Side} {own peer next : Party} {queue back : List Departure}
variable {departure : Departure}

theorem symm
    (concord : Concord side own peer queue back) :
    Concord side.peer peer own back queue where
  own_side := concord.peer_side
  peer_side := by rw [concord.own_side, Side.peer_peer]
  own_sound := concord.peer_sound
  peer_sound := concord.own_sound
  sameKnown := concord.sameKnown.symm
  flow := concord.backFlow
  backFlow := by
    rw [Side.peer_peer]
    exact concord.flow
  confluent := concord.confluent.symm

/-- One party takes no message. -/
theorem rests
    (concord : Concord side own peer queue back)
    (rests : own.Rests next side) :
    Concord side next peer queue back where
  own_side := rests.side_eq.trans concord.own_side
  peer_side := concord.peer_side
  own_sound := rests.sound
  peer_sound := concord.peer_sound
  sameKnown := (funext rests.known?_eq).trans concord.sameKnown
  flow := concord.flow.sender_rests rests
  backFlow := concord.backFlow.receiver_rests (by rwa [Side.peer_peer])
  confluent := by rw [rests.standing_eq, concord.confluent]

/-- One party sends a message that refers only to objects live with it. -/
theorem sends
    (concord : Concord side own peer queue back)
    (leaves : departure.Leaves own.session next.session)
    (history_eq :
      next.history = own.history ++
        (departure.created.map .created ++
          ended .sending departure.target departure.signature))
    (referencesLive : ∀ passed ∈ departure.passed, ∀ id, passed.value = .object id → id ≠ 0 →
      ∃ object, own.session.table.lookup id = some object) :
    departure.Formed side peer.session.known? ∧
      Concord side next peer (queue ++ [departure]) back := by
  have sound := concord.own_sound
  have takes : own.Takes next side .sending departure.created departure.target
      departure.signature := by
    obtain ⟨table, made, growth, nextEq⟩ := leaves.grows
    rw [concord.own_side] at growth
    exact ⟨status_of_isAlive leaves.alive, ⟨table, made, growth, nextEq⟩, history_eq⟩
  have formed : departure.Formed side peer.session.known? := by
    refine ⟨?_, leaves.available, leaves.sameLength, ?_, leaves.encoded, leaves.framed⟩
    · rw [← concord.own_side]
      exact leaves.message
    · exact ⟨own.session, fun wanted => congrFun concord.sameKnown wanted, leaves.completes⟩
  have fits := concord.flow.fits_sent concord.backFlow sound concord.confluent takes
    leaves.sameLength leaves.completes referencesLive
  refine ⟨formed, ?_⟩
  constructor
  · rw [takes.session_eq]
    exact concord.own_side
  · exact concord.peer_side
  · exact takes.sound sound
  · exact concord.peer_sound
  · rw [← concord.sameKnown, takes.session_eq]
    rfl
  · exact concord.flow.sender_sends sound takes formed fits
  · exact concord.backFlow.receiver_sends sound (by rwa [Side.peer_peer])
  · exact Flow.confluent_sent concord.backFlow sound concord.confluent takes

/-- The other party receives the first message. -/
theorem receives
    (concord : Concord side own peer (departure :: queue) back)
    {objects : List Object}
    {target : Object}
    (takes : peer.Takes next side .receiving objects target departure.signature)
    (sameTarget : target.id = departure.target.id)
    (sameMarks : objects.map Object.mark = departure.created.map Object.mark) :
    Concord side own next queue back := by
  have sound := concord.peer_sound
  constructor
  · exact concord.own_side
  · rw [takes.session_eq]
    exact concord.peer_side
  · exact concord.own_sound
  · exact takes.sound sound
  · rw [concord.sameKnown, takes.session_eq]
    rfl
  · exact concord.flow.receiver_receives sound takes sameTarget sameMarks
  · exact concord.backFlow.sender_receives sound (by rwa [Side.peer_peer])
  · rw [concord.confluent, marksOf, List.flatMap_cons, Standing.after_append,
      takes.standing_eq sound, Departure.marks, messageMarks, messageMarks, sameMarks, sameTarget]
    rfl

/-- The other party decodes the first message: it reads as it was sent, and both stay in concord,
unless something it needs is gone with the receiver, and then the report is about that. -/
theorem decodes
    (concord : Concord side own peer (departure :: queue) back)
    (following : List Int) :
    (∃ error id,
      (peer.session.decode (departure.inbound following)).result = .error (.refused error) ∧
        error.destroyedId? = some id ∧ peer.Gone id) ∨
    (∃ incoming,
      (peer.session.decode (departure.inbound following)).result = .ok incoming ∧
        departure.Reads incoming ∧
          Concord side own
            { session := (peer.session.decode (departure.inbound following)).session
              history :=
                peer.history ++
                  Operation.events peer.session (.decode (departure.inbound following)) }
            queue back) := by
  have sound := concord.peer_sound
  have receiver : peer.session.side.peer = side := by rw [concord.peer_side, Side.peer_peer]
  rcases decode_of_fits sound.wellFormed (fun id (gone : peer.Gone id) => gone.destroyed sound)
      receiver (concord.flow.formed departure (by simp)) concord.flow.acceptable.1 following with
    refused | ⟨incoming, accepted, reads⟩
  · exact Or.inl refused
  · refine Or.inr ⟨incoming, accepted, reads, ?_⟩
    rcases decode_cases sound.wellFormed (departure.inbound following) with failed | received
    · obtain ⟨error, -, refused, -⟩ := failed
      rw [accepted] at refused
      cases refused
    · obtain ⟨found, result, arrives⟩ := received
      rw [accepted] at result
      cases result
      obtain ⟨table, made, growth, nextEq⟩ := arrives.grows
      rw [receiver] at growth
      refine concord.receives ⟨arrives.live, ⟨table, made, growth, ?_⟩, ?_⟩ reads.target_eq
        reads.created_eq
      · rw [← reads.signature_eq]
        exact nextEq
      · simp only [Operation.events, Operation.created, Operation.endings, accepted,
          reads.signature_eq]

/-- With no message in flight, both parties have the same standings. -/
theorem standing_eq
    (concord : Concord side own peer [] []) :
    own.standing = peer.standing :=
  concord.confluent

/-- With no message in flight, parties with the same interfaces and standings are in concord. -/
theorem of_idle
    (own_side : own.session.side = side)
    (peer_side : peer.session.side = side.peer)
    (own_sound : own.Sound)
    (peer_sound : peer.Sound)
    (sameKnown : own.session.known? = peer.session.known?)
    (standing_eq : own.standing = peer.standing)
    (extent_le : own.extent side ≤ peer.extent side)
    (extent_peer_le : peer.extent side.peer ≤ own.extent side.peer) :
    Concord side own peer [] [] where
  own_side := own_side
  peer_side := peer_side
  own_sound := own_sound
  peer_sound := peer_sound
  sameKnown := sameKnown
  flow := ⟨by simp, trivial, by simp, extent_le⟩
  backFlow := ⟨by simp, trivial, by simp, extent_peer_le⟩
  confluent := standing_eq

/-- Concord seen from one side is concord seen from either. -/
theorem forall_side
    (side : Side)
    {party : Side → Party}
    {queues : Side → List Departure}
    (concord : Concord side (party side) (party side.peer) (queues side) (queues side.peer)) :
    ∀ other, Concord other (party other) (party other.peer) (queues other)
      (queues other.peer) := by
  refine (Side.forall_iff side).mpr ⟨concord, ?_⟩
  rw [Side.peer_peer]
  exact concord.symm

end Steps

end Concord

def Party.released
    (party : Party)
    (id : ObjectId) :
    Party where
  session := (party.session.release id).session
  history := party.history ++ Operation.events party.session (.release id)

section Releasing

variable {party : Party}

theorem Party.Sound.released
    (sound : party.Sound)
    (id : ObjectId) :
    (party.released id).Sound :=
  (perform_effect sound.wellFormed (.release id)).follows sound

/-- A release changes only the table. -/
theorem Party.released_session
    (party : Party)
    (id : ObjectId) :
    (party.released id).session =
      { party.session with table := (party.released id).session.table } := by
  unfold Party.released release
  cases party.session.table.release id <;> rfl

/-- A released id is vacant if it was destroyed; all else stays. -/
theorem Party.released_standing
    (sound : party.Sound)
    (id : ObjectId) :
    (party.released id).standing = fun other =>
      if other = id ∧ party.standing id = .destroyed then .vacant else party.standing other := by
  funext other
  unfold Party.released Party.standing release
  cases released : party.session.table.release id with
  | error fault =>
      have notDestroyed : party.session.table.standing id ≠ .destroyed := by
        intro destroyed
        obtain ⟨next, accepted⟩ :=
          Table.release_ok_of_destroyed (Table.standing_eq_destroyed_iff.mp destroyed)
        rw [released] at accepted
        cases accepted
      simp [notDestroyed, refuse]
  | ok table =>
      obtain ⟨destroyed, turns⟩ := Table.turns_release sound.wellFormed released
      simp only [Table.standing_eq_destroyed_iff.mpr destroyed, and_true]
      simp only [Table.standing, turns.status_eq]
      split <;> rfl

theorem Party.released_extent
    (sound : party.Sound)
    (id : ObjectId)
    (side : Side) :
    (party.released id).extent side = party.extent side := by
  unfold Party.released Party.extent release
  cases released : party.session.table.release id with
  | error fault => rfl
  | ok table => exact (Table.turns_release sound.wellFormed released).2.extent_eq side

/-- Both parties release an id while no message is in flight. -/
theorem Concord.releases
    {side : Side}
    {own peer : Party}
    (concord : Concord side own peer [] [])
    (id : ObjectId) :
    Concord side (own.released id) (peer.released id) [] [] := by
  apply Concord.of_idle
  · rw [Party.released_session]
    exact concord.own_side
  · rw [Party.released_session]
    exact concord.peer_side
  · exact concord.own_sound.released id
  · exact concord.peer_sound.released id
  · rw [Party.released_session own, Party.released_session peer]
    exact concord.sameKnown
  · rw [Party.released_standing concord.own_sound, Party.released_standing concord.peer_sound,
      concord.standing_eq]
  · rw [Party.released_extent concord.own_sound, Party.released_extent concord.peer_sound]
    exact concord.flow.extent_le
  · rw [Party.released_extent concord.own_sound, Party.released_extent concord.peer_sound]
    exact concord.backFlow.extent_le

end Releasing

end Wayland.Session
