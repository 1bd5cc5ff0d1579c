import Wayland.Proofs.Session.Acceptance
import Wayland.Proofs.Session.History

/-!
Contract: the messages from one party to the other.

Owns:
- a party: a session with its history, and the ids it destroyed itself;
- what taking a message does to a party, whether it sent or received it;
- the flow between two parties, and how it goes on when either sends or receives.

Does not own: the transports that carry the messages.
-/

namespace Wayland.Session

open Wayland.Text
open Wayland.Wire

/-- A session with what happened to its ids. -/
structure Party where
  session : Session
  history : List Event

namespace Party

def standing
    (party : Party) :
    Standing :=
  party.session.table.standing

/-- How far a side's range reaches with a party. -/
def extent
    (party : Party)
    (side : Side) :
    Nat :=
  party.session.table.extent side

/-- The current object of an id is one that the party destroyed by sending. -/
def Gone
    (party : Party)
    (id : ObjectId) : Prop :=
  ∃ object, livesAfter party.history id = .destroyed .sending object

def Sound
    (party : Party) : Prop :=
  Follows party.history party.session

/-- A party takes a message: it makes the objects of a side, and destroys the target of a
destructor. -/
structure Takes
    (party next : Party)
    (side : Side)
    (means : Means)
    (objects : List Object)
    (target : Object)
    (signature : Signature) : Prop where
  live : party.session.table.status target.id = .live target
  grows : ∃ table made,
    Table.Growth party.session.number side party.session.table objects table ∧
      next.session = ({ party.session with table, made }.destroyTarget target signature).1
  history_eq :
    next.history = party.history ++ (objects.map .created ++ ended means target signature)

section Taking

variable {party next : Party} {side : Side} {means : Means} {objects : List Object}
variable {target : Object} {signature : Signature} {id : ObjectId}

theorem Gone.destroyed
    (gone : party.Gone id)
    (sound : party.Sound) :
    party.session.table.status id = .destroyed := by
  obtain ⟨object, life⟩ := gone
  rw [sound.status_eq, life]
  rfl

theorem Gone.taken
    (gone : party.Gone id)
    (sound : party.Sound) :
    party.standing id ≠ .vacant := by
  unfold standing
  rw [Table.standing_eq_destroyed_iff.mpr (gone.destroyed sound)]
  simp

theorem Takes.sound
    (takes : party.Takes next side means objects target signature)
    (sound : party.Sound) :
    next.Sound := by
  obtain ⟨table, made, growth, nextEq⟩ := takes.grows
  unfold Sound
  rw [takes.history_eq, nextEq]
  exact Follows.message sound growth takes.live signature means

/-- Taking a message leaves its marks. -/
theorem Takes.standing_eq
    (takes : party.Takes next side means objects target signature)
    (sound : party.Sound) :
    next.standing = party.standing.after (messageMarks objects target.id signature) := by
  obtain ⟨table, made, growth, nextEq⟩ := takes.grows
  unfold standing
  rw [nextEq]
  exact standing_message sound.wellFormed growth takes.live signature

theorem Takes.vacant
    (takes : party.Takes next side means objects target signature) :
    ∀ object ∈ objects, party.standing object.id = .vacant := by
  obtain ⟨table, made, growth, -⟩ := takes.grows
  intro object member
  exact Table.standing_eq_vacant_iff.mpr (growth.vacant object member)

theorem Takes.inside
    (takes : party.Takes next side means objects target signature) :
    ∀ object ∈ objects, sideOfId? object.id = some side := by
  obtain ⟨table, made, growth, -⟩ := takes.grows
  exact growth.inside

/-- Taking a message changes only the table and the count of objects. -/
theorem Takes.session_eq
    (takes : party.Takes next side means objects target signature) :
    next.session =
      { party.session with table := next.session.table, made := next.session.made } := by
  obtain ⟨table, made, -, nextEq⟩ := takes.grows
  rw [nextEq, destroyTarget_eq]

/-- A destructor shortens or extends no range. -/
theorem extent_destroyTarget
    (session : Session)
    (wellFormed : session.WellFormed)
    (live : session.table.status target.id = .live target)
    (signature : Signature)
    (side : Side) :
    (session.destroyTarget target signature).1.table.extent side = session.table.extent side := by
  unfold destroyTarget
  split
  · exact (Table.turns_destroy wellFormed live).extent_eq side
  · rfl

/-- Taking a message reaches as far as the objects made, in sequence. -/
theorem Takes.extent_eq
    (takes : party.Takes next side means objects target signature)
    (sound : party.Sound) :
    Table.InSequence side (party.extent side) (objects.map Object.id) ∧
      next.extent side = Table.extentAfter side (party.extent side) (objects.map Object.id) ∧
        next.extent side.peer = party.extent side.peer := by
  obtain ⟨table, made, growth, nextEq⟩ := takes.grows
  obtain ⟨inSequence, reached⟩ := growth.inSequence
  have sameExtent : ∀ side, next.extent side = table.extent side := by
    intro side
    unfold extent
    rw [nextEq]
    exact extent_destroyTarget { party.session with table, made }
      (growth.wellFormed sound.wellFormed) (growth.status_of_live takes.live) signature side
  rw [sameExtent, sameExtent]
  exact ⟨inSequence, reached, growth.extent_peer⟩

/-- What is gone stays gone when a message is taken. -/
theorem Takes.gone
    (takes : party.Takes next side means objects target signature)
    (sound : party.Sound)
    (gone : party.Gone id) :
    next.Gone id := by
  have destroyed := gone.destroyed sound
  obtain ⟨object, life⟩ := gone
  obtain ⟨table, made, growth, -⟩ := takes.grows
  refine ⟨object, ?_⟩
  rw [takes.history_eq, livesAfter_append_of_not_isAbout, life]
  intro event member
  rcases List.mem_append.mp member with created | isEnding
  · obtain ⟨made, announced, rfl⟩ := List.mem_map.mp created
    exact growth.id_ne (by simp [destroyed]) made announced
  · unfold ended at isEnding
    split at isEnding
    · rw [List.mem_singleton.mp isEnding]
      intro same
      have live := takes.live
      rw [show target.id = id from same, destroyed] at live
      cases live
    · cases isEnding

/-- A destructor that is sent makes its target gone. -/
theorem Takes.gone_target
    (takes : party.Takes next side .sending objects target signature)
    (destructor : signature.destructor = true) :
    next.Gone target.id := by
  refine ⟨target, ?_⟩
  rw [takes.history_eq, ended, if_pos destructor, ← List.append_assoc, livesAfter_concat,
    Event.apply, if_pos rfl]

end Taking

/-- A party takes no message; the range of a side may have become shorter. -/
structure Rests
    (party next : Party)
    (side : Side) : Prop where
  known?_eq : ∀ wanted, next.session.known? wanted = party.session.known? wanted
  side_eq : next.session.side = party.session.side
  sound : next.Sound
  history_eq : next.history = party.history
  standing_eq : next.standing = party.standing
  extent_le : next.extent side ≤ party.extent side
  extent_peer : next.extent side.peer = party.extent side.peer

/-- A session that is untouched rests. -/
theorem rests_of_untouched
    {party : Party}
    {next : Session}
    {side : Side}
    (untouched : Untouched side party.session next)
    (sound : party.Sound) :
    party.Rests ⟨next, party.history⟩ side where
  known?_eq := fun wanted => by
    rw [untouched.session_eq]
    rfl
  side_eq := by rw [untouched.session_eq]
  sound := by simpa [Sound] using (untouched.effect fun _ => True).follows sound
  history_eq := rfl
  standing_eq := funext fun id => by
    simp only [standing, Table.standing, untouched.status_eq]
  extent_le := untouched.extent_le
  extent_peer := untouched.extent_peer

theorem Rests.gone_iff
    {party next : Party}
    {side : Side}
    (rests : party.Rests next side)
    (id : ObjectId) :
    next.Gone id ↔ party.Gone id := by
  unfold Gone
  rw [rests.history_eq]

end Party

/-- The references among the completed values of a message are those passed, and suit their slots if
they are live. -/
theorem Completes.reference_of_mem
    {session : Session}
    {target : Object}
    {pairs : List (Slot × Passed)}
    {values : List Argument}
    {objects : List Object}
    (completes : Completes session target pairs values objects)
    {slot : Slot}
    {id : ObjectId}
    (member : (slot, Argument.object id) ∈ (pairs.map Prod.fst).zip values)
    (present : id ≠ 0) :
    (∃ passed ∈ pairs.map Prod.snd, passed.value = .object id) ∧
      ∀ object, session.table.status id = .live object → Suits slot object.interface := by
  induction completes with
  | done => simp at member
  | newId _ _ _ inductionHypothesis =>
      simp only [List.map_cons, List.zip_cons_cons, List.mem_cons, Prod.mk.injEq, reduceCtorEq,
        and_false, false_or] at member
      obtain ⟨⟨passed, isPassed, valueEq⟩, suits⟩ := inductionHypothesis member
      exact ⟨⟨passed, by simp [isPassed], valueEq⟩, suits⟩
  | reference _ suits _ inductionHypothesis =>
      simp only [List.map_cons, List.zip_cons_cons, List.mem_cons, Prod.mk.injEq,
        Argument.object.injEq] at member
      rcases member with ⟨rfl, rfl⟩ | later
      · exact ⟨⟨_, List.mem_cons_self .., rfl⟩, suits present⟩
      · obtain ⟨⟨passed, isPassed, valueEq⟩, suits⟩ := inductionHypothesis later
        exact ⟨⟨passed, by simp [isPassed], valueEq⟩, suits⟩
  | plain _ _ notObject _ inductionHypothesis =>
      simp only [List.map_cons, List.zip_cons_cons, List.mem_cons, Prod.mk.injEq] at member
      rcases member with ⟨-, isObject⟩ | later
      · rw [← isObject] at notObject
        exact absurd rfl notObject
      · obtain ⟨⟨passed, isPassed, valueEq⟩, suits⟩ := inductionHypothesis later
        exact ⟨⟨passed, by simp [isPassed], valueEq⟩, suits⟩

/-- The messages in flight from a sender to a receiver: they fit what the receiver has, one after the
other; the receiver's ranges then reach as far as the sender's; and a destructor among them was sent
by the sender. -/
structure Flow
    (side : Side)
    (sender receiver : Party)
    (queue : List Departure) : Prop where
  formed : ∀ departure ∈ queue, departure.Formed side receiver.session.known?
  acceptable : Acceptable side receiver.Gone receiver.standing (receiver.extent side) queue
  destructors : ∀ departure ∈ queue, departure.signature.destructor = true →
    sender.Gone departure.target.id
  extent_le : sender.extent side ≤ Table.extentAfter side (receiver.extent side) (idsOf queue)

namespace Flow

section Steps

variable {side : Side} {sender receiver next : Party} {queue : List Departure}
variable {objects : List Object} {target : Object} {signature : Signature}

theorem sender_rests
    (flow : Flow side sender receiver queue)
    (rests : sender.Rests next side) :
    Flow side next receiver queue where
  formed := flow.formed
  acceptable := flow.acceptable
  destructors := fun departure member destructor =>
    (rests.gone_iff _).mpr (flow.destructors departure member destructor)
  extent_le := Nat.le_trans rests.extent_le flow.extent_le

theorem receiver_rests
    (flow : Flow side sender receiver queue)
    (rests : receiver.Rests next side.peer) :
    Flow side sender next queue := by
  have known : next.session.known? = receiver.session.known? := funext rests.known?_eq
  have gone : next.Gone = receiver.Gone := funext fun id => propext (rests.gone_iff id)
  have extent : next.extent side = receiver.extent side := by
    have same := rests.extent_peer
    rwa [Side.peer_peer] at same
  refine ⟨?_, ?_, flow.destructors, ?_⟩
  · rw [known]
    exact flow.formed
  · rw [gone, rests.standing_eq, extent]
    exact flow.acceptable
  · rw [extent]
    exact flow.extent_le

/-- The sender takes a message of the receiver. -/
theorem sender_receives
    (flow : Flow side sender receiver queue)
    (sound : sender.Sound)
    {means : Means}
    (takes : sender.Takes next side.peer means objects target signature) :
    Flow side next receiver queue where
  formed := flow.formed
  acceptable := flow.acceptable
  destructors := fun departure member destructor =>
    takes.gone sound (flow.destructors departure member destructor)
  extent_le := by
    have same := (takes.extent_eq sound).2.2
    rw [Side.peer_peer] at same
    rw [same]
    exact flow.extent_le

/-- The receiver sends a message of its own. -/
theorem receiver_sends
    (flow : Flow side sender receiver queue)
    (sound : receiver.Sound)
    (takes : receiver.Takes next side.peer .sending objects target signature) :
    Flow side sender next queue := by
  have known : next.session.known? = receiver.session.known? := by
    rw [takes.session_eq]
    rfl
  have extent : next.extent side = receiver.extent side := by
    have same := (takes.extent_eq sound).2.2
    rwa [Side.peer_peer] at same
  have moves : Moves side receiver.Gone next.Gone receiver.standing next.standing := by
    refine ⟨fun id => takes.gone sound, fun id => ?_⟩
    rw [takes.standing_eq sound]
    rcases Standing.after_eq_or_marked receiver.standing
        (messageMarks objects target.id signature) id with same | ⟨mark, marked, rfl⟩
    · exact Or.inl same
    · rcases mem_messageMarks_iff.mp marked with ⟨object, created, rfl⟩ | ⟨destructor, rfl⟩
      · have outside := sideOfId?_ne_peer (takes.inside object created)
        rw [Side.peer_peer] at outside
        exact Or.inr (Or.inr ⟨takes.vacant object created, outside⟩)
      · refine Or.inr (Or.inl ⟨?_, takes.gone_target destructor⟩)
        simp [Mark.id, Party.standing, Table.standing_of_live takes.live]
  refine ⟨?_, ?_, flow.destructors, ?_⟩
  · rw [known]
    exact flow.formed
  · rw [extent]
    exact flow.acceptable.moved moves
  · rw [extent]
    exact flow.extent_le

/-- The receiver takes the first message. -/
theorem receiver_receives
    {departure : Departure}
    (flow : Flow side sender receiver (departure :: queue))
    (sound : receiver.Sound)
    {means : Means}
    (takes : receiver.Takes next side means objects target departure.signature)
    (sameTarget : target.id = departure.target.id)
    (sameMarks : objects.map Object.mark = departure.created.map Object.mark) :
    Flow side sender next queue := by
  have known : next.session.known? = receiver.session.known? := by
    rw [takes.session_eq]
    rfl
  have ids : objects.map Object.id = departure.ids := by
    have same := congrArg (List.map Mark.id) sameMarks
    rw [List.map_map, List.map_map] at same
    exact same
  have extent : next.extent side =
      Table.extentAfter side (receiver.extent side) departure.ids := by
    rw [(takes.extent_eq sound).2.1, ids]
  have standing : next.standing = receiver.standing.after departure.marks := by
    rw [takes.standing_eq sound, Departure.marks, messageMarks, messageMarks, sameMarks, sameTarget]
  have moves : Moves side receiver.Gone next.Gone next.standing next.standing :=
    ⟨fun id => takes.gone sound, fun id => Or.inl rfl⟩
  have rest := flow.acceptable.2
  rw [← extent, ← standing] at rest
  refine ⟨?_, rest.moved moves, ?_, ?_⟩
  · rw [known]
    exact fun later member => flow.formed later (by simp [member])
  · exact fun later member => flow.destructors later (by simp [member])
  · rw [extent, ← Table.extentAfter_append]
    exact flow.extent_le

end Steps

section Sending

variable {side : Side} {sender receiver next : Party} {queue back : List Departure}
variable {departure : Departure}

/-- A message that its sender just took fits what its receiver will have by then: what is live with
the sender is live there too, unless the receiver destroyed it itself. -/
theorem fits_sent
    (flow : Flow side sender receiver queue)
    (backFlow : Flow side.peer receiver sender back)
    (sound : sender.Sound)
    (confluent :
      sender.standing.after (marksOf back) = receiver.standing.after (marksOf queue))
    (takes :
      sender.Takes next side .sending departure.created departure.target departure.signature)
    (sameLength : departure.passed.length = departure.signature.slots.length)
    (completes :
      Completes sender.session departure.target
        (departure.signature.slots.zip departure.passed) departure.values departure.created)
    (referencesLive : ∀ passed ∈ departure.passed, ∀ id, passed.value = .object id → id ≠ 0 →
      ∃ object, sender.session.table.lookup id = some object) :
    departure.Fits side receiver.Gone (receiver.standing.after (marksOf queue))
      (Table.extentAfter side (receiver.extent side) (idsOf queue)) := by
  have liveOrGone : ∀ id object, sender.session.table.status id = .live object →
      receiver.standing.after (marksOf queue) id = .live object.outline ∨ receiver.Gone id := by
    intro id object live
    rw [← confluent]
    rcases backFlow.acceptable.live_after (Table.standing_of_live live) with
      stillLive | ⟨other, member, destructor, rfl⟩
    · exact Or.inl stillLive
    · exact Or.inr (backFlow.destructors other member destructor)
  obtain ⟨table, made, growth, -⟩ := takes.grows
  refine ⟨liveOrGone _ _ takes.live, ?_, takes.inside, ?_, growth.nodup, ?_⟩
  · intro slot id member present
    rw [← List.map_fst_zip (Nat.le_of_eq sameLength.symm)] at member
    obtain ⟨⟨passed, isPassed, valueEq⟩, suits⟩ := completes.reference_of_mem member present
    rw [List.map_snd_zip (Nat.le_of_eq sameLength)] at isPassed
    obtain ⟨object, lookup⟩ := referencesLive passed isPassed id valueEq present
    have live := Table.lookup_eq_some_iff.mp lookup
    exact (liveOrGone id object live).imp_left
      fun stillLive => ⟨object.outline, stillLive, suits object live⟩
  · intro object created
    rw [← confluent]
    exact backFlow.acceptable.vacant_after (fun id gone => gone.taken sound)
      (sideOfId?_ne_peer (takes.inside object created)) (takes.vacant object created)
  · exact (takes.extent_eq sound).1.mono flow.extent_le

/-- The sender sends one more message. -/
theorem sender_sends
    (flow : Flow side sender receiver queue)
    (sound : sender.Sound)
    (takes :
      sender.Takes next side .sending departure.created departure.target departure.signature)
    (formed : departure.Formed side receiver.session.known?)
    (fits :
      departure.Fits side receiver.Gone (receiver.standing.after (marksOf queue))
        (Table.extentAfter side (receiver.extent side) (idsOf queue))) :
    Flow side next receiver (queue ++ [departure]) where
  formed := by
    intro sent member
    rcases List.mem_append.mp member with earlier | last
    · exact flow.formed sent earlier
    · rw [List.mem_singleton.mp last]
      exact formed
  acceptable := acceptable_append.mpr ⟨flow.acceptable, fits, trivial⟩
  destructors := by
    intro sent member destructor
    rcases List.mem_append.mp member with earlier | last
    · exact takes.gone sound (flow.destructors sent earlier destructor)
    · rw [List.mem_singleton.mp last] at destructor ⊢
      exact takes.gone_target destructor
  extent_le := by
    rw [(takes.extent_eq sound).2.1, idsOf, List.flatMap_append, List.flatMap_singleton,
      Table.extentAfter_append]
    exact Table.extentAfter_mono flow.extent_le _

/-- The marks of a message that its sender took come to the same with those of the messages in
flight towards it. -/
theorem confluent_sent
    (backFlow : Flow side.peer receiver sender back)
    (sound : sender.Sound)
    (confluent :
      sender.standing.after (marksOf back) = receiver.standing.after (marksOf queue))
    (takes :
      sender.Takes next side .sending departure.created departure.target departure.signature) :
    next.standing.after (marksOf back) =
      receiver.standing.after (marksOf (queue ++ [departure])) := by
  have apart := backFlow.acceptable.apart (fun id gone => gone.taken sound)
    (fun object created => sideOfId?_ne_peer (takes.inside object created)) takes.vacant
    (by simp [Party.standing, Table.standing_of_live takes.live])
  calc next.standing.after (marksOf back)
      = (sender.standing.after departure.marks).after (marksOf back) := by
        rw [takes.standing_eq sound]
        rfl
    _ = (sender.standing.after (marksOf back)).after departure.marks := Standing.after_comm apart
    _ = (receiver.standing.after (marksOf queue)).after departure.marks := by rw [confluent]
    _ = receiver.standing.after (marksOf (queue ++ [departure])) := by
        rw [← Standing.after_append, marksOf, marksOf, List.flatMap_append, List.flatMap_singleton]

end Sending

end Flow

end Wayland.Session
