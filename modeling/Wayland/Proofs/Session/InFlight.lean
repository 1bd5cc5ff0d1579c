import Wayland.Proofs.Session.Standing
import Wayland.Proofs.Wire.RoundTrip

/-!
Contract: messages that were sent and not yet received.

Owns:
- the marks that messages in flight will leave, and the ids they announce;
- messages that fit the standings of their receiver, one after the other;
- that messages still fit after their receiver sent a message of its own;
- that a message leaves its marks apart from those of the messages in flight towards it.

Does not own: how a fitting message is received.
-/

namespace Wayland.Session

open Wayland.Text
open Wayland.Wire

def Departure.marks
    (departure : Departure) :
    List Mark :=
  messageMarks departure.created departure.target.id departure.signature

def Departure.ids
    (departure : Departure) :
    List ObjectId :=
  departure.created.map Object.id

/-- A message as it is in flight: everything about it that no later step can change. -/
structure Departure.Formed
    (side : Side)
    (known? : Bytes → Option (String × Interface))
    (departure : Departure) : Prop where
  message :
    departure.target.interface.message? side.sends departure.opcode = some departure.signature
  available : ¬departure.signature.since > departure.target.version
  sameLength : departure.passed.length = departure.signature.slots.length
  completes : ∃ session : Session,
    (∀ wanted, session.known? wanted = known? wanted) ∧
      Completes session departure.target (departure.signature.slots.zip departure.passed)
        departure.values departure.created
  encoded : Wire.encode departure.signature departure.values = .ok departure.payload
  framed :
    Frame.encode departure.target.id departure.opcode departure.payload.body =
      .ok departure.bytes

/-- A message of a side fits the standings of its receiver: its target and the objects it refers to
are live or among those that are gone, and the objects it announces can be made. -/
structure Departure.Fits
    (side : Side)
    (gone : ObjectId → Prop)
    (standing : Standing)
    (extent : Nat)
    (departure : Departure) : Prop where
  target :
    standing departure.target.id = .live departure.target.outline ∨ gone departure.target.id
  references : ∀ slot id,
    (slot, .object id) ∈ departure.signature.slots.zip departure.values → id ≠ 0 →
      (∃ outline, standing id = .live outline ∧ Suits slot outline.interface) ∨ gone id
  inside : ∀ object ∈ departure.created, sideOfId? object.id = some side
  vacant : ∀ object ∈ departure.created, standing object.id = .vacant
  nodup : departure.ids.Nodup
  inSequence : Table.InSequence side extent departure.ids

/-- Messages of a side that fit, each after those before it. -/
def Acceptable
    (side : Side)
    (gone : ObjectId → Prop)
    (standing : Standing)
    (extent : Nat) :
    List Departure → Prop
  | [] => True
  | departure :: queue =>
      departure.Fits side gone standing extent ∧
        Acceptable side gone (standing.after departure.marks)
          (Table.extentAfter side extent departure.ids) queue

/-- The marks that messages leave, in order. -/
def marksOf
    (queue : List Departure) :
    List Mark :=
  queue.flatMap Departure.marks

/-- The ids that messages announce, in order. -/
def idsOf
    (queue : List Departure) :
    List ObjectId :=
  queue.flatMap Departure.ids

section Queues

variable {side : Side} {gone : ObjectId → Prop} {standing : Standing} {extent : Nat}
variable {queue : List Departure}

/-- More messages are acceptable behind others if they are after these. -/
theorem acceptable_append
    {more : List Departure} :
    Acceptable side gone standing extent (queue ++ more) ↔
      Acceptable side gone standing extent queue ∧
        Acceptable side gone (standing.after (marksOf queue))
          (Table.extentAfter side extent (idsOf queue)) more := by
  induction queue generalizing standing extent with
  | nil => simp [Acceptable, marksOf, idsOf, Table.extentAfter]
  | cons departure queue inductionHypothesis =>
      simp only [List.cons_append, Acceptable, inductionHypothesis, marksOf, idsOf,
        List.flatMap_cons, Standing.after_append, Table.extentAfter_append, and_assoc]

/-- The ids that messages announce belong to their side and are vacant. -/
theorem Acceptable.created_vacant
    (acceptable : Acceptable side gone standing extent queue) :
    ∀ departure ∈ queue, ∀ object ∈ departure.created,
      sideOfId? object.id = some side ∧ standing object.id = .vacant := by
  induction queue generalizing standing extent with
  | nil => simp
  | cons first queue inductionHypothesis =>
      obtain ⟨fits, rest⟩ := acceptable
      intro departure member object created
      rcases List.mem_cons.mp member with rfl | later
      · exact ⟨fits.inside object created, fits.vacant object created⟩
      · obtain ⟨inside, vacant⟩ := inductionHypothesis rest departure later object created
        refine ⟨inside, Decidable.byContradiction fun taken => ?_⟩
        exact Standing.after_ne_vacant taken vacant

/-- The target of a message is not vacant, or announced by an earlier one. -/
theorem Acceptable.target_taken
    (acceptable : Acceptable side gone standing extent queue)
    (goneTaken : ∀ id, gone id → standing id ≠ .vacant) :
    ∀ departure ∈ queue, standing departure.target.id ≠ .vacant ∨
      sideOfId? departure.target.id = some side := by
  induction queue generalizing standing extent with
  | nil => simp
  | cons first queue inductionHypothesis =>
      obtain ⟨fits, rest⟩ := acceptable
      intro departure member
      rcases List.mem_cons.mp member with rfl | later
      · refine Or.inl ?_
        rcases fits.target with live | isGone
        · simp [live]
        · exact goneTaken _ isGone
      · have laterTaken := inductionHypothesis rest
          (fun id isGone => Standing.after_ne_vacant (goneTaken id isGone)) departure later
        rcases laterTaken with taken | inside
        · rcases Standing.after_eq_or_marked standing first.marks departure.target.id with
            same | ⟨mark, marked, atTarget⟩
          · rw [same] at taken
            exact Or.inl taken
          · rcases mem_messageMarks_iff.mp marked with ⟨object, created, rfl⟩ | ⟨_, rfl⟩
            · refine Or.inr ?_
              rw [← atTarget]
              exact fits.inside object created
            · refine Or.inl ?_
              rw [← atTarget]
              rcases fits.target with live | isGone
              · simp [Mark.id, live]
              · exact goneTaken _ isGone
        · exact Or.inr inside

/-- A receiver that sent a message of its own: more ids may be gone, and ids of its own side may be
taken. -/
structure Moves
    (side : Side)
    (gone gone' : ObjectId → Prop)
    (standing standing' : Standing) : Prop where
  stillGone : ∀ id, gone id → gone' id
  moved : ∀ id, standing' id = standing id ∨ (standing id ≠ .vacant ∧ gone' id) ∨
    (standing id = .vacant ∧ sideOfId? id ≠ some side)

variable {gone' : ObjectId → Prop} {standing' : Standing}

theorem Moves.after
    (moves : Moves side gone gone' standing standing')
    (marks : List Mark) :
    Moves side gone gone' (standing.after marks) (standing'.after marks) := by
  induction marks generalizing standing standing' with
  | nil => exact moves
  | cons mark marks inductionHypothesis =>
      apply inductionHypothesis
      refine ⟨moves.stillGone, fun id => ?_⟩
      unfold Mark.apply
      split
      · exact Or.inl rfl
      · exact moves.moved id

/-- What is live for a message stays so, or is gone. -/
theorem Moves.live_or_gone
    (moves : Moves side gone gone' standing standing')
    {id : ObjectId}
    {outline : Outline}
    (live : standing id = .live outline) :
    standing' id = .live outline ∨ gone' id := by
  rcases moves.moved id with same | ⟨-, isGone⟩ | ⟨vacant, -⟩
  · exact Or.inl (same.trans live)
  · exact Or.inr isGone
  · rw [live] at vacant
    cases vacant

/-- A vacant id of the sender's side stays vacant. -/
theorem Moves.vacant
    (moves : Moves side gone gone' standing standing')
    {id : ObjectId}
    (inside : sideOfId? id = some side)
    (vacant : standing id = .vacant) :
    standing' id = .vacant := by
  rcases moves.moved id with same | ⟨taken, -⟩ | ⟨-, outside⟩
  · exact same.trans vacant
  · exact absurd vacant taken
  · exact absurd inside outside

theorem Departure.Fits.moved
    {departure : Departure}
    (fits : departure.Fits side gone standing extent)
    (moves : Moves side gone gone' standing standing') :
    departure.Fits side gone' standing' extent where
  target := by
    rcases fits.target with live | isGone
    · exact moves.live_or_gone live
    · exact Or.inr (moves.stillGone _ isGone)
  references := by
    intro slot id member present
    rcases fits.references slot id member present with ⟨outline, live, suits⟩ | isGone
    · rcases moves.live_or_gone live with stillLive | isGone
      · exact Or.inl ⟨outline, stillLive, suits⟩
      · exact Or.inr isGone
    · exact Or.inr (moves.stillGone _ isGone)
  inside := fits.inside
  vacant := fun object created =>
    moves.vacant (fits.inside object created) (fits.vacant object created)
  nodup := fits.nodup
  inSequence := fits.inSequence

/-- Messages stay acceptable when their receiver sends one of its own. -/
theorem Acceptable.moved
    (acceptable : Acceptable side gone standing extent queue)
    (moves : Moves side gone gone' standing standing') :
    Acceptable side gone' standing' extent queue := by
  induction queue generalizing standing standing' extent with
  | nil => trivial
  | cons departure queue inductionHypothesis =>
      exact ⟨acceptable.1.moved moves, inductionHypothesis acceptable.2 (moves.after _)⟩

/-- A live object stays live through messages in flight, unless one of them is a destructor on it. -/
theorem Acceptable.live_after
    (acceptable : Acceptable side gone standing extent queue)
    {id : ObjectId}
    {outline : Outline}
    (live : standing id = .live outline) :
    standing.after (marksOf queue) id = .live outline ∨
      ∃ departure ∈ queue, departure.signature.destructor = true ∧ departure.target.id = id := by
  rcases Standing.after_eq_or_marked standing (marksOf queue) id with same | ⟨mark, marked, atId⟩
  · exact Or.inl (same.trans live)
  · obtain ⟨departure, member, marked⟩ := List.mem_flatMap.mp marked
    rcases mem_messageMarks_iff.mp marked with ⟨object, created, rfl⟩ | ⟨destructor, rfl⟩
    · have vacant := (acceptable.created_vacant departure member object created).2
      rw [show object.id = id from atId, live] at vacant
      cases vacant
    · exact Or.inr ⟨departure, member, destructor, atId⟩

/-- A vacant id of the receiver's own side stays vacant through messages in flight. -/
theorem Acceptable.vacant_after
    (acceptable : Acceptable side gone standing extent queue)
    (goneTaken : ∀ id, gone id → standing id ≠ .vacant)
    {id : ObjectId}
    (outside : sideOfId? id ≠ some side)
    (vacant : standing id = .vacant) :
    standing.after (marksOf queue) id = .vacant := by
  rw [Standing.after_of_unmarked, vacant]
  intro mark marked atId
  obtain ⟨departure, member, marked⟩ := List.mem_flatMap.mp marked
  rcases mem_messageMarks_iff.mp marked with ⟨object, created, rfl⟩ | ⟨_, rfl⟩
  · rw [← atId] at outside
    exact outside (acceptable.created_vacant departure member object created).1
  · have taken := acceptable.target_taken goneTaken departure member
    rw [show departure.target.id = id from atId] at taken
    exact taken.elim (fun taken => taken vacant) outside

/-- The marks of a message of the receiver are apart from those of the messages in flight towards
it. -/
theorem Acceptable.apart
    (acceptable : Acceptable side gone standing extent queue)
    (goneTaken : ∀ id, gone id → standing id ≠ .vacant)
    {departure : Departure}
    (outside : ∀ object ∈ departure.created, sideOfId? object.id ≠ some side)
    (vacant : ∀ object ∈ departure.created, standing object.id = .vacant)
    (taken : standing departure.target.id ≠ .vacant) :
    ∀ mark ∈ departure.marks, ∀ later ∈ marksOf queue, mark.Apart later := by
  intro mark marked later laterMarked
  obtain ⟨other, member, laterMarked⟩ := List.mem_flatMap.mp laterMarked
  rcases mem_messageMarks_iff.mp marked with ⟨object, created, rfl⟩ | ⟨_, rfl⟩
  · refine Or.inl fun same => outside object created ?_
    rcases mem_messageMarks_iff.mp laterMarked with ⟨announced, otherCreated, rfl⟩ | ⟨_, rfl⟩
    · rw [show object.id = announced.id from same]
      exact (acceptable.created_vacant other member announced otherCreated).1
    · rw [show object.id = other.target.id from same]
      refine (acceptable.target_taken goneTaken other member).resolve_left fun otherTaken => ?_
      rw [← show object.id = other.target.id from same] at otherTaken
      exact otherTaken (vacant object created)
  · rcases mem_messageMarks_iff.mp laterMarked with ⟨announced, otherCreated, rfl⟩ | ⟨_, rfl⟩
    · refine Or.inl fun same => taken ?_
      rw [show departure.target.id = announced.id from same]
      exact (acceptable.created_vacant other member announced otherCreated).2
    · by_cases same : departure.target.id = other.target.id
      · exact Or.inr (by rw [same])
      · exact Or.inl same

end Queues

end Wayland.Session
