import Mathlib.Algebra.GroupWithZero.Nat
import Wayland.Proofs.Session.Population
import Wayland.Proofs.Session.World

/-!
Contract: what operations put on record.

Owns:
- what is to be counted of an operation: failed decodings, misuses, messages by the interface of
  their target, and objects made, destroyed and dropped;
- that the records of every operation say exactly that, in an order in which no more objects are
  destroyed than there are;
- the same for runs of operations in a world of sessions.

Does not own: the collectors that records are counted in.
-/

namespace Wayland.Session

open Wayland.Wire

/-! ### What is counted -/

def Object.isOf
    (name : String)
    (object : Object) :
    Bool :=
  object.interface.name == name

namespace Operation

def records
    (session : Session) :
    Operation → List Record
  | .register _ => []
  | .bind id interface version => (session.bind id interface version).records
  | .send transport target opcode values =>
      (session.send transport target opcode values).1.records
  | .decode inbound => (session.decode inbound).records
  | .release id => (session.release id).records
  | .reset => session.reset.records

def failedDecodes
    (session : Session) :
    Operation → Nat
  | .decode inbound =>
      match (session.decode inbound).result with
      | .error _ => 1
      | .ok _ => 0
  | _ => 0

/-- One if an operation of the caller fails, unless it is the transport that refuses a message. -/
def misuses
    (session : Session) :
    Operation → Nat
  | .bind id interface version =>
      match (session.bind id interface version).result with
      | .error _ => 1
      | .ok _ => 0
  | .send transport target opcode values =>
      match (session.send transport target opcode values).1.result with
      | .error (.write _ _ _) => 0
      | .error _ => 1
      | .ok _ => 0
  | .release id =>
      match (session.release id).result with
      | .error _ => 1
      | .ok _ => 0
  | _ => 0

/-- One if a message is sent to an object of an interface. -/
def sentTo
    (name : String)
    (session : Session) :
    Operation → Nat
  | .send transport target opcode values =>
      match (session.send transport target opcode values).1.result with
      | .error _ => 0
      | .ok _ => (target.toList.filter (Object.isOf name)).length
  | _ => 0

/-- One if a message for an object of an interface is decoded. -/
def receivedFor
    (name : String)
    (session : Session) :
    Operation → Nat
  | .decode inbound =>
      match (session.decode inbound).result with
      | .error _ => 0
      | .ok incoming => if incoming.target.isOf name then 1 else 0
  | _ => 0

/-- How many objects of an interface are made. -/
def madeOf
    (name : String)
    (session : Session)
    (operation : Operation) :
    Nat :=
  (operation.created session).countP (Object.isOf name)

/-- How many objects of an interface are destroyed by a destructor. -/
def endedOf
    (name : String)
    (session : Session)
    (operation : Operation) :
    Nat :=
  ((operation.endings session).filterMap Event.ended?).countP (Object.isOf name)

/-- How many live objects of an interface are dropped by a reset. -/
def droppedOf
    (name : String)
    (session : Session) :
    Operation → Nat
  | .reset => session.table.objects.countP (Object.isOf name)
  | _ => 0

end Operation

/-! ### What is put on record -/

namespace Record

/-- A record that is neither of an object that comes or goes, nor of a reset. -/
def IsNeutral : Record → Prop
  | .created _ => False
  | .destroyed _ => False
  | .reset _ => False
  | _ => True

/-- Whether a record is of a message sent to an object of an interface. -/
def isSent
    (name : String) :
    Record → Bool
  | .sent interface _ => interface == name
  | _ => false

/-- Whether a record is of a message received for an object of an interface. -/
def isReceived
    (name : String) :
    Record → Bool
  | .received interface _ => interface == name
  | _ => false

end Record

theorem Record.isSent_sent
    (name : String)
    (target : Object)
    (size : Nat) :
    Record.isSent name (.sent target.interface.name size) = target.isOf name :=
  rfl

theorem Record.isReceived_received
    (name : String)
    (target : Object)
    (size : Nat) :
    Record.isReceived name (.received target.interface.name size) = target.isOf name :=
  rfl

def Object.coming
    (object : Object) :
    Record :=
  .created object.interface.name

def Object.going
    (object : Object) :
    Record :=
  .destroyed object.interface.name

/-- Records of an operation that are not of its objects, and say how it went. -/
structure Operation.Notes
    (session : Session)
    (operation : Operation)
    (notes : List Record) : Prop where
  neutral : ∀ record ∈ notes, record.IsNeutral
  faults : notes.countP (· == .failed .peer) = operation.failedDecodes session
  misuses : notes.countP (· == .failed .caller) = operation.misuses session
  sent : ∀ name, notes.countP (Record.isSent name) = operation.sentTo name session
  received : ∀ name, notes.countP (Record.isReceived name) = operation.receivedFor name session

/-- An operation records the objects that it makes, then how it went, and the object that it
destroys last; or it is a reset. -/
inductive Operation.Books
    (session : Session) :
    Operation → Prop where
  | reset : Books session .reset
  | usual {operation : Operation} {notes : List Record} :
      operation ≠ .reset →
        operation.Notes session notes →
          operation.records session =
              (operation.created session).map Object.coming ++ notes ++
                ((operation.endings session).filterMap Event.ended?).map Object.going →
            Books session operation

section Booking

variable {session : Session}

/-- An operation that makes nothing, ends nothing and fails by no fault of the peer. -/
theorem Operation.Books.of_failed
    {operation : Operation}
    {notes : List Record}
    (notReset : operation ≠ .reset)
    (notes_of : operation.Notes session notes)
    (created : operation.created session = [])
    (endings : operation.endings session = [])
    (records : operation.records session = notes) :
    operation.Books session := by
  refine .usual notReset notes_of ?_
  rw [created, endings, records]
  simp

theorem register_books
    (interface : Interface) :
    (Operation.register interface).Books session :=
  @Operation.Books.of_failed _ _ [] (by simp) ⟨by simp, rfl, rfl, fun _ => rfl, fun _ => rfl⟩ rfl rfl
    rfl

theorem bind_books
    (wellFormed : session.WellFormed)
    (id : ObjectId)
    (interface : Interface)
    (version : UInt32) :
    (Operation.bind id interface version).Books session := by
  have refused {error : Error}
      (blamed : error.blame = .caller)
      (outcome : session.bind id interface version =
        (session.withKnown interface).refuse error) :
      (Operation.bind id interface version).Books session := by
    refine @Operation.Books.of_failed _ _ [.failed .caller] (by simp) ⟨?_, rfl, ?_, ?_, ?_⟩ ?_ rfl ?_
    · simp [Record.IsNeutral]
    · simp [Operation.misuses, outcome, refuse]
    · exact fun _ => rfl
    · exact fun _ => rfl
    · simp [Operation.created, outcome, refuse]
    · simp [Operation.records, outcome, refuse, blamed]
  have outcome := session.bind_eq id interface version
  split at outcome
  · exact refused rfl outcome
  · split at outcome
    · exact refused rfl outcome
    · rename_i object table inserted
      have sameInterface : object.interface = session.supported interface := by
        rcases bind_cases wellFormed id interface version with
          ⟨_, failed, -⟩ | ⟨made, _, _, result, -, -, -, sameInterface, -⟩
        · rw [outcome] at failed
          cases failed
        · rw [outcome] at result
          cases result
          exact sameInterface
      refine @Operation.Books.usual session _ [] (by simp) ⟨by simp, rfl, ?_, ?_, ?_⟩ ?_
      · simp [Operation.misuses, outcome]
      · exact fun _ => rfl
      · exact fun _ => rfl
      · simp [Operation.records, Operation.created, Operation.endings, outcome, Object.coming,
          sameInterface]

/-- A destructor is recorded as the end of its target. -/
theorem destroyTarget_records
    (session : Session)
    (means : Means)
    (target : Object)
    (signature : Signature) :
    (session.destroyTarget target signature).2 =
      ((ended means target signature).filterMap Event.ended?).map Object.going := by
  unfold destroyTarget ended
  split <;> rfl

theorem send_books
    (transport : Transport)
    (target : Option Object)
    (opcode : UInt16)
    (values : List Passed) :
    (Operation.send transport target opcode values).Books session := by
  have refused {next : Session} {error : Error} {after : Transport}
      (blamed : error.blame = .caller)
      (outcome : session.send transport target opcode values = (next.refuse error, after)) :
      (Operation.send transport target opcode values).Books session := by
    refine @Operation.Books.of_failed _ _ [.failed .caller] (by simp) ⟨?_, rfl, ?_, ?_, ?_⟩ ?_ ?_ ?_
    · simp [Record.IsNeutral]
    · simp [Operation.misuses, outcome, refuse]
    · intro name
      simp [Operation.sentTo, outcome, refuse, Record.isSent]
    · exact fun _ => rfl
    · simp [Operation.created, outcome, refuse]
    · simp [Operation.endings, outcome, refuse]
    · simp [Operation.records, outcome, refuse, blamed]
  rcases send_refused_or_admitted session transport target opcode values with
    ⟨error, blamed, outcome⟩ | ⟨object, signature, rfl, admits⟩
  · exact refused blamed outcome
  · have outcome := admits.send_eq transport
    split at outcome
    · exact refused rfl outcome
    · rename_i draft prepared
      unfold write at outcome
      split at outcome
      · exact refused rfl outcome
      · rename_i payload framed
        split at outcome
        · refine @Operation.Books.of_failed _ _ [] (by simp) ⟨by simp, rfl, ?_, ?_, ?_⟩ ?_ ?_ ?_
          · simp [Operation.misuses, outcome]
          · intro name
            simp [Operation.sentTo, outcome]
          · exact fun _ => rfl
          · simp [Operation.created, outcome]
          · simp [Operation.endings, outcome]
          · simp [Operation.records, outcome]
        · refine @Operation.Books.usual session _
            [.sent object.interface.name payload.body.length] (by simp) ⟨?_, rfl, ?_, ?_, ?_⟩ ?_
          · simp [Record.IsNeutral]
          · simp [Operation.misuses, outcome]
          · intro name
            simp only [Operation.sentTo, outcome]
            cases same : object.isOf name <;> simp [Record.isSent_sent, same]
          · exact fun _ => rfl
          · simp only [Operation.records, Operation.created, Operation.endings, outcome,
              endedBySending, admits.message]
            rw [destroyTarget_records _ .sending]
            rfl

theorem decode_books
    (wellFormed : session.WellFormed)
    (inbound : Inbound) :
    (Operation.decode inbound).Books session := by
  have refused {next : Session} {error : Error}
      (blamed : error.blame = .peer)
      (outcome : session.decode inbound = next.refuse error) :
      (Operation.decode inbound).Books session := by
    refine @Operation.Books.of_failed _ _ [.failed .peer] (by simp) ⟨?_, ?_, rfl, ?_, ?_⟩ ?_ ?_ ?_
    · simp [Record.IsNeutral]
    · simp [Operation.failedDecodes, outcome, refuse]
    · exact fun _ => rfl
    · intro name
      simp [Operation.receivedFor, outcome, refuse, Record.isReceived]
    · simp [Operation.created, outcome, refuse]
    · simp [Operation.endings, outcome, refuse]
    · simp [Operation.records, outcome, refuse, blamed]
  have outcome := decode.eq_1 session inbound
  split at outcome
  · exact refused rfl outcome
  · rename_i target lookup
    simp only at outcome
    split at outcome
    · exact refused rfl outcome
    · rename_i signature message
      split at outcome
      · exact refused rfl outcome
      · split at outcome
        · exact refused rfl outcome
        · rename_i decoded read
          split at outcome
          · exact refused rfl outcome
          · rename_i references resolved
            split at outcome
            · exact refused rfl outcome
            · rename_i arrivals accepted
              refine @Operation.Books.usual session _
                [.received target.interface.name (headerSize + inbound.payload.body.length)]
                (by simp) ⟨?_, ?_, rfl, ?_, ?_⟩ ?_
              · simp [Record.IsNeutral]
              · simp [Operation.failedDecodes, outcome]
              · exact fun _ => rfl
              · intro name
                simp only [Operation.receivedFor, outcome]
                cases same : target.isOf name <;> simp [Record.isReceived_received, same]
              · simp only [Operation.records, Operation.created, Operation.endings, outcome]
                rw [destroyTarget_records _ .receiving, (created_of_acceptAll wellFormed
                  (length_decode read) resolved accepted _ rfl rfl).1]
                rfl

theorem release_books
    (id : ObjectId) :
    (Operation.release id).Books session := by
  cases released : session.table.release id with
  | error fault =>
      refine @Operation.Books.of_failed _ _ [.failed .caller] (by simp) ⟨?_, rfl, ?_, ?_, ?_⟩ rfl ?_ ?_
      · simp [Record.IsNeutral]
      · simp [Operation.misuses, release, released, refuse]
      · exact fun _ => rfl
      · exact fun _ => rfl
      · simp [Operation.endings, release, released, refuse]
      · simp [Operation.records, release, released, refuse]
  | ok table =>
      refine @Operation.Books.usual _ _ [] (by simp) ⟨by simp, rfl, ?_, ?_, ?_⟩ ?_
      · simp [Operation.misuses, release, released]
      · exact fun _ => rfl
      · exact fun _ => rfl
      · simp [Operation.records, Operation.created, Operation.endings, release, released,
          Event.ended?]

/-- Every operation keeps its books. -/
theorem perform_books
    (wellFormed : session.WellFormed)
    (operation : Operation) :
    operation.Books session := by
  cases operation with
  | register interface => exact register_books interface
  | bind id interface version => exact bind_books wellFormed id interface version
  | send transport target opcode values => exact send_books transport target opcode values
  | decode inbound => exact decode_books wellFormed inbound
  | release id => exact release_books id
  | reset => exact .reset

/-! ### What records count -/

inductive Counter where
  | created (interface : String)
  | destroyed (interface : String)
  | failed (blame : Blame)
  | sent (interface : String)
  | received (interface : String)

namespace Counter

def counts : Counter → Record → Bool
  | .created interface => (· == .created interface)
  | .destroyed interface => (· == .destroyed interface)
  | .failed blame => (· == .failed blame)
  | .sent interface => Record.isSent interface
  | .received interface => Record.isReceived interface

def measure : Counter → Session → Operation → Nat
  | .created interface => Operation.madeOf interface
  | .destroyed interface => Operation.endedOf interface
  | .failed .peer => Operation.failedDecodes
  | .failed .caller => Operation.misuses
  | .sent interface => Operation.sentTo interface
  | .received interface => Operation.receivedFor interface

theorem counts_coming
    (counter : Counter)
    (object : Object) :
    counter.counts object.coming =
      match counter with
      | .created interface => object.isOf interface
      | _ => false := by
  cases counter <;>
    exact Bool.eq_iff_iff.mpr (by simp [counts, Object.coming, Object.isOf, Record.isSent,
      Record.isReceived])

theorem counts_going
    (counter : Counter)
    (object : Object) :
    counter.counts object.going =
      match counter with
      | .destroyed interface => object.isOf interface
      | _ => false := by
  cases counter <;>
    exact Bool.eq_iff_iff.mpr (by simp [counts, Object.going, Object.isOf, Record.isSent,
      Record.isReceived])

end Counter

variable {operation : Operation}

/-- Records that are not of resets are those of objects that come, of how an operation went, and of
objects that go. -/
theorem Operation.Books.countP_eq
    (books : operation.Books session)
    {wanted : Record → Bool}
    {measure : Session → Operation → Nat}
    (noReset : ∀ live, wanted (.reset live) = false)
    (atReset : measure session .reset = 0)
    (usual : ∀ notes, operation.Notes session notes →
      (operation.created session).countP (wanted ∘ Object.coming) + notes.countP wanted
          + ((operation.endings session).filterMap Event.ended?).countP (wanted ∘ Object.going) =
        measure session operation) :
    (operation.records session).countP wanted = measure session operation := by
  cases books with
  | reset =>
      rw [atReset]
      exact List.countP_eq_zero.mpr fun record member => by
        rw [List.mem_singleton.mp member, noReset]
        exact Bool.false_ne_true
  | @usual _ notes _ isNotes recorded =>
      rw [recorded, List.countP_append, List.countP_append, List.countP_map, List.countP_map]
      exact usual notes isNotes

/-- The records of how an operation went are counted by the counters that are not of objects. -/
theorem Operation.Notes.countP_eq
    {notes : List Record}
    (isNotes : operation.Notes session notes)
    (counter : Counter) :
    notes.countP counter.counts =
      match counter with
      | .created _ | .destroyed _ => 0
      | other => other.measure session operation := by
  cases counter with
  | created interface | destroyed interface =>
      refine List.countP_eq_zero.mpr fun record member isCounted => ?_
      have neutral := isNotes.neutral record member
      rwa [eq_of_beq isCounted] at neutral
  | failed blame =>
      cases blame with
      | peer => exact isNotes.faults
      | caller => exact isNotes.misuses
  | sent interface => exact isNotes.sent interface
  | received interface => exact isNotes.received interface

/-- A counter counts the records of an operation as its measure of the operation tells. -/
theorem Counter.countP_records
    (counter : Counter)
    (books : operation.Books session) :
    (operation.records session).countP counter.counts = counter.measure session operation := by
  refine books.countP_eq ?_ ?_ fun notes isNotes => ?_
  · cases counter <;> exact fun _ => rfl
  · rcases counter with _ | _ | blame | _ | _ <;> try rfl
    cases blame <;> rfl
  · rw [isNotes.countP_eq, Function.comp_def, Function.comp_def]
    simp only [counts_coming, counts_going]
    cases counter <;> simp [measure, Operation.madeOf, Operation.endedOf]

/-- An operation ends one object at most. -/
theorem length_ended_le
    (session : Session)
    (operation : Operation) :
    ((operation.endings session).filterMap Event.ended?).length ≤ 1 := by
  have ofEnded (means : Means) (target : Object) (signature : Signature) :
      ((ended means target signature).filterMap Event.ended?).length ≤ 1 := by
    unfold ended
    split <;> simp [Event.ended?]
  cases operation with
  | register interface => exact Nat.zero_le 1
  | bind id interface version => exact Nat.zero_le 1
  | send transport target opcode values =>
      simp only [Operation.endings]
      split
      · exact Nat.zero_le 1
      · unfold endedBySending
        split
        · exact Nat.zero_le 1
        · split
          · exact Nat.zero_le 1
          · exact ofEnded ..
  | decode inbound =>
      simp only [Operation.endings]
      split
      · exact Nat.zero_le 1
      · exact ofEnded ..
  | release id =>
      simp only [Operation.endings]
      split <;> exact Nat.zero_le 1
  | reset => exact Nat.zero_le 1

/-- What was there and what an operation makes is there afterwards or destroyed. -/
theorem perform_objects
    (wellFormed : session.WellFormed)
    (notReset : operation ≠ .reset) :
    (operation.created session ++ session.table.objects).Perm
      ((operation.endings session).filterMap Event.ended? ++
        (operation.perform session).table.objects) := by
  refine (perform_effect wellFormed operation).objects_perm wellFormed ?_
  intro member
  rcases mem_endings member with ⟨same, -⟩ | ⟨_, _, impossible⟩ | ⟨_, impossible⟩
  · exact notReset same
  · cases impossible
  · cases impossible

/-- What an operation makes of an interface is there afterwards, with what was there before, but for
what it destroys and drops. -/
theorem perform_balance
    (wellFormed : session.WellFormed)
    (operation : Operation)
    (name : String) :
    operation.madeOf name session + session.table.objects.countP (Object.isOf name) =
      operation.endedOf name session + operation.droppedOf name session +
        (operation.perform session).table.objects.countP (Object.isOf name) := by
  by_cases isReset : operation = .reset
  · subst isReset
    simp [Operation.madeOf, Operation.created, Operation.endedOf, Operation.endings, Event.ended?,
      Operation.droppedOf, Operation.perform, reset, Table.reset, Table.objects_empty]
  · have perm := perform_objects wellFormed isReset
    have counted := perm.countP_eq (Object.isOf name)
    have dropsNothing : operation.droppedOf name session = 0 := by
      cases operation with
      | reset => exact absurd rfl isReset
      | _ => rfl
    rw [List.countP_append, List.countP_append] at counted
    rw [dropsNothing, Nat.add_zero]
    exact counted

end Booking

/-! ### Worlds -/

namespace World

def measured
    (measure : Session → Operation → Nat)
    (world : World) :
    Move → Nat
  | .start _ => 0
  | .perform number operation =>
      match world.session? number with
      | none => 0
      | some session => measure session operation

/-- What a measure of operations comes to for a run of moves. -/
def tally
    (measure : Session → Operation → Nat)
    (world : World) :
    List Move → Nat
  | [] => 0
  | move :: moves => world.measured measure move + (world.act move).tally measure moves

def records
    (world : World) :
    Move → List Record
  | .start _ => []
  | .perform number operation =>
      match world.session? number with
      | none => []
      | some session => operation.records session

/-- The records of a run of moves, in order. -/
def recorded
    (world : World) :
    List Move → List Record
  | [] => []
  | move :: moves => world.records move ++ (world.act move).recorded moves

/-- A number of every session, summed up. -/
def total
    (number : Session → Nat)
    (world : World) :
    Nat :=
  (world.sessions.map number).sum

section Tallying

variable {world : World}

/-- A session of a sound world is well-formed. -/
theorem Sound.wellFormed
    (sound : world.Sound)
    {number : Nat}
    {session : Session}
    (found : world.session? number = some session) :
    session.WellFormed :=
  (sound number session found).wellFormed

/-- Records of a kind are as many as a measure of the operations says, in every run, if they are for
one operation. -/
theorem Sound.countP_recorded
    (sound : world.Sound)
    {wanted : Record → Bool}
    {measure : Session → Operation → Nat}
    (one : ∀ session operation, operation.Books session →
      (operation.records session).countP wanted = measure session operation)
    (moves : List Move) :
    (world.recorded moves).countP wanted = world.tally measure moves := by
  induction moves generalizing world with
  | nil => rfl
  | cons move moves inductionHypothesis =>
      rw [recorded, tally, List.countP_append, inductionHypothesis (sound.act move)]
      congr 1
      cases move with
      | start side => rfl
      | perform number operation =>
          unfold records measured
          simp only
          cases found : world.session? number with
          | none => rfl
          | some session => exact one session operation (perform_books (sound.wellFormed found) _)

theorem tally_add
    (first second : Session → Operation → Nat)
    (world : World)
    (moves : List Move) :
    world.tally (fun session operation => first session operation + second session operation)
        moves =
      world.tally first moves + world.tally second moves := by
  induction moves generalizing world with
  | nil => rfl
  | cons move moves inductionHypothesis =>
      have here : world.measured
            (fun session operation => first session operation + second session operation) move =
          world.measured first move + world.measured second move := by
        cases move with
        | start side => rfl
        | perform number operation =>
            unfold measured
            simp only
            split <;> rfl
      simp only [tally, here, inductionHypothesis]
      omega

/-- A sum after one of its parts changed. -/
theorem sum_map_modify
    (count : Session → Nat)
    (change : Session → Session)
    {sessions : List Session}
    {number : Nat}
    {session : Session}
    (found : sessions[number]? = some session) :
    ((sessions.modify number change).map count).sum + count session =
      (sessions.map count).sum + count (change session) := by
  induction sessions generalizing number with
  | nil => simp at found
  | cons first sessions inductionHypothesis =>
      cases number with
      | zero =>
          obtain rfl : first = session := by simpa using found
          simp only [List.modify_zero_cons, List.map_cons, List.sum_cons]
          omega
      | succ number =>
          have rest := inductionHypothesis (by simpa using found)
          simp only [List.modify_succ_cons, List.map_cons, List.sum_cons]
          omega

/-- What a performing session has before and after, with what the others have. -/
theorem total_perform
    (count : Session → Nat)
    {number : Nat}
    {session : Session}
    (found : world.session? number = some session)
    (operation : Operation) :
    (world.act (.perform number operation)).total count + count session =
      world.total count + count (operation.perform session) :=
  sum_map_modify count _ found

/-- A session that is not there performs nothing. -/
theorem act_of_none
    {number : Nat}
    (missing : world.session? number = none)
    (operation : Operation) :
    world.act (.perform number operation) = world := by
  unfold act
  simp only
  rw [List.modify_eq_self (List.getElem?_eq_none_iff.mp missing)]

theorem total_start
    (count : Session → Nat)
    (side : Side) :
    (world.act (.start side)).total count =
      world.total count + count (fresh world.sessions.length side) := by
  simp [act, total]

/-- What is gained by operations is there after every run, but for what is lost, if it is so for one
operation. -/
theorem Sound.balance
    (sound : world.Sound)
    {count : Session → Nat}
    {gain loss : Session → Operation → Nat}
    (nothing : ∀ number side, count (fresh number side) = 0)
    (one : ∀ session operation, session.WellFormed →
      gain session operation + count session =
        loss session operation + count (operation.perform session))
    (moves : List Move) :
    world.tally gain moves + world.total count =
      world.tally loss moves + (world.run moves).total count := by
  induction moves generalizing world with
  | nil => rfl
  | cons move moves inductionHypothesis =>
      have rest := inductionHypothesis (sound.act move)
      have first : world.measured gain move + world.total count =
          world.measured loss move + (world.act move).total count := by
        cases move with
        | start side =>
            rw [total_start, nothing]
            rfl
        | perform number operation =>
            cases found : world.session? number with
            | none =>
                rw [act_of_none found]
                simp only [measured, found]
            | some session =>
                have sum := total_perform count found operation
                have balanced := one session operation (sound.wellFormed found)
                simp only [measured, found]
                omega
      change _ = _ + ((world.act move).run moves).total count
      simp only [tally]
      omega

end Tallying

end World

end Wayland.Session
