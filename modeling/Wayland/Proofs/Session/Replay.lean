import Wayland.Proofs.Session.World
import Wayland.Proofs.Session.Lockstep
import Wayland.Proofs.Session.Wear

/-!
Contract: runs that are repeated in another session.

Owns:
- sessions with the same slots, the same occupants and the same free ids, as a received message which
  is refused leaves them;
- instructions, which name the handles they use by the order these became known in;
- what can be told of a run from outside: which operations succeeded, the ids of the objects they
  made, and what they wrote;
- that sessions in lockstep cannot be told apart so;
- that a message which is not sent leaves the session intact, and every later run as it would have
  been without it.

Does not own: what a handler does with a received message.
-/

namespace Wayland.Session

open Wayland.Text
open Wayland.Wire

/-! ## Refused messages -/

/-- A session with the slots, the occupants and the free ids of both ranges as they were.  How often
free cells were taken may differ, and so may the order of the free cells. -/
structure Intact
    (session next : Session) : Prop where
  occupants_eq : ∀ side,
    (next.table.arena side).cells.map Cell.occupant =
      (session.table.arena side).cells.map Cell.occupant
  free_perm : ∀ side, (next.table.arena side).free.Perm (session.table.arena side).free
  live_eq : next.table.live = session.table.live
  epoch_eq : next.table.epoch = session.table.epoch
  interfaces_eq : next.interfaces = session.interfaces

/-- The occupants of tables that resemble each other. -/
theorem Table.Resembles.occupants_eq
    {table other : Table}
    (resembles : table.Resembles other)
    (side : Side) :
    (other.arena side).cells.map Cell.occupant = (table.arena side).cells.map Cell.occupant := by
  apply List.ext_getElem?
  intro index
  rw [List.getElem?_map, List.getElem?_map]
  have carried := resembles.cells side index
  generalize (table.arena side).cells[index]? = cell?,
    (other.arena side).cells[index]? = otherCell? at carried
  cases carried with
  | none => rfl
  | some same => simp [same.occupant_eq]

/-- A session that was restored is intact. -/
theorem Restored.intact
    {session next : Session}
    (restored : Restored session next) :
    Intact session next where
  occupants_eq := restored.resembles.occupants_eq
  free_perm := fun side => (restored.free_perm side).symm
  live_eq := restored.resembles.live_eq
  epoch_eq := restored.resembles.epoch_eq
  interfaces_eq := by rw [restored.session_eq]

/-- A received message that is refused is the fault of the peer and leaves the session intact, however
many of the objects it announces were made before one was refused. -/
theorem refused_message_leaves_session_intact
    {number : Nat}
    {side : Side}
    {operations : List Operation}
    (neverWears : (fresh number side).NeverWears operations)
    {inbound : Inbound}
    {failure : Failure}
    (failed :
      (((fresh number side).performAll operations).decode inbound).result = .error failure) :
    (∃ error, failure = .refused error ∧ error.blame = .peer) ∧
      Intact ((fresh number side).performAll operations)
        (((fresh number side).performAll operations).decode inbound).session := by
  have wellFormed := (follows_run number side operations).wellFormed
  have counted := neverWears.counted_of_fresh
  rcases decode_outcome wellFormed (counted _).endsTaken inbound with
    ⟨error, blamed, refused, restored⟩ | ⟨incoming, _, _, succeeded, -, -⟩
  · rw [refused] at failed
    cases failed
    exact ⟨⟨error, rfl, blamed⟩, restored.intact⟩
  · rw [succeeded] at failed
    cases failed

/-- A request that announces three eggs. -/
def lay : Signature :=
  { name := "lay"
    slots :=
      [{ name := "left", kind := .newId, interface := "egg" },
        { name := "middle", kind := .newId, interface := "egg" },
        { name := "right", kind := .newId, interface := "egg" }] }

def nest : Interface :=
  { name := "nest", version := 1, requests := [lay] }

def egg : Interface :=
  { name := "egg", version := 1 }

/-- A nest and an egg are bound far enough apart that two ids between them are free. -/
def nestAndEgg : List Operation :=
  [.register egg, .bind 1 nest 1, .bind 4 egg 1]

/-- The eggs are announced at a free id, at the next id and at one that skips others. -/
def layThree : Inbound :=
  { sender := 1
    opcode := 0
    payload := { body := Word.encode 2 ++ Word.encode 5 ++ Word.encode 9 } }

def thirdEggSkips : Error :=
  { blame := .peer
    object := 1
    interface := "nest"
    message := "lay"
    reason := .argument (.refused .outOfSequence 9) "right" }

/-- The third egg is refused, and the first two are taken back. -/
theorem third_egg_is_refused :
    (fresh 0 .server).NeverWears nestAndEgg ∧
      (((fresh 0 .server).performAll nestAndEgg).decode layThree).result =
          .error (.refused thirdEggSkips) ∧
        (∃ error, Failure.refused thirdEggSkips = .refused error ∧ error.blame = .peer) ∧
          Intact ((fresh 0 .server).performAll nestAndEgg)
            (((fresh 0 .server).performAll nestAndEgg).decode layThree).session := by
  have neverWears : (fresh 0 .server).NeverWears nestAndEgg := by decide
  have failed : (((fresh 0 .server).performAll nestAndEgg).decode layThree).result =
      .error (.refused thirdEggSkips) := by
    decide
  exact ⟨neverWears, failed, refused_message_leaves_session_intact neverWears failed⟩

/-! ## Runs -/

/-! ### Instructions -/

/-- A value for a message; a handle is given by its position among those known. -/
structure Given where
  value : Argument
  handle : Option Nat := none
deriving DecidableEq, Repr

/-- An operation with handles given by their positions among those known. -/
inductive Instruction where
  | register (interface : Interface)
  | bind (id : ObjectId) (interface : Interface) (version : UInt32)
  | send (transport : Transport) (target : Option Nat) (opcode : UInt16) (values : List Given)
  | decode (inbound : Inbound)
  | release (id : ObjectId)
  | reset

/-- The value that is passed when some handles are known. -/
def Given.passed
    (known : List Object)
    (given : Given) :
    Passed :=
  { value := given.value, handle := given.handle.bind fun position => known[position]? }

/-- The operation that an instruction stands for when some handles are known. -/
def Instruction.operation
    (known : List Object) :
    Instruction → Operation
  | .register interface => .register interface
  | .bind id interface version => .bind id interface version
  | .send transport target opcode values =>
      .send transport (target.bind fun position => known[position]?) opcode
        (values.map (Given.passed known))
  | .decode inbound => .decode inbound
  | .release id => .release id
  | .reset => .reset

/-- The operations of a run.  The handles that each returns become known to those after it. -/
def play
    (session : Session)
    (known : List Object) :
    List Instruction → List Operation
  | [] => []
  | instruction :: instructions =>
      let operation := instruction.operation known
      operation ::
        play (operation.perform session) (known ++ operation.returned session) instructions

/-! ### Traces -/

/-- What can be told of an operation from outside. -/
structure Trace where
  succeeded : Bool
  /-- The ids of the objects it made. -/
  created : List ObjectId
  /-- The transport after a message was sent, or was not. -/
  transport : Option Transport
deriving DecidableEq, Repr

def Operation.succeeds
    (session : Session) :
    Operation → Bool
  | .register _ => true
  | .bind id interface version => (session.bind id interface version).result.isOk
  | .send transport target opcode values =>
      (session.send transport target opcode values).1.result.isOk
  | .decode inbound => (session.decode inbound).result.isOk
  | .release id => (session.release id).result.isOk
  | .reset => true

def Operation.transportAfter
    (session : Session) :
    Operation → Option Transport
  | .send transport target opcode values =>
      some (session.send transport target opcode values).2
  | _ => none

def Operation.trace
    (session : Session)
    (operation : Operation) :
    Trace :=
  { succeeded := operation.succeeds session
    created := (operation.created session).map Object.id
    transport := operation.transportAfter session }

def traces
    (session : Session) :
    List Operation → List Trace
  | [] => []
  | operation :: operations =>
      operation.trace session :: traces (operation.perform session) operations

/-! ### Lockstep -/

section Playing

variable {stands : Object → Object → Prop} {left right : Session}

/-- What two sessions in lockstep do at one instruction. -/
structure StepAlike
    (stands : Object → Object → Prop)
    (left right : Session)
    (operation mirror : Operation) : Prop where
  next : ∃ wider, stands ≤ wider ∧
    List.Forall₂ wider (operation.returned left) (mirror.returned right) ∧
      Lockstep wider (operation.perform left) (mirror.perform right)
  trace_eq : mirror.trace right = operation.trace left

/-- Handles at the same positions stand for each other. -/
theorem known_rel
    {known mirrorKnown : List Object}
    (related : List.Forall₂ stands known mirrorKnown)
    (position : Option Nat) :
    Option.Rel stands (position.bind fun position => known[position]?)
      (position.bind fun position => mirrorKnown[position]?) := by
  cases position with
  | none => exact .none
  | some position =>
      simp only [Option.bind_some]
      induction related generalizing position with
      | nil => exact .none
      | cons first _ inductionHypothesis =>
          cases position with
          | zero => exact .some first
          | succ position => exact inductionHypothesis position

theorem passed_matches
    {known mirrorKnown : List Object}
    (related : List.Forall₂ stands known mirrorKnown)
    (values : List Given) :
    List.Forall₂ (Passed.Matches stands) (values.map (Given.passed known))
      (values.map (Given.passed mirrorKnown)) := by
  induction values with
  | nil => exact .nil
  | cons given values inductionHypothesis =>
      exact .cons ⟨rfl, known_rel related given.handle⟩ inductionHypothesis

/-- An operation that returns nothing and goes the same way in both. -/
theorem StepAlike.of_quiet
    {operation mirror : Operation}
    (next : Lockstep stands (operation.perform left) (mirror.perform right))
    (returned : operation.returned left = [])
    (mirrorReturned : mirror.returned right = [])
    (trace_eq : mirror.trace right = operation.trace left) :
    StepAlike stands left right operation mirror := by
  refine ⟨⟨stands, le_refl _, ?_, next⟩, trace_eq⟩
  rw [returned, mirrorReturned]
  exact .nil

/-- An interface is registered in both. -/
theorem Lockstep.register
    (lockstep : Lockstep stands left right)
    (interface : Interface) :
    Lockstep stands (left.register interface) (right.register interface) where
  number_eq := lockstep.number_eq
  side_eq := lockstep.side_eq
  interfaces_eq := by simp only [Session.register, lockstep.interfaces_eq]
  table := lockstep.table
  outline := lockstep.outline
  unique := lockstep.unique
  counted := lockstep.counted

/-- A well-known object is made in both, or in neither. -/
theorem Lockstep.bind
    (lockstep : Lockstep stands left right)
    (id : ObjectId)
    (interface : Interface)
    (version : UInt32) :
    Together
        (fun object mirror => ∃ wider, stands ≤ wider ∧ wider object mirror ∧
          Lockstep wider (left.bind id interface version).session
            (right.bind id interface version).session)
        (left.bind id interface version).result (right.bind id interface version).result ∧
      ((∃ failure, (left.bind id interface version).result = .error failure) →
        Lockstep stands (left.bind id interface version).session
          (right.bind id interface version).session) := by
  have sameKnown : right.interface? interface.name = left.interface? interface.name := by
    unfold interface?
    rw [lockstep.interfaces_eq]
  have sameSupported : right.supported interface = left.supported interface := by
    unfold supported
    rw [sameKnown]
  have known : Lockstep stands (left.withKnown interface) (right.withKnown interface) := by
    unfold withKnown
    rw [sameKnown]
    split
    · exact lockstep
    · exact lockstep.register interface
  rw [bind_eq, bind_eq, sameSupported]
  split
  · exact ⟨.refused, fun _ => known⟩
  · generalize min version (left.supported interface).version = negotiated
    generalize left.supported interface = registered
    have made := known.table.insert id true
      ((left.withKnown interface).blueprint registered negotiated)
      ((right.withKnown interface).blueprint registered negotiated)
    generalize inserted : (left.withKnown interface).table.insert id true
        ((left.withKnown interface).blueprint registered negotiated) = result,
      mirrorInserted : (right.withKnown interface).table.insert id true
        ((right.withKnown interface).blueprint registered negotiated) = mirrorResult at made
    cases made with
    | refused fault => exact ⟨.refused, fun _ => known⟩
    | made idEq matching =>
        refine ⟨.done (known.make (Table.blueprint_of_insert inserted)
          (Table.blueprint_of_insert mirrorInserted) idEq matching), ?_⟩
        rintro ⟨failure, impossible⟩
        cases impossible

theorem Lockstep.step_bind
    (lockstep : Lockstep stands left right)
    (id : ObjectId)
    (interface : Interface)
    (version : UInt32) :
    StepAlike stands left right (.bind id interface version) (.bind id interface version) := by
  obtain ⟨together, refused⟩ := lockstep.bind id interface version
  rcases together.cases with
    ⟨failure, mirrorFailure, failed, mirrorFailed⟩ | ⟨object, mirror, made, mirrorMade, related⟩
  · refine .of_quiet (refused ⟨failure, failed⟩) ?_ ?_ ?_
    · simp only [Operation.returned, Operation.created, failed]
    · simp only [Operation.returned, Operation.created, mirrorFailed]
    · simp only [Operation.trace, Operation.succeeds, Operation.created, Operation.transportAfter,
        failed, mirrorFailed]
      rfl
  · obtain ⟨wider, le, objects, next⟩ := related
    refine ⟨⟨wider, le, ?_, next⟩, ?_⟩
    · simp only [Operation.returned, Operation.created, made, mirrorMade]
      exact .cons objects .nil
    · simp only [Operation.trace, Operation.succeeds, Operation.created, Operation.transportAfter,
        made, mirrorMade, List.map_cons, List.map_nil, (next.outline _ _ objects).2.1]
      rfl

/-- A message is sent by both, or by neither; in the latter case nothing is left of it. -/
theorem Lockstep.step_send
    (lockstep : Lockstep stands left right)
    (wellFormed : left.WellFormed)
    (mirrorWellFormed : right.WellFormed)
    (counted : left.table.Counted)
    (mirrorCounted : right.table.Counted)
    {target mirrorTarget : Option Object}
    (targets : Option.Rel stands target mirrorTarget)
    {values mirrorValues : List Passed}
    (matching : List.Forall₂ (Passed.Matches stands) values mirrorValues)
    (transport : Transport)
    (opcode : UInt16) :
    StepAlike stands left right (.send transport target opcode values)
      (.send transport mirrorTarget opcode mirrorValues) := by
  have alike := lockstep.send targets matching transport opcode
  rcases alike.together.cases with
    ⟨failure, mirrorFailure, failed, mirrorFailed⟩ | ⟨objects, mirrors, made, mirrorMade, related⟩
  · refine .of_quiet ?_ ?_ ?_ ?_
    · have unsent := unsent_of_error wellFormed (counted _).endsTaken failed
      have mirrorUnsent := unsent_of_error mirrorWellFormed (mirrorCounted _).endsTaken mirrorFailed
      have sameFree : ∀ side,
          ((right.send transport mirrorTarget opcode mirrorValues).1.session.table.arena side).free =
            ((left.send transport target opcode values).1.session.table.arena side).free :=
        fun side => by rw [mirrorUnsent.free_eq, unsent.free_eq, (lockstep.table side).free_eq]
      exact lockstep.with_tables unsent.restored.session_eq mirrorUnsent.restored.session_eq
        (lockstep.table.resembles unsent.restored.resembles mirrorUnsent.restored.resembles sameFree)
        (perform_continues wellFormed (.send transport target opcode values)).made_le
        (perform_continues mirrorWellFormed
          (.send transport mirrorTarget opcode mirrorValues)).made_le
    · simp only [Operation.returned, Operation.created, failed]
    · simp only [Operation.returned, Operation.created, mirrorFailed]
    · simp only [Operation.trace, Operation.succeeds, Operation.created, Operation.transportAfter,
        failed, mirrorFailed, alike.transport_eq]
      rfl
  · obtain ⟨wider, le, created, next⟩ := related
    refine ⟨⟨wider, le, ?_, next⟩, ?_⟩
    · simp only [Operation.returned, Operation.created, made, mirrorMade]
      exact created
    · simp only [Operation.trace, Operation.succeeds, Operation.created, Operation.transportAfter,
        made, mirrorMade, alike.transport_eq, next.map_id_eq created]
      rfl

/-- The objects that stand at the arguments announcing them. -/
theorem Incoming.Matches.created
    {incoming mirror : Incoming}
    (matching : incoming.Matches stands mirror) :
    List.Forall₂ stands incoming.created mirror.created := by
  obtain ⟨-, argumentsEq, objects⟩ := matching
  unfold Incoming.created
  rw [argumentsEq]
  generalize incoming.arguments = arguments
  generalize incoming.objects = standing, mirror.objects = mirrorStanding at objects
  induction objects generalizing arguments with
  | nil => simp
  | cons first _ inductionHypothesis =>
      cases arguments with
      | nil => simp
      | cons argument arguments =>
          have rest := inductionHypothesis arguments
          simp only [List.zip_cons_cons, List.filterMap_cons]
          by_cases announces : argument.kind = .newId
          · simp only [if_pos announces]
            cases first with
            | none => exact rest
            | some related => exact .cons related rest
          · simp only [if_neg announces]
            exact rest

/-- A received message is decoded by both, or by neither. -/
theorem Lockstep.step_decode
    (lockstep : Lockstep stands left right)
    (wellFormed : left.WellFormed)
    (mirrorWellFormed : right.WellFormed)
    (counted : left.table.Counted)
    (mirrorCounted : right.table.Counted)
    (inbound : Inbound) :
    StepAlike stands left right (.decode inbound) (.decode inbound) := by
  have alike := lockstep.decode wellFormed mirrorWellFormed (counted _).endsTaken
    (mirrorCounted _).endsTaken inbound
  rcases alike.together.cases with
    ⟨failure, mirrorFailure, failed, mirrorFailed⟩ | ⟨incoming, mirror, read, mirrorRead, related⟩
  · refine .of_quiet (alike.refused ⟨failure, failed⟩) ?_ ?_ ?_
    · simp only [Operation.returned, failed]
    · simp only [Operation.returned, mirrorFailed]
    · simp only [Operation.trace, Operation.succeeds, Operation.created, Operation.transportAfter,
        failed, mirrorFailed]
      rfl
  · obtain ⟨wider, le, matching, next⟩ := related
    refine ⟨⟨wider, le, ?_, next⟩, ?_⟩
    · simp only [Operation.returned, read, mirrorRead]
      exact .cons matching.target (List.rel_filterMap (fun _ _ related => related) matching.objects)
    · simp only [Operation.trace, Operation.succeeds, Operation.created, Operation.transportAfter,
        read, mirrorRead, next.map_id_eq matching.created]
      rfl

/-- An id is released in both, or in neither. -/
theorem Lockstep.step_release
    (lockstep : Lockstep stands left right)
    (id : ObjectId) :
    StepAlike stands left right (.release id) (.release id) := by
  rcases lockstep.table.release id with
    ⟨fault, refused, mirrorRefused⟩ | ⟨next, mirrorNext, released, mirrorReleased, matching⟩
  · refine .of_quiet ?_ rfl rfl ?_
    · simp only [Operation.perform, release, refused, mirrorRefused]
      exact lockstep
    · simp only [Operation.trace, Operation.succeeds, Operation.created, Operation.transportAfter,
        release, refused, mirrorRefused]
      rfl
  · refine .of_quiet ?_ rfl rfl ?_
    · simp only [Operation.perform, release, released, mirrorReleased]
      exact lockstep.with_tables rfl rfl matching (Nat.le_refl _) (Nat.le_refl _)
    · simp only [Operation.trace, Operation.succeeds, Operation.created, Operation.transportAfter,
        release, released, mirrorReleased]

/-- Both drop all objects. -/
theorem Lockstep.step_reset
    (lockstep : Lockstep stands left right) :
    StepAlike stands left right .reset .reset := by
  refine .of_quiet ?_ rfl rfl rfl
  refine lockstep.with_tables rfl rfl (fun side => ?_) (Nat.le_refl _) (Nat.le_refl _)
  cases side <;> exact ⟨fun _ => .none, rfl⟩

/-- Sessions in lockstep do the same at every instruction. -/
theorem Lockstep.step
    (lockstep : Lockstep stands left right)
    (wellFormed : left.WellFormed)
    (mirrorWellFormed : right.WellFormed)
    (counted : left.table.Counted)
    (mirrorCounted : right.table.Counted)
    {known mirrorKnown : List Object}
    (related : List.Forall₂ stands known mirrorKnown)
    (instruction : Instruction) :
    StepAlike stands left right (instruction.operation known)
      (instruction.operation mirrorKnown) := by
  cases instruction with
  | register interface => exact .of_quiet (lockstep.register interface) rfl rfl rfl
  | bind id interface version => exact lockstep.step_bind id interface version
  | send transport target opcode values =>
      exact lockstep.step_send wellFormed mirrorWellFormed counted mirrorCounted
        (known_rel related target) (passed_matches related values) transport opcode
  | decode inbound =>
      exact lockstep.step_decode wellFormed mirrorWellFormed counted mirrorCounted inbound
  | release id => exact lockstep.step_release id
  | reset => exact lockstep.step_reset

/-- Sessions in lockstep cannot be told apart by a run, while neither wears a cell. -/
theorem Lockstep.traces_eq
    {history mirrorHistory : List Event}
    (lockstep : Lockstep stands left right)
    (follows : Follows history left)
    (mirrorFollows : Follows mirrorHistory right)
    (counted : left.table.Counted)
    (mirrorCounted : right.table.Counted)
    {known mirrorKnown : List Object}
    (related : List.Forall₂ stands known mirrorKnown)
    {instructions : List Instruction}
    (neverWears : left.NeverWears (left.play known instructions))
    (mirrorNeverWears : right.NeverWears (right.play mirrorKnown instructions)) :
    right.traces (right.play mirrorKnown instructions) =
      left.traces (left.play known instructions) := by
  induction instructions generalizing stands left right history mirrorHistory known mirrorKnown with
  | nil => rfl
  | cons instruction instructions inductionHypothesis =>
      obtain ⟨countsOn, rest⟩ := neverWears
      obtain ⟨mirrorCountsOn, mirrorRest⟩ := mirrorNeverWears
      have alike := lockstep.step follows.wellFormed mirrorFollows.wellFormed counted mirrorCounted
        related instruction
      obtain ⟨wider, le, returned, next⟩ := alike.next
      have others := inductionHypothesis next
        ((perform_effect follows.wellFormed _).follows follows)
        ((perform_effect mirrorFollows.wellFormed _).follows mirrorFollows)
        (perform_counted follows.wellFormed counted _ countsOn)
        (perform_counted mirrorFollows.wellFormed mirrorCounted _ mirrorCountsOn)
        (List.rel_append (related.imp fun _ _ related => le _ _ related) returned) rest mirrorRest
      simp only [play, traces, alike.trace_eq, others]

end Playing

/-! ### Messages that are not sent -/

/-- A session that was restored, with its free cells in the order they had, is in lockstep with what
it was, for the handles that were counted before. -/
theorem Restored.lockstep
    {session next : Session}
    (restored : Restored session next)
    (wellFormed : session.WellFormed)
    (dated : session.Dated)
    (free_eq : ∀ side, (next.table.arena side).free = (session.table.arena side).free)
    (madeLe : session.made ≤ next.made) :
    Lockstep
      (fun object mirror =>
        object = mirror ∧ (object.session = session.number → object.serial < session.made))
      session next := by
  have same : Table.Matches
      (fun object mirror =>
        object = mirror ∧ (object.session = session.number → object.serial < session.made))
      session.table session.table := by
    intro side
    refine ⟨fun index => ?_, rfl⟩
    cases stored : (session.table.arena side).cells[index]? with
    | none => exact .none
    | some cell =>
        obtain ⟨occupant, generation⟩ := cell
        refine .some ?_
        unfold Cell.Matches
        cases occupant with
        | free => exact .free
        | live object =>
            -- A live object was counted: it stands at its id.
            have small : index < (IdRange.ofSide side).size :=
              Nat.lt_of_lt_of_le (List.getElem?_eq_some_iff.mp stored).1
                (wellFormed.arena side).length_le
            have live : session.table.status ((IdRange.ofSide side).id index) = .live object := by
              rw [Table.status_of_side (sideOfId?_id small), IdRange.index_id small]
              simp [Arena.status, stored, Cell.status]
            exact .live ⟨rfl, fun _ => dated _ _ live⟩
        | destroyed => exact .destroyed
  refine ⟨?_, ?_, ?_, same.resembles (.refl _) restored.resembles free_eq, ?_, ?_, ?_⟩
  · rw [restored.session_eq]
  · rw [restored.session_eq]
  · rw [restored.session_eq]
  · rintro object _ ⟨rfl, -⟩
    exact ⟨rfl, rfl, rfl, rfl⟩
  · rintro object _ other _ ⟨rfl, -⟩ ⟨rfl, -⟩
    exact Iff.rfl
  · rintro object _ ⟨rfl, counted⟩ own
    exact ⟨counted own, Nat.lt_of_lt_of_le (counted own) madeLe⟩

/-- Nothing that matters is left of a message that was not sent.  The caller is to blame or the
transport refused it; the transport has what it had, and the session its slots, their occupants, and
its free ids in their order.  Whatever is done later with handles that were counted before goes as it
would have gone without the message, if no cell wears, be it with the message or without. -/
structure LeavesNoTrace
    (session : Session)
    (transport : Transport)
    (failure : Failure)
    (next : Session)
    (after : Transport) : Prop where
  ofSending : failure.OfSending transport
  bytes_eq : after.bytes = transport.bytes
  descriptors_eq : after.descriptors = transport.descriptors
  intact : Intact session next
  free_eq : ∀ side, (next.table.arena side).free = (session.table.arena side).free
  traces_eq : ∀ known instructions,
    (∀ object ∈ known, object.session = session.number → object.serial < session.made) →
      session.NeverWears (session.play known instructions) →
        session.table.CountsOn next.table → next.NeverWears (next.play known instructions) →
          next.traces (next.play known instructions) =
            session.traces (session.play known instructions)

/-- A message that is not sent leaves no trace, in every state that a session reaches without wearing a
cell. -/
theorem unsent_message_leaves_no_trace
    {number : Nat}
    {side : Side}
    {operations : List Operation}
    (neverWears : (fresh number side).NeverWears operations)
    {transport : Transport}
    {target : Option Object}
    {opcode : UInt16}
    {values : List Passed}
    {failure : Failure}
    (failed :
      (((fresh number side).performAll operations).send transport target opcode values).1.result =
        .error failure) :
    LeavesNoTrace ((fresh number side).performAll operations) transport failure
      (((fresh number side).performAll operations).send transport target opcode values).1.session
      (((fresh number side).performAll operations).send transport target opcode values).2 := by
  have counted := neverWears.counted_of_fresh
  have follows := follows_run number side operations
  have dated := ((World.keeps_fresh number side).performAll operations).dated
  generalize (fresh number side).performAll operations = session at *
  have unsent := unsent_of_error follows.wellFormed (counted _).endsTaken failed
  refine ⟨unsent.ofSending, unsent.bytes_eq, unsent.descriptors_eq, unsent.restored.intact,
    unsent.free_eq, ?_⟩
  intro known instructions before neverWears countsOn mirrorNeverWears
  have lockstep := unsent.restored.lockstep follows.wellFormed dated unsent.free_eq
    (perform_continues follows.wellFormed (.send transport target opcode values)).made_le
  have mirrorFollows :=
    (perform_effect follows.wellFormed (.send transport target opcode values)).follows follows
  exact lockstep.traces_eq follows mirrorFollows counted
    (perform_counted follows.wellFormed counted (.send transport target opcode values) countsOn)
    (List.forall₂_same.mpr fun object member => ⟨rfl, before object member⟩) neverWears
    mirrorNeverWears

def clientNest : Object :=
  { session := 0, serial := 0, id := 1, interface := nest, version := 1, generation := 1 }

/-- Two eggs are to be laid, but the third value names no egg. -/
def twoEggs : List Passed :=
  [⟨.newId 0 [] 0, none⟩, ⟨.newId 0 [] 0, none⟩, ⟨.object 1, none⟩]

def thirdIsNoEgg : Error :=
  { blame := .caller
    object := 1
    interface := "nest"
    message := "lay"
    reason := .argumentKind "right" .newId .object }

def layAll : List Instruction :=
  [.send {} (some 0) 0 [⟨.newId 0 [] 0, none⟩, ⟨.newId 0 [] 0, none⟩, ⟨.newId 0 [] 0, none⟩]]

/-- Two ids are taken from the list of free ids and put back, so the eggs laid later get the ids they
would have got. -/
theorem two_eggs_leave_no_trace :
    (fresh 0 .client).NeverWears nestAndEgg ∧
      (((fresh 0 .client).performAll nestAndEgg).send {} (some clientNest) 0 twoEggs).1.result =
          .error (.refused thirdIsNoEgg) ∧
        LeavesNoTrace ((fresh 0 .client).performAll nestAndEgg) {} (.refused thirdIsNoEgg)
            (((fresh 0 .client).performAll nestAndEgg).send {} (some clientNest) 0
              twoEggs).1.session
            (((fresh 0 .client).performAll nestAndEgg).send {} (some clientNest) 0 twoEggs).2 ∧
          let session := (fresh 0 .client).performAll nestAndEgg
          let next := (session.send {} (some clientNest) 0 twoEggs).1.session
          (session.traces (session.play [clientNest] layAll)).map (·.created) = [[3, 2, 5]] ∧
            next.traces (next.play [clientNest] layAll) =
              session.traces (session.play [clientNest] layAll) := by
  have neverWears : (fresh 0 .client).NeverWears nestAndEgg := by decide
  have failed :
      (((fresh 0 .client).performAll nestAndEgg).send {} (some clientNest) 0 twoEggs).1.result =
        .error (.refused thirdIsNoEgg) := by
    decide
  have leaves := unsent_message_leaves_no_trace neverWears failed
  refine ⟨neverWears, failed, leaves, by decide, ?_⟩
  exact leaves.traces_eq [clientNest] layAll (by decide) (by decide)
    (by decide) (by decide)

end Wayland.Session
