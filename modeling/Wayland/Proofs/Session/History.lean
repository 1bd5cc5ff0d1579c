import Wayland.Proofs.Session.Chronicle
import Wayland.Proofs.Session.Receiving
import Wayland.Proofs.Session.Standing

/-!
Contract: whole runs of one session.

Owns:
- the operations of a session and the events each causes, read off its result;
- tables that follow a history, and how every operation carries both on;
- what every run keeps: the representation invariant, and that the table tells the latest events.

Does not own: the exchange with a peer.
-/

namespace Wayland.Session

open Wayland.Text
open Wayland.Wire

inductive Operation where
  | register (interface : Interface)
  | bind (id : ObjectId) (interface : Interface) (version : UInt32)
  | send (transport : Transport) (target : Option Object) (opcode : UInt16) (values : List Passed)
  | decode (inbound : Inbound)
  | release (id : ObjectId)
  | reset

/-- The session after an operation, whether it succeeded or not. -/
def Operation.perform
    (session : Session) :
    Operation → Session
  | .register interface => session.register interface
  | .bind id interface version => (session.bind id interface version).session
  | .send transport target opcode values => (session.send transport target opcode values).1.session
  | .decode inbound => (session.decode inbound).session
  | .release id => (session.release id).session
  | .reset => session.reset.session

/-- The destructor that a message was, as an event. -/
def ended
    (means : Means)
    (target : Object)
    (signature : Signature) :
    List Event :=
  if signature.destructor then [.destroyed means target] else []

/-- The destructor that a sent message was, as an event. -/
def endedBySending
    (session : Session)
    (target : Option Object)
    (opcode : UInt16) :
    List Event :=
  match target with
  | none => []
  | some target =>
      match target.interface.message? session.side.sends opcode with
      | none => []
      | some signature => ended .sending target signature

def Operation.created
    (session : Session) :
    Operation → List Object
  | .bind id interface version =>
      match (session.bind id interface version).result with
      | .error _ => []
      | .ok object => [object]
  | .send transport target opcode values =>
      match (session.send transport target opcode values).1.result with
      | .error _ => []
      | .ok objects => objects
  | .decode inbound =>
      match (session.decode inbound).result with
      | .error _ => []
      | .ok incoming => incoming.created
  | _ => []

/-- The ids that an operation ended the life or the use of. -/
def Operation.endings
    (session : Session) :
    Operation → List Event
  | .send transport target opcode values =>
      match (session.send transport target opcode values).1.result with
      | .error _ => []
      | .ok _ => session.endedBySending target opcode
  | .decode inbound =>
      match (session.decode inbound).result with
      | .error _ => []
      | .ok incoming => ended .receiving incoming.target incoming.signature
  | .release id =>
      match (session.release id).result with
      | .error _ => []
      | .ok () => [.released id]
  | .reset => [.reset]
  | _ => []

/-- What an operation caused, in order. -/
def Operation.events
    (session : Session)
    (operation : Operation) :
    List Event :=
  (operation.created session).map .created ++ operation.endings session

/-- What an operation ends is the life of an object or the use of an id, unless it is a reset. -/
theorem mem_endings
    {session : Session}
    {operation : Operation}
    {event : Event}
    (member : event ∈ operation.endings session) :
    (operation = .reset ∧ event = .reset) ∨ (∃ means object, event = .destroyed means object) ∨
      ∃ id, event = .released id := by
  have ofEnded {means : Means} {target : Object} {signature : Signature}
      (isEnded : event ∈ ended means target signature) :
      ∃ means object, event = .destroyed means object := by
    unfold ended at isEnded
    split at isEnded
    · exact ⟨means, target, List.mem_singleton.mp isEnded⟩
    · cases isEnded
  cases operation with
  | register interface => cases member
  | bind id interface version => cases member
  | send transport target opcode values =>
      simp only [Operation.endings] at member
      split at member
      · cases member
      · unfold endedBySending at member
        split at member
        · cases member
        · split at member
          · cases member
          · exact Or.inr (Or.inl (ofEnded member))
  | decode inbound =>
      simp only [Operation.endings] at member
      split at member
      · cases member
      · exact Or.inr (Or.inl (ofEnded member))
  | release id =>
      simp only [Operation.endings] at member
      split at member
      · cases member
      · exact Or.inr (Or.inr ⟨id, List.mem_singleton.mp member⟩)
  | reset => exact Or.inl ⟨rfl, List.mem_singleton.mp member⟩

def performAll
    (session : Session)
    (operations : List Operation) :
    Session :=
  operations.foldl Operation.perform session

/-- What a run of operations caused, in order. -/
def historyOf
    (session : Session) :
    List Operation → List Event
  | [] => []
  | operation :: operations =>
      operation.events session ++ historyOf (operation.perform session) operations

/-- A table that keeps its invariant and tells the lives of all ids after a history. -/
structure Table.Follows
    (session : Nat)
    (history : List Event)
    (table : Table) : Prop where
  wellFormed : table.WellFormed session
  chronicle : Chronicle history
  status_eq : ∀ id, table.status id = (livesAfter history id).status

namespace Table

section Following

variable {session : Nat} {history : List Event} {table next : Table} {object : Object}
variable {id : ObjectId}

/-- The life of an id with a live object. -/
theorem Follows.life_of_live
    (follows : Follows session history table)
    (live : table.status id = .live object) :
    livesAfter history id = .live object := by
  rw [follows.status_eq] at live
  cases life : livesAfter history id with
  | vacant => simp [life, Life.status] at live
  | live found =>
      rw [life] at live
      cases live
      rfl
  | destroyed means found => simp [life, Life.status] at live

/-- The life of a vacant id. -/
theorem Follows.life_of_vacant
    (follows : Follows session history table)
    (vacant : table.status id = .vacant) :
    livesAfter history id = .vacant := by
  rw [follows.status_eq] at vacant
  cases life : livesAfter history id with
  | vacant => rfl
  | live found => simp [life, Life.status] at vacant
  | destroyed means found => simp [life, Life.status] at vacant

/-- The life of a destroyed id. -/
theorem Follows.life_of_destroyed
    (follows : Follows session history table)
    (gone : table.status id = .destroyed) :
    ∃ means object, livesAfter history id = .destroyed means object := by
  rw [follows.status_eq] at gone
  cases life : livesAfter history id with
  | vacant => simp [life, Life.status] at gone
  | live found => simp [life, Life.status] at gone
  | destroyed means found => exact ⟨means, found, rfl⟩

/-- An empty table follows the empty history. -/
theorem follows_nil
    (session : Nat) :
    Follows session [] {} where
  wellFormed := wellFormed_empty 1 session
  chronicle := chronicle_nil
  status_eq := status_empty 1

/-- A table with the same statuses follows the same history. -/
theorem Follows.same
    (follows : Follows session history table)
    (wellFormed : next.WellFormed session)
    (status_eq : ∀ id, next.status id = table.status id) :
    Follows session history next :=
  ⟨wellFormed, follows.chronicle, fun id => (status_eq id).trans (follows.status_eq id)⟩

/-- A table that gains an object follows the history with its creation. -/
theorem Follows.gains
    (follows : Follows session history table)
    {side : Side}
    (gains : Gains session side table object next) :
    Follows session (history ++ [Event.created object]) next where
  wellFormed := gains.wellFormed
  chronicle :=
    chronicle_concat_iff.mpr ⟨follows.chronicle, follows.life_of_vacant gains.vacant⟩
  status_eq := by
    intro id
    rw [livesAfter_concat, gains.status_eq, Event.apply, follows.status_eq]
    split <;> rfl

/-- A table that grows follows the history with all creations. -/
theorem Follows.grows
    (follows : Follows session history table)
    {side : Side}
    {objects : List Object}
    (growth : Growth session side table objects next) :
    Follows session (history ++ objects.map .created) next := by
  induction growth with
  | start => simpa using follows
  | step _ gains inductionHypothesis =>
      simpa using inductionHypothesis.gains gains.toGains

/-- A table whose live object is destroyed follows the history with the destructor. -/
theorem Follows.destroys
    (follows : Follows session history table)
    (live : table.status object.id = .live object)
    (means : Means) :
    Follows session (history ++ [Event.destroyed means object]) (table.destroy object.id) where
  wellFormed := (turns_destroy follows.wellFormed live).wellFormed
  chronicle := chronicle_concat_iff.mpr ⟨follows.chronicle, follows.life_of_live live⟩
  status_eq := by
    intro id
    rw [livesAfter_concat, (turns_destroy follows.wellFormed live).status_eq, Event.apply,
      follows.status_eq]
    split <;> rfl

/-- A table with an id released follows the history with the release. -/
theorem Follows.releases
    (follows : Follows session history table)
    (released : table.release id = .ok next) :
    Follows session (history ++ [Event.released id]) next := by
  obtain ⟨gone, turns⟩ := turns_release follows.wellFormed released
  refine ⟨turns.wellFormed, chronicle_concat_iff.mpr ⟨follows.chronicle, ?_⟩, ?_⟩
  · exact follows.life_of_destroyed gone
  · intro other
    rw [livesAfter_concat, turns.status_eq, Event.apply, follows.status_eq]
    split <;> rfl

/-- A reset table follows the history with the reset. -/
theorem Follows.resets
    (follows : Follows session history table) :
    Follows session (history ++ [Event.reset]) table.reset where
  wellFormed := wellFormed_empty (table.epochs + 1) session
  chronicle := chronicle_concat_iff.mpr ⟨follows.chronicle, trivial⟩
  status_eq := by
    intro id
    rw [livesAfter_concat]
    exact status_empty (table.epochs + 1) id

end Following

end Table

def Follows
    (history : List Event)
    (session : Session) : Prop :=
  session.table.Follows session.number history

section Steps

variable {session next : Session} {history : List Event}

/-- A message that makes objects and may be a destructor on its live target carries the history
on. -/
theorem Follows.message
    (follows : Follows history session)
    {side : Side}
    {objects : List Object}
    {table : Table}
    {made : Nat}
    (growth : Table.Growth session.number side session.table objects table)
    {target : Object}
    (live : session.table.status target.id = .live target)
    (signature : Signature)
    (means : Means) :
    Follows (history ++ (objects.map .created ++ ended means target signature))
      ({ session with table, made }.destroyTarget target signature).1 := by
  have grown := Table.Follows.grows follows growth
  rw [← List.append_assoc]
  unfold destroyTarget ended
  split
  · exact grown.destroys (growth.status_of_live live) means
  · rw [List.append_nil]
    exact grown

/-- The live object a handle stands for. -/
theorem status_of_isAlive
    {object : Object}
    (alive : session.isAlive object = true) :
    session.table.status object.id = .live object := by
  simp only [isAlive, Bool.and_eq_true, beq_iff_eq] at alive
  exact Table.lookup_eq_some_iff.mp alive.2

/-- The sides in whose ranges an operation may make objects. -/
def Operation.MayCreateIn
    (session : Session) :
    Operation → Side → Prop
  | .send _ _ _ _, side => side = session.side
  | .decode _, side => side = session.side.peer
  | _, _ => True

/-- Everything an operation can do to a session, with the objects it makes in the ranges allowed to
it, and the events that follow them. -/
inductive Effect
    (session : Session)
    (allowed : Side → Prop) :
    List Object → List Event → Session → Prop where
  | quiet {next : Session} :
      next.number = session.number → next.side = session.side → next.WellFormed →
        (∀ id, next.table.status id = session.table.status id) →
          Effect session allowed [] [] next
  | wellKnown {side : Side} {object : Object} {next : Session} :
      allowed side → next.number = session.number → next.side = session.side →
        Table.Gains session.number side session.table object next.table →
          Effect session allowed [object] [] next
  | message
      {side : Side} {objects : List Object} {table : Table} {made : Nat} {target : Object}
      {signature : Signature} {means : Means} :
      allowed side → Table.Growth session.number side session.table objects table →
        session.table.status target.id = .live target →
          Effect session allowed objects (ended means target signature)
            ({ session with table, made }.destroyTarget target signature).1
  | released {id : ObjectId} {table : Table} :
      session.table.release id = .ok table →
        Effect session allowed [] [.released id] { session with table }
  | reset : Effect session allowed [] [.reset] session.reset.session

/-- A session that is untouched. -/
theorem Untouched.effect
    {side : Side}
    (untouched : Untouched side session next)
    (allowed : Side → Prop) :
    Effect session allowed [] [] next := by
  have number : next.number = session.number := by rw [untouched.session_eq]
  have sameSide : next.side = session.side := by rw [untouched.session_eq]
  exact .quiet number sameSide untouched.wellFormed untouched.status_eq

/-- Every operation has its effect. -/
theorem perform_effect
    (wellFormed : session.WellFormed)
    (operation : Operation) :
    Effect session (operation.MayCreateIn session) (operation.created session)
      (operation.endings session) (operation.perform session) := by
  cases operation with
  | register interface => exact .quiet rfl rfl wellFormed fun _ => rfl
  | bind id interface version =>
      simp only [Operation.created, Operation.endings, Operation.perform]
      rcases bind_cases wellFormed id interface version with failed | made
      · obtain ⟨failure, result, next, -⟩ := failed
        rw [result, next]
        refine .quiet (withKnown_number ..) (withKnown_side ..) ?_ (by simp)
        simpa [WellFormed] using wellFormed
      · obtain ⟨object, side, table, result, next, gains, -⟩ := made
        rw [result, next]
        exact .wellKnown trivial (withKnown_number ..) (withKnown_side ..) gains
  | send transport target opcode values =>
      simp only [Operation.created, Operation.endings, Operation.perform]
      rcases send_cases wellFormed transport target opcode values with failed | sent
      · obtain ⟨failure, result, untouched, -⟩ := failed
        rw [result]
        exact untouched.effect _
      · obtain ⟨departure, rfl, rfl, rfl, result, leaves, -⟩ := sent
        obtain ⟨table, made, growth, next⟩ := leaves.grows
        rw [result, next]
        simp only [endedBySending, leaves.message]
        exact .message rfl growth (status_of_isAlive leaves.alive)
  | decode inbound =>
      simp only [Operation.created, Operation.endings, Operation.perform]
      rcases decode_cases wellFormed inbound with failed | received
      · obtain ⟨error, -, result, untouched⟩ := failed
        rw [result]
        exact untouched.effect _
      · obtain ⟨incoming, result, arrives⟩ := received
        obtain ⟨table, made, growth, next⟩ := arrives.grows
        rw [result, next]
        exact .message rfl growth arrives.live
  | release id =>
      simp only [Operation.created, Operation.endings, Operation.perform, release]
      cases released : session.table.release id with
      | error fault => exact .quiet rfl rfl wellFormed fun _ => rfl
      | ok table => exact .released released
  | reset => exact .reset

section Effects

variable {allowed : Side → Prop} {objects : List Object} {endings : List Event}

/-- An effect carries the history on by what it caused. -/
theorem Effect.follows
    (effect : Effect session allowed objects endings next)
    (follows : Follows history session) :
    Follows (history ++ (objects.map .created ++ endings)) next := by
  unfold Follows at follows ⊢
  cases effect with
  | quiet number sameSide wellFormed status_eq =>
      unfold WellFormed at wellFormed
      rw [number] at wellFormed ⊢
      simpa using follows.same wellFormed status_eq
  | wellKnown _ number _ gains =>
      rw [number]
      simpa using follows.gains gains
  | message _ growth live => exact Follows.message follows growth live _ _
  | released released => exact follows.releases released
  | reset => exact follows.resets

/-- No effect changes whose session it is. -/
theorem Effect.identity
    (effect : Effect session allowed objects endings next) :
    next.number = session.number ∧ next.side = session.side := by
  cases effect with
  | quiet number sameSide _ _ => exact ⟨number, sameSide⟩
  | wellKnown _ number sameSide _ => exact ⟨number, sameSide⟩
  | message _ _ _ =>
      rw [destroyTarget_eq]
      exact ⟨rfl, rfl⟩
  | released _ => exact ⟨rfl, rfl⟩
  | reset => exact ⟨rfl, rfl⟩

/-- Objects are made at distinct ids that were vacant, in the ranges allowed. -/
theorem Effect.vacant
    (effect : Effect session allowed objects endings next) :
    (objects.map Object.id).Nodup ∧
      ∀ object ∈ objects, session.table.status object.id = .vacant ∧
        ∃ side, sideOfId? object.id = some side ∧ allowed side := by
  cases effect with
  | quiet _ _ _ _ => simp
  | wellKnown may _ _ gains =>
      simp only [List.map_cons, List.map_nil, List.mem_singleton, forall_eq]
      exact ⟨by simp, gains.vacant, _, gains.inside, may⟩
  | message may growth _ =>
      exact ⟨growth.nodup, fun object member => ⟨growth.vacant object member, _,
        growth.inside object member, may⟩⟩
  | released _ => simp
  | reset => simp

end Effects

/-- Every run of operations carries the history on by what it caused. -/
theorem Follows.performAll
    (follows : Follows history session)
    (operations : List Operation) :
    Follows (history ++ historyOf session operations) (session.performAll operations) := by
  induction operations generalizing session history with
  | nil => simpa [historyOf, Session.performAll] using follows
  | cons operation operations inductionHypothesis =>
      have one := (perform_effect follows.wellFormed operation).follows follows
      have rest := inductionHypothesis one
      rwa [List.append_assoc] at rest

/-- No run of operations changes whose session it is. -/
theorem performAll_identity
    (follows : Follows history session)
    (operations : List Operation) :
    (session.performAll operations).number = session.number ∧
      (session.performAll operations).side = session.side := by
  induction operations generalizing session history with
  | nil => exact ⟨rfl, rfl⟩
  | cons operation operations inductionHypothesis =>
      have effect := perform_effect follows.wellFormed operation
      obtain ⟨number, side⟩ := inductionHypothesis (effect.follows follows)
      exact ⟨number.trans effect.identity.1, side.trans effect.identity.2⟩

end Steps

def fresh
    (number : Nat)
    (side : Side) :
    Session :=
  { number, side }

theorem follows_fresh
    (number : Nat)
    (side : Side) :
    Follows [] (fresh number side) :=
  Table.follows_nil number

/-- Every run from a fresh session follows its history. -/
theorem follows_run
    (number : Nat)
    (side : Side)
    (operations : List Operation) :
    Follows (historyOf (fresh number side) operations)
      ((fresh number side).performAll operations) :=
  (follows_fresh number side).performAll operations

/-- Whatever operations were performed, the table keeps its representation invariant. -/
theorem run_keeps_table_wellFormed
    (number : Nat)
    (side : Side)
    (operations : List Operation) :
    ((fresh number side).performAll operations).table.WellFormed number := by
  have follows := follows_run number side operations
  have identity := performAll_identity (follows_fresh number side) operations
  unfold Follows at follows
  rw [identity.1] at follows
  exact follows.wellFormed

section Telling

variable {history : List Event} {session : Session}

/-- The table tells the latest object of an id that no destructor followed. -/
theorem Follows.lookup_iff
    (follows : Follows history session)
    (id : ObjectId)
    (object : Object) :
    session.table.lookup id = some object ↔
      ∃ after, LatestAt history id object after ∧ ∀ means, .destroyed means object ∉ after := by
  rw [Table.lookup_eq_some_iff]
  constructor
  · intro live
    obtain ⟨after, latest, noDestructor, -⟩ := latestAt_of_live (follows.life_of_live live)
    exact ⟨after, latest, noDestructor⟩
  · rintro ⟨after, latest, noDestructor⟩
    rw [follows.status_eq, live_of_latestAt follows.chronicle latest noDestructor]
    rfl

/-- The table tells the ids whose latest object was destroyed and that were not released. -/
theorem Follows.isDestroyed_iff
    (follows : Follows history session)
    (id : ObjectId) :
    session.table.isDestroyed id = true ↔
      ∃ object after, LatestAt history id object after ∧
        (∃ means, .destroyed means object ∈ after) ∧ .released id ∉ after := by
  rw [Table.isDestroyed_iff]
  constructor
  · intro gone
    obtain ⟨means, object, life⟩ := follows.life_of_destroyed gone
    obtain ⟨after, latest, destructor, noRelease⟩ :=
      latestAt_of_destroyed follows.chronicle life
    exact ⟨object, after, latest, ⟨means, destructor⟩, noRelease⟩
  · rintro ⟨object, after, latest, ⟨means, destructor⟩, noRelease⟩
    rw [follows.status_eq, destroyed_of_latestAt follows.chronicle latest destructor noRelease]
    rfl

end Telling

/-- The table of every run refines its history: a lookup tells the latest object of an id since the
last reset until a destructor passed on it, an id is destroyed from then on until it is released, and
objects are only made at ids that are neither, never at 0, by sending in the range of the session's
own side and by receiving in the range of its peer. -/
theorem run_table_refines_history
    (number : Nat)
    (side : Side)
    (operations : List Operation) :
    (∀ id object,
      ((fresh number side).performAll operations).table.lookup id = some object ↔
        ∃ after, LatestAt (historyOf (fresh number side) operations) id object after ∧
          ∀ means, .destroyed means object ∉ after) ∧
    (∀ id,
      ((fresh number side).performAll operations).table.isDestroyed id = true ↔
        ∃ object after, LatestAt (historyOf (fresh number side) operations) id object after ∧
          (∃ means, .destroyed means object ∈ after) ∧ .released id ∉ after) ∧
    (∀ operation : Operation,
      ((operation.created ((fresh number side).performAll operations)).map Object.id).Nodup ∧
      ∀ object ∈ operation.created ((fresh number side).performAll operations),
        ((fresh number side).performAll operations).table.lookup object.id = none ∧
        ((fresh number side).performAll operations).table.isDestroyed object.id = false ∧
        object.id ≠ 0 ∧
        (∀ transport target opcode values, operation = .send transport target opcode values →
          (IdRange.ofSide side).contains object.id = true) ∧
        (∀ inbound, operation = .decode inbound →
          (IdRange.ofSide side.peer).contains object.id = true)) := by
  have follows := follows_run number side operations
  have sameSide := (performAll_identity (follows_fresh number side) operations).2
  refine ⟨follows.lookup_iff, follows.isDestroyed_iff, ?_⟩
  intro operation
  obtain ⟨nodup, vacant⟩ := (perform_effect follows.wellFormed operation).vacant
  refine ⟨nodup, ?_⟩
  intro object member
  obtain ⟨isVacant, taken, inside, may⟩ := vacant object member
  have contained := sideOfId?_eq_some_iff.mp inside
  refine ⟨?_, ?_, ne_zero_of_sideOfId? inside, ?_, ?_⟩
  · rw [Table.lookup_eq_none_iff]
    simp [isVacant]
  · rw [← Bool.not_eq_true, Table.isDestroyed_iff]
    simp [isVacant]
  · rintro transport target opcode values rfl
    rw [show taken = side from Eq.trans may sameSide] at contained
    exact contained
  · rintro inbound rfl
    rw [show taken = side.peer from Eq.trans may (congrArg Side.peer sameSide)] at contained
    exact contained

end Wayland.Session
