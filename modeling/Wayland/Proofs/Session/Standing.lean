import Wayland.Proofs.Session.Sending

/-!
Contract: what both sides of a connection can tell of an object, and objects made outside of any
message.

Owns:
- the outline of an object, and the standing of every id in a table;
- the marks that a message leaves on standings, and when their order does not matter;
- the standings of a table after a message;
- the interface and version that a well-known object gets, and which ids it can be made at;
- sessions that know the same interfaces and have the same objects, and that they stay so when the
  same well-known object is made in both.

Does not own: the messages in flight.
-/

namespace Wayland.Session

open Wayland.Wire
open Wayland.Text

/-- What both sides know of an object apart from its id. -/
structure Outline where
  interface : Interface
  version : UInt32
deriving DecidableEq, Repr

def Object.outline
    (object : Object) :
    Outline :=
  ⟨object.interface, object.version⟩

abbrev Standing := ObjectId → Status Outline

def Table.standing
    (table : Table) :
    Standing :=
  fun id => (table.status id).map Object.outline

/-- What a message does to one id. -/
inductive Mark where
  | creates (id : ObjectId) (outline : Outline)
  | destroys (id : ObjectId)
deriving DecidableEq, Repr

namespace Mark

def id : Mark → ObjectId
  | .creates id _ => id
  | .destroys id => id

def status : Mark → Status Outline
  | .creates _ outline => .live outline
  | .destroys _ => .destroyed

def apply
    (standing : Standing)
    (mark : Mark) :
    Standing :=
  fun id => if id = mark.id then mark.status else standing id

theorem status_ne_vacant
    (mark : Mark) :
    mark.status ≠ .vacant := by
  cases mark <;> simp [status]

/-- Marks that bear on different ids, or are the same. -/
def Apart
    (left right : Mark) : Prop :=
  left.id ≠ right.id ∨ left = right

theorem apply_comm
    {left right : Mark}
    (apart : left.Apart right)
    (standing : Standing) :
    apply (apply standing left) right = apply (apply standing right) left := by
  rcases apart with different | rfl
  · funext id
    unfold apply
    by_cases isRight : id = right.id
    · simp [isRight, Ne.symm different]
    · simp [isRight]
  · rfl

end Mark

def Standing.after
    (standing : Standing)
    (marks : List Mark) :
    Standing :=
  marks.foldl Mark.apply standing

namespace Standing

variable {standing other : Standing} {marks : List Mark} {id : ObjectId}

@[simp]
theorem after_nil :
    standing.after [] = standing :=
  rfl

@[simp]
theorem after_cons
    {mark : Mark} :
    standing.after (mark :: marks) = (mark.apply standing).after marks :=
  rfl

theorem after_append
    {more : List Mark} :
    standing.after (marks ++ more) = (standing.after marks).after more :=
  List.foldl_append

/-- Ids without a mark stand as before. -/
theorem after_of_unmarked
    (unmarked : ∀ mark ∈ marks, mark.id ≠ id) :
    standing.after marks id = standing id := by
  induction marks generalizing standing with
  | nil => rfl
  | cons mark marks inductionHypothesis =>
      rw [after_cons, inductionHypothesis (fun later member => unmarked later (by simp [member]))]
      exact if_neg (Ne.symm (unmarked mark (by simp)))

/-- An id stands as before, or one of the marks bears on it. -/
theorem after_eq_or_marked
    (standing : Standing)
    (marks : List Mark)
    (id : ObjectId) :
    standing.after marks id = standing id ∨ ∃ mark ∈ marks, mark.id = id := by
  by_cases marked : ∃ mark ∈ marks, mark.id = id
  · exact Or.inr marked
  · refine Or.inl (after_of_unmarked ?_)
    intro mark member same
    exact marked ⟨mark, member, same⟩

/-- Marks make no id vacant. -/
theorem after_ne_vacant
    (taken : standing id ≠ .vacant) :
    standing.after marks id ≠ .vacant := by
  induction marks generalizing standing with
  | nil => exact taken
  | cons mark marks inductionHypothesis =>
      apply inductionHypothesis
      unfold Mark.apply
      split
      · exact mark.status_ne_vacant
      · exact taken

/-- A mark apart from all others can come after them. -/
theorem apply_after_comm
    {mark : Mark}
    (apart : ∀ later ∈ marks, mark.Apart later) :
    (mark.apply standing).after marks = mark.apply (standing.after marks) := by
  induction marks generalizing standing with
  | nil => rfl
  | cons later marks inductionHypothesis =>
      rw [after_cons, after_cons, Mark.apply_comm (apart later (by simp)),
        inductionHypothesis (fun last member => apart last (by simp [member]))]

/-- Marks that are all apart from each other can be left in either order. -/
theorem after_comm
    {more : List Mark}
    (apart : ∀ mark ∈ marks, ∀ later ∈ more, mark.Apart later) :
    (standing.after marks).after more = (standing.after more).after marks := by
  induction marks generalizing standing with
  | nil => rfl
  | cons mark marks inductionHypothesis =>
      rw [after_cons, after_cons,
        inductionHypothesis (fun earlier member => apart earlier (by simp [member])),
        apply_after_comm (apart mark (by simp))]

end Standing

def Object.mark
    (object : Object) :
    Mark :=
  .creates object.id object.outline

/-- The marks of a message: its new objects, and its target if it is a destructor. -/
def messageMarks
    (objects : List Object)
    (target : ObjectId)
    (signature : Signature) :
    List Mark :=
  objects.map Object.mark ++ if signature.destructor then [.destroys target] else []

theorem mem_messageMarks_iff
    {objects : List Object}
    {target : ObjectId}
    {signature : Signature}
    {mark : Mark} :
    mark ∈ messageMarks objects target signature ↔
      (∃ object ∈ objects, object.mark = mark) ∨
        (signature.destructor = true ∧ mark = .destroys target) := by
  unfold messageMarks
  cases signature.destructor <;> simp

namespace Table

variable {session : Nat} {side : Side} {table next : Table} {objects : List Object}

theorem standing_eq_vacant_iff
    {id : ObjectId} :
    table.standing id = .vacant ↔ table.status id = .vacant := by
  unfold standing
  cases table.status id <;> simp [Status.map]

theorem standing_of_live
    {id : ObjectId}
    {object : Object}
    (live : table.status id = .live object) :
    table.standing id = .live object.outline := by
  simp [standing, live, Status.map]

theorem standing_eq_destroyed_iff
    {id : ObjectId} :
    table.standing id = .destroyed ↔ table.status id = .destroyed := by
  unfold standing
  cases table.status id <;> simp [Status.map]

theorem status_of_standing_live
    {id : ObjectId}
    {outline : Outline}
    (live : table.standing id = .live outline) :
    ∃ object, table.status id = .live object ∧ object.outline = outline := by
  unfold standing at live
  cases status : table.status id with
  | vacant => simp [status, Status.map] at live
  | live object =>
      rw [status] at live
      cases live
      exact ⟨object, rfl, rfl⟩
  | destroyed => simp [status, Status.map] at live

/-- A table that changes at one id leaves a mark there. -/
theorem standing_of_status_eq
    (mark : Mark)
    {new : Status Object}
    (status_eq : ∀ id, next.status id = if id = mark.id then new else table.status id)
    (marked : new.map Object.outline = mark.status) :
    next.standing = mark.apply table.standing := by
  funext id
  unfold standing Mark.apply
  rw [status_eq, ← marked]
  split <;> rfl

/-- A run of new objects leaves their marks. -/
theorem Growth.standing
    (growth : Growth session side table objects next) :
    next.standing = table.standing.after (objects.map Object.mark) := by
  induction growth with
  | start => rfl
  | @step objects grown object next _ gains inductionHypothesis =>
      rw [List.map_append, Standing.after_append, ← inductionHypothesis]
      exact standing_of_status_eq object.mark gains.status_eq rfl

/-- A destroyed object leaves its mark. -/
theorem standing_destroy
    (wellFormed : table.WellFormed session)
    {object : Object}
    (live : table.status object.id = .live object) :
    (table.destroy object.id).standing = table.standing.after [.destroys object.id] :=
  standing_of_status_eq (.destroys object.id) (turns_destroy wellFormed live).status_eq rfl

end Table

/-- A message leaves its marks. -/
theorem standing_message
    {session : Session}
    (wellFormed : session.WellFormed)
    {side : Side}
    {objects : List Object}
    {table : Table}
    {made : Nat}
    (growth : Table.Growth session.number side session.table objects table)
    {target : Object}
    (live : session.table.status target.id = .live target)
    (signature : Signature) :
    ({ session with table, made }.destroyTarget target signature).1.table.standing =
      session.table.standing.after (messageMarks objects target.id signature) := by
  unfold destroyTarget messageMarks
  rw [Standing.after_append, ← growth.standing]
  split
  · exact Table.standing_destroy (growth.wellFormed wellFormed) (growth.status_of_live live)
  · rfl

/-- The interface that an object of an interface gets: the registered one of its name, if any. -/
def supported
    (session : Session)
    (interface : Interface) :
    Interface :=
  (session.interface? interface.name).getD interface

/-- The session after an interface was looked up for a well-known object. -/
def withKnown
    (session : Session)
    (interface : Interface) :
    Session :=
  if (session.interface? interface.name).isSome then session else session.register interface

@[simp]
theorem withKnown_number
    (session : Session)
    (interface : Interface) :
    (session.withKnown interface).number = session.number := by
  unfold withKnown
  split <;> rfl

@[simp]
theorem withKnown_side
    (session : Session)
    (interface : Interface) :
    (session.withKnown interface).side = session.side := by
  unfold withKnown
  split <;> rfl

@[simp]
theorem withKnown_table
    (session : Session)
    (interface : Interface) :
    (session.withKnown interface).table = session.table := by
  unfold withKnown
  split <;> rfl

/-- A well-known object can be made: its version is not zero, and its id is vacant and not far beyond
those in use. -/
def Bindable
    (session : Session)
    (id : ObjectId)
    (interface : Interface)
    (version : UInt32) : Prop :=
  min version (session.supported interface).version ≠ 0 ∧
    ∃ side, sideOfId? id = some side ∧ session.table.status id = .vacant ∧
      ((IdRange.ofSide side).index id ≤ session.table.extent side ∨
        (IdRange.ofSide side).index id - session.table.extent side ≤ maxSkippedIds)

/-- The session that well-known objects are made in, written without a name for it. -/
theorem withKnown_eq
    (session : Session)
    (interface : Interface) :
    (if (session.interface? interface.name).isSome then session
      else session.register (session.supported interface)) = session.withKnown interface := by
  unfold withKnown supported
  cases session.interface? interface.name <;> rfl

/-- A well-known object is made of the supported interface, in the session that knows it. -/
theorem bind_eq
    (session : Session)
    (id : ObjectId)
    (interface : Interface)
    (version : UInt32) :
    session.bind id interface version =
      if min version (session.supported interface).version = 0 then
        (session.withKnown interface).refuse
          { blame := .caller
            reason := .bindVersion (session.supported interface).name version }
      else
        match
          (session.withKnown interface).table.insert id true
            ((session.withKnown interface).blueprint (session.supported interface)
              (min version (session.supported interface).version))
        with
        | .error fault =>
            (session.withKnown interface).refuse
              { blame := .caller
                reason := .bindRefused fault (session.supported interface).name id }
        | .ok (object, table) =>
            ⟨(session.withKnown interface).afterMaking table,
              [.created (session.supported interface).name], .ok object⟩ := by
  rw [← withKnown_eq]
  rfl

/-- Making a well-known object has two outcomes, as the id and the version allow. -/
theorem bind_cases
    {session : Session}
    (wellFormed : session.WellFormed)
    (id : ObjectId)
    (interface : Interface)
    (version : UInt32) :
    (∃ failure,
      (session.bind id interface version).result = .error failure ∧
        (session.bind id interface version).session = session.withKnown interface ∧
          ¬session.Bindable id interface version) ∨
    (∃ object side table,
      (session.bind id interface version).result = .ok object ∧
        (session.bind id interface version).session =
            (session.withKnown interface).afterMaking table ∧
          Table.Gains session.number side session.table object table ∧ object.id = id ∧
            object.interface = session.supported interface ∧
              object.version = min version (session.supported interface).version ∧
                session.Bindable id interface version) := by
  unfold Bindable
  rw [bind_eq]
  split
  · rename_i zero
    exact Or.inl ⟨_, rfl, rfl, fun bindable => bindable.1 zero⟩
  · rename_i notZero
    have valid : ((session.withKnown interface).blueprint (session.supported interface)
        (min version (session.supported interface).version)).Valid
          (session.withKnown interface).number :=
      blueprint_valid_of_ne_zero notZero
    rw [withKnown_number] at valid
    rw [withKnown_table]
    split
    · rename_i fault refused
      refine Or.inl ⟨_, rfl, rfl, ?_⟩
      rintro ⟨-, side, inside, vacant, near⟩
      obtain ⟨object, next, accepted⟩ := (Table.insert_eq_ok_iff inside true
        ((session.withKnown interface).blueprint (session.supported interface)
          (min version (session.supported interface).version))).mpr
        ⟨vacant, near.imp_right fun close => ⟨rfl, close⟩⟩
      rw [refused] at accepted
      cases accepted
    · rename_i object next inserted
      obtain ⟨side, inside⟩ := Table.side_of_insert inserted
      obtain ⟨gains, madeOf, atId, -⟩ := Table.gains_insert wellFormed valid inside inserted
      obtain ⟨vacant, near⟩ := (Table.insert_eq_ok_iff inside true _).mp ⟨_, _, inserted⟩
      simp only [Object.blueprint, blueprint, Blueprint.mk.injEq] at madeOf
      exact Or.inr ⟨object, side, next, rfl, rfl, gains, atId, madeOf.2.2.1, madeOf.2.2.2,
        notZero, side, inside, vacant, near.imp_right And.right⟩

/-- Two sessions know the same interface under every name, be it given as a text or as bytes. -/
structure SameInterfaces
    (left right : Session) : Prop where
  interface?_eq : ∀ name, left.interface? name = right.interface? name
  known?_eq : ∀ wanted, left.known? wanted = right.known? wanted

/-- Two sessions with the same interfaces and the same objects. -/
structure Twins
    (left right : Session) : Prop where
  sameInterfaces : SameInterfaces left right
  standing_eq : left.table.standing = right.table.standing
  extent_eq : ∀ side, left.table.extent side = right.table.extent side

section Twins

variable {left right : Session}

theorem interface?_register
    (session : Session)
    (interface : Interface)
    (name : String) :
    (session.register interface).interface? name =
      if name = interface.name then some interface else session.interface? name := by
  unfold interface? register
  rw [List.lookup_cons]
  by_cases same : name = interface.name
  · simp [same]
  · simp [same, beq_eq_false_iff_ne.mpr same]

theorem known?_register
    (session : Session)
    (interface : Interface)
    (wanted : Bytes) :
    (session.register interface).known? wanted =
      if Bytes.ofText interface.name = wanted then some (interface.name, interface)
      else session.known? wanted := by
  unfold known? register
  rw [List.find?_cons]
  by_cases same : Bytes.ofText interface.name = wanted
  · simp [same]
  · simp [same, beq_eq_false_iff_ne.mpr same]

theorem SameInterfaces.register
    (same : SameInterfaces left right)
    (interface : Interface) :
    SameInterfaces (left.register interface) (right.register interface) where
  interface?_eq := fun name => by rw [interface?_register, interface?_register, same.interface?_eq]
  known?_eq := fun wanted => by rw [known?_register, known?_register, same.known?_eq]

theorem SameInterfaces.withKnown
    (same : SameInterfaces left right)
    (interface : Interface) :
    SameInterfaces (left.withKnown interface) (right.withKnown interface) := by
  unfold Session.withKnown
  rw [same.interface?_eq]
  split
  · exact same
  · exact same.register interface

theorem Twins.bindable_iff
    (twins : Twins left right)
    (id : ObjectId)
    (interface : Interface)
    (version : UInt32) :
    left.Bindable id interface version ↔ right.Bindable id interface version := by
  unfold Bindable supported
  simp only [twins.sameInterfaces.interface?_eq, ← Table.standing_eq_vacant_iff,
    twins.standing_eq, twins.extent_eq]

/-- The same well-known object is made in both, or in neither. -/
theorem Twins.bind
    (twins : Twins left right)
    (leftWellFormed : left.WellFormed)
    (rightWellFormed : right.WellFormed)
    (id : ObjectId)
    (interface : Interface)
    (version : UInt32) :
    Twins (left.bind id interface version).session (right.bind id interface version).session := by
  have sameKnown := twins.sameInterfaces.withKnown interface
  rcases bind_cases leftWellFormed id interface version with leftFailed | leftMade
  · obtain ⟨_, -, leftEq, notBindable⟩ := leftFailed
    rcases bind_cases rightWellFormed id interface version with rightFailed | rightMade
    · obtain ⟨_, -, rightEq, -⟩ := rightFailed
      rw [leftEq, rightEq]
      exact ⟨sameKnown, by simpa using twins.standing_eq, by simpa using twins.extent_eq⟩
    · obtain ⟨_, _, _, -, -, -, -, -, -, bindable⟩ := rightMade
      exact absurd ((twins.bindable_iff id interface version).mpr bindable) notBindable
  · obtain ⟨object, side, table, -, leftEq, gains, atId, interfaceEq, versionEq, bindable⟩ :=
      leftMade
    rcases bind_cases rightWellFormed id interface version with rightFailed | rightMade
    · obtain ⟨_, -, -, notBindable⟩ := rightFailed
      exact absurd ((twins.bindable_iff id interface version).mp bindable) notBindable
    · obtain ⟨other, otherSide, otherTable, -, rightEq, otherGains, otherAtId, otherInterfaceEq,
        otherVersionEq, -⟩ := rightMade
      have sameSupported : left.supported interface = right.supported interface := by
        unfold supported
        rw [twins.sameInterfaces.interface?_eq]
      have sameMark : object.mark = other.mark := by
        simp only [Object.mark, Object.outline, atId, otherAtId, interfaceEq, otherInterfaceEq,
          versionEq, otherVersionEq, sameSupported]
      obtain rfl : side = otherSide := by
        have inside := gains.inside
        rw [atId, ← otherAtId, otherGains.inside] at inside
        exact (Option.some.inj inside).symm
      rw [leftEq, rightEq]
      refine ⟨⟨sameKnown.interface?_eq, sameKnown.known?_eq⟩, ?_, ?_⟩
      · simp only [afterMaking]
        rw [Table.standing_of_status_eq object.mark gains.status_eq rfl,
          Table.standing_of_status_eq other.mark otherGains.status_eq rfl, sameMark,
          twins.standing_eq]
      · simp only [afterMaking]
        refine (Side.forall_iff side).mpr ⟨?_, ?_⟩
        · rw [gains.extent_eq, otherGains.extent_eq, twins.extent_eq, atId, otherAtId]
        · rw [gains.extent_peer, otherGains.extent_peer, twins.extent_eq]

end Twins

end Wayland.Session
