import Wayland.Proofs.Session.History

/-!
Contract: which object a handle stands for, over the whole life of a session.

Owns:
- the serial numbers that every operation gives to the objects it makes, also to those it takes back;
- sessions later on, and what can be live in them;
- the handles that a session gave out, and that a dead one never comes alive again.

Does not own: operations on several sessions.
-/

namespace Wayland.Session

open Wayland.Text
open Wayland.Wire

namespace Table

variable {table next : Table} {blueprint : Blueprint} {object : Object}

/-- An object at the next free id is made of its blueprint. -/
theorem blueprint_of_allocate
    {side : Side}
    (allocated : table.allocate side blueprint = .ok (object, next)) :
    object.blueprint = blueprint := by
  unfold allocate at allocated
  simp only at allocated
  split at allocated
  · cases allocated
    rfl
  · split at allocated
    · cases allocated
    · cases allocated
      rfl

/-- An object at a chosen id is made of its blueprint. -/
theorem blueprint_of_insert
    {id : ObjectId}
    {gaps : Bool}
    (inserted : table.insert id gaps blueprint = .ok (object, next)) :
    object.blueprint = blueprint := by
  obtain ⟨side, inside⟩ := side_of_insert inserted
  cases inserts_of_insert inside inserted <;> rfl

/-- A live object of a well-formed table belongs to the session of the table. -/
theorem WellFormed.session_of_live
    {session : Nat}
    (wellFormed : table.WellFormed session)
    {id : ObjectId}
    (live : table.status id = .live object) :
    object.session = session := by
  have taken : table.status id ≠ .vacant := by simp [live]
  obtain ⟨side, inside⟩ := side_of_status taken
  rw [status_of_side inside] at live
  obtain ⟨generation, stored⟩ := Arena.cell_of_status_live live
  exact ((wellFormed.arena side).fitting _ _ _ stored).session_eq

end Table

/-- A session gave out a handle: it is of an object that the session counted. -/
structure Issued
    (session : Session)
    (object : Object) : Prop where
  session_eq : object.session = session.number
  serial_lt : object.serial < session.made

/-- A session after it made objects.  The count of objects never goes back, so no serial number is
given twice, not even when the objects are taken back. -/
structure Numbers
    (session : Session)
    (objects : List Object)
    (next : Session) : Prop where
  number_eq : next.number = session.number
  made_le : session.made ≤ next.made
  issued : ∀ object ∈ objects, next.Issued object
  serial_ge : ∀ object ∈ objects, session.made ≤ object.serial

/-- A session later on: what is live in it was live before or was made since. -/
structure Continues
    (session next : Session) : Prop where
  number_eq : next.number = session.number
  made_le : session.made ≤ next.made
  live : ∀ id object, next.table.status id = .live object →
    session.table.status id = .live object ∨
      session.made ≤ object.serial ∧ object.serial < next.made

/-- The live objects of a session were all counted by it. -/
def Dated
    (session : Session) : Prop :=
  ∀ id object, session.table.status id = .live object → object.serial < session.made

/-- A handle that stands for no live object of a session, and for none that the session is still to
make. -/
structure Dead
    (session : Session)
    (object : Object) : Prop where
  counted : object.session = session.number → object.serial < session.made
  isAlive_eq : session.isAlive object = false

section Numbering

variable {session middle next : Session} {objects : List Object}

theorem numbers_nil
    (number_eq : next.number = session.number)
    (made_eq : next.made = session.made) :
    Numbers session [] next :=
  ⟨number_eq, Nat.le_of_eq made_eq.symm, by simp, by simp⟩

/-- What was numbered stays so while neither the number of the session nor its count changes. -/
theorem Numbers.same
    (numbers : Numbers session objects middle)
    (number_eq : next.number = middle.number)
    (made_eq : next.made = middle.made) :
    Numbers session objects next where
  number_eq := number_eq.trans numbers.number_eq
  made_le := by
    rw [made_eq]
    exact numbers.made_le
  issued := by
    intro object member
    obtain ⟨session_eq, serial_lt⟩ := numbers.issued object member
    exact ⟨session_eq.trans number_eq.symm, by rwa [made_eq]⟩
  serial_ge := numbers.serial_ge

/-- The next object gets the next number. -/
theorem Numbers.afterMaking
    (numbers : Numbers session objects middle)
    {object : Object}
    {interface : Interface}
    {version : UInt32}
    (madeOf : object.blueprint = middle.blueprint interface version)
    (table : Table) :
    Numbers session (object :: objects) (middle.afterMaking table) := by
  simp only [Object.blueprint, blueprint, Blueprint.mk.injEq] at madeOf
  obtain ⟨session_eq, serial_eq, -, -⟩ := madeOf
  have made_le := numbers.made_le
  refine ⟨numbers.number_eq, ?_, ?_, ?_⟩
  · simp only [Session.afterMaking]
    omega
  · intro other member
    rcases List.mem_cons.mp member with rfl | earlier
    · exact ⟨session_eq, by simp [Session.afterMaking, serial_eq]⟩
    · obtain ⟨other_session_eq, serial_lt⟩ := numbers.issued other earlier
      exact ⟨other_session_eq, Nat.lt_succ_of_lt serial_lt⟩
  · intro other member
    rcases List.mem_cons.mp member with rfl | earlier
    · rwa [serial_eq]
    · exact numbers.serial_ge other earlier

/-- Fewer objects are numbered as well, in any order. -/
theorem Numbers.subset
    (numbers : Numbers session objects next)
    {fewer : List Object}
    (subset : fewer ⊆ objects) :
    Numbers session fewer next where
  number_eq := numbers.number_eq
  made_le := numbers.made_le
  issued := fun object member => numbers.issued object (subset member)
  serial_ge := fun object member => numbers.serial_ge object (subset member)

theorem Numbers.reverse
    (numbers : Numbers session objects next) :
    Numbers session objects.reverse next :=
  numbers.subset fun _ => List.mem_reverse.mp

end Numbering

section Making

variable {session : Session} {target : Object}

theorem destroyTarget_number
    (session : Session)
    (target : Object)
    (signature : Signature) :
    (session.destroyTarget target signature).1.number = session.number := by
  rw [destroyTarget_eq]

theorem destroyTarget_made
    (session : Session)
    (target : Object)
    (signature : Signature) :
    (session.destroyTarget target signature).1.made = session.made := by
  rw [destroyTarget_eq]

/-- One completed value numbers the object made for it. -/
theorem prepareOne_numbers
    {draft next : Draft}
    {slot : Slot}
    {passed : Passed}
    (numbers : Numbers session draft.created draft.session)
    (prepared : prepareOne target slot passed draft = .ok next) :
    Numbers session next.created next.session := by
  by_cases makes : passed.value.kind = .newId
  · obtain ⟨value, handle⟩ := passed
    cases value with
    | newId id name version =>
        obtain ⟨-, interface, negotiated, object, table, -, allocated, rfl⟩ :=
          prepareOne_newId prepared
        exact numbers.afterMaking (Table.blueprint_of_allocate allocated) table
    | _ => simp [Argument.kind] at makes
  · rw [prepareOne_of_kind_ne makes prepared]
    exact numbers

/-- However far the values were completed, the objects made so far are numbered. -/
theorem prepare_numbers
    {draft final : Draft}
    {pairs : List (Slot × Passed)}
    {refusal : Option Reason}
    (numbers : Numbers session draft.created draft.session)
    (prepared : prepare target draft pairs = (final, refusal)) :
    Numbers session final.created final.session := by
  refine prepare_preserves
    (motive := fun draft => Numbers session draft.created draft.session) ?_ numbers prepared
  exact fun draft slot passed next numbers first => prepareOne_numbers numbers first

/-- An announced object is made of the blueprint of its turn. -/
theorem acceptNewId_madeOf
    {slot : Slot}
    {id : ObjectId}
    {name : Bytes}
    {version : UInt32}
    {object : Object}
    {next : Session}
    (accepted : session.acceptNewId target slot id name version = .ok (object, next)) :
    ∃ interface negotiated table,
      object.blueprint = session.blueprint interface negotiated ∧
        next = session.afterMaking table := by
  obtain ⟨interface, negotiated, table, -, -, inserted, nextEq⟩ :=
    exists_insert_of_acceptNewId accepted
  exact ⟨interface, negotiated, table, Table.blueprint_of_insert inserted, nextEq⟩

/-- However many announced objects were made, they are numbered. -/
theorem acceptAll_numbers
    {arrivals final : Arrivals}
    {entries : List ((Slot × Argument) × Option Object)}
    {refusal : Option Reason}
    (numbers : Numbers session arrivals.created arrivals.session)
    (accepted : acceptAll target arrivals entries = (final, refusal)) :
    Numbers session final.created final.session := by
  refine acceptAll_preserves
    (motive := fun arrivals => Numbers session arrivals.created arrivals.session) ?_ ?_ numbers
    accepted
  · intro arrivals slot id name version object next numbers one
    obtain ⟨interface, negotiated, table, madeOf, rfl⟩ := acceptNewId_madeOf one
    exact numbers.afterMaking madeOf table
  · exact fun _ _ _ numbers => numbers

/-- The objects that an outcome made are numbered; a failed operation made none that stay. -/
structure Outcome.Numbered
    {α : Type}
    (session : Session)
    (created : α → List Object)
    (outcome : Outcome α) : Prop where
  counted : Numbers session [] outcome.session
  numbers : ∀ value, outcome.result = .ok value →
    Numbers session (created value) outcome.session

theorem Outcome.numbered_of_error
    {α : Type}
    {created : α → List Object}
    {outcome : Outcome α}
    {objects : List Object}
    (numbers : Numbers session objects outcome.session)
    {failure : Failure}
    (failed : outcome.result = .error failure) :
    outcome.Numbered session created := by
  refine ⟨numbers.subset (List.nil_subset _), ?_⟩
  intro value succeeded
  rw [failed] at succeeded
  cases succeeded

theorem Outcome.numbered_of_ok
    {α : Type}
    {created : α → List Object}
    {outcome : Outcome α}
    {value : α}
    (numbers : Numbers session (created value) outcome.session)
    (succeeded : outcome.result = .ok value) :
    outcome.Numbered session created := by
  refine ⟨numbers.subset (List.nil_subset _), ?_⟩
  intro other otherwise
  rw [succeeded] at otherwise
  cases otherwise
  exact numbers

theorem bind_numbered
    (session : Session)
    (id : ObjectId)
    (interface : Interface)
    (version : UInt32) :
    (session.bind id interface version).Numbered session fun object => [object] := by
  have known : Numbers session [] (session.withKnown interface) := by
    refine numbers_nil (withKnown_number ..) ?_
    unfold withKnown
    split <;> rfl
  have supportedEq : (session.interface? interface.name).getD interface =
      session.supported interface := rfl
  unfold bind
  simp only [supportedEq, withKnown_eq]
  split
  · exact Outcome.numbered_of_error known rfl
  · split
    · exact Outcome.numbered_of_error known rfl
    · rename_i object table inserted
      have numbers := known.afterMaking (Table.blueprint_of_insert inserted) table
      exact Outcome.numbered_of_ok numbers rfl

/-- Writing a draft keeps its numbers, whether the message leaves or the objects are taken back. -/
theorem write_numbered
    {draft : Draft}
    (numbers : Numbers session draft.created draft.session)
    (transport : Transport)
    (opcode : UInt16)
    (signature : Signature) :
    (write draft transport target opcode signature).1.Numbered session id := by
  unfold write
  split
  · exact Outcome.numbered_of_error (numbers.same rfl rfl) rfl
  · split
    · exact Outcome.numbered_of_error (numbers.same rfl rfl) rfl
    · refine Outcome.numbered_of_ok (numbers.reverse.same ?_ ?_) rfl
      · exact destroyTarget_number ..
      · exact destroyTarget_made ..

theorem send_numbered
    (session : Session)
    (transport : Transport)
    (target : Option Object)
    (opcode : UInt16)
    (values : List Passed) :
    (session.send transport target opcode values).1.Numbered session id := by
  have start : Numbers session [] session := numbers_nil rfl rfl
  rcases send_refused_or_admitted session transport target opcode values with
    ⟨error, -, refused⟩ | ⟨object, signature, rfl, admits⟩
  · rw [refused]
    exact Outcome.numbered_of_error start rfl
  · rw [admits.send_eq]
    split
    · rename_i draft reason prepared
      have numbers : Numbers session draft.created draft.session :=
        prepare_numbers start prepared
      exact Outcome.numbered_of_error (numbers.same rfl rfl) rfl
    · rename_i draft prepared
      have numbers : Numbers session draft.created draft.session :=
        prepare_numbers start prepared
      exact write_numbered numbers transport opcode signature

theorem decode_numbered
    (wellFormed : session.WellFormed)
    (inbound : Inbound) :
    (session.decode inbound).Numbered session Incoming.created := by
  have start : Numbers session [] session := numbers_nil rfl rfl
  rcases decode_drawn session inbound with
    ⟨error, -, failed, early | ⟨target, entries, arrivals, refusal, accepted, late⟩⟩ |
      ⟨incoming, references, arrivals, succeeded, drawn, next⟩
  · have numbers : Numbers session [] (session.decode inbound).session := by
      rw [early]
      exact start
    exact Outcome.numbered_of_error numbers failed
  · have numbers : Numbers session arrivals.created (session.decode inbound).session := by
      rw [late]
      exact (acceptAll_numbers start accepted).same rfl rfl
    exact Outcome.numbered_of_error numbers failed
  · have numbers : Numbers session arrivals.created arrivals.session :=
      acceptAll_numbers start drawn.accepted
    refine Outcome.numbered_of_ok ?_ succeeded
    rw [(drawn.grown wellFormed).1, next]
    exact numbers.reverse.same (destroyTarget_number ..) (destroyTarget_made ..)

/-- Every operation numbers the objects it makes. -/
theorem perform_numbers
    (wellFormed : session.WellFormed)
    (operation : Operation) :
    Numbers session (operation.created session) (operation.perform session) := by
  cases operation with
  | register interface => exact numbers_nil rfl rfl
  | bind id interface version =>
      have numbered := bind_numbered session id interface version
      simp only [Operation.created, Operation.perform]
      split
      · exact numbered.counted
      · rename_i object succeeded
        exact numbered.numbers object succeeded
  | send transport target opcode values =>
      have numbered := send_numbered session transport target opcode values
      simp only [Operation.created, Operation.perform]
      split
      · exact numbered.counted
      · rename_i objects succeeded
        exact numbered.numbers objects succeeded
  | decode inbound =>
      have numbered := decode_numbered wellFormed inbound
      simp only [Operation.created, Operation.perform]
      split
      · exact numbered.counted
      · rename_i incoming succeeded
        exact numbered.numbers incoming succeeded
  | release id =>
      simp only [Operation.created, Operation.perform, release]
      split <;> exact numbers_nil rfl rfl
  | reset => exact numbers_nil rfl rfl

end Making

section Continuing

variable {session middle next : Session} {objects : List Object} {object : Object}

theorem Continues.refl
    (session : Session) :
    Continues session session :=
  ⟨rfl, Nat.le_refl _, fun _ _ live => Or.inl live⟩

theorem Continues.trans
    (first : Continues session middle)
    (second : Continues middle next) :
    Continues session next where
  number_eq := second.number_eq.trans first.number_eq
  made_le := Nat.le_trans first.made_le second.made_le
  live := by
    intro id object live
    have firstLe := first.made_le
    have secondLe := second.made_le
    rcases second.live id object live with earlier | made
    · rcases first.live id object earlier with before | made
      · exact Or.inl before
      · exact Or.inr (by omega)
    · exact Or.inr (by omega)

/-- A session that grew by numbered objects. -/
theorem Numbers.continues_of_growth
    (numbers : Numbers session objects next)
    {side : Side}
    (growth : Table.Growth session.number side session.table objects next.table) :
    Continues session next where
  number_eq := numbers.number_eq
  made_le := numbers.made_le
  live := by
    intro id object live
    by_cases made : ∃ grown ∈ objects, grown.id = id
    · obtain ⟨grown, member, rfl⟩ := made
      rw [growth.status_of_mem grown member] at live
      cases live
      exact Or.inr ⟨numbers.serial_ge _ member, (numbers.issued _ member).serial_lt⟩
    · rw [growth.status_of_other fun grown member same => made ⟨grown, member, same⟩] at live
      exact Or.inl live

/-- A session in which an id was turned to something that is not live. -/
theorem continues_of_turns
    {number : Nat}
    {id : ObjectId}
    {new : Status Object}
    (turns : Table.Turns number session.table id new next.table)
    (notLive : ∀ object, new ≠ .live object)
    (number_eq : next.number = session.number)
    (made_le : session.made ≤ next.made) :
    Continues session next where
  number_eq := number_eq
  made_le := made_le
  live := by
    intro other object live
    rw [turns.status_eq] at live
    split at live
    · exact absurd live (notLive object)
    · exact Or.inl live

/-- Every effect with numbered objects leads to the same session later on. -/
theorem Effect.continues
    {allowed : Side → Prop}
    {endings : List Event}
    (effect : Effect session allowed objects endings next)
    (wellFormed : session.WellFormed)
    (numbers : Numbers session objects next) :
    Continues session next := by
  cases effect with
  | quiet _ _ _ status_eq =>
      refine ⟨numbers.number_eq, numbers.made_le, ?_⟩
      intro id object live
      rw [status_eq] at live
      exact Or.inl live
  | @wellKnown side made next _ _ _ gains =>
      refine ⟨numbers.number_eq, numbers.made_le, ?_⟩
      intro id object live
      rw [gains.status_eq] at live
      split at live
      · cases live
        exact Or.inr ⟨numbers.serial_ge _ (by simp), (numbers.issued _ (by simp)).serial_lt⟩
      · exact Or.inl live
  | @message side objects table made target signature means _ growth live =>
      have numbersGrown : Numbers session objects { session with table, made } :=
        numbers.same (destroyTarget_number ..).symm (destroyTarget_made ..).symm
      refine (numbersGrown.continues_of_growth growth).trans ?_
      -- The objects are made first, then the target is destroyed.
      unfold destroyTarget
      split
      · exact continues_of_turns
          (Table.turns_destroy (growth.wellFormed wellFormed) (growth.status_of_live live))
          (by simp) rfl (Nat.le_refl _)
      · exact .refl _
  | released released =>
      exact continues_of_turns (Table.turns_release wellFormed released).2 (by simp)
        numbers.number_eq numbers.made_le
  | reset =>
      refine ⟨numbers.number_eq, numbers.made_le, ?_⟩
      intro id object live
      rw [show session.reset.session.table.status id = .vacant from
        Table.status_empty (session.table.epochs + 1) id] at live
      cases live

/-- Every operation leads to the same session later on. -/
theorem perform_continues
    (wellFormed : session.WellFormed)
    (operation : Operation) :
    Continues session (operation.perform session) :=
  (perform_effect wellFormed operation).continues wellFormed (perform_numbers wellFormed operation)

/-- A session that counted its live objects goes on counting them. -/
theorem Continues.dated
    (continues : Continues session next)
    (dated : session.Dated) :
    next.Dated := by
  intro id object live
  have made_le := continues.made_le
  rcases continues.live id object live with before | made
  · have counted := dated id object before
    omega
  · exact made.2

/-- A handle that a session gave out is still of an object it counted. -/
theorem Issued.later
    (issued : session.Issued object)
    (continues : Continues session next) :
    next.Issued object where
  session_eq := issued.session_eq.trans continues.number_eq.symm
  serial_lt := Nat.lt_of_lt_of_le issued.serial_lt continues.made_le

/-- A handle is alive exactly if it is of this session and the live object of its id. -/
theorem isAlive_iff :
    session.isAlive object = true ↔
      object.session = session.number ∧ session.table.status object.id = .live object := by
  simp only [isAlive, Bool.and_eq_true, beq_iff_eq, Table.lookup_eq_some_iff]

/-- What is live was given out by the session. -/
theorem Dated.issued
    (dated : session.Dated)
    (wellFormed : session.WellFormed)
    {id : ObjectId}
    (live : session.table.status id = .live object) :
    session.Issued object where
  session_eq := wellFormed.session_of_live live
  serial_lt := dated id object live

/-- A dead handle is dead for good in every later session: whatever is made at the same id, be it with
the same generation, has a later serial number. -/
theorem Dead.later
    (dead : session.Dead object)
    (continues : Continues session next) :
    next.Dead object := by
  have made_le := continues.made_le
  constructor
  · intro own
    have counted := dead.counted (own.trans continues.number_eq)
    omega
  · rw [← Bool.not_eq_true]
    intro alive
    obtain ⟨own, live⟩ := isAlive_iff.mp alive
    rw [continues.number_eq] at own
    -- It was live before, or has a number that was still to be given out.
    rcases continues.live object.id object live with before | made
    · have aliveBefore := isAlive_iff.mpr ⟨own, before⟩
      rw [dead.isAlive_eq] at aliveBefore
      cases aliveBefore
    · have counted := dead.counted own
      omega

/-- A handle of another session is dead here. -/
theorem dead_of_foreign
    (foreign : object.session ≠ session.number) :
    session.Dead object := by
  refine ⟨fun own => absurd own foreign, ?_⟩
  rw [← Bool.not_eq_true]
  intro alive
  exact foreign (isAlive_iff.mp alive).1

end Continuing

end Wayland.Session
