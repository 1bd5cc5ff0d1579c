import Mathlib.Data.List.Nodup
import Wayland.Proofs.Session.Wear

/-!
Contract: how often the cell of an id is counted.

Owns:
- the count of an id in a table, and what every change of the table does to it;
- the objects that a refused message made before it was refused, and the ids whose cells stay
  counted when these objects are taken back;
- what every operation and every run of operations adds to the count of an id.

Does not own: what two sessions that talk to each other count.
-/

namespace Wayland.Session

open Wayland.Text
open Wayland.Wire

namespace Table

/-- How often the cell of an id was taken; one that is not there was not. -/
def uses
    (table : Table)
    (id : ObjectId) :
    UInt32 :=
  ((table.cell? id).getD {}).generation

section Counting

variable {side : Side} {start table next : Table} {object : Object} {objects : List Object}
variable {id : ObjectId}

/-- A new object is counted at its id, and carries the count. -/
structure Counts
    (table : Table)
    (object : Object)
    (next : Table) : Prop where
  uses_eq : ∀ id, next.uses id = if id = object.id then table.uses id + 1 else table.uses id
  generation_eq : object.generation = table.uses object.id + 1

/-- An object in a cell of its own is counted there, if the range had the counts of the table
otherwise. -/
theorem counts_occupy
    {arena : Arena}
    {index : Nat}
    {blueprint : Blueprint}
    (small : index < (IdRange.ofSide side).size)
    (within : index < arena.cells.length)
    (sameCounts : ∀ position : Nat,
      ((arena.cells[position]?).getD {}).generation =
        (((table.arena side).cells[position]?).getD {}).generation) :
    Counts table (table.occupy side arena index blueprint).1
      (table.occupy side arena index blueprint).2 := by
  rw [occupy_table]
  generalize objectEq : (table.occupy side arena index blueprint).1 = made
  rw [occupy_object] at objectEq
  have idEq : made.id = (IdRange.ofSide side).id index := by rw [← objectEq]
  have inside : sideOfId? made.id = some side := by
    rw [idEq]
    exact sideOfId?_id small
  have position : (IdRange.ofSide side).index made.id = index := by
    rw [idEq]
    exact IdRange.index_id small
  have generationEq : made.generation = table.uses made.id + 1 := by
    rw [uses, cell?_of_side inside, position, ← sameCounts, ← objectEq]
  refine ⟨fun id => ?_, generationEq⟩
  unfold uses
  rw [cell?_replace]
  split
  · rename_i otherInside
    rw [List.getElem?_set]
    by_cases same : id = made.id
    · subst same
      rw [position, if_pos rfl, if_pos within, if_pos rfl]
      exact generationEq
    · have apart := index_ne inside otherInside (Ne.symm same)
      rw [position] at apart
      rw [if_neg apart, if_neg same, sameCounts, cell?_of_side otherInside]
  · rename_i outside
    have different : id ≠ made.id := fun same => outside (same ▸ inside)
    rw [if_neg different]

/-- New cells were not counted yet. -/
theorem generation_append_replicate
    (cells : List Cell)
    (count position : Nat) :
    (((cells ++ List.replicate count ({} : Cell))[position]?).getD {}).generation =
      ((cells[position]?).getD {}).generation := by
  rw [Arena.getElem?_append_replicate]
  split
  · rfl
  · rename_i past
    rw [List.getElem?_eq_none (Nat.le_of_not_lt past)]
    split <;> rfl

/-- An object at a chosen id is counted there, whatever ids are skipped for it. -/
theorem counts_insert
    {gaps : Bool}
    {blueprint : Blueprint}
    (inserted : table.insert id gaps blueprint = .ok (object, next)) :
    Counts table object next := by
  obtain ⟨side, inside⟩ := side_of_insert inserted
  have small := IdRange.index_lt_size (sideOfId?_eq_some_iff.mp inside)
  cases inserts_of_insert inside inserted with
  | free stored =>
      exact counts_occupy small (List.getElem?_eq_some_iff.mp stored).1 fun _ => rfl
  | last atEnd =>
      refine counts_occupy small (by simp [atEnd]) fun position => ?_
      exact generation_append_replicate _ 1 position
  | beyond past =>
      refine counts_occupy small ?_ fun position => generation_append_replicate _ _ position
      simp only [List.length_append, List.length_replicate]
      omega

/-- Whichever cell an object takes, it is counted there. -/
theorem Takes.counts
    (takes : Takes side table object next) :
    Counts table object next := by
  cases takes with
  | @reused generation inside stored counted =>
      have generationEq : object.generation = table.uses object.id + 1 := by
        rw [uses, cell?_of_side inside, stored, counted]
        rfl
      refine ⟨fun id => ?_, generationEq⟩
      unfold uses
      rw [cell?_replace_set inside (List.getElem?_eq_some_iff.mp stored).1]
      split
      · rename_i same
        subst same
        exact generationEq
      · rfl
  | fresh inside atEnd first =>
      unfold extent at atEnd
      have unused : table.uses object.id = 0 := by
        rw [uses, cell?_of_side inside, List.getElem?_eq_none (Nat.le_of_eq atEnd.symm)]
        rfl
      have generationEq : object.generation = table.uses object.id + 1 := by
        rw [first, unused]
        rfl
      refine ⟨fun id => ?_, generationEq⟩
      unfold uses
      rw [cell?_replace]
      split
      · rename_i otherInside
        rw [cell?_of_side otherInside, List.getElem?_append]
        by_cases same : id = object.id
        · subst same
          have notBelow : ¬(IdRange.ofSide side).index object.id <
              (table.arena side).cells.length := by omega
          rw [if_neg notBelow, if_pos rfl, atEnd, Nat.sub_self, ← atEnd, ← cell?_of_side inside]
          exact generationEq
        · have apart := index_ne otherInside inside same
          rw [if_neg same]
          split
          · rfl
          · rename_i past
            rw [List.getElem?_eq_none (by rw [List.length_singleton]; omega),
              List.getElem?_eq_none (Nat.le_of_not_lt past)]
      · rename_i outside
        have different : id ≠ object.id := fun same => outside (same ▸ inside)
        rw [if_neg different]

/-- A run counts every id as often as it makes an object there. -/
theorem TakesAll.uses_eq
    (takes : TakesAll side start objects table)
    (id : ObjectId) :
    table.uses id = start.uses id + UInt32.ofNat ((objects.map Object.id).count id) := by
  induction takes with
  | start => simp
  | @step objects table object next _ takes inductionHypothesis =>
      rw [takes.counts.uses_eq, inductionHypothesis, List.map_append, List.count_append]
      split
      · rename_i same
        subst same
        rw [UInt32.ofNat_add, ← UInt32.add_assoc]
        simp
      · rename_i different
        simp [Ne.symm different]

/-- The objects of a run at different ids carry the counts that follow those before the run. -/
theorem TakesAll.generation_eq
    (takes : TakesAll side start objects table)
    (nodup : (objects.map Object.id).Nodup) :
    ∀ object ∈ objects, object.generation = start.uses object.id + 1 := by
  induction takes with
  | start => simp
  | @step objects table object next takesAll takes inductionHypothesis =>
      rw [List.map_append, List.nodup_append] at nodup
      intro made member
      rcases List.mem_append.mp member with earlier | latest
      · exact inductionHypothesis nodup.1 made earlier
      · rw [List.mem_singleton.mp latest]
        have notEarlier : object.id ∉ objects.map Object.id :=
          fun earlier => nodup.2.2 _ earlier _ (by simp) rfl
        rw [takes.counts.generation_eq, takesAll.uses_eq, List.count_eq_zero_of_not_mem notEarlier]
        simp

/-- Destroying an object leaves the counts alone. -/
theorem uses_destroy
    (table : Table)
    (destroyed id : ObjectId) :
    (table.destroy destroyed).uses id = table.uses id := by
  rcases table.destroy_cases destroyed with
    unchanged | ⟨side, object, generation, inside, stored, changed⟩
  · rw [unchanged]
  · unfold uses
    rw [changed, cell?_replace_set inside (List.getElem?_eq_some_iff.mp stored).1]
    split
    · rename_i same
      subst same
      rw [cell?_of_side inside, stored]
      rfl
    · rfl

/-- Releasing an id leaves the counts alone. -/
theorem uses_release
    {released : ObjectId}
    (isReleased : table.release released = .ok next)
    (id : ObjectId) :
    next.uses id = table.uses id := by
  unfold release at isReleased
  split at isReleased
  · cases isReleased
  · rename_i side inside
    split at isReleased
    · rename_i generation stored
      cases isReleased
      have shape : table.free released generation =
          table.replace side
            { cells := (table.arena side).cells.set ((IdRange.ofSide side).index released)
                ⟨.free, generation⟩
              free := (IdRange.ofSide side).index released :: (table.arena side).free }
            table.live := by
        simp only [free, inside]
        cases side <;> rfl
      rw [cell?_of_side inside] at stored
      unfold uses
      rw [shape, cell?_replace_set inside (List.getElem?_eq_some_iff.mp stored).1]
      split
      · rename_i same
        subst same
        rw [cell?_of_side inside, stored]
        rfl
      · rfl
    · cases isReleased

/-- An object that is taken back leaves its cell free, with the count it was given, or takes the cell
along, which was then counted once. -/
theorem cell?_abandon
    {session : Nat}
    (wellFormed : table.WellFormed session)
    (isLive : table.status object.id = .live object) :
    ((table.abandon object).cell? object.id = some ⟨.free, object.generation⟩ ∨
        (table.abandon object).cell? object.id = none ∧ object.generation = 1) ∧
      ∀ id ≠ object.id, (table.abandon object).cell? id = table.cell? id := by
  have taken : table.status object.id ≠ .vacant := by simp [isLive]
  obtain ⟨side, inside⟩ := side_of_status taken
  rw [status_of_side inside] at isLive
  obtain ⟨generation, stored⟩ := Arena.cell_of_status_live isLive
  have generationEq : object.generation = generation :=
    ((wellFormed.arena side).fitting _ _ _ stored).generation_eq
  subst generationEq
  by_cases atEnd : (IdRange.ofSide side).index object.id + 1 = (table.arena side).cells.length ∧
      object.generation = 1
  · obtain ⟨last, first⟩ := atEnd
    rw [first] at stored
    rw [abandon_eq_dropLast inside stored last]
    refine ⟨Or.inr ⟨?_, first⟩, fun id different => ?_⟩
    · rw [cell?_replace, if_pos inside]
      exact List.getElem?_eq_none (List.length_take_le ..)
    · rw [cell?_replace]
      split
      · rename_i otherInside
        rw [cell?_of_side otherInside, List.getElem?_take]
        split
        · rfl
        · have apart := index_ne otherInside inside different
          rw [List.getElem?_eq_none (by omega)]
      · rfl
  · rw [abandon_eq_free inside stored atEnd]
    have within := (List.getElem?_eq_some_iff.mp stored).1
    refine ⟨Or.inl ?_, fun id different => ?_⟩
    · rw [cell?_replace_set inside within, if_pos rfl]
    · rw [cell?_replace_set inside within, if_neg different]

/-- Objects that are taken back, the one after the other, leave cells of other ids alone. -/
theorem cell?_abandonAll
    {session : Nat}
    (wellFormed : table.WellFormed session)
    (live : ∀ object ∈ objects, table.status object.id = .live object)
    (nodup : (objects.map Object.id).Nodup) :
    (∀ object ∈ objects,
        (objects.foldl abandon table).cell? object.id = some ⟨.free, object.generation⟩ ∨
          (objects.foldl abandon table).cell? object.id = none ∧ object.generation = 1) ∧
      ∀ id, (∀ object ∈ objects, object.id ≠ id) →
        (objects.foldl abandon table).cell? id = table.cell? id := by
  induction objects generalizing table with
  | nil => exact ⟨by simp, fun _ _ => rfl⟩
  | cons object objects inductionHypothesis =>
      have isLive := live object (by simp)
      have taken : table.status object.id ≠ .vacant := by simp [isLive]
      obtain ⟨side, inside⟩ := side_of_status taken
      have loses := loses_abandon wellFormed inside isLive
      obtain ⟨own, others⟩ := cell?_abandon wellFormed isLive
      rw [List.map_cons, List.nodup_cons] at nodup
      have apart : ∀ earlier ∈ objects, earlier.id ≠ object.id := by
        intro earlier member same
        exact nodup.1 (List.mem_map.mpr ⟨earlier, member, same⟩)
      obtain ⟨rest, elsewhere⟩ := inductionHypothesis loses.wellFormed
        (fun earlier member => by
          rw [loses.status_eq, if_neg (apart earlier member)]
          exact live earlier (by simp [member]))
        nodup.2
      rw [List.foldl_cons]
      refine ⟨fun made member => ?_, fun id other => ?_⟩
      · rcases List.mem_cons.mp member with isFirst | later
        · rw [isFirst, elsewhere _ apart]
          exact own
        · exact rest made later
      · rw [elsewhere id fun earlier member => other earlier (by simp [member]),
          others id (Ne.symm (other object (by simp)))]

/-- Taking back the objects of a run leaves counted those of their cells that stay. -/
theorem TakesAll.uses_abandonAll
    {session : Nat}
    (takes : TakesAll side start objects table)
    (growth : Growth session side start objects table)
    (wellFormed : start.WellFormed session)
    (id : ObjectId) :
    (objects.reverse.foldl abandon table).uses id =
      start.uses id + UInt32.ofNat (((objects.map Object.id).filter fun id =>
        ((objects.reverse.foldl abandon table).cell? id).isSome).count id) := by
  have nodup := growth.nodup
  have live : ∀ object ∈ objects.reverse, table.status object.id = .live object :=
    fun object member => growth.status_of_mem object (List.mem_reverse.mp member)
  have nodupReverse : (objects.reverse.map Object.id).Nodup := by
    rw [List.map_reverse]
    exact List.nodup_reverse.mpr nodup
  obtain ⟨own, others⟩ := cell?_abandonAll (growth.wellFormed wellFormed) live nodupReverse
  generalize objects.reverse.foldl abandon table = kept at own others ⊢
  by_cases member : id ∈ objects.map Object.id
  · obtain ⟨object, isMember, rfl⟩ := List.mem_map.mp member
    have counted := takes.generation_eq nodup object isMember
    rcases own object (List.mem_reverse.mpr isMember) with stays | ⟨gone, first⟩
    · rw [List.count_filter (by simp [stays]), List.count_eq_one_of_mem nodup member, uses, stays]
      exact counted
    · have notCounted : start.uses object.id = 0 := by
        rw [counted] at first
        simpa using first
      have noneLeft : object.id ∉ (objects.map Object.id).filter fun id =>
          (kept.cell? id).isSome := by
        intro left
        have stays := (List.mem_filter.mp left).2
        rw [gone] at stays
        cases stays
      rw [List.count_eq_zero_of_not_mem noneLeft, notCounted, uses, gone]
      rfl
  · have noneLeft : id ∉ (objects.map Object.id).filter fun id => (kept.cell? id).isSome :=
      fun left => member (List.mem_filter.mp left).1
    have untouched : table.uses id = start.uses id := by
      rw [takes.uses_eq, List.count_eq_zero_of_not_mem member]
      simp
    rw [List.count_eq_zero_of_not_mem noneLeft, uses, others id ?_, ← uses, untouched]
    · simp
    · intro object isMember same
      exact member (List.mem_map.mpr ⟨object, List.mem_reverse.mp isMember, same⟩)

theorem uses_empty
    (epochs : UInt64)
    (id : ObjectId) :
    uses { epochs } id = 0 := by
  unfold uses cell?
  split
  · rfl
  · rename_i side _
    cases side <;> rfl

end Counting

end Table

/-! ### Operations -/

section Withdrawing

variable {session : Session} {target : Object} {opcode : UInt16} {values : List Passed}
variable {signature : Signature} {inbound : Inbound}

instance :
    Decidable (session.Admits target opcode values signature) :=
  decidable_of_iff
    (session.isAlive target = true ∧
      target.interface.message? session.side.sends opcode = some signature ∧
        ¬signature.since > target.version ∧ values.length = signature.slots.length)
    ⟨fun ⟨alive, message, available, sameLength⟩ => ⟨alive, message, available, sameLength⟩,
      fun admits => ⟨admits.alive, admits.message, admits.available, admits.sameLength⟩⟩

/-- The objects that are made for the values of a message, up to the first value that is refused. -/
def drafted
    (session : Session)
    (target : Option Object)
    (opcode : UInt16)
    (values : List Passed) :
    List Object :=
  match target with
  | none => []
  | some target =>
      match target.interface.message? session.side.sends opcode with
      | none => []
      | some signature =>
          if session.Admits target opcode values signature then
            (prepare target { session } (signature.slots.zip values)).1.created.reverse
          else []

/-- The objects that are made for a received message, up to the first that is refused. -/
def announced
    (session : Session)
    (inbound : Inbound) :
    List Object :=
  match session.table.lookup inbound.sender with
  | none => []
  | some target =>
      match target.interface.message? session.side.receives inbound.opcode with
      | none => []
      | some signature =>
          if signature.since > target.version then []
          else
            match Wire.decode signature inbound.payload with
            | .error _ => []
            | .ok decoded =>
                let pairs := signature.slots.zip decoded.arguments
                match session.resolveReferences pairs with
                | .error _ => []
                | .ok references =>
                    (acceptAll target { session } (pairs.zip references)).1.created.reverse

/-- The objects that an operation made and took back. -/
def Operation.withdrawn
    (session : Session) :
    Operation → List Object
  | .send transport target opcode values =>
      match (session.send transport target opcode values).1.result with
      | .error _ => session.drafted target opcode values
      | .ok _ => []
  | .decode inbound =>
      match (session.decode inbound).result with
      | .error _ => session.announced inbound
      | .ok _ => []
  | _ => []

/-- The ids that an operation counted although it made no object there: an object was taken back, and
its cell stayed. -/
def Operation.wasted
    (session : Session)
    (operation : Operation) :
    List ObjectId :=
  ((operation.withdrawn session).map Object.id).filter fun id =>
    ((operation.perform session).table.cell? id).isSome

theorem drafted_of_admits
    (admits : session.Admits target opcode values signature) :
    session.drafted (some target) opcode values =
      (prepare target { session } (signature.slots.zip values)).1.created.reverse := by
  simp only [drafted, admits.message, if_pos admits]

/-- A message that is refused before its values are looked at makes nothing. -/
theorem drafted_of_not_admits
    {target : Option Object}
    (notAdmits : ∀ object signature, target = some object →
      ¬session.Admits object opcode values signature) :
    session.drafted target opcode values = [] := by
  unfold drafted
  split
  · rfl
  · rename_i object
    split
    · rfl
    · rename_i signature _
      exact if_neg (notAdmits object signature rfl)

/-- A received message that is refused leaves the session as it was, or took back what it announced. -/
theorem announced_of_error
    {failure : Failure}
    (failed : (session.decode inbound).result = .error failure) :
    session.announced inbound = [] ∧ (session.decode inbound).session = session ∨
      ∃ target entries arrivals refusal,
        acceptAll target { session } entries = (arrivals, refusal) ∧
          session.announced inbound = arrivals.created.reverse ∧
            (session.decode inbound).session = arrivals.session.abandonAll arrivals.created := by
  revert failed
  unfold decode announced
  cases session.table.lookup inbound.sender with
  | none => exact fun _ => Or.inl ⟨rfl, rfl⟩
  | some target =>
      simp only
      cases target.interface.message? session.side.receives inbound.opcode with
      | none => exact fun _ => Or.inl ⟨rfl, rfl⟩
      | some signature =>
          simp only
          by_cases late : signature.since > target.version
          · simp only [if_pos late]
            exact fun _ => Or.inl ⟨trivial, rfl⟩
          · simp only [if_neg late]
            cases Wire.decode signature inbound.payload with
            | error error => exact fun _ => Or.inl ⟨rfl, rfl⟩
            | ok decoded =>
                simp only
                cases session.resolveReferences (signature.slots.zip decoded.arguments) with
                | error reason => exact fun _ => Or.inl ⟨rfl, rfl⟩
                | ok references =>
                    simp only
                    split
                    · rename_i arrivals reason accepted
                      exact fun _ => Or.inr ⟨target, _, arrivals, _, accepted, by rw [accepted], rfl⟩
                    · intro failed
                      cases failed

end Withdrawing

section Tallying

variable {session : Session} {history : List Event}

/-- An operation counts every id once for each object it makes there, and once for each it takes back
without the cell.  What it makes carries the count that follows the one before. -/
structure Operation.Tallied
    (session : Session)
    (operation : Operation) : Prop where
  uses_eq : ∀ id, (operation.perform session).table.uses id =
    session.table.uses id +
      UInt32.ofNat (((operation.created session).map Object.id).count id +
        (operation.wasted session).count id)
  generation_eq : ∀ object ∈ operation.created session,
    object.generation = session.table.uses object.id + 1

/-- An operation that makes nothing and leaves the counts alone. -/
theorem Operation.Tallied.of_quiet
    {operation : Operation}
    (created : operation.created session = [])
    (withdrawn : operation.withdrawn session = [])
    (uses_eq : ∀ id, (operation.perform session).table.uses id = session.table.uses id) :
    operation.Tallied session where
  uses_eq := by
    intro id
    simp [uses_eq, created, Operation.wasted, withdrawn]
  generation_eq := by simp [created]

/-- An operation that makes the objects of a run of takings. -/
theorem Operation.Tallied.of_takesAll
    {operation : Operation}
    {side : Side}
    {objects : List Object}
    {table : Table}
    (takes : Table.TakesAll side session.table objects table)
    (nodup : (objects.map Object.id).Nodup)
    (created : operation.created session = objects)
    (withdrawn : operation.withdrawn session = [])
    (uses_eq : ∀ id, (operation.perform session).table.uses id = table.uses id) :
    operation.Tallied session where
  uses_eq := by
    intro id
    rw [uses_eq, takes.uses_eq, created, Operation.wasted, withdrawn]
    rfl
  generation_eq := by
    rw [created]
    exact takes.generation_eq nodup

/-- An operation that takes the objects of such a run back. -/
theorem Operation.Tallied.of_abandoned
    {operation : Operation}
    {side : Side}
    {objects : List Object}
    {table : Table}
    (wellFormed : session.WellFormed)
    (takes : Table.TakesAll side session.table objects table)
    (growth : Table.Growth session.number side session.table objects table)
    (created : operation.created session = [])
    (withdrawn : operation.withdrawn session = objects)
    (abandoned : (operation.perform session).table = objects.reverse.foldl Table.abandon table) :
    operation.Tallied session where
  uses_eq := by
    intro id
    rw [created, Operation.wasted, withdrawn, abandoned, takes.uses_abandonAll growth wellFormed,
      List.map_nil, List.count_nil, Nat.zero_add]
  generation_eq := by simp [created]

theorem uses_destroyTarget
    (session : Session)
    (target : Object)
    (signature : Signature)
    (id : ObjectId) :
    (session.destroyTarget target signature).1.table.uses id = session.table.uses id := by
  unfold destroyTarget
  split
  · exact Table.uses_destroy ..
  · rfl

theorem bind_tallied
    (id : ObjectId)
    (interface : Interface)
    (version : UInt32) :
    (Operation.bind id interface version).Tallied session := by
  have quiet {failure : Failure}
      (failed : (session.bind id interface version).result = .error failure)
      (same : (session.bind id interface version).session = session.withKnown interface) :
      (Operation.bind id interface version).Tallied session := by
    refine .of_quiet (by simp only [Operation.created, failed]) rfl fun other => ?_
    simp only [Operation.perform, same, withKnown_table]
  have outcome := session.bind_eq id interface version
  split at outcome
  · exact quiet (congrArg Outcome.result outcome) (congrArg Outcome.session outcome)
  · split at outcome
    · exact quiet (congrArg Outcome.result outcome) (congrArg Outcome.session outcome)
    · rename_i object table inserted
      rw [withKnown_table] at inserted
      have counts := Table.counts_insert inserted
      have created : (Operation.bind id interface version).created session = [object] := by
        simp only [Operation.created, outcome]
      refine ⟨fun other => ?_, ?_⟩
      · simp only [Operation.perform, outcome, afterMaking, created, Operation.wasted,
          Operation.withdrawn, counts.uses_eq]
        split
        · rename_i same
          simp [same]
        · rename_i different
          simp [Ne.symm different]
      · rw [created]
        simpa using counts.generation_eq

theorem send_tallied
    (wellFormed : session.WellFormed)
    (transport : Transport)
    (target : Option Object)
    (opcode : UInt16)
    (values : List Passed) :
    (Operation.send transport target opcode values).Tallied session := by
  by_cases admitted : ∃ object signature,
      target = some object ∧ session.Admits object opcode values signature
  · obtain ⟨object, signature, rfl, admits⟩ := admitted
    have outcome := admits.send_eq transport
    have drafted := drafted_of_admits admits
    rcases prepared : prepare object { session } (signature.slots.zip values) with ⟨draft, refusal⟩
    obtain ⟨objects, taken⟩ := prepare_taken wellFormed (.start session) prepared
    rw [prepared, taken.created_eq, List.reverse_reverse] at drafted
    have abandoned : (draft.session.abandonAll draft.created).table =
        objects.reverse.foldl Table.abandon draft.session.table := by
      rw [abandonAll, taken.created_eq]
    -- Whatever goes wrong, all objects of the draft are taken back.
    have failing {failure : Failure}
        (failed :
          (session.send transport (some object) opcode values).1.result = .error failure)
        (next : (session.send transport (some object) opcode values).1.session =
          draft.session.abandonAll draft.created) :
        (Operation.send transport (some object) opcode values).Tallied session := by
      refine .of_abandoned wellFormed taken.takes taken.growth ?_ ?_ ?_
      · simp only [Operation.created, failed]
      · simp only [Operation.withdrawn, failed, drafted]
      · simp only [Operation.perform, next, abandoned]
    rw [prepared] at outcome
    cases refusal with
    | some reason =>
        exact failing (by rw [outcome]; rfl) (by rw [outcome]; rfl)
    | none =>
        simp only at outcome
        unfold write at outcome
        split at outcome
        · exact failing (by rw [outcome]; rfl) (by rw [outcome]; rfl)
        · split at outcome
          · exact failing (by rw [outcome]) (by rw [outcome])
          · refine .of_takesAll taken.takes taken.growth.nodup ?_ ?_ fun id => ?_
            · simp only [Operation.created, outcome, taken.created_eq, List.reverse_reverse]
            · simp only [Operation.withdrawn, outcome]
            · simp only [Operation.perform, outcome]
              exact uses_destroyTarget ..
  · have notAdmits : ∀ object signature, target = some object →
        ¬session.Admits object opcode values signature :=
      fun object signature isTarget admits => admitted ⟨object, signature, isTarget, admits⟩
    rcases send_refused_or_admitted session transport target opcode values with
      ⟨error, -, refused⟩ | admits
    · refine .of_quiet ?_ ?_ fun id => ?_
      · simp only [Operation.created, refused, refuse]
      · simp only [Operation.withdrawn, refused, refuse, drafted_of_not_admits notAdmits]
      · simp only [Operation.perform, refused, refuse]
    · exact absurd admits admitted

theorem decode_tallied
    (wellFormed : session.WellFormed)
    (inbound : Inbound) :
    (Operation.decode inbound).Tallied session := by
  rcases decode_drawn session inbound with
    ⟨error, -, failed, -⟩ | ⟨incoming, references, arrivals, succeeded, drawn, next⟩
  · have created : (Operation.decode inbound).created session = [] := by
      simp only [Operation.created, failed]
    have withdrawn : (Operation.decode inbound).withdrawn session = session.announced inbound := by
      simp only [Operation.withdrawn, failed]
    rcases announced_of_error failed with
      ⟨nothing, same⟩ | ⟨target, entries, arrivals, refusal, accepted, announced, next⟩
    · refine .of_quiet created (withdrawn.trans nothing) fun id => ?_
      simp only [Operation.perform, same]
    · obtain ⟨objects, taken⟩ := acceptAll_taken wellFormed (.start session) accepted
      rw [taken.created_eq, List.reverse_reverse] at announced
      refine .of_abandoned wellFormed taken.takes taken.growth created
        (withdrawn.trans announced) ?_
      simp only [Operation.perform, next, abandonAll, taken.created_eq]
  · obtain ⟨objects, taken⟩ := acceptAll_taken wellFormed (.start session) drawn.accepted
    have made := (drawn.grown wellFormed).1
    rw [taken.created_eq, List.reverse_reverse] at made
    refine .of_takesAll taken.takes taken.growth.nodup ?_ ?_ fun id => ?_
    · simp only [Operation.created, succeeded, made]
    · simp only [Operation.withdrawn, succeeded]
    · simp only [Operation.perform, next]
      exact uses_destroyTarget ..

/-- Every operation but a reset counts what it makes, and what it takes back without the cell. -/
theorem perform_tallied
    (wellFormed : session.WellFormed)
    {operation : Operation}
    (notReset : operation ≠ .reset) :
    operation.Tallied session := by
  cases operation with
  | register interface => exact .of_quiet rfl rfl fun _ => rfl
  | bind id interface version => exact bind_tallied id interface version
  | send transport target opcode values => exact send_tallied wellFormed transport target opcode values
  | decode inbound => exact decode_tallied wellFormed inbound
  | release id =>
      refine .of_quiet rfl rfl fun other => ?_
      simp only [Operation.perform, release]
      cases released : session.table.release id with
      | error fault => rfl
      | ok table => exact Table.uses_release released other
  | reset => exact absurd rfl notReset

end Tallying

/-! ### Runs -/

/-- How many objects an id had since the last reset, after one more event. -/
def Event.tally
    (id : ObjectId)
    (made : Nat) :
    Event → Nat
  | .created object => if object.id = id then made + 1 else made
  | .reset => 0
  | _ => made

/-- How many objects were made at an id since the last reset of a history. -/
def madeAt
    (history : List Event)
    (id : ObjectId) :
    Nat :=
  history.foldl (Event.tally id) 0

/-- How often an id was counted for nothing since the last reset, after one more operation. -/
def Operation.wastedAfter
    (session : Session)
    (id : ObjectId)
    (count : Nat) :
    Operation → Nat
  | .reset => 0
  | operation => count + (operation.wasted session).count id

/-- How often an id was counted for nothing since the last reset, after a run of operations. -/
def wastedAt
    (session : Session)
    (id : ObjectId)
    (count : Nat) :
    List Operation → Nat
  | [] => count
  | operation :: operations =>
      wastedAt (operation.perform session) id (operation.wastedAfter session id count) operations

section Running

variable {session : Session} {history : List Event} {operation : Operation}

theorem madeAt_append
    (history events : List Event)
    (id : ObjectId) :
    madeAt (history ++ events) id = events.foldl (Event.tally id) (madeAt history id) :=
  List.foldl_append

/-- Every creation at an id adds to its objects. -/
theorem foldl_tally_created
    (objects : List Object)
    (id : ObjectId)
    (made : Nat) :
    (objects.map Event.created).foldl (Event.tally id) made =
      made + (objects.map Object.id).count id := by
  induction objects generalizing made with
  | nil => rfl
  | cons object objects inductionHypothesis =>
      rw [List.map_cons, List.foldl_cons, inductionHypothesis, List.map_cons, List.count_cons,
        Event.tally]
      by_cases atId : object.id = id
      · simp only [atId, if_true, beq_self_eq_true]
        omega
      · simp [atId]

/-- No operation but a reset takes objects from those that an id had. -/
theorem foldl_tally_endings
    (notReset : operation ≠ .reset)
    (id : ObjectId)
    (made : Nat) :
    (operation.endings session).foldl (Event.tally id) made = made := by
  have stays : ∀ event ∈ operation.endings session, Event.tally id made event = made := by
    intro event member
    rcases mem_endings member with ⟨isReset, -⟩ | ⟨means, object, rfl⟩ | ⟨freed, rfl⟩
    · exact absurd isReset notReset
    · rfl
    · rfl
  generalize operation.endings session = endings at stays
  induction endings with
  | nil => rfl
  | cons event endings inductionHypothesis =>
      rw [List.foldl_cons, stays event (by simp)]
      exact inductionHypothesis fun later member => stays later (by simp [member])

/-- An operation adds what it makes at an id to the objects that the id had. -/
theorem madeAt_perform
    (notReset : operation ≠ .reset)
    (id : ObjectId) :
    madeAt (history ++ operation.events session) id =
      madeAt history id + ((operation.created session).map Object.id).count id := by
  rw [madeAt_append, Operation.events, List.foldl_append, foldl_tally_created,
    foldl_tally_endings notReset]

theorem Operation.wastedAfter_of_ne_reset
    (notReset : operation ≠ .reset)
    (id : ObjectId)
    (count : Nat) :
    operation.wastedAfter session id count = count + (operation.wasted session).count id := by
  cases operation with
  | reset => exact absurd rfl notReset
  | _ => rfl

/-- The count of an id is that of its objects and of what was counted for nothing, before and after an
operation. -/
theorem uses_perform
    (wellFormed : session.WellFormed)
    (operation : Operation)
    {id : ObjectId}
    {count : Nat}
    (counted : session.table.uses id = UInt32.ofNat (madeAt history id + count)) :
    (operation.perform session).table.uses id =
      UInt32.ofNat (madeAt (history ++ operation.events session) id +
        operation.wastedAfter session id count) := by
  by_cases isReset : operation = .reset
  · subst isReset
    have nothing : madeAt (history ++ Operation.events session .reset) id = 0 := by
      rw [madeAt_append]
      rfl
    rw [nothing]
    exact Table.uses_empty _ id
  · rw [(perform_tallied wellFormed isReset).uses_eq, counted, madeAt_perform isReset,
      Operation.wastedAfter_of_ne_reset isReset, ← UInt32.ofNat_add]
    congr 1
    omega

/-- The count of an id is that of its objects and of what was counted for nothing, through every run. -/
theorem uses_performAll
    (follows : Follows history session)
    (operations : List Operation)
    {id : ObjectId}
    {count : Nat}
    (counted : session.table.uses id = UInt32.ofNat (madeAt history id + count)) :
    (session.performAll operations).table.uses id =
      UInt32.ofNat (madeAt (history ++ historyOf session operations) id +
        session.wastedAt id count operations) := by
  induction operations generalizing session history count with
  | nil => simpa [historyOf, Session.performAll, wastedAt] using counted
  | cons operation operations inductionHypothesis =>
      have one := (perform_effect follows.wellFormed operation).follows follows
      have rest := inductionHypothesis one (uses_perform follows.wellFormed operation counted)
      rwa [List.append_assoc] at rest

/-- What a run makes carries the count of its id. -/
theorem generation_of_created
    (number : Nat)
    (side : Side)
    (operations : List Operation)
    (operation : Operation) :
    ∀ object ∈ operation.created ((fresh number side).performAll operations),
      object.generation =
        UInt32.ofNat (madeAt (historyOf (fresh number side) operations) object.id +
          (fresh number side).wastedAt object.id 0 operations + 1) := by
  intro object member
  have follows := follows_run number side operations
  have notReset : operation ≠ .reset := by
    rintro rfl
    cases member
  have start : (fresh number side).table.uses object.id =
      UInt32.ofNat (madeAt [] object.id + 0) := Table.uses_empty 1 object.id
  have counted := uses_performAll (follows_fresh number side) operations start
  rw [(perform_tallied follows.wellFormed notReset).generation_eq object member, counted,
    List.nil_append, UInt32.ofNat_add _ 1]
  rfl

end Running

end Wayland.Session
