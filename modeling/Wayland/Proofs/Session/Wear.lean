import Wayland.Proofs.Session.History
import Wayland.Proofs.Session.Restoring

/-!
Contract: how often cells are taken.

Owns:
- runs in which no cell is taken so often that its count starts again, 2^32 times;
- that taken cells are then counted, as is the last cell of a range, after every run;
- what a message that is refused after such a run leaves behind.

Does not own: what later operations do with what is left.
-/

namespace Wayland.Session

open Wayland.Text
open Wayland.Wire

/-- Every cell that is taken was counted, and so was the last one, which ends the range. -/
structure Arena.Counted
    (arena : Arena) : Prop where
  taken : ∀ cell ∈ arena.cells, cell.occupant ≠ .free → cell.generation ≠ 0
  last : ∀ cell, arena.cells.getLast? = some cell → cell.generation ≠ 0

/-- What an operation may do to the cells of a range: a cell is counted at most once more, a free cell
becomes taken only so, and the range grows only to end in a cell that is taken. -/
structure Arena.Ages
    (arena next : Arena) : Prop where
  counts : ∀ (index : Nat) (former cell : Cell), arena.cells[index]? = some former →
    next.cells[index]? = some cell →
      cell.generation = former.generation ∨ cell.generation = former.generation + 1
  taken : ∀ (index : Nat) (cell : Cell), next.cells[index]? = some cell → cell.occupant ≠ .free →
    (∃ former, arena.cells[index]? = some former ∧ former.occupant ≠ .free) ∨
      cell.generation = ((arena.cells[index]?).getD {}).generation + 1
  length_le : arena.cells.length ≤ next.cells.length
  last : arena.cells.length < next.cells.length →
    ∀ cell, next.cells.getLast? = some cell → cell.occupant ≠ .free

/-- No cell that is still there was counted less often before.  As a count is that of the uses of a
cell modulo 2^32, this says that no cell was used for the 2^32-th time. -/
def Arena.CountsOn
    (arena next : Arena) : Prop :=
  ∀ cells ∈ arena.cells.zip next.cells, cells.1.generation ≤ cells.2.generation

instance
    (arena next : Arena) :
    Decidable (arena.CountsOn next) :=
  inferInstanceAs (Decidable (∀ cells ∈ arena.cells.zip next.cells,
    cells.1.generation ≤ cells.2.generation))

/-- No cell of a table was used so often that its count started again. -/
def Table.CountsOn
    (table next : Table) : Prop :=
  table.client.CountsOn next.client ∧ table.server.CountsOn next.server

instance
    (table next : Table) :
    Decidable (table.CountsOn next) :=
  inferInstanceAs (Decidable (table.client.CountsOn next.client ∧
    table.server.CountsOn next.server))

def Table.Counted
    (table : Table) : Prop :=
  ∀ side, (table.arena side).Counted

section Ranges

variable {arena middle next : Arena}

theorem Arena.Counted.endsTaken
    (counted : arena.Counted) :
    arena.EndsTaken :=
  fun unused => counted.last _ unused rfl

theorem ne_zero_of_le
    {count later : UInt32}
    (notZero : count ≠ 0)
    (le : count ≤ later) :
    later ≠ 0 := by
  rintro rfl
  exact notZero (UInt32.le_zero_iff.mp le)

theorem succ_ne_zero_of_le
    {count : UInt32}
    (le : count ≤ count + 1) :
    count + 1 ≠ 0 := by
  intro again
  rw [again] at le
  rw [UInt32.le_zero_iff.mp le] at again
  cases again

theorem Arena.CountsOn.le
    (countsOn : arena.CountsOn next)
    {index : Nat}
    {former cell : Cell}
    (before : arena.cells[index]? = some former)
    (after : next.cells[index]? = some cell) :
    former.generation ≤ cell.generation :=
  countsOn (former, cell) (List.mem_of_getElem? (List.getElem?_zip_eq_some.mpr ⟨before, after⟩))

/-- A range that ages stays counted, unless the count of a cell starts again. -/
theorem Arena.Ages.counted
    (ages : arena.Ages next)
    (countsOn : arena.CountsOn next)
    (counted : arena.Counted) :
    next.Counted := by
  have taken : ∀ cell ∈ next.cells, cell.occupant ≠ .free → cell.generation ≠ 0 := by
    intro cell member isTaken
    obtain ⟨index, stored⟩ := List.mem_iff_getElem?.mp member
    rcases ages.taken index cell stored isTaken with ⟨former, before, wasTaken⟩ | again
    · exact ne_zero_of_le (counted.taken former (List.mem_of_getElem? before) wasTaken)
        (countsOn.le before stored)
    · rw [again]
      cases before : arena.cells[index]? with
      | none => simp
      | some former =>
          have le := countsOn.le before stored
          rw [again, before] at le
          exact succ_ne_zero_of_le le
  refine ⟨taken, fun cell isLast => ?_⟩
  by_cases longer : arena.cells.length < next.cells.length
  · exact taken cell (List.mem_of_getLast? isLast) (ages.last longer cell isLast)
  · have sameLength : next.cells.length = arena.cells.length :=
      Nat.le_antisymm (Nat.le_of_not_lt longer) ages.length_le
    rw [List.getLast?_eq_getElem?, sameLength] at isLast
    have inside := (List.getElem?_eq_some_iff.mp isLast).1
    have before := List.getElem?_eq_getElem (show arena.cells.length - 1 < arena.cells.length by omega)
    refine ne_zero_of_le (counted.last _ ?_) (countsOn.le before isLast)
    rw [List.getLast?_eq_getElem?, before]

/-- A range in which no cell was taken anew. -/
theorem Arena.ages_of_former
    (former : ∀ (index : Nat) (cell : Cell), next.cells[index]? = some cell →
      ∃ former, arena.cells[index]? = some former ∧
        (cell.generation = former.generation ∨ cell.generation = former.generation + 1) ∧
          (cell.occupant ≠ .free → former.occupant ≠ .free))
    (sameLength : next.cells.length = arena.cells.length) :
    arena.Ages next where
  counts := by
    intro index earlier cell before stored
    obtain ⟨found, isFound, counts, -⟩ := former index cell stored
    rw [before] at isFound
    cases isFound
    exact counts
  taken := by
    intro index cell stored isTaken
    obtain ⟨found, isFound, -, wasTaken⟩ := former index cell stored
    exact Or.inl ⟨found, isFound, wasTaken isTaken⟩
  length_le := Nat.le_of_eq sameLength.symm
  last := by
    intro longer
    omega

theorem Arena.Ages.refl
    (arena : Arena) :
    arena.Ages arena :=
  Arena.ages_of_former (fun _ cell stored => ⟨cell, stored, Or.inl rfl, fun isTaken => isTaken⟩) rfl

end Ranges

/-! ### Operations -/

namespace Table

/-- No range loses a cell, and none has a cell taken without being counted. -/
def Ages
    (table next : Table) : Prop :=
  ∀ side, (table.arena side).Ages (next.arena side)

section Aging

variable {side : Side} {start table next : Table} {objects : List Object}

theorem CountsOn.arena
    (countsOn : table.CountsOn next)
    (side : Side) :
    (table.arena side).CountsOn (next.arena side) := by
  cases side with
  | client => exact countsOn.1
  | server => exact countsOn.2

theorem Ages.counted
    (ages : table.Ages next)
    (countsOn : table.CountsOn next)
    (counted : table.Counted) :
    next.Counted :=
  fun side => (ages side).counted (countsOn.arena side) (counted side)

/-- A table with one range replaced ages as that range does. -/
theorem ages_replace
    {arena : Arena}
    (ages : (table.arena side).Ages arena)
    (live : Nat) :
    table.Ages (table.replace side arena live) := by
  refine (Side.forall_iff side).mpr ⟨?_, ?_⟩
  · rw [arena_replace, if_pos rfl]
    exact ages
  · rw [arena_replace, if_neg (Side.peer_ne side)]
    exact .refl _

/-- A cell after a run is as it was, or was free and holds an object that it was counted for. -/
theorem TakesAll.cell_cases
    (takes : TakesAll side start objects table)
    {index : Nat}
    {cell : Cell}
    (stored : (table.arena side).cells[index]? = some cell) :
    (start.arena side).cells[index]? = some cell ∨
      cell.occupant ≠ .free ∧
        cell.generation = (((start.arena side).cells[index]?).getD {}).generation + 1 := by
  induction takes generalizing cell with
  | start => exact Or.inl stored
  | @step objects table object next takesAll takes inductionHypothesis =>
      cases takes with
      | @reused generation _ wasFree counted =>
          rw [arena_replace, if_pos rfl, List.getElem?_set] at stored
          split at stored
          · rename_i same
            subst same
            split at stored
            · cases stored
              rcases inductionHypothesis wasFree with before | ⟨taken, -⟩
              · rw [before, counted]
                exact Or.inr ⟨by simp, rfl⟩
              · exact absurd rfl taken
            · cases stored
          · exact inductionHypothesis stored
      | fresh _ atEnd counted =>
          rw [arena_replace, if_pos rfl, List.getElem?_append] at stored
          split at stored
          · exact inductionHypothesis stored
          · rename_i past
            have le := takesAll.filled.1
            have beyond : (start.arena side).cells[index]? = none :=
              List.getElem?_eq_none (Nat.le_trans le (Nat.le_of_not_lt past))
            rw [List.getElem?_singleton] at stored
            split at stored
            · cases stored
              rw [beyond, counted]
              exact Or.inr ⟨by simp, rfl⟩
            · cases stored

/-- Objects that take cells one after the other. -/
theorem TakesAll.ages
    (takes : TakesAll side start objects table) :
    start.Ages table := by
  refine (Side.forall_iff side).mpr ⟨⟨?_, ?_, takes.filled.1, ?_⟩, ?_⟩
  · intro index former cell before stored
    rcases takes.cell_cases stored with same | ⟨-, counted⟩
    · rw [before] at same
      cases same
      exact Or.inl rfl
    · rw [before] at counted
      exact Or.inr counted
  · intro index cell stored isTaken
    rcases takes.cell_cases stored with before | ⟨-, counted⟩
    · exact Or.inl ⟨cell, before, isTaken⟩
    · exact Or.inr counted
  · intro longer cell isLast
    rw [List.getLast?_eq_getElem?] at isLast
    rcases takes.cell_cases isLast with before | ⟨isTaken, -⟩
    · have inside := (List.getElem?_eq_some_iff.mp before).1
      omega
    · exact isTaken
  · rw [takes.arena_peer]
    exact .refl _

/-- Tables with the same occupants. -/
theorem Resembles.ages
    (resembles : table.Resembles next) :
    table.Ages next := by
  intro side
  refine Arena.ages_of_former (fun index cell stored => ?_) (resembles.extent_eq side)
  have carried := resembles.cells side index
  rw [stored] at carried
  generalize before : (table.arena side).cells[index]? = former? at carried
  cases carried with
  | some same =>
      refine ⟨_, rfl, ?_, fun isTaken => same.occupant_eq ▸ isTaken⟩
      rcases same with rfl | ⟨-, -, counted⟩
      · exact Or.inl rfl
      · exact Or.inr counted

/-- Destroying changes one cell at most, from a live object to a destroyed one. -/
theorem destroy_cases
    (table : Table)
    (id : ObjectId) :
    table.destroy id = table ∨
      ∃ side object generation,
        sideOfId? id = some side ∧
          (table.arena side).cells[(IdRange.ofSide side).index id]? =
              some ⟨.live object, generation⟩ ∧
            table.destroy id =
              table.replace side
                { table.arena side with
                  cells := (table.arena side).cells.set ((IdRange.ofSide side).index id)
                    ⟨.destroyed, generation⟩ }
                (table.live - 1) := by
  unfold destroy
  split
  · rename_i object generation stored
    cases sideOf : sideOfId? id with
    | none => simp [cell?, sideOf] at stored
    | some side =>
        rw [cell?_of_side sideOf] at stored
        refine Or.inr ⟨side, object, generation, rfl, stored, ?_⟩
        simp only [setCell, sideOf]
        cases side <;> rfl
  · exact Or.inl rfl

/-- A table that ages goes on doing so when an object is destroyed. -/
theorem Ages.destroy
    (ages : table.Ages next)
    (id : ObjectId) :
    table.Ages (next.destroy id) := by
  rcases next.destroy_cases id with unchanged | ⟨side, object, generation, -, stored, destroyed⟩
  · rwa [unchanged]
  · rw [destroyed]
    intro other
    rw [arena_replace]
    split
    · rename_i same
      subst same
      refine ⟨?_, ?_, by simpa using (ages other).length_le, ?_⟩
      · intro index former cell before found
        rw [List.getElem?_set] at found
        split at found
        · rename_i atIndex
          subst atIndex
          split at found
          · cases found
            have counts := (ages other).counts _ _ _ before stored
            exact counts
          · cases found
        · exact (ages other).counts index former cell before found
      · intro index cell found isTaken
        rw [List.getElem?_set] at found
        split at found
        · rename_i atIndex
          subst atIndex
          split at found
          · cases found
            have aged := (ages other).taken _ _ stored (by simp)
            exact aged
          · cases found
        · exact (ages other).taken index cell found isTaken
      · intro longer cell isLast
        rw [List.length_set] at longer
        rw [List.getLast?_eq_getElem?, List.length_set, List.getElem?_set] at isLast
        split at isLast
        · split at isLast
          · cases isLast
            simp
          · cases isLast
        · rw [← List.getLast?_eq_getElem?] at isLast
          exact (ages other).last longer cell isLast
    · exact ages other

/-- Releasing frees one cell. -/
theorem ages_release
    {id : ObjectId}
    (released : table.release id = .ok next) :
    table.Ages next := by
  unfold release at released
  split at released
  · cases released
  · rename_i side inside
    split at released
    · rename_i generation stored
      cases released
      have shape : table.free id generation =
          table.replace side
            { cells := (table.arena side).cells.set ((IdRange.ofSide side).index id)
                ⟨.free, generation⟩
              free := (IdRange.ofSide side).index id :: (table.arena side).free }
            table.live := by
        simp only [free, inside]
        cases side <;> rfl
      rw [shape]
      rw [cell?_of_side inside] at stored
      refine ages_replace (Arena.ages_of_former (fun index cell found => ?_) ?_) _
      · rw [List.getElem?_set] at found
        split at found
        · rename_i same
          subst same
          split at found
          · cases found
            exact ⟨_, stored, Or.inl rfl, fun isTaken => absurd rfl isTaken⟩
          · cases found
        · exact ⟨cell, found, Or.inl rfl, fun isTaken => isTaken⟩
      · rw [List.length_set]
    · cases released

/-- An object at the end of new cells takes the last of them, and the others stay free. -/
theorem ages_occupy_beyond
    {index : Nat}
    {free : List Nat}
    {blueprint : Blueprint}
    (past : table.extent side ≤ index) :
    table.Ages
      (table.occupy side
        { cells := (table.arena side).cells ++
            List.replicate (index - (table.arena side).cells.length + 1) {},
          free }
        index blueprint).2 := by
  unfold extent at past
  rw [occupy_table]
  generalize objectEq : (table.occupy side _ index blueprint).1 = object
  have counted : object.generation = 1 := by
    rw [← objectEq, occupy_object]
    simp [List.getElem?_append, Nat.not_lt_of_le past]
  refine ages_replace ⟨?_, ?_, ?_, ?_⟩ _
  · intro position former cell before stored
    have inside := (List.getElem?_eq_some_iff.mp before).1
    rw [List.getElem?_set_ne (by omega), List.getElem?_append_left inside, before] at stored
    cases stored
    exact Or.inl rfl
  · intro position cell stored isTaken
    rw [List.getElem?_set] at stored
    split at stored
    · rename_i same
      subst same
      have beyond : (table.arena side).cells[index]? = none := List.getElem?_eq_none past
      split at stored
      · cases stored
        rw [beyond, counted]
        exact Or.inr rfl
      · cases stored
    · rw [List.getElem?_append] at stored
      split at stored
      · exact Or.inl ⟨cell, stored, isTaken⟩
      · have unused := List.eq_of_mem_replicate (List.mem_of_getElem? stored)
        rw [unused] at isTaken
        exact absurd rfl isTaken
  · rw [List.length_set, List.length_append]
    exact Nat.le_add_right _ _
  · intro _ cell isLast
    have atEnd : (table.arena side).cells.length +
        (index - (table.arena side).cells.length + 1) - 1 = index := by omega
    rw [List.getLast?_eq_getElem?, List.length_set, List.length_append, List.length_replicate,
      atEnd, List.getElem?_set, if_pos rfl] at isLast
    split at isLast
    · cases isLast
      simp
    · cases isLast

/-- Whichever cell a well-known object takes, it is counted; the cells skipped for it stay free. -/
theorem ages_insert
    {id : ObjectId}
    {gaps : Bool}
    {blueprint : Blueprint}
    {object : Object}
    (inserted : table.insert id gaps blueprint = .ok (object, next)) :
    table.Ages next := by
  obtain ⟨side, inside⟩ := side_of_insert inserted
  have small := IdRange.index_lt_size (sideOfId?_eq_some_iff.mp inside)
  cases inserts_of_insert inside inserted with
  | free stored => exact (TakesAll.step .start (takes_occupy_free small stored)).ages
  | last atEnd =>
      have takes := @takes_occupy_new side table blueprint
        (Nat.lt_of_le_of_lt (Nat.le_of_eq atEnd.symm) small)
      rw [← atEnd] at takes
      exact (TakesAll.step .start takes).ages
  | beyond past => exact ages_occupy_beyond (Nat.le_of_lt past)

theorem counted_empty
    (epochs : UInt64) :
    Counted { epochs } := by
  intro side
  cases side <;> exact ⟨by simp [arena], by simp [arena]⟩

end Aging

end Table

/-- No cell is taken so often in a run that its count starts again. -/
def NeverWears
    (session : Session) :
    List Operation → Prop
  | [] => True
  | operation :: operations =>
      session.table.CountsOn (operation.perform session).table ∧
        NeverWears (operation.perform session) operations

instance NeverWears.decide
    (session : Session)
    (operations : List Operation) :
    Decidable (session.NeverWears operations) :=
  match operations with
  | [] => inferInstanceAs (Decidable True)
  | operation :: operations =>
      let _ := NeverWears.decide (operation.perform session) operations
      inferInstanceAs (Decidable (session.table.CountsOn (operation.perform session).table ∧
        NeverWears (operation.perform session) operations))

section Running

variable {session : Session}

theorem Table.Ages.destroyTarget
    {table : Table}
    {next : Session}
    (ages : table.Ages next.table)
    (target : Object)
    (signature : Signature) :
    table.Ages (next.destroyTarget target signature).1.table := by
  unfold Session.destroyTarget
  split
  · exact ages.destroy target.id
  · exact ages

/-- Making a well-known object takes at most one cell. -/
theorem bind_ages
    (id : ObjectId)
    (interface : Interface)
    (version : UInt32) :
    session.table.Ages (session.bind id interface version).session.table := by
  have same : session.table.Ages (session.withKnown interface).table := by
    rw [withKnown_table]
    exact fun _ => .refl _
  rw [bind_eq]
  split
  · exact same
  · split
    · exact same
    · rename_i object next inserted
      rw [withKnown_table] at inserted
      exact Table.ages_insert inserted

/-- Every operation lets the table age, or drops all its cells. -/
theorem perform_ages
    (wellFormed : session.WellFormed)
    (counted : session.table.Counted)
    (operation : Operation) :
    session.table.Ages (operation.perform session).table ∨
      ∃ epochs, (operation.perform session).table = { epochs } := by
  have ends : ∀ side, (session.table.arena side).EndsTaken := fun side => (counted side).endsTaken
  cases operation with
  | register interface => exact Or.inl fun _ => .refl _
  | bind id interface version => exact Or.inl (bind_ages id interface version)
  | send transport target opcode values =>
      refine Or.inl ?_
      simp only [Operation.perform]
      rcases send_outcome wellFormed (ends _) transport target opcode values with
        ⟨failure, -, unsent⟩ | ⟨objects, draft, object, signature, -, taken, next⟩
      · exact unsent.restored.resembles.ages
      · rw [next]
        exact taken.takes.ages.destroyTarget object signature
  | decode inbound =>
      refine Or.inl ?_
      simp only [Operation.perform]
      rcases decode_outcome wellFormed (ends _) inbound with
        ⟨error, -, -, restored⟩ | ⟨incoming, objects, arrivals, -, taken, next⟩
      · exact restored.resembles.ages
      · rw [next]
        exact taken.takes.ages.destroyTarget incoming.target incoming.signature
  | release id =>
      refine Or.inl ?_
      simp only [Operation.perform, release]
      cases released : session.table.release id with
      | error fault => exact fun _ => .refl _
      | ok table => exact Table.ages_release released
  | reset => exact Or.inr ⟨_, rfl⟩

/-- A counted table stays counted when an operation counts on. -/
theorem perform_counted
    (wellFormed : session.WellFormed)
    (counted : session.table.Counted)
    (operation : Operation)
    (countsOn : session.table.CountsOn (operation.perform session).table) :
    (operation.perform session).table.Counted := by
  rcases perform_ages wellFormed counted operation with ages | ⟨epochs, empty⟩
  · exact ages.counted countsOn counted
  · rw [empty]
    exact Table.counted_empty epochs

/-- Every operation counts each cell at most once, when it takes the cell. -/
theorem perform_counts
    (wellFormed : session.WellFormed)
    (counted : session.table.Counted)
    (operation : Operation)
    {side : Side}
    {index : Nat}
    {former cell : Cell}
    (before : (session.table.arena side).cells[index]? = some former)
    (after : ((operation.perform session).table.arena side).cells[index]? = some cell) :
    cell.generation = former.generation ∨ cell.generation = former.generation + 1 := by
  rcases perform_ages wellFormed counted operation with ages | ⟨epochs, empty⟩
  · exact (ages side).counts index former cell before after
  · rw [empty] at after
    cases side <;> simp [Table.arena] at after

/-- Counts go on unless a cell whose count is the greatest is taken, and its count starts again. -/
theorem countsOn_perform_iff
    (wellFormed : session.WellFormed)
    (counted : session.table.Counted)
    (operation : Operation) :
    session.table.CountsOn (operation.perform session).table ↔
      ∀ (side : Side) (index : Nat) (former cell : Cell),
        (session.table.arena side).cells[index]? = some former →
          ((operation.perform session).table.arena side).cells[index]? = some cell →
            ¬(former.generation.toNat + 1 = Nat.pow 2 32 ∧ cell.generation = 0) := by
  constructor
  · rintro countsOn side index former cell before after ⟨greatest, again⟩
    have le := (countsOn.arena side).le before after
    rw [again, UInt32.le_zero_iff] at le
    rw [le] at greatest
    cases greatest
  · intro noWrap
    have each : ∀ side,
        (session.table.arena side).CountsOn ((operation.perform session).table.arena side) := by
      rintro side ⟨former, cell⟩ member
      obtain ⟨index, found⟩ := List.mem_iff_getElem?.mp member
      obtain ⟨before, after⟩ : _ = some former ∧ _ = some cell :=
        List.getElem?_zip_eq_some.mp found
      have kept := noWrap side index former cell before after
      change former.generation ≤ cell.generation
      rw [UInt32.le_iff_toNat_le]
      rcases perform_counts wellFormed counted operation before after with same | more
      · exact Nat.le_of_eq (congrArg UInt32.toNat same.symm)
      · have bound := former.generation.toNat_lt
        by_cases greatest : former.generation.toNat + 1 = 2 ^ 32
        · refine absurd ⟨greatest, ?_⟩ kept
          rw [more, ← UInt32.toNat_inj, UInt32.toNat_add, UInt32.toNat_one, greatest]
          rfl
        · rw [more, UInt32.toNat_add, UInt32.toNat_one, Nat.mod_eq_of_lt (by omega)]
          omega
    exact ⟨each .client, each .server⟩

/-- A run in which no cell wears keeps the cells counted. -/
theorem NeverWears.counted
    {history : List Event}
    {operations : List Operation}
    (neverWears : session.NeverWears operations)
    (follows : Follows history session)
    (counted : session.table.Counted) :
    (session.performAll operations).table.Counted := by
  induction operations generalizing session history with
  | nil => exact counted
  | cons operation operations inductionHypothesis =>
      obtain ⟨countsOn, rest⟩ := neverWears
      exact inductionHypothesis rest ((perform_effect follows.wellFormed operation).follows follows)
        (perform_counted follows.wellFormed counted operation countsOn)

/-- The cells of a session that was started and ran without wearing any. -/
theorem NeverWears.counted_of_fresh
    {number : Nat}
    {side : Side}
    {operations : List Operation}
    (neverWears : (fresh number side).NeverWears operations) :
    ((fresh number side).performAll operations).table.Counted :=
  neverWears.counted (follows_fresh number side) (Table.counted_empty 1)

end Running

end Wayland.Session
