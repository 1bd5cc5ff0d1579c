import Mathlib.Order.Basic
import Wayland.Proofs.Session.Identity
import Wayland.Proofs.Session.Wear

/-!
Contract: tables of two sessions with objects that stand for each other.

Owns:
- occupants, ranges and tables that match, with the same free cells in the same order;
- that every change of a table, made in both, keeps them matching, whatever was counted in them.

Does not own: which handles stand for each other.
-/

namespace Wayland.Session

open Wayland.Wire

/-- Occupants that stand for each other. -/
inductive Occupant.Matches
    (stands : Object → Object → Prop) :
    Occupant → Occupant → Prop where
  | free : Matches stands .free .free
  | live {object mirror : Object} : stands object mirror →
      Matches stands (.live object) (.live mirror)
  | destroyed : Matches stands .destroyed .destroyed

def Cell.Matches
    (stands : Object → Object → Prop)
    (cell mirror : Cell) : Prop :=
  cell.occupant.Matches stands mirror.occupant

/-- Ranges with matching cells and the same free cells in the same order. -/
structure Arena.Matches
    (stands : Object → Object → Prop)
    (arena mirror : Arena) : Prop where
  cells : ∀ index : Nat, Option.Rel (Cell.Matches stands) arena.cells[index]? mirror.cells[index]?
  free_eq : mirror.free = arena.free

def Table.Matches
    (stands : Object → Object → Prop)
    (table mirror : Table) : Prop :=
  ∀ side, (table.arena side).Matches stands (mirror.arena side)

section Ranges

variable {stands wider : Object → Object → Prop} {arena mirror : Arena} {free : List Nat}

theorem Occupant.Matches.mono
    {occupant other : Occupant}
    (matching : occupant.Matches stands other)
    (le : stands ≤ wider) :
    occupant.Matches wider other := by
  cases matching with
  | free => exact .free
  | live related => exact .live (le _ _ related)
  | destroyed => exact .destroyed

theorem Arena.Matches.mono
    (matching : arena.Matches stands mirror)
    (le : stands ≤ wider) :
    arena.Matches wider mirror where
  cells := by
    intro index
    have carried := matching.cells index
    generalize arena.cells[index]? = cell?, mirror.cells[index]? = mirrorCell? at carried
    cases carried with
    | none => exact .none
    | some related => exact .some (Occupant.Matches.mono related le)
  free_eq := matching.free_eq

theorem Arena.Matches.length_eq
    (matching : arena.Matches stands mirror) :
    mirror.cells.length = arena.cells.length :=
  length_eq_of_rel matching.cells

/-- Ranges go on matching when a cell is replaced in both. -/
theorem Arena.Matches.set
    (matching : arena.Matches stands mirror)
    {cell mirrorCell : Cell}
    (related : cell.Matches stands mirrorCell)
    (index : Nat)
    (free : List Nat) :
    Arena.Matches stands { cells := arena.cells.set index cell, free }
      { cells := mirror.cells.set index mirrorCell, free } where
  cells := by
    intro position
    simp only [List.getElem?_set, matching.length_eq]
    split
    · split
      · exact .some related
      · exact .none
    · exact matching.cells position
  free_eq := rfl

/-- Ranges go on matching when they get as many unused cells. -/
theorem Arena.Matches.append_unused
    (matching : arena.Matches stands mirror)
    (count : Nat)
    (free : List Nat) :
    Arena.Matches stands { cells := arena.cells ++ List.replicate count {}, free }
      { cells := mirror.cells ++ List.replicate count {}, free } where
  cells := by
    intro position
    simp only [List.getElem?_append, matching.length_eq]
    split
    · exact matching.cells position
    · rw [List.getElem?_replicate]
      split
      · exact .some .free
      · exact .none
  free_eq := rfl

/-- Ranges go on matching when their lists of free cells are replaced by the same one. -/
theorem Arena.Matches.with_free
    (matching : arena.Matches stands mirror)
    (free : List Nat) :
    Arena.Matches stands { arena with free } { mirror with free } :=
  ⟨matching.cells, rfl⟩

end Ranges

namespace Table

section Matching

variable {stands wider : Object → Object → Prop} {table mirror : Table} {id : ObjectId} {side : Side}

theorem Matches.mono
    (matching : table.Matches stands mirror)
    (le : stands ≤ wider) :
    table.Matches wider mirror :=
  fun side => (matching side).mono le

theorem Matches.extent_eq
    (matching : table.Matches stands mirror)
    (side : Side) :
    mirror.extent side = table.extent side :=
  (matching side).length_eq

theorem Matches.replace
    (matching : table.Matches stands mirror)
    {arena mirrorArena : Arena}
    (replaced : arena.Matches stands mirrorArena)
    (live mirrorLive : Nat) :
    (table.replace side arena live).Matches stands
      (mirror.replace side mirrorArena mirrorLive) := by
  intro other
  rw [arena_replace, arena_replace]
  split
  · exact replaced
  · exact matching other

/-- What stands at an id in both. -/
theorem Matches.cell?
    (matching : table.Matches stands mirror)
    (id : ObjectId) :
    Option.Rel (Cell.Matches stands) (table.cell? id) (mirror.cell? id) := by
  unfold Table.cell?
  split
  · exact .none
  · exact (matching _).cells _

/-- The objects that a lookup finds stand for each other. -/
theorem Matches.lookup
    (matching : table.Matches stands mirror)
    (id : ObjectId) :
    Option.Rel stands (table.lookup id) (mirror.lookup id) := by
  have carried := matching.cell? id
  unfold Table.lookup
  generalize table.cell? id = cell?, mirror.cell? id = mirrorCell? at carried
  cases carried with
  | none => exact .none
  | @some cell mirrorCell related =>
      obtain ⟨occupant, generation⟩ := cell
      obtain ⟨mirrorOccupant, mirrorGeneration⟩ := mirrorCell
      unfold Cell.Matches at related
      cases related with
      | free => exact .none
      | live related => exact .some related
      | destroyed => exact .none

/-- A new object is put into the same cell of both. -/
theorem Matches.occupy
    (matching : table.Matches stands mirror)
    {arena mirrorArena : Arena}
    (replaced : arena.Matches stands mirrorArena)
    {index : Nat}
    {first second : Blueprint}
    (le : stands ≤ wider)
    (related : wider (table.occupy side arena index first).1
      (mirror.occupy side mirrorArena index second).1) :
    (table.occupy side arena index first).2.Matches wider
      (mirror.occupy side mirrorArena index second).2 := by
  have filled : Cell.Matches wider
      ⟨.live (table.occupy side arena index first).1,
        (table.occupy side arena index first).1.generation⟩
      ⟨.live (mirror.occupy side mirrorArena index second).1,
        (mirror.occupy side mirrorArena index second).1.generation⟩ :=
    Occupant.Matches.live related
  rw [occupy_table, occupy_table, replaced.free_eq]
  exact (matching.mono le).replace ((replaced.mono le).set filled index _) _ _

/-- Two tables make an object each at the same id, and match whenever these stand for each other, or
both refuse. -/
inductive MakeAlike
    (stands : Object → Object → Prop) :
    Except TableFault (Object × Table) → Except TableFault (Object × Table) → Prop where
  | refused (fault : TableFault) : MakeAlike stands (.error fault) (.error fault)
  | made {object mirror : Object} {table mirrorTable : Table} :
      mirror.id = object.id →
        (∀ wider, stands ≤ wider → wider object mirror → table.Matches wider mirrorTable) →
          MakeAlike stands (.ok (object, table)) (.ok (mirror, mirrorTable))

/-- The next free id is the same in both. -/
theorem Matches.allocate
    (matching : table.Matches stands mirror)
    (side : Side)
    (first second : Blueprint) :
    MakeAlike stands (table.allocate side first) (mirror.allocate side second) := by
  have arenas := matching side
  unfold Table.allocate
  simp only [arenas.free_eq, arenas.length_eq]
  split
  · rename_i index free _
    exact .made rfl fun wider le related => matching.occupy (arenas.with_free free) le related
  · split
    · exact .refused .exhausted
    · exact .made rfl fun wider le related =>
        matching.occupy (arenas.append_unused 1 _) le related

/-- A chosen id is accepted or refused in both. -/
theorem Matches.insert
    (matching : table.Matches stands mirror)
    (id : ObjectId)
    (gaps : Bool)
    (first second : Blueprint) :
    MakeAlike stands (table.insert id gaps first) (mirror.insert id gaps second) := by
  unfold Table.insert
  split
  · exact .refused .outOfRange
  · rename_i side _
    have arenas := matching side
    simp only [arenas.free_eq, arenas.length_eq]
    split
    · have carried := arenas.cells ((IdRange.ofSide side).index id)
      generalize (table.arena side).cells[(IdRange.ofSide side).index id]? = cell?,
        (mirror.arena side).cells[(IdRange.ofSide side).index id]? = mirrorCell? at carried
      cases carried with
      | none => exact .refused .inUse
      | @some cell mirrorCell related =>
          obtain ⟨occupant, generation⟩ := cell
          obtain ⟨mirrorOccupant, mirrorGeneration⟩ := mirrorCell
          unfold Cell.Matches at related
          cases related with
          | free =>
              exact .made rfl fun wider le related => matching.occupy (arenas.with_free _) le related
          | live _ => exact .refused .inUse
          | destroyed => exact .refused .inUse
    · split
      · exact .made rfl fun wider le related =>
          matching.occupy (arenas.append_unused 1 _) le related
      · split
        · split
          · exact .refused .outOfRange
          · exact .made rfl fun wider le related =>
              matching.occupy (arenas.append_unused _ _) le related
        · exact .refused .outOfSequence

theorem withArena_eq_replace
    (table : Table)
    (arena : Arena)
    (side : Side) :
    table.withArena arena side = table.replace side arena table.live := by
  cases side <;> rfl

/-- What stands at an id is replaced in both. -/
theorem Matches.setCell
    (matching : table.Matches stands mirror)
    (id : ObjectId)
    {cell mirrorCell : Cell}
    (related : cell.Matches stands mirrorCell) :
    (table.setCell id cell).Matches stands (mirror.setCell id mirrorCell) := by
  unfold Table.setCell
  split
  · exact matching
  · rename_i side _
    simp only [withArena_eq_replace, (matching side).free_eq]
    exact matching.replace ((matching side).set related _ _) _ _

/-- A cell becomes free in both. -/
theorem Matches.free
    (matching : table.Matches stands mirror)
    (id : ObjectId)
    (generation mirrorGeneration : UInt32) :
    (table.free id generation).Matches stands (mirror.free id mirrorGeneration) := by
  have freed : Cell.Matches stands ⟨.free, generation⟩ ⟨.free, mirrorGeneration⟩ :=
    Occupant.Matches.free
  unfold Table.free
  split
  · exact matching
  · rename_i side _
    simp only [withArena_eq_replace, (matching side).free_eq]
    exact matching.replace ((matching side).set freed _ _) _ _

/-- What stands at an id is destroyed in both. -/
theorem Matches.destroy
    (matching : table.Matches stands mirror)
    (id : ObjectId) :
    (table.destroy id).Matches stands (mirror.destroy id) := by
  have carried := matching.cell? id
  unfold Table.destroy
  generalize table.cell? id = cell?, mirror.cell? id = mirrorCell? at carried
  cases carried with
  | none => exact matching
  | @some cell mirrorCell related =>
      obtain ⟨occupant, generation⟩ := cell
      obtain ⟨mirrorOccupant, mirrorGeneration⟩ := mirrorCell
      unfold Cell.Matches at related
      cases related with
      | free => exact matching
      | live _ =>
          have gone : Cell.Matches stands ⟨.destroyed, generation⟩ ⟨.destroyed, mirrorGeneration⟩ :=
            Occupant.Matches.destroyed
          intro side
          have replaced := matching.setCell id gone side
          cases side <;> exact replaced
      | destroyed => exact matching

/-- An id is released in both, or in neither. -/
theorem Matches.release
    (matching : table.Matches stands mirror)
    (id : ObjectId) :
    (∃ fault, table.release id = .error fault ∧ mirror.release id = .error fault) ∨
      ∃ next mirrorNext, table.release id = .ok next ∧ mirror.release id = .ok mirrorNext ∧
        next.Matches stands mirrorNext := by
  have carried := matching.cell? id
  unfold Table.release
  split
  · exact Or.inl ⟨_, rfl, rfl⟩
  · generalize table.cell? id = cell?, mirror.cell? id = mirrorCell? at carried
    cases carried with
    | none => exact Or.inl ⟨_, rfl, rfl⟩
    | @some cell mirrorCell related =>
        obtain ⟨occupant, generation⟩ := cell
        obtain ⟨mirrorOccupant, mirrorGeneration⟩ := mirrorCell
        unfold Cell.Matches at related
        cases related with
        | free => exact Or.inl ⟨_, rfl, rfl⟩
        | live _ => exact Or.inl ⟨_, rfl, rfl⟩
        | destroyed =>
            exact Or.inr ⟨_, _, rfl, rfl, matching.free id generation mirrorGeneration⟩

/-- Tables that resemble matching ones match, if they have the same free cells. -/
theorem Matches.resembles
    (matching : table.Matches stands mirror)
    {next mirrorNext : Table}
    (resembles : table.Resembles next)
    (mirrorResembles : mirror.Resembles mirrorNext)
    (free_eq : ∀ side, (mirrorNext.arena side).free = (next.arena side).free) :
    next.Matches stands mirrorNext := by
  intro side
  refine ⟨fun index => ?_, free_eq side⟩
  have carried := (matching side).cells index
  have left := resembles.cells side index
  have right := mirrorResembles.cells side index
  generalize (table.arena side).cells[index]? = cell?,
    (mirror.arena side).cells[index]? = mirrorCell? at carried left right
  cases carried with
  | none =>
      generalize (next.arena side).cells[index]? = later?,
        (mirrorNext.arena side).cells[index]? = mirrorLater? at left right
      cases left
      cases right
      exact .none
  | some related =>
      generalize (next.arena side).cells[index]? = later?,
        (mirrorNext.arena side).cells[index]? = mirrorLater? at left right
      cases left with
      | some same =>
          cases right with
          | some mirrorSame =>
              unfold Cell.Matches at related
              rw [same.occupant_eq, mirrorSame.occupant_eq] at related
              exact .some related

end Matching

end Table

end Wayland.Session
