import Mathlib.Data.List.Perm.Basic
import Mathlib.Data.List.Nodup
import Wayland.Proofs.Session.History

/-!
Contract: the live objects of a session.

Owns:
- the live objects of a table, as a list, and that a table counts them;
- that every operation keeps the balance: what it makes is added, what it destroys is taken away, and
  a reset drops the rest.

Does not own: what the objects are counted for.
-/

namespace Wayland.Session

open Wayland.Wire

def Cell.object?
    (cell : Cell) :
    Option Object :=
  match cell.occupant with
  | .live object => some object
  | _ => none

def Event.ended? : Event → Option Object
  | .destroyed _ object => some object
  | _ => none

namespace Table

/-- The live objects of a table, those of the client first. -/
def objects
    (table : Table) :
    List Object :=
  (table.client.cells ++ table.server.cells).filterMap Cell.object?

section Living

variable {session : Nat} {table next : Table} {object : Object} {side : Side}

theorem isSome_object?
    (cell : Cell) :
    cell.object?.isSome = cell.isLive := by
  unfold Cell.object? Cell.isLive
  cases cell.occupant <;> rfl

/-- A table counts its live objects. -/
theorem WellFormed.live_eq_length
    (wellFormed : table.WellFormed session) :
    table.live = table.objects.length := by
  rw [wellFormed.live_eq, objects, List.length_filterMap_eq_countP, List.countP_append]
  simp only [isSome_object?]
  rfl

/-- An object in a cell of a range is live at its id. -/
theorem WellFormed.status_of_cell
    (wellFormed : table.WellFormed session)
    {index : Nat}
    {cell : Cell}
    (stored : (table.arena side).cells[index]? = some cell)
    (isThere : cell.object? = some object) :
    object.id = (IdRange.ofSide side).id index ∧ table.status object.id = .live object := by
  obtain ⟨occupant, generation⟩ := cell
  cases occupant with
  | live found =>
      obtain rfl : found = object := Option.some.inj isThere
      have atId := ((wellFormed.arena side).fitting _ _ _ stored).id_eq
      have small : index < (IdRange.ofSide side).size :=
        Nat.lt_of_lt_of_le (List.getElem?_eq_some_iff.mp stored).1 (wellFormed.arena side).length_le
      refine ⟨atId, ?_⟩
      rw [atId, status_of_side (sideOfId?_id small), IdRange.index_id small, Arena.status, stored]
      rfl
  | free => cases isThere
  | destroyed => cases isThere

/-- The live objects of a table are those that stand at their ids. -/
theorem WellFormed.mem_objects_iff
    (wellFormed : table.WellFormed session)
    (object : Object) :
    object ∈ table.objects ↔ table.status object.id = .live object := by
  unfold objects
  rw [List.mem_filterMap]
  constructor
  · rintro ⟨cell, member, isThere⟩
    rcases List.mem_append.mp member with inClient | inServer
    · obtain ⟨index, stored⟩ := List.mem_iff_getElem?.mp inClient
      exact (@WellFormed.status_of_cell _ _ _ .client wellFormed _ _ stored isThere).2
    · obtain ⟨index, stored⟩ := List.mem_iff_getElem?.mp inServer
      exact (@WellFormed.status_of_cell _ _ _ .server wellFormed _ _ stored isThere).2
  · intro live
    have taken : table.status object.id ≠ .vacant := by simp [live]
    obtain ⟨side, inside⟩ := side_of_status taken
    rw [status_of_side inside] at live
    obtain ⟨generation, stored⟩ := Arena.cell_of_status_live live
    refine ⟨⟨.live object, generation⟩, ?_, rfl⟩
    cases side with
    | client => exact List.mem_append_left _ (List.mem_of_getElem? stored)
    | server => exact List.mem_append_right _ (List.mem_of_getElem? stored)

/-- The objects of one range are different. -/
theorem WellFormed.nodup_range
    (wellFormed : table.WellFormed session)
    (side : Side) :
    ((table.arena side).cells.filterMap Cell.object?).Nodup := by
  rw [List.Nodup, List.pairwise_filterMap, List.pairwise_iff_getElem]
  intro index later below laterBelow before first firstThere second secondThere same
  have small (position : Nat) (inside : position < (table.arena side).cells.length) :
      position < (IdRange.ofSide side).size :=
    Nat.lt_of_lt_of_le inside (wellFormed.arena side).length_le
  have firstId :=
    (wellFormed.status_of_cell (List.getElem?_eq_getElem below) firstThere).1
  have secondId :=
    (wellFormed.status_of_cell (List.getElem?_eq_getElem laterBelow) secondThere).1
  have sameIndex : index = later := by
    rw [← IdRange.index_id (small index below), ← IdRange.index_id (small later laterBelow),
      ← firstId, ← secondId, same]
  omega

theorem WellFormed.nodup_objects
    (wellFormed : table.WellFormed session) :
    table.objects.Nodup := by
  unfold objects
  rw [List.filterMap_append]
  refine List.Nodup.append (wellFormed.nodup_range .client) (wellFormed.nodup_range .server) ?_
  intro object inClient inServer
  -- An id is in one of the two ranges only.
  have place (side : Side) (member : object ∈ (table.arena side).cells.filterMap Cell.object?) :
      sideOfId? object.id = some side := by
    obtain ⟨cell, isCell, isThere⟩ := List.mem_filterMap.mp member
    obtain ⟨index, stored⟩ := List.mem_iff_getElem?.mp isCell
    rw [(wellFormed.status_of_cell stored isThere).1]
    exact sideOfId?_id (Nat.lt_of_lt_of_le (List.getElem?_eq_some_iff.mp stored).1
      (wellFormed.arena side).length_le)
  have clientSide := place .client inClient
  rw [place .server inServer] at clientSide
  cases clientSide

/-- Tables with the same statuses have the same objects. -/
theorem objects_perm
    (wellFormed : table.WellFormed session)
    (nextWellFormed : next.WellFormed session)
    (status_eq : ∀ id, next.status id = table.status id) :
    next.objects.Perm table.objects := by
  rw [List.perm_ext_iff_of_nodup nextWellFormed.nodup_objects wellFormed.nodup_objects]
  intro object
  rw [nextWellFormed.mem_objects_iff, wellFormed.mem_objects_iff, status_eq]

/-- A table with one more object. -/
theorem objects_perm_cons
    (wellFormed : table.WellFormed session)
    (nextWellFormed : next.WellFormed session)
    (notLive : ∀ other, table.status object.id ≠ .live other)
    (status_eq : ∀ id, next.status id = if id = object.id then .live object else table.status id) :
    next.objects.Perm (object :: table.objects) := by
  have isNew : object ∉ table.objects := by
    rw [wellFormed.mem_objects_iff]
    exact notLive object
  rw [List.perm_ext_iff_of_nodup nextWellFormed.nodup_objects
    (List.nodup_cons.mpr ⟨isNew, wellFormed.nodup_objects⟩)]
  intro other
  rw [List.mem_cons, nextWellFormed.mem_objects_iff, wellFormed.mem_objects_iff, status_eq]
  split
  · rename_i sameId
    rw [Status.live.injEq]
    constructor
    · exact fun same => Or.inl same.symm
    · rintro (same | live)
      · exact same.symm
      · rw [sameId] at live
        exact absurd live (notLive other)
  · rename_i differentId
    constructor
    · exact Or.inr
    · rintro (rfl | live)
      · exact absurd rfl differentId
      · exact live

/-- A table that grew has the new objects as well. -/
theorem Growth.objects_perm
    {objects : List Object}
    (growth : Growth session side table objects next)
    (wellFormed : table.WellFormed session) :
    next.objects.Perm (objects ++ table.objects) := by
  induction growth with
  | start => exact .refl _
  | @step objects middle object next before gains inductionHypothesis =>
      have one := objects_perm_cons (before.wellFormed wellFormed) gains.wellFormed
        (by simp [gains.vacant]) gains.status_eq
      rw [List.append_assoc]
      exact (one.trans (inductionHypothesis.cons object)).trans List.perm_middle.symm

/-- A table whose object was destroyed has the others. -/
theorem objects_perm_destroy
    (wellFormed : table.WellFormed session)
    (live : table.status object.id = .live object) :
    table.objects.Perm (object :: (table.destroy object.id).objects) := by
  have turns := turns_destroy wellFormed live
  refine objects_perm_cons turns.wellFormed wellFormed ?_ fun id => ?_
  · intro other
    simp [turns.status_eq]
  · rw [turns.status_eq]
    split
    · rename_i same
      rw [same, live]
    · rfl

theorem objects_empty
    (epochs : UInt64) :
    objects { epochs } = [] :=
  rfl

end Living

end Table

section Balancing

variable {session next : Session} {allowed : Side → Prop} {objects : List Object}
variable {endings : List Event}

/-- What was there and what was made is still there or was destroyed, unless all was dropped. -/
theorem Effect.objects_perm
    (effect : Effect session allowed objects endings next)
    (wellFormed : session.WellFormed)
    (noReset : .reset ∉ endings) :
    (objects ++ session.table.objects).Perm
      (endings.filterMap Event.ended? ++ next.table.objects) := by
  cases effect with
  | quiet number _ nextWellFormed status_eq =>
      unfold WellFormed at nextWellFormed
      rw [number] at nextWellFormed
      exact (Table.objects_perm wellFormed nextWellFormed status_eq).symm
  | wellKnown _ _ _ gains =>
      exact (Table.objects_perm_cons wellFormed gains.wellFormed (by simp [gains.vacant])
        gains.status_eq).symm
  | @message side _ table made target signature means _ growth live =>
      have grown := (growth.objects_perm wellFormed).symm
      unfold destroyTarget ended
      split
      · exact grown.trans (Table.objects_perm_destroy (growth.wellFormed wellFormed)
          (growth.status_of_live live))
      · exact grown
  | @released id table released =>
      obtain ⟨gone, turns⟩ := Table.turns_release wellFormed released
      have sameObjects : table.objects.Perm session.table.objects := by
        rw [List.perm_ext_iff_of_nodup turns.wellFormed.nodup_objects wellFormed.nodup_objects]
        intro object
        rw [turns.wellFormed.mem_objects_iff, Table.WellFormed.mem_objects_iff wellFormed,
          turns.status_eq]
        split
        · rename_i same
          rw [same, gone]
          simp
        · rfl
      exact sameObjects.symm
  | reset => simp at noReset

end Balancing

end Wayland.Session
