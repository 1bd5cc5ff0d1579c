import Wayland.Proofs.Session.Table
import Wayland.Session.Basic

/-!
Contract: changes of handles that leave everything but the messages of their interfaces.

Owns:
- guises, and tables, sessions, values, reports and outcomes under a guise;
- that the operations on tables commute with guises.

Does not own: what sessions do under a guise.
-/

namespace Wayland.Session

open Wayland.Text
open Wayland.Wire

/-- An injective change of handles that leaves everything but the messages of their interfaces. -/
structure Guise where
  map : Object → Object
  injective : Function.Injective map
  session_eq : ∀ object, (map object).session = object.session
  id_eq : ∀ object, (map object).id = object.id
  generation_eq : ∀ object, (map object).generation = object.generation
  version_eq : ∀ object, (map object).version = object.version
  name_eq : ∀ object, (map object).interface.name = object.interface.name

/-- A guise leaves the objects alone that a session is still to make. -/
def Guise.Spares
    (guise : Guise)
    (session : Session) : Prop :=
  ∀ object : Object, object.session = session.number → session.made ≤ object.serial →
    guise.map object = object

/-! ## Data under a guise -/

section Data

def Occupant.under
    (guise : Guise) :
    Occupant → Occupant
  | .free => .free
  | .live object => .live (guise.map object)
  | .destroyed => .destroyed

def Cell.under
    (guise : Guise)
    (cell : Cell) :
    Cell :=
  { cell with occupant := cell.occupant.under guise }

def Arena.under
    (guise : Guise)
    (arena : Arena) :
    Arena :=
  { arena with cells := arena.cells.map (Cell.under guise) }

def Table.under
    (guise : Guise)
    (table : Table) :
    Table :=
  { table with
    client := table.client.under guise
    server := table.server.under guise }

def under
    (guise : Guise)
    (session : Session) :
    Session :=
  { session with table := session.table.under guise }

def Passed.under
    (guise : Guise)
    (passed : Passed) :
    Passed :=
  { passed with handle := passed.handle.map guise.map }

def ArgumentFault.under
    (guise : Guise) :
    ArgumentFault → ArgumentFault
  | .foreign object => .foreign (guise.map object)
  | .stale object => .stale (guise.map object)
  | .wrongInterface object wanted => .wrongInterface (guise.map object) wanted
  | fault => fault

def Reason.under
    (guise : Guise) :
    Reason → Reason
  | .argument fault name => .argument (fault.under guise) name
  | reason => reason

def Error.under
    (guise : Guise)
    (error : Error) :
    Error :=
  { error with reason := error.reason.under guise }

def Failure.under
    (guise : Guise) :
    Failure → Failure
  | .refused error => .refused (error.under guise)
  | .write object message text => .write (guise.map object) message text
  | .handler object message text => .handler (guise.map object) message text

def Outcome.under
    {α : Type}
    (guise : Guise)
    (value : α → α)
    (outcome : Outcome α) :
    Outcome α :=
  { session := outcome.session.under guise
    records := outcome.records
    result := (outcome.result.map value).mapError (Failure.under guise) }

def Draft.under
    (guise : Guise)
    (draft : Draft) :
    Draft :=
  { draft with
    session := draft.session.under guise
    created := draft.created.map guise.map }

def Arrivals.under
    (guise : Guise)
    (arrivals : Arrivals) :
    Arrivals :=
  { session := arrivals.session.under guise
    created := arrivals.created.map guise.map
    objects := arrivals.objects.map (Option.map guise.map) }

def Incoming.under
    (guise : Guise)
    (incoming : Incoming) :
    Incoming :=
  { incoming with
    target := guise.map incoming.target
    objects := incoming.objects.map (Option.map guise.map) }

end Data

/-! ## Tables -/

namespace Table

variable (guise : Guise) {table : Table} {blueprint : Blueprint}

theorem arena_under
    (side : Side) :
    (table.under guise).arena side = (table.arena side).under guise := by
  cases side <;> rfl

theorem withArena_under
    (arena : Arena)
    (side : Side) :
    (table.under guise).withArena (arena.under guise) side =
      (table.withArena arena side).under guise := by
  cases side <;> rfl

theorem cell?_under
    (id : ObjectId) :
    (table.under guise).cell? id = (table.cell? id).map (Cell.under guise) := by
  unfold cell?
  split
  · rfl
  · rw [arena_under]
    exact List.getElem?_map

theorem lookup_under
    (id : ObjectId) :
    (table.under guise).lookup id = (table.lookup id).map guise.map := by
  unfold lookup
  rw [cell?_under]
  rcases table.cell? id with _ | ⟨occupant, generation⟩
  · rfl
  · cases occupant <;> rfl

theorem isDestroyed_under
    (id : ObjectId) :
    (table.under guise).isDestroyed id = table.isDestroyed id := by
  unfold isDestroyed
  rw [cell?_under]
  rcases table.cell? id with _ | ⟨occupant, generation⟩
  · rfl
  · cases occupant <;> rfl

theorem replace_under
    (side : Side)
    (arena : Arena)
    (live : Nat) :
    (table.under guise).replace side (arena.under guise) live =
      (table.replace side arena live).under guise := by
  cases side <;> rfl

@[simp]
theorem under_free
    (arena : Arena) :
    (arena.under guise).free = arena.free :=
  rfl

@[simp]
theorem length_under
    (arena : Arena) :
    (arena.under guise).cells.length = arena.cells.length :=
  List.length_map _

theorem set_under
    (cells : List Cell)
    (index : Nat)
    (cell : Cell) :
    (cells.map (Cell.under guise)).set index (cell.under guise) =
      (cells.set index cell).map (Cell.under guise) :=
  List.map_set.symm

/-- What is made of a blueprint is the same object when the guise leaves it alone. -/
theorem occupy_under
    (spared : ∀ object : Object, object.blueprint = blueprint → guise.map object = object)
    (side : Side)
    (cells : List Cell)
    (free : List Nat)
    (index : Nat) :
    (table.under guise).occupy side ⟨cells.map (Cell.under guise), free⟩ index blueprint =
      ((table.occupy side ⟨cells, free⟩ index blueprint).1,
        (table.occupy side ⟨cells, free⟩ index blueprint).2.under guise) := by
  have generation :
      (((cells.map (Cell.under guise))[index]?).getD {}).generation =
        ((cells[index]?).getD {}).generation := by
    rw [List.getElem?_map]
    cases cells[index]? <;> rfl
  have object :
      ((table.under guise).occupy side ⟨cells.map (Cell.under guise), free⟩ index blueprint).1 =
        (table.occupy side ⟨cells, free⟩ index blueprint).1 := by
    rw [occupy_object, occupy_object, generation]
  have cell :
      Cell.under guise ⟨.live (table.occupy side ⟨cells, free⟩ index blueprint).1,
          (table.occupy side ⟨cells, free⟩ index blueprint).1.generation⟩ =
        ⟨.live (table.occupy side ⟨cells, free⟩ index blueprint).1,
          (table.occupy side ⟨cells, free⟩ index blueprint).1.generation⟩ := by
    have same := spared (table.occupy side ⟨cells, free⟩ index blueprint).1 rfl
    simp only [Cell.under, Occupant.under, same]
  refine Prod.ext object ?_
  rw [occupy_table, occupy_table, object, ← replace_under]
  refine congrArg (fun cells => (table.under guise).replace side ⟨cells, free⟩ _) ?_
  rw [← set_under, cell]

/-- Cells that were never taken look the same. -/
theorem occupy_longer_under
    (spared : ∀ object : Object, object.blueprint = blueprint → guise.map object = object)
    (side : Side)
    (cells : List Cell)
    (count : Nat)
    (free : List Nat)
    (index : Nat) :
    (table.under guise).occupy side
        ⟨cells.map (Cell.under guise) ++ List.replicate count ({} : Cell), free⟩ index blueprint =
      ((table.occupy side ⟨cells ++ List.replicate count ({} : Cell), free⟩ index blueprint).1,
        (table.occupy side ⟨cells ++ List.replicate count ({} : Cell), free⟩ index blueprint).2.under
          guise) := by
  rw [← occupy_under guise spared, List.map_append, List.map_replicate]
  rfl

theorem allocate_under
    (spared : ∀ object : Object, object.blueprint = blueprint → guise.map object = object)
    (side : Side) :
    (table.under guise).allocate side blueprint =
      (table.allocate side blueprint).map fun made => (made.1, made.2.under guise) := by
  simp only [allocate, arena_under, under_free, length_under]
  split
  · exact congrArg Except.ok (occupy_under guise spared side (table.arena side).cells _ _)
  · split
    · rfl
    · exact congrArg Except.ok
        (occupy_longer_under guise spared side (table.arena side).cells 1 _ _)

theorem insert_under
    (spared : ∀ object : Object, object.blueprint = blueprint → guise.map object = object)
    (id : ObjectId)
    (gaps : Bool) :
    (table.under guise).insert id gaps blueprint =
      (table.insert id gaps blueprint).map fun made => (made.1, made.2.under guise) := by
  unfold insert
  split
  · rfl
  · rename_i side _
    simp only [arena_under, under_free, length_under]
    split
    · have cell :
          ((table.arena side).under guise).cells[(IdRange.ofSide side).index id]? =
            ((table.arena side).cells[(IdRange.ofSide side).index id]?).map (Cell.under guise) :=
        List.getElem?_map
      rw [cell]
      rcases (table.arena side).cells[(IdRange.ofSide side).index id]? with _ | ⟨occupant, _⟩
      · rfl
      · cases occupant with
        | free => exact congrArg Except.ok (occupy_under guise spared side (table.arena side).cells _ _)
        | live object => rfl
        | destroyed => rfl
    · split
      · exact congrArg Except.ok
          (occupy_longer_under guise spared side (table.arena side).cells 1 _ _)
      · split
        · split
          · rfl
          · exact congrArg Except.ok
              (occupy_longer_under guise spared side (table.arena side).cells _ _ _)
        · rfl

theorem setCell_under
    (id : ObjectId)
    (cell : Cell) :
    (table.under guise).setCell id (cell.under guise) = (table.setCell id cell).under guise := by
  unfold setCell
  split
  · rfl
  · rename_i side _
    rw [← withArena_under]
    simp only [arena_under, Arena.under, set_under]

theorem destroy_under
    (id : ObjectId) :
    (table.under guise).destroy id = (table.destroy id).under guise := by
  unfold destroy
  rw [cell?_under]
  rcases table.cell? id with _ | ⟨occupant, generation⟩
  · rfl
  · cases occupant with
    | live object =>
        have cleared := @setCell_under guise table id ⟨.destroyed, generation⟩
        exact congrArg (fun cleared : Table => { cleared with live := cleared.live - 1 }) cleared
    | free | destroyed => rfl

theorem free_under
    (id : ObjectId)
    (generation : UInt32) :
    (table.under guise).free id generation = (table.free id generation).under guise := by
  unfold free
  split
  · rfl
  · rename_i side _
    rw [← withArena_under]
    have emptied := set_under guise (table.arena side).cells ((IdRange.ofSide side).index id)
      ⟨.free, generation⟩
    simp only [arena_under, Arena.under, ← emptied]
    rfl

theorem release_under
    (id : ObjectId) :
    (table.under guise).release id = (table.release id).map (Table.under guise) := by
  unfold release
  rw [cell?_under]
  cases sideOfId? id with
  | none => rfl
  | some side =>
      rcases table.cell? id with _ | ⟨occupant, generation⟩
      · rfl
      · cases occupant with
        | destroyed => exact congrArg Except.ok (free_under guise id generation)
        | live object => rfl
        | free => rfl

theorem abandon_under
    (object : Object) :
    (table.under guise).abandon (guise.map object) = (table.abandon object).under guise := by
  unfold abandon
  rw [guise.id_eq, cell?_under]
  rcases sideOfId? object.id with _ | side
  · rfl
  rcases table.cell? object.id with _ | ⟨occupant, generation⟩
  · rfl
  cases occupant with
  | free | destroyed => rfl
  | live occupant =>
      simp only [Option.map_some, Cell.under, Occupant.under, guise.injective.eq_iff, arena_under,
        length_under]
      split
      · split
        · rw [← withArena_under]
          simp only [Arena.under, List.map_take]
          rfl
        · exact @free_under guise { table with live := table.live - 1 } object.id generation
      · rfl

end Table

end Wayland.Session
