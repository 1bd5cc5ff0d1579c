import Wayland.Session.Object
import Wayland.Session.Table

/-!
Contract: the ids of a side, and the cells of their range.

Owns:
- the correspondence between the ids of a range and the positions below its size, the two sides,
  and the fact that their ranges share no id and leave out the null id;
- what stands at a position: nothing, a live object, or a destroyed one;
- the representation invariant of a range, and the invariant with one free cell set aside;
- how each change of a cell keeps the invariant and changes the count of live cells.

Does not own: which change an operation makes.
-/

namespace Wayland.Wire.Side

@[simp]
theorem peer_peer
    (side : Side) :
    side.peer.peer = side := by
  cases side <;> rfl

theorem peer_ne
    (side : Side) :
    side.peer ≠ side := by
  cases side <;> simp [peer]

/-- There are no more than two sides. -/
theorem eq_or_eq_peer
    (side other : Side) :
    other = side ∨ other = side.peer := by
  cases side <;> cases other <;> simp [peer]

theorem forall_iff
    {P : Side → Prop}
    (side : Side) :
    (∀ other, P other) ↔ P side ∧ P side.peer := by
  refine ⟨fun all => ⟨all side, all side.peer⟩, fun both other => ?_⟩
  rcases eq_or_eq_peer side other with rfl | rfl
  · exact both.1
  · exact both.2

end Wayland.Wire.Side

namespace Wayland.Session

open Wayland.Wire

namespace IdRange

/-- An id lies in a range exactly if its number lies between the ends. -/
theorem contains_iff
    (range : IdRange)
    (id : ObjectId) :
    range.contains id = true ↔ range.first.toNat ≤ id.toNat ∧ id.toNat ≤ range.last.toNat := by
  simp [contains, UInt32.le_iff_toNat_le]

/-- The number of an id of a range is the number of the first one plus the position. -/
theorem toNat_eq_add_index
    {range : IdRange}
    {id : ObjectId}
    (inside : range.contains id = true) :
    id.toNat = range.first.toNat + range.index id := by
  have bounds := (contains_iff range id).mp inside
  have difference : (id - range.first).toNat = id.toNat - range.first.toNat :=
    UInt32.toNat_sub_of_le id range.first (UInt32.le_iff_toNat_le.mpr bounds.1)
  unfold index
  omega

/-- The ends of a side's range. -/
theorem ofSide_bounds
    (side : Side) :
    (ofSide side).first.toNat + (ofSide side).size = (ofSide side).last.toNat + 1 ∧
      (ofSide side).last.toNat < UInt32.size ∧ 0 < (ofSide side).first.toNat := by
  cases side <;> decide

/-- The position of an id of a side's range is below the size of the range. -/
theorem index_lt_size
    {side : Side}
    {id : ObjectId}
    (inside : (ofSide side).contains id = true) :
    (ofSide side).index id < (ofSide side).size := by
  have bounds := (contains_iff _ id).mp inside
  have position := toNat_eq_add_index inside
  have ends := ofSide_bounds side
  omega

/-- The number of the id at a position of a side's range. -/
theorem toNat_id
    {side : Side}
    {index : Nat}
    (small : index < (ofSide side).size) :
    ((ofSide side).id index).toNat = (ofSide side).first.toNat + index := by
  have ends := ofSide_bounds side
  have position : (UInt32.ofNat index).toNat = index :=
    UInt32.toNat_ofNat_of_lt' (by omega)
  unfold id
  rw [UInt32.toNat_add, position]
  exact Nat.mod_eq_of_lt (by simp only [UInt32.size] at ends; omega)

/-- The id at a position of a side's range lies in the range. -/
theorem contains_id
    {side : Side}
    {index : Nat}
    (small : index < (ofSide side).size) :
    (ofSide side).contains ((ofSide side).id index) = true := by
  have ends := ofSide_bounds side
  rw [contains_iff, toNat_id small]
  omega

/-- The position of the id at a position. -/
theorem index_id
    {side : Side}
    {index : Nat}
    (small : index < (ofSide side).size) :
    (ofSide side).index ((ofSide side).id index) = index := by
  have position := toNat_eq_add_index (contains_id small)
  have number := toNat_id small
  omega

/-- The id at the position of an id. -/
theorem id_index
    {side : Side}
    {id : ObjectId}
    (inside : (ofSide side).contains id = true) :
    (ofSide side).id ((ofSide side).index id) = id := by
  apply UInt32.toNat_inj.mp
  rw [toNat_id (index_lt_size inside), ← toNat_eq_add_index inside]

/-- Ids of one range with one position are equal. -/
theorem index_inj
    {side : Side}
    {left right : ObjectId}
    (leftInside : (ofSide side).contains left = true)
    (rightInside : (ofSide side).contains right = true)
    (same : (ofSide side).index left = (ofSide side).index right) :
    left = right := by
  rw [← id_index leftInside, same, id_index rightInside]

end IdRange

/-- An id belongs to a side exactly if the range of the side contains it: no id lies in both. -/
theorem sideOfId?_eq_some_iff
    {id : ObjectId}
    {side : Side} :
    sideOfId? id = some side ↔ (IdRange.ofSide side).contains id = true := by
  have apart : (IdRange.ofSide .client).contains id = true →
      (IdRange.ofSide .server).contains id = true → False := by
    intro client server
    have clientBounds := (IdRange.contains_iff _ id).mp client
    have serverBounds := (IdRange.contains_iff _ id).mp server
    have disjoint : (IdRange.ofSide .client).last.toNat < (IdRange.ofSide .server).first.toNat := by
      decide
    omega
  unfold sideOfId?
  cases client : (IdRange.ofSide .client).contains id <;>
    cases server : (IdRange.ofSide .server).contains id <;> cases side <;> simp_all

/-- The id at a position of a side's range belongs to the side. -/
theorem sideOfId?_id
    {side : Side}
    {index : Nat}
    (small : index < (IdRange.ofSide side).size) :
    sideOfId? ((IdRange.ofSide side).id index) = some side :=
  sideOfId?_eq_some_iff.mpr (IdRange.contains_id small)

/-- An id of a side does not belong to its peer. -/
theorem sideOfId?_ne_peer
    {id : ObjectId}
    {side : Side}
    (inside : sideOfId? id = some side) :
    sideOfId? id ≠ some side.peer := by
  rw [inside]
  simpa using (Side.peer_ne side).symm

/-- The null id belongs to no side. -/
theorem ne_zero_of_sideOfId?
    {id : ObjectId}
    {side : Side}
    (inside : sideOfId? id = some side) :
    id ≠ 0 := by
  rintro rfl
  have bounds := (IdRange.contains_iff _ 0).mp (sideOfId?_eq_some_iff.mp inside)
  have positive := (IdRange.ofSide_bounds side).2.2
  have zero : (0 : ObjectId).toNat = 0 := rfl
  omega

/-- What an id stands for, as far as its users can tell. -/
inductive Status (α : Type) where
  | vacant
  | live (occupant : α)
  | destroyed
deriving DecidableEq, Repr

def Status.map
    {α β : Type}
    (read : α → β) :
    Status α → Status β
  | .vacant => .vacant
  | .live occupant => .live (read occupant)
  | .destroyed => .destroyed

/-- The status of a cell; a free cell and a cell that is not there are both vacant. -/
def Cell.status : Option Cell → Status Object
  | some ⟨.live object, _⟩ => .live object
  | some ⟨.destroyed, _⟩ => .destroyed
  | _ => .vacant

def Cell.isLive
    (cell : Cell) :
    Bool :=
  match cell.occupant with
  | .live _ => true
  | _ => false

/-- An object fits the cell it stands in. -/
structure Object.Occupies
    (object : Object)
    (session : Nat)
    (side : Side)
    (index : Nat)
    (generation : UInt32) : Prop where
  session_eq : object.session = session
  id_eq : object.id = (IdRange.ofSide side).id index
  generation_eq : object.generation = generation
  one_le_version : 1 ≤ object.version
  version_le : object.version ≤ object.interface.version

namespace Arena

def status
    (arena : Arena)
    (index : Nat) :
    Status Object :=
  Cell.status arena.cells[index]?

/-- How many cells hold live objects. -/
def liveCount
    (arena : Arena) :
    Nat :=
  arena.cells.countP Cell.isLive

def IsFreeAt
    (arena : Arena)
    (index : Nat) : Prop :=
  ∃ generation, arena.cells[index]? = some ⟨.free, generation⟩

/-- Every live object fits its cell. -/
def Fitting
    (session : Nat)
    (side : Side)
    (arena : Arena) : Prop :=
  ∀ (index : Nat) (object : Object) (generation : UInt32),
    arena.cells[index]? = some ⟨.live object, generation⟩ →
      object.Occupies session side index generation

/-- The representation invariant of a side's range in the table of a session.  A free cell holds no
object by its type. -/
structure WellFormed
    (session : Nat)
    (side : Side)
    (arena : Arena) : Prop where
  nodup_free : arena.free.Nodup
  mem_free_iff : ∀ index, index ∈ arena.free ↔ arena.IsFreeAt index
  fitting : arena.Fitting session side
  length_le : arena.cells.length ≤ (IdRange.ofSide side).size

/-- The invariant of a range while one free cell is off the list of free cells, to be taken. -/
structure SetAside
    (session : Nat)
    (side : Side)
    (index : Nat)
    (arena : Arena) : Prop where
  nodup_free : arena.free.Nodup
  mem_free_iff : ∀ position, position ∈ arena.free ↔ position ≠ index ∧ arena.IsFreeAt position
  aside : arena.IsFreeAt index
  fitting : arena.Fitting session side
  length_le : arena.cells.length ≤ (IdRange.ofSide side).size

theorem IsFreeAt.lt_length
    {arena : Arena}
    {index : Nat}
    (isFree : arena.IsFreeAt index) :
    index < arena.cells.length := by
  obtain ⟨generation, cell⟩ := isFree
  exact (List.getElem?_eq_some_iff.mp cell).1

theorem IsFreeAt.status_eq
    {arena : Arena}
    {index : Nat}
    (isFree : arena.IsFreeAt index) :
    arena.status index = .vacant := by
  obtain ⟨generation, cell⟩ := isFree
  simp [status, cell, Cell.status]

/-- A vacant position is a free cell or lies past the last cell. -/
theorem isFreeAt_of_status_vacant
    {arena : Arena}
    {index : Nat}
    (vacant : arena.status index = .vacant)
    (inside : index < arena.cells.length) :
    arena.IsFreeAt index := by
  have cell := List.getElem?_eq_getElem inside
  unfold status at vacant
  rw [cell] at vacant
  unfold Cell.status at vacant
  split at vacant
  · cases vacant
  · cases vacant
  · rename_i notLive notDestroyed
    cases stored : arena.cells[index] with
    | mk occupant generation =>
        rw [stored] at cell
        cases occupant with
        | free => exact ⟨generation, cell⟩
        | live object => exact absurd (by rw [stored]) (notLive object generation)
        | destroyed => exact absurd (by rw [stored]) (notDestroyed generation)

/-- The cell of a live status. -/
theorem cell_of_status_live
    {arena : Arena}
    {index : Nat}
    {object : Object}
    (live : arena.status index = .live object) :
    ∃ generation, arena.cells[index]? = some ⟨.live object, generation⟩ := by
  unfold status Cell.status at live
  split at live
  · rename_i occupant generation cell
    cases live
    exact ⟨generation, cell⟩
  · cases live
  · cases live

/-- The cell of a destroyed status. -/
theorem cell_of_status_destroyed
    {arena : Arena}
    {index : Nat}
    (destroyed : arena.status index = .destroyed) :
    ∃ generation, arena.cells[index]? = some ⟨.destroyed, generation⟩ := by
  unfold status Cell.status at destroyed
  split at destroyed
  · cases destroyed
  · rename_i generation cell
    exact ⟨generation, cell⟩
  · cases destroyed

/-- An empty range. -/
theorem wellFormed_empty
    (session : Nat)
    (side : Side) :
    WellFormed session side {} where
  nodup_free := List.nodup_nil
  mem_free_iff := by simp [IsFreeAt]
  fitting := by simp [Fitting]
  length_le := Nat.zero_le _

section Setting

variable {arena : Arena} {session : Nat} {side : Side} {index : Nat} {old cell : Cell}

/-- What stands at a position after one cell was replaced. -/
theorem status_set
    (inside : index < arena.cells.length)
    (cell : Cell)
    (free : List Nat)
    (position : Nat) :
    status { cells := arena.cells.set index cell, free } position =
      if position = index then Cell.status (some cell) else arena.status position := by
  unfold status
  rw [List.getElem?_set]
  by_cases same : index = position
  · subst same
    simp [inside]
  · simp [same, Ne.symm same]

/-- Which cells are free after one cell was replaced. -/
theorem isFreeAt_set
    (inside : index < arena.cells.length)
    (free : List Nat)
    (position : Nat) :
    IsFreeAt { cells := arena.cells.set index cell, free } position ↔
      if position = index then cell.occupant = .free else arena.IsFreeAt position := by
  unfold IsFreeAt
  simp only
  rw [List.getElem?_set]
  by_cases same : index = position
  · subst same
    cases cell
    simp [inside]
  · simp [same, Ne.symm same]

/-- Live objects still fit after one cell was replaced, if the new occupant does. -/
theorem fitting_set
    (fitting : arena.Fitting session side)
    (free : List Nat)
    (fits : ∀ object, cell.occupant = .live object →
      object.Occupies session side index cell.generation) :
    Fitting session side { cells := arena.cells.set index cell, free } := by
  intro position object generation found
  simp only [List.getElem?_set] at found
  by_cases same : index = position
  · subst same
    simp only [if_true] at found
    split at found
    · cases found
      exact fits object rfl
    · cases found
  · rw [if_neg same] at found
    exact fitting position object generation found

/-- The count of live cells after one cell was replaced. -/
theorem liveCount_set
    (stored : arena.cells[index]? = some old)
    (cell : Cell)
    (free : List Nat) :
    liveCount { cells := arena.cells.set index cell, free } + (if old.isLive then 1 else 0) =
      arena.liveCount + (if cell.isLive then 1 else 0) := by
  obtain ⟨inside, found⟩ := List.getElem?_eq_some_iff.mp stored
  unfold liveCount
  rw [List.countP_set inside, found]
  split
  · rename_i wasLive
    have counted : 0 < arena.cells.countP Cell.isLive :=
      List.countP_pos_iff.mpr ⟨old, List.mem_of_getElem? stored, wasLive⟩
    omega
  · omega

/-- An object that fits is put into the cell set aside. -/
theorem SetAside.wellFormed_fill
    (setAside : arena.SetAside session side index)
    {object : Object}
    {generation : UInt32}
    (occupies : object.Occupies session side index generation) :
    WellFormed session side
      { arena with cells := arena.cells.set index ⟨.live object, generation⟩ } where
  nodup_free := setAside.nodup_free
  mem_free_iff := by
    intro position
    rw [isFreeAt_set setAside.aside.lt_length, setAside.mem_free_iff]
    by_cases same : position = index <;> simp [same]
  fitting := fitting_set setAside.fitting _ (by rintro other ⟨⟩; exact occupies)
  length_le := by simpa using setAside.length_le

/-- A live cell becomes destroyed. -/
theorem WellFormed.destroy
    (wellFormed : arena.WellFormed session side)
    {object : Object}
    {generation : UInt32}
    (stored : arena.cells[index]? = some ⟨.live object, generation⟩) :
    WellFormed session side
      { arena with cells := arena.cells.set index ⟨.destroyed, generation⟩ } where
  nodup_free := wellFormed.nodup_free
  mem_free_iff := by
    intro position
    rw [isFreeAt_set (List.getElem?_eq_some_iff.mp stored).1, wellFormed.mem_free_iff]
    by_cases same : position = index
    · subst same
      simp [IsFreeAt, stored]
    · simp [same]
  fitting := fitting_set wellFormed.fitting _ (by rintro other ⟨⟩)
  length_le := by simpa using wellFormed.length_le

/-- A cell that is not free becomes free. -/
theorem WellFormed.free
    (wellFormed : arena.WellFormed session side)
    (stored : arena.cells[index]? = some old)
    (taken : old.occupant ≠ .free)
    (generation : UInt32) :
    WellFormed session side
      { cells := arena.cells.set index ⟨.free, generation⟩, free := index :: arena.free } where
  nodup_free := by
    refine List.nodup_cons.mpr ⟨?_, wellFormed.nodup_free⟩
    rw [wellFormed.mem_free_iff]
    rintro ⟨other, found⟩
    rw [stored] at found
    cases found
    exact taken rfl
  mem_free_iff := by
    intro position
    rw [isFreeAt_set (List.getElem?_eq_some_iff.mp stored).1, List.mem_cons,
      wellFormed.mem_free_iff]
    by_cases same : position = index <;> simp [same]
  fitting := fitting_set wellFormed.fitting _ (by rintro other ⟨⟩)
  length_le := by simpa using wellFormed.length_le

/-- The last cell disappears if it is not free. -/
theorem WellFormed.dropLast
    (wellFormed : arena.WellFormed session side)
    (last : index + 1 = arena.cells.length)
    (stored : arena.cells[index]? = some old)
    (taken : old.occupant ≠ .free) :
    WellFormed session side { arena with cells := arena.cells.take index } where
  nodup_free := wellFormed.nodup_free
  mem_free_iff := by
    intro position
    rw [wellFormed.mem_free_iff]
    unfold IsFreeAt
    simp only
    rw [List.getElem?_take]
    split
    · rfl
    · rename_i past
      constructor
      · intro isFree
        have inside := IsFreeAt.lt_length isFree
        obtain rfl : position = index := by omega
        obtain ⟨generation, found⟩ := isFree
        rw [stored] at found
        cases found
        exact absurd rfl taken
      · rintro ⟨generation, found⟩
        cases found
  fitting := by
    intro position object generation found
    simp only [List.getElem?_take] at found
    split at found
    · exact wellFormed.fitting position object generation found
    · cases found
  length_le := by
    have bound := wellFormed.length_le
    simp only [List.length_take]
    omega

/-- What stands at a position after the last cell disappeared. -/
theorem status_dropLast
    (last : index + 1 = arena.cells.length)
    (position : Nat) :
    status { arena with cells := arena.cells.take index } position =
      if position = index then .vacant else arena.status position := by
  unfold status
  simp only
  rw [List.getElem?_take]
  by_cases same : position = index
  · subst same
    simp [Cell.status]
  · rw [if_neg same]
    split
    · rfl
    · rw [List.getElem?_eq_none (by omega)]

/-- The count of live cells after the last cell disappeared. -/
theorem liveCount_dropLast
    (last : index + 1 = arena.cells.length)
    (stored : arena.cells[index]? = some old) :
    liveCount { arena with cells := arena.cells.take index } + (if old.isLive then 1 else 0) =
      arena.liveCount := by
  obtain ⟨inside, found⟩ := List.getElem?_eq_some_iff.mp stored
  have whole : arena.cells = arena.cells.take index ++ [old] := by
    rw [← found, List.take_append_getElem inside]
    exact (List.take_of_length_le (by omega)).symm
  unfold liveCount
  conv => rhs; rw [whole]
  simp [List.countP_append, List.countP_singleton]

end Setting

section SettingAside

variable {arena : Arena} {session : Nat} {side : Side} {index : Nat}

/-- The newest free cell is taken off the list. -/
theorem WellFormed.setAside_newest
    (wellFormed : arena.WellFormed session side)
    {free : List Nat}
    (newest : arena.free = index :: free) :
    SetAside session side index { arena with free } := by
  have nodup := wellFormed.nodup_free
  rw [newest, List.nodup_cons] at nodup
  have isFree : arena.IsFreeAt index :=
    (wellFormed.mem_free_iff index).mp (by simp [newest])
  refine ⟨nodup.2, ?_, isFree, wellFormed.fitting, wellFormed.length_le⟩
  intro position
  have listed : position ∈ arena.free ↔ arena.IsFreeAt position := wellFormed.mem_free_iff position
  rw [newest, List.mem_cons] at listed
  change position ∈ free ↔ position ≠ index ∧ arena.IsFreeAt position
  rw [← listed]
  constructor
  · intro member
    exact ⟨fun same => nodup.1 (same ▸ member), Or.inr member⟩
  · rintro ⟨different, same | member⟩
    · exact absurd same different
    · exact member

/-- A chosen free cell is taken off the list. -/
theorem WellFormed.setAside_chosen
    (wellFormed : arena.WellFormed session side)
    (isFree : arena.IsFreeAt index) :
    SetAside session side index { arena with free := arena.free.erase index } := by
  refine ⟨wellFormed.nodup_free.erase index, ?_, isFree, wellFormed.fitting,
    wellFormed.length_le⟩
  intro position
  change position ∈ arena.free.erase index ↔ position ≠ index ∧ arena.IsFreeAt position
  rw [wellFormed.nodup_free.mem_erase_iff, wellFormed.mem_free_iff]

/-- The cells of a range that grows up to a position. -/
theorem getElem?_append_replicate
    (cells : List Cell)
    (count position : Nat) :
    (cells ++ List.replicate count ({} : Cell))[position]? =
      if position < cells.length then cells[position]?
      else if position < cells.length + count then some {} else none := by
  rw [List.getElem?_append]
  split
  · rfl
  · rw [List.getElem?_replicate]
    congr 1
    exact propext ⟨fun small => by omega, fun small => by omega⟩

/-- The range grows up to a new cell; the cells before it that are new become free. -/
theorem WellFormed.setAside_new
    (wellFormed : arena.WellFormed session side)
    (past : arena.cells.length ≤ index)
    (small : index < (IdRange.ofSide side).size) :
    SetAside session side index
      { cells := arena.cells ++ List.replicate (index - arena.cells.length + 1) {}
        free := (List.range' arena.cells.length (index - arena.cells.length)).reverse
          ++ arena.free } := by
  have listed : ∀ position, position ∈ arena.free → position < arena.cells.length :=
    fun position member => ((wellFormed.mem_free_iff position).mp member).lt_length
  refine ⟨?_, ?_, ?_, ?_, ?_⟩
  · have newNodup :
        (List.range' arena.cells.length (index - arena.cells.length)).reverse.Nodup :=
      List.pairwise_reverse.mpr ((List.nodup_range' 1).imp Ne.symm)
    refine List.nodup_append.mpr ⟨newNodup, wellFormed.nodup_free, ?_⟩
    intro position new other old same
    have inside := listed other old
    simp only [List.mem_reverse, List.mem_range'_1] at new
    omega
  · intro position
    simp only [List.mem_append, List.mem_reverse, List.mem_range'_1, wellFormed.mem_free_iff,
      IsFreeAt, getElem?_append_replicate]
    by_cases old : position < arena.cells.length
    · simp only [if_pos old]
      have different : position ≠ index := by omega
      simp [different]
      omega
    · have absent : arena.cells[position]? = none := List.getElem?_eq_none (by omega)
      simp only [if_neg old, absent]
      by_cases new : position < arena.cells.length + (index - arena.cells.length + 1)
      · simp [if_pos new]
        omega
      · simp [if_neg new]
        omega
  · refine ⟨0, ?_⟩
    simp only [getElem?_append_replicate]
    rw [if_neg (by omega), if_pos (by omega)]
  · intro position object generation found
    simp only [getElem?_append_replicate] at found
    split at found
    · exact wellFormed.fitting position object generation found
    · split at found <;> cases found
  · simp only [List.length_append, List.length_replicate]
    omega

/-- New cells change no status. -/
theorem status_append_replicate
    (count : Nat)
    (free : List Nat)
    (position : Nat) :
    status { cells := arena.cells ++ List.replicate count {}, free } position =
      arena.status position := by
  unfold status
  simp only [getElem?_append_replicate]
  split
  · rfl
  · rename_i past
    rw [List.getElem?_eq_none (by omega)]
    split <;> rfl

/-- New cells are not live. -/
theorem liveCount_append_replicate
    (count : Nat)
    (free : List Nat) :
    liveCount { cells := arena.cells ++ List.replicate count {}, free } = arena.liveCount := by
  simp [liveCount, List.countP_append, List.countP_replicate, Cell.isLive]

end SettingAside

end Arena

end Wayland.Session
