import Wayland.Proofs.Session.Arena

/-!
Contract: the effect of every change of a table.

Owns:
- the status of an id, and what a lookup tells of it;
- the representation invariant of a table;
- one statement for each change: the id it touches, the status it leaves there, the cells of the
  range, and the invariant;
- runs of new objects, and that giving them back leaves every status as it was.

Does not own: which operation of a session makes which change.
-/

namespace Wayland.Session

open Wayland.Wire

/-- What a blueprint must say for the object to fit into a table. -/
structure Blueprint.Valid
    (blueprint : Blueprint)
    (session : Nat) : Prop where
  session_eq : blueprint.session = session
  one_le_version : 1 ≤ blueprint.version
  version_le : blueprint.version ≤ blueprint.interface.version

def Object.blueprint
    (object : Object) :
    Blueprint :=
  ⟨object.session, object.serial, object.interface, object.version⟩

namespace Table

def status
    (table : Table)
    (id : ObjectId) :
    Status Object :=
  Cell.status (table.cell? id)

/-- How many cells a side's range has. -/
def extent
    (table : Table)
    (side : Side) :
    Nat :=
  (table.arena side).cells.length

/-- The representation invariant of the table of a session. -/
structure WellFormed
    (session : Nat)
    (table : Table) : Prop where
  arena : ∀ side, (table.arena side).WellFormed session side
  live_eq : table.live = (table.arena .client).liveCount + (table.arena .server).liveCount

/-- The status of an id of a side is the one at its position. -/
theorem status_of_side
    {table : Table}
    {id : ObjectId}
    {side : Side}
    (inside : sideOfId? id = some side) :
    table.status id = (table.arena side).status ((IdRange.ofSide side).index id) := by
  simp [status, cell?, inside, Arena.status]

/-- An id of no side is vacant. -/
theorem status_of_no_side
    {table : Table}
    {id : ObjectId}
    (outside : sideOfId? id = none) :
    table.status id = .vacant := by
  simp [status, cell?, outside, Cell.status]

/-- An id that is not vacant belongs to a side. -/
theorem side_of_status
    {table : Table}
    {id : ObjectId}
    (taken : table.status id ≠ .vacant) :
    ∃ side, sideOfId? id = some side := by
  cases sideOf : sideOfId? id with
  | none => exact absurd (status_of_no_side sideOf) taken
  | some side => exact ⟨side, rfl⟩

/-- A lookup finds exactly the live object. -/
theorem lookup_eq_some_iff
    {table : Table}
    {id : ObjectId}
    {object : Object} :
    table.lookup id = some object ↔ table.status id = .live object := by
  unfold lookup status
  cases table.cell? id with
  | none => simp [Cell.status]
  | some cell =>
      obtain ⟨occupant, generation⟩ := cell
      cases occupant <;> simp [Cell.status]

/-- A lookup finds nothing exactly where no object is live. -/
theorem lookup_eq_none_iff
    {table : Table}
    {id : ObjectId} :
    table.lookup id = none ↔ ∀ object, table.status id ≠ .live object := by
  simp only [ne_eq, ← lookup_eq_some_iff]
  exact Option.eq_none_iff_forall_ne_some

/-- A live object of a well-formed table has the id it stands at. -/
theorem WellFormed.id_of_live
    {session : Nat}
    {table : Table}
    (wellFormed : table.WellFormed session)
    {id : ObjectId}
    {object : Object}
    (live : table.status id = .live object) :
    object.id = id := by
  have taken : table.status id ≠ .vacant := by simp [live]
  obtain ⟨side, inside⟩ := side_of_status taken
  rw [status_of_side inside] at live
  obtain ⟨generation, stored⟩ := Arena.cell_of_status_live live
  have occupies := (wellFormed.arena side).fitting _ _ _ stored
  rw [occupies.id_eq]
  exact IdRange.id_index (sideOfId?_eq_some_iff.mp inside)

/-- An id is destroyed exactly if its status says so. -/
theorem isDestroyed_iff
    {table : Table}
    {id : ObjectId} :
    table.isDestroyed id = true ↔ table.status id = .destroyed := by
  unfold isDestroyed status
  cases table.cell? id with
  | none => simp [Cell.status]
  | some cell =>
      obtain ⟨occupant, generation⟩ := cell
      cases occupant <;> simp [Cell.status]

/-- The table with one range and the count of live objects replaced. -/
def replace
    (table : Table)
    (side : Side)
    (arena : Arena)
    (live : Nat) :
    Table :=
  { table.withArena arena side with live }

theorem arena_replace
    (table : Table)
    (side : Side)
    (arena : Arena)
    (live : Nat)
    (other : Side) :
    (table.replace side arena live).arena other =
      if other = side then arena else table.arena other := by
  cases side <;> cases other <;> rfl

theorem extent_replace
    (table : Table)
    (side : Side)
    (arena : Arena)
    (live : Nat) :
    (table.replace side arena live).extent side = arena.cells.length := by
  simp [extent, arena_replace]

theorem extent_replace_peer
    (table : Table)
    (side : Side)
    (arena : Arena)
    (live : Nat) :
    (table.replace side arena live).extent side.peer = table.extent side.peer := by
  cases side <;> rfl

section Replacing

variable {table : Table} {session : Nat} {side : Side} {arena : Arena}

/-- A range that keeps its invariant keeps that of the table, if the count moves with it. -/
theorem WellFormed.replace
    (wellFormed : table.WellFormed session)
    (arenaWellFormed : arena.WellFormed session side)
    {live : Nat}
    (counted : live + (table.arena side).liveCount = table.live + arena.liveCount) :
    (table.replace side arena live).WellFormed session where
  arena := by
    intro other
    rw [arena_replace]
    by_cases same : other = side
    · subst same
      simpa using arenaWellFormed
    · simpa [same] using wellFormed.arena other
  live_eq := by
    have total := wellFormed.live_eq
    change live = _
    cases side <;> simp only [arena_replace, reduceCtorEq, if_true, if_false] <;> omega

/-- A range that changes one status changes that of one id. -/
theorem status_replace
    {index : Nat}
    (small : index < (IdRange.ofSide side).size)
    {new : Status Object}
    (changed : ∀ position,
      arena.status position = if position = index then new else (table.arena side).status position)
    (live : Nat)
    (id : ObjectId) :
    (table.replace side arena live).status id =
      if id = (IdRange.ofSide side).id index then new else table.status id := by
  cases sideOf : sideOfId? id with
  | none =>
      have different : id ≠ (IdRange.ofSide side).id index := by
        rintro rfl
        rw [sideOfId?_id small] at sideOf
        cases sideOf
      rw [if_neg different, status_of_no_side sideOf, status_of_no_side sideOf]
  | some other =>
      rw [status_of_side sideOf, status_of_side sideOf, arena_replace]
      by_cases same : other = side
      · subst same
        have inside := sideOfId?_eq_some_iff.mp sideOf
        simp only [if_true, changed]
        by_cases atIndex : (IdRange.ofSide other).index id = index
        · have isId : id = (IdRange.ofSide other).id index := by
            rw [← atIndex, IdRange.id_index inside]
          rw [if_pos atIndex, if_pos isId]
        · have notId : id ≠ (IdRange.ofSide other).id index := by
            rintro rfl
            exact atIndex (IdRange.index_id small)
          rw [if_neg atIndex, if_neg notId]
      · have different : id ≠ (IdRange.ofSide side).id index := by
          rintro rfl
          rw [sideOfId?_id small] at sideOf
          exact same (Option.some.inj sideOf).symm
        rw [if_neg same, if_neg different]

/-- A cell that is replaced changes the status of its id. -/
theorem status_replace_set
    {id : ObjectId}
    (contained : (IdRange.ofSide side).contains id = true)
    (within : (IdRange.ofSide side).index id < (table.arena side).cells.length)
    (cell : Cell)
    (free : List Nat)
    (live : Nat)
    (other : ObjectId) :
    (table.replace side
        { cells := (table.arena side).cells.set ((IdRange.ofSide side).index id) cell, free }
        live).status other =
      if other = id then Cell.status (some cell) else table.status other := by
  have changed := status_replace (IdRange.index_lt_size contained)
    (fun position => Arena.status_set within cell free position) live other
  rw [IdRange.id_index contained] at changed
  exact changed

end Replacing

/-! ### New objects -/

/-- A new object of a side: its id was vacant, and nothing else changes. -/
structure Gains
    (session : Nat)
    (side : Side)
    (table : Table)
    (object : Object)
    (next : Table) : Prop where
  inside : sideOfId? object.id = some side
  vacant : table.status object.id = .vacant
  status_eq : ∀ id, next.status id = if id = object.id then .live object else table.status id
  wellFormed : next.WellFormed session
  extent_eq :
    next.extent side = max (table.extent side) ((IdRange.ofSide side).index object.id + 1)
  extent_peer : next.extent side.peer = table.extent side.peer

/-- A new object at an id in sequence: one that was used before, or the next one, whose cell is then
used for the first time. -/
structure GainsNext
    (session : Nat)
    (side : Side)
    (table : Table)
    (object : Object)
    (next : Table) : Prop extends Gains session side table object next where
  index_le : (IdRange.ofSide side).index object.id ≤ table.extent side
  first : (IdRange.ofSide side).index object.id = table.extent side → object.generation = 1

section Making

variable {table : Table} {session : Nat} {side : Side} {arena : Arena} {index : Nat}
variable {free : List Nat} {blueprint : Blueprint}

/-- The object that `occupy` makes. -/
theorem occupy_object
    (table : Table)
    (side : Side)
    (arena : Arena)
    (index : Nat)
    (blueprint : Blueprint) :
    (table.occupy side arena index blueprint).1 =
      { session := blueprint.session
        serial := blueprint.serial
        id := (IdRange.ofSide side).id index
        interface := blueprint.interface
        version := blueprint.version
        generation := ((arena.cells[index]?).getD {}).generation + 1 } :=
  rfl

/-- The table that `occupy` leaves. -/
theorem occupy_table
    (table : Table)
    (side : Side)
    (arena : Arena)
    (index : Nat)
    (blueprint : Blueprint) :
    (table.occupy side arena index blueprint).2 =
      table.replace side
        { arena with
          cells := arena.cells.set index
            ⟨.live (table.occupy side arena index blueprint).1,
              (table.occupy side arena index blueprint).1.generation⟩ }
        (table.live + 1) := by
  cases side <;> rfl

/-- Taking a cell set aside makes a new object there. -/
theorem gains_occupy
    (wellFormed : table.WellFormed session)
    (setAside : arena.SetAside session side index)
    (sameStatus : ∀ position, arena.status position = (table.arena side).status position)
    (sameCount : arena.liveCount = (table.arena side).liveCount)
    (reached : arena.cells.length = max (table.extent side) (index + 1))
    (valid : blueprint.Valid session) :
    Gains session side table (table.occupy side arena index blueprint).1
      (table.occupy side arena index blueprint).2 := by
  have inside := setAside.aside.lt_length
  have small : index < (IdRange.ofSide side).size := by
    have bound := setAside.length_le
    omega
  rw [occupy_table]
  generalize objectEq : (table.occupy side arena index blueprint).1 = object
  rw [occupy_object] at objectEq
  have occupies : object.Occupies session side index object.generation := by
    subst objectEq
    exact ⟨valid.session_eq, rfl, rfl, valid.one_le_version, valid.version_le⟩
  obtain ⟨generation, stored⟩ := setAside.aside
  have counted := Arena.liveCount_set stored ⟨.live object, object.generation⟩ arena.free
  simp only [Cell.isLive] at counted
  refine ⟨?_, ?_, ?_, ?_, ?_, extent_replace_peer ..⟩
  · rw [occupies.id_eq]
    exact sideOfId?_id small
  · rw [occupies.id_eq, status_of_side (sideOfId?_id small), IdRange.index_id small, ← sameStatus]
    exact setAside.aside.status_eq
  · intro id
    rw [occupies.id_eq]
    apply status_replace small
    intro position
    rw [Arena.status_set inside]
    split
    · rfl
    · exact sameStatus position
  · apply wellFormed.replace (setAside.wellFormed_fill occupies)
    simp only [Bool.false_eq_true, if_true, if_false] at counted
    omega
  · rw [extent_replace, List.length_set, reached, occupies.id_eq, IdRange.index_id small]

/-- A cell taken for the first time has generation 1. -/
theorem generation_occupy_new
    (table : Table)
    (side : Side)
    (blueprint : Blueprint)
    (cells : List Cell)
    (free : List Nat) :
    (table.occupy side ⟨cells ++ [({} : Cell)], free⟩ cells.length blueprint).1.generation = 1 := by
  rw [occupy_object]
  simp

/-- A new object in a free cell is in sequence. -/
theorem gainsNext_occupy_free
    (wellFormed : table.WellFormed session)
    (setAside : Arena.SetAside session side index { table.arena side with free })
    (valid : blueprint.Valid session) :
    GainsNext session side table
      (table.occupy side { table.arena side with free } index blueprint).1
      (table.occupy side { table.arena side with free } index blueprint).2 := by
  have inside : index < (table.arena side).cells.length := setAside.aside.lt_length
  have small : index < (IdRange.ofSide side).size := by
    have bound := setAside.length_le
    simp only at bound
    omega
  have position : (IdRange.ofSide side).index
      (table.occupy side { table.arena side with free } index blueprint).1.id = index :=
    IdRange.index_id small
  refine ⟨gains_occupy wellFormed setAside (fun _ => rfl) rfl ?_ valid, ?_, ?_⟩
  · exact (Nat.max_eq_left inside).symm
  · rw [position]
    exact Nat.le_of_lt inside
  · rw [position]
    intro atEnd
    exact absurd inside (by rw [atEnd]; exact Nat.lt_irrefl _)

/-- A new object in the next cell is in sequence. -/
theorem gainsNext_occupy_new
    (wellFormed : table.WellFormed session)
    (room : table.extent side < (IdRange.ofSide side).size)
    (valid : blueprint.Valid session) :
    GainsNext session side table
      (table.occupy side { table.arena side with cells := (table.arena side).cells ++ [{}] }
        (table.arena side).cells.length blueprint).1
      (table.occupy side { table.arena side with cells := (table.arena side).cells ++ [{}] }
        (table.arena side).cells.length blueprint).2 := by
  have setAside := (wellFormed.arena side).setAside_new (Nat.le_refl _) room
  simp only [Nat.sub_self, Nat.zero_add, List.replicate_one, List.range'_zero, List.reverse_nil,
    List.nil_append] at setAside
  have position : (IdRange.ofSide side).index
      (table.occupy side { table.arena side with cells := (table.arena side).cells ++ [{}] }
        (table.arena side).cells.length blueprint).1.id = (table.arena side).cells.length :=
    IdRange.index_id room
  refine ⟨gains_occupy wellFormed setAside ?_ ?_ ?_ valid, ?_, ?_⟩
  · exact Arena.status_append_replicate 1 _
  · exact Arena.liveCount_append_replicate 1 _
  · rw [List.length_append, List.length_singleton]
    exact (Nat.max_eq_right (Nat.le_succ _)).symm
  · rw [position]
    exact Nat.le_refl _
  · intro _
    exact generation_occupy_new ..

variable {object : Object} {next : Table} {id : ObjectId}

/-- An object made at the next free id. -/
theorem gainsNext_allocate
    (wellFormed : table.WellFormed session)
    (valid : blueprint.Valid session)
    (allocated : table.allocate side blueprint = .ok (object, next)) :
    GainsNext session side table object next ∧ object.blueprint = blueprint := by
  unfold allocate at allocated
  simp only at allocated
  split at allocated
  · rename_i index free newest
    cases allocated
    have setAside := (wellFormed.arena side).setAside_newest newest
    exact ⟨gainsNext_occupy_free wellFormed setAside valid, rfl⟩
  · split at allocated
    · cases allocated
    · rename_i room
      cases allocated
      exact ⟨gainsNext_occupy_new wellFormed (Nat.lt_of_not_le room) valid, rfl⟩

/-- How an object comes to a chosen position: into a free cell, into a new cell behind the others,
or, where gaps are allowed, into a new cell further on. -/
inductive Inserts
    (table : Table)
    (side : Side)
    (index : Nat)
    (blueprint : Blueprint) :
    Bool → Object × Table → Prop where
  | free {gaps : Bool} {generation : UInt32}
      (stored : (table.arena side).cells[index]? = some ⟨.free, generation⟩) :
      Inserts table side index blueprint gaps
        (table.occupy side { table.arena side with free := (table.arena side).free.erase index }
          index blueprint)
  | last {gaps : Bool}
      (atEnd : index = (table.arena side).cells.length) :
      Inserts table side index blueprint gaps
        (table.occupy side { table.arena side with cells := (table.arena side).cells ++ [{}] }
          index blueprint)
  | beyond
      (past : (table.arena side).cells.length < index) :
      Inserts table side index blueprint true
        (table.occupy side
          { cells := (table.arena side).cells ++
              List.replicate (index - (table.arena side).cells.length + 1) {}
            free := (List.range' (table.arena side).cells.length
              (index - (table.arena side).cells.length)).reverse ++ (table.arena side).free }
          index blueprint)

theorem inserts_of_insert
    {gaps : Bool}
    (inside : sideOfId? id = some side)
    (inserted : table.insert id gaps blueprint = .ok (object, next)) :
    Inserts table side ((IdRange.ofSide side).index id) blueprint gaps (object, next) := by
  unfold insert at inserted
  simp only [inside] at inserted
  split at inserted
  · split at inserted
    · rename_i generation stored
      exact Except.ok.inj inserted ▸ .free stored
    · cases inserted
  · rename_i past
    split at inserted
    · rename_i atEnd
      exact Except.ok.inj inserted ▸ .last atEnd
    · rename_i notAtEnd
      split at inserted
      · rename_i withGaps
        split at inserted
        · cases inserted
        · subst withGaps
          exact Except.ok.inj inserted ▸ .beyond (by omega)
      · cases inserted

/-- An id that is accepted belongs to a side. -/
theorem side_of_insert
    {gaps : Bool}
    (inserted : table.insert id gaps blueprint = .ok (object, next)) :
    ∃ side, sideOfId? id = some side := by
  cases sideOf : sideOfId? id with
  | none => simp [insert, sideOf] at inserted
  | some side => exact ⟨side, rfl⟩

/-- An object made at a chosen id, in sequence if none may be skipped. -/
theorem gains_insert
    (wellFormed : table.WellFormed session)
    (valid : blueprint.Valid session)
    (inside : sideOfId? id = some side)
    {gaps : Bool}
    (inserted : table.insert id gaps blueprint = .ok (object, next)) :
    Gains session side table object next ∧ object.blueprint = blueprint ∧ object.id = id ∧
      (gaps = false → GainsNext session side table object next) := by
  have contained := sideOfId?_eq_some_iff.mp inside
  have back := IdRange.id_index contained
  cases inserts_of_insert inside inserted with
  | free stored =>
      have setAside := (wellFormed.arena side).setAside_chosen ⟨_, stored⟩
      have gains := gainsNext_occupy_free wellFormed setAside valid
      exact ⟨gains.toGains, rfl, back, fun _ => gains⟩
  | last atEnd =>
      have room : table.extent side < (IdRange.ofSide side).size := by
        change (table.arena side).cells.length < _
        rw [← atEnd]
        exact IdRange.index_lt_size contained
      have gains := gainsNext_occupy_new wellFormed room valid
      rw [← atEnd] at gains
      exact ⟨gains.toGains, rfl, back, fun _ => gains⟩
  | beyond past =>
      have setAside := (wellFormed.arena side).setAside_new (Nat.le_of_lt past)
        (IdRange.index_lt_size contained)
      refine ⟨gains_occupy wellFormed setAside (Arena.status_append_replicate _ _)
        (Arena.liveCount_append_replicate _ _) ?_ valid, rfl, back, Bool.noConfusion⟩
      simp only [List.length_append, List.length_replicate, extent]
      omega

/-- Exactly the vacant ids in sequence are accepted, and with gaps those not far beyond. -/
theorem insert_eq_ok_iff
    (inside : sideOfId? id = some side)
    (gaps : Bool)
    (blueprint : Blueprint) :
    (∃ object next, table.insert id gaps blueprint = .ok (object, next)) ↔
      table.status id = .vacant ∧
        ((IdRange.ofSide side).index id ≤ table.extent side ∨
          gaps = true ∧ (IdRange.ofSide side).index id - table.extent side ≤ maxSkippedIds) := by
  rw [status_of_side inside]
  unfold insert
  simp only [inside]
  split
  · rename_i below
    have reached : (IdRange.ofSide side).index id ≤ table.extent side := Nat.le_of_lt below
    simp only [reached, true_or, and_true]
    constructor
    · intro accepted
      split at accepted
      · rename_i generation stored
        exact Arena.IsFreeAt.status_eq ⟨generation, stored⟩
      · obtain ⟨_, _, impossible⟩ := accepted
        cases impossible
    · intro vacant
      obtain ⟨generation, stored⟩ := Arena.isFreeAt_of_status_vacant vacant below
      rw [stored]
      exact ⟨_, _, rfl⟩
  · rename_i past
    have vacant : (table.arena side).status ((IdRange.ofSide side).index id) = .vacant := by
      simp [Arena.status, List.getElem?_eq_none (Nat.le_of_not_lt past), Cell.status]
    simp only [vacant, true_and]
    split
    · rename_i atEnd
      exact ⟨fun _ => Or.inl (Nat.le_of_eq atEnd), fun _ => ⟨_, _, rfl⟩⟩
    · rename_i notAtEnd
      have notReached : ¬(IdRange.ofSide side).index id ≤ table.extent side := by
        unfold extent
        omega
      simp only [notReached, false_or]
      split
      · rename_i withGaps
        split
        · rename_i far
          have tooFar : ¬(IdRange.ofSide side).index id - table.extent side ≤ maxSkippedIds :=
            Nat.not_le_of_lt far
          simp [tooFar]
        · rename_i near
          exact ⟨fun _ => ⟨withGaps, Nat.le_of_not_lt near⟩, fun _ => ⟨_, _, rfl⟩⟩
      · rename_i noGaps
        simp [noGaps]

end Making

/-! ### Objects that go -/

/-- An id gets another status, and nothing else changes; the ranges keep their cells. -/
structure Turns
    (session : Nat)
    (table : Table)
    (id : ObjectId)
    (new : Status Object)
    (next : Table) : Prop where
  status_eq : ∀ other, next.status other = if other = id then new else table.status other
  wellFormed : next.WellFormed session
  extent_eq : ∀ side, next.extent side = table.extent side

/-- An object that never reached the peer is gone.  The last cell of the range disappears if it was
used for the first time. -/
structure Loses
    (session : Nat)
    (side : Side)
    (table : Table)
    (object : Object)
    (next : Table) : Prop where
  status_eq : ∀ id, next.status id = if id = object.id then .vacant else table.status id
  wellFormed : next.WellFormed session
  extent_eq :
    next.extent side =
      if (IdRange.ofSide side).index object.id + 1 = table.extent side ∧ object.generation = 1 then
        (IdRange.ofSide side).index object.id
      else table.extent side
  extent_peer : next.extent side.peer = table.extent side.peer

section Going

variable {table next : Table} {session : Nat} {side : Side} {object : Object} {id : ObjectId}
variable {index : Nat} {old : Cell} {live : Nat}

theorem extent_replace_same
    {arena : Arena}
    (sameLength : arena.cells.length = table.extent side)
    (other : Side) :
    (table.replace side arena live).extent other = table.extent other := by
  unfold extent at sameLength ⊢
  rw [arena_replace]
  by_cases same : other = side
  · subst same
    simpa using sameLength
  · rw [if_neg same]

/-- The cell of an id of a side. -/
theorem cell?_of_side
    (inside : sideOfId? id = some side) :
    table.cell? id = (table.arena side).cells[(IdRange.ofSide side).index id]? := by
  simp [cell?, inside]

/-- Different ids of a side have cells at different positions. -/
theorem index_ne
    {other : ObjectId}
    (inside : sideOfId? id = some side)
    (otherInside : sideOfId? other = some side)
    (different : id ≠ other) :
    (IdRange.ofSide side).index id ≠ (IdRange.ofSide side).index other :=
  fun same => different
    (IdRange.index_inj (sideOfId?_eq_some_iff.mp inside) (sideOfId?_eq_some_iff.mp otherInside) same)

/-- The cells of a table with one range replaced. -/
theorem cell?_replace
    (table : Table)
    (side : Side)
    (arena : Arena)
    (live : Nat)
    (id : ObjectId) :
    (table.replace side arena live).cell? id =
      if sideOfId? id = some side then arena.cells[(IdRange.ofSide side).index id]?
      else table.cell? id := by
  unfold cell?
  cases sideOfId? id with
  | none => rfl
  | some other =>
      simp only [arena_replace, Option.some.injEq]
      split
      · rename_i same
        rw [same]
      · rfl

/-- A cell that is replaced is that of one id. -/
theorem cell?_replace_set
    (inside : sideOfId? id = some side)
    (within : (IdRange.ofSide side).index id < (table.arena side).cells.length)
    (cell : Cell)
    (free : List Nat)
    (live : Nat)
    (other : ObjectId) :
    (table.replace side
        { cells := (table.arena side).cells.set ((IdRange.ofSide side).index id) cell, free }
        live).cell? other =
      if other = id then some cell else table.cell? other := by
  rw [cell?_replace]
  split
  · rename_i otherInside
    rw [List.getElem?_set, cell?_of_side otherInside]
    by_cases same : other = id
    · subst same
      rw [if_pos rfl, if_pos within, if_pos rfl]
    · rw [if_neg (index_ne inside otherInside (Ne.symm same)), if_neg same]
  · rename_i outside
    have different : other ≠ id := fun same => outside (same ▸ inside)
    rw [if_neg different]

/-- A live object is destroyed. -/
theorem turns_destroy
    (wellFormed : table.WellFormed session)
    (isLive : table.status id = .live object) :
    Turns session table id .destroyed (table.destroy id) := by
  have taken : table.status id ≠ .vacant := by simp [isLive]
  obtain ⟨side, inside⟩ := side_of_status taken
  have contained := sideOfId?_eq_some_iff.mp inside
  rw [status_of_side inside] at isLive
  obtain ⟨generation, stored⟩ := Arena.cell_of_status_live isLive
  have within := (List.getElem?_eq_some_iff.mp stored).1
  have counted := Arena.liveCount_set stored ⟨.destroyed, generation⟩ (table.arena side).free
  have destroyed : table.destroy id =
      table.replace side
        { table.arena side with
          cells := (table.arena side).cells.set ((IdRange.ofSide side).index id)
            ⟨.destroyed, generation⟩ }
        (table.live - 1) := by
    simp only [destroy, cell?_of_side inside, stored, setCell, inside]
    cases side <;> rfl
  rw [destroyed]
  refine ⟨?_, ?_, ?_⟩
  · exact status_replace_set contained within _ _ _
  · apply wellFormed.replace ((wellFormed.arena side).destroy stored)
    have total := wellFormed.live_eq
    simp only [Cell.isLive, Bool.false_eq_true, if_true, if_false] at counted
    cases side <;> omega
  · exact extent_replace_same (by simp [extent])

/-- Freeing a cell that is taken. -/
theorem turns_free
    (wellFormed : table.WellFormed session)
    (inside : sideOfId? id = some side)
    (stored : (table.arena side).cells[(IdRange.ofSide side).index id]? = some old)
    (taken : old.occupant ≠ .free)
    (counted : live + (if old.isLive then 1 else 0) = table.live)
    (generation : UInt32) :
    Turns session table id .vacant ({ table with live }.free id generation) := by
  have contained := sideOfId?_eq_some_iff.mp inside
  have within := (List.getElem?_eq_some_iff.mp stored).1
  have liveSet := Arena.liveCount_set stored ⟨.free, generation⟩
    ((IdRange.ofSide side).index id :: (table.arena side).free)
  have freed : { table with live }.free id generation =
      table.replace side
        { cells := (table.arena side).cells.set ((IdRange.ofSide side).index id)
            ⟨.free, generation⟩
          free := (IdRange.ofSide side).index id :: (table.arena side).free }
        live := by
    simp only [free, inside]
    cases side <;> rfl
  rw [freed]
  refine ⟨?_, ?_, ?_⟩
  · exact status_replace_set contained within _ _ _
  · apply wellFormed.replace ((wellFormed.arena side).free stored taken generation)
    have freeCell : Cell.isLive ⟨.free, generation⟩ = false := rfl
    rw [freeCell] at liveSet
    generalize (if old.isLive then 1 else 0) = wasLive at counted liveSet
    simp only [Bool.false_eq_true, if_false] at liveSet
    omega
  · exact extent_replace_same (by simp [extent])

/-- A destroyed id is released. -/
theorem turns_release
    (wellFormed : table.WellFormed session)
    (released : table.release id = .ok next) :
    table.status id = .destroyed ∧ Turns session table id .vacant next := by
  unfold release at released
  split at released
  · cases released
  · rename_i side inside
    rw [cell?_of_side inside] at released
    split at released
    · rename_i generation stored
      cases released
      refine ⟨?_, turns_free wellFormed inside stored (by simp) rfl generation⟩
      rw [status_of_side inside]
      simp [Arena.status, stored, Cell.status]
    · cases released

/-- Every destroyed id can be released. -/
theorem release_ok_of_destroyed
    (destroyed : table.status id = .destroyed) :
    ∃ next, table.release id = .ok next := by
  have taken : table.status id ≠ .vacant := by simp [destroyed]
  obtain ⟨side, inside⟩ := side_of_status taken
  rw [status_of_side inside] at destroyed
  obtain ⟨generation, stored⟩ := Arena.cell_of_status_destroyed destroyed
  unfold release
  simp only [inside, cell?_of_side inside, stored]
  exact ⟨_, rfl⟩

/-- A table with a live object counts at least one. -/
theorem WellFormed.live_pos
    (wellFormed : table.WellFormed session)
    {generation : UInt32}
    (stored : (table.arena side).cells[index]? = some ⟨.live object, generation⟩) :
    0 < table.live := by
  have total := wellFormed.live_eq
  have positive : 0 < (table.arena side).liveCount :=
    List.countP_pos_iff.mpr ⟨_, List.mem_of_getElem? stored, rfl⟩
  cases side <;> omega

/-- An object in the last cell of its range, used for the first time, is given back with the cell. -/
theorem loses_dropLast
    (wellFormed : table.WellFormed session)
    (inside : sideOfId? object.id = some side)
    (stored :
      (table.arena side).cells[(IdRange.ofSide side).index object.id]? = some ⟨.live object, 1⟩)
    (atEnd : (IdRange.ofSide side).index object.id + 1 = table.extent side) :
    Loses session side table object
      ({ table with live := table.live - 1 }.withArena
        { table.arena side with
          cells := (table.arena side).cells.take ((IdRange.ofSide side).index object.id) }
        side) := by
  have contained := sideOfId?_eq_some_iff.mp inside
  have generationEq : object.generation = 1 :=
    ((wellFormed.arena side).fitting _ _ _ stored).generation_eq
  have counted := wellFormed.live_pos stored
  have liveDropped := Arena.liveCount_dropLast atEnd stored
  have changed := status_replace (IdRange.index_lt_size contained) (Arena.status_dropLast atEnd)
    (table.live - 1)
  rw [IdRange.id_index contained] at changed
  have shape : { table with live := table.live - 1 }.withArena
      { table.arena side with
        cells := (table.arena side).cells.take ((IdRange.ofSide side).index object.id) } side =
      table.replace side
        { table.arena side with
          cells := (table.arena side).cells.take ((IdRange.ofSide side).index object.id) }
        (table.live - 1) := by
    cases side <;> rfl
  rw [shape]
  refine ⟨changed, ?_, ?_, extent_replace_peer ..⟩
  · apply wellFormed.replace ((wellFormed.arena side).dropLast atEnd stored (by simp))
    simp only [Cell.isLive, if_true] at liveDropped
    omega
  · rw [extent_replace, if_pos ⟨atEnd, generationEq⟩]
    simp only [List.length_take]
    unfold extent at atEnd
    omega

/-- A live object is given back. -/
theorem loses_abandon
    (wellFormed : table.WellFormed session)
    (inside : sideOfId? object.id = some side)
    (isLive : table.status object.id = .live object) :
    Loses session side table object (table.abandon object) := by
  rw [status_of_side inside] at isLive
  obtain ⟨generation, stored⟩ := Arena.cell_of_status_live isLive
  have generationEq : object.generation = generation :=
    ((wellFormed.arena side).fitting _ _ _ stored).generation_eq
  have counted := wellFormed.live_pos stored
  unfold abandon
  simp only [inside, cell?_of_side inside, stored, if_true]
  split
  · rename_i atEnd
    obtain ⟨last, rfl⟩ := atEnd
    exact loses_dropLast wellFormed inside stored last
  · rename_i notAtEnd
    have turned : Turns session table object.id .vacant
        ({ table with live := table.live - 1 }.free object.id generation) :=
      turns_free wellFormed inside stored (by simp) (by simp only [Cell.isLive, if_true]; omega)
        generation
    refine ⟨turned.status_eq, turned.wellFormed, ?_, turned.extent_eq side.peer⟩
    have notAtExtent : ¬((IdRange.ofSide side).index object.id + 1 = table.extent side ∧
        generation = 1) := notAtEnd
    rw [turned.extent_eq, generationEq, if_neg notAtExtent]

/-- A table that was just started has no objects. -/
theorem wellFormed_empty
    (epochs : UInt64)
    (session : Nat) :
    WellFormed session { epochs } where
  arena := by
    intro side
    cases side <;> exact Arena.wellFormed_empty session _
  live_eq := rfl

theorem status_empty
    (epochs : UInt64)
    (id : ObjectId) :
    status { epochs } id = .vacant := by
  unfold status cell?
  split
  · rfl
  · rename_i side _
    cases side <;> simp [arena, Cell.status]

end Going

end Table

end Wayland.Session
