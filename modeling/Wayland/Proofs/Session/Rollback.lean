import Wayland.Proofs.Session.Receiving

/-!
Contract: what is left of objects that are taken back.

Owns:
- which cell a new object takes, and what becomes of the list of free cells;
- tables with the same occupants, which differ in no count but those of free cells;
- that taking back every object of a run, the latest first, restores the occupants, and where the
  cells of these objects then stand on the list of free cells.

Does not own: which operations take objects back.
-/

namespace Wayland.Session

open Wayland.Wire

/-- Two cells are the same, or both are free and the second was taken once more. -/
def Cell.Resembles
    (cell other : Cell) : Prop :=
  cell = other ∨
    cell.occupant = .free ∧ other.occupant = .free ∧ other.generation = cell.generation + 1

theorem Cell.Resembles.occupant_eq
    {cell other : Cell}
    (resembles : cell.Resembles other) :
    cell.occupant = other.occupant := by
  rcases resembles with rfl | ⟨free, otherFree, -⟩
  · rfl
  · rw [free, otherFree]

theorem Cell.Resembles.eq_of_taken
    {cell other : Cell}
    (resembles : cell.Resembles other)
    (taken : cell.occupant ≠ .free) :
    cell = other :=
  resembles.resolve_right fun free => taken free.1

/-- Lists that are related at every position have the same length. -/
theorem length_eq_of_rel
    {α β : Type}
    {related : α → β → Prop}
    {left : List α}
    {right : List β}
    (rel : ∀ index : Nat, Option.Rel related left[index]? right[index]?) :
    right.length = left.length := by
  have ends (index : Nat) : right.length ≤ index ↔ left.length ≤ index := by
    rw [← List.getElem?_eq_none_iff, ← List.getElem?_eq_none_iff]
    have carried := rel index
    generalize left[index]? = first?, right[index]? = second? at carried
    cases carried <;> simp
  exact Nat.le_antisymm ((ends _).mpr (Nat.le_refl _)) ((ends _).mp (Nat.le_refl _))

/-- A range does not end in a cell that was never taken. -/
def Arena.EndsTaken
    (arena : Arena) : Prop :=
  arena.cells.getLast? ≠ some {}

namespace Table

/-- Two tables have the same occupants at every position; only counts of free cells differ, by one. -/
structure Resembles
    (table other : Table) : Prop where
  cells : ∀ (side : Side) (index : Nat),
    Option.Rel Cell.Resembles (table.arena side).cells[index]? (other.arena side).cells[index]?
  live_eq : other.live = table.live
  epoch_eq : other.epoch = table.epoch

theorem Resembles.refl
    (table : Table) :
    table.Resembles table where
  cells := by
    intro side index
    cases (table.arena side).cells[index]? with
    | none => exact .none
    | some cell => exact .some (Or.inl rfl)
  live_eq := rfl
  epoch_eq := rfl

/-- Tables that resemble each other have ranges of the same lengths. -/
theorem Resembles.extent_eq
    {table other : Table}
    (resembles : table.Resembles other)
    (side : Side) :
    other.extent side = table.extent side :=
  length_eq_of_rel (resembles.cells side)

/-- A new object of a side takes a free cell, or the next one. -/
inductive Takes
    (side : Side)
    (table : Table) :
    Object → Table → Prop where
  | reused {object : Object} {generation : UInt32} :
      sideOfId? object.id = some side →
        (table.arena side).cells[(IdRange.ofSide side).index object.id]? =
            some ⟨.free, generation⟩ →
          object.generation = generation + 1 →
            Takes side table object
              (table.replace side
                { cells := (table.arena side).cells.set ((IdRange.ofSide side).index object.id)
                    ⟨.live object, object.generation⟩
                  free := (table.arena side).free.erase ((IdRange.ofSide side).index object.id) }
                (table.live + 1))
  | fresh {object : Object} :
      sideOfId? object.id = some side →
        (IdRange.ofSide side).index object.id = table.extent side → object.generation = 1 →
          Takes side table object
            (table.replace side
              { table.arena side with
                cells := (table.arena side).cells ++ [⟨.live object, object.generation⟩] }
              (table.live + 1))

/-- New objects of a side take cells one after the other. -/
inductive TakesAll
    (side : Side)
    (start : Table) :
    List Object → Table → Prop where
  | start : TakesAll side start [] start
  | step {objects : List Object} {table : Table} {object : Object} {next : Table} :
      TakesAll side start objects table → Takes side table object next →
        TakesAll side start (objects ++ [object]) next

/-- The positions of the objects that took cells a range had before. -/
def reusedBy
    (side : Side)
    (extent : Nat)
    (objects : List Object) :
    List Nat :=
  (objects.map fun object => (IdRange.ofSide side).index object.id).filter (· < extent)

theorem reusedBy_append
    (side : Side)
    (extent : Nat)
    (objects more : List Object) :
    reusedBy side extent (objects ++ more) =
      reusedBy side extent objects ++ reusedBy side extent more := by
  simp [reusedBy]

theorem reusedBy_congr
    (side : Side)
    (extent : Nat)
    {objects others : List Object}
    (sameIds : objects.map Object.id = others.map Object.id) :
    reusedBy side extent objects = reusedBy side extent others := by
  have positions (list : List Object) :
      (list.map fun object => (IdRange.ofSide side).index object.id) =
        (list.map Object.id).map (IdRange.ofSide side).index := by
    rw [List.map_map]
    rfl
  unfold reusedBy
  rw [positions, positions, sameIds]

section Taking

variable {side : Side} {table next : Table} {object : Object} {blueprint : Blueprint}

theorem epoch_replace
    (table : Table)
    (side : Side)
    (arena : Arena)
    (live : Nat) :
    (table.replace side arena live).epoch = table.epoch := by
  cases side <;> rfl

/-- Nothing happens in the range of the peer. -/
theorem Takes.arena_peer
    (takes : Takes side table object next) :
    next.arena side.peer = table.arena side.peer := by
  cases takes <;> exact (arena_replace ..).trans (if_neg (Side.peer_ne side))

theorem Takes.epoch_eq
    (takes : Takes side table object next) :
    next.epoch = table.epoch := by
  cases takes <;> exact epoch_replace ..

theorem Takes.live_eq
    (takes : Takes side table object next) :
    next.live = table.live + 1 := by
  cases takes <;> rfl

/-- Taking a cell that is on the list of free cells. -/
theorem takes_occupy_free
    {index : Nat}
    {generation : UInt32}
    (small : index < (IdRange.ofSide side).size)
    (stored : (table.arena side).cells[index]? = some ⟨.free, generation⟩) :
    Takes side table
      (table.occupy side { table.arena side with free := (table.arena side).free.erase index } index
        blueprint).1
      (table.occupy side { table.arena side with free := (table.arena side).free.erase index } index
        blueprint).2 := by
  rw [occupy_table]
  generalize objectEq : (table.occupy side
    { table.arena side with free := (table.arena side).free.erase index } index blueprint).1 = object
  rw [occupy_object] at objectEq
  have position : (IdRange.ofSide side).index object.id = index := by
    rw [← objectEq]
    exact IdRange.index_id small
  have inside : sideOfId? object.id = some side := by
    rw [← objectEq]
    exact sideOfId?_id small
  have generationEq : object.generation = generation + 1 := by
    rw [← objectEq]
    simp [stored]
  subst position
  exact .reused inside stored generationEq

/-- Taking the next cell. -/
theorem takes_occupy_new
    (room : table.extent side < (IdRange.ofSide side).size) :
    Takes side table
      (table.occupy side { table.arena side with cells := (table.arena side).cells ++ [{}] }
        (table.arena side).cells.length blueprint).1
      (table.occupy side { table.arena side with cells := (table.arena side).cells ++ [{}] }
        (table.arena side).cells.length blueprint).2 := by
  have first := generation_occupy_new table side blueprint (table.arena side).cells
    (table.arena side).free
  rw [occupy_table]
  generalize objectEq : (table.occupy side
    { table.arena side with cells := (table.arena side).cells ++ [{}] }
    (table.arena side).cells.length blueprint).1 = object at first
  rw [occupy_object] at objectEq
  have position : (IdRange.ofSide side).index object.id = table.extent side := by
    rw [← objectEq]
    exact IdRange.index_id room
  have inside : sideOfId? object.id = some side := by
    rw [← objectEq]
    exact sideOfId?_id room
  have filled : ((table.arena side).cells ++ [({} : Cell)]).set (table.arena side).cells.length
      ⟨.live object, object.generation⟩ =
        (table.arena side).cells ++ [⟨.live object, object.generation⟩] := by
    simp
  rw [filled]
  exact .fresh inside position first

/-- Taking a cell leaves the list of free cells as it is. -/
theorem free_occupy
    (table : Table)
    (side : Side)
    (arena : Arena)
    (index : Nat)
    (blueprint : Blueprint) :
    ((table.occupy side arena index blueprint).2.arena side).free = arena.free := by
  rw [occupy_table, arena_replace, if_pos rfl]

/-- The position of the object in a cell that was taken. -/
theorem reusedBy_occupy
    {index extent : Nat}
    (small : index < (IdRange.ofSide side).size)
    (arena : Arena) :
    reusedBy side extent [(table.occupy side arena index blueprint).1] =
      if index < extent then [index] else [] := by
  rw [occupy_object]
  simp only [reusedBy, List.map_cons, List.map_nil, IdRange.index_id small]
  by_cases below : index < extent <;> simp [below]

/-- The next free id is that of the newest free cell, or of the next cell if none is free. -/
theorem takes_allocate
    {session : Nat}
    (wellFormed : table.WellFormed session)
    (allocated : table.allocate side blueprint = .ok (object, next)) :
    Takes side table object next ∧
      (table.arena side).free =
        reusedBy side (table.extent side) [object] ++ (next.arena side).free := by
  unfold allocate at allocated
  simp only at allocated
  split at allocated
  · rename_i index free newest
    have listed : index ∈ (table.arena side).free := by simp [newest]
    obtain ⟨generation, stored⟩ := ((wellFormed.arena side).mem_free_iff index).mp listed
    have below : index < table.extent side := (List.getElem?_eq_some_iff.mp stored).1
    have small : index < (IdRange.ofSide side).size :=
      Nat.lt_of_lt_of_le below (wellFormed.arena side).length_le
    have rest : (table.arena side).free.erase index = free := by simp [newest]
    have takes := @takes_occupy_free side table blueprint index generation small stored
    have position := @reusedBy_occupy side table blueprint index (table.extent side) small
      { table.arena side with free }
    have remaining := free_occupy table side { table.arena side with free } index blueprint
    rw [rest] at takes
    rw [if_pos below] at position
    have made := Except.ok.inj allocated
    simp only [made] at takes position remaining
    exact ⟨takes, by rw [newest, position, remaining]; rfl⟩
  · rename_i noneFree
    split at allocated
    · cases allocated
    · rename_i room
      have room : table.extent side < (IdRange.ofSide side).size := Nat.lt_of_not_le room
      have takes := @takes_occupy_new side table blueprint room
      have position := @reusedBy_occupy side table blueprint _ (table.extent side) room
        { table.arena side with cells := (table.arena side).cells ++ [{}] }
      have remaining := free_occupy table side
        { table.arena side with cells := (table.arena side).cells ++ [{}] } (table.extent side)
        blueprint
      rw [if_neg (Nat.lt_irrefl _)] at position
      have made := Except.ok.inj allocated
      unfold extent at position remaining ⊢
      simp only [made] at takes position remaining
      exact ⟨takes, by rw [position, remaining]; rfl⟩

/-- An id that is accepted in sequence is that of a free cell or of the next one. -/
theorem takes_insert
    {id : ObjectId}
    (inside : sideOfId? id = some side)
    (inserted : table.insert id false blueprint = .ok (object, next)) :
    Takes side table object next := by
  have small := IdRange.index_lt_size (sideOfId?_eq_some_iff.mp inside)
  cases inserts_of_insert inside inserted with
  | free stored => exact takes_occupy_free small stored
  | last atEnd =>
      have takes := @takes_occupy_new side table blueprint
        (Nat.lt_of_le_of_lt (Nat.le_of_eq atEnd.symm) small)
      rwa [← atEnd] at takes

/-- Whichever free cell an object takes, it leaves the others on the list. -/
theorem Takes.free_perm
    {session : Nat}
    (takes : Takes side table object next)
    (wellFormed : table.WellFormed session) :
    (table.arena side).free.Perm
      (reusedBy side (table.extent side) [object] ++ (next.arena side).free) := by
  cases takes with
  | @reused generation inside stored _ =>
      have listed : (IdRange.ofSide side).index object.id ∈ (table.arena side).free :=
        ((wellFormed.arena side).mem_free_iff _).mpr ⟨generation, stored⟩
      have below : (IdRange.ofSide side).index object.id < table.extent side :=
        (List.getElem?_eq_some_iff.mp stored).1
      rw [arena_replace, if_pos rfl]
      simpa [reusedBy, below] using List.perm_cons_erase listed
  | fresh inside atEnd _ =>
      rw [arena_replace, if_pos rfl]
      simp [reusedBy, atEnd]

/-- A range that ends in a cell that was taken goes on doing so. -/
theorem Takes.endsTaken
    (takes : Takes side table object next)
    (ends : (table.arena side).EndsTaken) :
    (next.arena side).EndsTaken := by
  unfold Arena.EndsTaken at ends ⊢
  cases takes with
  | fresh inside atEnd _ =>
      rw [arena_replace, if_pos rfl]
      simp
  | @reused generation inside stored _ =>
      rw [arena_replace, if_pos rfl]
      simp only [List.getLast?_eq_getElem?, List.length_set, List.getElem?_set] at ends ⊢
      split
      · split <;> simp
      · exact ends

end Taking

/-! ### Taking back -/

section Returning

variable {side : Side} {start table next other : Table} {object : Object} {objects : List Object}

/-- An object in a new cell at the end is taken back with the cell. -/
theorem abandon_eq_dropLast
    (inside : sideOfId? object.id = some side)
    (found : (other.arena side).cells[(IdRange.ofSide side).index object.id]? =
      some ⟨.live object, 1⟩)
    (atEnd : (IdRange.ofSide side).index object.id + 1 = (other.arena side).cells.length) :
    other.abandon object =
      other.replace side
        { other.arena side with
          cells := (other.arena side).cells.take ((IdRange.ofSide side).index object.id) }
        (other.live - 1) := by
  simp only [Table.abandon, inside, cell?_of_side inside, found, atEnd, and_self, if_true]
  cases side <;> rfl

/-- An object in any other cell is taken back and leaves a free cell. -/
theorem abandon_eq_free
    (inside : sideOfId? object.id = some side)
    {generation : UInt32}
    (found : (other.arena side).cells[(IdRange.ofSide side).index object.id]? =
      some ⟨.live object, generation⟩)
    (notNew : ¬((IdRange.ofSide side).index object.id + 1 = (other.arena side).cells.length ∧
      generation = 1)) :
    other.abandon object =
      other.replace side
        { cells := (other.arena side).cells.set ((IdRange.ofSide side).index object.id)
            ⟨.free, generation⟩
          free := (IdRange.ofSide side).index object.id :: (other.arena side).free }
        (other.live - 1) := by
  simp only [Table.abandon, inside, cell?_of_side inside, found, if_true, if_neg notNew, free]
  cases side <;> rfl

/-- A table that resembles another does so with one range replaced, if that range still does. -/
theorem resembles_replace
    {arena : Arena}
    {live : Nat}
    (cells : ∀ index : Nat,
      Option.Rel Cell.Resembles (table.arena side).cells[index]? arena.cells[index]?)
    (peerCells : ∀ index : Nat,
      Option.Rel Cell.Resembles (table.arena side.peer).cells[index]?
        (other.arena side.peer).cells[index]?)
    (live_eq : live = table.live)
    (epoch_eq : other.epoch = table.epoch) :
    table.Resembles (other.replace side arena live) where
  cells := by
    refine (Side.forall_iff side).mpr ⟨?_, ?_⟩
    · rw [arena_replace, if_pos rfl]
      exact cells
    · rw [arena_replace, if_neg (Side.peer_ne side)]
      exact peerCells
  live_eq := live_eq
  epoch_eq := (epoch_replace ..).trans epoch_eq

/-- A new object stands in its cell, also where only counts of free cells differ. -/
theorem Takes.found
    (takes : Takes side table object next)
    (resembles : next.Resembles other) :
    (other.arena side).cells[(IdRange.ofSide side).index object.id]? =
      some ⟨.live object, object.generation⟩ := by
  have standing : (next.arena side).cells[(IdRange.ofSide side).index object.id]? =
      some ⟨.live object, object.generation⟩ := by
    cases takes with
    | reused _ stored _ =>
        have below := (List.getElem?_eq_some_iff.mp stored).1
        rw [arena_replace, if_pos rfl]
        simp [below]
    | fresh _ atEnd _ =>
        unfold extent at atEnd
        rw [arena_replace, if_pos rfl]
        simp [atEnd]
  have carried := resembles.cells side ((IdRange.ofSide side).index object.id)
  rw [standing] at carried
  generalize (other.arena side).cells[(IdRange.ofSide side).index object.id]? = cell? at carried
  cases carried with
  | some same => rw [← same.eq_of_taken (by simp)]

/-- What the object did not touch resembles what stood before it. -/
theorem Takes.elsewhere
    (takes : Takes side table object next)
    (resembles : next.Resembles other) :
    (∀ index : Nat, index ≠ (IdRange.ofSide side).index object.id →
      Option.Rel Cell.Resembles (table.arena side).cells[index]?
        (other.arena side).cells[index]?) ∧
      ∀ index : Nat,
        Option.Rel Cell.Resembles (table.arena side.peer).cells[index]?
          (other.arena side.peer).cells[index]? := by
  constructor
  · intro index different
    have carried := resembles.cells side index
    cases takes with
    | reused _ _ _ =>
        rw [arena_replace, if_pos rfl] at carried
        simpa only [List.getElem?_set, if_neg (Ne.symm different)] using carried
    | fresh _ atEnd _ =>
        unfold extent at atEnd
        rw [arena_replace, if_pos rfl, List.getElem?_append] at carried
        split at carried
        · exact carried
        · rename_i past
          have beyond : (table.arena side).cells[index]? = none := List.getElem?_eq_none (by omega)
          rw [List.getElem?_eq_none (by rw [List.length_singleton]; omega)] at carried
          rwa [beyond]
  · intro index
    have carried := resembles.cells side.peer index
    rwa [takes.arena_peer] at carried

/-- An object that is taken back leaves the occupants that stood before it.  Its cell disappears if
it was new, and is the newest free one otherwise. -/
theorem Takes.abandon
    (takes : Takes side table object next)
    (ends : (table.arena side).EndsTaken)
    (resembles : next.Resembles other) :
    table.Resembles (other.abandon object) ∧
      ((other.abandon object).arena side).free =
          reusedBy side (table.extent side) [object] ++ (other.arena side).free ∧
        ((other.abandon object).arena side.peer).free = (other.arena side.peer).free := by
  have found := takes.found resembles
  obtain ⟨elsewhere, atPeer⟩ := takes.elsewhere resembles
  have live : other.live - 1 = table.live := by
    rw [resembles.live_eq, takes.live_eq, Nat.add_sub_cancel]
  have epoch : other.epoch = table.epoch := resembles.epoch_eq.trans takes.epoch_eq
  have lengthEq : (other.arena side).cells.length = next.extent side := resembles.extent_eq side
  cases takes with
  | @reused generation inside stored counted =>
      have below : (IdRange.ofSide side).index object.id < table.extent side :=
        (List.getElem?_eq_some_iff.mp stored).1
      rw [extent_replace, List.length_set] at lengthEq
      -- Were its cell at the end and new, the range would have ended in a cell never taken.
      have notNew : ¬((IdRange.ofSide side).index object.id + 1 =
          (other.arena side).cells.length ∧ object.generation = 1) := by
        rintro ⟨atEnd, first⟩
        have unused : generation = 0 := by
          rw [counted] at first
          simpa using first
        apply ends
        rw [List.getLast?_eq_getElem?, ← lengthEq, ← atEnd, Nat.add_sub_cancel, stored, unused]
      rw [abandon_eq_free inside found notNew]
      refine ⟨resembles_replace (fun index => ?_) atPeer live epoch, ?_, ?_⟩
      · simp only [List.getElem?_set]
        split
        · rename_i same
          subst same
          rw [stored, if_pos (List.getElem?_eq_some_iff.mp found).1]
          exact .some (Or.inr ⟨rfl, rfl, counted⟩)
        · rename_i different
          exact elsewhere index (Ne.symm different)
      · rw [arena_replace, if_pos rfl]
        simp [reusedBy, below]
      · rw [arena_replace, if_neg (Side.peer_ne side)]
  | fresh inside atEnd first =>
      rw [extent_replace, List.length_append, List.length_singleton] at lengthEq
      rw [first] at found
      rw [abandon_eq_dropLast inside found (by unfold extent at atEnd; omega)]
      refine ⟨resembles_replace (fun index => ?_) atPeer live epoch, ?_, ?_⟩
      · simp only [List.getElem?_take]
        split
        · rename_i before
          exact elsewhere index (Nat.ne_of_lt before)
        · rename_i past
          rw [List.getElem?_eq_none (by unfold extent at atEnd; omega)]
          exact .none
      · rw [arena_replace, if_pos rfl]
        simp [reusedBy, atEnd]
      · rw [arena_replace, if_neg (Side.peer_ne side)]

/-- A range that ends in a cell that was taken goes on doing so in a run. -/
theorem TakesAll.endsTaken
    (takes : TakesAll side start objects table)
    (ends : (start.arena side).EndsTaken) :
    (table.arena side).EndsTaken := by
  induction takes with
  | start => exact ends
  | step _ takes inductionHypothesis => exact takes.endsTaken inductionHypothesis

/-- Nothing happens in the range of the peer during a run. -/
theorem TakesAll.arena_peer
    (takes : TakesAll side start objects table) :
    table.arena side.peer = start.arena side.peer := by
  induction takes with
  | start => rfl
  | step _ takes inductionHypothesis => rw [takes.arena_peer, inductionHypothesis]

/-- A run never shortens the range, and leaves no free cell past its former end. -/
theorem TakesAll.filled
    (takes : TakesAll side start objects table) :
    start.extent side ≤ table.extent side ∧
      ∀ index, start.extent side ≤ index → ¬(table.arena side).IsFreeAt index := by
  induction takes with
  | start => exact ⟨Nat.le_refl _, fun index past isFree => Nat.not_lt_of_le past isFree.lt_length⟩
  | @step objects table object next _ takes inductionHypothesis =>
      obtain ⟨le, filled⟩ := inductionHypothesis
      cases takes with
      | reused _ stored _ =>
          rw [extent_replace, List.length_set]
          refine ⟨le, fun index past => ?_⟩
          rw [arena_replace, if_pos rfl,
            Arena.isFreeAt_set (List.getElem?_eq_some_iff.mp stored).1]
          split
          · simp
          · exact filled index past
      | fresh _ _ _ =>
          rw [extent_replace, List.length_append]
          refine ⟨Nat.le_add_right_of_le le, fun index past => ?_⟩
          rw [arena_replace, if_pos rfl]
          rintro ⟨generation, stored⟩
          rw [List.getElem?_append] at stored
          split at stored
          · exact filled index past ⟨generation, stored⟩
          · have last := List.mem_of_getElem? stored
            simp at last

/-- The cells that a run reuses were there before it. -/
theorem TakesAll.reusedBy_eq
    (takesAll : TakesAll side start objects table)
    (takes : Takes side table object next) :
    reusedBy side (table.extent side) [object] = reusedBy side (start.extent side) [object] := by
  obtain ⟨le, filled⟩ := takesAll.filled
  cases takes with
  | @reused generation _ stored _ =>
      have below : (IdRange.ofSide side).index object.id < table.extent side :=
        (List.getElem?_eq_some_iff.mp stored).1
      have before : (IdRange.ofSide side).index object.id < start.extent side :=
        Nat.lt_of_not_le fun past => filled _ past ⟨generation, stored⟩
      simp [reusedBy, below, before]
  | fresh _ atEnd _ => simp [reusedBy, atEnd, le]

/-- Objects that are taken back, the latest first, leave the occupants that stood before the first of
them.  The cells they took from the list of free cells stand on it again, the earliest first. -/
theorem TakesAll.retract
    (takes : TakesAll side start objects table)
    (ends : (start.arena side).EndsTaken)
    (resembles : table.Resembles other) :
    start.Resembles (objects.reverse.foldl Table.abandon other) ∧
      ((objects.reverse.foldl Table.abandon other).arena side).free =
          reusedBy side (start.extent side) objects ++ (other.arena side).free ∧
        ((objects.reverse.foldl Table.abandon other).arena side.peer).free =
          (other.arena side.peer).free := by
  induction takes generalizing other with
  | start => exact ⟨resembles, rfl, rfl⟩
  | @step objects table object next takesAll takes inductionHypothesis =>
      obtain ⟨before, free, peerFree⟩ := takes.abandon (takesAll.endsTaken ends) resembles
      obtain ⟨restored, freeAll, peerFreeAll⟩ := inductionHypothesis before
      rw [List.reverse_append, List.reverse_singleton, List.singleton_append, List.foldl_cons,
        freeAll, free, peerFreeAll, takesAll.reusedBy_eq takes, reusedBy_append, List.append_assoc]
      exact ⟨restored, rfl, peerFree⟩

end Returning

end Table

end Wayland.Session
