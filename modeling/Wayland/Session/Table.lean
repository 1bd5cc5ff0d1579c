import Wayland.Session.Object

/-!
Contract: the table of the objects on one connection.

Owns:
- the cells of both id ranges, the free cells, and the count of live objects;
- taking the next free id, taking an id that the peer chose, destroying, giving back and releasing;
- epochs.

Does not own: which interface and version an object gets.
-/

namespace Wayland.Session

open Wayland.Wire

/-- What stands at an id. -/
inductive Occupant where
  | free
  | live (object : Object)
  /-- An object that is gone, whose id is not released yet. -/
  | destroyed
deriving DecidableEq, Repr

/-- The cell of an id. -/
structure Cell where
  occupant : Occupant := .free
  /-- How often the cell has been taken. -/
  generation : UInt32 := 0
deriving DecidableEq, Repr

/-- The cells of a range, from its first id on. -/
structure Arena where
  cells : List Cell := []
  /-- The free cells, newest first. -/
  free : List Nat := []
deriving DecidableEq, Repr

/-- The objects of a connection. -/
structure Table where
  client : Arena := {}
  server : Arena := {}
  /-- How many objects are alive. -/
  live : Nat := 0
  /-- How often the table has been started, as far as 64 bits can tell. -/
  epochs : UInt64 := 1
deriving DecidableEq, Repr

/-- Why the table refuses an id. -/
inductive TableFault where
  | outOfRange
  | inUse
  | outOfSequence
  | exhausted
  | notDestroyed
deriving DecidableEq, Repr

/-- How many unused ids a well-known object may skip. -/
def maxSkippedIds : Nat := 4096

/-- What a new object is made of, apart from its id. -/
structure Blueprint where
  session : Nat
  serial : Nat
  interface : Interface
  version : UInt32
deriving DecidableEq, Repr

namespace Table

def arena
    (table : Table) :
    Side → Arena
  | .client => table.client
  | .server => table.server

def withArena
    (table : Table)
    (arena : Arena) :
    Side → Table
  | .client => { table with client := arena }
  | .server => { table with server := arena }

def cell?
    (table : Table)
    (id : ObjectId) :
    Option Cell :=
  match sideOfId? id with
  | none => none
  | some side => (table.arena side).cells[(IdRange.ofSide side).index id]?

def lookup
    (table : Table)
    (id : ObjectId) :
    Option Object :=
  match table.cell? id with
  | some ⟨.live object, _⟩ => some object
  | _ => none

/-- Whether the object at an id is destroyed and the id not released. -/
def isDestroyed
    (table : Table)
    (id : ObjectId) :
    Bool :=
  match table.cell? id with
  | some ⟨.destroyed, _⟩ => true
  | _ => false

/-- Drops every object and starts a new epoch. -/
def reset
    (table : Table) :
    Table :=
  { epochs := table.epochs + 1 }

/-- The number of the epoch, which wraps around. -/
def epoch
    (table : Table) :
    Nat :=
  table.epochs.toNat

/-- Puts a new object into the cell at a position of `arena`, which becomes the side's range. -/
def occupy
    (table : Table)
    (side : Side)
    (arena : Arena)
    (index : Nat)
    (blueprint : Blueprint) :
    Object × Table :=
  let generation := ((arena.cells[index]?).getD {}).generation + 1
  let object : Object :=
    { session := blueprint.session
      serial := blueprint.serial
      id := (IdRange.ofSide side).id index
      interface := blueprint.interface
      version := blueprint.version
      generation }
  let cells := arena.cells.set index ⟨.live object, generation⟩
  let table := table.withArena { arena with cells } side
  (object, { table with live := table.live + 1 })

/-- Makes an object at the next free id of a side's range: the newest free cell, else a new one. -/
def allocate
    (table : Table)
    (side : Side)
    (blueprint : Blueprint) :
    Except TableFault (Object × Table) :=
  let arena := table.arena side
  match arena.free with
  | index :: free => .ok (table.occupy side { arena with free } index blueprint)
  | [] =>
      if (IdRange.ofSide side).size ≤ arena.cells.length then .error .exhausted
      else
        .ok (table.occupy side { arena with cells := arena.cells ++ [{}] } arena.cells.length
          blueprint)

/-- Makes an object at a chosen id.  The id must be free or the next unused one; with `gaps` it may
skip some unused ids, which become free. -/
def insert
    (table : Table)
    (id : ObjectId)
    (gaps : Bool)
    (blueprint : Blueprint) :
    Except TableFault (Object × Table) :=
  match sideOfId? id with
  | none => .error .outOfRange
  | some side =>
      let arena := table.arena side
      let index := (IdRange.ofSide side).index id
      let length := arena.cells.length
      if index < length then
        match arena.cells[index]? with
        | some ⟨.free, _⟩ =>
            .ok (table.occupy side { arena with free := arena.free.erase index } index blueprint)
        | _ => .error .inUse
      else if index = length then
        .ok (table.occupy side { arena with cells := arena.cells ++ [{}] } index blueprint)
      else if gaps then
        if maxSkippedIds < index - length then .error .outOfRange
        else
          let skipped := (List.range' length (index - length)).reverse
          let cells := arena.cells ++ List.replicate (index - length + 1) {}
          .ok (table.occupy side { cells, free := skipped ++ arena.free } index blueprint)
      else .error .outOfSequence

def setCell
    (table : Table)
    (id : ObjectId)
    (cell : Cell) :
    Table :=
  match sideOfId? id with
  | none => table
  | some side =>
      let arena := table.arena side
      table.withArena
        { arena with cells := arena.cells.set ((IdRange.ofSide side).index id) cell } side

def destroy
    (table : Table)
    (id : ObjectId) :
    Table :=
  match table.cell? id with
  | some ⟨.live _, generation⟩ =>
      let table := table.setCell id ⟨.destroyed, generation⟩
      { table with live := table.live - 1 }
  | _ => table

def free
    (table : Table)
    (id : ObjectId)
    (generation : UInt32) :
    Table :=
  match sideOfId? id with
  | none => table
  | some side =>
      let arena := table.arena side
      let index := (IdRange.ofSide side).index id
      table.withArena
        { cells := arena.cells.set index ⟨.free, generation⟩
          free := index :: arena.free }
        side

/-- Takes back an object that never reached the peer.  A cell used for the first time at the end of
its range disappears; any other cell becomes free. -/
def abandon
    (table : Table)
    (object : Object) :
    Table :=
  match sideOfId? object.id, table.cell? object.id with
  | some side, some ⟨.live occupant, generation⟩ =>
      if occupant = object then
        let arena := table.arena side
        let index := (IdRange.ofSide side).index object.id
        let table := { table with live := table.live - 1 }
        if index + 1 = arena.cells.length ∧ generation = 1 then
          table.withArena { arena with cells := arena.cells.take index } side
        else table.free object.id generation
      else table
  | _, _ => table

def release
    (table : Table)
    (id : ObjectId) :
    Except TableFault Table :=
  match sideOfId? id with
  | none => .error .outOfRange
  | some _ =>
      match table.cell? id with
      | some ⟨.destroyed, generation⟩ => .ok (table.free id generation)
      | _ => .error .notDestroyed

end Table

end Wayland.Session
