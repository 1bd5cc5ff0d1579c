import Wayland.Wire.Argument
import Wayland.Wire.Signature

/-!
Contract: objects and the ids they are bound to.

Owns: object handles with their identity, and the id ranges of the two sides.

Does not own: which objects are alive.
-/

namespace Wayland.Session

open Wayland.Wire

/-- A handle of an object.  Session and serial number identify it for ever; ids and generations may
come again. -/
structure Object where
  /-- The number of the session the object belongs to. -/
  session : Nat
  /-- How many objects the session made before this one. -/
  serial : Nat
  id : ObjectId
  interface : Interface
  /-- The negotiated version. -/
  version : UInt32
  /-- How often the id has been used. -/
  generation : UInt32
deriving DecidableEq, Repr

/-- The printed form `interface@id#generation`. -/
def Object.text
    (object : Object) :
    String :=
  object.interface.name ++ "@" ++ toString object.id.toNat ++ "#"
    ++ toString object.generation.toNat

/-- A range of ids. -/
structure IdRange where
  first : ObjectId
  last : ObjectId
deriving DecidableEq, Repr

namespace IdRange

def contains
    (range : IdRange)
    (id : ObjectId) :
    Bool :=
  decide (range.first ≤ id) && decide (id ≤ range.last)

def index
    (range : IdRange)
    (id : ObjectId) :
    Nat :=
  (id - range.first).toNat

def id
    (range : IdRange)
    (index : Nat) :
    ObjectId :=
  range.first + UInt32.ofNat index

def size
    (range : IdRange) :
    Nat :=
  (range.last - range.first).toNat + 1

def ofSide : Side → IdRange
  | .client => ⟨0x00000001, 0xfeffffff⟩
  | .server => ⟨0xff000000, 0xffffffff⟩

end IdRange

/-- The side whose range an id lies in; zero lies in none. -/
def sideOfId?
    (id : ObjectId) :
    Option Side :=
  [.client, .server].find? fun side => (IdRange.ofSide side).contains id

end Wayland.Session
