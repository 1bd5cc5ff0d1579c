import Wayland.Text.Bytes
import Wayland.Text.Shortest
import Wayland.Wire.Kind

/-!
Contract: argument values.

Owns:
- signed 24.8 fixed-point numbers, represented by a 32-bit count of 256ths;
- their conversion from integers, which wraps, and from decimal fractions, which rounds, and the
  two texts of them as binary64 numbers;
- one constructor per encoding class, the class of a value, and equality of wire values.

Does not own: the layout of values, or the objects that ids refer to.
-/

namespace Wayland.Wire

open Wayland.Text

/-! ## Fixed-point numbers -/

/-- A number `raw / 256`. -/
structure Fixed where
  raw : Int32
deriving DecidableEq, Repr

namespace Fixed

/-- The fixed-point form of an integer; bits above the 24 integral ones are lost. -/
def ofInt
    (value : Int32) :
    Fixed :=
  ⟨Int32.ofInt (value.toInt * 256)⟩

/-- The number of 256ths nearest to a binary64 magnitude, a half going away from zero. -/
def count256ths
    (significand : Nat)
    (place : Int) :
    Nat :=
  let scaled := place + 8
  if 0 ≤ scaled then significand * Nat.pow 2 scaled.toNat
  else Decimal.roundHalfUp significand (Nat.pow 2 (-scaled).toNat)

/-- What everything becomes that is out of range or no number: the least value. -/
def outOfRange : Fixed := ⟨Int32.ofInt (-2147483648)⟩

/-- The fixed-point number nearest to a decimal number that is first rounded to binary64. -/
def ofDecimal
    (number : Decimal) :
    Fixed :=
  let (significand, place) := number.toBinary
  let magnitude : Int := count256ths significand place
  let signed := if number.negative then -magnitude else magnitude
  if -2147483648 ≤ signed ∧ signed ≤ 2147483647 then ⟨Int32.ofInt signed⟩
  else outOfRange

/-- The integral part, truncated toward zero. -/
def toInt
    (value : Fixed) :
    Int32 :=
  Int32.ofInt (Int.tdiv value.raw.toInt 256)

def negative
    (value : Fixed) :
    Bool :=
  value.raw.toInt < 0

/-- The magnitude as a binary64 number, `significand * 2 ^ place`.  Every value is one exactly, since
its significand has 32 of the 53 bits. -/
def magnitude
    (value : Fixed) :
    Nat × Int :=
  (value.raw.toInt.natAbs, -8)

/-- The shortest decimal text without exponent that reads back as the value. -/
def plainText
    (value : Fixed) :
    String :=
  let (significand, place) := value.magnitude
  Shortest.plain value.negative significand place

/-- The shortest decimal text that reads back as the value; from `10 ^ 6` on it has an exponent. -/
def text
    (value : Fixed) :
    String :=
  let (significand, place) := value.magnitude
  Shortest.general value.negative significand place

end Fixed

/-! ## Arguments -/

/-- The name of a live object on one connection; zero names nothing. -/
abbrev ObjectId := UInt32

/-- An argument value. -/
inductive Argument where
  | int (value : Int32)
  | uint (value : UInt32)
  | fixed (value : Fixed)
  /-- A string; `none` is the absent string. -/
  | string (content : Option Bytes)
  /-- An object reference; zero is the null object. -/
  | object (id : ObjectId)
  /-- A new object.  Interface and version travel only where the slot leaves them open. -/
  | newId (id : ObjectId) (interface : Bytes) (version : UInt32)
  | array (content : Bytes)
  | fd (descriptor : Int)
  | unassigned (code : UnassignedCode)
deriving DecidableEq, Repr

namespace Argument

def kind : Argument → Kind
  | .int _ => .int
  | .uint _ => .uint
  | .fixed _ => .fixed
  | .string _ => .string
  | .object _ => .object
  | .newId _ _ _ => .newId
  | .array _ => .array
  | .fd _ => .fd
  | .unassigned code => .unassigned code

/-- Equality of wire values: same class and same content.  Values of unassigned classes have no
content on the wire and equal nothing. -/
def wireEqual : Argument → Argument → Bool
  | .int left, .int right => left == right
  | .uint left, .uint right => left == right
  | .fixed left, .fixed right => left == right
  | .string left, .string right => left == right
  | .object left, .object right => left == right
  | .newId id interface version, .newId id' interface' version' =>
      id == id' && interface == interface' && version == version'
  | .array left, .array right => left == right
  | .fd left, .fd right => left == right
  | _, _ => false

end Argument

end Wayland.Wire
