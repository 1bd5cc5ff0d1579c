/-!
Contract: the encoding classes of message arguments.

Owns: the eight assigned classes, the classes outside the assignment, their codes and their names.

Does not own: how a value of a class is laid out in a message body.
-/

namespace Wayland.Wire

/-- A code to which no class is assigned. -/
structure UnassignedCode where
  value : UInt8
  outside : value = 0 ∨ 8 < value
deriving DecidableEq, Repr

/-- The encoding class of an argument.  Codes 1 to 8 are assigned; every other code is kept as it
is, so that a signature carrying one can be named in a report. -/
inductive Kind where
  | int
  | uint
  | fixed
  | string
  | object
  | newId
  | array
  | fd
  | unassigned (code : UnassignedCode)
deriving DecidableEq, Repr

namespace Kind

def code : Kind → UInt8
  | .int => 1
  | .uint => 2
  | .fixed => 3
  | .string => 4
  | .object => 5
  | .newId => 6
  | .array => 7
  | .fd => 8
  | .unassigned code => code.value

def ofCode
    (code : UInt8) :
    Kind :=
  if outside : code = 0 ∨ 8 < code then .unassigned ⟨code, outside⟩
  else if code = 1 then .int
  else if code = 2 then .uint
  else if code = 3 then .fixed
  else if code = 4 then .string
  else if code = 5 then .object
  else if code = 6 then .newId
  else if code = 7 then .array
  else .fd

/-- Codes and classes correspond one to one. -/
theorem ofCode_code
    (kind : Kind) :
    ofCode kind.code = kind := by
  cases kind with
  | unassigned code => simp [ofCode, Kind.code, code.outside]
  | _ => decide

def name? : Kind → Option String
  | .int => some "int"
  | .uint => some "uint"
  | .fixed => some "fixed"
  | .string => some "string"
  | .object => some "object"
  | .newId => some "new_id"
  | .array => some "array"
  | .fd => some "fd"
  | .unassigned _ => none

/-- The printed name; a class outside the assignment is named by its code. -/
def text
    (kind : Kind) :
    String :=
  kind.name?.getD ("kind(" ++ toString kind.code.toNat ++ ")")

def ofName?
    (name : String) :
    Option Kind :=
  [.int, .uint, .fixed, .string, .object, .newId, .array, .fd].find? (·.name? == some name)

end Kind

end Wayland.Wire
