import Wayland.Text.Blank

/-!
Contract: 32-bit numbers as protocol documents write them.

Owns: reading decimal and `0x` hexadecimal digits, and writing in either base.

Does not own: what a document reports for a number it cannot read.
-/

namespace Wayland.Text

def hexValue?
    (char : Char) :
    Option Nat :=
  if '0' ≤ char ∧ char ≤ '9' then some (char.toNat - '0'.toNat)
  else if 'a' ≤ char ∧ char ≤ 'f' then some (char.toNat - 'a'.toNat + 10)
  else if 'A' ≤ char ∧ char ≤ 'F' then some (char.toNat - 'A'.toNat + 10)
  else none

/-- The value of a digit below the base. -/
def digitValue?
    (base : Nat)
    (char : Char) :
    Option Nat :=
  (hexValue? char).filter (· < base)

/-- The value of one or more digits, if all are below the base. -/
def natOfDigits?
    (base : Nat) :
    List Char → Option Nat
  | [] => none
  | digits =>
      digits.foldl
        (fun value digit => do return (← value) * base + (← digitValue? base digit))
        (some 0)

def splitBase : List Char → Nat × List Char
  | '0' :: 'x' :: digits => (16, digits)
  | '0' :: 'X' :: digits => (16, digits)
  | digits => (10, digits)

/-- Reads a 32-bit number: decimal digits, or `0x` and hexadecimal digits, between white space. -/
def readUInt32?
    (text : String) :
    Option UInt32 :=
  let (base, digits) := splitBase (trimChars text.toList)
  match natOfDigits? base digits with
  | some value => if value < Nat.pow 2 32 then some (UInt32.ofNat value) else none
  | none => none

/-- Writes a 32-bit number in decimal, or in hexadecimal with its mark; a single decimal digit is
written as such in both. -/
def writeUInt32
    (hexadecimal : Bool)
    (value : UInt32) :
    String :=
  if hexadecimal && value > 9 then "0x" ++ String.ofList (Nat.toDigits 16 value.toNat)
  else toString value.toNat

end Wayland.Text
