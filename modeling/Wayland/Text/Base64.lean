import Wayland.Text.Bytes

/-!
Contract: byte strings as base 64 digits.

Owns: the digits, groups of four of them with padding at the end, and lines of a fixed length.

Does not own: which texts are written so.
-/

namespace Wayland.Text.Base64

def alphabet : List Char :=
  "ABCDEFGHIJKLMNOPQRSTUVWXYZabcdefghijklmnopqrstuvwxyz0123456789+/".toList

def digit?
    (byte : UInt8) :
    Option Nat :=
  let char := Char.ofNat byte.toNat
  if 'A' ≤ char ∧ char ≤ 'Z' then some (char.toNat - 65)
  else if 'a' ≤ char ∧ char ≤ 'z' then some (char.toNat - 71)
  else if char.isDigit then some (char.toNat + 4)
  else if char == '+' then some 62
  else if char == '/' then some 63
  else none

/-- The bytes of digits in groups of four, of which the last may be padded. -/
def groups? : Bytes → Option Bytes
  | [] => some []
  | [first, second, 61, 61] => do
      let a ← digit? first
      let b ← digit? second
      return [UInt8.ofNat (a * 4 + b / 16)]
  | [first, second, third, 61] => do
      let a ← digit? first
      let b ← digit? second
      let c ← digit? third
      return [UInt8.ofNat (a * 4 + b / 16), UInt8.ofNat (b % 16 * 16 + c / 4)]
  | first :: second :: third :: fourth :: rest => do
      let a ← digit? first
      let b ← digit? second
      let c ← digit? third
      let d ← digit? fourth
      let others ← groups? rest
      return UInt8.ofNat (a * 4 + b / 16) :: UInt8.ofNat (b % 16 * 16 + c / 4)
        :: UInt8.ofNat (c % 4 * 64 + d) :: others
  | _ => none

/-- The bytes of a text of digits; line breaks in it do not count. -/
def bytes?
    (text : String) :
    Option Bytes :=
  groups? ((Bytes.ofText text).filter fun byte => byte != 10 && byte != 13)

def digit
    (value : Nat) :
    Char :=
  alphabet.getD (value % 64) 'A'

/-- The digits of a byte string, padded to groups of four. -/
def digits : Bytes → List Char
  | [] => []
  | [first] => [digit (first.toNat / 4), digit (first.toNat * 16), '=', '=']
  | [first, second] =>
      [digit (first.toNat / 4), digit (first.toNat * 16 + second.toNat / 16),
        digit (second.toNat * 4), '=']
  | first :: second :: third :: rest =>
      digit (first.toNat / 4) :: digit (first.toNat % 4 * 16 + second.toNat / 16)
        :: digit (second.toNat % 16 * 4 + third.toNat / 64) :: digit third.toNat :: digits rest

def lineLength : Nat := 70

/-- Digits in lines, each of which ends with a line feed.  `fuel` bounds the number of lines. -/
def linesFrom : (fuel : Nat) → List Char → List Char
  | 0, _ => []
  | _, [] => []
  | fuel + 1, chars =>
      chars.take lineLength ++ '\n' :: linesFrom fuel (chars.drop lineLength)

/-- The text of a byte string: one line without an end, or several lines. -/
def text
    (bytes : Bytes) :
    String :=
  let all := digits bytes
  String.ofList (if all.length < lineLength then all else linesFrom all.length all)

end Wayland.Text.Base64
