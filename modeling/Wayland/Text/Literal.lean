import Wayland.Text.Number
import Wayland.Text.Quoted

/-!
Contract: numbers and flags as people write them in settings and on command lines.

Owns: integers of 64 bits in four bases, the words for flags, and the reports on other texts.

Does not own: the numbers of protocol documents.
-/

namespace Wayland.Text

/-- Why a text is no number of 64 bits. -/
inductive NumberFault where
  | malformed
  | outOfRange
deriving DecidableEq, Repr

def NumberFault.message
    (text : String) :
    NumberFault → String
  | .malformed => "strconv.ParseInt: parsing " ++ quote text ++ ": invalid syntax"
  | .outOfRange => "strconv.ParseInt: parsing " ++ quote text ++ ": value out of range"

/-- Splits the mark of a base off digits.  The last part tells whether digits may be grouped from
the start on. -/
def splitMark : List Char → Nat × List Char × Bool
  | '0' :: mark :: rest =>
      if mark == 'x' || mark == 'X' then (16, rest, true)
      else if mark == 'b' || mark == 'B' then (2, rest, true)
      else if mark == 'o' || mark == 'O' then (8, rest, true)
      else (8, mark :: rest, true)
  | chars => (10, chars, false)

/-- Whether underscores stand only between digits, or between the mark of a base and a digit. -/
def isGrouped
    (afterDigit : Bool) :
    List Char → Bool
  | [] => true
  | ['_'] => false
  | '_' :: next :: rest => afterDigit && next != '_' && isGrouped true (next :: rest)
  | _ :: rest => isGrouped true rest

/-- The value of digits after those that gave `value`; underscores between them are passed over.
Whichever comes first is reported: a character that is no digit, or the digit that makes the number
exceed 64 bits. -/
def magnitudeFrom
    (base : Nat)
    (value : Nat) :
    List Char → Except NumberFault Nat
  | [] => .ok value
  | '_' :: rest => magnitudeFrom base value rest
  | char :: rest =>
      match digitValue? base char with
      | none => .error .malformed
      | some digit =>
          if Nat.pow 2 64 ≤ value * base + digit then .error .outOfRange
          else magnitudeFrom base (value * base + digit) rest

/-- Reads a number of 64 bits in decimal, or in another base by its mark; digits may be grouped by
underscores. -/
def readInteger
    (text : String) :
    Except NumberFault Int :=
  let (negative, unsigned) : Bool × List Char :=
    match text.toList with
    | '-' :: rest => (true, rest)
    | '+' :: rest => (false, rest)
    | rest => (false, rest)
  let (base, digits, marked) := splitMark unsigned
  if digits.isEmpty then .error .malformed
  else
    match magnitudeFrom base 0 digits with
    | .error fault => .error fault
    | .ok value =>
        if !(isGrouped marked digits) then .error .malformed
        else if negative then
          if value ≤ Nat.pow 2 63 then .ok (-(value : Int)) else .error .outOfRange
        else if value < Nat.pow 2 63 then .ok value
        else .error .outOfRange

def flagWord? : String → Option Bool
  | "1" => some true
  | "t" => some true
  | "T" => some true
  | "TRUE" => some true
  | "true" => some true
  | "True" => some true
  | "0" => some false
  | "f" => some false
  | "F" => some false
  | "FALSE" => some false
  | "false" => some false
  | "False" => some false
  | _ => none

def flagReport
    (text : String) :
    String :=
  "strconv.ParseBool: parsing " ++ quote text ++ ": invalid syntax"

end Wayland.Text
