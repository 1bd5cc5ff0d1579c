import Wayland.Text.Decimal
import Wayland.Yaml.Instant

/-!
Contract: the values that plain YAML scalars stand for.

Owns: the words for flags, null and special numbers, integers in four bases, floating point
numbers, dates, and short tag names.

Does not own: quoted scalars, or the types that values are put into.
-/

namespace Wayland.Yaml

open Wayland.Text

/-- A floating point value. -/
inductive Real where
  | notANumber
  | infinite (negative : Bool)
  | finite (value : Decimal)
deriving DecidableEq, Repr

/-- The value of a scalar. -/
inductive Value where
  | null
  | bool (value : Bool)
  | int (value : Int)
  | real (value : Real)
  | date (value : Instant)
  | text (value : String)
deriving DecidableEq, Repr

def longTagLead : String := "tag:yaml.org,2002:"

def shortTag
    (tag : String) :
    String :=
  if longTagLead.toList.isPrefixOf tag.toList then
    "!!" ++ String.ofList (tag.toList.drop longTagLead.length)
  else tag

def Value.tag : Value → String
  | .null => "!!null"
  | .bool _ => "!!bool"
  | .int _ => "!!int"
  | .real _ => "!!float"
  | .date _ => "!!timestamp"
  | .text _ => "!!str"

/-- Whether two floating point values are equal; what is not a number equals nothing, and the two
zeros are equal. -/
def Real.isSame : Real → Real → Bool
  | .infinite left, .infinite right => left == right
  | .finite left, .finite right =>
      left.toBinary == right.toBinary
        && (left.negative == right.negative || left.toBinary.1 == 0)
  | _, _ => false

def Value.isSame : Value → Value → Bool
  | .real left, .real right => left.isSame right
  | left, right => left == right

/-- The values that have words of their own. -/
def wordValue? : String → Option Value
  | "" => some .null
  | "~" => some .null
  | "null" => some .null
  | "Null" => some .null
  | "NULL" => some .null
  | "true" => some (.bool true)
  | "True" => some (.bool true)
  | "TRUE" => some (.bool true)
  | "false" => some (.bool false)
  | "False" => some (.bool false)
  | "FALSE" => some (.bool false)
  | ".nan" => some (.real .notANumber)
  | ".NaN" => some (.real .notANumber)
  | ".NAN" => some (.real .notANumber)
  | ".inf" => some (.real (.infinite false))
  | ".Inf" => some (.real (.infinite false))
  | ".INF" => some (.real (.infinite false))
  | "+.inf" => some (.real (.infinite false))
  | "+.Inf" => some (.real (.infinite false))
  | "+.INF" => some (.real (.infinite false))
  | "-.inf" => some (.real (.infinite true))
  | "-.Inf" => some (.real (.infinite true))
  | "-.INF" => some (.real (.infinite true))
  | _ => none

/-- An integer of 64 bits by its sign and its digits.  Without a sign it may be `unsigned` and take
all bits for its magnitude. -/
def signedInteger?
    (negative unsigned : Bool)
    (base : Nat)
    (digits : List Char) :
    Option Int :=
  match natOfDigits? base digits with
  | none => none
  | some value =>
      if negative then if value ≤ Nat.pow 2 63 then some (-(value : Int)) else none
      else if value < Nat.pow 2 63 || (unsigned && value < Nat.pow 2 64) then some value
      else none

/-- Splits the mark of a base off digits; a zero before further digits marks base 8. -/
def splitMarkedBase : List Char → Nat × List Char
  | '0' :: mark :: digits =>
      if mark == 'x' || mark == 'X' then (16, digits)
      else if mark == 'b' || mark == 'B' then (2, digits)
      else if mark == 'o' || mark == 'O' then (8, digits)
      else (8, mark :: digits)
  | digits => (10, digits)

/-- An integer that fits into 64 bits.  The sign stands before the mark of the base; after the
lower-case marks of bases 2 and 8 it may also stand behind the mark of a number without one. -/
def integer?
    (chars : List Char) :
    Option Int :=
  let read (negative unsigned : Bool) (digits : List Char) : Option Int :=
    let (base, digits) := splitMarkedBase digits
    signedInteger? negative unsigned base digits
  match chars with
  | '+' :: rest => read false false rest
  | '-' :: rest => read true false rest
  | '0' :: 'b' :: '+' :: digits => signedInteger? false false 2 digits
  | '0' :: 'b' :: '-' :: digits => signedInteger? true false 2 digits
  | '0' :: 'o' :: '+' :: digits => signedInteger? false false 8 digits
  | '0' :: 'o' :: '-' :: digits => signedInteger? true false 8 digits
  | rest => read false true rest

/-- A decimal number below the greatest binary64 number. -/
def finite?
    (text : String) :
    Option Real :=
  match Decimal.ofText? text with
  | none => none
  | some value =>
      let (significand, place) := value.toBinary
      let limit := Nat.pow 2 1024
      if 971 < place ∧ significand ≠ 0 ∧ limit ≤ significand * Nat.pow 2 place.toNat then none
      else some (.finite value)

/-- Whether every underscore stands between two digits. -/
def isDigitGrouped
    (previous : Char) :
    List Char → Bool
  | [] => previous != '_'
  | char :: rest =>
      (if char == '_' then previous.isDigit else previous != '_' || char.isDigit)
        && isDigitGrouped char rest

/-- The value of a plain scalar.  `dates` tells whether dates are recognised. -/
def plainValue
    (dates : Bool)
    (text : String) :
    Value :=
  match wordValue? text with
  | some value => value
  | none =>
      let chars := text.toList
      let first := chars.headD ' '
      let plain := chars.filter (· != '_')
      if first == '.' then
        match finite? (String.ofList plain) with
        | some value => if isDigitGrouped ' ' chars then .real value else .text text
        | none => .text text
      else if first.isDigit || first == '+' || first == '-' then
        match if dates then Instant.ofChars? chars else none with
        | some instant => .date instant
        | none =>
            match integer? plain with
            | some value => .int value
            | none =>
                match finite? (String.ofList plain) with
                | some value => .real value
                | none => .text text
      else .text text

end Wayland.Yaml
