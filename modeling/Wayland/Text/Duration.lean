import Wayland.Text.Bytes
import Wayland.Text.Quoted
import Wayland.Text.Shortest

/-!
Contract: durations with units.

Owns: the grammar of durations, their length in nanoseconds, and the reports on malformed ones.

Does not own: what durations are used for.
-/

namespace Wayland.Text.Duration

/-- Why a text is no duration. -/
inductive Fault where
  | malformed
  | missingUnit
  | unknownUnit (unit : String)
deriving DecidableEq, Repr

/-- One character between quotes; whatever is not printable ASCII is shown byte by byte. -/
def quoteChar
    (char : Char) :
    List Char :=
  if 0x80 ≤ char.toNat || char.toNat < 32 then
    (Bytes.ofText (String.singleton char)).flatMap fun byte => '\\' :: 'x' :: hexDigits 2 byte.toNat
  else if char == '"' || char == '\\' then ['\\', char]
  else [char]

def quote
    (text : String) :
    String :=
  String.ofList ('"' :: text.toList.flatMap quoteChar ++ ['"'])

def Fault.message
    (text : String) :
    Fault → String
  | .malformed => "time: invalid duration " ++ quote text
  | .missingUnit => "time: missing unit in duration " ++ quote text
  | .unknownUnit unit => "time: unknown unit " ++ quote unit ++ " in duration " ++ quote text

def unit? : String → Option Nat
  | "ns" => some 1
  | "us" => some 1000
  | "µs" => some 1000
  | "μs" => some 1000
  | "ms" => some 1000000
  | "s" => some 1000000000
  | "m" => some 60000000000
  | "h" => some 3600000000000
  | _ => none

/-- The greatest number of nanoseconds, plus one. -/
def limit : Nat := Nat.pow 2 63

def isNumeric
    (char : Char) :
    Bool :=
  char == '.' || char.isDigit

def value
    (digits : List Char) :
    Nat :=
  digits.foldl (fun total digit => total * 10 + (digit.toNat - '0'.toNat)) 0

/-- The value of the digits of a fraction that are used, with their number: as many as stay below
the limit. -/
def usedDigits
    (kept : Nat)
    (count : Nat) :
    List Char → Nat × Nat
  | [] => (kept, count)
  | digit :: rest =>
      let next := kept * 10 + (digit.toNat - '0'.toNat)
      if (limit - 1) / 10 < kept || limit < next then (kept, count)
      else usedDigits next (count + 1) rest

/-- The binary64 number nearest to a fraction, as a fraction. -/
def nearest
    (numerator denominator : Nat) :
    Nat × Nat :=
  let (significand, place) := Decimal.nearestBinary numerator denominator
  Shortest.binaryFraction significand place

def powerOfTen : (exponent : Nat) → Nat × Nat
  | 0 => (1, 1)
  | exponent + 1 =>
      let (numerator, denominator) := powerOfTen exponent
      nearest (numerator * 10) denominator

/-- The nanoseconds of a fraction of a unit, in binary64 arithmetic and cut off.  After so many
digits that no number has their power of ten nothing is left. -/
def fractionOf
    (unit : Nat)
    (digits : List Char) :
    Nat :=
  let (kept, count) := usedDigits 0 0 digits
  if kept = 0 || 308 < count then 0
  else
    let scale := powerOfTen count
    let ratio := nearest (unit * scale.2) scale.1
    let amount := nearest kept 1
    let product := nearest (amount.1 * ratio.1) (amount.2 * ratio.2)
    product.1 / product.2

/-- The nanoseconds of numbers with units, added to `total`.  Each takes at least one character, so
the number of characters bounds them. -/
def sumFrom
    (total : Nat) :
    (fuel : Nat) → List Char → Except Fault Nat
  | 0, _ => .ok total
  | _, [] => .ok total
  | fuel + 1, chars =>
      let whole := chars.takeWhile Char.isDigit
      let afterWhole := chars.dropWhile Char.isDigit
      let (fraction, rest) :=
        match afterWhole with
        | '.' :: rest => (rest.takeWhile Char.isDigit, rest.dropWhile Char.isDigit)
        | rest => ([], rest)
      let name := rest.takeWhile (!isNumeric ·)
      if whole.isEmpty && fraction.isEmpty then .error .malformed
      else if limit < value whole then .error .malformed
      else if name.isEmpty then .error .missingUnit
      else
        match unit? (String.ofList name) with
        | none => .error (.unknownUnit (String.ofList name))
        | some unit =>
            if limit / unit < value whole then .error .malformed
            else
              let amount := value whole * unit + fractionOf unit fraction
              if limit < amount || limit < total + amount then .error .malformed
              else sumFrom (total + amount) fuel (rest.dropWhile (!isNumeric ·))

/-- Reads a duration as nanoseconds: numbers with units after an optional sign, or a plain zero. -/
def ofText
    (text : String) :
    Except Fault Int :=
  let (negative, chars) : Bool × List Char :=
    match text.toList with
    | '-' :: rest => (true, rest)
    | '+' :: rest => (false, rest)
    | chars => (false, chars)
  if chars == ['0'] then .ok 0
  else if chars.isEmpty then .error .malformed
  else
    match sumFrom 0 chars.length chars with
    | .error fault => .error fault
    | .ok total =>
        if negative then .ok (-(total : Int))
        else if limit ≤ total then .error .malformed
        else .ok total

end Wayland.Text.Duration
