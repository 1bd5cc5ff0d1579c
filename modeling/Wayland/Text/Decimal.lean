/-!
Contract: decimal numbers, their reading from text and their rounding to binary64.

Owns: exact decimals, the two tie rules of rounding a quotient, and the nearest binary64 number.

Does not own: how any number is printed.
-/

namespace Wayland.Text

/-- A decimal number `mantissa * 10 ^ exponent`, with its sign apart: zero can be negative. -/
structure Decimal where
  negative : Bool
  mantissa : Nat
  exponent : Int
deriving DecidableEq, Repr

namespace Decimal

def fraction
    (number : Decimal) :
    Nat × Nat :=
  if 0 ≤ number.exponent then
    (number.mantissa * Nat.pow 10 number.exponent.toNat, 1)
  else
    (number.mantissa, Nat.pow 10 (-number.exponent).toNat)

/-- The quotient rounded to the nearest natural number, a half going to the even one. -/
def roundHalfEven
    (numerator denominator : Nat) :
    Nat :=
  let quotient := numerator / denominator
  let remainder := numerator % denominator
  if 2 * remainder < denominator then quotient
  else if denominator < 2 * remainder then quotient + 1
  else if quotient % 2 = 0 then quotient
  else quotient + 1

/-- The quotient rounded to the nearest natural number, a half going away from zero. -/
def roundHalfUp
    (numerator denominator : Nat) :
    Nat :=
  (2 * numerator + denominator) / (2 * denominator)

/-- The binary exponent of the last place of a 53-bit significand for `numerator / denominator`,
never below that of the least positive binary64 number. -/
def lastPlace
    (numerator denominator : Nat) :
    Int :=
  let estimate : Int := (Nat.log2 numerator : Int) - (Nat.log2 denominator : Int) - 52
  let fits (place : Int) : Bool :=
    if 0 ≤ place then decide (numerator < Nat.pow 2 53 * Nat.pow 2 place.toNat * denominator)
    else decide (numerator * Nat.pow 2 (-place).toNat < Nat.pow 2 53 * denominator)
  let place := if fits (estimate - 1) then estimate - 1 else
    if fits estimate then estimate else estimate + 1
  max place (-1074)

/-- The least power of ten above a magnitude that is not zero, as an exponent. -/
def scale
    (number : Decimal) :
    Int :=
  number.exponent + (Nat.toDigits 10 number.mantissa).length

/-- A number with the same binary64 neighbours and an exponent of a bounded size.  All magnitudes
from `10 ^ 320` on exceed every binary64 number alike, and those below `10 ^ -330` are nearest to
zero. -/
def bounded
    (number : Decimal) :
    Decimal :=
  if number.scale < -330 then { number with mantissa := 0, exponent := 0 }
  else { number with exponent := number.exponent - max 0 (number.scale - 320) }

/-- A fraction rounded to binary64, as `significand * Nat.pow 2 place`. -/
def nearestBinary
    (numerator denominator : Nat) :
    Nat × Int :=
  if numerator = 0 then (0, 0)
  else
    let place := lastPlace numerator denominator
    if 0 ≤ place then
      (roundHalfEven numerator (denominator * Nat.pow 2 place.toNat), place)
    else
      (roundHalfEven (numerator * Nat.pow 2 (-place).toNat) denominator, place)

/-- The magnitude rounded to binary64, as `significand * Nat.pow 2 place`. -/
def toBinary
    (number : Decimal) :
    Nat × Int :=
  let (numerator, denominator) := number.bounded.fraction
  nearestBinary numerator denominator

def digitsValue
    (digits : List Char) :
    Nat :=
  digits.foldl (fun value digit => value * 10 + (digit.toNat - '0'.toNat)) 0

/-- The value of the digits of an exponent.  From `10 ^ 4` on further digits no longer count. -/
def powerValue
    (digits : List Char) :
    Nat :=
  digits.foldl
    (fun value digit => if value < 10000 then value * 10 + (digit.toNat - '0'.toNat) else value) 0

def splitSign : List Char → Bool × List Char
  | '-' :: rest => (true, rest)
  | '+' :: rest => (false, rest)
  | rest => (false, rest)

/-- Splits the digits behind a point off a text that starts with one. -/
def splitFraction : List Char → List Char × List Char
  | '.' :: rest => (rest.takeWhile Char.isDigit, rest.dropWhile Char.isDigit)
  | rest => ([], rest)

/-- Reads `[sign] digits [. digits] [e [sign] digits]`, with a digit on at least one side of the
point. -/
def ofText?
    (text : String) :
    Option Decimal :=
  let (negative, unsigned) := splitSign text.toList
  let whole := unsigned.takeWhile Char.isDigit
  let (fraction, afterFraction) := splitFraction (unsigned.dropWhile Char.isDigit)
  if whole.isEmpty && fraction.isEmpty then none
  else
    let mantissa := digitsValue (whole ++ fraction)
    let places : Int := fraction.length
    match afterFraction with
    | [] => some ⟨negative, mantissa, -places⟩
    | mark :: rest =>
        let (below, digits) := splitSign rest
        if (mark == 'e' || mark == 'E') && !digits.isEmpty && digits.all Char.isDigit then
          let power : Int := powerValue digits
          some ⟨negative, mantissa, (if below then -power else power) - places⟩
        else none

end Decimal

end Wayland.Text
