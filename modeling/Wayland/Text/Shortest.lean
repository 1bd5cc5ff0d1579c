import Wayland.Text.Decimal

/-!
Contract: the shortest decimal texts of binary64 numbers.

Owns: the fewest decimal digits that read back as a number, and the two notations made of them.

Does not own: rounding a decimal to binary64.
-/

namespace Wayland.Text.Shortest

/-- A magnitude `significand * 2 ^ place` as a fraction. -/
def binaryFraction
    (significand : Nat)
    (place : Int) :
    Nat × Nat :=
  if 0 ≤ place then (significand * Nat.pow 2 place.toNat, 1)
  else (significand, Nat.pow 2 (-place).toNat)

/-- The power of ten of the first digit of a positive fraction. -/
def leadingPower
    (numerator denominator : Nat) :
    Int :=
  if denominator ≤ numerator then
    ((Nat.toDigits 10 (numerator / denominator)).length : Int) - 1
  else
    let above := (denominator + numerator - 1) / numerator
    0 - ((Nat.toDigits 10 (above - 1)).length : Int)

/-- Whether `digits * 10 ^ exponent` reads back as the given fraction. -/
def readsBack
    (numerator denominator digits : Nat)
    (exponent : Int) :
    Bool :=
  let (significand, place) := Decimal.toBinary ⟨false, digits, exponent⟩
  let (found, scale) := binaryFraction significand place
  found * denominator == numerator * scale

/-- The two decimals beside a fraction that are multiples of `10 ^ exponent`, the nearer one first.
-/
def neighbours
    (numerator denominator : Nat)
    (exponent : Int) :
    List Nat :=
  let (numerator, denominator) :=
    if 0 ≤ exponent then (numerator, denominator * Nat.pow 10 exponent.toNat)
    else (numerator * Nat.pow 10 (-exponent).toNat, denominator)
  let below := numerator / denominator
  if Decimal.roundHalfEven numerator denominator = below then [below, below + 1]
  else [below + 1, below]

/-- The first decimal that reads back, tried with more and more digits. -/
def search
    (numerator denominator : Nat)
    (exponent : Int) :
    (tries : Nat) → Nat × Int
  | 0 => ((neighbours numerator denominator exponent).headD 0, exponent)
  | tries + 1 =>
      let found := (neighbours numerator denominator exponent).find? fun digits =>
        readsBack numerator denominator digits exponent
      match found with
      | some digits => (digits, exponent)
      | none => search numerator denominator (exponent - 1) tries

/-- The fewest digits that read back as `significand * 2 ^ place`, with the power of ten of the
last one.  Seventeen always do. -/
def decimal
    (significand : Nat)
    (place : Int) :
    Nat × Int :=
  if significand = 0 then (0, 0)
  else
    let (numerator, denominator) := binaryFraction significand place
    search numerator denominator (leadingPower numerator denominator) 16

/-- A digit list with the power of ten of its first digit, without zeros at the end. -/
def digits
    (value : Nat)
    (exponent : Int) :
    List Char × Int :=
  let all := Nat.toDigits 10 value
  let kept := (all.reverse.dropWhile (· == '0')).reverse
  (if kept.isEmpty then ['0'] else kept, exponent + all.length - 1)

/-- Digits written out around a point. -/
def positional
    (shown : List Char)
    (power : Int) :
    String :=
  String.ofList <|
    if power < 0 then '0' :: '.' :: List.replicate (-power - 1).toNat '0' ++ shown
    else
      let whole := power.toNat + 1
      if shown.length ≤ whole then shown ++ List.replicate (whole - shown.length) '0'
      else shown.take whole ++ '.' :: shown.drop whole

/-- Digits with one of them before the point, and a power of ten of at least two digits. -/
def scientific
    (shown : List Char)
    (power : Int) :
    String :=
  let fraction := if shown.length ≤ 1 then [] else '.' :: shown.drop 1
  let size := Nat.toDigits 10 power.natAbs
  let padded := if size.length < 2 then '0' :: size else size
  String.ofList
    (shown.take 1 ++ fraction ++ 'e' :: (if power < 0 then '-' else '+') :: padded)

/-- The digits shown of `significand * 2 ^ place`, with the power of ten of the first one. -/
def shownDigits
    (significand : Nat)
    (place : Int) :
    List Char × Int :=
  let (value, exponent) := decimal significand place
  digits value exponent

def plain
    (negative : Bool)
    (significand : Nat)
    (place : Int) :
    String :=
  let (shown, power) := shownDigits significand place
  (if negative then "-" else "") ++ positional shown power

/-- The text of a binary64 number; magnitudes below `10 ^ -4` and from `10 ^ 6` on have a power of
ten. -/
def general
    (negative : Bool)
    (significand : Nat)
    (place : Int) :
    String :=
  let (shown, power) := shownDigits significand place
  (if negative then "-" else "")
    ++ if power < -4 || 6 ≤ power then scientific shown power else positional shown power

/-- The positional text of the binary64 number nearest to a decimal. -/
def plainText
    (number : Decimal) :
    String :=
  let (significand, place) := number.toBinary
  plain number.negative significand place

def generalText
    (number : Decimal) :
    String :=
  let (significand, place) := number.toBinary
  general number.negative significand place

end Wayland.Text.Shortest
