import Wayland.Text.Number

/-!
Contract: dates and times as YAML scalars write them.

Owns: the accepted forms, the calendar, the texts of an instant and the order of instants.

Does not own: which scalars may be dates.
-/

namespace Wayland.Yaml

open Wayland.Text

/-- The zone of a time.  An offset is in seconds; that of zero is the zone of the machine. -/
inductive Zone where
  | universal
  | offset (seconds : Int)
deriving DecidableEq, Repr

/-- A point in time, by the clock and the calendar of its zone. -/
structure Instant where
  year : Nat
  month : Nat
  day : Nat
  hour : Nat := 0
  minute : Nat := 0
  second : Nat := 0
  nanosecond : Nat := 0
  zone : Zone := .universal
deriving DecidableEq, Repr

/-! ## Reading -/

/-- Reads one or two digits whose value is within bounds. -/
def boundedField?
    (low high : Nat)
    (chars : List Char) :
    Option (Nat × List Char) :=
  let digits := (chars.take 2).takeWhile Char.isDigit
  match natOfDigits? 10 digits with
  | some value =>
      if low ≤ value ∧ value ≤ high then some (value, chars.drop digits.length) else none
  | none => none

def expectChar?
    (wanted : Char) :
    List Char → Option (List Char)
  | char :: rest => if char == wanted then some rest else none
  | [] => none

def daysIn
    (year month : Nat) :
    Nat :=
  if month = 2 then
    if (year % 4 = 0 ∧ year % 100 ≠ 0) ∨ year % 400 = 0 then 29 else 28
  else if month = 4 ∨ month = 6 ∨ month = 9 ∨ month = 11 then 30
  else 31

/-- Reads an optional fraction of a second as nanoseconds; digits behind the ninth do not count. -/
def readFraction : List Char → Nat × List Char
  | mark :: digit :: rest =>
      if (mark == '.' || mark == ',') && digit.isDigit then
        let digits := (digit :: rest).takeWhile Char.isDigit
        let used := digits.take 9
        let value := (natOfDigits? 10 used).getD 0
        (value * Nat.pow 10 (9 - used.length), (digit :: rest).drop digits.length)
      else (0, mark :: digit :: rest)
  | rest => (0, rest)

/-- Reads a zone that ends the text: `Z`, or a sign, hours and minutes. -/
def zone? : List Char → Option Zone
  | ['Z'] => some .universal
  | [sign, h1, h2, ':', m1, m2] => do
      let hours ← natOfDigits? 10 [h1, h2]
      let minutes ← natOfDigits? 10 [m1, m2]
      let seconds : Int := (hours * 60 + minutes) * 60
      if hours ≤ 24 ∧ minutes ≤ 60 then
        if sign == '+' then some (.offset seconds)
        else if sign == '-' then some (.offset (-seconds))
        else none
      else none
  | _ => none

/-- Reads the time of day and the zone after a date.  After blanks there is no zone. -/
def timeOfDay?
    (date : Instant)
    (zoned : Bool)
    (chars : List Char) :
    Option Instant := do
  let (hour, rest) ← boundedField? 0 23 chars
  let rest ← expectChar? ':' rest
  let (minute, rest) ← boundedField? 0 59 rest
  let rest ← expectChar? ':' rest
  let (second, rest) ← boundedField? 0 59 rest
  let (nanosecond, rest) := readFraction rest
  let timed := { date with hour, minute, second, nanosecond }
  if zoned then (zone? rest).map fun zone => { timed with zone }
  else if rest.isEmpty then some timed
  else none

/-- Reads a date, alone or with a time of day behind a `T` or behind blanks. -/
def Instant.ofChars?
    (chars : List Char) :
    Option Instant := do
  let digits := chars.takeWhile Char.isDigit
  let year ← if digits.length = 4 then natOfDigits? 10 digits else none
  let rest ← expectChar? '-' (chars.drop 4)
  let (month, rest) ← boundedField? 1 12 rest
  let rest ← expectChar? '-' rest
  let (day, rest) ← boundedField? 1 (daysIn year month) rest
  let date : Instant := { year, month, day }
  match rest with
  | [] => some date
  | 'T' :: rest => timeOfDay? date true rest
  | 't' :: rest => timeOfDay? date true rest
  | ' ' :: rest => timeOfDay? date false (rest.dropWhile (· == ' '))
  | _ => none

/-! ## Writing -/

/-- A number with zeros in front, up to a width. -/
def padded
    (width value : Nat) :
    String :=
  let digits := Nat.toDigits 10 value
  String.ofList (List.replicate (width - digits.length) '0' ++ digits)

/-- An offset as a sign, hours and minutes. -/
def offsetText
    (seconds : Int) :
    String :=
  let minutes := seconds.natAbs / 60
  (if seconds < 0 then "-" else "+") ++ padded 2 (minutes / 60) ++ padded 2 (minutes % 60)

/-- A zone as its offset and its name; zones without a name show their offset again. -/
def Zone.text : Zone → String
  | .universal => "+0000 UTC"
  | .offset seconds =>
      if seconds = 0 then "+0000 UTC" else offsetText seconds ++ " " ++ offsetText seconds

namespace Instant

/-- The fraction of a second without zeros at its end. -/
def fractionText
    (instant : Instant) :
    String :=
  if instant.nanosecond = 0 then ""
  else
    let digits := (padded 9 instant.nanosecond).toList
    "." ++ String.ofList (digits.reverse.dropWhile (· == '0')).reverse

def text
    (instant : Instant) :
    String :=
  padded 4 instant.year ++ "-" ++ padded 2 instant.month ++ "-" ++ padded 2 instant.day ++ " "
    ++ padded 2 instant.hour ++ ":" ++ padded 2 instant.minute ++ ":" ++ padded 2 instant.second
    ++ instant.fractionText ++ " " ++ instant.zone.text

def monthNames : List String :=
  ["January", "February", "March", "April", "May", "June", "July", "August", "September",
    "October", "November", "December"]

def zoneLiteral : Zone → String
  | .universal => "time.UTC"
  | .offset seconds => if seconds = 0 then "time.Local" else "time.Location(\"\")"

def literal
    (instant : Instant) :
    String :=
  let fields := [instant.day, instant.hour, instant.minute, instant.second, instant.nanosecond]
  "time.Date(" ++ toString instant.year ++ ", time."
    ++ monthNames.getD (instant.month - 1) ""
    ++ String.join (fields.map fun field => ", " ++ toString field)
    ++ ", " ++ zoneLiteral instant.zone ++ ")"

/-- The fields of an instant in the order in which they decide: the fraction of a second comes
first. -/
def fields
    (instant : Instant) :
    List Nat :=
  [instant.nanosecond, instant.year, instant.month, instant.day, instant.hour, instant.minute,
    instant.second]

def precedes
    (left right : Instant) :
    Bool :=
  match (left.fields.zip right.fields).find? fun (first, second) => first != second with
  | some (first, second) => decide (first < second)
  | none => true

end Instant

end Wayland.Yaml
