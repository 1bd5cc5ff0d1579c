import Wayland.Service.Message
import Wayland.Text.Blank
import Wayland.Text.Decimal

/-!
Contract: the media types and encodings that a request accepts.

Owns:
- the alternatives of a list with their parameters, the order in which they are preferred, and the
  way in which names of metrics are to be escaped;
- the encoding that the whole service packs bodies in, and the one that weighs the qualities a
  request states.

Does not own: what is sent, and the packing itself.
-/

namespace Wayland.Service

open Wayland.Text (Decimal)

/-! ## Media types -/

/-- A media type that is accepted. -/
structure Alternative where
  kind : String
  form : String
  parameters : List (String × String) := []
  /-- How much it is preferred, as a fraction. -/
  numerator : Int := 1
  denominator : Nat := 1
deriving DecidableEq, Repr

namespace Alternative

def cut
    (separator : Char)
    (chars : List Char) :
    List Char × List Char :=
  (chars.takeWhile (· != separator), (chars.dropWhile (· != separator)).drop 1)

/-- The text of characters without blanks around it. -/
def bare
    (chars : List Char) :
    String :=
  String.ofList
    ((chars.dropWhile (· == ' ')).reverse.dropWhile (· == ' ')).reverse

/-- An alternative that is preferred as a text says; a text that is no number counts as zero. -/
def weigh
    (alternative : Alternative)
    (text : String) :
    Alternative :=
  match Decimal.ofText? text with
  | none => { alternative with numerator := 0, denominator := 1 }
  | some number =>
      let (numerator, denominator) := number.bounded.fraction
      { alternative with
        numerator := if number.negative then -(numerator : Int) else numerator
        denominator }

/-- Takes in one parameter, which must have one equals sign and a value. -/
def addParameter
    (alternative : Alternative)
    (chars : List Char) :
    Alternative :=
  let (name, rest) := cut '=' chars
  let (value, beyond) := cut '=' rest
  if rest.isEmpty || !beyond.isEmpty then alternative
  else if bare name == "q" then alternative.weigh (String.ofList value)
  else { alternative with parameters := (bare name, bare value) :: alternative.parameters }

/-- Reads an alternative: two names with a slash between them, or a star, and parameters. -/
def ofChars?
    (chars : List Char) :
    Option Alternative :=
  let (names, parameters) := cut ';' chars
  let (kind, rest) := cut '/' names
  let (form, beyond) := cut '/' rest
  let found? : Option Alternative :=
    if rest.isEmpty then if bare kind == "*" then some ⟨"*", "*", [], 1, 1⟩ else none
    else if beyond.isEmpty then some ⟨bare kind, bare form, [], 1, 1⟩
    else none
  found?.map fun found =>
    if parameters.isEmpty then found
    else (Text.splitChars ';' parameters).foldl addParameter found

/-- The value of a parameter; empty if there is none. -/
def parameter
    (alternative : Alternative)
    (name : String) :
    String :=
  (alternative.parameters.lookup name).getD ""

/-- Whether one alternative comes before another: by preference, or because it says more. -/
def precedes
    (left right : Alternative) :
    Bool :=
  right.numerator * left.denominator < left.numerator * right.denominator
    || (left.kind != "*" && right.kind == "*")
    || (left.form != "*" && right.form == "*")

/-- Puts an alternative behind the last of those, latest first, that it does not precede. -/
def insert
    (alternative : Alternative) :
    List Alternative → List Alternative
  | [] => [alternative]
  | last :: others =>
      if alternative.precedes last then last :: insert alternative others
      else alternative :: last :: others

def ofText
    (text : String) :
    List Alternative :=
  let parts := (Text.splitChars ',' text.toList).filterMap fun part =>
    ofChars? (bare part).toList
  (parts.foldl (fun sorted alternative => insert alternative sorted) []).reverse

def isPlainText
    (alternative : Alternative) :
    Bool :=
  alternative.kind == "text" && alternative.form == "plain"
    && ["", "0.0.4"].contains (alternative.parameter "version")

end Alternative

def escapings : List String := ["allow-utf-8", "underscores", "dots", "values"]

/-- The escaping that alternatives ask for, up to the first that asks for plain text. -/
def escapingFrom
    (current : String) :
    List Alternative → String
  | [] => current
  | alternative :: rest =>
      let asked := alternative.parameter "escaping"
      let current := if escapings.contains asked then asked else current
      if alternative.isPlainText then current else escapingFrom current rest

def escaping
    (accepted : String) :
    String :=
  escapingFrom "underscores" (Alternative.ofText accepted)

/-! ## Encodings -/

/-- The first listed encoding in which the service packs bodies. -/
def packing?
    (accepted : String) :
    Option String :=
  ((Text.splitText ',' accepted).map Text.trim).find? (["gzip", "deflate"].contains ·)

/-! ### Qualities -/

/-- A quality: a decimal fraction as a numerator above a power of ten. -/
structure Quality where
  numerator : Nat
  denominator : Nat
deriving DecidableEq, Repr

def Quality.above
    (left right : Quality) :
    Bool :=
  right.numerator * left.denominator < left.numerator * right.denominator

def Quality.read? : List Char → Option (Quality × List Char)
  | first :: rest =>
      if first = '0' || first = '1' then
        let whole := first.toNat - '0'.toNat
        match rest with
        | '.' :: digits =>
            let shown := digits.takeWhile Char.isDigit
            let fraction :=
              shown.foldl (fun value digit => value * 10 + (digit.toNat - '0'.toNat)) 0
            let scale := Nat.pow 10 shown.length
            some (⟨whole * scale + fraction, scale⟩, digits.dropWhile Char.isDigit)
        | _ => some (⟨whole, 1⟩, rest)
      else none
  | [] => none

def isEncodingChar
    (char : Char) :
    Bool :=
  32 < char.toNat && char.toNat < 127 && !"\"(),:;<=>?@[]\\\x7b\x7d".toList.contains char

/-- Whether a character is a blank between the parts of a list of encodings. -/
def isGap
    (char : Char) :
    Bool :=
  char = ' ' || char = '\t' || char = '\r' || char = '\n'

/-- One encoding of a list with its quality, and what follows. -/
def readPreference?
    (chars : List Char) :
    Option ((String × Quality) × List Char) :=
  let name := String.ofList (chars.takeWhile isEncodingChar)
  if name.isEmpty then none
  else
    match (chars.dropWhile isEncodingChar).dropWhile isGap with
    | ';' :: rest =>
        match rest.dropWhile isGap with
        | 'q' :: '=' :: shown =>
            (Quality.read? shown).map fun (quality, rest) => ((name, quality), rest.dropWhile isGap)
        | _ => none
    | rest => some ((name, ⟨1, 1⟩), rest)

/-- The encodings of a list with their qualities, up to the first that cannot be read.  The fuel is
the number of characters. -/
def readPreferences : Nat → List Char → List (String × Quality)
  | 0, _ => []
  | fuel + 1, chars =>
      match readPreference? chars with
      | none => []
      | some (preference, ',' :: rest) =>
          preference :: readPreferences fuel (rest.dropWhile isGap)
      | some (preference, _) => [preference]

/-- The quality of an encoding: the highest that is stated for it or for all encodings. -/
def qualityOf
    (preferences : List (String × Quality))
    (encoding : String) :
    Option Quality :=
  (preferences.filter fun (name, _) => name = encoding || name = "*").foldl
    (fun best (_, quality) =>
      if best.all (quality.above ·) then some quality else best)
    none

/-- Whether a packed body has a higher quality than a plain one. -/
def prefersGzip
    (accepted : List String) :
    Bool :=
  let preferences := accepted.flatMap fun text => readPreferences text.length text.toList
  match qualityOf preferences "gzip" with
  | none => false
  | some packed =>
      packed.numerator != 0 && (qualityOf preferences "identity").all (packed.above ·)

end Wayland.Service
