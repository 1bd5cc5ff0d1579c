/-!
Contract: byte strings and their reading as text.

Owns:
- the byte string type of the wire and of documents;
- texts that hold every byte string exactly: a byte that starts no well-formed UTF-8 sequence is
  held by a private character of its own, and a character that is itself one of these is held by
  its bytes;
- the bytes of such a text, the strict reading, which refuses stray bytes, and the mended text, in
  which each stray byte is one replacement character.

Does not own: escaping, quoting, or the meaning of the text.
-/

namespace Wayland.Text

abbrev Bytes := List UInt8

/-- The character that stands for a byte that belongs to no well-formed sequence. -/
def replacement : Char := Char.ofNat 0xFFFD

/-- Where the private characters that hold stray bytes begin. -/
def strayBase : Nat := 0x10DC00

/-- The character that holds a stray byte. -/
def strayChar
    (byte : UInt8) :
    Char :=
  Char.ofNat (strayBase + byte.toNat)

/-- The stray byte that a character holds. -/
def strayByte?
    (char : Char) :
    Option UInt8 :=
  if strayBase ≤ char.toNat ∧ char.toNat < strayBase + 256 then
    some (UInt8.ofNat (char.toNat - strayBase))
  else none

/-- A part of a byte string: a character, or a byte that belongs to none. -/
inductive Glyph where
  | char (value : Char)
  | stray (byte : UInt8)
deriving DecidableEq, Repr

namespace Glyph

/-- The character of a glyph; a stray byte has none. -/
def char? : Glyph → Option Char
  | .char value => some value
  | .stray _ => none

/-- The characters that hold a character: itself, unless it is one of those for stray bytes. -/
def holdChar
    (char : Char) :
    List Char :=
  if (strayByte? char).isSome then (String.utf8EncodeChar char).map strayChar else [char]

/-- The characters that hold a glyph in a text. -/
def held : Glyph → List Char
  | .char value => holdChar value
  | .stray byte => [strayChar byte]

end Glyph

/-- The text that holds characters. -/
def hold
    (chars : List Char) :
    String :=
  String.ofList (chars.flatMap Glyph.holdChar)

namespace Bytes

def ofChar
    (char : Char) :
    Bytes :=
  match strayByte? char with
  | some byte => [byte]
  | none => String.utf8EncodeChar char

def ofText
    (text : String) :
    Bytes :=
  text.toList.flatMap ofChar

/-- A byte of the form `10xxxxxx`. -/
def isContinuation
    (byte : UInt8) :
    Bool :=
  0x80 ≤ byte && byte ≤ 0xBF

def payload
    (byte : UInt8) :
    Nat :=
  byte.toNat % 64

/-- Whether `second` may follow `first` in a sequence of two or more bytes.  The narrowed ranges
exclude overlong forms, surrogates and code points above the last one. -/
def secondAllowed
    (first second : UInt8) :
    Bool :=
  if first = 0xE0 then 0xA0 ≤ second && second ≤ 0xBF
  else if first = 0xED then 0x80 ≤ second && second ≤ 0x9F
  else if first = 0xF0 then 0x90 ≤ second && second ≤ 0xBF
  else if first = 0xF4 then 0x80 ≤ second && second ≤ 0x8F
  else isContinuation second

/-- The well-formed sequence at the head of the input: its character and its number of bytes. -/
def firstChar?
    (first : UInt8)
    (rest : Bytes) :
    Option (Char × Nat) :=
  if first < 0x80 then
    some (Char.ofNat first.toNat, 1)
  else if 0xC2 ≤ first && first ≤ 0xDF then
    match rest with
    | second :: _ =>
        if secondAllowed first second then
          some (Char.ofNat ((first.toNat - 0xC0) * 64 + payload second), 2)
        else none
    | _ => none
  else if 0xE0 ≤ first && first ≤ 0xEF then
    match rest with
    | second :: third :: _ =>
        if secondAllowed first second && isContinuation third then
          some (Char.ofNat
            ((first.toNat - 0xE0) * 4096 + payload second * 64 + payload third), 3)
        else none
    | _ => none
  else if 0xF0 ≤ first && first ≤ 0xF4 then
    match rest with
    | second :: third :: fourth :: _ =>
        if secondAllowed first second && isContinuation third && isContinuation fourth then
          some (Char.ofNat
            ((first.toNat - 0xF0) * 262144 + payload second * 4096
              + payload third * 64 + payload fourth), 4)
        else none
    | _ => none
  else none

/-- Reads on, after skipping `pending` bytes that an earlier sequence already covers.  Glyphs are
kept latest first. -/
def decodeFrom
    (pending : Nat)
    (latest : List Glyph) :
    Bytes → List Glyph
  | [] => latest.reverse
  | first :: rest =>
      match pending with
      | skipped + 1 => decodeFrom skipped latest rest
      | 0 =>
          match firstChar? first rest with
          | some (char, size) => decodeFrom (size - 1) (.char char :: latest) rest
          | none => decodeFrom 0 (.stray first :: latest) rest

def decode
    (bytes : Bytes) :
    List Glyph :=
  decodeFrom 0 [] bytes

def toText
    (bytes : Bytes) :
    String :=
  String.ofList ((decode bytes).flatMap Glyph.held)

/-- The strict reading: a text exactly when no byte is stray. -/
def toText?
    (bytes : Bytes) :
    Option String :=
  if (decode bytes).all (·.char?.isSome) then some (toText bytes) else none

end Bytes

def glyphs
    (text : String) :
    List Glyph :=
  Bytes.decode (Bytes.ofText text)

def hasStray
    (text : String) :
    Bool :=
  (glyphs text).any (·.char?.isNone)

/-- The characters of a text, with each stray byte replaced. -/
def mended
    (text : String) :
    List Char :=
  (glyphs text).map (·.char?.getD replacement)

def precedes
    (left right : String) :
    Bool :=
  decide (Bytes.ofText left ≤ Bytes.ofText right)

end Wayland.Text
