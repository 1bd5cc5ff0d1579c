import Wayland.Text.Bytes
import Wayland.Yaml.Token

/-!
Contract: the characters of a YAML text.

Owns: byte order marks, the characters a text may hold, the fault of the first character it may not
hold, and the blocks of 512 bytes in which characters are looked at: a fault hides nothing that
stands in an earlier block.

Does not own: tokens.
-/

namespace Wayland.Yaml

open Wayland.Text

def isTextChar
    (char : Char) :
    Bool :=
  let code := char.toNat
  code == 9 || code == 10 || code == 13 || (0x20 ≤ code && code ≤ 0x7E) || code == 0x85
    || (0xA0 ≤ code && code ≤ 0xD7FF) || (0xE000 ≤ code && code ≤ 0xFFFD) || 0x10000 ≤ code

/-- What stands at a place of a text: a character, or a fault. -/
structure Sight where
  /-- How many bytes have to be at hand to tell. -/
  width : Nat
  /-- Whether the text ends before that many bytes, which its end alone can tell. -/
  cut : Bool := false
  found : Except String Char

def Sight.ofChar
    (width : Nat)
    (char : Char) :
    Sight :=
  if isTextChar char then { width, found := .ok char }
  else { width, found := .error "control characters are not allowed" }

/-- The number of bytes of a character by the first of them; zero if none starts so. -/
def octetCount
    (octet : Nat) :
    Nat :=
  if octet < 0x80 then 1
  else if 0xC0 ≤ octet ∧ octet < 0xE0 then 2
  else if 0xE0 ≤ octet ∧ octet < 0xF0 then 3
  else if 0xF0 ≤ octet ∧ octet < 0xF8 then 4
  else 0

/-- What is wrong with all bytes of a character of two or more. -/
def octetFault
    (first : UInt8)
    (trailing : Bytes) :
    String :=
  let width := trailing.length + 1
  if trailing.any fun byte => byte &&& 0xC0 != 0x80 then "invalid trailing UTF-8 octet"
  else
    let lead := first.toNat % Nat.pow 2 (7 - width)
    let value := trailing.foldl (fun value byte => value * 64 + byte.toNat % 64) lead
    if (width = 2 ∧ value < 0x80) ∨ (width = 3 ∧ value < 0x800) ∨ (width = 4 ∧ value < 0x10000) then
      "invalid length of a UTF-8 sequence"
    else "invalid Unicode character"

/-- What stands at the first byte of a text in UTF-8. -/
def sightUtf8
    (first : UInt8)
    (rest : Bytes) :
    Sight :=
  let width := octetCount first.toNat
  let trailing := rest.take (width - 1)
  if width = 0 then { width := 1, found := .error "invalid leading UTF-8 octet" }
  else if trailing.length < width - 1 then
    { width, cut := true, found := .error "incomplete UTF-8 octet sequence" }
  else
    match Bytes.firstChar? first rest with
    | some (char, _) => .ofChar width char
    | none => { width, found := .error (octetFault first trailing) }

def unit16
    (littleEndian : Bool)
    (first second : UInt8) :
    Nat :=
  if littleEndian then second.toNat * 256 + first.toNat else first.toNat * 256 + second.toNat

/-- What stands at the first byte of a text in 16-bit units; a character takes one or two. -/
def sightUtf16
    (littleEndian : Bool)
    (first : UInt8) :
    Bytes → Sight
  | [] => { width := 2, cut := true, found := .error "incomplete UTF-16 character" }
  | second :: rest =>
      let unit := unit16 littleEndian first second
      if 0xDC00 ≤ unit ∧ unit < 0xE000 then
        { width := 2, found := .error "unexpected low surrogate area" }
      else if 0xD800 ≤ unit ∧ unit < 0xDC00 then
        match rest with
        | third :: fourth :: _ =>
            let low := unit16 littleEndian third fourth
            if 0xDC00 ≤ low ∧ low < 0xE000 then
              .ofChar 4 (Char.ofNat (0x10000 + (unit - 0xD800) * 1024 + (low - 0xDC00)))
            else { width := 4, found := .error "expected low surrogate area" }
        | _ => { width := 4, cut := true, found := .error "incomplete UTF-16 surrogate pair" }
      else .ofChar 2 (Char.ofNat unit)

/-- The characters of a text up to its first fault.  `blocks` counts the characters up to the end of
each block, except for the block with the fault. -/
structure Input where
  chars : List Char
  size : Nat
  blocks : List Nat
  fault : Option String

def blockSize : Nat := 512

/-- Reads characters after skipping `pending` bytes.  `offset` counts bytes, `count` characters, and
`limit` is the end of the current block; a character that does not fit into it starts the next one.
Characters and blocks are kept latest first. -/
def readFrom
    (sight : UInt8 → Bytes → Sight)
    (pending : Nat)
    (latest : List Char)
    (offset count limit : Nat)
    (blocks : List Nat) :
    Bytes → Input
  | [] => ⟨latest.reverse, count, (count :: blocks).reverse, none⟩
  | first :: rest =>
      match pending with
      | skipped + 1 => readFrom sight skipped latest (offset + 1) count limit blocks rest
      | 0 =>
          let seen := sight first rest
          let starts := seen.cut || decide (limit < offset + seen.width)
          let limit := if starts then offset + blockSize else limit
          let blocks := if starts then count :: blocks else blocks
          match seen.found with
          | .error fault => ⟨latest.reverse, count, blocks.reverse, some fault⟩
          | .ok char =>
              readFrom sight (seen.width - 1) (char :: latest) (offset + 1) (count + 1) limit blocks
                rest

/-- The input of a text.  A byte order mark at its start is no part of it. -/
def Input.ofBytes : Bytes → Input
  | 0xFF :: 0xFE :: rest => readFrom (sightUtf16 true) 0 [] 2 0 blockSize [] rest
  | 0xFE :: 0xFF :: rest => readFrom (sightUtf16 false) 0 [] 2 0 blockSize [] rest
  | 0xEF :: 0xBB :: 0xBF :: rest => readFrom sightUtf8 0 [] 3 0 blockSize [] rest
  | bytes => readFrom sightUtf8 0 [] 0 0 blockSize [] bytes

end Wayland.Yaml
