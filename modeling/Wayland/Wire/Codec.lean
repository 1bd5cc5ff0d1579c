import Wayland.Text.Bytes
import Wayland.Wire.Argument
import Wayland.Wire.Error
import Wayland.Wire.Signature

/-!
Contract: message bodies.

Owns:
- little-endian words, the padding rule, length-prefixed spans, and their readers, which return the
  value with the remaining bytes;
- the size limit of a message;
- the segment of every argument class, written by `Argument.segment` and read by `Slot.read`;
- whole bodies, with descriptors on their own queue beside the bytes, and bodies that grow in place
  behind bytes that are already there.

Does not own: message headers, or what the arguments mean to a session.
-/

namespace Wayland.Wire

open Wayland.Text

/-! ## Words and spans -/

namespace Word

/-- The four bytes of a word, least significant first. -/
def encode
    (word : UInt32) :
    Bytes :=
  [word.toUInt8, (word >>> 8).toUInt8, (word >>> 16).toUInt8, (word >>> 24).toUInt8]

/-- The word of four bytes, least significant first. -/
def ofBytes
    (b0 b1 b2 b3 : UInt8) :
    UInt32 :=
  b0.toUInt32 ||| (b1.toUInt32 <<< 8) ||| (b2.toUInt32 <<< 16) ||| (b3.toUInt32 <<< 24)

def decode? : Bytes → Option (UInt32 × Bytes)
  | b0 :: b1 :: b2 :: b3 :: rest => some (ofBytes b0 b1 b2 b3, rest)
  | _ => none

/-- Every word has four bytes. -/
@[simp]
theorem length_encode
    (word : UInt32) :
    (encode word).length = 4 :=
  rfl

end Word

namespace Span

/-- The number of filler bytes after a span of the given length: up to the next multiple of 4. -/
def padding
    (length : Nat) :
    Nat :=
  (4 - length % 4) % 4

/-- Filler and span together end at a multiple of 4. -/
theorem length_add_padding_mod
    (length : Nat) :
    (length + padding length) % 4 = 0 := by
  unfold padding
  omega

/-- The next multiple of 4. -/
def padded
    (length : Nat) :
    Nat :=
  (length + 3) / 4 * 4

/-- A span: its length as a word, its bytes, and zero filler. -/
def encode
    (content : Bytes) :
    Bytes :=
  Word.encode (UInt32.ofNat content.length)
    ++ (content ++ List.replicate (padding content.length) 0)

/-- How reading a span fails. -/
inductive ReadError where
  | truncated
  | badLength
deriving DecidableEq, Repr

/-- Reads a span and returns the remaining bytes.  Filler bytes may have any value. -/
def decode
    (body : Bytes) :
    Except ReadError (Bytes × Bytes) :=
  match Word.decode? body with
  | none => .error .truncated
  | some (length, rest) =>
      let total := length.toNat + padding length.toNat
      if rest.length < total then .error .badLength
      else .ok (rest.take length.toNat, rest.drop total)

end Span

/-! ## Bodies -/

def headerSize : Nat := 8

/-- The greatest size of a message, header included. -/
def maxMessageSize : Nat := 4096

/-- A message body and the descriptors that travel beside it. -/
structure Payload where
  body : Bytes := []
  descriptors : List Int := []
deriving DecidableEq, Repr

/-- The bytes of a string: a span whose last and only zero byte ends it. -/
def stringSegment
    (content : Bytes) :
    Except Cause Bytes :=
  if content.contains 0 then .error .stringNul
  else if headerSize + 4 + (content.length + 1) > maxMessageSize then .error .messageTooLarge
  else .ok (Span.encode (content ++ [0]))

/-- What one value adds to a message under its slot: its bytes and its descriptors. -/
def Argument.segment
    (site : Site)
    (slot : Slot) :
    Argument → Except Error Payload
  | .int value => .ok { body := Word.encode value.toUInt32 }
  | .uint value => .ok { body := Word.encode value }
  | .fixed value => .ok { body := Word.encode value.raw.toUInt32 }
  | .string none =>
      if slot.nullable then .ok { body := Word.encode 0 }
      else .error (.atArgument site .nullArgument)
  | .string (some content) =>
      match stringSegment content with
      | .ok bytes => .ok { body := bytes }
      | .error cause => .error (.atArgument site cause)
  | .object id =>
      if id = 0 ∧ slot.nullable = false then .error (.atArgument site .nullArgument)
      else .ok { body := Word.encode id }
  | .newId id interface version =>
      if id = 0 then .error (.missingId site)
      else if slot.isDynamic then
        if interface.isEmpty then .error (.missingInterface site)
        else
          match stringSegment interface with
          | .ok bytes => .ok { body := bytes ++ Word.encode version ++ Word.encode id }
          | .error cause => .error (.atArgument site cause)
      else .ok { body := Word.encode id }
  | .array content => .ok { body := Span.encode content }
  | .fd descriptor => .ok { descriptors := [descriptor] }
  | .unassigned code => .error (.kindUnassigned site (.unassigned code))

/-- Whether the size limit is looked at after a value.  An absent string adds one word and is
passed over. -/
def Argument.isMeasured : Argument → Bool
  | .string none => false
  | _ => true

/-- Encodes the remaining values after what has been produced so far. -/
def encodeFrom
    (message : String)
    (produced : Payload) :
    List Slot → List Argument → Except Error Payload
  | slot :: slots, value :: values =>
      let site : Site := ⟨message, slot.name⟩
      if value.kind ≠ slot.kind then .error (.kindMismatch site slot.kind value.kind)
      else
        match value.segment site slot with
        | .error error => .error error
        | .ok segment =>
            let produced : Payload :=
              ⟨produced.body ++ segment.body, produced.descriptors ++ segment.descriptors⟩
            if value.isMeasured && decide (headerSize + produced.body.length > maxMessageSize) then
              .error (.bodyTooLarge message)
            else encodeFrom message produced slots values
  | _, _ => .ok produced

def encode
    (signature : Signature)
    (values : List Argument) :
    Except Error Payload :=
  if values.length ≠ signature.slots.length then
    .error (.argumentCount signature.name signature.slots.length values.length)
  else encodeFrom signature.name {} signature.slots values

/-! ## Growing bodies -/

namespace Payload

/-- Puts bytes behind the body. -/
def putBytes
    (produced : Payload)
    (bytes : Bytes) :
    Payload :=
  { produced with body := produced.body ++ bytes }

/-- Puts a word behind the body. -/
def putWord
    (produced : Payload)
    (word : UInt32) :
    Payload :=
  produced.putBytes (Word.encode word)

/-- Puts zero bytes behind the body, one after the other. -/
def putZeros
    (produced : Payload) :
    (count : Nat) → Payload
  | 0 => produced
  | count + 1 => (produced.putBytes [0]).putZeros count

/-- Puts the filler of a span of the given length behind the body. -/
def putPadding
    (produced : Payload)
    (length : Nat) :
    Payload :=
  produced.putZeros (Span.padded length - length)

/-- Puts a string behind the body: the length of its bytes with the zero byte that ends them, these
bytes, and filler. -/
def putString
    (produced : Payload)
    (content : Bytes) :
    Except Cause Payload :=
  let length := content.length + 1
  if content.contains 0 then .error .stringNul
  else if headerSize + 4 + length > maxMessageSize then .error .messageTooLarge
  else
    .ok ((((produced.putWord (UInt32.ofNat length)).putBytes content).putBytes [0]).putPadding
      length)

/-- Puts an array behind the body: its length, its bytes, and filler. -/
def putArray
    (produced : Payload)
    (content : Bytes) :
    Payload :=
  ((produced.putWord (UInt32.ofNat content.length)).putBytes content).putPadding content.length

/-- Puts a descriptor behind those that travel beside the body. -/
def putDescriptor
    (produced : Payload)
    (descriptor : Int) :
    Payload :=
  { produced with descriptors := produced.descriptors ++ [descriptor] }

end Payload

/-- Puts one value under its slot behind what has been produced so far. -/
def Argument.put
    (site : Site)
    (slot : Slot)
    (produced : Payload) :
    Argument → Except Error Payload
  | .int value => .ok (produced.putWord value.toUInt32)
  | .uint value => .ok (produced.putWord value)
  | .fixed value => .ok (produced.putWord value.raw.toUInt32)
  | .string none =>
      if slot.nullable then .ok (produced.putWord 0)
      else .error (.atArgument site .nullArgument)
  | .string (some content) =>
      match produced.putString content with
      | .ok grown => .ok grown
      | .error cause => .error (.atArgument site cause)
  | .object id =>
      if id = 0 ∧ slot.nullable = false then .error (.atArgument site .nullArgument)
      else .ok (produced.putWord id)
  | .newId id interface version =>
      if id = 0 then .error (.missingId site)
      else if slot.isDynamic then
        if interface.isEmpty then .error (.missingInterface site)
        else
          match produced.putString interface with
          | .ok grown => .ok ((grown.putWord version).putWord id)
          | .error cause => .error (.atArgument site cause)
      else .ok (produced.putWord id)
  | .array content => .ok (produced.putArray content)
  | .fd descriptor => .ok (produced.putDescriptor descriptor)
  | .unassigned code => .error (.kindUnassigned site (.unassigned code))

/-- Puts the remaining values behind what has been produced so far.  The message begins at `start`,
and its size is measured from there. -/
def putAll
    (message : String)
    (start : Nat)
    (produced : Payload) :
    List Slot → List Argument → Except Error Payload
  | slot :: slots, value :: values =>
      let site : Site := ⟨message, slot.name⟩
      if value.kind ≠ slot.kind then .error (.kindMismatch site slot.kind value.kind)
      else
        match value.put site slot produced with
        | .error error => .error error
        | .ok grown =>
            if value.isMeasured
                && decide (headerSize + grown.body.length - start > maxMessageSize) then
              .error (.bodyTooLarge message)
            else putAll message start grown slots values
  | _, _ => .ok produced

/-- Encodes a list of values in place, behind bytes that are already there. -/
def encodeAfter
    (lead : Bytes)
    (signature : Signature)
    (values : List Argument) :
    Except Error Payload :=
  if values.length ≠ signature.slots.length then
    .error (.argumentCount signature.name signature.slots.length values.length)
  else putAll signature.name lead.length { body := lead } signature.slots values

/-! ## Reading -/

/-- A value that has been read, with the bytes and descriptors that remain. -/
structure Reading (α : Type) where
  value : α
  body : Bytes
  descriptors : List Int
deriving DecidableEq, Repr

def readWord
    (body : Bytes) :
    Except Cause (UInt32 × Bytes) :=
  match Word.decode? body with
  | some reading => .ok reading
  | none => .error .truncated

def readSpan
    (body : Bytes) :
    Except Cause (Bytes × Bytes) :=
  match Span.decode body with
  | .ok reading => .ok reading
  | .error .truncated => .error .truncated
  | .error .badLength => .error .badLength

/-- Reads a string; an empty span is the absent string. -/
def readString
    (body : Bytes) :
    Except Cause (Option Bytes × Bytes) :=
  match readSpan body with
  | .error cause => .error cause
  | .ok (span, rest) =>
      match span.getLast? with
      | none => .ok (none, rest)
      | some last =>
          if last ≠ 0 then .error .unterminated
          else if span.dropLast.contains 0 then .error .stringNul
          else .ok (some span.dropLast, rest)

/-- Reads an object id that must not be zero. -/
def readId
    (body : Bytes) :
    Except Cause (ObjectId × Bytes) := do
  let (id, rest) ← readWord body
  if id = 0 then throw .nullArgument
  return (id, rest)

def Slot.read
    (slot : Slot)
    (body : Bytes)
    (descriptors : List Int) :
    Except Cause (Reading Argument) :=
  match slot.kind with
  | .int => do
      let (word, rest) ← readWord body
      return ⟨.int word.toInt32, rest, descriptors⟩
  | .uint => do
      let (word, rest) ← readWord body
      return ⟨.uint word, rest, descriptors⟩
  | .fixed => do
      let (word, rest) ← readWord body
      return ⟨.fixed ⟨word.toInt32⟩, rest, descriptors⟩
  | .string => do
      let (content, rest) ← readString body
      if content.isNone && !slot.nullable then throw .nullArgument
      return ⟨.string content, rest, descriptors⟩
  | .object => do
      let (id, rest) ← readWord body
      if id = 0 ∧ slot.nullable = false then throw .nullArgument
      return ⟨.object id, rest, descriptors⟩
  | .newId =>
      if slot.isDynamic then do
        let (interface, afterName) ← readString body
        match interface with
        | none => throw .nullArgument
        | some interface =>
            let (version, afterVersion) ← readWord afterName
            let (id, rest) ← readId afterVersion
            return ⟨.newId id interface version, rest, descriptors⟩
      else do
        let (id, rest) ← readId body
        return ⟨.newId id [] 0, rest, descriptors⟩
  | .array => do
      let (content, rest) ← readSpan body
      return ⟨.array content, rest, descriptors⟩
  | .fd =>
      match descriptors with
      | descriptor :: remaining => .ok ⟨.fd descriptor, body, remaining⟩
      | [] => .error .missingDescriptor
  | .unassigned _ => .error .argumentKind

/-- Reads one value per slot, in order. -/
def readSlots
    (message : String)
    (body : Bytes)
    (descriptors : List Int) :
    List Slot → Except Error (Reading (List Argument))
  | [] => .ok ⟨[], body, descriptors⟩
  | slot :: slots =>
      match slot.read body descriptors with
      | .error cause => .error (.atArgument ⟨message, slot.name⟩ cause)
      | .ok first =>
          match readSlots message first.body first.descriptors slots with
          | .error error => .error error
          | .ok others => .ok { others with value := first.value :: others.value }

/-- A decoded body: its values and the number of descriptors they took. -/
structure Decoded where
  arguments : List Argument
  descriptorsUsed : Nat
deriving DecidableEq, Repr

/-- Decodes a body under a signature.  Nothing may remain of the body; descriptors may. -/
def decode
    (signature : Signature)
    (payload : Payload) :
    Except Error Decoded :=
  match readSlots signature.name payload.body payload.descriptors signature.slots with
  | .error error => .error error
  | .ok reading =>
      if reading.body.isEmpty then
        .ok ⟨reading.value, payload.descriptors.length - reading.descriptors.length⟩
      else .error (.trailingBytes signature.name reading.body.length)

end Wayland.Wire
