import Wayland.Wire.Codec

/-!
Contract: framed messages on a byte stream.

Owns: message headers, framing of one message, cutting the first message off a buffer, and cutting
a buffer into all the messages it holds.

Does not own: the layout of message bodies.
-/

namespace Wayland.Wire

open Wayland.Text

/-- What stands before every message body.  `size` counts the header too. -/
structure Header where
  sender : ObjectId
  opcode : UInt16
  size : UInt16
deriving DecidableEq, Repr

/-- A message cut off a stream. -/
structure Frame where
  header : Header
  body : Bytes
deriving DecidableEq, Repr

namespace Header

/-- A size that a message can have: a multiple of 4 from the bare header to the limit. -/
def sizeAllowed
    (size : UInt16) :
    Bool :=
  decide (headerSize ≤ size.toNat) && size.toNat % 4 == 0 && decide (size.toNat ≤ maxMessageSize)

/-- The eight bytes of a header: the sender, then size and opcode in one word. -/
def encode
    (header : Header) :
    Bytes :=
  Word.encode header.sender
    ++ Word.encode ((header.size.toUInt32 <<< 16) ||| header.opcode.toUInt32)

/-- Reads the header at the start of a buffer and returns the bytes after it. -/
def decode
    (buffer : Bytes) :
    Except Error (Header × Bytes) :=
  match Word.decode? buffer with
  | none => .error .truncated
  | some (sender, afterSender) =>
      match Word.decode? afterSender with
      | none => .error .truncated
      | some (word, rest) =>
          let header : Header := ⟨sender, word.toUInt16, (word >>> 16).toUInt16⟩
          if sizeAllowed header.size then .ok (header, rest)
          else .error (.badSize header.size)

end Header

namespace Frame

def encode
    (sender : ObjectId)
    (opcode : UInt16)
    (body : Bytes) :
    Except Error Bytes :=
  let size := headerSize + body.length
  if size > maxMessageSize then .error (.frameTooLarge size)
  else .ok (Header.encode ⟨sender, opcode, UInt16.ofNat size⟩ ++ body)

/-- Cuts the first message off a buffer. -/
def split
    (buffer : Bytes) :
    Except Error (Frame × Bytes) :=
  match Header.decode buffer with
  | .error error => .error error
  | .ok (header, rest) =>
      let length := header.size.toNat - headerSize
      if rest.length < length then .error .truncated
      else .ok (⟨header, rest.take length⟩, rest.drop length)

/-- A successful cut leaves fewer bytes. -/
theorem length_lt_of_split
    {buffer rest : Bytes}
    {frame : Frame}
    (cut : split buffer = .ok (frame, rest)) :
    rest.length < buffer.length := by
  unfold split at cut
  split at cut
  · cases cut
  · rename_i header afterHeader decoded
    have shorter : afterHeader.length < buffer.length := by
      unfold Header.decode at decoded
      split at decoded
      · cases decoded
      · rename_i sender afterSender first
        split at decoded
        · cases decoded
        · rename_i word afterWord second
          have firstLength : buffer.length = afterSender.length + 4 := by
            unfold Word.decode? at first
            split at first
            · cases first
              simp
            · cases first
          have secondLength : afterSender.length = afterWord.length + 4 := by
            unfold Word.decode? at second
            split at second
            · cases second
              simp
            · cases second
          simp only at decoded
          split at decoded
          · cases decoded
            omega
          · cases decoded
    simp only at cut
    split at cut
    · cases cut
    · cases cut
      simp only [List.length_drop]
      omega

end Frame

/-- The messages of a buffer in order, with what stopped the cutting and the bytes then left. -/
structure Cut where
  frames : List Frame
  stop : Option Error
  rest : Bytes
deriving DecidableEq, Repr

/-- Cuts messages off a buffer while bytes remain and the first message is whole. -/
def cutAll
    (buffer : Bytes) :
    Cut :=
  if buffer.isEmpty then ⟨[], none, []⟩
  else
    match _cut : Frame.split buffer with
    | .error error => ⟨[], some error, buffer⟩
    | .ok (frame, rest) =>
        let others := cutAll rest
        { others with frames := frame :: others.frames }
termination_by buffer.length
decreasing_by exact Frame.length_lt_of_split _cut

end Wayland.Wire
