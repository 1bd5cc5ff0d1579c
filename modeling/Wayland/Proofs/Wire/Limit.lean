import Mathlib.Data.List.DropRight
import Wayland.Proofs.Wire.Appending
import Wayland.Proofs.Wire.RoundTrip

/-!
Contract: the size of the bodies that are written.

Owns:
- the absent strings at the end of a list of values, after which nothing is measured;
- that a body ends at a multiple of 4 and outgrows the limit of a message by those strings only;
- which bodies a frame can carry.

Does not own: how a body is read.
-/

namespace Wayland.Wire

open Wayland.Text

/-- How many values at the end of a list are not measured: absent strings, of one word each. -/
def absentAtEnd
    (values : List Argument) :
    Nat :=
  (values.rtakeWhile (!·.isMeasured)).length

@[simp]
theorem absentAtEnd_nil :
    absentAtEnd [] = 0 :=
  rfl

theorem absentAtEnd_concat
    (values : List Argument)
    (value : Argument) :
    absentAtEnd (values ++ [value]) = if value.isMeasured then 0 else absentAtEnd values + 1 := by
  unfold absentAtEnd
  rw [List.rtakeWhile_concat]
  cases value.isMeasured <;> simp

/-- What is written so far, header included, outgrows the limit by the absent strings at its end
only. -/
def WithinLimit
    (values : List Argument)
    (body : Bytes) : Prop :=
  headerSize + body.length ≤ maxMessageSize + 4 * absentAtEnd values

/-- One more value keeps what is written within the limit: it is measured, or adds one word. -/
theorem WithinLimit.concat
    {values : List Argument}
    {body : Bytes}
    (within : WithinLimit values body)
    {site : Site}
    {slot : Slot}
    {value : Argument}
    {segment : Payload}
    (written : value.segment site slot = .ok segment)
    (accepted :
      ¬(value.isMeasured &&
          decide (headerSize + (body ++ segment.body).length > maxMessageSize)) = true) :
    WithinLimit (values ++ [value]) (body ++ segment.body) := by
  unfold WithinLimit at within ⊢
  rw [absentAtEnd_concat]
  cases measured : value.isMeasured with
  | false =>
      have word := Argument.length_segment_of_not_measured measured written
      simp only [List.length_append, word, Bool.false_eq_true, if_false]
      omega
  | true =>
      simp only [measured, Bool.true_and, decide_eq_true_eq] at accepted
      simp only [if_true]
      omega

/-- All the values that follow keep what is written within the limit. -/
theorem WithinLimit.encodeFrom
    {message : String}
    {values more : List Argument}
    {produced payload : Payload}
    {slots : List Slot}
    (within : WithinLimit values produced.body)
    (sameLength : more.length = slots.length)
    (encoded : encodeFrom message produced slots more = .ok payload) :
    WithinLimit (values ++ more) payload.body := by
  induction slots generalizing values more produced with
  | nil =>
      obtain rfl : more = [] := List.length_eq_zero_iff.mp sameLength
      cases encoded
      rwa [List.append_nil]
  | cons slot slots inductionHypothesis =>
      cases more with
      | nil => cases sameLength
      | cons value more =>
          simp only [Wire.encodeFrom] at encoded
          split at encoded
          · cases encoded
          · split at encoded
            · cases encoded
            · rename_i segment written
              split at encoded
              · cases encoded
              · rename_i accepted
                have rest := inductionHypothesis (within.concat written accepted)
                  (Nat.succ.inj sameLength) encoded
                rwa [List.append_assoc] at rest

theorem withinLimit_encode
    {signature : Signature}
    {values : List Argument}
    {payload : Payload}
    (encoded : encode signature values = .ok payload) :
    WithinLimit values payload.body := by
  unfold encode at encoded
  split at encoded
  · cases encoded
  · rename_i sameLength
    have start : WithinLimit [] ({} : Payload).body := by
      unfold WithinLimit
      decide
    exact start.encodeFrom (Decidable.not_not.mp sameLength) encoded

/-- A frame carries exactly the bodies that stay within the limit. -/
theorem Frame.encode_ok_iff
    {sender : ObjectId}
    {opcode : UInt16}
    {body : Bytes} :
    (∃ bytes, Frame.encode sender opcode body = .ok bytes) ↔
      headerSize + body.length ≤ maxMessageSize := by
  simp only [encode_eq_ok_iff, exists_and_left, exists_eq, and_true]

/-- What is written behind bytes that are already there ends at a multiple of 4.  With the header it
takes no more than the limit, but for the absent strings at its end, a word each; so a frame carries
it whenever the last value is no absent string, and otherwise exactly if it stays within the limit
all the same. -/
theorem body_outgrows_limit_by_absent_strings
    {lead : Bytes}
    {signature : Signature}
    {values : List Argument}
    {payload : Payload}
    (encoded : encodeAfter lead signature values = .ok payload) :
    ∃ body, payload.body = lead ++ body ∧ body.length % 4 = 0 ∧
      headerSize + body.length ≤ maxMessageSize + 4 * absentAtEnd values ∧
        (∀ sender opcode,
          (∃ bytes, Frame.encode sender opcode body = .ok bytes) ↔
            headerSize + body.length ≤ maxMessageSize) ∧
          (values.getLast? ≠ some (.string none) →
            ∀ sender opcode, ∃ bytes, Frame.encode sender opcode body = .ok bytes) := by
  obtain ⟨written, isWritten, rfl⟩ := exists_encode_of_encodeAfter encoded
  have within := withinLimit_encode isWritten
  refine ⟨written.body, rfl, length_encode_mod isWritten, within,
    fun _ _ => Frame.encode_ok_iff, ?_⟩
  intro lastPresent sender opcode
  have noneAbsent : absentAtEnd values = 0 := by
    cases values using List.reverseRecOn with
    | nil => rfl
    | append_singleton values value =>
        rw [absentAtEnd_concat, if_pos]
        unfold Argument.isMeasured
        split
        · simp at lastPresent
        · rfl
  rw [Frame.encode_ok_iff]
  unfold WithinLimit at within
  omega

/-- A message with an optional caption and a picture. -/
def captioned : Signature :=
  { name := "paint"
    slots :=
      [{ name := "caption", kind := .string, nullable := true },
        { name := "picture", kind := .array }] }

/-- Behind a missing caption, a picture is written as far as the message has room for both. -/
theorem encodeAfter_captioned
    (lead : Bytes)
    (picture : Bytes)
    (room : headerSize + (4 + (Span.encode picture).length) ≤ maxMessageSize) :
    encodeAfter lead captioned [.string none, .array picture] =
      .ok { body := lead ++ (Word.encode 0 ++ Span.encode picture) } := by
  have measured : ¬maxMessageSize < headerSize + (4 + (Span.encode picture).length) := by omega
  rw [encodeAfter_eq_map]
  simp [encode, encodeFrom, captioned, Argument.kind, Argument.segment, Argument.isMeasured,
    measured, Except.map, Payload.behind]

/-- A message has room for a missing caption and a picture of 4080 bytes. -/
theorem greatest_picture_fits :
    encodeAfter [7] captioned [.string none, .array (List.replicate 4080 0)] =
        .ok { body := [7] ++ (Word.encode 0 ++ Span.encode (List.replicate 4080 0)) } ∧
      headerSize + (Word.encode 0 ++ Span.encode (List.replicate 4080 0)).length =
          maxMessageSize ∧
        ∀ sender opcode, ∃ bytes,
          Frame.encode sender opcode (Word.encode 0 ++ Span.encode (List.replicate 4080 0)) =
            .ok bytes := by
  have size : (List.replicate 4080 (0 : UInt8)).length = 4080 := List.length_replicate
  generalize List.replicate 4080 (0 : UInt8) = picture at size ⊢
  have length : (Span.encode picture).length = 4084 := by
    rw [Span.length_encode, size]
    rfl
  have encoded := encodeAfter_captioned [7] picture (by rw [length]; decide)
  obtain ⟨body, same, -, -, -, carried⟩ := body_outgrows_limit_by_absent_strings encoded
  obtain rfl := List.append_cancel_left same
  refine ⟨encoded, ?_, carried (by simp)⟩
  rw [List.length_append, Word.length_encode, length]
  rfl

/-- A message whose optional caption comes last. -/
def subtitled : Signature :=
  { captioned with slots := captioned.slots.reverse }

/-- A missing caption is written behind a picture, whether or not the message has room for it. -/
theorem encodeAfter_subtitled
    (lead : Bytes)
    (picture : Bytes)
    (room : headerSize + (Span.encode picture).length ≤ maxMessageSize) :
    encodeAfter lead subtitled [.array picture, .string none] =
      .ok { body := lead ++ (Span.encode picture ++ Word.encode 0) } := by
  have measured : ¬headerSize + (Span.encode picture).length > maxMessageSize := by omega
  rw [encodeAfter_eq_map]
  simp [encode, encodeFrom, subtitled, captioned, Argument.kind, Argument.segment,
    Argument.isMeasured, measured, Except.map, Payload.behind]

/-- A picture that fills the message is written with a missing caption behind it, and no frame
carries the body. -/
theorem missing_subtitle_outgrows_frame :
    ∃ payload,
      encodeAfter [] subtitled [.array (List.replicate 4084 0), .string none] = .ok payload ∧
        maxMessageSize < headerSize + payload.body.length ∧
          Frame.encode 1 0 payload.body = .error (.frameTooLarge 4100) := by
  have size : (List.replicate 4084 (0 : UInt8)).length = 4084 := List.length_replicate
  generalize List.replicate 4084 (0 : UInt8) = picture at size ⊢
  have length : (Span.encode picture).length = 4088 := by
    rw [Span.length_encode, size]
    rfl
  refine ⟨_, encodeAfter_subtitled [] _ (by rw [length]; decide), ?_, ?_⟩
  · simp [length, Word.length_encode, headerSize, maxMessageSize]
  · simp [Frame.encode, length, Word.length_encode, headerSize, maxMessageSize]

end Wayland.Wire
