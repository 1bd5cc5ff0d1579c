import Wayland.Proofs.Wire.Grammar
import Wayland.Proofs.Wire.Stream

/-!
Contract: buffers of any bytes, cut into messages.

Owns:
- the size that the first eight bytes of a buffer name, and when nothing comes off its front;
- headers, which are written back bit for bit as they were read;
- runs of cuts, one message after the other, none of which goes on forever;
- that the messages of a buffer, framed again, and the bytes left over are the buffer.

Does not own: what becomes of the messages, and streams that arrive in parts.
-/

namespace Wayland.Wire

open Wayland.Text

/-! ## Headers -/

/-- The size that a header at the front of a buffer names; its last two bytes hold it. -/
def namedSize
    (buffer : Bytes) :
    Nat :=
  (buffer.getD 6 0).toNat + 256 * (buffer.getD 7 0).toNat

/-- Nothing comes off the front of a buffer: a header is not all there, or it names a size that no
message has, or one that the buffer does not hold. -/
def IsStuck
    (buffer : Bytes) : Prop :=
  buffer.length < 8 ∨ namedSize buffer < 8 ∨ 4096 < namedSize buffer ∨ namedSize buffer % 4 ≠ 0 ∨
    buffer.length < namedSize buffer

/-- The two halves of a word make it up. -/
theorem Word.halves
    (word : UInt32) :
    ((word >>> 16).toUInt16.toUInt32 <<< 16) ||| word.toUInt16.toUInt32 = word := by
  apply UInt32.eq_of_toBitVec_eq
  apply BitVec.eq_of_getLsbD_eq
  intro bit small
  simp only [UInt32.toBitVec_or, UInt32.toBitVec_shiftLeft, UInt16.toBitVec_toUInt32,
    UInt32.toBitVec_toUInt16, UInt32.toBitVec_shiftRight]
  simp
  grind

/-- The high half of a word stands in its last two bytes. -/
theorem Word.high_ofBytes
    (b0 b1 b2 b3 : UInt8) :
    (ofBytes b0 b1 b2 b3 >>> 16).toUInt16.toNat = b2.toNat + 256 * b3.toNat := by
  have third : (ofBytes b0 b1 b2 b3 >>> 16).toUInt8 = b2 := by
    have bytes := encode_ofBytes b0 b1 b2 b3
    simp only [encode, List.cons.injEq] at bytes
    exact bytes.2.2.1
  have fourth : (ofBytes b0 b1 b2 b3 >>> 24).toUInt8 = b3 := by
    have bytes := encode_ofBytes b0 b1 b2 b3
    simp only [encode, List.cons.injEq] at bytes
    exact bytes.2.2.2.1
  have low := congrArg UInt8.toNat third
  have high := congrArg UInt8.toNat fourth
  simp at low high ⊢
  omega

section Headers

variable {buffer : Bytes}

/-- A buffer of eight bytes or more starts with a header, which names the size in its last two bytes
and is read if a message can have that size. -/
theorem Header.decode_cases
    (long : 8 ≤ buffer.length) :
    ∃ header : Header, ∃ rest : Bytes,
      buffer = header.encode ++ rest ∧ header.size.toNat = namedSize buffer ∧
        Header.decode buffer =
          if sizeAllowed header.size then .ok (header, rest) else .error (.badSize header.size) := by
  match buffer, long with
  | b0 :: b1 :: b2 :: b3 :: b4 :: b5 :: b6 :: b7 :: rest, _ =>
      let word := Word.ofBytes b4 b5 b6 b7
      refine ⟨⟨Word.ofBytes b0 b1 b2 b3, word.toUInt16, (word >>> 16).toUInt16⟩, rest, ?_, ?_, ?_⟩
      · show _ = Word.encode _ ++ Word.encode _ ++ rest
        rw [Word.halves, Word.encode_ofBytes, Word.encode_ofBytes]
        rfl
      · exact Word.high_ofBytes b4 b5 b6 b7
      · rfl

/-! ## One message -/

def Frame.post
    (frame : Frame) :
    Post :=
  ⟨frame.header.sender, frame.header.opcode, frame.body⟩

@[simp]
theorem Post.post_frame
    (post : Post) :
    post.frame.post = post :=
  rfl

theorem Post.length_encode
    {post : Post}
    {bytes : Bytes}
    (framed : post.encode = .ok bytes) :
    bytes.length = 8 + post.body.length := by
  obtain ⟨-, rfl⟩ := Frame.encode_eq_ok_iff.mp framed
  rw [List.length_append, Header.length_encode]

/-- A message that fits has the size that its frame names. -/
theorem Post.Fits.size_frame
    {post : Post}
    (fits : post.Fits) :
    post.frame.header.size.toNat = 8 + post.body.length := by
  have small := fits.small
  refine Frame.toNat_size ?_
  simp only [headerSize, maxMessageSize]
  omega

/-- The message that a header announces: its body is at the front of the bytes behind the header. -/
def Header.announced
    (header : Header)
    (rest : Bytes) :
    Post :=
  ⟨header.sender, header.opcode, rest.take (header.size.toNat - 8)⟩

section Announced

variable {header : Header} {rest : Bytes}

theorem Header.length_announced
    (whole : header.size.toNat ≤ 8 + rest.length) :
    (header.announced rest).body.length = header.size.toNat - 8 := by
  show (rest.take (header.size.toNat - 8)).length = _
  rw [List.length_take]
  omega

theorem Header.fits_announced
    (allowed : sizeAllowed header.size = true)
    (whole : header.size.toNat ≤ 8 + rest.length) :
    (header.announced rest).Fits := by
  obtain ⟨atLeast, atMost, aligned⟩ := sizeAllowed_iff.mp allowed
  have length := length_announced whole
  constructor <;> omega

/-- The message has the header's own size, so that framing it writes this very header. -/
theorem Header.frame_announced
    (allowed : sizeAllowed header.size = true)
    (whole : header.size.toNat ≤ 8 + rest.length) :
    (header.announced rest).frame = ⟨header, (header.announced rest).body⟩ := by
  obtain ⟨atLeast, -, -⟩ := sizeAllowed_iff.mp allowed
  have size : UInt16.ofNat (headerSize + (header.announced rest).body.length) = header.size := by
    apply UInt16.toNat_inj.mp
    have bound := header.size.toNat_lt
    rw [length_announced whole, UInt16.toNat_ofNat_of_lt']
    · simp only [headerSize]
      omega
    · simp only [headerSize, UInt16.size]
      omega
  unfold Post.frame
  rw [size]
  rfl

end Announced

/-- Either nothing comes off the front of a buffer, or a message that fits does, and the buffer is
its frame with the remaining bytes behind it. -/
theorem Frame.split_cases
    (buffer : Bytes) :
    (IsStuck buffer ∧ ∃ error, split buffer = .error error) ∨
      (¬IsStuck buffer ∧ ∃ post : Post, ∃ bytes rest,
        post.Fits ∧ post.encode = .ok bytes ∧ buffer = bytes ++ rest ∧
          split buffer = .ok (post.frame, rest)) := by
  by_cases long : 8 ≤ buffer.length
  · obtain ⟨header, rest, whole, named, read⟩ := Header.decode_cases long
    have length : buffer.length = 8 + rest.length := by
      rw [whole, List.length_append, Header.length_encode]
    by_cases allowed : Header.sizeAllowed header.size = true
    · rw [if_pos allowed] at read
      obtain ⟨atLeast, atMost, aligned⟩ := Header.sizeAllowed_iff.mp allowed
      by_cases short : buffer.length < header.size.toNat
      · left
        refine ⟨by unfold IsStuck; omega, .truncated, ?_⟩
        unfold split
        rw [read]
        simp only
        rw [if_pos (by simp only [headerSize]; omega)]
      · right
        have isWhole : header.size.toNat ≤ 8 + rest.length := by omega
        have fits := Header.fits_announced allowed isWhole
        have framed := Header.frame_announced allowed isWhole
        refine ⟨by unfold IsStuck; omega, header.announced rest, _,
          rest.drop (header.size.toNat - 8), fits, fits.encode_eq, ?_, ?_⟩
        · rw [framed, List.append_assoc, whole]
          exact congrArg _ (List.take_append_drop ..).symm
        · rw [framed]
          unfold split
          rw [read]
          simp only
          rw [if_neg (by simp only [headerSize]; omega)]
          rfl
    · left
      rw [if_neg allowed] at read
      rw [Header.sizeAllowed_iff] at allowed
      refine ⟨by unfold IsStuck; omega, .badSize header.size, ?_⟩
      unfold split
      rw [read]
  · left
    refine ⟨by unfold IsStuck; omega, .truncated, ?_⟩
    unfold split
    rw [Header.decode_of_length_lt (by simp only [headerSize]; omega)]

theorem Frame.split_eq_error_iff :
    (∃ error, split buffer = .error error) ↔ IsStuck buffer := by
  obtain ⟨isStuck, refused⟩ | ⟨notStuck, post, bytes, rest, -, -, -, cut⟩ := split_cases buffer
  · exact iff_of_true refused isStuck
  · refine iff_of_false ?_ notStuck
    rintro ⟨error, refused⟩
    rw [cut] at refused
    cases refused

/-- A message that comes off fits, and its frame stood at the front. -/
theorem Frame.post_of_split
    {frame : Frame}
    {rest : Bytes}
    (cut : split buffer = .ok (frame, rest)) :
    ∃ post : Post, ∃ bytes,
      post.Fits ∧ post.encode = .ok bytes ∧ buffer = bytes ++ rest ∧ frame = post.frame := by
  obtain ⟨-, error, refused⟩ | ⟨-, post, bytes, others, fits, framed, whole, made⟩ :=
    split_cases buffer
  · rw [refused] at cut
    cases cut
  · rw [made] at cut
    cases cut
    exact ⟨post, bytes, fits, framed, whole, rfl⟩

end Headers

/-! ## Runs of cuts -/

/-- Messages that come off a buffer one after the other, and the bytes behind them. -/
inductive Cuts : Bytes → List Frame → Bytes → Prop where
  | nothing {buffer : Bytes} : Cuts buffer [] buffer
  | message {buffer middle rest : Bytes} {frame : Frame} {frames : List Frame} :
      Frame.split buffer = .ok (frame, middle) → Cuts middle frames rest →
        Cuts buffer (frame :: frames) rest

section Runs

variable {buffer rest : Bytes} {frames : List Frame}

/-- The messages of a run fit, and their frames with the bytes left over are the buffer. -/
theorem Cuts.stream
    (cuts : Cuts buffer frames rest) :
    ∃ posts : List Post, ∃ bytes,
      frames = posts.map Post.frame ∧ (∀ post ∈ posts, post.Fits) ∧
        Post.stream posts = .ok bytes ∧ buffer = bytes ++ rest := by
  induction cuts with
  | nothing => exact ⟨[], [], rfl, by simp, rfl, rfl⟩
  | message cut _ inductionHypothesis =>
      obtain ⟨post, first, fits, framed, rfl, rfl⟩ := Frame.post_of_split cut
      obtain ⟨posts, others, rfl, allFit, streamed, rfl⟩ := inductionHypothesis
      refine ⟨post :: posts, first ++ others, rfl, List.forall_mem_cons.mpr ⟨fits, allFit⟩, ?_,
        by simp⟩
      exact Post.stream_cons_eq_ok_iff.mpr ⟨first, others, framed, streamed, rfl⟩

/-- Every cut takes a header or more, so that a run ends. -/
theorem Cuts.length_le
    (cuts : Cuts buffer frames rest) :
    8 * frames.length + rest.length ≤ buffer.length := by
  induction cuts with
  | nothing => simp
  | message cut _ inductionHypothesis =>
      obtain ⟨post, first, -, framed, rfl, -⟩ := Frame.post_of_split cut
      have length := Post.length_encode framed
      simp only [List.length_cons, List.length_append]
      omega

theorem cutAll_of_split
    {frame : Frame}
    (cut : Frame.split buffer = .ok (frame, rest)) :
    cutAll buffer = { cutAll rest with frames := frame :: (cutAll rest).frames } := by
  obtain ⟨post, bytes, fits, framed, rfl, rfl⟩ := Frame.post_of_split cut
  exact cutAll_message_append fits framed rest

theorem cutAll_of_isStuck
    (isStuck : IsStuck buffer) :
    ∃ stop, cutAll buffer = ⟨[], stop, buffer⟩ ∧ (stop.isSome = true ↔ buffer ≠ []) := by
  obtain ⟨error, refused⟩ := Frame.split_eq_error_iff.mpr isStuck
  rw [cutAll]
  by_cases isEmpty : buffer = []
  · subst isEmpty
    exact ⟨none, rfl, by simp⟩
  · rw [if_neg (by simpa using isEmpty)]
    refine ⟨some error, ?_, by simp [isEmpty]⟩
    split
    · rename_i other failed
      rw [refused] at failed
      cases failed
      rfl
    · rename_i made
      rw [refused] at made
      cases made

/-- A run that cannot go on is the one that is made. -/
theorem Cuts.cutAll_eq
    (cuts : Cuts buffer frames rest)
    (isStuck : IsStuck rest) :
    ∃ stop, cutAll buffer = ⟨frames, stop, rest⟩ ∧ (stop.isSome = true ↔ rest ≠ []) := by
  induction cuts with
  | nothing => exact cutAll_of_isStuck isStuck
  | message cut _ inductionHypothesis =>
      obtain ⟨stop, others, stopped⟩ := inductionHypothesis isStuck
      refine ⟨stop, ?_, stopped⟩
      rw [cutAll_of_split cut, others]

/-- Every buffer has a run that cannot go on.  The induction is on the length of what is left, which
every cut lowers. -/
theorem exists_cuts
    (buffer : Bytes) :
    ∃ frames rest, Cuts buffer frames rest ∧ IsStuck rest := by
  induction length : buffer.length using Nat.strongRecOn generalizing buffer with
  | _ count inductionHypothesis =>
      by_cases isStuck : IsStuck buffer
      · exact ⟨[], buffer, .nothing, isStuck⟩
      · obtain ⟨stuck, -⟩ | ⟨-, post, bytes, middle, -, -, -, cut⟩ := Frame.split_cases buffer
        · exact absurd stuck isStuck
        · have shorter := Frame.length_lt_of_split cut
          obtain ⟨frames, rest, cuts, stuck⟩ :=
            inductionHypothesis middle.length (by omega) middle rfl
          exact ⟨post.frame :: frames, rest, .message cut cuts, stuck⟩

end Runs

/-- Cutting a buffer loses nothing, whatever bytes it holds.  The messages, framed again in order, and
the bytes left over are the buffer.  Every message has the body that its size names, of whole words
and at most 4088 bytes.  A run of cuts is no longer than the headers that the buffer has room for; it
comes to an end where a header is not all there or names a size that is impossible or not there, and
nowhere else. -/
theorem cutAll_loses_nothing
    (buffer : Bytes) :
    (∃ bytes, Post.stream ((cutAll buffer).frames.map Frame.post) = .ok bytes ∧
      bytes ++ (cutAll buffer).rest = buffer) ∧
    (∀ frame ∈ (cutAll buffer).frames,
      8 ≤ frame.header.size.toNat ∧ frame.body.length = frame.header.size.toNat - 8 ∧
        frame.body.length % 4 = 0 ∧ frame.body.length ≤ 4088) ∧
    Cuts buffer (cutAll buffer).frames (cutAll buffer).rest ∧
    ((cutAll buffer).stop.isSome = true ↔ (cutAll buffer).rest ≠ []) ∧
    ∀ frames rest, Cuts buffer frames rest →
      8 * frames.length + rest.length ≤ buffer.length ∧
      ((∃ error, Frame.split rest = .error error) ↔ IsStuck rest) ∧
      (IsStuck rest ↔ frames = (cutAll buffer).frames ∧ rest = (cutAll buffer).rest) := by
  obtain ⟨made, left, cuts, isStuck⟩ := exists_cuts buffer
  obtain ⟨stop, cut, stopped⟩ := cuts.cutAll_eq isStuck
  obtain ⟨posts, bytes, rfl, allFit, streamed, whole⟩ := cuts.stream
  rw [cut]
  refine ⟨⟨bytes, ?_, whole.symm⟩, ?_, cuts, stopped, ?_⟩
  · simpa [Function.comp_def] using streamed
  · intro frame isMember
    obtain ⟨post, isPost, rfl⟩ := List.mem_map.mp isMember
    have fits := allFit post isPost
    have size := fits.size_frame
    have small := fits.small
    have aligned := fits.aligned
    show 8 ≤ post.frame.header.size.toNat ∧ post.body.length = post.frame.header.size.toNat - 8 ∧
      post.body.length % 4 = 0 ∧ post.body.length ≤ 4088
    omega
  · intro frames rest others
    refine ⟨others.length_le, Frame.split_eq_error_iff, ?_⟩
    constructor
    · intro stuck
      obtain ⟨otherStop, same, -⟩ := others.cutAll_eq stuck
      rw [cut] at same
      cases same
      exact ⟨rfl, rfl⟩
    · rintro ⟨-, rfl⟩
      exact isStuck

/-- A message, and behind it a header that names six bytes. -/
def brokenStream : Bytes :=
  [1, 0, 0, 0, 2, 0, 12, 0, 10, 20, 30, 40, 5, 0, 0, 0, 0, 0, 6, 0, 9, 9]

theorem broken_stream_is_cut :
    Cuts brokenStream [⟨⟨1, 2, 12⟩, [10, 20, 30, 40]⟩] [5, 0, 0, 0, 0, 0, 6, 0, 9, 9] ∧
      IsStuck [5, 0, 0, 0, 0, 0, 6, 0, 9, 9] ∧
        (cutAll brokenStream).frames = [⟨⟨1, 2, 12⟩, [10, 20, 30, 40]⟩] ∧
          (cutAll brokenStream).rest = [5, 0, 0, 0, 0, 0, 6, 0, 9, 9] ∧
            (cutAll brokenStream).stop.isSome = true := by
  have cuts : Cuts brokenStream [⟨⟨1, 2, 12⟩, [10, 20, 30, 40]⟩]
      [5, 0, 0, 0, 0, 0, 6, 0, 9, 9] := .message rfl .nothing
  have isStuck : IsStuck [5, 0, 0, 0, 0, 0, 6, 0, 9, 9] := by
    unfold IsStuck
    decide
  obtain ⟨-, -, -, stopped, runs⟩ := cutAll_loses_nothing brokenStream
  obtain ⟨-, -, ends⟩ := runs _ _ cuts
  obtain ⟨frames, rest⟩ := ends.mp isStuck
  exact ⟨cuts, isStuck, frames.symm, rest.symm, stopped.mpr (by rw [← rest]; simp)⟩

end Wayland.Wire
