import Wayland.Proofs.Wire.RoundTrip

/-!
Contract: framed messages on a stream that arrives in parts.

Owns:
- messages one behind the other, and the part of a message that a cut leaves behind;
- cutting a front of such a stream: the messages wholly inside it come off, what is left waits for
  more bytes, and the messages after it come off once the rest of the stream has arrived.

Does not own: streams that no writer of messages produced.
-/

namespace Wayland.Wire

open Wayland.Text

/-- A message before it is framed. -/
structure Post where
  sender : ObjectId
  opcode : UInt16
  body : Bytes
deriving DecidableEq, Repr

namespace Post

/-- A body that a frame can carry: whole words, and with the header no more than 4096 bytes. -/
structure Fits
    (post : Post) : Prop where
  aligned : post.body.length % 4 = 0
  small : post.body.length ≤ 4088

/-- What a reader should get: the message under a header with its size. -/
def frame
    (post : Post) :
    Frame :=
  ⟨⟨post.sender, post.opcode, UInt16.ofNat (headerSize + post.body.length)⟩, post.body⟩

def encode
    (post : Post) :
    Except Error Bytes :=
  Frame.encode post.sender post.opcode post.body

/-- The frames of messages one behind the other. -/
def stream : List Post → Except Error Bytes
  | [] => .ok []
  | post :: posts =>
      match post.encode, stream posts with
      | .ok bytes, .ok rest => .ok (bytes ++ rest)
      | .error error, _ => .error error
      | _, .error error => .error error

end Post

/-- A cut through a stream: which messages lie wholly before it.  The next message does not. -/
structure Post.Divides
    (posts whole later : List Post)
    (front : Bytes) : Prop where
  posts_eq : posts = whole ++ later
  inside : ∃ bytes, stream whole = .ok bytes ∧ bytes.length ≤ front.length
  outside : ∀ next others, later = next :: others →
    ∃ bytes, stream (whole ++ [next]) = .ok bytes ∧ front.length < bytes.length

section Parts

variable {part bytes : Bytes}

theorem Word.decode?_of_length_lt
    (short : part.length < 4) :
    Word.decode? part = none := by
  cases read : Word.decode? part with
  | none => rfl
  | some reading =>
      unfold Word.decode? at read
      split at read
      · simp only [List.length_cons] at short
        omega
      · cases read

/-- A buffer without a whole header asks for more bytes, whatever it holds. -/
theorem Header.decode_of_length_lt
    (short : part.length < headerSize) :
    Header.decode part = .error .truncated := by
  unfold Header.decode
  cases first : Word.decode? part with
  | none => rfl
  | some reading =>
      obtain ⟨sender, afterSender⟩ := reading
      have second : Word.decode? afterSender = none := by
        apply Word.decode?_of_length_lt
        unfold Word.decode? at first
        split at first
        · cases first
          simp only [headerSize, List.length_cons] at short
          omega
        · cases first
      simp only [second]

/-- A front of a framed message that is not all of it asks for more bytes; it is never taken for a
message of a bad size. -/
theorem Frame.split_of_part
    {sender : ObjectId}
    {opcode : UInt16}
    {body : Bytes}
    (framed : Frame.encode sender opcode body = .ok bytes)
    (aligned : body.length % 4 = 0)
    (isPart : part <+: bytes)
    (short : part.length < bytes.length) :
    Frame.split part = .error .truncated := by
  unfold Frame.split
  by_cases inHeader : part.length < headerSize
  · rw [Header.decode_of_length_lt inHeader]
  -- The cut is behind the header, which is read whole and names more bytes than there are.
  obtain ⟨within, rfl⟩ := encode_eq_ok_iff.mp framed
  obtain ⟨rest, rfl⟩ : ∃ rest, part =
      Header.encode ⟨sender, opcode, UInt16.ofNat (headerSize + body.length)⟩ ++ rest := by
    obtain ⟨rest, isRest⟩ := List.prefix_of_prefix_length_le (List.prefix_append _ body) isPart
      (by simpa [Header.encode, headerSize] using inHeader)
    exact ⟨rest, isRest.symm⟩
  rw [Header.decode_encode_append (sizeAllowed within aligned)]
  simp only [toNat_size within, Nat.add_sub_cancel_left]
  rw [if_pos]
  simpa using short

end Parts

section Cutting

variable {post : Post} {posts : List Post} {bytes tail : Bytes}

theorem Post.Fits.encode_eq
    (fits : post.Fits) :
    post.encode = .ok (post.frame.header.encode ++ post.body) := by
  have small := fits.small
  refine Frame.encode_eq_ok_iff.mpr ⟨?_, rfl⟩
  simp only [headerSize, maxMessageSize]
  omega

theorem Post.Fits.encode_ok
    (fits : post.Fits) :
    ∃ bytes, post.encode = .ok bytes :=
  ⟨_, fits.encode_eq⟩

/-- Messages that fit are framed, all of them. -/
theorem Post.stream_ok
    (fits : ∀ post ∈ posts, post.Fits) :
    ∃ bytes, Post.stream posts = .ok bytes := by
  induction posts with
  | nil => exact ⟨[], rfl⟩
  | cons post posts inductionHypothesis =>
      obtain ⟨bytes, framed⟩ := (fits post List.mem_cons_self).encode_ok
      obtain ⟨rest, streamed⟩ :=
        inductionHypothesis fun other member => fits other (List.mem_cons_of_mem post member)
      exact ⟨bytes ++ rest, by simp only [stream, framed, streamed]⟩

theorem Post.stream_cons_eq_ok_iff :
    Post.stream (post :: posts) = .ok bytes ↔
      ∃ first rest, post.encode = .ok first ∧ Post.stream posts = .ok rest ∧
        bytes = first ++ rest := by
  rw [Post.stream]
  cases post.encode <;> cases Post.stream posts <;> simp [eq_comm]

theorem Post.stream_append_eq_ok_iff
    {others : List Post} :
    Post.stream (posts ++ others) = .ok bytes ↔
      ∃ first rest, Post.stream posts = .ok first ∧ Post.stream others = .ok rest ∧
        bytes = first ++ rest := by
  induction posts generalizing bytes with
  | nil => simp [Post.stream]
  | cons post posts inductionHypothesis =>
      simp only [List.cons_append, Post.stream_cons_eq_ok_iff, inductionHypothesis]
      constructor
      · rintro ⟨first, _, framed, ⟨middle, rest, streamed, streamedRest, rfl⟩, rfl⟩
        exact ⟨first ++ middle, rest, ⟨first, middle, framed, streamed, rfl⟩, streamedRest,
          by simp⟩
      · rintro ⟨_, rest, ⟨first, middle, framed, streamed, rfl⟩, streamedRest, rfl⟩
        exact ⟨first, middle ++ rest, framed, ⟨middle, rest, streamed, streamedRest, rfl⟩,
          by simp⟩

/-- A whole message comes off the front, and the cutting goes on behind it. -/
theorem cutAll_message_append
    (fits : post.Fits)
    (framed : post.encode = .ok bytes)
    (tail : Bytes) :
    cutAll (bytes ++ tail) =
      { cutAll tail with frames := post.frame :: (cutAll tail).frames } := by
  have whole := Frame.split_encode_append framed fits.aligned tail
  have notEmpty : (bytes ++ tail).isEmpty = false := by
    simp [Frame.encode_ne_nil framed]
  rw [cutAll, notEmpty]
  simp only [Bool.false_eq_true, if_false]
  split
  · rename_i refused
    rw [whole] at refused
    cases refused
  · rename_i cut
    rw [whole] at cut
    cases cut
    rfl

/-- The messages of a stream come off one after the other, in front of anything. -/
theorem cutAll_stream_append
    (fits : ∀ post ∈ posts, post.Fits)
    (streamed : Post.stream posts = .ok bytes)
    (tail : Bytes) :
    cutAll (bytes ++ tail) =
      { cutAll tail with frames := posts.map Post.frame ++ (cutAll tail).frames } := by
  induction posts generalizing bytes with
  | nil =>
      cases streamed
      rfl
  | cons post posts inductionHypothesis =>
      obtain ⟨first, rest, framed, streamedRest, rfl⟩ := Post.stream_cons_eq_ok_iff.mp streamed
      have others : ∀ other ∈ posts, other.Fits :=
        fun other member => fits other (List.mem_cons_of_mem post member)
      rw [List.append_assoc, cutAll_message_append (fits post List.mem_cons_self) framed,
        inductionHypothesis others streamedRest]
      rfl

/-- Nothing comes off a part of a message: it is left as it is, to wait for more. -/
theorem cutAll_part
    (fits : post.Fits)
    (framed : post.encode = .ok bytes)
    (isPart : tail <+: bytes)
    (short : tail.length < bytes.length) :
    cutAll tail = ⟨[], if tail = [] then none else some .truncated, tail⟩ := by
  rw [cutAll]
  by_cases empty : tail = []
  · simp [empty]
  · rw [if_neg (by simpa using empty), if_neg empty]
    have waits := Frame.split_of_part framed fits.aligned isPart short
    split
    · rename_i refused
      rw [waits] at refused
      cases refused
      rfl
    · rename_i cut
      rw [waits] at cut
      cases cut

/-- What a cut through a stream leaves behind the last whole message before it: nothing, or a part of
the next message. -/
def Post.Leaves
    (later : List Post)
    (part : Bytes) : Prop :=
  match later with
  | [] => part = []
  | next :: _ => ∃ bytes, next.encode = .ok bytes ∧ part <+: bytes ∧ part.length < bytes.length

theorem Post.Leaves.cutAll_eq
    {later : List Post}
    (fits : ∀ post ∈ later, post.Fits)
    (leaves : Post.Leaves later tail) :
    cutAll tail = ⟨[], if tail = [] then none else some .truncated, tail⟩ := by
  cases later with
  | nil =>
      obtain rfl : tail = [] := leaves
      rw [cutAll]
      rfl
  | cons next others =>
      obtain ⟨bytes, framed, isPart, short⟩ := leaves
      exact cutAll_part (fits next List.mem_cons_self) framed isPart short

/-- Every cut through a stream falls behind some whole messages, and into the next one or before
it. -/
theorem Post.exists_cut
    {front back : Bytes}
    (streamed : Post.stream posts = .ok (front ++ back)) :
    ∃ whole later bytes part,
      posts = whole ++ later ∧ Post.stream whole = .ok bytes ∧ front = bytes ++ part ∧
        Post.Leaves later part := by
  induction posts generalizing front with
  | nil =>
      have nothing : front ++ back = [] := by
        simpa [Post.stream, eq_comm] using streamed
      exact ⟨[], [], [], [], rfl, rfl, (List.append_eq_nil_iff.mp nothing).1, rfl⟩
  | cons post posts inductionHypothesis =>
      obtain ⟨first, rest, framed, streamedRest, split⟩ := Post.stream_cons_eq_ok_iff.mp streamed
      by_cases inside : front.length < first.length
      · have isPart : front <+: first :=
          List.prefix_of_prefix_length_le (List.prefix_append front back)
            (split ▸ List.prefix_append first rest) (by omega)
        exact ⟨[], post :: posts, [], front, rfl, rfl, rfl, first, framed, isPart, inside⟩
      · obtain ⟨front, rfl⟩ : first <+: front :=
          List.prefix_of_prefix_length_le (split ▸ List.prefix_append first rest)
            (List.prefix_append front back) (by omega)
        rw [List.append_assoc, List.append_cancel_left_eq] at split
        rw [← split] at streamedRest
        obtain ⟨whole, later, bytes, part, rfl, streamedWhole, rfl, leaves⟩ :=
          inductionHypothesis streamedRest
        refine ⟨post :: whole, later, first ++ bytes, part, rfl, ?_, by simp, leaves⟩
        exact Post.stream_cons_eq_ok_iff.mpr ⟨first, bytes, framed, streamedWhole, rfl⟩

theorem Post.Leaves.divides
    {whole later : List Post}
    {part : Bytes}
    (streamed : Post.stream whole = .ok bytes)
    (leaves : Post.Leaves later part) :
    Post.Divides (whole ++ later) whole later (bytes ++ part) where
  posts_eq := rfl
  inside := ⟨bytes, streamed, by simp⟩
  outside := by
    rintro next others rfl
    obtain ⟨nextBytes, framed, -, short⟩ := leaves
    refine ⟨bytes ++ nextBytes, ?_, by simpa using short⟩
    refine Post.stream_append_eq_ok_iff.mpr ⟨bytes, nextBytes, streamed, ?_, rfl⟩
    exact Post.stream_cons_eq_ok_iff.mpr ⟨nextBytes, [], framed, rfl, by simp⟩

end Cutting

/-- Messages that fit survive any cut through the stream of their frames.  From the front come exactly
the messages wholly inside it, in order; the bytes behind them are left unchanged, and if there are
any, the reader is told to wait for more.  With the rest of the stream behind them, the other messages
come off and nothing is left. -/
theorem cutAll_survives_any_cut
    (posts : List Post)
    (fits : ∀ post ∈ posts, post.Fits) :
    ∃ bytes, Post.stream posts = .ok bytes ∧
      ∀ front back, bytes = front ++ back →
        ∃ whole later wholeBytes left,
          Post.Divides posts whole later front ∧
          Post.stream whole = .ok wholeBytes ∧ front = wholeBytes ++ left ∧
          cutAll front =
            ⟨whole.map Post.frame, if left = [] then none else some .truncated, left⟩ ∧
          cutAll (left ++ back) = ⟨later.map Post.frame, none, []⟩ := by
  obtain ⟨bytes, streamed⟩ := Post.stream_ok fits
  refine ⟨bytes, streamed, ?_⟩
  rintro front back rfl
  obtain ⟨whole, later, wholeBytes, left, rfl, streamedWhole, rfl, leaves⟩ :=
    Post.exists_cut streamed
  have wholeFits : ∀ post ∈ whole, post.Fits :=
    fun post member => fits post (List.mem_append_left later member)
  have laterFits : ∀ post ∈ later, post.Fits :=
    fun post member => fits post (List.mem_append_right whole member)
  refine ⟨whole, later, wholeBytes, left, leaves.divides streamedWhole, streamedWhole, rfl, ?_, ?_⟩
  · rw [cutAll_stream_append wholeFits streamedWhole, leaves.cutAll_eq laterFits]
    simp
  · -- What was left and what arrived together are the frames of the other messages.
    obtain ⟨first, rest, streamedFirst, streamedLater, split⟩ :=
      Post.stream_append_eq_ok_iff.mp streamed
    obtain rfl : first = wholeBytes := by
      rw [streamedWhole] at streamedFirst
      exact (Except.ok.inj streamedFirst).symm
    rw [List.append_assoc, List.append_cancel_left_eq] at split
    have all := cutAll_stream_append laterFits streamedLater []
    rw [List.append_nil, ← split] at all
    rw [all, cutAll]
    simp

/-- A short message, and one without a body whose opcode takes both its bytes. -/
def twoPosts : List Post :=
  [⟨1, 2, [1, 2, 3, 4]⟩, ⟨0xff000000, 0xfffe, []⟩]

theorem two_posts_survive_any_cut :
    (∀ post ∈ twoPosts, post.Fits) ∧
      ∃ bytes, Post.stream twoPosts = .ok bytes ∧
        ∀ front back, bytes = front ++ back →
          ∃ whole later wholeBytes left,
            Post.Divides twoPosts whole later front ∧
            Post.stream whole = .ok wholeBytes ∧ front = wholeBytes ++ left ∧
            cutAll front =
              ⟨whole.map Post.frame, if left = [] then none else some .truncated, left⟩ ∧
            cutAll (left ++ back) = ⟨later.map Post.frame, none, []⟩ := by
  have fits : ∀ post ∈ twoPosts, post.Fits := by
    simp only [twoPosts, List.forall_mem_cons]
    exact ⟨⟨by decide, by decide⟩, ⟨by decide, by decide⟩, by simp⟩
  exact ⟨fits, cutAll_survives_any_cut twoPosts fits⟩

end Wayland.Wire
