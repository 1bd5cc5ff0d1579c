import Wayland.Wire.Frame

/-!
Contract: what is written to the wire is read back.

Owns:
- words and spans, read from the front of any bytes that start with their encoding;
- the value that reaches the peer under a slot, and one value per slot read from a whole body;
- framed messages, cut off the front of any stream that starts with them.

Does not own: which bodies a reader accepts beyond those that were written.
-/

namespace Wayland.Wire

open Wayland.Text

namespace Word

/-- The word of the four bytes of a word. -/
theorem ofBytes_encode
    (word : UInt32) :
    ofBytes word.toUInt8 (word >>> 8).toUInt8 (word >>> 16).toUInt8 (word >>> 24).toUInt8 =
      word := by
  apply UInt32.eq_of_toBitVec_eq
  apply BitVec.eq_of_getLsbD_eq
  intro bit small
  simp only [ofBytes, UInt32.toBitVec_or, UInt32.toBitVec_shiftLeft, UInt8.toBitVec_toUInt32,
    UInt32.toBitVec_toUInt8, UInt32.toBitVec_shiftRight]
  simp
  grind

/-- A written word is read back, and the bytes after it remain. -/
@[simp]
theorem decode?_encode_append
    (word : UInt32)
    (rest : Bytes) :
    decode? (encode word ++ rest) = some (word, rest) := by
  simp [encode, decode?, ofBytes_encode]

end Word

namespace Span

/-- A span takes its length word, its content and the filler. -/
theorem length_encode
    (content : Bytes) :
    (encode content).length = 4 + (content.length + padding content.length) := by
  simp [encode]

/-- Every span ends at a multiple of 4. -/
theorem length_encode_mod
    (content : Bytes) :
    (encode content).length % 4 = 0 := by
  have aligned := length_add_padding_mod content.length
  rw [length_encode]
  omega

/-- A written span is read back if its length fits into the length word. -/
theorem decode_encode_append
    (content rest : Bytes)
    (fits : content.length < UInt32.size) :
    decode (encode content ++ rest) = .ok (content, rest) := by
  have prefixLength : (UInt32.ofNat content.length).toNat = content.length :=
    UInt32.toNat_ofNat_of_lt' fits
  unfold decode encode
  rw [List.append_assoc, Word.decode?_encode_append]
  simp only [prefixLength, List.length_append, List.length_replicate]
  rw [if_neg (by omega), List.append_assoc, List.take_left]
  rw [← List.append_assoc, List.drop_left' (by simp)]

end Span

/-- A word that was written is read. -/
theorem readWord_encode_append
    (word : UInt32)
    (rest : Bytes) :
    readWord (Word.encode word ++ rest) = .ok (word, rest) := by
  simp [readWord]

/-- A span that was written is read. -/
theorem readSpan_encode_append
    {content : Bytes}
    (rest : Bytes)
    (fits : content.length < UInt32.size) :
    readSpan (Span.encode content ++ rest) = .ok (content, rest) := by
  simp [readSpan, Span.decode_encode_append content rest fits]

/-- The null length word is read as the absent string. -/
theorem readString_null_append
    (rest : Bytes) :
    readString (Word.encode 0 ++ rest) = .ok (none, rest) := by
  have empty : readSpan (Word.encode 0 ++ rest) = .ok ([], rest) := by
    simp [readSpan, Span.decode, Span.padding]
  simp [readString, empty]

/-- A string that was written is read, without the zero byte that ends it. -/
theorem readString_segment_append
    {content bytes : Bytes}
    (written : stringSegment content = .ok bytes)
    (rest : Bytes) :
    readString (bytes ++ rest) = .ok (some content, rest) := by
  unfold stringSegment at written
  split at written
  · cases written
  · rename_i noNul
    split at written
    · cases written
    · rename_i small
      cases written
      have fits : (content ++ [0]).length < UInt32.size := by
        simp only [headerSize, maxMessageSize] at small
        simp only [List.length_append, List.length_singleton, UInt32.size]
        omega
      simp [readString, readSpan_encode_append rest fits] at noNul ⊢
      exact noNul

/-- Every written string ends at a multiple of 4. -/
theorem length_stringSegment_mod
    {content bytes : Bytes}
    (written : stringSegment content = .ok bytes) :
    bytes.length % 4 = 0 := by
  unfold stringSegment at written
  split at written
  · cases written
  · split at written
    · cases written
    · cases written
      exact Span.length_encode_mod (content ++ [0])

/-- What reaches the peer of a value: a new object carries its interface and version only where the
slot leaves them open. -/
def Argument.carried
    (slot : Slot) :
    Argument → Argument
  | .newId id interface version =>
      if slot.isDynamic then .newId id interface version else .newId id [] 0
  | value => value

/-- Reading an id that is not null. -/
theorem readId_encode_append
    {id : ObjectId}
    (present : id ≠ 0)
    (rest : Bytes) :
    readId (Word.encode id ++ rest) = .ok (id, rest) := by
  simp [readId, readWord_encode_append, bind, Except.bind, pure, Except.pure, present]

section Segments

variable {site : Site} {slot : Slot} {segment : Payload}

/-- An absent string adds the null word, and only where the slot allows that. -/
theorem Argument.segment_absentString
    (written : (Argument.string none).segment site slot = .ok segment) :
    slot.nullable = true ∧ segment = { body := Word.encode 0 } := by
  simp only [Argument.segment] at written
  split at written
  · rename_i nullable
    cases written
    exact ⟨nullable, rfl⟩
  · cases written

/-- A string that is present adds its span. -/
theorem Argument.segment_presentString
    {content : Bytes}
    (written : (Argument.string (some content)).segment site slot = .ok segment) :
    ∃ bytes, stringSegment content = .ok bytes ∧ segment = { body := bytes } := by
  simp only [Argument.segment] at written
  split at written
  · rename_i bytes spanned
    cases written
    exact ⟨bytes, spanned, rfl⟩
  · cases written

/-- A reference adds its id, and the null id only where the slot allows that. -/
theorem Argument.segment_object
    {id : ObjectId}
    (written : (Argument.object id).segment site slot = .ok segment) :
    ¬(id = 0 ∧ slot.nullable = false) ∧ segment = { body := Word.encode id } := by
  simp only [Argument.segment] at written
  split at written
  · cases written
  · rename_i allowed
    cases written
    exact ⟨allowed, rfl⟩

/-- A new object adds its id, which is not null; in an open slot its interface and version stand
before it. -/
theorem Argument.segment_newId
    {id : ObjectId}
    {interface : Bytes}
    {version : UInt32}
    (written : (Argument.newId id interface version).segment site slot = .ok segment) :
    id ≠ 0 ∧
      ((slot.isDynamic = false ∧ segment = { body := Word.encode id }) ∨
        (slot.isDynamic = true ∧ ∃ bytes, stringSegment interface = .ok bytes ∧
          segment = { body := bytes ++ Word.encode version ++ Word.encode id })) := by
  simp only [Argument.segment] at written
  split at written
  · cases written
  · rename_i present
    refine ⟨present, ?_⟩
    split at written
    · rename_i dynamic
      split at written
      · cases written
      · split at written
        · rename_i bytes spanned
          cases written
          exact Or.inr ⟨dynamic, bytes, spanned, rfl⟩
        · cases written
    · rename_i typed
      cases written
      exact Or.inl ⟨Bool.eq_false_iff.mpr typed, rfl⟩

/-- What one value adds to a body is read back as the value that reaches the peer. -/
theorem Slot.read_segment_append
    {value : Argument}
    (sameKind : value.kind = slot.kind)
    (written : value.segment site slot = .ok segment)
    (short : segment.body.length ≤ maxMessageSize)
    (rest : Bytes)
    (descriptors : List Int) :
    slot.read (segment.body ++ rest) (segment.descriptors ++ descriptors) =
      .ok ⟨value.carried slot, rest, descriptors⟩ := by
  unfold Slot.read
  rw [← sameKind]
  cases value with
  | int value | uint value | fixed value =>
      cases written
      simp [Argument.kind, Argument.carried, readWord_encode_append, bind, Except.bind, pure,
        Except.pure]
  | string content =>
      cases content with
      | none =>
          obtain ⟨nullable, rfl⟩ := Argument.segment_absentString written
          simp [Argument.kind, Argument.carried, readString_null_append, nullable, bind, Except.bind,
            pure, Except.pure]
      | some content =>
          obtain ⟨bytes, spanned, rfl⟩ := Argument.segment_presentString written
          simp [Argument.kind, Argument.carried, readString_segment_append spanned, bind,
            Except.bind, pure, Except.pure]
  | object id =>
      obtain ⟨allowed, rfl⟩ := Argument.segment_object written
      simp only [Argument.kind, List.nil_append, readWord_encode_append, bind, Except.bind]
      rw [if_neg allowed]
      rfl
  | newId id interface version =>
      obtain ⟨present, ⟨typed, rfl⟩ | ⟨dynamic, bytes, spanned, rfl⟩⟩ :=
        Argument.segment_newId written
      · simp [Argument.kind, Argument.carried, typed, readId_encode_append present, bind,
          Except.bind, pure, Except.pure]
      · simp [Argument.kind, Argument.carried, dynamic, List.append_assoc,
          readString_segment_append spanned, readWord_encode_append, readId_encode_append present,
          bind, Except.bind, pure, Except.pure]
  | array content =>
      cases written
      have fits : content.length < UInt32.size := by
        simp only [Span.length_encode, maxMessageSize] at short
        simp only [UInt32.size]
        omega
      simp [Argument.kind, Argument.carried, readSpan_encode_append rest fits, bind, Except.bind,
        pure, Except.pure]
  | fd descriptor =>
      cases written
      simp [Argument.kind, Argument.carried]
  | unassigned code => cases written

/-- What one value adds to a body ends at a multiple of 4. -/
theorem Argument.length_segment_mod
    {value : Argument}
    (written : value.segment site slot = .ok segment) :
    segment.body.length % 4 = 0 := by
  cases value with
  | int value | uint value | fixed value =>
      cases written
      simp
  | string content =>
      cases content with
      | none =>
          obtain ⟨-, rfl⟩ := segment_absentString written
          simp
      | some content =>
          obtain ⟨bytes, spanned, rfl⟩ := segment_presentString written
          exact length_stringSegment_mod spanned
  | object id =>
      obtain ⟨-, rfl⟩ := segment_object written
      simp
  | newId id interface version =>
      obtain ⟨-, ⟨-, rfl⟩ | ⟨-, bytes, spanned, rfl⟩⟩ := segment_newId written
      · simp
      · have aligned := length_stringSegment_mod spanned
        simp only [List.length_append, Word.length_encode]
        omega
  | array content =>
      cases written
      exact Span.length_encode_mod content
  | fd descriptor =>
      cases written
      simp
  | unassigned code => cases written

/-- What an absent string adds is one word. -/
theorem Argument.length_segment_of_not_measured
    {value : Argument}
    (notMeasured : value.isMeasured = false)
    (written : value.segment site slot = .ok segment) :
    segment.body.length = 4 := by
  unfold Argument.isMeasured at notMeasured
  split at notMeasured
  · obtain ⟨-, rfl⟩ := segment_absentString written
    simp
  · cases notMeasured

end Segments

/-- What reaches the peer of the values of a message. -/
def carriedAll
    (slots : List Slot)
    (values : List Argument) :
    List Argument :=
  List.zipWith (fun slot value => value.carried slot) slots values

/-- A value that was added within the size limit takes no more than the limit. -/
theorem Argument.length_segment_le
    {site : Site}
    {slot : Slot}
    {value : Argument}
    {segment : Payload}
    {before : Bytes}
    (written : value.segment site slot = .ok segment)
    (within :
      ¬(value.isMeasured &&
          decide (headerSize + (before ++ segment.body).length > maxMessageSize)) = true) :
    segment.body.length ≤ maxMessageSize := by
  cases measured : value.isMeasured with
  | false =>
      rw [length_segment_of_not_measured measured written]
      decide
  | true =>
      simp only [measured, Bool.true_and, decide_eq_true_eq, List.length_append] at within
      omega

/-- What the remaining values add is a payload of their own: it ends at a multiple of 4, and reading
its slots from the front of any bytes and descriptors that start with it gives the values back. -/
theorem readSlots_encodeFrom
    {message : String}
    {produced payload : Payload}
    {slots : List Slot}
    {values : List Argument}
    (sameLength : values.length = slots.length)
    (encoded : encodeFrom message produced slots values = .ok payload) :
    ∃ added : Payload,
      payload = ⟨produced.body ++ added.body, produced.descriptors ++ added.descriptors⟩ ∧
        added.body.length % 4 = 0 ∧
          ∀ rest descriptors,
            readSlots message (added.body ++ rest) (added.descriptors ++ descriptors) slots =
              .ok ⟨carriedAll slots values, rest, descriptors⟩ := by
  induction slots generalizing produced values with
  | nil =>
      obtain rfl : values = [] := List.length_eq_zero_iff.mp sameLength
      cases encoded
      exact ⟨{}, by simp, by simp, by simp [readSlots, carriedAll]⟩
  | cons slot slots inductionHypothesis =>
      cases values with
      | nil => cases sameLength
      | cons value values =>
          simp only [encodeFrom] at encoded
          split at encoded
          · cases encoded
          · rename_i sameKind
            have sameKind : value.kind = slot.kind := Decidable.not_not.mp sameKind
            split at encoded
            · cases encoded
            · rename_i segment written
              split at encoded
              · cases encoded
              · rename_i within
                have short := Argument.length_segment_le written within
                have aligned := Argument.length_segment_mod written
                obtain ⟨added, payloadEq, addedAligned, readBack⟩ :=
                  inductionHypothesis (Nat.succ.inj sameLength) encoded
                refine ⟨⟨segment.body ++ added.body, segment.descriptors ++ added.descriptors⟩,
                  by simp [payloadEq], by simp only [List.length_append]; omega, ?_⟩
                intro rest descriptors
                have first := Slot.read_segment_append sameKind written short (added.body ++ rest)
                  (added.descriptors ++ descriptors)
                simp only [List.append_assoc, readSlots, first, readBack]
                rfl

/-- A body that was written is read back, whatever descriptors follow its own. -/
theorem decode_encode
    {signature : Signature}
    {values : List Argument}
    {payload : Payload}
    (encoded : encode signature values = .ok payload)
    (following : List Int) :
    decode signature ⟨payload.body, payload.descriptors ++ following⟩ =
      .ok ⟨carriedAll signature.slots values, payload.descriptors.length⟩ := by
  unfold encode at encoded
  split at encoded
  · cases encoded
  · rename_i sameLength
    obtain ⟨added, rfl, -, readBack⟩ :=
      readSlots_encodeFrom (Decidable.not_not.mp sameLength) encoded
    have whole := readBack [] following
    rw [List.append_nil] at whole
    simp [decode, whole]

/-- Every body that was written ends at a multiple of 4. -/
theorem length_encode_mod
    {signature : Signature}
    {values : List Argument}
    {payload : Payload}
    (encoded : encode signature values = .ok payload) :
    payload.body.length % 4 = 0 := by
  unfold encode at encoded
  split at encoded
  · cases encoded
  · rename_i sameLength
    obtain ⟨added, rfl, aligned, -⟩ :=
      readSlots_encodeFrom (Decidable.not_not.mp sameLength) encoded
    simpa using aligned

theorem Header.sizeAllowed_iff
    {size : UInt16} :
    sizeAllowed size = true ↔ 8 ≤ size.toNat ∧ size.toNat ≤ 4096 ∧ size.toNat % 4 = 0 := by
  simp only [sizeAllowed, Bool.and_eq_true, decide_eq_true_eq, beq_iff_eq]
  simp only [headerSize, maxMessageSize]
  omega

theorem Header.length_encode
    (header : Header) :
    header.encode.length = 8 :=
  rfl

/-- A header of allowed size is read back. -/
theorem Header.decode_encode_append
    {header : Header}
    (allowed : sizeAllowed header.size = true)
    (rest : Bytes) :
    Header.decode (header.encode ++ rest) = .ok (header, rest) := by
  have opcode : ((header.size.toUInt32 <<< 16) ||| header.opcode.toUInt32).toUInt16 =
      header.opcode := by
    apply UInt16.eq_of_toBitVec_eq
    apply BitVec.eq_of_getLsbD_eq
    intro bit small
    simp
  have size : (((header.size.toUInt32 <<< 16) ||| header.opcode.toUInt32) >>> 16).toUInt16 =
      header.size := by
    apply UInt16.eq_of_toBitVec_eq
    apply BitVec.eq_of_getLsbD_eq
    intro bit small
    simp
    grind
  unfold Header.decode Header.encode
  simp only [List.append_assoc, Word.decode?_encode_append, opcode, size, allowed, if_true]

/-- A message is framed exactly if it stays within the limit, and then by a header with its size. -/
theorem Frame.encode_eq_ok_iff
    {sender : ObjectId}
    {opcode : UInt16}
    {body bytes : Bytes} :
    Frame.encode sender opcode body = .ok bytes ↔
      headerSize + body.length ≤ maxMessageSize ∧
        bytes =
          Header.encode ⟨sender, opcode, UInt16.ofNat (headerSize + body.length)⟩ ++ body := by
  unfold Frame.encode
  simp only
  split
  · rename_i large
    exact iff_of_false (by simp) fun both => by omega
  · rename_i small
    rw [Except.ok.injEq]
    constructor
    · rintro rfl
      exact ⟨by omega, rfl⟩
    · rintro ⟨-, rfl⟩
      rfl

/-- The header of a message within the limit holds the whole size. -/
theorem Frame.toNat_size
    {length : Nat}
    (within : headerSize + length ≤ maxMessageSize) :
    (UInt16.ofNat (headerSize + length)).toNat = headerSize + length := by
  apply UInt16.toNat_ofNat_of_lt'
  simp only [headerSize, maxMessageSize, UInt16.size] at within ⊢
  omega

theorem Frame.sizeAllowed
    {length : Nat}
    (within : headerSize + length ≤ maxMessageSize)
    (aligned : length % 4 = 0) :
    Header.sizeAllowed (UInt16.ofNat (headerSize + length)) = true := by
  rw [Header.sizeAllowed_iff, toNat_size within]
  simp only [headerSize, maxMessageSize] at within ⊢
  omega

/-- A framed message is cut off whole from any stream that starts with it. -/
theorem Frame.split_encode_append
    {sender : ObjectId}
    {opcode : UInt16}
    {body bytes : Bytes}
    (framed : Frame.encode sender opcode body = .ok bytes)
    (aligned : body.length % 4 = 0)
    (rest : Bytes) :
    Frame.split (bytes ++ rest) =
      .ok (⟨⟨sender, opcode, UInt16.ofNat (headerSize + body.length)⟩, body⟩, rest) := by
  obtain ⟨within, rfl⟩ := encode_eq_ok_iff.mp framed
  unfold Frame.split
  rw [List.append_assoc, Header.decode_encode_append (sizeAllowed within aligned)]
  simp only [toNat_size within, Nat.add_sub_cancel_left, List.length_append]
  rw [if_neg (by omega), List.take_left, List.drop_left]

/-- A framed message has at least its header. -/
theorem Frame.encode_ne_nil
    {sender : ObjectId}
    {opcode : UInt16}
    {body bytes : Bytes}
    (framed : Frame.encode sender opcode body = .ok bytes) :
    bytes ≠ [] := by
  obtain ⟨-, rfl⟩ := encode_eq_ok_iff.mp framed
  simp [Header.encode, Word.encode]

end Wayland.Wire
