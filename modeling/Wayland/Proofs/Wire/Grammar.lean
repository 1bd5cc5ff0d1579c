import Mathlib.Data.List.Induction
import Wayland.Proofs.Wire.RoundTrip

/-!
Contract: the grammar of message bodies.

Owns:
- octets, which tell filler from the bytes that matter;
- what spells a span, the value of a slot, and the values of a message;
- the readers: each takes from the front of a body exactly what spells its value;
- the bodies that are decoded, and the values they are decoded to.

Does not own: which of the bodies that spell the same values is written.
-/

namespace Wayland.Wire

open Wayland.Text

/-- A byte of a body.  Filler may be any byte. -/
inductive Octet where
  | plain (byte : UInt8)
  | filler (byte : UInt8)
deriving DecidableEq, Repr

namespace Octet

def byte : Octet → UInt8
  | .plain byte => byte
  | .filler byte => byte

/-- The byte, with zero in place of filler. -/
def cleared : Octet → UInt8
  | .plain byte => byte
  | .filler _ => 0

@[simp]
theorem byte_comp_plain :
    byte ∘ plain = id :=
  rfl

@[simp]
theorem byte_comp_filler :
    byte ∘ filler = id :=
  rfl

@[simp]
theorem cleared_comp_plain :
    cleared ∘ plain = id :=
  rfl

@[simp]
theorem cleared_comp_filler :
    cleared ∘ filler = fun _ => 0 :=
  rfl

end Octet

namespace Word

def octets
    (word : UInt32) :
    List Octet :=
  (encode word).map .plain

@[simp]
theorem map_byte_octets
    (word : UInt32) :
    (octets word).map Octet.byte = encode word := by
  simp [octets]

@[simp]
theorem map_cleared_octets
    (word : UInt32) :
    (octets word).map Octet.cleared = encode word := by
  simp [octets]

theorem encode_ofBytes
    (b0 b1 b2 b3 : UInt8) :
    encode (ofBytes b0 b1 b2 b3) = [b0, b1, b2, b3] := by
  simp only [encode, List.cons.injEq, and_true]
  refine ⟨?_, ?_, ?_, ?_⟩
  all_goals
    apply UInt8.eq_of_toBitVec_eq
    apply BitVec.eq_of_getLsbD_eq
    intro bit small
    simp [ofBytes] <;> grind

/-- A word that is read stands at the front of the body. -/
theorem eq_encode_of_decode?
    {body rest : Bytes}
    {word : UInt32}
    (read : decode? body = some (word, rest)) :
    body = encode word ++ rest := by
  unfold decode? at read
  split at read
  · cases read
    rw [encode_ofBytes]
    rfl
  · cases read

end Word

/-- What spells a span: its length word, its bytes, and filler up to the next multiple of 4. -/
inductive Span.Spells : Bytes → List Octet → Prop where
  | padded {length : UInt32} {content filler : Bytes} :
      content.length = length.toNat → filler.length = Span.padding content.length →
        Span.Spells content
          (Word.octets length ++ content.map .plain ++ filler.map .filler)

/-- What spells a string: nothing for the absent one, else bytes of which the last, and no other, is
zero. -/
inductive StringSpells : Option Bytes → List Octet → Prop where
  | absent {octets : List Octet} : Span.Spells [] octets → StringSpells none octets
  | present {content : Bytes} {octets : List Octet} :
      0 ∉ content → Span.Spells (content ++ [0]) octets → StringSpells (some content) octets

/-- What spells the value of a slot, other than a descriptor, in a body. -/
inductive Slot.Spells
    (slot : Slot) :
    Argument → List Octet → Prop where
  | int {word : UInt32} :
      slot.kind = .int → Slot.Spells slot (.int word.toInt32) (Word.octets word)
  | uint {word : UInt32} :
      slot.kind = .uint → Slot.Spells slot (.uint word) (Word.octets word)
  | fixed {word : UInt32} :
      slot.kind = .fixed → Slot.Spells slot (.fixed ⟨word.toInt32⟩) (Word.octets word)
  | string {content : Option Bytes} {octets : List Octet} :
      slot.kind = .string → StringSpells content octets →
        (content = none → slot.nullable = true) → Slot.Spells slot (.string content) octets
  | object {id : ObjectId} :
      slot.kind = .object → (id = 0 → slot.nullable = true) →
        Slot.Spells slot (.object id) (Word.octets id)
  /-- A new object whose interface the slot names. -/
  | typedNewId {id : ObjectId} :
      slot.kind = .newId → slot.interface ≠ "" → id ≠ 0 →
        Slot.Spells slot (.newId id [] 0) (Word.octets id)
  /-- A new object whose interface and version stand before its id. -/
  | openNewId {id : ObjectId} {name : Bytes} {version : UInt32} {octets : List Octet} :
      slot.kind = .newId → slot.interface = "" → StringSpells (some name) octets → id ≠ 0 →
          Slot.Spells slot (.newId id name version)
            (octets ++ Word.octets version ++ Word.octets id)
  | array {content : Bytes} {octets : List Octet} :
      slot.kind = .array → Span.Spells content octets → Slot.Spells slot (.array content) octets

/-- What spells the values of a message: octets one after the other in the body, and descriptors
beside it. -/
inductive Spells : List Slot → List Argument → List Octet → List Int → Prop where
  | done : Spells [] [] [] []
  | spelled
      {slot : Slot} {slots : List Slot} {value : Argument} {values : List Argument}
      {octets rest : List Octet} {descriptors : List Int} :
      slot.Spells value octets → Spells slots values rest descriptors →
        Spells (slot :: slots) (value :: values) (octets ++ rest) descriptors
  | descriptor
      {slot : Slot} {slots : List Slot} {descriptor : Int} {values : List Argument}
      {octets : List Octet} {descriptors : List Int} :
      slot.kind = .fd → Spells slots values octets descriptors →
        Spells (slot :: slots) (.fd descriptor :: values) octets (descriptor :: descriptors)

/-- Two steps succeed exactly if each does. -/
theorem bind_eq_ok_iff
    {ε α β : Type}
    {first : Except ε α}
    {next : α → Except ε β}
    {result : β} :
    first >>= next = .ok result ↔ ∃ value, first = .ok value ∧ next value = .ok result := by
  cases first with
  | error error => simp [bind, Except.bind]
  | ok value => simp [bind, Except.bind]

/-- What stands behind a guard is reached exactly if the guard does not refuse. -/
theorem guard_eq_ok_iff
    {ε α β : Type}
    {bad : Prop}
    [Decidable bad]
    {refusal : Except ε α}
    {next : α → Except ε β}
    {rest : Except ε β}
    {result : β}
    (refuses : ∃ error, refusal = .error error) :
    (if bad then refusal >>= next else rest) = .ok result ↔ ¬bad ∧ rest = .ok result := by
  obtain ⟨error, rfl⟩ := refuses
  by_cases isBad : bad
  · simp [isBad, bind, Except.bind]
  · simp [isBad]

section Reading

variable {body rest : Bytes}

theorem eq_encode_of_readWord
    {word : UInt32}
    (read : readWord body = .ok (word, rest)) :
    body = Word.encode word ++ rest := by
  unfold readWord at read
  split at read
  · rename_i reading isRead
    cases read
    exact Word.eq_encode_of_decode? isRead
  · cases read

/-- After a length word either its bytes and their filler are all there, and just those bytes are
read, or the span is refused. -/
theorem readSpan_cases
    (length : UInt32)
    (following : Bytes) :
    (∃ content filler rest,
      following = content ++ filler ++ rest ∧ content.length = length.toNat ∧
        filler.length = Span.padding length.toNat ∧
          readSpan (Word.encode length ++ following) = .ok (content, rest)) ∨
    (following.length < length.toNat + Span.padding length.toNat ∧
      readSpan (Word.encode length ++ following) = .error .badLength) := by
  unfold readSpan Span.decode
  rw [Word.decode?_encode_append]
  simp only
  by_cases short : following.length < length.toNat + Span.padding length.toNat
  · rw [if_pos short]
    exact Or.inr ⟨short, rfl⟩
  · -- All the counted bytes are there, so taking them loses none.
    rw [if_neg short]
    refine Or.inl ⟨following.take length.toNat,
      (following.drop length.toNat).take (Span.padding length.toNat),
      following.drop (length.toNat + Span.padding length.toNat), ?_, ?_, ?_, rfl⟩
    · rw [List.append_assoc, ← List.drop_drop, List.take_append_drop, List.take_append_drop]
    · rw [List.length_take]
      omega
    · rw [List.length_take, List.length_drop]
      omega

/-- A span that is read is spelled at the front of the body. -/
theorem spells_of_readSpan
    {content : Bytes}
    (read : readSpan body = .ok (content, rest)) :
    ∃ octets, Span.Spells content octets ∧ body = octets.map Octet.byte ++ rest := by
  cases prefixed : Word.decode? body with
  | none => simp [readSpan, Span.decode, prefixed] at read
  | some reading =>
      obtain ⟨length, following⟩ := reading
      obtain rfl := Word.eq_encode_of_decode? prefixed
      rcases readSpan_cases length following with
        ⟨found, filler, after, rfl, contentLength, fillerLength, isRead⟩ | ⟨-, refused⟩
      · rw [isRead] at read
        cases read
        rw [← contentLength] at fillerLength
        exact ⟨_, .padded contentLength fillerLength, by simp⟩
      · rw [refused] at read
        cases read

theorem Span.Spells.read
    {content : Bytes}
    {octets : List Octet}
    (spells : Span.Spells content octets)
    (rest : Bytes) :
    readSpan (octets.map Octet.byte ++ rest) = .ok (content, rest) := by
  cases spells with
  | @padded length content filler contentLength fillerLength =>
      rw [contentLength] at fillerLength
      have bytes : (Word.octets length ++ content.map Octet.plain ++ filler.map Octet.filler).map
          Octet.byte ++ rest = Word.encode length ++ (content ++ (filler ++ rest)) := by
        simp
      rw [bytes]
      rcases readSpan_cases length (content ++ (filler ++ rest)) with
        ⟨found, other, after, split, foundLength, otherLength, isRead⟩ | ⟨short, -⟩
      · rw [List.append_assoc] at split
        obtain ⟨foundEq, split⟩ := List.append_inj split (contentLength.trans foundLength.symm)
        obtain ⟨-, restEq⟩ := List.append_inj split (fillerLength.trans otherLength.symm)
        rw [isRead, foundEq, restEq]
      · simp only [List.length_append] at short
        omega

/-- A string that is read is spelled at the front of the body. -/
theorem spells_of_readString
    {content : Option Bytes}
    (read : readString body = .ok (content, rest)) :
    ∃ octets, StringSpells content octets ∧ body = octets.map Octet.byte ++ rest := by
  unfold readString at read
  split at read
  · cases read
  · rename_i span after isRead
    obtain ⟨octets, spells, rfl⟩ := spells_of_readSpan isRead
    cases span using List.reverseRecOn with
    | nil =>
        cases read
        exact ⟨octets, .absent spells, rfl⟩
    | append_singleton found last =>
        simp only [List.getLast?_concat, List.dropLast_concat] at read
        split at read
        · cases read
        · rename_i isZero
          obtain rfl : last = 0 := Decidable.not_not.mp isZero
          split at read
          · cases read
          · rename_i noOtherZero
            cases read
            exact ⟨octets, .present (by simpa using noOtherZero) spells, rfl⟩

theorem StringSpells.read
    {content : Option Bytes}
    {octets : List Octet}
    (spells : StringSpells content octets)
    (rest : Bytes) :
    readString (octets.map Octet.byte ++ rest) = .ok (content, rest) := by
  unfold readString
  cases spells with
  | absent spells => simp [spells.read]
  | present noOtherZero spells => simp [spells.read, noOtherZero]

theorem eq_encode_of_readId
    {id : ObjectId}
    (read : readId body = .ok (id, rest)) :
    id ≠ 0 ∧ body = Word.encode id ++ rest := by
  simp only [readId, bind_eq_ok_iff] at read
  obtain ⟨⟨found, after⟩, isRead, accepted⟩ := read
  obtain rfl := eq_encode_of_readWord isRead
  split at accepted
  · cases accepted
  · rename_i present
    cases accepted
    exact ⟨present, rfl⟩

section Slots

variable {slot : Slot} {value : Argument} {descriptors remaining : List Int}

/-- What is read for a slot other than a descriptor is spelled at the front of the body. -/
theorem Slot.spells_of_read
    (inBody : slot.kind ≠ .fd)
    (read : slot.read body descriptors = .ok ⟨value, rest, remaining⟩) :
    remaining = descriptors ∧
      ∃ octets, slot.Spells value octets ∧ body = octets.map Octet.byte ++ rest := by
  unfold Slot.read at read
  cases kind : slot.kind with
  | int =>
      simp only [kind, bind_eq_ok_iff] at read
      obtain ⟨⟨word, after⟩, isRead, done⟩ := read
      obtain rfl := eq_encode_of_readWord isRead
      cases done
      exact ⟨rfl, _, .int kind, by simp⟩
  | uint =>
      simp only [kind, bind_eq_ok_iff] at read
      obtain ⟨⟨word, after⟩, isRead, done⟩ := read
      obtain rfl := eq_encode_of_readWord isRead
      cases done
      exact ⟨rfl, _, .uint kind, by simp⟩
  | fixed =>
      simp only [kind, bind_eq_ok_iff] at read
      obtain ⟨⟨word, after⟩, isRead, done⟩ := read
      obtain rfl := eq_encode_of_readWord isRead
      cases done
      exact ⟨rfl, _, .fixed kind, by simp⟩
  | string =>
      simp only [kind, bind_eq_ok_iff] at read
      obtain ⟨⟨content, after⟩, isRead, done⟩ := read
      obtain ⟨octets, spells, rfl⟩ := spells_of_readString isRead
      split at done
      · cases done
      · rename_i allowed
        cases done
        refine ⟨rfl, octets, .string kind spells ?_, rfl⟩
        rintro rfl
        simpa using allowed
  | object =>
      simp only [kind, bind_eq_ok_iff] at read
      obtain ⟨⟨id, after⟩, isRead, done⟩ := read
      obtain rfl := eq_encode_of_readWord isRead
      split at done
      · cases done
      · rename_i allowed
        cases done
        exact ⟨rfl, _, .object kind (by simpa using allowed), by simp⟩
  | newId =>
      simp only [kind] at read
      split at read
      · rename_i dynamic
        simp only [bind_eq_ok_iff] at read
        obtain ⟨⟨name, afterName⟩, isRead, done⟩ := read
        obtain ⟨octets, spells, rfl⟩ := spells_of_readString isRead
        cases name with
        | none => cases done
        | some name =>
            simp only [bind_eq_ok_iff] at done
            obtain ⟨⟨version, afterVersion⟩, versionRead, ⟨id, after⟩, idRead, done⟩ := done
            obtain rfl := eq_encode_of_readWord versionRead
            obtain ⟨present, rfl⟩ := eq_encode_of_readId idRead
            cases done
            have isOpen : slot.interface = "" := by simpa [Slot.isDynamic, kind] using dynamic
            exact ⟨rfl, _, .openNewId kind isOpen spells present, by simp⟩
      · rename_i typed
        simp only [bind_eq_ok_iff] at read
        obtain ⟨⟨id, after⟩, isRead, done⟩ := read
        obtain ⟨present, rfl⟩ := eq_encode_of_readId isRead
        cases done
        have isTyped : slot.interface ≠ "" := by simpa [Slot.isDynamic, kind] using typed
        exact ⟨rfl, _, .typedNewId kind isTyped present, by simp⟩
  | array =>
      simp only [kind, bind_eq_ok_iff] at read
      obtain ⟨⟨content, after⟩, isRead, done⟩ := read
      obtain ⟨octets, spells, rfl⟩ := spells_of_readSpan isRead
      cases done
      exact ⟨rfl, octets, .array kind spells, rfl⟩
  | fd => exact absurd kind inBody
  | unassigned code =>
      rw [kind] at read
      cases read

/-- A descriptor that is read is the first of those beside the body, which is left alone. -/
theorem Slot.descriptor_of_read
    (kind : slot.kind = .fd)
    (read : slot.read body descriptors = .ok ⟨value, rest, remaining⟩) :
    ∃ descriptor,
      value = .fd descriptor ∧ rest = body ∧ descriptors = descriptor :: remaining := by
  simp only [Slot.read, kind] at read
  split at read
  · rename_i descriptor following
    cases read
    exact ⟨descriptor, rfl, rfl, rfl⟩
  · cases read

/-- What is spelled for a slot at the front of a body is read, and nothing else. -/
theorem Slot.Spells.read
    {octets : List Octet}
    (spells : slot.Spells value octets)
    (rest : Bytes)
    (descriptors : List Int) :
    slot.read (octets.map Octet.byte ++ rest) descriptors = .ok ⟨value, rest, descriptors⟩ := by
  unfold Slot.read
  cases spells with
  | int kind | uint kind | fixed kind => simp [kind, readWord_encode_append]
  | @string content octets kind spells allowed =>
      cases content with
      | none => simp [kind, spells.read, allowed rfl]
      | some content => simp [kind, spells.read, bind, Except.bind, pure, Except.pure]
  | @object id kind allowed =>
      have accepted : ¬(id = 0 ∧ slot.nullable = false) := by simpa using allowed
      simp only [kind, Word.map_byte_octets, readWord_encode_append, bind, Except.bind]
      rw [if_neg accepted]
      rfl
  | typedNewId kind isTyped present =>
      have typed : slot.isDynamic = false := by simp [Slot.isDynamic, isTyped]
      simp [kind, typed, readId_encode_append present]
  | openNewId kind isOpen spells present =>
      have dynamic : slot.isDynamic = true := by simp [Slot.isDynamic, kind, isOpen]
      simp [kind, dynamic, spells.read, readWord_encode_append, readId_encode_append present, bind,
        Except.bind, pure, Except.pure]
  | array kind spells => simp [kind, spells.read]

theorem Slot.Spells.kind_ne_fd
    {octets : List Octet}
    (spells : slot.Spells value octets) :
    slot.kind ≠ .fd := by
  cases spells <;> simp [*]

theorem Slot.Spells.kind_eq
    {octets : List Octet}
    (spells : slot.Spells value octets) :
    value.kind = slot.kind := by
  cases spells <;> simp [Argument.kind, *]

end Slots

section Messages

variable {message : String} {slots : List Slot} {values : List Argument}
variable {descriptors remaining : List Int}

/-- The values that are read for slots are spelled at the front of the body and the descriptors. -/
theorem spells_of_readSlots
    (read : readSlots message body descriptors slots = .ok ⟨values, rest, remaining⟩) :
    ∃ octets taken,
      Spells slots values octets taken ∧ body = octets.map Octet.byte ++ rest ∧
        descriptors = taken ++ remaining := by
  induction slots generalizing body descriptors values with
  | nil =>
      cases read
      exact ⟨[], [], .done, rfl, rfl⟩
  | cons slot slots inductionHypothesis =>
      simp only [readSlots] at read
      split at read
      · cases read
      · rename_i first firstRead
        split at read
        · cases read
        · rename_i others othersRead
          cases read
          obtain ⟨octets, taken, spells, bodyEq, descriptorsEq⟩ := inductionHypothesis othersRead
          by_cases isDescriptor : slot.kind = .fd
          · obtain ⟨descriptor, valueEq, sameBody, firstEq⟩ :=
              Slot.descriptor_of_read isDescriptor firstRead
            rw [valueEq]
            refine ⟨octets, descriptor :: taken, .descriptor isDescriptor spells, ?_, ?_⟩
            · rw [← sameBody, bodyEq]
            · rw [firstEq, descriptorsEq, List.cons_append]
          · obtain ⟨sameDescriptors, front, firstSpells, frontEq⟩ :=
              Slot.spells_of_read isDescriptor firstRead
            refine ⟨front ++ octets, taken, .spelled firstSpells spells, ?_, ?_⟩
            · rw [frontEq, bodyEq, List.map_append, List.append_assoc]
            · rw [← sameDescriptors, descriptorsEq]

/-- Values that are spelled at the front of a body and the descriptors are read. -/
theorem Spells.read
    {octets : List Octet}
    {taken : List Int}
    (spells : Spells slots values octets taken)
    (message : String)
    (rest : Bytes)
    (following : List Int) :
    readSlots message (octets.map Octet.byte ++ rest) (taken ++ following) slots =
      .ok ⟨values, rest, following⟩ := by
  induction spells with
  | done => rfl
  | spelled first _ inductionHypothesis =>
      simp only [readSlots, List.map_append, List.append_assoc, first.read, inductionHypothesis]
  | descriptor kind _ inductionHypothesis =>
      simp only [readSlots, Slot.read, kind, List.cons_append, inductionHypothesis]

/-- A body is decoded to the values that the whole of it spells with the first descriptors. -/
theorem decode_eq_ok_iff
    {signature : Signature}
    {decoded : Decoded} :
    decode signature ⟨body, descriptors⟩ = .ok decoded ↔
      ∃ octets taken following,
        Spells signature.slots decoded.arguments octets taken ∧ body = octets.map Octet.byte ∧
          descriptors = taken ++ following ∧ decoded.descriptorsUsed = taken.length := by
  constructor
  · intro isDecoded
    unfold decode at isDecoded
    split at isDecoded
    · cases isDecoded
    · rename_i reading read
      split at isDecoded
      · rename_i nothingLeft
        cases isDecoded
        obtain ⟨octets, taken, spells, bodyEq, descriptorsEq⟩ := spells_of_readSlots read
        rw [List.isEmpty_iff.mp nothingLeft, List.append_nil] at bodyEq
        refine ⟨octets, taken, _, spells, bodyEq, descriptorsEq, ?_⟩
        simp only at descriptorsEq ⊢
        rw [descriptorsEq, List.length_append, Nat.add_sub_cancel_right]
      · cases isDecoded
  · rintro ⟨octets, taken, following, spells, rfl, rfl, used⟩
    have read := spells.read signature.name [] following
    rw [List.append_nil] at read
    obtain ⟨arguments, descriptorsUsed⟩ := decoded
    obtain rfl : descriptorsUsed = taken.length := used
    simp [decode, read]

end Messages

end Reading

def Kind.IsAssigned
    (kind : Kind) : Prop :=
  ∀ code, kind ≠ .unassigned code

/-- The bytes of a segment spell some value of a slot. -/
def Slot.Accepts
    (slot : Slot)
    (segment : Bytes) : Prop :=
  ∃ value octets, slot.Spells value octets ∧ segment = octets.map Octet.byte

def bodySlots
    (slots : List Slot) :
    List Slot :=
  slots.filter fun slot => slot.kind != .fd

def descriptorCount
    (slots : List Slot) :
    Nat :=
  slots.countP fun slot => slot.kind == .fd

section Segments

variable {slots : List Slot} {values : List Argument} {octets : List Octet} {taken : List Int}

theorem Spells.assigned
    (spells : Spells slots values octets taken) :
    ∀ slot ∈ slots, slot.kind.IsAssigned := by
  induction spells with
  | done => simp
  | @spelled slot slots value values octets rest descriptors first _ inductionHypothesis =>
      refine List.forall_mem_cons.mpr ⟨?_, inductionHypothesis⟩
      intro code
      cases first <;> simp [*]
  | descriptor kind _ inductionHypothesis =>
      refine List.forall_mem_cons.mpr ⟨?_, inductionHypothesis⟩
      intro code
      simp [kind]

theorem Spells.length_taken
    (spells : Spells slots values octets taken) :
    taken.length = descriptorCount slots := by
  unfold descriptorCount
  induction spells with
  | done => rfl
  | spelled first _ inductionHypothesis =>
      rw [inductionHypothesis, List.countP_cons_of_neg (by simpa using first.kind_ne_fd)]
  | descriptor kind _ inductionHypothesis =>
      rw [List.length_cons, inductionHypothesis, List.countP_cons_of_pos (by simp [kind])]

/-- What spells the values of a message is cut into one segment for each slot in the body. -/
theorem Spells.segments
    (spells : Spells slots values octets taken) :
    ∃ segments,
      List.Forall₂ Slot.Accepts (bodySlots slots) segments ∧
        octets.map Octet.byte = segments.flatten := by
  unfold bodySlots
  induction spells with
  | done => exact ⟨[], .nil, rfl⟩
  | @spelled slot slots value values octets rest descriptors first _ inductionHypothesis =>
      obtain ⟨segments, accepted, flattened⟩ := inductionHypothesis
      refine ⟨octets.map Octet.byte :: segments, ?_, by simp [flattened]⟩
      rw [List.filter_cons_of_pos (by simpa using first.kind_ne_fd)]
      exact .cons ⟨value, octets, first, rfl⟩ accepted
  | descriptor kind _ inductionHypothesis =>
      obtain ⟨segments, accepted, flattened⟩ := inductionHypothesis
      refine ⟨segments, ?_, flattened⟩
      rwa [List.filter_cons_of_neg (by simp [kind])]

/-- Segments for the slots in the body spell values, with as many descriptors as are taken. -/
theorem exists_spells
    {segments : List Bytes}
    (accepted : List.Forall₂ Slot.Accepts (bodySlots slots) segments)
    (sameLength : taken.length = descriptorCount slots) :
    ∃ values octets,
      Spells slots values octets taken ∧ segments.flatten = octets.map Octet.byte := by
  unfold bodySlots at accepted
  unfold descriptorCount at sameLength
  -- A slot uses up a segment or a descriptor, and both lists are exactly long enough.
  induction slots generalizing segments taken with
  | nil =>
      cases accepted
      obtain rfl := List.length_eq_zero_iff.mp sameLength
      exact ⟨[], [], .done, rfl⟩
  | cons slot slots inductionHypothesis =>
      by_cases isDescriptor : slot.kind = .fd
      · rw [List.filter_cons_of_neg (by simp [isDescriptor])] at accepted
        rw [List.countP_cons_of_pos (by simp [isDescriptor])] at sameLength
        cases taken with
        | nil => cases sameLength
        | cons descriptor taken =>
            obtain ⟨values, octets, spells, flattened⟩ :=
              inductionHypothesis accepted (Nat.succ.inj sameLength)
            exact ⟨_, octets, .descriptor isDescriptor spells, flattened⟩
      · rw [List.filter_cons_of_pos (by simpa using isDescriptor)] at accepted
        rw [List.countP_cons_of_neg (by simpa using isDescriptor)] at sameLength
        cases accepted with
        | cons first others =>
            obtain ⟨value, front, firstSpells, rfl⟩ := first
            obtain ⟨values, octets, spells, flattened⟩ := inductionHypothesis others sameLength
            exact ⟨_, _, .spelled firstSpells spells, by simp [flattened]⟩

end Segments

/-- A body is decoded exactly if it is a segment for each slot in it, one after the other, every class
is assigned, and there are enough descriptors; the values are those that the segments spell, with the
first descriptors in order; and after a length word either just the bytes it counts are read, all of
which are there, or the span is refused. -/
theorem decode_accepts_grammar
    (signature : Signature)
    (body : Bytes)
    (descriptors : List Int) :
    ((∃ decoded, decode signature ⟨body, descriptors⟩ = .ok decoded) ↔
      (∀ slot ∈ signature.slots, slot.kind.IsAssigned) ∧
        descriptorCount signature.slots ≤ descriptors.length ∧
          ∃ segments,
            List.Forall₂ Slot.Accepts (bodySlots signature.slots) segments ∧
              body = segments.flatten) ∧
    (∀ decoded,
      decode signature ⟨body, descriptors⟩ = .ok decoded ↔
        decoded.descriptorsUsed = descriptorCount signature.slots ∧
          ∃ octets,
            Spells signature.slots decoded.arguments octets
                (descriptors.take decoded.descriptorsUsed) ∧
              body = octets.map Octet.byte) ∧
    (∀ length following,
      (∃ content filler rest,
        following = content ++ filler ++ rest ∧ content.length = length.toNat ∧
          filler.length = Span.padding length.toNat ∧
            readSpan (Word.encode length ++ following) = .ok (content, rest)) ∨
      (following.length < length.toNat + Span.padding length.toNat ∧
        readSpan (Word.encode length ++ following) = .error .badLength)) := by
  refine ⟨⟨?_, ?_⟩, ?_, readSpan_cases⟩
  · rintro ⟨decoded, isDecoded⟩
    obtain ⟨octets, taken, following, spells, rfl, rfl, -⟩ := decode_eq_ok_iff.mp isDecoded
    refine ⟨spells.assigned, ?_, spells.segments⟩
    rw [← spells.length_taken, List.length_append]
    exact Nat.le_add_right ..
  · rintro ⟨-, enough, segments, accepted, rfl⟩
    have sameLength : (descriptors.take (descriptorCount signature.slots)).length =
        descriptorCount signature.slots := by
      rw [List.length_take, Nat.min_eq_left enough]
    obtain ⟨values, octets, spells, bodyEq⟩ := exists_spells accepted sameLength
    exact ⟨⟨values, descriptorCount signature.slots⟩, decode_eq_ok_iff.mpr
      ⟨octets, _, _, spells, bodyEq, (List.take_append_drop _ _).symm, sameLength.symm⟩⟩
  · intro decoded
    rw [decode_eq_ok_iff]
    constructor
    · rintro ⟨octets, taken, following, spells, bodyEq, rfl, used⟩
      refine ⟨used.trans spells.length_taken, octets, ?_, bodyEq⟩
      rw [used, List.take_left]
      exact spells
    · rintro ⟨used, octets, spells, bodyEq⟩
      exact ⟨octets, _, _, spells, bodyEq, (List.take_append_drop _ _).symm,
        used.trans spells.length_taken.symm⟩

-- The span would end past all 32-bit numbers, which the reader must not lose by wrapping.
example : readSpan [255, 255, 255, 255, 1, 2, 3] = .error .badLength := by decide

end Wayland.Wire
