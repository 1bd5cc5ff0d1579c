import Wayland.Proofs.Wire.Grammar

/-!
Contract: encoding and decoding undo each other.

Owns:
- decoding of an encoded body: every value comes back, as far as it travels;
- encoding of decoded values: the body comes back with its filler cleared, or an interface name is
  missing.

Does not own: which bodies are decoded.
-/

namespace Wayland.Wire

open Wayland.Text

/-- A value of an assigned class is equal to itself on the wire. -/
theorem Argument.wireEqual_self
    {value : Argument}
    (assigned : value.kind.IsAssigned) :
    value.wireEqual value = true := by
  cases value with
  | unassigned code => exact absurd rfl (assigned code)
  | _ => simp [wireEqual]

/-- Only values of assigned classes are spelled. -/
theorem Spells.value_assigned
    {slots : List Slot}
    {values : List Argument}
    {octets : List Octet}
    {taken : List Int}
    (spells : Spells slots values octets taken) :
    ∀ value ∈ values, value.kind.IsAssigned := by
  have assigned := spells.assigned
  induction spells with
  | done => simp
  | spelled first _ inductionHypothesis =>
      obtain ⟨firstAssigned, othersAssigned⟩ := List.forall_mem_cons.mp assigned
      rw [← first.kind_eq] at firstAssigned
      exact List.forall_mem_cons.mpr ⟨firstAssigned, inductionHypothesis othersAssigned⟩
  | descriptor kind _ inductionHypothesis =>
      obtain ⟨-, othersAssigned⟩ := List.forall_mem_cons.mp assigned
      refine List.forall_mem_cons.mpr ⟨?_, inductionHypothesis othersAssigned⟩
      intro code
      simp [Argument.kind]

theorem Spells.length_values
    {slots : List Slot}
    {values : List Argument}
    {octets : List Octet}
    {taken : List Int}
    (spells : Spells slots values octets taken) :
    values.length = slots.length := by
  induction spells with
  | done => rfl
  | spelled _ _ inductionHypothesis => simp [inductionHypothesis]
  | descriptor _ _ inductionHypothesis => simp [inductionHypothesis]

/-- A body that was encoded is decoded whatever descriptors follow its own, which are all used, and
the value of every slot is equal to the one given, as far as that travels. -/
theorem decode_encode_wireEqual
    {signature : Signature}
    {values : List Argument}
    {payload : Payload}
    (encoded : encode signature values = .ok payload)
    (extra : List Int) :
    ∃ decoded : Decoded,
      decode signature ⟨payload.body, payload.descriptors ++ extra⟩ = .ok decoded ∧
        decoded.descriptorsUsed = payload.descriptors.length ∧
          decoded.arguments.length = signature.slots.length ∧
            ∀ (index : Nat) (slot : Slot) (value : Argument),
              signature.slots[index]? = some slot → values[index]? = some value →
                ∃ argument,
                  decoded.arguments[index]? = some argument ∧
                    argument.wireEqual (value.carried slot) = true := by
  have isDecoded := decode_encode encoded extra
  obtain ⟨octets, taken, following, spells, -, -, -⟩ := decode_eq_ok_iff.mp isDecoded
  refine ⟨_, isDecoded, rfl, spells.length_values, ?_⟩
  intro index slot value atSlot atValue
  have atArgument : (carriedAll signature.slots values)[index]? = some (value.carried slot) := by
    simp [carriedAll, List.getElem?_zipWith, atSlot, atValue]
  refine ⟨_, atArgument, Argument.wireEqual_self ?_⟩
  exact spells.value_assigned _ (List.mem_of_getElem? atArgument)

/-- A message with a slot of every assigned class. -/
def sampler : Signature :=
  { name := "sample"
    slots :=
      [{ name := "delta", kind := .int },
        { name := "count", kind := .uint },
        { name := "scale", kind := .fixed },
        { name := "title", kind := .string, nullable := true },
        { name := "label", kind := .string },
        { name := "parent", kind := .object, nullable := true },
        { name := "sibling", kind := .object },
        { name := "lamp", kind := .newId, interface := "lamp" },
        { name := "thing", kind := .newId },
        { name := "keys", kind := .array },
        { name := "pipe", kind := .fd }] }

/-- Values for every slot; the new lamp carries an interface and a version that do not travel. -/
def samples : List Argument :=
  [.int (-5), .uint 7, .fixed ⟨384⟩, .string none, .string (some [104, 105]), .object 0, .object 3,
    .newId 4 [120] 9, .newId 5 [108, 97, 109, 112] 2, .array [1, 2, 3, 4, 5], .fd 9]

/-- All samples come back, the new lamp without what does not travel. -/
theorem samples_come_back :
    ∃ payload decoded,
      encode sampler samples = .ok payload ∧
        decode sampler ⟨payload.body, payload.descriptors ++ [10, 11]⟩ = .ok decoded ∧
          decoded.descriptorsUsed = payload.descriptors.length ∧
            decoded.arguments.length = 11 ∧
              (∃ argument,
                decoded.arguments[3]? = some argument ∧ argument.wireEqual (.string none) = true) ∧
                ∃ argument,
                  decoded.arguments[7]? = some argument ∧
                    argument.wireEqual (.newId 4 [] 0) = true := by
  have encoded : encode sampler samples = .ok ⟨_, _⟩ := rfl
  obtain ⟨decoded, isDecoded, used, sameLength, equal⟩ :=
    decode_encode_wireEqual encoded [10, 11]
  exact ⟨_, decoded, encoded, isDecoded, used, sameLength, equal 3 _ _ rfl rfl,
    equal 7 _ _ rfl rfl⟩

section Rewriting

variable {slot : Slot} {value : Argument} {octets : List Octet}

/-- A span is written as it is spelled, with its filler cleared. -/
theorem Span.Spells.encode_eq
    {content : Bytes}
    (spells : Span.Spells content octets) :
    Span.encode content = octets.map Octet.cleared := by
  cases spells with
  | @padded length content filler contentLength fillerLength =>
      rw [contentLength] at fillerLength
      simp [Span.encode, contentLength, fillerLength, List.map_const']

/-- A string that fits into a message is written as it is spelled, with its filler cleared. -/
theorem StringSpells.stringSegment_eq
    {content : Bytes}
    (spells : StringSpells (some content) octets)
    (short : headerSize + octets.length ≤ maxMessageSize) :
    stringSegment content = .ok (octets.map Octet.cleared) := by
  cases spells with
  | present noOtherZero spells =>
      have length : 4 + (content.length + 1) ≤ octets.length := by
        have cleared := congrArg List.length spells.encode_eq
        rw [Span.length_encode, List.length_map, List.length_append, List.length_singleton] at cleared
        omega
      unfold stringSegment
      rw [if_neg (by simpa using noOtherZero), if_neg (by omega), spells.encode_eq]

/-- A new object of open interface that has no interface name. -/
def Argument.Nameless
    (slot : Slot)
    (value : Argument) : Prop :=
  slot.isDynamic = true ∧ ∃ id version, value = .newId id [] version

def LacksName
    (slots : List Slot)
    (values : List Argument) : Prop :=
  ∃ pair ∈ slots.zip values, pair.2.Nameless pair.1

theorem lacksName_cons_iff
    {slots : List Slot}
    {values : List Argument} :
    LacksName (slot :: slots) (value :: values) ↔
      value.Nameless slot ∨ LacksName slots values := by
  simp [LacksName]

/-- A value that fits into a message is written as it is spelled, with its filler cleared, unless an
interface name is missing. -/
theorem Slot.Spells.segment_eq
    (spells : slot.Spells value octets)
    (short : headerSize + octets.length ≤ maxMessageSize)
    (named : ¬value.Nameless slot)
    (site : Site) :
    value.segment site slot = .ok { body := octets.map Octet.cleared } := by
  cases spells with
  | int kind | uint kind | fixed kind => simp [Argument.segment]
  | @string content octets kind spells allowed =>
      cases content with
      | none =>
          cases spells with
          | absent spells =>
              have null : Span.encode [] = Word.encode 0 := rfl
              simp [Argument.segment, allowed rfl, ← spells.encode_eq, null]
      | some content => simp [Argument.segment, spells.stringSegment_eq short]
  | @object id kind allowed =>
      have accepted : ¬(id = 0 ∧ slot.nullable = false) := by simpa using allowed
      simp only [Argument.segment, Word.map_cleared_octets]
      rw [if_neg accepted]
  | typedNewId kind isTyped present =>
      have typed : slot.isDynamic = false := by simp [Slot.isDynamic, isTyped]
      simp [Argument.segment, typed, present]
  | @openNewId id name version octets kind isOpen spells present =>
      have dynamic : slot.isDynamic = true := by simp [Slot.isDynamic, kind, isOpen]
      have notEmpty : name ≠ [] := by
        rintro rfl
        exact named ⟨dynamic, id, version, rfl⟩
      have nameShort : headerSize + octets.length ≤ maxMessageSize := by
        simp only [List.length_append] at short
        omega
      simp [Argument.segment, present, dynamic, notEmpty, spells.stringSegment_eq nameShort]
  | array kind spells => simp [Argument.segment, spells.encode_eq]

/-- A nameless object is refused once everything else about it is accepted. -/
theorem Slot.Spells.segment_of_nameless
    (spells : slot.Spells value octets)
    (nameless : value.Nameless slot)
    (site : Site) :
    value.segment site slot = .error (.missingInterface site) := by
  obtain ⟨dynamic, id, version, rfl⟩ := nameless
  cases spells with
  | typedNewId kind isTyped present => simp [Slot.isDynamic, isTyped] at dynamic
  | openNewId kind isOpen spells present => simp [Argument.segment, present, dynamic]

end Rewriting

/-- A value whose segment fits is put behind what was produced so far. -/
theorem encodeFrom_cons_of_segment
    {message : String}
    {produced added : Payload}
    {slot : Slot}
    {slots : List Slot}
    {value : Argument}
    {values : List Argument}
    (sameKind : value.kind = slot.kind)
    (segment : value.segment ⟨message, slot.name⟩ slot = .ok added)
    (short : headerSize + produced.body.length + added.body.length ≤ maxMessageSize) :
    encodeFrom message produced (slot :: slots) (value :: values) =
      encodeFrom message
        ⟨produced.body ++ added.body, produced.descriptors ++ added.descriptors⟩ slots values := by
  have within : ¬(value.isMeasured &&
      decide (headerSize + (produced.body ++ added.body).length > maxMessageSize)) = true := by
    simp only [List.length_append, Bool.and_eq_true, decide_eq_true_eq]
    omega
  rw [encodeFrom, if_neg (Decidable.not_not.mpr sameKind), segment]
  simp only
  rw [if_neg within]

section Values

variable {slots : List Slot} {values : List Argument} {octets : List Octet} {taken : List Int}

/-- Values that fit behind what was produced so far are written as they are spelled, with the filler
cleared, unless one of them is nameless. -/
theorem Spells.encodeFrom_cases
    (spells : Spells slots values octets taken)
    (message : String)
    (produced : Payload)
    (short : headerSize + produced.body.length + octets.length ≤ maxMessageSize) :
    (encodeFrom message produced slots values =
        .ok ⟨produced.body ++ octets.map Octet.cleared, produced.descriptors ++ taken⟩ ∧
      ¬LacksName slots values) ∨
    (∃ site, encodeFrom message produced slots values = .error (.missingInterface site)) ∧
      LacksName slots values := by
  induction spells generalizing produced with
  | done => exact Or.inl ⟨by simp [encodeFrom], by simp [LacksName]⟩
  | @spelled slot slots value values octets rest taken first _ inductionHypothesis =>
      rw [List.length_append] at short
      rw [lacksName_cons_iff]
      by_cases nameless : value.Nameless slot
      · refine Or.inr ⟨⟨⟨message, slot.name⟩, ?_⟩, Or.inl nameless⟩
        rw [encodeFrom, if_neg (Decidable.not_not.mpr first.kind_eq),
          first.segment_of_nameless nameless]
      · have segment := first.segment_eq (by omega) nameless ⟨message, slot.name⟩
        rw [encodeFrom_cons_of_segment first.kind_eq segment
          (by simp only [List.length_map]; omega)]
        rcases inductionHypothesis ⟨produced.body ++ octets.map Octet.cleared,
            produced.descriptors ++ []⟩ (by simp only [List.length_append, List.length_map]; omega)
          with ⟨encoded, named⟩ | ⟨failed, missing⟩
        · refine Or.inl ⟨?_, not_or.mpr ⟨nameless, named⟩⟩
          rw [encoded]
          simp
        · exact Or.inr ⟨failed, Or.inr missing⟩
  | @descriptor slot slots descriptor values octets taken kind _ inductionHypothesis =>
      rw [lacksName_cons_iff]
      have named : ¬(Argument.fd descriptor).Nameless slot := by
        rintro ⟨-, id, version, impossible⟩
        cases impossible
      have sameKind : (Argument.fd descriptor).kind = slot.kind := kind.symm
      have segment : (Argument.fd descriptor).segment ⟨message, slot.name⟩ slot =
          .ok { descriptors := [descriptor] } := rfl
      rw [encodeFrom_cons_of_segment sameKind segment (by simp only [List.length_nil]; omega)]
      rcases inductionHypothesis ⟨produced.body ++ [], produced.descriptors ++ [descriptor]⟩
          (by simpa using short) with ⟨encoded, othersNamed⟩ | ⟨failed, missing⟩
      · refine Or.inl ⟨?_, not_or.mpr ⟨named, othersNamed⟩⟩
        rw [encoded]
        simp
      · exact Or.inr ⟨failed, Or.inr missing⟩

end Values

/-- The values of a decoded body that fits into a message are encoded to the same body with its filler
cleared, and to the descriptors that were used; this fails exactly if an object of open interface was
decoded without the name of one, and for that reason. -/
theorem encode_decoded
    {signature : Signature}
    {body : Bytes}
    {descriptors : List Int}
    {decoded : Decoded}
    (isDecoded : decode signature ⟨body, descriptors⟩ = .ok decoded)
    (short : body.length ≤ maxMessageSize - headerSize) :
    (∀ payload, encode signature decoded.arguments = .ok payload →
      payload.descriptors = descriptors.take decoded.descriptorsUsed ∧
        payload.body.length = body.length ∧
          ∃ octets,
            Spells signature.slots decoded.arguments octets payload.descriptors ∧
              body = octets.map Octet.byte ∧ payload.body = octets.map Octet.cleared) ∧
    ((∃ error, encode signature decoded.arguments = .error error) ↔
      LacksName signature.slots decoded.arguments) ∧
    (∀ error, encode signature decoded.arguments = .error error → error.cause = .argumentKind) := by
  obtain ⟨octets, taken, following, spells, rfl, rfl, used⟩ := decode_eq_ok_iff.mp isDecoded
  have fits : headerSize + ([] : Bytes).length + octets.length ≤ maxMessageSize := by
    simp only [List.length_map, headerSize, maxMessageSize] at short
    simp only [List.length_nil, headerSize, maxMessageSize]
    omega
  have sameLength : ¬decoded.arguments.length ≠ signature.slots.length :=
    Decidable.not_not.mpr spells.length_values
  unfold encode
  rw [if_neg sameLength]
  rcases spells.encodeFrom_cases signature.name {} fits with ⟨encoded, named⟩ | ⟨failed, missing⟩
  · rw [encoded, used, List.take_left]
    refine ⟨?_, ?_, ?_⟩
    · rintro payload ⟨⟩
      exact ⟨rfl, by simp, octets, spells, rfl, rfl⟩
    · constructor
      · rintro ⟨error, ⟨⟩⟩
      · intro missing
        exact absurd missing named
    · rintro error ⟨⟩
  · obtain ⟨site, failed⟩ := failed
    rw [failed]
    refine ⟨?_, ⟨fun _ => missing, fun _ => ⟨_, rfl⟩⟩, ?_⟩
    · rintro payload ⟨⟩
    · rintro error ⟨⟩
      rfl

/-- A message with a text, a descriptor, and a new object of open interface. -/
def greeting : Signature :=
  { name := "greet"
    slots :=
      [{ name := "text", kind := .string },
        { name := "pipe", kind := .fd },
        { name := "thing", kind := .newId }] }

/-- A greeting with filler of all sorts behind its text and its interface name. -/
def dirtyGreeting : Bytes :=
  [3, 0, 0, 0, 104, 105, 0, 170, 2, 0, 0, 0, 108, 0, 187, 204, 2, 0, 0, 0, 5, 0, 0, 0]

/-- A greeting whose interface name is empty, which a decoder accepts. -/
def namelessGreeting : Bytes :=
  [3, 0, 0, 0, 104, 105, 0, 0, 1, 0, 0, 0, 0, 1, 2, 3, 2, 0, 0, 0, 5, 0, 0, 0]

/-- The filler of a greeting is cleared, and a nameless greeting is not written again. -/
theorem greeting_is_cleared :
    (decode greeting ⟨dirtyGreeting, [7, 8]⟩ =
        .ok ⟨[.string (some [104, 105]), .fd 7, .newId 5 [108] 2], 1⟩ ∧
      dirtyGreeting.length ≤ maxMessageSize - headerSize ∧
        ∃ octets,
          Spells greeting.slots [.string (some [104, 105]), .fd 7, .newId 5 [108] 2] octets [7] ∧
            dirtyGreeting = octets.map Octet.byte ∧
              [3, 0, 0, 0, 104, 105, 0, 0, 2, 0, 0, 0, 108, 0, 0, 0, 2, 0, 0, 0, 5, 0, 0, 0] =
                octets.map Octet.cleared) ∧
    (decode greeting ⟨namelessGreeting, [7, 8]⟩ =
        .ok ⟨[.string (some [104, 105]), .fd 7, .newId 5 [] 2], 1⟩ ∧
      namelessGreeting.length ≤ maxMessageSize - headerSize ∧
        ∃ error,
          encode greeting [.string (some [104, 105]), .fd 7, .newId 5 [] 2] = .error error ∧
            error.cause = .argumentKind) := by
  constructor
  · have isDecoded : decode greeting ⟨dirtyGreeting, [7, 8]⟩ =
        .ok ⟨[.string (some [104, 105]), .fd 7, .newId 5 [108] 2], 1⟩ := rfl
    have short : dirtyGreeting.length ≤ maxMessageSize - headerSize := by decide
    obtain ⟨written, -, -⟩ := encode_decoded isDecoded short
    obtain ⟨-, -, octets, spells, bodyEq, clearedEq⟩ := written ⟨_, [7]⟩ rfl
    exact ⟨isDecoded, short, octets, spells, bodyEq, clearedEq⟩
  · have isDecoded : decode greeting ⟨namelessGreeting, [7, 8]⟩ =
        .ok ⟨[.string (some [104, 105]), .fd 7, .newId 5 [] 2], 1⟩ := rfl
    have short : namelessGreeting.length ≤ maxMessageSize - headerSize := by decide
    obtain ⟨-, failure, cause⟩ := encode_decoded isDecoded short
    have lacksName : LacksName greeting.slots [.string (some [104, 105]), .fd 7, .newId 5 [] 2] :=
      ⟨_, .tail _ (.tail _ (.head _)), rfl, 5, 2, rfl⟩
    obtain ⟨error, failed⟩ := failure.mpr lacksName
    exact ⟨isDecoded, short, error, failed, cause error failed⟩

end Wayland.Wire
