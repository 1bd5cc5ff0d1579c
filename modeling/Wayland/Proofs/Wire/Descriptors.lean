import Wayland.Proofs.Wire.Grammar

/-!
Contract: the descriptors of message bodies.

Owns:
- the descriptors among a list of values, and what is left of a value without its descriptor;
- encoding puts exactly the descriptors of the values beside the body;
- decoding takes the first descriptors, one for each that a value holds, and decodes the same values
  but for them from the same body, whatever descriptors stand beside it.

Does not own: which descriptors stand beside a body that arrives.
-/

namespace Wayland.Wire

open Wayland.Text

namespace Argument

def descriptor? : Argument → Option Int
  | .fd descriptor => some descriptor
  | _ => none

def bare : Argument → Argument
  | .fd _ => .fd 0
  | value => value

theorem descriptor?_of_kind_ne
    {value : Argument}
    (notDescriptor : value.kind ≠ .fd) :
    value.descriptor? = none := by
  cases value with
  | fd descriptor => exact absurd rfl notDescriptor
  | _ => rfl

theorem bare_of_kind_ne
    {value : Argument}
    (notDescriptor : value.kind ≠ .fd) :
    value.bare = value := by
  cases value with
  | fd descriptor => exact absurd rfl notDescriptor
  | _ => rfl

theorem kind_bare
    (value : Argument) :
    value.bare.kind = value.kind := by
  cases value <;> rfl

theorem kind_eq_of_bare
    {left right : Argument}
    (sameBare : left.bare = right.bare) :
    left.kind = right.kind := by
  rw [← kind_bare left, sameBare, kind_bare]

/-- A value is told by its descriptor and what is left of it. -/
theorem eq_of_bare
    {left right : Argument}
    (sameBare : left.bare = right.bare)
    (sameDescriptor : left.descriptor? = right.descriptor?) :
    left = right := by
  have sameKind := kind_eq_of_bare sameBare
  by_cases notDescriptor : left.kind = .fd
  · cases left with
    | fd descriptor =>
        cases right with
        | fd other => simpa [descriptor?] using sameDescriptor
        | _ => cases sameKind
    | _ => cases notDescriptor
  · rwa [bare_of_kind_ne notDescriptor, bare_of_kind_ne (sameKind ▸ notDescriptor)] at sameBare

/-- A value takes no descriptor up when it is carried. -/
theorem descriptor?_carried
    (slot : Slot)
    (value : Argument) :
    (value.carried slot).descriptor? = value.descriptor? := by
  cases value with
  | newId id interface version =>
      simp only [carried]
      split <;> rfl
  | _ => rfl

end Argument

/-- The descriptors that values hold, in order. -/
def descriptorsOf
    (values : List Argument) :
    List Int :=
  values.filterMap Argument.descriptor?

theorem descriptorsOf_cons
    (value : Argument)
    (values : List Argument) :
    descriptorsOf (value :: values) = value.descriptor?.toList ++ descriptorsOf values := by
  unfold descriptorsOf
  cases held : value.descriptor? <;> simp [held]

/-- Values are told by their descriptors and what is left of them. -/
theorem eq_of_map_bare
    {left right : List Argument}
    (sameBare : left.map Argument.bare = right.map Argument.bare)
    (sameDescriptors : descriptorsOf left = descriptorsOf right) :
    left = right := by
  induction left generalizing right with
  | nil => exact (List.map_eq_nil_iff.mp sameBare.symm).symm
  | cons value values inductionHypothesis =>
      obtain ⟨other, others, rfl, valueBare, restBare⟩ := List.map_eq_cons_iff.mp sameBare.symm
      rw [descriptorsOf_cons, descriptorsOf_cons] at sameDescriptors
      have sameKind := Argument.kind_eq_of_bare valueBare
      have sameCount : value.descriptor?.toList.length = other.descriptor?.toList.length := by
        cases value <;> cases other <;> first | rfl | cases sameKind
      obtain ⟨sameFirst, sameRest⟩ := List.append_inj sameDescriptors sameCount
      have sameDescriptor : value.descriptor? = other.descriptor? := by
        simpa using congrArg List.head? sameFirst
      rw [Argument.eq_of_bare valueBare.symm sameDescriptor,
        inductionHypothesis restBare.symm sameRest]

theorem descriptorsOf_carriedAll
    {slots : List Slot}
    {values : List Argument}
    (sameLength : values.length = slots.length) :
    descriptorsOf (carriedAll slots values) = descriptorsOf values := by
  induction slots generalizing values with
  | nil =>
      rw [List.length_eq_zero_iff.mp sameLength]
      rfl
  | cons slot slots inductionHypothesis =>
      cases values with
      | nil => cases sameLength
      | cons value values =>
          simp only [carriedAll, List.zipWith_cons_cons] at *
          rw [descriptorsOf_cons, descriptorsOf_cons, Argument.descriptor?_carried,
            inductionHypothesis (by simpa using sameLength)]

section Bodies

variable {slots : List Slot} {values : List Argument} {octets : List Octet}
variable {taken others : List Int}

/-- The descriptors that spell the values of a message are those that the values hold. -/
theorem Spells.descriptorsOf_eq
    (spells : Spells slots values octets taken) :
    descriptorsOf values = taken := by
  induction spells with
  | done => rfl
  | spelled first _ inductionHypothesis =>
      have notDescriptor := Argument.descriptor?_of_kind_ne (first.kind_eq ▸ first.kind_ne_fd)
      rw [descriptorsOf_cons, notDescriptor, inductionHypothesis]
      rfl
  | descriptor _ _ inductionHypothesis =>
      rw [descriptorsOf_cons, inductionHypothesis]
      rfl

/-- With as many other descriptors, the same octets spell the same values but for these. -/
theorem Spells.with_descriptors
    (spells : Spells slots values octets taken)
    (sameCount : others.length = taken.length) :
    ∃ changed,
      Spells slots changed octets others ∧
        changed.map Argument.bare = values.map Argument.bare := by
  induction spells generalizing others with
  | done =>
      rw [List.length_eq_zero_iff.mp sameCount]
      exact ⟨[], .done, rfl⟩
  | spelled first _ inductionHypothesis =>
      obtain ⟨changed, spells, sameBare⟩ := inductionHypothesis sameCount
      exact ⟨_ :: changed, .spelled first spells, by rw [List.map_cons, List.map_cons, sameBare]⟩
  | descriptor kind _ inductionHypothesis =>
      cases others with
      | nil => cases sameCount
      | cons other others =>
          obtain ⟨changed, spells, sameBare⟩ := inductionHypothesis (by simpa using sameCount)
          refine ⟨.fd other :: changed, .descriptor kind spells, ?_⟩
          rw [List.map_cons, List.map_cons, sameBare]
          rfl

variable {signature : Signature} {body : Bytes} {descriptors : List Int} {decoded other : Decoded}

/-- Decoding takes the first descriptors, and the values hold just these. -/
theorem decode_descriptors
    (isDecoded : decode signature ⟨body, descriptors⟩ = .ok decoded) :
    decoded.descriptorsUsed = (descriptorsOf decoded.arguments).length ∧
      descriptors =
        descriptorsOf decoded.arguments ++ descriptors.drop decoded.descriptorsUsed := by
  obtain ⟨octets, taken, following, spells, -, rfl, used⟩ := decode_eq_ok_iff.mp isDecoded
  rw [spells.descriptorsOf_eq, used, List.drop_left]
  exact ⟨rfl, rfl⟩

/-- Whatever descriptors stand beside it, a body is decoded to the same values but for these, and as
many are taken. -/
theorem decode_bare
    (isDecoded : decode signature ⟨body, descriptors⟩ = .ok decoded)
    (otherDecoded : decode signature ⟨body, others⟩ = .ok other) :
    other.arguments.map Argument.bare = decoded.arguments.map Argument.bare ∧
      other.descriptorsUsed = decoded.descriptorsUsed := by
  obtain ⟨octets, taken, -, spells, bodyEq, -, used⟩ := decode_eq_ok_iff.mp isDecoded
  obtain ⟨_, otherTaken, otherFollowing, otherSpells, -, othersEq, otherUsed⟩ :=
    decode_eq_ok_iff.mp otherDecoded
  have sameCount : otherTaken.length = taken.length := by
    rw [otherSpells.length_taken, spells.length_taken]
  obtain ⟨changed, changedSpells, sameBare⟩ := spells.with_descriptors sameCount
  -- The same body, read with the other descriptors, has only one reading.
  have again : decode signature ⟨body, others⟩ = .ok ⟨changed, otherTaken.length⟩ :=
    decode_eq_ok_iff.mpr ⟨octets, otherTaken, otherFollowing, changedSpells, bodyEq, othersEq, rfl⟩
  rw [otherDecoded] at again
  cases again
  exact ⟨sameBare, sameCount.trans used.symm⟩

/-- The descriptors beside an encoded body are those of its values. -/
theorem encode_descriptors
    {payload : Payload}
    (encoded : encode signature values = .ok payload) :
    payload.descriptors = descriptorsOf values := by
  have sameLength : values.length = signature.slots.length := by
    unfold encode at encoded
    split at encoded
    · cases encoded
    · omega
  obtain ⟨used, taken⟩ := decode_descriptors (decode_encode encoded [])
  simp only [List.append_nil, List.drop_length, descriptorsOf_carriedAll sameLength] at taken
  exact taken

/-- An encoded body, decoded beside whatever descriptors, gives the values that were encoded but for
their descriptors; these are the first ones, as many as were encoded. -/
theorem decode_encoded_body
    {payload : Payload}
    (encoded : encode signature values = .ok payload)
    (isDecoded : decode signature ⟨payload.body, descriptors⟩ = .ok decoded) :
    decoded.arguments.map Argument.bare =
        (carriedAll signature.slots values).map Argument.bare ∧
      decoded.descriptorsUsed = payload.descriptors.length :=
  decode_bare (decode_encode encoded []) isDecoded

end Bodies

end Wayland.Wire
