import Mathlib.Data.List.Forall2
import Wayland.Proofs.Wire.Inverse

/-!
Contract: equality of values, and what a payload tells of them.

Owns:
- that two values are equal on the wire exactly if they are the same one, of an assigned class;
- that payloads are the same exactly if the values that reach the peer are;
- that lists of values which carry nothing but what travels are equal on the wire exactly if they are
  encoded to the same payload.

Does not own: values that are not encoded.
-/

namespace Wayland.Wire

open Wayland.Text

/-! ## Values -/

namespace Argument

/-- Equality of wire values is equality, save that values of unassigned classes equal nothing. -/
theorem wireEqual_iff
    {left right : Argument} :
    left.wireEqual right = true ↔ left = right ∧ left.kind.IsAssigned := by
  constructor
  · intro equal
    unfold wireEqual at equal
    split at equal
    · exact ⟨by simpa using equal, by simp [Kind.IsAssigned, kind]⟩
    · exact ⟨by simpa using equal, by simp [Kind.IsAssigned, kind]⟩
    · exact ⟨by simpa using equal, by simp [Kind.IsAssigned, kind]⟩
    · exact ⟨by simpa using equal, by simp [Kind.IsAssigned, kind]⟩
    · exact ⟨by simpa using equal, by simp [Kind.IsAssigned, kind]⟩
    · exact ⟨by simpa [and_assoc] using equal, by simp [Kind.IsAssigned, kind]⟩
    · exact ⟨by simpa using equal, by simp [Kind.IsAssigned, kind]⟩
    · exact ⟨by simpa using equal, by simp [Kind.IsAssigned, kind]⟩
    · cases equal
  · rintro ⟨rfl, assigned⟩
    exact wireEqual_self assigned

/-- A new object whose interface the slot names carries neither an interface nor a version. -/
def Settled
    (slot : Slot)
    (value : Argument) : Prop :=
  ∀ id interface version, value = .newId id interface version → slot.interface ≠ "" →
    interface = [] ∧ version = 0

variable {slot : Slot} {value : Argument}

theorem kind_carried
    (slot : Slot)
    (value : Argument) :
    (value.carried slot).kind = value.kind := by
  cases value with
  | newId id interface version =>
      simp only [carried]
      split
      · rfl
      · rfl
  | _ => rfl

theorem isMeasured_carried
    (slot : Slot)
    (value : Argument) :
    (value.carried slot).isMeasured = value.isMeasured := by
  cases value with
  | newId id interface version =>
      simp only [carried]
      split
      · rfl
      · rfl
  | _ => rfl

/-- What does not reach the peer is not written either. -/
theorem segment_carried
    (site : Site)
    (slot : Slot)
    (value : Argument) :
    (value.carried slot).segment site slot = value.segment site slot := by
  cases value with
  | newId id interface version =>
      simp only [carried]
      by_cases dynamic : slot.isDynamic = true
      · rw [if_pos dynamic]
      · rw [if_neg dynamic]
        simp [segment, dynamic]
  | _ => rfl

/-- A settled value reaches the peer as it is. -/
theorem Settled.carried_eq
    (settled : value.Settled slot)
    (sameKind : value.kind = slot.kind) :
    value.carried slot = value := by
  cases value with
  | newId id interface version =>
      simp only [carried]
      by_cases dynamic : slot.isDynamic = true
      · rw [if_pos dynamic]
      · rw [if_neg dynamic]
        have named : slot.interface ≠ "" := by
          intro isOpen
          apply dynamic
          simp [Slot.isDynamic, isOpen, ← sameKind, kind]
        obtain ⟨rfl, rfl⟩ := settled id interface version rfl named
        rfl
  | _ => rfl

theorem isAssigned_of_segment
    {site : Site}
    {segment : Payload}
    (written : value.segment site slot = .ok segment) :
    value.kind.IsAssigned := by
  intro code
  cases value with
  | unassigned code => cases written
  | _ => simp [kind]

end Argument

/-! ## Lists of values -/

section Lists

variable {message : String} {produced payload : Payload} {slots : List Slot}
variable {signature : Signature} {values left right : List Argument}

/-- Every value that is encoded is of the class of its slot, which is assigned. -/
theorem kinds_of_encodeFrom
    (sameLength : values.length = slots.length)
    (encoded : encodeFrom message produced slots values = .ok payload) :
    List.Forall₂ (fun slot value => value.kind = slot.kind ∧ value.kind.IsAssigned) slots
      values := by
  induction slots generalizing produced values with
  | nil =>
      obtain rfl : values = [] := List.length_eq_zero_iff.mp sameLength
      exact .nil
  | cons slot slots inductionHypothesis =>
      cases values with
      | nil => cases sameLength
      | cons value values =>
          simp only [encodeFrom] at encoded
          split at encoded
          · cases encoded
          · rename_i sameKind
            split at encoded
            · cases encoded
            · rename_i written
              split at encoded
              · cases encoded
              · exact .cons
                  ⟨Decidable.not_not.mp sameKind, Argument.isAssigned_of_segment written⟩
                  (inductionHypothesis (Nat.succ.inj sameLength) encoded)

theorem kinds_of_encode
    (encoded : encode signature values = .ok payload) :
    List.Forall₂ (fun slot value => value.kind = slot.kind ∧ value.kind.IsAssigned)
      signature.slots values := by
  unfold encode at encoded
  split at encoded
  · cases encoded
  · rename_i sameLength
    exact kinds_of_encodeFrom (Decidable.not_not.mp sameLength) encoded

theorem encodeFrom_carriedAll
    (message : String)
    (produced : Payload)
    (slots : List Slot)
    (values : List Argument) :
    encodeFrom message produced slots (carriedAll slots values) =
      encodeFrom message produced slots values := by
  induction slots generalizing produced values with
  | nil => simp [encodeFrom]
  | cons slot slots inductionHypothesis =>
      cases values with
      | nil => rfl
      | cons value values =>
          show encodeFrom message produced (slot :: slots)
            (value.carried slot :: carriedAll slots values) = _
          simp only [encodeFrom, Argument.kind_carried, Argument.segment_carried,
            Argument.isMeasured_carried, inductionHypothesis]

/-- The payload is that of the values that reach the peer. -/
theorem encode_carriedAll
    (encoded : encode signature values = .ok payload) :
    encode signature (carriedAll signature.slots values) = .ok payload := by
  have sameLength := (kinds_of_encode encoded).length_eq
  unfold encode at encoded ⊢
  rw [if_neg (by simp [sameLength])] at encoded
  rw [if_neg (by simp [carriedAll, sameLength]), encodeFrom_carriedAll, encoded]

/-- A payload tells the values that reach the peer, and is told by them. -/
theorem payload_eq_iff_carriedAll_eq
    {leftPayload rightPayload : Payload}
    (leftEncoded : encode signature left = .ok leftPayload)
    (rightEncoded : encode signature right = .ok rightPayload) :
    leftPayload = rightPayload ↔
      carriedAll signature.slots left = carriedAll signature.slots right := by
  constructor
  · intro same
    have leftDecoded := decode_encode leftEncoded []
    have rightDecoded := decode_encode rightEncoded []
    rw [same, rightDecoded] at leftDecoded
    injection leftDecoded with decoded
    exact (congrArg Decoded.arguments decoded).symm
  · intro same
    have leftAgain := encode_carriedAll leftEncoded
    rw [same, encode_carriedAll rightEncoded] at leftAgain
    exact (Except.ok.inj leftAgain).symm

/-- Settled values reach the peer as they are. -/
theorem carriedAll_of_settled
    (kinds : List.Forall₂ (fun slot value => value.kind = slot.kind ∧ value.kind.IsAssigned) slots
      values)
    (settled : ∀ pair ∈ slots.zip values, pair.2.Settled pair.1) :
    carriedAll slots values = values := by
  induction kinds with
  | nil => rfl
  | @cons slot value slots values kinds _ inductionHypothesis =>
      rw [List.zip_cons_cons, List.forall_mem_cons] at settled
      show value.carried slot :: carriedAll slots values = value :: values
      rw [settled.1.carried_eq kinds.1, inductionHypothesis settled.2]

/-- Lists of values of assigned classes are equal on the wire, one by one, exactly if they are the
same list. -/
theorem forall₂_wireEqual_iff
    (kinds : List.Forall₂ (fun slot value => value.kind = slot.kind ∧ value.kind.IsAssigned) slots
      left) :
    List.Forall₂ (fun value other => value.wireEqual other = true) left right ↔ left = right := by
  constructor
  · intro equal
    have same : List.Forall₂ Eq left right :=
      equal.imp fun value other isEqual => (Argument.wireEqual_iff.mp isEqual).1
    rwa [List.forall₂_eq_eq_eq] at same
  · rintro rfl
    induction kinds with
    | nil => exact .nil
    | cons kind _ inductionHypothesis =>
        exact .cons (Argument.wireEqual_self kind.2) inductionHypothesis

end Lists

/-- Two lists of values that are encoded under one signature, and in which new objects carry an
interface and a version only where the slot leaves them open, are equal on the wire, value by value,
exactly if they are encoded to the same body with the same descriptors. -/
theorem wireEqual_iff_same_payload
    {signature : Signature}
    {left right : List Argument}
    {leftPayload rightPayload : Payload}
    (leftEncoded : encode signature left = .ok leftPayload)
    (rightEncoded : encode signature right = .ok rightPayload)
    (leftSettled : ∀ pair ∈ signature.slots.zip left, pair.2.Settled pair.1)
    (rightSettled : ∀ pair ∈ signature.slots.zip right, pair.2.Settled pair.1) :
    List.Forall₂ (fun value other => value.wireEqual other = true) left right ↔
      leftPayload.body = rightPayload.body ∧
        leftPayload.descriptors = rightPayload.descriptors := by
  have leftKinds := kinds_of_encode leftEncoded
  have rightKinds := kinds_of_encode rightEncoded
  calc
    List.Forall₂ (fun value other => value.wireEqual other = true) left right
        ↔ left = right := forall₂_wireEqual_iff leftKinds
    _ ↔ carriedAll signature.slots left = carriedAll signature.slots right := by
          rw [carriedAll_of_settled leftKinds leftSettled,
            carriedAll_of_settled rightKinds rightSettled]
    _ ↔ leftPayload = rightPayload := (payload_eq_iff_carriedAll_eq leftEncoded rightEncoded).symm
    _ ↔ leftPayload.body = rightPayload.body ∧
          leftPayload.descriptors = rightPayload.descriptors := by
          cases leftPayload
          cases rightPayload
          simp

/-- A message with two strings, a new object of each sort and a descriptor. -/
def bindSignature : Signature :=
  { name := "bind", slots := [⟨"head", .string, true, ""⟩, ⟨"tail", .string, true, ""⟩,
      ⟨"typed", .newId, false, "wl_output"⟩, ⟨"open", .newId, false, ""⟩, ⟨"fd", .fd, false, ""⟩] }

/-- The values of the message when its two strings are the given ones. -/
def boundValues
    (head tail : Option Bytes) :
    List Argument :=
  [.string head, .string tail, .newId 4 [] 0, .newId 5 [119, 108] 3, .fd 7]

/-- A byte that moves from one string to the next leaves the length of the payload as it is, and the
two payloads differ all the same. -/
theorem moved_boundary_is_not_equal :
    ∃ left right,
      encode bindSignature (boundValues (some [97, 98]) (some [99])) = .ok left ∧
      encode bindSignature (boundValues (some [97]) (some [98, 99])) = .ok right ∧
      (∀ head tail, ∀ pair ∈ bindSignature.slots.zip (boundValues head tail),
        pair.2.Settled pair.1) ∧
      left.body.length = right.body.length ∧
      (List.Forall₂ (fun value other => value.wireEqual other = true)
          (boundValues (some [97, 98]) (some [99])) (boundValues (some [97]) (some [98, 99])) ↔
        left.body = right.body ∧ left.descriptors = right.descriptors) ∧
      left.body ≠ right.body := by
  have settled : ∀ head tail, ∀ pair ∈ bindSignature.slots.zip (boundValues head tail),
      pair.2.Settled pair.1 := by
    intro head tail
    simp [bindSignature, boundValues, Argument.Settled]
  exact ⟨_, _, rfl, rfl, settled, rfl,
    wireEqual_iff_same_payload rfl rfl (settled _ _) (settled _ _), by decide⟩

end Wayland.Wire
