import Wayland.Wire.Codec

/-!
Contract: bodies that grow in place, behind bytes that are already there.

Owns:
- what each value puts behind a body: the bytes and descriptors of its segment, whatever is there;
- that a message written behind a lead is the one written on its own, moved behind it.

Does not own: what the segments look like, or how large a body may grow.
-/

namespace Wayland.Wire

open Wayland.Text

namespace Payload

/-- A payload with another one behind it. -/
def join
    (front back : Payload) :
    Payload :=
  ⟨front.body ++ back.body, front.descriptors ++ back.descriptors⟩

/-- A payload whose body stands behind a lead. -/
def behind
    (lead : Bytes)
    (payload : Payload) :
    Payload :=
  { payload with body := lead ++ payload.body }

/-- What is put behind a body does not depend on what stands in front of it. -/
theorem join_behind
    (lead : Bytes)
    (front back : Payload) :
    (front.behind lead).join back = (front.join back).behind lead := by
  simp [join, behind]

theorem join_descriptor
    (produced : Payload)
    (descriptor : Int) :
    produced.join { descriptors := [descriptor] } = produced.putDescriptor descriptor := by
  simp [join, putDescriptor]

/-! ## What is put behind a body -/

variable (produced : Payload)

theorem join_body
    (bytes : Bytes) :
    produced.join { body := bytes } = produced.putBytes bytes := by
  simp [join, putBytes]

theorem putBytes_putBytes
    (first second : Bytes) :
    (produced.putBytes first).putBytes second = produced.putBytes (first ++ second) := by
  simp [putBytes]

theorem putZeros_eq
    (count : Nat) :
    produced.putZeros count = produced.putBytes (List.replicate count 0) := by
  induction count generalizing produced with
  | zero => simp [putZeros, putBytes]
  | succ count inductionHypothesis =>
      rw [putZeros, inductionHypothesis, putBytes_putBytes, List.replicate_succ,
        List.singleton_append]

/-- The filler goes up to the next multiple of 4 of the span, wherever the body ends. -/
theorem putPadding_eq
    (length : Nat) :
    produced.putPadding length = produced.putBytes (List.replicate (Span.padding length) 0) := by
  have upTo : Span.padded length - length = Span.padding length := by
    unfold Span.padded Span.padding
    omega
  rw [putPadding, putZeros_eq, upTo]

theorem putArray_eq
    (content : Bytes) :
    produced.putArray content = produced.putBytes (Span.encode content) := by
  simp only [putArray, putWord, putPadding_eq, putBytes_putBytes, Span.encode, List.append_assoc]

theorem putString_eq
    (content : Bytes) :
    produced.putString content = (stringSegment content).map produced.putBytes := by
  unfold putString stringSegment
  simp only
  split
  · rfl
  · split
    · rfl
    · simp only [putWord, putPadding_eq, putBytes_putBytes, Except.map, Span.encode,
        List.append_assoc, List.length_append, List.length_singleton]

end Payload

/-- A value puts its segment behind the body, or fails as the segment does. -/
theorem Argument.put_eq
    (site : Site)
    (slot : Slot)
    (produced : Payload)
    (value : Argument) :
    value.put site slot produced = (value.segment site slot).map produced.join := by
  cases value with
  | int | uint | fixed =>
      simp only [put, segment, Except.map, Payload.join_body, Payload.putWord]
  | array =>
      simp only [put, segment, Except.map, Payload.join_body, Payload.putArray_eq]
  | fd => simp only [put, segment, Except.map, Payload.join_descriptor]
  | unassigned => rfl
  | object id =>
      simp only [put, segment]
      split
      · rfl
      · simp only [Except.map, Payload.join_body, Payload.putWord]
  | string content =>
      cases content with
      | none =>
          simp only [put, segment]
          split
          · simp only [Except.map, Payload.join_body, Payload.putWord]
          · rfl
      | some content =>
          simp only [put, segment, Payload.putString_eq]
          cases stringSegment content with
          | error => rfl
          | ok => simp only [Except.map, Payload.join_body]
  | newId id interface version =>
      simp only [put, segment, Payload.putString_eq]
      split
      · rfl
      · split
        · split
          · rfl
          · cases stringSegment interface with
            | error => rfl
            | ok =>
                simp only [Except.map, Payload.join_body, Payload.putWord,
                  Payload.putBytes_putBytes]
        · simp only [Except.map, Payload.join_body, Payload.putWord]

/-- All values together are put behind a lead as they are written without it: the lead takes part
neither in the bytes of a value nor in the size that is measured. -/
theorem putAll_behind
    (message : String)
    (lead : Bytes)
    (produced : Payload)
    (slots : List Slot)
    (values : List Argument) :
    putAll message lead.length (produced.behind lead) slots values =
      (encodeFrom message produced slots values).map (Payload.behind lead) := by
  induction slots generalizing produced values with
  | nil => cases values <;> rfl
  | cons slot slots inductionHypothesis =>
      cases values with
      | nil => rfl
      | cons value values =>
          simp only [putAll, encodeFrom, Argument.put_eq]
          split
          · rfl
          · cases value.segment ⟨message, slot.name⟩ slot with
            | error => rfl
            | ok segment =>
                -- The lead is part of the grown body and is taken off where its size is measured.
                have measured :
                    headerSize + ((produced.join segment).behind lead).body.length - lead.length =
                      headerSize + (produced.join segment).body.length := by
                  simp only [Payload.behind, List.length_append]
                  omega
                simp only [Except.map, Payload.join_behind, measured]
                show _ = Except.map (Payload.behind lead)
                  (if value.isMeasured && decide
                      (headerSize + (produced.join segment).body.length > maxMessageSize) then
                    .error (.bodyTooLarge message)
                  else encodeFrom message (produced.join segment) slots values)
                split
                · rfl
                · exact inductionHypothesis (produced.join segment) values

/-! ## Messages behind a lead -/

theorem encodeAfter_eq_map
    (lead : Bytes)
    (signature : Signature)
    (values : List Argument) :
    encodeAfter lead signature values = (encode signature values).map (Payload.behind lead) := by
  unfold encodeAfter encode
  split
  · rfl
  · have start : ({ body := lead } : Payload) = ({} : Payload).behind lead := by
      simp [Payload.behind]
    rw [start, putAll_behind]

theorem exists_encode_of_encodeAfter
    {lead : Bytes}
    {signature : Signature}
    {values : List Argument}
    {payload : Payload}
    (encoded : encodeAfter lead signature values = .ok payload) :
    ∃ own, encode signature values = .ok own ∧ payload = own.behind lead := by
  rw [encodeAfter_eq_map] at encoded
  cases own : encode signature values with
  | error error =>
      rw [own] at encoded
      cases encoded
  | ok own' =>
      rw [own] at encoded
      cases encoded
      exact ⟨own', rfl, rfl⟩

/-- A message is written in place exactly if it is written on its own.  Then it stands behind the
lead as it is, with the same descriptors; otherwise both fail with the same error.  So neither the
bytes of the lead nor their number, a multiple of 4 or not, has part in a check, in the filler or in
the limit. -/
theorem encodeAfter_iff_encode
    (lead : Bytes)
    (signature : Signature)
    (values : List Argument) :
    (∀ payload,
        encodeAfter lead signature values = .ok payload ↔
          ∃ own, encode signature values = .ok own ∧ payload.body = lead ++ own.body ∧
            payload.descriptors = own.descriptors) ∧
      ∀ error,
        encodeAfter lead signature values = .error error ↔
          encode signature values = .error error := by
  refine ⟨fun payload => ⟨fun encoded => ?_, ?_⟩, fun error => ?_⟩
  · obtain ⟨own, isOwn, rfl⟩ := exists_encode_of_encodeAfter encoded
    exact ⟨own, isOwn, rfl, rfl⟩
  · rintro ⟨own, isOwn, sameBody, sameDescriptors⟩
    rw [encodeAfter_eq_map, isOwn]
    cases payload
    cases sameBody
    cases sameDescriptors
    rfl
  · rw [encodeAfter_eq_map]
    cases encode signature values with
    | error refused => exact Iff.rfl
    | ok own => simp [Except.map]

end Wayland.Wire
