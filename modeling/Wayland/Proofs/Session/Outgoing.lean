import Wayland.Proofs.Session.Acceptance
import Wayland.Proofs.Session.Identity
import Wayland.Proofs.Session.Wear

/-!
Contract: that a message which is sent is what was asked for.

Owns:
- the cells that new objects take and the target of a destructor leaves: no other cell changes;
- frames that carry arguments to an object;
- the objects that a message makes, each as its value asked for it;
- that sending appends one frame, which carries the values as they were passed.

Does not own: how the frame is received.
-/

namespace Wayland.Session

open Wayland.Text
open Wayland.Wire

/-! ## Cells -/

namespace Table

section Cells

variable {side : Side} {table next : Table} {object : Object} {objects : List Object}
variable {id : ObjectId}

/-- A new object changes its own cell only. -/
theorem Takes.cell?_eq
    (takes : Takes side table object next)
    (different : id ≠ object.id) :
    next.cell? id = table.cell? id := by
  cases takes with
  | reused inside stored _ =>
      rw [cell?_replace_set inside (List.getElem?_eq_some_iff.mp stored).1, if_neg different]
  | fresh inside atEnd _ =>
      rw [cell?_replace]
      split
      · rename_i otherInside
        have apart := index_ne otherInside inside different
        rw [atEnd] at apart
        unfold extent at apart
        rw [cell?_of_side otherInside, List.getElem?_append]
        split
        · rfl
        · rename_i past
          rw [List.getElem?_eq_none (by rw [List.length_singleton]; omega),
            List.getElem?_eq_none (by omega)]
      · rfl

/-- New objects change their own cells only. -/
theorem TakesAll.cell?_eq
    (takesAll : TakesAll side table objects next)
    (different : ∀ object ∈ objects, object.id ≠ id) :
    next.cell? id = table.cell? id := by
  induction takesAll with
  | start => rfl
  | step _ takes inductionHypothesis =>
      rw [List.forall_mem_append] at different
      rw [takes.cell?_eq (different.2 _ List.mem_cons_self).symm]
      exact inductionHypothesis different.1

/-- Destroying an object changes its own cell only. -/
theorem cell?_destroy_of_ne
    {other : ObjectId}
    (different : other ≠ id) :
    (table.destroy id).cell? other = table.cell? other := by
  rcases destroy_cases table id with unchanged | ⟨side, object, generation, inside, stored, destroyed⟩
  · rw [unchanged]
  · rw [destroyed, cell?_replace_set inside (List.getElem?_eq_some_iff.mp stored).1,
      if_neg different]

/-- The cell of an object that is destroyed says so. -/
theorem cell?_destroy
    {session : Nat}
    (wellFormed : table.WellFormed session)
    (live : table.status id = .live object) :
    (table.destroy id).cell? id =
      (table.cell? id).map fun cell => { cell with occupant := .destroyed } := by
  have turned := (turns_destroy wellFormed live).status_eq id
  rcases destroy_cases table id with unchanged | ⟨side, former, generation, inside, stored, destroyed⟩
  · rw [unchanged, live] at turned
    simp at turned
  · rw [destroyed, cell?_replace_set inside (List.getElem?_eq_some_iff.mp stored).1, if_pos rfl,
      cell?_of_side inside, stored]
    rfl

end Cells

end Table

/-! ## Frames -/

/-- A frame carries arguments to an object under a signature: it is whole and within the limit, it is
cut off whatever follows it, and its body is read as the arguments with its own descriptors. -/
structure FrameCarries
    (sender : ObjectId)
    (opcode : UInt16)
    (signature : Signature)
    (arguments : List Argument)
    (bytes : Bytes)
    (descriptors : List Int) : Prop where
  aligned : bytes.length % 4 = 0
  within : bytes.length ≤ maxMessageSize
  cut : ∃ body,
    (∀ rest, Frame.split (bytes ++ rest) =
      .ok (⟨⟨sender, opcode, UInt16.ofNat bytes.length⟩, body⟩, rest)) ∧
      Wire.decode signature ⟨body, descriptors⟩ = .ok ⟨arguments, descriptors.length⟩

/-- A framed body takes the header and itself, within the limit. -/
theorem length_frame
    {sender : ObjectId}
    {opcode : UInt16}
    {body bytes : Bytes}
    (framed : Frame.encode sender opcode body = .ok bytes) :
    bytes.length = headerSize + body.length ∧ bytes.length ≤ maxMessageSize := by
  obtain ⟨within, rfl⟩ := Frame.encode_eq_ok_iff.mp framed
  rw [List.length_append, Header.length_encode]
  exact ⟨rfl, within⟩

/-- Encoded values that were framed are carried as they reach the peer. -/
theorem frameCarries_of_encode
    {sender : ObjectId}
    {opcode : UInt16}
    {signature : Signature}
    {values : List Argument}
    {payload : Payload}
    {bytes : Bytes}
    (encoded : Wire.encode signature values = .ok payload)
    (framed : Frame.encode sender opcode payload.body = .ok bytes) :
    FrameCarries sender opcode signature (carriedAll signature.slots values) bytes
      payload.descriptors := by
  have aligned := length_encode_mod encoded
  obtain ⟨length, within⟩ := length_frame framed
  refine ⟨?_, within, payload.body, ?_, ?_⟩
  · rw [length, headerSize]
    omega
  · intro rest
    rw [length]
    exact Frame.split_encode_append framed aligned rest
  · have read := decode_encode encoded []
    rwa [List.append_nil] at read

/-! ## Objects -/

/-- A new object is what a value asked for: an object of the registered interface, at the version
asked for as far as the interface goes, and at version 1 at least. -/
structure Answers
    (session : Session)
    (target : Object)
    (pair : Slot × Passed)
    (object : Object) : Prop where
  asked : ∃ name version known,
    pair.2.value = .newId 0 name version ∧
      session.known? (wantedName pair.1 name) = some (known, object.interface) ∧
        object.version =
          min (wantedVersion pair.1 target.version version) object.interface.version
  positive : 1 ≤ object.version

/-- The objects made for completed values answer those that ask for one, in order. -/
theorem Completes.answers
    {session : Session}
    {target : Object}
    {pairs : List (Slot × Passed)}
    {values : List Argument}
    {objects : List Object}
    (completes : Completes session target pairs values objects) :
    List.Forall₂ (Answers session target) (pairs.filter (·.2.value.kind = .newId)) objects := by
  induction completes with
  | done => exact .nil
  | @newId slot name version handle object pairs values objects _ resolved _ inductionHypothesis =>
      obtain ⟨⟨known, found⟩, negotiated, notZero⟩ := resolveNewId_eq_ok_iff.mp resolved
      have positive : 1 ≤ object.version := by
        rw [UInt32.le_iff_toNat_le, UInt32.toNat_one, Nat.one_le_iff_ne_zero]
        exact fun zero => notZero (UInt32.toNat_inj.mp zero)
      rw [List.filter_cons_of_pos (by simp [Argument.kind])]
      exact .cons ⟨⟨name, version, known, rfl, found, negotiated⟩, positive⟩ inductionHypothesis
  | reference _ _ _ inductionHypothesis =>
      rw [List.filter_cons_of_neg (by simp [Argument.kind])]
      exact inductionHypothesis
  | plain _ notNewId _ _ inductionHypothesis =>
      rw [List.filter_cons_of_neg (by simpa using notNewId)]
      exact inductionHypothesis

/-! ## Messages -/

section Sending

variable {session : Session} {transport : Transport} {target : Object} {opcode : UInt16}
variable {passed : List Passed} {created : List Object}

theorem Draft.GrownFrom.wellFormed
    {draft : Draft}
    (grown : draft.GrownFrom session created)
    (wellFormed : session.WellFormed) :
    draft.session.WellFormed := by
  have number : draft.session.number = session.number := by rw [grown.session_eq]
  unfold WellFormed
  rw [number]
  exact grown.growth.wellFormed wellFormed

/-- What a message that is sent went through: its values were completed by objects that took cells,
the completed values were encoded and framed, and the frame was written. -/
theorem sent_parts
    (wellFormed : session.WellFormed)
    (sent : (session.send transport (some target) opcode passed).1.result = .ok created) :
    ∃ (signature : Signature) (draft : Draft) (values : List Argument) (payload : Payload)
        (bytes : Bytes),
      session.Admits target opcode passed signature ∧
        draft.TakenFrom session created ∧
          Completes session target (signature.slots.zip passed) values created ∧
            Wire.encode signature values = .ok payload ∧
              Frame.encode target.id opcode payload.body = .ok bytes ∧
                (session.send transport (some target) opcode passed).1.session =
                    (draft.session.destroyTarget target signature).1 ∧
                  transport.Carries (session.send transport (some target) opcode passed).2 bytes
                    payload.descriptors := by
  obtain ⟨signature, draft, admits, prepared, rfl⟩ := prepared_of_send sent
  have written : session.send transport (some target) opcode passed =
      write draft transport target opcode signature := by
    rw [admits.send_eq, prepared]
  obtain ⟨objects, taken⟩ := prepare_taken wellFormed (.start session) prepared
  have start : Draft.GrownFrom session [] { session } := ⟨rfl, rfl, .start⟩
  obtain ⟨values, made, valuesEq, grown, completes⟩ := prepare_completes wellFormed start prepared
  have createdEq : draft.created.reverse = objects := by
    rw [taken.created_eq, List.reverse_reverse]
  have madeEq : draft.created.reverse = made := by
    rw [grown.created_eq, List.nil_append, List.reverse_reverse]
  rw [← createdEq] at taken
  rw [← madeEq] at completes
  rw [written] at sent ⊢
  rcases write_cases wellFormed taken.toGrownFrom transport target opcode signature with
    ⟨failure, failed, -⟩ | ⟨payload, bytes, encoded, framed, -, next, carries⟩
  · rw [failed] at sent
    cases sent
  · rw [valuesEq, List.append_nil, List.reverse_reverse] at encoded
    exact ⟨signature, draft, values, payload, bytes, admits, taken, completes, encoded, framed, next,
      carries⟩

/-- The cell of an id after a destructor or another message on a live target. -/
theorem cell?_destroyTarget
    (wellFormed : session.WellFormed)
    (live : session.table.status target.id = .live target)
    (signature : Signature)
    (id : ObjectId) :
    (session.destroyTarget target signature).1.table.cell? id =
      if signature.destructor = true ∧ id = target.id then
        (session.table.cell? target.id).map fun cell => { cell with occupant := .destroyed }
      else session.table.cell? id := by
  unfold destroyTarget
  by_cases destructs : signature.destructor = true
  · rw [if_pos destructs]
    by_cases same : id = target.id
    · rw [if_pos ⟨destructs, same⟩, same]
      exact Table.cell?_destroy wellFormed live
    · rw [if_neg fun both => same both.2]
      exact Table.cell?_destroy_of_ne same
  · rw [if_neg destructs, if_neg fun both => destructs both.1]

/-- What is live after a message: everything that was, but for the target of a destructor. -/
theorem isAlive_destroyTarget
    {object : Object}
    (signature : Signature)
    (different : object.id ≠ target.id) :
    (session.destroyTarget target signature).1.isAlive object = session.isAlive object := by
  unfold destroyTarget
  split
  · unfold isAlive Table.lookup
    rw [Table.cell?_destroy_of_ne different]
  · rfl

/-- A message that is sent is what was asked for.  One frame is written, behind what the transport
holds; it is whole and within the limit, and carries the values as they were passed, new objects with
their ids and, in open slots, with their versions.  The objects are returned in the order in which the
values ask for them, are alive, and are what was asked for.  No cell changes but theirs and, by a
destructor, that of the target. -/
theorem sent_message_is_what_was_asked
    {number : Nat}
    {side : Side}
    {operations : List Operation}
    (sent :
      (((fresh number side).performAll operations).send transport (some target) opcode
        passed).1.result = .ok created) :
    ∃ signature bytes descriptors,
      target.interface.message? ((fresh number side).performAll operations).side.sends opcode =
          some signature ∧
        transport.Carries
          (((fresh number side).performAll operations).send transport (some target) opcode passed).2
          bytes descriptors ∧
        FrameCarries target.id opcode signature
          (arrivingArguments signature.slots passed created) bytes descriptors ∧
        List.Forall₂ (Answers ((fresh number side).performAll operations) target)
          ((signature.slots.zip passed).filter (·.2.value.kind = .newId)) created ∧
        (∀ object ∈ created,
          (((fresh number side).performAll operations).send transport (some target) opcode
            passed).1.session.isAlive object = true) ∧
        ∀ id, (∀ object ∈ created, object.id ≠ id) →
          (((fresh number side).performAll operations).send transport (some target) opcode
              passed).1.session.table.cell? id =
            if signature.destructor = true ∧ id = target.id then
              (((fresh number side).performAll operations).table.cell? target.id).map fun cell =>
                { cell with occupant := .destroyed }
            else ((fresh number side).performAll operations).table.cell? id := by
  have wellFormed := (follows_run number side operations).wellFormed
  generalize (fresh number side).performAll operations = session at sent wellFormed ⊢
  obtain ⟨signature, draft, values, payload, bytes, admits, taken, completes, encoded, framed, next,
    carries⟩ := sent_parts wellFormed sent
  have live := status_of_isAlive admits.alive
  have apart : ∀ object ∈ created, object.id ≠ target.id :=
    taken.growth.id_ne (by simp [live])
  have draftWellFormed := taken.toGrownFrom.wellFormed wellFormed
  have draftLive : draft.session.table.status target.id = .live target :=
    (taken.growth.status_of_other apart).trans live
  refine ⟨signature, bytes, payload.descriptors, admits.message, carries, ?_, completes.answers, ?_,
    ?_⟩
  · have arrives := completes.carriedAll_eq
    rw [List.map_fst_zip (Nat.le_of_eq admits.sameLength.symm),
      List.map_snd_zip (Nat.le_of_eq admits.sameLength)] at arrives
    rw [← arrives]
    exact frameCarries_of_encode encoded framed
  · intro object isCreated
    have made := taken.growth.status_of_mem object isCreated
    rw [next, isAlive_destroyTarget signature (apart object isCreated), isAlive_iff]
    exact ⟨draftWellFormed.session_of_live made, made⟩
  · intro id different
    rw [next, cell?_destroyTarget draftWellFormed draftLive, taken.takes.cell?_eq different,
      taken.takes.cell?_eq apart]

end Sending

/-- A clerk copies a file once more and goes. -/
def retire : Signature :=
  { name := "retire"
    destructor := true
    slots :=
      [{ name := "note", kind := .string, nullable := true }, { name := "copy", kind := .newId },
        { name := "original", kind := .object, interface := "file" },
        { name := "pen", kind := .fd }] }

def clerkInterface : Interface :=
  { name := "clerk", version := 3, requests := [retire] }

def fileInterface : Interface :=
  { name := "file", version := 2 }

def office : List Operation :=
  [.register fileInterface, .bind 1 clerkInterface 3, .bind 2 fileInterface 1]

def clerk : Object :=
  ⟨0, 0, 1, clerkInterface, 3, 1⟩

/-- The copy has the version of the interface, though a later one is asked for. -/
def copy : Object :=
  ⟨0, 2, 3, fileInterface, 2, 1⟩

def lastWill : List Passed :=
  [⟨.string (some (Bytes.ofText "bye")), none⟩, ⟨.newId 0 (Bytes.ofText "file") 5, none⟩,
    ⟨.object 2, none⟩, ⟨.fd 9, none⟩]

theorem clerk_retires :
    (((fresh 0 .client).performAll office).send {} (some clerk) 0 lastWill).1.result =
        .ok [copy] ∧
      (∃ bytes descriptors,
        (((fresh 0 .client).performAll office).send {} (some clerk) 0 lastWill).2.bytes = bytes ∧
          FrameCarries 1 0 retire
            [.string (some (Bytes.ofText "bye")), .newId 3 (Bytes.ofText "file") 2, .object 2, .fd 9]
            bytes descriptors) ∧
        (((fresh 0 .client).performAll office).send {} (some clerk) 0
            lastWill).1.session.isAlive copy = true ∧
          (((fresh 0 .client).performAll office).send {} (some clerk) 0
              lastWill).1.session.table.cell? 1 = some ⟨.destroyed, 1⟩ ∧
            (((fresh 0 .client).performAll office).send {} (some clerk) 0
                lastWill).1.session.table.cell? 2 =
              ((fresh 0 .client).performAll office).table.cell? 2 := by
  have sent : (((fresh 0 .client).performAll office).send {} (some clerk) 0 lastWill).1.result =
      .ok [copy] := by decide
  have sideEq : ((fresh 0 .client).performAll office).side = .client := by decide
  have standing : ((fresh 0 .client).performAll office).table.cell? 1 =
      some ⟨.live clerk, 1⟩ := by decide
  obtain ⟨signature, bytes, descriptors, isMessage, carries, frame, -, alive, cells⟩ :=
    sent_message_is_what_was_asked sent
  rw [sideEq] at isMessage
  cases isMessage
  refine ⟨sent, ⟨bytes, descriptors, carries.1, frame⟩, alive copy List.mem_cons_self, ?_, ?_⟩
  · rw [cells 1 (by decide), if_pos ⟨rfl, rfl⟩]
    exact congrArg (Option.map _) standing
  · rw [cells 2 (by decide), if_neg (by decide)]

end Wayland.Session
