import Mathlib.Logic.Equiv.Basic
import Wayland.Proofs.Check.Accepted
import Wayland.Proofs.Session.GuiseTraffic
import Wayland.Proofs.Session.World

/-!
Contract: the version of an object is a gate before its messages.

Owns:
- what is left of an object whose interface keeps only the messages that are there at its version;
- that a session with the one object does what a session with the other does, in every operation,
  and refuses what the gate withholds in both;
- that this holds for every object of a checked interface, in every session that ever had it.

Does not own: how messages are ordered in an interface.
-/

namespace Wayland.Session

open Wayland.Text
open Wayland.Wire

/-- The object with only the messages that are there at its version. -/
def Object.gated
    (object : Object) :
    Object :=
  { object with interface := object.interface.upTo object.version }

/-- An opcode selects a message that is not there at the version of the object. -/
def Object.Withholds
    (object : Object)
    (direction : Direction)
    (opcode : UInt16) : Prop :=
  ∃ signature, object.interface.message? direction opcode = some signature ∧
    object.version < signature.since

theorem swap_gated
    {α : Type}
    (field : Object → α)
    {target : Object}
    (common : field target = field target.gated)
    (object : Object) :
    field (Equiv.swap target target.gated object) = field object :=
  Equiv.apply_swap_eq_self common object

/-- Puts what is left of an object in its place. -/
def gate
    (target : Object) :
    Guise where
  -- An exchange, since a handle that only looks like what is left must not pass for the object.
  map := Equiv.swap target target.gated
  injective := (Equiv.swap target target.gated).injective
  session_eq := swap_gated Object.session rfl
  id_eq := swap_gated Object.id rfl
  generation_eq := swap_gated Object.generation rfl
  version_eq := swap_gated Object.version rfl
  name_eq := swap_gated (fun object => object.interface.name) rfl

/-- An operation on handles behind a guise. -/
def Operation.under
    (guise : Guise) :
    Operation → Operation
  | .send transport target opcode values =>
      .send transport (target.map guise.map) opcode (values.map (Passed.under guise))
  | operation => operation

section Gates

variable {target : Object}

theorem gate_target
    (target : Object) :
    (gate target).map target = target.gated :=
  Equiv.swap_apply_left ..

theorem gate_of_ne
    {object : Object}
    (notTarget : object ≠ target)
    (notGated : object ≠ target.gated) :
    (gate target).map object = object :=
  Equiv.swap_apply_of_ne_of_ne notTarget notGated

/-- A gate leaves every object alone that is made after its target. -/
theorem gate_spares
    {session : Session}
    (issued : session.Issued target) :
    (gate target).Spares session := by
  intro object _ counted
  have older := issued.serial_lt
  refine gate_of_ne ?_ ?_ <;> rintro rfl
  · omega
  · have same : target.gated.serial = target.serial := rfl
    omega

theorem message?_gated
    (gradual : target.interface.Gradual)
    {direction : Direction}
    {opcode : UInt16}
    (available : ¬target.Withholds direction opcode) :
    target.gated.interface.message? direction opcode =
      target.interface.message? direction opcode := by
  rw [Object.gated, gradual.message?_upTo]
  cases found : target.interface.message? direction opcode with
  | none => rfl
  | some signature =>
      have since : signature.since ≤ target.version := by
        rw [← UInt32.not_lt]
        exact fun late => available ⟨signature, found, late⟩
      exact Option.filter_some_pos (by simpa using since)

theorem message?_gated_of_withheld
    (gradual : target.interface.Gradual)
    {direction : Direction}
    {opcode : UInt16}
    {signature : Signature}
    (found : target.interface.message? direction opcode = some signature)
    (late : target.version < signature.since) :
    target.gated.interface.message? direction opcode = none := by
  rw [Object.gated, gradual.message?_upTo, found]
  exact Option.filter_some_neg (by simpa using late)

end Gates

/-- A session that issued an object, and that has no other use for what is left of it. -/
structure Gateable
    (number : Nat)
    (session : Session)
    (target : Object) : Prop extends World.Keeps number session where
  gradual : target.interface.Gradual
  issued : session.Issued target
  unused : target.gated = target ∨ session.Dead target.gated

/-- What a session does with an object is what it does with the messages that are there at the version
of the object.  What is not there is refused with and without the gate, though for another reason. -/
structure Gated
    (session : Session)
    (target : Object) : Prop where
  lookup : ∀ id,
    (session.under (gate target)).table.lookup id =
      (session.table.lookup id).map fun object => if object = target then target.gated else object
  send : ∀ transport object opcode values,
    ¬(object = some target ∧ session.isAlive target = true ∧
        target.Withholds session.side.sends opcode) →
      (session.under (gate target)).send transport (object.map (gate target).map) opcode
          (values.map (Passed.under (gate target))) =
        ((session.send transport object opcode values).1.under (gate target) id,
          (session.send transport object opcode values).2)
  send_withheld : ∀ transport opcode values signature, session.isAlive target = true →
    target.interface.message? session.side.sends opcode = some signature →
      target.version < signature.since →
        session.send transport (some target) opcode values =
            (session.refuse (.atObject .caller target (some signature)
              (.versionUnavailable signature.since target.version)), transport) ∧
          (session.under (gate target)).send transport (some target.gated) opcode
              (values.map (Passed.under (gate target))) =
            ((session.under (gate target)).refuse (.atObject .caller target.gated none
              (.unknownOpcode opcode)), transport)
  decode : ∀ inbound,
    ¬(session.table.lookup inbound.sender = some target ∧
        target.Withholds session.side.receives inbound.opcode) →
      (session.under (gate target)).decode inbound =
          (session.decode inbound).under (gate target) (Incoming.under (gate target)) ∧
        ∀ incoming, (session.decode inbound).result = .ok incoming →
          (incoming.under (gate target)).created = incoming.created
  decode_withheld : ∀ inbound signature, session.table.lookup inbound.sender = some target →
    target.interface.message? session.side.receives inbound.opcode = some signature →
      target.version < signature.since →
        session.decode inbound =
            session.refuse (.atObject .peer target (some signature)
              (.versionUnavailable signature.since target.version)) ∧
          (session.under (gate target)).decode inbound =
            (session.under (gate target)).refuse (.atObject .peer target.gated none
              (.unknownOpcode inbound.opcode))
  performAll : ∀ operations : List Operation,
    (session.under (gate target)).performAll (operations.map (Operation.under (gate target))) =
      (session.performAll operations).under (gate target)

theorem isAlive_of_lookup
    {session : Session}
    (wellFormed : session.WellFormed)
    {id : ObjectId}
    {object : Object}
    (found : session.table.lookup id = some object) :
    session.isAlive object = true := by
  have live := Table.lookup_eq_some_iff.mp found
  have id_eq : object.id = id := wellFormed.id_of_live live
  exact isAlive_iff.mpr ⟨wellFormed.session_of_live live, id_eq ▸ live⟩

theorem Outcome.under_congr
    {α : Type}
    (guise : Guise)
    {value other : α → α}
    {outcome : Outcome α}
    (same : ∀ result, outcome.result = .ok result → value result = other result) :
    outcome.under guise value = outcome.under guise other := by
  obtain ⟨session, records, failure | result⟩ := outcome
  · rfl
  · simp only [Outcome.under, Except.map, same result rfl]

/-- A guise leaves alone what a session made. -/
theorem Guise.Spares.map_made
    {guise : Guise}
    {session next : Session}
    {objects : List Object}
    (spares : guise.Spares session)
    (numbers : Numbers session objects next) :
    objects.map guise.map = objects := by
  have fixed : ∀ object ∈ objects, guise.map object = id object := by
    intro object member
    have own := (numbers.issued object member).session_eq.trans numbers.number_eq
    exact spares object own (numbers.serial_ge object member)
  rw [List.map_congr_left fixed, List.map_id]

namespace Gateable

variable {number : Nat} {session : Session} {target : Object}

theorem eq_of_isAlive
    (gateable : Gateable number session target)
    (alive : session.isAlive target.gated = true) :
    target.gated = target := by
  rcases gateable.unused with same | dead
  · exact same
  · rw [dead.isAlive_eq] at alive
    cases alive

/-- A live object other than the target shows the same messages behind the gate, and so does the
target if nothing is withheld. -/
theorem message?_eq
    (gateable : Gateable number session target)
    {object : Object}
    {direction : Direction}
    {opcode : UInt16}
    (alive : session.isAlive object = true)
    (available : ¬(object = target ∧ target.Withholds direction opcode)) :
    ((gate target).map object).interface.message? direction opcode =
      object.interface.message? direction opcode := by
  by_cases isTarget : object = target
  · subst isTarget
    rw [gate_target]
    exact message?_gated gateable.gradual fun withholds => available ⟨rfl, withholds⟩
  · refine congrArg (fun object : Object => object.interface.message? direction opcode) ?_
    refine gate_of_ne isTarget ?_
    rintro rfl
    exact isTarget (gateable.eq_of_isAlive alive)

theorem send
    (gateable : Gateable number session target)
    (transport : Transport)
    (object : Option Object)
    (opcode : UInt16)
    (values : List Passed)
    (available : ¬(object = some target ∧ session.isAlive target = true ∧
      target.Withholds session.side.sends opcode)) :
    (session.under (gate target)).send transport (object.map (gate target).map) opcode
        (values.map (Passed.under (gate target))) =
      ((session.send transport object opcode values).1.under (gate target) id,
        (session.send transport object opcode values).2) := by
  have spares := gate_spares gateable.issued
  cases object with
  | none => rfl
  | some object =>
      have same (alive : session.isAlive object = true) :
          ((gate target).map object).interface.message? session.side.sends opcode =
            object.interface.message? session.side.sends opcode := by
        refine gateable.message?_eq alive ?_
        rintro ⟨rfl, withholds⟩
        exact available ⟨rfl, alive, withholds⟩
      have numbered := send_numbered session transport (some object) opcode values
      rw [Option.map_some, send_under (gate target) spares same]
      refine congrArg (·, _) (Outcome.under_congr (gate target) ?_)
      intro created succeeded
      exact spares.map_made (numbered.numbers created succeeded)

theorem send_withheld
    (gateable : Gateable number session target)
    (transport : Transport)
    {opcode : UInt16}
    (values : List Passed)
    {signature : Signature}
    (alive : session.isAlive target = true)
    (found : target.interface.message? session.side.sends opcode = some signature)
    (late : target.version < signature.since) :
    session.send transport (some target) opcode values =
        (session.refuse (.atObject .caller target (some signature)
          (.versionUnavailable signature.since target.version)), transport) ∧
      (session.under (gate target)).send transport (some target.gated) opcode
          (values.map (Passed.under (gate target))) =
        ((session.under (gate target)).refuse (.atObject .caller target.gated none
          (.unknownOpcode opcode)), transport) := by
  have aliveGated : (session.under (gate target)).isAlive target.gated = true := by
    rw [← gate_target, isAlive_under, alive]
  have missing := message?_gated_of_withheld gateable.gradual found late
  constructor
  · simp [Session.send, alive, found, late]
  · simp [Session.send, aliveGated, missing]

theorem decode
    (gateable : Gateable number session target)
    (inbound : Inbound)
    (available : ¬(session.table.lookup inbound.sender = some target ∧
      target.Withholds session.side.receives inbound.opcode)) :
    (session.under (gate target)).decode inbound =
        (session.decode inbound).under (gate target) (Incoming.under (gate target)) ∧
      ∀ incoming, (session.decode inbound).result = .ok incoming →
        (incoming.under (gate target)).created = incoming.created := by
  have spares := gate_spares gateable.issued
  have same (object : Object) (found : session.table.lookup inbound.sender = some object) :
      ((gate target).map object).interface.message? session.side.receives inbound.opcode =
        object.interface.message? session.side.receives inbound.opcode := by
    refine gateable.message?_eq (isAlive_of_lookup gateable.wellFormed found) ?_
    rintro ⟨rfl, withholds⟩
    exact available ⟨found, withholds⟩
  refine ⟨decode_under (gate target) spares same, ?_⟩
  intro incoming succeeded
  rw [Incoming.created_under]
  have numbered := decode_numbered gateable.wellFormed inbound
  exact spares.map_made (numbered.numbers incoming succeeded)

theorem decode_withheld
    (gateable : Gateable number session target)
    {inbound : Inbound}
    {signature : Signature}
    (found : session.table.lookup inbound.sender = some target)
    (message : target.interface.message? session.side.receives inbound.opcode = some signature)
    (late : target.version < signature.since) :
    session.decode inbound =
        session.refuse (.atObject .peer target (some signature)
          (.versionUnavailable signature.since target.version)) ∧
      (session.under (gate target)).decode inbound =
        (session.under (gate target)).refuse (.atObject .peer target.gated none
          (.unknownOpcode inbound.opcode)) := by
  have foundGated :
      (session.under (gate target)).table.lookup inbound.sender = some target.gated := by
    rw [under_table, Table.lookup_under, found, Option.map_some, gate_target]
  have missing := message?_gated_of_withheld gateable.gradual message late
  constructor
  · simp [Session.decode, found, message, late]
  · simp only [Session.decode, foundGated, under_side, missing]

theorem lookup
    (gateable : Gateable number session target)
    (id : ObjectId) :
    (session.under (gate target)).table.lookup id =
      (session.table.lookup id).map fun object =>
        if object = target then target.gated else object := by
  rw [under_table, Table.lookup_under]
  refine Option.map_congr ?_
  intro object found
  split
  · rename_i isTarget
    rw [isTarget, gate_target]
  · rename_i notTarget
    refine gate_of_ne notTarget ?_
    rintro rfl
    exact notTarget (gateable.eq_of_isAlive (isAlive_of_lookup gateable.wellFormed found))

theorem perform
    (gateable : Gateable number session target)
    (operation : Operation) :
    Gateable number (operation.perform session) target := by
  have continues := perform_continues gateable.wellFormed operation
  refine ⟨gateable.toKeeps.perform operation, gateable.gradual, gateable.issued.later continues, ?_⟩
  exact gateable.unused.imp_right fun dead => dead.later continues

/-- What is attached to objects does not matter to the gate. -/
theorem attached
    (gateable : Gateable number session target)
    (attachments : List (Nat × Attachment)) :
    Gateable number { session with attachments } target where
  number_eq := gateable.number_eq
  follows := gateable.follows
  dated := gateable.dated
  gradual := gateable.gradual
  issued := ⟨gateable.issued.session_eq, gateable.issued.serial_lt⟩
  unused := gateable.unused.imp_right fun dead => ⟨dead.counted, dead.isAlive_eq⟩

/-- An operation leaves a session behind the gate as it leaves the session without it, even when it is
refused by the gate. -/
theorem perform_under
    (gateable : Gateable number session target)
    (operation : Operation) :
    (operation.under (gate target)).perform (session.under (gate target)) =
      (operation.perform session).under (gate target) := by
  have spares := gate_spares gateable.issued
  cases operation with
  | register interface => rfl
  | bind id interface version =>
      exact congrArg Outcome.session (bind_under (gate target) spares id interface version)
  | send transport object opcode values =>
      by_cases withheld : object = some target ∧ session.isAlive target = true ∧
        target.Withholds session.side.sends opcode
      · obtain ⟨rfl, alive, signature, found, late⟩ := withheld
        have refused := gateable.send_withheld transport values alive found late
        simp only [Operation.under, Operation.perform, Option.map_some, gate_target, refused.1,
          refused.2]
        rfl
      · have sent := gateable.send transport object opcode values withheld
        exact congrArg (fun sent => sent.1.session) sent
  | decode inbound =>
      by_cases withheld : session.table.lookup inbound.sender = some target ∧
        target.Withholds session.side.receives inbound.opcode
      · obtain ⟨found, signature, message, late⟩ := withheld
        have refused := gateable.decode_withheld found message late
        simp only [Operation.under, Operation.perform, refused.1, refused.2]
        rfl
      · exact congrArg Outcome.session (gateable.decode inbound withheld).1
  | release id => exact congrArg Outcome.session (release_under (gate target) id)
  | reset => rfl

theorem performAll
    (gateable : Gateable number session target)
    (operations : List Operation) :
    Gateable number (session.performAll operations) target := by
  induction operations generalizing session with
  | nil => exact gateable
  | cons operation operations inductionHypothesis =>
      exact inductionHypothesis (gateable.perform operation)

theorem performAll_under
    (gateable : Gateable number session target)
    (operations : List Operation) :
    (session.under (gate target)).performAll (operations.map (Operation.under (gate target))) =
      (session.performAll operations).under (gate target) := by
  induction operations generalizing session with
  | nil => rfl
  | cons operation operations inductionHypothesis =>
      have rest := inductionHypothesis (gateable.perform operation)
      rw [← gateable.perform_under] at rest
      exact rest

theorem gated
    (gateable : Gateable number session target) :
    Gated session target where
  lookup := gateable.lookup
  send := gateable.send
  send_withheld := fun transport _ values _ alive found late =>
    gateable.send_withheld transport values alive found late
  decode := gateable.decode
  decode_withheld := fun _ _ found message late => gateable.decode_withheld found message late
  performAll := gateable.performAll_under

end Gateable

/-- A gate can be put before every live object whose interface is gradual. -/
theorem gateable_of_isAlive
    {number : Nat}
    {session : Session}
    {target : Object}
    (keeps : World.Keeps number session)
    (gradual : target.interface.Gradual)
    (alive : session.isAlive target = true) :
    Gateable number session target := by
  have live := (isAlive_iff.mp alive).2
  have issued := keeps.dated.issued keeps.wellFormed live
  refine ⟨keeps, gradual, issued, ?_⟩
  by_cases same : target.gated = target
  · exact Or.inl same
  · refine Or.inr ⟨fun _ => issued.serial_lt, ?_⟩
    rw [← Bool.not_eq_true]
    intro aliveGated
    -- Both would be the live object of the same id.
    have liveGated : session.table.status target.id = .live target.gated :=
      (isAlive_iff.mp aliveGated).2
    rw [live] at liveGated
    exact same (Status.live.inj liveGated).symm

/-- In a checked interface the messages that are there at a version are those before some opcode.  So
they keep their opcodes in the interface that has no others, and for every object with the interface
and the version, in every session since the object was made, all operations do the same with either
interface. -/
theorem version_selects_opcode_prefix
    {batch : Check.Batch}
    {protocol : Model.Protocol}
    {interface : Model.Interface}
    (accepted : Check.check batch = .ok ())
    (checked : protocol ∈ batch.protocols)
    (member : interface ∈ protocol.interfaces)
    (version : UInt32) :
    (∀ direction, ∃ bound, ∀ (opcode : Nat) (message : Model.Message),
      (interface.messages direction)[opcode]? = some message →
        (message.since ≤ version ↔ opcode < bound)) ∧
    (∀ direction opcode, (interface.descriptor.upTo version).message? direction opcode =
      (interface.descriptor.message? direction opcode).filter (·.since ≤ version)) ∧
    ∀ number side operations later attachments target,
      ((fresh number side).performAll operations).isAlive target = true →
        target.interface = interface.descriptor → target.version = version →
          Gated { ((fresh number side).performAll operations).performAll later with attachments }
            target := by
  have gradual := Check.gradual_of_check accepted checked member
  refine ⟨?_, gradual.message?_upTo version, ?_⟩
  · intro direction
    obtain ⟨bound, before⟩ := gradual.exists_bound version direction
    refine ⟨bound, ?_⟩
    intro opcode message found
    refine before opcode message.signature ?_
    rw [Model.messages_descriptor, List.getElem?_map, found]
    rfl
  · intro number side operations later attachments target alive interface_eq _
    have keeps := (World.keeps_fresh number side).performAll operations
    have gateable := gateable_of_isAlive keeps (interface_eq ▸ gradual) alive
    exact ((gateable.performAll later).attached attachments).gated

/-- An interface that got a request and an event in its second version. -/
def lantern : Model.Interface :=
  { name := "lantern"
    version := 2
    requests := [{ name := "light", since := 1 }, { name := "dim", opcode := 1, since := 2 }]
    events := [{ name := "flicker", since := 2 }] }

def garden : Model.Protocol :=
  { name := "garden", interfaces := [lantern] }

/-- A lantern that was bound at the first version. -/
def oldLantern : Object :=
  { session := 0, serial := 0, id := 1, interface := lantern.descriptor, version := 1
    generation := 1 }

/-- The lantern withholds its second request and its only event, and is the same without them. -/
theorem old_lantern_is_gated :
    Check.check { protocols := [garden] } = .ok () ∧
      ((fresh 0 .client).performAll [.bind 1 lantern.descriptor 1]).isAlive oldLantern = true ∧
      oldLantern.Withholds .request 1 ∧ oldLantern.Withholds .event 0 ∧
      oldLantern.gated.interface.requests.map (·.name) = ["light"] ∧
      Gated { ((fresh 0 .client).performAll [.bind 1 lantern.descriptor 1]).performAll
          [.register lantern.descriptor] with attachments := [] } oldLantern := by
  have accepted : Check.check { protocols := [garden] } = .ok () := by decide
  have alive :
      ((fresh 0 .client).performAll [.bind 1 lantern.descriptor 1]).isAlive oldLantern = true := by
    decide
  refine ⟨accepted, alive, ⟨_, rfl, by decide⟩, ⟨_, rfl, by decide⟩, by decide, ?_⟩
  have selects := version_selects_opcode_prefix accepted (List.mem_singleton.mpr rfl)
    (List.mem_singleton.mpr rfl) 1
  exact selects.2.2 0 .client [.bind 1 lantern.descriptor 1] [.register lantern.descriptor] []
    oldLantern alive rfl rfl

end Wayland.Session
