import Wayland.Proofs.Session.Guise
import Wayland.Proofs.Session.Identity

/-!
Contract: a session looks at no messages of an interface but the one that an opcode selects.

Owns:
- that sending and decoding commute with every guise that shows the same message on the target;
- that the operations without a message commute with every guise.

Does not own: any special guise.
-/

namespace Wayland.Session

open Wayland.Text
open Wayland.Wire

/-! ## Sessions -/

section Sessions

variable (guise : Guise) {session : Session}

@[simp]
theorem under_number : (session.under guise).number = session.number :=
  rfl

@[simp]
theorem under_side : (session.under guise).side = session.side :=
  rfl

@[simp]
theorem under_interfaces : (session.under guise).interfaces = session.interfaces :=
  rfl

@[simp]
theorem under_table : (session.under guise).table = session.table.under guise :=
  rfl

theorem isAlive_under
    (object : Object) :
    (session.under guise).isAlive (guise.map object) = session.isAlive object := by
  have found :
      ((session.under guise).table.lookup object.id == some (guise.map object)) =
        (session.table.lookup object.id == some object) := by
    rw [under_table, Table.lookup_under, Bool.eq_iff_iff, beq_iff_eq, beq_iff_eq]
    cases session.table.lookup object.id with
    | none => simp
    | some found => simp [guise.injective.eq_iff]
  unfold isAlive
  rw [guise.session_eq, guise.id_eq, found, under_number]

theorem handleFault?_under
    (id : ObjectId)
    (handle : Option Object) :
    (session.under guise).handleFault? id (handle.map guise.map) =
      (session.handleFault? id handle).map (ArgumentFault.under guise) := by
  cases handle with
  | none => rfl
  | some object =>
      simp only [handleFault?, Option.map_some, guise.session_eq, guise.id_eq, isAlive_under,
        under_number]
      split
      · rfl
      · split <;> rfl

theorem referenceFault?_under
    (slot : Slot)
    (id : ObjectId) :
    (session.under guise).referenceFault? slot id =
      (session.referenceFault? slot id).map (ArgumentFault.under guise) := by
  unfold referenceFault?
  rw [under_table, Table.lookup_under, Table.isDestroyed_under]
  cases session.table.lookup id with
  | none => cases session.table.isDestroyed id <;> rfl
  | some object =>
      simp only [Option.map_some, guise.name_eq]
      split <;> rfl

theorem resolveNewId_under
    (parent : Object)
    (slot : Slot)
    (name : Bytes)
    (version : UInt32) :
    (session.under guise).resolveNewId (guise.map parent) slot name version =
      (session.resolveNewId parent slot name version).mapError (ArgumentFault.under guise) := by
  unfold resolveNewId
  simp only [guise.version_eq, under_interfaces]
  generalize (if slot.isDynamic = true then version else parent.version) = requested
  split
  · rfl
  · split <;> rfl

theorem abandonAll_under
    (created : List Object) :
    (session.under guise).abandonAll (created.map guise.map) =
      (session.abandonAll created).under guise := by
  have tables : (created.map guise.map).foldl Table.abandon (session.table.under guise) =
      (created.foldl Table.abandon session.table).under guise := by
    generalize session.table = table
    induction created generalizing table with
    | nil => rfl
    | cons object created inductionHypothesis =>
        rw [List.map_cons, List.foldl_cons, List.foldl_cons, Table.abandon_under,
          inductionHypothesis]
  exact congrArg (fun table => { session with table }) tables

/-- Records say the names of interfaces and no more. -/
theorem createdRecords_under
    (created : List Object) :
    (created.map guise.map).reverse.map (fun object => Record.created object.interface.name) =
      created.reverse.map fun object => Record.created object.interface.name := by
  simp [guise.name_eq]

theorem destroyTarget_under
    (target : Object)
    (signature : Signature) :
    (session.under guise).destroyTarget (guise.map target) signature =
      ((session.destroyTarget target signature).1.under guise,
        (session.destroyTarget target signature).2) := by
  unfold destroyTarget
  split
  · rw [guise.id_eq, guise.name_eq]
    exact congrArg (fun table => ({ session with table }, [_]))
      (Table.destroy_under guise target.id)
  · rfl

theorem refuse_under
    {α : Type}
    (value : α → α)
    (blame : Blame)
    (target : Object)
    (signature : Option Signature)
    (reason : Reason) :
    ((session.under guise).refuse
        (.atObject blame (guise.map target) signature (reason.under guise)) : Outcome α) =
      (session.refuse (.atObject blame target signature reason) : Outcome α).under guise value := by
  unfold refuse Outcome.under
  simp only [Error.atObject, guise.id_eq, guise.name_eq]
  rfl

end Sessions

/-! ## Objects that are still to be made -/

section Sparing

variable {guise : Guise} {session next : Session}

theorem Guise.Spares.later
    (spares : guise.Spares session)
    (number_eq : next.number = session.number)
    (made_le : session.made ≤ next.made) :
    guise.Spares next := by
  intro object own counted
  exact spares object (own.trans number_eq) (Nat.le_trans made_le counted)

theorem Guise.Spares.blueprint
    (spares : guise.Spares session)
    (interface : Interface)
    (version : UInt32)
    (object : Object)
    (madeOf : object.blueprint = session.blueprint interface version) :
    guise.map object = object := by
  simp only [Object.blueprint, Session.blueprint, Blueprint.mk.injEq] at madeOf
  exact spares object madeOf.1 (Nat.le_of_eq madeOf.2.1.symm)

end Sparing

/-! ## Sending -/

section Sending

variable (guise : Guise) {session : Session} {draft : Draft} {target : Object}

/-- Completing a value leaves the number of the session, and never sets its count back. -/
theorem prepareOne_counts
    {next : Draft}
    {slot : Slot}
    {passed : Passed}
    (prepared : prepareOne target slot passed draft = .ok next) :
    next.session.number = draft.session.number ∧ draft.session.made ≤ next.session.made := by
  obtain ⟨sessionEq, made_le⟩ := prepareOne_session prepared
  exact ⟨by rw [sessionEq], made_le⟩

theorem prepareOne_under
    (spares : guise.Spares draft.session)
    (slot : Slot)
    (passed : Passed) :
    prepareOne (guise.map target) slot (passed.under guise) (draft.under guise) =
      ((prepareOne target slot passed draft).map (Draft.under guise)).mapError
        (Reason.under guise) := by
  obtain ⟨value, handle⟩ := passed
  simp only [prepareOne, Passed.under]
  by_cases sameKind : value.kind ≠ slot.kind
  · rw [if_pos sameKind, if_pos sameKind]
    rfl
  rw [if_neg sameKind, if_neg sameKind]
  cases value with
  | object id =>
      simp only [Draft.under, handleFault?_under, referenceFault?_under]
      cases draft.session.handleFault? id handle with
      | some fault => rfl
      | none =>
          by_cases null : id = 0
          · simp only [if_pos null]
            rfl
          · simp only [if_neg null]
            cases draft.session.referenceFault? slot id <;> rfl
  | newId id name version =>
      by_cases preset : id ≠ 0
      · simp only [if_pos preset]
        rfl
      simp only [if_neg preset, Draft.under, resolveNewId_under]
      rcases draft.session.resolveNewId target slot name version with fault | ⟨interface, negotiated⟩
      · rfl
      · have spared := spares.blueprint interface negotiated
        have allocated := @Table.allocate_under guise draft.session.table _ spared
          draft.session.side
        have sameBlueprint : (draft.session.under guise).blueprint interface negotiated =
          draft.session.blueprint interface negotiated := rfl
        simp only [Except.mapError, under_table, under_side, sameBlueprint, allocated]
        rcases made : draft.session.table.allocate draft.session.side
            (draft.session.blueprint interface negotiated) with fault | ⟨object, table⟩
        · rfl
        · have fixed := spared object (Table.blueprint_of_allocate made)
          simp only [Except.map, Draft.under, List.map_cons, fixed]
          rfl
  | int value | uint value | fixed value | string value | array value | fd value
  | unassigned value => rfl

theorem prepare_under
    (spares : guise.Spares draft.session)
    (pairs : List (Slot × Passed)) :
    prepare (guise.map target) (draft.under guise)
        (pairs.map fun pair => (pair.1, pair.2.under guise)) =
      ((prepare target draft pairs).1.under guise,
        (prepare target draft pairs).2.map (Reason.under guise)) := by
  induction pairs generalizing draft with
  | nil => rfl
  | cons pair pairs inductionHypothesis =>
      obtain ⟨slot, passed⟩ := pair
      simp only [List.map_cons, prepare, prepareOne_under guise spares]
      rcases prepared : prepareOne target slot passed draft with reason | next
      · rfl
      · have counts := prepareOne_counts prepared
        exact inductionHypothesis (spares.later counts.1 counts.2)

theorem frame_under
    (opcode : UInt16)
    (signature : Signature) :
    (draft.under guise).frame (guise.map target) opcode signature =
      draft.frame target opcode signature := by
  unfold Draft.frame
  rw [guise.id_eq]
  rfl

theorem write_under
    (transport : Transport)
    (opcode : UInt16)
    (signature : Signature) :
    write (draft.under guise) transport (guise.map target) opcode signature =
      ((write draft transport target opcode signature).1.under guise (List.map guise.map),
        (write draft transport target opcode signature).2) := by
  unfold write
  rw [frame_under]
  cases draft.frame target opcode signature with
  | error error =>
      simp only [Draft.under, abandonAll_under]
      exact congrArg (·, transport)
        (refuse_under guise _ .caller target (some signature) (.wire error))
  | ok payload =>
      rcases accepted : transport.write payload with ⟨written, _ | text⟩
      · simp only [accepted, Draft.under, destroyTarget_under, guise.name_eq, createdRecords_under]
        simp only [Outcome.under, Except.map, Except.mapError, List.map_reverse]
      · simp only [accepted, Draft.under, abandonAll_under]
        rfl

/-- Sending commutes with a guise under which the target shows the same message at the opcode. -/
theorem send_under
    (spares : guise.Spares session)
    {opcode : UInt16}
    (same : session.isAlive target = true →
      (guise.map target).interface.message? session.side.sends opcode =
        target.interface.message? session.side.sends opcode)
    (transport : Transport)
    (values : List Passed) :
    (session.under guise).send transport (some (guise.map target)) opcode
        (values.map (Passed.under guise)) =
      ((session.send transport (some target) opcode values).1.under guise (List.map guise.map),
        (session.send transport (some target) opcode values).2) := by
  have refused (signature : Option Signature) (reason : Reason) :
      (((session.under guise).refuse
          (.atObject .caller (guise.map target) signature (reason.under guise)) :
            Outcome (List Object)), transport) =
        ((session.refuse (.atObject .caller target signature reason)).under guise
          (List.map guise.map), transport) :=
    congrArg (·, transport) (refuse_under guise _ .caller target signature reason)
  unfold send
  simp only [isAlive_under]
  by_cases alive : session.isAlive target = true
  · rw [alive]
    simp only [Bool.not_true, Bool.false_eq_true, if_false, under_side, same alive]
    rcases target.interface.message? session.side.sends opcode with _ | signature
    · exact refused none (.unknownOpcode opcode)
    · simp only [guise.version_eq, List.length_map]
      split
      · exact refused (some signature) (.versionUnavailable signature.since target.version)
      · split
        · exact refused (some signature) (.argumentCount signature.slots.length values.length)
        · have pairs :
              signature.slots.zip (values.map (Passed.under guise)) =
                (signature.slots.zip values).map fun pair => (pair.1, pair.2.under guise) :=
            List.zip_map_right ..
          have start : (Draft.under guise { session } : Draft) = { session := session.under guise } :=
            rfl
          rw [pairs, ← start, prepare_under guise spares]
          rcases prepare target { session } (signature.slots.zip values) with ⟨draft, _ | reason⟩
          · exact write_under guise transport opcode signature
          · simp only [Option.map_some, Draft.under, abandonAll_under]
            exact congrArg (·, transport)
              (refuse_under guise _ .caller target (some signature) reason)
  · rw [Bool.not_eq_true] at alive
    rw [alive]
    exact refused none .destroyedObject

end Sending

/-! ## Receiving -/

section Receiving

variable (guise : Guise) {session : Session} {arrivals : Arrivals} {parent : Object}

theorem resolveReferences_under
    (pairs : List (Slot × Argument)) :
    (session.under guise).resolveReferences pairs =
      ((session.resolveReferences pairs).map (List.map (Option.map guise.map))).mapError
        (Reason.under guise) := by
  induction pairs with
  | nil => rfl
  | cons pair pairs inductionHypothesis =>
      obtain ⟨slot, argument⟩ := pair
      cases argument with
      | object id =>
          have fault :
              (if id = 0 then none else (session.under guise).referenceFault? slot id) =
                (if id = 0 then none else session.referenceFault? slot id).map
                  (ArgumentFault.under guise) := by
            rw [referenceFault?_under]
            split <;> rfl
          simp only [resolveReferences, fault, inductionHypothesis]
          cases if id = 0 then none else session.referenceFault? slot id with
          | some fault => rfl
          | none =>
              rw [under_table, Table.lookup_under]
              cases session.resolveReferences pairs <;> rfl
      | int value | uint value | fixed value | string value | newId value | array value
      | fd value | unassigned value =>
          simp only [resolveReferences, inductionHypothesis]
          cases session.resolveReferences pairs <;> rfl

theorem acceptNewId_under
    (spares : guise.Spares session)
    (slot : Slot)
    (id : ObjectId)
    (name : Bytes)
    (version : UInt32) :
    (session.under guise).acceptNewId (guise.map parent) slot id name version =
      ((session.acceptNewId parent slot id name version).map fun made =>
        (made.1, made.2.under guise)).mapError (ArgumentFault.under guise) := by
  unfold acceptNewId
  simp only [under_side, resolveNewId_under]
  split
  · rfl
  · rcases session.resolveNewId parent slot name version with fault | ⟨interface, negotiated⟩
    · rfl
    · have spared := spares.blueprint interface negotiated
      have inserted := @Table.insert_under guise session.table _ spared id false
      have sameBlueprint : (session.under guise).blueprint interface negotiated =
        session.blueprint interface negotiated := rfl
      simp only [Except.mapError, under_table, sameBlueprint, inserted]
      rcases session.table.insert id false (session.blueprint interface negotiated) with
        fault | ⟨object, table⟩ <;> rfl

theorem acceptAll_under
    (spares : guise.Spares arrivals.session)
    (entries : List ((Slot × Argument) × Option Object)) :
    acceptAll (guise.map parent) (arrivals.under guise)
        (entries.map fun entry => (entry.1, entry.2.map guise.map)) =
      ((acceptAll parent arrivals entries).1.under guise,
        (acceptAll parent arrivals entries).2.map (Reason.under guise)) := by
  induction entries generalizing arrivals with
  | nil => rfl
  | cons entry entries inductionHypothesis =>
      obtain ⟨⟨slot, argument⟩, reference⟩ := entry
      cases argument with
      | newId id name version =>
          have accepted := @acceptNewId_under guise arrivals.session parent spares slot id name version
          simp only [List.map_cons, acceptAll, Arrivals.under, accepted]
          rcases one : arrivals.session.acceptNewId parent slot id name version with
            fault | ⟨object, next⟩
          · rfl
          · obtain ⟨interface, negotiated, table, madeOf, rfl⟩ := acceptNewId_madeOf one
            have fixed := spares.blueprint interface negotiated object madeOf
            have sparesNext : guise.Spares (arrivals.session.afterMaking table) :=
              spares.later rfl (Nat.le_succ _)
            have later := @inductionHypothesis
              { session := arrivals.session.afterMaking table
                created := object :: arrivals.created
                objects := some object :: arrivals.objects } sparesNext
            simp only [Arrivals.under, List.map_cons, Option.map_some, fixed] at later
            exact later
      | int value | uint value | fixed value | string value | object value | array value
      | fd value | unassigned value =>
          rw [List.map_cons, acceptAll_cons_of_kind_ne (by simp [Argument.kind]),
            acceptAll_cons_of_kind_ne (by simp [Argument.kind])]
          have later := @inductionHypothesis
            { arrivals with objects := reference :: arrivals.objects } spares
          exact later

theorem Incoming.created_under
    (incoming : Incoming) :
    (incoming.under guise).created = incoming.created.map guise.map := by
  have entries :
      incoming.arguments.zip (incoming.objects.map (Option.map guise.map)) =
        (incoming.arguments.zip incoming.objects).map fun entry =>
          (entry.1, entry.2.map guise.map) :=
    List.zip_map_right ..
  unfold created Incoming.under
  rw [entries, List.filterMap_map, List.map_filterMap]
  refine congrArg (List.filterMap · _) (funext fun entry => ?_)
  simp only [Function.comp_apply]
  split <;> rfl

/-- Decoding commutes with a guise under which the object at the sender shows the same message at the
opcode. -/
theorem decode_under
    (spares : guise.Spares session)
    {inbound : Inbound}
    (same : ∀ target, session.table.lookup inbound.sender = some target →
      (guise.map target).interface.message? session.side.receives inbound.opcode =
        target.interface.message? session.side.receives inbound.opcode) :
    (session.under guise).decode inbound =
      (session.decode inbound).under guise (Incoming.under guise) := by
  unfold decode
  rw [under_table, Table.lookup_under, Table.isDestroyed_under]
  rcases found : session.table.lookup inbound.sender with _ | target
  · cases session.table.isDestroyed inbound.sender <;> rfl
  have refused (session : Session) (signature : Option Signature) (reason : Reason) :
      ((session.under guise).refuse
          (.atObject .peer (guise.map target) signature (reason.under guise)) : Outcome Incoming) =
        (session.refuse (.atObject .peer target signature reason)).under guise
          (Incoming.under guise) :=
    refuse_under guise _ .peer target signature reason
  simp only [Option.map_some, under_side, same target found]
  rcases target.interface.message? session.side.receives inbound.opcode with _ | signature
  · exact refused session none (.unknownOpcode inbound.opcode)
  simp only [guise.version_eq]
  split
  · exact refused session (some signature)
      (.versionUnavailable signature.since target.version)
  rcases Wire.decode signature inbound.payload with error | decoded
  · exact refused session (some signature) (.wire error)
  simp only [resolveReferences_under]
  rcases session.resolveReferences (signature.slots.zip decoded.arguments) with reason | references
  · exact refused session (some signature) reason
  have entries :
      (signature.slots.zip decoded.arguments).zip (references.map (Option.map guise.map)) =
        ((signature.slots.zip decoded.arguments).zip references).map fun entry =>
          (entry.1, entry.2.map guise.map) :=
    List.zip_map_right ..
  have start : (Arrivals.under guise { session } : Arrivals) = { session := session.under guise } :=
    rfl
  simp only [Except.map, Except.mapError]
  rw [entries, ← start, acceptAll_under guise spares]
  rcases acceptAll target { session }
      ((signature.slots.zip decoded.arguments).zip references) with ⟨arrivals, _ | reason⟩
  · simp only [Option.map_none, Arrivals.under, destroyTarget_under, createdRecords_under,
      guise.name_eq]
    simp only [Outcome.under, Except.map, Except.mapError, Incoming.under, List.map_reverse]
  · simp only [Option.map_some, Arrivals.under, abandonAll_under]
    exact refused _ (some signature) reason

end Receiving

/-! ## Operations without a message -/

section Other

variable (guise : Guise) {session : Session}

theorem withKnown_under
    (interface : Interface) :
    (session.under guise).withKnown interface = (session.withKnown interface).under guise := by
  have sameInterface :
      (session.under guise).interface? interface.name = session.interface? interface.name := rfl
  unfold withKnown
  rw [sameInterface]
  split <;> rfl

theorem Guise.Spares.withKnown
    {guise : Guise}
    (spares : guise.Spares session)
    (interface : Interface) :
    guise.Spares (session.withKnown interface) := by
  refine spares.later (withKnown_number session interface) ?_
  unfold Session.withKnown
  split <;> exact Nat.le_refl _

theorem bind_under
    (spares : guise.Spares session)
    (bound : ObjectId)
    (interface : Interface)
    (version : UInt32) :
    (session.under guise).bind bound interface version =
      (session.bind bound interface version).under guise id := by
  have supportedEq (session : Session) :
      (session.interface? interface.name).getD interface = session.supported interface := rfl
  have sameSupported : (session.under guise).supported interface = session.supported interface :=
    rfl
  unfold bind
  simp only [supportedEq, withKnown_eq]
  rw [withKnown_under, sameSupported]
  split
  · rfl
  · have spared := (spares.withKnown interface).blueprint (session.supported interface)
      (min version (session.supported interface).version)
    have inserted := @Table.insert_under guise (session.withKnown interface).table _ spared bound true
    have sameBlueprint (version : UInt32) :
        ((session.withKnown interface).under guise).blueprint (session.supported interface) version =
          (session.withKnown interface).blueprint (session.supported interface) version := rfl
    simp only [under_table, sameBlueprint, inserted]
    rcases (session.withKnown interface).table.insert bound true _ with fault | made <;> rfl

theorem release_under
    (released : ObjectId) :
    (session.under guise).release released = (session.release released).under guise id := by
  unfold release
  rw [under_table, Table.release_under]
  cases session.table.release released <;> rfl

end Other

end Wayland.Session
