import Wayland.Proofs.Session.Identity

/-!
Contract: what is left of a well-known object that could not be made.

Owns:
- sessions that are the same but for the interface known under one name;
- that they answer every operation alike that does not ask for this name;
- that an attempt that fails leaves the objects, and leaves behind the interface it was made with
  if its name was not known.

Does not own: well-known objects that are made.
-/

namespace Wayland.Session

open Wayland.Text
open Wayland.Wire

/-! ## Other interfaces -/

def knowing
    (session : Session)
    (interfaces : List (String × Interface)) :
    Session :=
  { session with interfaces }

def Draft.knowing
    (draft : Draft)
    (interfaces : List (String × Interface)) :
    Draft :=
  { draft with session := draft.session.knowing interfaces }

def Arrivals.knowing
    (arrivals : Arrivals)
    (interfaces : List (String × Interface)) :
    Arrivals :=
  { arrivals with session := arrivals.session.knowing interfaces }

def Outcome.knowing
    {α : Type}
    (outcome : Outcome α)
    (interfaces : List (String × Interface)) :
    Outcome α :=
  { outcome with session := outcome.session.knowing interfaces }

section Knowing

variable {session : Session} {interfaces : List (String × Interface)}

@[simp]
theorem knowing_side :
    (session.knowing interfaces).side = session.side :=
  rfl

@[simp]
theorem knowing_table :
    (session.knowing interfaces).table = session.table :=
  rfl

/-- A new object resolves to the same interface where the wanted name does. -/
theorem resolveNewId_knowing
    {slot : Slot}
    {name : Bytes}
    (same : (session.knowing interfaces).known? (wantedName slot name) =
      session.known? (wantedName slot name))
    (parent : Object)
    (version : UInt32) :
    (session.knowing interfaces).resolveNewId parent slot name version =
      session.resolveNewId parent slot name version := by
  unfold known? wantedName knowing at same
  unfold resolveNewId knowing
  simp only [same]

variable {target : Object} {draft : Draft}

/-- Completing a value looks at the interfaces for a new object only. -/
theorem prepareOne_knowing
    {slot : Slot}
    {passed : Passed}
    (same : ∀ id name version, passed.value = .newId id name version →
      (draft.session.knowing interfaces).known? (wantedName slot name) =
        draft.session.known? (wantedName slot name)) :
    prepareOne target slot passed (draft.knowing interfaces) =
      (prepareOne target slot passed draft).map (Draft.knowing · interfaces) := by
  obtain ⟨value, handle⟩ := passed
  unfold prepareOne
  by_cases sameKind : value.kind = slot.kind
  · rw [if_neg (Decidable.not_not.mpr sameKind), if_neg (Decidable.not_not.mpr sameKind)]
    cases value with
    | object id =>
        have handles : (draft.knowing interfaces).session.handleFault? id handle =
            draft.session.handleFault? id handle := rfl
        have references : (draft.knowing interfaces).session.referenceFault? slot id =
            draft.session.referenceFault? slot id := rfl
        simp only [handles, references]
        cases draft.session.handleFault? id handle with
        | some fault => rfl
        | none =>
            by_cases null : id = 0
            · simp only [if_pos null]
              rfl
            · simp only [if_neg null]
              cases draft.session.referenceFault? slot id <;> rfl
    | newId id name version =>
        have resolved : (draft.knowing interfaces).session.resolveNewId target slot name version =
            draft.session.resolveNewId target slot name version :=
          resolveNewId_knowing (same id name version rfl) target version
        simp only [resolved]
        split
        · rfl
        · cases draft.session.resolveNewId target slot name version with
          | error fault => rfl
          | ok made =>
              obtain ⟨interface, negotiated⟩ := made
              have allocated :
                  (draft.knowing interfaces).session.table.allocate
                      (draft.knowing interfaces).session.side
                      ((draft.knowing interfaces).session.blueprint interface negotiated) =
                    draft.session.table.allocate draft.session.side
                      (draft.session.blueprint interface negotiated) := rfl
              simp only [allocated]
              cases draft.session.table.allocate draft.session.side
                (draft.session.blueprint interface negotiated) <;> rfl
    | int value | uint value | fixed value | string value | array value | fd value
    | unassigned value => rfl
  · rw [if_pos sameKind, if_pos sameKind]
    rfl

/-- Completing a value leaves the interfaces. -/
theorem prepareOne_interfaces
    {next : Draft}
    {slot : Slot}
    {passed : Passed}
    (prepared : prepareOne target slot passed draft = .ok next) :
    next.session.interfaces = draft.session.interfaces := by
  rw [(prepareOne_session prepared).1]

theorem prepare_knowing
    {pairs : List (Slot × Passed)}
    (same : ∀ pair ∈ pairs, ∀ id name version, pair.2.value = .newId id name version →
      (draft.session.knowing interfaces).known? (wantedName pair.1 name) =
        draft.session.known? (wantedName pair.1 name)) :
    prepare target (draft.knowing interfaces) pairs =
      ((prepare target draft pairs).1.knowing interfaces, (prepare target draft pairs).2) := by
  induction pairs generalizing draft with
  | nil => rfl
  | cons pair pairs inductionHypothesis =>
      obtain ⟨first, rest⟩ := List.forall_mem_cons.mp same
      obtain ⟨slot, passed⟩ := pair
      simp only [prepare, prepareOne_knowing first]
      cases prepared : prepareOne target slot passed draft with
      | error reason => rfl
      | ok next =>
          have interfacesEq := prepareOne_interfaces prepared
          refine inductionHypothesis fun pair isMember id name version asks => ?_
          have found := rest pair isMember id name version asks
          unfold known? at found ⊢
          rw [interfacesEq]
          exact found

theorem destroyTarget_knowing
    (target : Object)
    (signature : Signature) :
    (session.knowing interfaces).destroyTarget target signature =
      ((session.destroyTarget target signature).1.knowing interfaces,
        (session.destroyTarget target signature).2) := by
  unfold destroyTarget
  split <;> rfl

theorem write_knowing
    (transport : Transport)
    (opcode : UInt16)
    (signature : Signature) :
    write (draft.knowing interfaces) transport target opcode signature =
      ((write draft transport target opcode signature).1.knowing interfaces,
        (write draft transport target opcode signature).2) := by
  have framed : (draft.knowing interfaces).frame target opcode signature =
      draft.frame target opcode signature := rfl
  unfold write
  rw [framed]
  cases draft.frame target opcode signature with
  | error error => rfl
  | ok payload =>
      have destroyed : (draft.knowing interfaces).session.destroyTarget target signature =
          ((draft.session.destroyTarget target signature).1.knowing interfaces,
            (draft.session.destroyTarget target signature).2) :=
        destroyTarget_knowing target signature
      simp only [destroyed]
      rcases transport.write payload with ⟨written, _ | text⟩ <;> rfl

/-- Sending looks at the interfaces for new objects only. -/
theorem send_knowing
    {opcode : UInt16}
    {values : List Passed}
    (same : ∀ signature, target.interface.message? session.side.sends opcode = some signature →
      ∀ pair ∈ signature.slots.zip values, ∀ id name version,
        pair.2.value = .newId id name version →
          (session.knowing interfaces).known? (wantedName pair.1 name) =
            session.known? (wantedName pair.1 name))
    (transport : Transport) :
    (session.knowing interfaces).send transport (some target) opcode values =
      ((session.send transport (some target) opcode values).1.knowing interfaces,
        (session.send transport (some target) opcode values).2) := by
  have alive : (session.knowing interfaces).isAlive target = session.isAlive target := rfl
  simp only [send, alive, knowing_side]
  split
  · rfl
  · cases isMessage : target.interface.message? session.side.sends opcode with
    | none => rfl
    | some signature =>
        simp only
        split
        · rfl
        · split
          · rfl
          · have prepared := @prepare_knowing interfaces target { session } _ (same signature isMessage)
            have start : Draft.knowing { session } interfaces =
                { session := session.knowing interfaces } := rfl
            rw [← start, prepared]
            rcases prepare target { session } (signature.slots.zip values) with ⟨draft, _ | reason⟩
            · exact write_knowing transport opcode signature
            · rfl

variable {parent : Object} {arrivals : Arrivals}

theorem resolveReferences_knowing
    (pairs : List (Slot × Argument)) :
    (session.knowing interfaces).resolveReferences pairs = session.resolveReferences pairs := by
  induction pairs with
  | nil => rfl
  | cons pair pairs inductionHypothesis =>
      obtain ⟨slot, argument⟩ := pair
      cases argument with
      | object id =>
          have references : (session.knowing interfaces).referenceFault? slot id =
            session.referenceFault? slot id := rfl
          simp only [resolveReferences, inductionHypothesis, references, knowing_table]
      | int value | uint value | fixed value | string value | newId value | array value
      | fd value | unassigned value => simp only [resolveReferences, inductionHypothesis]

theorem acceptNewId_knowing
    {slot : Slot}
    {name : Bytes}
    (same : (session.knowing interfaces).known? (wantedName slot name) =
      session.known? (wantedName slot name))
    (id : ObjectId)
    (version : UInt32) :
    (session.knowing interfaces).acceptNewId parent slot id name version =
      (session.acceptNewId parent slot id name version).map fun made =>
        (made.1, made.2.knowing interfaces) := by
  simp only [acceptNewId, resolveNewId_knowing same, knowing_side, knowing_table]
  split
  · rfl
  · cases session.resolveNewId parent slot name version with
    | error fault => rfl
    | ok made =>
        obtain ⟨interface, negotiated⟩ := made
        have sameBlueprint : (session.knowing interfaces).blueprint interface negotiated =
          session.blueprint interface negotiated := rfl
        simp only [sameBlueprint]
        cases session.table.insert id false (session.blueprint interface negotiated) <;> rfl

theorem acceptAll_knowing
    {entries : List ((Slot × Argument) × Option Object)}
    (same : ∀ entry ∈ entries, ∀ id name version, entry.1.2 = .newId id name version →
      (arrivals.session.knowing interfaces).known? (wantedName entry.1.1 name) =
        arrivals.session.known? (wantedName entry.1.1 name)) :
    acceptAll parent (arrivals.knowing interfaces) entries =
      ((acceptAll parent arrivals entries).1.knowing interfaces,
        (acceptAll parent arrivals entries).2) := by
  induction entries generalizing arrivals with
  | nil => rfl
  | cons entry entries inductionHypothesis =>
      obtain ⟨first, rest⟩ := List.forall_mem_cons.mp same
      obtain ⟨⟨slot, argument⟩, reference⟩ := entry
      cases argument with
      | newId id name version =>
          have accepted :
              (arrivals.knowing interfaces).session.acceptNewId parent slot id name version =
                (arrivals.session.acceptNewId parent slot id name version).map fun made =>
                  (made.1, made.2.knowing interfaces) :=
            acceptNewId_knowing (first id name version rfl) id version
          simp only [acceptAll, accepted]
          cases one : arrivals.session.acceptNewId parent slot id name version with
          | error fault => rfl
          | ok made =>
              obtain ⟨object, next⟩ := made
              obtain ⟨interface, negotiated, table, -, rfl⟩ := acceptNewId_madeOf one
              exact @inductionHypothesis
                ⟨arrivals.session.afterMaking table, object :: arrivals.created,
                  some object :: arrivals.objects⟩ rest
      | int value | uint value | fixed value | string value | object value | array value
      | fd value | unassigned value =>
          exact @inductionHypothesis { arrivals with objects := reference :: arrivals.objects } rest

/-- Decoding looks at the interfaces for new objects only. -/
theorem decode_knowing
    {inbound : Inbound}
    (same : ∀ target signature decoded, session.table.lookup inbound.sender = some target →
      target.interface.message? session.side.receives inbound.opcode = some signature →
        Wire.decode signature inbound.payload = .ok decoded →
          ∀ pair ∈ signature.slots.zip decoded.arguments, ∀ id name version,
            pair.2 = .newId id name version →
              (session.knowing interfaces).known? (wantedName pair.1 name) =
                session.known? (wantedName pair.1 name)) :
    (session.knowing interfaces).decode inbound = (session.decode inbound).knowing interfaces := by
  unfold decode
  rw [knowing_table, knowing_side]
  cases found : session.table.lookup inbound.sender with
  | none => rfl
  | some target =>
      simp only
      cases isMessage : target.interface.message? session.side.receives inbound.opcode with
      | none => rfl
      | some signature =>
          simp only
          split
          · rfl
          · cases read : Wire.decode signature inbound.payload with
            | error error => rfl
            | ok decoded =>
                simp only [resolveReferences_knowing]
                cases session.resolveReferences (signature.slots.zip decoded.arguments) with
                | error reason => rfl
                | ok references =>
                    have accepted := @acceptAll_knowing interfaces target { session }
                      ((signature.slots.zip decoded.arguments).zip references)
                      fun entry isMember =>
                        same target signature decoded found isMessage read entry.1
                          (List.of_mem_zip isMember).1
                    have start : Arrivals.knowing { session } interfaces =
                        { session := session.knowing interfaces } := rfl
                    simp only [← start, accepted]
                    rcases acceptAll target { session }
                        ((signature.slots.zip decoded.arguments).zip references) with
                      ⟨arrivals, _ | reason⟩
                    · have destroyed :
                          (arrivals.knowing interfaces).session.destroyTarget target signature =
                            ((arrivals.session.destroyTarget target signature).1.knowing interfaces,
                              (arrivals.session.destroyTarget target signature).2) :=
                        destroyTarget_knowing target signature
                      simp only [destroyed]
                      rfl
                    · rfl

/-- Well-known objects look at the interface of their own name only. -/
theorem bind_knowing
    {interface : Interface}
    (same : (session.knowing interfaces).interface? interface.name =
      session.interface? interface.name)
    (id : ObjectId)
    (version : UInt32) :
    (session.knowing interfaces).bind id interface version =
      (session.bind id interface version).knowing
        ((session.knowing interfaces).withKnown interface).interfaces := by
  have sameSupported : (session.knowing interfaces).supported interface =
      session.supported interface := by
    unfold supported
    rw [same]
  have sameKnown : (session.knowing interfaces).withKnown interface =
      (session.withKnown interface).knowing
        ((session.knowing interfaces).withKnown interface).interfaces := by
    unfold withKnown
    rw [same]
    split <;> rfl
  have sameBlueprint (version : UInt32) :
      ((session.knowing interfaces).withKnown interface).blueprint (session.supported interface)
          version =
        (session.withKnown interface).blueprint (session.supported interface) version := by
    rw [sameKnown]
    rfl
  rw [bind_eq, bind_eq, sameSupported, sameBlueprint, withKnown_table, withKnown_table,
    knowing_table, sameKnown]
  split
  · rfl
  · split <;> rfl

/-- Whether a well-known object can be made or not, the interface of its name is known from then
on. -/
theorem bind_interfaces
    (id : ObjectId)
    (interface : Interface)
    (version : UInt32) :
    (session.bind id interface version).session.interfaces =
      (session.withKnown interface).interfaces := by
  rw [bind_eq]
  split
  · rfl
  · split <;> rfl

theorem release_knowing
    (id : ObjectId) :
    (session.knowing interfaces).release id = (session.release id).knowing interfaces := by
  unfold release
  rw [knowing_table]
  cases session.table.release id <;> rfl

/-- Sending leaves the interfaces. -/
theorem send_interfaces
    (transport : Transport)
    (target : Option Object)
    (opcode : UInt16)
    (values : List Passed) :
    (session.send transport target opcode values).1.session.interfaces = session.interfaces := by
  cases target with
  | none => rfl
  | some target =>
      have sent := @send_knowing session session.interfaces target opcode values
        (fun _ _ _ _ _ _ _ _ => rfl) transport
      exact congrArg (·.1.session.interfaces) sent

/-- Decoding leaves the interfaces. -/
theorem decode_interfaces
    (inbound : Inbound) :
    (session.decode inbound).session.interfaces = session.interfaces := by
  have decoded := @decode_knowing session session.interfaces inbound
    fun _ _ _ _ _ _ _ _ _ _ _ _ => rfl
  exact congrArg (·.session.interfaces) decoded

end Knowing

/-! ## One name -/

/-- Whether a value asks for the interface of a name, to make an object of it. -/
def Asks
    (name : String)
    (slot : Slot) :
    Argument → Prop
  | .newId _ wanted _ => wantedName slot wanted = Bytes.ofText name
  | _ => False

def Operation.AsksFor
    (name : String)
    (session : Session) :
    Operation → Prop
  | .bind _ interface _ => interface.name = name
  | .send _ target opcode values =>
      ∃ object ∈ target, ∃ signature ∈ object.interface.message? session.side.sends opcode,
        ∃ pair ∈ signature.slots.zip values, Asks name pair.1 pair.2.value
  | .decode inbound =>
      ∃ target ∈ session.table.lookup inbound.sender,
        ∃ signature ∈ target.interface.message? session.side.receives inbound.opcode,
          ∃ decoded, Wire.decode signature inbound.payload = .ok decoded ∧
            ∃ pair ∈ signature.slots.zip decoded.arguments, Asks name pair.1 pair.2
  | _ => False

/-- Whether no operation of a run asks for the interface of a name. -/
def NeverAsks
    (name : String)
    (session : Session) :
    List Operation → Prop
  | [] => True
  | operation :: operations =>
      ¬operation.AsksFor name session ∧ NeverAsks name (operation.perform session) operations

/-- What an operation answers, and what it puts on record. -/
inductive Reply where
  | object (result : Except Failure Object) (records : List Record)
  | objects (result : Except Failure (List Object)) (records : List Record) (transport : Transport)
  | incoming (result : Except Failure Incoming) (records : List Record)
  | done (result : Except Failure Unit) (records : List Record)
deriving DecidableEq, Repr

def Operation.reply
    (session : Session) :
    Operation → Reply
  | .register _ => .done (.ok ()) []
  | .bind id interface version =>
      .object (session.bind id interface version).result (session.bind id interface version).records
  | .send transport target opcode values =>
      .objects (session.send transport target opcode values).1.result
        (session.send transport target opcode values).1.records
        (session.send transport target opcode values).2
  | .decode inbound => .incoming (session.decode inbound).result (session.decode inbound).records
  | .release id => .done (session.release id).result (session.release id).records
  | .reset => .done session.reset.result session.reset.records

def replies
    (session : Session) :
    List Operation → List Reply
  | [] => []
  | operation :: operations =>
      operation.reply session :: replies (operation.perform session) operations

/-- A session that is the same as another one but for the interface known under one name. -/
structure AlikeBut
    (name : String)
    (session other : Session) : Prop where
  session_eq : other = session.knowing other.interfaces
  interface?_eq : ∀ asked, asked ≠ name → other.interface? asked = session.interface? asked
  known?_eq : ∀ wanted, wanted ≠ Bytes.ofText name → other.known? wanted = session.known? wanted

section AlikeBut

variable {name : String} {session other : Session}

/-- A session that learns an interface is the same but for the name of the interface. -/
theorem alikeBut_register
    (session : Session)
    (interface : Interface) :
    AlikeBut interface.name session (session.register interface) where
  session_eq := rfl
  interface?_eq asked differs := by rw [interface?_register, if_neg differs]
  known?_eq wanted differs := by rw [known?_register, if_neg differs.symm]

/-- What both sessions do without touching their interfaces leaves them alike. -/
theorem AlikeBut.later
    (alike : AlikeBut name session other)
    {next : Session}
    (interfacesEq : next.interfaces = session.interfaces) :
    AlikeBut name next (next.knowing other.interfaces) where
  session_eq := rfl
  interface?_eq asked differs := by
    have same := alike.interface?_eq asked differs
    unfold interface? at same ⊢
    rw [interfacesEq]
    exact same
  known?_eq wanted differs := by
    have same := alike.known?_eq wanted differs
    unfold known? at same ⊢
    rw [interfacesEq]
    exact same

theorem AlikeBut.register
    (alike : AlikeBut name session other)
    (interface : Interface) :
    AlikeBut name (session.register interface) (other.register interface) where
  session_eq := by
    rw [alike.session_eq]
    rfl
  interface?_eq asked differs := by
    rw [interface?_register, interface?_register, alike.interface?_eq asked differs]
  known?_eq wanted differs := by
    rw [known?_register, known?_register, alike.known?_eq wanted differs]

theorem AlikeBut.withKnown
    (alike : AlikeBut name session other)
    {interface : Interface}
    (same : other.interface? interface.name = session.interface? interface.name) :
    AlikeBut name (session.withKnown interface) (other.withKnown interface) := by
  unfold Session.withKnown
  rw [same]
  split
  · exact alike
  · exact alike.register interface

/-- Values that do not ask for the name find the interfaces they ask for in both. -/
theorem AlikeBut.known?_of_not_asks
    (alike : AlikeBut name session other)
    {slot : Slot}
    {value : Argument}
    (unasked : ¬Asks name slot value)
    {id : ObjectId}
    {wanted : Bytes}
    {version : UInt32}
    (makes : value = .newId id wanted version) :
    (session.knowing other.interfaces).known? (wantedName slot wanted) =
      session.known? (wantedName slot wanted) := by
  rw [← alike.session_eq]
  refine alike.known?_eq _ fun same => unasked ?_
  rw [makes]
  exact same

/-- An operation that does not ask for the name does the same in both. -/
theorem AlikeBut.step
    (alike : AlikeBut name session other)
    {operation : Operation}
    (unasked : ¬operation.AsksFor name session) :
    operation.reply other = operation.reply session ∧
      AlikeBut name (operation.perform session) (operation.perform other) := by
  cases operation with
  | register interface => exact ⟨rfl, alike.register interface⟩
  | bind id interface version =>
      have same := alike.interface?_eq interface.name unasked
      have bound : other.bind id interface version =
          (session.bind id interface version).knowing (other.withKnown interface).interfaces := by
        rw [alike.session_eq] at same ⊢
        exact bind_knowing same id version
      have later := (alike.withKnown same).later (bind_interfaces id interface version)
      simp only [Operation.reply, Operation.perform, bound]
      exact ⟨rfl, later⟩
  | send transport target opcode values =>
      have sent : other.send transport target opcode values =
          ((session.send transport target opcode values).1.knowing other.interfaces,
            (session.send transport target opcode values).2) := by
        rw [alike.session_eq]
        cases target with
        | none => rfl
        | some target =>
            exact send_knowing (fun signature isMessage pair isMember id wanted version makes =>
              alike.known?_of_not_asks
                (fun asks => unasked ⟨target, rfl, signature, isMessage, pair, isMember, asks⟩)
                makes) transport
      have later := alike.later (send_interfaces transport target opcode values)
      simp only [Operation.reply, Operation.perform, sent]
      exact ⟨rfl, later⟩
  | decode inbound =>
      have decoded : other.decode inbound =
          (session.decode inbound).knowing other.interfaces := by
        conv_lhs => rw [alike.session_eq]
        exact decode_knowing fun target signature decoded found isMessage read pair isMember id wanted
            version makes =>
          alike.known?_of_not_asks
            (fun asks =>
              unasked ⟨target, found, signature, isMessage, decoded, read, pair, isMember, asks⟩)
            makes
      have later := alike.later (decode_interfaces inbound)
      simp only [Operation.reply, Operation.perform, decoded]
      exact ⟨rfl, later⟩
  | release id =>
      have released : other.release id = (session.release id).knowing other.interfaces := by
        conv_lhs => rw [alike.session_eq]
        exact release_knowing id
      have interfacesEq : (session.release id).session.interfaces = session.interfaces := by
        unfold release
        split <;> rfl
      have later := alike.later interfacesEq
      simp only [Operation.reply, Operation.perform, released]
      exact ⟨rfl, later⟩
  | reset =>
      have later := @AlikeBut.later name session other alike session.reset.session rfl
      simp only [Operation.reply, Operation.perform]
      rw [alike.session_eq]
      exact ⟨rfl, later⟩

/-- A run that never asks for the name goes the same way in both. -/
theorem AlikeBut.run
    (alike : AlikeBut name session other)
    {operations : List Operation}
    (unasked : NeverAsks name session operations) :
    replies other operations = replies session operations ∧
      AlikeBut name (session.performAll operations) (other.performAll operations) := by
  induction operations generalizing session other with
  | nil => exact ⟨rfl, alike⟩
  | cons operation operations inductionHypothesis =>
      obtain ⟨first, rest⟩ := unasked
      obtain ⟨sameReply, alikeNext⟩ := alike.step first
      obtain ⟨sameReplies, alikeAfter⟩ := inductionHypothesis alikeNext rest
      refine ⟨?_, alikeAfter⟩
      rw [replies, replies, sameReply, sameReplies]

end AlikeBut

/-! ## Failed attempts -/

theorem withKnown_eq_self_iff
    (session : Session)
    (interface : Interface) :
    session.withKnown interface = session ↔ (session.interface? interface.name).isSome = true := by
  unfold withKnown
  constructor
  · intro same
    by_contra unknown
    rw [if_neg unknown] at same
    exact List.cons_ne_self _ _ (congrArg Session.interfaces same)
  · intro known
    rw [if_pos known]

/-- An attempt that fails is the caller's misuse, and all it does is to look up the interface. -/
theorem bind_of_error
    {session : Session}
    {id : ObjectId}
    {interface : Interface}
    {version : UInt32}
    {failure : Failure}
    (failed : (session.bind id interface version).result = .error failure) :
    (session.bind id interface version).session = session.withKnown interface ∧
      ∃ reason, failure = .refused { blame := .caller, reason } := by
  revert failed
  rw [bind_eq]
  split
  · rintro ⟨⟩
    exact ⟨rfl, _, rfl⟩
  · split
    · rintro ⟨⟩
      exact ⟨rfl, _, rfl⟩
    · rintro ⟨⟩

/-- An attempt to make a well-known object that fails is the caller's misuse and leaves the objects
as they were.  It leaves the whole session as it was exactly if the name of the interface was known
before; otherwise it leaves the interface behind, registered.  What follows goes as if there had
been no attempt, if the name was known or nothing in it asks for the name. -/
theorem failed_bind_shows_by_name_only
    {session : Session}
    {id : ObjectId}
    {interface : Interface}
    {version : UInt32}
    {failure : Failure}
    (failed : (session.bind id interface version).result = .error failure) :
    (∃ reason, failure = .refused { blame := .caller, reason }) ∧
      (session.bind id interface version).session.table = session.table ∧
        (session.bind id interface version).session =
          (if (session.interface? interface.name).isSome then session
            else session.register interface) ∧
          ((session.bind id interface version).session = session ↔
            (session.interface? interface.name).isSome = true) ∧
            ∀ operations,
              (session.interface? interface.name).isSome = true ∨
                  NeverAsks interface.name session operations →
                replies (session.bind id interface version).session operations =
                    replies session operations ∧
                  ((session.bind id interface version).session.performAll operations).table =
                    (session.performAll operations).table := by
  obtain ⟨sessionEq, misuse⟩ := bind_of_error failed
  rw [sessionEq, withKnown_eq_self_iff, withKnown_table]
  refine ⟨misuse, rfl, rfl, Iff.rfl, ?_⟩
  intro operations quiet
  by_cases known : (session.interface? interface.name).isSome = true
  · rw [(withKnown_eq_self_iff session interface).mpr known]
    exact ⟨rfl, rfl⟩
  · have alike : AlikeBut interface.name session (session.withKnown interface) := by
      unfold withKnown
      rw [if_neg known]
      exact alikeBut_register session interface
    obtain ⟨sameReplies, alikeAfter⟩ := alike.run (quiet.resolve_left known)
    refine ⟨sameReplies, ?_⟩
    rw [alikeAfter.session_eq]
    rfl

/-- A house whose pieces of furniture come with their own interfaces. -/
def houseInterface : Interface where
  name := "house"
  version := 1
  requests := [{ name := "furnish", since := 1, slots := [{ name := "piece", kind := .newId }] }]

def chairInterface : Interface where
  name := "chair"
  version := 2

def lampInterface : Interface where
  name := "lamp"
  version := 3

/-- A client with a house, which knows chairs. -/
def houseSession : Session :=
  (((Session.register { number := 0, side := .client } chairInterface).bind 1 houseInterface 1)).session

def house : Object where
  session := 0
  serial := 0
  id := 1
  interface := houseInterface
  version := 1
  generation := 1

/-- The values of a request for a piece of furniture. -/
def piece
    (name : String) :
    List Passed :=
  [⟨.newId 0 (Bytes.ofText name) 2, none⟩]

/-- Lamps cannot have the id of the house, and a chair is had after the attempt as without it. -/
theorem failed_lamp_spares_chair :
    (houseSession.bind 1 lampInterface 3).result =
        .error (.refused { blame := .caller, reason := .bindRefused .inUse "lamp" 1 }) ∧
      NeverAsks "lamp" houseSession [.send {} (some house) 0 (piece "chair")] ∧
        replies (houseSession.bind 1 lampInterface 3).session
            [.send {} (some house) 0 (piece "chair")] =
          replies houseSession [.send {} (some house) 0 (piece "chair")] := by
  have failed : (houseSession.bind 1 lampInterface 3).result =
      .error (.refused { blame := .caller, reason := .bindRefused .inUse "lamp" 1 }) := by
    decide
  have unasked : NeverAsks "lamp" houseSession [.send {} (some house) 0 (piece "chair")] := by
    refine ⟨?_, trivial⟩
    rintro ⟨object, isHouse, signature, isMessage, pair, isMember, asks⟩
    cases isHouse
    cases isMessage
    obtain rfl := List.mem_singleton.mp isMember
    exact absurd asks (by unfold Asks; decide)
  obtain ⟨-, -, -, -, follows⟩ := failed_bind_shows_by_name_only failed
  exact ⟨failed, unasked, (follows _ (.inr unasked)).1⟩

/-- A lamp is refused as long as none was heard of, and had after an attempt that failed. -/
theorem failed_lamp_is_left_behind :
    (houseSession.bind 2 lampInterface 0).result =
        .error (.refused { blame := .caller, reason := .bindVersion "lamp" 0 }) ∧
      (houseSession.send {} (some house) 0 (piece "lamp")).1.result =
          .error (.refused
            { blame := .caller
              object := 1
              interface := "house"
              message := "furnish"
              reason := .argument (.unknownInterface (Bytes.ofText "lamp")) "piece" }) ∧
        ((houseSession.bind 2 lampInterface 0).session.send {} (some house) 0
            (piece "lamp")).1.result =
          .ok [⟨0, 1, 2, lampInterface, 2, 1⟩] := by
  decide

end Wayland.Session
