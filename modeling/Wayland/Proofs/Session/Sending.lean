import Wayland.Session.Basic
import Wayland.Proofs.Session.Growth

/-!
Contract: what sending a message does.

Owns:
- the version and interface a new object gets;
- the completed values of a message and the objects made for them, argument by argument;
- the checks before the values of a message are looked at;
- how many objects a message that is sent returns;
- the two outcomes of sending: a message leaves and its effects stay, or nothing is left of it.

Does not own: how the peer reads the message.
-/

namespace Wayland.Session

open Wayland.Text
open Wayland.Wire

/-- The table of a session keeps its invariant. -/
def WellFormed
    (session : Session) : Prop :=
  session.table.WellFormed session.number

/-- A session after an operation on a side's range that is not seen from outside: every id has the
status it had, and no range reaches farther. -/
structure Untouched
    (side : Side)
    (session next : Session) : Prop where
  session_eq : next = { session with table := next.table, made := next.made }
  wellFormed : next.WellFormed
  status_eq : ∀ id, next.table.status id = session.table.status id
  extent_le : next.table.extent side ≤ session.table.extent side
  extent_peer : next.table.extent side.peer = session.table.extent side.peer

theorem Untouched.refl
    {session : Session}
    (side : Side)
    (wellFormed : session.WellFormed) :
    Untouched side session session :=
  ⟨rfl, wellFormed, fun _ => rfl, Nat.le_refl _, rfl⟩

/-- The interface that is registered under a name given by its bytes. -/
def known?
    (session : Session)
    (wanted : Bytes) :
    Option (String × Interface) :=
  session.interfaces.find? fun (known, _) => Bytes.ofText known == wanted

/-- The name of the interface a new object should have. -/
def wantedName
    (slot : Slot)
    (name : Bytes) :
    Bytes :=
  if slot.isDynamic then name else Bytes.ofText slot.interface

def wantedVersion
    (slot : Slot)
    (inherited version : UInt32) :
    UInt32 :=
  if slot.isDynamic then version else inherited

section Resolving

variable {session other : Session} {parent : Object} {slot : Slot} {name : Bytes}
variable {version negotiated : UInt32} {interface : Interface}

/-- The interface of a new object is registered, and its version is the wanted one, capped by the
interface, and not zero. -/
theorem resolveNewId_eq_ok_iff :
    session.resolveNewId parent slot name version = .ok (interface, negotiated) ↔
      (∃ known, session.known? (wantedName slot name) = some (known, interface)) ∧
        negotiated = min (wantedVersion slot parent.version version) interface.version ∧
          negotiated ≠ 0 := by
  have wanted : (if slot.isDynamic then version else parent.version) =
      wantedVersion slot parent.version version := rfl
  unfold resolveNewId
  simp only [wanted]
  generalize wantedVersion slot parent.version version = requested
  split
  · rename_i unknown
    have unknown : session.known? (wantedName slot name) = none := unknown
    simp [unknown]
  · rename_i known registered found
    have found : session.known? (wantedName slot name) = some (known, registered) := found
    rw [found]
    simp only [Option.some.injEq, Prod.mk.injEq]
    split
    · rename_i zero
      constructor
      · intro impossible
        cases impossible
      · rintro ⟨⟨_, -, rfl⟩, rfl, notZero⟩
        exact absurd zero notZero
    · rename_i notZero
      constructor
      · intro resolved
        cases resolved
        exact ⟨⟨known, rfl, rfl⟩, rfl, notZero⟩
      · rintro ⟨⟨_, -, rfl⟩, rfl, -⟩
        rfl

/-- What a new object resolves to depends on the registered interfaces and the version of the parent
only. -/
theorem resolveNewId_congr
    {otherParent : Object}
    (sameKnown : ∀ wanted, other.known? wanted = session.known? wanted)
    (sameVersion : otherParent.version = parent.version)
    (resolved : session.resolveNewId parent slot name version = .ok (interface, negotiated)) :
    other.resolveNewId otherParent slot name version = .ok (interface, negotiated) := by
  rw [resolveNewId_eq_ok_iff] at resolved ⊢
  rw [sameKnown, sameVersion]
  exact resolved

/-- Asking again with the negotiated version changes nothing. -/
theorem resolveNewId_negotiated
    (resolved : session.resolveNewId parent slot name version = .ok (interface, negotiated))
    {carriedName : Bytes}
    {carriedVersion : UInt32}
    (dynamic : slot.isDynamic = true → carriedName = name ∧ carriedVersion = negotiated) :
    session.resolveNewId parent slot carriedName carriedVersion = .ok (interface, negotiated) := by
  rw [resolveNewId_eq_ok_iff] at resolved ⊢
  unfold wantedName wantedVersion at *
  by_cases isDynamic : slot.isDynamic = true
  · obtain ⟨rfl, rfl⟩ := dynamic isDynamic
    obtain ⟨known, negotiatedEq, notZero⟩ := resolved
    refine ⟨by simpa only [isDynamic, if_true] using known, ?_, notZero⟩
    have capped : carriedVersion ≤ interface.version := by
      rw [negotiatedEq]
      exact Std.min_le_right
    rw [if_pos isDynamic]
    exact (if_pos capped).symm
  · simpa only [if_neg isDynamic] using resolved

/-- A version that is capped by its interface and not zero makes a valid blueprint. -/
theorem blueprint_valid_of_ne_zero
    {wanted : UInt32}
    (notZero : min wanted interface.version ≠ 0) :
    (session.blueprint interface (min wanted interface.version)).Valid session.number := by
  refine ⟨rfl, ?_, ?_⟩
  · change 1 ≤ min wanted interface.version
    have positive : (min wanted interface.version).toNat ≠ 0 :=
      fun zero => notZero (UInt32.toNat_inj.mp zero)
    rw [UInt32.le_iff_toNat_le]
    exact Nat.one_le_iff_ne_zero.mpr positive
  · change min wanted interface.version ≤ interface.version
    exact Std.min_le_right

/-- What a new object resolves to makes a valid blueprint. -/
theorem blueprint_valid
    (resolved : session.resolveNewId parent slot name version = .ok (interface, negotiated)) :
    (other.blueprint interface negotiated).Valid other.number := by
  obtain ⟨-, rfl, notZero⟩ := resolveNewId_eq_ok_iff.mp resolved
  exact blueprint_valid_of_ne_zero notZero

end Resolving

def Suits
    (slot : Slot)
    (interface : Interface) : Prop :=
  slot.interface = "" ∨ interface.name = slot.interface

/-- A reference is accepted exactly if its id has a live object that suits the slot. -/
theorem referenceFault?_eq_none_iff
    {session : Session}
    {slot : Slot}
    {id : ObjectId} :
    session.referenceFault? slot id = none ↔
      ∃ object, session.table.lookup id = some object ∧ Suits slot object.interface := by
  unfold referenceFault? Suits
  cases session.table.lookup id with
  | none => simp
  | some object =>
      simp only [Option.some.injEq, exists_eq_left']
      split
      · rename_i unsuited
        simp [unsuited.1, unsuited.2]
      · rename_i suited
        simp only [true_iff]
        by_cases anyInterface : slot.interface = ""
        · exact Or.inl anyInterface
        · exact Or.inr (Decidable.byContradiction fun different => suited ⟨anyInterface, different⟩)

/-- The values a message is completed to and the objects made for it, argument by argument: a new
object gets its id and, in an open slot, the negotiated version; a reference to an object that was
live before suits its slot; every other value stays. -/
inductive Completes
    (session : Session)
    (target : Object) :
    List (Slot × Passed) → List Argument → List Object → Prop where
  | done : Completes session target [] [] []
  | newId
      {slot : Slot} {name : Bytes} {version : UInt32} {handle : Option Object} {object : Object}
      {pairs : List (Slot × Passed)} {values : List Argument} {objects : List Object} :
      slot.kind = .newId →
        session.resolveNewId target slot name version = .ok (object.interface, object.version) →
          Completes session target pairs values objects →
            Completes session target ((slot, ⟨.newId 0 name version, handle⟩) :: pairs)
              (.newId object.id name (if slot.isDynamic then object.version else version) :: values)
              (object :: objects)
  | reference
      {slot : Slot} {id : ObjectId} {handle : Option Object}
      {pairs : List (Slot × Passed)} {values : List Argument} {objects : List Object} :
      slot.kind = .object →
        (id ≠ 0 → ∀ object, session.table.status id = .live object →
          Suits slot object.interface) →
          Completes session target pairs values objects →
            Completes session target ((slot, ⟨.object id, handle⟩) :: pairs) (.object id :: values)
              objects
  | plain
      {slot : Slot} {passed : Passed}
      {pairs : List (Slot × Passed)} {values : List Argument} {objects : List Object} :
      passed.value.kind = slot.kind → passed.value.kind ≠ .newId → passed.value.kind ≠ .object →
        Completes session target pairs values objects →
          Completes session target ((slot, passed) :: pairs) (passed.value :: values) objects

/-- A draft that grew from a session by making some objects. -/
structure Draft.GrownFrom
    (session : Session)
    (objects : List Object)
    (draft : Draft) : Prop where
  created_eq : draft.created = objects.reverse
  session_eq :
    draft.session = { session with table := draft.session.table, made := draft.session.made }
  growth : Table.Growth session.number session.side session.table objects draft.session.table

/-- A draft that grew from a session knows the same interfaces. -/
theorem Draft.GrownFrom.known?_eq
    {session : Session}
    {objects : List Object}
    {draft : Draft}
    (grown : draft.GrownFrom session objects)
    (wanted : Bytes) :
    draft.session.known? wanted = session.known? wanted := by
  rw [grown.session_eq]
  rfl

/-- A draft after one more argument: what the argument was completed to stands last, the objects made
for it are new, and whatever completes the arguments that follow completes this one before them. -/
structure Draft.Advances
    (session : Session)
    (objects : List Object)
    (target : Object)
    (pair : Slot × Passed)
    (draft next : Draft)
    (value : Argument)
    (made : List Object) : Prop where
  values_eq : next.values = value :: draft.values
  grown : next.GrownFrom session (objects ++ made)
  completes : ∀ pairs values others, Completes session target pairs values others →
    Completes session target (pair :: pairs) (value :: values) (made ++ others)

section Advancing

variable {session : Session} {objects : List Object} {draft next : Draft} {target : Object}
variable {slot : Slot} {handle : Option Object}

/-- Only a value of the kind of its slot is completed. -/
theorem kind_of_prepareOne
    {passed : Passed}
    (prepared : prepareOne target slot passed draft = .ok next) :
    passed.value.kind = slot.kind := by
  unfold prepareOne at prepared
  split at prepared
  · cases prepared
  · rename_i sameKind
    exact Decidable.not_not.mp sameKind

/-- A reference that is not refused stays as it is; unless it is null, it was looked up. -/
theorem prepareOne_reference
    {id : ObjectId}
    (prepared : prepareOne target slot ⟨.object id, handle⟩ draft = .ok next) :
    next = { draft with values := .object id :: draft.values } ∧
      (id = 0 ∨ draft.session.referenceFault? slot id = none) := by
  have sameKind := kind_of_prepareOne prepared
  unfold prepareOne at prepared
  rw [if_neg (Decidable.not_not.mpr sameKind)] at prepared
  simp only at prepared
  split at prepared
  · cases prepared
  · split at prepared
    · rename_i null
      cases prepared
      exact ⟨rfl, Or.inl null⟩
    · split at prepared
      · cases prepared
      · rename_i accepted
        cases prepared
        exact ⟨rfl, Or.inr accepted⟩

/-- A new object that is not refused had no id yet; its interface and version were found, and the
table had an id for it. -/
theorem prepareOne_newId
    {id : ObjectId}
    {name : Bytes}
    {version : UInt32}
    (prepared : prepareOne target slot ⟨.newId id name version, handle⟩ draft = .ok next) :
    id = 0 ∧ ∃ interface negotiated object table,
      draft.session.resolveNewId target slot name version = .ok (interface, negotiated) ∧
        draft.session.table.allocate draft.session.side
            (draft.session.blueprint interface negotiated) = .ok (object, table) ∧
          next =
            { session := draft.session.afterMaking table
              created := object :: draft.created
              values :=
                .newId object.id name (if slot.isDynamic then negotiated else version) ::
                  draft.values } := by
  have sameKind := kind_of_prepareOne prepared
  unfold prepareOne at prepared
  rw [if_neg (Decidable.not_not.mpr sameKind)] at prepared
  simp only at prepared
  split at prepared
  · cases prepared
  · rename_i unset
    split at prepared
    · cases prepared
    · rename_i interface negotiated resolved
      split at prepared
      · cases prepared
      · rename_i object table allocated
        cases prepared
        exact ⟨Decidable.not_not.mp unset, interface, negotiated, object, table, resolved, allocated,
          rfl⟩

/-- A value that makes no object is put into the draft as it is. -/
theorem prepareOne_of_kind_ne
    {passed : Passed}
    (makesNothing : passed.value.kind ≠ .newId)
    (prepared : prepareOne target slot passed draft = .ok next) :
    next = { draft with values := passed.value :: draft.values } := by
  have sameKind := kind_of_prepareOne prepared
  obtain ⟨value, handle⟩ := passed
  cases value with
  | object id => exact (prepareOne_reference prepared).1
  | newId id name version => exact absurd rfl makesNothing
  | int value | uint value | fixed value | string value | array value | fd value
  | unassigned value =>
      unfold prepareOne at prepared
      rw [if_neg (Decidable.not_not.mpr sameKind)] at prepared
      exact (Except.ok.inj prepared).symm

/-- Completing a value changes the table and the count of objects only, and never sets the count
back. -/
theorem prepareOne_session
    {passed : Passed}
    (prepared : prepareOne target slot passed draft = .ok next) :
    next.session =
        { draft.session with table := next.session.table, made := next.session.made } ∧
      draft.session.made ≤ next.session.made := by
  by_cases makes : passed.value.kind = .newId
  · obtain ⟨value, handle⟩ := passed
    cases value with
    | newId id name version =>
        obtain ⟨-, interface, negotiated, object, table, -, -, rfl⟩ := prepareOne_newId prepared
        exact ⟨rfl, Nat.le_succ _⟩
    | _ => simp [Argument.kind] at makes
  · rw [prepareOne_of_kind_ne makes prepared]
    exact ⟨rfl, Nat.le_refl _⟩

/-- A value that is put into the draft as it is leaves the session of the draft alone. -/
theorem Draft.GrownFrom.advances_of_stays
    (grown : draft.GrownFrom session objects)
    {pair : Slot × Passed}
    {value : Argument}
    (completes : ∀ pairs values others, Completes session target pairs values others →
      Completes session target (pair :: pairs) (value :: values) others) :
    Draft.Advances session objects target pair draft
      { draft with values := value :: draft.values } value [] := by
  refine ⟨rfl, ?_, completes⟩
  rw [List.append_nil]
  exact ⟨grown.created_eq, grown.session_eq, grown.growth⟩

/-- A reference that the grown draft accepts suits its slot also in the session, if its object was
live there already. -/
theorem Draft.GrownFrom.suits_of_live
    (grown : draft.GrownFrom session objects)
    {id : ObjectId}
    (accepted : draft.session.referenceFault? slot id = none)
    {object : Object}
    (live : session.table.status id = .live object) :
    Suits slot object.interface := by
  obtain ⟨found, lookup, suits⟩ := referenceFault?_eq_none_iff.mp accepted
  -- The ids of the objects that the draft made were vacant before.
  have untouched : ∀ made ∈ objects, made.id ≠ id := by
    intro made member same
    rw [← same, grown.growth.vacant made member] at live
    cases live
  rw [Table.lookup_eq_some_iff, grown.growth.status_of_other untouched, live] at lookup
  cases lookup
  exact suits

/-- An object that the table of the grown draft had an id for. -/
theorem Draft.GrownFrom.advances_of_allocate
    (wellFormed : session.WellFormed)
    (grown : draft.GrownFrom session objects)
    {name : Bytes}
    {version negotiated : UInt32}
    {interface : Interface}
    {object : Object}
    {table : Table}
    (kind : slot.kind = .newId)
    (resolved :
      draft.session.resolveNewId target slot name version = .ok (interface, negotiated))
    (allocated : draft.session.table.allocate draft.session.side
      (draft.session.blueprint interface negotiated) = .ok (object, table)) :
    Draft.Advances session objects target (slot, ⟨.newId 0 name version, handle⟩) draft
      { session := draft.session.afterMaking table
        created := object :: draft.created
        values :=
          .newId object.id name (if slot.isDynamic then negotiated else version) :: draft.values }
      (.newId object.id name (if slot.isDynamic then negotiated else version)) [object] := by
  have resolvedBefore :=
    resolveNewId_congr (fun wanted => (grown.known?_eq wanted).symm) rfl resolved
  have number : draft.session.number = session.number := by rw [grown.session_eq]
  have side : draft.session.side = session.side := by rw [grown.session_eq]
  have valid : (draft.session.blueprint interface negotiated).Valid session.number := by
    rw [← number]
    exact blueprint_valid resolved
  rw [side] at allocated
  obtain ⟨gains, madeOf⟩ := Table.gainsNext_allocate
    (grown.growth.wellFormed wellFormed) valid allocated
  obtain ⟨rfl, rfl⟩ : object.interface = interface ∧ object.version = negotiated := by
    simp only [Object.blueprint, blueprint, Blueprint.mk.injEq] at madeOf
    exact madeOf.2.2
  refine ⟨rfl, ⟨?_, ?_, .step grown.growth gains⟩, ?_⟩
  · simp [grown.created_eq]
  · rw [grown.session_eq]
    rfl
  · intro pairs values others completes
    exact .newId kind resolvedBefore completes

/-- One value is completed: the draft grows by the object made for it, if any. -/
theorem prepareOne_advances
    (wellFormed : session.WellFormed)
    (grown : draft.GrownFrom session objects)
    {passed : Passed}
    (prepared : prepareOne target slot passed draft = .ok next) :
    ∃ value made, Draft.Advances session objects target (slot, passed) draft next value made := by
  have sameKind := kind_of_prepareOne prepared
  obtain ⟨value, handle⟩ := passed
  cases value with
  | object id =>
      obtain ⟨rfl, accepted⟩ := prepareOne_reference prepared
      refine ⟨.object id, [], grown.advances_of_stays ?_⟩
      intro pairs values others completes
      refine .reference sameKind.symm ?_ completes
      intro notNull object live
      exact grown.suits_of_live (accepted.resolve_left notNull) live
  | newId id name version =>
      obtain ⟨rfl, interface, negotiated, object, table, resolved, allocated, rfl⟩ :=
        prepareOne_newId prepared
      exact ⟨_, _, grown.advances_of_allocate wellFormed sameKind.symm resolved allocated⟩
  | int value | uint value | fixed value | string value | array value | fd value
  | unassigned value =>
      rw [prepareOne_of_kind_ne (by simp [Argument.kind]) prepared]
      refine ⟨_, [], grown.advances_of_stays ?_⟩
      intro pairs values others completes
      exact .plain sameKind (by simp [Argument.kind]) (by simp [Argument.kind]) completes

end Advancing

section Preparing

variable {session : Session} {objects : List Object} {draft final : Draft} {target : Object}
variable {pairs : List (Slot × Passed)}

/-- What every completed value preserves holds of the draft, however far the values were
completed. -/
theorem prepare_preserves
    {motive : Draft → Prop}
    (complete : ∀ draft slot passed next, motive draft →
      prepareOne target slot passed draft = .ok next → motive next)
    (start : motive draft)
    {refusal : Option Reason}
    (prepared : prepare target draft pairs = (final, refusal)) :
    motive final := by
  induction pairs generalizing draft with
  | nil =>
      cases prepared
      exact start
  | cons pair pairs inductionHypothesis =>
      obtain ⟨slot, passed⟩ := pair
      simp only [prepare] at prepared
      split at prepared
      · cases prepared
        exact start
      · rename_i next first
        exact inductionHypothesis (complete draft slot passed next start first) prepared

/-- Values are all completed exactly if the first is and, after it, the others are. -/
theorem prepare_cons_eq_iff
    {slot : Slot}
    {passed : Passed} :
    prepare target draft ((slot, passed) :: pairs) = (final, none) ↔
      ∃ next, prepareOne target slot passed draft = .ok next ∧
        prepare target next pairs = (final, none) := by
  rw [prepare]
  cases prepareOne target slot passed draft <;> simp

/-- However far the values were completed, the draft grew from the session. -/
theorem prepare_grown
    (wellFormed : session.WellFormed)
    (grown : draft.GrownFrom session objects)
    {refusal : Option Reason}
    (prepared : prepare target draft pairs = (final, refusal)) :
    ∃ made, final.GrownFrom session made := by
  refine prepare_preserves (motive := fun draft => ∃ made, draft.GrownFrom session made) ?_
    ⟨objects, grown⟩ prepared
  rintro draft slot passed next ⟨objects, grown⟩ first
  obtain ⟨value, made, advances⟩ := prepareOne_advances wellFormed grown first
  exact ⟨_, advances.grown⟩

/-- When no value is refused, all are completed. -/
theorem prepare_completes
    (wellFormed : session.WellFormed)
    (grown : draft.GrownFrom session objects)
    (prepared : prepare target draft pairs = (final, none)) :
    ∃ values made,
      final.values = values.reverse ++ draft.values ∧ final.GrownFrom session (objects ++ made) ∧
        Completes session target pairs values made := by
  induction pairs generalizing draft objects with
  | nil =>
      cases prepared
      exact ⟨[], [], rfl, by rwa [List.append_nil], .done⟩
  | cons pair pairs inductionHypothesis =>
      obtain ⟨slot, passed⟩ := pair
      obtain ⟨next, first, rest⟩ := prepare_cons_eq_iff.mp prepared
      obtain ⟨value, made, advances⟩ := prepareOne_advances wellFormed grown first
      obtain ⟨values, others, restEq, grownFinal, completesRest⟩ :=
        inductionHypothesis advances.grown rest
      refine ⟨value :: values, made ++ others, ?_, ?_, advances.completes _ _ _ completesRest⟩
      · rw [restEq, advances.values_eq, List.reverse_cons, List.append_assoc,
          List.singleton_append]
      · rwa [← List.append_assoc]

/-- Giving back the objects of a draft leaves the session untouched. -/
theorem Draft.GrownFrom.untouched
    (grown : draft.GrownFrom session objects)
    (wellFormed : session.WellFormed) :
    Untouched session.side session (draft.session.abandonAll draft.created) := by
  obtain ⟨retracted, status, extentLe, extentPeer⟩ := grown.growth.retract wellFormed
  rw [← grown.created_eq] at retracted status extentLe extentPeer
  have number : (draft.session.abandonAll draft.created).number = session.number := by
    rw [grown.session_eq]
    rfl
  refine ⟨?_, ?_, status, extentLe, extentPeer⟩
  · rw [grown.session_eq]
    rfl
  · unfold WellFormed
    rw [number]
    exact retracted

end Preparing

/-- A destructor changes only the table. -/
theorem destroyTarget_eq
    (session : Session)
    (target : Object)
    (signature : Signature) :
    (session.destroyTarget target signature).1 =
      { session with table := (session.destroyTarget target signature).1.table } := by
  unfold destroyTarget
  split <;> rfl

/-- A message that left: what was asked for, and what went to the transport. -/
structure Departure where
  target : Object
  opcode : UInt16
  signature : Signature
  passed : List Passed
  /-- The completed values. -/
  values : List Argument
  created : List Object
  payload : Payload
  bytes : Bytes

/-- A session sent a message and stays with its effects. -/
structure Departure.Leaves
    (departure : Departure)
    (session next : Session) : Prop where
  alive : session.isAlive departure.target = true
  message :
    departure.target.interface.message? session.side.sends departure.opcode =
      some departure.signature
  available : ¬departure.signature.since > departure.target.version
  sameLength : departure.passed.length = departure.signature.slots.length
  completes :
    Completes session departure.target (departure.signature.slots.zip departure.passed)
      departure.values departure.created
  encoded : Wire.encode departure.signature departure.values = .ok departure.payload
  framed :
    Frame.encode departure.target.id departure.opcode departure.payload.body =
      .ok departure.bytes
  grows : ∃ table made,
    Table.Growth session.number session.side session.table departure.created table ∧
      next =
        ({ session with table, made }.destroyTarget departure.target departure.signature).1

/-- What is in a transport behind other things. -/
def Transport.Carries
    (transport : Transport)
    (next : Transport)
    (bytes : Bytes)
    (descriptors : List Int) : Prop :=
  next.bytes = transport.bytes ++ bytes ∧ next.descriptors = transport.descriptors ++ descriptors

section Sending

variable {session : Session}

/-- Writing completed values has two outcomes. -/
theorem write_cases
    (wellFormed : session.WellFormed)
    {draft : Draft}
    {objects : List Object}
    (grown : draft.GrownFrom session objects)
    (transport : Transport)
    (object : Object)
    (opcode : UInt16)
    (signature : Signature) :
    (∃ failure,
      (write draft transport object opcode signature).1.result = .error failure ∧
        Untouched session.side session
            (write draft transport object opcode signature).1.session ∧
          transport.Carries (write draft transport object opcode signature).2 [] []) ∨
    (∃ payload bytes,
      Wire.encode signature draft.values.reverse = .ok payload ∧
        Frame.encode object.id opcode payload.body = .ok bytes ∧
          (write draft transport object opcode signature).1.result = .ok objects ∧
            (write draft transport object opcode signature).1.session =
                (draft.session.destroyTarget object signature).1 ∧
              transport.Carries (write draft transport object opcode signature).2 bytes
                payload.descriptors) := by
  have untouched := grown.untouched wellFormed
  unfold write
  cases framed : draft.frame object opcode signature with
  | error error => exact Or.inl ⟨_, rfl, untouched, by simp [Transport.Carries]⟩
  | ok message =>
      unfold Draft.frame at framed
      split at framed
      · cases framed
      · rename_i payload encoded
        split at framed
        · cases framed
        · rename_i bytes frameEncoded
          cases framed
          unfold Transport.write
          cases transport.refusal with
          | some text => exact Or.inl ⟨_, rfl, untouched, by simp [Transport.Carries]⟩
          | none =>
              refine Or.inr ⟨payload, bytes, encoded, frameEncoded, ?_, rfl, rfl, rfl⟩
              simp [grown.created_eq]

/-- A message passes the checks before its values are looked at. -/
structure Admits
    (session : Session)
    (target : Object)
    (opcode : UInt16)
    (values : List Passed)
    (signature : Signature) : Prop where
  alive : session.isAlive target = true
  message : target.interface.message? session.side.sends opcode = some signature
  available : ¬signature.since > target.version
  sameLength : values.length = signature.slots.length

/-- The values of an admitted message are completed, and it is written. -/
theorem Admits.send_eq
    {target : Object}
    {opcode : UInt16}
    {values : List Passed}
    {signature : Signature}
    (admits : session.Admits target opcode values signature)
    (transport : Transport) :
    session.send transport (some target) opcode values =
      match prepare target { session } (signature.slots.zip values) with
      | (draft, some reason) =>
          ((draft.session.abandonAll draft.created).refuse
            (.atObject .caller target (some signature) reason), transport)
      | (draft, none) => write draft transport target opcode signature := by
  have notDead : ¬(!session.isAlive target) = true := by simp [admits.alive]
  unfold send
  simp only [if_neg notDead, admits.message, if_neg admits.available]
  exact if_neg (Decidable.not_not.mpr admits.sameLength)

/-- A message that is sent is refused at once, or admitted. -/
theorem send_refused_or_admitted
    (session : Session)
    (transport : Transport)
    (target : Option Object)
    (opcode : UInt16)
    (values : List Passed) :
    (∃ error : Error,
      error.blame = .caller ∧
        session.send transport target opcode values = (session.refuse error, transport)) ∨
    (∃ object signature, target = some object ∧ session.Admits object opcode values signature) := by
  cases target with
  | none => exact Or.inl ⟨_, rfl, rfl⟩
  | some object =>
      unfold send
      simp only
      split
      · exact Or.inl ⟨_, rfl, rfl⟩
      · rename_i alive
        split
        · exact Or.inl ⟨_, rfl, rfl⟩
        · rename_i signature message
          split
          · exact Or.inl ⟨_, rfl, rfl⟩
          · rename_i available
            split
            · exact Or.inl ⟨_, rfl, rfl⟩
            · rename_i sameLength
              exact Or.inr ⟨object, signature, rfl, by simpa using alive, message, available,
                Decidable.not_not.mp sameLength⟩

/-- A completed value makes an object exactly where its slot holds a new one. -/
theorem prepareOne_created
    {target : Object}
    {slot : Slot}
    {passed : Passed}
    {draft next : Draft}
    (prepared : prepareOne target slot passed draft = .ok next) :
    next.created.length = draft.created.length + if slot.kind = .newId then 1 else 0 := by
  have sameKind := kind_of_prepareOne prepared
  by_cases makes : passed.value.kind = .newId
  · obtain ⟨value, handle⟩ := passed
    cases value with
    | newId id name version =>
        obtain ⟨-, interface, negotiated, object, table, -, -, rfl⟩ := prepareOne_newId prepared
        simp [← sameKind, Argument.kind]
    | _ => simp [Argument.kind] at makes
  · rw [prepareOne_of_kind_ne makes prepared, ← sameKind, if_neg makes]
    rfl

theorem prepare_created
    {target : Object}
    {draft final : Draft}
    {pairs : List (Slot × Passed)}
    (prepared : prepare target draft pairs = (final, none)) :
    final.created.length =
      draft.created.length + (pairs.map (·.1)).countP (·.kind = .newId) := by
  induction pairs generalizing draft with
  | nil =>
      cases prepared
      simp
  | cons pair pairs inductionHypothesis =>
      obtain ⟨slot, passed⟩ := pair
      obtain ⟨next, first, rest⟩ := prepare_cons_eq_iff.mp prepared
      rw [inductionHypothesis rest, prepareOne_created first]
      simp only [List.map_cons, List.countP_cons, decide_eq_true_eq]
      omega

/-- The values of a message that is sent were completed, and what was made for them is returned. -/
theorem prepared_of_send
    {transport : Transport}
    {target : Object}
    {opcode : UInt16}
    {values : List Passed}
    {created : List Object}
    (sent : (session.send transport (some target) opcode values).1.result = .ok created) :
    ∃ signature draft,
      session.Admits target opcode values signature ∧
        prepare target { session } (signature.slots.zip values) = (draft, none) ∧
          created = draft.created.reverse := by
  rcases send_refused_or_admitted session transport (some target) opcode values with
    ⟨error, -, refused⟩ | ⟨object, signature, isTarget, admits⟩
  · rw [refused] at sent
    cases sent
  · cases isTarget
    rw [admits.send_eq] at sent
    split at sent
    · cases sent
    · rename_i draft prepared
      refine ⟨signature, draft, admits, prepared, ?_⟩
      unfold write at sent
      split at sent
      · cases sent
      · split at sent
        · cases sent
        · exact (Except.ok.inj sent).symm

/-- A message that is sent returns one object for every slot that holds a new one. -/
theorem length_created_of_send
    {target : Object}
    {opcode : UInt16}
    {values : List Passed}
    {signature : Signature}
    {created : List Object}
    (message : target.interface.message? session.side.sends opcode = some signature)
    (transport : Transport)
    (sent : (session.send transport (some target) opcode values).1.result = .ok created) :
    created.length = signature.slots.countP (·.kind = .newId) := by
  obtain ⟨found, draft, admits, prepared, rfl⟩ := prepared_of_send sent
  obtain rfl : signature = found := Option.some.inj (message.symm.trans admits.message)
  have length := prepare_created prepared
  rw [List.map_fst_zip (Nat.le_of_eq admits.sameLength.symm)] at length
  simpa using length

/-- Sending has two outcomes: nothing is left of the message in the session or the transport, or the
whole message went to the transport. -/
theorem send_cases
    (wellFormed : session.WellFormed)
    (transport : Transport)
    (target : Option Object)
    (opcode : UInt16)
    (passed : List Passed) :
    (∃ failure,
      (session.send transport target opcode passed).1.result = .error failure ∧
        Untouched session.side session
            (session.send transport target opcode passed).1.session ∧
          transport.Carries (session.send transport target opcode passed).2 [] []) ∨
    (∃ departure : Departure,
      target = some departure.target ∧ opcode = departure.opcode ∧ passed = departure.passed ∧
        (session.send transport target opcode passed).1.result = .ok departure.created ∧
          departure.Leaves session (session.send transport target opcode passed).1.session ∧
            transport.Carries (session.send transport target opcode passed).2 departure.bytes
              departure.payload.descriptors) := by
  rcases send_refused_or_admitted session transport target opcode passed with
    ⟨error, -, refused⟩ | ⟨object, signature, rfl, admits⟩
  · rw [refused]
    exact Or.inl ⟨_, rfl, .refl _ wellFormed, by simp [Transport.Carries]⟩
  · have start : Draft.GrownFrom session [] { session } := ⟨rfl, rfl, .start⟩
    rw [admits.send_eq]
    split
    · rename_i draft reason prepared
      obtain ⟨made, grown⟩ := prepare_grown wellFormed start prepared
      exact Or.inl ⟨_, rfl, grown.untouched wellFormed, by simp [Transport.Carries]⟩
    · rename_i draft prepared
      obtain ⟨values, made, valuesEq, grown, completes⟩ :=
        prepare_completes wellFormed start prepared
      rw [List.nil_append] at grown
      rw [List.append_nil] at valuesEq
      rcases write_cases wellFormed grown transport object opcode signature with failed | written
      · exact Or.inl failed
      · obtain ⟨payload, bytes, encoded, framed, result, next, carries⟩ := written
        rw [valuesEq, List.reverse_reverse] at encoded
        refine Or.inr ⟨⟨object, opcode, signature, passed, values, made, payload, bytes⟩, rfl, rfl,
          rfl, result, ?_, carries⟩
        refine ⟨admits.alive, admits.message, admits.available, admits.sameLength, completes,
          encoded, framed, draft.session.table, draft.session.made, grown.growth, ?_⟩
        rw [next, grown.session_eq]

end Sending

end Wayland.Session
