import Mathlib.Data.List.Forall2
import Wayland.Proofs.Session.Counterpart

/-!
Contract: sessions in lockstep, which differ only in what they counted.

Owns:
- sessions whose tables match and whose handles stand for each other;
- that checks of handles and references have the same outcome in both;
- that sending and decoding make matching objects in both, or are refused by both.

Does not own: runs of operations, or why sessions are in lockstep.
-/

namespace Wayland.Session

open Wayland.Text
open Wayland.Wire

/-- Two sessions with the same interfaces and matching tables.  A handle stands for one handle only,
with the same id, interface and version, and both sessions counted the objects of their own. -/
structure Lockstep
    (stands : Object → Object → Prop)
    (left right : Session) : Prop where
  number_eq : right.number = left.number
  side_eq : right.side = left.side
  interfaces_eq : right.interfaces = left.interfaces
  table : left.table.Matches stands right.table
  outline : ∀ object mirror, stands object mirror →
    mirror.session = object.session ∧ mirror.id = object.id ∧
      mirror.interface = object.interface ∧ mirror.version = object.version
  unique : ∀ object mirror other otherMirror, stands object mirror → stands other otherMirror →
    (object = other ↔ mirror = otherMirror)
  counted : ∀ object mirror, stands object mirror → object.session = left.number →
    object.serial < left.made ∧ mirror.serial < right.made

/-- Two operations both fail, or both succeed with related results. -/
inductive Together
    {ε δ α β : Type}
    (related : α → β → Prop) :
    Except ε α → Except δ β → Prop where
  | refused {error : ε} {mirrorError : δ} : Together related (.error error) (.error mirrorError)
  | done {result : α} {mirrorResult : β} : related result mirrorResult →
      Together related (.ok result) (.ok mirrorResult)

theorem Together.cases
    {ε δ α β : Type}
    {related : α → β → Prop}
    {left : Except ε α}
    {right : Except δ β}
    (together : Together related left right) :
    (∃ error mirrorError, left = .error error ∧ right = .error mirrorError) ∨
      ∃ result mirrorResult, left = .ok result ∧ right = .ok mirrorResult ∧
        related result mirrorResult := by
  cases together with
  | refused => exact Or.inl ⟨_, _, rfl, rfl⟩
  | done related => exact Or.inr ⟨_, _, rfl, rfl, related⟩

/-- The same value twice, made from handles that stand for each other. -/
structure Passed.Matches
    (stands : Object → Object → Prop)
    (passed mirror : Passed) : Prop where
  value_eq : mirror.value = passed.value
  handle : Option.Rel stands passed.handle mirror.handle

theorem optionRel_mono
    {α β : Type}
    {related wider : α → β → Prop}
    (le : related ≤ wider)
    {left : Option α}
    {right : Option β}
    (rel : Option.Rel related left right) :
    Option.Rel wider left right := by
  cases rel with
  | none => exact .none
  | some related => exact .some (le _ _ related)

theorem Passed.Matches.mono
    {stands wider : Object → Object → Prop}
    {passed mirror : Passed}
    (matching : passed.Matches stands mirror)
    (le : stands ≤ wider) :
    passed.Matches wider mirror :=
  ⟨matching.value_eq, optionRel_mono le matching.handle⟩

section Checking

variable {stands : Object → Object → Prop} {left right : Session} {object mirror : Object}
variable {slot : Slot} {id : ObjectId}

/-- A handle is alive exactly if the one that stands for it is. -/
theorem Lockstep.isAlive_eq
    (lockstep : Lockstep stands left right)
    (related : stands object mirror) :
    right.isAlive mirror = left.isAlive object := by
  obtain ⟨sessionEq, idEq, -, -⟩ := lockstep.outline _ _ related
  unfold isAlive
  rw [sessionEq, idEq, lockstep.number_eq]
  have found := lockstep.table.lookup object.id
  generalize left.table.lookup object.id = live?, right.table.lookup object.id = mirrorLive? at found
  cases found with
  | none => rfl
  | @some first second standing =>
      have same := lockstep.unique _ _ _ _ standing related
      have sameTest : (some second == some mirror) = (some first == some object) := by
        rw [Bool.eq_iff_iff, beq_iff_eq, beq_iff_eq, Option.some.injEq, Option.some.injEq]
        exact same.symm
      rw [sameTest]

/-- A handle is at fault exactly if the one that stands for it is. -/
theorem Lockstep.handleFault?
    (lockstep : Lockstep stands left right)
    {handle mirrorHandle : Option Object}
    (handles : Option.Rel stands handle mirrorHandle)
    (id : ObjectId) :
    Option.Rel (fun _ _ => True) (left.handleFault? id handle)
      (right.handleFault? id mirrorHandle) := by
  cases handles with
  | none => exact .none
  | some related =>
      obtain ⟨sessionEq, idEq, -, -⟩ := lockstep.outline _ _ related
      unfold Session.handleFault?
      simp only [sessionEq, idEq, lockstep.number_eq, lockstep.isAlive_eq related]
      split
      · exact .some trivial
      · split
        · exact .some trivial
        · exact .none

/-- A reference is at fault in both, or in neither. -/
theorem Lockstep.referenceFault?
    (lockstep : Lockstep stands left right)
    (slot : Slot)
    (id : ObjectId) :
    Option.Rel (fun _ _ => True) (left.referenceFault? slot id) (right.referenceFault? slot id) := by
  have found := lockstep.table.lookup id
  unfold Session.referenceFault?
  generalize left.table.lookup id = live?, right.table.lookup id = mirrorLive? at found
  cases found with
  | none => exact .some trivial
  | some standing =>
      obtain ⟨-, -, interfaceEq, -⟩ := lockstep.outline _ _ standing
      simp only [interfaceEq]
      split
      · exact .some trivial
      · exact .none

/-- A new object resolves to the same interface and version in both. -/
theorem Lockstep.resolveNewId_eq
    (lockstep : Lockstep stands left right)
    (related : stands object mirror)
    (slot : Slot)
    (name : Bytes)
    (version : UInt32) :
    right.resolveNewId mirror slot name version = left.resolveNewId object slot name version := by
  obtain ⟨-, -, -, versionEq⟩ := lockstep.outline _ _ related
  unfold resolveNewId
  rw [lockstep.interfaces_eq, versionEq]

end Checking

section Making

variable {stands : Object → Object → Prop} {left right : Session} {object mirror : Object}

/-- New objects of both sessions at the same id stand for each other from then on. -/
theorem Lockstep.make
    (lockstep : Lockstep stands left right)
    {interface : Interface}
    {version : UInt32}
    (madeOf : object.blueprint = left.blueprint interface version)
    (mirrorMadeOf : mirror.blueprint = right.blueprint interface version)
    (idEq : mirror.id = object.id)
    {table mirrorTable : Table}
    (matching : ∀ wider, stands ≤ wider → wider object mirror → table.Matches wider mirrorTable) :
    ∃ wider, stands ≤ wider ∧ wider object mirror ∧
      Lockstep wider (left.afterMaking table) (right.afterMaking mirrorTable) := by
  simp only [Object.blueprint, blueprint, Blueprint.mk.injEq] at madeOf mirrorMadeOf
  obtain ⟨sessionEq, serialEq, interfaceEq, versionEq⟩ := madeOf
  obtain ⟨mirrorSessionEq, mirrorSerialEq, mirrorInterfaceEq, mirrorVersionEq⟩ := mirrorMadeOf
  -- Neither of the new objects was counted before, so no other handle stands for one of them.
  have apart : ∀ other otherMirror, stands other otherMirror →
      object ≠ other ∧ mirror ≠ otherMirror := by
    intro other otherMirror related
    obtain ⟨sameSession, -, -, -⟩ := lockstep.outline _ _ related
    constructor
    · rintro rfl
      have counted := (lockstep.counted _ _ related sessionEq).1
      omega
    · rintro rfl
      have own : other.session = left.number := by
        rw [← sameSession, mirrorSessionEq, lockstep.number_eq]
      have counted := (lockstep.counted _ _ related own).2
      omega
  refine ⟨fun first second => stands first second ∨ first = object ∧ second = mirror,
    fun _ _ related => Or.inl related, Or.inr ⟨rfl, rfl⟩, lockstep.number_eq, lockstep.side_eq,
    lockstep.interfaces_eq, matching _ (fun _ _ related => Or.inl related) (Or.inr ⟨rfl, rfl⟩),
    ?_, ?_, ?_⟩
  · rintro first second (related | ⟨rfl, rfl⟩)
    · exact lockstep.outline _ _ related
    · rw [mirrorSessionEq, sessionEq, mirrorInterfaceEq, interfaceEq, mirrorVersionEq, versionEq]
      exact ⟨lockstep.number_eq, idEq, rfl, rfl⟩
  · rintro first second other otherMirror (related | ⟨rfl, rfl⟩) (otherRelated | ⟨rfl, rfl⟩)
    · exact lockstep.unique _ _ _ _ related otherRelated
    · obtain ⟨notObject, notMirror⟩ := apart _ _ related
      exact ⟨fun same => absurd same.symm notObject, fun same => absurd same.symm notMirror⟩
    · obtain ⟨notObject, notMirror⟩ := apart _ _ otherRelated
      exact ⟨fun same => absurd same notObject, fun same => absurd same notMirror⟩
    · simp
  · rintro first second (related | ⟨rfl, rfl⟩) own
    · have counted := lockstep.counted _ _ related own
      exact ⟨Nat.lt_succ_of_lt counted.1, Nat.lt_succ_of_lt counted.2⟩
    · rw [serialEq, mirrorSerialEq]
      exact ⟨Nat.lt_succ_self _, Nat.lt_succ_self _⟩

/-- Sessions stay in lockstep with other tables that match, however many objects were made since. -/
theorem Lockstep.with_tables
    (lockstep : Lockstep stands left right)
    {next mirrorNext : Session}
    (sessionEq : next = { left with table := next.table, made := next.made })
    (mirrorSessionEq : mirrorNext = { right with table := mirrorNext.table, made := mirrorNext.made })
    (matching : next.table.Matches stands mirrorNext.table)
    (madeLe : left.made ≤ next.made)
    (mirrorMadeLe : right.made ≤ mirrorNext.made) :
    Lockstep stands next mirrorNext where
  number_eq := by rw [sessionEq, mirrorSessionEq, lockstep.number_eq]
  side_eq := by rw [sessionEq, mirrorSessionEq, lockstep.side_eq]
  interfaces_eq := by rw [sessionEq, mirrorSessionEq, lockstep.interfaces_eq]
  table := matching
  outline := lockstep.outline
  unique := lockstep.unique
  counted := by
    intro first second related own
    rw [sessionEq] at own
    have counted := lockstep.counted _ _ related own
    exact ⟨Nat.lt_of_lt_of_le counted.1 madeLe, Nat.lt_of_lt_of_le counted.2 mirrorMadeLe⟩

/-- The targets of a destructor go in both. -/
theorem Lockstep.destroyTarget
    (lockstep : Lockstep stands left right)
    (related : stands object mirror)
    (signature : Signature) :
    Lockstep stands (left.destroyTarget object signature).1
      (right.destroyTarget mirror signature).1 := by
  obtain ⟨-, idEq, -, -⟩ := lockstep.outline _ _ related
  unfold Session.destroyTarget
  split
  · rw [idEq]
    exact lockstep.with_tables rfl rfl (lockstep.table.destroy object.id) (Nat.le_refl _)
      (Nat.le_refl _)
  · exact lockstep

end Making

/-! ### Sending -/

/-- Drafts of sessions in lockstep, with the same values so far. -/
structure Draft.Lockstep
    (stands : Object → Object → Prop)
    (draft mirror : Draft) : Prop where
  session : Session.Lockstep stands draft.session mirror.session
  created : List.Forall₂ stands draft.created mirror.created
  values_eq : mirror.values = draft.values

section Sending

variable {stands : Object → Object → Prop} {left right : Session} {target mirrorTarget : Object}
variable {draft mirror : Draft}

/-- One value is completed in both, or refused by both. -/
theorem Draft.Lockstep.prepareOne
    (lockstep : draft.Lockstep stands mirror)
    (targets : stands target mirrorTarget)
    {passed mirrorPassed : Passed}
    (values : passed.Matches stands mirrorPassed)
    (slot : Slot) :
    Together (fun next mirrorNext => ∃ wider, stands ≤ wider ∧ next.Lockstep wider mirrorNext)
      (Session.prepareOne target slot passed draft)
      (Session.prepareOne mirrorTarget slot mirrorPassed mirror) := by
  obtain ⟨value, handle⟩ := passed
  obtain ⟨mirrorValue, mirrorHandle⟩ := mirrorPassed
  obtain ⟨valueEq, handles⟩ := values
  cases valueEq
  have stays : ∃ wider, stands ≤ wider ∧
      Draft.Lockstep wider { draft with values := value :: draft.values }
        { mirror with values := value :: mirror.values } :=
    ⟨stands, le_refl _, lockstep.session, lockstep.created, by rw [lockstep.values_eq]⟩
  unfold Session.prepareOne
  by_cases sameKind : value.kind = slot.kind
  · rw [if_neg (Decidable.not_not.mpr sameKind), if_neg (Decidable.not_not.mpr sameKind)]
    cases value with
    | object id =>
        have handleFault := lockstep.session.handleFault? handles id
        have referenceFault := lockstep.session.referenceFault? slot id
        simp only
        generalize draft.session.handleFault? id handle = fault?,
          mirror.session.handleFault? id mirrorHandle = mirrorFault? at handleFault
        cases handleFault with
        | some _ => exact .refused
        | none =>
            simp only
            split
            · exact .done stays
            · generalize draft.session.referenceFault? slot id = fault?,
                mirror.session.referenceFault? slot id = mirrorFault? at referenceFault
              cases referenceFault with
              | some _ => exact .refused
              | none => exact .done stays
    | newId id name version =>
        simp only [lockstep.session.resolveNewId_eq targets, lockstep.session.side_eq]
        split
        · exact .refused
        · split
          · exact .refused
          · rename_i interface negotiated _
            have made := lockstep.session.table.allocate draft.session.side
              (draft.session.blueprint interface negotiated)
              (mirror.session.blueprint interface negotiated)
            generalize allocated : draft.session.table.allocate draft.session.side
                (draft.session.blueprint interface negotiated) = result,
              mirrorAllocated : mirror.session.table.allocate draft.session.side
                (mirror.session.blueprint interface negotiated) = mirrorResult at made
            cases made with
            | refused _ => exact .refused
            | made idEq matching =>
                obtain ⟨wider, le, related, next⟩ :=
                  lockstep.session.make (Table.blueprint_of_allocate allocated)
                    (Table.blueprint_of_allocate mirrorAllocated) idEq matching
                refine .done ⟨wider, le, next, .cons related ?_, ?_⟩
                · exact lockstep.created.imp fun _ _ related => le _ _ related
                · simp only [idEq, lockstep.values_eq]
    | int value | uint value | fixed value | string value | array value | fd value
    | unassigned value => exact .done stays
  · rw [if_pos sameKind, if_pos sameKind]
    exact .refused

/-- Values are completed in both up to the same one. -/
theorem Draft.Lockstep.prepare
    (lockstep : draft.Lockstep stands mirror)
    (targets : stands target mirrorTarget)
    {values mirrorValues : List Passed}
    (matching : List.Forall₂ (Passed.Matches stands) values mirrorValues)
    (slots : List Slot) :
    ∃ wider, stands ≤ wider ∧
      Draft.Lockstep wider (Session.prepare target draft (slots.zip values)).1
          (Session.prepare mirrorTarget mirror (slots.zip mirrorValues)).1 ∧
        ((Session.prepare target draft (slots.zip values)).2 = none ↔
          (Session.prepare mirrorTarget mirror (slots.zip mirrorValues)).2 = none) := by
  induction slots generalizing stands draft mirror values mirrorValues with
  | nil => exact ⟨stands, le_refl _, lockstep, Iff.rfl⟩
  | cons slot slots inductionHypothesis =>
      cases matching with
      | nil =>
          simp only [List.zip_nil_right, Session.prepare]
          exact ⟨stands, le_refl _, lockstep, trivial⟩
      | @cons passed mirrorPassed values mirrorValues first rest =>
          have one := lockstep.prepareOne targets first slot
          simp only [List.zip_cons_cons, Session.prepare]
          generalize Session.prepareOne target slot passed draft = result,
            Session.prepareOne mirrorTarget slot mirrorPassed mirror = mirrorResult at one
          cases one with
          | refused => exact ⟨stands, le_refl _, lockstep, by simp⟩
          | done related =>
              obtain ⟨wider, le, next⟩ := related
              obtain ⟨widest, leWidest, others⟩ := inductionHypothesis next (le _ _ targets)
                (rest.imp fun _ _ matching => matching.mono le)
              exact ⟨widest, le_trans le leWidest, others⟩

/-- Completed values of drafts in lockstep make the same message. -/
theorem Draft.Lockstep.frame_eq
    (lockstep : draft.Lockstep stands mirror)
    (targets : stands target mirrorTarget)
    (opcode : UInt16)
    (signature : Signature) :
    mirror.frame mirrorTarget opcode signature = draft.frame target opcode signature := by
  obtain ⟨-, idEq, -, -⟩ := lockstep.session.outline _ _ targets
  unfold Draft.frame
  rw [lockstep.values_eq, idEq]

/-- Two sessions both refused a message, or both sent the same one and are in lockstep. -/
structure SendAlike
    (stands : Object → Object → Prop)
    (sent mirror : Outcome (List Object) × Transport) : Prop where
  together : Together
    (fun objects mirrorObjects => ∃ wider, stands ≤ wider ∧
      List.Forall₂ wider objects mirrorObjects ∧
        Session.Lockstep wider sent.1.session mirror.1.session)
    sent.1.result mirror.1.result
  transport_eq : mirror.2 = sent.2

theorem SendAlike.of_le
    {wider : Object → Object → Prop}
    {sent mirrorSent : Outcome (List Object) × Transport}
    (alike : SendAlike wider sent mirrorSent)
    (le : stands ≤ wider) :
    SendAlike stands sent mirrorSent := by
  obtain ⟨together, transportEq⟩ := alike
  refine ⟨?_, transportEq⟩
  generalize sent.1.result = result, mirrorSent.1.result = mirrorResult at together
  cases together with
  | refused => exact .refused
  | done related =>
      obtain ⟨widest, leWidest, objects⟩ := related
      exact .done ⟨widest, le_trans le leWidest, objects⟩

/-- The same message is written by both, or by neither. -/
theorem Draft.Lockstep.write
    (lockstep : draft.Lockstep stands mirror)
    (targets : stands target mirrorTarget)
    (transport : Transport)
    (opcode : UInt16)
    (signature : Signature) :
    SendAlike stands (Session.write draft transport target opcode signature)
      (Session.write mirror transport mirrorTarget opcode signature) := by
  unfold Session.write
  rw [lockstep.frame_eq targets]
  cases draft.frame target opcode signature with
  | error error => exact ⟨.refused, rfl⟩
  | ok payload =>
      unfold Transport.write
      cases transport.refusal with
      | some text => exact ⟨.refused, rfl⟩
      | none =>
          exact ⟨.done ⟨stands, le_refl _, List.rel_reverse lockstep.created,
            lockstep.session.destroyTarget targets signature⟩, rfl⟩

/-- A message is sent by both, or refused by both. -/
theorem Lockstep.send
    (lockstep : Lockstep stands left right)
    {target mirrorTarget : Option Object}
    (targets : Option.Rel stands target mirrorTarget)
    {values mirrorValues : List Passed}
    (matching : List.Forall₂ (Passed.Matches stands) values mirrorValues)
    (transport : Transport)
    (opcode : UInt16) :
    SendAlike stands (left.send transport target opcode values)
      (right.send transport mirrorTarget opcode mirrorValues) := by
  cases targets with
  | none => exact ⟨.refused, rfl⟩
  | @some target mirrorTarget related =>
      obtain ⟨-, -, interfaceEq, versionEq⟩ := lockstep.outline _ _ related
      unfold Session.send
      simp only [lockstep.isAlive_eq related, lockstep.side_eq, interfaceEq, versionEq,
        ← matching.length_eq]
      split
      · exact ⟨.refused, rfl⟩
      · split
        · exact ⟨.refused, rfl⟩
        · rename_i signature _
          split
          · exact ⟨.refused, rfl⟩
          · split
            · exact ⟨.refused, rfl⟩
            · have start : Draft.Lockstep stands { session := left } { session := right } :=
                ⟨lockstep, .nil, rfl⟩
              obtain ⟨wider, le, drafts, refusals⟩ := start.prepare related matching signature.slots
              generalize prepare target { session := left } (signature.slots.zip values) = prepared,
                prepare mirrorTarget { session := right } (signature.slots.zip mirrorValues) =
                  mirrorPrepared at drafts refusals
              obtain ⟨draft, refusal⟩ := prepared
              obtain ⟨mirrorDraft, mirrorRefusal⟩ := mirrorPrepared
              cases refusal with
              | some reason =>
                  cases mirrorRefusal with
                  | some mirrorReason => exact ⟨.refused, rfl⟩
                  | none => simp at refusals
              | none =>
                  cases mirrorRefusal with
                  | some mirrorReason => simp at refusals
                  | none =>
                      exact (Draft.Lockstep.write drafts (le _ _ related) transport opcode
                        signature).of_le le

end Sending

/-! ### Decoding -/

structure Arrivals.Lockstep
    (stands : Object → Object → Prop)
    (arrivals mirror : Arrivals) : Prop where
  session : Session.Lockstep stands arrivals.session mirror.session
  created : List.Forall₂ stands arrivals.created mirror.created
  objects : List.Forall₂ (Option.Rel stands) arrivals.objects mirror.objects

/-- Received messages with the same arguments, for objects that stand for each other. -/
structure Incoming.Matches
    (stands : Object → Object → Prop)
    (incoming mirror : Incoming) : Prop where
  target : stands incoming.target mirror.target
  arguments_eq : mirror.arguments = incoming.arguments
  objects : List.Forall₂ (Option.Rel stands) incoming.objects mirror.objects

section Decoding

variable {stands : Object → Object → Prop} {left right : Session} {target mirrorTarget : Object}
variable {arrivals mirror : Arrivals}

/-- References are resolved in both, to objects that stand for each other, or refused by both. -/
theorem Lockstep.resolveReferences
    (lockstep : Lockstep stands left right)
    (pairs : List (Slot × Argument)) :
    Together (List.Forall₂ (Option.Rel stands)) (left.resolveReferences pairs)
      (right.resolveReferences pairs) := by
  induction pairs with
  | nil => exact .done .nil
  | cons pair pairs inductionHypothesis =>
      obtain ⟨slot, argument⟩ := pair
      cases argument with
      | object id =>
          have fault : Option.Rel (fun _ _ => True)
              (if id = 0 then none else left.referenceFault? slot id)
              (if id = 0 then none else right.referenceFault? slot id) := by
            split
            · exact .none
            · exact lockstep.referenceFault? slot id
          simp only [Session.resolveReferences]
          generalize (if id = 0 then none else left.referenceFault? slot id) = fault?,
            (if id = 0 then none else right.referenceFault? slot id) = mirrorFault? at fault
          cases fault with
          | some _ => exact .refused
          | none =>
              generalize left.resolveReferences pairs = others,
                right.resolveReferences pairs = mirrorOthers at inductionHypothesis
              cases inductionHypothesis with
              | refused => exact .refused
              | done rest => exact .done (.cons (lockstep.table.lookup id) rest)
      | int value | uint value | fixed value | string value | newId id name version | array value
      | fd value | unassigned value =>
          simp only [Session.resolveReferences]
          generalize left.resolveReferences pairs = others,
            right.resolveReferences pairs = mirrorOthers at inductionHypothesis
          cases inductionHypothesis with
          | refused => exact .refused
          | done rest => exact .done (.cons .none rest)

/-- An announced object is accepted by both, or refused by both. -/
theorem Lockstep.acceptNewId
    (lockstep : Lockstep stands left right)
    (targets : stands target mirrorTarget)
    (slot : Slot)
    (id : ObjectId)
    (name : Bytes)
    (version : UInt32) :
    Together
      (fun made mirrorMade => ∃ wider, stands ≤ wider ∧ wider made.1 mirrorMade.1 ∧
        Lockstep wider made.2 mirrorMade.2)
      (left.acceptNewId target slot id name version)
      (right.acceptNewId mirrorTarget slot id name version) := by
  unfold Session.acceptNewId
  rw [lockstep.side_eq, lockstep.resolveNewId_eq targets]
  split
  · exact .refused
  · split
    · exact .refused
    · rename_i interface negotiated _
      have made := lockstep.table.insert id false (left.blueprint interface negotiated)
        (right.blueprint interface negotiated)
      generalize inserted : left.table.insert id false (left.blueprint interface negotiated) =
          result,
        mirrorInserted : right.table.insert id false (right.blueprint interface negotiated) =
          mirrorResult at made
      cases made with
      | refused _ => exact .refused
      | made idEq matching =>
          exact .done (lockstep.make (Table.blueprint_of_insert inserted)
            (Table.blueprint_of_insert mirrorInserted) idEq matching)

/-- Announced objects are accepted by both up to the same one. -/
theorem Arrivals.Lockstep.acceptAll
    (lockstep : arrivals.Lockstep stands mirror)
    (targets : stands target mirrorTarget)
    {references mirrorReferences : List (Option Object)}
    (matching : List.Forall₂ (Option.Rel stands) references mirrorReferences)
    (pairs : List (Slot × Argument)) :
    ∃ wider, stands ≤ wider ∧
      Arrivals.Lockstep wider (Session.acceptAll target arrivals (pairs.zip references)).1
          (Session.acceptAll mirrorTarget mirror (pairs.zip mirrorReferences)).1 ∧
        ((Session.acceptAll target arrivals (pairs.zip references)).2 = none ↔
          (Session.acceptAll mirrorTarget mirror (pairs.zip mirrorReferences)).2 = none) := by
  induction pairs generalizing stands arrivals mirror references mirrorReferences with
  | nil => exact ⟨stands, le_refl _, lockstep, Iff.rfl⟩
  | cons pair pairs inductionHypothesis =>
      cases matching with
      | nil =>
          simp only [List.zip_nil_right, Session.acceptAll]
          exact ⟨stands, le_refl _, lockstep, trivial⟩
      | @cons reference mirrorReference references mirrorReferences first rest =>
          obtain ⟨slot, argument⟩ := pair
          simp only [List.zip_cons_cons]
          by_cases announces : argument.kind = .newId
          · cases argument with
            | newId id name version =>
                have one := lockstep.session.acceptNewId targets slot id name version
                simp only [Session.acceptAll]
                generalize arrivals.session.acceptNewId target slot id name version = result,
                  mirror.session.acceptNewId mirrorTarget slot id name version = mirrorResult at one
                cases one with
                | refused => exact ⟨stands, le_refl _, lockstep, by simp⟩
                | @done made mirrorMade related =>
                    obtain ⟨wider, le, objects, sessions⟩ := related
                    have next : Arrivals.Lockstep wider
                        { session := made.2
                          created := made.1 :: arrivals.created
                          objects := some made.1 :: arrivals.objects }
                        { session := mirrorMade.2
                          created := mirrorMade.1 :: mirror.created
                          objects := some mirrorMade.1 :: mirror.objects } :=
                      ⟨sessions, .cons objects (lockstep.created.imp fun _ _ related => le _ _ related),
                        .cons (.some objects)
                          (lockstep.objects.imp fun _ _ related => optionRel_mono le related)⟩
                    obtain ⟨widest, leWidest, others⟩ := inductionHypothesis next
                      (le _ _ targets) (rest.imp fun _ _ related => optionRel_mono le related)
                    exact ⟨widest, le_trans le leWidest, others⟩
            | _ => simp [Argument.kind] at announces
          · rw [acceptAll_cons_of_kind_ne announces, acceptAll_cons_of_kind_ne announces]
            have next : Arrivals.Lockstep stands
                { arrivals with objects := reference :: arrivals.objects }
                { mirror with objects := mirrorReference :: mirror.objects } :=
              ⟨lockstep.session, lockstep.created, .cons first lockstep.objects⟩
            exact inductionHypothesis next targets rest

/-- Objects that stand for each other have the same ids. -/
theorem Lockstep.map_id_eq
    (lockstep : Lockstep stands left right)
    {objects mirrorObjects : List Object}
    (related : List.Forall₂ stands objects mirrorObjects) :
    mirrorObjects.map Object.id = objects.map Object.id := by
  induction related with
  | nil => rfl
  | cons first _ inductionHypothesis =>
      rw [List.map_cons, List.map_cons, (lockstep.outline _ _ first).2.1, inductionHypothesis]

/-- When the objects of arrivals are taken back, the sessions are in lockstep as they were before. -/
theorem Arrivals.Lockstep.restored
    {wider : Object → Object → Prop}
    (sessions : Session.Lockstep stands left right)
    (lockstep : arrivals.Lockstep wider mirror)
    {objects mirrorObjects : List Object}
    (taken : arrivals.TakenFrom left objects)
    (mirrorTaken : mirror.TakenFrom right mirrorObjects)
    (ends : (left.table.arena left.side.peer).EndsTaken)
    (mirrorEnds : (right.table.arena right.side.peer).EndsTaken)
    (madeLe : left.made ≤ arrivals.session.made)
    (mirrorMadeLe : right.made ≤ mirror.session.made) :
    Session.Lockstep stands (arrivals.session.abandonAll arrivals.created)
      (mirror.session.abandonAll mirror.created) := by
  obtain ⟨restored, free, peerFree⟩ := taken.restored ends
  obtain ⟨mirrorRestored, mirrorFree, mirrorPeerFree⟩ := mirrorTaken.restored mirrorEnds
  -- The same ids were taken, so the same cells stand first on the lists of free cells.
  have sameIds : mirrorObjects.map Object.id = objects.map Object.id := by
    have created := lockstep.session.map_id_eq lockstep.created
    rwa [taken.created_eq, mirrorTaken.created_eq, List.map_reverse, List.map_reverse,
      List.reverse_inj] at created
  have sameFree : ∀ side,
      ((mirror.session.abandonAll mirror.created).table.arena side).free =
        ((arrivals.session.abandonAll arrivals.created).table.arena side).free := by
    refine (Side.forall_iff left.side.peer).mpr ⟨?_, ?_⟩
    · rw [sessions.side_eq] at mirrorFree
      rw [mirrorFree, free, Table.reusedBy_congr _ _ sameIds, sessions.table.extent_eq,
        (lockstep.session.table _).free_eq]
    · rw [sessions.side_eq] at mirrorPeerFree
      rw [mirrorPeerFree, peerFree, (sessions.table _).free_eq]
  exact sessions.with_tables restored.session_eq mirrorRestored.session_eq
    (sessions.table.resembles restored.resembles mirrorRestored.resembles sameFree) madeLe
    mirrorMadeLe

/-- Two sessions both refused a received message and stay in lockstep, or both decoded it. -/
structure DecodeAlike
    (stands : Object → Object → Prop)
    (decoded mirror : Outcome Incoming) : Prop where
  together : Together
    (fun incoming mirrorIncoming => ∃ wider, stands ≤ wider ∧
      incoming.Matches wider mirrorIncoming ∧ Lockstep wider decoded.session mirror.session)
    decoded.result mirror.result
  refused : (∃ failure, decoded.result = .error failure) →
    Lockstep stands decoded.session mirror.session

/-- A received message is decoded by both, or refused by both. -/
theorem Lockstep.decode
    (lockstep : Lockstep stands left right)
    (wellFormed : left.WellFormed)
    (mirrorWellFormed : right.WellFormed)
    (ends : (left.table.arena left.side.peer).EndsTaken)
    (mirrorEnds : (right.table.arena right.side.peer).EndsTaken)
    (inbound : Inbound) :
    DecodeAlike stands (left.decode inbound) (right.decode inbound) := by
  have found := lockstep.table.lookup inbound.sender
  unfold Session.decode
  generalize left.table.lookup inbound.sender = target?,
    right.table.lookup inbound.sender = mirrorTarget? at found
  cases found with
  | none => exact ⟨.refused, fun _ => lockstep⟩
  | @some target mirrorTarget related =>
      obtain ⟨-, -, interfaceEq, versionEq⟩ := lockstep.outline _ _ related
      simp only [lockstep.side_eq, interfaceEq, versionEq]
      split
      · exact ⟨.refused, fun _ => lockstep⟩
      · rename_i signature _
        split
        · exact ⟨.refused, fun _ => lockstep⟩
        · split
          · exact ⟨.refused, fun _ => lockstep⟩
          · rename_i read _
            have resolved := lockstep.resolveReferences (signature.slots.zip read.arguments)
            generalize left.resolveReferences (signature.slots.zip read.arguments) = result,
              right.resolveReferences (signature.slots.zip read.arguments) = mirrorResult
                at resolved
            cases resolved with
            | refused => exact ⟨.refused, fun _ => lockstep⟩
            | @done references mirrorReferences matching =>
                have start : Arrivals.Lockstep stands { session := left } { session := right } :=
                  ⟨lockstep, .nil, .nil⟩
                obtain ⟨wider, le, all, refusals⟩ :=
                  start.acceptAll related matching (signature.slots.zip read.arguments)
                simp only
                generalize accepted : acceptAll target { session := left }
                    ((signature.slots.zip read.arguments).zip references) = accepting,
                  mirrorAccepted : acceptAll mirrorTarget { session := right }
                    ((signature.slots.zip read.arguments).zip mirrorReferences) =
                      mirrorAccepting at all refusals
                obtain ⟨arrivals, refusal⟩ := accepting
                obtain ⟨mirrorArrivals, mirrorRefusal⟩ := mirrorAccepting
                cases refusal with
                | some reason =>
                    cases mirrorRefusal with
                    | none => simp at refusals
                    | some mirrorReason =>
                        refine ⟨.refused, fun _ => ?_⟩
                        obtain ⟨made, taken⟩ := acceptAll_taken wellFormed (.start left) accepted
                        obtain ⟨mirrorMade, mirrorTaken⟩ :=
                          acceptAll_taken mirrorWellFormed (.start right) mirrorAccepted
                        exact Arrivals.Lockstep.restored lockstep all taken mirrorTaken ends
                          mirrorEnds
                          (acceptAll_numbers (numbers_nil rfl rfl) accepted).made_le
                          (acceptAll_numbers (numbers_nil rfl rfl) mirrorAccepted).made_le
                | none =>
                    cases mirrorRefusal with
                    | some mirrorReason => simp at refusals
                    | none =>
                        refine ⟨.done ⟨wider, le, ⟨le _ _ related, rfl,
                          List.rel_reverse all.objects⟩, ?_⟩, ?_⟩
                        · exact all.session.destroyTarget (le _ _ related) signature
                        · rintro ⟨failure, impossible⟩
                          cases impossible

end Decoding

end Wayland.Session
