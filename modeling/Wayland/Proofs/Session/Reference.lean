import Wayland.Proofs.Session.Relay
import Wayland.Proofs.Session.World

/-!
Contract: what the references of a message name.

Owns:
- that a message which is accepted refers to objects that were live before it;
- that a message which is sent refers to objects that were live before it, or that an earlier
  argument of it makes;
- that nobody accepts a message which refers to an object of its own.

Does not own: the handles that references are made from.
-/

namespace Wayland.Session

open Wayland.Text
open Wayland.Wire

/-- An id names a live object that suits a slot. -/
def Resolves
    (session : Session)
    (slot : Slot)
    (id : ObjectId) : Prop :=
  ∃ object, session.table.lookup id = some object ∧ Suits slot object.interface

/-! ## Received references -/

section Receiving

variable {session : Session} {parent : Object} {arrivals final : Arrivals} {objects : List Object}
variable {slot : Slot} {id : ObjectId}

theorem resolves_of_resolveReferences
    {pairs : List (Slot × Argument)}
    {references : List (Option Object)}
    (resolved : session.resolveReferences pairs = .ok references)
    (isMember : (slot, Argument.object id) ∈ pairs)
    (notNull : id ≠ 0) :
    session.Resolves slot id := by
  fun_induction resolveReferences session pairs generalizing references with
  | case1 => cases isMember
  | case2 => cases resolved
  | case3 => cases resolved
  | case4 first firstId rest accepted objects others inductionHypothesis =>
      rcases List.mem_cons.mp isMember with same | later
      · cases same
        rw [if_neg notNull] at accepted
        exact referenceFault?_eq_none_iff.mp accepted
      · exact inductionHypothesis others later
  | case5 => cases resolved
  | case6 pair rest notReference objects others inductionHypothesis =>
      rcases List.mem_cons.mp isMember with same | later
      · cases same
        exact absurd rfl (notReference slot id)
      · exact inductionHypothesis others later

/-- Every announced id belongs to an object that was made, if no announced object is refused. -/
theorem exists_created_of_acceptAll
    (wellFormed : session.WellFormed)
    (grown : arrivals.GrownFrom session objects)
    {entries : List ((Slot × Argument) × Option Object)}
    (accepted : acceptAll parent arrivals entries = (final, none))
    {name : Bytes}
    {version : UInt32}
    {reference : Option Object}
    (isMember : ((slot, Argument.newId id name version), reference) ∈ entries) :
    ∃ object ∈ final.created, object.id = id := by
  induction entries generalizing arrivals objects with
  | nil => cases isMember
  | cons entry entries inductionHypothesis =>
      obtain ⟨⟨firstSlot, argument⟩, firstReference⟩ := entry
      cases argument with
      | newId firstId firstName firstVersion =>
          simp only [acceptAll] at accepted
          split at accepted
          · cases accepted
          · rename_i object next one
            obtain ⟨gains, atId, nextEq, -⟩ := acceptNewId_gains wellFormed grown one
            have grownNext := grown.step gains nextEq
            rcases List.mem_cons.mp isMember with same | later
            · cases same
              obtain ⟨made, -, grownFinal, -⟩ := acceptAll_created wellFormed grownNext accepted
              refine ⟨object, ?_, atId⟩
              rw [grownFinal.created_eq]
              simp
            · exact inductionHypothesis grownNext accepted later
      | int value | uint value | fixed value | string value | object value | array value
      | fd value | unassigned value =>
          rw [acceptAll_cons_of_kind_ne (by simp [Argument.kind])] at accepted
          rcases List.mem_cons.mp isMember with same | later
          · cases same
          · exact inductionHypothesis (grown.skip firstReference) accepted later

theorem drawn_of_decode
    {inbound : Inbound}
    {incoming : Incoming}
    (decoded : (session.decode inbound).result = .ok incoming) :
    ∃ references arrivals, incoming.Drawn inbound session references arrivals := by
  rcases decode_drawn session inbound with
    ⟨error, -, failed, -⟩ | ⟨drawnIncoming, references, arrivals, succeeded, drawn, -⟩
  · rw [failed] at decoded
    cases decoded
  · rw [succeeded] at decoded
    cases decoded
    exact ⟨references, arrivals, drawn⟩

/-- A message that is accepted refers to objects that were live before it, and to none that it
announces itself: references are resolved before any announced object is made. -/
theorem decode_resolves_before_making
    (wellFormed : session.WellFormed)
    {inbound : Inbound}
    {incoming : Incoming}
    (decoded : (session.decode inbound).result = .ok incoming)
    (refers :
      (slot, Argument.object id) ∈ incoming.signature.slots.zip incoming.arguments)
    (notNull : id ≠ 0) :
    session.Resolves slot id ∧
      ∀ announced name version,
        (announced, Argument.newId id name version) ∉
          incoming.signature.slots.zip incoming.arguments := by
  obtain ⟨references, arrivals, drawn⟩ := drawn_of_decode decoded
  have resolves := resolves_of_resolveReferences drawn.resolved refers notNull
  refine ⟨resolves, ?_⟩
  intro announced name version isMember
  have pairs := List.map_fst_zip (Nat.le_of_eq (length_resolveReferences drawn.resolved).symm)
  rw [← pairs] at isMember
  obtain ⟨⟨pair, reference⟩, isEntry, rfl⟩ := List.mem_map.mp isMember
  have start : Arrivals.GrownFrom session [] { session } := ⟨rfl, rfl, .start⟩
  obtain ⟨object, isCreated, atId⟩ :=
    exists_created_of_acceptAll wellFormed start drawn.accepted isEntry
  obtain ⟨createdEq, grown⟩ := drawn.grown wellFormed
  rw [← List.mem_reverse, ← createdEq] at isCreated
  -- The id of an announced object was vacant, so no reference to it was resolved.
  have vacant := grown.growth.vacant object isCreated
  obtain ⟨live, found, -⟩ := resolves
  rw [Table.lookup_eq_some_iff, ← atId, vacant] at found
  cases found

end Receiving

/-! ## Sent references -/

section Sending

variable {session : Session} {target : Object} {draft : Draft} {objects : List Object}
variable {slot : Slot} {id : ObjectId}

/-- A reference that a grown draft accepts names an object of the session, or one that the draft
made. -/
theorem Draft.GrownFrom.resolves_or_made
    (grown : draft.GrownFrom session objects)
    (accepted : draft.session.referenceFault? slot id = none) :
    session.Resolves slot id ∨
      session.table.lookup id = none ∧
        ∃ object ∈ objects, object.id = id ∧ Suits slot object.interface := by
  obtain ⟨object, found, suits⟩ := referenceFault?_eq_none_iff.mp accepted
  rw [Table.lookup_eq_some_iff] at found
  by_cases isMade : ∃ made ∈ objects, made.id = id
  · obtain ⟨new, isMember, rfl⟩ := isMade
    obtain rfl : new = object := by
      rw [grown.growth.status_of_mem new isMember] at found
      exact Status.live.inj found
    refine .inr ⟨?_, new, isMember, rfl, suits⟩
    rw [Table.lookup_eq_none_iff, grown.growth.vacant new isMember]
    simp
  · push Not at isMade
    rw [grown.growth.status_of_other isMade] at found
    exact .inl ⟨object, Table.lookup_eq_some_iff.mpr found, suits⟩

/-- The values before a reference were completed before it was looked at. -/
theorem prepare_of_append_cons
    {final : Draft}
    {earlier later : List (Slot × Passed)}
    {pair : Slot × Passed}
    (prepared : prepare target draft (earlier ++ pair :: later) = (final, none)) :
    ∃ before after, prepare target draft earlier = (before, none) ∧
      prepareOne target pair.1 pair.2 before = .ok after ∧
        prepare target after later = (final, none) := by
  rw [prepare_append] at prepared
  split at prepared
  · rename_i before completed
    obtain ⟨after, one, rest⟩ := prepare_cons_eq_iff.mp prepared
    exact ⟨before, after, completed, one, rest⟩
  · cases prepared

/-- A reference among values that are all completed names an object of the session, or one that is
made for a value before it. -/
theorem prepare_resolves_or_made
    (wellFormed : session.WellFormed)
    {final : Draft}
    {earlier later : List (Slot × Passed)}
    {handle : Option Object}
    (prepared : prepare target { session } (earlier ++ (slot, ⟨.object id, handle⟩) :: later) =
      (final, none))
    (notNull : id ≠ 0) :
    session.Resolves slot id ∨
      session.table.lookup id = none ∧
        ∃ object ∈ final.created.reverse.take (earlier.countP (·.1.kind = .newId)),
          object.id = id ∧ Suits slot object.interface := by
  obtain ⟨before, after, completed, one, rest⟩ := prepare_of_append_cons prepared
  have start : Draft.GrownFrom session [] { session } := ⟨rfl, rfl, .start⟩
  obtain ⟨-, made, -, grown, -⟩ := prepare_completes wellFormed start completed
  obtain ⟨rfl, accepted⟩ := prepareOne_reference one
  have grownAfter : Draft.GrownFrom session ([] ++ made)
      { before with values := .object id :: before.values } :=
    ⟨grown.created_eq, grown.session_eq, grown.growth⟩
  obtain ⟨-, others, -, grownFinal, -⟩ := prepare_completes wellFormed grownAfter rest
  rw [List.nil_append] at grown grownFinal
  have made_eq : final.created.reverse.take (earlier.countP (·.1.kind = .newId)) = made := by
    have length := prepare_created completed
    rw [grown.created_eq, List.length_reverse, List.countP_map] at length
    rw [grownFinal.created_eq, List.reverse_reverse]
    exact List.take_left' (by simpa [Function.comp_def] using length)
  rw [made_eq]
  exact grown.resolves_or_made (accepted.resolve_left notNull)

/-- A reference arrives where it was passed. -/
theorem Completes.reference_arrives
    {pairs : List (Slot × Passed)}
    {values : List Argument}
    (completes : Completes session target pairs values objects)
    {handle : Option Object}
    (isMember : (slot, ⟨.object id, handle⟩) ∈ pairs) :
    (slot, Argument.object id) ∈
      (pairs.map Prod.fst).zip (carriedAll (pairs.map Prod.fst) values) := by
  induction completes with
  | done => cases isMember
  | newId _ _ _ inductionHypothesis =>
      rcases List.mem_cons.mp isMember with same | later
      · cases same
      · exact List.mem_cons_of_mem _ (inductionHypothesis later)
  | reference _ _ _ inductionHypothesis =>
      rcases List.mem_cons.mp isMember with same | later
      · cases same
        exact List.mem_cons_self
      · exact List.mem_cons_of_mem _ (inductionHypothesis later)
  | plain _ _ notObject _ inductionHypothesis =>
      rcases List.mem_cons.mp isMember with same | later
      · cases same
        exact absurd rfl notObject
      · exact List.mem_cons_of_mem _ (inductionHypothesis later)

/-- Every object that a message makes is announced in what arrives. -/
theorem Completes.object_arrives
    {pairs : List (Slot × Passed)}
    {values : List Argument}
    (completes : Completes session target pairs values objects)
    {object : Object}
    (isMember : object ∈ objects) :
    ∃ announced name version, (announced, Argument.newId object.id name version) ∈
      (pairs.map Prod.fst).zip (carriedAll (pairs.map Prod.fst) values) := by
  induction completes with
  | done => cases isMember
  | @newId slot name version handle made pairs values objects _ _ _ inductionHypothesis =>
      rcases List.mem_cons.mp isMember with rfl | later
      · obtain ⟨carriedName, carriedVersion, carried, -⟩ := carried_newId slot object.id name
          (if slot.isDynamic then object.version else version)
        refine ⟨slot, carriedName, carriedVersion, ?_⟩
        rw [← carried]
        exact List.mem_cons_self
      · obtain ⟨announced, name, version, arrives⟩ := inductionHypothesis later
        exact ⟨announced, name, version, List.mem_cons_of_mem _ arrives⟩
  | reference _ _ _ inductionHypothesis | plain _ _ _ _ inductionHypothesis =>
      obtain ⟨announced, name, version, arrives⟩ := inductionHypothesis isMember
      exact ⟨announced, name, version, List.mem_cons_of_mem _ arrives⟩

end Sending

/-- A payload that no session accepts which has its signature for the opcode. -/
def NeverDecodes
    (sender : ObjectId)
    (opcode : UInt16)
    (signature : Signature)
    (payload : Payload) : Prop :=
  ∀ session : Session, session.WellFormed →
    ∀ receiver, session.table.lookup sender = some receiver →
      receiver.interface.message? session.side.receives opcode = some signature →
        ∃ failure, (session.decode ⟨sender, opcode, payload⟩).result = .error failure

/-- Nobody accepts a message that refers to an object it makes itself. -/
theorem Departure.Leaves.neverDecodes
    {departure : Departure}
    {session next : Session}
    (leaves : departure.Leaves session next)
    {slot : Slot}
    {handle : Option Object}
    {object : Object}
    (refers :
      (slot, ⟨.object object.id, handle⟩) ∈ departure.signature.slots.zip departure.passed)
    (notNull : object.id ≠ 0)
    (isMade : object ∈ departure.created) :
    NeverDecodes departure.target.id departure.opcode departure.signature departure.payload := by
  intro peer wellFormed receiver found isMessage
  cases decoded :
      (peer.decode ⟨departure.target.id, departure.opcode, departure.payload⟩).result with
  | error failure => exact ⟨failure, rfl⟩
  | ok incoming =>
      obtain ⟨-, isRead, read⟩ := read_of_decode decoded
      obtain ⟨references, arrivals, drawn⟩ := drawn_of_decode decoded
      obtain rfl : receiver = incoming.target := Option.some.inj (found.symm.trans drawn.lookup)
      have sameSignature : departure.signature = incoming.signature :=
        Option.some.inj (isMessage.symm.trans isRead)
      have sent := decode_encode leaves.encoded []
      rw [List.append_nil, sameSignature, read, Except.ok.injEq, Wire.Decoded.mk.injEq] at sent
      have slots := List.map_fst_zip (Nat.le_of_eq leaves.sameLength.symm)
      have refersThere := leaves.completes.reference_arrives refers
      obtain ⟨announced, name, version, arrives⟩ := leaves.completes.object_arrives isMade
      rw [slots, sameSignature, ← sent.1] at refersThere arrives
      have separate := (decode_resolves_before_making wellFormed decoded refersThere notNull).2
      exact absurd arrives (separate announced name version)

/-- A message that is sent refers to live objects that suit, or to objects that an earlier argument
of the same message makes.  The ids of these were vacant, and nobody accepts such a message. -/
theorem sent_references_are_live_or_new
    {number : Nat}
    {side : Side}
    {operations : List Operation}
    {transport : Transport}
    {target : Object}
    {opcode : UInt16}
    {passed : List Passed}
    {created : List Object}
    (sent :
      (((fresh number side).performAll operations).send transport (some target) opcode
        passed).1.result = .ok created) :
    ∃ signature payload bytes,
      target.interface.message? ((fresh number side).performAll operations).side.sends opcode =
          some signature ∧
        Frame.encode target.id opcode payload.body = .ok bytes ∧
          transport.Carries
            (((fresh number side).performAll operations).send transport (some target) opcode
              passed).2 bytes payload.descriptors ∧
            ∀ earlier slot id handle later,
              signature.slots.zip passed = earlier ++ (slot, ⟨.object id, handle⟩) :: later →
                id ≠ 0 →
                  ((fresh number side).performAll operations).Resolves slot id ∨
                    ((fresh number side).performAll operations).table.lookup id = none ∧
                      (∃ object ∈ created.take (earlier.countP (·.1.kind = .newId)),
                        object.id = id ∧ Suits slot object.interface) ∧
                        NeverDecodes target.id opcode signature payload := by
  have wellFormed := (follows_run number side operations).wellFormed
  generalize (fresh number side).performAll operations = session at sent wellFormed ⊢
  obtain ⟨signature, draft, admits, prepared, rfl⟩ := prepared_of_send sent
  rcases send_cases wellFormed transport (some target) opcode passed with
    ⟨failure, failed, -⟩ | ⟨departure, isTarget, rfl, rfl, result, leaves, carries⟩
  · rw [failed] at sent
    cases sent
  · cases isTarget
    rw [result, Except.ok.injEq] at sent
    obtain rfl : departure.signature = signature :=
      Option.some.inj (leaves.message.symm.trans admits.message)
    refine ⟨_, _, _, leaves.message, leaves.framed, carries, ?_⟩
    intro earlier slot id handle later isPlaced notNull
    rw [isPlaced] at prepared
    refine (prepare_resolves_or_made wellFormed prepared notNull).imp_right ?_
    rintro ⟨vacant, object, isMade, rfl, suits⟩
    have refers : (slot, ⟨.object object.id, handle⟩) ∈
        departure.signature.slots.zip departure.passed := by
      rw [isPlaced]
      exact List.mem_append_right _ List.mem_cons_self
    have isCreated : object ∈ departure.created := by
      rw [sent]
      exact List.mem_of_mem_take isMade
    exact ⟨vacant, ⟨object, isMade, rfl, suits⟩, leaves.neverDecodes refers notNull isCreated⟩

/-- A stool is put beside another one, or beside nothing. -/
def putBeside : Signature :=
  { name := "put"
    slots :=
      [{ name := "stool", kind := .newId, interface := "stool" },
        { name := "neighbour", kind := .object, nullable := true, interface := "stool" }] }

def barInterface : Interface :=
  { name := "bar", version := 1, requests := [putBeside] }

def stoolInterface : Interface :=
  { name := "stool", version := 1 }

/-- A bar without stools. -/
def emptyBar : List Operation :=
  [.register stoolInterface, .bind 1 barInterface 1]

def bar : Object where
  session := 0
  serial := 0
  id := 1
  interface := barInterface
  version := 1
  generation := 1

def stoolBeside
    (id : ObjectId) :
    List Passed :=
  [⟨.newId 0 [] 0, none⟩, ⟨.object id, none⟩]

/-- The new stool is put beside one that was there before. -/
theorem second_stool_finds_first :
    (((fresh 0 .client).performAll (emptyBar ++ [.bind 2 stoolInterface 1])).send {} (some bar) 0
        (stoolBeside 2)).1.result = .ok [⟨0, 2, 3, stoolInterface, 1, 1⟩] ∧
      ((fresh 0 .client).performAll (emptyBar ++ [.bind 2 stoolInterface 1])).Resolves
        ⟨"neighbour", .object, true, "stool"⟩ 2 := by
  have sent : (((fresh 0 .client).performAll (emptyBar ++ [.bind 2 stoolInterface 1])).send {}
      (some bar) 0 (stoolBeside 2)).1.result = .ok [⟨0, 2, 3, stoolInterface, 1, 1⟩] := by
    decide
  obtain ⟨signature, payload, bytes, isMessage, -, -, references⟩ :=
    sent_references_are_live_or_new sent
  have sideEq : ((fresh 0 .client).performAll (emptyBar ++ [.bind 2 stoolInterface 1])).side =
      .client := by decide
  rw [sideEq] at isMessage
  cases isMessage
  refine ⟨sent, ?_⟩
  rcases references [(_, _)] _ 2 none [] rfl (by decide) with
    resolves | ⟨-, ⟨object, isMade, atId, -⟩, -⟩
  · exact resolves
  · obtain rfl := List.mem_singleton.mp isMade
    exact absurd atId (by decide)

/-- A new stool is put beside itself: its sender knows it already, its receiver does not yet. -/
theorem stool_beside_itself :
    (((fresh 0 .client).performAll emptyBar).send {} (some bar) 0 (stoolBeside 2)).1.result =
        .ok [⟨0, 1, 2, stoolInterface, 1, 1⟩] ∧
      ((fresh 0 .client).performAll emptyBar).table.lookup 2 = none ∧
        (((fresh 1 .server).performAll emptyBar).decode
            ⟨1, 0, ⟨Word.encode 2 ++ Word.encode 2, []⟩⟩).result =
          .error (.refused
            { blame := .peer
              object := 1
              interface := "bar"
              message := "put"
              reason := .argument (.unknown 2) "neighbour" }) := by
  decide

end Wayland.Session
