import Wayland.Proofs.Session.InFlight
import Wayland.Proofs.Session.Receiving

/-!
Contract: how a message that fits is received.

Owns:
- the arguments that reach the receiver;
- references that are live or gone, and announced objects that can be made;
- that a fitting message is received whole, unless something it needs is gone, and then the report
  names that.

Does not own: which messages fit.
-/

namespace Wayland.Session

open Wayland.Text
open Wayland.Wire

/-- The arguments that reach the receiver of a message: a new object with the id it got, and in an
open slot with the version it got; every other value as it was passed. -/
def arrivingArguments : List Slot → List Passed → List Object → List Argument
  | slot :: slots, ⟨.newId _ name _, _⟩ :: passed, object :: created =>
      (if slot.isDynamic then .newId object.id name object.version else .newId object.id [] 0)
        :: arrivingArguments slots passed created
  | _ :: slots, ⟨value, _⟩ :: passed, created =>
      value :: arrivingArguments slots passed created
  | _, _, _ => []

/-- A value that is no new object arrives as it is. -/
theorem carried_of_kind_ne
    {value : Argument}
    (notNewId : value.kind ≠ .newId)
    (slot : Slot) :
    value.carried slot = value := by
  cases value with
  | newId id name version => exact absurd rfl notNewId
  | _ => rfl

/-- Only a reference arrives as a reference. -/
theorem eq_object_of_carried
    {value : Argument}
    {slot : Slot}
    {id : ObjectId}
    (carried : value.carried slot = .object id) :
    value = .object id := by
  cases value with
  | newId id name version =>
      simp only [Argument.carried] at carried
      split at carried <;> cases carried
  | _ => exact carried

/-- A new object arrives with its id, and in an open slot with its interface and version. -/
theorem carried_newId
    (slot : Slot)
    (id : ObjectId)
    (name : Bytes)
    (version : UInt32) :
    ∃ carriedName carriedVersion,
      (Argument.newId id name version).carried slot = .newId id carriedName carriedVersion ∧
        (slot.isDynamic = true → carriedName = name ∧ carriedVersion = version) := by
  by_cases dynamic : slot.isDynamic = true
  · exact ⟨name, version, by simp [Argument.carried, dynamic], fun _ => ⟨rfl, rfl⟩⟩
  · exact ⟨[], 0, by simp [Argument.carried, dynamic], fun isDynamic => absurd isDynamic dynamic⟩

section Values

variable {session : Session} {target : Object} {pairs : List (Slot × Passed)}
variable {values : List Argument} {objects : List Object}

/-- The completed values of a message arrive with the ids and versions of the objects made for
them. -/
theorem Completes.carriedAll_eq
    (completes : Completes session target pairs values objects) :
    carriedAll (pairs.map Prod.fst) values =
      arrivingArguments (pairs.map Prod.fst) (pairs.map Prod.snd) objects := by
  induction completes with
  | done => rfl
  | @newId slot name version handle object pairs values objects _ _ _ inductionHypothesis =>
      simp only [List.map_cons, carriedAll, List.zipWith_cons_cons, arrivingArguments] at *
      rw [inductionHypothesis]
      congr 1
      by_cases dynamic : slot.isDynamic = true <;> simp [Argument.carried, dynamic]
  | @reference slot id handle pairs values objects _ _ _ inductionHypothesis =>
      simp only [List.map_cons, carriedAll, List.zipWith_cons_cons, arrivingArguments] at *
      rw [inductionHypothesis]
      rfl
  | @plain slot passed pairs values objects _ notNewId _ _ inductionHypothesis =>
      obtain ⟨value, handle⟩ := passed
      simp only [List.map_cons, carriedAll, List.zipWith_cons_cons] at *
      rw [inductionHypothesis, carried_of_kind_ne notNewId]
      cases value with
      | newId id name version => exact absurd rfl notNewId
      | _ => rfl

end Values

/-- The references that arrive are those that were sent. -/
theorem mem_zip_of_carriedAll
    {slots : List Slot}
    {values : List Argument}
    {slot : Slot}
    {id : ObjectId}
    (member : (slot, Argument.object id) ∈ slots.zip (carriedAll slots values)) :
    (slot, Argument.object id) ∈ slots.zip values := by
  induction slots generalizing values with
  | nil => simp at member
  | cons first slots inductionHypothesis =>
      cases values with
      | nil => simp [carriedAll] at member
      | cons value values =>
          simp only [carriedAll, List.zipWith_cons_cons, List.zip_cons_cons, List.mem_cons,
            Prod.mk.injEq] at member ⊢
          rcases member with ⟨rfl, carried⟩ | later
          · exact Or.inl ⟨rfl, (eq_object_of_carried carried.symm).symm⟩
          · exact Or.inr (inductionHypothesis later)

/-- No object is found at an id that is destroyed. -/
theorem lookup_of_destroyed
    {session : Session}
    {id : ObjectId}
    (destroyed : session.table.status id = .destroyed) :
    session.table.lookup id = none := by
  rw [Table.lookup_eq_none_iff]
  simp [destroyed]

/-- A reference to an id that is destroyed is refused as such. -/
theorem referenceFault?_of_destroyed
    {session : Session}
    {id : ObjectId}
    (destroyed : session.table.status id = .destroyed)
    (slot : Slot) :
    session.referenceFault? slot id = some (.destroyed id) := by
  unfold referenceFault?
  rw [lookup_of_destroyed destroyed]
  simp [Table.isDestroyed_iff.mpr destroyed]

/-- References to ids that are live and suit, or are gone, are resolved, unless one of them is
gone. -/
theorem resolveReferences_cases
    {session : Session}
    {gone : ObjectId → Prop}
    (goneDestroyed : ∀ id, gone id → session.table.status id = .destroyed)
    {pairs : List (Slot × Argument)}
    (references : ∀ slot id, (slot, Argument.object id) ∈ pairs → id ≠ 0 →
      (∃ object, session.table.status id = .live object ∧ Suits slot object.interface) ∨ gone id) :
    (∃ id name, session.resolveReferences pairs = .error (.argument (.destroyed id) name) ∧
      gone id) ∨
    (∃ objects, session.resolveReferences pairs = .ok objects) := by
  fun_induction resolveReferences session pairs with
  | case1 => exact Or.inr ⟨[], rfl⟩
  | case2 slot id rest fault refused =>
      split at refused
      · cases refused
      · rename_i present
        rcases references slot id (by simp) present with ⟨object, live, suits⟩ | isGone
        · have accepted := referenceFault?_eq_none_iff.mpr
            ⟨object, Table.lookup_eq_some_iff.mpr live, suits⟩
          rw [accepted] at refused
          cases refused
        · rw [referenceFault?_of_destroyed (goneDestroyed id isGone)] at refused
          cases refused
          exact Or.inl ⟨id, slot.name, rfl, isGone⟩
  | case3 slot id rest accepted reason failed inductionHypothesis
  | case5 slot rest notReference reason failed inductionHypothesis =>
      have outcome := inductionHypothesis fun slot id member =>
        references slot id (List.mem_cons_of_mem _ member)
      rw [failed] at outcome
      exact outcome
  | case4 slot id rest accepted objects resolved inductionHypothesis
  | case6 slot rest notReference objects resolved inductionHypothesis =>
      exact Or.inr ⟨_, rfl⟩

section Announced

variable {session sender : Session} {parent target : Object} {arrivals : Arrivals}
variable {objects announced : List Object} {slot : Slot} {id : ObjectId} {name : Bytes}
variable {version negotiated : UInt32} {interface : Interface}

/-- A vacant id of the peer, in sequence, is accepted with what it resolves to. -/
theorem acceptNewId_of_vacant
    (wellFormed : session.WellFormed)
    (grown : arrivals.GrownFrom session objects)
    (inside : sideOfId? id = some session.side.peer)
    (vacant : arrivals.session.table.status id = .vacant)
    (inSequence :
      (IdRange.ofSide session.side.peer).index id ≤
        arrivals.session.table.extent session.side.peer)
    (resolved : session.resolveNewId parent slot name version = .ok (interface, negotiated)) :
    ∃ object next,
      arrivals.session.acceptNewId parent slot id name version = .ok (object, next) ∧
        Table.GainsNext session.number session.side.peer arrivals.session.table object
            next.table ∧
          next = arrivals.session.afterMaking next.table ∧
            object.mark = .creates id ⟨interface, negotiated⟩ := by
  have side : arrivals.session.side = session.side := by rw [grown.session_eq]
  have contained : (IdRange.ofSide arrivals.session.side.peer).contains id = true := by
    rw [side]
    exact sideOfId?_eq_some_iff.mp inside
  have resolvedHere : arrivals.session.resolveNewId parent slot name version =
      .ok (interface, negotiated) :=
    resolveNewId_congr grown.known?_eq rfl resolved
  obtain ⟨object, table, inserted⟩ := (Table.insert_eq_ok_iff inside false
    (arrivals.session.blueprint interface negotiated)).mpr ⟨vacant, Or.inl inSequence⟩
  have accepted : arrivals.session.acceptNewId parent slot id name version =
      .ok (object, arrivals.session.afterMaking table) := by
    simp only [acceptNewId, contained, Bool.not_true, Bool.false_eq_true, if_false, resolvedHere,
      inserted]
  obtain ⟨gains, atId, nextEq, resolvedTo⟩ := acceptNewId_gains wellFormed grown accepted
  refine ⟨object, _, accepted, gains, nextEq, ?_⟩
  rw [resolved] at resolvedTo
  cases resolvedTo
  rw [← atId]
  rfl

/-- What the peer is told of a new object resolves to its interface and version. -/
theorem exists_carried_resolved
    (sameKnown : ∀ wanted, sender.known? wanted = session.known? wanted)
    (sameVersion : parent.version = target.version)
    {object : Object}
    (resolved :
      sender.resolveNewId target slot name version = .ok (object.interface, object.version)) :
    ∃ carriedName carriedVersion,
      (Argument.newId object.id name
          (if slot.isDynamic then object.version else version)).carried slot =
        .newId object.id carriedName carriedVersion ∧
      session.resolveNewId parent slot carriedName carriedVersion =
        .ok (object.interface, object.version) := by
  obtain ⟨carriedName, carriedVersion, carried, dynamic⟩ := carried_newId slot object.id name
    (if slot.isDynamic then object.version else version)
  refine ⟨carriedName, carriedVersion, carried, ?_⟩
  apply resolveNewId_negotiated
    (resolveNewId_congr (fun wanted => (sameKnown wanted).symm) sameVersion resolved)
  intro isDynamic
  simpa [isDynamic] using dynamic isDynamic

/-- Everything that a message announces is made, if the ids are vacant and in sequence. -/
theorem acceptAll_of_completes
    (wellFormed : session.WellFormed)
    (sameKnown : ∀ wanted, sender.known? wanted = session.known? wanted)
    (sameVersion : parent.version = target.version)
    {pairs : List (Slot × Passed)}
    {values : List Argument}
    (completes : Completes sender target pairs values announced)
    (grown : arrivals.GrownFrom session objects)
    {entries : List ((Slot × Argument) × Option Object)}
    (arriving :
      entries.map Prod.fst = (pairs.map Prod.fst).zip (carriedAll (pairs.map Prod.fst) values))
    (inside : ∀ object ∈ announced, sideOfId? object.id = some session.side.peer)
    (vacant : ∀ object ∈ announced, arrivals.session.table.status object.id = .vacant)
    (nodup : (announced.map Object.id).Nodup)
    (inSequence :
      Table.InSequence session.side.peer (arrivals.session.table.extent session.side.peer)
        (announced.map Object.id)) :
    ∃ final made,
      acceptAll parent arrivals entries = (final, none) ∧
        final.GrownFrom session (objects ++ made) ∧
          made.map Object.mark = announced.map Object.mark := by
  induction completes generalizing arrivals objects entries with
  | done =>
      obtain rfl : entries = [] := List.map_eq_nil_iff.mp arriving
      exact ⟨arrivals, [], rfl, by rwa [List.append_nil], rfl⟩
  | @newId slot name version handle object pairs values announced _ resolved _
      inductionHypothesis =>
      obtain ⟨⟨argument, reference⟩, entries, rfl, rfl, rest⟩ := List.map_eq_cons_iff.mp arriving
      obtain ⟨carriedName, carriedVersion, carried, resolvedHere⟩ :=
        exists_carried_resolved sameKnown sameVersion resolved
      obtain ⟨first, next, accepted, gains, nextEq, sameMark⟩ := acceptNewId_of_vacant wellFormed
        grown (inside object (by simp)) (vacant object (by simp)) inSequence.1 resolvedHere
      have sameId : first.id = object.id := congrArg Mark.id sameMark
      rw [List.map_cons, List.nodup_cons] at nodup
      obtain ⟨final, made, acceptedRest, grownFinal, sameMarks⟩ := inductionHypothesis
        (grown.step gains nextEq) rest
        (fun later member => inside later (by simp [member]))
        (fun later member => by
          have different : later.id ≠ first.id := by
            intro same
            exact nodup.1 (List.mem_map.mpr ⟨later, member, same.trans sameId⟩)
          simp only
          rw [gains.status_eq, if_neg different]
          exact vacant later (by simp [member]))
        nodup.2
        (by
          simp only
          rw [gains.extent_eq, sameId]
          exact inSequence.2)
      refine ⟨final, first :: made, ?_, ?_, ?_⟩
      · simp only [carried, acceptAll, accepted]
        exact acceptedRest
      · rwa [List.append_assoc] at grownFinal
      · rw [List.map_cons, List.map_cons, sameMarks, sameMark]
        rfl
  | @reference slot id handle pairs values announced _ _ _ inductionHypothesis =>
      obtain ⟨⟨argument, reference⟩, entries, rfl, rfl, rest⟩ := List.map_eq_cons_iff.mp arriving
      have notNewId : (Argument.object id).kind ≠ .newId := by simp [Argument.kind]
      obtain ⟨final, made, acceptedRest, grownFinal, sameMarks⟩ := inductionHypothesis
        (grown.skip reference) rest inside vacant nodup inSequence
      refine ⟨final, made, ?_, grownFinal, sameMarks⟩
      simp only [carried_of_kind_ne notNewId, acceptAll_cons_of_kind_ne notNewId]
      exact acceptedRest
  | @plain slot passed pairs values announced _ notNewId _ _ inductionHypothesis =>
      obtain ⟨⟨argument, reference⟩, entries, rfl, rfl, rest⟩ := List.map_eq_cons_iff.mp arriving
      obtain ⟨final, made, acceptedRest, grownFinal, sameMarks⟩ := inductionHypothesis
        (grown.skip reference) rest inside vacant nodup inSequence
      refine ⟨final, made, ?_, grownFinal, sameMarks⟩
      simp only [carried_of_kind_ne notNewId, acceptAll_cons_of_kind_ne notNewId]
      exact acceptedRest

end Announced

/-- The id that a report of a destroyed object is about. -/
def Error.destroyedId?
    (error : Error) :
    Option ObjectId :=
  match error.reason with
  | .destroyedObject => some error.object
  | .argument (.destroyed id) _ => some id
  | _ => none

/-- A report of a destroyed object has that cause. -/
theorem Error.cause_of_destroyedId?
    {error : Error}
    {id : ObjectId}
    (about : error.destroyedId? = some id) :
    error.reason.cause = .destroyedObject := by
  unfold Error.destroyedId? at about
  split at about
  · rename_i reason
    rw [reason]
    rfl
  · rename_i reason
    rw [reason]
    rfl
  · cases about

def Departure.inbound
    (departure : Departure)
    (following : List Int) :
    Inbound :=
  { sender := departure.target.id
    opcode := departure.opcode
    payload := ⟨departure.payload.body, departure.payload.descriptors ++ following⟩ }

/-- A received message is the one that was sent. -/
structure Departure.Reads
    (departure : Departure)
    (incoming : Incoming) : Prop where
  target_eq : incoming.target.id = departure.target.id
  opcode_eq : incoming.opcode = departure.opcode
  signature_eq : incoming.signature = departure.signature
  arguments_eq :
    incoming.arguments =
      arrivingArguments departure.signature.slots departure.passed departure.created
  created_eq : incoming.created.map Object.mark = departure.created.map Object.mark
  descriptorsUsed_eq : incoming.descriptorsUsed = departure.payload.descriptors.length

section Fitting

variable {session : Session} {gone : ObjectId → Prop} {side : Side} {departure : Departure}

/-- A message for an object that is destroyed is refused with a report about that object. -/
theorem decode_of_destroyed
    {inbound : Inbound}
    (destroyed : session.table.status inbound.sender = .destroyed) :
    (session.decode inbound).result =
      .error (.refused
        { blame := .peer, object := inbound.sender, reason := .destroyedObject }) := by
  simp [decode, lookup_of_destroyed destroyed, refuse, Table.isDestroyed_iff.mpr destroyed]

/-- The target of a message that fits is live unless it is gone, with the interface and version that
the sender knows. -/
theorem Departure.Fits.target_live
    (fits : departure.Fits side gone session.table.standing (session.table.extent side))
    (notGone : ¬gone departure.target.id) :
    ∃ target, session.table.status departure.target.id = .live target ∧
      target.interface = departure.target.interface ∧
        target.version = departure.target.version := by
  obtain ⟨target, live, outlineEq⟩ :=
    Table.status_of_standing_live (fits.target.resolve_right notGone)
  exact ⟨target, live, congrArg Outline.interface outlineEq, congrArg Outline.version outlineEq⟩

/-- What a message that fits refers to on arrival is live and suits, or is gone. -/
theorem Departure.Fits.references_arriving
    (fits : departure.Fits side gone session.table.standing (session.table.extent side))
    (slot : Slot)
    (id : ObjectId)
    (member : (slot, Argument.object id) ∈
      departure.signature.slots.zip (carriedAll departure.signature.slots departure.values))
    (present : id ≠ 0) :
    (∃ object, session.table.status id = .live object ∧ Suits slot object.interface) ∨
      gone id := by
  rcases fits.references slot id (mem_zip_of_carriedAll member) present with
    ⟨outline, standing, suits⟩ | isGone
  · obtain ⟨object, live, rfl⟩ := Table.status_of_standing_live standing
    exact Or.inl ⟨object, live, suits⟩
  · exact Or.inr isGone

/-- Everything that a message that fits announces is made. -/
theorem Departure.Fits.acceptAll_eq
    (wellFormed : session.WellFormed)
    (receiver : session.side.peer = side)
    (formed : departure.Formed side session.known?)
    (fits : departure.Fits side gone session.table.standing (session.table.extent side))
    {target : Object}
    (sameVersion : target.version = departure.target.version)
    {objects : List (Option Object)}
    (resolved : session.resolveReferences (departure.signature.slots.zip
      (carriedAll departure.signature.slots departure.values)) = .ok objects) :
    ∃ final made,
      acceptAll target { session } ((departure.signature.slots.zip
          (carriedAll departure.signature.slots departure.values)).zip objects) = (final, none) ∧
        final.GrownFrom session made ∧
          made.map Object.mark = departure.created.map Object.mark := by
  subst receiver
  obtain ⟨sender, sameKnown, completes⟩ := formed.completes
  have start : Arrivals.GrownFrom session [] { session } := ⟨rfl, rfl, .start⟩
  have arriving : (((departure.signature.slots.zip
        (carriedAll departure.signature.slots departure.values)).zip objects).map Prod.fst) =
      ((departure.signature.slots.zip departure.passed).map Prod.fst).zip
        (carriedAll ((departure.signature.slots.zip departure.passed).map Prod.fst)
          departure.values) := by
    rw [List.map_fst_zip (Nat.le_of_eq formed.sameLength.symm)]
    exact List.map_fst_zip (Nat.le_of_eq (length_resolveReferences resolved).symm)
  exact acceptAll_of_completes wellFormed sameKnown sameVersion completes start arriving
    fits.inside (fun object member => Table.standing_eq_vacant_iff.mp (fits.vacant object member))
    fits.nodup fits.inSequence

/-- The values that reach the receiver. -/
theorem Departure.Formed.carriedAll_eq
    {known? : Bytes → Option (String × Interface)}
    (formed : departure.Formed side known?) :
    carriedAll departure.signature.slots departure.values =
      arrivingArguments departure.signature.slots departure.passed departure.created := by
  obtain ⟨sender, -, completes⟩ := formed.completes
  have slotsEq := List.map_fst_zip (Nat.le_of_eq formed.sameLength.symm)
  have passedEq := List.map_snd_zip (Nat.le_of_eq formed.sameLength)
  have arguments := completes.carriedAll_eq
  rwa [slotsEq, passedEq] at arguments

/-- A message that fits is received as it was sent, unless something it needs is gone, and then the
report is about that. -/
theorem decode_of_fits
    (wellFormed : session.WellFormed)
    (goneDestroyed : ∀ id, gone id → session.table.status id = .destroyed)
    (receiver : session.side.peer = side)
    (formed : departure.Formed side session.known?)
    (fits : departure.Fits side gone session.table.standing (session.table.extent side))
    (following : List Int) :
    (∃ error id,
      (session.decode (departure.inbound following)).result = .error (.refused error) ∧
        error.destroyedId? = some id ∧ gone id) ∨
    (∃ incoming,
      (session.decode (departure.inbound following)).result = .ok incoming ∧
        departure.Reads incoming) := by
  subst receiver
  by_cases targetGone : gone departure.target.id
  · exact Or.inl ⟨_, departure.target.id, decode_of_destroyed (goneDestroyed _ targetGone), rfl,
      targetGone⟩
  · obtain ⟨target, live, interfaceEq, versionEq⟩ := fits.target_live targetGone
    have lookup := Table.lookup_eq_some_iff.mpr live
    have message : target.interface.message? session.side.receives departure.opcode =
        some departure.signature := by
      rw [interfaceEq]
      exact formed.message
    have available : ¬departure.signature.since > target.version := by
      rw [versionEq]
      exact formed.available
    have decoded := decode_encode formed.encoded following
    unfold decode
    simp only [Departure.inbound, lookup, message, if_neg available, decoded]
    rcases resolveReferences_cases goneDestroyed fits.references_arriving with
      ⟨id, name, failed, isGone⟩ | ⟨objects, resolved⟩
    · rw [failed]
      exact Or.inl ⟨_, id, rfl, rfl, isGone⟩
    · obtain ⟨final, made, accepted, grown, sameMarks⟩ :=
        fits.acceptAll_eq wellFormed rfl formed versionEq resolved
      rw [resolved]
      simp only [accepted]
      refine Or.inr ⟨_, rfl, ?_⟩
      obtain ⟨created, -⟩ := created_of_acceptAll wellFormed (length_decode decoded) resolved
        accepted
        { target
          opcode := departure.opcode
          signature := departure.signature
          arguments := carriedAll departure.signature.slots departure.values
          objects := final.objects.reverse
          descriptorsUsed := departure.payload.descriptors.length } rfl rfl
      refine ⟨Table.WellFormed.id_of_live wellFormed live, rfl, rfl, formed.carriedAll_eq, ?_, rfl⟩
      rw [created, grown.created_eq, List.reverse_reverse]
      exact sameMarks

end Fitting

end Wayland.Session
