import Wayland.Proofs.Session.Sending

/-!
Contract: what receiving a message does.

Owns:
- the objects that a received message made;
- what a decoded message is drawn from, and the two outcomes of decoding: its effects stay, or nothing
  is left of it.

Does not own: which messages the peer sends, or which of them are accepted.
-/

namespace Wayland.Session

open Wayland.Text
open Wayland.Wire

/-- The objects that a received message made, in argument order. -/
def Incoming.created
    (incoming : Incoming) :
    List Object :=
  (incoming.arguments.zip incoming.objects).filterMap fun (argument, object) =>
    if argument.kind = .newId then object else none

/-- Arrivals that grew from a session by making some objects. -/
structure Arrivals.GrownFrom
    (session : Session)
    (objects : List Object)
    (arrivals : Arrivals) : Prop where
  created_eq : arrivals.created = objects.reverse
  session_eq :
    arrivals.session =
      { session with table := arrivals.session.table, made := arrivals.session.made }
  growth :
    Table.Growth session.number session.side.peer session.table objects arrivals.session.table

section Accepting

variable {session : Session} {objects : List Object} {arrivals final : Arrivals}
variable {parent : Object} {slot : Slot} {id : ObjectId} {name : Bytes} {version : UInt32}

/-- Giving back the objects of arrivals leaves the session untouched. -/
theorem Arrivals.GrownFrom.untouched
    (grown : arrivals.GrownFrom session objects)
    (wellFormed : session.WellFormed) :
    Untouched session.side.peer session (arrivals.session.abandonAll arrivals.created) := by
  obtain ⟨retracted, status, extentLe, extentPeer⟩ := grown.growth.retract wellFormed
  rw [← grown.created_eq] at retracted status extentLe extentPeer
  have number : (arrivals.session.abandonAll arrivals.created).number = session.number := by
    rw [grown.session_eq]
    rfl
  refine ⟨?_, ?_, status, extentLe, extentPeer⟩
  · rw [grown.session_eq]
    rfl
  · unfold WellFormed
    rw [number]
    exact retracted

/-- Arrivals that grew from a session know the same interfaces. -/
theorem Arrivals.GrownFrom.known?_eq
    (grown : arrivals.GrownFrom session objects)
    (wanted : Bytes) :
    arrivals.session.known? wanted = session.known? wanted := by
  rw [grown.session_eq]
  rfl

/-- An object is accepted at an id of the peer, if what is announced can be resolved and the table
takes it in sequence. -/
theorem exists_insert_of_acceptNewId
    {object : Object}
    {next : Session}
    (accepted : session.acceptNewId parent slot id name version = .ok (object, next)) :
    ∃ interface negotiated table,
      sideOfId? id = some session.side.peer ∧
        session.resolveNewId parent slot name version = .ok (interface, negotiated) ∧
          session.table.insert id false (session.blueprint interface negotiated) =
              .ok (object, table) ∧
            next = session.afterMaking table := by
  unfold acceptNewId at accepted
  split at accepted
  · cases accepted
  · rename_i contained
    split at accepted
    · cases accepted
    · rename_i interface negotiated resolved
      split at accepted
      · cases accepted
      · rename_i made table inserted
        cases accepted
        have inside : sideOfId? id = some session.side.peer :=
          sideOfId?_eq_some_iff.mpr (by simpa using contained)
        exact ⟨interface, negotiated, table, inside, resolved, inserted, rfl⟩

/-- An accepted object is made in sequence, at the announced id. -/
theorem acceptNewId_gains
    (wellFormed : session.WellFormed)
    (grown : arrivals.GrownFrom session objects)
    {object : Object}
    {next : Session}
    (accepted : arrivals.session.acceptNewId parent slot id name version = .ok (object, next)) :
    Table.GainsNext session.number session.side.peer arrivals.session.table object next.table ∧
      object.id = id ∧ next = arrivals.session.afterMaking next.table ∧
        session.resolveNewId parent slot name version =
          .ok (object.interface, object.version) := by
  have number : arrivals.session.number = session.number := by rw [grown.session_eq]
  have side : arrivals.session.side = session.side := by rw [grown.session_eq]
  obtain ⟨interface, negotiated, table, inside, resolved, inserted, rfl⟩ :=
    exists_insert_of_acceptNewId accepted
  rw [side] at inside
  have valid : (arrivals.session.blueprint interface negotiated).Valid session.number := by
    rw [← number]
    exact blueprint_valid resolved
  obtain ⟨-, madeOf, atId, inSequence⟩ := Table.gains_insert
    (grown.growth.wellFormed wellFormed) valid inside inserted
  obtain ⟨rfl, rfl⟩ : object.interface = interface ∧ object.version = negotiated := by
    simp only [Object.blueprint, blueprint, Blueprint.mk.injEq] at madeOf
    exact madeOf.2.2
  exact ⟨inSequence rfl, atId, rfl,
    resolveNewId_congr (fun wanted => (grown.known?_eq wanted).symm) rfl resolved⟩

/-- Arrivals grow by an accepted object. -/
theorem Arrivals.GrownFrom.step
    (grown : arrivals.GrownFrom session objects)
    {object : Object}
    {next : Session}
    (gains :
      Table.GainsNext session.number session.side.peer arrivals.session.table object next.table)
    (nextEq : next = arrivals.session.afterMaking next.table) :
    Arrivals.GrownFrom session (objects ++ [object])
      { session := next
        created := object :: arrivals.created
        objects := some object :: arrivals.objects } where
  created_eq := by simp [grown.created_eq]
  session_eq := by
    simp only
    rw [nextEq, grown.session_eq]
    rfl
  growth := .step grown.growth gains

/-- Arrivals stay grown when an argument announces nothing. -/
theorem Arrivals.GrownFrom.skip
    (grown : arrivals.GrownFrom session objects)
    (reference : Option Object) :
    Arrivals.GrownFrom session objects
      { arrivals with objects := reference :: arrivals.objects } :=
  ⟨grown.created_eq, grown.session_eq, grown.growth⟩

/-- An argument that announces nothing is passed over. -/
theorem acceptAll_cons_of_kind_ne
    {argument : Argument}
    (announcesNothing : argument.kind ≠ .newId)
    (reference : Option Object)
    (entries : List ((Slot × Argument) × Option Object)) :
    acceptAll parent arrivals (((slot, argument), reference) :: entries) =
      acceptAll parent { arrivals with objects := reference :: arrivals.objects } entries := by
  cases argument with
  | newId id name version => exact absurd rfl announcesNothing
  | _ => rfl

/-- What every accepted object and every argument that announces nothing preserve holds of the
arrivals, however many announced objects were made. -/
theorem acceptAll_preserves
    {motive : Arrivals → Prop}
    {entries : List ((Slot × Argument) × Option Object)}
    (make : ∀ arrivals slot id name version object next, motive arrivals →
      arrivals.session.acceptNewId parent slot id name version = .ok (object, next) →
        motive ⟨next, object :: arrivals.created, some object :: arrivals.objects⟩)
    (skip : ∀ arrivals, ∀ entry ∈ entries, motive arrivals →
      motive { arrivals with objects := entry.2 :: arrivals.objects })
    (start : motive arrivals)
    {refusal : Option Reason}
    (accepted : acceptAll parent arrivals entries = (final, refusal)) :
    motive final := by
  induction entries generalizing arrivals with
  | nil =>
      cases accepted
      exact start
  | cons entry entries inductionHypothesis =>
      have skipLater : ∀ arrivals, ∀ entry ∈ entries, motive arrivals →
          motive { arrivals with objects := entry.2 :: arrivals.objects } :=
        fun arrivals entry later => skip arrivals entry (List.mem_cons_of_mem _ later)
      obtain ⟨⟨slot, argument⟩, reference⟩ := entry
      cases argument with
      | newId id name version =>
          simp only [acceptAll] at accepted
          split at accepted
          · cases accepted
            exact start
          · rename_i object next one
            exact inductionHypothesis skipLater
              (make arrivals slot id name version object next start one) accepted
      | int value | uint value | fixed value | string value | object value | array value
      | fd value | unassigned value =>
          rw [acceptAll_cons_of_kind_ne (by simp [Argument.kind])] at accepted
          exact inductionHypothesis skipLater (skip arrivals _ List.mem_cons_self start) accepted

/-- However many announced objects were made, the arrivals grew from the session. -/
theorem acceptAll_grown
    (wellFormed : session.WellFormed)
    (grown : arrivals.GrownFrom session objects)
    {entries : List ((Slot × Argument) × Option Object)}
    {refusal : Option Reason}
    (accepted : acceptAll parent arrivals entries = (final, refusal)) :
    ∃ made, final.GrownFrom session made := by
  refine acceptAll_preserves (motive := fun arrivals => ∃ made, arrivals.GrownFrom session made)
    ?_ ?_ ⟨objects, grown⟩ accepted
  · rintro arrivals slot id name version object next ⟨made, grown⟩ one
    obtain ⟨gains, -, nextEq, -⟩ := acceptNewId_gains wellFormed grown one
    exact ⟨_, grown.step gains nextEq⟩
  · rintro arrivals entry - ⟨made, grown⟩
    exact ⟨made, grown.skip entry.2⟩

/-- When no announced object is refused, the objects made stand at the arguments that announce
them. -/
theorem acceptAll_created
    (wellFormed : session.WellFormed)
    (grown : arrivals.GrownFrom session objects)
    {entries : List ((Slot × Argument) × Option Object)}
    (accepted : acceptAll parent arrivals entries = (final, none)) :
    ∃ made resolved,
      final.GrownFrom session (objects ++ made) ∧
        final.objects = resolved.reverse ++ arrivals.objects ∧
          resolved.length = entries.length ∧
            ((entries.map fun entry => entry.1.2).zip resolved).filterMap
              (fun (argument, object) => if argument.kind = .newId then object else none) =
                made := by
  induction entries generalizing arrivals objects with
  | nil =>
      cases accepted
      exact ⟨[], [], by rwa [List.append_nil], rfl, rfl, rfl⟩
  | cons entry entries inductionHypothesis =>
      obtain ⟨⟨slot, argument⟩, reference⟩ := entry
      cases argument with
      | newId id name version =>
          simp only [acceptAll] at accepted
          split at accepted
          · cases accepted
          · rename_i object next one
            obtain ⟨gains, -, nextEq, -⟩ := acceptNewId_gains wellFormed grown one
            obtain ⟨made, resolved, grownFinal, objectsEq, sameLength, madeEq⟩ :=
              inductionHypothesis (grown.step gains nextEq) accepted
            refine ⟨object :: made, some object :: resolved, ?_, ?_, by simp [sameLength], ?_⟩
            · rwa [List.append_assoc] at grownFinal
            · simp [objectsEq]
            · simp [Argument.kind, ← madeEq]
      | int value | uint value | fixed value | string value | object value | array value
      | fd value | unassigned value =>
          rw [acceptAll_cons_of_kind_ne (by simp [Argument.kind])] at accepted
          obtain ⟨made, resolved, grownFinal, objectsEq, sameLength, madeEq⟩ :=
            inductionHypothesis (grown.skip reference) accepted
          refine ⟨made, reference :: resolved, grownFinal, ?_, by simp [sameLength], ?_⟩
          · simp [objectsEq]
          · simp [Argument.kind, ← madeEq]

end Accepting

/-- One value is read for each slot. -/
theorem length_readSlots
    {message : String}
    {body : Bytes}
    {descriptors : List Int}
    {slots : List Slot}
    {reading : Reading (List Argument)}
    (read : readSlots message body descriptors slots = .ok reading) :
    reading.value.length = slots.length := by
  induction slots generalizing body descriptors reading with
  | nil =>
      cases read
      rfl
  | cons slot slots inductionHypothesis =>
      simp only [readSlots] at read
      split at read
      · cases read
      · split at read
        · cases read
        · rename_i others readOthers
          cases read
          simp [inductionHypothesis readOthers]

/-- One value is decoded for each slot. -/
theorem length_decode
    {signature : Signature}
    {payload : Payload}
    {decoded : Decoded}
    (read : Wire.decode signature payload = .ok decoded) :
    decoded.arguments.length = signature.slots.length := by
  unfold Wire.decode at read
  split at read
  · cases read
  · rename_i reading readAll
    split at read
    · cases read
      exact length_readSlots readAll
    · cases read

/-- One entry is resolved for each argument. -/
theorem length_resolveReferences
    {session : Session}
    {pairs : List (Slot × Argument)}
    {references : List (Option Object)}
    (resolved : session.resolveReferences pairs = .ok references) :
    references.length = pairs.length := by
  fun_induction resolveReferences session pairs generalizing references with
  | case1 =>
      cases resolved
      rfl
  | case2 => cases resolved
  | case3 => cases resolved
  | case4 _ _ _ _ _ rest inductionHypothesis =>
      cases resolved
      simp [inductionHypothesis rest]
  | case5 => cases resolved
  | case6 _ _ _ _ rest inductionHypothesis =>
      cases resolved
      simp [inductionHypothesis rest]

/-- The arguments of the entries that are looked at for new objects. -/
theorem map_argument_zip
    {slots : List Slot}
    {arguments : List Argument}
    {references : List (Option Object)}
    (sameLength : arguments.length = slots.length)
    (referencesLength : references.length = (slots.zip arguments).length) :
    ((slots.zip arguments).zip references).map (fun entry => entry.1.2) = arguments := by
  calc ((slots.zip arguments).zip references).map (fun entry => entry.1.2)
      = (((slots.zip arguments).zip references).map Prod.fst).map Prod.snd := by
        rw [List.map_map]
        rfl
    _ = (slots.zip arguments).map Prod.snd := by
        rw [List.map_fst_zip (Nat.le_of_eq referencesLength.symm)]
    _ = arguments := List.map_snd_zip (Nat.le_of_eq sameLength)

/-- The objects that stand at the arguments which announce them are those that were made. -/
theorem created_of_acceptAll
    {session : Session}
    (wellFormed : session.WellFormed)
    {target : Object}
    {slots : List Slot}
    {arguments : List Argument}
    {references : List (Option Object)}
    (sameLength : arguments.length = slots.length)
    (resolved : session.resolveReferences (slots.zip arguments) = .ok references)
    {arrivals : Arrivals}
    (accepted :
      acceptAll target { session } ((slots.zip arguments).zip references) = (arrivals, none))
    (incoming : Incoming)
    (argumentsEq : incoming.arguments = arguments)
    (objectsEq : incoming.objects = arrivals.objects.reverse) :
    incoming.created = arrivals.created.reverse ∧
      arrivals.GrownFrom session incoming.created := by
  have start : Arrivals.GrownFrom session [] { session } := ⟨rfl, rfl, .start⟩
  obtain ⟨made, objects, grown, standing, -, madeEq⟩ := acceptAll_created wellFormed start accepted
  rw [map_argument_zip sameLength (length_resolveReferences resolved)] at madeEq
  rw [List.nil_append] at grown
  have created : incoming.created = made := by
    unfold Incoming.created
    rw [argumentsEq, objectsEq, standing, List.append_nil, List.reverse_reverse, ← madeEq]
  rw [created]
  exact ⟨by rw [grown.created_eq, List.reverse_reverse], grown⟩

/-- A message that was decoded: who it is for, what its references were resolved to, and what was made
for it. -/
structure Incoming.Drawn
    (incoming : Incoming)
    (inbound : Inbound)
    (session : Session)
    (references : List (Option Object))
    (arrivals : Arrivals) : Prop where
  lookup : session.table.lookup inbound.sender = some incoming.target
  sameLength : incoming.arguments.length = incoming.signature.slots.length
  resolved :
    session.resolveReferences (incoming.signature.slots.zip incoming.arguments) = .ok references
  accepted :
    acceptAll incoming.target { session }
      ((incoming.signature.slots.zip incoming.arguments).zip references) = (arrivals, none)
  objects_eq : incoming.objects = arrivals.objects.reverse

/-- Decoding is refused before anything is made, is refused and takes back what was made, or draws its
objects from the message. -/
theorem decode_drawn
    (session : Session)
    (inbound : Inbound) :
    (∃ error : Error,
      error.blame = .peer ∧ (session.decode inbound).result = .error (.refused error) ∧
        ((session.decode inbound).session = session ∨
          ∃ target entries arrivals refusal,
            acceptAll target { session } entries = (arrivals, refusal) ∧
              (session.decode inbound).session =
                arrivals.session.abandonAll arrivals.created)) ∨
    (∃ incoming references arrivals,
      (session.decode inbound).result = .ok incoming ∧
        incoming.Drawn inbound session references arrivals ∧
          (session.decode inbound).session =
            (arrivals.session.destroyTarget incoming.target incoming.signature).1) := by
  unfold decode
  split
  · exact Or.inl ⟨_, rfl, rfl, Or.inl rfl⟩
  · rename_i target lookup
    simp only
    split
    · exact Or.inl ⟨_, rfl, rfl, Or.inl rfl⟩
    · rename_i signature message
      split
      · exact Or.inl ⟨_, rfl, rfl, Or.inl rfl⟩
      · split
        · exact Or.inl ⟨_, rfl, rfl, Or.inl rfl⟩
        · rename_i decoded read
          split
          · exact Or.inl ⟨_, rfl, rfl, Or.inl rfl⟩
          · rename_i references resolved
            split
            · rename_i arrivals reason accepted
              exact Or.inl ⟨_, rfl, rfl, Or.inr ⟨target, _, arrivals, _, accepted, rfl⟩⟩
            · rename_i arrivals accepted
              refine Or.inr ⟨_, references, arrivals, rfl, ?_, rfl⟩
              exact ⟨lookup, length_decode read, resolved, accepted, rfl⟩

/-- The objects that a decoded message made are those of its arrivals. -/
theorem Incoming.Drawn.grown
    {incoming : Incoming}
    {inbound : Inbound}
    {session : Session}
    {references : List (Option Object)}
    {arrivals : Arrivals}
    (drawn : incoming.Drawn inbound session references arrivals)
    (wellFormed : session.WellFormed) :
    incoming.created = arrivals.created.reverse ∧
      arrivals.GrownFrom session incoming.created :=
  created_of_acceptAll wellFormed drawn.sameLength drawn.resolved drawn.accepted incoming rfl
    drawn.objects_eq

/-- A session received a message and stays with its effects. -/
structure Incoming.Arrives
    (incoming : Incoming)
    (inbound : Inbound)
    (session next : Session) : Prop where
  live : session.table.status incoming.target.id = .live incoming.target
  sender_eq : incoming.target.id = inbound.sender
  grows : ∃ table made,
    Table.Growth session.number session.side.peer session.table incoming.created table ∧
      next = ({ session with table, made }.destroyTarget incoming.target incoming.signature).1

/-- Decoding has two outcomes: the peer is blamed and nothing is left of the message, or its effects
stay. -/
theorem decode_cases
    {session : Session}
    (wellFormed : session.WellFormed)
    (inbound : Inbound) :
    (∃ error : Error,
      error.blame = .peer ∧ (session.decode inbound).result = .error (.refused error) ∧
        Untouched session.side.peer session (session.decode inbound).session) ∨
    (∃ incoming : Incoming,
      (session.decode inbound).result = .ok incoming ∧
        incoming.Arrives inbound session (session.decode inbound).session) := by
  have start : Arrivals.GrownFrom session [] { session } := ⟨rfl, rfl, .start⟩
  rcases decode_drawn session inbound with
    ⟨error, blamed, failed, early | ⟨target, entries, arrivals, refusal, accepted, late⟩⟩ |
      ⟨incoming, references, arrivals, succeeded, drawn, next⟩
  · rw [early]
    exact Or.inl ⟨error, blamed, failed, .refl _ wellFormed⟩
  · obtain ⟨made, grown⟩ := acceptAll_grown wellFormed start accepted
    rw [late]
    exact Or.inl ⟨error, blamed, failed, grown.untouched wellFormed⟩
  · obtain ⟨-, grown⟩ := drawn.grown wellFormed
    have live := Table.lookup_eq_some_iff.mp drawn.lookup
    have atSender : incoming.target.id = inbound.sender :=
      Table.WellFormed.id_of_live wellFormed live
    refine Or.inr ⟨incoming, succeeded, by rw [atSender]; exact live, atSender,
      arrivals.session.table, arrivals.session.made, grown.growth, ?_⟩
    rw [← grown.session_eq, next]

end Wayland.Session
