import Wayland.Proofs.Session.InStep
import Wayland.Proofs.Session.Registry
import Wayland.Proofs.Wire.Descriptors

/-!
Contract: messages and whole deliveries between two sessions, with errors and further deliveries.

Owns:
- what the receiver makes of a message about registered objects, beside any descriptors: it refuses
  the message, or reads it as it was sent but for the descriptors, and takes as many of these as were
  sent;
- that the receiver agrees with the registry either way;
- what became of each message that a delivery cut off, and that handlers see only accepted ones;
- the moves of a relay and its logs: what was sent, and what became of it;
- how the descriptors beside the bytes are drawn: by the accepted messages, one after the other.

Does not own: released ids, or bytes that no session wrote.
-/

namespace Wayland.Session

open Wayland.Text
open Wayland.Wire

/-- The message as it reaches the receiver beside some descriptors. -/
def Departure.beside
    (departure : Departure)
    (descriptors : List Int) :
    Inbound :=
  { sender := departure.target.id
    opcode := departure.opcode
    payload := ⟨departure.payload.body, descriptors⟩ }

/-- A received message is the one that was sent but for its descriptors, of which there are as
many. -/
structure Departure.Reaches
    (departure : Departure)
    (incoming : Incoming) : Prop where
  target_eq : incoming.target.id = departure.target.id
  opcode_eq : incoming.opcode = departure.opcode
  signature_eq : incoming.signature = departure.signature
  bare_eq :
    incoming.arguments.map Argument.bare =
      (arrivingArguments departure.signature.slots departure.passed departure.created).map
        Argument.bare
  created_eq : incoming.created.map Object.mark = departure.created.map Object.mark
  descriptorsUsed_eq : incoming.descriptorsUsed = departure.payload.descriptors.length

/-- The values that arrive hold the descriptors that were sent. -/
theorem Departure.Formed.descriptors_eq
    {departure : Departure}
    {side : Side}
    {known? : Bytes → Option (String × Interface)}
    (formed : departure.Formed side known?) :
    descriptorsOf
        (arrivingArguments departure.signature.slots departure.passed departure.created) =
      departure.payload.descriptors := by
  have sameLength : departure.values.length = departure.signature.slots.length := by
    have encoded := formed.encoded
    unfold Wire.encode at encoded
    split at encoded
    · cases encoded
    · omega
  rw [← formed.carriedAll_eq, descriptorsOf_carriedAll sameLength,
    encode_descriptors formed.encoded]

/-- A message that was received with its own descriptors was received as it was sent. -/
theorem Departure.Reaches.reads
    {departure : Departure}
    {incoming : Incoming}
    {side : Side}
    {known? : Bytes → Option (String × Interface)}
    (reaches : departure.Reaches incoming)
    (formed : departure.Formed side known?)
    (own : descriptorsOf incoming.arguments = departure.payload.descriptors) :
    departure.Reads incoming where
  target_eq := reaches.target_eq
  opcode_eq := reaches.opcode_eq
  signature_eq := reaches.signature_eq
  arguments_eq := eq_of_map_bare reaches.bare_eq (own.trans formed.descriptors_eq.symm)
  created_eq := reaches.created_eq
  descriptorsUsed_eq := reaches.descriptorsUsed_eq

/-- An accepted message was read from its payload, under the signature that the target has for its
opcode. -/
theorem read_of_decode
    {session : Session}
    {inbound : Inbound}
    {incoming : Incoming}
    (accepted : (session.decode inbound).result = .ok incoming) :
    incoming.opcode = inbound.opcode ∧
      incoming.target.interface.message? session.side.receives inbound.opcode =
        some incoming.signature ∧
      Wire.decode incoming.signature inbound.payload =
        .ok ⟨incoming.arguments, incoming.descriptorsUsed⟩ := by
  unfold decode at accepted
  split at accepted
  · cases accepted
  · simp only at accepted
    split at accepted
    · cases accepted
    · rename_i signature message
      split at accepted
      · cases accepted
      · split at accepted
        · cases accepted
        · rename_i decoded read
          split at accepted
          · cases accepted
          · split at accepted
            · cases accepted
            · cases accepted
              exact ⟨rfl, message, read⟩

section Announced

variable {session sender : Session} {parent target : Object} {arrivals final : Arrivals}
variable {objects announced : List Object}

/-- A value that differs from a carried new object at most in its descriptor is that new object. -/
theorem eq_newId_of_bare
    {argument : Argument}
    {id : ObjectId}
    {name : Bytes}
    {version : UInt32}
    (sameBare : argument.bare = (Argument.newId id name version).bare) :
    argument = .newId id name version := by
  have isNewId : (Argument.newId id name version).kind ≠ .fd := by simp [Argument.kind]
  have sameKind := Argument.kind_eq_of_bare sameBare
  rwa [Argument.bare_of_kind_ne (sameKind ▸ isNewId), Argument.bare_of_kind_ne isNewId] at sameBare

/-- If everything that a message announces is accepted, it is made as its sender made it. -/
theorem marks_of_acceptAll
    (wellFormed : session.WellFormed)
    (sameKnown : ∀ wanted, sender.known? wanted = session.known? wanted)
    (sameVersion : parent.version = target.version)
    {pairs : List (Slot × Passed)}
    {values arguments : List Argument}
    (completes : Completes sender target pairs values announced)
    (sameBare :
      arguments.map Argument.bare =
        (carriedAll (pairs.map Prod.fst) values).map Argument.bare)
    (grown : arrivals.GrownFrom session objects)
    {entries : List ((Slot × Argument) × Option Object)}
    (arriving : entries.map Prod.fst = (pairs.map Prod.fst).zip arguments)
    (accepted : acceptAll parent arrivals entries = (final, none)) :
    ∃ made,
      final.GrownFrom session (objects ++ made) ∧
        made.map Object.mark = announced.map Object.mark := by
  induction completes generalizing arrivals objects entries arguments with
  | done =>
      obtain rfl : entries = [] := List.map_eq_nil_iff.mp arriving
      cases accepted
      exact ⟨[], by rwa [List.append_nil], rfl⟩
  | @newId slot name version handle object pairs values announced _ resolved _
      inductionHypothesis =>
      obtain ⟨argument, arguments, rfl, argumentBare, restBare⟩ := List.map_eq_cons_iff.mp sameBare
      obtain ⟨⟨_, reference⟩, entries, rfl, rfl, rest⟩ := List.map_eq_cons_iff.mp arriving
      obtain ⟨carriedName, carriedVersion, carried, resolvedHere⟩ :=
        exists_carried_resolved sameKnown sameVersion resolved
      simp only [carried] at argumentBare
      obtain rfl := eq_newId_of_bare argumentBare
      simp only [acceptAll] at accepted
      split at accepted
      · cases accepted
      · rename_i first next one
        obtain ⟨gains, atId, nextEq, resolvedTo⟩ := acceptNewId_gains wellFormed grown one
        obtain ⟨made, grownFinal, sameMarks⟩ :=
          inductionHypothesis restBare (grown.step gains nextEq) rest accepted
        rw [resolvedHere] at resolvedTo
        simp only [Except.ok.injEq, Prod.mk.injEq] at resolvedTo
        refine ⟨first :: made, by rwa [List.append_assoc] at grownFinal, ?_⟩
        simp only [List.map_cons, sameMarks, Object.mark, Object.outline, atId, ← resolvedTo.1,
          ← resolvedTo.2]
  | @reference slot id handle pairs values announced _ _ _ inductionHypothesis =>
      obtain ⟨argument, arguments, rfl, argumentBare, restBare⟩ := List.map_eq_cons_iff.mp sameBare
      obtain ⟨⟨_, reference⟩, entries, rfl, rfl, rest⟩ := List.map_eq_cons_iff.mp arriving
      have notNewId : argument.kind ≠ .newId := by
        rw [Argument.kind_eq_of_bare argumentBare]
        simp [Argument.carried, Argument.kind]
      rw [acceptAll_cons_of_kind_ne notNewId] at accepted
      exact inductionHypothesis restBare (grown.skip reference) rest accepted
  | @plain slot passed pairs values announced _ notNewId _ _ inductionHypothesis =>
      obtain ⟨argument, arguments, rfl, argumentBare, restBare⟩ := List.map_eq_cons_iff.mp sameBare
      obtain ⟨⟨_, reference⟩, entries, rfl, rfl, rest⟩ := List.map_eq_cons_iff.mp arriving
      have alsoNotNewId : argument.kind ≠ .newId := by
        simp only [carried_of_kind_ne notNewId] at argumentBare
        rwa [Argument.kind_eq_of_bare argumentBare]
      rw [acceptAll_cons_of_kind_ne alsoNotNewId] at accepted
      exact inductionHypothesis restBare (grown.skip reference) rest accepted

end Announced

section Receiving

variable {registry : Standing} {session : Session} {departure : Departure} {side : Side}

/-- An accepted message about registered objects is the one that was sent, but for its
descriptors. -/
theorem reaches_of_decode
    (registered : Registered registry side.peer session)
    (formed : departure.Formed side session.known?)
    (listed : departure.Listed registry)
    {descriptors : List Int}
    {incoming : Incoming}
    (accepted : (session.decode (departure.beside descriptors)).result = .ok incoming) :
    departure.Reaches incoming := by
  obtain ⟨opcode, message, read⟩ := read_of_decode accepted
  rcases decode_drawn session (departure.beside descriptors) with
    ⟨error, -, refused, -⟩ | ⟨found, references, arrivals, result, drawn, -⟩
  · rw [accepted] at refused
    cases refused
  · rw [accepted] at result
    cases result
    have live := Table.lookup_eq_some_iff.mp drawn.lookup
    have target : incoming.target.id = departure.target.id :=
      Table.WellFormed.id_of_live registered.wellFormed live
    have outline : incoming.target.outline = departure.target.outline := by
      have entry := registered.live _ _ (Table.standing_of_live live)
      rw [show (departure.beside descriptors).sender = departure.target.id from rfl,
        listed.target] at entry
      exact (Status.live.inj entry).symm
    have signature : incoming.signature = departure.signature := by
      have interface : incoming.target.interface = departure.target.interface :=
        congrArg Outline.interface outline
      have receives : session.side.receives = side.sends := by
        rw [registered.side_eq]
        cases side <;> rfl
      rw [interface, receives] at message
      exact Option.some.inj (message.symm.trans formed.message)
    rw [signature] at read
    obtain ⟨bare, used⟩ := decode_encoded_body formed.encoded read
    obtain ⟨created, grown⟩ := drawn.grown registered.wellFormed
    obtain ⟨sender, sameKnown, completes⟩ := formed.completes
    have slots : (departure.signature.slots.zip departure.passed).map Prod.fst =
        departure.signature.slots :=
      List.map_fst_zip (Nat.le_of_eq formed.sameLength.symm)
    have sameBare := bare
    rw [← slots] at sameBare
    have arriving :
        (((incoming.signature.slots.zip incoming.arguments).zip references).map Prod.fst) =
          ((departure.signature.slots.zip departure.passed).map Prod.fst).zip
            incoming.arguments := by
      rw [slots, ← signature]
      exact List.map_fst_zip (Nat.le_of_eq (length_resolveReferences drawn.resolved).symm)
    obtain ⟨made, madeGrown, marks⟩ := marks_of_acceptAll registered.wellFormed sameKnown
      (congrArg Outline.version outline) completes sameBare ⟨rfl, rfl, .start⟩ arriving
      drawn.accepted
    refine ⟨target, opcode, signature, by rw [bare, formed.carriedAll_eq], ?_, used⟩
    rw [created, madeGrown.created_eq, List.reverse_reverse]
    exact marks

/-- A message about registered objects is refused, or read as it was sent but for its descriptors,
which are the first that stand beside it.  Either way the receiver agrees with the registry. -/
theorem decode_of_listed
    (registered : Registered registry side.peer session)
    (formed : departure.Formed side session.known?)
    (listed : departure.Listed registry)
    (descriptors : List Int) :
    Registered registry side.peer (session.decode (departure.beside descriptors)).session ∧
    (∀ wanted, (session.decode (departure.beside descriptors)).session.known? wanted =
      session.known? wanted) ∧
    ∀ incoming, (session.decode (departure.beside descriptors)).result = .ok incoming →
      departure.Reaches incoming ∧
        incoming.descriptorsUsed = (descriptorsOf incoming.arguments).length ∧
          descriptors =
            descriptorsOf incoming.arguments ++ descriptors.drop incoming.descriptorsUsed := by
  refine ⟨?_, ?_, ?_⟩
  · rcases decode_cases registered.wellFormed (departure.beside descriptors) with
      ⟨error, -, -, untouched⟩ | ⟨incoming, accepted, arrives⟩
    · exact registered.untouched untouched
    · apply registered.receives arrives.bears
      intro object member
      have reaches := reaches_of_decode registered formed listed accepted
      obtain ⟨sent, isSent, sameMark⟩ : ∃ sent ∈ departure.created, sent.mark = object.mark := by
        rw [← List.mem_map, ← reaches.created_eq]
        exact List.mem_map_of_mem member
      have entry := listed.created sent isSent
      simp only [Object.mark, Mark.creates.injEq] at sameMark
      rwa [sameMark.1, sameMark.2] at entry
  · rcases decode_cases registered.wellFormed (departure.beside descriptors) with
      ⟨error, -, -, untouched⟩ | ⟨incoming, accepted, arrives⟩
    · intro wanted
      rw [untouched.session_eq]
      rfl
    · exact arrives.bears.known?_eq
  · intro incoming accepted
    obtain ⟨-, -, read⟩ := read_of_decode accepted
    exact ⟨reaches_of_decode registered formed listed accepted, decode_descriptors read⟩

end Receiving

namespace Delivery

/-- What a delivery hands to the session for a message that is cut off. -/
def inbound
    (delivery : Delivery)
    (frame : Frame) :
    Inbound :=
  ⟨frame.header.sender, frame.header.opcode, ⟨frame.body, delivery.transport.descriptors⟩⟩

/-- What became of each message that a delivery cuts off, in order: the message as it was accepted,
or why it was not. -/
def verdicts
    (delivery : Delivery) :
    List (Except Failure Incoming) :=
  if delivery.transport.bytes.isEmpty then []
  else
    match _cut : Frame.split delivery.transport.bytes with
    | .error _ => []
    | .ok (frame, rest) =>
        let next := delivery.step frame rest
        (delivery.session.decode (delivery.inbound frame)).result ::
          if next.failure.isSome then [] else next.verdicts
termination_by delivery.transport.bytes.length
decreasing_by
  rw [step_bytes]
  exact Frame.length_lt_of_split _cut

section Steps

variable {delivery : Delivery} {frame : Frame} {rest : Bytes}

/-- With no bytes there is nothing to deliver. -/
theorem run_of_nil
    (isEmpty : delivery.transport.bytes = []) :
    delivery.run = delivery ∧ delivery.verdicts = [] := by
  constructor
  · rw [run, isEmpty]
    rfl
  · rw [verdicts, isEmpty]
    rfl

/-- A delivery starts with the first message, and stops there or goes on. -/
theorem run_of_split
    (cut : Frame.split delivery.transport.bytes = .ok (frame, rest)) :
    delivery.run =
        (if (delivery.step frame rest).failure.isSome then delivery.step frame rest
          else (delivery.step frame rest).run) ∧
      delivery.verdicts =
        (delivery.session.decode (delivery.inbound frame)).result ::
          if (delivery.step frame rest).failure.isSome then []
          else (delivery.step frame rest).verdicts := by
  have notEmpty : ¬delivery.transport.bytes.isEmpty := by
    intro isEmpty
    rw [List.isEmpty_iff.mp isEmpty, split_nil] at cut
    cases cut
  constructor
  · rw [run, if_neg notEmpty]
    split
    · rename_i failed
      rw [cut] at failed
      cases failed
    · rename_i error notTruncated failed
      rw [cut] at failed
      cases failed
    · rename_i found left foundCut
      rw [cut] at foundCut
      cases foundCut
      rfl
  · rw [verdicts, if_neg notEmpty]
    split
    · rename_i failed
      rw [cut] at failed
      cases failed
    · rename_i found left foundCut
      rw [cut] at foundCut
      cases foundCut
      rfl

/-- A handler that saw the first message saw it as it was accepted. -/
theorem handled_step
    {seen : Session × Incoming}
    (member : seen ∈ (delivery.step frame rest).handled) :
    (delivery.session.decode (delivery.inbound frame)).result = .ok seen.2 ∨
      seen ∈ delivery.handled := by
  have handledEq : (delivery.step frame rest).handled =
      (((delivery.session.dispatch (delivery.inbound frame)).handled.map fun incoming =>
          ((delivery.session.dispatch (delivery.inbound frame)).outcome.session,
            incoming)).toList) ++ delivery.handled := by
    unfold step inbound
    simp only
    split <;> rfl
  rw [handledEq, List.mem_append] at member
  rcases member with now | before
  · left
    unfold dispatch at now
    rcases decoded : delivery.session.decode (delivery.inbound frame) with
      ⟨session, records, failure | incoming⟩
    · simp [decoded] at now
    · rw [decoded] at now
      simp only at now
      split at now
      · simp at now
      · simp only [Option.map_some, Option.toList_some, List.mem_singleton] at now
        rw [now]
  · exact Or.inr before

/-- Handlers see only messages that were accepted. -/
theorem accepted_of_handled
    (delivery : Delivery)
    {seen : Session × Incoming}
    (member : seen ∈ delivery.run.handled) :
    .ok seen.2 ∈ delivery.verdicts ∨ seen ∈ delivery.handled := by
  fun_induction verdicts delivery with
  | case1 delivery isEmpty =>
      rw [(run_of_nil (List.isEmpty_iff.mp isEmpty)).1] at member
      exact Or.inr member
  | case2 delivery notEmpty error failed =>
      rw [run, if_neg notEmpty] at member
      split at member
      · exact Or.inr member
      · exact Or.inr member
      · rename_i frame rest cut
        rw [failed] at cut
        cases cut
  | case3 delivery notEmpty frame rest cut next inductionHypothesis =>
      rw [(run_of_split cut).1] at member
      have fromStep : seen ∈ next.handled →
          .ok seen.2 ∈ (delivery.session.decode (delivery.inbound frame)).result ::
            (if next.failure.isSome then [] else next.verdicts) ∨ seen ∈ delivery.handled := by
        intro here
        rcases handled_step here with accepted | before
        · exact Or.inl (accepted ▸ List.mem_cons_self)
        · exact Or.inr before
      split at member
      · exact fromStep member
      · rename_i goesOn
        rcases inductionHypothesis member with later | here
        · left
          rw [if_neg goesOn]
          exact List.mem_cons_of_mem _ later
        · exact fromStep here

end Steps

end Delivery

/-- The descriptors that were passed with a message, in argument order. -/
def Sent.descriptors
    (sent : Sent) :
    List Int :=
  descriptorsOf (sent.passed.map Passed.value)

/-- Completing values leaves their descriptors alone. -/
theorem Completes.descriptorsOf_eq
    {session : Session}
    {target : Object}
    {pairs : List (Slot × Passed)}
    {values : List Argument}
    {objects : List Object}
    (completes : Completes session target pairs values objects) :
    descriptorsOf values = descriptorsOf ((pairs.map Prod.snd).map Passed.value) := by
  induction completes with
  | done => rfl
  | newId _ _ _ inductionHypothesis =>
      rw [List.map_cons, List.map_cons, descriptorsOf_cons, descriptorsOf_cons,
        inductionHypothesis]
      rfl
  | reference _ _ _ inductionHypothesis | plain _ _ _ _ inductionHypothesis =>
      rw [List.map_cons, List.map_cons, descriptorsOf_cons, descriptorsOf_cons,
        inductionHypothesis]

/-- The descriptors of a message in flight are those that were passed. -/
theorem Departure.Formed.sent_descriptors
    {departure : Departure}
    {side : Side}
    {known? : Bytes → Option (String × Interface)}
    (formed : departure.Formed side known?) :
    departure.payload.descriptors = departure.sent.descriptors := by
  obtain ⟨sender, -, completes⟩ := formed.completes
  rw [encode_descriptors formed.encoded, completes.descriptorsOf_eq,
    List.map_snd_zip (Nat.le_of_eq formed.sameLength)]
  rfl

/-- How descriptors are drawn from a stream of them: an accepted message takes as many as were passed
with it, a refused message takes none. -/
inductive Draws : List Int → List (Sent × Except Failure Incoming) → List Int → Prop where
  | nothing {stream : List Int} : Draws stream [] stream
  | refused
      {stream rest : List Int} {settled : List (Sent × Except Failure Incoming)} {sent : Sent}
      {failure : Failure} :
      Draws stream settled rest → Draws stream ((sent, .error failure) :: settled) rest
  | accepted
      {stream rest : List Int} {settled : List (Sent × Except Failure Incoming)} {sent : Sent}
      {incoming : Incoming} :
      (descriptorsOf incoming.arguments).length = sent.descriptors.length →
        Draws stream settled rest →
          Draws (descriptorsOf incoming.arguments ++ stream) ((sent, .ok incoming) :: settled) rest

namespace Draws

variable {stream rest : List Int} {settled more : List (Sent × Except Failure Incoming)}

/-- More descriptors behind a stream stay behind it. -/
theorem behind
    (draws : Draws stream settled rest)
    (later : List Int) :
    Draws (stream ++ later) settled (rest ++ later) := by
  induction draws with
  | nothing => exact .nothing
  | refused _ inductionHypothesis => exact .refused inductionHypothesis
  | accepted sameCount _ inductionHypothesis =>
      rw [List.append_assoc]
      exact .accepted sameCount inductionHypothesis

theorem trans
    {last : List Int}
    (draws : Draws stream settled rest)
    (next : Draws rest more last) :
    Draws stream (settled ++ more) last := by
  induction draws with
  | nothing => exact next
  | refused _ inductionHypothesis => exact .refused (inductionHypothesis next)
  | accepted sameCount _ inductionHypothesis => exact .accepted sameCount (inductionHypothesis next)

end Draws

/-- No descriptor was passed with a message that was refused. -/
def NoneStranded
    (settled : List (Sent × Except Failure Incoming)) : Prop :=
  ∀ pair ∈ settled, ∀ failure, pair.2 = .error failure → pair.1.descriptors = []

/-- After messages of which no refused one had descriptors, an accepted message takes its own. -/
theorem Draws.own
    {stream rest later : List Int}
    {earlier others : List (Sent × Except Failure Incoming)}
    {sent : Sent}
    {incoming : Incoming}
    (draws : Draws stream (earlier ++ (sent, .ok incoming) :: others) rest)
    (noneStranded : NoneStranded earlier)
    (passed : stream =
      (earlier.map Prod.fst).flatMap Sent.descriptors ++ (sent.descriptors ++ later)) :
    descriptorsOf incoming.arguments = sent.descriptors := by
  induction earlier generalizing stream with
  | nil =>
      rw [List.map_nil, List.flatMap_nil, List.nil_append] at passed
      cases draws with
      | accepted sameCount _ => exact (List.append_inj passed sameCount).1
  | cons pair earlier inductionHypothesis =>
      have noneLater : NoneStranded earlier :=
        fun other member => noneStranded other (List.mem_cons_of_mem _ member)
      rw [List.map_cons, List.flatMap_cons, List.append_assoc] at passed
      cases draws with
      | refused draws =>
          rw [noneStranded _ List.mem_cons_self _ rfl, List.nil_append] at passed
          exact inductionHypothesis draws noneLater passed
      | accepted sameCount draws =>
          exact inductionHypothesis draws noneLater (List.append_inj passed sameCount).2

/-- A message that was sent, and what became of it: if it was accepted, then as it was sent but for its
descriptors. -/
def Judged
    (side : Side)
    (known? : Bytes → Option (String × Interface))
    (sent : Sent)
    (verdict : Except Failure Incoming) : Prop :=
  ∃ departure : Departure,
    departure.sent = sent ∧ departure.Formed side known? ∧
      ∀ incoming, verdict = .ok incoming → departure.Reaches incoming

/-- A session whose peer wrote these messages to a transport, all about registered objects. -/
structure Awaits
    (registry : Standing)
    (side : Side)
    (known? : Bytes → Option (String × Interface))
    (session : Session)
    (transport : Transport)
    (queue : List Departure) : Prop where
  registered : Registered registry side.peer session
  known_eq : session.known? = known?
  formed : ∀ departure ∈ queue, departure.Formed side known?
  listed : ∀ departure ∈ queue, departure.Listed registry
  bytes_eq : transport.bytes = queue.flatMap Departure.bytes

namespace Awaits

variable {registry : Standing} {side : Side} {known? : Bytes → Option (String × Interface)}
variable {delivery : Delivery} {departure : Departure} {queue : List Departure}

/-- The first message is cut off as it was framed. -/
theorem cut
    (awaits :
      Awaits registry side known? delivery.session delivery.transport (departure :: queue)) :
    ∃ frame,
      Frame.split delivery.transport.bytes = .ok (frame, queue.flatMap Departure.bytes) ∧
        delivery.inbound frame = departure.beside delivery.transport.descriptors := by
  have formed := awaits.formed departure List.mem_cons_self
  rw [awaits.bytes_eq, List.flatMap_cons]
  exact ⟨_, Frame.split_encode_append formed.framed (length_encode_mod formed.encoded) _, rfl⟩

/-- Delivering the first message leaves the others waiting, and draws the descriptors that it takes
if it is accepted. -/
theorem step
    (awaits :
      Awaits registry side known? delivery.session delivery.transport (departure :: queue))
    {frame : Frame}
    (inbound : delivery.inbound frame = departure.beside delivery.transport.descriptors) :
    let next := delivery.step frame (queue.flatMap Departure.bytes)
    let verdict := (delivery.session.decode (delivery.inbound frame)).result
    Awaits registry side known? next.session next.transport queue ∧
      Judged side known? departure.sent verdict ∧
        Draws delivery.transport.descriptors [(departure.sent, verdict)]
          next.transport.descriptors := by
  intro next verdict
  have formed := awaits.formed departure List.mem_cons_self
  have listed := awaits.listed departure List.mem_cons_self
  have formedHere : departure.Formed side delivery.session.known? := awaits.known_eq ▸ formed
  obtain ⟨registered, sameKnown, reads⟩ := decode_of_listed awaits.registered formedHere listed
    delivery.transport.descriptors
  obtain ⟨session, transport⟩ :=
    delivery.step_state frame (queue.flatMap Departure.bytes)
  change next.session = (delivery.session.decode (delivery.inbound frame)).session at session
  change next.transport = { delivery.transport with
    bytes := queue.flatMap Departure.bytes
    descriptors := delivery.transport.descriptors.drop
      (delivery.session.dispatch (delivery.inbound frame)).descriptorsUsed } at transport
  rw [← inbound] at registered sameKnown reads
  refine ⟨?_, ?_, ?_⟩
  · constructor
    · rw [session]
      exact registered
    · rw [session]
      exact (funext sameKnown).trans awaits.known_eq
    · exact fun later member => awaits.formed later (List.mem_cons_of_mem _ member)
    · exact fun later member => awaits.listed later (List.mem_cons_of_mem _ member)
    · rw [transport]
  · exact ⟨departure, rfl, formed, fun incoming accepted => (reads incoming accepted).1⟩
  · rw [transport]
    simp only
    cases verdictEq : verdict with
    | error failure =>
        rw [(dispatch_of_error verdictEq).2, List.drop_zero]
        exact .refused .nothing
    | ok incoming =>
        obtain ⟨reaches, used, drawn⟩ := reads incoming verdictEq
        rw [(dispatch_of_ok verdictEq).1]
        have sameCount :
            (descriptorsOf incoming.arguments).length = departure.sent.descriptors.length := by
          rw [← used, reaches.descriptorsUsed_eq, formed.sent_descriptors]
        have draws : Draws
            (descriptorsOf incoming.arguments ++
              delivery.transport.descriptors.drop incoming.descriptorsUsed)
            [(departure.sent, .ok incoming)]
            (delivery.transport.descriptors.drop incoming.descriptorsUsed) :=
          .accepted sameCount .nothing
        rwa [← drawn] at draws

/-- A delivery judges messages from the front of the queue, in order; the others still wait. -/
theorem run
    (awaits : Awaits registry side known? delivery.session delivery.transport queue) :
    ∃ taken left,
      queue = taken ++ left ∧
        Awaits registry side known? delivery.run.session delivery.run.transport left ∧
          List.Forall₂ (Judged side known?) (taken.map Departure.sent) delivery.verdicts ∧
            Draws delivery.transport.descriptors
              ((taken.map Departure.sent).zip delivery.verdicts)
              delivery.run.transport.descriptors := by
  induction queue generalizing delivery with
  | nil =>
      obtain ⟨runEq, verdictsEq⟩ := Delivery.run_of_nil awaits.bytes_eq
      rw [runEq, verdictsEq]
      exact ⟨[], [], rfl, awaits, .nil, .nothing⟩
  | cons departure queue inductionHypothesis =>
      obtain ⟨frame, cut, inbound⟩ := awaits.cut
      obtain ⟨next, judged, draws⟩ := awaits.step inbound
      obtain ⟨runEq, verdictsEq⟩ := Delivery.run_of_split cut
      rw [runEq, verdictsEq]
      split
      · exact ⟨[departure], queue, rfl, next, .cons judged .nil, draws⟩
      · obtain ⟨taken, left, rfl, waits, allJudged, drawsRest⟩ := inductionHypothesis next
        exact ⟨departure :: taken, left, rfl, waits, .cons judged allJudged,
          draws.trans drawsRest⟩

end Awaits

end Wayland.Session
