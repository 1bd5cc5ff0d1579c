import Wayland.Proofs.Session.InStep
import Wayland.Proofs.Session.Uses

/-!
Contract: the generations of objects, on both sides of an exchange.

Owns:
- runs of an exchange, and what each side counts for nothing in them;
- how often an id was made on a side, told from the messages that passed;
- what the generation of an object counts, and by how much those of both sides differ.

Does not own: what one operation of a session counts.
-/

namespace Wayland.Session

open Wayland.Text
open Wayland.Wire

namespace Exchange

def run
    (exchange : Exchange)
    (actions : List Action) :
    Exchange :=
  actions.foldl act exchange

/-- Every action of a run is allowed and ends in no fault. -/
def Faultless
    (exchange : Exchange) :
    List Action → Prop
  | [] => True
  | action :: actions =>
      exchange.Allows action ∧ exchange.fault? action = none ∧ (exchange.act action).Faultless actions

/-- The ids that an action counts on a side although it makes no object there. -/
def wasted
    (exchange : Exchange)
    (side : Side) :
    Action → List ObjectId
  | .send sender target opcode values =>
      if side = sender then
        Operation.wasted (exchange.link.session sender)
          (.send (exchange.link.transport sender) target opcode values)
      else []
  | .deliver sender =>
      match (exchange.link.transport sender).first? with
      | none => []
      | some inbound =>
          if side = sender.peer then
            Operation.wasted (exchange.link.session sender.peer) (.decode inbound)
          else []
  | _ => []

/-- How often a side counted an id for nothing, after a run of actions. -/
def wastedAt
    (exchange : Exchange)
    (side : Side)
    (id : ObjectId)
    (count : Nat) :
    List Action → Nat
  | [] => count
  | action :: actions =>
      (exchange.act action).wastedAt side id (count + (exchange.wasted side action).count id) actions

/-- The ids of the objects that a side made for messages, sent or received. -/
def madeIds
    (exchange : Exchange)
    (side : Side) :
    List ObjectId :=
  (exchange.sent side).flatMap (fun sent => sent.created.map Object.id)
    ++ (exchange.received side.peer).flatMap fun incoming => incoming.created.map Object.id

/-- What an action comes to on a side: an operation is performed there, and what it made is logged; or
nothing is counted or made. -/
inductive Does
    (exchange : Exchange)
    (action : Action)
    (side : Side) : Prop where
  | operation {operation : Operation} :
      operation ≠ .reset →
        (exchange.act action).party side =
            ⟨operation.perform (exchange.link.session side),
              exchange.history side ++ operation.events (exchange.link.session side)⟩ →
          exchange.wasted side action = operation.wasted (exchange.link.session side) →
            (∀ id, ((exchange.act action).madeIds side).count id =
              (exchange.madeIds side).count id +
                ((operation.created (exchange.link.session side)).map Object.id).count id) →
              Does exchange action side
  | nothing :
      ((exchange.act action).link.session side).table = (exchange.link.session side).table →
        (exchange.act action).history side = exchange.history side →
          exchange.wasted side action = [] →
            (exchange.act action).madeIds side = exchange.madeIds side →
              Does exchange action side

section Doing

variable {exchange : Exchange} {side : Side}

/-- The session that a message was delivered to. -/
theorem session_deliverOne
    (link : Link)
    (side : Side) :
    (link.deliverOne side).2.session =
      match (link.transport side).first? with
      | none => link.session side.peer
      | some inbound => ((link.session side.peer).decode inbound).session := by
  unfold Link.deliverOne Delivery.advance Transport.first?
  simp only
  cases cut : Frame.split (link.transport side).bytes with
  | error error => cases error <;> rfl
  | ok message => exact (Delivery.step_state _ _ _).1

/-- What a sending logs are the objects it made. -/
theorem ids_sending
    (session : Session)
    (transport : Transport)
    (target : Option Object)
    (opcode : UInt16)
    (values : List Passed) :
    (sending target opcode values (session.send transport target opcode values).1.result).flatMap
        (fun sent => sent.created.map Object.id) =
      (Operation.created session (.send transport target opcode values)).map Object.id := by
  cases target with
  | none => rfl
  | some target =>
      unfold Operation.created
      simp only
      cases (session.send transport (some target) opcode values).1.result with
      | error failure => rfl
      | ok objects => simp [sending]

/-- What a receiving logs are the objects it made. -/
theorem ids_receiving
    (session : Session)
    (inbound : Inbound) :
    (receiving (session.decode inbound).result).flatMap
        (fun incoming => incoming.created.map Object.id) =
      (Operation.created session (.decode inbound)).map Object.id := by
  unfold Operation.created
  simp only
  cases (session.decode inbound).result with
  | error failure => rfl
  | ok incoming => simp [receiving]

theorem does_send
    (exchange : Exchange)
    (sender : Side)
    (target : Option Object)
    (opcode : UInt16)
    (values : List Passed) :
    ∀ side, exchange.Does (.send sender target opcode values) side := by
  refine (Side.forall_iff sender).mpr ⟨?_, ?_⟩
  · refine @Does.operation exchange _ sender
      (.send (exchange.link.transport sender) target opcode values) (by simp)
      (exchange.party_send_self sender target opcode values) (if_pos rfl) fun id => ?_
    unfold madeIds
    rw [sent_send_self, List.flatMap_append, ids_sending]
    simp only [act, List.count_append]
    omega
  · refine .nothing ?_ ?_ (if_neg (Side.peer_ne sender)) ?_
    · exact congrArg (·.session.table) (exchange.party_send_peer sender target opcode values)
    · exact congrArg Party.history (exchange.party_send_peer sender target opcode values)
    · unfold madeIds
      rw [sent_send_peer]
      rfl

theorem does_deliver
    (exchange : Exchange)
    (sender : Side) :
    ∀ side, exchange.Does (.deliver sender) side := by
  have delivered := session_deliverOne exchange.link sender
  cases first : (exchange.link.transport sender).first? with
  | none =>
      simp only [first] at delivered
      intro side
      refine .nothing ?_ ?_ ?_ ?_
      · simp only [Link.deliverOne] at delivered
        simp only [act, first, Link.deliverOne, delivered, Link.session_withRecords,
          Link.session_withSession, Link.session_withTransport]
        split
        · rename_i same
          rw [same]
        · rfl
      · simp only [act, first]
      · simp only [wasted, first]
      · simp only [madeIds, act, first]
  | some inbound =>
      simp only [first] at delivered
      refine (Side.forall_iff sender).mpr ⟨?_, ?_⟩
      · refine .nothing ?_ ?_ ?_ ?_
        · exact congrArg (·.session.table) (party_deliver_self first)
        · exact congrArg Party.history (party_deliver_self first)
        · simp only [wasted, first, if_neg (Side.peer_ne sender).symm]
        · unfold madeIds
          rw [sent_deliver first, received_deliver_peer first]
      · refine @Does.operation exchange _ sender.peer (.decode inbound) (by simp) ?_ ?_ fun id => ?_
        · rw [party_deliver_peer first, delivered]
          rfl
        · simp only [wasted, first, if_pos]
        · unfold madeIds
          rw [sent_deliver first, Side.peer_peer, received_deliver_self first, List.flatMap_append,
            ids_receiving]
          simp only [List.count_append]
          omega

/-- Every action is an operation on a side, or counts and makes nothing there. -/
theorem does
    (exchange : Exchange)
    (action : Action)
    (side : Side) :
    exchange.Does action side := by
  cases action with
  | send sender target opcode values => exact does_send exchange sender target opcode values side
  | deliver sender => exact does_deliver exchange sender side
  | release id =>
      exact @Does.operation exchange _ side (.release id) (by simp) (party_release exchange side id)
        rfl fun _ => rfl
  | refuseNext sender text =>
      refine .nothing ?_ rfl rfl rfl
      simp [act, Link.refuseNext]
  | attach owner object attachment =>
      refine .nothing ?_ rfl rfl rfl
      simp only [act, Link.session_withSession]
      split
      · rename_i same
        rw [same]
        rfl
      · rfl

end Doing

end Exchange

def Party.Counts
    (party : Party)
    (wasted : ObjectId → Nat) : Prop :=
  ∀ id, party.session.table.uses id = UInt32.ofNat (madeAt party.history id + wasted id)

namespace Exchange

section Counting

variable {setup : Setup} {exchange : Exchange} {side : Side} {wasted : ObjectId → Nat}

/-- A run without a fault comes about. -/
theorem Reachable.run
    (reachable : Reachable setup exchange)
    {actions : List Action}
    (faultless : exchange.Faultless actions) :
    Reachable setup (exchange.run actions) := by
  induction actions generalizing exchange with
  | nil => exact reachable
  | cons action actions inductionHypothesis =>
      obtain ⟨allowed, noFault, rest⟩ := faultless
      exact inductionHypothesis (reachable.step allowed noFault) rest

/-- A side counts the same after an action as before, with what the action made or wasted. -/
theorem counts_act
    (sound : (exchange.party side).Sound)
    (counts : (exchange.party side).Counts wasted)
    (action : Action) :
    ((exchange.act action).party side).Counts
      fun id => wasted id + (exchange.wasted side action).count id := by
  intro id
  cases exchange.does action side with
  | @operation operation notReset performed spent _ =>
      rw [performed, spent]
      have counted := uses_perform sound.wellFormed operation (counts id)
      rwa [Operation.wastedAfter_of_ne_reset notReset] at counted
  | nothing sameTable sameHistory spent _ =>
      rw [spent]
      have counted := counts id
      unfold party at counted ⊢
      simp only at counted ⊢
      rw [sameTable, sameHistory, counted]
      rfl

/-- A side counts its objects, and what it counted for nothing, through every run without a fault. -/
theorem counts_run
    (agreed : setup.Agreed)
    (reachable : Reachable setup exchange)
    {actions : List Action}
    (faultless : exchange.Faultless actions)
    (counts : (exchange.party side).Counts wasted) :
    ((exchange.run actions).party side).Counts
      fun id => exchange.wastedAt side id (wasted id) actions := by
  induction actions generalizing exchange wasted with
  | nil => exact counts
  | cons action actions inductionHypothesis =>
      obtain ⟨allowed, noFault, rest⟩ := faultless
      obtain ⟨queue, inStep⟩ := reachable.inStep agreed
      exact inductionHypothesis (reachable.step allowed noFault) rest
        (counts_act (inStep.concord side).own_sound counts action)

/-- How often an id was made on a side is told by its setup and by the messages that passed. -/
theorem madeAt_history
    (reachable : Reachable setup exchange)
    (side : Side)
    (id : ObjectId) :
    madeAt (exchange.history side) id =
      madeAt (setup.start.history side) id + (exchange.madeIds side).count id := by
  induction reachable with
  | start => rfl
  | @step exchange action _ _ _ inductionHypothesis =>
      cases exchange.does action side with
      | @operation operation notReset performed _ made =>
          have history := congrArg Party.history performed
          unfold party at history
          simp only at history
          rw [history, madeAt_perform notReset, inductionHypothesis, made]
          omega
      | nothing _ sameHistory _ same => rw [sameHistory, same, inductionHypothesis]

end Counting

end Exchange

/-! ### Both sides -/

section Starting

variable {left right : Session} {leftHistory rightHistory : List Event}

/-- The same well-known object is made in twins, at the same id. -/
theorem Twins.created_bind
    (twins : Twins left right)
    (leftWellFormed : left.WellFormed)
    (rightWellFormed : right.WellFormed)
    (id : ObjectId)
    (interface : Interface)
    (version : UInt32) :
    (Operation.created left (.bind id interface version)).map Object.id =
      (Operation.created right (.bind id interface version)).map Object.id := by
  simp only [Operation.created]
  rcases bind_cases leftWellFormed id interface version with
    ⟨_, leftFailed, -, notBindable⟩ | ⟨object, _, _, leftMade, -, -, atId, -, -, bindable⟩
  · rcases bind_cases rightWellFormed id interface version with
      ⟨_, rightFailed, -, -⟩ | ⟨_, _, _, -, -, -, -, -, -, bindable⟩
    · rw [leftFailed, rightFailed]
    · exact absurd ((twins.bindable_iff id interface version).mpr bindable) notBindable
  · rcases bind_cases rightWellFormed id interface version with
      ⟨_, -, -, notBindable⟩ | ⟨other, _, _, rightMade, -, -, otherAtId, -, -, -⟩
    · exact absurd ((twins.bindable_iff id interface version).mp bindable) notBindable
    · rw [leftMade, rightMade, List.map_singleton, List.map_singleton, atId, otherAtId]

/-- The same well-known objects, made in the same order, are as many at every id. -/
theorem Twins.madeAt_performAll
    (twins : Twins left right)
    (leftFollows : Follows leftHistory left)
    (rightFollows : Follows rightHistory right)
    {id : ObjectId}
    (same : madeAt leftHistory id = madeAt rightHistory id)
    (wellKnown : List (ObjectId × Interface × UInt32)) :
    madeAt (leftHistory ++ historyOf left
        (wellKnown.map fun (id, interface, version) => .bind id interface version)) id =
      madeAt (rightHistory ++ historyOf right
        (wellKnown.map fun (id, interface, version) => .bind id interface version)) id := by
  induction wellKnown generalizing left right leftHistory rightHistory with
  | nil => simpa [historyOf] using same
  | cons bind wellKnown inductionHypothesis =>
      obtain ⟨boundId, interface, version⟩ := bind
      have leftWellFormed := leftFollows.wellFormed
      have rightWellFormed := rightFollows.wellFormed
      have rest := inductionHypothesis
        (twins.bind leftWellFormed rightWellFormed boundId interface version)
        ((perform_effect leftWellFormed (.bind boundId interface version)).follows leftFollows)
        ((perform_effect rightWellFormed (.bind boundId interface version)).follows rightFollows)
        (by
          change madeAt (leftHistory ++ Operation.events left (.bind boundId interface version)) id =
            madeAt (rightHistory ++ Operation.events right (.bind boundId interface version)) id
          rw [madeAt_perform (by simp), madeAt_perform (by simp), same,
            twins.created_bind leftWellFormed rightWellFormed])
      simp only [List.map_cons, historyOf, ← List.append_assoc]
      exact rest

/-- Registering interfaces causes no event. -/
theorem historyOf_register
    (session : Session)
    (interfaces : List Interface)
    (operations : List Operation) :
    historyOf session (interfaces.map .register ++ operations) =
      historyOf (session.performAll (interfaces.map .register)) operations := by
  induction interfaces generalizing session with
  | nil => rfl
  | cons interface interfaces inductionHypothesis => exact inductionHypothesis _

/-- After their setup, both sides had as many objects at every id. -/
theorem Setup.madeAt_start
    {setup : Setup}
    (agreed : setup.Agreed)
    (id : ObjectId) :
    madeAt (setup.start.history .client) id = madeAt (setup.start.history .server) id := by
  have history : ∀ side, setup.start.history side =
      historyOf (setup.registered side)
        (setup.wellKnown.map fun (id, interface, version) => .bind id interface version) :=
    fun side => historyOf_register _ _ _
  have table : ∀ side, (setup.registered side).table = {} :=
    fun side => table_performAll_register _ _
  have registered : Twins (setup.registered .client) (setup.registered .server) :=
    ⟨agreed, by rw [table, table], fun side => by rw [table, table]⟩
  have follows : ∀ side, Follows [] (setup.registered side) := by
    intro side
    unfold Follows
    rw [table]
    exact Table.follows_nil _
  rw [history, history]
  have noneYet : madeAt [] id = madeAt [] id := rfl
  exact registered.madeAt_performAll (follows .client) (follows .server) noneYet setup.wellKnown

/-- Setting up counts nothing but what it makes. -/
theorem Setup.counts_start
    (setup : Setup)
    (side : Side) :
    (setup.start.party side).Counts fun _ => 0 := by
  intro id
  have wastes (operations : List Operation)
      (quiet : ∀ operation ∈ operations, ∀ session count,
        operation.wastedAfter session id count = count) :
      ∀ session : Session, session.wastedAt id 0 operations = 0 := by
    induction operations with
    | nil => exact fun _ => rfl
    | cons operation operations inductionHypothesis =>
        intro session
        rw [wastedAt, quiet operation (by simp)]
        exact inductionHypothesis (fun later member => quiet later (by simp [member])) _
  have nothing := wastes (setup.operations side) (by
    intro operation member session count
    rcases List.mem_append.mp member with registers | binds
    · obtain ⟨interface, -, rfl⟩ := List.mem_map.mp registers
      rfl
    · obtain ⟨⟨boundId, interface, version⟩, -, rfl⟩ := List.mem_map.mp binds
      rfl) (fresh (Setup.number side) side)
  have start : (fresh (Setup.number side) side).table.uses id =
      UInt32.ofNat (madeAt [] id + 0) := Table.uses_empty 1 id
  have counted :=
    uses_performAll (follows_fresh (Setup.number side) side) (setup.operations side) start
  rw [nothing, List.nil_append] at counted
  cases side <;> exact counted

end Starting

namespace Exchange

section Agreeing

variable {setup : Setup} {exchange : Exchange}

/-- A message was received with objects at the ids at which they were made for it. -/
theorem ids_of_receivedAs
    {side : Side}
    {delivered : List Sent}
    {received : List Incoming}
    (receivedAs : List.Forall₂ (Sent.ReceivedAs side) delivered received) :
    delivered.flatMap (fun sent => sent.created.map Object.id) =
      received.flatMap fun incoming => incoming.created.map Object.id := by
  induction receivedAs with
  | nil => rfl
  | @cons sent incoming _ _ one _ inductionHypothesis =>
      have ids := congrArg (List.map Prod.fst) one.created_eq
      rw [List.map_map, List.map_map] at ids
      rw [List.flatMap_cons, List.flatMap_cons, inductionHypothesis]
      exact congrArg (· ++ _) ids.symm

/-- Where an id is taken with the receiver, no object comes to it by a message in flight. -/
theorem InStep.sent_eq_received
    {queue : Side → List Departure}
    (inStep : exchange.InStep queue)
    (side : Side)
    {id : ObjectId}
    (taken : (exchange.party side.peer).standing id ≠ .vacant) :
    ((exchange.sent side).flatMap fun sent => sent.created.map Object.id).count id =
      ((exchange.received side).flatMap fun incoming => incoming.created.map Object.id).count id := by
  obtain ⟨delivered, sentEq, receivedAs⟩ := inStep.recorded side
  have notInFlight : id ∉ ((queue side).map Departure.sent).flatMap
      fun sent => sent.created.map Object.id := by
    intro inFlight
    obtain ⟨sent, isSent, made⟩ := List.mem_flatMap.mp inFlight
    obtain ⟨departure, member, rfl⟩ := List.mem_map.mp isSent
    obtain ⟨object, created, rfl⟩ := List.mem_map.mp made
    exact taken ((inStep.concord side).flow.acceptable.created_vacant departure member object
      created).2
  rw [sentEq, List.flatMap_append, List.count_append, ids_of_receivedAs receivedAs,
    List.count_eq_zero_of_not_mem notInFlight, Nat.add_zero]

/-- An id that is taken on both sides had as many objects on either. -/
theorem madeAt_agree
    (agreed : setup.Agreed)
    (reachable : Reachable setup exchange)
    {id : ObjectId}
    (taken : ∀ side, (exchange.party side).standing id ≠ .vacant) :
    madeAt (exchange.history .client) id = madeAt (exchange.history .server) id := by
  obtain ⟨queue, inStep⟩ := reachable.inStep agreed
  have fromClient := inStep.sent_eq_received .client (taken _)
  have fromServer := inStep.sent_eq_received .server (taken _)
  rw [madeAt_history reachable, madeAt_history reachable, setup.madeAt_start agreed]
  simp only [madeIds, List.count_append, Side.peer, fromClient, fromServer]
  omega

theorem generation_of_lookup
    {side : Side}
    {id : ObjectId}
    {object : Object}
    (sound : (exchange.party side).Sound)
    (found : (exchange.link.session side).table.lookup id = some object) :
    object.generation = (exchange.link.session side).table.uses id := by
  have live := Table.lookup_eq_some_iff.mp found
  have wellFormed : (exchange.link.session side).WellFormed := sound.wellFormed
  have taken : (exchange.link.session side).table.status id ≠ .vacant := by simp [live]
  obtain ⟨owner, inside⟩ := Table.side_of_status taken
  rw [Table.status_of_side inside] at live
  obtain ⟨generation, stored⟩ := Arena.cell_of_status_live live
  rw [Table.uses, Table.cell?_of_side inside, stored]
  exact ((wellFormed.arena owner).fitting _ _ _ stored).generation_eq

/-- The generations of an object on both sides differ by what the sides counted for nothing. -/
theorem generation_agree
    (agreed : setup.Agreed)
    {actions : List Action}
    (faultless : setup.start.Faultless actions)
    {id : ObjectId}
    {object mirror : Object}
    (found : ((setup.start.run actions).link.session .client).table.lookup id = some object)
    (mirrorFound : ((setup.start.run actions).link.session .server).table.lookup id = some mirror) :
    object.generation + UInt32.ofNat (setup.start.wastedAt .server id 0 actions) =
      mirror.generation + UInt32.ofNat (setup.start.wastedAt .client id 0 actions) := by
  have reachable := Reachable.start.run faultless
  obtain ⟨queue, inStep⟩ := reachable.inStep agreed
  have counted := counts_run agreed .start faultless (setup.counts_start .client) id
  have mirrorCounted := counts_run agreed .start faultless (setup.counts_start .server) id
  have taken : ∀ side, ((setup.start.run actions).party side).standing id ≠ .vacant := by
    have live := Table.lookup_eq_some_iff.mp found
    have mirrorLive := Table.lookup_eq_some_iff.mp mirrorFound
    intro side isVacant
    have isVacant := Table.standing_eq_vacant_iff.mp isVacant
    cases side with
    | client => simp [session_party, live] at isVacant
    | server => simp [session_party, mirrorLive] at isVacant
  have same : madeAt ((setup.start.run actions).party .client).history id =
      madeAt ((setup.start.run actions).party .server).history id :=
    madeAt_agree agreed reachable taken
  rw [session_party] at counted mirrorCounted
  rw [generation_of_lookup (inStep.concord .client).own_sound found,
    generation_of_lookup (inStep.concord .server).own_sound mirrorFound, counted, mirrorCounted,
    same, ← UInt32.ofNat_add, ← UInt32.ofNat_add]
  congr 1
  simp only
  omega

end Agreeing

end Exchange

/-- The generation of an object counts the objects at its id since the last reset, and the objects of
refused messages that were taken back there without the cell.  So both sides of an exchange see the
same generation, but for the objects that each of them took back. -/
theorem generation_counts_objects_and_waste
    (id : ObjectId) :
    (∀ number side operations operation,
      ∀ object ∈ Operation.created ((fresh number side).performAll operations) operation,
        object.id = id →
          object.generation =
            UInt32.ofNat (madeAt (historyOf (fresh number side) operations) id +
              (fresh number side).wastedAt id 0 operations + 1)) ∧
    ∀ (setup : Setup) (actions : List Action), setup.Agreed → setup.start.Faultless actions →
      ∀ object mirror,
        ((setup.start.run actions).link.session .client).table.lookup id = some object →
          ((setup.start.run actions).link.session .server).table.lookup id = some mirror →
            object.generation + UInt32.ofNat (setup.start.wastedAt .server id 0 actions) =
              mirror.generation + UInt32.ofNat (setup.start.wastedAt .client id 0 actions) := by
  constructor
  · rintro number side operations operation object isMade rfl
    exact generation_of_created number side operations operation object isMade
  · intro setup actions agreed faultless object mirror found mirrorFound
    exact Exchange.generation_agree agreed faultless found mirrorFound

/-- An interface whose only request is a destructor. -/
def pot : Interface :=
  { name := "pot"
    version := 1
    requests := [{ name := "break", destructor := true }] }

/-- An interface with a request that makes a pot at a heat. -/
def kiln : Interface :=
  { name := "kiln"
    version := 1
    requests :=
      [{ name := "fire"
         slots :=
          [{ name := "pot", kind := .newId, interface := "pot" },
            { name := "heat", kind := .uint }] }] }

def kilnSetup : Setup where
  interfaces := fun _ => [kiln, pot]
  wellKnown := [(1, kiln, 1)]

def clientKiln : Object :=
  { session := 0, serial := 0, id := 1, interface := kiln, version := 1, generation := 1 }

def firstPot : Object :=
  { session := 0, serial := 1, id := 2, interface := pot, version := 1, generation := 1 }

/-- A pot is fired, broken and released; the next firing names no heat and is refused. -/
def potBroken : List Operation :=
  kilnSetup.operations .client ++
    [.send {} (some clientKiln) 0 [⟨.newId 0 [] 0, none⟩, ⟨.uint 900, none⟩],
      .send {} (some firstPot) 0 [], .release 2,
      .send {} (some clientKiln) 0 [⟨.newId 0 [] 0, none⟩, ⟨.fd 7, none⟩]]

/-- The same between two sides, and then another firing that is received. -/
def potAgain : List Action :=
  [.send .client (some clientKiln) 0 [⟨.newId 0 [] 0, none⟩, ⟨.uint 900, none⟩],
    .deliver .client, .send .client (some firstPot) 0 [], .deliver .client, .release 2,
    .send .client (some clientKiln) 0 [⟨.newId 0 [] 0, none⟩, ⟨.fd 7, none⟩],
    .send .client (some clientKiln) 0 [⟨.newId 0 [] 0, none⟩, ⟨.uint 900, none⟩],
    .deliver .client]

theorem kilnSetup_agreed :
    kilnSetup.Agreed :=
  ⟨fun _ => rfl, fun _ => rfl⟩

theorem potAgain_faultless :
    kilnSetup.start.Faultless potAgain := by
  unfold potAgain
  refine ⟨?_, rfl, trivial, ?_, ?_, rfl, trivial, ?_, ?_, rfl, ?_, rfl, ?_, rfl, trivial, ?_, trivial⟩
  · simp [Exchange.Allows]
  · decide
  · simp [Exchange.Allows]
  · decide
  · intro side
    cases side <;> decide
  · simp [Exchange.Allows]
  · simp [Exchange.Allows]
  · decide

/-- The second pot, as the client knows it and as the server does. -/
def clientPot : Object :=
  { firstPot with serial := 3, generation := 3 }

def serverPot : Object :=
  { firstPot with session := 1, serial := 2, generation := 2 }

/-- The refused firing is counted: the second pot is of the third generation, and with the peer, which
saw two pots as well, of the second. -/
theorem refused_firing_is_counted :
    ¬(∀ number side operations operation,
      ∀ object ∈ Operation.created ((fresh number side).performAll operations) operation,
        object.generation =
          UInt32.ofNat (madeAt (historyOf (fresh number side) operations) object.id + 1)) ∧
    ¬∀ (setup : Setup) (actions : List Action), setup.Agreed → setup.start.Faultless actions →
      ∀ id object mirror,
        ((setup.start.run actions).link.session .client).table.lookup id = some object →
          ((setup.start.run actions).link.session .server).table.lookup id = some mirror →
            object.generation = mirror.generation := by
  constructor
  · intro counts
    have wrong := counts 0 .client potBroken
      (.send {} (some clientKiln) 0 [⟨.newId 0 [] 0, none⟩, ⟨.uint 900, none⟩]) clientPot
      (by decide)
    exact absurd wrong (by decide)
  · intro agree
    have wrong := agree kilnSetup potAgain kilnSetup_agreed potAgain_faultless 2 clientPot serverPot
      (by decide) (by decide)
    exact absurd wrong (by decide)

/-- The client counted the refused firing, the server nothing; so the generations of the second pot
differ by one. -/
theorem second_pot_differs_by_waste :
    kilnSetup.Agreed ∧ kilnSetup.start.Faultless potAgain ∧
      kilnSetup.start.wastedAt .client 2 0 potAgain = 1 ∧
      kilnSetup.start.wastedAt .server 2 0 potAgain = 0 ∧
      clientPot.generation + UInt32.ofNat (kilnSetup.start.wastedAt .server 2 0 potAgain) =
        serverPot.generation + UInt32.ofNat (kilnSetup.start.wastedAt .client 2 0 potAgain) ∧
      clientPot.generation =
        UInt32.ofNat (madeAt (historyOf (fresh 0 .client) potBroken) 2 +
          (fresh 0 .client).wastedAt 2 0 potBroken + 1) :=
  ⟨kilnSetup_agreed, potAgain_faultless, by decide, by decide,
    (generation_counts_objects_and_waste 2).2 kilnSetup potAgain kilnSetup_agreed
      potAgain_faultless clientPot serverPot (by decide) (by decide),
    (generation_counts_objects_and_waste 2).1 0 .client potBroken
      (.send {} (some clientKiln) 0 [⟨.newId 0 [] 0, none⟩, ⟨.uint 900, none⟩]) clientPot
      (by decide) rfl⟩

end Wayland.Session
