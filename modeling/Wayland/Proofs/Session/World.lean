import Wayland.Proofs.Session.Identity

/-!
Contract: the handles that sessions give out, of one session and of several side by side.

Owns:
- the handles that an operation returns, and that the session counted them;
- sending on a dead target, and sending a reference made from a dead handle: both are refused, and
  nothing is written;
- worlds of sessions, their runs, and the handles that a run returned;
- what every run keeps: each session stands at its number and counts its objects, and every handle
  that was returned was counted;
- that a dead handle never comes alive, in no continuation and in no session, and is always refused.

Does not own: what one operation does to its session.
-/

namespace Wayland.Session

open Wayland.Text
open Wayland.Wire

/-- The handles that an operation returns: the objects it made and, of a received message, also its
target and the objects it refers to. -/
def Operation.returned
    (session : Session) :
    Operation → List Object
  | .decode inbound =>
      match (session.decode inbound).result with
      | .error _ => []
      | .ok incoming => incoming.target :: incoming.objects.filterMap id
  | operation => operation.created session

/-- The objects of arrivals were made for the message, or were live before it. -/
def Arrivals.Sourced
    (session : Session)
    (arrivals : Arrivals) : Prop :=
  ∀ object, some object ∈ arrivals.objects →
    object ∈ arrivals.created ∨ ∃ id, session.table.status id = .live object

section Returning

variable {session : Session} {object : Object}

/-- What references are resolved to is live. -/
theorem live_of_resolveReferences
    {pairs : List (Slot × Argument)}
    {references : List (Option Object)}
    (resolved : session.resolveReferences pairs = .ok references)
    (member : some object ∈ references) :
    ∃ id, session.table.status id = .live object := by
  fun_induction resolveReferences session pairs generalizing references with
  | case1 =>
      cases resolved
      cases member
  | case2 => cases resolved
  | case3 => cases resolved
  | case4 slot id _ _ _ rest inductionHypothesis =>
      cases resolved
      rcases List.mem_cons.mp member with first | later
      · exact ⟨id, Table.lookup_eq_some_iff.mp first.symm⟩
      · exact inductionHypothesis rest later
  | case5 => cases resolved
  | case6 _ _ _ _ rest inductionHypothesis =>
      cases resolved
      rcases List.mem_cons.mp member with first | later
      · cases first
      · exact inductionHypothesis rest later

/-- Arrivals stay sourced when an argument refers to a live object, or to none. -/
theorem Arrivals.Sourced.skip
    {arrivals : Arrivals}
    (sourced : arrivals.Sourced session)
    {reference : Option Object}
    (live : ∀ found, reference = some found → ∃ id, session.table.status id = .live found) :
    Arrivals.Sourced session { arrivals with objects := reference :: arrivals.objects } := by
  intro found member
  rcases List.mem_cons.mp member with first | earlier
  · exact Or.inr (live found first.symm)
  · exact sourced found earlier

/-- However many announced objects were made, the arrivals stay sourced. -/
theorem acceptAll_sourced
    {target : Object}
    {arrivals final : Arrivals}
    {entries : List ((Slot × Argument) × Option Object)}
    {refusal : Option Reason}
    (sourced : arrivals.Sourced session)
    (references : ∀ entry ∈ entries, ∀ found, entry.2 = some found →
      ∃ id, session.table.status id = .live found)
    (accepted : acceptAll target arrivals entries = (final, refusal)) :
    final.Sourced session := by
  refine acceptAll_preserves (motive := Arrivals.Sourced session) ?_ ?_ sourced accepted
  · intro arrivals slot id name version made next sourced one found member
    rcases List.mem_cons.mp member with first | earlier
    · cases first
      exact Or.inl (by simp)
    · exact (sourced found earlier).imp_left fun created => by simp [created]
  · exact fun arrivals entry isMember sourced => sourced.skip (references entry isMember)

/-- The handles in a received message are of objects made for it, or live before it. -/
theorem Incoming.Drawn.source
    {incoming : Incoming}
    {inbound : Inbound}
    {references : List (Option Object)}
    {arrivals : Arrivals}
    (drawn : incoming.Drawn inbound session references arrivals)
    (wellFormed : session.WellFormed)
    (member : object ∈ incoming.target :: incoming.objects.filterMap id) :
    object ∈ incoming.created ∨ ∃ id, session.table.status id = .live object := by
  rcases List.mem_cons.mp member with rfl | isArgument
  · exact Or.inr ⟨_, Table.lookup_eq_some_iff.mp drawn.lookup⟩
  · obtain ⟨found, isFound, rfl⟩ := List.mem_filterMap.mp isArgument
    rw [drawn.objects_eq, List.mem_reverse] at isFound
    have start : Arrivals.Sourced session { session } := by
      intro found member
      cases member
    have sourced := acceptAll_sourced start
      (fun entry member found isFound => live_of_resolveReferences drawn.resolved
        (isFound ▸ (List.of_mem_zip member).2))
      drawn.accepted
    rw [(drawn.grown wellFormed).1, List.mem_reverse]
    exact sourced object isFound

/-- Every handle that an operation returns is of an object the session counted. -/
theorem perform_returned
    (wellFormed : session.WellFormed)
    (dated : session.Dated)
    {operation : Operation}
    (returned : object ∈ operation.returned session) :
    (operation.perform session).Issued object := by
  have numbers := perform_numbers wellFormed operation
  cases operation with
  | decode inbound =>
      have continues := perform_continues wellFormed (.decode inbound)
      rcases decode_drawn session inbound with
        ⟨error, -, failed, -⟩ | ⟨incoming, references, arrivals, succeeded, drawn, -⟩
      · simp [Operation.returned, failed] at returned
      · simp only [Operation.returned, succeeded] at returned
        rcases drawn.source wellFormed returned with created | live
        · apply numbers.issued
          simpa only [Operation.created, succeeded] using created
        · obtain ⟨id, live⟩ := live
          exact (dated.issued wellFormed live).later continues
  | register _ | bind _ _ _ | send _ _ _ _ | release _ | reset =>
      exact numbers.issued object returned

end Returning

/-- What is wrong with a reference made from a dead handle. -/
def deadFault
    (session : Session)
    (object : Object) :
    ArgumentFault :=
  if object.session = session.number then .stale object else .foreign object

/-- What is wrong with a reference made from a dead handle in a slot. -/
def deadReason
    (session : Session)
    (object : Object)
    (slot : Slot) :
    Reason :=
  if slot.kind = .object then .argument (session.deadFault object) slot.name
  else .argumentKind slot.name slot.kind .object

/-- A message on a live target reaches a value in a slot: all values before it are accepted. -/
structure Reaches
    (session : Session)
    (target : Object)
    (opcode : UInt16)
    (values : List Passed)
    (signature : Signature)
    (slot : Slot)
    (passed : Passed) : Prop extends Admits session target opcode values signature where
  accepted : ∃ earlier later draft,
    signature.slots.zip values = earlier ++ (slot, passed) :: later ∧
      prepare target { session } earlier = (draft, none)

section Refusing

variable {session : Session} {object target : Object}

theorem handleFault?_of_dead
    (dead : session.isAlive object = false) :
    session.handleFault? object.id (some object) = some (session.deadFault object) := by
  unfold handleFault? deadFault
  by_cases own : object.session = session.number
  · simp [own, dead]
  · simp [own]

/-- A reference made from a dead handle is refused. -/
theorem prepareOne_of_dead
    {draft : Draft}
    (dead : draft.session.isAlive object = false)
    (slot : Slot) :
    prepareOne target slot (Passed.reference (some object)) draft =
      .error (draft.session.deadReason object slot) := by
  have valueKind : (Passed.reference (some object)).value.kind = .object := rfl
  unfold prepareOne deadReason
  rw [valueKind]
  by_cases kind : slot.kind = .object
  · rw [if_neg (Decidable.not_not.mpr kind.symm), if_pos kind]
    simp only [Passed.reference, handleFault?_of_dead dead]
  · rw [if_pos (Ne.symm kind), if_neg kind]

/-- Values are completed in order. -/
theorem prepare_append
    (draft : Draft)
    (front back : List (Slot × Passed)) :
    prepare target draft (front ++ back) =
      match prepare target draft front with
      | (draft, none) => prepare target draft back
      | (draft, some reason) => (draft, some reason) := by
  induction front generalizing draft with
  | nil => rfl
  | cons pair front inductionHypothesis =>
      obtain ⟨slot, passed⟩ := pair
      simp only [List.cons_append, prepare]
      cases prepareOne target slot passed draft with
      | error reason => rfl
      | ok next => exact inductionHypothesis next

/-- However far the values were completed, the draft continues the session. -/
theorem prepare_continues
    (wellFormed : session.WellFormed)
    {draft : Draft}
    {pairs : List (Slot × Passed)}
    {refusal : Option Reason}
    (prepared : prepare target { session } pairs = (draft, refusal)) :
    Continues session draft.session := by
  have start : Draft.GrownFrom session [] { session } := ⟨rfl, rfl, .start⟩
  obtain ⟨made, grown⟩ := prepare_grown wellFormed start prepared
  have numbers : Numbers session draft.created draft.session :=
    prepare_numbers (numbers_nil rfl rfl) prepared
  have reversed := numbers.reverse
  rw [grown.created_eq, List.reverse_reverse] at reversed
  exact reversed.continues_of_growth grown.growth

/-- When the values before a reference made from a dead handle are accepted, it is the reference that
is refused. -/
theorem prepare_of_dead
    (wellFormed : session.WellFormed)
    (dead : session.Dead object)
    {draft : Draft}
    {earlier : List (Slot × Passed)}
    (prepared : prepare target { session } earlier = (draft, none))
    (slot : Slot)
    (later : List (Slot × Passed)) :
    prepare target { session } (earlier ++ (slot, Passed.reference (some object)) :: later) =
      (draft, some (session.deadReason object slot)) := by
  -- Objects that the message made so far cannot bring the handle to life.
  have continues := prepare_continues wellFormed prepared
  have number : draft.session.deadReason object slot = session.deadReason object slot := by
    unfold deadReason deadFault
    rw [continues.number_eq]
  rw [prepare_append, prepared]
  simp only [prepare, prepareOne_of_dead (dead.later continues).isAlive_eq, number]

/-- Values with a reference made from a dead handle are refused, at the reference or before it. -/
theorem prepare_refuses_dead
    (wellFormed : session.WellFormed)
    (dead : session.Dead object)
    {pairs : List (Slot × Passed)}
    (passed : Passed.reference (some object) ∈ pairs.map Prod.snd) :
    ∃ reason, (prepare target { session } pairs).2 = some reason := by
  obtain ⟨⟨slot, value⟩, member, rfl⟩ := List.mem_map.mp passed
  obtain ⟨earlier, later, rfl⟩ := List.append_of_mem member
  -- The reference is looked at only if nothing before it is refused.
  rcases before : prepare target { session } earlier with ⟨draft, _ | reason⟩
  · rw [prepare_of_dead wellFormed dead before]
    exact ⟨_, rfl⟩
  · rw [prepare_append, before]
    exact ⟨reason, rfl⟩

/-- Sending on a dead target is refused, whatever is sent. -/
theorem send_of_dead_target
    (dead : session.isAlive object = false)
    (transport : Transport)
    (opcode : UInt16)
    (values : List Passed) :
    session.send transport (some object) opcode values =
      (session.refuse (.atObject .caller object none .destroyedObject), transport) := by
  unfold send
  simp [dead]

/-- Sending a reference made from a dead handle is refused, and nothing is written. -/
theorem send_of_dead_argument
    (wellFormed : session.WellFormed)
    (dead : session.Dead object)
    {values : List Passed}
    (passed : Passed.reference (some object) ∈ values)
    (transport : Transport)
    (target : Option Object)
    (opcode : UInt16) :
    (∃ error, (session.send transport target opcode values).1.result = .error (.refused error)) ∧
      (session.send transport target opcode values).2 = transport := by
  rcases send_refused_or_admitted session transport target opcode values with
    ⟨error, -, refused⟩ | ⟨target, signature, rfl, admits⟩
  · rw [refused]
    exact ⟨⟨_, rfl⟩, rfl⟩
  · have paired : Passed.reference (some object) ∈ (signature.slots.zip values).map Prod.snd := by
      rwa [List.map_snd_zip (Nat.le_of_eq admits.sameLength)]
    obtain ⟨reason, refused⟩ := prepare_refuses_dead wellFormed dead paired
    rw [admits.send_eq]
    split
    · exact ⟨⟨_, rfl⟩, rfl⟩
    · rename_i prepared
      rw [prepared] at refused
      cases refused

/-- When a message reaches a reference made from a dead handle, the refusal names its slot and what is
wrong with the handle. -/
theorem Reaches.send_of_dead
    (wellFormed : session.WellFormed)
    (dead : session.Dead object)
    {opcode : UInt16}
    {values : List Passed}
    {signature : Signature}
    {slot : Slot}
    (reaches :
      session.Reaches target opcode values signature slot (Passed.reference (some object)))
    (transport : Transport) :
    (session.send transport (some target) opcode values).1.result =
      .error (.refused
        (.atObject .caller target (some signature) (session.deadReason object slot))) := by
  obtain ⟨earlier, later, draft, pairs, prepared⟩ := reaches.accepted
  rw [reaches.toAdmits.send_eq, pairs, prepare_of_dead wellFormed dead prepared]
  rfl

/-- A session refuses a handle, and writes nothing: a message on it is refused because the object is
destroyed, and a message with a reference made from it is refused, whatever else is in it.  If all is
well up to the reference, the refusal is about the reference. -/
structure Refuses
    (session : Session)
    (object : Object) : Prop where
  target : ∀ transport opcode values,
    (∃ error,
      (session.send transport (some object) opcode values).1.result = .error (.refused error) ∧
        error.reason.cause = .destroyedObject) ∧
      (session.send transport (some object) opcode values).2 = transport
  argument : ∀ transport target opcode values, Passed.reference (some object) ∈ values →
    (∃ error, (session.send transport target opcode values).1.result = .error (.refused error)) ∧
      (session.send transport target opcode values).2 = transport
  reason : ∀ transport target opcode values signature slot,
    session.Reaches target opcode values signature slot (Passed.reference (some object)) →
      (session.send transport (some target) opcode values).1.result =
        .error (.refused
          (.atObject .caller target (some signature) (session.deadReason object slot)))

/-- A dead handle is refused. -/
theorem Dead.refused
    (dead : session.Dead object)
    (wellFormed : session.WellFormed) :
    session.Refuses object where
  target := by
    intro transport opcode values
    rw [send_of_dead_target dead.isAlive_eq]
    exact ⟨⟨_, rfl, rfl⟩, rfl⟩
  argument := by
    intro transport target opcode values passed
    exact send_of_dead_argument wellFormed dead passed transport target opcode
  reason := by
    intro transport target opcode values signature slot reaches
    exact reaches.send_of_dead wellFormed dead transport

end Refusing

/-- Sessions that exist side by side, each at its number. -/
structure World where
  sessions : List Session := []

/-- What happens in a world: a session is started, or one of them performs an operation. -/
inductive Move where
  | start (side : Side)
  | perform (number : Nat) (operation : Operation)

namespace World

def session?
    (world : World)
    (number : Nat) :
    Option Session :=
  world.sessions[number]?

/-- Whether a handle is the live object of its id in its session. -/
def isAlive
    (world : World)
    (object : Object) :
    Bool :=
  (world.session? object.session).any fun session => session.isAlive object

def act
    (world : World) :
    Move → World
  | .start side => ⟨world.sessions ++ [fresh world.sessions.length side]⟩
  | .perform number operation =>
      ⟨world.sessions.modify number fun session => operation.perform session⟩

def returned
    (world : World) :
    Move → List Object
  | .start _ => []
  | .perform number operation =>
      match world.session? number with
      | none => []
      | some session => operation.returned session

def run
    (world : World)
    (moves : List Move) :
    World :=
  moves.foldl act world

/-- The handles that a run of moves returned, in order. -/
def handedOut
    (world : World) :
    List Move → List Object
  | [] => []
  | move :: moves => world.returned move ++ (world.act move).handedOut moves

/-- What every run keeps of the session with a number. -/
structure Keeps
    (number : Nat)
    (session : Session) : Prop where
  number_eq : session.number = number
  follows : ∃ history, Follows history session
  dated : session.Dated

def Sound
    (world : World) : Prop :=
  ∀ number session, world.session? number = some session → Keeps number session

/-- A world later on: every session is still there, itself later on. -/
def Continues
    (world next : World) : Prop :=
  ∀ number session, world.session? number = some session →
    ∃ later, next.session? number = some later ∧ session.Continues later

/-- A handle that a session of a world gave out. -/
def Issued
    (world : World)
    (object : Object) : Prop :=
  ∃ session, world.session? object.session = some session ∧ session.Issued object

section Runs

variable {world middle next : World} {object : Object}

theorem Keeps.wellFormed
    {number : Nat}
    {session : Session}
    (keeps : Keeps number session) :
    session.WellFormed := by
  obtain ⟨history, follows⟩ := keeps.follows
  exact follows.wellFormed

/-- A fresh session is kept at its number. -/
theorem keeps_fresh
    (number : Nat)
    (side : Side) :
    Keeps number (fresh number side) := by
  refine ⟨rfl, ⟨[], follows_fresh number side⟩, ?_⟩
  intro id object live
  rw [show (fresh number side).table.status id = .vacant from Table.status_empty 1 id] at live
  cases live

/-- An operation keeps its session at its number. -/
theorem Keeps.perform
    {number : Nat}
    {session : Session}
    (keeps : Keeps number session)
    (operation : Operation) :
    Keeps number (operation.perform session) := by
  have continues := perform_continues keeps.wellFormed operation
  obtain ⟨history, follows⟩ := keeps.follows
  have effect := perform_effect keeps.wellFormed operation
  exact ⟨continues.number_eq.trans keeps.number_eq, ⟨_, effect.follows follows⟩,
    continues.dated keeps.dated⟩

/-- Every run of operations keeps its session at its number. -/
theorem Keeps.performAll
    {number : Nat}
    {session : Session}
    (keeps : Keeps number session)
    (operations : List Operation) :
    Keeps number (session.performAll operations) := by
  induction operations generalizing session with
  | nil => exact keeps
  | cons operation operations inductionHypothesis =>
      exact inductionHypothesis (keeps.perform operation)

theorem sound_empty :
    Sound {} := by
  intro number session found
  simp [session?] at found

/-- The sessions after one performed an operation. -/
theorem session?_perform
    (world : World)
    (performer number : Nat)
    (operation : Operation) :
    (world.act (.perform performer operation)).session? number =
      if performer = number then (world.session? number).map fun session =>
        operation.perform session
      else world.session? number := by
  simp only [act, session?, List.getElem?_modify]
  split <;> simp

/-- The sessions after one more was started. -/
theorem session?_start
    (world : World)
    (side : Side)
    (number : Nat) :
    (world.act (.start side)).session? number =
      if number = world.sessions.length then some (fresh number side)
      else world.session? number := by
  simp only [act, session?]
  by_cases isNew : number = world.sessions.length
  · simp [isNew]
  · rw [if_neg isNew, List.getElem?_append]
    split
    · rfl
    · rw [List.getElem?_eq_none (by simp; omega), List.getElem?_eq_none (by omega)]

/-- A move keeps every session at its number. -/
theorem Sound.act
    (sound : world.Sound)
    (move : Move) :
    (world.act move).Sound := by
  intro number session found
  cases move with
  | start side =>
      rw [session?_start] at found
      split at found
      · cases found
        exact keeps_fresh number side
      · exact sound number session found
  | perform performer operation =>
      rw [session?_perform] at found
      split at found
      · obtain ⟨before, wasThere, rfl⟩ := Option.map_eq_some_iff.mp found
        exact (sound number before wasThere).perform operation
      · exact sound number session found

theorem Continues.refl
    (world : World) :
    world.Continues world :=
  fun _ session found => ⟨session, found, .refl session⟩

theorem Continues.trans
    (first : world.Continues middle)
    (second : middle.Continues next) :
    world.Continues next := by
  intro number session found
  obtain ⟨between, foundBetween, continues⟩ := first number session found
  obtain ⟨later, foundLater, goesOn⟩ := second number between foundBetween
  exact ⟨later, foundLater, continues.trans goesOn⟩

/-- A move takes every session on. -/
theorem Sound.continues_act
    (sound : world.Sound)
    (move : Move) :
    world.Continues (world.act move) := by
  intro number session found
  cases move with
  | start side =>
      have inside : number < world.sessions.length := (List.getElem?_eq_some_iff.mp found).1
      refine ⟨session, ?_, .refl session⟩
      rw [session?_start, if_neg (by omega), found]
  | perform performer operation =>
      rw [session?_perform, found]
      by_cases performs : performer = number
      · refine ⟨operation.perform session, by simp [performs], ?_⟩
        exact perform_continues (sound number session found).wellFormed operation
      · exact ⟨session, by simp [performs], .refl session⟩

/-- A handle that was given out stays so. -/
theorem Issued.later
    (issued : world.Issued object)
    (continues : world.Continues next) :
    next.Issued object := by
  obtain ⟨session, found, issued⟩ := issued
  obtain ⟨later, foundLater, goesOn⟩ := continues _ session found
  exact ⟨later, foundLater, issued.later goesOn⟩

/-- Every handle that a move returns was given out by its session. -/
theorem Sound.issued_returned
    (sound : world.Sound)
    {move : Move}
    (returned : object ∈ world.returned move) :
    (world.act move).Issued object := by
  cases move with
  | start side => cases returned
  | perform number operation =>
      cases found : world.session? number with
      | none => simp [World.returned, found] at returned
      | some session =>
          simp only [World.returned, found] at returned
          have keeps := (sound number session found).perform operation
          have issued := perform_returned (sound number session found).wellFormed
            (sound number session found).dated returned
          refine ⟨operation.perform session, ?_, issued⟩
          rw [session?_perform, issued.session_eq, keeps.number_eq, if_pos rfl, found]
          rfl

/-- Every run keeps each session at its number, takes it on, and returns handles that were given
out. -/
theorem Sound.run
    (sound : world.Sound)
    (moves : List Move) :
    (world.run moves).Sound ∧ world.Continues (world.run moves) ∧
      ∀ object ∈ world.handedOut moves, (world.run moves).Issued object := by
  induction moves generalizing world with
  | nil => exact ⟨sound, .refl world, by simp [handedOut]⟩
  | cons move moves inductionHypothesis =>
      obtain ⟨soundAfter, continues, issued⟩ := inductionHypothesis (sound.act move)
      refine ⟨soundAfter, (sound.continues_act move).trans continues, ?_⟩
      intro object member
      rcases List.mem_append.mp member with first | later
      · exact (sound.issued_returned first).later continues
      · exact issued object later

/-- A handle that was given out and is not alive is dead in every session. -/
theorem Sound.dead
    (sound : world.Sound)
    (issued : world.Issued object)
    (notAlive : world.isAlive object = false)
    {number : Nat}
    {session : Session}
    (found : world.session? number = some session) :
    session.Dead object := by
  have number_eq := (sound number session found).number_eq
  obtain ⟨owner, ownerFound, counted⟩ := issued
  -- Only the session that gave the handle out could know it.
  by_cases own : object.session = number
  · rw [own, found] at ownerFound
    obtain rfl := Option.some.inj ownerFound
    refine ⟨fun _ => counted.serial_lt, ?_⟩
    simpa [isAlive, own, found] using notAlive
  · exact dead_of_foreign (by rwa [number_eq])

/-- A handle that is not alive stays so. -/
theorem Sound.isAlive_later
    (sound : world.Sound)
    (issued : world.Issued object)
    (notAlive : world.isAlive object = false)
    (continues : world.Continues next) :
    next.isAlive object = false := by
  obtain ⟨session, found, counted⟩ := issued
  obtain ⟨later, foundLater, goesOn⟩ := continues _ session found
  have dead := (sound.dead ⟨session, found, counted⟩ notAlive found).later goesOn
  simp [isAlive, foundLater, dead.isAlive_eq]

end Runs

theorem run_append
    (world : World)
    (before after : List Move) :
    world.run (before ++ after) = (world.run before).run after :=
  List.foldl_append

/-- A handle that any operation returned in a run and that is not alive at its end stays dead in every
continuation, whatever ids are released, reused and reset meanwhile, and every session there refuses
it, as a target and as an argument. -/
theorem dead_handle_stays_dead
    (before after : List Move)
    {object : Object}
    (returned : object ∈ handedOut {} before)
    (notAlive : (run {} before).isAlive object = false) :
    (run {} (before ++ after)).isAlive object = false ∧
      ∀ session ∈ (run {} (before ++ after)).sessions, session.Refuses object := by
  rw [run_append]
  obtain ⟨soundBefore, -, issued⟩ := sound_empty.run before
  obtain ⟨soundAfter, continues, -⟩ := soundBefore.run after
  have issuedBefore := issued object returned
  have stays := soundBefore.isAlive_later issuedBefore notAlive continues
  refine ⟨stays, ?_⟩
  intro session member
  obtain ⟨number, found⟩ := List.mem_iff_getElem?.mp member
  have dead := soundAfter.dead (issuedBefore.later continues) stays found
  exact dead.refused (soundAfter number session found).wellFormed

/-- An interface whose only request is a destructor. -/
def buoy : Interface :=
  { name := "buoy"
    version := 1
    requests := [{ name := "sink", destructor := true }] }

def firstBuoy : Object :=
  { session := 0, serial := 0, id := 1, interface := buoy, version := 1, generation := 1 }

/-- Two sessions are started, and the buoy of the first one is sunk. -/
def buoySunk : List Move :=
  [.start .client, .start .client, .perform 0 (.bind 1 buoy 1),
    .perform 0 (.send {} (some firstBuoy) 0 [])]

/-- The id of the buoy is released and reused.  After a reset it comes again with the generation of
the first buoy, and the other session has a buoy at the id as well. -/
def buoysAgain : List Move :=
  [.perform 0 (.release 1), .perform 0 (.bind 1 buoy 1), .perform 0 .reset,
    .perform 0 (.bind 1 buoy 1), .perform 1 (.bind 1 buoy 1)]

/-- The sunk buoy stays dead, although the other buoys with its id and generation are alive. -/
theorem sunk_buoy_stays_dead :
    firstBuoy ∈ handedOut {} buoySunk ∧ (run {} buoySunk).isAlive firstBuoy = false ∧
      (run {} (buoySunk ++ buoysAgain)).isAlive { firstBuoy with serial := 2 } = true ∧
      (run {} (buoySunk ++ buoysAgain)).isAlive { firstBuoy with session := 1 } = true ∧
      (run {} (buoySunk ++ buoysAgain)).isAlive firstBuoy = false ∧
        ∀ session ∈ (run {} (buoySunk ++ buoysAgain)).sessions, session.Refuses firstBuoy := by
  have returned : firstBuoy ∈ handedOut {} buoySunk := by decide
  have notAlive : (run {} buoySunk).isAlive firstBuoy = false := by decide
  refine ⟨returned, notAlive, by decide, by decide, ?_⟩
  exact dead_handle_stays_dead buoySunk buoysAgain returned notAlive

end World

end Wayland.Session
