import Wayland.Proofs.Session.Rollback

/-!
Contract: what is left of a message that is not sent or not accepted.

Owns:
- which cells the objects of drafts and arrivals took;
- sessions that an operation left as they were, but for the counts of free cells;
- how sending and decoding fail, and what they leave when they do.

Does not own: when a range ends in a cell that was taken.
-/

namespace Wayland.Session

open Wayland.Text
open Wayland.Wire

/-- A session is as it was, but for the counts of its free cells and their order, and for the number
of objects it made. -/
structure Restored
    (session next : Session) : Prop where
  session_eq : next = { session with table := next.table, made := next.made }
  resembles : session.table.Resembles next.table
  free_perm : ∀ side, (session.table.arena side).free.Perm (next.table.arena side).free

theorem Restored.refl
    (session : Session) :
    Restored session session :=
  ⟨rfl, .refl _, fun _ => .refl _⟩

/-- A draft that grew from a session by objects that took cells, each the newest free one. -/
structure Draft.TakenFrom
    (session : Session)
    (objects : List Object)
    (draft : Draft) : Prop extends Draft.GrownFrom session objects draft where
  takes : Table.TakesAll session.side session.table objects draft.session.table
  free_eq :
    (session.table.arena session.side).free =
      Table.reusedBy session.side (session.table.extent session.side) objects ++
        (draft.session.table.arena session.side).free

/-- Arrivals that grew from a session by objects that took cells. -/
structure Arrivals.TakenFrom
    (session : Session)
    (objects : List Object)
    (arrivals : Arrivals) : Prop extends Arrivals.GrownFrom session objects arrivals where
  takes : Table.TakesAll session.side.peer session.table objects arrivals.session.table
  free_perm :
    (session.table.arena session.side.peer).free.Perm
      (Table.reusedBy session.side.peer (session.table.extent session.side.peer) objects ++
        (arrivals.session.table.arena session.side.peer).free)

/-! ### Sending -/

section Sending

variable {session : Session} {objects : List Object} {draft next : Draft} {target : Object}
variable {slot : Slot}

theorem Draft.TakenFrom.start
    (session : Session) :
    Draft.TakenFrom session [] { session } where
  created_eq := rfl
  session_eq := rfl
  growth := .start
  takes := .start
  free_eq := rfl

/-- One value is completed: the object made for it, if any, took the newest free cell. -/
theorem prepareOne_taken
    (wellFormed : session.WellFormed)
    (taken : draft.TakenFrom session objects)
    {passed : Passed}
    (prepared : prepareOne target slot passed draft = .ok next) :
    ∃ made, next.TakenFrom session (objects ++ made) := by
  by_cases makes : passed.value.kind = .newId
  · have sameKind := kind_of_prepareOne prepared
    obtain ⟨value, handle⟩ := passed
    cases value with
    | newId id name version =>
        obtain ⟨rfl, interface, negotiated, object, table, resolved, allocated, rfl⟩ :=
          prepareOne_newId prepared
        have advances : Draft.Advances session objects target
            (slot, ⟨.newId 0 name version, handle⟩) draft _ _ _ :=
          taken.advances_of_allocate wellFormed sameKind.symm resolved allocated
        have side : draft.session.side = session.side := by rw [taken.session_eq]
        rw [side] at allocated
        obtain ⟨takes, free⟩ :=
          Table.takes_allocate (taken.growth.wellFormed wellFormed) allocated
        refine ⟨[object], advances.grown, .step taken.takes takes, ?_⟩
        rw [taken.free_eq, free, Table.reusedBy_append, taken.takes.reusedBy_eq takes,
          List.append_assoc]
        rfl
    | _ => simp [Argument.kind] at makes
  · rw [prepareOne_of_kind_ne makes prepared]
    refine ⟨[], ?_⟩
    rw [List.append_nil]
    exact ⟨⟨taken.created_eq, taken.session_eq, taken.growth⟩, taken.takes, taken.free_eq⟩

/-- However far the values were completed, the objects made for them took cells. -/
theorem prepare_taken
    (wellFormed : session.WellFormed)
    (taken : draft.TakenFrom session objects)
    {pairs : List (Slot × Passed)}
    {final : Draft}
    {refusal : Option Reason}
    (prepared : prepare target draft pairs = (final, refusal)) :
    ∃ made, final.TakenFrom session made := by
  refine prepare_preserves (motive := fun draft => ∃ made, draft.TakenFrom session made) ?_
    ⟨objects, taken⟩ prepared
  rintro draft slot passed next ⟨objects, taken⟩ first
  obtain ⟨made, more⟩ := prepareOne_taken wellFormed taken first
  exact ⟨_, more⟩

/-- Taking back the objects of a draft restores the session, and the free cells stand in the order they
stood in. -/
theorem Draft.TakenFrom.restored
    (taken : draft.TakenFrom session objects)
    (ends : (session.table.arena session.side).EndsTaken) :
    Restored session (draft.session.abandonAll draft.created) ∧
      ∀ side, ((draft.session.abandonAll draft.created).table.arena side).free =
        (session.table.arena side).free := by
  obtain ⟨resembles, free, peerFree⟩ := taken.takes.retract ends (.refl _)
  rw [← taken.free_eq] at free
  rw [taken.takes.arena_peer] at peerFree
  rw [← taken.created_eq] at resembles free peerFree
  have sameFree : ∀ side, ((draft.session.abandonAll draft.created).table.arena side).free =
      (session.table.arena side).free :=
    (Side.forall_iff session.side).mpr ⟨free, peerFree⟩
  refine ⟨⟨?_, resembles, fun side => by rw [sameFree]⟩, sameFree⟩
  rw [taken.session_eq]
  rfl

/-- How sending a message to a transport failed: the caller is to blame, or the transport refused the
message. -/
def Failure.OfSending
    (transport : Transport) :
    Failure → Prop
  | .refused error => error.blame = .caller
  | .write _ _ text => transport.refusal = some text
  | .handler _ _ _ => False

/-- What is left of a message that was not sent. -/
structure Unsent
    (session : Session)
    (transport : Transport)
    (failure : Failure)
    (next : Session)
    (after : Transport) : Prop where
  ofSending : failure.OfSending transport
  bytes_eq : after.bytes = transport.bytes
  descriptors_eq : after.descriptors = transport.descriptors
  restored : Restored session next
  free_eq : ∀ side, (next.table.arena side).free = (session.table.arena side).free

/-- Writing a message takes the objects of the draft back, or keeps them. -/
theorem write_outcome
    (taken : draft.TakenFrom session objects)
    (ends : (session.table.arena session.side).EndsTaken)
    (transport : Transport)
    (opcode : UInt16)
    (signature : Signature) :
    (∃ failure,
      (write draft transport target opcode signature).1.result = .error failure ∧
        Unsent session transport failure
          (write draft transport target opcode signature).1.session
          (write draft transport target opcode signature).2) ∨
    ((write draft transport target opcode signature).1.result = .ok objects ∧
      (write draft transport target opcode signature).1.session =
        (draft.session.destroyTarget target signature).1) := by
  obtain ⟨restored, free⟩ := taken.restored ends
  unfold write
  cases draft.frame target opcode signature with
  | error error => exact Or.inl ⟨_, rfl, rfl, rfl, rfl, restored, free⟩
  | ok payload =>
      unfold Transport.write
      cases refusal : transport.refusal with
      | some text => exact Or.inl ⟨_, rfl, refusal, rfl, rfl, restored, free⟩
      | none => exact Or.inr ⟨by simp [taken.created_eq], rfl⟩

/-- Sending a message leaves nothing of it, or makes objects that took cells. -/
theorem send_outcome
    (wellFormed : session.WellFormed)
    (ends : (session.table.arena session.side).EndsTaken)
    (transport : Transport)
    (target : Option Object)
    (opcode : UInt16)
    (values : List Passed) :
    (∃ failure,
      (session.send transport target opcode values).1.result = .error failure ∧
        Unsent session transport failure
          (session.send transport target opcode values).1.session
          (session.send transport target opcode values).2) ∨
    (∃ (objects : List Object) (draft : Draft) (object : Object) (signature : Signature),
      (session.send transport target opcode values).1.result = .ok objects ∧
        draft.TakenFrom session objects ∧
          (session.send transport target opcode values).1.session =
            (draft.session.destroyTarget object signature).1) := by
  rcases send_refused_or_admitted session transport target opcode values with
    ⟨error, blamed, refused⟩ | ⟨object, signature, rfl, admits⟩
  · rw [refused]
    exact Or.inl ⟨_, rfl, blamed, rfl, rfl, .refl session, fun _ => rfl⟩
  · rw [admits.send_eq]
    split
    · rename_i draft reason prepared
      obtain ⟨made, taken⟩ := prepare_taken wellFormed (.start session) prepared
      obtain ⟨restored, free⟩ := taken.restored ends
      exact Or.inl ⟨_, rfl, rfl, rfl, rfl, restored, free⟩
    · rename_i draft prepared
      obtain ⟨made, taken⟩ := prepare_taken wellFormed (.start session) prepared
      rcases write_outcome taken ends transport opcode signature with failed | ⟨result, next⟩
      · exact Or.inl failed
      · exact Or.inr ⟨made, draft, object, signature, result, taken, next⟩

/-- Nothing is left of a message that is not sent. -/
theorem unsent_of_error
    (wellFormed : session.WellFormed)
    (ends : (session.table.arena session.side).EndsTaken)
    {transport : Transport}
    {target : Option Object}
    {opcode : UInt16}
    {values : List Passed}
    {failure : Failure}
    (failed : (session.send transport target opcode values).1.result = .error failure) :
    Unsent session transport failure (session.send transport target opcode values).1.session
      (session.send transport target opcode values).2 := by
  rcases send_outcome wellFormed ends transport target opcode values with
    ⟨_, refused, unsent⟩ | ⟨_, _, _, _, succeeded, -, -⟩
  · rw [refused] at failed
    cases failed
    exact unsent
  · rw [succeeded] at failed
    cases failed

end Sending

/-! ### Decoding -/

section Decoding

variable {session : Session} {objects : List Object} {arrivals : Arrivals} {target : Object}

theorem Arrivals.TakenFrom.start
    (session : Session) :
    Arrivals.TakenFrom session [] { session } where
  created_eq := rfl
  session_eq := rfl
  growth := .start
  takes := .start
  free_perm := .refl _

/-- An announced object that is accepted took a cell. -/
theorem acceptNewId_takes
    {parent object : Object}
    {slot : Slot}
    {id : ObjectId}
    {name : Bytes}
    {version : UInt32}
    {next : Session}
    (accepted : session.acceptNewId parent slot id name version = .ok (object, next)) :
    Table.Takes session.side.peer session.table object next.table := by
  obtain ⟨interface, negotiated, table, inside, -, inserted, rfl⟩ :=
    exists_insert_of_acceptNewId accepted
  exact Table.takes_insert inside inserted

/-- However many announced objects were made, they took cells. -/
theorem acceptAll_taken
    (wellFormed : session.WellFormed)
    (taken : arrivals.TakenFrom session objects)
    {entries : List ((Slot × Argument) × Option Object)}
    {final : Arrivals}
    {refusal : Option Reason}
    (accepted : acceptAll target arrivals entries = (final, refusal)) :
    ∃ made, final.TakenFrom session made := by
  refine acceptAll_preserves (motive := fun arrivals => ∃ made, arrivals.TakenFrom session made)
    ?_ ?_ ⟨objects, taken⟩ accepted
  · rintro arrivals slot id name version object next ⟨made, taken⟩ one
    obtain ⟨gains, -, nextEq, -⟩ := acceptNewId_gains wellFormed taken.toGrownFrom one
    have takes := acceptNewId_takes one
    have side : arrivals.session.side = session.side := by rw [taken.session_eq]
    rw [side] at takes
    refine ⟨_, taken.toGrownFrom.step gains nextEq, .step taken.takes takes, ?_⟩
    have free := takes.free_perm (taken.growth.wellFormed wellFormed)
    rw [taken.takes.reusedBy_eq takes] at free
    rw [Table.reusedBy_append, List.append_assoc]
    exact taken.free_perm.trans (free.append_left _)
  · rintro arrivals entry - ⟨made, taken⟩
    exact ⟨made, taken.toGrownFrom.skip entry.2, taken.takes, taken.free_perm⟩

/-- Taking back the objects of arrivals restores the session.  The free cells they took stand first on
the list, in the order in which they were taken. -/
theorem Arrivals.TakenFrom.restored
    (taken : arrivals.TakenFrom session objects)
    (ends : (session.table.arena session.side.peer).EndsTaken) :
    Restored session (arrivals.session.abandonAll arrivals.created) ∧
      ((arrivals.session.abandonAll arrivals.created).table.arena session.side.peer).free =
          Table.reusedBy session.side.peer (session.table.extent session.side.peer) objects ++
            (arrivals.session.table.arena session.side.peer).free ∧
        ((arrivals.session.abandonAll arrivals.created).table.arena session.side.peer.peer).free =
          (session.table.arena session.side.peer.peer).free := by
  obtain ⟨resembles, free, peerFree⟩ := taken.takes.retract ends (.refl _)
  rw [taken.takes.arena_peer] at peerFree
  rw [← taken.created_eq] at resembles free peerFree
  refine ⟨⟨?_, resembles, (Side.forall_iff session.side.peer).mpr ⟨?_, ?_⟩⟩, free, peerFree⟩
  · rw [taken.session_eq]
    rfl
  · exact free ▸ taken.free_perm
  · exact peerFree ▸ .refl _

/-- Decoding a message leaves nothing of it, or makes objects that took cells. -/
theorem decode_outcome
    (wellFormed : session.WellFormed)
    (ends : (session.table.arena session.side.peer).EndsTaken)
    (inbound : Inbound) :
    (∃ error : Error,
      error.blame = .peer ∧ (session.decode inbound).result = .error (.refused error) ∧
        Restored session (session.decode inbound).session) ∨
    (∃ (incoming : Incoming) (objects : List Object) (arrivals : Arrivals),
      (session.decode inbound).result = .ok incoming ∧ arrivals.TakenFrom session objects ∧
        (session.decode inbound).session =
          (arrivals.session.destroyTarget incoming.target incoming.signature).1) := by
  rcases decode_drawn session inbound with
    ⟨error, blamed, failed, early | ⟨target, entries, arrivals, refusal, accepted, late⟩⟩ |
      ⟨incoming, references, arrivals, succeeded, drawn, next⟩
  · rw [early]
    exact Or.inl ⟨error, blamed, failed, .refl session⟩
  · obtain ⟨made, taken⟩ := acceptAll_taken wellFormed (.start session) accepted
    rw [late]
    exact Or.inl ⟨error, blamed, failed, (taken.restored ends).1⟩
  · obtain ⟨made, taken⟩ := acceptAll_taken wellFormed (.start session) drawn.accepted
    exact Or.inr ⟨incoming, made, arrivals, succeeded, taken, next⟩

end Decoding

end Wayland.Session
