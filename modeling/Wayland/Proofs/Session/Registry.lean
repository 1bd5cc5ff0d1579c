import Wayland.Proofs.Session.Acceptance
import Wayland.Proofs.Session.History

/-!
Contract: what the ids of a connection were first given to.

Owns:
- a registry: the outline that the sender of a message gave to every id, whatever became of the
  message and of the object since;
- sessions whose live objects are as registered, and how they stay so when a message is sent,
  accepted or refused.

Does not own: connections on which an id is released, or one side starts over.
-/

namespace Wayland.Session

open Wayland.Text
open Wayland.Wire

/-- A session takes a message: it makes objects in the range of a side, and destroys the target of a
destructor. -/
structure Bears
    (session next : Session)
    (maker : Side)
    (objects : List Object)
    (target : Object)
    (signature : Signature) : Prop where
  live : session.table.status target.id = .live target
  grows : ∃ table made,
    Table.Growth session.number maker session.table objects table ∧
      next = ({ session with table, made }.destroyTarget target signature).1

theorem Departure.Leaves.bears
    {departure : Departure}
    {session next : Session}
    (leaves : departure.Leaves session next) :
    Bears session next session.side departure.created departure.target departure.signature :=
  ⟨status_of_isAlive leaves.alive, leaves.grows⟩

theorem Incoming.Arrives.bears
    {incoming : Incoming}
    {inbound : Inbound}
    {session next : Session}
    (arrives : incoming.Arrives inbound session next) :
    Bears session next session.side.peer incoming.created incoming.target incoming.signature :=
  ⟨arrives.live, arrives.grows⟩

namespace Bears

variable {session next : Session} {maker : Side} {objects : List Object} {target : Object}
variable {signature : Signature} {id : ObjectId} {outline : Outline}

/-- Only the table and the count of objects change. -/
theorem session_eq
    (bears : Bears session next maker objects target signature) :
    next = { session with table := next.table, made := next.made } := by
  obtain ⟨table, made, -, rfl⟩ := bears.grows
  rw [destroyTarget_eq]

theorem known?_eq
    (bears : Bears session next maker objects target signature)
    (wanted : Bytes) :
    next.known? wanted = session.known? wanted := by
  rw [bears.session_eq]
  rfl

theorem wellFormed
    (bears : Bears session next maker objects target signature)
    (wellFormed : session.WellFormed) :
    next.WellFormed := by
  obtain ⟨table, made, growth, rfl⟩ := bears.grows
  have grown := growth.wellFormed wellFormed
  unfold destroyTarget
  split
  · exact (Table.turns_destroy grown (growth.status_of_live bears.live)).wellFormed
  · exact grown

theorem standing_eq
    (bears : Bears session next maker objects target signature)
    (wellFormed : session.WellFormed) :
    next.table.standing =
      session.table.standing.after (messageMarks objects target.id signature) := by
  obtain ⟨table, made, growth, rfl⟩ := bears.grows
  exact standing_message wellFormed growth bears.live signature

theorem inside
    (bears : Bears session next maker objects target signature) :
    ∀ object ∈ objects, sideOfId? object.id = some maker := by
  obtain ⟨table, made, growth, -⟩ := bears.grows
  exact growth.inside

theorem vacant
    (bears : Bears session next maker objects target signature) :
    ∀ object ∈ objects, session.table.standing object.id = .vacant := by
  obtain ⟨table, made, growth, -⟩ := bears.grows
  exact fun object member => Table.standing_eq_vacant_iff.mpr (growth.vacant object member)

/-- The new objects stand as they were made, before the target is destroyed. -/
theorem standing_created
    (bears : Bears session next maker objects target signature) :
    ∀ object ∈ objects,
      session.table.standing.after (objects.map Object.mark) object.id = .live object.outline := by
  obtain ⟨table, made, growth, -⟩ := bears.grows
  intro object member
  rw [← growth.standing]
  exact Table.standing_of_live (growth.status_of_mem object member)

/-- What is live after a message was live before, or is one of the new objects. -/
theorem live_cases
    (bears : Bears session next maker objects target signature)
    (wellFormed : session.WellFormed)
    (live : next.table.standing id = .live outline) :
    session.table.standing id = .live outline ∨
      ∃ object ∈ objects, object.id = id ∧ object.outline = outline := by
  have grown : session.table.standing.after (objects.map Object.mark) id = .live outline := by
    rw [bears.standing_eq wellFormed, messageMarks, Standing.after_append] at live
    split at live
    · rw [Standing.after_cons, Standing.after_nil, Mark.apply] at live
      split at live
      · cases live
      · exact live
    · exact live
  rcases Standing.after_eq_or_marked session.table.standing (objects.map Object.mark) id with
    same | ⟨mark, isMark, rfl⟩
  · exact Or.inl (same ▸ grown)
  · obtain ⟨object, member, rfl⟩ := List.mem_map.mp isMark
    have made := (bears.standing_created object member).symm.trans grown
    exact Or.inr ⟨object, member, rfl, by simpa using made⟩

end Bears

/-- A refused message leaves every standing as it was. -/
theorem Untouched.standing_eq
    {side : Side}
    {session next : Session}
    (untouched : Untouched side session next) :
    next.table.standing = session.table.standing := by
  funext id
  unfold Table.standing
  rw [untouched.status_eq]

/-- What marks do to an id depends only on how it stood. -/
theorem Standing.after_congr
    {standing other : Standing}
    {id : ObjectId}
    (same : standing id = other id)
    (marks : List Mark) :
    standing.after marks id = other.after marks id := by
  induction marks generalizing standing other with
  | nil => exact same
  | cons mark marks inductionHypothesis =>
      rw [Standing.after_cons, Standing.after_cons]
      apply inductionHypothesis
      unfold Mark.apply
      rw [same]

/-- A session of a side agrees with a registry: what is live is as registered, and an id that the
side may still give away is not registered. -/
structure Registered
    (registry : Standing)
    (side : Side)
    (session : Session) : Prop where
  side_eq : session.side = side
  wellFormed : session.WellFormed
  live : ∀ id outline,
    session.table.standing id = .live outline → registry id = .live outline
  vacant : ∀ id,
    sideOfId? id = some side → session.table.standing id = .vacant → registry id = .vacant

/-- A message was sent about registered objects. -/
structure Departure.Listed
    (registry : Standing)
    (departure : Departure) : Prop where
  target : registry departure.target.id = .live departure.target.outline
  created : ∀ object ∈ departure.created, registry object.id = .live object.outline

/-- A registry keeps the entries of an earlier one. -/
def Standing.Keeps
    (registry next : Standing) : Prop :=
  ∀ id, registry id ≠ .vacant → next id = registry id

theorem Departure.Listed.keeps
    {departure : Departure}
    {registry next : Standing}
    (listed : departure.Listed registry)
    (keeps : registry.Keeps next) :
    departure.Listed next where
  target := by
    rw [keeps _ (by simp [listed.target]), listed.target]
  created := by
    intro object member
    have entry := listed.created object member
    rw [keeps _ (by simp [entry]), entry]

namespace Registered

variable {registry : Standing} {side : Side} {session next other : Session}

/-- A session in which nothing changed its standing stays registered. -/
theorem same
    (registered : Registered registry side session)
    (side_eq : next.side = session.side)
    (wellFormed : next.WellFormed)
    (standing_eq : next.table.standing = session.table.standing) :
    Registered registry side next where
  side_eq := side_eq.trans registered.side_eq
  wellFormed := wellFormed
  live := by
    rw [standing_eq]
    exact registered.live
  vacant := by
    rw [standing_eq]
    exact registered.vacant

theorem untouched
    (registered : Registered registry side session)
    {maker : Side}
    (untouched : Untouched maker session next) :
    Registered registry side next :=
  registered.same (by rw [untouched.session_eq]) untouched.wellFormed untouched.standing_eq

section Sending

variable {objects : List Object} {target : Object} {signature : Signature}

/-- The ids of new objects were not registered before. -/
theorem created_vacant
    (registered : Registered registry side session)
    (bears : Bears session next side objects target signature) :
    ∀ object ∈ objects, registry object.id = .vacant :=
  fun object member =>
    registered.vacant object.id (bears.inside object member) (bears.vacant object member)

/-- A registry that grows by new objects keeps its entries. -/
theorem keeps
    (registered : Registered registry side session)
    (bears : Bears session next side objects target signature) :
    registry.Keeps (registry.after (objects.map Object.mark)) := by
  intro id taken
  apply Standing.after_of_unmarked
  intro mark isMark sameId
  obtain ⟨object, member, rfl⟩ := List.mem_map.mp isMark
  exact taken (sameId ▸ registered.created_vacant bears object member)

/-- The new objects are registered as they were made. -/
theorem created_listed
    (registered : Registered registry side session)
    (bears : Bears session next side objects target signature) :
    ∀ object ∈ objects,
      registry.after (objects.map Object.mark) object.id = .live object.outline := by
  intro object member
  rw [← bears.standing_created object member]
  apply Standing.after_congr
  rw [registered.created_vacant bears object member, bears.vacant object member]

/-- The sender of a message agrees with the registry that grew by its new objects. -/
theorem sends
    (registered : Registered registry side session)
    (bears : Bears session next side objects target signature) :
    Registered (registry.after (objects.map Object.mark)) side next where
  side_eq := by
    rw [bears.session_eq]
    exact registered.side_eq
  wellFormed := bears.wellFormed registered.wellFormed
  live := by
    intro id outline live
    rcases bears.live_cases registered.wellFormed live with before | ⟨object, member, rfl, rfl⟩
    · have entry := registered.live id outline before
      rw [registered.keeps bears id (by simp [entry]), entry]
    · exact registered.created_listed bears object member
  vacant := by
    intro id inside vacant
    rw [bears.standing_eq registered.wellFormed, messageMarks, Standing.after_append] at vacant
    have grownVacant :
        session.table.standing.after (objects.map Object.mark) id = .vacant := by
      by_contra taken
      exact Standing.after_ne_vacant taken vacant
    have before : session.table.standing id = .vacant := by
      by_contra taken
      exact Standing.after_ne_vacant taken grownVacant
    rw [← grownVacant]
    apply Standing.after_congr
    rw [before]
    exact registered.vacant id inside before

/-- The peer of the sender agrees with the grown registry too. -/
theorem peer_sends
    (peer : Registered registry side.peer other)
    (registered : Registered registry side session)
    (bears : Bears session next side objects target signature) :
    Registered (registry.after (objects.map Object.mark)) side.peer other where
  side_eq := peer.side_eq
  wellFormed := peer.wellFormed
  live := by
    intro id outline live
    have entry := peer.live id outline live
    rw [registered.keeps bears id (by simp [entry]), entry]
  vacant := by
    intro id inside vacant
    rw [← peer.vacant id inside vacant]
    apply Standing.after_of_unmarked
    intro mark isMark sameId
    obtain ⟨object, member, rfl⟩ := List.mem_map.mp isMark
    have otherSide := bears.inside object member
    rw [show object.id = id from sameId, inside] at otherSide
    exact Side.peer_ne side (Option.some.inj otherSide)

/-- The receiver of a message whose new objects are as registered still agrees with the registry. -/
theorem receives
    (registered : Registered registry side session)
    {maker : Side}
    (bears : Bears session next maker objects target signature)
    (listed : ∀ object ∈ objects, registry object.id = .live object.outline) :
    Registered registry side next where
  side_eq := by
    rw [bears.session_eq]
    exact registered.side_eq
  wellFormed := bears.wellFormed registered.wellFormed
  live := by
    intro id outline live
    rcases bears.live_cases registered.wellFormed live with before | ⟨object, member, rfl, rfl⟩
    · exact registered.live id outline before
    · exact listed object member
  vacant := by
    intro id inside vacant
    apply registered.vacant id inside
    by_contra taken
    rw [bears.standing_eq registered.wellFormed] at vacant
    exact Standing.after_ne_vacant taken vacant

end Sending

end Registered

end Wayland.Session
