import Mathlib.Data.List.Induction
import Wayland.Proofs.Session.Arena

/-!
Contract: the life of an id, told from what happened.

Owns:
- the events of a session: objects that come, destructors on them, releases and resets;
- the life of every id after a history of events;
- chronicles, in which every event fits what came before it;
- what the life of an id says of a chronicle: the latest object made there, and what followed.

Does not own: which events an operation causes.
-/

namespace Wayland.Session

open Wayland.Wire

/-- How a destructor passed: sent by the session itself, or received from its peer. -/
inductive Means where
  | sending
  | receiving
deriving DecidableEq, Repr

/-- What happened to the ids of a session. -/
inductive Event where
  | created (object : Object)
  /-- A destructor on an object passed. -/
  | destroyed (means : Means) (object : Object)
  | released (id : ObjectId)
  | reset
deriving DecidableEq, Repr

/-- The life of an id. -/
inductive Life where
  | vacant
  | live (object : Object)
  | destroyed (means : Means) (object : Object)
deriving DecidableEq, Repr

def Life.status : Life → Status Object
  | .vacant => .vacant
  | .live object => .live object
  | .destroyed _ _ => .destroyed

/-- The lives of all ids after one more event. -/
def Event.apply
    (lives : ObjectId → Life)
    (event : Event)
    (id : ObjectId) :
    Life :=
  match event with
  | .created object => if id = object.id then .live object else lives id
  | .destroyed means object => if id = object.id then .destroyed means object else lives id
  | .released freed => if id = freed then .vacant else lives id
  | .reset => .vacant

def livesAfter
    (history : List Event) :
    ObjectId → Life :=
  history.foldl Event.apply fun _ => .vacant

/-- An event that can happen next: an object comes to a vacant id, a destructor passes on a live
object, and an id is released after its object was destroyed. -/
def Event.Fits
    (lives : ObjectId → Life) :
    Event → Prop
  | .created object => lives object.id = .vacant
  | .destroyed _ object => lives object.id = .live object
  | .released id => ∃ means object, lives id = .destroyed means object
  | .reset => True

/-- Every event of a history fits what came before. -/
def Chronicle
    (history : List Event) : Prop :=
  ∀ before event after, history = before ++ event :: after → event.Fits (livesAfter before)

@[simp]
theorem livesAfter_nil
    (id : ObjectId) :
    livesAfter [] id = .vacant :=
  rfl

@[simp]
theorem livesAfter_concat
    (history : List Event)
    (event : Event) :
    livesAfter (history ++ [event]) = event.apply (livesAfter history) := by
  simp [livesAfter]

theorem chronicle_nil :
    Chronicle [] := by
  intro before event after impossible
  simp at impossible

theorem Chronicle.of_append
    {front back : List Event}
    (chronicle : Chronicle (front ++ back)) :
    Chronicle front := by
  intro before event after split
  apply chronicle before event (after ++ back)
  rw [split, List.append_assoc, List.cons_append]

theorem chronicle_concat_iff
    {history : List Event}
    {event : Event} :
    Chronicle (history ++ [event]) ↔ Chronicle history ∧ event.Fits (livesAfter history) := by
  constructor
  · intro chronicle
    exact ⟨chronicle.of_append, chronicle history event [] rfl⟩
  · rintro ⟨chronicle, fits⟩ before other after split
    cases after using List.reverseRecOn with
    | nil =>
        obtain ⟨rfl, rfl⟩ := List.append_singleton_inj.mp split
        exact fits
    | append_singleton after last =>
        rw [← List.cons_append, ← List.append_assoc] at split
        obtain ⟨historyEq, -⟩ := List.append_singleton_inj.mp split
        exact chronicle before other after historyEq

def Event.IsAbout
    (id : ObjectId) :
    Event → Prop
  | .created object => object.id = id
  | .destroyed _ object => object.id = id
  | .released freed => freed = id
  | .reset => True

/-- An event that does not bear on an id leaves its life alone. -/
theorem Event.apply_of_not_isAbout
    {id : ObjectId}
    {event : Event}
    (elsewhere : ¬event.IsAbout id)
    (lives : ObjectId → Life) :
    event.apply lives id = lives id := by
  cases event with
  | created object => exact if_neg (Ne.symm elsewhere)
  | destroyed means object => exact if_neg (Ne.symm elsewhere)
  | released freed => exact if_neg (Ne.symm elsewhere)
  | reset => exact absurd trivial elsewhere

/-- Events that do not bear on an id leave its life alone. -/
theorem livesAfter_append_of_not_isAbout
    {id : ObjectId}
    {history more : List Event}
    (elsewhere : ∀ event ∈ more, ¬event.IsAbout id) :
    livesAfter (history ++ more) id = livesAfter history id := by
  induction more using List.reverseRecOn with
  | nil => rw [List.append_nil]
  | append_singleton more event inductionHypothesis =>
      rw [← List.append_assoc, livesAfter_concat,
        Event.apply_of_not_isAbout (elsewhere event (by simp))]
      exact inductionHypothesis fun earlier member => elsewhere earlier (by simp [member])

/-- An object is the latest one made at an id since the last reset, and these events followed. -/
def LatestAt
    (history : List Event)
    (id : ObjectId)
    (object : Object)
    (after : List Event) : Prop :=
  ∃ before, history = before ++ .created object :: after ∧ object.id = id ∧
    (∀ other, .created other ∈ after → other.id ≠ id) ∧ .reset ∉ after

theorem LatestAt.id_eq
    {history : List Event}
    {id : ObjectId}
    {object : Object}
    {after : List Event}
    (latest : LatestAt history id object after) :
    object.id = id := by
  obtain ⟨_, _, atId, _⟩ := latest
  exact atId

/-- One more event follows, which neither makes an object at the id nor resets. -/
theorem LatestAt.concat
    {history : List Event}
    {id : ObjectId}
    {object : Object}
    {after : List Event}
    (latest : LatestAt history id object after)
    {event : Event}
    (notCreated : ∀ other, event = .created other → other.id ≠ id)
    (notReset : event ≠ .reset) :
    LatestAt (history ++ [event]) id object (after ++ [event]) := by
  obtain ⟨before, split, atId, noCreation, noReset⟩ := latest
  refine ⟨before, by simp [split], atId, ?_, ?_⟩
  · intro other member
    rcases List.mem_append.mp member with earlier | last
    · exact noCreation other earlier
    · exact notCreated other (List.mem_singleton.mp last).symm
  · simp [noReset, Ne.symm notReset]

/-- One more event follows, which bears on other ids. -/
theorem LatestAt.concat_of_not_isAbout
    {history : List Event}
    {id : ObjectId}
    {object : Object}
    {after : List Event}
    (latest : LatestAt history id object after)
    {event : Event}
    (elsewhere : ¬event.IsAbout id) :
    LatestAt (history ++ [event]) id object (after ++ [event]) := by
  apply latest.concat
  · rintro other rfl
    exact elsewhere
  · rintro rfl
    exact elsewhere trivial

/-- The history that ends before the last event that followed. -/
theorem LatestAt.of_concat
    {history : List Event}
    {id : ObjectId}
    {object : Object}
    {after : List Event}
    {event : Event}
    (latest : LatestAt history id object (after ++ [event])) :
    ∃ shorter, history = shorter ++ [event] ∧ LatestAt shorter id object after ∧
      (∀ other, event = .created other → other.id ≠ id) ∧ event ≠ .reset := by
  obtain ⟨before, split, atId, noCreation, noReset⟩ := latest
  refine ⟨before ++ .created object :: after, by simp [split], ⟨before, rfl, atId, ?_, ?_⟩, ?_, ?_⟩
  · intro other member
    exact noCreation other (by simp [member])
  · intro member
    exact noReset (by simp [member])
  · rintro other rfl
    exact noCreation other (by simp)
  · rintro rfl
    exact noReset (by simp)

section Reading

variable {history after : List Event} {id : ObjectId} {object : Object} {means : Means}

/-- A live object is the latest one made at its id; no destructor on it followed, and no release. -/
theorem latestAt_of_live
    (live : livesAfter history id = .live object) :
    ∃ after, LatestAt history id object after ∧ (∀ means, .destroyed means object ∉ after) ∧
      .released id ∉ after := by
  induction history using List.reverseRecOn with
  | nil => cases live
  | append_singleton history event inductionHypothesis =>
      rw [livesAfter_concat] at live
      by_cases about : event.IsAbout id
      · cases event with
        | created other =>
            rw [Event.apply, if_pos about.symm] at live
            cases live
            exact ⟨[], ⟨history, rfl, about, by simp, by simp⟩, by simp, by simp⟩
        | destroyed means other =>
            rw [Event.apply, if_pos about.symm] at live
            cases live
        | released freed =>
            rw [Event.apply, if_pos about.symm] at live
            cases live
        | reset => cases live
      · rw [Event.apply_of_not_isAbout about] at live
        obtain ⟨after, latest, noDestructor, noRelease⟩ := inductionHypothesis live
        refine ⟨after ++ [event], latest.concat_of_not_isAbout about, ?_, ?_⟩
        · intro means member
          rcases List.mem_append.mp member with earlier | last
          · exact noDestructor means earlier
          · rw [← List.mem_singleton.mp last] at about
            exact about latest.id_eq
        · intro member
          rcases List.mem_append.mp member with earlier | last
          · exact noRelease earlier
          · rw [← List.mem_singleton.mp last] at about
            exact about rfl

/-- The latest object made at an id, with no destructor on it since, is live. -/
theorem live_of_latestAt
    (chronicle : Chronicle history)
    (latest : LatestAt history id object after)
    (noDestructor : ∀ means, .destroyed means object ∉ after) :
    livesAfter history id = .live object := by
  induction after using List.reverseRecOn generalizing history with
  | nil =>
      obtain ⟨before, rfl, atId, -⟩ := latest
      rw [livesAfter_concat, Event.apply, if_pos atId.symm]
  | append_singleton after event inductionHypothesis =>
      obtain ⟨shorter, rfl, latest, notCreated, notReset⟩ := latest.of_concat
      obtain ⟨chronicle, fits⟩ := chronicle_concat_iff.mp chronicle
      have live := inductionHypothesis chronicle latest
        (fun means member => noDestructor means (by simp [member]))
      rw [livesAfter_concat]
      by_cases about : event.IsAbout id
      · cases event with
        | created other => exact absurd about (notCreated other rfl)
        | destroyed means other =>
            have otherLive : livesAfter shorter id = .live other := about ▸ fits
            rw [live] at otherLive
            cases otherLive
            exact absurd (by simp) (noDestructor means)
        | released freed =>
            obtain ⟨means, other, gone⟩ := fits
            have gone : livesAfter shorter id = .destroyed means other := about ▸ gone
            rw [live] at gone
            cases gone
        | reset => exact absurd rfl notReset
      · rw [Event.apply_of_not_isAbout about, live]

/-- A destroyed object is the latest one made at its id; the destructor followed, and no release. -/
theorem latestAt_of_destroyed
    (chronicle : Chronicle history)
    (gone : livesAfter history id = .destroyed means object) :
    ∃ after, LatestAt history id object after ∧ .destroyed means object ∈ after ∧
      .released id ∉ after := by
  induction history using List.reverseRecOn with
  | nil => cases gone
  | append_singleton history event inductionHypothesis =>
      obtain ⟨chronicle, fits⟩ := chronicle_concat_iff.mp chronicle
      rw [livesAfter_concat] at gone
      by_cases about : event.IsAbout id
      · cases event with
        | created other =>
            rw [Event.apply, if_pos about.symm] at gone
            cases gone
        | destroyed passed other =>
            rw [Event.apply, if_pos about.symm] at gone
            cases gone
            have live : livesAfter history id = .live object := about ▸ fits
            obtain ⟨after, latest, -, noRelease⟩ := latestAt_of_live live
            refine ⟨after ++ [Event.destroyed means object], latest.concat (by simp) (by simp),
              by simp, by simpa using noRelease⟩
        | released freed =>
            rw [Event.apply, if_pos about.symm] at gone
            cases gone
        | reset => cases gone
      · rw [Event.apply_of_not_isAbout about] at gone
        obtain ⟨after, latest, destructor, noRelease⟩ := inductionHypothesis chronicle gone
        refine ⟨after ++ [event], latest.concat_of_not_isAbout about, by simp [destructor], ?_⟩
        intro member
        rcases List.mem_append.mp member with earlier | last
        · exact noRelease earlier
        · rw [← List.mem_singleton.mp last] at about
          exact about rfl

/-- The latest object made at an id, with a destructor on it and no release since, is destroyed. -/
theorem destroyed_of_latestAt
    (chronicle : Chronicle history)
    (latest : LatestAt history id object after)
    (destructor : .destroyed means object ∈ after)
    (noRelease : .released id ∉ after) :
    livesAfter history id = .destroyed means object := by
  induction after using List.reverseRecOn generalizing history means with
  | nil => cases destructor
  | append_singleton after event inductionHypothesis =>
      obtain ⟨shorter, rfl, latest, notCreated, notReset⟩ := latest.of_concat
      obtain ⟨chronicle, fits⟩ := chronicle_concat_iff.mp chronicle
      have noEarlierRelease : .released id ∉ after := fun member => noRelease (by simp [member])
      rw [livesAfter_concat]
      by_cases earlier : ∃ passed, .destroyed passed object ∈ after
      · obtain ⟨passed, member⟩ := earlier
        have gone := inductionHypothesis chronicle latest member noEarlierRelease
        -- No second destructor can pass, so the one that did is the one given.
        have notAbout : ¬event.IsAbout id := by
          intro about
          cases event with
          | created other => exact notCreated other rfl about
          | destroyed again other =>
              have live : livesAfter shorter id = .live other := about ▸ fits
              rw [gone] at live
              cases live
          | released freed =>
              obtain rfl : freed = id := about
              exact noRelease (by simp)
          | reset => exact notReset rfl
        have isEarlier : .destroyed means object ∈ after := by
          rcases List.mem_append.mp destructor with found | last
          · exact found
          · rw [← List.mem_singleton.mp last] at notAbout
            exact absurd latest.id_eq notAbout
        rw [Event.apply_of_not_isAbout notAbout]
        exact inductionHypothesis chronicle latest isEarlier noEarlierRelease
      · have isLast : .destroyed means object = event := by
          rcases List.mem_append.mp destructor with found | last
          · exact absurd ⟨means, found⟩ earlier
          · exact List.mem_singleton.mp last
        rw [← isLast, Event.apply, if_pos latest.id_eq.symm]

end Reading

end Wayland.Session
