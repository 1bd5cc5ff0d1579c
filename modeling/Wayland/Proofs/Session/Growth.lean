import Wayland.Proofs.Session.Table

/-!
Contract: the objects that one message makes.

Owns:
- runs of new objects in one range, one after the other at ids in sequence;
- which ids such a run takes, and how far the range reaches afterwards;
- taking a run back, the latest object first: every status is as before, and the range reaches no
  farther than before.

Does not own: how the ids of a run are chosen.
-/

namespace Wayland.Session

open Wayland.Wire

namespace Table

/-- New objects of a side, made one after the other from a table on. -/
inductive Growth
    (session : Nat)
    (side : Side)
    (start : Table) :
    List Object → Table → Prop where
  | start : Growth session side start [] start
  | step {objects : List Object} {table : Table} {object : Object} {next : Table} :
      Growth session side start objects table →
        GainsNext session side table object next →
          Growth session side start (objects ++ [object]) next

/-- How far a range reaches after ids were taken. -/
def extentAfter
    (side : Side)
    (extent : Nat)
    (ids : List ObjectId) :
    Nat :=
  ids.foldl (fun reached id => max reached ((IdRange.ofSide side).index id + 1)) extent

/-- No id skips any that was not reached before. -/
def InSequence
    (side : Side) :
    Nat → List ObjectId → Prop
  | _, [] => True
  | extent, id :: ids =>
      (IdRange.ofSide side).index id ≤ extent ∧
        InSequence side (max extent ((IdRange.ofSide side).index id + 1)) ids

theorem inSequence_append
    {side : Side}
    {extent : Nat}
    {left right : List ObjectId} :
    InSequence side extent (left ++ right) ↔
      InSequence side extent left ∧ InSequence side (extentAfter side extent left) right := by
  induction left generalizing extent with
  | nil => simp [InSequence, extentAfter]
  | cons id ids inductionHypothesis =>
      simp only [List.cons_append, InSequence, inductionHypothesis, and_assoc]
      rfl

theorem extentAfter_append
    (side : Side)
    (extent : Nat)
    (left right : List ObjectId) :
    extentAfter side extent (left ++ right) =
      extentAfter side (extentAfter side extent left) right :=
  List.foldl_append

/-- A range that reaches farther accepts no fewer ids. -/
theorem InSequence.mono
    {side : Side}
    {extent farther : Nat}
    {ids : List ObjectId}
    (inSequence : InSequence side extent ids)
    (le : extent ≤ farther) :
    InSequence side farther ids := by
  induction ids generalizing extent farther with
  | nil => trivial
  | cons id ids inductionHypothesis =>
      exact ⟨Nat.le_trans inSequence.1 le, inductionHypothesis inSequence.2 (by omega)⟩

theorem extentAfter_mono
    {side : Side}
    {extent farther : Nat}
    (le : extent ≤ farther)
    (ids : List ObjectId) :
    extentAfter side extent ids ≤ extentAfter side farther ids := by
  induction ids generalizing extent farther with
  | nil => exact le
  | cons id ids inductionHypothesis =>
      simp only [extentAfter, List.foldl_cons]
      exact inductionHypothesis (by omega)

/-- The objects of a run, the latest first, over a range that reached `base` before: each stands in a
cell below `base`, or in the last cell of the range, which was then used for the first time. -/
inductive Stacked
    (side : Side)
    (base : Nat) :
    List Object → Nat → Prop where
  | bottom {extent : Nat} : extent ≤ base → Stacked side base [] extent
  | reused {object : Object} {objects : List Object} {extent : Nat} :
      (IdRange.ofSide side).index object.id < base →
        Stacked side base objects extent → Stacked side base (object :: objects) extent
  | fresh {object : Object} {objects : List Object} {extent : Nat} :
      base ≤ extent → (IdRange.ofSide side).index object.id = extent → object.generation = 1 →
        Stacked side base objects extent → Stacked side base (object :: objects) (extent + 1)

/-- Where a range reaches no farther than before, every object stands below. -/
theorem Stacked.lower
    {side : Side}
    {base extent lower : Nat}
    {objects : List Object}
    (stacked : Stacked side base objects extent)
    (extentLe : extent ≤ base)
    (lowerLe : lower ≤ base) :
    Stacked side base objects lower := by
  induction stacked with
  | bottom _ => exact .bottom lowerLe
  | reused below _ inductionHypothesis => exact .reused below (inductionHypothesis extentLe)
  | fresh past _ _ _ _ => omega

/-- Giving back the latest object leaves the others stacked. -/
theorem Stacked.loses
    {session : Nat}
    {side : Side}
    {base : Nat}
    {object : Object}
    {objects : List Object}
    {table next : Table}
    (stacked : Stacked side base (object :: objects) (table.extent side))
    (loses : Loses session side table object next) :
    Stacked side base objects (next.extent side) := by
  have extentEq := loses.extent_eq
  generalize table.extent side = extent at stacked extentEq
  cases stacked with
  | reused below rest =>
      split at extentEq
      · rename_i atEnd
        rw [extentEq]
        exact rest.lower (by omega) (by omega)
      · rw [extentEq]
        exact rest
  | fresh past position first rest =>
      rw [if_pos ⟨by omega, first⟩, position] at extentEq
      rw [extentEq]
      exact rest

section Run

variable {session : Nat} {side : Side} {start table : Table} {objects : List Object}

theorem Growth.wellFormed
    (growth : Growth session side start objects table)
    (wellFormed : start.WellFormed session) :
    table.WellFormed session := by
  cases growth with
  | start => exact wellFormed
  | step _ gains => exact gains.wellFormed

theorem Growth.extent_peer
    (growth : Growth session side start objects table) :
    table.extent side.peer = start.extent side.peer := by
  induction growth with
  | start => rfl
  | step _ gains inductionHypothesis => rw [gains.extent_peer, inductionHypothesis]

/-- Every object of a run has an id of the side. -/
theorem Growth.inside
    (growth : Growth session side start objects table) :
    ∀ object ∈ objects, sideOfId? object.id = some side := by
  induction growth with
  | start => simp
  | step _ gains inductionHypothesis =>
      intro object member
      rcases List.mem_append.mp member with earlier | latest
      · exact inductionHypothesis object earlier
      · rw [List.mem_singleton.mp latest]
        exact gains.inside

/-- A run leaves every other id as it was. -/
theorem Growth.status_of_other
    (growth : Growth session side start objects table)
    {id : ObjectId}
    (other : ∀ object ∈ objects, object.id ≠ id) :
    table.status id = start.status id := by
  induction growth with
  | start => rfl
  | @step objects table object next _ gains inductionHypothesis =>
      have different : id ≠ object.id := Ne.symm (other object (by simp))
      rw [gains.status_eq, if_neg different]
      exact inductionHypothesis (fun earlier member => other earlier (by simp [member]))

/-- After a run every object of it is live. -/
theorem Growth.status_of_mem
    (growth : Growth session side start objects table) :
    ∀ object ∈ objects, table.status object.id = .live object := by
  induction growth with
  | start => simp
  | @step objects table object next _ gains inductionHypothesis =>
      intro made member
      rcases List.mem_append.mp member with earlier | latest
      · have live := inductionHypothesis made earlier
        have different : made.id ≠ object.id := by
          intro same
          rw [same, gains.vacant] at live
          cases live
        rw [gains.status_eq, if_neg different, live]
      · rw [List.mem_singleton.mp latest, gains.status_eq, if_pos rfl]

/-- The ids of a run were vacant before it. -/
theorem Growth.vacant
    (growth : Growth session side start objects table) :
    ∀ object ∈ objects, start.status object.id = .vacant := by
  induction growth with
  | start => simp
  | @step objects table object next growth gains inductionHypothesis =>
      intro made member
      rcases List.mem_append.mp member with earlier | latest
      · exact inductionHypothesis made earlier
      · rw [List.mem_singleton.mp latest]
        have different : ∀ earlier ∈ objects, earlier.id ≠ object.id := by
          intro earlier member same
          have live := growth.status_of_mem earlier member
          rw [same, gains.vacant] at live
          cases live
        rw [← growth.status_of_other different]
        exact gains.vacant

/-- What was taken before a run is not made by it. -/
theorem Growth.id_ne
    (growth : Growth session side start objects table)
    {id : ObjectId}
    (taken : start.status id ≠ .vacant) :
    ∀ object ∈ objects, object.id ≠ id := by
  intro object member same
  rw [← same] at taken
  exact taken (growth.vacant object member)

/-- What was live before a run stays live. -/
theorem Growth.status_of_live
    (growth : Growth session side start objects table)
    {id : ObjectId}
    {object : Object}
    (live : start.status id = .live object) :
    table.status id = .live object := by
  rw [growth.status_of_other (growth.id_ne (by simp [live])), live]

/-- The ids of a run are distinct. -/
theorem Growth.nodup
    (growth : Growth session side start objects table) :
    (objects.map Object.id).Nodup := by
  induction growth with
  | start => exact List.nodup_nil
  | @step objects table object next growth gains inductionHypothesis =>
      rw [List.map_append, List.map_cons, List.map_nil]
      refine List.nodup_append.mpr ⟨inductionHypothesis, by simp, ?_⟩
      intro id earlier other latest same
      obtain ⟨made, member, rfl⟩ := List.mem_map.mp earlier
      have live := growth.status_of_mem made member
      rw [same, List.mem_singleton.mp latest, gains.vacant] at live
      cases live

/-- A run takes ids in sequence and reaches as far as they do. -/
theorem Growth.inSequence
    (growth : Growth session side start objects table) :
    InSequence side (start.extent side) (objects.map Object.id) ∧
      table.extent side = extentAfter side (start.extent side) (objects.map Object.id) := by
  induction growth with
  | start => exact ⟨trivial, rfl⟩
  | step growth gains inductionHypothesis =>
      obtain ⟨inSequence, reached⟩ := inductionHypothesis
      simp only [List.map_append, List.map_cons, List.map_nil, inSequence_append,
        extentAfter_append, ← reached]
      exact ⟨⟨inSequence, gains.index_le, trivial⟩, gains.extent_eq⟩

/-- A run never shortens the range, and no cell past the former end is vacant. -/
theorem Growth.filled
    (growth : Growth session side start objects table) :
    start.extent side ≤ table.extent side ∧
      ∀ id, sideOfId? id = some side → start.extent side ≤ (IdRange.ofSide side).index id →
        (IdRange.ofSide side).index id < table.extent side → table.status id ≠ .vacant := by
  induction growth with
  | start => exact ⟨Nat.le_refl _, fun id _ past inside => by omega⟩
  | @step objects table object next growth gains inductionHypothesis =>
      obtain ⟨le, filled⟩ := inductionHypothesis
      refine ⟨by have extentEq := gains.extent_eq; omega, ?_⟩
      intro id inside past reached
      rw [gains.status_eq]
      split
      · simp
      · rename_i different
        apply filled id inside past
        have extentEq := gains.extent_eq
        have atEnd := gains.index_le
        have apart : (IdRange.ofSide side).index id ≠ (IdRange.ofSide side).index object.id :=
          fun same => different (IdRange.index_inj (sideOfId?_eq_some_iff.mp inside)
            (sideOfId?_eq_some_iff.mp gains.inside) same)
        omega

/-- The objects of a run are stacked over the former end of the range. -/
theorem Growth.stacked
    (growth : Growth session side start objects table) :
    Stacked side (start.extent side) objects.reverse (table.extent side) := by
  induction growth with
  | start => exact .bottom (Nat.le_refl _)
  | @step objects table object next growth gains inductionHypothesis =>
      rw [List.reverse_append, List.reverse_singleton, List.singleton_append]
      obtain ⟨le, filled⟩ := growth.filled
      have extentEq := gains.extent_eq
      have atMost := gains.index_le
      by_cases atEnd : (IdRange.ofSide side).index object.id = table.extent side
      · rw [extentEq, atEnd, Nat.max_eq_right (Nat.le_succ _)]
        exact .fresh le atEnd (gains.first atEnd) inductionHypothesis
      · rw [extentEq, Nat.max_eq_left (by omega)]
        refine .reused ?_ inductionHypothesis
        apply Nat.lt_of_not_le
        intro past
        exact filled object.id gains.inside past (by omega) gains.vacant

end Run

/-- What taking objects back leaves. -/
structure Retracts
    (session : Nat)
    (side : Side)
    (table : Table)
    (objects : List Object)
    (base : Nat)
    (next : Table) : Prop where
  status_of_mem : ∀ object ∈ objects, next.status object.id = .vacant
  status_of_other : ∀ id, (∀ object ∈ objects, object.id ≠ id) → next.status id = table.status id
  wellFormed : next.WellFormed session
  extent_le : next.extent side ≤ base
  extent_peer : next.extent side.peer = table.extent side.peer

/-- Live objects that are stacked are taken back, the latest first. -/
theorem retracts_abandon
    {session : Nat}
    {side : Side}
    {table : Table}
    {objects : List Object}
    {base : Nat}
    (wellFormed : table.WellFormed session)
    (inside : ∀ object ∈ objects, sideOfId? object.id = some side)
    (live : ∀ object ∈ objects, table.status object.id = .live object)
    (nodup : (objects.map Object.id).Nodup)
    (stacked : Stacked side base objects (table.extent side)) :
    Retracts session side table objects base (objects.foldl abandon table) := by
  induction objects generalizing table with
  | nil =>
      cases stacked with
      | bottom le => exact ⟨by simp, fun _ _ => rfl, wellFormed, le, rfl⟩
  | cons object objects inductionHypothesis =>
      have loses := loses_abandon wellFormed (inside object (by simp)) (live object (by simp))
      rw [List.map_cons, List.nodup_cons] at nodup
      have apart : ∀ earlier ∈ objects, earlier.id ≠ object.id := by
        intro earlier member same
        exact nodup.1 (List.mem_map.mpr ⟨earlier, member, same⟩)
      have retracts := inductionHypothesis loses.wellFormed
        (fun earlier member => inside earlier (by simp [member]))
        (fun earlier member => by
          rw [loses.status_eq, if_neg (apart earlier member)]
          exact live earlier (by simp [member]))
        nodup.2 (stacked.loses loses)
      rw [List.foldl_cons]
      refine ⟨?_, ?_, retracts.wellFormed, retracts.extent_le,
        retracts.extent_peer.trans loses.extent_peer⟩
      · intro made member
        rcases List.mem_cons.mp member with isLatest | earlier
        · rw [isLatest, retracts.status_of_other _ apart, loses.status_eq, if_pos rfl]
        · exact retracts.status_of_mem made earlier
      · intro id other
        have different : id ≠ object.id := Ne.symm (other object (by simp))
        rw [retracts.status_of_other id (fun earlier member => other earlier (by simp [member])),
          loses.status_eq, if_neg different]

/-- A run that is taken back leaves every status as it was before, and the range reaches no farther
than before. -/
theorem Growth.retract
    {session : Nat}
    {side : Side}
    {start table : Table}
    {objects : List Object}
    (growth : Growth session side start objects table)
    (wellFormed : start.WellFormed session) :
    (objects.reverse.foldl abandon table).WellFormed session ∧
      (∀ id, (objects.reverse.foldl abandon table).status id = start.status id) ∧
        (objects.reverse.foldl abandon table).extent side ≤ start.extent side ∧
          (objects.reverse.foldl abandon table).extent side.peer = start.extent side.peer := by
  have nodupReverse : (objects.reverse.map Object.id).Nodup := by
    rw [List.map_reverse]
    exact List.pairwise_reverse.mpr (growth.nodup.imp Ne.symm)
  have retracts := retracts_abandon (growth.wellFormed wellFormed)
    (fun object member => growth.inside object (List.mem_reverse.mp member))
    (fun object member => growth.status_of_mem object (List.mem_reverse.mp member))
    nodupReverse growth.stacked
  refine ⟨retracts.wellFormed, ?_, retracts.extent_le,
    retracts.extent_peer.trans growth.extent_peer⟩
  intro id
  by_cases made : ∃ object ∈ objects, object.id = id
  · obtain ⟨object, member, rfl⟩ := made
    rw [retracts.status_of_mem object (List.mem_reverse.mpr member), growth.vacant object member]
  · have other : ∀ object ∈ objects, object.id ≠ id :=
      fun object member same => made ⟨object, member, same⟩
    rw [retracts.status_of_other id (fun object member => other object (List.mem_reverse.mp member)),
      growth.status_of_other other]

end Table

end Wayland.Session
