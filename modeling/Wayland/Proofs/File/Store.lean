import Mathlib.Tactic.ByContra
import Mathlib.Tactic.SplitIfs
import Wayland.File.Store
import Wayland.Proofs.File.Path

/-!
Contract: what changes on a disk when files are written.

Owns:
- that a path leads to the same place as long as directories stay;
- that making directories changes nothing that was there, and writing changes one place;
- that different plain paths below one directory lead to different places;
- what can be read after a write.

Does not own: when an operation succeeds.
-/

namespace Wayland.File.Store

open Wayland.Text (Bytes splitChars splitChars_append)
open Wayland.File.Path (IsName IsPlainPath nested lead isAbsolute join)

variable {store next : Store}

/-- Directories stay directories. -/
structure Grows
    (store next : Store) : Prop where
  workingDirectory : next.workingDirectory = store.workingDirectory
  directory : ∀ place, store.entryAt place = some .directory → next.entryAt place = some .directory

/-- All that is there stays. -/
structure Extends
    (store next : Store) : Prop where
  workingDirectory : next.workingDirectory = store.workingDirectory
  entry : ∀ place entry, store.entryAt place = some entry → next.entryAt place = some entry

namespace Extends

theorem refl
    (store : Store) :
    Extends store store :=
  ⟨rfl, fun _ _ found => found⟩

theorem trans
    {last : Store}
    (first : Extends store next)
    (second : Extends next last) :
    Extends store last where
  workingDirectory := second.workingDirectory.trans first.workingDirectory
  entry place entry found := second.entry place entry (first.entry place entry found)

theorem grows
    (extended : Extends store next) :
    Grows store next :=
  ⟨extended.workingDirectory, fun place found => extended.entry place .directory found⟩

end Extends

/-! ## Places -/

def stepFrom
    (start : Place)
    (name : String) :
    Except Reason Place :=
  if name.isEmpty || name == "." then .ok start
  else if name == ".." then .ok start.dropLast
  else if maxNameBytes < name.utf8ByteSize then .error .nameTooLong
  else .ok (start ++ [name])

theorem follow_cons
    {start : Place}
    (isDirectory : store.entryAt start = some .directory)
    (name : String)
    (rest : List String) :
    store.follow start (name :: rest) =
      (stepFrom start name).bind fun middle => store.follow middle rest := by
  simp only [follow, stepFrom, isDirectory]
  split_ifs <;> rfl

theorem follow_cons_error
    {start : Place}
    (noDirectory : store.entryAt start ≠ some .directory)
    (name : String)
    (rest : List String) :
    ∃ reason, store.follow start (name :: rest) = .error reason := by
  unfold follow
  split
  · exact ⟨_, rfl⟩
  · exact ⟨_, rfl⟩
  · exact absurd ‹_› noDirectory

/-- A path that is followed to its end steps down from a directory each time. -/
theorem follow_cons_ok
    {start found : Place}
    {name : String}
    {rest : List String}
    (followed : store.follow start (name :: rest) = .ok found) :
    store.entryAt start = some .directory ∧
      ∃ middle, stepFrom start name = .ok middle ∧ store.follow middle rest = .ok found := by
  by_cases isDirectory : store.entryAt start = some .directory
  · refine ⟨isDirectory, ?_⟩
    rw [follow_cons isDirectory] at followed
    cases stepped : stepFrom start name with
    | error reason => rw [stepped] at followed; cases followed
    | ok middle => exact ⟨middle, rfl, by rwa [stepped] at followed⟩
  · obtain ⟨reason, refused⟩ := follow_cons_error isDirectory name rest
    rw [refused] at followed
    cases followed

theorem follow_of_grows
    (grown : Grows store next)
    {start found : Place}
    {names : List String}
    (followed : store.follow start names = .ok found) :
    next.follow start names = .ok found := by
  induction names generalizing start with
  | nil => exact followed
  | cons name rest inductionHypothesis =>
      obtain ⟨isDirectory, middle, stepped, further⟩ := follow_cons_ok followed
      rw [follow_cons (grown.directory start isDirectory), stepped]
      exact inductionHypothesis further

/-- A path leads to the same place as long as directories stay. -/
theorem place_of_grows
    (grown : Grows store next)
    {path : String}
    {found : Place}
    (placed : store.place path = .ok found) :
    next.place path = .ok found := by
  simp only [place, grown.workingDirectory] at placed ⊢
  split_ifs at placed ⊢ <;> exact follow_of_grows grown placed

theorem follow_append
    {start found : Place}
    {first second : List String}
    (followed : store.follow start (first ++ second) = .ok found) :
    ∃ middle, store.follow start first = .ok middle ∧ store.follow middle second = .ok found := by
  induction first generalizing start with
  | nil => exact ⟨start, rfl, followed⟩
  | cons name rest inductionHypothesis =>
      obtain ⟨isDirectory, middle, stepped, further⟩ := follow_cons_ok followed
      obtain ⟨last, before, after⟩ := inductionHypothesis further
      refine ⟨last, ?_, after⟩
      rw [follow_cons isDirectory, stepped]
      exact before

theorem stepFrom_name
    {name : String}
    (isName : IsName name)
    {start found : Place}
    (stepped : stepFrom start name = .ok found) :
    found = start ++ [name] := by
  unfold stepFrom at stepped
  simp only [String.isEmpty_iff, beq_iff_eq, Bool.or_eq_true, isName.ne_empty, isName.ne_dot,
    isName.ne_dots, or_self, if_false] at stepped
  split at stepped
  · cases stepped
  · cases stepped
    rfl

/-- Names lead down from where they start. -/
theorem follow_names
    {names : List String}
    (areNames : ∀ name ∈ names, IsName name)
    {start found : Place}
    (followed : store.follow start names = .ok found) :
    found = start ++ names := by
  induction names generalizing start with
  | nil =>
      cases followed
      simp
  | cons name rest inductionHypothesis =>
      have restNames : ∀ name ∈ rest, IsName name := fun name isMember =>
        areNames name (List.mem_cons_of_mem _ isMember)
      obtain ⟨-, middle, stepped, further⟩ := follow_cons_ok followed
      rw [inductionHypothesis restNames further, stepFrom_name (areNames name (by simp)) stepped]
      simp

/-- The components of joined names: first those of the directory, then the names. -/
theorem exists_components
    (directory : String) :
    ∃ components, ∀ names : List String, (∀ name ∈ names, IsName name) → names ≠ [] →
      (splitChars '/' (lead directory ++ nested names).toList).map String.ofList =
        components ++ names := by
  have plain (names : List String) : names.map (String.ofList ∘ String.toList) = names := by simp
  obtain isEmpty | ⟨rest, endsInSlash⟩ := Path.lead_cases directory
  · refine ⟨[], fun names areNames someLeft => ?_⟩
    rw [isEmpty, String.empty_append, Path.splitChars_nested areNames someLeft, List.map_map, plain,
      List.nil_append]
  · refine ⟨(splitChars '/' rest.toList).map String.ofList, fun names areNames someLeft => ?_⟩
    have cut :
        splitChars '/' (lead directory ++ nested names).toList =
          splitChars '/' rest.toList ++ names.map String.toList := by
      rw [endsInSlash, ← Path.splitChars_nested areNames someLeft, ← splitChars_append]
      simp
    rw [cut, List.map_append, List.map_map, plain]

/-- Whether joined names start at the root is up to the directory. -/
theorem exists_isAbsolute
    (directory : String) :
    ∃ rooted, ∀ names : List String, (∀ name ∈ names, IsName name) → names ≠ [] →
      isAbsolute (lead directory ++ nested names) = rooted := by
  obtain isEmpty | ⟨rest, endsInSlash⟩ := Path.lead_cases directory
  · refine ⟨false, fun names areNames someLeft => ?_⟩
    obtain ⟨first, rest, chars, notSlash⟩ := Path.nested_exists_cons areNames someLeft
    simpa [isAbsolute, isEmpty, chars] using notSlash
  · refine ⟨isAbsolute (lead directory), fun names areNames someLeft => ?_⟩
    cases chars : rest.toList with
    | nil => simp [isAbsolute, endsInSlash, chars]
    | cons first others => simp [isAbsolute, endsInSlash, chars]

/-- Joined names lead to the names below one place. -/
theorem exists_place_joined
    (store : Store)
    (directory : String) :
    ∃ start, ∀ names : List String, (∀ name ∈ names, IsName name) → names ≠ [] →
      ∀ found, store.place (lead directory ++ nested names) = .ok found →
        found = start ++ names := by
  obtain ⟨components, cut⟩ := exists_components directory
  obtain ⟨rooted, sameRoot⟩ := exists_isAbsolute directory
  let root : Place := if rooted then [] else store.workingDirectory
  refine ⟨(store.follow root components).toOption.getD [],
    fun names areNames someLeft found placed => ?_⟩
  have startsThere := sameRoot names areNames someLeft
  unfold isAbsolute at startsThere
  simp only [place, startsThere, cut names areNames someLeft] at placed
  split_ifs at placed
  all_goals
    obtain ⟨start, followed, further⟩ := follow_append placed
    have here : (store.follow root components).toOption.getD [] = start := by
      simp_all [root, Except.toOption]
    rw [here]
    exact follow_names areNames further

/-- Different plain paths below one directory lead to different places. -/
theorem place_injective
    {directory left right : String}
    (leftPlain : IsPlainPath left)
    (rightPlain : IsPlainPath right)
    {found : Place}
    (leftPlaced : store.place (join [directory, left]) = .ok found)
    (rightPlaced : store.place (join [directory, right]) = .ok found) :
    left = right := by
  rw [Path.join_plain leftPlain] at leftPlaced
  rw [Path.join_plain rightPlain] at rightPlaced
  obtain ⟨leftNames, leftSome, areLeft, rfl⟩ := leftPlain
  obtain ⟨rightNames, rightSome, areRight, rfl⟩ := rightPlain
  obtain ⟨start, below⟩ := exists_place_joined store directory
  have same := (below leftNames areLeft leftSome found leftPlaced).symm.trans
    (below rightNames areRight rightSome found rightPlaced)
  rw [List.append_cancel_left same]

/-! ## Changes -/

theorem lookup_filter_ne
    {place other : Place}
    (different : other ≠ place)
    (entries : List (Place × Entry)) :
    (entries.filter (·.1 != place)).lookup other = entries.lookup other := by
  induction entries with
  | nil => rfl
  | cons first rest inductionHypothesis =>
      obtain ⟨key, entry⟩ := first
      by_cases isPlace : key = place
      · have notPlace : (other == place) = false := by simpa using different
        simp [List.lookup_cons, isPlace, notPlace, inductionHypothesis]
      · simp [List.lookup_cons, isPlace, inductionHypothesis]

/-- Putting something where no directory is changes that place only. -/
theorem entryAt_put
    {place : Place}
    {entry : Entry}
    (noDirectory : store.entryAt place ≠ some .directory)
    (other : Place) :
    (store.put place entry).entryAt other =
      if other = place then some entry else store.entryAt other := by
  have notAbove : place.isPrefixOf store.workingDirectory = false := by
    by_contra isAbove
    exact noDirectory (by simp [entryAt, isAbove])
  by_cases isPlace : other = place
  · subst isPlace
    simp [entryAt, put, notAbove]
  · have differs : (other == place) = false := by simpa using isPlace
    simp [entryAt, put, isPlace, List.lookup_cons, differs, lookup_filter_ne isPlace]

theorem makeDirectory_extends
    {path : String}
    (made : store.makeDirectory path = .ok next) :
    Extends store next := by
  unfold makeDirectory at made
  split at made
  · cases made
  · rename_i place _
    split at made
    · cases made
    · rename_i vacant
      split at made
      · cases made
        refine ⟨rfl, fun other entry found => ?_⟩
        rw [entryAt_put (by simp [vacant])]
        have differs : other ≠ place := by
          rintro rfl
          simp [vacant] at found
        rw [if_neg differs, found]
      · cases made
      · cases made

theorem makeAll_extends
    (store : Store)
    (paths : List String) :
    Extends store (store.makeAll paths).1 := by
  induction paths generalizing store with
  | nil => exact .refl store
  | cons path rest inductionHypothesis =>
      unfold makeAll
      split
      · exact .refl store
      · rename_i made
        exact (makeDirectory_extends made).trans (inductionHypothesis _)

/-- Making directories changes nothing that was there. -/
theorem makeDirectories_extends
    (store : Store)
    (path : String) :
    Extends store (store.makeDirectories path).1 := by
  unfold makeDirectories
  split
  · exact .refl store
  · exact makeAll_extends store _

/-- A successful write puts a file where no directory is. -/
theorem write_eq_put
    {path : String}
    {content : Bytes}
    (wrote : store.write path content = (next, none)) :
    ∃ place, store.place path = .ok place ∧ store.entryAt place ≠ some .directory ∧
      next = store.put place (.file content) := by
  unfold write at wrote
  simp only at wrote
  split at wrote
  · cases wrote
  · rename_i place placed
    refine ⟨place, placed, ?_⟩
    split at wrote
    · cases wrote
    · rename_i isFile
      cases wrote
      exact ⟨by simp [isFile], rfl⟩
    · rename_i vacant
      split at wrote
      · split at wrote
        · cases wrote
        · cases wrote
          exact ⟨by simp [vacant], rfl⟩
      · cases wrote
      · cases wrote

theorem put_grows
    {place : Place}
    {entry : Entry}
    (noDirectory : store.entryAt place ≠ some .directory) :
    Grows store (store.put place entry) := by
  refine ⟨rfl, fun other found => ?_⟩
  have differs : other ≠ place := by
    rintro rfl
    exact noDirectory found
  rw [entryAt_put noDirectory, if_neg differs, found]

/-! ## Reading -/

theorem read_eq_ok_iff
    {path : String}
    {content : Bytes} :
    store.read path = .ok content ↔
      ∃ place, store.place path = .ok place ∧ store.entryAt place = some (.file content) := by
  unfold read entry
  cases placed : store.place path with
  | error reason => simp
  | ok place =>
      cases found : store.entryAt place with
      | none => simp [found]
      | some entry => cases entry <;> simp [found]

theorem read_of_extends
    (extended : Extends store next)
    {path : String}
    {content : Bytes}
    (stored : store.read path = .ok content) :
    next.read path = .ok content := by
  obtain ⟨place, placed, found⟩ := read_eq_ok_iff.mp stored
  exact read_eq_ok_iff.mpr
    ⟨place, place_of_grows extended.grows placed, extended.entry place _ found⟩

/-- What was written can be read. -/
theorem read_of_write
    {path : String}
    {content : Bytes}
    (wrote : store.write path content = (next, none)) :
    next.read path = .ok content := by
  obtain ⟨place, placed, noDirectory, rfl⟩ := write_eq_put wrote
  refine read_eq_ok_iff.mpr ⟨place, place_of_grows (put_grows noDirectory) placed, ?_⟩
  rw [entryAt_put noDirectory, if_pos rfl]

/-- A write leaves the files at other plain paths below the directory alone. -/
theorem read_of_write_other
    {directory left right : String}
    (leftPlain : IsPlainPath left)
    (rightPlain : IsPlainPath right)
    (different : left ≠ right)
    {content other : Bytes}
    (stored : store.read (join [directory, left]) = .ok content)
    (wrote : store.write (join [directory, right]) other = (next, none)) :
    next.read (join [directory, left]) = .ok content := by
  obtain ⟨place, placed, found⟩ := read_eq_ok_iff.mp stored
  obtain ⟨written, rightPlaced, noDirectory, rfl⟩ := write_eq_put wrote
  refine read_eq_ok_iff.mpr ⟨place, place_of_grows (put_grows noDirectory) placed, ?_⟩
  have differs : place ≠ written := by
    rintro rfl
    exact different (place_injective leftPlain rightPlain placed rightPlaced)
  rw [entryAt_put noDirectory, if_neg differs, found]

/-! ## A store as a disk -/

theorem run_bind
    {α β : Type}
    (first : StateM Store α)
    (further : α → StateM Store β) :
    (first >>= further).run store = (further (first.run store).1).run (first.run store).2 :=
  rfl

theorem run_makeDirectories
    (path : String) :
    (disk.makeDirectories path).run store =
      (outcome (store.makeDirectories path).2, (store.makeDirectories path).1) :=
  rfl

theorem run_write
    (path : String)
    (content : Bytes) :
    (disk.write path content).run store =
      (outcome (store.write path content).2, (store.write path content).1) :=
  rfl

end Wayland.File.Store
