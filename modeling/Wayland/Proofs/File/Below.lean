import Wayland.Proofs.File.Store

/-!
Contract: writing below a directory changes nothing elsewhere.

Owns:
- the place that a path means by its text alone, which is where it leads if it leads anywhere;
- that cleaning a path does not change what it means;
- that names joined to a directory mean places below it, and that what has to be made for them is
  below the directory or on the way to it.

Does not own: links, of which there are none.
-/

namespace Wayland.File

open Wayland.File.Path (IsName cleanStep isAbsolute nested)
open Wayland.Text

/-! ## Meant places -/

def Path.steps
    (path : String) :
    List String :=
  splitText '/' path

theorem Path.steps_eq
    (path : String) :
    Path.steps path = (splitChars '/' path.toList).map String.ofList :=
  rfl

/-- The place to which a name leads, if all names are short enough. -/
def turn
    (place : Place)
    (name : String) :
    Place :=
  if name.isEmpty || name == "." then place
  else if name == ".." then place.dropLast
  else place ++ [name]

namespace Store

/-- The place where the names of a path are followed from. -/
def start
    (store : Store)
    (path : String) :
    Place :=
  if isAbsolute path then [] else store.workingDirectory

def meant
    (store : Store)
    (path : String) :
    Place :=
  (Path.steps path).foldl turn (store.start path)

end Store

section Turns

variable {place found : Place} {name : String}

theorem turn_name
    (isName : IsName name)
    (place : Place) :
    turn place name = place ++ [name] := by
  unfold turn
  simp [isName.ne_empty, isName.ne_dot, isName.ne_dots]

theorem foldl_turn_names
    {names : List String}
    (areNames : ∀ name ∈ names, IsName name)
    (place : Place) :
    names.foldl turn place = place ++ names := by
  induction names generalizing place with
  | nil => simp
  | cons name rest inductionHypothesis =>
      rw [List.forall_mem_cons] at areNames
      rw [List.foldl_cons, turn_name areNames.1, inductionHypothesis areNames.2]
      simp

theorem foldl_turn_idle
    {names : List String}
    (idle : ∀ name ∈ names, name = "" ∨ name = ".")
    (place : Place) :
    names.foldl turn place = place := by
  induction names with
  | nil => rfl
  | cons name rest inductionHypothesis =>
      rw [List.forall_mem_cons] at idle
      have stays : turn place name = place := by
        rcases idle.1 with rfl | rfl
        · rfl
        · rfl
      rw [List.foldl_cons, stays]
      exact inductionHypothesis idle.2

theorem Store.stepFrom_turn
    (stepped : Store.stepFrom place name = .ok found) :
    found = turn place name := by
  unfold Store.stepFrom at stepped
  unfold turn
  split_ifs at stepped ⊢
  · exact (Except.ok.inj stepped).symm
  · exact (Except.ok.inj stepped).symm
  · exact (Except.ok.inj stepped).symm

end Turns

namespace Store

variable {store next : Store} {path directory : String} {place found : Place}

theorem follow_eq
    {names : List String}
    (followed : store.follow place names = .ok found) :
    found = names.foldl turn place := by
  induction names generalizing place with
  | nil => exact (Except.ok.inj followed).symm
  | cons name rest inductionHypothesis =>
      obtain ⟨-, middle, stepped, further⟩ := follow_cons_ok followed
      rw [inductionHypothesis further, stepFrom_turn stepped]
      rfl

/-- A path that leads somewhere leads to the place that it means. -/
theorem place_eq_meant
    (placed : store.place path = .ok found) :
    found = store.meant path := by
  simp only [Store.place] at placed
  split_ifs at placed with _ _ _ rooted
  · rw [follow_eq placed]
    simp only [meant, start, isAbsolute, Path.steps_eq, rooted, if_true]
  · rw [follow_eq placed]
    simp only [meant, start, isAbsolute, Path.steps_eq, rooted, if_false, Bool.false_eq_true]

end Store

/-! ## Cleaned paths -/

namespace Path

/-- What cleaning keeps, latest first: names, and under them the ways up that nothing cancels.
Nothing is above the root. -/
inductive Stack (rooted : Bool) : List (List Char) → Prop where
  | rising (count : Nat)
      (grounded : rooted = true → count = 0) :
      Stack rooted (List.replicate count ['.', '.'])
  | name {component : List Char} {kept : List (List Char)}
      (isName : IsName (String.ofList component))
      (stack : Stack rooted kept) :
      Stack rooted (component :: kept)

/-- The place to which the components lead that cleaning has kept. -/
def standing
    (place : Place)
    (kept : List (List Char)) :
    Place :=
  kept.foldr (fun component place => turn place (String.ofList component)) place

variable {rooted : Bool} {kept : List (List Char)} {component : List Char} {place : Place}

theorem standing_eq_foldl
    (place : Place)
    (kept : List (List Char)) :
    (kept.reverse.map String.ofList).foldl turn place = standing place kept := by
  rw [List.foldl_map, List.foldl_reverse]
  rfl

namespace Stack

theorem whole
    (stack : Stack rooted kept) :
    ∀ component ∈ kept, component ≠ [] ∧ '/' ∉ component := by
  induction stack with
  | rising count _ =>
      intro component isMember
      rw [List.eq_of_mem_replicate isMember]
      decide
  | name isName _ inductionHypothesis =>
      rw [List.forall_mem_cons]
      refine ⟨⟨?_, by simpa using isName.whole⟩, inductionHypothesis⟩
      rintro rfl
      exact isName.ne_empty rfl

/-- Cleaning one more component keeps the shape, and keeps up with the place. -/
theorem cleanStep
    (stack : Stack rooted kept)
    (whole : '/' ∉ component) :
    Stack rooted (cleanStep rooted kept component) ∧
      ∀ place, (rooted = true → place = []) →
        standing place (Path.cleanStep rooted kept component) =
          turn (standing place kept) (String.ofList component) := by
  by_cases isEmpty : component = []
  · subst isEmpty
    exact ⟨stack, fun _ _ => rfl⟩
  by_cases isDot : component = ['.']
  · subst isDot
    exact ⟨stack, fun _ _ => rfl⟩
  by_cases isDots : component = ['.', '.']
  · subst isDots
    cases stack with
    | rising count grounded =>
        cases count with
        | zero =>
            cases rooted with
            | false => exact ⟨.rising 1 (by simp), fun _ _ => rfl⟩
            | true =>
                refine ⟨.rising 0 (fun _ => rfl), fun place atRoot => ?_⟩
                rw [atRoot rfl]
                rfl
        | succ count =>
            have notRooted : ¬rooted = true := fun isRooted => by cases grounded isRooted
            exact ⟨.rising (count + 2) (fun isRooted => absurd isRooted notRooted), fun _ _ => rfl⟩
    | @name last others isName stack =>
        have notDots : last ≠ ['.', '.'] := by
          rintro rfl
          exact isName.ne_dots rfl
        have dropped : Path.cleanStep rooted (last :: others) ['.', '.'] = others := by
          simp [Path.cleanStep, notDots]
        rw [dropped]
        refine ⟨stack, fun place _ => ?_⟩
        show _ = turn (turn (standing place others) (String.ofList last)) ".."
        rw [turn_name isName]
        simp [turn]
  · have isName : IsName (String.ofList component) := by
      refine ⟨?_, ?_, ?_, by simpa using whole⟩
      · simpa [← String.toList_inj] using isEmpty
      · simpa [← String.toList_inj] using isDot
      · simpa [← String.toList_inj] using isDots
    have pushed : Path.cleanStep rooted kept component = component :: kept := by
      simp [Path.cleanStep, isEmpty, isDot, isDots]
    rw [pushed]
    exact ⟨.name isName stack, fun _ _ => rfl⟩

/-- What was kept earlier leads up from the start, or part of the way. -/
theorem standing_drop
    (stack : Stack rooted kept)
    (place : Place)
    (count : Nat) :
    standing place (kept.drop count) <+: place ∨
      standing place (kept.drop count) <+: standing place kept := by
  induction stack generalizing count with
  | rising height _ =>
      left
      rw [List.drop_replicate]
      induction height - count with
      | zero => exact List.prefix_rfl
      | succ _ inductionHypothesis => exact (List.dropLast_prefix _).trans inductionHypothesis
  | @name component others isName _ inductionHypothesis =>
      cases count with
      | zero => exact .inr List.prefix_rfl
      | succ count =>
          have further : standing place (component :: others) =
              standing place others ++ [String.ofList component] := turn_name isName _
          rw [further, List.drop_succ_cons]
          exact (inductionHypothesis count).imp_right fun below =>
            below.trans (List.prefix_append _ _)

end Stack

theorem stack_foldl
    {components : List (List Char)}
    (whole : ∀ component ∈ components, '/' ∉ component)
    (stack : Stack rooted kept) :
    Stack rooted (components.foldl (cleanStep rooted) kept) ∧
      ∀ place, (rooted = true → place = []) →
        standing place (components.foldl (cleanStep rooted) kept) =
          (components.map String.ofList).foldl turn (standing place kept) := by
  induction components generalizing kept with
  | nil => exact ⟨stack, fun _ _ => rfl⟩
  | cons component rest inductionHypothesis =>
      rw [List.forall_mem_cons] at whole
      obtain ⟨stepped, keepsUp⟩ := stack.cleanStep whole.1
      obtain ⟨folded, further⟩ := inductionHypothesis whole.2 stepped
      refine ⟨folded, fun place atRoot => ?_⟩
      rw [List.foldl_cons, further place atRoot, keepsUp place atRoot]
      rfl

theorem stack_keptComponents
    (path : String) :
    Stack (isAbsolute path) (keptComponents path) ∧
      ∀ place, (isAbsolute path = true → place = []) →
        standing place (keptComponents path) = (steps path).foldl turn place :=
  stack_foldl (fun _ isPiece => notMem_of_mem_splitChars isPiece) (.rising 0 fun _ => rfl)

/-- Kept components that are joined start with a character of the earliest. -/
theorem joined_exists_cons
    (stack : Stack rooted kept)
    (someLeft : kept ≠ []) :
    ∃ first rest, ['/'].intercalate kept.reverse = first :: rest ∧ first ≠ '/' := by
  obtain ⟨earliest, others, reversed⟩ : ∃ earliest others, kept.reverse = earliest :: others :=
    List.exists_cons_of_ne_nil (by simpa using someLeft)
  have isKept : earliest ∈ kept := List.mem_reverse.mp (reversed ▸ List.mem_cons_self)
  obtain ⟨notEmpty, whole⟩ := stack.whole earliest isKept
  obtain ⟨first, rest, rfl⟩ := List.exists_cons_of_ne_nil notEmpty
  rw [List.mem_cons, not_or] at whole
  rw [reversed]
  cases others with
  | nil => exact ⟨first, rest, by simp, Ne.symm whole.1⟩
  | cons second others =>
      rw [List.intercalate_cons_cons]
      exact ⟨first, _, rfl, Ne.symm whole.1⟩

/-- A cleaned path has the components that cleaning kept, save for what marks the root or stands for
nothing at all, and starts where the path started. -/
theorem steps_clean
    (path : String) :
    isAbsolute (clean path) = isAbsolute path ∧
      ∃ idle, (∀ name ∈ idle, name = "" ∨ name = ".") ∧
        steps (clean path) = idle ++ (keptComponents path).reverse.map String.ofList := by
  have stack := (stack_keptComponents path).1
  have joined : (String.intercalate "/" ((keptComponents path).reverse.map String.ofList)).toList =
      ['/'].intercalate (keptComponents path).reverse := by
    simp [String.toList_intercalate]
  have cleaned : clean path =
      if isAbsolute path then
        "/" ++ String.intercalate "/" ((keptComponents path).reverse.map String.ofList)
      else if (String.intercalate "/" ((keptComponents path).reverse.map String.ofList)).isEmpty then
        "."
      else String.intercalate "/" ((keptComponents path).reverse.map String.ofList) := rfl
  by_cases noneKept : keptComponents path = []
  · rw [cleaned, noneKept]
    cases rooted : isAbsolute path with
    | true => exact ⟨rfl, ["", ""], by simp, rfl⟩
    | false => exact ⟨rfl, ["."], by simp, rfl⟩
  · obtain ⟨first, rest, chars, notSlash⟩ := joined_exists_cons stack noneKept
    have cut : splitChars '/' (['/'].intercalate (keptComponents path).reverse) =
        (keptComponents path).reverse :=
      splitChars_intercalate
        (fun component isMember => (stack.whole component (List.mem_reverse.mp isMember)).2)
        (by simpa using noneKept)
    cases rooted : isAbsolute path with
    | true =>
        have whole : (clean path).toList =
            [] ++ '/' :: ['/'].intercalate (keptComponents path).reverse := by
          rw [cleaned, rooted, if_pos rfl, String.toList_append, joined]
          rfl
        refine ⟨by simp [isAbsolute, whole], [""], by simp, ?_⟩
        rw [steps_eq, whole, splitChars_append, cut]
        simp [splitChars]
    | false =>
        have whole : (clean path).toList = ['/'].intercalate (keptComponents path).reverse := by
          rw [cleaned, rooted, if_neg Bool.false_ne_true, if_neg, joined]
          rw [String.isEmpty_iff, ← String.toList_eq_nil_iff, joined, chars]
          exact List.cons_ne_nil _ _
        refine ⟨by simpa [isAbsolute, whole, chars] using notSlash, [], by simp, ?_⟩
        rw [steps_eq, whole, cut, List.nil_append]

end Path

namespace Store

variable {store next : Store} {path directory : String} {names : List String}

theorem meant_eq_standing
    (store : Store)
    (path : String) :
    store.meant path = Path.standing (store.start path) (Path.keptComponents path) := by
  have turned := (Path.stack_keptComponents path).2
  exact (turned (store.start path) (fun rooted => by simp [start, rooted])).symm

/-- A cleaned path means what the path meant. -/
theorem meant_clean
    (store : Store)
    (path : String) :
    store.meant (Path.clean path) = store.meant path := by
  obtain ⟨sameRoot, idle, areIdle, cut⟩ := Path.steps_clean path
  rw [meant_eq_standing store path, meant, cut, List.foldl_append, foldl_turn_idle areIdle,
    Path.standing_eq_foldl, start, start, sameRoot]

/-- On the way along a cleaned path are places above the start, and places above the end. -/
theorem foldl_take_clean
    (store : Store)
    (path : String)
    (count : Nat) :
    ((Path.steps (Path.clean path)).take count).foldl turn (store.start (Path.clean path)) <+:
        store.start (Path.clean path) ∨
      ((Path.steps (Path.clean path)).take count).foldl turn (store.start (Path.clean path)) <+:
        store.meant (Path.clean path) := by
  obtain ⟨sameRoot, idle, areIdle, cut⟩ := Path.steps_clean path
  have sameStart : store.start (Path.clean path) = store.start path := by
    rw [start, start, sameRoot]
  rw [meant_clean, meant_eq_standing, sameStart, cut, List.take_append, List.foldl_append,
    foldl_turn_idle fun name isTaken => areIdle name (List.mem_of_mem_take isTaken),
    ← List.map_take, List.take_reverse, Path.standing_eq_foldl]
  exact (Path.stack_keptComponents path).1.standing_drop _ _

end Store

/-! ## Paths above a path -/

namespace Path

theorem intercalate_prefix
    (left right : List (List Char)) :
    ['/'].intercalate left <+: ['/'].intercalate (left ++ right) := by
  induction left with
  | nil => exact List.nil_prefix
  | cons first others inductionHypothesis =>
      cases others with
      | nil =>
          cases right with
          | nil => exact List.prefix_rfl
          | cons second right =>
              rw [List.cons_append, List.nil_append, List.intercalate_cons_cons,
                List.intercalate_singleton, List.append_assoc]
              exact List.prefix_append _ _
      | cons second others =>
          rw [List.cons_append, List.cons_append, List.intercalate_cons_cons,
            List.intercalate_cons_cons]
          exact (List.prefix_append_right_inj _).mpr inductionHypothesis

theorem isAbsolute_of_prefix
    {path above : String}
    (starts : above.toList <+: path.toList)
    (notEmpty : above.toList ≠ []) :
    isAbsolute above = isAbsolute path := by
  obtain ⟨tail, chars⟩ := starts
  obtain ⟨first, rest, aboveChars⟩ := List.exists_cons_of_ne_nil notEmpty
  rw [isAbsolute, isAbsolute, ← chars, aboveChars]
  rfl

/-- A path above another one has the first of its names. -/
theorem steps_of_mem_pathsAbove
    {path above : String}
    (isAbove : above ∈ Store.pathsAbove path) :
    isAbsolute above = isAbsolute path ∧ ∃ count, steps above = (steps path).take count := by
  unfold Store.pathsAbove at isAbove
  simp only [List.mem_filter, List.mem_map, List.mem_range] at isAbove
  obtain ⟨⟨dropped, fewer, rfl⟩, notEmpty⟩ := isAbove
  have chars :
      (String.intercalate "/" (((splitChars '/' path.toList).take
        ((splitChars '/' path.toList).length - dropped)).map String.ofList)).toList =
        ['/'].intercalate ((splitChars '/' path.toList).take
          ((splitChars '/' path.toList).length - dropped)) := by
    simp [String.toList_intercalate]
  constructor
  · apply isAbsolute_of_prefix
    · have whole : path.toList = ['/'].intercalate (splitChars '/' path.toList) := by
        rw [splitChars_eq_splitOn, List.intercalate_splitOn]
      rw [chars]
      conv_rhs => rw [whole, ← List.take_append_drop
        ((splitChars '/' path.toList).length - dropped) (splitChars '/' path.toList)]
      exact intercalate_prefix _ _
    · rw [Ne, String.toList_eq_nil_iff]
      simpa using notEmpty
  · refine ⟨(splitChars '/' path.toList).length - dropped, ?_⟩
    rw [steps_eq, chars, splitChars_intercalate, List.map_take, steps_eq]
    · exact fun piece isTaken => notMem_of_mem_splitChars (List.mem_of_mem_take isTaken)
    · intro isNil
      have noLength := congrArg List.length isNil
      rw [List.length_take, List.length_nil] at noLength
      omega

/-- What stands before the last slash has all names but the last. -/
theorem steps_beforeSlash
    (path : String) :
    isAbsolute (String.ofList (path.toList.reverse.dropWhile (· != '/')).reverse) =
        isAbsolute path ∧
      steps (String.ofList (path.toList.reverse.dropWhile (· != '/')).reverse) =
        (steps path).dropLast ++ [""] := by
  have noSlash : '/' ∉ (path.toList.reverse.takeWhile (· != '/')).reverse := by
    intro isMember
    have passes := List.mem_takeWhile_imp (List.mem_reverse.mp isMember)
    simp at passes
  have whole : path.toList = (path.toList.reverse.dropWhile (· != '/')).reverse ++
      (path.toList.reverse.takeWhile (· != '/')).reverse := by
    rw [← List.reverse_append, List.takeWhile_append_dropWhile, List.reverse_reverse]
  have single (chars : List Char) (free : '/' ∉ chars) : splitChars '/' chars = [chars] := by
    have wholePiece : ∀ piece ∈ [chars], '/' ∉ piece := by simpa using free
    have cut := splitChars_intercalate wholePiece (List.cons_ne_nil _ _)
    rwa [List.intercalate_singleton] at cut
  cases before : path.toList.reverse.dropWhile (· != '/') with
  | nil =>
      rw [before, List.reverse_nil, List.nil_append] at whole
      rw [← whole] at noSlash
      constructor
      · cases chars : path.toList with
        | nil => simp [isAbsolute, chars]
        | cons first rest =>
            rw [chars, List.mem_cons, not_or] at noSlash
            simpa [isAbsolute, chars] using Ne.symm noSlash.1
      · rw [steps_eq, steps_eq, single path.toList noSlash]
        rfl
  | cons slash rest =>
      have isSlash : slash = '/' := by
        have stops := List.head?_dropWhile_not (· != '/') path.toList.reverse
        simpa [before] using stops
      subst isSlash
      rw [before, List.reverse_cons, List.append_assoc, List.singleton_append] at whole
      constructor
      · unfold isAbsolute
        rw [whole, String.toList_ofList, List.reverse_cons]
        cases rest.reverse with
        | nil => rfl
        | cons first others => rfl
      · rw [steps_eq, steps_eq, whole, splitChars_append, single _ noSlash, String.toList_ofList,
          List.reverse_cons, splitChars_append, List.map_append, List.map_append,
          List.map_singleton, List.dropLast_concat]
        rfl

end Path

namespace Store

variable {store next : Store} {path directory : String} {names : List String}

/-! ## Joined names -/

/-- Names joined to a directory turn from where the directory leads. -/
theorem exists_joined
    (directory : String)
    (areNames : ∀ name ∈ names, IsName name)
    (someLeft : names ≠ []) :
    ∃ path, Path.join [directory, nested names] = Path.clean path ∧
      isAbsolute path = isAbsolute directory ∧
        ∀ place, (Path.steps path).foldl turn place =
          names.foldl turn ((Path.steps directory).foldl turn place) := by
  have plain : names.map (String.ofList ∘ String.toList) = names := by simp
  have namesCut : Path.steps (nested names) = names := by
    rw [Path.steps_eq, Path.splitChars_nested areNames someLeft, List.map_map, plain]
  obtain ⟨first, rest, chars, notSlash⟩ := Path.nested_exists_cons areNames someLeft
  have notEmpty : nested names ≠ "" := by
    intro isEmpty
    simp [isEmpty] at chars
  by_cases isEmpty : directory = ""
  · subst isEmpty
    refine ⟨nested names, by simp [Path.join, notEmpty], ?_, fun place => ?_⟩
    · simpa [isAbsolute, chars] using notSlash
    · rw [namesCut]
      rfl
  · refine ⟨directory ++ "/" ++ nested names, ?_, ?_, fun place => ?_⟩
    · simp [Path.join, notEmpty, isEmpty, String.intercalate_cons_cons]
    · refine (Path.isAbsolute_of_prefix ?_ ?_).symm
      · simp [String.append_assoc]
      · rwa [Ne, String.toList_eq_nil_iff]
    · have cut : Path.steps (directory ++ "/" ++ nested names) = Path.steps directory ++ names := by
        have whole : (directory ++ "/" ++ nested names).toList =
            directory.toList ++ '/' :: (nested names).toList := by simp
        rw [Path.steps_eq, whole, splitChars_append, List.map_append]
        exact congrArg _ namesCut
      rw [cut, List.foldl_append]

/-- Names joined to a directory mean the place below it. -/
theorem meant_join
    (store : Store)
    (directory : String)
    (areNames : ∀ name ∈ names, IsName name)
    (someLeft : names ≠ []) :
    store.meant (Path.join [directory, nested names]) = store.meant directory ++ names := by
  obtain ⟨path, joined, sameRoot, turned⟩ := exists_joined directory areNames someLeft
  rw [joined, meant_clean, meant, turned, foldl_turn_names areNames, meant, start, start, sameRoot]

/-- The directory of joined names is below the directory as well, or is it itself. -/
theorem meant_directory_join
    (store : Store)
    (directory : String)
    (areNames : ∀ name ∈ names, IsName name)
    (someLeft : names ≠ []) :
    store.meant (Path.directory (Path.join [directory, nested names])) =
      store.meant directory ++ names.dropLast := by
  obtain ⟨components, cut⟩ := exists_components directory
  have cutJoined : Path.steps (Path.join [directory, nested names]) = components ++ names := by
    rw [Path.steps_eq, Path.join_nested areNames someLeft]
    exact cut names areNames someLeft
  have lead : components.foldl turn (store.start (Path.join [directory, nested names])) =
      store.meant directory := by
    have whole := meant_join store directory areNames someLeft
    rw [meant, cutJoined, List.foldl_append, foldl_turn_names areNames] at whole
    exact List.append_cancel_right whole
  obtain ⟨sameRoot, cutBefore⟩ := Path.steps_beforeSlash (Path.join [directory, nested names])
  have fewerNames : ∀ name ∈ names.dropLast, IsName name := fun name isMember =>
    areNames name (List.dropLast_subset names isMember)
  rw [Path.directory, meant_clean, meant, cutBefore, cutJoined,
    List.dropLast_append_of_ne_nil someLeft, List.foldl_append, List.foldl_append, start, sameRoot,
    ← start, lead, foldl_turn_names fewerNames]
  rfl

/-! ## Changes below a place -/

def IsBelow
    (base place : Place) :
    Prop :=
  base <+: place ∧ place ≠ base

/-- Everything that changed is below a place, save that this place and those above it may have been
made as directories where nothing was. -/
structure Contained
    (base : Place)
    (store next : Store) : Prop where
  workingDirectory : next.workingDirectory = store.workingDirectory
  elsewhere : ∀ place, ¬IsBelow base place →
    next.entryAt place = store.entryAt place ∨
      place <+: base ∧ store.entryAt place = none ∧ next.entryAt place = some .directory

namespace Contained

variable {base : Place}

theorem refl
    (base : Place)
    (store : Store) :
    Contained base store store :=
  ⟨rfl, fun _ _ => .inl rfl⟩

theorem trans
    {last : Store}
    (first : Contained base store next)
    (second : Contained base next last) :
    Contained base store last where
  workingDirectory := second.workingDirectory.trans first.workingDirectory
  elsewhere place outside := by
    rcases second.elsewhere place outside with kept | ⟨above, vacant, made⟩
    · rw [kept]
      exact first.elsewhere place outside
    · rcases first.elsewhere place outside with kept | ⟨-, -, already⟩
      · exact .inr ⟨above, kept ▸ vacant, made⟩
      · rw [vacant] at already
        cases already

/-- Something put below the place, where no directory was. -/
theorem put
    {place : Place}
    (isBelow : IsBelow base place)
    (noDirectory : store.entryAt place ≠ some .directory)
    (entry : Entry) :
    Contained base store (store.put place entry) where
  workingDirectory := rfl
  elsewhere other outside := by
    have different : other ≠ place := fun same => outside (same ▸ isBelow)
    rw [entryAt_put noDirectory, if_neg different]
    exact .inl rfl

/-- A directory made on the way to the place. -/
theorem put_above
    {place : Place}
    (isAbove : place <+: base)
    (vacant : store.entryAt place = none) :
    Contained base store (store.put place .directory) where
  workingDirectory := rfl
  elsewhere other outside := by
    rw [entryAt_put (by simp [vacant])]
    by_cases same : other = place
    · rw [same, if_pos rfl]
      exact .inr ⟨isAbove, vacant, rfl⟩
    · rw [if_neg same]
      exact .inl rfl

end Contained

/-- A path to a place that is there for certain, or on the way to a place, or below it. -/
def LeadsAlong
    (store : Store)
    (base : Place)
    (path : String) :
    Prop :=
  store.meant path <+: store.workingDirectory ∨ store.meant path <+: base ∨
    base <+: store.meant path

theorem meant_congr
    (same : next.workingDirectory = store.workingDirectory)
    (path : String) :
    next.meant path = store.meant path := by
  rw [meant, meant, start, start, same]

variable {base : Place}

theorem makeDirectory_contained
    (leads : store.LeadsAlong base path)
    (made : store.makeDirectory path = .ok next) :
    Contained base store next := by
  unfold makeDirectory at made
  split at made
  · cases made
  · rename_i place placed
    have isMeant := place_eq_meant placed
    unfold LeadsAlong at leads
    rw [← isMeant] at leads
    split at made
    · cases made
    · rename_i vacant
      split at made
      · cases made
        rcases leads with isThere | isAbove | isBelow
        · have there : store.entryAt place = some .directory := by
            simp [entryAt, List.isPrefixOf_iff_prefix.mpr isThere]
          rw [there] at vacant
          cases vacant
        · exact .put_above isAbove vacant
        · by_cases isBase : place = base
          · exact .put_above (isBase ▸ List.prefix_rfl) vacant
          · exact .put ⟨isBelow, isBase⟩ (by simp [vacant]) _
      · cases made
      · cases made

theorem makeAll_contained
    {paths : List String}
    (lead : ∀ path ∈ paths, store.LeadsAlong base path) :
    Contained base store (store.makeAll paths).1 := by
  induction paths generalizing store with
  | nil => exact .refl base store
  | cons path rest inductionHypothesis =>
      rw [List.forall_mem_cons] at lead
      unfold makeAll
      split
      · exact .refl base store
      · rename_i next made
        have first := makeDirectory_contained lead.1 made
        refine first.trans (inductionHypothesis fun other isMember => ?_)
        unfold LeadsAlong
        rw [meant_congr first.workingDirectory, first.workingDirectory]
        exact lead.2 other isMember

theorem mem_of_missingDirectories
    {latest paths missing : List String}
    (found : store.missingDirectories latest paths = .ok missing) :
    ∀ path ∈ missing, path ∈ latest ∨ path ∈ paths := by
  induction paths generalizing latest with
  | nil =>
      cases found
      exact fun path isMember => .inl isMember
  | cons first rest inductionHypothesis =>
      unfold missingDirectories at found
      split at found
      · cases found
        exact fun path isMember => .inl isMember
      · cases found
      · intro path isMember
        rcases inductionHypothesis found path isMember with isLatest | isLater
        · rcases List.mem_cons.mp isLatest with rfl | isEarlier
          · exact .inr List.mem_cons_self
          · exact .inl isEarlier
        · exact .inr (List.mem_cons_of_mem _ isLater)

/-- The paths above a cleaned path lead along every place that is on the way to its own. -/
theorem leadsAlong_of_mem_pathsAbove
    {above : String}
    (below : base <+: store.meant (Path.clean path))
    (isAbove : above ∈ pathsAbove (Path.clean path)) :
    store.LeadsAlong base above := by
  obtain ⟨sameRoot, count, cut⟩ := Path.steps_of_mem_pathsAbove isAbove
  have here : store.meant above =
      ((Path.steps (Path.clean path)).take count).foldl turn
        (store.start (Path.clean path)) := by
    rw [meant, cut, start, sameRoot, ← start]
  rcases foldl_take_clean store path count with fromStart | fromEnd
  · left
    rw [here]
    refine fromStart.trans ?_
    unfold start
    split
    · exact List.nil_prefix
    · exact List.prefix_rfl
  · rw [← here] at fromEnd
    exact .inr (List.prefix_or_prefix_of_prefix fromEnd below)

/-- Making the directory of joined names stays below the directory and on the way to it. -/
theorem makeDirectories_contained
    (store : Store)
    (directory : String)
    (areNames : ∀ name ∈ names, IsName name)
    (someLeft : names ≠ []) :
    Contained (store.meant directory) store
      (store.makeDirectories (Path.directory (Path.join [directory, nested names]))).1 := by
  have below : store.meant directory <+:
      store.meant (Path.directory (Path.join [directory, nested names])) := by
    rw [meant_directory_join store directory areNames someLeft]
    exact List.prefix_append _ _
  unfold makeDirectories
  split
  · exact .refl _ store
  · rename_i missing found
    refine makeAll_contained fun path isMissing => ?_
    rcases mem_of_missingDirectories found path isMissing with isLatest | isAbove
    · cases isLatest
    · exact leadsAlong_of_mem_pathsAbove below isAbove

/-- Writing at joined names changes at most the place that they mean. -/
theorem write_contained
    (store : Store)
    (directory : String)
    (areNames : ∀ name ∈ names, IsName name)
    (someLeft : names ≠ [])
    (content : Bytes) :
    Contained (store.meant directory) store
      (store.write (Path.join [directory, nested names]) content).1 := by
  cases wrote : store.write (Path.join [directory, nested names]) content with
  | mk next fault? =>
      cases fault? with
      | none =>
          obtain ⟨place, placed, noDirectory, rfl⟩ := write_eq_put wrote
          refine .put ?_ noDirectory _
          rw [place_eq_meant placed, meant_join store directory areNames someLeft]
          exact ⟨List.prefix_append _ _, by simpa using someLeft⟩
      | some fault =>
          have same : next = store := by
            unfold write at wrote
            simp only at wrote
            split at wrote
            · exact (congrArg Prod.fst wrote).symm
            · split at wrote
              · exact (congrArg Prod.fst wrote).symm
              · cases wrote
              · split at wrote
                · split at wrote
                  · exact (congrArg Prod.fst wrote).symm
                  · cases wrote
                · exact (congrArg Prod.fst wrote).symm
                · exact (congrArg Prod.fst wrote).symm
          rw [same]
          exact .refl _ store

end Store

end Wayland.File
