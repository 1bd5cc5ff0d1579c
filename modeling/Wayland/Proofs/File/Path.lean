import Wayland.File.Path
import Wayland.Proofs.Text.Normal

/-!
Contract: names joined below a directory.

Owns:
- names that stand for themselves in a path;
- that joining puts one and the same text before all names, whatever the directory is.

Does not own: what stands at the paths.
-/

namespace Wayland.File.Path

open Wayland.Text

/-- A component that cleaning keeps as it is. -/
structure IsName
    (name : String) : Prop where
  ne_empty : name ≠ ""
  ne_dot : name ≠ "."
  ne_dots : name ≠ ".."
  whole : '/' ∉ name.toList

/-- Names below each other, as a path. -/
def nested
    (names : List String) :
    String :=
  String.intercalate "/" names

/-- A relative path that cleaning keeps as it is. -/
def IsPlainPath
    (path : String) : Prop :=
  ∃ names, names ≠ [] ∧ (∀ name ∈ names, IsName name) ∧ path = nested names

/-- The components of a directory that are left after cleaning, latest first. -/
def keptComponents
    (directory : String) :
    List (List Char) :=
  (splitChars '/' directory.toList).foldl (cleanStep (isAbsolute directory)) []

/-- The text that joining puts before names: it ends in a slash unless it is empty. -/
def lead
    (directory : String) :
    String :=
  (if isAbsolute directory then "/" else "")
    ++ String.join ((keptComponents directory).reverse.map fun chars => String.ofList chars ++ "/")

variable {names : List String} {rooted : Bool} {directory : String}

theorem nested_toList :
    (nested names).toList = ['/'].intercalate (names.map String.toList) := by
  simp [nested, String.toList_intercalate]

theorem splitChars_nested
    (areNames : ∀ name ∈ names, IsName name)
    (someLeft : names ≠ []) :
    splitChars '/' (nested names).toList = names.map String.toList := by
  rw [nested_toList]
  refine splitChars_intercalate ?_ (by simpa using someLeft)
  intro chars isPiece
  obtain ⟨name, isMember, rfl⟩ := List.mem_map.mp isPiece
  exact (areNames name isMember).whole

theorem nested_injective
    {left right : List String}
    (leftNames : ∀ name ∈ left, IsName name)
    (rightNames : ∀ name ∈ right, IsName name)
    (leftSome : left ≠ [])
    (rightSome : right ≠ [])
    (same : nested left = nested right) :
    left = right := by
  have samePieces : left.map String.toList = right.map String.toList := by
    rw [← splitChars_nested leftNames leftSome, same, splitChars_nested rightNames rightSome]
  exact (List.map_inj_right fun _ _ => String.toList_inj.mp).mp samePieces

theorem IsName.exists_cons
    {name : String}
    (isName : IsName name) :
    ∃ first rest, name.toList = first :: rest ∧ first ≠ '/' := by
  obtain ⟨first, rest, chars⟩ : ∃ first rest, name.toList = first :: rest :=
    List.exists_cons_of_ne_nil fun isNil => isName.ne_empty (String.toList_eq_nil_iff.mp isNil)
  refine ⟨first, rest, chars, ?_⟩
  rintro rfl
  exact isName.whole (by simp [chars])

/-- A nested path starts with a character of its first name. -/
theorem nested_exists_cons
    (areNames : ∀ name ∈ names, IsName name)
    (someLeft : names ≠ []) :
    ∃ first rest, (nested names).toList = first :: rest ∧ first ≠ '/' := by
  match names with
  | [] => exact absurd rfl someLeft
  | [name] => simpa [nested] using (areNames name (by simp)).exists_cons
  | name :: second :: others =>
      obtain ⟨first, rest, chars, notSlash⟩ := (areNames name (by simp)).exists_cons
      refine ⟨first, rest ++ '/' :: (nested (second :: others)).toList, ?_, notSlash⟩
      simp [nested_toList, List.intercalate_cons_cons, chars]

theorem cleanStep_of_isName
    {name : String}
    (isName : IsName name)
    (kept : List (List Char)) :
    cleanStep rooted kept name.toList = name.toList :: kept := by
  have notEmpty : name.toList ≠ [] := fun isNil =>
    isName.ne_empty (String.toList_eq_nil_iff.mp isNil)
  have notDot : name.toList ≠ ['.'] := fun isDot =>
    isName.ne_dot (String.toList_inj.mp isDot)
  have notDots : name.toList ≠ ['.', '.'] := fun isDots =>
    isName.ne_dots (String.toList_inj.mp isDots)
  simp [cleanStep, notEmpty, notDot, notDots]

/-- Cleaning takes names as they come. -/
theorem foldl_cleanStep_names
    (areNames : ∀ name ∈ names, IsName name)
    (kept : List (List Char)) :
    (names.map String.toList).foldl (cleanStep rooted) kept =
      (names.map String.toList).reverse ++ kept := by
  induction names generalizing kept with
  | nil => rfl
  | cons name rest inductionHypothesis =>
      rw [List.map_cons, List.foldl_cons, cleanStep_of_isName (areNames name (by simp)),
        inductionHypothesis fun name isMember => areNames name (List.mem_cons_of_mem _ isMember)]
      simp

theorem intercalate_append
    (components : List String)
    (someLeft : names ≠ []) :
    String.intercalate "/" (components ++ names) =
      String.join (components.map (· ++ "/")) ++ nested names := by
  induction components with
  | nil => simp [nested]
  | cons component rest inductionHypothesis =>
      obtain ⟨second, others, tail⟩ := List.exists_cons_of_ne_nil
        (List.append_ne_nil_of_right_ne_nil rest someLeft)
      rw [List.cons_append, tail, String.intercalate_cons_cons, ← tail, inductionHypothesis]
      simp [String.append_assoc]

/-- A path is cleaned by its components: the kept ones are joined again. -/
theorem clean_eq
    {path : String}
    {kept : List (List Char)}
    (areNames : ∀ name ∈ names, IsName name)
    (someLeft : names ≠ [])
    (folded : (splitChars '/' path.toList).foldl (cleanStep (isAbsolute path)) [] =
      (names.map String.toList).reverse ++ kept) :
    clean path =
      (if isAbsolute path then "/" else "")
        ++ (String.join (kept.reverse.map fun chars => String.ofList chars ++ "/")
          ++ nested names) := by
  have text :
      String.intercalate "/" (((names.map String.toList).reverse ++ kept).reverse.map
        String.ofList) =
        String.join (kept.reverse.map fun chars => String.ofList chars ++ "/") ++ nested names := by
    rw [List.reverse_append, List.reverse_reverse, List.map_append, List.map_map]
    have plain : names.map (String.ofList ∘ String.toList) = names := by simp
    rw [plain, intercalate_append _ someLeft, List.map_map]
    rfl
  have notEmpty :
      (String.join (kept.reverse.map fun chars => String.ofList chars ++ "/")
        ++ nested names).isEmpty = false := by
    obtain ⟨first, rest, chars, -⟩ := nested_exists_cons areNames someLeft
    have : nested names ≠ "" := by
      intro isEmpty
      simp [isEmpty] at chars
    simp [this]
  have folded' := folded
  unfold isAbsolute at folded'
  unfold clean
  simp only [folded', text, notEmpty]
  unfold isAbsolute
  split <;> simp

/-- Names below a directory follow one text, which depends on the directory alone. -/
theorem join_nested
    (areNames : ∀ name ∈ names, IsName name)
    (someLeft : names ≠ []) :
    join [directory, nested names] = lead directory ++ nested names := by
  obtain ⟨first, rest, chars, notSlash⟩ := nested_exists_cons areNames someLeft
  have notEmpty : nested names ≠ "" := by
    intro isEmpty
    simp [isEmpty] at chars
  by_cases isEmpty : directory = ""
  · subst isEmpty
    have relative : isAbsolute (nested names) = false := by
      simpa [isAbsolute, chars] using notSlash
    have folded :
        (splitChars '/' (nested names).toList).foldl (cleanStep (isAbsolute (nested names))) [] =
          (names.map String.toList).reverse ++ [] := by
      rw [splitChars_nested areNames someLeft, foldl_cleanStep_names areNames]
    have joined : join ["", nested names] = clean (nested names) := by
      simp [join, notEmpty]
    rw [joined, clean_eq areNames someLeft folded, relative]
    simp [lead, isAbsolute, keptComponents, splitChars, cleanStep]
  · have joined : join [directory, nested names] = clean (directory ++ "/" ++ nested names) := by
      simp [join, notEmpty, isEmpty, String.intercalate_cons_cons]
    have sameRoot : isAbsolute (directory ++ "/" ++ nested names) = isAbsolute directory := by
      obtain ⟨first, rest, chars⟩ : ∃ first rest, directory.toList = first :: rest :=
        List.exists_cons_of_ne_nil fun isNil => isEmpty (String.toList_eq_nil_iff.mp isNil)
      simp [isAbsolute, chars]
    have cut :
        splitChars '/' (directory ++ "/" ++ nested names).toList =
          splitChars '/' directory.toList ++ names.map String.toList := by
      rw [← splitChars_nested areNames someLeft, ← splitChars_append]
      simp
    have folded :
        (splitChars '/' (directory ++ "/" ++ nested names).toList).foldl
          (cleanStep (isAbsolute (directory ++ "/" ++ nested names))) [] =
          (names.map String.toList).reverse ++ keptComponents directory := by
      rw [cut, sameRoot, List.foldl_append, foldl_cleanStep_names areNames]
      rfl
    rw [joined, clean_eq areNames someLeft folded, sameRoot]
    simp [lead, String.append_assoc]

theorem join_plain
    {path : String}
    (isPlain : IsPlainPath path) :
    join [directory, path] = lead directory ++ path := by
  obtain ⟨names, someLeft, areNames, rfl⟩ := isPlain
  exact join_nested areNames someLeft

theorem join_injective
    {left right : String}
    (leftPlain : IsPlainPath left)
    (rightPlain : IsPlainPath right)
    (same : join [directory, left] = join [directory, right]) :
    left = right := by
  rw [join_plain leftPlain, join_plain rightPlain] at same
  exact (String.append_right_inj _).mp same

theorem join_eq_append_slash
    (components : List String)
    (someLeft : components ≠ []) :
    ∃ rest, String.join (components.map (· ++ "/")) = rest ++ "/" := by
  rw [← List.dropLast_concat_getLast someLeft]
  exact ⟨String.join (components.dropLast.map (· ++ "/")) ++ components.getLast someLeft,
    by simp [String.append_assoc]⟩

theorem lead_cases
    (directory : String) :
    lead directory = "" ∨ ∃ rest, lead directory = rest ++ "/" := by
  unfold lead
  by_cases noneKept : keptComponents directory = []
  · rw [noneKept]
    split
    · exact Or.inr ⟨"", by simp⟩
    · exact Or.inl (by simp)
  · obtain ⟨rest, joined⟩ := join_eq_append_slash
      ((keptComponents directory).reverse.map String.ofList) (by simpa using noneKept)
    rw [List.map_map] at joined
    refine Or.inr ⟨(if isAbsolute directory then "/" else "") ++ rest, ?_⟩
    rw [String.append_assoc, ← joined]
    rfl

end Wayland.File.Path
