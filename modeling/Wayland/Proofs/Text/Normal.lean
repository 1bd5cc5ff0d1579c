import Mathlib.Data.List.DropRight
import Wayland.Text.Blank

/-!
Contract: pieces between separators, trimming, and the normal form of running text.

Owns:
- that the pieces of a text are those of `List.splitOn`, so that cutting and joining undo each other;
- texts that differ in the white space around their lines only, which have one normal form;
- what it means for lines to be set like the lines of a text: the same lines without the blank ones,
  one blank line where there were some, and none at either end;
- that a normal form consists of lines set like those of the text, and stays as it is.

Does not own: what counts as white space, what the pieces mean, or which texts are normalized.
-/

namespace Wayland.Text

/-! ## Pieces -/

variable {separator : Char}

theorem splitChars_eq_splitOn
    (chars : List Char) :
    splitChars separator chars = chars.splitOn separator := by
  induction chars with
  | nil => simp [splitChars]
  | cons char rest inductionHypothesis =>
      rw [List.splitOn_cons_eq_if_modifyHead, ← inductionHypothesis]
      by_cases isSeparator : char = separator
      · simp [splitChars, isSeparator]
      · simp [splitChars, isSeparator]

/-- Joined pieces are cut at the joints and nowhere else. -/
theorem splitChars_intercalate
    {pieces : List (List Char)}
    (whole : ∀ piece ∈ pieces, separator ∉ piece)
    (someLeft : pieces ≠ []) :
    splitChars separator ([separator].intercalate pieces) = pieces := by
  rw [splitChars_eq_splitOn]
  exact List.splitOn_intercalate separator whole someLeft

/-- A separator cuts a text into two that are cut apart from each other. -/
theorem splitChars_append
    (left right : List Char) :
    splitChars separator (left ++ separator :: right) =
      splitChars separator left ++ splitChars separator right := by
  rw [splitChars_eq_splitOn, splitChars_eq_splitOn, splitChars_eq_splitOn]
  exact List.splitOn_append_cons_self left right

theorem splitChars_ne_nil
    (separator : Char)
    (chars : List Char) :
    splitChars separator chars ≠ [] := by
  rw [splitChars_eq_splitOn]
  exact List.splitOn_ne_nil separator chars

theorem notMem_of_mem_splitChars
    {chars piece : List Char}
    (isPiece : piece ∈ splitChars separator chars) :
    separator ∉ piece := by
  induction chars generalizing piece with
  | nil => simp_all [splitChars]
  | cons char rest inductionHypothesis =>
      obtain ⟨first, others, pieces⟩ := List.exists_cons_of_ne_nil
        (splitChars_ne_nil separator rest)
      rw [pieces] at inductionHypothesis
      rw [splitChars_eq_splitOn, List.splitOn_cons_eq_if_modifyHead, ← splitChars_eq_splitOn,
        pieces] at isPiece
      by_cases isSeparator : char = separator
      · simp only [isSeparator, BEq.rfl, if_true, List.mem_cons] at isPiece
        obtain rfl | inRest := isPiece
        · exact List.not_mem_nil
        · exact inductionHypothesis (List.mem_cons.mpr inRest)
      · simp only [beq_iff_eq, isSeparator, if_false, List.modifyHead_cons, List.mem_cons]
          at isPiece
        obtain rfl | inOthers := isPiece
        · have := inductionHypothesis (List.mem_cons_self ..)
          exact List.not_mem_cons_of_ne_of_not_mem (Ne.symm isSeparator) this
        · exact inductionHypothesis (List.mem_cons_of_mem _ inOthers)

/-! ## Trimming -/

theorem trimChars_eq_rdropWhile
    (chars : List Char) :
    trimChars chars = (chars.dropWhile isBlank).rdropWhile isBlank :=
  rfl

/-- What trimming leaves starts with no white space. -/
theorem dropWhile_trimChars
    (chars : List Char) :
    (trimChars chars).dropWhile isBlank = trimChars chars := by
  have again := List.dropWhile_idempotent isBlank chars
  have front := List.rdropWhile_prefix isBlank (chars.dropWhile isBlank)
  obtain ⟨tail, whole⟩ := front
  rw [← trimChars_eq_rdropWhile] at whole
  cases kept : trimChars chars with
  | nil => rfl
  | cons first rest =>
      rw [← whole, kept, List.cons_append] at again
      have notBlank : isBlank first = false := by
        by_contra startsBlank
        rw [List.dropWhile_cons_of_pos (by simpa using startsBlank)] at again
        have shorter := (List.dropWhile_sublist isBlank (l := rest ++ tail)).length_le
        rw [again, List.length_cons] at shorter
        omega
      exact List.dropWhile_cons_of_neg (by simp [notBlank])

theorem trimChars_trimChars
    (chars : List Char) :
    trimChars (trimChars chars) = trimChars chars := by
  rw [trimChars_eq_rdropWhile, dropWhile_trimChars, trimChars_eq_rdropWhile,
    List.rdropWhile_idempotent]

theorem trim_trim
    (text : String) :
    trim (trim text) = trim text := by
  simp only [trim, String.toList_ofList, trimChars_trimChars]

theorem mem_of_mem_trimChars
    {chars : List Char}
    {char : Char}
    (isMember : char ∈ trimChars chars) :
    char ∈ chars := by
  have front := List.rdropWhile_prefix isBlank (chars.dropWhile isBlank)
  exact (List.dropWhile_sublist isBlank).subset (front.subset isMember)

theorem trimChars_eq_nil_of_blank
    {chars : List Char}
    (isBlankAll : ∀ char ∈ chars, isBlank char = true) :
    trimChars chars = [] := by
  rw [trimChars_eq_rdropWhile, List.dropWhile_eq_nil_iff.mpr isBlankAll]
  rfl

/-- Where trimming leaves nothing, there is only white space. -/
theorem blank_of_trimChars_eq_nil
    {chars : List Char}
    (nothing : trimChars chars = []) :
    ∀ char ∈ chars, isBlank char = true := by
  rw [trimChars_eq_rdropWhile, List.rdropWhile_eq_nil_iff, ← List.dropWhile_eq_nil_iff,
    List.dropWhile_idempotent, List.dropWhile_eq_nil_iff] at nothing
  exact nothing

/-- Characters without white space are trimmed already. -/
theorem trimChars_of_solid
    {chars : List Char}
    (solid : ∀ char ∈ chars, isBlank char = false) :
    trimChars chars = chars := by
  have start : chars.dropWhile isBlank = chars := by
    rw [List.dropWhile_eq_self_iff]
    intro someLeft startsBlank
    rw [solid _ (List.getElem_mem someLeft)] at startsBlank
    cases startsBlank
  rw [trimChars_eq_rdropWhile, start, List.rdropWhile_eq_self_iff]
  intro someLeft endsBlank
  rw [solid _ (List.getLast_mem someLeft)] at endsBlank
  cases endsBlank

/-! ## Lines -/

def trimmedLines
    (text : String) :
    List (List Char) :=
  (splitChars '\n' text.toList).map trimChars

theorem normalLines_blank
    (kept gap : Bool)
    (lines : List (List Char))
    (areBlank : ∀ line ∈ lines, line = []) :
    normalLines kept gap lines = [] := by
  induction lines generalizing gap with
  | nil => rfl
  | cons line rest inductionHypothesis =>
      obtain ⟨rfl, restBlank⟩ := List.forall_mem_cons.mp areBlank
      exact inductionHypothesis kept restBlank

/-- Blank lines at the end do not count. -/
theorem normalLines_append_blank
    (kept gap : Bool)
    (lines after : List (List Char))
    (areBlank : ∀ line ∈ after, line = []) :
    normalLines kept gap (lines ++ after) = normalLines kept gap lines := by
  induction lines generalizing kept gap with
  | nil => exact normalLines_blank kept gap after areBlank
  | cons line rest inductionHypothesis =>
      simp only [List.cons_append, normalLines, inductionHypothesis]

/-- Blank lines at the start do not count. -/
theorem normalLines_blank_append
    (before lines : List (List Char))
    (areBlank : ∀ line ∈ before, line = []) :
    normalLines false false (before ++ lines) = normalLines false false lines := by
  induction before with
  | nil => rfl
  | cons line rest inductionHypothesis =>
      obtain ⟨rfl, restBlank⟩ := List.forall_mem_cons.mp areBlank
      exact inductionHypothesis restBlank

theorem normalLines_again
    (gap : Bool)
    (lines : List (List Char)) :
    normalLines true false (normalLines true gap lines) = normalLines true gap lines := by
  induction lines generalizing gap with
  | nil => rfl
  | cons line rest inductionHypothesis =>
      by_cases isEmpty : line = []
      · subst isEmpty
        exact inductionHypothesis true
      · have notEmpty : line.isEmpty = false := by simpa using isEmpty
        cases gap with
        | false => simp [normalLines, notEmpty, inductionHypothesis]
        | true => simp [normalLines, notEmpty, inductionHypothesis]

/-- Lines in normal form stay as they are. -/
theorem normalLines_normalLines
    (lines : List (List Char)) :
    normalLines false false (normalLines false false lines) = normalLines false false lines := by
  induction lines with
  | nil => rfl
  | cons line rest inductionHypothesis =>
      by_cases isEmpty : line = []
      · subst isEmpty
        exact inductionHypothesis
      · have notEmpty : line.isEmpty = false := by simpa using isEmpty
        simp [normalLines, notEmpty, normalLines_again]

/-- A line in normal form is one of the lines, or blank. -/
theorem mem_normalLines
    {kept gap : Bool}
    {lines : List (List Char)}
    {line : List Char}
    (isMember : line ∈ normalLines kept gap lines) :
    line ∈ lines ∨ line = [] := by
  induction lines generalizing kept gap with
  | nil => cases isMember
  | cons first rest inductionHypothesis =>
      have later {kept gap : Bool} (inRest : line ∈ normalLines kept gap rest) :
          line ∈ first :: rest ∨ line = [] :=
        (inductionHypothesis inRest).imp_left (List.mem_cons_of_mem first)
      unfold normalLines at isMember
      split at isMember
      · exact later isMember
      · split at isMember
        · rw [List.mem_cons, List.mem_cons] at isMember
          rcases isMember with isGap | isFirst | inRest
          · exact Or.inr isGap
          · exact Or.inl (isFirst ▸ List.mem_cons_self ..)
          · exact later inRest
        · rw [List.mem_cons] at isMember
          rcases isMember with isFirst | inRest
          · exact Or.inl (isFirst ▸ List.mem_cons_self ..)
          · exact later inRest

/-! ## Running text -/

theorem normalize_eq
    (text : String) :
    normalize text =
      String.intercalate "\n" ((normalLines false false (trimmedLines text)).map String.ofList) :=
  rfl

/-- A text is written with its lines moved: white space around every line may differ, and blank
lines may stand around the whole. -/
def IsReindented
    (text written : String) : Prop :=
  ∃ before lines after, splitChars '\n' written.toList = before ++ lines ++ after ∧
    lines.map trimChars = trimmedLines text ∧
    ∀ line ∈ before ++ after, ∀ char ∈ line, isBlank char = true

theorem IsReindented.normalize_eq
    {text written : String}
    (moved : IsReindented text written) :
    normalize written = normalize text := by
  obtain ⟨before, lines, after, cut, same, areBlank⟩ := moved
  have blank {part : List (List Char)} (isPart : part ⊆ before ++ after) :
      ∀ line ∈ part.map trimChars, line = [] := by
    intro line isMember
    obtain ⟨written, isWritten, rfl⟩ := List.mem_map.mp isMember
    exact trimChars_eq_nil_of_blank (areBlank written (isPart isWritten))
  have trimmed :
      trimmedLines written =
        before.map trimChars ++ trimmedLines text ++ after.map trimChars := by
    unfold trimmedLines at same ⊢
    rw [cut, List.map_append, List.map_append, same]
  rw [Text.normalize_eq, Text.normalize_eq, trimmed,
    normalLines_append_blank _ _ _ _ (blank (List.subset_append_right _ _)),
    normalLines_blank_append _ _ (blank (List.subset_append_left _ _))]

/-- The lines of a normal form are trimmed. -/
theorem trimmed_of_mem_normalLines
    {text : String}
    {line : List Char}
    (isMember : line ∈ normalLines false false (trimmedLines text)) :
    trimChars line = line ∧ '\n' ∉ line := by
  obtain isLine | rfl := mem_normalLines isMember
  · obtain ⟨written, isWritten, rfl⟩ := List.mem_map.mp isLine
    refine ⟨trimChars_trimChars written, fun hasBreak => ?_⟩
    exact notMem_of_mem_splitChars isWritten (mem_of_mem_trimChars hasBreak)
  · exact ⟨rfl, List.not_mem_nil⟩

theorem toList_normalize
    (text : String) :
    (normalize text).toList =
      ['\n'].intercalate (normalLines false false (trimmedLines text)) := by
  rw [Text.normalize_eq, String.toList_intercalate, List.map_map]
  simp

/-- The lines of a normal form, trimmed once more. -/
theorem trimmedLines_normalize
    (text : String)
    (someLeft : normalLines false false (trimmedLines text) ≠ []) :
    trimmedLines (normalize text) = normalLines false false (trimmedLines text) := by
  have cut :
      splitChars '\n' (normalize text).toList = normalLines false false (trimmedLines text) := by
    rw [toList_normalize]
    exact splitChars_intercalate
      (fun line isMember => (trimmed_of_mem_normalLines isMember).2) someLeft
  unfold trimmedLines at cut ⊢
  rw [cut]
  exact (List.map_congr_left fun line isMember => (trimmed_of_mem_normalLines isMember).1).trans
    (List.map_id _)

theorem normalize_normalize
    (text : String) :
    normalize (normalize text) = normalize text := by
  by_cases isEmpty : normalLines false false (trimmedLines text) = []
  · have blank : normalize text = "" := by
      rw [Text.normalize_eq, isEmpty]
      rfl
    rw [blank]
    rfl
  · rw [Text.normalize_eq (normalize text), trimmedLines_normalize text isEmpty,
      normalLines_normalLines, ← Text.normalize_eq]

/-! ## The form of a normal form -/

def solidLines
    (lines : List (List Char)) :
    List (List Char) :=
  lines.filter (· ≠ [])

/-- `shown` are `lines` with every gap of blank lines made one, where a blank line is empty. -/
structure IsSetLike
    (lines shown : List (List Char)) : Prop where
  /-- The lines that are not blank are shown in order. -/
  solid : solidLines shown = solidLines lines
  /-- No blank line comes first. -/
  starts : shown.head? ≠ some []
  /-- No blank line comes last. -/
  ends : shown.getLast? ≠ some []
  /-- Between two lines that follow each other but for blank ones stands one blank line if there
  were some, and none otherwise. -/
  spaced :
    ∀ before first gap second after,
      lines = before ++ first :: (gap ++ second :: after) →
        first ≠ [] → second ≠ [] → (∀ line ∈ gap, line = []) →
          ∃ before' after',
            shown = before' ++ first :: ((if gap = [] then [] else [[]]) ++ second :: after') ∧
              solidLines before' = solidLines before ∧ solidLines after' = solidLines after

variable {lines : List (List Char)}

@[simp]
theorem solidLines_append
    (before after : List (List Char)) :
    solidLines (before ++ after) = solidLines before ++ solidLines after :=
  List.filter_append before after

theorem solidLines_cons
    {line : List Char}
    (solid : line ≠ []) :
    solidLines (line :: lines) = line :: solidLines lines :=
  List.filter_cons_of_pos (by simpa using solid)

@[simp]
theorem solidLines_gap
    (isGap : Bool) :
    solidLines (if isGap then [[]] else []) = [] := by
  cases isGap <;> rfl

theorem normalLines_solid
    {line : List Char}
    (solid : line ≠ [])
    (kept gap : Bool) :
    normalLines kept gap (line :: lines) =
      (if gap then [[]] else []) ++ line :: normalLines true false lines := by
  have notEmpty : line.isEmpty = false := by simpa using solid
  cases gap <;> simp [normalLines, notEmpty]

/-- The lines that are not blank are kept, whatever stands before them. -/
theorem solidLines_normalLines
    (kept gap : Bool)
    (lines : List (List Char)) :
    solidLines (normalLines kept gap lines) = solidLines lines := by
  induction lines generalizing kept gap with
  | nil => rfl
  | cons line rest inductionHypothesis =>
      by_cases isEmpty : line = []
      · subst isEmpty
        exact inductionHypothesis kept kept
      · rw [normalLines_solid isEmpty, solidLines_append, solidLines_gap, solidLines_cons isEmpty,
          solidLines_cons isEmpty, inductionHypothesis, List.nil_append]

theorem head?_normalLines
    (lines : List (List Char)) :
    (normalLines false false lines).head? ≠ some [] := by
  induction lines with
  | nil => simp [normalLines]
  | cons line rest inductionHypothesis =>
      by_cases isEmpty : line = []
      · subst isEmpty
        exact inductionHypothesis
      · rw [normalLines_solid isEmpty]
        simpa using isEmpty

theorem getLast?_normalLines
    (kept gap : Bool)
    (lines : List (List Char)) :
    (normalLines kept gap lines).getLast? ≠ some [] := by
  induction lines generalizing kept gap with
  | nil => simp [normalLines]
  | cons line rest inductionHypothesis =>
      by_cases isEmpty : line = []
      · subst isEmpty
        exact inductionHypothesis kept kept
      · rw [normalLines_solid isEmpty, List.getLast?_append, List.getLast?_cons]
        have last := inductionHypothesis true false
        cases others : (normalLines true false rest).getLast? with
        | none => simpa using isEmpty
        | some line => simpa [others] using last

/-- Lines that come later are laid out by what the earlier ones leave behind. -/
theorem exists_normalLines_append
    (kept gap : Bool)
    (before : List (List Char)) :
    ∃ kept' gap', ∀ after,
      normalLines kept gap (before ++ after) =
        normalLines kept gap before ++ normalLines kept' gap' after := by
  induction before generalizing kept gap with
  | nil => exact ⟨kept, gap, fun after => rfl⟩
  | cons line rest inductionHypothesis =>
      by_cases isEmpty : line = []
      · subst isEmpty
        exact inductionHypothesis kept kept
      · obtain ⟨kept', gap', laid⟩ := inductionHypothesis true false
        refine ⟨kept', gap', fun after => ?_⟩
        rw [List.cons_append, normalLines_solid isEmpty, normalLines_solid isEmpty, laid]
        simp

/-- Behind a kept line, blank lines leave a gap and nothing else. -/
theorem normalLines_gap
    {gap : List (List Char)}
    (areBlank : ∀ line ∈ gap, line = [])
    (isGap : Bool)
    (after : List (List Char)) :
    normalLines true isGap (gap ++ after) =
      normalLines true (isGap || !gap.isEmpty) after := by
  induction gap generalizing isGap with
  | nil => simp
  | cons line rest inductionHypothesis =>
      obtain ⟨rfl, restBlank⟩ := List.forall_mem_cons.mp areBlank
      have next := inductionHypothesis restBlank true
      simpa [normalLines] using next

/-- The lines of a normal form are set like those of the text. -/
theorem isSetLike_normalLines
    (lines : List (List Char)) :
    IsSetLike lines (normalLines false false lines) where
  solid := solidLines_normalLines false false lines
  starts := head?_normalLines lines
  ends := getLast?_normalLines false false lines
  spaced := by
    rintro before first gap second after rfl firstSolid secondSolid areBlank
    obtain ⟨kept, isGap, laid⟩ := exists_normalLines_append false false before
    refine ⟨normalLines false false before ++ (if isGap then [[]] else []),
      normalLines true false after, ?_, ?_, solidLines_normalLines true false after⟩
    · rw [laid, normalLines_solid firstSolid, normalLines_gap areBlank,
        normalLines_solid secondSolid]
      cases gap <;> simp
    · rw [solidLines_append, solidLines_gap, solidLines_normalLines, List.append_nil]

/-- The normal form of a text consists of lines set like the trimmed lines of the text, joined by
line breaks; and a normal form is its own. -/
theorem normalize_is_normal_form
    (text : String) :
    (∃ shown,
        (normalize text).toList = ['\n'].intercalate shown ∧ (∀ line ∈ shown, '\n' ∉ line) ∧
          IsSetLike
            ((text.toList.splitOn '\n').map fun line =>
              (line.dropWhile isBlank).rdropWhile isBlank)
            shown) ∧
      normalize (normalize text) = normalize text := by
  have lines :
      (text.toList.splitOn '\n').map (fun line => (line.dropWhile isBlank).rdropWhile isBlank) =
        trimmedLines text := by
    rw [trimmedLines, splitChars_eq_splitOn]
    rfl
  rw [lines]
  exact ⟨⟨_, toList_normalize text, fun line isMember => (trimmed_of_mem_normalLines isMember).2,
    isSetLike_normalLines _⟩, normalize_normalize text⟩

/-- Spaces at the ends of a line go, two blank lines become one, and none is left at the end. -/
example : normalize "\n  first \n\tsecond\n\n \n third\n " = "first\nsecond\n\nthird" := by
  rfl

end Wayland.Text
