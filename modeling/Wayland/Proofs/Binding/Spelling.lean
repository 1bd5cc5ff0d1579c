import Mathlib.Data.List.Basic
import Wayland.Binding.Name
import Wayland.Proofs.Check.Offence
import Wayland.Proofs.Text.Encoding
import Wayland.Proofs.Text.Normal

/-!
Contract: how the names of generated code are spelled.

Owns:
- that exported names start with no small letter of ASCII;
- the characters that tell declared names from those of packages;
- the characters of exported and local names that come from accepted names;
- that local names keep clear of keywords and reserved names, and meet exactly where the names before
  the escape do.

Does not own: which names are declared, and which meet before the escape.
-/

namespace Wayland.Binding

open Wayland.Text

/-! ## Capital letters -/

def IsSmall
    (char : Char) : Prop :=
  97 ≤ char.toNat ∧ char.toNat ≤ 122

/-- A text that does not start with a small letter of ASCII. -/
def IsCapital
    (text : String) : Prop :=
  ∀ char ∈ text.toList.head?, ¬ IsSmall char

theorem toNat_ofNat
    (code : Nat) :
    (Char.ofNat code).toNat = code ∨ (Char.ofNat code).toNat = 0 := by
  by_cases isValid : code.isValidChar
  · exact .inl (Bytes.val_ofNat isValid)
  · rw [Char.ofNat, dif_neg isValid]
    exact .inr rfl

theorem not_isSmall_toUpper
    {char : Char}
    (isAscii : char.toNat < 128) :
    ¬ IsSmall char.toUpper := by
  have each : ∀ code < 128,
      ¬ (97 ≤ (Char.ofNat code).toUpper.toNat ∧ (Char.ofNat code).toUpper.toNat ≤ 122) := by
    decide
  have found := each char.toNat isAscii
  rwa [Char.ofNat_toNat] at found

/-- No run behind ASCII is mapped to a small letter of ASCII. -/
theorem upperRuns_pass_small :
    upperRuns.all (fun run =>
      decide (run.last < 128) || decide ((run.last : Int) + run.offset < 97)
        || decide (122 < (run.first : Int) + run.offset)) = true := by
  decide +kernel

theorem not_isSmall_mapCase
    {char : Char}
    (notAscii : 128 ≤ char.toNat) :
    ¬ IsSmall (mapCase upperRuns char) := by
  unfold mapCase IsSmall
  split
  · rename_i run found
    have passes := Array.all_eq_true_iff_forall_mem.mp upperRuns_pass_small run
      (Array.mem_of_find?_eq_some found)
    have covers := Array.find?_some found
    simp only [CaseRun.covers, Bool.and_eq_true, decide_eq_true_eq] at covers
    simp only [Bool.or_eq_true, decide_eq_true_eq] at passes
    rcases toNat_ofNat ((char.toNat : Int) + run.offset).toNat with same | isZero <;> omega
  · omega

theorem not_isSmall_upperChar
    (char : Char) :
    ¬ IsSmall (upperChar char) := by
  unfold upperChar
  split
  · rename_i isAscii
    exact not_isSmall_toUpper isAscii
  · rename_i notAscii
    exact not_isSmall_mapCase (Nat.le_of_not_lt notAscii)

/-- The characters that hold a character are itself, or characters for stray bytes. -/
theorem head_holdChar
    {char first : Char}
    (isFirst : first ∈ (Glyph.holdChar char).head?) :
    first = char ∨ ∃ byte, first = strayChar byte := by
  unfold Glyph.holdChar at isFirst
  split at isFirst
  · rw [List.head?_map, Option.mem_def, Option.map_eq_some_iff] at isFirst
    obtain ⟨byte, -, rfl⟩ := isFirst
    exact .inr ⟨byte, rfl⟩
  · cases isFirst
    exact .inl rfl

theorem not_isSmall_strayChar
    (byte : UInt8) :
    ¬ IsSmall (strayChar byte) := by
  unfold IsSmall strayChar strayBase
  rcases toNat_ofNat (0x10DC00 + byte.toNat) with same | isZero <;> omega

theorem holdChar_ne_nil
    (char : Char) :
    Glyph.holdChar char ≠ [] := by
  obtain ⟨first, tail, encoded, -⟩ := Bytes.firstChar?_encode char
  unfold Glyph.holdChar
  split
  · simp [encoded]
  · simp

theorem isCapital_capitalize
    (text : String) :
    IsCapital (capitalize text) := by
  unfold capitalize
  split
  · rintro char ⟨⟩
  · rename_i first rest _
    intro char isHead
    rw [hold, String.toList_ofList, List.flatMap_cons,
      List.head?_append_of_ne_nil _ (holdChar_ne_nil _)] at isHead
    rcases head_holdChar isHead with rfl | ⟨byte, rfl⟩
    · exact not_isSmall_upperChar first
    · exact not_isSmall_strayChar byte

/-- The words that are written in upper case, with how they are written. -/
def initialisms : List (String × String) :=
  [("id", "ID"), ("fd", "FD"), ("url", "URL"), ("uri", "URI"), ("dpms", "DPMS")]

theorem initialism?_mem
    {word upper : String}
    (found : initialism? word = some upper) :
    (word, upper) ∈ initialisms := by
  unfold initialism? at found
  split at found
  all_goals
    cases found
    try decide

theorem isCapital_initialisms :
    ∀ pair ∈ initialisms, IsCapital pair.2 := by
  simp [initialisms, IsCapital, IsSmall]

theorem isCapital_innerWord
    (word : String) :
    IsCapital (innerWord word) := by
  unfold innerWord
  cases found : initialism? word with
  | none => exact isCapital_capitalize word
  | some upper => exact isCapital_initialisms (word, upper) (initialism?_mem found)

theorem IsCapital.append
    {left right : String}
    (isLeft : IsCapital left)
    (isRight : IsCapital right) :
    IsCapital (left ++ right) := by
  intro char isHead
  rw [String.toList_append] at isHead
  cases chars : left.toList with
  | nil =>
      rw [chars] at isHead
      exact isRight char isHead
  | cons first rest =>
      rw [chars] at isHead
      exact isLeft char (by rw [chars]; exact isHead)

theorem isCapital_join
    {words : List String}
    (areCapital : ∀ word ∈ words, IsCapital word) :
    IsCapital (String.join words) := by
  induction words with
  | nil => rintro char ⟨⟩
  | cons word words inductionHypothesis =>
      obtain ⟨isFirst, others⟩ := List.forall_mem_cons.mp areCapital
      rw [String.join_cons]
      exact isFirst.append (inductionHypothesis others)

/-- An exported name starts with no small letter. -/
theorem isCapital_exportedName
    (name : String) :
    IsCapital (exportedName name) :=
  isCapital_join (List.forall_mem_map.mpr fun word _ => isCapital_innerWord word)

/-! ## Names of packages -/

/-- A text with a character that no package has in its name. -/
def IsMarked
    (text : String) : Prop :=
  ∃ char ∈ text.toList, isPackageChar char = false

theorem IsMarked.append_left
    {left : String}
    (isMarked : IsMarked left)
    (right : String) :
    IsMarked (left ++ right) := by
  obtain ⟨char, isMember, isMark⟩ := isMarked
  exact ⟨char, by simp [isMember], isMark⟩

theorem IsMarked.append_right
    (left : String)
    {right : String}
    (isMarked : IsMarked right) :
    IsMarked (left ++ right) := by
  obtain ⟨char, isMember, isMark⟩ := isMarked
  exact ⟨char, by simp [isMember], isMark⟩

theorem IsMarked.ne
    {name package : String}
    (isMarked : IsMarked name)
    (isPackage : ∀ char ∈ package.toList, isPackageChar char = true) :
    name ≠ package := by
  rintro rfl
  obtain ⟨char, isMember, isMark⟩ := isMarked
  rw [isPackage char isMember] at isMark
  cases isMark

/-- An identifier starts with no digit of ASCII. -/
theorem not_isDigit_of_isIdentifier
    {name : String}
    (isName : isIdentifier name = true)
    {first : Char}
    {rest : List Char}
    (chars : name.toList = first :: rest) :
    ¬ (48 ≤ first.toNat ∧ first.toNat ≤ 57) := by
  intro isDigit
  have notLetter : ∀ code < 58, 48 ≤ code → isLetter (Char.ofNat code) = false ∧
      Char.ofNat code ≠ '_' := by
    decide
  obtain ⟨noLetter, noUnderscore⟩ :=
    notLetter first.toNat (Nat.lt_succ_of_le isDigit.2) isDigit.1
  rw [Char.ofNat_toNat] at noLetter noUnderscore
  obtain ⟨_, _, others, isFirst, -, -⟩ := isIdentifier_iff.mp isName
  rw [chars] at others
  cases others
  simp [noLetter, noUnderscore] at isFirst

/-- An identifier that starts with no small letter. -/
theorem IsCapital.isMarked
    {name : String}
    (isCapital : IsCapital name)
    (isName : isIdentifier name = true) :
    IsMarked name := by
  obtain ⟨first, rest, chars, -⟩ := isIdentifier_iff.mp isName
  have notSmall : ¬ IsSmall first := isCapital first (by simp [chars])
  refine ⟨first, by simp [chars], ?_⟩
  rw [← Bool.not_eq_true]
  intro isPackage
  simp only [isPackageChar, Bool.or_eq_true, Bool.and_eq_true, decide_eq_true_eq, Char.le_def,
    UInt32.le_iff_toNat_le] at isPackage
  rcases isPackage with isSmall | isDigit
  · exact notSmall isSmall
  · exact not_isDigit_of_isIdentifier isName chars isDigit

/-! ## Letters and digits -/

def IsAlnum
    (char : Char) : Prop :=
  IsSmall char ∨ (65 ≤ char.toNat ∧ char.toNat ≤ 90) ∨ (48 ≤ char.toNat ∧ char.toNat ≤ 57)

theorem IsAlnum.lt
    {char : Char}
    (isAlnum : IsAlnum char) :
    char.toNat < 128 := by
  unfold IsAlnum IsSmall at isAlnum
  omega

theorem IsAlnum.ne_underscore
    {char : Char}
    (isAlnum : IsAlnum char) :
    char ≠ '_' := by
  rintro rfl
  revert isAlnum
  unfold IsAlnum IsSmall
  decide

/-- What stands in an accepted name. -/
theorem isAlnum_of_isWordChar
    {char : Char}
    (isWordChar : Check.IsWordChar char) :
    IsAlnum char ∨ char = '_' := by
  simp only [Check.IsWordChar, Check.IsLetter, Check.IsDigit, Char.le_def, UInt32.le_iff_toNat_le]
    at isWordChar
  unfold IsAlnum IsSmall
  rcases isWordChar with (isCapital | isSmall) | isDigit | isUnderscore
  · exact .inl (.inr (.inl isCapital))
  · exact .inl (.inl isSmall)
  · exact .inl (.inr (.inr isDigit))
  · exact .inr isUnderscore

theorem toNat_toUpper
    {char : Char}
    (isAscii : char.toNat < 128) :
    char.toUpper.toNat =
      if 97 ≤ char.toNat ∧ char.toNat ≤ 122 then char.toNat - 32 else char.toNat := by
  have each : ∀ code < 128, (Char.ofNat code).toUpper.toNat =
      if 97 ≤ code ∧ code ≤ 122 then code - 32 else code := by
    decide
  have found := each char.toNat isAscii
  rwa [Char.ofNat_toNat] at found

theorem toNat_toLower
    {char : Char}
    (isAscii : char.toNat < 128) :
    char.toLower.toNat =
      if 65 ≤ char.toNat ∧ char.toNat ≤ 90 then char.toNat + 32 else char.toNat := by
  have each : ∀ code < 128, (Char.ofNat code).toLower.toNat =
      if 65 ≤ code ∧ code ≤ 90 then code + 32 else code := by
    decide
  have found := each char.toNat isAscii
  rwa [Char.ofNat_toNat] at found

theorem IsAlnum.toUpper
    {char : Char}
    (isAlnum : IsAlnum char) :
    IsAlnum char.toUpper := by
  have mapped := toNat_toUpper isAlnum.lt
  unfold IsAlnum IsSmall at isAlnum ⊢
  split at mapped <;> omega

theorem IsAlnum.toLower
    {char : Char}
    (isAlnum : IsAlnum char) :
    IsAlnum char.toLower := by
  have mapped := toNat_toLower isAlnum.lt
  unfold IsAlnum IsSmall at isAlnum ⊢
  split at mapped <;> omega

/-! ## Texts of letters and digits -/

section Texts

variable {word : String}

theorem strayByte?_ascii
    {char : Char}
    (isAscii : char.toNat < 128) :
    strayByte? char = none :=
  if_neg (by unfold strayBase; omega)

theorem mended_alnum
    (areAlnum : ∀ char ∈ word.toList, IsAlnum char) :
    mended word = word.toList := by
  rw [mended, glyphs_of_whole fun char isMember => strayByte?_ascii (areAlnum char isMember).lt]
  rw [List.map_map]
  exact List.map_id'' (fun _ => rfl) _

theorem hold_alnum
    {chars : List Char}
    (areAlnum : ∀ char ∈ chars, IsAlnum char) :
    hold chars = String.ofList chars := by
  have each : chars.flatMap Glyph.holdChar = chars.flatMap fun char => [char] :=
    List.flatMap_congr fun char isMember => by
      simp [Glyph.holdChar, strayByte?_ascii (areAlnum char isMember).lt]
  rw [hold, each]
  simp

theorem capitalize_alnum
    {first : Char}
    {rest : List Char}
    (areAlnum : ∀ char ∈ first :: rest, IsAlnum char) :
    (capitalize (String.ofList (first :: rest))).toList = first.toUpper :: rest := by
  obtain ⟨isFirst, areRest⟩ := List.forall_mem_cons.mp areAlnum
  have upper : upperChar first = first.toUpper := if_pos isFirst.lt
  rw [capitalize, mended_alnum (by simpa using areAlnum), String.toList_ofList]
  simp only [upper]
  rw [hold_alnum (List.forall_mem_cons.mpr ⟨isFirst.toUpper, areRest⟩), String.toList_ofList]

theorem lowerText_alnum
    (areAlnum : ∀ char ∈ word.toList, IsAlnum char) :
    (lowerText word).toList = word.toList.map Char.toLower := by
  have lower : word.toList.map lowerChar = word.toList.map Char.toLower :=
    List.map_congr_left fun char isMember => if_pos (areAlnum char isMember).lt
  have areLower : ∀ char ∈ word.toList.map Char.toLower, IsAlnum char :=
    List.forall_mem_map.mpr fun char isMember => (areAlnum char isMember).toLower
  rw [lowerText, mended_alnum areAlnum, lower, hold_alnum areLower, String.toList_ofList]

theorem isAlnum_innerWord
    (areAlnum : ∀ char ∈ word.toList, IsAlnum char) :
    ∀ char ∈ (innerWord word).toList, IsAlnum char := by
  unfold innerWord
  cases found : initialism? word with
  | some upper =>
      have areParts : ∀ pair ∈ initialisms, ∀ char ∈ pair.2.toList, IsAlnum char := by
        simp [initialisms, IsAlnum, IsSmall]
      exact areParts (word, upper) (initialism?_mem found)
  | none =>
      cases chars : word.toList with
      | nil =>
          have isEmpty : word = "" := String.toList_inj.mp chars
          have nothing : (capitalize "").toList = [] := by decide
          intro char isMember
          rw [isEmpty, Option.getD_none, nothing] at isMember
          cases isMember
      | cons first rest =>
          rw [chars] at areAlnum
          have isWord : word = String.ofList (first :: rest) := by
            rw [← chars, String.ofList_toList]
          obtain ⟨isFirst, areRest⟩ := List.forall_mem_cons.mp areAlnum
          rw [isWord, Option.getD_none, capitalize_alnum areAlnum]
          exact List.forall_mem_cons.mpr ⟨isFirst.toUpper, areRest⟩

end Texts

/-! ## Names -/

/-- A name of letters, digits and underscores. -/
def IsWordText
    (name : String) : Prop :=
  ∀ char ∈ name.toList, IsAlnum char ∨ char = '_'

theorem isWordText_of_spells
    {name : String}
    (isName : Check.SpellsIdentifier name) :
    IsWordText name := by
  obtain ⟨first, rest, chars, isFirst, areRest⟩ := isName
  have isWord : Check.IsWordChar first := isFirst.imp_right .inr
  intro char isMember
  rw [chars] at isMember
  rcases List.mem_cons.mp isMember with rfl | inRest
  · exact isAlnum_of_isWordChar isWord
  · exact isAlnum_of_isWordChar (areRest char inRest)

theorem IsWordText.append
    {left right : String}
    (isLeft : IsWordText left)
    (isRight : IsWordText right) :
    IsWordText (left ++ right) := by
  intro char isMember
  rw [String.toList_append] at isMember
  exact (List.mem_append.mp isMember).elim (isLeft char) (isRight char)

theorem mem_intercalate
    {α : Type}
    {separator list : List α}
    {lists : List (List α)}
    {item : α}
    (isList : list ∈ lists)
    (isMember : item ∈ list) :
    item ∈ separator.intercalate lists := by
  induction lists with
  | nil => cases isList
  | cons first rest inductionHypothesis =>
      rcases List.mem_cons.mp isList with rfl | inRest
      · cases rest <;> simp [isMember]
      · rw [List.intercalate_cons_of_ne_nil (List.ne_nil_of_mem inRest)]
        simp [inductionHypothesis inRest]

section Names

variable {name : String}

/-- The words of an accepted name consist of letters and digits. -/
theorem isAlnum_nameWords
    (isText : IsWordText name)
    {word : String}
    (isWord : word ∈ nameWords name) :
    ∀ char ∈ word.toList, IsAlnum char := by
  intro char isMember
  obtain ⟨inSplit, -⟩ := List.mem_filter.mp isWord
  obtain ⟨chars, isPiece, rfl⟩ := List.mem_map.mp inSplit
  rw [String.toList_ofList] at isMember
  have notSeparator : char ≠ '_' := fun same =>
    notMem_of_mem_splitChars isPiece (same ▸ isMember)
  rw [splitChars_eq_splitOn] at isPiece
  have pieces : ['_'].intercalate (name.toList.splitOn '_') = name.toList :=
    List.intercalate_splitOn '_'
  have inName : char ∈ name.toList := by
    rw [← pieces]
    exact mem_intercalate isPiece isMember
  exact (isText char inName).resolve_right notSeparator

theorem isAlnum_join
    {words : List String}
    (areAlnum : ∀ word ∈ words, ∀ char ∈ word.toList, IsAlnum char) :
    ∀ char ∈ (String.join (words.map innerWord)).toList, IsAlnum char := by
  intro char isMember
  rw [String.toList_join, List.mem_flatMap] at isMember
  obtain ⟨inner, isInner, isMember⟩ := isMember
  obtain ⟨word, isWord, rfl⟩ := List.mem_map.mp isInner
  exact isAlnum_innerWord (areAlnum word isWord) char isMember

theorem isAlnum_exportedName
    (isText : IsWordText name) :
    ∀ char ∈ (exportedName name).toList, IsAlnum char :=
  isAlnum_join fun _ isWord => isAlnum_nameWords isText isWord

/-- Before reserved names are avoided, a local name has no underscore. -/
theorem isAlnum_plainLocalName
    (isText : IsWordText name) :
    ∀ char ∈ (plainLocalName name).toList, IsAlnum char := by
  have areAlnum (word : String) (isWord : word ∈ nameWords name) := isAlnum_nameWords isText isWord
  unfold plainLocalName
  cases words : nameWords name with
  | nil => simp [IsAlnum, IsSmall]
  | cons first rest =>
      rw [words] at areAlnum
      have isFirst := areAlnum first List.mem_cons_self
      intro char isMember
      simp only [String.toList_append, List.mem_append] at isMember
      rcases isMember with inFirst | inRest
      · rw [lowerText_alnum isFirst] at inFirst
        obtain ⟨source, isSource, rfl⟩ := List.mem_map.mp inFirst
        exact (isFirst source isSource).toLower
      · exact isAlnum_join (fun word isWord => areAlnum word (List.mem_cons_of_mem _ isWord)) char
          inRest

/-! ## Reserved names -/

variable {reserved : List String}

theorem underscore_notMem
    (isText : IsWordText name) :
    '_' ∉ (plainLocalName name).toList :=
  fun isMember => (isAlnum_plainLocalName isText '_' isMember).ne_underscore rfl

theorem keywords_plain :
    ∀ word ∈ keywords, '_' ∉ word.toList := by
  decide

/-- A local name is no keyword and no reserved name, where these have no underscore. -/
theorem localName_clear
    (arePlain : ∀ word ∈ reserved, '_' ∉ word.toList)
    (name : String) :
    localName reserved name ∉ keywords ∧ localName reserved name ∉ reserved := by
  have escaped : '_' ∈ (plainLocalName name ++ "_").toList := by simp
  unfold localName
  simp only
  split
  · exact ⟨fun isMember => keywords_plain _ isMember escaped,
      fun isMember => arePlain _ isMember escaped⟩
  · rename_i isClear
    simp only [Bool.or_eq_true, List.contains_iff_mem, not_or] at isClear
    exact isClear

/-- The escape keeps local names apart: two of them meet exactly if they do without it. -/
theorem localName_eq_iff
    {other : String}
    (isText : IsWordText name)
    (isOther : IsWordText other) :
    localName reserved name = localName reserved other ↔
      plainLocalName name = plainLocalName other := by
  constructor
  · intro same
    unfold localName at same
    simp only at same
    split at same <;> split at same
    · exact (String.append_left_inj "_").mp same
    · exact absurd (by rw [← same]; simp) (underscore_notMem isOther)
    · exact absurd (by rw [same]; simp) (underscore_notMem isText)
    · exact same
  · intro same
    unfold localName
    rw [same]

end Names

end Wayland.Binding
