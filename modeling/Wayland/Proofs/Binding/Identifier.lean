import Mathlib.Data.List.Chain
import Wayland.Proofs.Binding.Spelling

/-!
Contract: which names become identifiers, and which keep apart.

Owns:
- a form of names from which the words can be read back, where they are written one behind the other;
- that no two names of this form have the same local name;
- names whose first character behind leading underscores is a letter: their exported names are
  identifiers with a capital letter first;
- that the local names of these, and of underscores only, are identifiers.

Does not own: names that lead with a digit, and names of other forms, of which several may have one
local name.
-/

namespace Wayland.Binding

open Wayland.Text

def IsUpper
    (char : Char) : Prop :=
  65 ≤ char.toNat ∧ char.toNat ≤ 90

/-- A small letter or a digit of ASCII. -/
def IsLow
    (char : Char) : Prop :=
  IsSmall char ∨ (48 ≤ char.toNat ∧ char.toNat ≤ 57)

/-- A small letter, and then small letters and digits. -/
def IsInnerWord
    (word : String) : Prop :=
  ∃ first rest, word.toList = first :: rest ∧ IsSmall first ∧ ∀ char ∈ rest, IsLow char

/-- A name of words with single underscores between them.  The words start with small letters and go
on with these and digits; the first may start with a digit.  Behind its first word, a word of one
letter is followed by none that is a letter or an initialism. -/
structure IsSnake
    (name : String) : Prop where
  named : nameWords name ≠ []
  whole : String.intercalate "_" (nameWords name) = name
  first : ∀ word ∈ (nameWords name).head?, ∀ char ∈ word.toList, IsLow char
  inner : ∀ word ∈ (nameWords name).tail, IsInnerWord word
  apart : (nameWords name).tail.IsChain fun word next =>
    word.length = 1 → 2 ≤ next.length ∧ initialism? next = none

/-! ## Characters -/

/-- Characters that start with a capital letter, if there are any. -/
def StartsUpper
    (chars : List Char) : Prop :=
  ∀ char ∈ chars.head?, IsUpper char

/-- No characters, or at least two of which the second is no capital letter. -/
def IsLoose
    (chars : List Char) : Prop :=
  chars = [] ∨ ∃ first second rest, chars = first :: second :: rest ∧ ¬ IsUpper second

theorem IsLow.not_isUpper
    {char : Char}
    (isLow : IsLow char) :
    ¬ IsUpper char := by
  unfold IsLow IsSmall at isLow
  unfold IsUpper
  omega

theorem IsLow.isAlnum
    {char : Char}
    (isLow : IsLow char) :
    IsAlnum char :=
  isLow.imp_right .inr

theorem IsSmall.isUpper_toUpper
    {char : Char}
    (isSmall : IsSmall char) :
    IsUpper char.toUpper := by
  unfold IsSmall at isSmall
  have isAscii : char.toNat < 128 := by omega
  have mapped := toNat_toUpper isAscii
  unfold IsUpper
  rw [if_pos isSmall] at mapped
  omega

theorem toUpper_injective
    {one other : Char}
    (isOne : IsSmall one)
    (isOther : IsSmall other)
    (same : one.toUpper = other.toUpper) :
    one = other := by
  unfold IsSmall at isOne isOther
  have first := toNat_toUpper (by omega : one.toNat < 128)
  have second := toNat_toUpper (by omega : other.toNat < 128)
  rw [if_pos isOne] at first
  rw [if_pos isOther, ← same] at second
  exact Char.toNat_inj.mp (by omega)

theorem IsLow.toLower_eq
    {char : Char}
    (isLow : IsLow char) :
    char.toLower = id char := by
  have mapped := toNat_toLower isLow.isAlnum.lt
  unfold IsLow IsSmall at isLow
  rw [if_neg (by omega)] at mapped
  exact Char.toNat_inj.mp mapped

/-! ## One word -/

/-- How a word is written inside a name. -/
theorem innerWord_cases
    {word : String}
    (isInner : IsInnerWord word) :
    (∃ upper, (word, upper) ∈ initialisms ∧ (innerWord word).toList = upper.toList) ∨
      initialism? word = none ∧ ∃ first rest, word.toList = first :: rest ∧ IsSmall first ∧
        (∀ char ∈ rest, IsLow char) ∧ (innerWord word).toList = first.toUpper :: rest := by
  cases found : initialism? word with
  | some upper => exact .inl ⟨upper, initialism?_mem found, by simp [innerWord, found]⟩
  | none =>
      obtain ⟨first, rest, chars, isFirst, areRest⟩ := isInner
      have isWord : word = String.ofList (first :: rest) := by rw [← chars, String.ofList_toList]
      have areAlnum : ∀ char ∈ first :: rest, IsAlnum char :=
        List.forall_mem_cons.mpr ⟨.inl isFirst, fun char isMember => (areRest char isMember).isAlnum⟩
      refine .inr ⟨rfl, first, rest, chars, isFirst, areRest, ?_⟩
      rw [innerWord, found, Option.getD_none, isWord, capitalize_alnum areAlnum]

/-- Two runs without capital letters before what starts with one. -/
theorem append_low_inj
    {run other behind otherBehind : List Char}
    (isRun : ∀ char ∈ run, ¬ IsUpper char)
    (isOther : ∀ char ∈ other, ¬ IsUpper char)
    (starts : StartsUpper behind)
    (otherStarts : StartsUpper otherBehind)
    (same : run ++ behind = other ++ otherBehind) :
    run = other ∧ behind = otherBehind := by
  induction run generalizing other with
  | nil =>
      cases other with
      | nil => exact ⟨rfl, same⟩
      | cons char other =>
          exact absurd (starts char (by rw [← List.nil_append behind, same]; rfl))
            (isOther char List.mem_cons_self)
  | cons char run inductionHypothesis =>
      cases other with
      | nil =>
          exact absurd (otherStarts char (by rw [← List.nil_append otherBehind, ← same]; rfl))
            (isRun char List.mem_cons_self)
      | cons next other =>
          obtain ⟨sameChar, sameRest⟩ := List.cons.inj same
          obtain ⟨sameRun, sameBehind⟩ := inductionHypothesis
            (List.forall_mem_cons.mp isRun).2 (List.forall_mem_cons.mp isOther).2 sameRest
          exact ⟨by rw [sameChar, sameRun], sameBehind⟩

theorem initialisms_upper :
    ∀ pair ∈ initialisms, ∃ first second rest, pair.2.toList = first :: second :: rest ∧
      IsUpper first ∧ IsUpper second ∧ ∀ char ∈ rest, IsUpper char := by
  simp [initialisms, IsUpper]

/-- No initialism starts another one. -/
theorem initialisms_apart
    {one other : String × String}
    (isOne : one ∈ initialisms)
    (isOther : other ∈ initialisms)
    {behind otherBehind : List Char}
    (same : one.2.toList ++ behind = other.2.toList ++ otherBehind) :
    one.1 = other.1 ∧ behind = otherBehind := by
  simp only [initialisms, List.mem_cons, List.not_mem_nil, or_false] at isOne isOther
  rcases isOne with rfl | rfl | rfl | rfl | rfl <;>
    rcases isOther with rfl | rfl | rfl | rfl | rfl <;> simp at same ⊢ <;> exact same

/-- An initialism is not spelled by a single letter and what follows it. -/
theorem initialism_ne_word
    {pair : String × String}
    (isPair : pair ∈ initialisms)
    {first : Char}
    {rest behind otherBehind : List Char}
    (areRest : ∀ char ∈ rest, IsLow char)
    (starts : StartsUpper behind)
    (loose : rest = [] → IsLoose otherBehind) :
    pair.2.toList ++ behind ≠ first.toUpper :: rest ++ otherBehind := by
  intro same
  obtain ⟨upper, second, more, chars, -, isSecond, areMore⟩ := initialisms_upper pair isPair
  rw [chars] at same
  have others : second :: (more ++ behind) = rest ++ otherBehind := (List.cons.inj same).2
  cases rest with
  | cons char rest =>
      have sameChar : second = char := (List.cons.inj others).1
      exact (areRest char List.mem_cons_self).not_isUpper (sameChar ▸ isSecond)
  | nil =>
      rcases loose rfl with isEmpty | ⟨one, next, tail, isTail, notUpper⟩
      · rw [isEmpty] at others
        cases others
      · rw [isTail] at others
        have sameNext : more ++ behind = next :: tail := (List.cons.inj others).2
        cases more with
        | nil => exact notUpper (starts next (by rw [← List.nil_append behind, sameNext]; rfl))
        | cons char more =>
            rw [← (List.cons.inj sameNext).1] at notUpper
            exact notUpper (areMore char List.mem_cons_self)

/-- The first word and the rest can be told apart. -/
theorem innerWord_append_inj
    {word other : String}
    {behind otherBehind : List Char}
    (isInner : IsInnerWord word)
    (isOther : IsInnerWord other)
    (starts : StartsUpper behind)
    (otherStarts : StartsUpper otherBehind)
    (loose : word.length = 1 → IsLoose behind)
    (otherLoose : other.length = 1 → IsLoose otherBehind)
    (same : (innerWord word).toList ++ behind = (innerWord other).toList ++ otherBehind) :
    word = other ∧ behind = otherBehind := by
  have single {text : String} {first : Char} (chars : text.toList = [first]) : text.length = 1 := by
    rw [← String.length_toList, chars]
    rfl
  rcases innerWord_cases isInner with ⟨upper, isPair, written⟩ | ⟨-, first, rest, chars, isFirst,
    areRest, written⟩ <;> rcases innerWord_cases isOther with ⟨otherUpper, isOtherPair,
    otherWritten⟩ | ⟨-, otherFirst, otherRest, otherChars, isOtherFirst, areOtherRest, otherWritten⟩
  · rw [written, otherWritten] at same
    exact initialisms_apart isPair isOtherPair same
  · rw [written, otherWritten] at same
    refine absurd same (initialism_ne_word isPair areOtherRest starts fun isEmpty => otherLoose ?_)
    exact single (by rw [otherChars, isEmpty])
  · rw [written, otherWritten] at same
    refine absurd same.symm (initialism_ne_word isOtherPair areRest otherStarts fun isEmpty =>
      loose ?_)
    exact single (by rw [chars, isEmpty])
  · rw [written, otherWritten] at same
    obtain ⟨sameFirst, sameRest⟩ := List.cons.inj same
    obtain ⟨sameRun, sameBehind⟩ := append_low_inj
      (fun char isMember => (areRest char isMember).not_isUpper)
      (fun char isMember => (areOtherRest char isMember).not_isUpper) starts otherStarts sameRest
    refine ⟨String.toList_inj.mp ?_, sameBehind⟩
    rw [chars, otherChars, toUpper_injective isFirst isOtherFirst sameFirst, sameRun]

/-! ## Names -/

def innerChars
    (words : List String) :
    List Char :=
  words.flatMap fun word => (innerWord word).toList

theorem exists_upper_innerWord
    {word : String}
    (isInner : IsInnerWord word) :
    ∃ first rest, (innerWord word).toList = first :: rest ∧ IsUpper first := by
  rcases innerWord_cases isInner with ⟨upper, isPair, written⟩ | ⟨-, first, rest, -, isFirst, -,
    written⟩
  · obtain ⟨first, second, rest, chars, isFirst, -⟩ := initialisms_upper _ isPair
    exact ⟨first, second :: rest, written.trans chars, isFirst⟩
  · exact ⟨first.toUpper, rest, written, isFirst.isUpper_toUpper⟩

theorem startsUpper_innerChars
    {words : List String}
    (areInner : ∀ word ∈ words, IsInnerWord word) :
    StartsUpper (innerChars words) := by
  cases words with
  | nil => rintro _ ⟨⟩
  | cons word words =>
      obtain ⟨first, rest, written, isFirst⟩ := exists_upper_innerWord
        (areInner word List.mem_cons_self)
      intro char isHead
      rw [innerChars, List.flatMap_cons, written] at isHead
      cases isHead
      exact isFirst

/-- A long word that is no initialism makes a loose start. -/
theorem isLoose_innerChars
    {words : List String}
    (areInner : ∀ word ∈ words, IsInnerWord word)
    (isLong : ∀ word ∈ words.head?, 2 ≤ word.length ∧ initialism? word = none) :
    IsLoose (innerChars words) := by
  cases words with
  | nil => exact .inl rfl
  | cons word words =>
      obtain ⟨atLeast, noInitialism⟩ := isLong word rfl
      rcases innerWord_cases (areInner word List.mem_cons_self) with ⟨upper, isPair, -⟩ |
        ⟨-, first, rest, chars, -, areRest, written⟩
      · have areFound : ∀ pair ∈ initialisms, initialism? pair.1 ≠ none := by decide
        exact absurd noInitialism (areFound _ isPair)
      · rw [← String.length_toList, chars] at atLeast
        cases rest with
        | nil => simp at atLeast
        | cons second rest =>
            refine .inr ⟨first.toUpper, second, rest ++ innerChars words, ?_,
              (areRest second List.mem_cons_self).not_isUpper⟩
            rw [innerChars, List.flatMap_cons, written]
            rfl

/-- The words of a name can be read back. -/
theorem innerChars_injective
    {words others : List String}
    (areInner : ∀ word ∈ words, IsInnerWord word)
    (areOthers : ∀ word ∈ others, IsInnerWord word)
    (apart : words.IsChain fun word next =>
      word.length = 1 → 2 ≤ next.length ∧ initialism? next = none)
    (othersApart : others.IsChain fun word next =>
      word.length = 1 → 2 ≤ next.length ∧ initialism? next = none)
    (same : innerChars words = innerChars others) :
    words = others := by
  induction words generalizing others with
  | nil =>
      cases others with
      | nil => rfl
      | cons other others =>
          obtain ⟨first, rest, written, -⟩ := exists_upper_innerWord
            (areOthers other List.mem_cons_self)
          rw [innerChars, innerChars, List.flatMap_cons, written] at same
          cases same
  | cons word words inductionHypothesis =>
      cases others with
      | nil =>
          obtain ⟨first, rest, written, -⟩ := exists_upper_innerWord
            (areInner word List.mem_cons_self)
          rw [innerChars, List.flatMap_cons, written] at same
          cases same
      | cons other others =>
          obtain ⟨isInner, restInner⟩ := List.forall_mem_cons.mp areInner
          obtain ⟨isOther, restOthers⟩ := List.forall_mem_cons.mp areOthers
          rw [List.isChain_cons] at apart othersApart
          obtain ⟨sameWord, sameRest⟩ := innerWord_append_inj isInner isOther
            (startsUpper_innerChars restInner) (startsUpper_innerChars restOthers)
            (fun single => isLoose_innerChars restInner fun next isNext => apart.1 next isNext single)
            (fun single => isLoose_innerChars restOthers fun next isNext =>
              othersApart.1 next isNext single)
            same
          rw [sameWord, inductionHypothesis restInner restOthers apart.2 othersApart.2 sameRest]

/-- Names whose words can be read back have different local names. -/
theorem plainLocalName_injective
    {name other : String}
    (isSnake : IsSnake name)
    (isOther : IsSnake other)
    (same : plainLocalName name = plainLocalName other) :
    name = other := by
  have spelled {name : String} (isSnake : IsSnake name) :
      ∃ first rest, nameWords name = first :: rest ∧ (∀ char ∈ first.toList, IsLow char) ∧
        (plainLocalName name).toList = first.toList ++ innerChars rest := by
    obtain ⟨first, rest, words⟩ := List.exists_cons_of_ne_nil isSnake.named
    have isFirst := isSnake.first first (by rw [words]; rfl)
    have lower : (lowerText first).toList = first.toList := by
      rw [lowerText_alnum fun char isMember => (isFirst char isMember).isAlnum]
      exact (List.map_congr_left fun char isMember => (isFirst char isMember).toLower_eq).trans
        (List.map_id _)
    refine ⟨first, rest, words, isFirst, ?_⟩
    rw [plainLocalName, words]
    simp only [String.toList_append, String.toList_join, lower, List.flatMap_map]
    rfl
  obtain ⟨first, rest, words, isFirst, chars⟩ := spelled isSnake
  obtain ⟨otherFirst, otherRest, otherWords, isOtherFirst, otherChars⟩ := spelled isOther
  have areInner := isSnake.inner
  have areOthers := isOther.inner
  have apart := isSnake.apart
  have othersApart := isOther.apart
  rw [words, List.tail_cons] at areInner apart
  rw [otherWords, List.tail_cons] at areOthers othersApart
  rw [← String.toList_inj, chars, otherChars] at same
  obtain ⟨sameFirst, sameRest⟩ := append_low_inj
    (fun char isMember => (isFirst char isMember).not_isUpper)
    (fun char isMember => (isOtherFirst char isMember).not_isUpper)
    (startsUpper_innerChars areInner) (startsUpper_innerChars areOthers) same
  rw [← isSnake.whole, ← isOther.whole, words, otherWords, String.toList_inj.mp sameFirst,
    innerChars_injective areInner areOthers apart othersApart sameRest]

/-! ## Identifiers -/

def IsAsciiLetter
    (char : Char) : Prop :=
  IsSmall char ∨ IsUpper char

theorem IsAsciiLetter.isAlnum
    {char : Char}
    (isAsciiLetter : IsAsciiLetter char) :
    IsAlnum char :=
  isAsciiLetter.imp_right .inl

theorem IsAsciiLetter.isLetter
    {char : Char}
    (isAsciiLetter : IsAsciiLetter char) :
    isLetter char = true := by
  have each : ∀ code < 128, (97 ≤ code ∧ code ≤ 122) ∨ (65 ≤ code ∧ code ≤ 90) →
      (Char.ofNat code).isAlpha = true := by
    decide
  have found := each char.toNat isAsciiLetter.isAlnum.lt isAsciiLetter
  rw [Char.ofNat_toNat] at found
  unfold Text.isLetter
  rwa [if_pos isAsciiLetter.isAlnum.lt]

/-- The characters behind the first one of an identifier. -/
theorem isIdentifierChar_of_word
    {char : Char}
    (isWord : IsAlnum char ∨ char = '_') :
    (char == '_' || isLetter char || isDecimalDigit char) = true := by
  rcases isWord with isAlnum | isUnderscore
  · have each : ∀ code < 128, (48 ≤ code ∧ code ≤ 57) → (Char.ofNat code).isDigit = true := by
      decide
    rcases isAlnum with isSmall | isUpper | isDigit
    · simp [IsAsciiLetter.isLetter (.inl isSmall)]
    · simp [IsAsciiLetter.isLetter (.inr isUpper)]
    · have isAscii : char.toNat < 128 := by omega
      have found := each char.toNat isAscii isDigit
      rw [Char.ofNat_toNat] at found
      simp [isDecimalDigit, isAscii, found]
  · simp [isUnderscore]

/-- Letters, digits and underscores with a letter first, unless they are a keyword. -/
theorem isIdentifier_of_chars
    {name : String}
    {first : Char}
    {rest : List Char}
    (chars : name.toList = first :: rest)
    (isFirst : IsAsciiLetter first)
    (areRest : ∀ char ∈ rest, IsAlnum char ∨ char = '_')
    (notKeyword : name ∉ keywords) :
    isIdentifier name = true := by
  refine isIdentifier_iff.mpr ⟨first, rest, chars, .inr isFirst.isLetter, ?_, notKeyword⟩
  intro char isMember
  simpa using isIdentifierChar_of_word (areRest char isMember)

/-- A keyword starts with a small letter. -/
theorem isSmall_keywords :
    ∀ word ∈ keywords, ∃ first ∈ word.toList.head?, IsSmall first := by
  have each : (keywords.all fun word => word.toList.head?.any fun first =>
      decide (97 ≤ first.toNat) && decide (first.toNat ≤ 122)) = true := by decide
  simpa only [IsSmall, List.all_eq_true, Option.any_eq_true, Option.mem_def, Bool.and_eq_true,
    decide_eq_true_eq] using each

/-- A text that starts with a capital letter and goes on with letters and digits. -/
def IsExported
    (name : String) : Prop :=
  ∃ first rest, name.toList = first :: rest ∧ IsUpper first ∧ ∀ char ∈ rest, IsAlnum char

theorem IsExported.isIdentifier
    {name : String}
    (isExported : IsExported name) :
    isIdentifier name = true := by
  obtain ⟨first, rest, chars, isUpper, areRest⟩ := isExported
  apply isIdentifier_of_chars chars (.inr isUpper) fun char isMember => .inl (areRest char isMember)
  intro isKeyword
  obtain ⟨head, isHead, isSmall⟩ := isSmall_keywords name isKeyword
  rw [chars] at isHead
  cases isHead
  unfold IsUpper at isUpper
  unfold IsSmall at isSmall
  omega

/-- No keyword has a capital letter. -/
theorem not_isUpper_keywords :
    ∀ word ∈ keywords, ∀ char ∈ word.toList, ¬ IsUpper char := by
  have each : (keywords.all fun word => word.toList.all fun char =>
      !(decide (65 ≤ char.toNat) && decide (char.toNat ≤ 90))) = true := by decide
  simpa only [IsUpper, List.all_eq_true, Bool.not_eq_true', ← Bool.not_eq_true, Bool.and_eq_true,
    decide_eq_true_eq] using each

/-- A name behind small letters is an identifier. -/
theorem IsExported.isIdentifier_behind
    {name : String}
    (isExported : IsExported name)
    {before : String}
    {head : Char}
    {tail : List Char}
    (chars : before.toList = head :: tail)
    (areSmall : ∀ char ∈ before.toList, IsSmall char) :
    Binding.isIdentifier (before ++ name) = true := by
  obtain ⟨first, rest, nameChars, isUpper, areRest⟩ := isExported
  rw [chars, List.forall_mem_cons] at areSmall
  have allChars : (before ++ name).toList = head :: (tail ++ first :: rest) := by
    rw [String.toList_append, chars, nameChars, List.cons_append]
  refine isIdentifier_of_chars allChars (.inl areSmall.1) ?_ ?_
  · rw [List.forall_mem_append, List.forall_mem_cons]
    exact ⟨fun char isMember => .inl (.inl (areSmall.2 char isMember)),
      .inl (.inr (.inl isUpper)), fun char isMember => .inl (areRest char isMember)⟩
  · intro isKeyword
    apply not_isUpper_keywords _ isKeyword first _ isUpper
    rw [allChars]
    exact List.mem_cons_of_mem _ (List.mem_append_right _ List.mem_cons_self)

theorem IsExported.append
    {name behind : String}
    (isExported : IsExported name)
    (areAlnum : ∀ char ∈ behind.toList, IsAlnum char) :
    IsExported (name ++ behind) := by
  obtain ⟨first, rest, chars, isUpper, areRest⟩ := isExported
  refine ⟨first, rest ++ behind.toList, ?_, isUpper, ?_⟩
  · rw [String.toList_append, chars, List.cons_append]
  · exact List.forall_mem_append.mpr ⟨areRest, areAlnum⟩

theorem IsExported.isAlnum
    {name : String}
    (isExported : IsExported name) :
    ∀ char ∈ name.toList, IsAlnum char := by
  obtain ⟨first, rest, chars, isUpper, areRest⟩ := isExported
  rw [chars, List.forall_mem_cons]
  exact ⟨.inr (.inl isUpper), areRest⟩

/-! ## Names that lead with a letter -/

/-- A name whose first character behind leading underscores is a letter. -/
def LeadsWithLetter
    (name : String) : Prop :=
  ∃ first ∈ (name.toList.dropWhile (· == '_')).head?, IsAsciiLetter first

def IsBlankName
    (name : String) : Prop :=
  ∀ char ∈ name.toList, char = '_'

theorem LeadsWithLetter.append
    {name : String}
    (leads : LeadsWithLetter name)
    (behind : String) :
    LeadsWithLetter (name ++ behind) := by
  obtain ⟨first, isHead, isLetter⟩ := leads
  obtain ⟨rest, chars⟩ := List.head?_eq_some_iff.mp isHead
  refine ⟨first, ?_, isLetter⟩
  rw [String.toList_append, List.dropWhile_append, chars]
  rfl

theorem IsBlankName.leads_append
    {name behind : String}
    (isBlank : IsBlankName name)
    (leads : LeadsWithLetter behind) :
    LeadsWithLetter (name ++ behind) := by
  have nothing : name.toList.dropWhile (· == '_') = [] :=
    List.dropWhile_eq_nil_iff.mpr fun char isMember => by simp [isBlank char isMember]
  unfold LeadsWithLetter
  rwa [String.toList_append, List.dropWhile_append, nothing]

/-- Leading underscores are before the first word. -/
theorem splitChars_leading
    {chars behind : List Char}
    {first : Char}
    (leads : chars.dropWhile (· == '_') = first :: behind) :
    ∃ rest pieces, (splitChars '_' chars).filter (!·.isEmpty) = (first :: rest) :: pieces := by
  induction chars with
  | nil => cases leads
  | cons char chars inductionHypothesis =>
      by_cases isUnderscore : char = '_'
      · rw [List.dropWhile_cons_of_pos (by simpa using isUnderscore)] at leads
        obtain ⟨rest, pieces, words⟩ := inductionHypothesis leads
        refine ⟨rest, pieces, ?_⟩
        have cut : splitChars '_' ('_' :: chars) = splitChars '_' [] ++ splitChars '_' chars :=
          splitChars_append [] chars
        rw [isUnderscore, cut, List.filter_append, words]
        simp [splitChars]
      · rw [List.dropWhile_cons_of_neg (by simpa using isUnderscore)] at leads
        obtain ⟨rfl, -⟩ := List.cons.inj leads
        cases pieces : splitChars '_' chars with
        | nil => exact absurd pieces (splitChars_ne_nil _ _)
        | cons piece others =>
            have cut : splitChars '_' (char :: chars) = (char :: piece) :: others := by
              rw [splitChars_eq_splitOn] at pieces ⊢
              simp [List.splitOn_cons_eq_if_modifyHead, isUnderscore, pieces]
            exact ⟨piece, others.filter (!·.isEmpty), by rw [cut]; rfl⟩

section Names

variable {name : String}

/-- The first word of a name that leads with a letter starts with it. -/
theorem nameWords_of_leads
    (isText : IsWordText name)
    (leads : LeadsWithLetter name) :
    ∃ word words first rest, nameWords name = word :: words ∧ word.toList = first :: rest ∧
      IsAsciiLetter first ∧ ∀ char ∈ first :: rest, IsAlnum char := by
  obtain ⟨first, isHead, isLetter⟩ := leads
  obtain ⟨behind, chars⟩ := List.head?_eq_some_iff.mp isHead
  obtain ⟨rest, pieces, words⟩ := splitChars_leading chars
  have isEmpty_ofList : (fun piece : List Char => !(String.ofList piece).isEmpty) =
      fun piece => !piece.isEmpty := by
    funext piece
    cases piece <;> simp
  have isWords : nameWords name = String.ofList (first :: rest) :: pieces.map String.ofList := by
    unfold nameWords splitText
    rw [List.filter_map, Function.comp_def, isEmpty_ofList, words, List.map_cons]
  refine ⟨_, _, first, rest, isWords, String.toList_ofList, isLetter, ?_⟩
  have isWord : String.ofList (first :: rest) ∈ nameWords name := by
    rw [isWords]
    exact List.mem_cons_self
  have areAlnum := isAlnum_nameWords isText isWord
  rwa [String.toList_ofList] at areAlnum

theorem isExported_innerWord
    {word : String}
    {first : Char}
    {rest : List Char}
    (chars : word.toList = first :: rest)
    (isFirst : IsAsciiLetter first)
    (areAlnum : ∀ char ∈ first :: rest, IsAlnum char) :
    IsExported (innerWord word) := by
  unfold innerWord
  cases found : initialism? word with
  | some upper =>
      have areExported : ∀ pair ∈ initialisms, IsExported pair.2 := by
        simp [initialisms, IsExported, IsUpper, IsAlnum]
      exact areExported (word, upper) (initialism?_mem found)
  | none =>
      have isWord : word = String.ofList (first :: rest) := by rw [← chars, String.ofList_toList]
      obtain ⟨-, areRest⟩ := List.forall_mem_cons.mp areAlnum
      refine ⟨first.toUpper, rest, ?_, ?_, areRest⟩
      · rw [Option.getD_none, isWord, capitalize_alnum areAlnum]
      · rcases isFirst with isSmall | isUpper
        · exact isSmall.isUpper_toUpper
        · unfold IsUpper at isUpper ⊢
          have mapped := toNat_toUpper (by omega : first.toNat < 128)
          rw [if_neg (by omega)] at mapped
          omega

/-- The exported name of a name that leads with a letter is an identifier that starts with a capital
letter. -/
theorem isExported_exportedName
    (isText : IsWordText name)
    (leads : LeadsWithLetter name) :
    IsExported (exportedName name) := by
  obtain ⟨word, words, first, rest, isWords, chars, isFirst, areAlnum⟩ :=
    nameWords_of_leads isText leads
  unfold exportedName
  rw [isWords, List.map_cons, String.join_cons]
  apply (isExported_innerWord chars isFirst areAlnum).append
  apply isAlnum_join
  intro other isOther
  apply isAlnum_nameWords isText
  rw [isWords]
  exact List.mem_cons_of_mem _ isOther

theorem nameWords_of_blank
    (isBlank : IsBlankName name) :
    nameWords name = [] := by
  have pieces (chars : List Char) (areBlank : ∀ char ∈ chars, char = '_') :
      ∀ piece ∈ splitChars '_' chars, piece = [] := by
    intro piece isPiece
    cases piece with
    | nil => rfl
    | cons first rest =>
        have inChars : first ∈ chars := by
          have whole : ['_'].intercalate (chars.splitOn '_') = chars := List.intercalate_splitOn '_'
          rw [splitChars_eq_splitOn] at isPiece
          rw [← whole]
          exact mem_intercalate isPiece List.mem_cons_self
        have notSeparator := notMem_of_mem_splitChars isPiece
        rw [areBlank first inChars] at notSeparator
        exact absurd List.mem_cons_self notSeparator
  unfold nameWords splitText
  rw [List.filter_eq_nil_iff, List.forall_mem_map]
  intro piece isPiece
  rw [pieces _ isBlank piece isPiece]
  simp

/-- Before reserved names are avoided, a local name starts with a small letter and goes on with
letters and digits. -/
theorem plainLocalName_chars
    (isText : IsWordText name)
    (isNamed : LeadsWithLetter name ∨ IsBlankName name) :
    ∃ first rest, (plainLocalName name).toList = first :: rest ∧ IsSmall first := by
  unfold plainLocalName
  rcases isNamed with leads | isBlank
  · obtain ⟨word, words, first, rest, isWords, chars, isFirst, areAlnum⟩ :=
      nameWords_of_leads isText leads
    rw [isWords]
    refine ⟨first.toLower,
      rest.map Char.toLower ++ (String.join (words.map innerWord)).toList, ?_, ?_⟩
    · rw [String.toList_append, lowerText_alnum (by rwa [chars]), chars]
      rfl
    · have mapped := toNat_toLower isFirst.isAlnum.lt
      unfold IsAsciiLetter IsSmall IsUpper at isFirst
      unfold IsSmall
      split at mapped <;> omega
  · rw [nameWords_of_blank isBlank]
    exact ⟨'a', ['r', 'g'], by decide, by unfold IsSmall; decide⟩

/-- The local name of a name that leads with a letter, or of underscores only, is an identifier where
no reserved name has an underscore. -/
theorem isIdentifier_localName
    {reserved : List String}
    (arePlain : ∀ word ∈ reserved, '_' ∉ word.toList)
    (isText : IsWordText name)
    (isNamed : LeadsWithLetter name ∨ IsBlankName name) :
    isIdentifier (localName reserved name) = true := by
  obtain ⟨first, rest, chars, isSmall⟩ := plainLocalName_chars isText isNamed
  have areAlnum := isAlnum_plainLocalName isText
  rw [chars, List.forall_mem_cons] at areAlnum
  obtain ⟨notKeyword, -⟩ := localName_clear arePlain name
  unfold localName at notKeyword ⊢
  simp only at notKeyword ⊢
  split at notKeyword
  · rename_i isEscaped
    rw [if_pos isEscaped]
    have escaped : (plainLocalName name ++ "_").toList = first :: (rest ++ ['_']) := by
      rw [String.toList_append, chars]
      rfl
    refine isIdentifier_of_chars escaped (.inl isSmall) ?_ notKeyword
    rw [List.forall_mem_append, List.forall_mem_singleton]
    exact ⟨fun char isMember => .inl (areAlnum.2 char isMember), .inr rfl⟩
  · rename_i isClear
    rw [if_neg isClear]
    exact isIdentifier_of_chars chars (.inl isSmall)
      (fun char isMember => .inl (areAlnum.2 char isMember)) notKeyword

end Names

end Wayland.Binding
