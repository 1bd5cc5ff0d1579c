import Wayland.Binding.Output
import Wayland.Proofs.Binding.Declared
import Wayland.Proofs.Binding.Spelling
import Wayland.Proofs.Text.Unquote

/-!
Contract: generated files hold only characters that a source file may have.

Owns:
- the characters of source files, and a test for ASCII that reads bytes and no characters;
- that quoting, comments, aligned columns and documentation add no other characters;
- that the shared file has only source characters where the names and summaries of its protocol do.

Does not own: the files of roles.
-/

namespace Wayland.Binding

open Wayland.Model
open Wayland.Text

/-! ## Characters -/

/-- A character that a source file may have: no stray byte, no null character and no byte order
mark. -/
def IsSourceChar
    (char : Char) : Prop :=
  strayByte? char = none ∧ char.toNat ≠ 0 ∧ char.toNat ≠ 0xFEFF

def IsSource
    (text : String) : Prop :=
  ∀ char ∈ text.toList, IsSourceChar char

def AreSource
    (lines : Lines) : Prop :=
  ∀ line ∈ lines, IsSource line

/-- A character of ASCII other than the null character. -/
def IsAscii
    (char : Char) : Prop :=
  0 < char.toNat ∧ char.toNat < 128

instance : DecidablePred IsAscii :=
  fun _ => inferInstanceAs (Decidable (_ ∧ _))

theorem IsAscii.isSourceChar
    {char : Char}
    (isAscii : IsAscii char) :
    IsSourceChar char := by
  unfold IsAscii at isAscii
  exact ⟨strayByte?_ascii isAscii.2, by omega, by omega⟩

/-- A literal of ASCII: its characters show that it is one. -/
@[simp low]
theorem isSource_literal
    {text : String}
    (isAscii : ∃ chars : List Char,
      String.ofList chars = text ∧ chars.all (fun char => decide (IsAscii char)) = true) :
    IsSource text := by
  obtain ⟨chars, rfl, areAscii⟩ := isAscii
  intro char isMember
  rw [String.toList_ofList] at isMember
  exact (of_decide_eq_true (List.all_eq_true.mp areAscii char isMember)).isSourceChar

theorem IsWordText.isSource
    {name : String}
    (isText : IsWordText name) :
    IsSource name := by
  intro char isMember
  apply IsAscii.isSourceChar
  unfold IsAscii
  rcases isText char isMember with isAlnum | isUnderscore
  · unfold IsAlnum IsSmall at isAlnum
    omega
  · rw [isUnderscore]
    decide

/-- Whether a range holds source characters only. -/
def isSourceRange
    (range : Nat × Nat) :
    Bool :=
  Nat.blt 0 range.1 && Nat.blt range.2 strayBase
    && (Nat.blt range.2 0xFEFF || Nat.blt 0xFEFF range.1)

theorem isSourceChar_of_range
    {range : Nat × Nat}
    (isSource : isSourceRange range = true)
    {char : Char}
    (lower : range.1 ≤ char.toNat)
    (upper : char.toNat ≤ range.2) :
    IsSourceChar char := by
  simp only [isSourceRange, Bool.and_eq_true, Bool.or_eq_true, Nat.blt_eq] at isSource
  refine ⟨if_neg ?_, ?_, ?_⟩
  · omega
  · omega
  · omega

/-- The characters of a table are source characters if its ranges are. -/
theorem isSourceChar_of_contains
    {ranges : Ranges}
    (areSource : ranges.toList.all isSourceRange = true)
    {char : Char}
    (isMember : ranges.contains char.toNat = true) :
    IsSourceChar char := by
  obtain ⟨range, isRange, lower, upper⟩ := bounds_of_searchFrom isMember
  exact isSourceChar_of_range (List.all_eq_true.mp areSource range isRange.val) lower upper

theorem isSourceChar_of_isPrintable
    {char : Char}
    (printable : isPrintable char = true) :
    IsSourceChar char :=
  isSourceChar_of_contains (by decide +kernel) printable

def imageRange
    (run : CaseRun) :
    Nat × Nat :=
  (((run.first : Int) + run.offset).toNat, ((run.last : Int) + run.offset).toNat)

/-- Behind ASCII, runs map to source characters, and to no surrogates. -/
theorem upperRuns_source :
    upperRuns.toList.all (fun run =>
      Nat.blt run.last 128
        || (isSourceRange (imageRange run)
          && (Nat.blt (imageRange run).2 0xD800 || Nat.blt 0xFEFF (imageRange run).1))) = true := by
  decide

/-- The capital of a source character is one. -/
theorem IsSourceChar.upperChar
    {char : Char}
    (isSource : IsSourceChar char) :
    IsSourceChar (upperChar char) := by
  unfold Text.upperChar
  split
  · rename_i isSmall
    have mapped := toNat_toUpper isSmall
    obtain ⟨-, notNull, -⟩ := isSource
    apply IsAscii.isSourceChar
    unfold IsAscii
    split at mapped <;> omega
  · rename_i notSmall
    unfold mapCase
    split
    · rename_i run found
      have isRun := (Array.mem_of_find?_eq_some found).val
      have bounds := List.all_eq_true.mp upperRuns_source run isRun
      have covers := Array.find?_some found
      simp only [CaseRun.covers, Bool.and_eq_true, decide_eq_true_eq] at covers
      simp only [Bool.or_eq_true, Bool.and_eq_true, Nat.blt_eq] at bounds
      obtain isAscii | ⟨isRange, notSurrogate⟩ := bounds
      · omega
      · unfold imageRange at isRange notSurrogate
        simp only at notSurrogate
        have isValid : ((char.toNat : Int) + run.offset).toNat.isValidChar := by
          simp only [isSourceRange, Bool.and_eq_true, Nat.blt_eq] at isRange
          unfold Nat.isValidChar
          unfold strayBase at isRange
          omega
        have number : (Char.ofNat ((char.toNat : Int) + run.offset).toNat).toNat =
            ((char.toNat : Int) + run.offset).toNat := Bytes.val_ofNat isValid
        apply isSourceChar_of_range isRange
        · simp only
          omega
        · simp only
          omega
    · exact isSource

/-! ## Texts -/

@[simp]
theorem isSource_empty :
    IsSource "" :=
  fun _ isMember => nomatch isMember

@[simp]
theorem isSource_append
    {left right : String} :
    IsSource (left ++ right) ↔ IsSource left ∧ IsSource right := by
  unfold IsSource
  rw [String.toList_append, List.forall_mem_append]

theorem isSource_ofList
    {chars : List Char} :
    IsSource (String.ofList chars) ↔ ∀ char ∈ chars, IsSourceChar char := by
  unfold IsSource
  rw [String.toList_ofList]

theorem isSource_blanks
    (count : Nat)
    {blank : Char}
    (isAscii : IsAscii blank) :
    IsSource (String.ofList (List.replicate count blank)) := by
  rw [isSource_ofList]
  intro char isMember
  rw [List.eq_of_mem_replicate isMember]
  exact isAscii.isSourceChar

theorem isSource_intercalate
    {separator : String}
    {texts : List String}
    (isSeparator : IsSource separator)
    (areTexts : ∀ text ∈ texts, IsSource text) :
    IsSource (String.intercalate separator texts) := by
  intro char isMember
  rw [String.toList_intercalate] at isMember
  rcases mem_of_mem_intercalate isMember with inSeparator | ⟨chars, isText, inText⟩
  · exact isSeparator char inSeparator
  · obtain ⟨text, textIn, rfl⟩ := List.mem_map.mp isText
    exact areTexts text textIn char inText

theorem isSource_commaList
    {texts : List String}
    (areTexts : ∀ text ∈ texts, IsSource text) :
    IsSource (commaList texts) :=
  isSource_intercalate (isSource_literal ⟨_, rfl, rfl⟩) areTexts

theorem isAscii_of_mem_toDigits
    {base : Nat}
    (isBase : 1 < base ∧ base ≤ 16)
    (number : Nat) :
    ∀ char ∈ Nat.toDigits base number, IsAscii char := by
  have each : ∀ digit < 16, IsAscii (Nat.digitChar digit) := by
    unfold IsAscii
    decide
  induction number using Nat.strongRecOn with
  | ind number inductionHypothesis =>
      rw [Nat.toDigits_eq_if isBase.1]
      split
      · rename_i isDigit
        exact List.forall_mem_singleton.mpr (each number (by omega))
      · rename_i notDigit
        rw [List.forall_mem_append, List.forall_mem_singleton]
        constructor
        · exact inductionHypothesis (number / base) (Nat.div_lt_self (by omega) isBase.1)
        · have isLt := Nat.mod_lt number (Nat.lt_trans Nat.zero_lt_one isBase.1)
          exact each _ (by omega)

theorem isAscii_of_mem_hexDigits
    (width number : Nat) :
    ∀ char ∈ hexDigits width number, IsAscii char := by
  unfold hexDigits
  rw [List.forall_mem_append]
  constructor
  · intro char isMember
    rw [List.eq_of_mem_replicate isMember]
    unfold IsAscii
    decide
  · exact isAscii_of_mem_toDigits ⟨by decide, by decide⟩ number

@[simp]
theorem isSource_repr
    (number : Nat) :
    IsSource number.repr := by
  intro char isMember
  have digits : number.repr.toList = Nat.toDigits 10 number := toList_toString number
  rw [digits] at isMember
  exact (isAscii_of_mem_toDigits ⟨by decide, by decide⟩ number char isMember).isSourceChar

theorem isSource_writeUInt32
    (hexadecimal : Bool)
    (number : UInt32) :
    IsSource (writeUInt32 hexadecimal number) := by
  unfold writeUInt32
  split
  · refine isSource_append.mpr ⟨isSource_literal ⟨_, rfl, rfl⟩, isSource_ofList.mpr ?_⟩
    intro char isMember
    exact (isAscii_of_mem_toDigits ⟨by decide, by decide⟩ _ char isMember).isSourceChar
  · exact isSource_repr _

/-- A character is shown as itself or by an escape, and a byte by an escape. -/
theorem isSourceChar_quoteGlyph
    (glyph : Glyph) :
    ∀ char ∈ quoteGlyph glyph, IsSourceChar char := by
  have escape (mark : Char) (digits : List Char) (isMark : IsAscii mark)
      (areDigits : ∀ char ∈ digits, IsAscii char) :
      ∀ char ∈ '\\' :: mark :: digits, IsSourceChar char := by
    intro char isMember
    apply IsAscii.isSourceChar
    rcases List.mem_cons.mp isMember with rfl | isMember
    · unfold IsAscii
      decide
    · rcases List.mem_cons.mp isMember with rfl | isMember
      · exact isMark
      · exact areDigits char isMember
  have none : ∀ char ∈ ([] : List Char), IsAscii char := fun _ isMember => nomatch isMember
  unfold quoteGlyph
  split
  · rename_i value
    unfold quoteChar
    split
    · rename_i isMark
      rw [Bool.or_eq_true, decide_eq_true_eq, decide_eq_true_eq] at isMark
      refine escape value [] ?_ none
      rcases isMark with rfl | rfl
      all_goals
        unfold IsAscii
        decide
    · split
      · rename_i printable
        exact List.forall_mem_singleton.mpr (isSourceChar_of_isPrintable printable)
      · split
        all_goals try exact escape _ [] (by unfold IsAscii; decide) none
        split
        · exact escape 'x' _ (by unfold IsAscii; decide) (isAscii_of_mem_hexDigits _ _)
        · split
          · exact escape 'u' _ (by unfold IsAscii; decide) (isAscii_of_mem_hexDigits _ _)
          · exact escape 'U' _ (by unfold IsAscii; decide) (isAscii_of_mem_hexDigits _ _)
  · exact escape 'x' _ (by unfold IsAscii; decide) (isAscii_of_mem_hexDigits _ _)

@[simp]
theorem isSource_quote
    (text : String) :
    IsSource (quote text) := by
  have mark : IsSourceChar '"' := IsAscii.isSourceChar (by unfold IsAscii; decide)
  unfold quote quoteBytes
  rw [isSource_ofList, List.cons_append, List.forall_mem_cons, List.forall_mem_append,
    List.forall_mem_singleton]
  refine ⟨mark, fun char isMember => ?_, mark⟩
  obtain ⟨glyph, -, inGlyph⟩ := List.mem_flatMap.mp isMember
  exact isSourceChar_quoteGlyph glyph char inGlyph

theorem mem_of_mem_wordsFrom
    {current chars word : List Char}
    (isWord : word ∈ wordsFrom current chars) :
    ∀ char ∈ word, char ∈ current ∨ char ∈ chars := by
  induction chars generalizing current with
  | nil =>
      unfold wordsFrom at isWord
      split at isWord
      · cases isWord
      · rw [List.mem_singleton.mp isWord]
        exact fun char isMember => .inl (List.mem_reverse.mp isMember)
  | cons first rest inductionHypothesis =>
      intro char isMember
      unfold wordsFrom at isWord
      split at isWord
      · have ofRest (isWord : word ∈ wordsFrom [] rest) :
            char ∈ current ∨ char ∈ first :: rest := by
          rcases inductionHypothesis isWord char isMember with isNone | inRest
          · cases isNone
          · exact .inr (List.mem_cons_of_mem _ inRest)
        split at isWord
        · exact ofRest isWord
        · rcases List.mem_cons.mp isWord with rfl | isWord
          · exact .inl (List.mem_reverse.mp isMember)
          · exact ofRest isWord
      · rcases inductionHypothesis isWord char isMember with inCurrent | inRest
        · rcases List.mem_cons.mp inCurrent with rfl | inCurrent
          · exact .inr List.mem_cons_self
          · exact .inl inCurrent
        · exact .inr (List.mem_cons_of_mem _ inRest)

theorem isSource_sentence
    {summary : String}
    (isSummary : IsSource summary) :
    IsSource (sentence summary) := by
  have joined : IsSource (String.intercalate " " (words summary)) := by
    apply isSource_intercalate (isSource_literal ⟨_, rfl, rfl⟩)
    intro text isWord
    obtain ⟨word, isPiece, rfl⟩ := List.mem_map.mp isWord
    rw [isSource_ofList]
    intro char isMember
    rcases mem_of_mem_wordsFrom isPiece char isMember with isNone | inSummary
    · cases isNone
    · exact isSummary char inSummary
  unfold sentence
  simp only
  split
  · rename_i rest chars
    rw [isSource_ofList]
    intro char isMember
    apply joined
    rw [← List.mem_reverse, chars]
    exact List.mem_cons_of_mem _ (List.mem_reverse.mp isMember)
  · exact joined

theorem mended_of_source
    {text : String}
    (isText : IsSource text) :
    mended text = text.toList := by
  rw [mended, glyphs_of_whole fun char isMember => (isText char isMember).1, List.map_map]
  exact List.map_id'' (fun _ => rfl) _

theorem isSource_capitalize
    {text : String}
    (isText : IsSource text) :
    IsSource (capitalize text) := by
  unfold capitalize
  rw [mended_of_source isText]
  split
  · exact isSource_empty
  · rename_i first rest chars
    unfold IsSource at isText
    rw [chars, List.forall_mem_cons] at isText
    obtain ⟨isFirst, areRest⟩ := isText
    have areSource : ∀ char ∈ upperChar first :: rest, IsSourceChar char :=
      List.forall_mem_cons.mpr ⟨isFirst.upperChar, areRest⟩
    have held : (upperChar first :: rest).flatMap Glyph.holdChar = upperChar first :: rest := by
      have each : ∀ char ∈ upperChar first :: rest, Glyph.holdChar char = [char] := by
        intro char isMember
        simp [Glyph.holdChar, (areSource char isMember).1]
      rw [List.flatMap_congr each, List.flatMap_singleton']
    rw [hold, held, isSource_ofList]
    exact areSource

/-! ## Lines -/

@[simp]
theorem areSource_append
    {left right : Lines} :
    AreSource (left ++ right) ↔ AreSource left ∧ AreSource right :=
  List.forall_mem_append

@[simp]
theorem areSource_cons
    {line : String}
    {lines : Lines} :
    AreSource (line :: lines) ↔ IsSource line ∧ AreSource lines :=
  List.forall_mem_cons

@[simp]
theorem areSource_nil :
    AreSource [] :=
  fun _ isMember => nomatch isMember

theorem areSource_flatMap
    {α : Type}
    {items : List α}
    {spelled : α → Lines} :
    AreSource (items.flatMap spelled) ↔ ∀ item ∈ items, AreSource (spelled item) :=
  List.forall_mem_flatMap

theorem areSource_map
    {α : Type}
    {items : List α}
    {spelled : α → String} :
    AreSource (items.map spelled) ↔ ∀ item ∈ items, IsSource (spelled item) :=
  List.forall_mem_map

theorem areSource_indent
    {lines : Lines}
    (areLines : AreSource lines)
    (depth : Nat) :
    AreSource (indent depth lines) := by
  unfold indent
  rw [areSource_map]
  intro line isLine
  split
  · exact areLines line isLine
  · rw [isSource_append]
    exact ⟨isSource_blanks depth (by unfold IsAscii; decide), areLines line isLine⟩

theorem areSource_alignRows
    {rows : List (String × String)}
    (areRows : ∀ row ∈ rows, IsSource row.1 ∧ IsSource row.2) :
    AreSource (alignRows rows) := by
  unfold alignRows
  rw [areSource_map]
  intro row isRow
  obtain ⟨isName, isRest⟩ := areRows row isRow
  rw [isSource_append, isSource_append]
  exact ⟨⟨isName, isSource_blanks _ (by unfold IsAscii; decide)⟩, isRest⟩

theorem isSource_commentLine
    {text : String}
    (isText : IsSource text) :
    IsSource (commentLine text) := by
  have isComment : IsSource ("// " ++ text) :=
    isSource_append.mpr ⟨isSource_literal ⟨_, rfl, rfl⟩, isText⟩
  unfold commentLine
  rw [isSource_ofList]
  intro char isMember
  have inFilter := List.mem_reverse.mp (List.dropWhile_subset _ (List.mem_reverse.mp isMember))
  exact isComment char (List.mem_filter.mp inFilter).1

theorem isSourceChar_quotedFrom
    (whole : List Char)
    (fuel offset : Nat)
    {chars : List Char}
    (areSource : ∀ char ∈ chars, IsSourceChar char) :
    ∀ char ∈ quotedFrom whole fuel offset chars, IsSourceChar char := by
  induction fuel generalizing offset chars with
  | zero =>
      cases chars with
      | nil => exact areSource
      | cons first rest => exact areSource
  | succ fuel inductionHypothesis =>
      have keep (count offset : Nat) : ∀ char ∈ chars.take count
          ++ quotedFrom whole fuel offset (chars.drop count), IsSourceChar char := by
        rw [List.forall_mem_append]
        constructor
        · exact fun char isMember => areSource char (List.mem_of_mem_take isMember)
        · apply inductionHypothesis
          exact fun char isMember => areSource char (List.mem_of_mem_drop isMember)
      have quoted (code : Nat) (rest : List Char) (isRest : ∀ char ∈ rest, char ∈ chars)
          (isQuote : IsSourceChar (Char.ofNat code)) :
          ∀ char ∈ Char.ofNat code :: quotedFrom whole fuel (offset + 2) rest,
            IsSourceChar char := by
        rw [List.forall_mem_cons]
        refine ⟨isQuote, inductionHypothesis _ ?_⟩
        exact fun char isMember => areSource char (isRest char isMember)
      cases chars with
      | nil => exact areSource
      | cons first rest =>
          unfold quotedFrom
          simp only
          split
          · exact keep _ _
          · exact keep _ _
          · exact keep _ _
          · rename_i more _ _ _ isOpening
            refine quoted 0x201C more ?_ ?_
            · rw [isOpening]
              exact fun char isMember => List.mem_cons_of_mem _ (List.mem_cons_of_mem _ isMember)
            · unfold IsSourceChar
              decide
          · rename_i more _ _ isClosing
            refine quoted 0x201D more ?_ ?_
            · rw [isClosing]
              exact fun char isMember => List.mem_cons_of_mem _ (List.mem_cons_of_mem _ isMember)
            · unfold IsSourceChar
              decide
          · exact keep _ _

theorem mem_of_mem_splitChars
    {separator : Char}
    {chars piece : List Char}
    (isPiece : piece ∈ splitChars separator chars)
    {char : Char}
    (isMember : char ∈ piece) :
    char ∈ chars := by
  rw [splitChars_eq_splitOn] at isPiece
  have pieces : [separator].intercalate (chars.splitOn separator) = chars :=
    List.intercalate_splitOn separator
  rw [← pieces]
  exact mem_intercalate isPiece isMember

theorem areSource_paragraphLines
    {lines : List String}
    (areLines : AreSource lines) :
    AreSource (paragraphLines lines) := by
  unfold paragraphLines
  extract_lets isPlain chars
  split
  · rw [areSource_map]
    exact fun line isLine => isSource_commentLine (areLines line isLine)
  · have joined : IsSource (String.intercalate "\n" lines) :=
      isSource_intercalate (isSource_literal ⟨_, rfl, rfl⟩) areLines
    rw [areSource_map]
    intro chars isLine
    apply isSource_commentLine
    rw [isSource_ofList]
    intro char isMember
    refine isSourceChar_quotedFrom _ _ _ ?_ char (mem_of_mem_splitChars isLine isMember)
    exact fun char isMember => joined char (List.mem_filter.mp isMember).1

theorem mem_of_mem_paragraphs
    {texts paragraph : List String}
    (isParagraph : paragraph ∈ paragraphs texts)
    {text : String}
    (isMember : text ∈ paragraph) :
    text ∈ texts := by
  induction texts generalizing paragraph with
  | nil =>
      rw [List.mem_singleton.mp isParagraph] at isMember
      cases isMember
  | cons line rest inductionHypothesis =>
      unfold paragraphs at isParagraph
      split at isParagraph
      · rename_i first others found
        rw [found] at inductionHypothesis
        have ofRest (inRest : paragraph ∈ first :: others) : text ∈ line :: rest :=
          List.mem_cons_of_mem _ (inductionHypothesis inRest isMember)
        split at isParagraph
        · rcases List.mem_cons.mp isParagraph with isNone | inRest
          · rw [isNone] at isMember
            cases isMember
          · exact ofRest inRest
        · rcases List.mem_cons.mp isParagraph with isFirst | inOthers
          · rw [isFirst] at isMember
            rcases List.mem_cons.mp isMember with rfl | inFirst
            · exact List.mem_cons_self
            · exact List.mem_cons_of_mem _ (inductionHypothesis List.mem_cons_self inFirst)
          · exact ofRest (List.mem_cons_of_mem _ inOthers)
      · rw [List.mem_singleton.mp isParagraph] at isMember
        rw [List.mem_singleton.mp isMember]
        exact List.mem_cons_self

/-- Documentation of source texts. -/
theorem areSource_documentation
    {texts : List String}
    (areTexts : AreSource texts) :
    AreSource (documentation texts) := by
  unfold documentation
  split
  · rw [areSource_map]
    exact fun text isText => isSource_commentLine (areTexts text isText)
  · intro line isLine
    rcases mem_of_mem_intercalate isLine with isGap | ⟨lines, isParagraph, isLine⟩
    · rw [List.mem_singleton.mp isGap]
      exact isSource_commentLine isSource_empty
    · obtain ⟨paragraph, inTexts, rfl⟩ := List.mem_map.mp isParagraph
      refine areSource_paragraphLines ?_ line isLine
      exact fun text isText => areTexts text (mem_of_mem_paragraphs inTexts isText)

/-- Lines of source characters make a source file. -/
theorem hasOnlySourceChars_of_source
    {lines : Lines}
    (areLines : AreSource lines) :
    hasOnlySourceChars (fileText lines) = true := by
  have isBreak : IsSource "\n" := isSource_literal ⟨_, rfl, rfl⟩
  have isText : IsSource (fileText lines) :=
    isSource_append.mpr ⟨isSource_intercalate isBreak areLines, isBreak⟩
  rw [hasOnlySourceChars, glyphs_of_whole fun char isMember => (isText char isMember).1,
    List.all_map, List.all_eq_true]
  intro char isMember
  obtain ⟨-, notNull, notMark⟩ := isText char isMember
  simp [Glyph.char?, notNull, notMark]

/-! ## The shared file -/

structure MessagePlan.IsSource
    (plan : MessagePlan) : Prop where
  word : Binding.IsSource plan.message.name
  name : Binding.IsSource plan.name
  opcodeName : Binding.IsSource plan.opcodeName
  sinceName : Binding.IsSource plan.sinceName
  summary : Binding.IsSource plan.summary
  kinds : ∀ slot ∈ plan.slots, Binding.IsSource (slot.kind.getD "")
  arguments : ∀ arg ∈ plan.message.args, IsWordText arg.name

structure EnumerationPlan.IsSource
    (plan : EnumerationPlan) : Prop where
  name : Binding.IsSource plan.name
  typeName : Binding.IsSource plan.typeName
  summary : Binding.IsSource plan.summary
  constants : ∀ entry ∈ plan.entries, Binding.IsSource entry.constant
  values : ∀ entry ∈ plan.entries, Binding.IsSource entry.value
  summaries : ∀ entry ∈ plan.entries, Binding.IsSource entry.summary

structure InterfacePlan.IsSource
    (plan : InterfacePlan) : Prop where
  name : Binding.IsSource plan.name
  typeName : Binding.IsSource plan.typeName
  summary : Binding.IsSource plan.summary
  messages : ∀ direction, ∀ message ∈ plan.messages direction, message.IsSource
  enumerations : ∀ enumeration ∈ plan.enumerations, enumeration.IsSource

structure ProtocolPlan.IsSource
    (plan : ProtocolPlan) : Prop where
  name : Binding.IsSource plan.name
  package : Binding.IsSource plan.package
  summary : Binding.IsSource plan.summary
  interfaces : ∀ interface ∈ plan.interfaces, interface.IsSource

theorem isSource_slotLine
    {slot : SlotPlan}
    (isKind : IsSource (slot.kind.getD "")) :
    IsSource (slotLine slot) := by
  unfold slotLine
  cases slot.nullable <;> cases slot.interface.isEmpty <;>
    simp (disch := exact ⟨_, rfl, rfl⟩) [isKind]

theorem areSource_messageLines
    {plan : MessagePlan}
    (isPlan : plan.IsSource) :
    AreSource (messageLines plan) := by
  have slots : AreSource (indent 1 (plan.slots.map slotLine)) :=
    areSource_indent (areSource_map.mpr fun slot isSlot =>
      isSource_slotLine (isPlan.kinds slot isSlot)) 1
  unfold messageLines
  cases plan.slots.isEmpty <;> cases plan.message.destructor <;>
    simp (disch := exact ⟨_, rfl, rfl⟩) [slots]

theorem areSource_directionLines
    {field : String}
    (isField : IsSource field)
    {messages : List MessagePlan}
    (areMessages : ∀ message ∈ messages, message.IsSource) :
    AreSource (directionLines field messages) := by
  have rows : AreSource (indent 1 (messages.flatMap messageLines)) :=
    areSource_indent (areSource_flatMap.mpr fun message isMessage =>
      areSource_messageLines (areMessages message isMessage)) 1
  unfold directionLines
  split
  · exact areSource_nil
  · simp (disch := exact ⟨_, rfl, rfl⟩) [isField, rows]

theorem areSource_constantBlock
    {lines : Lines}
    (areLines : AreSource lines) :
    AreSource (constantBlock lines) := by
  have inside := areSource_indent areLines 1
  unfold constantBlock
  split <;> simp (disch := exact ⟨_, rfl, rfl⟩) [inside]

section Interfaces

variable {interface : InterfacePlan}

theorem isSource_descriptorName
    (isPlan : interface.IsSource) :
    IsSource interface.descriptorName := by
  unfold InterfacePlan.descriptorName
  simp (disch := exact ⟨_, rfl, rfl⟩) [isPlan.typeName]

theorem areSource_descriptorLines
    (isPlan : interface.IsSource) :
    AreSource (descriptorLines interface) := by
  have isDescriptor := isSource_descriptorName isPlan
  have about : AreSource (documentation
      ((interface.descriptorName ++ " describes " ++ interface.name ++ " at version "
          ++ toString interface.version.toNat ++ ".")
        :: if interface.summary.isEmpty then [] else [interface.summary ++ "."])) := by
    apply areSource_documentation
    split <;>
      simp (disch := exact ⟨_, rfl, rfl⟩) [isDescriptor, isPlan.name, isPlan.summary]
  have head : AreSource (alignRows
      [("Name:", quote interface.name ++ ","),
        ("Version:", toString interface.version.toNat ++ ",")]) := by
    apply areSource_alignRows
    rw [List.forall_mem_cons, List.forall_mem_singleton]
    simp (disch := exact ⟨_, rfl, rfl⟩)
  have isRequests : IsSource "Requests" := isSource_literal ⟨_, rfl, rfl⟩
  have isEvents : IsSource "Events" := isSource_literal ⟨_, rfl, rfl⟩
  have requests := areSource_directionLines isRequests (isPlan.messages .request)
  have events := areSource_directionLines isEvents (isPlan.messages .event)
  have inside := areSource_indent
    (areSource_append.mpr ⟨areSource_append.mpr ⟨head, requests⟩, events⟩) 1
  unfold descriptorLines
  rw [areSource_append, areSource_append, areSource_append]
  refine ⟨⟨⟨about, ?_⟩, inside⟩, ?_⟩ <;>
    simp (disch := exact ⟨_, rfl, rfl⟩) [isDescriptor]

theorem areSource_opcodeLines
    (isPlan : interface.IsSource) :
    AreSource (opcodeLines interface) := by
  have rows : AreSource (alignRows ((interface.requests ++ interface.events).flatMap fun plan =>
      [(plan.opcodeName, "uint16 = " ++ toString plan.opcode.toNat),
        (plan.sinceName, "uint32 = " ++ toString plan.message.since.toNat)])) := by
    apply areSource_alignRows
    intro row isRow
    obtain ⟨plan, isMessage, inPair⟩ := List.mem_flatMap.mp isRow
    have isSource : plan.IsSource := by
      rcases List.mem_append.mp isMessage with isRequest | isEvent
      · exact isPlan.messages .request plan isRequest
      · exact isPlan.messages .event plan isEvent
    simp only [List.mem_cons, List.not_mem_nil, or_false] at inPair
    rcases inPair with rfl | rfl <;>
      simp (disch := exact ⟨_, rfl, rfl⟩) [isSource.opcodeName, isSource.sinceName]
  have about : AreSource (documentation
      ["Opcodes and minimum versions of the " ++ interface.name ++ " messages."]) := by
    apply areSource_documentation
    simp (disch := exact ⟨_, rfl, rfl⟩) [isPlan.name]
  unfold opcodeLines
  extract_lets pairs
  split
  · exact areSource_nil
  · rw [areSource_append, areSource_append]
    exact ⟨⟨by simp, about⟩, areSource_constantBlock rows⟩

end Interfaces

section Enumerations

variable {enumeration : EnumerationPlan}

theorem areSource_entryLinesFrom
    {typeName : String}
    (isType : IsSource typeName)
    {rows : List (String × String)}
    (areRows : ∀ row ∈ rows, IsSource row.1 ∧ IsSource row.2)
    {entries : List EntryPlan}
    (areEntries : ∀ entry ∈ entries,
      IsSource entry.constant ∧ IsSource entry.value ∧ IsSource entry.summary) :
    AreSource (entryLinesFrom typeName rows entries) := by
  induction entries generalizing rows with
  | nil =>
      unfold entryLinesFrom
      exact areSource_alignRows fun row isRow => areRows row (List.mem_reverse.mp isRow)
  | cons entry rest inductionHypothesis =>
      obtain ⟨⟨isConstant, isValue, isSummary⟩, areRest⟩ := List.forall_mem_cons.mp areEntries
      have row : IsSource entry.constant ∧ IsSource (typeName ++ " = " ++ entry.value) := by
        simp (disch := exact ⟨_, rfl, rfl⟩) [isConstant, isType, isValue]
      unfold entryLinesFrom
      extract_lets pair
      split
      · exact inductionHypothesis (List.forall_mem_cons.mpr ⟨row, areRows⟩) areRest
      · rw [areSource_append, areSource_append]
        refine ⟨⟨areSource_alignRows fun row isRow => areRows row (List.mem_reverse.mp isRow), ?_⟩,
          inductionHypothesis (List.forall_mem_singleton.mpr row) areRest⟩
        simp [isSource_commentLine isSummary]

theorem mem_of_mem_distinct
    {entry : EntryPlan}
    (isMember : entry ∈ enumeration.distinct) :
    entry ∈ enumeration.entries := by
  have each (entries kept : List EntryPlan) :
      ∀ entry ∈ entries.foldl (fun (kept : List EntryPlan) entry =>
        if kept.any (·.number == entry.number) then kept else entry :: kept) kept,
        entry ∈ kept ∨ entry ∈ entries := by
    induction entries generalizing kept with
    | nil => exact fun entry isMember => .inl isMember
    | cons first rest inductionHypothesis =>
        intro entry isMember
        rcases inductionHypothesis _ entry isMember with inKept | inRest
        · simp only at inKept
          split at inKept
          · exact .inl inKept
          · rcases List.mem_cons.mp inKept with rfl | inKept
            · exact .inr List.mem_cons_self
            · exact .inl inKept
        · exact .inr (List.mem_cons_of_mem _ inRest)
  rcases each _ _ entry (List.mem_reverse.mp isMember) with isNone | isEntry
  · cases isNone
  · exact isEntry

theorem areSource_enumerationTextLines
    (isPlan : enumeration.IsSource) :
    AreSource (enumerationTextLines enumeration) := by
  unfold enumerationTextLines
  extract_lets distinct
  split
  · have values : IsSource (commaList (distinct.map (·.value))) :=
      isSource_commaList (List.forall_mem_map.mpr fun entry isEntry =>
        isPlan.values entry (mem_of_mem_distinct isEntry))
    have names : IsSource (commaList (distinct.map fun entry => quote entry.name)) :=
      isSource_commaList (List.forall_mem_map.mpr fun entry _ => isSource_quote entry.name)
    simp (disch := exact ⟨_, rfl, rfl⟩) [values, names]
  · have arms : AreSource (distinct.flatMap fun entry =>
        ["case " ++ entry.constant ++ ":", "\treturn " ++ quote entry.name]) := by
      rw [areSource_flatMap]
      intro entry isEntry
      simp (disch := exact ⟨_, rfl, rfl⟩) [isPlan.constants entry (mem_of_mem_distinct isEntry)]
    simp (disch := exact ⟨_, rfl, rfl⟩) [arms, isPlan.typeName]

theorem areSource_enumerationLines
    {interface : InterfacePlan}
    (isName : IsSource interface.name)
    (isPlan : enumeration.IsSource) :
    AreSource (enumerationLines interface enumeration) := by
  have about : AreSource (documentation
      [enumeration.typeName ++ " is the " ++ enumeration.name ++ " enum of " ++ interface.name
        ++ (if enumeration.summary.isEmpty then "" else ": " ++ enumeration.summary) ++ "."]) := by
    apply areSource_documentation
    split <;>
      simp (disch := exact ⟨_, rfl, rfl⟩) [isName, isPlan.name, isPlan.typeName, isPlan.summary]
  have rows : AreSource (constantBlock (entryLinesFrom enumeration.typeName []
      enumeration.entries)) := by
    apply areSource_constantBlock
    refine areSource_entryLinesFrom isPlan.typeName (List.forall_mem_nil _) ?_
    exact fun entry isEntry => ⟨isPlan.constants entry isEntry, isPlan.values entry isEntry,
      isPlan.summaries entry isEntry⟩
  have body := areSource_indent (areSource_enumerationTextLines isPlan) 1
  unfold enumerationLines
  simp (disch := exact ⟨_, rfl, rfl⟩) [-String.isEmpty_iff, about, rows, body, isPlan.typeName]

end Enumerations

theorem areSource_interfaceLines
    {interface : InterfacePlan}
    (isPlan : interface.IsSource) :
    AreSource (interfaceLines interface) := by
  have enumerations : AreSource (interface.enumerations.flatMap (enumerationLines interface)) :=
    areSource_flatMap.mpr fun enumeration isEnumeration =>
      areSource_enumerationLines isPlan.name (isPlan.enumerations enumeration isEnumeration)
  unfold interfaceLines
  simp [areSource_descriptorLines isPlan, areSource_opcodeLines isPlan, enumerations]

theorem areSource_formatBitsLines :
    AreSource formatBitsLines := by
  unfold formatBitsLines
  simp (disch := exact ⟨_, rfl, rfl⟩)

theorem isSource_sourceLine
    {name : String}
    (isName : IsSource name) :
    IsSource (commentLine ("Source: " ++ name)) :=
  isSource_commentLine (isSource_append.mpr ⟨isSource_literal ⟨_, rfl, rfl⟩, isName⟩)

theorem areSource_sharedLines
    {runtime : String}
    (isRuntime : IsSource runtime)
    {protocol : ProtocolPlan}
    (isPlan : protocol.IsSource) :
    AreSource (sharedLines runtime protocol) := by
  have first := isSource_sourceLine isPlan.name
  have package : AreSource (documentation
      (("Package " ++ protocol.package ++ " holds the wire descriptors of the " ++ protocol.name
          ++ " protocol.")
        :: if protocol.summary.isEmpty then [] else ["", protocol.summary ++ "."])) := by
    apply areSource_documentation
    split <;>
      simp (disch := exact ⟨_, rfl, rfl⟩) [isPlan.name, isPlan.package, isPlan.summary]
  have list : AreSource (documentation
      ["Interfaces lists every interface of the " ++ protocol.name ++ " protocol."]) := by
    apply areSource_documentation
    simp (disch := exact ⟨_, rfl, rfl⟩) [isPlan.name]
  have items : AreSource
      (protocol.interfaces.map fun interface => "\t" ++ interface.descriptorName ++ ",") := by
    rw [areSource_map]
    intro interface isInterface
    simp (disch := exact ⟨_, rfl, rfl⟩) [isSource_descriptorName (isPlan.interfaces interface
      isInterface)]
  have interfaces : AreSource (protocol.interfaces.flatMap interfaceLines) :=
    areSource_flatMap.mpr fun interface isInterface =>
      areSource_interfaceLines (isPlan.interfaces interface isInterface)
  have helper : AreSource (if protocol.hasBitfields then formatBitsLines else []) := by
    split
    · exact areSource_formatBitsLines
    · exact areSource_nil
  have imports (condition : Bool) (line : String) (isLine : IsSource line) :
      AreSource (if condition then [line] else []) := by
    split <;> simp [isLine]
  have formats := imports protocol.hasEnumerations "\t\"fmt\"" (isSource_literal ⟨_, rfl, rfl⟩)
  have joins := imports protocol.hasBitfields "\t\"strings\""
    (isSource_literal ⟨_, rfl, rfl⟩)
  unfold sharedLines
  extract_lets standard
  have isStandard : AreSource (if standard.isEmpty then [] else standard ++ [""]) := by
    split
    · exact areSource_nil
    · simp [standard, formats, joins]
  simp (disch := exact ⟨_, rfl, rfl⟩) [-String.isEmpty_iff, -List.isEmpty_iff, first, package, list,
    items, interfaces, helper, isStandard, isRuntime, isPlan.package]

end Wayland.Binding
