import Mathlib.Data.List.Forall2
import Mathlib.Data.Nat.Digits.Defs
import Wayland.Proofs.Text.Normal
import Wayland.Text.Decimal
import Wayland.Text.Number

/-!
Contract: numbers in digits.

Owns:
- what the digits of a number in decimal are read as, as a 32-bit number and as a decimal;
- which digits write a number in a base, and which texts are numerals: decimal digits, or a mark and
  hexadecimal digits;
- that a 32-bit number is read from the numerals of it between white space, and from nothing else,
  and that it is written as one of them.

Does not own: numbers with a sign or a fraction.
-/

namespace Wayland.Text

/-! ## Digits -/

theorem isDigit_iff
    {char : Char} :
    char.isDigit = true ↔ 48 ≤ char.toNat ∧ char.toNat ≤ 57 := by
  simp only [Char.isDigit, Bool.and_eq_true, decide_eq_true_eq, ge_iff_le, UInt32.le_iff_toNat_le,
    Char.toNat]
  rfl

theorem digitValue?_of_isDigit
    {char : Char}
    (isDigit : char.isDigit = true) :
    digitValue? 10 char = some (char.toNat - '0'.toNat) := by
  have bounds := isDigit_iff.mp isDigit
  have inRange : '0' ≤ char ∧ char ≤ '9' := by
    simpa [Char.le_def, UInt32.le_iff_toNat_le] using bounds
  have small : char.toNat - 48 < 10 := by omega
  simp [digitValue?, hexValue?, inRange, Option.filter, small]

theorem isBlank_of_isDigit
    {char : Char}
    (isDigit : char.isDigit = true) :
    isBlank char = false := by
  have bounds := isDigit_iff.mp isDigit
  simp only [isBlank, Bool.or_eq_false_iff, Bool.and_eq_false_iff, decide_eq_false_iff_not,
    beq_eq_false_iff_ne]
  omega

theorem foldl_digits
    {digits : List Char}
    (areDigits : ∀ digit ∈ digits, digit.isDigit = true)
    (value : Nat) :
    digits.foldl
        (fun value digit => do return (← value) * 10 + (← digitValue? 10 digit))
        (some value) =
      some (Nat.ofDigitChars 10 digits value) := by
  induction digits generalizing value with
  | nil => rfl
  | cons digit rest inductionHypothesis =>
      obtain ⟨isDigit, restDigits⟩ := List.forall_mem_cons.mp areDigits
      have next := inductionHypothesis restDigits (value * 10 + (digit.toNat - '0'.toNat))
      simp only [List.foldl_cons, digitValue?_of_isDigit isDigit]
      rw [Nat.mul_comm] at next
      simpa [Nat.ofDigitChars, Nat.mul_comm] using next

theorem natOfDigits?_of_digits
    {digits : List Char}
    (areDigits : ∀ digit ∈ digits, digit.isDigit = true)
    (someLeft : digits ≠ []) :
    natOfDigits? 10 digits = some (Nat.ofDigitChars 10 digits 0) := by
  obtain ⟨digit, rest, rfl⟩ := List.exists_cons_of_ne_nil someLeft
  exact foldl_digits areDigits 0

theorem digitsValue_eq
    (digits : List Char) :
    Decimal.digitsValue digits = Nat.ofDigitChars 10 digits 0 := by
  simp only [Decimal.digitsValue, Nat.ofDigitChars, Nat.mul_comm]

/-! ## Numbers in decimal -/

section Decimals

variable (number : Nat)

theorem toList_toString :
    (toString number).toList = Nat.toDigits 10 number := by
  simp

theorem isDigit_of_mem_toDigits :
    ∀ digit ∈ Nat.toDigits 10 number, digit.isDigit = true := by
  intro digit isMember
  exact Nat.isDigit_of_mem_toDigits (by omega) (by omega) isMember

/-- A number that is not zero starts with another digit. -/
theorem head?_toDigits
    (positive : 0 < number) :
    (Nat.toDigits 10 number).head? ≠ some '0' := by
  induction number using Nat.strongRecOn with
  | ind number inductionHypothesis =>
      rw [Nat.toDigits_eq_if (by omega)]
      split
      · rename_i isDigit
        have nonzero : ∀ digit < 10, 0 < digit → Nat.digitChar digit ≠ '0' := by decide
        simpa using nonzero number isDigit positive
      · have lead := inductionHypothesis (number / 10) (by omega) (by omega)
        rwa [List.head?_append_of_ne_nil _ Nat.toDigits_ne_nil]

/-- No digit follows a zero at the start. -/
theorem toDigits_cons_cons
    {first second : Char}
    {rest : List Char}
    (digits : Nat.toDigits 10 number = first :: second :: rest) :
    first ≠ '0' := by
  rintro rfl
  obtain rfl | positive := Nat.eq_zero_or_pos number
  · simp at digits
  · exact head?_toDigits number positive (by rw [digits]; rfl)

theorem natOfDigits?_toDigits :
    natOfDigits? 10 (Nat.toDigits 10 number) = some number := by
  rw [natOfDigits?_of_digits (isDigit_of_mem_toDigits number) Nat.toDigits_ne_nil,
    Nat.ofDigitChars_ten_toDigits]

theorem splitBase_toDigits :
    splitBase (Nat.toDigits 10 number) = (10, Nat.toDigits 10 number) := by
  have areDigits := isDigit_of_mem_toDigits number
  unfold splitBase
  split
  · rename_i digits written
    rw [written] at areDigits
    exact absurd (areDigits 'x' (by simp)) (by decide)
  · rename_i digits written
    rw [written] at areDigits
    exact absurd (areDigits 'X' (by simp)) (by decide)
  · rfl

/-- A number in decimal is read as itself, if it fits into 32 bits. -/
theorem readUInt32?_toString :
    readUInt32? (toString number) =
      if number < 2 ^ 32 then some (UInt32.ofNat number) else none := by
  have solid : ∀ char ∈ Nat.toDigits 10 number, isBlank char = false := fun char isMember =>
    isBlank_of_isDigit (isDigit_of_mem_toDigits number char isMember)
  simp only [readUInt32?, toList_toString, trimChars_of_solid solid, splitBase_toDigits,
    natOfDigits?_toDigits]
  rfl

end Decimals

/-! ## Numerals -/

/-- A character is the digit of a value below the base; letters may be of either case. -/
def IsDigitOf
    (base : Nat)
    (char : Char)
    (value : Nat) : Prop :=
  value < base ∧ (char = Nat.digitChar value ∨ char = (Nat.digitChar value).toUpper)

/-- One or more digits write a number in a base, the last of them being that of the ones. -/
def Writes
    (base : Nat)
    (digits : List Char)
    (number : Nat) : Prop :=
  digits ≠ [] ∧
    ∃ values, List.Forall₂ (IsDigitOf base) digits values ∧
      number = Nat.ofDigits base values.reverse

/-- A numeral is decimal, with any zeros in front, or marked as hexadecimal. -/
def IsNumeral
    (chars : List Char)
    (number : Nat) : Prop :=
  Writes 10 chars number ∨
    ∃ digits, (chars = '0' :: 'x' :: digits ∨ chars = '0' :: 'X' :: digits) ∧
      Writes 16 digits number

/-! ## Digits of a base -/

variable {base : Nat}

/-- A character whose code lies in a range is that of one of the offsets from its start. -/
theorem exists_offset
    {char first last : Char}
    (low : first ≤ char)
    (high : char ≤ last) :
    ∃ offset ≤ last.toNat - first.toNat, char = Char.ofNat (first.toNat + offset) ∧
      char.toNat - first.toNat = offset := by
  have lowCode : first.toNat ≤ char.toNat := low
  have highCode : char.toNat ≤ last.toNat := high
  refine ⟨char.toNat - first.toNat, by omega, ?_, rfl⟩
  rw [Nat.add_sub_cancel' lowCode, Char.ofNat_toNat]

theorem hexValue?_eq_some_iff
    {char : Char}
    {value : Nat} :
    hexValue? char = some value ↔ IsDigitOf 16 char value := by
  constructor
  · intro isValue
    have decimal : ∀ offset ≤ 9, IsDigitOf 16 (Char.ofNat (48 + offset)) offset := by
      unfold IsDigitOf
      decide
    have lower : ∀ offset ≤ 5, IsDigitOf 16 (Char.ofNat (97 + offset)) (offset + 10) := by
      unfold IsDigitOf
      decide
    have upper : ∀ offset ≤ 5, IsDigitOf 16 (Char.ofNat (65 + offset)) (offset + 10) := by
      unfold IsDigitOf
      decide
    unfold hexValue? at isValue
    split_ifs at isValue with isDecimal isLower isUpper
    · obtain ⟨offset, small, rfl, same⟩ := exists_offset isDecimal.1 isDecimal.2
      rw [same] at isValue
      cases isValue
      exact decimal _ small
    · obtain ⟨offset, small, rfl, same⟩ := exists_offset isLower.1 isLower.2
      rw [same] at isValue
      cases isValue
      exact lower _ small
    · obtain ⟨offset, small, rfl, same⟩ := exists_offset isUpper.1 isUpper.2
      rw [same] at isValue
      cases isValue
      exact upper _ small
  · rintro ⟨small, isChar⟩
    have read : ∀ value < 16,
        hexValue? (Nat.digitChar value) = some value ∧
          hexValue? (Nat.digitChar value).toUpper = some value := by decide
    obtain rfl | rfl := isChar
    · exact (read value small).1
    · exact (read value small).2

theorem digitValue?_eq_some_iff
    (small : base ≤ 16)
    {char : Char}
    {value : Nat} :
    digitValue? base char = some value ↔ IsDigitOf base char value := by
  simp only [digitValue?, Option.filter_eq_some_iff, hexValue?_eq_some_iff, IsDigitOf,
    decide_eq_true_eq]
  constructor
  · rintro ⟨⟨-, isChar⟩, below⟩
    exact ⟨below, isChar⟩
  · rintro ⟨below, isChar⟩
    exact ⟨⟨by omega, isChar⟩, below⟩

/-- Nothing is read on behind a character that is no digit. -/
theorem foldl_digitValue?_none
    (base : Nat)
    (digits : List Char) :
    digits.foldl (fun value digit => do return (← value) * base + (← digitValue? base digit))
      none = none := by
  induction digits with
  | nil => rfl
  | cons digit rest inductionHypothesis => exact inductionHypothesis

/-- Digits are read on from the value of those in front of them. -/
theorem foldl_digitValue?_eq_some_iff
    (small : base ≤ 16)
    (start : Nat)
    {digits : List Char}
    {number : Nat} :
    digits.foldl (fun value digit => do return (← value) * base + (← digitValue? base digit))
        (some start) = some number ↔
      ∃ values, List.Forall₂ (IsDigitOf base) digits values ∧
        number = start * base ^ values.length + Nat.ofDigits base values.reverse := by
  induction digits generalizing start with
  | nil => simp [eq_comm]
  | cons digit rest inductionHypothesis =>
      rw [List.foldl_cons]
      cases isValue : digitValue? base digit with
      | none =>
          refine iff_of_false ?_ ?_
          · intro isNumber
            cases (foldl_digitValue?_none base rest).symm.trans isNumber
          · rintro ⟨values, digits, -⟩
            obtain ⟨value, others, isDigit, -, -⟩ := List.forall₂_cons_left_iff.mp digits
            rw [(digitValue?_eq_some_iff small).mpr isDigit] at isValue
            cases isValue
      | some value =>
          have positional (others : List Nat) :
              (start * base + value) * base ^ others.length + Nat.ofDigits base others.reverse =
                start * base ^ (value :: others).length +
                  Nat.ofDigits base (value :: others).reverse := by
            rw [List.reverse_cons, Nat.ofDigits_append, List.length_reverse,
              Nat.ofDigits_singleton, List.length_cons, Nat.pow_succ]
            ring
          refine (inductionHypothesis (start * base + value)).trans ⟨?_, ?_⟩
          · rintro ⟨others, digits, isNumber⟩
            exact ⟨value :: others, .cons ((digitValue?_eq_some_iff small).mp isValue) digits,
              isNumber.trans (positional others)⟩
          · rintro ⟨values, digits, isNumber⟩
            obtain ⟨first, others, isDigit, rest, rfl⟩ := List.forall₂_cons_left_iff.mp digits
            rw [(digitValue?_eq_some_iff small).mpr isDigit] at isValue
            cases isValue
            exact ⟨others, rest, isNumber.trans (positional others).symm⟩

theorem natOfDigits?_eq_some_iff
    (small : base ≤ 16)
    {digits : List Char}
    {number : Nat} :
    natOfDigits? base digits = some number ↔ Writes base digits number := by
  cases digits with
  | nil => simp [natOfDigits?, Writes]
  | cons digit rest =>
      refine (foldl_digitValue?_eq_some_iff small 0).trans ?_
      simp [Writes]

/-! ## Marks and white space -/

theorem not_isDigitOf_mark
    {mark : Char}
    (isMark : mark = 'x' ∨ mark = 'X')
    (value : Nat) :
    ¬IsDigitOf 10 mark value := by
  rintro ⟨small, isChar⟩
  have notLower : ∀ value < 10,
      'x' ≠ Nat.digitChar value ∧ 'x' ≠ (Nat.digitChar value).toUpper := by decide
  have notUpper : ∀ value < 10,
      'X' ≠ Nat.digitChar value ∧ 'X' ≠ (Nat.digitChar value).toUpper := by decide
  obtain rfl | rfl := isMark
  · exact isChar.elim (notLower value small).1 (notLower value small).2
  · exact isChar.elim (notUpper value small).1 (notUpper value small).2

/-- A mark is no decimal digit, so that no numeral can be taken for one of the other base. -/
theorem not_writes_marked
    {mark : Char}
    (isMark : mark = 'x' ∨ mark = 'X')
    (first : Char)
    (digits : List Char)
    (number : Nat) :
    ¬Writes 10 (first :: mark :: digits) number := by
  rintro ⟨-, values, areDigits, -⟩
  obtain ⟨-, others, -, rest, -⟩ := List.forall₂_cons_left_iff.mp areDigits
  obtain ⟨value, -, isDigit, -, -⟩ := List.forall₂_cons_left_iff.mp rest
  exact not_isDigitOf_mark isMark value isDigit

/-- What is left of the mark is read in the base that the mark tells exactly if all is a numeral. -/
theorem isNumeral_iff
    {chars : List Char}
    {number : Nat} :
    natOfDigits? (splitBase chars).1 (splitBase chars).2 = some number ↔
      IsNumeral chars number := by
  unfold splitBase
  split
  · rename_i digits
    rw [natOfDigits?_eq_some_iff (by omega)]
    constructor
    · exact fun written => Or.inr ⟨digits, Or.inl rfl, written⟩
    · rintro (written | ⟨digits, same | same, written⟩)
      · exact absurd written (not_writes_marked (Or.inl rfl) _ _ _)
      · cases same
        exact written
      · cases same
  · rename_i digits
    rw [natOfDigits?_eq_some_iff (by omega)]
    constructor
    · exact fun written => Or.inr ⟨digits, Or.inr rfl, written⟩
    · rintro (written | ⟨digits, same | same, written⟩)
      · exact absurd written (not_writes_marked (Or.inr rfl) _ _ _)
      · cases same
      · cases same
        exact written
  · rename_i notLower notUpper
    rw [natOfDigits?_eq_some_iff (by omega)]
    constructor
    · exact Or.inl
    · rintro (written | ⟨digits, same | same, -⟩)
      · exact written
      · exact absurd same (notLower digits)
      · exact absurd same (notUpper digits)

theorem Writes.isSolid
    (small : base ≤ 16)
    {digits : List Char}
    {number : Nat}
    (written : Writes base digits number) :
    ∀ char ∈ digits, isBlank char = false := by
  have solid : ∀ value < 16,
      isBlank (Nat.digitChar value) = false ∧ isBlank (Nat.digitChar value).toUpper = false := by
    decide
  obtain ⟨-, values, areDigits, -⟩ := written
  induction areDigits with
  | nil => simp
  | cons isDigit _ inductionHypothesis =>
      refine List.forall_mem_cons.mpr ⟨?_, inductionHypothesis⟩
      obtain ⟨below, rfl | rfl⟩ := isDigit
      · exact (solid _ (by omega)).1
      · exact (solid _ (by omega)).2

theorem IsNumeral.isSolid
    {chars : List Char}
    {number : Nat}
    (isNumeral : IsNumeral chars number) :
    ∀ char ∈ chars, isBlank char = false := by
  obtain written | ⟨digits, rfl | rfl, written⟩ := isNumeral
  · exact written.isSolid (by omega)
  · have solid := written.isSolid (by omega)
    exact List.forall_mem_cons.mpr ⟨rfl, List.forall_mem_cons.mpr ⟨rfl, solid⟩⟩
  · have solid := written.isSolid (by omega)
    exact List.forall_mem_cons.mpr ⟨rfl, List.forall_mem_cons.mpr ⟨rfl, solid⟩⟩

/-- Trimming takes white space away on both sides. -/
theorem exists_trimChars
    (chars : List Char) :
    ∃ left right, chars = left ++ trimChars chars ++ right ∧
      ∀ char ∈ left ++ right, isBlank char = true := by
  refine ⟨chars.takeWhile isBlank, (chars.dropWhile isBlank).rtakeWhile isBlank, ?_, ?_⟩
  · rw [trimChars_eq_rdropWhile, List.append_assoc, List.rdropWhile_append_rtakeWhile,
      List.takeWhile_append_dropWhile]
  · intro char isMember
    obtain before | behind := List.mem_append.mp isMember
    · exact List.mem_takeWhile_imp before
    · exact List.mem_rtakeWhile_imp behind

/-- Trimming takes no more away than the white space around characters without any. -/
theorem trimChars_surrounded
    {left middle right : List Char}
    (blank : ∀ char ∈ left ++ right, isBlank char = true)
    (solid : ∀ char ∈ middle, isBlank char = false) :
    trimChars (left ++ middle ++ right) = middle := by
  obtain ⟨blankLeft, blankRight⟩ := List.forall_mem_append.mp blank
  cases middle with
  | nil => exact trimChars_eq_nil_of_blank (by simpa using blank)
  | cons first rest =>
      have start : (left ++ first :: rest ++ right).dropWhile isBlank = first :: rest ++ right := by
        rw [List.append_assoc, List.dropWhile_append_of_pos blankLeft, List.cons_append,
          List.dropWhile_cons_of_neg (by simp [solid first])]
      have finish : (first :: rest ++ right).rdropWhile isBlank =
          (first :: rest).rdropWhile isBlank := by
        rw [List.rdropWhile, List.reverse_append, List.dropWhile_append_of_pos (by simpa),
          List.rdropWhile]
      rw [trimChars_eq_rdropWhile, start, finish, List.rdropWhile_eq_self_iff]
      intro someLeft endsBlank
      rw [solid _ (List.getLast_mem someLeft)] at endsBlank
      cases endsBlank

/-! ## Reading -/

theorem readUInt32?_eq_some_iff
    {text : String}
    {number : Nat} :
    (readUInt32? text).map UInt32.toNat = some number ↔
      number < Nat.pow 2 32 ∧ IsNumeral (trimChars text.toList) number := by
  rw [← isNumeral_iff]
  simp only [readUInt32?]
  cases natOfDigits? (splitBase (trimChars text.toList)).1 (splitBase (trimChars text.toList)).2 with
  | none => simp
  | some value =>
      by_cases small : value < Nat.pow 2 32
      · have kept : (UInt32.ofNat value).toNat = value := UInt32.toNat_ofNat_of_lt' small
        simp only [small, if_true, Option.map_some, kept, Option.some.injEq]
        constructor
        · rintro rfl
          exact ⟨small, rfl⟩
        · exact And.right
      · simp only [small, if_false, Option.map_none, Option.some.injEq, reduceCtorEq, false_iff]
        rintro ⟨fits, rfl⟩
        exact small fits

/-! ## Writing -/

/-- The digits of a number in a base write it. -/
theorem writes_toDigits
    (large : 1 < base)
    (number : Nat) :
    Writes base (Nat.toDigits base number) number := by
  refine ⟨Nat.toDigits_ne_nil, ?_⟩
  induction number using Nat.strongRecOn with
  | ind number inductionHypothesis =>
      rw [Nat.toDigits_eq_if large]
      split
      · rename_i small
        exact ⟨[number], .cons ⟨small, Or.inl rfl⟩ .nil, by simp⟩
      · rename_i notSmall
        obtain ⟨values, lead, same⟩ := inductionHypothesis (number / base)
          (Nat.div_lt_self (by omega) large)
        have last : IsDigitOf base (Nat.digitChar (number % base)) (number % base) :=
          ⟨Nat.mod_lt number (by omega), Or.inl rfl⟩
        refine ⟨values ++ [number % base], List.rel_append lead (.cons last .nil), ?_⟩
        rw [List.reverse_append, List.reverse_singleton, List.singleton_append,
          Nat.ofDigits_cons, ← same, Nat.mod_add_div]

theorem isNumeral_writeUInt32
    (hexadecimal : Bool)
    (value : UInt32) :
    IsNumeral (writeUInt32 hexadecimal value).toList value.toNat := by
  unfold writeUInt32
  split
  · refine Or.inr ⟨Nat.toDigits 16 value.toNat, Or.inl ?_, writes_toDigits (by omega) _⟩
    rw [String.toList_append, String.toList_ofList, String.toList_ofList]
    rfl
  · rw [toList_toString]
    exact Or.inl (writes_toDigits (by omega) _)

/-- A number is read from its numerals, between white space, if it is below `2 ^ 32`, and nothing
else is read; among them are the two forms in which a number is written. -/
theorem numerals_are_read_exactly :
    (∀ text number,
      (readUInt32? text).map UInt32.toNat = some number ↔
        number < 2 ^ 32 ∧
          ∃ left numeral right, text.toList = left ++ numeral ++ right ∧
            (∀ char ∈ left ++ right, isBlank char = true) ∧ IsNumeral numeral number) ∧
      ∀ hexadecimal value, readUInt32? (writeUInt32 hexadecimal value) = some value := by
  constructor
  · intro text number
    rw [readUInt32?_eq_some_iff]
    refine and_congr Iff.rfl ⟨fun isNumeral => ?_, ?_⟩
    · obtain ⟨left, right, same, blank⟩ := exists_trimChars text.toList
      exact ⟨left, _, right, same, blank, isNumeral⟩
    · rintro ⟨left, numeral, right, same, blank, isNumeral⟩
      rwa [same, trimChars_surrounded blank isNumeral.isSolid]
  · intro hexadecimal value
    have isNumeral := isNumeral_writeUInt32 hexadecimal value
    have read : (readUInt32? (writeUInt32 hexadecimal value)).map UInt32.toNat =
        some value.toNat := by
      rw [readUInt32?_eq_some_iff, trimChars_of_solid isNumeral.isSolid]
      exact ⟨value.toNat_lt, isNumeral⟩
    exact Option.map_injective (fun _ _ => UInt32.toNat_inj.mp) read

example : readUInt32? " 0X00fF\n" = some 255 := by decide

end Wayland.Text
