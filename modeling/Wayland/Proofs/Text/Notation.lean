import Mathlib.Algebra.Field.Rat
import Mathlib.Algebra.Order.Ring.Rat
import Mathlib.Tactic.FieldSimp
import Mathlib.Tactic.Positivity
import Wayland.Proofs.Text.Shortest

/-!
Contract: decimals in their two notations.

Owns:
- how a decimal is spelled, and that it is read as what it spells;
- the rational number that a decimal denotes, and the texts without superfluous zeros after the
  point;
- that digits shown in either notation spell the number they show, without such zeros.

Does not own: which digits are shown of a number.
-/

namespace Wayland.Text

/-! ## Spelling -/

/-- A decimal as it is spelled: digits, those behind the point, and a power of ten if one is
written, with the mark of one below zero. -/
structure Spelling where
  negative : Bool
  whole : List Char
  fraction : List Char
  power : Option (Bool × List Char)
  someWhole : whole ≠ []
  wholeDigits : ∀ digit ∈ whole, digit.isDigit = true
  fractionDigits : ∀ digit ∈ fraction, digit.isDigit = true
  somePower : ∀ below digits, power = some (below, digits) → digits ≠ []
  powerDigits : ∀ below digits, power = some (below, digits) →
    ∀ digit ∈ digits, digit.isDigit = true

namespace Spelling

variable (spelling : Spelling)

def signChars : List Char :=
  if spelling.negative then ['-'] else []

/-- The point and the digits behind it, if there are any. -/
def pointChars : List Char :=
  if spelling.fraction.isEmpty then [] else '.' :: spelling.fraction

/-- The power of ten, if one is written. -/
def powerChars : List Char :=
  match spelling.power with
  | none => []
  | some (below, digits) => 'e' :: (if below then '-' else '+') :: digits

def chars : List Char :=
  spelling.signChars ++ (spelling.whole ++ (spelling.pointChars ++ spelling.powerChars))

/-- The power of ten that is written. -/
def powerNumber : Int :=
  match spelling.power with
  | none => 0
  | some (below, digits) =>
      if below then -(Decimal.powerValue digits : Int) else Decimal.powerValue digits

def number : Decimal :=
  ⟨spelling.negative, Decimal.digitsValue (spelling.whole ++ spelling.fraction),
    spelling.powerNumber - spelling.fraction.length⟩

/-! ## Reading -/

theorem splitSign_chars :
    Decimal.splitSign spelling.chars =
      (spelling.negative, spelling.whole ++ (spelling.pointChars ++ spelling.powerChars)) := by
  unfold chars signChars
  cases spelling.negative with
  | true => rfl
  | false =>
      obtain ⟨first, rest, written⟩ := List.exists_cons_of_ne_nil spelling.someWhole
      have isDigit := spelling.wholeDigits first (by simp [written])
      rw [written]
      show Decimal.splitSign (first :: _) = (false, first :: _)
      unfold Decimal.splitSign
      split
      · rename_i same
        cases same
        exact absurd isDigit (by decide)
      · rename_i same
        cases same
        exact absurd isDigit (by decide)
      · rfl

/-- Digits end where the power of ten starts. -/
theorem takeWhile_powerChars : spelling.powerChars.takeWhile Char.isDigit = [] := by
  unfold powerChars
  cases spelling.power with
  | none => rfl
  | some power => rfl

theorem dropWhile_powerChars :
    spelling.powerChars.dropWhile Char.isDigit = spelling.powerChars := by
  unfold powerChars
  cases spelling.power with
  | none => rfl
  | some power => rfl

/-- Digits end where the point or the power of ten starts. -/
theorem takeWhile_pointChars :
    (spelling.pointChars ++ spelling.powerChars).takeWhile Char.isDigit = [] := by
  unfold pointChars
  cases spelling.fraction with
  | nil => exact spelling.takeWhile_powerChars
  | cons digit rest => rfl

theorem dropWhile_pointChars :
    (spelling.pointChars ++ spelling.powerChars).dropWhile Char.isDigit =
      spelling.pointChars ++ spelling.powerChars := by
  unfold pointChars
  cases spelling.fraction with
  | nil => exact spelling.dropWhile_powerChars
  | cons digit rest => rfl

theorem splitFraction_pointChars :
    Decimal.splitFraction (spelling.pointChars ++ spelling.powerChars) =
      (spelling.fraction, spelling.powerChars) := by
  have areDigits := spelling.fractionDigits
  unfold pointChars
  cases isFraction : spelling.fraction with
  | nil =>
      unfold powerChars
      cases spelling.power with
      | none => rfl
      | some power => rfl
  | cons digit rest =>
      rw [isFraction] at areDigits
      show (List.takeWhile Char.isDigit (digit :: rest ++ spelling.powerChars),
        List.dropWhile Char.isDigit (digit :: rest ++ spelling.powerChars)) = _
      rw [List.takeWhile_append_of_pos areDigits, List.dropWhile_append_of_pos areDigits,
        takeWhile_powerChars, dropWhile_powerChars, List.append_nil]

/-- A number is read as it is spelled. -/
theorem ofText?_chars :
    Decimal.ofText? (String.ofList spelling.chars) = some spelling.number := by
  have whole : (spelling.whole ++ (spelling.pointChars ++ spelling.powerChars)).takeWhile
      Char.isDigit = spelling.whole := by
    rw [List.takeWhile_append_of_pos spelling.wholeDigits, takeWhile_pointChars, List.append_nil]
  have afterWhole : (spelling.whole ++ (spelling.pointChars ++ spelling.powerChars)).dropWhile
      Char.isDigit = spelling.pointChars ++ spelling.powerChars := by
    rw [List.dropWhile_append_of_pos spelling.wholeDigits, dropWhile_pointChars]
  have notEmpty : (spelling.whole.isEmpty && spelling.fraction.isEmpty) = false := by
    simp [spelling.someWhole]
  simp only [Decimal.ofText?, String.toList_ofList, splitSign_chars, whole, afterWhole,
    splitFraction_pointChars, notEmpty, Bool.false_eq_true, if_false, number, powerNumber]
  unfold powerChars
  cases isPower : spelling.power with
  | none => simp
  | some power =>
      obtain ⟨below, digits⟩ := power
      have somePower := spelling.somePower below digits isPower
      have areDigits := spelling.powerDigits below digits isPower
      have split : Decimal.splitSign ((if below then '-' else '+') :: digits) = (below, digits) := by
        cases below <;> rfl
      simp only [split]
      simp [somePower, List.all_eq_true.mpr areDigits]

end Spelling

/-! ## Values and zeros -/

def Decimal.toRat
    (number : Decimal) :
    ℚ :=
  (if number.negative then -1 else 1) * number.mantissa * (10 : ℚ) ^ number.exponent

def pointDigits
    (text : String) :
    List Char :=
  ((text.toList.dropWhile (· != '.')).drop 1).takeWhile Char.isDigit

/-- A text has no superfluous zero behind its point, and no point without digits behind it. -/
structure IsTidy
    (text : String) : Prop where
  ends : (pointDigits text).getLast? ≠ some '0'
  someLeft : '.' ∈ text.toList → pointDigits text ≠ []

namespace Spelling

variable (spelling : Spelling)

theorem notPoint_of_isDigit
    {digit : Char}
    (isDigit : digit.isDigit = true) :
    (digit != '.') = true := by
  rw [bne_iff_ne]
  rintro rfl
  exact absurd isDigit (by decide)

/-- No point stands in front of that of the fraction. -/
theorem notPoint_front :
    ∀ char ∈ spelling.signChars ++ spelling.whole, (char != '.') = true := by
  refine List.forall_mem_append.mpr ⟨?_, fun digit isMember =>
    notPoint_of_isDigit (spelling.wholeDigits digit isMember)⟩
  unfold signChars
  split_ifs <;> simp

/-- No point stands behind the fraction. -/
theorem notPoint_powerChars :
    ∀ char ∈ spelling.powerChars, (char != '.') = true := by
  have areDigits := spelling.powerDigits
  unfold powerChars
  cases isPower : spelling.power with
  | none => simp
  | some power =>
      obtain ⟨below, digits⟩ := power
      refine List.forall_mem_cons.mpr ⟨rfl, List.forall_mem_cons.mpr ⟨?_, fun digit isMember =>
        notPoint_of_isDigit (areDigits below digits isPower digit isMember)⟩⟩
      cases below <;> rfl

theorem chars_eq_append :
    spelling.chars =
      spelling.signChars ++ spelling.whole ++ (spelling.pointChars ++ spelling.powerChars) := by
  rw [chars, List.append_assoc]

/-- The digits behind the point of a spelled number are those of its fraction. -/
theorem pointDigits_chars :
    pointDigits (String.ofList spelling.chars) = spelling.fraction := by
  have areDigits := spelling.fractionDigits
  rw [pointDigits, String.toList_ofList, chars_eq_append,
    List.dropWhile_append_of_pos spelling.notPoint_front]
  unfold pointChars
  cases isFraction : spelling.fraction with
  | nil =>
      have nothing : spelling.powerChars.dropWhile (· != '.') = [] :=
        List.dropWhile_eq_nil_iff.mpr spelling.notPoint_powerChars
      simp only [List.isEmpty_nil, if_true, List.nil_append, nothing]
      rfl
  | cons digit rest =>
      rw [isFraction] at areDigits
      show List.takeWhile Char.isDigit (digit :: rest ++ spelling.powerChars) = digit :: rest
      rw [List.takeWhile_append_of_pos areDigits, takeWhile_powerChars, List.append_nil]

/-- A number whose fraction does not end in a zero is spelled without superfluous zeros. -/
theorem isTidy_chars
    (ends : spelling.fraction.getLast? ≠ some '0') :
    IsTidy (String.ofList spelling.chars) := by
  constructor
  · rwa [pointDigits_chars]
  · intro hasPoint isFraction
    rw [pointDigits_chars] at isFraction
    rw [String.toList_ofList, chars_eq_append, pointChars, isFraction] at hasPoint
    obtain inFront | behind := List.mem_append.mp hasPoint
    · simpa using spelling.notPoint_front '.' inFront
    · simpa using spelling.notPoint_powerChars '.' (by simpa using behind)

def magnitude : ℚ :=
  spelling.number.mantissa * (10 : ℚ) ^ spelling.number.exponent

end Spelling

/-- A text spells a number of a sign and magnitude, without superfluous zeros. -/
def IsSpelling
    (text : String)
    (negative : Bool)
    (magnitude : ℚ) : Prop :=
  ∃ spelling : Spelling, text = String.ofList spelling.chars ∧
    spelling.negative = negative ∧ spelling.magnitude = magnitude ∧
    spelling.fraction.getLast? ≠ some '0'

theorem IsSpelling.isTidy
    {text : String}
    {negative : Bool}
    {magnitude : ℚ}
    (isSpelling : IsSpelling text negative magnitude) :
    IsTidy text := by
  obtain ⟨spelling, rfl, -, -, ends⟩ := isSpelling
  exact spelling.isTidy_chars ends

theorem IsSpelling.exists_ofText?
    {text : String}
    {negative : Bool}
    {magnitude : ℚ}
    (isSpelling : IsSpelling text negative magnitude) :
    ∃ number, Decimal.ofText? text = some number ∧
      number.toRat = (if negative then -1 else 1) * magnitude := by
  obtain ⟨spelling, rfl, rfl, rfl, -⟩ := isSpelling
  refine ⟨spelling.number, spelling.ofText?_chars, ?_⟩
  rw [Decimal.toRat, Spelling.magnitude, mul_assoc]
  rfl

namespace Shortest

variable {shown : List Char} {power : Int} {units depth : Nat}

/-- The number that digits show, the first of them at a power of ten. -/
def shownValue
    (shown : List Char)
    (power : Int) :
    ℚ :=
  Decimal.digitsValue shown * (10 : ℚ) ^ (power + 1 - shown.length)

theorem IsShown.shownValue_eq
    (isShown : IsShown shown power units depth) :
    shownValue shown power = units / 10 ^ depth := by
  obtain ⟨zeros, place, isUnits⟩ := isShown.value
  have exponent : power + 1 - (shown.length : Int) = (zeros : Int) - depth := by
    omega
  rw [shownValue, exponent, ← isUnits, zpow_sub₀ (by norm_num), zpow_natCast, zpow_natCast]
  push_cast
  ring

theorem sign_append
    (negative : Bool)
    (chars : List Char) :
    (if negative then "-" else "") ++ String.ofList chars =
      String.ofList ((if negative then ['-'] else []) ++ chars) := by
  cases negative with
  | false => simp
  | true => exact String.ofList_append.symm

theorem isDigit_of_mem_zeros
    {count : Nat} :
    ∀ digit ∈ List.replicate count '0', digit.isDigit = true := by
  intro digit isMember
  rw [List.eq_of_mem_replicate isMember]
  rfl

theorem powerValue_eq
    {digits : List Char}
    (small : Decimal.digitsValue digits < 10000) :
    Decimal.powerValue digits = Decimal.digitsValue digits := by
  induction digits using List.reverseRecOn with
  | nil => rfl
  | append_singleton digits digit inductionHypothesis =>
      have last : Decimal.digitsValue (digits ++ [digit]) =
          Decimal.digitsValue digits * 10 + (digit.toNat - '0'.toNat) := by
        simp [Decimal.digitsValue]
      have lead := inductionHypothesis (by omega)
      have counts : Decimal.digitsValue digits < 10000 := by omega
      rw [last, Decimal.powerValue, List.foldl_append]
      unfold Decimal.powerValue at lead
      rw [lead]
      simp [counts]

/-- The digits of a power of ten, of which there are at least two. -/
def powerDigits
    (power : Int) :
    List Char :=
  let size := Nat.toDigits 10 power.natAbs
  if size.length < 2 then '0' :: size else size

theorem isDigit_of_mem_powerDigits
    (power : Int) :
    ∀ digit ∈ powerDigits power, digit.isDigit = true := by
  have areDigits := isDigit_of_mem_toDigits power.natAbs
  unfold powerDigits
  simp only
  split_ifs
  · exact List.forall_mem_cons.mpr ⟨rfl, areDigits⟩
  · exact areDigits

theorem powerValue_powerDigits
    (small : power.natAbs < 10000) :
    Decimal.powerValue (powerDigits power) = power.natAbs := by
  have value : Decimal.digitsValue (powerDigits power) = power.natAbs := by
    have plain : Decimal.digitsValue (Nat.toDigits 10 power.natAbs) = power.natAbs := by
      rw [digitsValue_eq, Nat.ofDigitChars_ten_toDigits]
    unfold powerDigits
    simp only
    split_ifs
    · exact plain
    · exact plain
  rw [powerValue_eq (by omega), value]

section Notations

variable (negative : Bool) (isShown : IsShown shown power units depth)
include isShown

/-- Digits of a number below one are written behind the point. -/
theorem IsShown.positional_of_neg
    (isSmall : power < 0) :
    IsSpelling ((if negative then "-" else "") ++ positional shown power) negative
      (shownValue shown power) := by
  obtain ⟨areDigits, someDigits, ends, -⟩ := isShown
  let count := (-power - 1).toNat
  refine ⟨⟨negative, ['0'], List.replicate count '0' ++ shown, none, by simp, by simp,
    List.forall_mem_append.mpr ⟨isDigit_of_mem_zeros, areDigits⟩, by simp, by simp⟩,
    ?_, rfl, ?_, ?_⟩
  · rw [positional, sign_append]
    simp [isSmall, Spelling.chars, Spelling.signChars, Spelling.pointChars,
      Spelling.powerChars, someDigits, count]
  · have exponent : (0 : Int) - (count + shown.length : Nat) = power + 1 - shown.length := by
      omega
    show (Decimal.digitsValue (List.replicate (count + 1) '0' ++ shown) : ℚ) *
      (10 : ℚ) ^ ((0 : Int) - (List.replicate count '0' ++ shown).length) = _
    rw [digitsValue_zeros_append, List.length_append, List.length_replicate, exponent]
    rfl
  · rwa [List.getLast?_append_of_ne_nil _ someDigits]

/-- Digits of a whole number are written with the zeros that it ends in. -/
theorem IsShown.positional_of_le
    {place : Nat}
    (isPlace : power = place)
    (isWhole : shown.length ≤ place + 1) :
    IsSpelling ((if negative then "-" else "") ++ positional shown power) negative
      (shownValue shown power) := by
  obtain ⟨areDigits, someDigits, -, -⟩ := isShown
  subst isPlace
  let count := place + 1 - shown.length
  refine ⟨⟨negative, shown ++ List.replicate count '0', [], none, by simp [someDigits],
    List.forall_mem_append.mpr ⟨areDigits, isDigit_of_mem_zeros⟩, by simp, by simp, by simp⟩,
    ?_, rfl, ?_, by simp⟩
  · have notSmall : ¬(place : Int) < 0 := by omega
    rw [positional, sign_append]
    simp [notSmall, isWhole, Spelling.chars, Spelling.signChars, Spelling.pointChars,
      Spelling.powerChars, count]
  · have exponent : (place : Int) + 1 - shown.length = (count : Nat) := by omega
    show (Decimal.digitsValue (shown ++ List.replicate count '0' ++ []) : ℚ) *
      (10 : ℚ) ^ (0 : Int) = _
    rw [List.append_nil, digitsValue_append_zeros, zpow_zero, mul_one, shownValue, exponent,
      zpow_natCast]
    push_cast
    rfl

/-- Digits of other numbers are written on both sides of the point. -/
theorem IsShown.positional_of_lt
    {place : Nat}
    (isPlace : power = place)
    (isBroken : place + 1 < shown.length) :
    IsSpelling ((if negative then "-" else "") ++ positional shown power) negative
      (shownValue shown power) := by
  obtain ⟨areDigits, someDigits, ends, -⟩ := isShown
  subst isPlace
  have someFraction : (shown.drop (place + 1)).isEmpty = false := by
    simp [isBroken]
  refine ⟨⟨negative, shown.take (place + 1), shown.drop (place + 1), none, by simp [someDigits],
    fun digit isMember => areDigits digit (List.mem_of_mem_take isMember),
    fun digit isMember => areDigits digit (List.mem_of_mem_drop isMember), by simp, by simp⟩,
    ?_, rfl, ?_, ?_⟩
  · have notSmall : ¬(place : Int) < 0 := by omega
    have notWhole : ¬shown.length ≤ place + 1 := by omega
    rw [positional, sign_append]
    simp [notSmall, notWhole, Spelling.chars, Spelling.signChars, Spelling.pointChars,
      Spelling.powerChars, someFraction]
  · have exponent : (0 : Int) - (shown.length - (place + 1) : Nat) =
        place + 1 - shown.length := by
      omega
    show (Decimal.digitsValue (shown.take (place + 1) ++ shown.drop (place + 1)) : ℚ) *
      (10 : ℚ) ^ ((0 : Int) - (shown.drop (place + 1)).length) = _
    rw [List.take_append_drop, List.length_drop, exponent]
    rfl
  · rwa [List.getLast?_drop, if_neg (by omega)]

/-- Digits written around a point spell the number they show. -/
theorem IsShown.positional_isSpelling :
    IsSpelling ((if negative then "-" else "") ++ positional shown power) negative
      (shownValue shown power) := by
  obtain isSmall | notSmall := lt_or_ge power 0
  · exact isShown.positional_of_neg negative isSmall
  · obtain ⟨place, isPlace⟩ := Int.eq_ofNat_of_zero_le notSmall
    obtain isWhole | isBroken := le_or_gt shown.length (place + 1)
    · exact isShown.positional_of_le negative isPlace isWhole
    · exact isShown.positional_of_lt negative isPlace isBroken

/-- Digits written with a power of ten spell the number they show. -/
theorem IsShown.scientific_isSpelling
    (small : power.natAbs < 10000) :
    IsSpelling ((if negative then "-" else "") ++ scientific shown power) negative
      (shownValue shown power) := by
  obtain ⟨areDigits, someDigits, ends, -⟩ := isShown
  have someLeft : 0 < shown.length := List.length_pos_iff.mpr someDigits
  refine ⟨⟨negative, shown.take 1, shown.drop 1, some (decide (power < 0), powerDigits power),
    by simp [someDigits],
    fun digit isMember => areDigits digit (List.mem_of_mem_take isMember),
    fun digit isMember => areDigits digit (List.mem_of_mem_drop isMember), ?_, ?_⟩,
    ?_, rfl, ?_, ?_⟩
  · rintro below digits isPower
    cases isPower
    unfold powerDigits
    simp only
    split_ifs
    · simp
    · exact Nat.toDigits_ne_nil
  · rintro below digits isPower
    cases isPower
    exact isDigit_of_mem_powerDigits power
  · rw [scientific, sign_append]
    have noFraction : shown.tail = [] ↔ shown.length ≤ 1 := by
      rw [← List.drop_one, List.drop_eq_nil_iff]
    simp [Spelling.chars, Spelling.signChars, Spelling.pointChars, Spelling.powerChars,
      powerDigits, noFraction]
  · have isPower : (if decide (power < 0) = true then -(power.natAbs : Int) else power.natAbs) =
        power := by
      split_ifs with isSmall
      · rw [decide_eq_true_eq] at isSmall
        omega
      · rw [decide_eq_true_eq] at isSmall
        omega
    have exponent : power - (shown.length - 1 : Nat) = power + 1 - shown.length := by omega
    show (Decimal.digitsValue (shown.take 1 ++ shown.drop 1) : ℚ) * (10 : ℚ) ^
      ((if decide (power < 0) = true then -(Decimal.powerValue (powerDigits power) : Int)
          else Decimal.powerValue (powerDigits power)) - ((shown.drop 1).length : Int)) = _
    rw [List.take_append_drop, powerValue_powerDigits small, isPower, List.length_drop, exponent]
    rfl
  · rw [List.getLast?_drop]
    split_ifs
    · simp
    · exact ends

end Notations

/-- The text of a number spells it, in whichever notation it is written. -/
theorem IsResolved.general_isSpelling
    {numerator denominator bits significand : Nat}
    {place : Int}
    (isResolved : IsResolved numerator denominator units depth bits)
    (isFraction : binaryFraction significand place = (numerator, denominator))
    (negative : Bool) :
    IsSpelling (general negative significand place) negative (units / 10 ^ depth) := by
  have isShown := isResolved.isShown isFraction
  rw [← isShown.shownValue_eq, general]
  simp only
  by_cases isFar : (decide ((shownDigits significand place).2 < -4) ||
      decide (6 ≤ (shownDigits significand place).2)) = true
  · rw [if_pos isFar]
    exact isShown.scientific_isSpelling negative (isResolved.natAbs_power_lt isFraction)
  · rw [if_neg isFar]
    exact isShown.positional_isSpelling negative

end Shortest

end Wayland.Text
