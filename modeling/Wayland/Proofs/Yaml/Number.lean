import Mathlib.Data.Nat.Log
import Mathlib.Tactic.Linarith
import Wayland.Proofs.Text.Numeral
import Wayland.Proofs.Text.Rounding
import Wayland.Yaml.Shape

/-!
Contract: plain decimal numbers as YAML scalars.

Owns:
- which value a number in decimal stands for: an integer up to 64 bits, else a number in floating
  point or a text;
- that rounding to binary64 never brings a number of more than 64 bits back below 32 bits.

Does not own: where numbers may stand.
-/

namespace Wayland.Yaml

open Wayland.Text

/-! ## Rounding -/

section Rounding

variable {numerator denominator : Nat}

/-- The last place of a quotient is far below the quotient. -/
theorem lastPlace_small
    (positive : 0 < denominator)
    (large : denominator ≤ numerator)
    (isWhole : 0 ≤ Decimal.lastPlace numerator denominator) :
    2 * (denominator * 2 ^ (Decimal.lastPlace numerator denominator).toNat) ≤ numerator := by
  have bound := lastPlace_le numerator denominator
  obtain ⟨place, isPlace⟩ := Int.eq_ofNat_of_zero_le isWhole
  rw [isPlace] at bound ⊢
  have below : place + Nat.log2 denominator + 51 ≤ Nat.log2 numerator := by omega
  have denominatorLt : denominator < 2 ^ (Nat.log2 denominator + 1) := Nat.lt_log2_self
  have numeratorLe : 2 ^ Nat.log2 numerator ≤ numerator := Nat.log2_self_le (by omega)
  calc
    2 * (denominator * 2 ^ place)
        ≤ 2 * (2 ^ (Nat.log2 denominator + 1) * 2 ^ place) :=
          Nat.mul_le_mul_left 2 (Nat.mul_le_mul_right _ denominatorLt.le)
    _ = 2 ^ (place + Nat.log2 denominator + 2) := by ring
    _ ≤ 2 ^ Nat.log2 numerator := Nat.pow_le_pow_right (by omega) (by omega)
    _ ≤ numerator := numeratorLe

def wholeOf : Nat × Int → Nat
  | (significand, place) =>
      if 0 ≤ place then significand * Nat.pow 2 place.toNat
      else significand / Nat.pow 2 (-place).toNat

/-- A quotient of more than 32 bits is rounded to a number of more than 32 bits. -/
theorem le_wholeOf_nearestBinary
    (positive : 0 < denominator)
    (large : 2 ^ 33 * denominator ≤ numerator) :
    2 ^ 32 ≤ wholeOf (Decimal.nearestBinary numerator denominator) := by
  have notZero : numerator ≠ 0 := by omega
  simp only [Decimal.nearestBinary, notZero, if_false]
  by_cases isWhole : 0 ≤ Decimal.lastPlace numerator denominator
  · let unit := 2 ^ (Decimal.lastPlace numerator denominator).toNat
    have unitPositive : 0 < denominator * unit := by positivity
    have small : 2 * (denominator * unit) ≤ numerator :=
      lastPlace_small positive (by omega) isWhole
    simp only [isWhole, if_true, wholeOf]
    show 2 ^ 32 ≤ Decimal.roundHalfEven numerator (denominator * unit) * unit
    have rounded := div_le_roundHalfEven numerator (denominator * unit)
    have remainder := Nat.mod_lt numerator unitPositive
    have division := Nat.div_add_mod numerator (denominator * unit)
    have enough :
        2 ^ 32 * denominator ≤ numerator / (denominator * unit) * unit * denominator := by
      have : numerator / (denominator * unit) * unit * denominator =
          denominator * unit * (numerator / (denominator * unit)) := by ring
      omega
    exact le_trans (Nat.le_of_mul_le_mul_right enough positive) (Nat.mul_le_mul_right unit rounded)
  · simp only [isWhole, if_false, wholeOf]
    let unit := 2 ^ (-Decimal.lastPlace numerator denominator).toNat
    have unitPositive : 0 < unit := by positivity
    show 2 ^ 32 ≤ Decimal.roundHalfEven (numerator * unit) denominator / unit
    have rounded := div_le_roundHalfEven (numerator * unit) denominator
    rw [Nat.le_div_iff_mul_le unitPositive]
    refine le_trans ?_ rounded
    rw [Nat.le_div_iff_mul_le positive]
    nlinarith

end Rounding

/-- A decimal number without a fraction and of more than 64 bits. -/
theorem le_wholeOf_toBinary
    {number : Nat}
    (large : 2 ^ 64 ≤ number) :
    2 ^ 32 ≤ wholeOf (Decimal.toBinary ⟨false, number, 0⟩) := by
  let digits := (Nat.toDigits 10 number).length
  have scale : Decimal.scale ⟨false, number, 0⟩ = digits := by simp [Decimal.scale, digits]
  have notTiny : ¬(digits : Int) < -330 := by omega
  simp only [Decimal.toBinary, Decimal.bounded, scale, notTiny, if_false]
  by_cases isBounded : digits ≤ 320
  · have noPower : (0 : Int) - max 0 ((digits : Int) - 320) = 0 := by omega
    simp only [noPower, Decimal.fraction, le_refl, if_true]
    refine le_wholeOf_nearestBinary (by omega) ?_
    show 2 ^ 33 * 1 ≤ number * 1
    omega
  · -- The digits behind the first 320 are dropped, so that the quotient has 320 digits.
    obtain ⟨dropped, isDropped⟩ := Nat.exists_eq_add_of_lt (Nat.lt_of_not_le isBounded)
    have power : (0 : Int) - max 0 ((digits : Int) - 320) = -(dropped + 1 : Nat) := by omega
    have negative : ¬(0 : Int) ≤ -(dropped + 1 : Nat) := by omega
    simp only [power, Decimal.fraction, negative, if_false, Int.neg_neg, Int.toNat_natCast]
    refine le_wholeOf_nearestBinary (Nat.pow_pos (by omega)) ?_
    have long : ¬digits ≤ dropped + 320 := by omega
    rw [Nat.length_toDigits_le_iff (by omega) (by omega), Nat.not_lt] at long
    calc
      2 ^ 33 * 10 ^ (dropped + 1)
          = 10 ^ (dropped + 1) * 2 ^ 33 := Nat.mul_comm _ _
      _ ≤ 10 ^ (dropped + 1) * 10 ^ 33 :=
            Nat.mul_le_mul_left _ (Nat.pow_le_pow_left (by omega) 33)
      _ = 10 ^ (dropped + 34) := by rw [← Nat.pow_add]
      _ ≤ 10 ^ (dropped + 320) := Nat.pow_le_pow_right (by omega) (by omega)
      _ ≤ number := long

/-! ## Scalars -/

variable (number : Nat)

theorem ofText?_toString :
    Decimal.ofText? (toString number) = some ⟨false, number, 0⟩ := by
  have areDigits := isDigit_of_mem_toDigits number
  have notSigned :
      Decimal.splitSign (Nat.toDigits 10 number) = (false, Nat.toDigits 10 number) := by
    unfold Decimal.splitSign
    split
    · rename_i rest written
      rw [written] at areDigits
      exact absurd (areDigits '-' (by simp)) (by decide)
    · rename_i rest written
      rw [written] at areDigits
      exact absurd (areDigits '+' (by simp)) (by decide)
    · rfl
  have taken : (Nat.toDigits 10 number).takeWhile Char.isDigit = Nat.toDigits 10 number :=
    List.takeWhile_eq_self_iff.mpr areDigits
  have dropped : (Nat.toDigits 10 number).dropWhile Char.isDigit = [] :=
    List.dropWhile_eq_nil_iff.mpr areDigits
  have notEmpty : (Nat.toDigits 10 number).isEmpty = false := by simp [Nat.toDigits_ne_nil]
  have value : Decimal.digitsValue (Nat.toDigits 10 number) = number := by
    rw [digitsValue_eq, Nat.ofDigitChars_ten_toDigits]
  simp [Decimal.ofText?, Decimal.splitFraction, notSigned, taken, dropped, notEmpty, value]

theorem wordValue?_of_digit
    {text : String}
    {first : Char}
    {rest : List Char}
    (chars : text.toList = first :: rest)
    (isDigit : first.isDigit = true) :
    wordValue? text = none := by
  unfold wordValue?
  split
  case h_24 => rfl
  case h_1 => simp at chars
  all_goals
    simp only [String.reduceToList, List.cons.injEq] at chars
    obtain ⟨rfl, -⟩ := chars
    exact absurd isDigit (by decide)

/-- Digits alone are no date. -/
theorem ofChars?_of_digits
    {digits : List Char}
    (areDigits : ∀ digit ∈ digits, digit.isDigit = true) :
    Instant.ofChars? digits = none := by
  have noDash : expectChar? '-' (digits.drop 4) = none := by
    cases rest : digits.drop 4 with
    | nil => rfl
    | cons char others =>
        have isDigit := areDigits char ((List.drop_sublist 4 digits).subset (by simp [rest]))
        have notDash : (char == '-') = false := by
          rw [beq_eq_false_iff_ne]
          rintro rfl
          exact absurd isDigit (by decide)
        simp [expectChar?, notDash]
  simp [Instant.ofChars?, noDash]

/-- A number in decimal is an integer of at most 64 bits, or none. -/
theorem integer?_toDigits :
    integer? (Nat.toDigits 10 number) = if number < 2 ^ 64 then some (number : Int) else none := by
  have areDigits := isDigit_of_mem_toDigits number
  have absent (char : Char) (notDigit : char.isDigit = false) :
      char ∉ Nat.toDigits 10 number := by
    intro isMember
    rw [areDigits char isMember] at notDigit
    cases notDigit
  have unmarked : splitMarkedBase (Nat.toDigits 10 number) = (10, Nat.toDigits 10 number) := by
    unfold splitMarkedBase
    split
    · rename_i mark digits written
      exact absurd rfl (toDigits_cons_cons number written)
    · rfl
  have value : signedInteger? false true 10 (Nat.toDigits 10 number) =
      if number < 2 ^ 64 then some (number : Int) else none := by
    simp only [signedInteger?, natOfDigits?_toDigits, Bool.false_eq_true, if_false]
    refine if_congr ?_ rfl rfl
    simp only [Bool.true_and, Bool.or_eq_true, decide_eq_true_eq]
    show number < 2 ^ 63 ∨ number < 2 ^ 64 ↔ number < 2 ^ 64
    omega
  unfold integer?
  split
  all_goals rename_i written
  · exact absurd (by simp [written]) (absent '+' (by decide))
  · exact absurd (by simp [written]) (absent '-' (by decide))
  · exact absurd (by simp [written]) (absent 'b' (by decide))
  · exact absurd (by simp [written]) (absent 'b' (by decide))
  · exact absurd (by simp [written]) (absent 'o' (by decide))
  · exact absurd (by simp [written]) (absent 'o' (by decide))
  · simp only [unmarked, value]

/-- The value that a number in decimal stands for: the integer itself if it has at most 64 bits. -/
def IsValueOf
    (number : Nat)
    (value : Value) : Prop :=
  (number < 2 ^ 64 ∧ value = .int number) ∨
    (2 ^ 64 ≤ number ∧
      (value = .real (.finite ⟨false, number, 0⟩) ∨ value = .text (toString number)))

/-- A number in decimal is never taken for a date. -/
theorem plainValue_toString :
    ∃ value, (∀ dates, plainValue dates (toString number) = value) ∧ IsValueOf number value := by
  have areDigits := isDigit_of_mem_toDigits number
  obtain ⟨first, rest, written⟩ :=
    List.exists_cons_of_ne_nil (Nat.toDigits_ne_nil (n := number) (b := 10))
  have isDigit : first.isDigit = true := areDigits first (by simp [written])
  have noWord : wordValue? (toString number) = none :=
    wordValue?_of_digit (by rw [toList_toString, written]) isDigit
  have notDot : (first == '.') = false := by
    rw [beq_eq_false_iff_ne]
    rintro rfl
    exact absurd isDigit (by decide)
  have ungrouped : (Nat.toDigits 10 number).filter (· != '_') = Nat.toDigits 10 number := by
    refine List.filter_eq_self.mpr fun char isMember => ?_
    rw [bne_iff_ne]
    rintro rfl
    exact absurd (areDigits '_' isMember) (by decide)
  have noDate (dates : Bool) :
      (if dates then Instant.ofChars? (Nat.toDigits 10 number) else none) = none := by
    rw [ofChars?_of_digits areDigits, ite_self]
  have start : (Nat.toDigits 10 number).headD ' ' = first := by rw [written]; rfl
  have plain : String.ofList (Nat.toDigits 10 number) = toString number := by
    rw [← toList_toString, String.ofList_toList]
  have plainEq (dates : Bool) :
      plainValue dates (toString number) = plainValue false (toString number) := by
    simp only [plainValue, noWord, toList_toString, start, notDot, isDigit, noDate]
  refine ⟨plainValue false (toString number), plainEq, ?_⟩
  simp only [plainValue, noWord, toList_toString, start, notDot, isDigit, ungrouped, plain,
    integer?_toDigits, Bool.false_eq_true, if_false, Bool.true_or, if_true]
  by_cases fits : number < 2 ^ 64
  · exact Or.inl ⟨fits, by simp only [fits, if_true]⟩
  · refine Or.inr ⟨by omega, ?_⟩
    simp only [fits, if_false, finite?, ofText?_toString]
    split
    · rename_i value isFinite
      left
      split_ifs at isFinite
      cases isFinite
      rfl
    · exact Or.inr rfl

end Wayland.Yaml
