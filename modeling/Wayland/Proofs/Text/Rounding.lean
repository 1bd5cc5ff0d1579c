import Mathlib.Data.Nat.Digits.Defs
import Mathlib.Data.Nat.Log
import Mathlib.Tactic.Ring
import Wayland.Text.Decimal

/-!
Contract: how far rounding to binary64 moves a number.

Owns:
- that a quotient is rounded by at most one half, and how fine the last place of a number is;
- that a decimal is rounded by at most one half of its last place;
- that a number which needs no rounding is kept, and that decimals which are far enough apart are
  not rounded to one number.

Does not own: the digits in which rounded numbers are shown.
-/

namespace Wayland.Text

variable {significand shift numerator denominator : Nat}

/-! ## Nearness -/

/-- A number `significand * 2 ^ -shift` is at most one half of `2 ^ -shift` from a fraction. -/
structure IsNear
    (significand shift numerator denominator : Nat) : Prop where
  above : 2 * (significand * denominator) ≤ 2 * (numerator * 2 ^ shift) + denominator
  below : 2 * (numerator * 2 ^ shift) ≤ 2 * (significand * denominator) + denominator

/-- Nearness does not depend on how the fraction is written. -/
theorem IsNear.of_same
    {numerator' denominator' : Nat}
    (isNear : IsNear significand shift numerator denominator)
    (positive : 0 < denominator)
    (same : numerator * denominator' = numerator' * denominator) :
    IsNear significand shift numerator' denominator' := by
  constructor
  · refine Nat.le_of_mul_le_mul_right ?_ positive
    calc
      2 * (significand * denominator') * denominator
          = 2 * (significand * denominator) * denominator' := by ring
      _ ≤ (2 * (numerator * 2 ^ shift) + denominator) * denominator' :=
          Nat.mul_le_mul_right _ isNear.above
      _ = 2 * (numerator * denominator' * 2 ^ shift) + denominator' * denominator := by ring
      _ = (2 * (numerator' * 2 ^ shift) + denominator') * denominator := by rw [same]; ring
  · refine Nat.le_of_mul_le_mul_right ?_ positive
    calc
      2 * (numerator' * 2 ^ shift) * denominator
          = 2 * (numerator * 2 ^ shift) * denominator' := by
            rw [Nat.mul_assoc, Nat.mul_right_comm, ← same]; ring
      _ ≤ (2 * (significand * denominator) + denominator) * denominator' :=
          Nat.mul_le_mul_right _ isNear.below
      _ = (2 * (significand * denominator') + denominator') * denominator := by ring

/-- A fraction that has the last place is near itself only. -/
theorem IsNear.eq_of_exact
    {exact : Nat}
    (isNear : IsNear significand shift numerator denominator)
    (positive : 0 < denominator)
    (isExact : numerator * 2 ^ shift = exact * denominator) :
    significand = exact := by
  obtain ⟨above, below⟩ := isNear
  rw [isExact] at above below
  have notAbove : ¬exact + 1 ≤ significand := by
    intro greater
    have := Nat.mul_le_mul_right denominator greater
    rw [Nat.add_mul] at this
    omega
  have notBelow : ¬significand + 1 ≤ exact := by
    intro less
    have := Nat.mul_le_mul_right denominator less
    rw [Nat.add_mul] at this
    omega
  omega

/-- No number is near two fractions that are further apart than its last place. -/
theorem IsNear.eq_of_fine
    {other : Nat}
    (isNear : IsNear significand shift numerator denominator)
    (isOther : significand * denominator = other * 2 ^ shift)
    (fine : denominator < 2 * 2 ^ shift) :
    numerator = other := by
  obtain ⟨above, below⟩ := isNear
  rw [isOther] at above below
  have notAbove : ¬numerator + 1 ≤ other := by
    intro greater
    have := Nat.mul_le_mul_right (2 ^ shift) greater
    rw [Nat.add_mul] at this
    omega
  have notBelow : ¬other + 1 ≤ numerator := by
    intro less
    have := Nat.mul_le_mul_right (2 ^ shift) less
    rw [Nat.add_mul] at this
    omega
  omega

/-! ## Quotients -/

theorem div_le_roundHalfEven
    (numerator denominator : Nat) :
    numerator / denominator ≤ Decimal.roundHalfEven numerator denominator := by
  unfold Decimal.roundHalfEven
  simp only
  split_ifs <;> omega

/-- A quotient is rounded by at most one half. -/
theorem roundHalfEven_isNear
    (positive : 0 < denominator)
    (numerator shift : Nat) :
    IsNear (Decimal.roundHalfEven (numerator * 2 ^ shift) denominator) shift numerator
      denominator := by
  have division := Nat.div_add_mod (numerator * 2 ^ shift) denominator
  have remainder := Nat.mod_lt (numerator * 2 ^ shift) positive
  rw [Nat.mul_comm denominator] at division
  constructor
  all_goals
    unfold Decimal.roundHalfEven
    simp only
    split_ifs
    all_goals
      try rw [Nat.add_mul]
      omega

theorem lastPlace_le
    (numerator denominator : Nat) :
    Decimal.lastPlace numerator denominator ≤
      max ((Nat.log2 numerator : Int) - Nat.log2 denominator - 51) (-1074) := by
  unfold Decimal.lastPlace
  simp only
  split_ifs <;> omega

/-- Numbers of some bits leave the others of the 53 to the fraction, less those lost to the estimate
of its size. -/
theorem lastPlace_le_of_lt
    {bits : Nat}
    (someLeft : numerator ≠ 0)
    (small : numerator < 2 ^ bits * denominator) :
    Decimal.lastPlace numerator denominator ≤ max ((bits : Int) - 51) (-1074) := by
  have bound := lastPlace_le numerator denominator
  have shorter : Nat.log2 numerator < bits + (Nat.log2 denominator + 1) := by
    rw [← Nat.pow_lt_pow_iff_right (a := 2) (by omega)]
    calc
      2 ^ Nat.log2 numerator ≤ numerator := Nat.log2_self_le someLeft
      _ < 2 ^ bits * denominator := small
      _ ≤ 2 ^ bits * 2 ^ (Nat.log2 denominator + 1) :=
          Nat.mul_le_mul_left _ Nat.lt_log2_self.le
      _ = 2 ^ (bits + (Nat.log2 denominator + 1)) := (Nat.pow_add ..).symm
  omega

theorem nearestBinary_isNear
    {bits : Nat}
    (positive : 0 < denominator)
    (someLeft : numerator ≠ 0)
    (small : numerator < 2 ^ bits * denominator)
    (narrow : bits ≤ 50) :
    ∃ significand shift : Nat,
      Decimal.nearestBinary numerator denominator = (significand, -(shift : Int)) ∧
        51 ≤ shift + bits ∧ IsNear significand shift numerator denominator := by
  have bound := lastPlace_le_of_lt someLeft small
  let shift := (-Decimal.lastPlace numerator denominator).toNat
  have place : Decimal.lastPlace numerator denominator = -(shift : Int) := by omega
  have notWhole : ¬0 ≤ -(shift : Int) := by omega
  refine ⟨Decimal.roundHalfEven (numerator * 2 ^ shift) denominator, shift, ?_, by omega,
    roundHalfEven_isNear positive numerator shift⟩
  simp only [Decimal.nearestBinary, someLeft, place, notWhole, if_false, Int.neg_neg,
    Int.toNat_natCast]
  rfl

/-! ## Decimals -/

/-- The first digit of a number is not zero. -/
theorem pow_length_toDigits_le
    {number : Nat}
    (positive : 0 < number) :
    10 ^ ((Nat.toDigits 10 number).length - 1) ≤ number := by
  have someDigits : 0 < (Nat.toDigits 10 number).length :=
    List.length_pos_iff.mpr Nat.toDigits_ne_nil
  by_contra less
  by_cases isOne : (Nat.toDigits 10 number).length - 1 = 0
  · rw [isOne] at less
    omega
  · have := (Nat.length_toDigits_le_iff (by omega) (by omega)).mpr (Nat.lt_of_not_le less)
    omega

section Decimals

variable {mantissa places depth bits units : Nat}

/-- The fraction of a whole number of places of a depth. -/
theorem fraction_units
    (depth : Nat)
    (negative : Bool)
    (isUnits : mantissa * 10 ^ places = units) :
    0 < (Decimal.fraction ⟨negative, mantissa, (places : Int) - depth⟩).2 ∧
      (Decimal.fraction ⟨negative, mantissa, (places : Int) - depth⟩).1 * 10 ^ depth =
        units * (Decimal.fraction ⟨negative, mantissa, (places : Int) - depth⟩).2 := by
  by_cases isWhole : depth ≤ places
  · obtain ⟨more, rfl⟩ := Nat.exists_eq_add_of_le isWhole
    have power : ((depth + more : Nat) : Int) - depth = more := by omega
    simp only [Decimal.fraction, power, Int.natCast_nonneg, if_true, Int.toNat_natCast]
    refine ⟨by omega, ?_⟩
    show mantissa * 10 ^ more * 10 ^ depth = units * 1
    rw [← isUnits]
    ring
  · obtain ⟨less, rfl⟩ := Nat.exists_eq_add_of_lt (Nat.lt_of_not_le isWhole)
    have power : (places : Int) - (places + less + 1 : Nat) = -(less + 1 : Nat) := by omega
    have notWhole : ¬(0 : Int) ≤ -(less + 1 : Nat) := by omega
    simp only [Decimal.fraction, power, notWhole, if_false, Int.neg_neg, Int.toNat_natCast]
    refine ⟨Nat.pow_pos (by omega), ?_⟩
    show mantissa * 10 ^ (places + less + 1) = units * 10 ^ (less + 1)
    rw [← isUnits]
    ring

/-- A decimal of ordinary size is rounded as it is. -/
theorem bounded_units
    (negative : Bool)
    (isUnits : mantissa * 10 ^ places = units)
    (someLeft : 0 < units)
    (small : units < 2 ^ bits * 10 ^ depth)
    (narrow : bits ≤ 50)
    (shallow : depth ≤ 300) :
    Decimal.bounded ⟨negative, mantissa, (places : Int) - depth⟩ =
      ⟨negative, mantissa, (places : Int) - depth⟩ := by
  let length := (Nat.toDigits 10 mantissa).length
  have someDigits : 0 < length := List.length_pos_iff.mpr Nat.toDigits_ne_nil
  have short : length - 1 + places < bits + depth := by
    have large : 10 ^ (length - 1) ≤ mantissa := by
      refine pow_length_toDigits_le (Nat.pos_of_ne_zero ?_)
      rintro rfl
      omega
    rw [← Nat.pow_lt_pow_iff_right (a := 10) (by omega), Nat.pow_add, Nat.pow_add]
    calc
      10 ^ (length - 1) * 10 ^ places ≤ mantissa * 10 ^ places := Nat.mul_le_mul_right _ large
      _ < 2 ^ bits * 10 ^ depth := isUnits ▸ small
      _ ≤ 10 ^ bits * 10 ^ depth :=
          Nat.mul_le_mul_right _ (Nat.pow_le_pow_left (by omega) bits)
  have scale : Decimal.scale ⟨negative, mantissa, (places : Int) - depth⟩ =
      (places : Int) - depth + length := rfl
  have notTiny : ¬(places : Int) - depth + length < -330 := by omega
  have notHuge : max 0 ((places : Int) - depth + length - 320) = 0 := by omega
  simp only [Decimal.bounded, scale, notTiny, notHuge, if_false, Int.sub_zero]

/-- A decimal is rounded by at most one half of its last place. -/
theorem toBinary_isNear
    (negative : Bool)
    (isUnits : mantissa * 10 ^ places = units)
    (someLeft : 0 < units)
    (small : units < 2 ^ bits * 10 ^ depth)
    (narrow : bits ≤ 50)
    (shallow : depth ≤ 300) :
    ∃ significand shift : Nat,
      Decimal.toBinary ⟨negative, mantissa, (places : Int) - depth⟩ =
          (significand, -(shift : Int)) ∧
        51 ≤ shift + bits ∧ IsNear significand shift units (10 ^ depth) := by
  have bounded := bounded_units negative isUnits someLeft small narrow shallow
  obtain ⟨positive, same⟩ := fraction_units depth negative isUnits
  simp only [Decimal.toBinary, bounded]
  generalize Decimal.fraction ⟨negative, mantissa, (places : Int) - depth⟩ = fraction
    at positive same
  have unitPositive : 0 < 10 ^ depth := Nat.pow_pos (by omega)
  have notZero : fraction.1 ≠ 0 := by
    intro isZero
    rw [isZero, Nat.zero_mul] at same
    have := Nat.mul_pos someLeft positive
    omega
  have below : fraction.1 < 2 ^ bits * fraction.2 := by
    refine Nat.lt_of_mul_lt_mul_right (a := 10 ^ depth) ?_
    calc
      fraction.1 * 10 ^ depth = units * fraction.2 := same
      _ < 2 ^ bits * 10 ^ depth * fraction.2 := Nat.mul_lt_mul_of_pos_right small positive
      _ = 2 ^ bits * fraction.2 * 10 ^ depth := by ring
  obtain ⟨significand, shift, rounded, fine, isNear⟩ :=
    nearestBinary_isNear positive notZero below narrow
  exact ⟨significand, shift, rounded, fine, isNear.of_same positive same⟩

end Decimals

end Wayland.Text
