import Wayland.Proofs.Text.Notation
import Wayland.Wire.Argument

/-!
Contract: the texts of fixed-point numbers.

Owns: that a fixed-point number is told from all decimals of eight places by its nearest binary64
number, so that the shortest text of it is exact.

Does not own: which decimals are rounded to fixed-point numbers.
-/

namespace Wayland.Wire.Fixed

open Wayland.Text

variable (value : Fixed)

theorem magnitude_le : value.raw.toInt.natAbs ≤ 2147483648 := by
  have low := value.raw.le_toInt
  have high := value.raw.toInt_lt
  omega

/-- One 256th is 390625 hundred-millionths, each of which is more than the last place of the
greatest of all magnitudes. -/
theorem isResolved
    (notZero : value.raw.toInt ≠ 0) :
    Shortest.IsResolved value.raw.toInt.natAbs 256 (value.raw.toInt.natAbs * 390625) 8 25 where
  positive := by omega
  same := by omega
  someLeft := by omega
  small := by
    have := value.magnitude_le
    omega
  narrow := by omega
  fine := by omega
  isBinary := ⟨2 ^ 18, by norm_num⟩

theorem text_isSpelling :
    IsSpelling value.text value.negative (value.raw.toInt.natAbs / 256) := by
  by_cases isZero : value.raw.toInt = 0
  · have isZeroText : value.text = String.ofList ['0'] := by
      simp only [text, magnitude, negative, isZero]
      decide
    let zero : Spelling := ⟨false, ['0'], [], none, by simp, by simp, by simp, by simp, by simp⟩
    refine ⟨zero, isZeroText, ?_, ?_, by simp [zero]⟩
    · simp [zero, negative, isZero]
    · simp [zero, Spelling.magnitude, Spelling.number, isZero, Decimal.digitsValue]
  · have isFraction : Shortest.binaryFraction value.raw.toInt.natAbs (-8) =
        (value.raw.toInt.natAbs, 256) := by
      simp [Shortest.binaryFraction]
    have isSpelling := (value.isResolved isZero).general_isSpelling isFraction value.negative
    have same : ((value.raw.toInt.natAbs * 390625 : Nat) : ℚ) / 10 ^ 8 =
        value.raw.toInt.natAbs / 256 := by
      push_cast
      ring
    rwa [same] at isSpelling

/-- The text of a fixed-point number is read as it. -/
theorem exists_ofText?_text :
    ∃ number, Decimal.ofText? value.text = some number ∧
      number.toRat = (value.raw.toInt : ℚ) / 256 := by
  obtain ⟨number, isRead, isNumber⟩ := value.text_isSpelling.exists_ofText?
  refine ⟨number, isRead, isNumber.trans ?_⟩
  rw [Nat.cast_natAbs, Int.cast_abs]
  by_cases isNegative : value.raw.toInt < 0
  · have below : (value.raw.toInt : ℚ) < 0 := Int.cast_lt_zero.mpr isNegative
    simp only [negative, isNegative, decide_true, if_true, abs_of_neg below]
    ring
  · have above : (0 : ℚ) ≤ value.raw.toInt := Int.cast_nonneg (Int.not_lt.mp isNegative)
    simp only [negative, isNegative, decide_false, Bool.false_eq_true, if_false,
      abs_of_nonneg above]
    ring

/-- The text of a fixed-point number, in either notation, is read as exactly that number, has no
superfluous zeros behind its point, and is no other number's. -/
theorem text_denotes_exactly :
    (∃ number, Decimal.ofText? value.text = some number ∧
        number.toRat = (value.raw.toInt : ℚ) / 256) ∧
      IsTidy value.text ∧
      ∀ other : Fixed, other.text = value.text → other = value := by
  refine ⟨value.exists_ofText?_text, value.text_isSpelling.isTidy, fun other same => ?_⟩
  obtain ⟨number, isRead, isNumber⟩ := value.exists_ofText?_text
  obtain ⟨number', isRead', isNumber'⟩ := other.exists_ofText?_text
  rw [same, isRead, Option.some.injEq] at isRead'
  subst isRead'
  have sameNumber : (other.raw.toInt : ℚ) / 256 = value.raw.toInt / 256 :=
    isNumber'.symm.trans isNumber
  have sameRaw : other.raw.toInt = value.raw.toInt := by
    rwa [div_left_inj' (by norm_num), Int.cast_inj] at sameNumber
  cases other
  cases value
  exact congrArg Fixed.mk (Int32.toInt_inj.mp sameRaw)

example : (Fixed.mk (-2147483648)).text = "-8.388608e+06" := by rfl

end Wayland.Wire.Fixed
