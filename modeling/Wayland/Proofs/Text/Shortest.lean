import Mathlib.Algebra.Order.Floor.Div
import Mathlib.Data.List.DropRight
import Wayland.Proofs.Text.Numeral
import Wayland.Proofs.Text.Rounding
import Wayland.Text.Shortest

/-!
Contract: the digits of binary64 numbers that have a short decimal.

Owns:
- the numbers with a decimal that is coarse enough to be told from its neighbours;
- that no other decimal of at most as many places reads back as such a number, so that the digits
  shown of it are its own, without zeros at the end.

Does not own: the notations made of the digits.
-/

namespace Wayland.Text.Shortest

/-- A number `numerator / denominator` that is `units * 10 ^ -depth`, and of whose last place, in
binary64, a unit is more than one.  It has a fraction in base two, and less than `bits - 1` bits
before the point. -/
structure IsResolved
    (numerator denominator units depth bits : Nat) : Prop where
  positive : 0 < denominator
  same : numerator * 10 ^ depth = units * denominator
  someLeft : 0 < units
  small : 2 * units < 2 ^ bits * 10 ^ depth
  narrow : bits ≤ 50
  fine : 10 ^ depth < 2 ^ (52 - bits)
  isBinary : denominator ∣ 2 ^ (51 - bits)

variable {numerator denominator units depth bits places : Nat}

section Search

variable (isResolved : IsResolved numerator denominator units depth bits)
include isResolved

theorem IsResolved.depth_le : depth ≤ 300 := by
  have shallow : 10 ^ depth < 10 ^ 52 :=
    calc
      10 ^ depth < 2 ^ (52 - bits) := isResolved.fine
      _ ≤ 10 ^ (52 - bits) := Nat.pow_le_pow_left (by omega) _
      _ ≤ 10 ^ 52 := Nat.pow_le_pow_right (by omega) (by omega)
  have := (Nat.pow_lt_pow_iff_right (a := 10) (by omega)).mp shallow
  omega

theorem IsResolved.units_lt : units < 10 ^ 16 := by
  have bitsAll : 2 ^ bits * 2 ^ (52 - bits) = 2 ^ 52 := by
    rw [← Nat.pow_add, Nat.add_sub_cancel' (by have := isResolved.narrow; omega)]
  have small : 2 * units < 2 ^ 52 :=
    calc
      2 * units < 2 ^ bits * 10 ^ depth := isResolved.small
      _ ≤ 2 ^ bits * 2 ^ (52 - bits) := Nat.mul_le_mul_left _ isResolved.fine.le
      _ = 2 ^ 52 := bitsAll
  omega

/-! ## Reading back -/

/-- Of the decimals with the same places, only the number itself reads back as it. -/
theorem IsResolved.readsBack_iff
    {digits : Nat}
    (someDigits : 0 < digits)
    (small : digits * 10 ^ places < 2 ^ bits * 10 ^ depth) :
    readsBack numerator denominator digits ((places : Int) - depth) = true ↔
      digits * 10 ^ places = units := by
  obtain ⟨significand, shift, rounded, enough, isNear⟩ :=
    toBinary_isNear false rfl (by positivity) small isResolved.narrow isResolved.depth_le
  have narrow := isResolved.narrow
  have notWhole : ¬0 ≤ -(shift : Int) := by omega
  have read : readsBack numerator denominator digits ((places : Int) - depth) = true ↔
      significand * denominator = numerator * 2 ^ shift := by
    simp only [readsBack, rounded, binaryFraction, notWhole, if_false, Int.neg_neg,
      Int.toNat_natCast, beq_iff_eq]
    rfl
  rw [read]
  constructor
  · intro isNumber
    refine isNear.eq_of_fine (Nat.eq_of_mul_eq_mul_right isResolved.positive ?_) ?_
    · calc
        significand * 10 ^ depth * denominator
            = significand * denominator * 10 ^ depth := Nat.mul_right_comm ..
        _ = numerator * 10 ^ depth * 2 ^ shift := by rw [isNumber, Nat.mul_right_comm]
        _ = units * 2 ^ shift * denominator := by rw [isResolved.same, Nat.mul_right_comm]
    · calc
        10 ^ depth < 2 ^ (52 - bits) := isResolved.fine
        _ ≤ 2 ^ (shift + 1) := Nat.pow_le_pow_right (by omega) (by omega)
        _ = 2 * 2 ^ shift := Nat.pow_succ'
  · intro isUnits
    obtain ⟨rest, isBinary⟩ : denominator ∣ 2 ^ shift :=
      isResolved.isBinary.trans (Nat.pow_dvd_pow 2 (by omega))
    have exact : numerator * 2 ^ shift = numerator * rest * denominator := by
      rw [isBinary, Nat.mul_comm denominator, Nat.mul_assoc]
    have same : digits * 10 ^ places * denominator = numerator * 10 ^ depth := by
      rw [isUnits, isResolved.same]
    rw [(isNear.of_same (Nat.pow_pos (by omega)) same).eq_of_exact isResolved.positive exact,
      exact]

/-! ## The search -/

/-- The decimals beside a number are its units without the last places, and one more. -/
theorem IsResolved.mem_neighbours
    {digits : Nat} :
    digits ∈ neighbours numerator denominator ((places : Int) - depth) ↔
      digits = units / 10 ^ places ∨ digits = units / 10 ^ places + 1 := by
  have pick (numerator' denominator' : Nat)
      (same : numerator' * 10 ^ places = units * denominator')
      (positive : 0 < denominator') :
      numerator' / denominator' = units / 10 ^ places := by
    rw [← Nat.mul_div_mul_right numerator' denominator' (Nat.pow_pos (n := places) (a := 10)
      (by omega)), same, Nat.mul_comm denominator', Nat.mul_div_mul_right _ _ positive]
  unfold neighbours
  by_cases isWhole : depth ≤ places
  · obtain ⟨more, rfl⟩ := Nat.exists_eq_add_of_le isWhole
    have power : ((depth + more : Nat) : Int) - depth = more := by omega
    have below : numerator / (denominator * Nat.pow 10 more) = units / 10 ^ (depth + more) := by
      refine pick _ _ ?_ (Nat.mul_pos isResolved.positive (Nat.pow_pos (by omega)))
      rw [Nat.pow_add, ← Nat.mul_assoc, isResolved.same, Nat.mul_assoc]
      rfl
    simp only [power, Int.natCast_nonneg, if_true, Int.toNat_natCast, below]
    split_ifs
    · simp
    · simp [or_comm]
  · obtain ⟨less, rfl⟩ := Nat.exists_eq_add_of_lt (Nat.lt_of_not_le isWhole)
    have power : (places : Int) - (places + less + 1 : Nat) = -(less + 1 : Nat) := by omega
    have notWhole : ¬(0 : Int) ≤ -(less + 1 : Nat) := by omega
    have below : numerator * Nat.pow 10 (less + 1) / denominator = units / 10 ^ places := by
      refine pick _ _ ?_ isResolved.positive
      rw [← isResolved.same, Nat.mul_assoc]
      show numerator * (10 ^ (less + 1) * 10 ^ places) = _
      rw [← Nat.pow_add]
      congr 2
      omega
    simp only [power, notWhole, if_false, Int.neg_neg, Int.toNat_natCast, below]
    split_ifs
    · simp
    · simp [or_comm]

/-- Of the decimals beside a number, only the number itself reads back as it. -/
theorem IsResolved.readsBack_neighbour
    (leading : 10 ^ places ≤ units)
    {digits : Nat}
    (isNeighbour : digits ∈ neighbours numerator denominator ((places : Int) - depth)) :
    readsBack numerator denominator digits ((places : Int) - depth) = true ↔
      digits * 10 ^ places = units := by
  have beside := isResolved.mem_neighbours.mp isNeighbour
  have someDigits : 0 < units / 10 ^ places := Nat.div_pos leading (Nat.pow_pos (by omega))
  refine isResolved.readsBack_iff (by omega) ?_
  calc
    digits * 10 ^ places ≤ (units / 10 ^ places + 1) * 10 ^ places :=
      Nat.mul_le_mul_right _ (by omega)
    _ = units / 10 ^ places * 10 ^ places + 10 ^ places := Nat.succ_mul ..
    _ ≤ units + units := Nat.add_le_add (Nat.div_mul_le_self ..) leading
    _ = 2 * units := (Nat.two_mul units).symm
    _ < 2 ^ bits * 10 ^ depth := isResolved.small

/-- The search ends at the number itself, whose last place is tried at the latest. -/
theorem IsResolved.search_eq
    {tries : Nat}
    (enough : places < tries)
    (leading : 10 ^ places ≤ units) :
    ∃ digits left : Nat, search numerator denominator ((places : Int) - depth) tries =
        (digits, (left : Int) - depth) ∧
      digits * 10 ^ left = units := by
  induction tries generalizing places with
  | zero => omega
  | succ tries inductionHypothesis =>
      unfold search
      cases found : (neighbours numerator denominator ((places : Int) - depth)).find?
          (readsBack numerator denominator · ((places : Int) - depth)) with
      | some digits =>
          have isNeighbour := List.mem_of_find?_eq_some found
          have reads := List.find?_some found
          exact ⟨digits, places, rfl, (isResolved.readsBack_neighbour leading isNeighbour).mp reads⟩
      | none =>
          cases places with
          | zero =>
              have isNeighbour : units ∈
                  neighbours numerator denominator (((0 : Nat) : Int) - depth) :=
                isResolved.mem_neighbours.mpr (.inl (by simp))
              have reads := (isResolved.readsBack_neighbour leading isNeighbour).mpr (by simp)
              exact absurd reads (List.find?_eq_none.mp found units isNeighbour)
          | succ places =>
              have next : ((places + 1 : Nat) : Int) - depth - 1 = (places : Int) - depth := by
                omega
              rw [next]
              refine inductionHypothesis (by omega) (le_trans ?_ leading)
              exact Nat.pow_le_pow_right (by omega) (by omega)

/-- The first digit of a number of one or more stands for a power of ten within it. -/
theorem IsResolved.leadingPower_of_le
    (isLarge : denominator ≤ numerator) :
    ∃ places : Nat, leadingPower numerator denominator = (places : Int) - depth ∧
      10 ^ places ≤ units := by
  let whole := numerator / denominator
  let length := (Nat.toDigits 10 whole).length
  have wholePositive : 0 < whole := Nat.div_pos isLarge isResolved.positive
  have someDigits : 0 < length := List.length_pos_iff.mpr Nat.toDigits_ne_nil
  refine ⟨depth + (length - 1), ?_, ?_⟩
  · rw [leadingPower, if_pos isLarge]
    show (length : Int) - 1 = _
    omega
  · refine Nat.le_of_mul_le_mul_right (c := denominator) ?_ isResolved.positive
    calc
      10 ^ (depth + (length - 1)) * denominator
          = 10 ^ (length - 1) * denominator * 10 ^ depth := by rw [Nat.pow_add]; ring
      _ ≤ whole * denominator * 10 ^ depth :=
          Nat.mul_le_mul_right _ (Nat.mul_le_mul_right _ (pow_length_toDigits_le wholePositive))
      _ ≤ numerator * 10 ^ depth := Nat.mul_le_mul_right _ (Nat.div_mul_le_self ..)
      _ = units * denominator := isResolved.same

/-- The first digit of a number below one, found from its inverse, stands for one of its places. -/
theorem IsResolved.leadingPower_of_lt
    (isSmall : numerator < denominator) :
    ∃ places : Nat, leadingPower numerator denominator = (places : Int) - depth ∧
      10 ^ places ≤ units := by
  let above := (denominator + numerator - 1) / numerator
  let length := (Nat.toDigits 10 (above - 1)).length
  have someDigits : 0 < length := List.length_pos_iff.mpr Nat.toDigits_ne_nil
  have unitsLe : denominator ≤ numerator * 10 ^ depth := by
    rw [isResolved.same]
    exact Nat.le_mul_of_pos_left _ isResolved.someLeft
  have numeratorPositive : 0 < numerator := by
    refine Nat.pos_of_ne_zero ?_
    rintro rfl
    omega
  have depthPositive : 0 < depth := by
    refine Nat.pos_of_ne_zero ?_
    rintro rfl
    omega
  have isBound {bound : Nat} : above ≤ bound ↔ denominator ≤ numerator * bound := by
    show (denominator + numerator - 1) / numerator ≤ bound ↔ _
    rw [← Nat.ceilDiv_eq_add_pred_div]
    exact ceilDiv_le_iff_le_mul numeratorPositive
  have lengthLe : length ≤ depth := by
    have aboveLe := isBound.mpr unitsLe
    have unitPositive : 0 < 10 ^ depth := Nat.pow_pos (by omega)
    exact (Nat.length_toDigits_le_iff (by omega) depthPositive).mpr (by omega)
  have aboveLe : above ≤ 10 ^ length := by
    have := (Nat.length_toDigits_le_iff (n := above - 1) (b := 10) (by omega) someDigits).mp le_rfl
    omega
  refine ⟨depth - length, ?_, ?_⟩
  · rw [leadingPower, if_neg (by omega)]
    show 0 - (length : Int) = _
    omega
  · refine Nat.le_of_mul_le_mul_right (c := 10 ^ length * denominator) ?_
      (Nat.mul_pos (Nat.pow_pos (by omega)) isResolved.positive)
    calc
      10 ^ (depth - length) * (10 ^ length * denominator) = 10 ^ depth * denominator := by
        rw [← Nat.mul_assoc, ← Nat.pow_add, Nat.sub_add_cancel lengthLe]
      _ ≤ 10 ^ depth * (numerator * 10 ^ length) := Nat.mul_le_mul_left _ (isBound.mp aboveLe)
      _ = numerator * 10 ^ depth * 10 ^ length := by ring
      _ = units * (10 ^ length * denominator) := by rw [isResolved.same]; ring

/-- The digits found are those of the number itself. -/
theorem IsResolved.decimal_eq
    {significand : Nat}
    {place : Int}
    (isFraction : binaryFraction significand place = (numerator, denominator)) :
    ∃ digits left : Nat, decimal significand place = (digits, (left : Int) - depth) ∧
      0 < digits ∧ digits * 10 ^ left = units := by
  have notZero : significand ≠ 0 := by
    rintro rfl
    have isZero : numerator = 0 := by
      rw [← show (binaryFraction 0 place).1 = numerator from congrArg Prod.fst isFraction]
      unfold binaryFraction
      split_ifs <;> simp
    have same := isResolved.same
    rw [isZero, Nat.zero_mul] at same
    have := Nat.mul_pos isResolved.someLeft isResolved.positive
    omega
  obtain ⟨places, power, leading⟩ : ∃ places : Nat,
      leadingPower numerator denominator = (places : Int) - depth ∧ 10 ^ places ≤ units := by
    obtain isSmall | isLarge := Nat.lt_or_ge numerator denominator
    · exact isResolved.leadingPower_of_lt isSmall
    · exact isResolved.leadingPower_of_le isLarge
  have enough : places < 16 :=
    (Nat.pow_lt_pow_iff_right (a := 10) (by omega)).mp (leading.trans_lt isResolved.units_lt)
  obtain ⟨digits, left, found, isUnits⟩ := isResolved.search_eq enough leading
  refine ⟨digits, left, ?_, Nat.pos_of_ne_zero ?_, isUnits⟩
  · simp only [decimal, notZero, if_false, isFraction, power, found]
  · rintro rfl
    have := isResolved.someLeft
    omega

end Search

/-! ## Digits -/

theorem digitsValue_append_zeros
    (digits : List Char)
    (count : Nat) :
    Decimal.digitsValue (digits ++ List.replicate count '0') =
      Decimal.digitsValue digits * 10 ^ count := by
  induction count with
  | zero => simp
  | succ count inductionHypothesis =>
      unfold Decimal.digitsValue at inductionHypothesis ⊢
      rw [List.replicate_succ', ← List.append_assoc, List.foldl_append, inductionHypothesis,
        Nat.pow_succ]
      simp [Nat.mul_assoc]

theorem digitsValue_zeros_append
    (count : Nat)
    (digits : List Char) :
    Decimal.digitsValue (List.replicate count '0' ++ digits) = Decimal.digitsValue digits := by
  induction count with
  | zero => rfl
  | succ count inductionHypothesis => exact inductionHypothesis

/-- Digits, the first of them at a power of ten, show a number of units, and no zero at the end. -/
structure IsShown
    (shown : List Char)
    (power : Int)
    (units depth : Nat) : Prop where
  areDigits : ∀ digit ∈ shown, digit.isDigit = true
  someDigits : shown ≠ []
  ends : shown.getLast? ≠ some '0'
  value : ∃ zeros : Nat, power + 1 = (shown.length + zeros : Nat) - (depth : Int) ∧
    Decimal.digitsValue shown * 10 ^ zeros = units

theorem digits_isShown
    {value : Nat}
    (positive : 0 < value)
    (places depth : Nat) :
    IsShown (digits value ((places : Int) - depth)).1 (digits value ((places : Int) - depth)).2
      (value * 10 ^ places) depth := by
  let kept := (Nat.toDigits 10 value).rdropWhile (· == '0')
  obtain ⟨count, all⟩ : ∃ count, Nat.toDigits 10 value = kept ++ List.replicate count '0' := by
    let zeros := (Nat.toDigits 10 value).rtakeWhile (· == '0')
    have areZeros : zeros = List.replicate zeros.length '0' :=
      List.eq_replicate_iff.mpr ⟨rfl, fun digit isMember => by
        simpa using List.mem_rtakeWhile_imp isMember⟩
    exact ⟨zeros.length, by rw [← areZeros, List.rdropWhile_append_rtakeWhile]⟩
  have isValue : Decimal.digitsValue kept * 10 ^ count = value := by
    rw [← digitsValue_append_zeros, ← all, digitsValue_eq, Nat.ofDigitChars_ten_toDigits]
  have someDigits : kept ≠ [] := by
    intro isEmpty
    rw [isEmpty] at isValue
    simp [Decimal.digitsValue] at isValue
    omega
  have isDigits : digits value ((places : Int) - depth) =
      (kept, (places : Int) - depth + (kept.length + count : Nat) - 1) := by
    have notEmpty : kept.isEmpty = false := by simp [someDigits]
    unfold digits
    show ((if kept.isEmpty then ['0'] else kept), _) = _
    rw [notEmpty, all, List.length_append, List.length_replicate]
    rfl
  rw [isDigits]
  constructor
  · intro digit isMember
    have front := List.rdropWhile_prefix (· == '0') (Nat.toDigits 10 value)
    exact isDigit_of_mem_toDigits value digit (front.subset isMember)
  · exact someDigits
  · intro isZero
    have notZero := List.rdropWhile_last_not (· == '0') (Nat.toDigits 10 value) someDigits
    rw [List.getLast?_eq_some_getLast someDigits, Option.some.injEq] at isZero
    simp [kept, isZero] at notZero
  · refine ⟨count + places, by push_cast; omega, ?_⟩
    rw [Nat.pow_add, ← Nat.mul_assoc, isValue]

/-- The digits shown of a number are its own. -/
theorem IsResolved.isShown
    (isResolved : IsResolved numerator denominator units depth bits)
    {significand : Nat}
    {place : Int}
    (isFraction : binaryFraction significand place = (numerator, denominator)) :
    IsShown (shownDigits significand place).1 (shownDigits significand place).2 units depth := by
  obtain ⟨value, left, found, positive, isValue⟩ := isResolved.decimal_eq isFraction
  simp only [shownDigits, found]
  exact isValue ▸ digits_isShown positive left depth

/-- The first digit shown of a number is at no great power of ten. -/
theorem IsResolved.natAbs_power_lt
    (isResolved : IsResolved numerator denominator units depth bits)
    {significand : Nat}
    {place : Int}
    (isFraction : binaryFraction significand place = (numerator, denominator)) :
    (shownDigits significand place).2.natAbs < 10000 := by
  obtain ⟨value, left, found, positive, isValue⟩ := isResolved.decimal_eq isFraction
  have unitsLt := isResolved.units_lt
  have depthLe := isResolved.depth_le
  have valueLe : value ≤ units := isValue ▸ Nat.le_mul_of_pos_right _ (Nat.pow_pos (by omega))
  have leftLt : left < 16 := by
    rw [← Nat.pow_lt_pow_iff_right (a := 10) (by omega)]
    exact (isValue ▸ Nat.le_mul_of_pos_left _ positive : 10 ^ left ≤ units).trans_lt unitsLt
  have short : (Nat.toDigits 10 value).length ≤ 16 :=
    (Nat.length_toDigits_le_iff (by omega) (by omega)).mpr (by omega)
  simp only [shownDigits, found, digits]
  omega

end Wayland.Text.Shortest
