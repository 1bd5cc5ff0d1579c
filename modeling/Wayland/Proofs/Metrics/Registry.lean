import Mathlib.Algebra.Order.Field.Rat
import Mathlib.Data.Nat.Log
import Mathlib.Tactic.FieldSimp
import Mathlib.Tactic.Linarith
import Mathlib.Tactic.NormNum
import Mathlib.Tactic.Positivity
import Mathlib.Tactic.Ring
import Wayland.Metrics.Registry

/-!
Contract: the samples of a registry.

Owns:
- the number that an amount stands for, and that whole numbers up to 2^53 are not rounded, so that
  their sums are exact;
- the sample at a name and label values, also before it is measured for the first time;
- what an addition does to its sample, and that it leaves all others alone;
- samples that counted something, and gauges that stand at a whole number.

Does not own: what is added, and when.
-/

namespace Wayland.Text.Decimal

section Rounding

variable {numerator denominator whole : Nat}

/-- A quotient without a remainder is not rounded. -/
theorem roundHalfEven_mul
    (whole : Nat)
    (positive : 0 < denominator) :
    roundHalfEven (whole * denominator) denominator = whole := by
  have remainder : whole * denominator % denominator = 0 := Nat.mul_mod_left whole denominator
  have quotient : whole * denominator / denominator = whole := Nat.mul_div_cancel whole positive
  unfold roundHalfEven
  simp only [remainder, quotient, Nat.mul_zero, if_pos positive]

/-- The last place of a whole number below 2^53 is not above the point. -/
theorem lastPlace_le_zero
    (small : numerator < 2 ^ 53 * denominator) :
    lastPlace numerator denominator ≤ 0 := by
  have denominatorLt : denominator < 2 ^ (Nat.log2 denominator + 1) := Nat.lt_log2_self
  have estimate : Nat.log2 numerator ≤ Nat.log2 denominator + 53 := by
    by_cases isZero : numerator = 0
    · simp [isZero]
    · have below : numerator < 2 ^ (Nat.log2 denominator + 54) := by
        calc
          numerator < 2 ^ 53 * denominator := small
          _ ≤ 2 ^ 53 * 2 ^ (Nat.log2 denominator + 1) := Nat.mul_le_mul_left _ denominatorLt.le
          _ = 2 ^ (Nat.log2 denominator + 54) := by ring
      have := (Nat.log2_lt isZero).mpr below
      omega
  have fits : numerator < Nat.pow 2 53 * Nat.pow 2 (0 : Int).toNat * denominator := by
    simpa using small
  unfold lastPlace
  simp only
  -- The estimate is one too high at most, and then the place below it is tried first.
  rcases Nat.lt_or_ge (Nat.log2 numerator) (Nat.log2 denominator + 52) with low | high
  · split <;> split <;> omega
  · rcases Nat.lt_or_ge (Nat.log2 numerator) (Nat.log2 denominator + 53) with middle | top
    · have isZero : (Nat.log2 numerator : Int) - (Nat.log2 denominator : Int) - 52 = 0 := by omega
      rw [isZero]
      simp only [le_refl, if_true, decide_eq_true fits]
      split <;> omega
    · have isOne : (Nat.log2 numerator : Int) - (Nat.log2 denominator : Int) - 52 = 1 := by omega
      rw [isOne]
      simp only [sub_self, le_refl, if_true, decide_eq_true fits]
      omega

/-- The last place of 2^53 is the one above the point. -/
theorem lastPlace_two_pow
    (positive : 0 < denominator) :
    lastPlace (2 ^ 53 * denominator) denominator = 1 := by
  have notZero : denominator ≠ 0 := by omega
  have log : Nat.log2 (2 ^ 53 * denominator) = Nat.log2 denominator + 53 := by
    have positivePower : 2 ^ 53 * denominator ≠ 0 := by omega
    rw [Nat.log2_eq_iff positivePower]
    have le := Nat.log2_self_le notZero
    have lt : denominator < 2 ^ (Nat.log2 denominator + 1) := Nat.lt_log2_self
    have low : 2 ^ (Nat.log2 denominator + 53) = 2 ^ 53 * 2 ^ Nat.log2 denominator := by ring
    have high : 2 ^ (Nat.log2 denominator + 53 + 1) = 2 ^ 53 * 2 ^ (Nat.log2 denominator + 1) := by
      ring
    omega
  have isOne : (Nat.log2 (2 ^ 53 * denominator) : Int) - (Nat.log2 denominator : Int) - 52 = 1 := by
    omega
  have tooLow : ¬2 ^ 53 * denominator < Nat.pow 2 53 * Nat.pow 2 (0 : Int).toNat * denominator := by
    simp
  have fits : 2 ^ 53 * denominator < Nat.pow 2 53 * Nat.pow 2 (1 : Int).toNat * denominator := by
    have : Nat.pow 2 53 * Nat.pow 2 (1 : Int).toNat * denominator = 2 ^ 53 * 2 * denominator := rfl
    omega
  unfold lastPlace
  simp only [isOne, sub_self, le_refl, if_true, decide_eq_false tooLow, Bool.false_eq_true,
    if_false, decide_eq_true fits, zero_le_one]
  omega

/-- A whole number up to 2^53 is its own nearest binary64 number. -/
theorem nearestBinary_whole
    (positive : 0 < denominator)
    (small : whole ≤ 2 ^ 53) :
    ((nearestBinary (whole * denominator) denominator).1 : ℚ) *
      2 ^ (nearestBinary (whole * denominator) denominator).2 = whole := by
  unfold nearestBinary
  split
  · rename_i isZero
    have : whole = 0 := by
      rcases Nat.mul_eq_zero.mp isZero with zero | zero <;> omega
    simp [this]
  · simp only
    rcases Nat.lt_or_ge whole (2 ^ 53) with below | above
    · have le := lastPlace_le_zero (Nat.mul_lt_mul_of_pos_right below positive)
      generalize lastPlace (whole * denominator) denominator = place at le
      obtain ⟨count, rfl⟩ : ∃ count : Nat, place = -(count : Int) :=
        ⟨(-place).toNat, by omega⟩
      have shifted : whole * denominator * Nat.pow 2 count = whole * 2 ^ count * denominator := by
        change whole * denominator * 2 ^ count = _
        ring
      split
      · rename_i notNegative
        obtain rfl : count = 0 := by omega
        simp [roundHalfEven_mul whole positive]
      · simp only [Int.neg_neg, Int.toNat_natCast, shifted, roundHalfEven_mul _ positive]
        push_cast
        rw [zpow_neg, zpow_natCast]
        field_simp
    · obtain rfl : whole = 2 ^ 53 := by omega
      rw [lastPlace_two_pow positive]
      have halved : 2 ^ 53 * denominator = 2 ^ 52 * (denominator * Nat.pow 2 (1 : Int).toNat) := by
        change _ = 2 ^ 52 * (denominator * 2)
        ring
      have unit : 0 < denominator * Nat.pow 2 (1 : Int).toNat := by
        change 0 < denominator * 2
        omega
      rw [if_pos zero_le_one, halved, roundHalfEven_mul _ unit]
      norm_num

end Rounding

end Wayland.Text.Decimal

namespace Wayland.Metrics.Amount

open Wayland.Text (Decimal)

def value
    (amount : Amount) :
    ℚ :=
  amount.count * 2 ^ amount.place

@[simp]
theorem value_ofInt
    (number : Int) :
    (ofInt number).value = number := by
  simp [value, ofInt]

/-- The units of a number make it up. -/
theorem units_mul
    (amount : Amount)
    {place : Int}
    (le : place ≤ amount.place) :
    (amount.units place : ℚ) * 2 ^ place = amount.value := by
  obtain ⟨count, isCount⟩ := Int.eq_ofNat_of_zero_le (sub_nonneg.mpr le)
  have placeEq : amount.place = place + count := by omega
  unfold units value
  have power : Nat.pow 2 count = 2 ^ count := rfl
  rw [isCount, Int.toNat_natCast, placeEq, zpow_add₀ (by norm_num), zpow_natCast, power]
  push_cast
  ring

/-- Counting units of a power of two keeps the sign. -/
theorem units_neg_iff
    {count total place : Int}
    (sum : (count : ℚ) * 2 ^ place = total) :
    count < 0 ↔ total < 0 := by
  have positive : (0 : ℚ) < 2 ^ place := zpow_pos (by norm_num) place
  have totalSign : (total : ℚ) < 0 ↔ total < 0 := Int.cast_lt_zero
  have countSign : (count : ℚ) < 0 ↔ count < 0 := Int.cast_lt_zero
  rw [← totalSign, ← countSign, ← sum]
  constructor
  · exact fun negative => mul_neg_of_neg_of_pos negative positive
  · intro negative
    by_contra notNegative
    exact absurd negative (not_lt.mpr (mul_nonneg (not_lt.mp notNegative) positive.le))

/-- A whole number up to 2^53 whose size is rounded with its sign apart. -/
theorem value_nearestBinary
    {total count : Int}
    {numerator denominator : Nat}
    (positive : 0 < denominator)
    (scaled : numerator = total.natAbs * denominator)
    (small : total.natAbs ≤ 2 ^ 53)
    (sign : count < 0 ↔ total < 0) :
    (⟨if count < 0 then -((Decimal.nearestBinary numerator denominator).1 : Int)
        else (Decimal.nearestBinary numerator denominator).1,
      (Decimal.nearestBinary numerator denominator).2⟩ : Amount).value = total := by
  have magnitude := Decimal.nearestBinary_whole positive small
  rw [← scaled] at magnitude
  unfold value
  simp only [sign]
  split
  · rename_i negative
    push_cast
    rw [neg_mul, magnitude, ← Int.cast_natCast, ← Int.cast_neg]
    congr 1
    omega
  · rename_i notNegative
    rw [Int.cast_natCast, magnitude, ← Int.cast_natCast]
    congr 1
    omega

/-- The sum of two whole numbers is exact up to 2^53. -/
theorem value_plus
    {left right : Amount}
    {first second : Int}
    (leftValue : left.value = first)
    (rightValue : right.value = second)
    (small : (first + second).natAbs ≤ 2 ^ 53) :
    (left.plus right).value = (first + second : Int) := by
  have sum : ((left.units (min left.place right.place) +
      right.units (min left.place right.place) : Int) : ℚ) * 2 ^ min left.place right.place =
        ((first + second : Int) : ℚ) := by
    push_cast
    rw [add_mul, units_mul left (min_le_left _ _), units_mul right (min_le_right _ _), leftValue,
      rightValue]
  unfold plus
  simp only
  generalize left.units (min left.place right.place) +
    right.units (min left.place right.place) = exactSum at sum
  generalize min left.place right.place = place at sum
  generalize first + second = total at sum small
  have sign := units_neg_iff sum
  by_cases notNegative : 0 ≤ place
  · rw [if_pos notNegative]
    obtain ⟨count, rfl⟩ := Int.eq_ofNat_of_zero_le notNegative
    refine value_nearestBinary Nat.one_pos ?_ small sign
    have whole : exactSum * 2 ^ count = total := by
      rw [zpow_natCast] at sum
      exact_mod_cast sum
    rw [← whole, Int.natAbs_mul, Int.toNat_natCast, Nat.mul_one, Int.natAbs_pow]
    rfl
  · rw [if_neg notNegative]
    obtain ⟨count, rfl⟩ : ∃ count : Nat, place = -(count : Int) := ⟨(-place).toNat, by omega⟩
    refine value_nearestBinary (Nat.pow_pos (by omega)) ?_ small sign
    have whole : exactSum = total * 2 ^ count := by
      rw [zpow_neg, zpow_natCast] at sum
      field_simp at sum
      rw [mul_comm] at sum
      exact_mod_cast sum
    rw [whole, Int.natAbs_mul, Int.neg_neg, Int.toNat_natCast, Int.natAbs_pow]
    rfl

end Wayland.Metrics.Amount

namespace Wayland.Metrics

/-- The sample with the given label values; one that is missing is as before anything was measured. -/
def Family.sample
    (family : Family)
    (values : List String) :
    Sample :=
  (family.samples.lookup values).getD family.description.kind.zero

namespace Registry

def sample?
    (registry : Registry)
    (name : String)
    (values : List String) :
    Option Sample :=
  (registry.family? name).map (·.sample values)

def description?
    (registry : Registry)
    (name : String) :
    Option Description :=
  (registry.family? name).map (·.description)

end Registry

section Updating

variable {registry : Registry} {name other : String} {values others : List String}

/-- A list in which what stands at a key is changed. -/
theorem lookup_map_change
    (samples : List (List String × Sample))
    (values others : List String)
    (change : Sample → Sample) :
    (samples.map fun (found, sample) =>
        if found == values then (found, change sample) else (found, sample)).lookup others =
      (samples.lookup others).map fun sample =>
        if others = values then change sample else sample := by
  induction samples with
  | nil => rfl
  | cons entry samples inductionHypothesis =>
      obtain ⟨found, sample⟩ := entry
      rw [List.map_cons, List.lookup_cons]
      by_cases here : others = found
      · subst here
        by_cases same : others = values
        · simp [same]
        · simp [same]
      · have absent : (others == found) = false := beq_eq_false_iff_ne.mpr here
        have sameKey : (if found == values then (found, change sample)
            else (found, sample)).1 = found := by
          split <;> rfl
        rw [sameKey, absent, List.lookup_cons, absent]
        exact inductionHypothesis

/-- A change applies to the sample with its label values only. -/
theorem Family.sample_update
    (family : Family)
    (values others : List String)
    (change : Sample → Sample) :
    (family.update values change).sample others =
      if others = values then change (family.sample values) else family.sample others := by
  unfold Family.update Family.sample
  simp only
  split
  · rename_i present
    rw [lookup_map_change]
    by_cases same : others = values
    · subst same
      have isThere : (family.samples.lookup others).isSome := by
        rw [List.lookup_isSome_iff]
        obtain ⟨entry, member, isAt⟩ := List.any_eq_true.mp present
        exact ⟨entry, member, beq_iff_eq.mpr (beq_iff_eq.mp isAt).symm⟩
      obtain ⟨sample, found⟩ := Option.isSome_iff_exists.mp isThere
      simp [found]
    · simp [same]
  · rename_i absent
    have missing : family.samples.lookup values = none := by
      rw [List.lookup_eq_none_iff]
      intro entry member
      rw [Bool.not_eq_true, List.any_eq_false] at absent
      rw [bne_iff_ne]
      exact fun same => absent entry member (beq_iff_eq.mpr same.symm)
    rw [List.lookup_append]
    by_cases same : others = values
    · subst same
      simp [missing]
    · have apart : (others == values) = false := beq_eq_false_iff_ne.mpr same
      rw [List.lookup_cons, apart, List.lookup_nil, Option.or_none, if_neg same]

/-- A change applies to the collectors with a name only. -/
theorem Registry.family?_update
    (registry : Registry)
    (name other : String)
    (values : List String)
    (change : Sample → Sample) :
    (registry.update name values change).family? other =
      (registry.family? other).map fun family =>
        if other = name then family.update values change else family := by
  unfold Registry.family? Registry.update
  simp only
  induction registry.families with
  | nil => rfl
  | cons family families inductionHypothesis =>
      have sameName : (if family.description.name == name then family.update values change
          else family).description.name = family.description.name := by
        split <;> rfl
      rw [List.map_cons, List.find?_cons, List.find?_cons, sameName]
      by_cases here : family.description.name = other
      · have found : (family.description.name == other) = true := beq_iff_eq.mpr here
        rw [found]
        simp only [Option.map_some, here, beq_iff_eq]
      · have absent : (family.description.name == other) = false := beq_eq_false_iff_ne.mpr here
        rw [absent]
        exact inductionHypothesis

theorem Registry.sample?_update
    (registry : Registry)
    (name other : String)
    (values others : List String)
    (change : Sample → Sample) :
    (registry.update name values change).sample? other others =
      if other = name ∧ others = values then (registry.sample? name values).map change
      else registry.sample? other others := by
  unfold Registry.sample?
  rw [Registry.family?_update]
  by_cases sameName : other = name
  · subst sameName
    cases registry.family? other with
    | none => simp
    | some family =>
        simp only [Option.map_some, if_true, Family.sample_update, true_and]
        split <;> rfl
  · cases registry.family? other with
    | none => simp [sameName]
    | some family => simp [sameName]

theorem Registry.description?_update
    (registry : Registry)
    (name other : String)
    (values : List String)
    (change : Sample → Sample) :
    (registry.update name values change).description? other = registry.description? other := by
  unfold Registry.description?
  rw [Registry.family?_update]
  cases registry.family? other with
  | none => rfl
  | some family =>
      simp only [Option.map_some]
      split <;> rfl

/-- Nothing that is added changes how a collector is described. -/
theorem Registry.description?_add
    (registry : Registry)
    (name other : String)
    (values : List String)
    (amount : Int) :
    (registry.add name values amount).description? other = registry.description? other := by
  unfold Registry.add Registry.measure
  split
  · rfl
  · simp only
    split
    · rfl
    · split <;> exact Registry.description?_update ..

/-- What is added to one sample leaves the others alone. -/
theorem Registry.sample?_add_of_ne
    (different : (other, others) ≠ (name, values))
    (amount : Int) :
    (registry.add name values amount).sample? other others = registry.sample? other others := by
  have apart : ¬(other = name ∧ others = values) := fun same => different (by rw [same.1, same.2])
  unfold Registry.add Registry.measure
  split
  · rfl
  · simp only
    split
    · rfl
    · split <;> rw [Registry.sample?_update, if_neg apart]

/-- What is added to a sample is measured, unless a counter would get smaller. -/
theorem Registry.sample?_add_self
    {description : Description}
    (described : registry.description? name = some description)
    (accepted : description.accepts values = true)
    {amount : Int}
    (grows : description.kind = .counter → 0 ≤ amount) :
    (registry.add name values amount).sample? name values =
      (registry.sample? name values).map
        (Sample.measure description.kind.bounds (.ofInt amount)) := by
  obtain ⟨family, found, rfl⟩ := Option.map_eq_some_iff.mp described
  have notShrinking :
      (family.description.kind == .counter && decide ((Amount.ofInt amount).count < 0)) = false := by
    rw [Bool.and_eq_false_imp]
    intro isCounter
    exact decide_eq_false (Int.not_lt.mpr (grows (beq_iff_eq.mp isCounter)))
  unfold Registry.add Registry.measure
  simp only [found, accepted, notShrinking, Bool.not_true, Bool.false_eq_true, if_false]
  rw [Registry.sample?_update, if_pos ⟨rfl, rfl⟩]

end Updating

/-- A counter that counted so many things, in 64 bits. -/
def Sample.counted
    (count : Nat) :
    Sample :=
  .growing (count % Nat.pow 2 64) (.ofInt 0)

def Sample.StandsAt
    (sample : Sample)
    (number : Int) : Prop :=
  ∃ amount, sample = .number amount ∧ amount.value = number

section Measuring

/-- One more thing is counted. -/
theorem Sample.measure_counted
    (bounds : List Nat)
    (count : Nat) :
    (Sample.counted count).measure bounds (.ofInt 1) = .counted (count + 1) := by
  have isWhole : ((Amount.ofInt 1).isWhole &&
      decide ((Amount.ofInt 1).integral.toNat < Nat.pow 2 64)) = true := by
    decide
  have one : (Amount.ofInt 1).integral.toNat = 1 := by decide
  unfold Sample.measure Sample.counted
  simp only [isWhole, if_true]
  rw [one, Nat.mod_add_mod]

/-- A gauge moves exactly, as long as it does not go beyond 2^53. -/
theorem Sample.StandsAt.measure
    {sample : Sample}
    {number : Int}
    (standsAt : sample.StandsAt number)
    (bounds : List Nat)
    {amount : Int}
    (small : (number + amount).natAbs ≤ 2 ^ 53) :
    (sample.measure bounds (.ofInt amount)).StandsAt (number + amount) := by
  obtain ⟨value, rfl, valueEq⟩ := standsAt
  exact ⟨_, rfl, Amount.value_plus valueEq (Amount.value_ofInt amount) small⟩

end Measuring

/-! ### Many additions -/

/-- What is added to a registry: the name of a collector, label values, and an amount. -/
abbrev Addition := String × List String × Int

def Addition.isTo
    (name : String)
    (values : List String)
    (addition : Addition) :
    Bool :=
  addition.1 == name && addition.2.1 == values

/-- Makes additions, one after the other. -/
def Registry.addAll
    (registry : Registry)
    (additions : List Addition) :
    Registry :=
  additions.foldl (fun registry addition => registry.add addition.1 addition.2.1 addition.2.2)
    registry

section Adding

variable {registry : Registry} {name : String} {values : List String} {additions : List Addition}

theorem Registry.addAll_append
    (registry : Registry)
    (additions more : List Addition) :
    registry.addAll (additions ++ more) = (registry.addAll additions).addAll more :=
  List.foldl_append

/-- A counter counts the additions to it, if each adds one. -/
theorem Registry.sample?_addAll_counted
    {description : Description}
    (described : registry.description? name = some description)
    (accepted : description.accepts values = true)
    (ones : ∀ addition ∈ additions, addition.1 = name → addition.2.2 = 1)
    {count : Nat}
    (counted : registry.sample? name values = some (.counted count)) :
    (registry.addAll additions).sample? name values =
      some (.counted (count + additions.countP (Addition.isTo name values))) := by
  induction additions generalizing registry count with
  | nil => exact counted
  | cons addition additions inductionHypothesis =>
      obtain ⟨adds, others, amount⟩ := addition
      have describedAfter : (registry.add adds others amount).description? name =
          some description :=
        (Registry.description?_add ..).trans described
      have onesAfter : ∀ addition ∈ additions, addition.1 = name → addition.2.2 = 1 :=
        fun later member => ones later (by simp [member])
      rw [List.countP_cons]
      by_cases here : adds = name ∧ others = values
      · obtain ⟨rfl, rfl⟩ := here
        have one : amount = 1 := ones (adds, others, amount) (by simp) rfl
        subst one
        have counts : (registry.add adds others 1).sample? adds others =
            some (.counted (count + 1)) := by
          rw [Registry.sample?_add_self described accepted (fun _ => by omega), counted,
            Option.map_some, Sample.measure_counted]
        have rest := inductionHypothesis describedAfter onesAfter counts
        refine rest.trans ?_
        simp only [Addition.isTo, beq_self_eq_true, Bool.and_self, if_true]
        congr 2
        omega
      · have apart : Addition.isTo name values (adds, others, amount) = false := by
          simpa [Addition.isTo] using here
        have counts : (registry.add adds others amount).sample? name values =
            some (.counted count) := by
          refine (Registry.sample?_add_of_ne ?_ amount).trans counted
          intro same
          cases same
          exact here ⟨rfl, rfl⟩
        have rest := inductionHypothesis describedAfter onesAfter counts
        rw [apart]
        exact rest

end Adding

end Wayland.Metrics
