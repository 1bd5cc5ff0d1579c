import Mathlib.Tactic.ByCases
import Wayland.Proofs.Wire.Grammar

/-!
Contract: computations that answer exactly where a condition holds.

Owns: the relation between a result and the condition for it, and how it passes through steps.

Does not own: the computations.
-/

namespace Wayland.Document

variable {ε α β : Type}

theorem ok_bind
    (value : α)
    (next : α → Except ε β) :
    (Except.ok value >>= next) = next value :=
  rfl

theorem pure_eq_ok
    (value : α) :
    (pure value : Except ε α) = .ok value :=
  rfl

/-- A computation gives a value where a condition holds, and fails everywhere else. -/
structure Answers
    (result : Except ε α)
    (fits : Prop)
    (value : α) : Prop where
  ok : fits → result = .ok value
  error : ¬fits → ∃ error, result = .error error

namespace Answers

variable {result : Except ε α} {fits : Prop} {value : α}

theorem of_ok
    (isOk : result = .ok value) :
    Answers result True value :=
  ⟨fun _ => isOk, fun refused => absurd trivial refused⟩

theorem of_error
    {error : ε}
    (isError : result = .error error) :
    Answers result False value :=
  ⟨False.elim, fun _ => ⟨error, isError⟩⟩

theorem of_refused
    {error : ε}
    (isError : result = .error error)
    (fails : ¬fits) :
    Answers result fits value :=
  ⟨fun holds => absurd holds fails, fun _ => ⟨error, isError⟩⟩

theorem congr
    {other : Prop}
    (answers : Answers result fits value)
    (same : fits ↔ other) :
    Answers result other value :=
  ⟨fun holds => answers.ok (same.mpr holds), fun fails => answers.error (mt same.mp fails)⟩

theorem congr_value
    {other : α}
    (answers : Answers result fits value)
    (same : fits → value = other) :
    Answers result fits other :=
  ⟨fun holds => same holds ▸ answers.ok holds, answers.error⟩

/-- Two steps answer where both do. -/
theorem bind
    {further : Prop}
    {next : α → Except ε β}
    {last : β}
    (answers : Answers result fits value)
    (answersNext : fits → Answers (next value) further last) :
    Answers (result >>= next) (fits ∧ further) last := by
  constructor
  · rintro ⟨holds, holdsNext⟩
    rw [answers.ok holds]
    exact (answersNext holds).ok holdsNext
  · intro fails
    by_cases holds : fits
    · rw [answers.ok holds]
      exact (answersNext holds).error fun holdsNext => fails ⟨holds, holdsNext⟩
    · obtain ⟨error, isError⟩ := answers.error holds
      rw [isError]
      exact ⟨error, rfl⟩

theorem map
    {change : α → β}
    (answers : Answers result fits value) :
    Answers (result >>= fun value => .ok (change value)) fits (change value) := by
  refine (bind answers ?_).congr (Iff.of_eq (and_true fits))
  exact fun _ => of_ok rfl

/-- A guard in front of a computation. -/
theorem guarded
    {bad : Prop}
    [Decidable bad]
    {refusal : Except ε α}
    (refuses : ∃ error, refusal = .error error)
    (answers : Answers result fits value) :
    Answers (if bad then refusal else result) (¬bad ∧ fits) value := by
  split
  · rename_i isBad
    obtain ⟨error, isError⟩ := refuses
    exact (of_error isError).congr ⟨False.elim, fun both => both.1 isBad⟩
  · rename_i isGood
    exact answers.congr ⟨fun holds => ⟨isGood, holds⟩, fun both => both.2⟩

theorem ok_iff
    (answers : Answers result fits value) :
    (∃ value, result = .ok value) ↔ fits := by
  constructor
  · rintro ⟨given, isGiven⟩
    by_contra fails
    obtain ⟨error, isError⟩ := answers.error fails
    rw [isGiven] at isError
    cases isError
  · exact fun holds => ⟨value, answers.ok holds⟩

theorem eq_of_ok
    {given : α}
    (answers : Answers result fits value)
    (isGiven : result = .ok given) :
    given = value := by
  have isOk := answers.ok (answers.ok_iff.mp ⟨given, isGiven⟩)
  rw [isGiven] at isOk
  cases isOk
  rfl

theorem eq_ok_iff
    (answers : Answers result fits value)
    (given : α) :
    result = .ok given ↔ fits ∧ given = value := by
  constructor
  · exact fun isGiven => ⟨answers.ok_iff.mp ⟨given, isGiven⟩, answers.eq_of_ok isGiven⟩
  · rintro ⟨holds, rfl⟩
    exact answers.ok holds

end Answers

end Wayland.Document
