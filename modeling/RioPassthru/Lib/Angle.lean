import Mathlib.Algebra.Order.Round
import Mathlib.Tactic.Linarith
import Mathlib.Tactic.Ring
import Mathlib.Tactic.FieldSimp

set_option autoImplicit false

-- Angles that count turns, compared as directions; half is half a turn.
namespace Angle

variable {K : Type} [Field K] [LinearOrder K] [IsStrictOrderedRing K] [FloorRing K] (half : K)

def wrapped (angle : K) : K := angle - 2 * half * round (angle / (2 * half))

-- Whether to keep the direction asked for: where it is closer to the current one than the opposite
-- one, and at exactly a quarter turn either way.
structure Chooses (keeps : K → K → Bool) : Prop where
  closer : ∀ desired current, |wrapped half (desired - current)| < half / 2 → keeps desired current = true
  farther : ∀ desired current, half / 2 < |wrapped half (desired - current)| → keeps desired current = false

def optimized (keeps : K → K → Bool) (turned : K → K) (desired current : K) : K :=
  if keeps desired current then desired else turned desired

variable (positive : 0 < half)

include positive

theorem wrapped_of_small (angle : K) (small : |angle| ≤ half / 2) : wrapped half angle = angle := by
  have turn : 0 < 2 * half := by linarith
  obtain ⟨lower, upper⟩ := abs_le.mp small
  have zero : round (angle / (2 * half)) = 0 := by
    rw [round_eq_zero_iff]
    refine ⟨?_, ?_⟩
    · rw [le_div_iff₀ turn]
      linarith
    · rw [div_lt_iff₀ turn]
      linarith
  rw [wrapped, zero, Int.cast_zero, mul_zero, sub_zero]

theorem half_turn_away (angle : K) (small : |angle| < half / 2) (turns : ℤ) : half / 2 < |angle - half - 2 * half * turns| := by
  obtain ⟨lower, upper⟩ := abs_lt.mp small
  rw [lt_abs]
  obtain negative | nonnegative := lt_or_ge turns 0
  · left
    have bound : (turns : K) ≤ -1 := by exact_mod_cast Int.le_sub_one_of_lt negative
    have scaled := mul_le_mul_of_nonneg_left bound (by linarith : 0 ≤ 2 * half)
    linarith
  · right
    have bound : (0 : K) ≤ turns := by exact_mod_cast nonnegative
    have scaled := mul_nonneg (by linarith : 0 ≤ 2 * half) bound
    linarith

variable (keeps : K → K → Bool) (chooses : Chooses half keeps) (turned : K → K)
    (opposite : ∀ angle, ∃ turns : ℤ, turned angle = angle + half + 2 * half * turns)

include chooses opposite

theorem optimized_short_iff (desired current : K) :
    |optimized keeps turned desired current - current| ≤ half / 2 ↔
      |desired - current| < half / 2 ∨ |turned desired - current| < half / 2 ∨
        keeps desired current = true ∧ |desired - current| = half / 2 ∨
        keeps desired current = false ∧ |turned desired - current| = half / 2 := by
  obtain ⟨turns, away⟩ := opposite desired
  have congruent : wrapped half (desired - current) =
      (turned desired - current) - half - 2 * half * ((turns + round ((desired - current) / (2 * half)) : ℤ) : K) := by
    rw [wrapped, away]
    push_cast
    ring
  have kept : |desired - current| < half / 2 → keeps desired current = true := by
    intro near
    apply chooses.closer
    rwa [wrapped_of_small half positive _ near.le]
  have flipped : |turned desired - current| < half / 2 → keeps desired current = false := by
    intro near
    apply chooses.farther
    rw [congruent]
    exact half_turn_away half positive _ near _
  rw [optimized]
  cases choice : keeps desired current with
  | true =>
      have never : ¬ |turned desired - current| < half / 2 := fun near => by
        rw [flipped near] at choice
        cases choice
      rw [if_pos rfl, le_iff_lt_or_eq]
      simp [never]
  | false =>
      have never : ¬ |desired - current| < half / 2 := fun near => by
        rw [kept near] at choice
        cases choice
      rw [if_neg Bool.false_ne_true, le_iff_lt_or_eq]
      simp [never]

end Angle
