import Mathlib.Algebra.Order.Field.Basic
import Mathlib.Algebra.Order.Field.Rat
import Mathlib.Data.Int.Cast.Lemmas
import Mathlib.Tactic.Linarith
import Mathlib.Tactic.NormNum.OfScientific
import RioPassthru.Lib.DeadZone

set_option autoImplicit false

namespace RioPassthru

namespace CKMath

open DeadZone

variable {T : Type} [Field T] [LinearOrder T]

def signum (val : T) : Int := (if 0 < val then 1 else 0) - (if val < 0 then 1 else 0)

def handleDeadband (val deadband : T) : T := if |val| > |deadband| then val else 0.0

def normalizeWithDeadband (val deadband : T) : T :=
  let val := handleDeadband val deadband
  if val ≠ 0 then signum val * ((|val| - deadband) / (1.0 - deadband)) else val

theorem signum_of_pos (val : T) (positive : 0 < val) : signum val = 1 := by
  rw [signum, if_pos positive, if_neg positive.not_gt, sub_zero]

theorem signum_of_neg (val : T) (negative : val < 0) : signum val = -1 := by
  rw [signum, if_neg negative.not_gt, if_pos negative, zero_sub]

variable [IsStrictOrderedRing T]

theorem handle_deadband_of_inside (val deadband : T) (nonneg : 0 ≤ deadband) (inside : |val| ≤ deadband) :
    handleDeadband val deadband = 0 := by
  have cut : ¬ |val| > |deadband| := (inside.trans_eq (abs_of_nonneg nonneg).symm).not_gt
  rw [handleDeadband, if_neg cut]
  norm_num

theorem handle_deadband_of_outside (val deadband : T) (nonneg : 0 ≤ deadband) (outside : deadband < |val|) :
    handleDeadband val deadband = val := by
  have kept : |val| > |deadband| := (abs_of_nonneg nonneg).trans_lt outside
  rw [handleDeadband, if_pos kept]

theorem normalize_with_deadband_eq (val deadband : T) (nonneg : 0 ≤ deadband) :
    normalizeWithDeadband val deadband = deadZone deadband val / (1 - deadband) := by
  have one : (1.0 : T) = 1 := by norm_num
  rw [normalizeWithDeadband, one]
  obtain inside | outside := le_or_gt |val| deadband
  · rw [handle_deadband_of_inside val deadband nonneg inside, dead_zone_of_abs_le deadband val inside, zero_div]
    exact if_neg (not_not.mpr rfl)
  · rw [handle_deadband_of_outside val deadband nonneg outside]
    have nonzero : val ≠ 0 := abs_pos.mp (nonneg.trans_lt outside)
    obtain positive | negative := lt_or_gt_of_ne nonzero.symm
    · rw [abs_of_pos positive] at outside ⊢
      rw [dead_zone_of_le deadband val nonneg outside.le, signum_of_pos val positive, Int.cast_one, one_mul]
      exact if_pos nonzero
    · rw [abs_of_neg negative] at outside ⊢
      rw [dead_zone_of_le_neg deadband val nonneg outside.le, signum_of_neg val negative, Int.cast_neg, Int.cast_one,
        neg_one_mul, ← neg_div, neg_sub, sub_neg_eq_add, add_comm deadband]
      exact if_pos nonzero

section Shape

variable (deadband : T) (nonneg : 0 ≤ deadband) (below : deadband < 1)

include nonneg

theorem normalize_with_deadband_neg (val : T) :
    normalizeWithDeadband (-val) deadband = -normalizeWithDeadband val deadband := by
  rw [normalize_with_deadband_eq _ _ nonneg, dead_zone_neg, neg_div, normalize_with_deadband_eq _ _ nonneg]

include below

theorem normalize_with_deadband_eq_zero_iff (val : T) : normalizeWithDeadband val deadband = 0 ↔ |val| ≤ deadband := by
  rw [normalize_with_deadband_eq _ _ nonneg, div_eq_zero_iff, or_iff_left (sub_pos.mpr below).ne']
  exact dead_zone_eq_zero_iff deadband val nonneg

theorem normalize_with_deadband_monotone : Monotone fun val => normalizeWithDeadband val deadband := by
  intro less more order
  simp only [normalize_with_deadband_eq _ _ nonneg]
  exact div_le_div_of_nonneg_right (dead_zone_monotone deadband order) (sub_pos.mpr below).le

theorem normalize_with_deadband_one : normalizeWithDeadband 1 deadband = 1 := by
  rw [normalize_with_deadband_eq _ _ nonneg, dead_zone_of_le deadband 1 nonneg below.le]
  exact div_self (sub_pos.mpr below).ne'

theorem abs_normalize_with_deadband_le (val : T) (bounded : |val| ≤ 1) : |normalizeWithDeadband val deadband| ≤ 1 := by
  have monotone := normalize_with_deadband_monotone deadband nonneg below
  have full := normalize_with_deadband_one deadband nonneg below
  obtain ⟨lower, upper⟩ := abs_le.mp bounded
  apply abs_le.mpr
  refine ⟨?_, ?_⟩
  · calc -1 = normalizeWithDeadband (-1) deadband := by rw [normalize_with_deadband_neg deadband nonneg, full]
      _ ≤ normalizeWithDeadband val deadband := monotone lower
  · exact (monotone upper).trans_eq full

theorem normalize_with_deadband_reaches (output : T) (bounded : |output| ≤ 1) :
    ∃ val, |val| ≤ 1 ∧ normalizeWithDeadband val deadband = output := by
  have positive : 0 < 1 - deadband := sub_pos.mpr below
  obtain ⟨val, small, reached⟩ := dead_zone_reaches deadband (output * (1 - deadband)) nonneg
  refine ⟨val, ?_, ?_⟩
  · rw [abs_mul, abs_of_pos positive] at small
    have scaled := mul_le_mul_of_nonneg_right bounded positive.le
    linarith
  · rw [normalize_with_deadband_eq _ _ nonneg, reached, mul_div_cancel_right₀ _ positive.ne']

end Shape

theorem deadband_shaping (deadband : T) (nonneg : 0 ≤ deadband) (below : deadband < 1) :
    (∀ val, normalizeWithDeadband (-val) deadband = -normalizeWithDeadband val deadband) ∧
      (∀ val, normalizeWithDeadband val deadband = 0 ↔ |val| ≤ deadband) ∧
      (Monotone fun val => normalizeWithDeadband val deadband) ∧
      (∀ val ∈ Set.Icc (-1) 1, normalizeWithDeadband val deadband ∈ Set.Icc (-1) 1) ∧
      normalizeWithDeadband 1 deadband = 1 ∧
      ∀ output ∈ Set.Icc (-1) 1, ∃ val ∈ Set.Icc (-1) 1, normalizeWithDeadband val deadband = output := by
  refine ⟨normalize_with_deadband_neg deadband nonneg, normalize_with_deadband_eq_zero_iff deadband nonneg below,
    normalize_with_deadband_monotone deadband nonneg below, ?_, normalize_with_deadband_one deadband nonneg below, ?_⟩
  · intro val bounded
    exact abs_le.mp (abs_normalize_with_deadband_le deadband nonneg below val (abs_le.mpr bounded))
  · intro output bounded
    obtain ⟨val, small, reached⟩ := normalize_with_deadband_reaches deadband nonneg below output (abs_le.mpr bounded)
    exact ⟨val, abs_le.mp small, reached⟩

theorem deadband_shaping_of_drive :
    (∀ val : ℚ, normalizeWithDeadband (-val) 0.1 = -normalizeWithDeadband val 0.1) ∧
      (∀ val : ℚ, normalizeWithDeadband val 0.1 = 0 ↔ |val| ≤ 0.1) ∧
      (Monotone fun val : ℚ => normalizeWithDeadband val 0.1) ∧
      (∀ val ∈ Set.Icc (-1 : ℚ) 1, normalizeWithDeadband val 0.1 ∈ Set.Icc (-1) 1) ∧
      normalizeWithDeadband (1 : ℚ) 0.1 = 1 ∧
      ∀ output ∈ Set.Icc (-1 : ℚ) 1, ∃ val ∈ Set.Icc (-1) 1, normalizeWithDeadband val 0.1 = output :=
  deadband_shaping 0.1 (by norm_num) (by norm_num)

end CKMath

end RioPassthru
