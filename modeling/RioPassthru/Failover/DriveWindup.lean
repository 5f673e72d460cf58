import RioPassthru.Failover.DriveHelper

set_option autoImplicit false

namespace RioPassthru

namespace DriveHelper

variable {K : Type} [Field K] [LinearOrder K] [IsStrictOrderedRing K]

-- mOldWheel is the wheel of the last call, so mNegInertiaAccumlator is held near a multiple of it.
structure Unwound (helper : DriveHelper K) : Prop where
  wheel : |helper.mOldWheel| ≤ 1
  negInertia : |helper.mNegInertiaAccumlator - 4 * helper.mOldWheel| ≤ 4
  quickStop : |helper.mQuickStopAccumlator| ≤ 5

theorem unwound_initial : Unwound (initial : DriveHelper K) := by
  refine ⟨?_, ?_, ?_⟩ <;> norm_num [initial]

theorem drained_between (accumulator : K) :
    (0 ≤ drained accumulator ∧ drained accumulator ≤ accumulator) ∨
      (accumulator ≤ drained accumulator ∧ drained accumulator ≤ 0) := by
  rw [drained]
  split_ifs with above below
  · exact Or.inl ⟨by linarith, by linarith⟩
  · exact Or.inr ⟨by linarith, by linarith⟩
  · obtain forward | backward := le_total 0 accumulator
    · exact Or.inl ⟨le_refl 0, forward⟩
    · exact Or.inr ⟨backward, le_refl 0⟩

theorem abs_drained_sub_le (accumulator target bound : K) (zeroNear : |target| ≤ bound)
    (near : |accumulator - target| ≤ bound) : |drained accumulator - target| ≤ bound := by
  obtain ⟨zeroLower, zeroUpper⟩ := abs_le.mp zeroNear
  obtain ⟨lower, upper⟩ := abs_le.mp near
  apply abs_le.mpr
  obtain ⟨left, right⟩ | ⟨left, right⟩ := drained_between accumulator
  · exact ⟨by linarith, by linarith⟩
  · exact ⟨by linarith, by linarith⟩

theorem abs_limit_magnitude_le (v : K) : |CKMath.limitMagnitude v 1.0| ≤ 1 := by
  rw [CKMath.limitMagnitude, CKMath.limit_eq, one_literal, abs_le]
  refine ⟨?_, min_le_left 1 _⟩
  exact le_min (by linarith) (le_max_left (-1) v)

theorem abs_quick_stopped_le (mQuickStopAccumlator linearPower wheel : K) (kept : |mQuickStopAccumlator| ≤ 5) :
    |quickStopped mQuickStopAccumlator linearPower wheel| ≤ 5 := by
  rw [quickStopped]
  split_ifs
  · obtain ⟨lower, upper⟩ := abs_le.mp kept
    obtain ⟨wheelLower, wheelUpper⟩ := abs_le.mp (abs_limit_magnitude_le wheel)
    have weight : (kQuickStopWeight : K) = 1 / 10 := by norm_num [kQuickStopWeight]
    have scalar : (kQuickStopScalar : K) = 5 := by norm_num [kQuickStopScalar]
    rw [weight, scalar]
    apply abs_le.mpr
    refine ⟨?_, ?_⟩ <;> linarith
  · exact kept

section Call

variable (sin : K → K) (M_PI : K) (helper : DriveHelper K) (call : DriveCall K)

theorem neg_inertia_accumulated_high (highGear : call.isHighGear = true) :
    negInertiaAccumulated sin M_PI helper call - 4 * call.wheel =
      helper.mNegInertiaAccumlator - 4 * helper.mOldWheel := by
  have scalar : (kHighNegInertiaScalar : K) = 4 := by norm_num [kHighNegInertiaScalar]
  simp only [negInertiaAccumulated, negInertiaScalar, highGear, if_true, scalar]
  ring

theorem unwound_call (highGear : call.isHighGear = true) (bounded : |call.wheel| ≤ 1) (kept : Unwound helper) :
    Unwound (calculateOutput sin M_PI helper call).1 := by
  have negInertia : |drained (negInertiaAccumulated sin M_PI helper call) - 4 * call.wheel| ≤ 4 := by
    apply abs_drained_sub_le
    · rw [abs_mul, abs_of_nonneg (by norm_num : (0 : K) ≤ 4)]
      linarith
    · rw [neg_inertia_accumulated_high sin M_PI helper call highGear]
      exact kept.negInertia
  refine ⟨bounded, negInertia, ?_⟩
  simp only [calculateOutput, quickStopAccumulated]
  split_ifs
  · exact abs_quick_stopped_le _ _ _ kept.quickStop
  · have drain := abs_drained_sub_le helper.mQuickStopAccumlator 0 5 (by norm_num)
    rw [sub_zero, sub_zero] at drain
    exact drain kept.quickStop

end Call

theorem abs_neg_inertia_le (helper : DriveHelper K) (kept : Unwound helper) : |helper.mNegInertiaAccumlator| ≤ 8 := by
  obtain ⟨wheelLower, wheelUpper⟩ := abs_le.mp kept.wheel
  obtain ⟨lower, upper⟩ := abs_le.mp kept.negInertia
  apply abs_le.mpr
  exact ⟨by linarith, by linarith⟩

theorem accumulators_bounded (sin : K → K) (M_PI : K) (calls : List (DriveCall K))
    (highGear : ∀ call ∈ calls, call.isHighGear = true) (bounded : ∀ call ∈ calls, |call.wheel| ≤ 1) :
    Runs.EachStep (fun helper call => (calculateOutput sin M_PI helper call).1)
      (fun helper call =>
        let after := (calculateOutput sin M_PI helper call).1
        |after.mNegInertiaAccumlator - 4 * after.mOldWheel| ≤ 4 ∧ |after.mNegInertiaAccumlator| ≤ 8 ∧
          |after.mQuickStopAccumlator| ≤ 5)
      initial calls := by
  have allowed : ∀ call ∈ calls, call.isHighGear = true ∧ |call.wheel| ≤ 1 := fun call member =>
    ⟨highGear call member, bounded call member⟩
  apply Runs.each_step_of_invariant _ Unwound (fun _ call => call.isHighGear = true ∧ |call.wheel| ≤ 1)
  · intro helper call kept ⟨high, small⟩
    have next := unwound_call sin M_PI helper call high small kept
    exact ⟨⟨next.negInertia, abs_neg_inertia_le _ next, next.quickStop⟩, next⟩
  · exact unwound_initial
  · exact (Runs.each_step_inputs _ _ calls initial).mpr allowed

theorem accumulators_bounded_at_reversal :
    Runs.EachStep (fun helper call => (calculateOutput (fun angle : ℚ => angle) 3 helper call).1)
      (fun helper call =>
        let after := (calculateOutput (fun angle : ℚ => angle) 3 helper call).1
        |after.mNegInertiaAccumlator - 4 * after.mOldWheel| ≤ 4 ∧ |after.mNegInertiaAccumlator| ≤ 8 ∧
          |after.mQuickStopAccumlator| ≤ 5)
      initial [⟨1 / 2, -1, false, true⟩, ⟨0, 1, true, true⟩] :=
  accumulators_bounded (fun angle : ℚ => angle) 3 [⟨1 / 2, -1, false, true⟩, ⟨0, 1, true, true⟩] (by simp) (by simp)

end DriveHelper

end RioPassthru
