import RioPassthru.Failover.DriveHelper

set_option autoImplicit false

namespace RioPassthru

open DriveHelper

variable {K : Type} [Field K]

def DriveCall.wheelNegated (call : DriveCall K) : DriveCall K := { call with wheel := -call.wheel }

def DriveCall.bothNegated (call : DriveCall K) : DriveCall K :=
  { call with throttle := -call.throttle, wheel := -call.wheel }

def DriveCall.turned (call : DriveCall K) (throttle : K) : DriveCall K :=
  { call with throttle := throttle, wheel := -call.wheel }

theorem DriveCall.turned_same (call : DriveCall K) : call.turned call.throttle = call.wheelNegated := rfl

theorem DriveCall.turned_opposite (call : DriveCall K) : call.turned (-call.throttle) = call.bothNegated := rfl

def DriveMotorValues.swapped (values : DriveMotorValues K) : DriveMotorValues K := ⟨values.right, values.left⟩

def DriveMotorValues.negated (values : DriveMotorValues K) : DriveMotorValues K := ⟨-values.left, -values.right⟩

def DriveHelper.mirrored (helper : DriveHelper K) : DriveHelper K :=
  ⟨-helper.mOldWheel, -helper.mQuickStopAccumlator, -helper.mNegInertiaAccumlator⟩

theorem initial_mirrored : (initial : DriveHelper K).mirrored = initial := by
  rw [initial, mirrored, neg_zero]

namespace DriveHelper

variable [LinearOrder K] [IsStrictOrderedRing K]

omit [IsStrictOrderedRing K] in
theorem neg_inertia_scalar_neg (isHighGear : Bool) (wheel negInertia : K) :
    negInertiaScalar isHighGear (-wheel) (-negInertia) = negInertiaScalar isHighGear wheel negInertia := by
  rw [negInertiaScalar, negInertiaScalar, neg_mul_neg, abs_neg]

theorem drained_neg (accumulator : K) : drained (-accumulator) = -drained accumulator := by
  rw [drained, drained]
  grind

theorem limit_magnitude_neg (v maxMagnitude : K) (bound : 0 ≤ maxMagnitude) :
    CKMath.limitMagnitude (-v) maxMagnitude = -CKMath.limitMagnitude v maxMagnitude := by
  rw [CKMath.limitMagnitude, CKMath.limitMagnitude, CKMath.limit_eq, CKMath.limit_eq]
  grind

theorem quick_stopped_neg (mQuickStopAccumlator linearPower wheel : K) :
    quickStopped (-mQuickStopAccumlator) linearPower (-wheel) = -quickStopped mQuickStopAccumlator linearPower wheel := by
  rw [quickStopped, quickStopped, limit_magnitude_neg wheel 1.0 (by norm_num)]
  split_ifs
  · ring
  · rfl

omit [IsStrictOrderedRing K] in
theorem quick_stopped_congr (mQuickStopAccumlator linearPower otherPower wheel : K) (sameSize : |linearPower| = |otherPower|) :
    quickStopped mQuickStopAccumlator linearPower wheel = quickStopped mQuickStopAccumlator otherPower wheel := by
  rw [quickStopped, sameSize, quickStopped]

theorem motor_values_swapped (overPower linearPower angularPower : K) (weight : 0 ≤ overPower) (bounded : |linearPower| ≤ 1) :
    motorValues overPower linearPower (-angularPower) = (motorValues overPower linearPower angularPower).swapped := by
  rw [motor_values_eq _ _ _ weight bounded, motor_values_eq _ _ _ weight bounded, DriveMotorValues.swapped,
    ← sub_eq_add_neg, sub_neg_eq_add]

theorem motor_values_negated (overPower linearPower angularPower : K) (weight : 0 ≤ overPower) (bounded : |linearPower| ≤ 1) :
    motorValues overPower (-linearPower) (-angularPower) = (motorValues overPower linearPower angularPower).negated := by
  have side : ∀ own other : K, clamped (-own - overPower * (-other - clamped (-other))) =
      -clamped (own - overPower * (other - clamped other)) := by
    intro own other
    rw [clamped_neg other, ← neg_sub', mul_neg, ← neg_sub', clamped_neg]
  rw [motor_values_eq _ _ _ weight ((abs_neg linearPower).trans_le bounded), motor_values_eq _ _ _ weight bounded,
    DriveMotorValues.negated, ← neg_add, ← neg_sub', side, side]

section Turned

variable (sin : K → K) (M_PI : K) (odd : ∀ angle, sin (-angle) = -sin angle) (helper : DriveHelper K) (call : DriveCall K)
  (throttle : K)

include odd

omit [IsStrictOrderedRing K] in
theorem neg_inertia_accumulated_turned :
    negInertiaAccumulated sin M_PI helper.mirrored (call.turned throttle) = -negInertiaAccumulated sin M_PI helper call := by
  have inertia : -call.wheel - -helper.mOldWheel = -(call.wheel - helper.mOldWheel) := (neg_sub' _ _).symm
  simp only [negInertiaAccumulated, mirrored, DriveCall.turned, inertia, shaped_wheel_neg sin M_PI odd,
    neg_inertia_scalar_neg]
  ring

omit [IsStrictOrderedRing K] in
theorem effective_wheel_turned :
    effectiveWheel sin M_PI helper.mirrored (call.turned throttle) = -effectiveWheel sin M_PI helper call := by
  rw [effectiveWheel, neg_inertia_accumulated_turned sin M_PI odd, effectiveWheel, neg_add]
  exact congrArg (· + _) (shaped_wheel_neg sin M_PI odd call.isHighGear call.wheel)

variable (sameSize : |throttle| = |call.throttle|)

include sameSize

omit [IsStrictOrderedRing K] in
theorem angular_power_turned :
    angularPower sin M_PI helper.mirrored (call.turned throttle) = -angularPower sin M_PI helper call := by
  rw [angularPower, effective_wheel_turned sin M_PI odd, angularPower]
  cases quickTurn : call.isQuickTurn
  · simp only [DriveCall.turned, quickTurn, Bool.false_eq_true, if_false, mirrored, sameSize]
    ring
  · simp only [DriveCall.turned, quickTurn, if_true]

theorem quick_stop_accumulated_turned :
    quickStopAccumulated sin M_PI helper.mirrored (call.turned throttle) = -quickStopAccumulated sin M_PI helper call := by
  rw [quickStopAccumulated, effective_wheel_turned sin M_PI odd, quickStopAccumulated]
  cases quickTurn : call.isQuickTurn
  · simp only [DriveCall.turned, quickTurn, Bool.false_eq_true, if_false, mirrored, drained_neg]
  · simp only [DriveCall.turned, quickTurn, if_true, mirrored]
    rw [quick_stopped_neg, quick_stopped_congr _ _ _ _ sameSize]

theorem calculate_output_turned :
    calculateOutput sin M_PI helper.mirrored (call.turned throttle) =
      ((calculateOutput sin M_PI helper call).1.mirrored,
        motorValues (overPower call.isQuickTurn) throttle (-angularPower sin M_PI helper call)) := by
  rw [calculateOutput, quick_stop_accumulated_turned sin M_PI odd helper call throttle sameSize,
    neg_inertia_accumulated_turned sin M_PI odd, drained_neg,
    angular_power_turned sin M_PI odd helper call throttle sameSize]
  rfl

end Turned

theorem symmetric_drive (sin : K → K) (M_PI : K) (odd : ∀ angle, sin (-angle) = -sin angle) (calls : List (DriveCall K))
    (bounded : ∀ call ∈ calls, |call.throttle| ≤ 1) :
    outputs sin M_PI initial (calls.map DriveCall.wheelNegated) =
        (outputs sin M_PI initial calls).map DriveMotorValues.swapped ∧
      outputs sin M_PI initial (calls.map DriveCall.bothNegated) =
        (outputs sin M_PI initial calls).map DriveMotorValues.negated := by
  refine ⟨?_, ?_⟩
  · have mirror := Runs.run_log_map (calculateOutput sin M_PI) mirrored DriveCall.wheelNegated DriveMotorValues.swapped
      (fun call => |call.throttle| ≤ 1) ?_ calls initial bounded
    · rw [initial_mirrored] at mirror
      exact congrArg Prod.snd mirror
    · intro helper call small
      rw [← DriveCall.turned_same, calculate_output_turned sin M_PI odd helper call call.throttle rfl,
        motor_values_swapped _ _ _ (over_power_nonneg _) small]
      rfl
  · have reverse := Runs.run_log_map (calculateOutput sin M_PI) mirrored DriveCall.bothNegated DriveMotorValues.negated
      (fun call => |call.throttle| ≤ 1) ?_ calls initial bounded
    · rw [initial_mirrored] at reverse
      exact congrArg Prod.snd reverse
    · intro helper call small
      rw [← DriveCall.turned_opposite, calculate_output_turned sin M_PI odd helper call (-call.throttle) (abs_neg _),
        motor_values_negated _ _ _ (over_power_nonneg _) small]
      rfl

theorem symmetric_drive_slalom :
    let calls : List (DriveCall ℚ) := [⟨1, 1 / 2, false, true⟩, ⟨0, -1, true, false⟩]
    outputs (fun angle => angle) 3 initial (calls.map DriveCall.wheelNegated) =
        (outputs (fun angle => angle) 3 initial calls).map DriveMotorValues.swapped ∧
      outputs (fun angle => angle) 3 initial (calls.map DriveCall.bothNegated) =
        (outputs (fun angle => angle) 3 initial calls).map DriveMotorValues.negated :=
  symmetric_drive (fun angle => angle) 3 (fun _ => rfl) _ (by simp)

end DriveHelper

end RioPassthru
