import Mathlib.Algebra.Order.Field.Basic
import Mathlib.Algebra.Order.Field.Rat
import Mathlib.Algebra.Order.Group.MinMax
import Mathlib.Tactic.Linarith
import Mathlib.Tactic.Ring
import Mathlib.Tactic.NormNum.OfScientific
import RioPassthru.Lib.Runs
import RioPassthru.Utils.CKMath

set_option autoImplicit false

namespace RioPassthru

variable {K : Type} [Field K]

structure DriveMotorValues (K : Type) where
  left : K
  right : K
deriving DecidableEq, Repr

structure DriveCall (K : Type) where
  throttle : K
  wheel : K
  isQuickTurn : Bool
  isHighGear : Bool
deriving DecidableEq, Repr

structure DriveHelper (K : Type) where
  mOldWheel : K
  mQuickStopAccumlator : K
  mNegInertiaAccumlator : K
deriving DecidableEq, Repr

namespace DriveHelper

def kHighWheelNonLinearity : K := 0.65
def kLowWheelNonLinearity : K := 0.5
def kHighNegInertiaScalar : K := 4.0
def kLowNegInertiaThreshold : K := 0.65
def kLowNegInertiaTurnScalar : K := 3.5
def kLowNegInertiaCloseScalar : K := 4.0
def kLowNegInertiaFarScalar : K := 5.0
def kHighSensitivity : K := 0.95
def kLowSensitiity : K := 1.3
def kQuickStopDeadband : K := 0.2
def kQuickStopWeight : K := 0.1
def kQuickStopScalar : K := 5.0

def initial : DriveHelper K := ⟨0, 0, 0⟩

section Wheel

variable (sin : K → K) (M_PI : K)

def nonLinear (wheelNonLinearity wheel : K) : K :=
  sin (M_PI / 2.0 * wheelNonLinearity * wheel) / sin (M_PI / 2.0 * wheelNonLinearity)

-- The sine is applied twice in high gear and three times in low gear.
def shapedWheel (isHighGear : Bool) (wheel : K) : K :=
  if isHighGear then
    nonLinear sin M_PI kHighWheelNonLinearity (nonLinear sin M_PI kHighWheelNonLinearity wheel)
  else
    nonLinear sin M_PI kLowWheelNonLinearity
      (nonLinear sin M_PI kLowWheelNonLinearity (nonLinear sin M_PI kLowWheelNonLinearity wheel))

theorem non_linear_neg (odd : ∀ angle, sin (-angle) = -sin angle) (wheelNonLinearity wheel : K) :
    nonLinear sin M_PI wheelNonLinearity (-wheel) = -nonLinear sin M_PI wheelNonLinearity wheel := by
  rw [nonLinear, nonLinear, mul_neg, odd, neg_div]

theorem shaped_wheel_neg (odd : ∀ angle, sin (-angle) = -sin angle) (isHighGear : Bool) (wheel : K) :
    shapedWheel sin M_PI isHighGear (-wheel) = -shapedWheel sin M_PI isHighGear wheel := by
  cases isHighGear <;> simp [shapedWheel, non_linear_neg sin M_PI odd]

end Wheel

variable [LinearOrder K]

def sensitivity (isHighGear : Bool) : K := if isHighGear then kHighSensitivity else kLowSensitiity

def overPower (isQuickTurn : Bool) : K := if isQuickTurn then 1.0 else 0.0

def negInertiaScalar (isHighGear : Bool) (wheel negInertia : K) : K :=
  if isHighGear then kHighNegInertiaScalar
  else if wheel * negInertia > 0 then kLowNegInertiaTurnScalar
  else if |wheel| > kLowNegInertiaThreshold then kLowNegInertiaFarScalar
  else kLowNegInertiaCloseScalar

def drained (accumulator : K) : K :=
  if accumulator > 1 then accumulator - 1 else if accumulator < -1 then accumulator + 1 else 0

def quickStopped (mQuickStopAccumlator linearPower wheel : K) : K :=
  if |linearPower| < kQuickStopDeadband then
    (1 - kQuickStopWeight) * mQuickStopAccumlator + kQuickStopWeight * CKMath.limitMagnitude wheel 1.0 * kQuickStopScalar
  else mQuickStopAccumlator

def saturated (overPower leftPwm rightPwm : K) : DriveMotorValues K :=
  if leftPwm > 1.0 then ⟨1.0, rightPwm - overPower * (leftPwm - 1.0)⟩
  else if rightPwm > 1.0 then ⟨leftPwm - overPower * (rightPwm - 1.0), 1.0⟩
  else if leftPwm < -1.0 then ⟨-1.0, rightPwm + overPower * (-1.0 - leftPwm)⟩
  else if rightPwm < -1.0 then ⟨leftPwm + overPower * (-1.0 - rightPwm), -1.0⟩
  else ⟨leftPwm, rightPwm⟩

def clamped (pwm : K) : K := max (min pwm 1.0) (-1.0)

def motorValues (overPower linearPower angularPower : K) : DriveMotorValues K :=
  let values := saturated overPower (linearPower + angularPower) (linearPower - angularPower)
  ⟨clamped values.left, clamped values.right⟩

variable (sin : K → K) (M_PI : K) (helper : DriveHelper K) (call : DriveCall K)

def negInertiaAccumulated : K :=
  let negInertia := call.wheel - helper.mOldWheel
  let wheel := shapedWheel sin M_PI call.isHighGear call.wheel
  helper.mNegInertiaAccumlator + negInertia * negInertiaScalar call.isHighGear wheel negInertia

def effectiveWheel : K := shapedWheel sin M_PI call.isHighGear call.wheel + negInertiaAccumulated sin M_PI helper call

def angularPower : K :=
  let wheel := effectiveWheel sin M_PI helper call
  if call.isQuickTurn then wheel
  else |call.throttle| * wheel * sensitivity call.isHighGear - helper.mQuickStopAccumlator

def quickStopAccumulated : K :=
  if call.isQuickTurn then
    quickStopped helper.mQuickStopAccumlator call.throttle (effectiveWheel sin M_PI helper call)
  else drained helper.mQuickStopAccumlator

def calculateOutput : DriveHelper K × DriveMotorValues K :=
  (⟨call.wheel, quickStopAccumulated sin M_PI helper call, drained (negInertiaAccumulated sin M_PI helper call)⟩,
    motorValues (overPower call.isQuickTurn) call.throttle (angularPower sin M_PI helper call))

def outputs (calls : List (DriveCall K)) : List (DriveMotorValues K) :=
  (Runs.runLog (calculateOutput sin M_PI) helper calls).2

section Saturation

variable [IsStrictOrderedRing K]

theorem one_literal : (1.0 : K) = 1 := by norm_num

theorem over_power_nonneg (isQuickTurn : Bool) : 0 ≤ (overPower isQuickTurn : K) := by
  cases isQuickTurn <;> norm_num [overPower]

theorem clamped_of_ge (pwm : K) (above : 1 ≤ pwm) : clamped pwm = 1 := by
  rw [clamped, one_literal, min_eq_right above, max_eq_left (by linarith)]

theorem clamped_of_le (pwm : K) (below : pwm ≤ -1) : clamped pwm = -1 := by
  rw [clamped, one_literal, min_eq_left (by linarith), max_eq_right below]

theorem clamped_of_mem (pwm : K) (lower : -1 ≤ pwm) (upper : pwm ≤ 1) : clamped pwm = pwm := by
  rw [clamped, one_literal, min_eq_left upper, max_eq_left lower]

theorem clamped_cases (pwm : K) :
    (1 ≤ pwm ∧ clamped pwm = 1) ∨ (pwm ≤ -1 ∧ clamped pwm = -1) ∨ (-1 ≤ pwm ∧ pwm ≤ 1 ∧ clamped pwm = pwm) := by
  obtain above | inside := le_total 1 pwm
  · exact Or.inl ⟨above, clamped_of_ge pwm above⟩
  · obtain below | inside' := le_total pwm (-1)
    · exact Or.inr (Or.inl ⟨below, clamped_of_le pwm below⟩)
    · exact Or.inr (Or.inr ⟨inside', inside, clamped_of_mem pwm inside' inside⟩)

theorem abs_clamped_le (pwm : K) : |clamped pwm| ≤ 1 := by
  rw [abs_le]
  obtain ⟨-, same⟩ | ⟨-, same⟩ | ⟨lower, upper, same⟩ := clamped_cases pwm
  · rw [same]
    refine ⟨by linarith, le_refl 1⟩
  · rw [same]
    refine ⟨le_refl (-1), by linarith⟩
  · rw [same]
    exact ⟨lower, upper⟩

theorem clamped_neg (pwm : K) : clamped (-pwm) = -clamped pwm := by
  obtain ⟨above, same⟩ | ⟨below, same⟩ | ⟨lower, upper, same⟩ := clamped_cases pwm
  · rw [same, clamped_of_le _ (neg_le_neg above)]
  · rw [same, clamped_of_ge _ (le_neg_of_le_neg below), neg_neg]
  · rw [same, clamped_of_mem _ (neg_le_neg upper) (neg_le.mp lower)]

theorem sub_clamped_nonpos (pwm : K) (small : pwm ≤ 1) : pwm - clamped pwm ≤ 0 := by
  obtain ⟨above, same⟩ | ⟨below, same⟩ | ⟨-, -, same⟩ := clamped_cases pwm <;> rw [same] <;> linarith

theorem sub_clamped_nonneg (pwm : K) (large : -1 ≤ pwm) : 0 ≤ pwm - clamped pwm := by
  obtain ⟨above, same⟩ | ⟨below, same⟩ | ⟨-, -, same⟩ := clamped_cases pwm <;> rw [same] <;> linarith

-- Either side loses its own overflow and takes the share overPower of the other side's. The
-- chain of branches says so because left and right are never both beyond the same bound.
theorem motor_values_eq (overPower linearPower angularPower : K) (weight : 0 ≤ overPower) (bounded : |linearPower| ≤ 1) :
    let leftPwm := linearPower + angularPower
    let rightPwm := linearPower - angularPower
    motorValues overPower linearPower angularPower =
      ⟨clamped (leftPwm - overPower * (rightPwm - clamped rightPwm)),
        clamped (rightPwm - overPower * (leftPwm - clamped leftPwm))⟩ := by
  obtain ⟨lower, upper⟩ := abs_le.mp bounded
  intro leftPwm rightPwm
  have sum : leftPwm + rightPwm = 2 * linearPower := by
    simp only [leftPwm, rightPwm]
    ring
  change (⟨clamped (saturated overPower leftPwm rightPwm).left, clamped (saturated overPower leftPwm rightPwm).right⟩ :
    DriveMotorValues K) = _
  generalize leftPwm = left at sum ⊢
  generalize rightPwm = right at sum ⊢
  have gains : ∀ pwm, pwm ≤ 1 → overPower * (pwm - clamped pwm) ≤ 0 := fun pwm small =>
    mul_nonpos_of_nonneg_of_nonpos weight (sub_clamped_nonpos pwm small)
  have loses : ∀ pwm, -1 ≤ pwm → 0 ≤ overPower * (pwm - clamped pwm) := fun pwm large =>
    mul_nonneg weight (sub_clamped_nonneg pwm large)
  rw [saturated, one_literal]
  split_ifs with leftAbove rightAbove leftBelow rightBelow
  · have other := gains right (by linarith)
    rw [clamped_of_ge 1 le_rfl, clamped_of_ge (left - _) (by linarith), clamped_of_ge left leftAbove.le]
  · have other := gains left (by linarith)
    rw [clamped_of_ge 1 le_rfl, clamped_of_ge (right - _) (by linarith), clamped_of_ge right rightAbove.le]
  · have other := loses right (by linarith)
    rw [clamped_of_le (-1) le_rfl, clamped_of_le (left - _) (by linarith), clamped_of_le left leftBelow.le]
    rw [← neg_sub left, mul_neg, ← sub_eq_add_neg]
  · have other := loses left (by linarith)
    rw [clamped_of_le (-1) le_rfl, clamped_of_le (right - _) (by linarith), clamped_of_le right rightBelow.le]
    rw [← neg_sub right, mul_neg, ← sub_eq_add_neg]
  · rw [clamped_of_mem left (not_lt.mp leftBelow) (not_lt.mp leftAbove),
      clamped_of_mem right (not_lt.mp rightBelow) (not_lt.mp rightAbove)]
    simp only [sub_self, mul_zero, sub_zero]
    rw [clamped_of_mem left (not_lt.mp leftBelow) (not_lt.mp leftAbove),
      clamped_of_mem right (not_lt.mp rightBelow) (not_lt.mp rightAbove)]

-- With the whole overflow taken over, the sides stay as far apart as full differential allows:
-- a side beyond its bound moves the other by the excess, until that one meets its own bound.
theorem overflow_taken_over (leftPwm rightPwm : K) (bounded : |leftPwm + rightPwm| ≤ 2) :
    clamped (leftPwm - 1 * (rightPwm - clamped rightPwm)) - clamped (rightPwm - 1 * (leftPwm - clamped leftPwm)) =
      max (-2) (min 2 (leftPwm - rightPwm)) := by
  obtain ⟨lower, upper⟩ := abs_le.mp bounded
  rw [one_mul, one_mul, sub_sub_eq_add_sub, sub_sub_eq_add_sub]
  obtain ⟨leftAbove, left⟩ | ⟨leftBelow, left⟩ | ⟨leftLow, leftHigh, left⟩ := clamped_cases leftPwm <;>
    obtain ⟨rightAbove, right⟩ | ⟨rightBelow, right⟩ | ⟨rightLow, rightHigh, right⟩ := clamped_cases rightPwm <;>
    rw [left, right] <;>
    simp only [clamped, one_literal] <;>
    grind

theorem abs_sides_le (linearPower angularPower : K) (bounded : |linearPower| ≤ 1) :
    |linearPower + angularPower + (linearPower - angularPower)| ≤ 2 := by
  rw [add_add_sub_cancel, ← two_mul, abs_mul, abs_two]
  linarith

theorem quick_turn_keeps_steering (sin : K → K) (M_PI : K) (helper : DriveHelper K) (call : DriveCall K)
    (quickTurn : call.isQuickTurn = true) (bounded : |call.throttle| ≤ 1) :
    let values := (calculateOutput sin M_PI helper call).2
    values.left - values.right = max (-2) (min 2 (2 * effectiveWheel sin M_PI helper call)) ∧
      values.left ∈ Set.Icc (-1) 1 ∧ values.right ∈ Set.Icc (-1) 1 := by
  have answered : (calculateOutput sin M_PI helper call).2 =
      motorValues 1 call.throttle (effectiveWheel sin M_PI helper call) := by
    rw [calculateOutput, angularPower, if_pos quickTurn, quickTurn, overPower, if_pos rfl, one_literal]
  intro values
  refine ⟨?_, ?_, ?_⟩
  · have steering := overflow_taken_over _ _ (abs_sides_le call.throttle (effectiveWheel sin M_PI helper call) bounded)
    simp only [values, answered, motor_values_eq 1 call.throttle _ zero_le_one bounded]
    rw [steering, add_sub_sub_cancel, ← two_mul]
  · simp only [values, answered]
    exact abs_le.mp (abs_clamped_le _)
  · simp only [values, answered]
    exact abs_le.mp (abs_clamped_le _)

theorem quick_turn_keeps_steering_at_full_wheel :
    let values := (calculateOutput (fun angle : ℚ => angle) 3 initial ⟨1 / 2, 1, true, true⟩).2
    values.left - values.right =
        max (-2) (min 2 (2 * effectiveWheel (fun angle : ℚ => angle) 3 initial ⟨1 / 2, 1, true, true⟩)) ∧
      values.left ∈ Set.Icc (-1) 1 ∧ values.right ∈ Set.Icc (-1) 1 :=
  quick_turn_keeps_steering (fun angle : ℚ => angle) 3 initial ⟨1 / 2, 1, true, true⟩ rfl (abs_le.mpr ⟨by norm_num, by norm_num⟩)

end Saturation

end DriveHelper

end RioPassthru
