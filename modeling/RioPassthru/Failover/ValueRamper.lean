import Mathlib.Algebra.Order.Field.Basic
import Mathlib.Algebra.Order.Field.Rat
import Mathlib.Algebra.Order.Group.MinMax
import Mathlib.Tactic.Linarith
import RioPassthru.Lib.Runs

set_option autoImplicit false

namespace RioPassthru

variable {K : Type} [Field K] [LinearOrder K]

structure ValueRamper (K : Type) where
  mAccelRampRate : K
  mDecelRampRate : K
  mZeroValue : K
  mMaxValue : K
  mPrevTime : K
  mPrevValue : K
deriving DecidableEq, Repr

-- timeNow is what frc::Timer::GetFPGATimestamp answers.
structure RampCall (K : Type) where
  timeNow : K
  currValue : K

def RampCall.negated (call : RampCall K) : RampCall K := { call with currValue := -call.currValue }

namespace ValueRamper

def construct (accelRampRate decelRampRate zeroValue maxValue : K) : ValueRamper K :=
  ⟨accelRampRate, decelRampRate, zeroValue, maxValue, 0, 0⟩

def ramped (accelStep decelStep prevValue currValue : K) : K :=
  if currValue > prevValue ∧ currValue ≥ 0 then min (prevValue + accelStep) currValue
  else if currValue < prevValue ∧ currValue ≥ 0 then max (prevValue - decelStep) currValue
  else if currValue < prevValue ∧ currValue ≤ 0 then max (prevValue - accelStep) currValue
  else if currValue > prevValue ∧ currValue ≤ 0 then min (prevValue + decelStep) currValue
  else currValue

variable (ramper : ValueRamper K)

def step (rampRate timeNow : K) : K :=
  (ramper.mMaxValue - ramper.mZeroValue) * (timeNow - ramper.mPrevTime) / rampRate

def calculateOutput (call : RampCall K) : ValueRamper K × K :=
  if ramper.mPrevTime ≠ 0 then
    let value := ramped (ramper.step ramper.mAccelRampRate call.timeNow) (ramper.step ramper.mDecelRampRate call.timeNow)
      ramper.mPrevValue call.currValue
    ({ ramper with mPrevTime := call.timeNow, mPrevValue := value }, value)
  else ({ ramper with mPrevTime := call.timeNow }, 0)

def outputs (calls : List (RampCall K)) : List K := (Runs.runLog calculateOutput ramper calls).2

def mirrored : ValueRamper K := { ramper with mPrevValue := -ramper.mPrevValue }

-- What a call must meet that asks for zero from another value: the two rates give steps of
-- one length, or either step is long enough to reach zero.
def StopsAlike (call : RampCall K) : Prop :=
  ramper.mPrevTime ≠ 0 → call.currValue = 0 → ramper.mPrevValue ≠ 0 →
    ramper.mAccelRampRate = ramper.mDecelRampRate ∨ ramper.mMaxValue = ramper.mZeroValue ∨
      call.timeNow = ramper.mPrevTime ∨
      |ramper.mPrevValue| ≤ ramper.step ramper.mAccelRampRate call.timeNow ∧
        |ramper.mPrevValue| ≤ ramper.step ramper.mDecelRampRate call.timeNow

variable (accelStep decelStep prevValue currValue : K)

-- From forward the second branch stops with decelStep; from reverse the first one is met
-- before the fourth and stops with accelStep.
theorem ramped_zero :
    ramped accelStep decelStep prevValue 0 =
      if prevValue < 0 then min (prevValue + accelStep) 0 else if 0 < prevValue then max (prevValue - decelStep) 0 else 0 := by
  simp only [ramped, gt_iff_lt, ge_iff_le, le_refl, and_true]
  split_ifs <;> rfl

variable [IsStrictOrderedRing K]

theorem ramped_mirrored (moving : currValue ≠ 0) :
    ramped accelStep decelStep (-prevValue) (-currValue) = -ramped accelStep decelStep prevValue currValue := by
  have accelerated : max (-prevValue - accelStep) (-currValue) = -min (prevValue + accelStep) currValue := by
    rw [← neg_add', max_neg_neg]
  have decelerated : min (-prevValue + decelStep) (-currValue) = -max (prevValue - decelStep) currValue := by
    rw [← min_neg_neg, neg_sub, sub_eq_neg_add, add_comm]
  have accelerated' : min (-prevValue + accelStep) (-currValue) = -max (prevValue - accelStep) currValue := by
    rw [← min_neg_neg, neg_sub, sub_eq_neg_add, add_comm]
  have decelerated' : max (-prevValue - decelStep) (-currValue) = -min (prevValue + decelStep) currValue := by
    rw [← neg_add', max_neg_neg]
  obtain reverse | forward := lt_or_gt_of_ne moving
  · have notForward := not_le_of_gt reverse
    simp only [ramped, gt_iff_lt, ge_iff_le, neg_lt_neg_iff, Left.nonneg_neg_iff, Left.neg_nonpos_iff, reverse.le, notForward,
      and_true, and_false, if_false, accelerated', decelerated']
    split_ifs <;> rfl
  · have notReverse := not_le_of_gt forward
    simp only [ramped, gt_iff_lt, ge_iff_le, neg_lt_neg_iff, Left.nonneg_neg_iff, Left.neg_nonpos_iff, forward.le, notReverse,
      and_true, and_false, if_false, accelerated, decelerated]
    split_ifs <;> rfl

theorem ramped_zero_mirrored_iff (stopping : prevValue ≠ 0) :
    ramped accelStep decelStep (-prevValue) 0 = -ramped accelStep decelStep prevValue 0 ↔
      accelStep = decelStep ∨ |prevValue| ≤ accelStep ∧ |prevValue| ≤ decelStep := by
  rw [ramped_zero, ramped_zero]
  obtain reverse | forward := lt_or_gt_of_ne stopping
  · have fromForward : 0 < -prevValue := neg_pos.mpr reverse
    rw [if_neg fromForward.not_gt, if_pos fromForward, if_pos reverse, abs_of_neg reverse]
    grind
  · have fromReverse : -prevValue < 0 := neg_neg_of_pos forward
    rw [if_pos fromReverse, if_neg forward.not_gt, if_pos forward, abs_of_pos forward]
    grind

omit [LinearOrder K] [IsStrictOrderedRing K] in
theorem step_eq_iff (accelRampRate decelRampRate timeNow : K) (accel : accelRampRate ≠ 0) (decel : decelRampRate ≠ 0) :
    ramper.step accelRampRate timeNow = ramper.step decelRampRate timeNow ↔
      accelRampRate = decelRampRate ∨ ramper.mMaxValue = ramper.mZeroValue ∨ timeNow = ramper.mPrevTime := by
  rw [step, step, div_eq_div_iff accel decel, mul_eq_mul_left_iff, mul_eq_zero, sub_eq_zero, sub_eq_zero, eq_comm]

-- One call from mirrored values: the outputs mirror each other when the call stops alike,
-- and what is remembered for the next call then does so too.
theorem calculate_output_mirrored (call : RampCall K) (accel : ramper.mAccelRampRate ≠ 0) (decel : ramper.mDecelRampRate ≠ 0) :
    ((ramper.mirrored.calculateOutput call.negated).2 = -(ramper.calculateOutput call).2 ↔ ramper.StopsAlike call) ∧
      (ramper.StopsAlike call →
        (ramper.mirrored.calculateOutput call.negated).1 = (ramper.calculateOutput call).1.mirrored) := by
  by_cases first : ramper.mPrevTime = 0
  · simp [calculateOutput, mirrored, RampCall.negated, StopsAlike, first]
  · generalize accelStep : ramper.step ramper.mAccelRampRate call.timeNow = a
    generalize decelStep : ramper.step ramper.mDecelRampRate call.timeNow = d
    have alike : ramped a d (-ramper.mPrevValue) (-call.currValue) = -ramped a d ramper.mPrevValue call.currValue ↔
        ramper.StopsAlike call := by
      by_cases moving : call.currValue = 0
      · by_cases still : ramper.mPrevValue = 0
        · simp [StopsAlike, moving, still, ramped_zero]
        · rw [moving, neg_zero, ramped_zero_mirrored_iff a d _ still, StopsAlike]
          have lengths := step_eq_iff ramper _ _ call.timeNow accel decel
          simp only [first, moving, still, ne_eq, not_false_eq_true, forall_const, accelStep, decelStep] at lengths ⊢
          rw [lengths, or_assoc, or_assoc]
      · exact iff_of_true (ramped_mirrored a d _ _ moving) fun _ zero => absurd zero moving
    have plain : ramper.calculateOutput call =
        ({ ramper with mPrevTime := call.timeNow, mPrevValue := ramped a d ramper.mPrevValue call.currValue },
          ramped a d ramper.mPrevValue call.currValue) := by
      rw [calculateOutput, if_pos first, accelStep, decelStep]
    have turned : ramper.mirrored.calculateOutput call.negated =
        ({ ramper with mPrevTime := call.timeNow, mPrevValue := ramped a d (-ramper.mPrevValue) (-call.currValue) },
          ramped a d (-ramper.mPrevValue) (-call.currValue)) := by
      rw [← accelStep, ← decelStep]
      exact if_pos first
    rw [plain, turned]
    refine ⟨alike, fun stops => ?_⟩
    rw [alike.mpr stops, mirrored]

theorem outputs_mirrored_iff (calls : List (RampCall K)) (accel : ramper.mAccelRampRate ≠ 0) (decel : ramper.mDecelRampRate ≠ 0) :
    ramper.mirrored.outputs (calls.map RampCall.negated) = (ramper.outputs calls).map Neg.neg ↔
      Runs.EachStep (fun ramper call => (ramper.calculateOutput call).1) StopsAlike ramper calls := by
  induction calls generalizing ramper with
  | nil => exact iff_of_true rfl trivial
  | cons call rest ih =>
      obtain ⟨alike, remembered⟩ := calculate_output_mirrored ramper call accel decel
      have rates : (ramper.calculateOutput call).1.mAccelRampRate = ramper.mAccelRampRate ∧
          (ramper.calculateOutput call).1.mDecelRampRate = ramper.mDecelRampRate := by
        rw [calculateOutput]
        split <;> exact ⟨rfl, rfl⟩
      have later := ih (ramper.calculateOutput call).1 (rates.1 ▸ accel) (rates.2 ▸ decel)
      simp only [outputs, Runs.runLog, List.map_cons, List.cons.injEq, Runs.EachStep] at later ⊢
      rw [alike]
      refine and_congr_right fun stops => ?_
      rw [remembered stops, later]

theorem forward_and_reverse_alike_iff (accelRampRate decelRampRate zeroValue maxValue : K) (accel : 0 < accelRampRate)
    (decel : 0 < decelRampRate) (calls : List (RampCall K)) :
    (construct accelRampRate decelRampRate zeroValue maxValue).outputs (calls.map RampCall.negated) =
        ((construct accelRampRate decelRampRate zeroValue maxValue).outputs calls).map Neg.neg ↔
      Runs.EachStep (fun ramper call => (ramper.calculateOutput call).1) StopsAlike
        (construct accelRampRate decelRampRate zeroValue maxValue) calls := by
  have start : (construct accelRampRate decelRampRate zeroValue maxValue).mirrored =
      construct accelRampRate decelRampRate zeroValue maxValue := by
    rw [mirrored, construct, neg_zero]
  have alike := outputs_mirrored_iff (construct accelRampRate decelRampRate zeroValue maxValue) calls accel.ne' decel.ne'
  rwa [start] at alike

-- Rates 1 and 2, stopping from full reverse: the first second brings -1 to 0, the other way
-- 1 only to a half.
def stopFromReverse : List (RampCall ℚ) := [⟨1, 0⟩, ⟨3, -1⟩, ⟨4, 0⟩]

theorem forward_and_reverse_alike_stopping :
    (construct (1 : ℚ) 1 0 1).outputs (stopFromReverse.map RampCall.negated) =
      ((construct (1 : ℚ) 1 0 1).outputs stopFromReverse).map Neg.neg :=
  (forward_and_reverse_alike_iff 1 1 0 1 one_pos one_pos stopFromReverse).mpr
    ⟨fun never => absurd rfl never, fun _ _ _ => Or.inl rfl, fun _ _ _ => Or.inl rfl, trivial⟩

theorem reverse_stops_at_other_rate :
    ¬ ∀ (accelRampRate decelRampRate zeroValue maxValue : ℚ) (calls : List (RampCall ℚ)),
      0 < accelRampRate → 0 < decelRampRate → zeroValue ≤ maxValue → (calls.map RampCall.timeNow).Pairwise (· ≤ ·) →
      (construct accelRampRate decelRampRate zeroValue maxValue).outputs (calls.map RampCall.negated) =
        ((construct accelRampRate decelRampRate zeroValue maxValue).outputs calls).map Neg.neg := by
  intro always
  have same := always 1 2 0 1 stopFromReverse (by decide) (by decide) (by decide) (by decide)
  revert same
  decide +kernel

end ValueRamper

end RioPassthru
