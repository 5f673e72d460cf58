import RioPassthru.Failover.DriveSymmetry
import RioPassthru.Failover.DriveWindup
import RioPassthru.Failover.RamperBounds
import RioPassthru.Lib.Histories
import RioPassthru.Utils.Deadband

set_option autoImplicit false

namespace RioPassthru

open Runs

variable {K : Type} [Field K] [LinearOrder K]

inductive NeutralMode where
  | coast
  | brake
deriving DecidableEq, Repr

structure DriveJoystick (K : Type) where
  xAxis : K
  yAxis : K
  quickTurn : Bool
  brakeMode : Bool

inductive DriveSide where
  | left
  | right

def DriveMotorValues.side (values : DriveMotorValues K) : DriveSide → K
  | .left => values.left
  | .right => values.right

structure DriveInput (K : Type) where
  joystick : Option (DriveJoystick K)
  leftTime : K
  rightTime : K

def DriveInput.time (input : DriveInput K) : DriveSide → K
  | .left => input.leftTime
  | .right => input.rightTime

structure DrivetrainFailover (K : Type) where
  mDriveHelper : DriveHelper K
  mLeftValueRamper : ValueRamper K
  mRightValueRamper : ValueRamper K
  leftOutput : K
  rightOutput : K
  neutralMode : NeutralMode

namespace DrivetrainFailover

def DRIVE_JOYSTICK_DEADBAND : K := 0.12
def DRIVE_ACCEL_RAMP : K := 0.5
def DRIVE_DECEL_RAMP : K := 0.2
def DRIVE_ZERO_VAL : K := 0
def DRIVE_MAX_VAL : K := 1

def driveRamper : ValueRamper K := .construct DRIVE_ACCEL_RAMP DRIVE_DECEL_RAMP DRIVE_ZERO_VAL DRIVE_MAX_VAL

def construct : DrivetrainFailover K := ⟨.initial, driveRamper, driveRamper, 0, 0, .coast⟩

def driveCall (joystick : DriveJoystick K) : DriveCall K where
  throttle := -CKMath.normalizeWithDeadband joystick.yAxis DRIVE_JOYSTICK_DEADBAND
  wheel := CKMath.normalizeWithDeadband joystick.xAxis DRIVE_JOYSTICK_DEADBAND
  isQuickTurn := joystick.quickTurn
  isHighGear := true

variable (sin : K → K) (M_PI : K)

def drive (drivetrain : DrivetrainFailover K) (input : DriveInput K) (joystick : DriveJoystick K) : DrivetrainFailover K :=
  let dv := drivetrain.mDriveHelper.calculateOutput sin M_PI (driveCall joystick)
  let left := drivetrain.mLeftValueRamper.calculateOutput ⟨input.leftTime, dv.2.left⟩
  let right := drivetrain.mRightValueRamper.calculateOutput ⟨input.rightTime, dv.2.right⟩
  { mDriveHelper := dv.1
    mLeftValueRamper := left.1
    mRightValueRamper := right.1
    leftOutput := left.2
    rightOutput := right.2
    neutralMode := if joystick.brakeMode then .brake else .coast }

def run (drivetrain : DrivetrainFailover K) (input : DriveInput K) : DrivetrainFailover K :=
  match input.joystick with
  | some joystick => drivetrain.drive sin M_PI input joystick
  | none => { drivetrain with leftOutput := 0, rightOutput := 0 }

def reached (inputs : List (DriveInput K)) : DrivetrainFailover K := runSteps (run sin M_PI) construct inputs

def ramper (drivetrain : DrivetrainFailover K) : DriveSide → ValueRamper K
  | .left => drivetrain.mLeftValueRamper
  | .right => drivetrain.mRightValueRamper

def output (drivetrain : DrivetrainFailover K) : DriveSide → K
  | .left => drivetrain.leftOutput
  | .right => drivetrain.rightOutput

def Timely (inputs : List (DriveInput K)) : Prop :=
  ∀ side, (inputs.Pairwise fun earlier later => earlier.time side ≤ later.time side) ∧ ∀ input ∈ inputs, 0 < input.time side

section Side

structure Ramping (ramper : ValueRamper K) : Prop where
  same : ∃ time value, ramper = { driveRamper with mPrevTime := time, mPrevValue := value }
  fresh : ramper.mPrevTime = 0 → ramper.mPrevValue = 0
  bounded : |ramper.mPrevValue| ≤ 1

variable [IsStrictOrderedRing K] {ramper : ValueRamper K}

theorem Ramping.ready (ramping : Ramping ramper) : ramper.Ready := by
  obtain ⟨⟨time, value, rfl⟩, fresh, _⟩ := ramping
  refine ⟨?_, ?_, ?_, fresh⟩ <;>
    norm_num [driveRamper, ValueRamper.construct, DRIVE_ACCEL_RAMP, DRIVE_DECEL_RAMP, DRIVE_ZERO_VAL, DRIVE_MAX_VAL]

theorem ramping_start : Ramping (driveRamper : ValueRamper K) :=
  ⟨⟨0, 0, rfl⟩, fun _ => rfl, by norm_num [driveRamper, ValueRamper.construct]⟩

theorem Ramping.fastest (ramping : Ramping ramper) (timeNow : K) :
    ramper.step (min ramper.mAccelRampRate ramper.mDecelRampRate) timeNow = 5 * (timeNow - ramper.mPrevTime) := by
  obtain ⟨⟨time, value, rfl⟩, _, _⟩ := ramping
  norm_num [ValueRamper.step, driveRamper, ValueRamper.construct, DRIVE_ACCEL_RAMP, DRIVE_DECEL_RAMP, DRIVE_ZERO_VAL, DRIVE_MAX_VAL]
  ring

theorem Ramping.slowest (ramping : Ramping ramper) (timeNow : K) :
    ramper.step (max ramper.mAccelRampRate ramper.mDecelRampRate) timeNow = 2 * (timeNow - ramper.mPrevTime) := by
  obtain ⟨⟨time, value, rfl⟩, _, _⟩ := ramping
  norm_num [ValueRamper.step, driveRamper, ValueRamper.construct, DRIVE_ACCEL_RAMP, DRIVE_DECEL_RAMP, DRIVE_ZERO_VAL, DRIVE_MAX_VAL]
  ring

structure RampedTo (ramper : ValueRamper K) (call : RampCall K) (value : K) : Prop where
  called : ramper.calculateOutput call = ({ ramper with mPrevTime := call.timeNow, mPrevValue := value }, value)
  ramping : Ramping { ramper with mPrevTime := call.timeNow, mPrevValue := value }
  moves : ramper.mPrevTime ≠ 0 →
    Approach.Moves call.currValue (2 * (call.timeNow - ramper.mPrevTime)) (5 * (call.timeNow - ramper.mPrevTime))
      ramper.mPrevValue value

theorem Ramping.call (ramping : Ramping ramper) (call : RampCall K) (due : ramper.Due call) (target : |call.currValue| ≤ 1) :
    ∃ value, RampedTo ramper call value := by
  obtain ⟨value, called, first, moves⟩ := ValueRamper.calculate_output_spec call ramping.ready due
  refine ⟨value, called, ⟨?_, fun zero => absurd zero due.2.ne', ?_⟩, ?_⟩
  · obtain ⟨time, before, same⟩ := ramping.same
    exact ⟨call.timeNow, value, by rw [same]⟩
  · by_cases fresh : ramper.mPrevTime = 0
    · rw [first fresh, abs_zero]
      exact zero_le_one
    · obtain ⟨lower, upper⟩ := abs_le.mp ramping.bounded
      obtain ⟨targetLower, targetUpper⟩ := abs_le.mp target
      obtain ⟨above, below⟩ := Set.mem_uIcc.mp (moves fresh).between |>.elim
        (fun up => (⟨lower.trans up.1, up.2.trans targetUpper⟩ : -1 ≤ value ∧ value ≤ 1))
        (fun down => ⟨targetLower.trans down.1, down.2.trans upper⟩)
      exact abs_le.mpr ⟨above, below⟩
  · intro running
    have move := moves running
    rwa [ramping.slowest, ramping.fastest] at move

end Side

section Outputs

variable [IsStrictOrderedRing K] {drivetrain : DrivetrainFailover K} {inputs : List (DriveInput K)}

omit [IsStrictOrderedRing K] in
theorem Timely.before {more : List (DriveInput K)} (timely : Timely (inputs ++ more)) : Timely inputs := by
  intro side
  obtain ⟨ordered, positive⟩ := timely side
  exact ⟨(List.pairwise_append.mp ordered).1, fun input member => positive input (List.mem_append_left more member)⟩

-- One side after some runs. Its ramper has the time of the last connected one.
structure SideKept (side : DriveSide) (inputs : List (DriveInput K)) (drivetrain : DrivetrainFailover K) : Prop where
  ramping : Ramping (drivetrain.ramper side)
  since : (drivetrain.ramper side).mPrevTime = 0 ∨ ∃ input ∈ inputs, (drivetrain.ramper side).mPrevTime = input.time side
  bounded : |drivetrain.output side| ≤ 1

omit [IsStrictOrderedRing K] in
theorem SideKept.due {side : DriveSide} {input : DriveInput K} (kept : SideKept side inputs drivetrain)
    (timely : Timely (inputs ++ [input])) (target : K) : (drivetrain.ramper side).Due ⟨input.time side, target⟩ := by
  obtain ⟨ordered, positive⟩ := timely side
  have now := positive input (List.mem_concat_self ..)
  refine ⟨?_, now⟩
  obtain fresh | ⟨earlier, member, same⟩ := kept.since
  · exact fresh.trans_le now.le
  · rw [same]
    exact (List.pairwise_append.mp ordered).2.2 earlier member input (List.mem_singleton_self input)

variable (sin : K → K) (M_PI : K)

def target (drivetrain : DrivetrainFailover K) (joystick : DriveJoystick K) (side : DriveSide) : K :=
  (drivetrain.mDriveHelper.calculateOutput sin M_PI (driveCall joystick)).2.side side

theorem abs_target_le (joystick : DriveJoystick K) (side : DriveSide) : |drivetrain.target sin M_PI joystick side| ≤ 1 := by
  cases side <;> exact DriveHelper.abs_clamped_le _

theorem drive_side {side : DriveSide} {input : DriveInput K} (kept : SideKept side inputs drivetrain)
    (timely : Timely (inputs ++ [input])) (joystick : DriveJoystick K) :
    ∃ value, RampedTo (drivetrain.ramper side) ⟨input.time side, drivetrain.target sin M_PI joystick side⟩ value ∧
      (drivetrain.drive sin M_PI input joystick).ramper side =
        { drivetrain.ramper side with mPrevTime := input.time side, mPrevValue := value } ∧
      (drivetrain.drive sin M_PI input joystick).output side = value := by
  obtain ⟨value, ramped⟩ := kept.ramping.call ⟨input.time side, drivetrain.target sin M_PI joystick side⟩ (kept.due timely _)
    (abs_target_le sin M_PI joystick side)
  refine ⟨value, ramped, ?_⟩
  cases side <;> exact ⟨congrArg Prod.fst ramped.called, congrArg Prod.snd ramped.called⟩

omit [IsStrictOrderedRing K] in
theorem run_disconnected (drivetrain : DrivetrainFailover K) (side : DriveSide) (input : DriveInput K) (disconnected : input.joystick = none) :
    (drivetrain.run sin M_PI input).ramper side = drivetrain.ramper side ∧
      (drivetrain.run sin M_PI input).output side = 0 ∧
      (drivetrain.run sin M_PI input).mDriveHelper = drivetrain.mDriveHelper := by
  rw [run, disconnected]
  cases side <;> exact ⟨rfl, rfl, rfl⟩

theorem side_kept_run {side : DriveSide} (input : DriveInput K) (kept : SideKept side inputs drivetrain)
    (timely : Timely (inputs ++ [input])) : SideKept side (inputs ++ [input]) (drivetrain.run sin M_PI input) := by
  cases connected : input.joystick with
  | some joystick =>
      obtain ⟨value, ramped, after, answered⟩ := drive_side sin M_PI kept timely joystick
      rw [run, connected]
      refine ⟨after ▸ ramped.ramping, .inr ⟨input, List.mem_concat_self .., by rw [after]⟩, ?_⟩
      rw [answered]
      exact ramped.ramping.bounded
  | none =>
      obtain ⟨same, still, _⟩ := run_disconnected sin M_PI drivetrain side input connected
      refine ⟨same ▸ kept.ramping, ?_, ?_⟩
      · rw [same]
        exact kept.since.imp_right fun ⟨earlier, member, time⟩ => ⟨earlier, List.mem_append_left _ member, time⟩
      · rw [still, abs_zero]
        exact zero_le_one

omit [IsStrictOrderedRing K] in
theorem reached_concat (inputs : List (DriveInput K)) (input : DriveInput K) :
    reached sin M_PI (inputs ++ [input]) = (reached sin M_PI inputs).run sin M_PI input :=
  Histories.run_steps_concat ..

theorem side_kept (side : DriveSide) (inputs : List (DriveInput K)) (timely : Timely inputs) :
    SideKept side inputs (reached sin M_PI inputs) := by
  induction inputs using List.reverseRecOn with
  | nil => cases side <;> exact ⟨ramping_start, .inl rfl, by rw [reached, runSteps, construct, output, abs_zero]; exact zero_le_one⟩
  | append_singleton inputs last ih =>
      rw [reached_concat]
      exact side_kept_run sin M_PI last (ih timely.before) timely

omit [IsStrictOrderedRing K] in
theorem ramper_while_disconnected (side : DriveSide) (between : List (DriveInput K))
    (disconnected : ∀ input ∈ between, input.joystick = none) :
    (runSteps (run sin M_PI) drivetrain between).ramper side = drivetrain.ramper side :=
  run_steps_while (run sin M_PI) (fun after => after.ramper side = drivetrain.ramper side) (fun input => input.joystick = none)
    (fun after input same disconnected => (run_disconnected sin M_PI after side input disconnected).1.trans same)
    between drivetrain rfl disconnected

theorem connected_runs_near (side : DriveSide) (before between : List (DriveInput K)) (first last : DriveInput K)
    (timely : Timely (before ++ first :: between ++ [last])) (joystick : first.joystick.isSome = true)
    (again : last.joystick.isSome = true) (disconnected : ∀ input ∈ between, input.joystick = none) :
    |(reached sin M_PI (before ++ first :: between ++ [last])).output side - (reached sin M_PI (before ++ [first])).output side| ≤
      5 * (last.time side - first.time side) := by
  have split : before ++ first :: between = before ++ [first] ++ between := by
    rw [List.append_assoc, List.singleton_append]
  have started : Timely (before ++ [first]) := by
    rw [split] at timely
    exact timely.before.before
  obtain ⟨stick, found⟩ := Option.isSome_iff_exists.mp joystick
  obtain ⟨stick', found'⟩ := Option.isSome_iff_exists.mp again
  obtain ⟨value, ramped, after, answered⟩ := drive_side sin M_PI (side_kept sin M_PI side before started.before) started stick
  obtain ⟨value', ramped', _, answered'⟩ := drive_side sin M_PI (side_kept sin M_PI side _ timely.before) timely stick'
  have held : (reached sin M_PI (before ++ first :: between)).ramper side =
      { (reached sin M_PI before).ramper side with mPrevTime := first.time side, mPrevValue := value } := by
    rw [split, reached, run_steps_append, ramper_while_disconnected sin M_PI side between disconnected, ← reached, reached_concat,
      run, found]
    exact after
  have move := ramped'.moves
  rw [held] at move
  have limited := (move ((started side).2 first (List.mem_concat_self ..)).ne').limited
  rw [reached_concat, reached_concat, run, found', run, found]
  rwa [answered, answered']

theorem drivetrain_outputs_limited (inputs : List (DriveInput K)) (timely : Timely inputs) (side : DriveSide) :
    |(reached sin M_PI inputs).output side| ≤ 1 ∧
      (∀ before last, inputs = before ++ [last] → last.joystick = none → (reached sin M_PI inputs).output side = 0) ∧
      ∀ before first between last, inputs = before ++ first :: between ++ [last] → first.joystick.isSome = true →
        last.joystick.isSome = true → (∀ input ∈ between, input.joystick = none) →
          |(reached sin M_PI inputs).output side - (reached sin M_PI (before ++ [first])).output side| ≤
            5 * (last.time side - first.time side) := by
  refine ⟨(side_kept sin M_PI side inputs timely).bounded, ?_, ?_⟩
  · rintro before last rfl disconnected
    rw [reached_concat]
    exact (run_disconnected sin M_PI _ side last disconnected).2.1
  · rintro before first between last rfl joystick again disconnected
    exact connected_runs_near sin M_PI side before between first last timely joystick again disconnected

def stickAt (time xAxis yAxis : ℚ) (quickTurn : Bool) : DriveInput ℚ := ⟨some ⟨xAxis, yAxis, quickTurn, false⟩, time, time⟩

def unplugged : List (DriveInput ℚ) := [stickAt 1 0 (-1) false, stickAt 2 0 (-1) false, ⟨none, 2.1, 2.1⟩, stickAt 2.2 1 0 true]

theorem drivetrain_outputs_limited_unplugged :
    |(reached (fun angle : ℚ => angle) 3 unplugged).output .right| ≤ 1 ∧
      |(reached (fun angle => angle) 3 unplugged).output .right -
        (reached (fun angle => angle) 3 [stickAt 1 0 (-1) false, stickAt 2 0 (-1) false]).output .right| ≤ 5 * (2.2 - 2) := by
  obtain ⟨bounded, _, near⟩ := drivetrain_outputs_limited (fun angle : ℚ => angle) 3 unplugged
    (fun side => by cases side <;> norm_num [unplugged, stickAt, DriveInput.time]) .right
  refine ⟨bounded, ?_⟩
  apply near [stickAt 1 0 (-1) false] (stickAt 2 0 (-1) false) [⟨none, 2.1, 2.1⟩] (stickAt 2.2 1 0 true) rfl rfl rfl
  simp

end Outputs

section Mirrored

def mirroredJoystick (joystick : DriveJoystick K) : DriveJoystick K := { joystick with xAxis := -joystick.xAxis }

def mirroredInput (input : DriveInput K) : DriveInput K :=
  ⟨input.joystick.map mirroredJoystick, input.rightTime, input.leftTime⟩

def mirrored (drivetrain : DrivetrainFailover K) : DrivetrainFailover K where
  mDriveHelper := drivetrain.mDriveHelper.mirrored
  mLeftValueRamper := drivetrain.mRightValueRamper
  mRightValueRamper := drivetrain.mLeftValueRamper
  leftOutput := drivetrain.rightOutput
  rightOutput := drivetrain.leftOutput
  neutralMode := drivetrain.neutralMode

variable [IsStrictOrderedRing K] (sin : K → K) (M_PI : K) (odd : ∀ angle, sin (-angle) = -sin angle)

theorem deadband_nonneg : (0 : K) ≤ DRIVE_JOYSTICK_DEADBAND := by norm_num [DRIVE_JOYSTICK_DEADBAND]

theorem deadband_lt_one : (DRIVE_JOYSTICK_DEADBAND : K) < 1 := by norm_num [DRIVE_JOYSTICK_DEADBAND]

theorem drive_call_mirrored (joystick : DriveJoystick K) :
    driveCall (mirroredJoystick joystick) = (driveCall joystick).turned (driveCall joystick).throttle := by
  rw [driveCall, mirroredJoystick, CKMath.normalize_with_deadband_neg _ deadband_nonneg]
  rfl

theorem abs_throttle_le (joystick : DriveJoystick K) (bounded : |joystick.yAxis| ≤ 1) : |(driveCall joystick).throttle| ≤ 1 := by
  rw [driveCall, abs_neg]
  exact CKMath.abs_normalize_with_deadband_le _ deadband_nonneg deadband_lt_one _ bounded

include odd

theorem drive_mirrored (drivetrain : DrivetrainFailover K) (input : DriveInput K) (joystick : DriveJoystick K)
    (bounded : |joystick.yAxis| ≤ 1) :
    drivetrain.mirrored.drive sin M_PI (mirroredInput input) (mirroredJoystick joystick) =
      (drivetrain.drive sin M_PI input joystick).mirrored := by
  have turned := DriveHelper.calculate_output_turned sin M_PI odd drivetrain.mDriveHelper (driveCall joystick) _ rfl
  rw [DriveHelper.motor_values_swapped _ _ _ (DriveHelper.over_power_nonneg _) (abs_throttle_le joystick bounded)] at turned
  rw [drive, drive_call_mirrored, mirrored, turned]
  rfl

theorem mirrored_stick_swaps_sides (inputs : List (DriveInput K))
    (bounded : ∀ input ∈ inputs, ∀ joystick ∈ input.joystick, |joystick.yAxis| ≤ 1) :
    reached sin M_PI (inputs.map mirroredInput) = (reached sin M_PI inputs).mirrored := by
  have start : (construct : DrivetrainFailover K).mirrored = construct := by
    rw [mirrored, construct, initial_mirrored]
  have mirror := run_steps_map (run sin M_PI) mirrored mirroredInput
    (fun input => ∀ joystick ∈ input.joystick, |joystick.yAxis| ≤ 1) ?_ inputs construct bounded
  · rwa [start] at mirror
  · intro drivetrain input small
    cases connected : input.joystick with
    | none => simp only [run, mirroredInput, connected, Option.map_none, mirrored]
    | some joystick =>
        have turned := drive_mirrored sin M_PI odd drivetrain input joystick (small joystick connected)
        rw [run, run, connected]
        rw [mirroredInput, connected] at turned ⊢
        exact turned

end Mirrored

theorem mirrored_stick_swaps_sides_unplugged :
    reached (fun angle : ℚ => angle) 3 (unplugged.map mirroredInput) = (reached (fun angle => angle) 3 unplugged).mirrored :=
  mirrored_stick_swaps_sides (fun angle => angle) 3 (fun _ => rfl) unplugged (by simp [unplugged, stickAt])

section Released

structure ReleasedStick (joystick : DriveJoystick K) : Prop where
  x : |joystick.xAxis| ≤ DRIVE_JOYSTICK_DEADBAND
  y : |joystick.yAxis| ≤ DRIVE_JOYSTICK_DEADBAND
  quickTurn : joystick.quickTurn = false

variable [IsStrictOrderedRing K] (sin : K → K) (M_PI : K) {drivetrain : DrivetrainFailover K} {joystick : DriveJoystick K}

theorem ReleasedStick.call (released : ReleasedStick joystick) : driveCall joystick = ⟨0, 0, false, true⟩ := by
  rw [driveCall, CKMath.normalize_with_deadband_eq_zero_iff _ deadband_nonneg deadband_lt_one _ |>.mpr released.x,
    CKMath.normalize_with_deadband_eq_zero_iff _ deadband_nonneg deadband_lt_one _ |>.mpr released.y, released.quickTurn, neg_zero]

theorem ReleasedStick.inside (released : ReleasedStick joystick) : |joystick.xAxis| ≤ 1 :=
  released.x.trans deadband_lt_one.le

theorem ReleasedStick.drains (released : ReleasedStick joystick) (input : DriveInput K) :
    (drivetrain.drive sin M_PI input joystick).mDriveHelper.mQuickStopAccumlator =
      DriveHelper.drained drivetrain.mDriveHelper.mQuickStopAccumlator := by
  rw [drive, released.call, DriveHelper.calculateOutput, DriveHelper.quickStopAccumulated]
  rfl

theorem ReleasedStick.target_zero (released : ReleasedStick joystick) (side : DriveSide)
    (drained : drivetrain.mDriveHelper.mQuickStopAccumlator = 0) : drivetrain.target sin M_PI joystick side = 0 := by
  have power : drivetrain.mDriveHelper.angularPower sin M_PI ⟨0, 0, false, true⟩ = 0 := by
    simp only [DriveHelper.angularPower, Bool.false_eq_true, if_false, drained, abs_zero, zero_mul, sub_zero]
  have values : DriveHelper.motorValues (DriveHelper.overPower false) (0 : K) 0 = ⟨0, 0⟩ := by
    norm_num [DriveHelper.motorValues, DriveHelper.saturated, DriveHelper.clamped]
  rw [target, released.call, DriveHelper.calculateOutput, power, values]
  cases side <;> rfl

theorem abs_drained_le (accumulator : K) (left : Nat) (bounded : |accumulator| ≤ left + 1) :
    |DriveHelper.drained accumulator| ≤ left := by
  obtain ⟨lower, upper⟩ := abs_le.mp bounded
  have nonneg : (0 : K) ≤ left := Nat.cast_nonneg left
  rw [DriveHelper.drained, abs_le]
  split_ifs with above below
  · exact ⟨by linarith, by linarith⟩
  · exact ⟨by linarith, by linarith⟩
  · exact ⟨by linarith, nonneg⟩

theorem drained_after (drain : List (DriveInput K)) (connected : ∀ input ∈ drain, input.joystick.isSome = true)
    (released : ∀ input ∈ drain, ∀ joystick ∈ input.joystick, ReleasedStick joystick)
    (bounded : |drivetrain.mDriveHelper.mQuickStopAccumlator| ≤ drain.length) :
    (runSteps (run sin M_PI) drivetrain drain).mDriveHelper.mQuickStopAccumlator = 0 := by
  induction drain generalizing drivetrain with
  | nil =>
      rw [List.length_nil, Nat.cast_zero, abs_nonpos_iff] at bounded
      exact bounded
  | cons input rest ih =>
      obtain ⟨nowConnected, connected⟩ := List.forall_mem_cons.mp connected
      obtain ⟨nowReleased, released⟩ := List.forall_mem_cons.mp released
      obtain ⟨joystick, found⟩ := Option.isSome_iff_exists.mp nowConnected
      apply ih connected released
      rw [run, found, (nowReleased joystick found).drains sin M_PI input]
      apply abs_drained_le
      rwa [List.length_cons, Nat.cast_succ] at bounded

theorem unwound_reached (inputs : List (DriveInput K))
    (bounded : ∀ input ∈ inputs, ∀ joystick ∈ input.joystick, |joystick.xAxis| ≤ 1) :
    (reached sin M_PI inputs).mDriveHelper.Unwound := by
  apply run_steps_while (run sin M_PI) (fun drivetrain => drivetrain.mDriveHelper.Unwound)
    (fun input => ∀ joystick ∈ input.joystick, |joystick.xAxis| ≤ 1) ?_ inputs construct DriveHelper.unwound_initial bounded
  intro drivetrain input kept small
  cases connected : input.joystick with
  | none => rwa [(run_disconnected sin M_PI _ .left input connected).2.2]
  | some joystick =>
      rw [run, connected]
      exact DriveHelper.unwound_call sin M_PI _ _ rfl
        (CKMath.abs_normalize_with_deadband_le _ deadband_nonneg deadband_lt_one _ (small joystick connected)) kept

structure Settling (side : DriveSide) (start : K) (drivetrain : DrivetrainFailover K) : Prop where
  drained : drivetrain.mDriveHelper.mQuickStopAccumlator = 0
  running : (drivetrain.ramper side).mPrevTime ≠ 0
  near : (drivetrain.ramper side).mPrevValue = 0 ∨
    |(drivetrain.ramper side).mPrevValue| + 2 * ((drivetrain.ramper side).mPrevTime - start) ≤ 1

variable {side : DriveSide} {start : K} {inputs : List (DriveInput K)} {input : DriveInput K}

theorem Settling.drive (settling : Settling side start drivetrain) (kept : SideKept side inputs drivetrain)
    (timely : Timely (inputs ++ [input])) (released : ReleasedStick joystick) :
    Settling side start (drivetrain.drive sin M_PI input joystick) ∧
      ((drivetrain.drive sin M_PI input joystick).ramper side).mPrevTime = input.time side ∧
      (drivetrain.drive sin M_PI input joystick).output side =
        ((drivetrain.drive sin M_PI input joystick).ramper side).mPrevValue := by
  obtain ⟨value, ramped, after, answered⟩ := drive_side sin M_PI kept timely joystick
  have move := ramped.moves settling.running
  rw [released.target_zero sin M_PI side settling.drained] at move
  refine ⟨⟨?_, ?_, ?_⟩, by rw [after], by rw [after, answered]⟩
  · rw [released.drains sin M_PI input, settling.drained]
    norm_num [DriveHelper.drained]
  · rw [after]
    exact ((timely side).2 input (List.mem_concat_self ..)).ne'
  · rw [after]
    obtain still | near := settling.near
    · exact .inl (move.stays still)
    · refine move.closer.imp_right fun closer => ?_
      rw [zero_sub, zero_sub, abs_neg, abs_neg] at closer
      linarith

theorem Settling.run (settling : Settling side start drivetrain) (kept : SideKept side inputs drivetrain)
    (timely : Timely (inputs ++ [input])) (released : ∀ joystick ∈ input.joystick, ReleasedStick joystick) :
    Settling side start (drivetrain.run sin M_PI input) := by
  cases connected : input.joystick with
  | some joystick =>
      rw [DrivetrainFailover.run, connected]
      exact (settling.drive sin M_PI kept timely (released joystick connected)).1
  | none =>
      obtain ⟨same, _, drained⟩ := run_disconnected sin M_PI drivetrain side input connected
      exact ⟨drained ▸ settling.drained, same ▸ settling.running, same ▸ settling.near⟩

theorem settling_since (rest : List (DriveInput K)) (settling : Settling side start (reached sin M_PI inputs))
    (timely : Timely (inputs ++ rest)) (released : ∀ input ∈ rest, ∀ joystick ∈ input.joystick, ReleasedStick joystick) :
    Settling side start (reached sin M_PI (inputs ++ rest)) := by
  induction rest using List.reverseRecOn with
  | nil => rwa [List.append_nil]
  | append_singleton rest last ih =>
      rw [← List.append_assoc] at timely ⊢
      rw [reached_concat]
      have earlier := ih timely.before fun input member => released input (List.mem_append_left _ member)
      exact earlier.run sin M_PI (side_kept sin M_PI side _ timely.before) timely (released last (List.mem_concat_self ..))

theorem settling_starts (side : DriveSide) (drain : List (DriveInput K)) (last : DriveInput K) (timely : Timely (inputs ++ (drain ++ [last])))
    (bounded : ∀ input ∈ inputs, ∀ joystick ∈ input.joystick, |joystick.xAxis| ≤ 1) (long : 5 ≤ (drain ++ [last]).length)
    (connected : ∀ input ∈ drain ++ [last], input.joystick.isSome = true)
    (released : ∀ input ∈ drain ++ [last], ∀ joystick ∈ input.joystick, ReleasedStick joystick) :
    Settling side (last.time side) (reached sin M_PI (inputs ++ (drain ++ [last]))) := by
  have limited : |(reached sin M_PI inputs).mDriveHelper.mQuickStopAccumlator| ≤ (drain ++ [last]).length := by
    refine (unwound_reached sin M_PI inputs bounded).quickStop.trans ?_
    exact_mod_cast long
  have drained := drained_after sin M_PI (drain ++ [last]) connected released limited
  rw [reached, ← run_steps_append, ← reached] at drained
  obtain ⟨joystick, found⟩ := Option.isSome_iff_exists.mp (connected last (List.mem_concat_self ..))
  rw [← List.append_assoc] at timely drained ⊢
  have kept := side_kept sin M_PI side _ timely.before
  obtain ⟨value, ramped, after, _⟩ := drive_side sin M_PI kept timely joystick
  have driven : reached sin M_PI (inputs ++ drain ++ [last]) =
      (reached sin M_PI (inputs ++ drain)).drive sin M_PI last joystick := by
    rw [reached_concat, DrivetrainFailover.run, found]
  rw [driven] at drained ⊢
  refine ⟨drained, ?_, .inr ?_⟩
  · rw [after]
    exact ((timely side).2 last (List.mem_concat_self ..)).ne'
  · rw [after, sub_self, mul_zero, add_zero]
    exact ramped.ramping.bounded

-- However the drivetrain was driven before: five runs drain the helper, and half a second is enough for either ramper.
theorem released_stick_stops (earlier drain rest : List (DriveInput K)) (last : DriveInput K)
    (timely : Timely (earlier ++ drain ++ rest ++ [last]))
    (bounded : ∀ input ∈ earlier, ∀ joystick ∈ input.joystick, |joystick.xAxis| ≤ 1) (long : 5 ≤ drain.length)
    (connected : ∀ input ∈ drain, input.joystick.isSome = true)
    (released : ∀ input ∈ drain ++ rest ++ [last], ∀ joystick ∈ input.joystick, ReleasedStick joystick)
    (side : DriveSide) (elapsed : ∀ input ∈ drain, input.time side + 1 / 2 ≤ last.time side) :
    (reached sin M_PI (earlier ++ drain ++ rest ++ [last])).output side = 0 := by
  have kept := side_kept sin M_PI side _ timely.before
  cases found : last.joystick with
  | none =>
      rw [reached_concat]
      exact (run_disconnected sin M_PI _ side last found).2.1
  | some joystick =>
      obtain rfl | ⟨drain, final, rfl⟩ := List.eq_nil_or_concat drain
      · nomatch long
      · rw [List.concat_eq_append] at *
        have started := settling_starts sin M_PI side drain final timely.before.before bounded long connected
          fun input member => released input (List.mem_append_left _ (List.mem_append_left _ member))
        have settling := settling_since sin M_PI rest started timely.before
          fun input member => released input (List.mem_append_left _ (List.mem_append_right _ member))
        obtain ⟨settled, now, answered⟩ := settling.drive sin M_PI kept timely
          (released last (List.mem_concat_self ..) joystick found)
        rw [reached_concat, DrivetrainFailover.run, found, answered]
        obtain still | near := settled.near
        · exact still
        · have late := elapsed final (List.mem_concat_self ..)
          rw [now] at near
          apply abs_nonpos_iff.mp
          linarith

def drainingRuns : List (DriveInput ℚ) :=
  [stickAt 3 0 0.1 false, stickAt 3.02 0 0 false, stickAt 3.04 0 0 false, stickAt 3.06 0 0 false, stickAt 3.08 0 0 false]

theorem released_stick_stops_after_spin :
    (reached (fun angle : ℚ => angle) 3
      ([stickAt 1 1 0 true, stickAt 2 1 0 true] ++ drainingRuns ++ [⟨none, 3.1, 3.1⟩] ++ [stickAt 3.58 0 0 false])).output .left = 0 := by
  refine released_stick_stops (fun angle : ℚ => angle) 3 _ drainingRuns _ _ ?_ ?_ le_rfl ?_ ?_ .left ?_
  · intro side
    cases side <;> norm_num [drainingRuns, stickAt, DriveInput.time]
  · simp [stickAt]
  · simp [drainingRuns, stickAt]
  · intro input member joystick found
    suffices released : |joystick.xAxis| ≤ 0.12 ∧ |joystick.yAxis| ≤ 0.12 ∧ joystick.quickTurn = false from
      ⟨released.1, released.2.1, released.2.2⟩
    revert input joystick
    simp [drainingRuns, stickAt]
    norm_num
  · norm_num [drainingRuns, stickAt, DriveInput.time]

end Released

end DrivetrainFailover

end RioPassthru
