import RioPassthru.Failover.Robot
import RioPassthru.Lib.Angle

set_option autoImplicit false

namespace RioPassthru

open FailoverMessageManager

inductive Wheel where
  | frontLeft
  | frontRight
  | backLeft
  | backRight
deriving DecidableEq, Repr

def perWheel {α : Type} (value : Wheel → α) : PerWheel α :=
  ⟨value .frontLeft, value .frontRight, value .backLeft, value .backRight⟩

def PerWheel.get {α : Type} (values : PerWheel α) : Wheel → α
  | .frontLeft => values.frontLeft
  | .frontRight => values.frontRight
  | .backLeft => values.backLeft
  | .backRight => values.backRight

def steeringMotor : Wheel → Nat
  | .frontLeft => frontLeftSteering
  | .frontRight => frontRightSteering
  | .backLeft => backLeftSteering
  | .backRight => backRightSteering

-- WPILib in exact arithmetic. Of the desired angle plus 180 degrees only the direction is known, and at
-- exactly a quarter turn Optimize may keep the desired angle or not.
structure ExactSwerve where
  inchesToMeters : Double → Double
  keeps : ℚ → ℚ → Bool
  turned : ℚ → ℚ
  chooses : Angle.Chooses 180 keeps
  opposite : ∀ angle, ∃ turns : ℤ, turned angle = angle + 180 + 2 * 180 * turns

namespace ExactSwerve

variable (swerve : ExactSwerve)

def optimize (state : SwerveModuleState) (currentAngle : Double) : SwerveModuleState :=
  match state.angle, currentAngle with
  | .finite desired, .finite current =>
      if swerve.keeps desired current then state else ⟨state.speed.neg, .finite (swerve.turned desired)⟩
  | _, _ => state

def math : SwerveMath where
  round := .finite
  optimize := swerve.optimize
  inchesToMeters := swerve.inchesToMeters

def degrees (position : ℚ) : ℚ := position / 4096 * 360

def nativeUnits (angle : ℚ) : ℚ := angle / 360 * 1 * 4096

end ExactSwerve

open ExactSwerve (degrees nativeUnits)

-- What m_kinematics answers in one run: for the speeds it is asked for, a speed and an angle in degrees of each wheel.
abbrev Kinematics := ChassisSpeeds → Wheel → Double × ℚ

def Kinematics.states (kinematics : Kinematics) (speeds : ChassisSpeeds) : PerWheel SwerveModuleState :=
  perWheel fun wheel => ⟨(kinematics speeds wheel).1, .finite (kinematics speeds wheel).2⟩

inductive SwerveCall where
  | init (sensors : Wheel → Option ℚ)
  | periodic (sensors : Wheel → Option ℚ)
  | uninit
  | run (kinematics : Kinematics) (joystick : JoystickReading)

-- lastRead is ghost data: the position each call of init or periodic has taken for a
-- module, which is 0 in init where its motor is not registered.
structure Steered where
  failover : Failover
  lastRead : Wheel → ℚ

namespace Steered

def start (mMotorConfiguration mLEDControl : Bytes) : Steered :=
  ⟨RobotFailover.construct mMotorConfiguration mLEDControl, fun _ => 0⟩

def readings (sensors : Wheel → Option ℚ) : PerWheel (Option Double) := perWheel fun wheel => (sensors wheel).map Double.finite

variable (swerve : ExactSwerve) (steered : Steered)

def step : SwerveCall → Steered
  | .init sensors =>
      ⟨SwerveDrivetrainFailover.init swerve.math (readings sensors) steered.failover, fun wheel => (sensors wheel).getD 0⟩
  | .periodic sensors =>
      ⟨SwerveDrivetrainFailover.periodic swerve.math (readings sensors) steered.failover,
        fun wheel => (sensors wheel).getD (steered.lastRead wheel)⟩
  | .uninit => { steered with failover := SwerveDrivetrainFailover.uninit steered.failover }
  | .run kinematics joystick =>
      { steered with failover := SwerveDrivetrainFailover.run swerve.math kinematics.states joystick steered.failover }

def steers : SwerveCall → Prop
  | .run _ joystick => steered.failover.swerve.mJoystick.isSome = true ∧ joystick.isConnected = true
  | _ => False

def TakesShortWay (call : SwerveCall) : Prop :=
  steered.steers call → ∀ wheel, ∃ setpoint,
    outputOf (step swerve steered call).failover.messages (steeringMotor wheel) = some (.finite setpoint) ∧
      |setpoint - steered.lastRead wheel| ≤ 1024

def NearInTurn (asked current : ℚ) : Prop :=
  |asked - current| < 90 ∨ |swerve.turned asked - current| < 90 ∨
    swerve.keeps asked current = true ∧ |asked - current| = 90 ∨
    swerve.keeps asked current = false ∧ |swerve.turned asked - current| = 90

def InSameTurn (call : SwerveCall) : Prop :=
  ∀ kinematics joystick, call = .run kinematics joystick → steered.steers call → ∀ wheel,
    NearInTurn swerve (kinematics (SwerveDrivetrainFailover.robotSpeeds swerve.math joystick) wheel).2
      (degrees (steered.lastRead wheel))

structure Invariant : Prop where
  motors : motorIds steered.failover.messages = failoverMotorIds
  angles : ∀ wheel, steered.failover.swerve.mSteeringAngles.get wheel = .finite (degrees (steered.lastRead wheel))

end Steered

theorem sensor_position_exact (swerve : ExactSwerve) (position : ℚ) :
    SwerveDrivetrainFailover.sensorPositionToDegrees swerve.math (.finite position) = .finite (degrees position) := by
  have quotient : Double.div .finite (.finite position) 4096 = .finite (position / 4096) := Double.div_exact _ _ (by norm_num)
  have product : Double.mul .finite (.finite (position / 4096)) 360 = .finite (position / 4096 * 360) :=
    Double.mul_exact _ _ (by norm_num)
  exact (congrArg (fun quotient => Double.mul .finite quotient 360) quotient).trans product

theorem steering_angle_exact (swerve : ExactSwerve) (angle : ℚ) :
    SwerveDrivetrainFailover.degreesToNativeUnitsSteeringAngle swerve.math (.finite angle) = .finite (nativeUnits angle) := by
  have quotient : Double.div .finite (.finite angle) 360 = .finite (angle / 360) := Double.div_exact _ _ (by norm_num)
  have geared : Double.mul .finite (.finite (angle / 360)) SwerveDrivetrainFailover.steeringGearRatio = .finite (angle / 360 * 1) :=
    Double.mul_exact _ _ (by norm_num)
  have product : Double.mul .finite (.finite (angle / 360 * 1)) 4096 = .finite (nativeUnits angle) :=
    Double.mul_exact _ _ (by norm_num)
  have chained := congrArg (fun turns => Double.mul .finite (Double.mul .finite turns SwerveDrivetrainFailover.steeringGearRatio) 4096) quotient
  exact chained.trans ((congrArg (fun turns => Double.mul .finite turns 4096) geared).trans product)

theorem optimize_angle (swerve : ExactSwerve) (speed : Double) (desired current : ℚ) :
    (swerve.optimize ⟨speed, .finite desired⟩ (.finite current)).angle =
      .finite (Angle.optimized swerve.keeps swerve.turned desired current) := by
  have unfolded : swerve.optimize ⟨speed, .finite desired⟩ (.finite current) =
      if swerve.keeps desired current then ⟨speed, .finite desired⟩ else ⟨speed.neg, .finite (swerve.turned desired)⟩ := rfl
  rw [unfolded, Angle.optimized]
  split <;> rfl

-- A revolution is 4096 units, a quarter of it 90 degrees.
theorem quarter_revolution_iff (angle position : ℚ) :
    |nativeUnits angle - position| ≤ 1024 ↔ |angle - degrees position| ≤ 90 := by
  have scaled : nativeUnits angle - position = 4096 / 360 * (angle - degrees position) := by
    rw [nativeUnits, degrees]
    ring
  have quarter : (1024 : ℚ) = 4096 / 360 * 90 := by norm_num
  have positive : (0 : ℚ) < 4096 / 360 := by norm_num
  rw [scaled, abs_mul, abs_of_pos positive, quarter, mul_le_mul_iff_right₀ positive]

theorem output_of_set_steering (messages : FailoverMessageManager) (outputs : PerWheel Double) (wheel : Wheel) :
    outputOf (SwerveDrivetrainFailover.setSteering messages outputs) (steeringMotor wheel) =
      (outputOf messages (steeringMotor wheel)).map fun _ => outputs.get wheel := by
  cases wheel <;>
    simp [SwerveDrivetrainFailover.setSteering, output_of_set_output, steeringMotor, PerWheel.get, frontLeftSteering,
      frontRightSteering, backLeftSteering, backRightSteering]

theorem steering_listed (messages : FailoverMessageManager) (ids : motorIds messages = failoverMotorIds) (wheel : Wheel) :
    ∃ output, outputOf messages (steeringMotor wheel) = some output := by
  have counted : messages.mMotorControl.length = 14 := by
    rw [← List.length_map, ← motorIds, ids]
    rfl
  have present : steeringMotor wheel < messages.mMotorControl.length := by
    rw [counted]
    cases wheel <;> decide
  rw [outputOf, List.getElem?_eq_getElem present]
  exact ⟨_, rfl⟩

theorem run_steering (swerve : ExactSwerve) (kinematics : Kinematics) (joystick : JoystickReading) (failover : Failover)
    (wheel : Wheel) (current : ℚ) (ids : motorIds failover.messages = failoverMotorIds)
    (angle : failover.swerve.mSteeringAngles.get wheel = .finite current)
    (set : failover.swerve.mJoystick.isSome = true) (connected : joystick.isConnected = true) :
    outputOf (SwerveDrivetrainFailover.run swerve.math kinematics.states joystick failover).messages (steeringMotor wheel) =
      some (.finite (nativeUnits (Angle.optimized swerve.keeps swerve.turned
        (kinematics (SwerveDrivetrainFailover.robotSpeeds swerve.math joystick) wheel).2 current))) := by
  obtain ⟨before, listed⟩ := steering_listed (SwerveDrivetrainFailover.setDrives failover.messages ⟨_, _, _, _⟩)
    ((motor_ids_set_drives _ _).trans ids) wheel
  rw [SwerveDrivetrainFailover.run, set, connected, Bool.and_self, if_pos rfl, output_of_set_steering, listed, Option.map_some,
    ← steering_angle_exact swerve]
  have chosen := fun speed => optimize_angle swerve speed
    (kinematics (SwerveDrivetrainFailover.robotSpeeds swerve.math joystick) wheel).2 current
  rw [← angle] at chosen
  cases wheel <;> exact congrArg (some ∘ SwerveDrivetrainFailover.degreesToNativeUnitsSteeringAngle swerve.math) (chosen _)

theorem swerve_angles_kept (swerve : SwerveDrivetrainFailover) :
    (SwerveDrivetrainFailover.useJoystick swerve).mSteeringAngles = swerve.mSteeringAngles ∧
      (SwerveDrivetrainFailover.deleteJoystick swerve).mSteeringAngles = swerve.mSteeringAngles := by
  rw [SwerveDrivetrainFailover.useJoystick, SwerveDrivetrainFailover.deleteJoystick]
  split <;> exact ⟨rfl, rfl⟩

namespace Steered

theorem start_invariant (mMotorConfiguration mLEDControl : Bytes) : (start mMotorConfiguration mLEDControl).Invariant := by
  refine ⟨?_, fun wheel => ?_⟩
  · rw [start, motorIds, construct_motors]
    rfl
  · have zero : degrees 0 = 0 := by norm_num [degrees]
    rw [start, zero]
    cases wheel <;> rfl

variable (swerve : ExactSwerve)

theorem invariant_step (steered : Steered) (call : SwerveCall) (kept : steered.Invariant) : (step swerve steered call).Invariant := by
  obtain ⟨motors, angles⟩ := kept
  cases call with
  | init sensors =>
      refine ⟨(motor_ids_set_steering _ _).trans motors, fun wheel => ?_⟩
      have read : ∀ sensor : Option ℚ,
          SwerveDrivetrainFailover.sensorPositionToDegrees swerve.math ((sensor.map Double.finite).getD 0) =
            .finite (degrees (sensor.getD 0)) := by
        intro sensor
        cases sensor <;> exact sensor_position_exact swerve _
      cases wheel <;> exact read _
  | periodic sensors =>
      refine ⟨motors, fun wheel => ?_⟩
      have read : ∀ (sensor : Option ℚ) (before : Double) (last : ℚ), before = .finite (degrees last) →
          ((sensor.map Double.finite).map (SwerveDrivetrainFailover.sensorPositionToDegrees swerve.math)).getD before =
            .finite (degrees (sensor.getD last)) := by
        intro sensor before last same
        cases sensor with
        | none => exact same
        | some position => exact sensor_position_exact swerve position
      have last := angles wheel
      cases wheel <;> exact read _ _ _ last
  | uninit =>
      refine ⟨(motor_ids_set_drives _ _).trans motors, fun wheel => ?_⟩
      rw [step, SwerveDrivetrainFailover.uninit, (swerve_angles_kept _).2]
      exact angles wheel
  | run kinematics joystick =>
      refine ⟨?_, fun wheel => ?_⟩
      · simp only [step, SwerveDrivetrainFailover.run]
        split
        · rw [motor_ids_set_steering, motor_ids_set_drives, motors]
        · rw [motor_ids_set_drives, motors]
      · rw [step, SwerveDrivetrainFailover.run, (swerve_angles_kept _).1]
        exact angles wheel

theorem takes_short_way_iff (steered : Steered) (call : SwerveCall) (kept : steered.Invariant) :
    steered.TakesShortWay swerve call ↔ steered.InSameTurn swerve call := by
  cases call with
  | run kinematics joystick =>
      have short : ∀ wheel, steered.steers (.run kinematics joystick) → ((∃ setpoint,
          outputOf (step swerve steered (.run kinematics joystick)).failover.messages (steeringMotor wheel) = some (.finite setpoint) ∧
            |setpoint - steered.lastRead wheel| ≤ 1024) ↔
          NearInTurn swerve (kinematics (SwerveDrivetrainFailover.robotSpeeds swerve.math joystick) wheel).2
            (degrees (steered.lastRead wheel))) := by
        intro wheel steering
        have written := run_steering swerve kinematics joystick steered.failover wheel _ kept.motors (kept.angles wheel)
          steering.1 steering.2
        have iff := Angle.optimized_short_iff 180 (by norm_num) swerve.keeps swerve.chooses swerve.turned swerve.opposite
          (kinematics (SwerveDrivetrainFailover.robotSpeeds swerve.math joystick) wheel).2 (degrees (steered.lastRead wheel))
        have quarter : (180 : ℚ) / 2 = 90 := by norm_num
        rw [quarter] at iff
        simp only [step, written, Option.some.injEq, Double.finite.injEq, exists_eq_left', quarter_revolution_iff, iff, NearInTurn]
      refine ⟨?_, ?_⟩
      · intro shortWay other reading same steering wheel
        obtain ⟨rfl, rfl⟩ := SwerveCall.run.inj same
        exact (short wheel steering).mp (shortWay steering wheel)
      · intro sameTurn steering wheel
        exact (short wheel steering).mpr (sameTurn kinematics joystick rfl steering wheel)
  | init sensors => exact iff_of_true (fun steering => steering.elim) (fun _ _ same => nomatch same)
  | periodic sensors => exact iff_of_true (fun steering => steering.elim) (fun _ _ same => nomatch same)
  | uninit => exact iff_of_true (fun steering => steering.elim) (fun _ _ same => nomatch same)

end Steered

def straightSwerve : ExactSwerve where
  inchesToMeters inches := Double.mul .finite inches (.finite (127 / 5000))
  keeps desired current := decide (|Angle.wrapped 180 (desired - current)| ≤ 90)
  turned angle := angle + 180
  chooses :=
    ⟨fun _ _ near => decide_eq_true (near.le.trans (by norm_num)),
      fun _ _ far => decide_eq_false (not_le.mpr (lt_of_eq_of_lt (by norm_num) far))⟩
  opposite _ := ⟨0, by norm_num⟩

def straightKinematics : Kinematics := fun speeds _ => (speeds.vx, 0)

def straightCalls : List SwerveCall := [.init fun _ => some 40960, .run straightKinematics ⟨true, 0, .finite (-1), 0⟩]

end RioPassthru
