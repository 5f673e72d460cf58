import RioPassthru.Failover.Subsystems
import RioPassthru.Lib.Runs

set_option autoImplicit false

namespace RioPassthru

open FailoverMessageManager

inductive Mode where
  | kDisabled
  | kAutonomous
  | kTeleop
  | kTest
deriving DecidableEq, Repr

-- One turn of LoopFunc: the mode of the control word and everything the callbacks read.
-- The scheduler thread may change the watchdog between two of the isExternalControl calls.
structure LoopInput where
  mode : Mode
  externalAtInit : Bool
  externalAtPeriodic : Bool
  externalAtRobotPeriodic : Bool
  dsAttached : Bool
  joystick : JoystickReading
  toSwerveModuleStates : ChassisSpeeds → PerWheel SwerveModuleState
  sensorsAtInit : PerWheel (Option Double)
  sensorsAtPeriodic : PerWheel (Option Double)

structure Robot where
  lastMode : Option Mode
  controlMode : Mode
  failoverActive : Bool
  initialStartupROSCompleted : Bool
  failover : Failover
deriving DecidableEq, Repr

structure LoopRun where
  robot : Robot
  published : List FailoverMessage
  reports : List String
deriving DecidableEq, Repr

namespace RobotFailover

def robotFailoverInit (math : SwerveMath) (input : LoopInput) (failover : Failover) : Failover :=
  SwerveDrivetrainFailover.init math input.sensorsAtInit
    { failover with calls := failover.calls ++ [.robotFailoverInit] }

def robotFailoverPeriodic (sizes : EntrySizes) (math : SwerveMath) (input : LoopInput) (failover : Failover) :
    Failover × List FailoverMessage :=
  let placed := publishMessages sizes failover.messages
  (SwerveDrivetrainFailover.periodic math input.sensorsAtPeriodic
    { failover with
      messages := placed.1
      calls := failover.calls ++ [.publishMessages] }, placed.2)

def teleopFailoverPeriodic (math : SwerveMath) (input : LoopInput) (failover : Failover) : Failover :=
  IntakeFailover.run
    (ArmFailover.run (SwerveDrivetrainFailover.run math input.toSwerveModuleStates input.joystick failover))

def reset (failover : Failover) : Failover :=
  IntakeFailover.uninit
    (ArmFailover.uninit (SwerveDrivetrainFailover.uninit { failover with calls := failover.calls ++ [.reset] }))

def construct (mMotorConfiguration mLEDControl : Bytes) : Failover :=
  { messages :=
      IntakeFailover.construct (ArmFailover.construct
        (SwerveDrivetrainFailover.construct ⟨[], [], mMotorConfiguration, mLEDControl, 0⟩))
    swerve := ⟨none, ⟨[], 0, 0⟩, ⟨0, 0, 0, 0⟩⟩
    calls := [] }

end RobotFailover

namespace Robot

variable (sizes : EntrySizes) (math : SwerveMath)

def modeInit (input : LoopInput) (robot : Robot) : Robot :=
  if robot.lastMode = some input.mode then robot
  else { robot with controlMode := input.mode, lastMode := some input.mode }

def modePeriodic (input : LoopInput) (robot : Robot) : Robot :=
  match input.mode with
  | .kTeleop =>
      if input.externalAtPeriodic then robot
      else { robot with failover := RobotFailover.teleopFailoverPeriodic math input robot.failover }
  | _ => robot

def reportIf (attached : Bool) (text : String) : List String := if attached then [text] else []

def robotPeriodic (input : LoopInput) (robot : Robot) : LoopRun :=
  if input.externalAtRobotPeriodic then
    if robot.failoverActive then
      ⟨{ robot with failover := RobotFailover.reset robot.failover, failoverActive := false }, [],
        reportIf input.dsAttached "[rosdiag] ROS Connection Resumed"⟩
    else if !robot.initialStartupROSCompleted && input.dsAttached then
      ⟨{ robot with initialStartupROSCompleted := true }, [], ["[rosdiag] ROS Connection Resumed"]⟩
    else ⟨robot, [], []⟩
  else
    let ready :=
      if robot.failoverActive then robot.failover
      else RobotFailover.robotFailoverInit math input robot.failover
    let periodic := RobotFailover.robotFailoverPeriodic sizes math input ready
    ⟨{ robot with failover := periodic.1, failoverActive := true }, periodic.2,
      reportIf (!robot.failoverActive && input.dsAttached) "[rosdiag] Failover Control Activated"⟩

def beforeRobotPeriodic (robot : Robot) (input : LoopInput) : Robot := modePeriodic math input (modeInit input robot)

def loopFunc (robot : Robot) (input : LoopInput) : LoopRun :=
  robotPeriodic sizes math input (beforeRobotPeriodic math robot input)

def loop (robot : Robot) (input : LoopInput) : Robot := (loopFunc sizes math robot input).robot

def start (mMotorConfiguration mLEDControl : Bytes) : Robot :=
  ⟨none, .kDisabled, false, false, RobotFailover.construct mMotorConfiguration mLEDControl⟩

end Robot

@[simp] theorem motor_ids_set_drives (messages : FailoverMessageManager) (outputs : PerWheel Double) :
    motorIds (SwerveDrivetrainFailover.setDrives messages outputs) = motorIds messages := by
  simp only [SwerveDrivetrainFailover.setDrives, motor_ids_set_output]

@[simp] theorem motor_ids_set_steering (messages : FailoverMessageManager) (outputs : PerWheel Double) :
    motorIds (SwerveDrivetrainFailover.setSteering messages outputs) = motorIds messages := by
  simp only [SwerveDrivetrainFailover.setSteering, motor_ids_set_output]

@[simp] theorem motor_ids_stop_motor (messages : FailoverMessageManager) (motor : Nat) :
    motorIds (stopMotor motor messages) = motorIds messages := by
  simp only [stopMotor, motor_ids_set_output, motor_ids_set_mode]

theorem reset_stops_drives (failover : Failover) :
    DrivesStopped (RobotFailover.reset failover).messages ∧ (RobotFailover.reset failover).swerve.mJoystick = none := by
  refine ⟨?_, delete_joystick_pointer failover.swerve⟩
  simp only [RobotFailover.reset, IntakeFailover.uninit, ArmFailover.uninit, SwerveDrivetrainFailover.uninit]
  rw [drives_stopped_stop_motor _ _ (by decide), drives_stopped_stop_motor _ _ (by decide),
    drives_stopped_stop_motor _ _ (by decide), drives_stopped_stop_motor _ _ (by decide)]
  exact drives_stopped_set_drives _

theorem reset_motor_ids (failover : Failover) :
    motorIds (RobotFailover.reset failover).messages = motorIds failover.messages := by
  simp only [RobotFailover.reset, IntakeFailover.uninit, ArmFailover.uninit, SwerveDrivetrainFailover.uninit,
    motor_ids_stop_motor, motor_ids_set_drives]

theorem teleop_motor_ids (math : SwerveMath) (input : LoopInput) (failover : Failover) :
    motorIds (RobotFailover.teleopFailoverPeriodic math input failover).messages = motorIds failover.messages := by
  simp only [RobotFailover.teleopFailoverPeriodic, IntakeFailover.run, ArmFailover.run, ArmFailover.uninit,
    SwerveDrivetrainFailover.run, motor_ids_set_solenoid, motor_ids_stop_motor]
  split <;> simp only [motor_ids_set_steering, motor_ids_set_drives]

theorem teleop_joystick (math : SwerveMath) (input : LoopInput) (failover : Failover) :
    (RobotFailover.teleopFailoverPeriodic math input failover).swerve.mJoystick = failover.swerve.mJoystick :=
  use_joystick_pointer failover.swerve

theorem stop_motor_in_arm (failover : Failover) :
    DrivesStopped (IntakeFailover.run (ArmFailover.run failover)).messages ↔ DrivesStopped failover.messages := by
  simp only [IntakeFailover.run, ArmFailover.run, ArmFailover.uninit]
  have frame : ∀ messages solenoid value,
      DrivesStopped (setSolenoidValue messages solenoid value) ↔ DrivesStopped messages := fun _ _ _ => Iff.rfl
  rw [frame, drives_stopped_stop_motor _ _ (by decide), frame, frame, frame, frame,
    drives_stopped_stop_motor _ _ (by decide), drives_stopped_stop_motor _ _ (by decide),
    drives_stopped_stop_motor _ _ (by decide)]

theorem teleop_without_joystick (math : SwerveMath) (input : LoopInput) (failover : Failover)
    (absent : failover.swerve.mJoystick = none) :
    DrivesStopped (RobotFailover.teleopFailoverPeriodic math input failover).messages := by
  rw [RobotFailover.teleopFailoverPeriodic, stop_motor_in_arm]
  simp only [SwerveDrivetrainFailover.run, absent, Option.isSome_none, Bool.false_and, Bool.false_eq_true, if_false]
  exact drives_stopped_set_drives _

theorem robot_failover_init_drives (math : SwerveMath) (input : LoopInput) (failover : Failover) :
    DrivesStopped (RobotFailover.robotFailoverInit math input failover).messages ↔ DrivesStopped failover.messages :=
  drives_stopped_set_steering _ _

theorem robot_failover_init_ids (math : SwerveMath) (input : LoopInput) (failover : Failover) :
    motorIds (RobotFailover.robotFailoverInit math input failover).messages = motorIds failover.messages := by
  simp only [RobotFailover.robotFailoverInit, SwerveDrivetrainFailover.init, motor_ids_set_steering]

def CommandsNoDrive (motors : List MotorControlMotor) : Prop :=
  ∀ motor ∈ motors, motor.id ∈ ([1, 2, 3, 4] : List Int) → motor.outputValue.isZero = true

instance (motors : List MotorControlMotor) : Decidable (CommandsNoDrive motors) :=
  inferInstanceAs (Decidable (∀ motor ∈ motors, _ → _))

theorem failover_id_at (index : Nat) (id : Int) (listed : failoverMotorIds[index]? = some id) : id = index + 1 := by
  have counted : failoverMotorIds = (List.range 14).map fun k : Nat => (k : Int) + 1 := by decide
  rw [counted, List.getElem?_map] at listed
  obtain ⟨place, found, same⟩ := Option.map_eq_some_iff.mp listed
  have here : place = index := (List.getElem?_range (List.getElem?_eq_some_iff.mp found).1).symm.trans found |> Option.some.inj |>.symm
  rw [← same, here]

theorem commands_no_drive_iff (messages : FailoverMessageManager) (ids : motorIds messages = failoverMotorIds) :
    CommandsNoDrive messages.mMotorControl ↔ DrivesStopped messages := by
  have idAt : ∀ (index : Nat) (motor : MotorControlMotor), messages.mMotorControl[index]? = some motor →
      motor.id = index + 1 := by
    intro index motor listed
    apply failover_id_at
    rw [← ids, motorIds, List.getElem?_map, listed]
    rfl
  constructor
  · intro quiet index bound output commanded
    obtain ⟨motor, listed, same⟩ := Option.map_eq_some_iff.mp commanded
    have known := idAt index motor listed
    rw [← same]
    exact quiet motor (List.mem_of_getElem? listed) (by simp; omega)
  · intro stopped motor member drive
    obtain ⟨index, listed⟩ := List.mem_iff_getElem?.mp member
    have known := idAt index motor listed
    have early : index < 4 := by
      simp only [List.mem_cons, List.not_mem_nil, or_false] at drive
      omega
    exact stopped index early motor.outputValue (by rw [outputOf, listed]; rfl)

section Loop

variable (sizes : EntrySizes) (math : SwerveMath)

def NoLeftoverSpeed (robot : Robot) (input : LoopInput) : Prop :=
  input.mode ≠ .kTeleop → ∀ motors,
    FailoverMessage.motorControl motors ∈ (Robot.loopFunc sizes math robot input).published → CommandsNoDrive motors

def LeavesTeleopStopped (robot : Robot) (input : LoopInput) : Prop :=
  robot.lastMode = some .kTeleop → input.mode ≠ .kTeleop → input.externalAtRobotPeriodic = false →
    DrivesStopped robot.failover.messages

instance (robot : Robot) (input : LoopInput) : Decidable (LeavesTeleopStopped robot input) :=
  inferInstanceAs (Decidable (_ = _ → _ ≠ _ → _ = _ → DrivesStopped _))

structure FailoverInvariant (robot : Robot) : Prop where
  ids : motorIds robot.failover.messages = failoverMotorIds
  outsideTeleop : robot.lastMode ≠ some .kTeleop → DrivesStopped robot.failover.messages
  inactive : robot.failoverActive = false →
    robot.failover.swerve.mJoystick = none ∧ DrivesStopped robot.failover.messages

theorem construct_motors (mMotorConfiguration mLEDControl : Bytes) :
    (RobotFailover.construct mMotorConfiguration mLEDControl).messages.mMotorControl =
      (([1, 2, 3, 4].map fun id : Int => ⟨id, .talonFX, .velocity, 0, 0⟩) ++
        ([5, 6, 7, 8].map fun id : Int => ⟨id, .talonFX, .position, 0, 0⟩) ++
        [⟨9, .talonFX, .percentOutput, 0, 0⟩, ⟨10, .talonFX, .follower, .finite (9 : Nat), 0⟩,
          ⟨11, .talonFX, .percentOutput, 0, 0⟩, ⟨12, .talonFX, .follower, .finite (11 : Nat), 0⟩,
          ⟨13, .talonFX, .percentOutput, 0, 0⟩, ⟨14, .talonFX, .percentOutput, 0, 0⟩]) := by
  simp only [RobotFailover.construct, IntakeFailover.construct, ArmFailover.construct, SwerveDrivetrainFailover.construct,
    SwerveDrivetrainFailover.setDriveConfig, SwerveDrivetrainFailover.setSteeringConfig, ArmFailover.setBaseControl,
    ArmFailover.setFollowerControl, ArmFailover.setBaseSolenoid, addMotorControl, addSolenoidControl, List.foldl_cons,
    List.foldl_nil, List.nil_append, List.cons_append, List.map_cons, List.map_nil]

theorem start_failover_invariant (mMotorConfiguration mLEDControl : Bytes) :
    FailoverInvariant (Robot.start mMotorConfiguration mLEDControl) := by
  have motors : (Robot.start mMotorConfiguration mLEDControl).failover.messages.mMotorControl = _ :=
    construct_motors mMotorConfiguration mLEDControl
  have stopped : DrivesStopped (Robot.start mMotorConfiguration mLEDControl).failover.messages := by
    intro motor drive output commanded
    rw [outputOf, motors] at commanded
    have initial : output = 0 := by
      interval_cases motor <;> exact (Option.some.inj commanded).symm
    rw [initial]
    exact Double.is_zero_zero
  refine ⟨?_, fun _ => stopped, fun _ => ⟨rfl, stopped⟩⟩
  rw [motorIds, motors]
  rfl

theorem mode_init_failover (robot : Robot) (input : LoopInput) :
    (Robot.modeInit input robot).failover = robot.failover ∧
      (Robot.modeInit input robot).failoverActive = robot.failoverActive ∧
      (Robot.modeInit input robot).lastMode = some input.mode := by
  rw [Robot.modeInit]
  split
  · exact ⟨rfl, rfl, by assumption⟩
  · exact ⟨rfl, rfl, rfl⟩

theorem mode_periodic_cases (robot : Robot) (input : LoopInput) :
    Robot.modePeriodic math input robot = robot ∨
      input.mode = .kTeleop ∧ Robot.modePeriodic math input robot =
        { robot with failover := RobotFailover.teleopFailoverPeriodic math input robot.failover } := by
  rw [Robot.modePeriodic]
  split
  · next teleop =>
      split
      · exact Or.inl rfl
      · exact Or.inr ⟨teleop, rfl⟩
  · exact Or.inl rfl

theorem before_periodic_cases (robot : Robot) (input : LoopInput) :
    (Robot.beforeRobotPeriodic math robot input).failoverActive = robot.failoverActive ∧
      (Robot.beforeRobotPeriodic math robot input).lastMode = some input.mode ∧
      ((Robot.beforeRobotPeriodic math robot input).failover = robot.failover ∨
        input.mode = .kTeleop ∧ (Robot.beforeRobotPeriodic math robot input).failover =
          RobotFailover.teleopFailoverPeriodic math input robot.failover) := by
  obtain ⟨same, active, last⟩ := mode_init_failover robot input
  rw [Robot.beforeRobotPeriodic]
  rcases mode_periodic_cases math (Robot.modeInit input robot) input with skipped | ⟨teleop, ran⟩
  · rw [skipped]
    exact ⟨active, last, Or.inl same⟩
  · rw [ran]
    exact ⟨active, last, Or.inr ⟨teleop, congrArg (RobotFailover.teleopFailoverPeriodic math input) same⟩⟩

theorem robot_periodic_external (robot : Robot) (input : LoopInput) (external : input.externalAtRobotPeriodic = true) :
    (Robot.robotPeriodic sizes math input robot).published = [] ∧
      (Robot.robotPeriodic sizes math input robot).robot.lastMode = robot.lastMode ∧
      (Robot.robotPeriodic sizes math input robot).robot.failoverActive = false ∧
      (Robot.robotPeriodic sizes math input robot).robot.failover =
        if robot.failoverActive then RobotFailover.reset robot.failover else robot.failover := by
  rw [Robot.robotPeriodic, if_pos external]
  cases active : robot.failoverActive
  · by_cases first : (!robot.initialStartupROSCompleted && input.dsAttached) = true <;> simp [first, active]
  · simp

theorem robot_periodic_failover (robot : Robot) (input : LoopInput) (external : input.externalAtRobotPeriodic = false) :
    ∃ ready : Failover, (DrivesStopped ready.messages ↔ DrivesStopped robot.failover.messages) ∧
      motorIds ready.messages = motorIds robot.failover.messages ∧
      (Robot.robotPeriodic sizes math input robot).published = (publishMessages sizes ready.messages).2 ∧
      (Robot.robotPeriodic sizes math input robot).robot.lastMode = robot.lastMode ∧
      (Robot.robotPeriodic sizes math input robot).robot.failoverActive = true ∧
      (Robot.robotPeriodic sizes math input robot).robot.failover.messages = (publishMessages sizes ready.messages).1 := by
  rw [Robot.robotPeriodic, external]
  cases active : robot.failoverActive
  · exact ⟨_, robot_failover_init_drives math input robot.failover, robot_failover_init_ids math input robot.failover,
      rfl, rfl, rfl, rfl⟩
  · exact ⟨robot.failover, Iff.rfl, rfl, rfl, rfl, rfl, rfl⟩

-- Fourteen entries of a few dozen bytes each stay below BUF_SIZE.
theorem failover_control_fits (messages : FailoverMessageManager) (ids : motorIds messages = failoverMotorIds)
    (small : ∀ motor, sizes.motor motor ≤ 1000) : byteSizeLong sizes.motor messages.mMotorControl ≤ bufSize := by
  have length : messages.mMotorControl.length = 14 := by
    have mapped := congrArg List.length ids
    simpa [motorIds, failoverMotorIds] using mapped
  have bound := List.sum_le_card_nsmul (messages.mMotorControl.map sizes.motor) 1000 (by simpa using fun motor _ => small motor)
  rw [List.length_map, length] at bound
  exact Nat.le_trans bound (by decide)

theorem loop_before_periodic (robot : Robot) (input : LoopInput) :
    (Robot.loopFunc sizes math robot input) =
      Robot.robotPeriodic sizes math input (Robot.beforeRobotPeriodic math robot input) := rfl

theorem no_leftover_speed_step (small : ∀ motor, sizes.motor motor ≤ 1000) (robot : Robot) (input : LoopInput)
    (kept : FailoverInvariant robot) :
    NoLeftoverSpeed sizes math robot input ↔ LeavesTeleopStopped robot input := by
  by_cases teleop : input.mode = .kTeleop
  · exact iff_of_true (fun other => absurd teleop other) (fun _ other => absurd teleop other)
  have same : (Robot.beforeRobotPeriodic math robot input).failover = robot.failover := by
    obtain ⟨_, _, kept | ⟨ran, _⟩⟩ := before_periodic_cases math robot input
    · exact kept
    · exact absurd ran teleop
  cases external : input.externalAtRobotPeriodic with
  | true =>
      obtain ⟨silent, _⟩ := robot_periodic_external sizes math (Robot.beforeRobotPeriodic math robot input) input external
      refine iff_of_true ?_ (fun _ _ failover => absurd (external.symm.trans failover) (by decide))
      intro _ motors placed
      rw [loop_before_periodic, silent] at placed
      cases placed
  | false =>
      obtain ⟨ready, drives, ids, published, _⟩ :=
        robot_periodic_failover sizes math (Robot.beforeRobotPeriodic math robot input) input external
      rw [same] at drives ids
      have known : motorIds ready.messages = failoverMotorIds := ids.trans kept.ids
      have placed : ∀ motors, .motorControl motors ∈ (Robot.loopFunc sizes math robot input).published ↔
          motors = ready.messages.mMotorControl := by
        intro motors
        rw [loop_before_periodic, published, motor_control_published]
        exact and_iff_right (failover_control_fits sizes ready.messages known small)
      have quiet := commands_no_drive_iff ready.messages known
      constructor
      · intro clean _ _ _
        exact drives.mp (quiet.mp (clean teleop _ ((placed _).mpr rfl)))
      · intro stopped _ motors member
        rw [(placed motors).mp member]
        apply quiet.mpr
        apply drives.mpr
        by_cases before : robot.lastMode = some .kTeleop
        · exact stopped before teleop external
        · exact kept.outsideTeleop before

theorem failover_invariant_step (robot : Robot) (input : LoopInput) (kept : FailoverInvariant robot)
    (stopped : LeavesTeleopStopped robot input) : FailoverInvariant (Robot.loop sizes math robot input) := by
  obtain ⟨active, last, entries⟩ := before_periodic_cases math robot input
  have ids : motorIds (Robot.beforeRobotPeriodic math robot input).failover.messages = failoverMotorIds := by
    rcases entries with same | ⟨_, ran⟩
    · rw [same, kept.ids]
    · rw [ran, teleop_motor_ids, kept.ids]
  have idle : robot.failoverActive = false →
      (Robot.beforeRobotPeriodic math robot input).failover.swerve.mJoystick = none ∧
        DrivesStopped (Robot.beforeRobotPeriodic math robot input).failover.messages := by
    intro inactive
    obtain ⟨absent, drives⟩ := kept.inactive inactive
    rcases entries with same | ⟨_, ran⟩
    · exact same ▸ ⟨absent, drives⟩
    · rw [ran]
      exact ⟨(teleop_joystick math input robot.failover).trans absent,
        teleop_without_joystick math input robot.failover absent⟩
  rw [Robot.loop, loop_before_periodic]
  cases external : input.externalAtRobotPeriodic with
  | true =>
      obtain ⟨_, lastNow, inactive, now⟩ :=
        robot_periodic_external sizes math (Robot.beforeRobotPeriodic math robot input) input external
      cases was : robot.failoverActive with
      | true =>
          rw [active, was, if_pos rfl] at now
          obtain ⟨drives, absent⟩ := reset_stops_drives (Robot.beforeRobotPeriodic math robot input).failover
          exact ⟨by rw [now, reset_motor_ids, ids], fun _ => now ▸ drives, fun _ => now ▸ ⟨absent, drives⟩⟩
      | false =>
          rw [active, was, if_neg (by decide)] at now
          exact ⟨by rw [now, ids], fun _ => now ▸ (idle was).2, fun _ => now ▸ idle was⟩
  | false =>
      obtain ⟨ready, drives, readyIds, _, lastNow, activeNow, now⟩ :=
        robot_periodic_failover sizes math (Robot.beforeRobotPeriodic math robot input) input external
      refine ⟨?_, ?_, fun inactive => absurd (activeNow.symm.trans inactive) (by decide)⟩
      · rw [now]
        exact readyIds.trans ids
      · intro outside
        rw [lastNow, last] at outside
        have other : input.mode ≠ .kTeleop := fun teleop => outside (congrArg some teleop)
        rw [now]
        apply drives.mpr
        rcases entries with same | ⟨teleop, _⟩
        · rw [same]
          by_cases before : robot.lastMode = some .kTeleop
          · exact stopped before other external
          · exact kept.outsideTeleop before
        · exact absurd teleop other

theorem no_leftover_speed_iff (small : ∀ motor, sizes.motor motor ≤ 1000) (mMotorConfiguration mLEDControl : Bytes)
    (loops : List LoopInput) :
    Runs.EachStep (Robot.loop sizes math) (NoLeftoverSpeed sizes math)
        (Robot.start mMotorConfiguration mLEDControl) loops ↔
      Runs.EachStep (Robot.loop sizes math) LeavesTeleopStopped
        (Robot.start mMotorConfiguration mLEDControl) loops :=
  Runs.each_step_iff_of_invariant (Robot.loop sizes math) FailoverInvariant _ _
    (no_leftover_speed_step sizes math small) (failover_invariant_step sizes math) loops _
    (start_failover_invariant mMotorConfiguration mLEDControl)

end Loop

def motorEntryBytes (motor : MotorControlMotor) : Nat :=
  2 + (if motor.id = 0 then 0 else 2) + (if motor.controllerType = .talonFX then 0 else 2) +
    (if motor.controlMode = .percentOutput then 0 else 2) + (if motor.outputValue = 0 then 0 else 9) +
    (if motor.arbitraryFeedforward = 0 then 0 else 9)

def entryBytes : EntrySizes := ⟨motorEntryBytes, fun _ => 10⟩

-- WPILib turns no wheel round here, and an inch is 0.0254 m.
def exactSwerve : SwerveMath where
  round := .finite
  optimize state _ := state
  inchesToMeters inches := Double.mul .finite inches (.finite (127 / 5000))

-- The kinematics for a robot that goes straight ahead.
def straightAhead (speeds : ChassisSpeeds) : PerWheel SwerveModuleState :=
  ⟨⟨speeds.vx, 0⟩, ⟨speeds.vx, 0⟩, ⟨speeds.vx, 0⟩, ⟨speeds.vx, 0⟩⟩

def failoverLoop (mode : Mode) (yAxis : Double) : LoopInput :=
  { mode := mode
    externalAtInit := false
    externalAtPeriodic := false
    externalAtRobotPeriodic := false
    dsAttached := true
    joystick := ⟨true, 0, yAxis, 0⟩
    toSwerveModuleStates := straightAhead
    sensorsAtInit := ⟨none, none, none, none⟩
    sensorsAtPeriodic := ⟨none, none, none, none⟩ }

theorem motor_entry_small (motor : MotorControlMotor) : entryBytes.motor motor ≤ 1000 := by
  simp only [entryBytes, motorEntryBytes]
  split_ifs <;> decide

theorem no_leftover_speed_without_stick :
    Runs.EachStep (Robot.loop entryBytes exactSwerve) (NoLeftoverSpeed entryBytes exactSwerve)
      (Robot.start [] [])
      [failoverLoop .kTeleop (.finite (-1)), failoverLoop .kTeleop 0, failoverLoop .kDisabled 0] :=
  (no_leftover_speed_iff entryBytes exactSwerve motor_entry_small [] [] _).mpr (by decide +kernel)

-- Full forward in Teleop, then the mode changes to Disabled while failover is active:
-- the last Teleop speed is published.
theorem leftover_speed_after_teleop :
    ¬ ∀ (sizes : EntrySizes) (math : SwerveMath), (∀ motor, sizes.motor motor ≤ 1000) →
      ∀ (mMotorConfiguration mLEDControl : Bytes) (loops : List LoopInput),
        Runs.EachStep (Robot.loop sizes math) (NoLeftoverSpeed sizes math)
          (Robot.start mMotorConfiguration mLEDControl) loops := by
  intro always
  have clean := always entryBytes exactSwerve motor_entry_small [] []
    [failoverLoop .kDisabled 0, failoverLoop .kTeleop (.finite (-1)), failoverLoop .kDisabled 0]
  have disabled := clean.2.2.1 (by decide) _ ((motor_control_published _ _ _).mpr ⟨by decide +kernel, rfl⟩)
  revert disabled
  decide +kernel

end RioPassthru
