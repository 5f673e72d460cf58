import RioPassthru.Failover.Robot
import RioPassthru.Motor.Followers

set_option autoImplicit false

namespace RioPassthru

open FailoverMessageManager

def failoverMotors (drives steering : PerWheel Double) : List MotorControlMotor :=
  [⟨1, .talonFX, .velocity, drives.frontLeft, 0⟩, ⟨2, .talonFX, .velocity, drives.frontRight, 0⟩,
    ⟨3, .talonFX, .velocity, drives.backLeft, 0⟩, ⟨4, .talonFX, .velocity, drives.backRight, 0⟩,
    ⟨5, .talonFX, .position, steering.frontLeft, 0⟩, ⟨6, .talonFX, .position, steering.frontRight, 0⟩,
    ⟨7, .talonFX, .position, steering.backLeft, 0⟩, ⟨8, .talonFX, .position, steering.backRight, 0⟩,
    ⟨9, .talonFX, .percentOutput, 0, 0⟩, ⟨10, .talonFX, .follower, .finite (9 : Nat), 0⟩,
    ⟨11, .talonFX, .percentOutput, 0, 0⟩, ⟨12, .talonFX, .follower, .finite (11 : Nat), 0⟩,
    ⟨13, .talonFX, .percentOutput, 0, 0⟩, ⟨14, .talonFX, .percentOutput, 0, 0⟩]

def failoverSolenoids : List SolenoidControlSolenoid :=
  [⟨7, .off⟩, ⟨6, .off⟩, ⟨65536, .off⟩, ⟨65538, .off⟩, ⟨65537, .off⟩]

structure FailoverContents (mMotorConfiguration mLEDControl : Bytes) (messages : FailoverMessageManager) : Prop where
  motors : ∃ drives steering, messages.mMotorControl = failoverMotors drives steering
  solenoids : messages.mSolenoidControl = failoverSolenoids
  motorConfiguration : messages.mMotorConfiguration = mMotorConfiguration
  ledControl : messages.mLEDControl = mLEDControl

def FailoverMessage.Expected (mMotorConfiguration mLEDControl : Bytes) : FailoverMessage → Prop
  | .motorControl motors => ∃ drives steering, motors = failoverMotors drives steering
  | .solenoidControl solenoids => solenoids = failoverSolenoids
  | .motorConfig bytes => bytes = mMotorConfiguration
  | .ledControl bytes => bytes = mLEDControl

section Contents

variable {mMotorConfiguration mLEDControl : Bytes} {messages : FailoverMessageManager}

theorem set_drives_contents (kept : FailoverContents mMotorConfiguration mLEDControl messages) (outputs : PerWheel Double) :
    FailoverContents mMotorConfiguration mLEDControl (SwerveDrivetrainFailover.setDrives messages outputs) := by
  obtain ⟨⟨drives, steering, motors⟩, solenoids, configuration, leds⟩ := kept
  refine ⟨⟨outputs, steering, ?_⟩, solenoids, configuration, leds⟩
  simp only [SwerveDrivetrainFailover.setDrives, setOutputValue, motors]
  rfl

theorem set_steering_contents (kept : FailoverContents mMotorConfiguration mLEDControl messages) (outputs : PerWheel Double) :
    FailoverContents mMotorConfiguration mLEDControl (SwerveDrivetrainFailover.setSteering messages outputs) := by
  obtain ⟨⟨drives, steering, motors⟩, solenoids, configuration, leds⟩ := kept
  refine ⟨⟨drives, outputs, ?_⟩, solenoids, configuration, leds⟩
  simp only [SwerveDrivetrainFailover.setSteering, setOutputValue, motors]
  rfl

theorem stop_motor_contents (kept : FailoverContents mMotorConfiguration mLEDControl messages) (motor : Nat)
    (stopped : motor ∈ [lowerArmMaster, upperArmMaster, wrist, intake]) :
    FailoverContents mMotorConfiguration mLEDControl (stopMotor motor messages) := by
  obtain ⟨⟨drives, steering, motors⟩, solenoids, configuration, leds⟩ := kept
  refine ⟨⟨drives, steering, ?_⟩, solenoids, configuration, leds⟩
  simp only [stopMotor, setOutputValue, setControlMode, motors]
  simp only [List.mem_cons, List.not_mem_nil, or_false] at stopped
  obtain rfl | rfl | rfl | rfl := stopped <;> rfl

theorem set_solenoid_contents (kept : FailoverContents mMotorConfiguration mLEDControl messages) (solenoid : Nat) :
    FailoverContents mMotorConfiguration mLEDControl (setSolenoidValue messages solenoid .off) := by
  obtain ⟨motors, solenoids, configuration, leds⟩ := kept
  refine ⟨motors, ?_, configuration, leds⟩
  rw [setSolenoidValue, solenoids]
  have off : ∀ s ∈ failoverSolenoids, { s with outputValue := .off } = s := by decide
  apply List.ext_getElem?
  intro index
  rw [List.getElem?_modify]
  cases listed : failoverSolenoids[index]? with
  | none => rfl
  | some s =>
      refine congrArg some ?_
      dsimp only
      split
      · exact off s (List.mem_of_getElem? listed)
      · rfl

theorem arm_uninit_contents (failover : Failover)
    (kept : FailoverContents mMotorConfiguration mLEDControl failover.messages) :
    FailoverContents mMotorConfiguration mLEDControl (ArmFailover.uninit failover).messages := by
  apply stop_motor_contents _ _ (by decide)
  apply stop_motor_contents _ _ (by decide)
  exact stop_motor_contents kept _ (by decide)

theorem reset_contents (failover : Failover) (kept : FailoverContents mMotorConfiguration mLEDControl failover.messages) :
    FailoverContents mMotorConfiguration mLEDControl (RobotFailover.reset failover).messages := by
  apply stop_motor_contents _ _ (by decide)
  apply arm_uninit_contents
  exact set_drives_contents kept _

theorem teleop_contents (math : SwerveMath) (input : LoopInput) (failover : Failover)
    (kept : FailoverContents mMotorConfiguration mLEDControl failover.messages) :
    FailoverContents mMotorConfiguration mLEDControl (RobotFailover.teleopFailoverPeriodic math input failover).messages := by
  have driven : FailoverContents mMotorConfiguration mLEDControl
      (SwerveDrivetrainFailover.run math input.toSwerveModuleStates input.joystick failover).messages := by
    dsimp only [SwerveDrivetrainFailover.run]
    split
    · exact set_steering_contents (set_drives_contents kept _) _
    · exact set_drives_contents kept _
  apply set_solenoid_contents
  apply stop_motor_contents _ _ (by decide)
  apply set_solenoid_contents
  apply set_solenoid_contents
  apply set_solenoid_contents
  apply set_solenoid_contents
  exact arm_uninit_contents _ driven

theorem publish_contents (sizes : EntrySizes) (kept : FailoverContents mMotorConfiguration mLEDControl messages) :
    FailoverContents mMotorConfiguration mLEDControl (publishMessages sizes messages).1 ∧
      ∀ message ∈ (publishMessages sizes messages).2, message.Expected mMotorConfiguration mLEDControl := by
  obtain ⟨motors, solenoids, configuration, leds⟩ := kept
  refine ⟨⟨motors, solenoids, configuration, leds⟩, ?_⟩
  have placed : ∀ size (next : FailoverMessage), next.Expected mMotorConfiguration mLEDControl →
      ∀ message ∈ placeIfFits size next, message.Expected mMotorConfiguration mLEDControl := by
    intro size next expected message member
    rw [placeIfFits] at member
    split at member
    · rwa [List.mem_singleton.mp member]
    · cases member
  intro message member
  obtain control | config := List.mem_append.mp member
  · obtain motor | solenoid := List.mem_append.mp control
    · exact placed _ (.motorControl messages.mMotorControl) motors message motor
    · exact placed _ (.solenoidControl messages.mSolenoidControl) solenoids message solenoid
  · split at config
    · obtain motor | led := List.mem_append.mp config
      · exact placed _ (.motorConfig messages.mMotorConfiguration) configuration message motor
      · exact placed _ (.ledControl messages.mLEDControl) leds message led
    · cases config

end Contents

section Loop

variable (sizes : EntrySizes) (math : SwerveMath) (mMotorConfiguration mLEDControl : Bytes)

theorem start_contents :
    FailoverContents mMotorConfiguration mLEDControl (Robot.start mMotorConfiguration mLEDControl).failover.messages :=
  ⟨⟨⟨0, 0, 0, 0⟩, ⟨0, 0, 0, 0⟩, construct_motors mMotorConfiguration mLEDControl⟩, rfl, rfl, rfl⟩

variable {mMotorConfiguration mLEDControl}

theorem mode_periodic_contents (robot : Robot) (input : LoopInput)
    (kept : FailoverContents mMotorConfiguration mLEDControl robot.failover.messages) :
    FailoverContents mMotorConfiguration mLEDControl (Robot.modePeriodic math input robot).failover.messages := by
  obtain skipped | ⟨_, ran⟩ := mode_periodic_cases math robot input
  · rwa [skipped]
  · rw [ran]
    exact teleop_contents math input robot.failover kept

theorem robot_periodic_contents (robot : Robot) (input : LoopInput)
    (kept : FailoverContents mMotorConfiguration mLEDControl robot.failover.messages) :
    FailoverContents mMotorConfiguration mLEDControl (Robot.robotPeriodic sizes math input robot).robot.failover.messages ∧
      ∀ message ∈ (Robot.robotPeriodic sizes math input robot).published,
        message.Expected mMotorConfiguration mLEDControl := by
  rw [Robot.robotPeriodic]
  cases input.externalAtRobotPeriodic with
  | true =>
      rw [if_pos rfl]
      split
      · exact ⟨reset_contents _ kept, List.forall_mem_nil _⟩
      · split
        · exact ⟨kept, List.forall_mem_nil _⟩
        · exact ⟨kept, List.forall_mem_nil _⟩
  | false =>
      have ready : FailoverContents mMotorConfiguration mLEDControl
          (if robot.failoverActive then robot.failover
          else RobotFailover.robotFailoverInit math input robot.failover).messages := by
        split
        · exact kept
        · exact set_steering_contents kept _
      exact publish_contents sizes ready

theorem loop_contents (robot : Robot) (input : LoopInput)
    (kept : FailoverContents mMotorConfiguration mLEDControl robot.failover.messages) :
    FailoverContents mMotorConfiguration mLEDControl (Robot.loop sizes math robot input).failover.messages ∧
      ∀ message ∈ (Robot.loopFunc sizes math robot input).published, message.Expected mMotorConfiguration mLEDControl := by
  apply robot_periodic_contents
  apply mode_periodic_contents
  rwa [(mode_init_failover robot input).1]

-- Whatever the driver does, failover leaves the arm, the wrist and the intake without output and
-- every solenoid off.
theorem failover_publishes_expected (mMotorConfiguration mLEDControl : Bytes) (loops : List LoopInput) :
    Runs.EachStep (Robot.loop sizes math)
      (fun robot input => ∀ message ∈ (Robot.loopFunc sizes math robot input).published,
        message.Expected mMotorConfiguration mLEDControl)
      (Robot.start mMotorConfiguration mLEDControl) loops :=
  Runs.each_step_of_kept (Robot.loop sizes math)
    (fun robot => FailoverContents mMotorConfiguration mLEDControl robot.failover.messages) _
    (fun robot input kept => (loop_contents sizes math robot input kept).1)
    (fun robot input kept => (loop_contents sizes math robot input kept).2)
    loops _ (start_contents mMotorConfiguration mLEDControl)

end Loop

namespace ApplyMotorValuesTask

variable (toId : Double → Nat)

theorem entries_command (first rest : List MotorControlMotor) (m : MotorControlMotor) (stores : MotorStores)
    (last : ∀ other ∈ rest, uint16 other.id ≠ uint16 m.id) (configured : uint16 m.id ∈ stores.configs.mMotorMsgs)
    (small : uint16 m.id < 64) (valid : m.controllerType = .talonFX ∨ m.controllerType = .talonSRX)
    (mode : m.controlMode ≠ .follower) (finite : m.outputValue.isInf = false ∧ m.outputValue.isNaN = false) :
    ∃ mCtrl, ((first ++ m :: rest).foldl (applyMotor toId) stores).motors.mRegisteredMotorList[uint16 m.id]? = some mCtrl ∧
      mCtrl.lastCommand = some (.set m.controlMode m.outputValue m.arbitraryFeedforward) := by
  have taken : accepted toId (first.foldl (applyMotor toId) stores) m := by
    rw [accepted, entries_configs]
    exact ⟨configured, fun follows => absurd follows mode⟩
  obtain ⟨mCtrl, registered, applied, _⟩ := apply_motor_own toId _ m taken small valid
  refine ⟨mCtrl.received (commandOf toId registered m mCtrl), ?_, ?_⟩
  · rw [List.foldl_append, List.foldl_cons, entries_other toId rest _ _ last, applied]
  · rw [commandOf, if_pos mode, if_pos finite]
    exact received_some mCtrl _

theorem entries_follow (first rest : List MotorControlMotor) (m : MotorControlMotor) (stores : MotorStores)
    (numbered : stores.motors.Numbered) (last : ∀ other ∈ rest, uint16 other.id ≠ uint16 m.id)
    (configured : uint16 m.id ∈ stores.configs.mMotorMsgs) (small : uint16 m.id < 64)
    (valid : m.controllerType = .talonFX ∨ m.controllerType = .talonSRX) (mode : m.controlMode = .follower)
    (master : toId m.outputValue ∈ (first.foldl (applyMotor toId) stores).motors.mRegisteredMotorList) :
    ∃ mCtrl, ((first ++ m :: rest).foldl (applyMotor toId) stores).motors.mRegisteredMotorList[uint16 m.id]? = some mCtrl ∧
      mCtrl.getControlMode = .follower := by
  have taken : accepted toId (first.foldl (applyMotor toId) stores) m := by
    rw [accepted, entries_configs]
    exact ⟨configured, fun _ => master⟩
  obtain ⟨mCtrl, applied, _⟩ := follower_entry toId _ (entries_numbered toId first stores numbered) m taken small valid mode
  rw [List.foldl_append, List.foldl_cons, entries_other toId rest _ _ last, applied]
  by_cases following : mCtrl.getControlMode = .follower
  · rw [if_neg (not_not.mpr following)]
    exact ⟨mCtrl, rfl, following⟩
  · rw [if_pos following]
    exact ⟨mCtrl.received (some (.follow (toId m.outputValue))), rfl, follower_mode _ _ (received_some mCtrl _)⟩

theorem run_get (stores : MotorStores) (input : ValuesInput) (message : List MotorControlMotor)
    (processes : Processes input message) (id : Nat) (mCtrl : BaseTalon)
    (applied : (message.foldl (applyMotor toId) stores).motors.mRegisteredMotorList[id]? = some mCtrl) :
    (run toId stores input).motors.mRegisteredMotorList[id]? =
      some (if input.disabled then mCtrl.received (stopOf mCtrl) else mCtrl) := by
  have whole : applyMessage toId stores input = message.foldl (applyMotor toId) stores := by
    rw [applyMessage, processes.1]
    exact if_pos processes.2
  rw [run_motors, whole]
  split
  · rw [stop_masters_get, applied, Option.map_some]
  · exact applied

end ApplyMotorValuesTask

def heldMotors : List Nat := [9, 11, 13, 14]

def armFollowers : List Nat := [10, 12]

structure ArmHeld (motors : MotorManager) : Prop where
  still : ∀ id ∈ heldMotors, ∃ mCtrl, motors.mRegisteredMotorList[id]? = some mCtrl ∧
    mCtrl.lastCommand = some (.set .percentOutput 0 0)
  following : ∀ id ∈ armFollowers, ∃ mCtrl, motors.mRegisteredMotorList[id]? = some mCtrl ∧
    mCtrl.getControlMode = .follower

open ApplyMotorValuesTask

theorem stopping_entry (toId : Double → Nat) (stores : MotorStores) (first : List MotorControlMotor) (id : Nat)
    (rest : List MotorControlMotor) (small : id < 64) (configured : id ∈ stores.configs.mMotorMsgs)
    (last : ∀ other ∈ rest, uint16 other.id ≠ id) :
    ∃ mCtrl, ((first ++ ⟨id, .talonFX, .percentOutput, 0, 0⟩ :: rest).foldl (applyMotor toId)
      stores).motors.mRegisteredMotorList[id]? = some mCtrl ∧ mCtrl.lastCommand = some (.set .percentOutput 0 0) := by
  have same : uint16 id = id := by
    rw [uint16]
    omega
  have sent := entries_command toId first rest ⟨id, .talonFX, .percentOutput, 0, 0⟩ stores (by rwa [same]) (by rwa [same])
    (by rwa [same]) (.inl rfl) (fun follows => ControlMode.noConfusion follows) ⟨rfl, rfl⟩
  rwa [same] at sent

theorem following_entry (toId : Double → Nat) (stores : MotorStores) (numbered : stores.motors.Numbered)
    (first : List MotorControlMotor) (id master : Nat) (rest : List MotorControlMotor) (small : id < 64)
    (configured : id ∈ stores.configs.mMotorMsgs) (last : ∀ other ∈ rest, uint16 other.id ≠ id)
    (converts : toId (.finite master) = master)
    (registered : master ∈ (first.foldl (applyMotor toId) stores).motors.mRegisteredMotorList) :
    ∃ mCtrl, ((first ++ ⟨id, .talonFX, .follower, .finite master, 0⟩ :: rest).foldl (applyMotor toId)
      stores).motors.mRegisteredMotorList[id]? = some mCtrl ∧ mCtrl.getControlMode = .follower := by
  have same : uint16 id = id := by
    rw [uint16]
    omega
  have sent := entries_follow toId first rest ⟨id, .talonFX, .follower, .finite master, 0⟩ stores numbered (by rwa [same])
    (by rwa [same]) (by rwa [same]) (.inl rfl) rfl (by rwa [converts])
  rwa [same] at sent

theorem entries_still (toId : Double → Nat) (stores : MotorStores) (drives steering : PerWheel Double) (id : Nat)
    (member : id ∈ heldMotors) (configured : id ∈ stores.configs.mMotorMsgs) :
    ∃ mCtrl, ((failoverMotors drives steering).foldl (applyMotor toId) stores).motors.mRegisteredMotorList[id]? = some mCtrl ∧
      mCtrl.lastCommand = some (.set .percentOutput 0 0) := by
  simp only [heldMotors, List.mem_cons, List.not_mem_nil, or_false] at member
  obtain rfl | rfl | rfl | rfl := member
  · exact stopping_entry toId stores ((failoverMotors drives steering).take 8) 9 _ (by decide) configured (by decide)
  · exact stopping_entry toId stores ((failoverMotors drives steering).take 10) 11 _ (by decide) configured (by decide)
  · exact stopping_entry toId stores ((failoverMotors drives steering).take 12) 13 _ (by decide) configured (by decide)
  · exact stopping_entry toId stores ((failoverMotors drives steering).take 13) 14 _ (by decide) configured (by decide)

theorem entries_hold_arm (toId : Double → Nat) (stores : MotorStores) (numbered : stores.motors.Numbered)
    (drives steering : PerWheel Double) (configured : ∀ id ∈ heldMotors ++ armFollowers, id ∈ stores.configs.mMotorMsgs)
    (lower : toId (.finite (9 : Nat)) = 9) (upper : toId (.finite (11 : Nat)) = 11) :
    ArmHeld ((failoverMotors drives steering).foldl (applyMotor toId) stores).motors := by
  have leads : ∀ first (id : Nat), id < 64 → id ∈ stores.configs.mMotorMsgs →
      id ∈ ((first ++ [⟨id, .talonFX, .percentOutput, 0, 0⟩]).foldl (applyMotor toId) stores).motors.mRegisteredMotorList := by
    intro first id small held
    obtain ⟨mCtrl, found, _⟩ := stopping_entry toId stores first id [] small held (List.forall_mem_nil _)
    exact Std.ExtTreeMap.mem_iff_isSome_getElem?.mpr (by rw [found]; rfl)
  constructor
  · intro id member
    exact entries_still toId stores drives steering id member (configured id (List.mem_append_left _ member))
  · intro id member
    have held := configured id (List.mem_append_right _ member)
    simp only [armFollowers, List.mem_cons, List.not_mem_nil, or_false] at member
    obtain rfl | rfl := member
    · exact following_entry toId stores numbered ((failoverMotors drives steering).take 9) 10 9 _ (by decide) held
        (by decide) lower (leads ((failoverMotors drives steering).take 8) 9 (by decide) (configured 9 (by decide)))
    · exact following_entry toId stores numbered ((failoverMotors drives steering).take 11) 12 11 _ (by decide) held
        (by decide) upper (leads ((failoverMotors drives steering).take 10) 11 (by decide) (configured 11 (by decide)))

theorem failover_message_holds_arm (world : MotorWorld) (ops : List MotorOp) (input : ValuesInput)
    (drives steering : PerWheel Double) (processes : Processes input (failoverMotors drives steering))
    (configured : ∀ id ∈ heldMotors ++ armFollowers, id ∈ (reached world ops).configs.mMotorMsgs)
    (lower : world.toId (.finite (9 : Nat)) = 9) (upper : world.toId (.finite (11 : Nat)) = 11) :
    ArmHeld (run world.toId (reached world ops) input).motors := by
  have held := entries_hold_arm world.toId (reached world ops) (reached_invariant world ops).2 drives steering configured
    lower upper
  constructor
  · intro id member
    obtain ⟨mCtrl, applied, still⟩ := held.still id member
    have swept := run_get world.toId (reached world ops) input _ processes id mCtrl applied
    refine ⟨_, swept, ?_⟩
    split
    · rw [stopOf, BaseTalon.getControlMode, still]
      rfl
    · exact still
  · intro id member
    obtain ⟨mCtrl, applied, following⟩ := held.following id member
    have swept := run_get world.toId (reached world ops) input _ processes id mCtrl applied
    refine ⟨_, swept, ?_⟩
    split
    · rwa [stopOf, if_neg (not_not.mpr following)]
    · exact following

def armMotors : List MotorConfigurationMotor := (List.range 6).map fun k => plainMotor (k + 9) (Nat.succ_ne_zero _)

def armConfigured : List MotorOp :=
  [configOp armMotors, driveOp [9, 11],
    .applyMotorValues ⟨some [⟨11, .talonFX, .percentOutput, .finite (1 / 2), 0⟩], true, false⟩]

theorem failover_message_holds_driven_arm :
    ArmHeld (run truncated (reached truncatingWorld armConfigured) (valuesOf (failoverMotors ⟨0, 0, 0, 0⟩ ⟨0, 0, 0, 0⟩))).motors :=
  failover_message_holds_arm truncatingWorld armConfigured (valuesOf (failoverMotors ⟨0, 0, 0, 0⟩ ⟨0, 0, 0, 0⟩))
    ⟨0, 0, 0, 0⟩ ⟨0, 0, 0, 0⟩ ⟨rfl, rfl⟩ (by decide +kernel) (by decide +kernel) (by decide +kernel)

end RioPassthru
