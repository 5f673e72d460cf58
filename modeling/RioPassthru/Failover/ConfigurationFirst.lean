import RioPassthru.Failover.Robot

set_option autoImplicit false

namespace RioPassthru

open FailoverMessageManager

-- The robot with, as ghost data, whether publishMessages has placed motorconfig in the
-- activation that is running.
structure Activation where
  robot : Robot
  configSent : Bool
deriving DecidableEq, Repr

def FailoverMessage.isMotorConfig : FailoverMessage → Bool
  | .motorConfig _ => true
  | _ => false

def FailoverMessage.isMotorControl : FailoverMessage → Bool
  | .motorControl _ => true
  | _ => false

def activates (robot : Robot) (input : LoopInput) : Bool := !input.externalAtRobotPeriodic && !robot.failoverActive

section Activation

variable (sizes : EntrySizes) (math : SwerveMath)

def activationLoop (activation : Activation) (input : LoopInput) : Activation :=
  let turn := Robot.loopFunc sizes math activation.robot input
  { robot := turn.robot
    configSent :=
      (!activates activation.robot input && activation.configSent) || turn.published.any FailoverMessage.isMotorConfig }

def ConfigurationFirst (activation : Activation) (input : LoopInput) : Prop :=
  (Robot.loopFunc sizes math activation.robot input).published.any FailoverMessage.isMotorControl = true →
    (activationLoop sizes math activation input).configSent = true

instance (activation : Activation) (input : LoopInput) : Decidable (ConfigurationFirst sizes math activation input) :=
  inferInstanceAs (Decidable (_ = true → _ = true))

def StartsWithConfiguration (activation : Activation) (input : LoopInput) : Prop :=
  activates activation.robot input = true →
    activation.robot.failover.messages.mLoopCounter % 25 = 0 ∧
      activation.robot.failover.messages.mMotorConfiguration.length ≤ bufSize

instance (activation : Activation) (input : LoopInput) : Decidable (StartsWithConfiguration activation input) :=
  inferInstanceAs (Decidable (_ = true → _ ∧ _))

-- What a call of publishMessages depends on, apart from the entries' values.
def publishPhase (messages : FailoverMessageManager) : Nat × Bytes × List Int :=
  (messages.mLoopCounter, messages.mMotorConfiguration, motorIds messages)

@[simp] theorem phase_set_output (messages : FailoverMessageManager) (motor : Nat) (value : Double) :
    publishPhase (messages.setOutputValue motor value) = publishPhase messages := by
  rw [publishPhase, motor_ids_set_output]
  rfl

@[simp] theorem phase_set_mode (messages : FailoverMessageManager) (motor : Nat) (mode : ControlMode) :
    publishPhase (messages.setControlMode motor mode) = publishPhase messages := by
  rw [publishPhase, motor_ids_set_mode]
  rfl

@[simp] theorem phase_set_solenoid (messages : FailoverMessageManager) (solenoid : Nat) (value : SolenoidValue) :
    publishPhase (messages.setSolenoidValue solenoid value) = publishPhase messages := rfl

theorem teleop_phase (input : LoopInput) (failover : Failover) :
    publishPhase (RobotFailover.teleopFailoverPeriodic math input failover).messages = publishPhase failover.messages := by
  simp only [RobotFailover.teleopFailoverPeriodic, IntakeFailover.run, ArmFailover.run, ArmFailover.uninit, stopMotor,
    SwerveDrivetrainFailover.run, phase_set_solenoid, phase_set_output, phase_set_mode]
  split <;>
    simp only [SwerveDrivetrainFailover.setDrives, SwerveDrivetrainFailover.setSteering, phase_set_output]

theorem init_phase (input : LoopInput) (failover : Failover) :
    publishPhase (RobotFailover.robotFailoverInit math input failover).messages = publishPhase failover.messages := by
  simp only [RobotFailover.robotFailoverInit, SwerveDrivetrainFailover.init, SwerveDrivetrainFailover.setSteering,
    phase_set_output]

theorem before_periodic_phase (robot : Robot) (input : LoopInput) :
    publishPhase (Robot.beforeRobotPeriodic math robot input).failover.messages = publishPhase robot.failover.messages := by
  obtain ⟨_, _, same | ⟨_, ran⟩⟩ := before_periodic_cases math robot input
  · rw [same]
  · rw [ran, teleop_phase]

theorem loop_publishes (robot : Robot) (input : LoopInput) (external : input.externalAtRobotPeriodic = false) :
    ∃ ready : FailoverMessageManager, publishPhase ready = publishPhase robot.failover.messages ∧
      (Robot.loopFunc sizes math robot input).published = (publishMessages sizes ready).2 ∧
      (Robot.loop sizes math robot input).failover.messages = (publishMessages sizes ready).1 ∧
      (Robot.loop sizes math robot input).failoverActive = true := by
  have phase := before_periodic_phase math robot input
  rw [Robot.loop, Robot.loopFunc, Robot.robotPeriodic, external]
  cases (Robot.beforeRobotPeriodic math robot input).failoverActive with
  | true => exact ⟨_, phase, rfl, rfl, rfl⟩
  | false => exact ⟨_, (init_phase math input _).trans phase, rfl, rfl, rfl⟩

theorem motor_config_published (messages : FailoverMessageManager) :
    (publishMessages sizes messages).2.any FailoverMessage.isMotorConfig = true ↔
      messages.mLoopCounter % 25 = 0 ∧ messages.mMotorConfiguration.length ≤ bufSize := by
  have control : ∀ size motors, (placeIfFits size (.motorControl motors)).any FailoverMessage.isMotorConfig = false := by
    intro size motors
    by_cases fits : size ≤ bufSize <;> simp [placeIfFits, fits, FailoverMessage.isMotorConfig]
  have solenoid : ∀ size values, (placeIfFits size (.solenoidControl values)).any FailoverMessage.isMotorConfig = false := by
    intro size values
    by_cases fits : size ≤ bufSize <;> simp [placeIfFits, fits, FailoverMessage.isMotorConfig]
  have led : ∀ size bytes, (placeIfFits size (.ledControl bytes)).any FailoverMessage.isMotorConfig = false := by
    intro size bytes
    by_cases fits : size ≤ bufSize <;> simp [placeIfFits, fits, FailoverMessage.isMotorConfig]
  have config : ∀ size bytes, (placeIfFits size (.motorConfig bytes)).any FailoverMessage.isMotorConfig = decide (size ≤ bufSize) := by
    intro size bytes
    by_cases fits : size ≤ bufSize <;> simp [placeIfFits, fits, FailoverMessage.isMotorConfig]
  rw [publishMessages, List.any_append, List.any_append, control, solenoid]
  by_cases turn : messages.mLoopCounter % 25 = 0
  · rw [if_pos turn, List.any_append, config, led]
    simp [turn]
  · rw [if_neg turn]
    simp [turn]

theorem motor_control_sent (messages : FailoverMessageManager) (ids : motorIds messages = failoverMotorIds)
    (small : ∀ motor, sizes.motor motor ≤ 1000) :
    (publishMessages sizes messages).2.any FailoverMessage.isMotorControl = true := by
  have placed := (motor_control_published sizes messages messages.mMotorControl).mpr
    ⟨failover_control_fits sizes messages ids small, rfl⟩
  exact List.any_eq_true.mpr ⟨_, placed, rfl⟩

structure ActivationInvariant (activation : Activation) : Prop where
  ids : motorIds activation.robot.failover.messages = failoverMotorIds
  configured : activation.robot.failoverActive = true → activation.configSent = true

theorem configuration_first_step (small : ∀ motor, sizes.motor motor ≤ 1000) (activation : Activation) (input : LoopInput)
    (kept : ActivationInvariant activation) :
    ConfigurationFirst sizes math activation input ↔ StartsWithConfiguration activation input := by
  cases external : input.externalAtRobotPeriodic with
  | true =>
      obtain ⟨silent, _⟩ := robot_periodic_external sizes math (Robot.beforeRobotPeriodic math activation.robot input) input external
      refine iff_of_true ?_ ?_
      · intro commanded
        rw [loop_before_periodic, silent] at commanded
        cases commanded
      · intro starts
        simp [activates, external] at starts
  | false =>
      obtain ⟨ready, phase, published, _⟩ := loop_publishes sizes math activation.robot input external
      simp only [publishPhase, Prod.mk.injEq] at phase
      have commanded := motor_control_sent sizes ready (phase.2.2.trans kept.ids) small
      rw [ConfigurationFirst, published, activationLoop, published, Bool.or_eq_true, motor_config_published, phase.1, phase.2.1]
      cases active : activation.robot.failoverActive with
      | true => simp [StartsWithConfiguration, activates, active, kept.configured active]
      | false => simp [StartsWithConfiguration, activates, active, external, commanded]

theorem activation_invariant_step (small : ∀ motor, sizes.motor motor ≤ 1000) (activation : Activation) (input : LoopInput)
    (kept : ActivationInvariant activation) (starts : StartsWithConfiguration activation input) :
    ActivationInvariant (activationLoop sizes math activation input) := by
  have first := (configuration_first_step sizes math small activation input kept).mpr starts
  cases external : input.externalAtRobotPeriodic with
  | true =>
      obtain ⟨_, _, inactive, failover⟩ :=
        robot_periodic_external sizes math (Robot.beforeRobotPeriodic math activation.robot input) input external
      refine ⟨?_, fun active => absurd (inactive.symm.trans active) (by decide)⟩
      have before := before_periodic_phase math activation.robot input
      simp only [publishPhase, Prod.mk.injEq] at before
      simp only [activationLoop, Robot.loopFunc, failover]
      split
      · rw [reset_motor_ids, before.2.2, kept.ids]
      · rw [before.2.2, kept.ids]
  | false =>
      obtain ⟨ready, phase, published, messages, _⟩ := loop_publishes sizes math activation.robot input external
      simp only [publishPhase, Prod.mk.injEq] at phase
      have ids : motorIds ready = failoverMotorIds := phase.2.2.trans kept.ids
      refine ⟨?_, fun _ => first ?_⟩
      · exact (congrArg motorIds messages).trans ids
      · rw [published]
        exact motor_control_sent sizes ready ids small

theorem configuration_first_iff (small : ∀ motor, sizes.motor motor ≤ 1000) (mMotorConfiguration mLEDControl : Bytes)
    (loops : List LoopInput) :
    Runs.EachStep (activationLoop sizes math) (ConfigurationFirst sizes math)
        ⟨Robot.start mMotorConfiguration mLEDControl, false⟩ loops ↔
      Runs.EachStep (activationLoop sizes math) StartsWithConfiguration
        ⟨Robot.start mMotorConfiguration mLEDControl, false⟩ loops :=
  Runs.each_step_iff_of_invariant (activationLoop sizes math) ActivationInvariant _ _
    (configuration_first_step sizes math small) (activation_invariant_step sizes math small) loops _
    ⟨(start_failover_invariant mMotorConfiguration mLEDControl).ids, fun active => nomatch active⟩

end Activation

def externalLoop : LoopInput := { failoverLoop .kDisabled 0 with externalAtRobotPeriodic := true }

theorem configuration_first_after_full_period :
    Runs.EachStep (activationLoop entryBytes exactSwerve) (ConfigurationFirst entryBytes exactSwerve)
      ⟨Robot.start [1] [], false⟩
      (List.replicate 25 (failoverLoop .kDisabled 0) ++ [externalLoop, failoverLoop .kDisabled 0]) :=
  (configuration_first_iff entryBytes exactSwerve motor_entry_small [1] [] _).mpr (by decide +kernel)

-- One loop of failover, a loop under external control, and failover again: the second
-- activation commands the motors at once and configures them 24 loops later.
theorem second_activation_commands_first :
    ¬ ∀ (sizes : EntrySizes) (math : SwerveMath), (∀ motor, sizes.motor motor ≤ 1000) →
      ∀ (mMotorConfiguration mLEDControl : Bytes) (loops : List LoopInput),
        Runs.EachStep (activationLoop sizes math) (ConfigurationFirst sizes math)
          ⟨Robot.start mMotorConfiguration mLEDControl, false⟩ loops := by
  intro always
  have first := always entryBytes exactSwerve motor_entry_small [1] []
    [failoverLoop .kDisabled 0, externalLoop, failoverLoop .kDisabled 0]
  revert first
  decide +kernel

end RioPassthru
