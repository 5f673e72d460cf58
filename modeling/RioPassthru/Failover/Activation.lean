import RioPassthru.Failover.Bracketing
import RioPassthru.Lib.Histories

set_option autoImplicit false

namespace RioPassthru

open Runs FailoverMessageManager

namespace RobotEvent

def isMessage : RobotEvent → Bool
  | .externalControlMsgReceived => true
  | _ => false

def isTick : RobotEvent → Bool
  | .processHeartbeat => true
  | _ => false

def isRobotPeriodic : RobotEvent → Bool
  | .robotPeriodic _ => true
  | _ => false

end RobotEvent

-- Every message of the external controller is fifty ticks of the heartbeat ago, or more.
def OutOfTouch (events : List RobotEvent) : Prop :=
  ∀ before after, events = before ++ .externalControlMsgReceived :: after → 50 ≤ after.countP RobotEvent.isTick

section System

variable (sizes : EntrySizes) (math : SwerveMath) (mMotorConfiguration mLEDControl : Bytes)

theorem step_external (system : RobotSystem) (event : RobotEvent) :
    (system.step sizes math event).external.mLastConnectionTime =
      if event.isMessage then 50
      else if event.isTick then system.external.mLastConnectionTime - 1
      else system.external.mLastConnectionTime := by
  cases event with
  | processHeartbeat =>
      have ticked : system.external.processHeartbeat.mLastConnectionTime = system.external.mLastConnectionTime - 1 := by
        rw [ExternalControlManager.processHeartbeat]
        split
        · rfl
        · omega
      exact ticked
  | externalControlMsgReceived => rfl
  | modeInit mode => rfl
  | modePeriodic input => rfl
  | robotPeriodic input => rfl

theorem step_active (system : RobotSystem) (event : RobotEvent) :
    (system.step sizes math event).robot.failoverActive =
      if event.isRobotPeriodic then !system.isExternalControl else system.robot.failoverActive := by
  cases event with
  | robotPeriodic input =>
      cases reading : system.isExternalControl with
      | true => exact (robot_periodic_external sizes math system.robot (withReading system.isExternalControl input) reading).2.2.1
      | false =>
          obtain ⟨_, _, _, _, _, active, _⟩ :=
            robot_periodic_failover sizes math system.robot (withReading system.isExternalControl input) reading
          exact active
  | modePeriodic input =>
      obtain skipped | ⟨_, ran⟩ := mode_periodic_cases math system.robot (withReading system.isExternalControl input)
      · exact congrArg Robot.failoverActive skipped
      · have same := congrArg Robot.failoverActive ran
        exact same
  | externalControlMsgReceived => rfl
  | processHeartbeat => rfl
  | modeInit mode => rfl

theorem disconnected_iff (events : List RobotEvent) :
    (runSteps (RobotSystem.step sizes math) (.start mMotorConfiguration mLEDControl) events).isExternalControl = false ↔
      OutOfTouch events := by
  have counted := Histories.countdown_iff (RobotSystem.step sizes math) (.start mMotorConfiguration mLEDControl)
    (fun system => system.external.mLastConnectionTime) 50 RobotEvent.isMessage RobotEvent.isTick
    (step_external sizes math) rfl events 0
  rw [RobotSystem.isExternalControl, ExternalControlManager.isExternalControlConnected, decide_eq_false_iff_not, counted]
  constructor
  · intro never before after split
    by_contra recent
    exact never ⟨before, _, after, split, rfl, Nat.lt_of_not_le recent⟩
  · intro outOfTouch ⟨before, event, after, split, message, recent⟩
    cases event with
    | externalControlMsgReceived => exact Nat.not_le_of_lt recent (outOfTouch before after split)
    | _ => cases message

theorem step_motor_ids (system : RobotSystem) (event : RobotEvent)
    (kept : motorIds system.robot.failover.messages = failoverMotorIds) :
    motorIds (system.step sizes math event).robot.failover.messages = failoverMotorIds := by
  cases event with
  | robotPeriodic input =>
      cases reading : system.isExternalControl with
      | true =>
          have now := (robot_periodic_external sizes math system.robot (withReading system.isExternalControl input) reading).2.2.2
          rw [RobotSystem.step, RobotSystem.robotAfter, RobotSystem.robotPeriodic, now]
          split
          · exact (reset_motor_ids _).trans kept
          · exact kept
      | false =>
          obtain ⟨ready, _, ids, _, _, _, now⟩ :=
            robot_periodic_failover sizes math system.robot (withReading system.isExternalControl input) reading
          rw [RobotSystem.step, RobotSystem.robotAfter, RobotSystem.robotPeriodic, now]
          exact ids.trans kept
  | modePeriodic input =>
      rw [RobotSystem.step, RobotSystem.robotAfter]
      obtain skipped | ⟨_, ran⟩ := mode_periodic_cases math system.robot (withReading system.isExternalControl input)
      · rw [skipped]
        exact kept
      · rw [ran]
        exact (teleop_motor_ids _ _ _).trans kept
  | externalControlMsgReceived | processHeartbeat | modeInit mode => exact kept

theorem publishes_motor_control_iff (small : ∀ motor, sizes.motor motor ≤ 1000) (system : RobotSystem) (input : LoopInput)
    (kept : motorIds system.robot.failover.messages = failoverMotorIds) :
    (∃ motors, .motorControl motors ∈ system.published sizes math (.robotPeriodic input)) ↔ system.isExternalControl = false := by
  rw [RobotSystem.published, RobotSystem.robotPeriodic]
  cases reading : system.isExternalControl with
  | true =>
      rw [(robot_periodic_external sizes math system.robot (withReading true input) rfl).1]
      simp
  | false =>
      obtain ⟨ready, _, ids, published, _⟩ := robot_periodic_failover sizes math system.robot (withReading false input) rfl
      rw [published]
      have fits := failover_control_fits sizes ready.messages (ids.trans kept) small
      exact iff_of_true ⟨_, (motor_control_published sizes ready.messages _).mpr ⟨fits, rfl⟩⟩ rfl

-- Whether failover is active was decided by the last RobotPeriodic, from the messages and ticks before it.
structure ActivityDecided (events : List RobotEvent) (system : RobotSystem) : Prop where
  active : system.robot.failoverActive = true ↔
    ∃ before input after, events = before ++ .robotPeriodic input :: after ∧ OutOfTouch before ∧
      ∀ event ∈ after, event.isRobotPeriodic = false
  publishes : ∀ input, (∃ motors, .motorControl motors ∈ system.published sizes math (.robotPeriodic input)) ↔ OutOfTouch events

theorem failover_active_iff (small : ∀ motor, sizes.motor motor ≤ 1000) (events : List RobotEvent) :
    ActivityDecided sizes math events
      (runSteps (RobotSystem.step sizes math) (.start mMotorConfiguration mLEDControl) events) := by
  constructor
  · have latched := Histories.latched_iff (RobotSystem.step sizes math) (.start mMotorConfiguration mLEDControl)
      (fun system => system.robot.failoverActive) (fun system => !system.isExternalControl) RobotEvent.isRobotPeriodic
      (step_active sizes math) rfl events
    refine latched.trans ⟨?_, ?_⟩
    · rintro ⟨before, event, after, split, sampled, quiet, high⟩
      have outOfTouch := (disconnected_iff sizes math mMotorConfiguration mLEDControl before).mp
        ((Bool.not_eq_true' _).mp high)
      cases event with
      | robotPeriodic input => exact ⟨before, input, after, split, outOfTouch, quiet⟩
      | _ => cases sampled
    · rintro ⟨before, input, after, split, outOfTouch, quiet⟩
      have disconnected := (disconnected_iff sizes math mMotorConfiguration mLEDControl before).mpr outOfTouch
      exact ⟨before, .robotPeriodic input, after, split, rfl, quiet, (Bool.not_eq_true' _).mpr disconnected⟩
  · intro input
    have ids := run_steps_invariant (RobotSystem.step sizes math)
      (fun system => motorIds system.robot.failover.messages = failoverMotorIds) (step_motor_ids sizes math) events
      (.start mMotorConfiguration mLEDControl) (start_failover_invariant mMotorConfiguration mLEDControl).ids
    rw [publishes_motor_control_iff sizes math small _ input ids]
    exact disconnected_iff sizes math mMotorConfiguration mLEDControl events

theorem failover_active_after_silence :
    ActivityDecided entryBytes exactSwerve
      (.externalControlMsgReceived :: List.replicate 50 .processHeartbeat ++ [.robotPeriodic (failoverLoop .kTeleop 0)])
      (runSteps (RobotSystem.step entryBytes exactSwerve) (.start [] [])
        (.externalControlMsgReceived :: List.replicate 50 .processHeartbeat ++ [.robotPeriodic (failoverLoop .kTeleop 0)])) :=
  failover_active_iff entryBytes exactSwerve [] [] motor_entry_small _

end System

end RioPassthru
