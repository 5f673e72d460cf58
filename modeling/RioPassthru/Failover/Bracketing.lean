import RioPassthru.Failover.Robot

set_option autoImplicit false

namespace RioPassthru

open FailoverMessageManager

def FailoverCall.isBracket : FailoverCall → Bool
  | .robotFailoverInit => true
  | .reset => true
  | .publishMessages => false

-- isExternalControl is read once in each callback, where the scheduler thread has left it.
inductive RobotEvent where
  | externalControlMsgReceived
  | processHeartbeat
  | modeInit (mode : Mode)
  | modePeriodic (input : LoopInput)
  | robotPeriodic (input : LoopInput)

structure RobotSystem where
  robot : Robot
  external : ExternalControlManager

def withReading (external : Bool) (input : LoopInput) : LoopInput :=
  { input with externalAtInit := external, externalAtPeriodic := external, externalAtRobotPeriodic := external }

namespace RobotSystem

def start (mMotorConfiguration mLEDControl : Bytes) : RobotSystem := ⟨Robot.start mMotorConfiguration mLEDControl, ⟨0⟩⟩

variable (sizes : EntrySizes) (math : SwerveMath) (system : RobotSystem)

def isExternalControl : Bool := system.external.isExternalControlConnected

def externalAfter : RobotEvent → ExternalControlManager
  | .externalControlMsgReceived => system.external.externalControlMsgReceived
  | .processHeartbeat => system.external.processHeartbeat
  | _ => system.external

def robotPeriodic (input : LoopInput) : LoopRun :=
  Robot.robotPeriodic sizes math (withReading system.isExternalControl input) system.robot

def robotAfter : RobotEvent → Robot
  | .modeInit mode => { system.robot with controlMode := mode }
  | .modePeriodic input => Robot.modePeriodic math (withReading system.isExternalControl input) system.robot
  | .robotPeriodic input => (system.robotPeriodic sizes math input).robot
  | _ => system.robot

def published : RobotEvent → List FailoverMessage
  | .robotPeriodic input => (system.robotPeriodic sizes math input).published
  | _ => []

def step (event : RobotEvent) : RobotSystem := ⟨system.robotAfter sizes math event, system.externalAfter event⟩

end RobotSystem

def brackets (calls : List FailoverCall) : List FailoverCall := calls.filter FailoverCall.isBracket

def alternating (count : Nat) : List FailoverCall :=
  (List.range count).map fun index => if index % 2 = 0 then .robotFailoverInit else .reset

structure WellBracketed (robot : Robot) : Prop where
  alternate : ∀ index call, (brackets robot.failover.calls)[index]? = some call →
    call = if index % 2 = 0 then .robotFailoverInit else .reset
  active : robot.failoverActive = true ↔ (brackets robot.failover.calls).getLast? = some .robotFailoverInit
  pointer : robot.failover.swerve.mJoystick.isSome = robot.failoverActive
  owned : robot.failover.swerve.joysticks.live = robot.failover.swerve.mJoystick.toList
  faultless : robot.failover.swerve.joysticks.faults = 0

section Publishing

variable (sizes : EntrySizes) (math : SwerveMath)

-- What RobotPeriodic publishes for: failover as it was, or as its activation leaves it.
def activated (input : LoopInput) (robot : Robot) : Failover :=
  if robot.failoverActive then robot.failover else RobotFailover.robotFailoverInit math input robot.failover

structure PublishesUnlessExternal (system : RobotSystem) (event : RobotEvent) : Prop where
  called : ∃ made, (system.step sizes math event).robot.failover.calls = system.robot.failover.calls ++ made ∧
    (.publishMessages ∈ made ↔ (∃ input, event = .robotPeriodic input) ∧ system.isExternalControl = false)
  placed : ∀ input, event = .robotPeriodic input → system.isExternalControl = false →
    ((system.step sizes math event).robot.failover.messages, system.published sizes math event) =
      publishMessages sizes (activated math input system.robot).messages
  silent : (∀ input, event = .robotPeriodic input → system.isExternalControl = true) →
    system.published sizes math event = []

end Publishing

-- The invariant: what has been called, and the joysticks, go with failoverActive.
structure Bracketed (failover : Failover) (failoverActive : Bool) : Prop where
  alternate : brackets failover.calls = alternating (brackets failover.calls).length
  active : failoverActive = decide ((brackets failover.calls).length % 2 = 1)
  pointer : failover.swerve.mJoystick.isSome = failoverActive
  owned : failover.swerve.joysticks.live = failover.swerve.mJoystick.toList
  faultless : failover.swerve.joysticks.faults = 0

theorem alternating_succ (count : Nat) :
    alternating (count + 1) = alternating count ++ [if count % 2 = 0 then .robotFailoverInit else .reset] := by
  rw [alternating, List.range_succ, List.map_append, List.map_singleton, alternating]

theorem brackets_concat (calls : List FailoverCall) (call : FailoverCall) (bracket : call.isBracket = true) :
    brackets (calls ++ [call]) = brackets calls ++ [call] := by
  rw [brackets, List.filter_append, List.filter_cons_of_pos bracket, List.filter_nil, brackets]

theorem brackets_published (calls : List FailoverCall) : brackets (calls ++ [.publishMessages]) = brackets calls := by
  rw [brackets, List.filter_append]
  exact List.append_nil _

theorem bracket_added (failover : Failover) (active : Bool) (kept : Bracketed failover active) (call : FailoverCall)
    (turn : call = if active then .reset else .robotFailoverInit) :
    brackets (failover.calls ++ [call]) = alternating (brackets (failover.calls ++ [call])).length ∧
      (!active) = decide ((brackets (failover.calls ++ [call])).length % 2 = 1) := by
  have bracket : call.isBracket = true := by
    rw [turn]
    cases active <;> rfl
  have parity := kept.active
  rw [brackets_concat _ _ bracket, List.length_append, List.length_singleton, alternating_succ, ← kept.alternate, turn, parity]
  by_cases even : (brackets failover.calls).length % 2 = 0
  · have odd : ((brackets failover.calls).length + 1) % 2 = 1 := by omega
    simp [even, odd]
  · have odd : (brackets failover.calls).length % 2 = 1 := by omega
    have next : ((brackets failover.calls).length + 1) % 2 = 0 := by omega
    simp [odd, next]

theorem use_joystick_owned (swerve : SwerveDrivetrainFailover) (owned : swerve.joysticks.live = swerve.mJoystick.toList) :
    SwerveDrivetrainFailover.useJoystick swerve = swerve := by
  rw [SwerveDrivetrainFailover.useJoystick]
  cases pointed : swerve.mJoystick with
  | none => rfl
  | some joystick =>
      have listed : joystick ∈ swerve.joysticks.live := by simp [owned, pointed]
      simp [JoystickHeap.use, listed, ← pointed]

section Failover

variable (sizes : EntrySizes) (math : SwerveMath) (input : LoopInput) (failover : Failover)

theorem init_bracketed (kept : Bracketed failover false) : Bracketed (RobotFailover.robotFailoverInit math input failover) true := by
  obtain ⟨alternate, active⟩ := bracket_added failover false kept .robotFailoverInit rfl
  have absent : failover.swerve.mJoystick = none := Option.isSome_eq_false_iff.mp kept.pointer |> Option.isNone_iff_eq_none.mp
  have empty : failover.swerve.joysticks.live = [] := by rw [kept.owned, absent, Option.toList_none]
  refine ⟨alternate, active, rfl, ?_, kept.faultless⟩
  have made : (RobotFailover.robotFailoverInit math input failover).swerve.joysticks.live =
      failover.swerve.joysticks.allocated :: failover.swerve.joysticks.live := rfl
  rw [made, empty]
  rfl

theorem reset_bracketed (kept : Bracketed failover true) : Bracketed (RobotFailover.reset failover) false := by
  obtain ⟨alternate, active⟩ := bracket_added failover true kept .reset rfl
  obtain ⟨joystick, pointed⟩ := Option.isSome_iff_exists.mp kept.pointer
  have swerve : (RobotFailover.reset failover).swerve =
      { failover.swerve with
        mJoystick := none
        joysticks := failover.swerve.joysticks.free joystick } := by
    have deleted : (RobotFailover.reset failover).swerve = SwerveDrivetrainFailover.deleteJoystick failover.swerve := rfl
    rw [deleted, SwerveDrivetrainFailover.deleteJoystick, pointed]
  have live : failover.swerve.joysticks.live = [joystick] := by rw [kept.owned, pointed, Option.toList_some]
  refine ⟨alternate, active, ?_, ?_, ?_⟩
  · rw [swerve]
    rfl
  · rw [swerve]
    simp [JoystickHeap.free, JoystickHeap.use, live]
  · rw [swerve]
    simp [JoystickHeap.free, JoystickHeap.use, live, kept.faultless]

theorem failover_periodic_bracketed (active : Bool) (kept : Bracketed failover active) :
    Bracketed (RobotFailover.robotFailoverPeriodic sizes math input failover).1 active := by
  have calls : brackets (RobotFailover.robotFailoverPeriodic sizes math input failover).1.calls = brackets failover.calls :=
    brackets_published failover.calls
  refine ⟨?_, ?_, kept.pointer, kept.owned, kept.faultless⟩
  · rw [calls]
    exact kept.alternate
  · rw [calls]
    exact kept.active

theorem teleop_bracketed (active : Bool) (kept : Bracketed failover active) :
    Bracketed (RobotFailover.teleopFailoverPeriodic math input failover) active := by
  have swerve : (RobotFailover.teleopFailoverPeriodic math input failover).swerve = failover.swerve :=
    use_joystick_owned failover.swerve kept.owned
  refine ⟨kept.alternate, kept.active, ?_, ?_, ?_⟩
  · rw [swerve]
    exact kept.pointer
  · rw [swerve]
    exact kept.owned
  · rw [swerve]
    exact kept.faultless

end Failover

section System

variable (sizes : EntrySizes) (math : SwerveMath)

theorem well_bracketed_of_invariant (robot : Robot) (kept : Bracketed robot.failover robot.failoverActive) :
    WellBracketed robot := by
  refine ⟨?_, ?_, kept.pointer, kept.owned, kept.faultless⟩
  · intro index call listed
    have within := (List.getElem?_eq_some_iff.mp listed).1
    rw [kept.alternate, alternating, List.getElem?_map, List.getElem?_range within] at listed
    exact (Option.some.inj listed).symm
  · rw [kept.active, kept.alternate, decide_eq_true_eq]
    cases count : (brackets robot.failover.calls).length with
    | zero => simp [alternating]
    | succ last =>
        rw [alternating_succ, List.getLast?_concat, List.length_append, List.length_singleton, alternating, List.length_map,
          List.length_range]
        by_cases even : last % 2 = 0
        · simp [even]
          omega
        · simp [even]
          omega

theorem robot_periodic_published (robot : Robot) (input : LoopInput) (external : input.externalAtRobotPeriodic = false) :
    (Robot.robotPeriodic sizes math input robot).robot.failover =
        (RobotFailover.robotFailoverPeriodic sizes math input (activated math input robot)).1 ∧
      (Robot.robotPeriodic sizes math input robot).published =
        (publishMessages sizes (activated math input robot).messages).2 := by
  rw [Robot.robotPeriodic, external]
  exact ⟨rfl, rfl⟩

theorem robot_periodic_bracketed (robot : Robot) (input : LoopInput) (kept : Bracketed robot.failover robot.failoverActive) :
    Bracketed (Robot.robotPeriodic sizes math input robot).robot.failover
      (Robot.robotPeriodic sizes math input robot).robot.failoverActive := by
  cases external : input.externalAtRobotPeriodic with
  | true =>
      obtain ⟨_, _, inactive, now⟩ := robot_periodic_external sizes math robot input external
      rw [inactive, now]
      cases running : robot.failoverActive with
      | true =>
          rw [running] at kept
          exact reset_bracketed robot.failover kept
      | false =>
          rw [running] at kept
          exact kept
  | false =>
      obtain ⟨_, _, _, _, _, active, _⟩ := robot_periodic_failover sizes math robot input external
      rw [active, (robot_periodic_published sizes math robot input external).1]
      apply failover_periodic_bracketed
      rw [activated]
      cases running : robot.failoverActive with
      | true =>
          rw [running] at kept
          exact kept
      | false =>
          rw [running] at kept
          exact init_bracketed math input robot.failover kept

theorem mode_periodic_bracketed (robot : Robot) (input : LoopInput) (kept : Bracketed robot.failover robot.failoverActive) :
    Bracketed (Robot.modePeriodic math input robot).failover (Robot.modePeriodic math input robot).failoverActive := by
  obtain skipped | ⟨_, ran⟩ := mode_periodic_cases math robot input
  · rw [skipped]
    exact kept
  · rw [ran]
    exact teleop_bracketed math input robot.failover robot.failoverActive kept

theorem step_bracketed (system : RobotSystem) (event : RobotEvent)
    (kept : Bracketed system.robot.failover system.robot.failoverActive) :
    Bracketed (system.step sizes math event).robot.failover (system.step sizes math event).robot.failoverActive := by
  cases event with
  | externalControlMsgReceived => exact kept
  | processHeartbeat => exact kept
  | modeInit mode => exact kept
  | modePeriodic input => exact mode_periodic_bracketed math system.robot _ kept
  | robotPeriodic input => exact robot_periodic_bracketed sizes math system.robot _ kept

theorem robot_periodic_calls (robot : Robot) (input : LoopInput) :
    ∃ made, (Robot.robotPeriodic sizes math input robot).robot.failover.calls = robot.failover.calls ++ made ∧
      (.publishMessages ∈ made ↔ input.externalAtRobotPeriodic = false) := by
  cases external : input.externalAtRobotPeriodic with
  | true =>
      rw [(robot_periodic_external sizes math robot input external).2.2.2]
      cases robot.failoverActive with
      | true => exact ⟨[.reset], rfl, by simp⟩
      | false => exact ⟨[], (List.append_nil _).symm, by simp⟩
  | false =>
      rw [(robot_periodic_published sizes math robot input external).1, activated]
      cases robot.failoverActive with
      | true => exact ⟨[.publishMessages], rfl, by simp⟩
      | false => exact ⟨[.robotFailoverInit, .publishMessages], List.append_assoc _ _ _, by simp⟩

theorem mode_periodic_calls (robot : Robot) (input : LoopInput) :
    (Robot.modePeriodic math input robot).failover.calls = robot.failover.calls := by
  obtain skipped | ⟨_, ran⟩ := mode_periodic_cases math robot input
  · rw [skipped]
  · rw [ran]
    rfl

theorem publishes_unless_external (system : RobotSystem) (event : RobotEvent) :
    PublishesUnlessExternal sizes math system event := by
  refine ⟨?_, ?_, ?_⟩
  · cases event with
    | robotPeriodic input =>
        obtain ⟨made, calls, called⟩ := robot_periodic_calls sizes math system.robot (withReading system.isExternalControl input)
        refine ⟨made, calls, called.trans ⟨fun silent => ⟨⟨input, rfl⟩, silent⟩, And.right⟩⟩
    | modePeriodic input =>
        have calls := mode_periodic_calls math system.robot (withReading system.isExternalControl input)
        exact ⟨[], calls.trans (List.append_nil _).symm, by simp⟩
    | externalControlMsgReceived | processHeartbeat | modeInit mode => exact ⟨[], (List.append_nil _).symm, by simp⟩
  · intro input same external
    subst same
    obtain ⟨failover, published⟩ :=
      robot_periodic_published sizes math system.robot (withReading system.isExternalControl input) external
    refine Prod.ext (congrArg Failover.messages failover) published
  · intro connected
    cases event with
    | robotPeriodic input => exact (robot_periodic_external sizes math system.robot _ (connected input rfl)).1
    | modePeriodic input | externalControlMsgReceived | processHeartbeat | modeInit mode => rfl

theorem start_bracketed (mMotorConfiguration mLEDControl : Bytes) :
    Bracketed (RobotSystem.start mMotorConfiguration mLEDControl).robot.failover
      (RobotSystem.start mMotorConfiguration mLEDControl).robot.failoverActive := ⟨rfl, rfl, rfl, rfl, rfl⟩

theorem failover_activation_bracketed (mMotorConfiguration mLEDControl : Bytes) (events : List RobotEvent) :
    Runs.EachStep (RobotSystem.step sizes math)
      (fun system event => WellBracketed (system.step sizes math event).robot ∧ PublishesUnlessExternal sizes math system event)
      (RobotSystem.start mMotorConfiguration mLEDControl) events :=
  Runs.each_step_of_kept (RobotSystem.step sizes math)
    (fun system => Bracketed system.robot.failover system.robot.failoverActive) _ (step_bracketed sizes math)
    (fun system event kept =>
      ⟨well_bracketed_of_invariant _ (step_bracketed sizes math system event kept), publishes_unless_external sizes math system event⟩)
    events _ (start_bracketed mMotorConfiguration mLEDControl)

end System

end RioPassthru
