import RioPassthru.Passthru.MotorProvenance
import RioPassthru.Scheduler.IterativeRobotBase

set_option autoImplicit false

namespace RioPassthru

def MotorManager.Still (motors : MotorManager) : Prop :=
  ∀ id ∈ heldMotors, ∀ mCtrl : BaseTalon, motors.mRegisteredMotorList[id]? = some mCtrl →
    mCtrl.lastCommand = some (.set .percentOutput 0 0)

namespace ApplyMotorValuesTask

-- A motor without a stored configuration is out of reach of a message, but it cannot be registered either.
theorem failover_entries_still (toId : Double → Nat) (stores : MotorStores) (coherent : stores.Coherent)
    (drives steering : PerWheel Double) :
    ((failoverMotors drives steering).foldl (applyMotor toId) stores).motors.Still := by
  intro id member mCtrl found
  have later := entries_coherent toId (failoverMotors drives steering) stores coherent
  have registered : id ∈ ((failoverMotors drives steering).foldl (applyMotor toId) stores).motors.mRegisteredMotorList :=
    Std.ExtTreeMap.mem_iff_isSome_getElem?.mpr (by rw [found]; rfl)
  have configured := later.known id registered
  rw [entries_configs] at configured
  obtain ⟨stopped, same, still⟩ := entries_still toId stores drives steering id member configured
  rw [found] at same
  cases same
  exact still

theorem stop_masters_still (motors : MotorManager) (still : motors.Still) : (stopMasters motors).Still := by
  intro id member mCtrl found
  rw [stop_masters_get] at found
  obtain ⟨before, held, rfl⟩ := Option.map_eq_some_iff.mp found
  rw [stopOf]
  split
  · exact received_some before _
  · exact still id member before held

end ApplyMotorValuesTask

namespace Passthru

open ApplyMotorValuesTask

variable (world : PassthruWorld)

section Disabled

def AtRest (motors : MotorManager) : Prop :=
  ∀ (id : Nat) (mCtrl : BaseTalon), motors.mRegisteredMotorList[id]? = some mCtrl →
    mCtrl.getControlMode = .follower ∨ mCtrl.lastCommand = some (.set .percentOutput 0 0)

-- A check has found the robot disabled, and no mode but Disabled has begun since.
def DisabledSinceCheck (turns : List PassthruTurn) : Prop :=
  ∃ before after, turns = before ++ .checkDisabled :: after ∧ Stops (reached world before) .checkDisabled ∧
    ∀ next ∈ after, ∀ mode, next = .modeInit mode → mode = .kDisabled

-- Between a message and the check that follows it the motors may move.
structure HeldDisabled (passthru : Passthru) : Prop where
  motorPart : MotorPart world passthru
  disabled : passthru.robot.controlMode = .kDisabled
  rest : passthru.point ≠ .checking → AtRest passthru.stores.motors

variable {world}

theorem stop_masters_at_rest (motors : MotorManager) : AtRest (stopMasters motors) := by
  intro id mCtrl found
  rw [stop_masters_get] at found
  obtain ⟨before, _, rfl⟩ := Option.map_eq_some_iff.mp found
  by_cases follows : before.getControlMode = .follower
  · rw [stopOf, if_neg (not_not.mpr follows), received_none]
    exact .inl follows
  · rw [stopOf, if_pos follows]
    exact .inr (received_some before _)

theorem step_disabled (passthru : Passthru) (next : PassthruTurn) (disabled : passthru.robot.controlMode = .kDisabled)
    (stays : ∀ mode, next = .modeInit mode → mode = .kDisabled) :
    (passthru.step world next).robot.controlMode = .kDisabled := by
  cases next with
  | modeInit mode =>
      simp only [step, turn, robotTurn]
      split
      · exact stays mode rfl
      · exact disabled
  | modePeriodic input =>
      simp only [step, turn, robotTurn]
      split
      · exact (Robot.mode_periodic_modes _ _ _).1.trans disabled
      · exact disabled
  | robotPeriodic input =>
      simp only [step, turn, robotTurn]
      split
      · exact (Robot.robot_periodic_modes _ _ _ _).1.trans disabled
      · exact disabled
  | placeMessage =>
      simp only [step, turn, robotTurn]
      split <;> exact disabled
  | receive msg | report | applyMotorValues locked | checkDisabled | applyMotorConfig locked getEncoder outcomes
  | poll group | processHeartbeat =>
      exact (congrArg Robot.controlMode (scheduler_turn_robot passthru _)).trans disabled

theorem step_point (passthru : Passthru) (next : PassthruTurn) (settled : (passthru.step world next).point ≠ .checking) :
    passthru.point ≠ .checking ∨ next = .checkDisabled := by
  cases next with
  | checkDisabled => exact .inr rfl
  | modeInit mode | modePeriodic input | robotPeriodic input | placeMessage =>
      simp only [step, turn] at settled
      rw [(robot_turn_motors passthru _).2] at settled
      exact .inl settled
  | receive msg | report | applyMotorValues locked | applyMotorConfig locked getEncoder outcomes | poll group
  | processHeartbeat =>
      refine .inl fun checking => settled ?_
      simp [step, turn, schedulerTurn, checking]

theorem step_at_rest (passthru : Passthru) (next : PassthruTurn) (held : HeldDisabled world passthru)
    (settled : (passthru.step world next).point ≠ .checking) : AtRest (passthru.step world next).stores.motors := by
  obtain idle | rfl := step_point passthru next settled
  · have after := step_motors passthru next held.motorPart
    generalize motors : (passthru.step world next).stores.motors = later at after
    cases after with
    | kept => exact held.rest idle
    | stopped => exact stop_masters_at_rest _
    | beaten => exact fun id mCtrl found => held.rest idle id mCtrl (MotorStores.process_heartbeat_found _ id mCtrl found)
    | applied locked =>
        by_cases begins : passthru.point = .idle
        · simp [step, turn, schedulerTurn, begins] at settled
        · simp only [step, turn, schedulerTurn, if_neg begins] at motors
          rw [← motors]
          exact held.rest idle
  · simp only [step, turn, schedulerTurn, held.disabled, if_true]
    split
    · exact stop_masters_at_rest _
    · rename_i idle
      exact held.rest idle

-- So nothing an external controller or failover sends moves a disabled robot for longer than one run of the task.
theorem disabled_motors_stay_at_rest (turns : List PassthruTurn) (disabled : DisabledSinceCheck world turns)
    (settled : (reached world turns).point ≠ .checking) : AtRest (reached world turns).stores.motors := by
  obtain ⟨before, after, rfl, ⟨checking, mode⟩, stays⟩ := disabled
  rw [reached, Runs.run_steps_append] at settled ⊢
  have first : HeldDisabled world ((reached world before).step world .checkDisabled) := by
    refine ⟨step_motor_part _ _ (reached_parts before).2, step_disabled _ _ mode nofun, ?_⟩
    simp only [step, turn, schedulerTurn, checking, mode, if_true]
    exact fun _ => stop_masters_at_rest _
  have kept := Runs.run_steps_while (step world) (HeldDisabled world)
    (fun next => ∀ mode, next = .modeInit mode → mode = .kDisabled)
    (fun passthru next held stays =>
      ⟨step_motor_part passthru next held.motorPart, step_disabled passthru next held.disabled stays,
        step_at_rest passthru next held⟩)
    after _ first stays
  exact kept.rest settled

def oneMotorWorld : PassthruWorld where
  motors := truncatingWorld
  sizes := entryBytes
  math := exactSwerve
  encode := fun _ => []
  parseMotorControl := fun _ => some [⟨1, .talonFX, .percentOutput, .finite (1 / 2), 0⟩]
  parseMotorConfiguration := fun _ => some [firstMotor]
  mMotorConfiguration := []
  mLEDControl := []

def firstDrive : List PassthruTurn :=
  [.receive ⟨"motorconfig", [1]⟩, .report, .applyMotorConfig true (fun _ => none) (fun _ _ _ _ => .OK),
    .receive ⟨"motorcontrol", [2]⟩, .report, .applyMotorValues true]

def secondDrive : List PassthruTurn :=
  [.receive ⟨"motorcontrol", [2]⟩, .report, .applyMotorValues true, .modeInit .kDisabled, .checkDisabled, .processHeartbeat]

theorem driven_motor_stays_at_rest :
    AtRest (reached oneMotorWorld (firstDrive ++ .checkDisabled :: secondDrive)).stores.motors :=
  disabled_motors_stay_at_rest _
    ⟨firstDrive, secondDrive, rfl, ⟨by decide +kernel, by decide +kernel⟩, by
      intro next member mode same
      subst same
      simpa [secondDrive] using member⟩
    (by decide +kernel)

example : (reached oneMotorWorld (firstDrive ++ .checkDisabled :: secondDrive)).stores.motors.motorExists 1 = true := by
  decide +kernel

end Disabled

section Hold

variable (world : PassthruWorld)

def FailoverBytes (bytes : Bytes) : Prop :=
  ∃ drives steering, bytes = world.encode (.motorControl (failoverMotors drives steering))

-- What protobuf reads back from a message of failover is such a message.
def ReadsBack : Prop :=
  ∀ bytes, FailoverBytes world bytes → ∀ message, world.parseMotorControl bytes = some message →
    ∃ drives steering, message = failoverMotors drives steering

structure FailoverPending (passthru : Passthru) : Prop where
  idle : passthru.point = .idle
  pending : ∃ bytes drives steering, passthru.network.recvMsgMap "motorcontrol" = some bytes ∧
    world.parseMotorControl bytes = some (failoverMotors drives steering)

-- It got one, and no message for the motors has come from the external controller since.
def FailoverTookHold (turns : List PassthruTurn) : Prop :=
  ∃ before after, turns = before ++ .applyMotorValues true :: after ∧ FailoverPending world (reached world before) ∧
    ∀ next ∈ after, ∀ bytes, next ≠ .receive ⟨"motorcontrol", bytes⟩

structure HeldByFailover (passthru : Passthru) : Prop where
  motorPart : MotorPart world passthru
  sources : SlotFrom world (FailoverBytes world) passthru
  still : passthru.stores.motors.Still

variable {world}

theorem apply_message_still (readsBack : ReadsBack world) (passthru : Passthru) (held : HeldByFailover world passthru)
    (locked : Bool) : (applyMessage world.motors.toId passthru.stores
      ⟨(passthru.network.recvMsgMap "motorcontrol").bind world.parseMotorControl, locked, false⟩).motors.Still := by
  rw [applyMessage]
  split
  · rename_i message parsed
    obtain ⟨bytes, waiting, read⟩ := Option.bind_eq_some_iff.mp parsed
    obtain ⟨drives, steering, rfl⟩ := readsBack bytes (held.sources.slot bytes waiting) message read
    split
    · exact failover_entries_still _ _ (motor_part_coherent passthru held.motorPart) drives steering
    · exact held.still
  · exact held.still

theorem silent_sends (passthru : Passthru) (next : PassthruTurn) (silent : ∀ bytes, next ≠ .receive ⟨"motorcontrol", bytes⟩)
    (bytes : Bytes) (sends : Sends world bytes passthru next) : FailoverBytes world bytes := by
  obtain ⟨_, _, received⟩ | ⟨_, drives, steering, _, encoded⟩ := sends
  · exact absurd received (silent bytes)
  · exact ⟨drives, steering, encoded⟩

theorem step_held_by_failover (readsBack : ReadsBack world) (passthru : Passthru) (next : PassthruTurn)
    (held : HeldByFailover world passthru) (silent : ∀ bytes, next ≠ .receive ⟨"motorcontrol", bytes⟩) :
    HeldByFailover world (passthru.step world next) := by
  refine ⟨step_motor_part passthru next held.motorPart,
    step_slot_from _ passthru next held.sources (silent_sends passthru next silent), ?_⟩
  have after := step_motors passthru next held.motorPart
  generalize (passthru.step world next).stores.motors = motors at after
  cases after with
  | kept => exact held.still
  | applied locked => exact apply_message_still readsBack passthru held locked
  | stopped => exact stop_masters_still _ held.still
  | beaten => exact fun id member mCtrl found => held.still id member mCtrl (MotorStores.process_heartbeat_found _ id mCtrl found)

theorem take_failover_held (turns : List PassthruTurn) (pending : FailoverPending world (reached world turns)) :
    HeldByFailover world ((reached world turns).step world (.applyMotorValues true)) := by
  obtain ⟨idle, bytes, drives, steering, waiting, parsed⟩ := pending
  refine ⟨step_motor_part _ _ (reached_parts turns).2, ?_, ?_⟩
  · have known : SlotFrom world (BytesSent world turns) (reached world turns) := (reached_provenance turns).sources
    simp only [step, turn, schedulerTurn, if_pos idle]
    refine ⟨known.contents, known.expected, ?_, ?_⟩
    · intro motors member
      obtain ⟨drives, steering, rfl⟩ := known.expected _ member
      exact ⟨drives, steering, rfl⟩
    · intro later held
      rw [take_store, Function.update_self] at held
      cases held
  · have applied := failover_entries_still world.motors.toId (reached world turns).stores (reached_motors turns).1
      drives steering
    simp only [step, turn, schedulerTurn, if_pos idle]
    rw [take_answer, waiting, Option.bind_some, parsed, applyMessage]
    exact applied

theorem failover_holds_arm_until_next_message (readsBack : ReadsBack world) (turns : List PassthruTurn)
    (held : FailoverTookHold world turns) : (reached world turns).stores.motors.Still := by
  obtain ⟨before, after, rfl, pending, silent⟩ := held
  rw [reached, Runs.run_steps_append]
  have kept := Runs.run_steps_while (step world) (HeldByFailover world)
    (fun next => ∀ bytes, next ≠ .receive ⟨"motorcontrol", bytes⟩) (step_held_by_failover readsBack) after _
    (take_failover_held before pending) silent
  exact kept.still

def armWorld : PassthruWorld where
  motors := truncatingWorld
  sizes := entryBytes
  math := exactSwerve
  encode := fun message => if message.group = "motorcontrol" then [3] else [1]
  parseMotorControl := fun bytes =>
    if bytes = [3] then some (failoverMotors ⟨0, 0, 0, 0⟩ ⟨0, 0, 0, 0⟩)
    else some [⟨11, .talonFX, .percentOutput, .finite (1 / 2), 0⟩]
  parseMotorConfiguration := fun _ => some armMotors
  mMotorConfiguration := []
  mLEDControl := []

def lostController : List PassthruTurn :=
  .modeInit .kTeleop :: .receive ⟨"motorconfig", [1]⟩ :: .report ::
    .applyMotorConfig true (fun _ => none) (fun _ _ _ _ => .OK) :: .receive ⟨"motorcontrol", [2]⟩ :: .report ::
    .applyMotorValues true :: .checkDisabled ::
    List.replicate 50 PassthruTurn.processHeartbeat ++ [.robotPeriodic (failoverLoop .kTeleop 0), .placeMessage]

def failoverGoesOn : List PassthruTurn :=
  [.placeMessage, .checkDisabled, .receive ⟨"ledcontrol", [2]⟩, .placeMessage, .report, .processHeartbeat,
    .modePeriodic (failoverLoop .kTeleop 0), .applyMotorValues false, .checkDisabled]

theorem lost_controller_arm_held :
    (reached armWorld (lostController ++ .applyMotorValues true :: failoverGoesOn)).stores.motors.Still := by
  apply failover_holds_arm_until_next_message
  · intro bytes ⟨_, _, sent⟩ message read
    subst sent
    exact ⟨⟨0, 0, 0, 0⟩, ⟨0, 0, 0, 0⟩, (Option.some.inj read).symm⟩
  · refine ⟨lostController, failoverGoesOn, rfl, ⟨by decide +kernel, ?_⟩, ?_⟩
    · exact ⟨[3], ⟨0, 0, 0, 0⟩, ⟨0, 0, 0, 0⟩, by decide +kernel, rfl⟩
    · intro next member bytes same
      subst same
      simp [failoverGoesOn] at member

end Hold

end Passthru

end RioPassthru
