import RioPassthru.Passthru.ControlLoop

set_option autoImplicit false

namespace RioPassthru

namespace Passthru

open ApplyMotorValuesTask

variable (world : PassthruWorld)

-- What RobotPeriodic leaves to be placed, in a turn in which it begins.
def publishedIn (passthru : Passthru) : PassthruTurn → List FailoverMessage
  | .robotPeriodic input =>
      if passthru.toPlace = [] then
        (Robot.robotPeriodic world.sizes world.math (withReading passthru.isExternalControl input) passthru.robot).published
      else []
  | _ => []

-- A turn that brings bytes for the motors: a datagram that is stored, or a message that failover publishes
-- while the external controller is out of touch.
def Sends (bytes : Bytes) (passthru : Passthru) (next : PassthruTurn) : Prop :=
  passthru.point = .idle ∧ bytes.length ≠ EAGAIN ∧ next = .receive ⟨"motorcontrol", bytes⟩ ∨
    passthru.isExternalControl = false ∧ ∃ drives steering,
      .motorControl (failoverMotors drives steering) ∈ passthru.publishedIn world next ∧
      bytes = world.encode (.motorControl (failoverMotors drives steering))

def Stops (passthru : Passthru) : PassthruTurn → Prop
  | .checkDisabled => passthru.point = .checking ∧ passthru.robot.controlMode = .kDisabled
  | _ => False

-- The bytes on their way to ApplyMotorValuesTask are all from this source.
structure SlotFrom (source : Bytes → Prop) (passthru : Passthru) : Prop where
  contents : FailoverContents world.mMotorConfiguration world.mLEDControl passthru.robot.failover.messages
  expected : ∀ message ∈ passthru.toPlace, message.Expected world.mMotorConfiguration world.mLEDControl
  placing : ∀ motors, .motorControl motors ∈ passthru.toPlace → source (world.encode (.motorControl motors))
  slot : ∀ bytes, passthru.network.recvMsgMap "motorcontrol" = some bytes → source bytes

inductive MotorsAfter (passthru : Passthru) : PassthruTurn → MotorManager → Prop where
  | kept (next : PassthruTurn) : MotorsAfter passthru next passthru.stores.motors
  | applied (locked : Bool) : MotorsAfter passthru (.applyMotorValues locked)
      (applyMessage world.motors.toId passthru.stores
        ⟨(passthru.network.recvMsgMap "motorcontrol").bind world.parseMotorControl, locked, false⟩).motors
  | stopped (stops : Stops passthru .checkDisabled) : MotorsAfter passthru .checkDisabled (stopMasters passthru.stores.motors)
  | beaten : MotorsAfter passthru .processHeartbeat passthru.stores.processHeartbeat.motors

variable {world}

theorem slot_from_mono {source wider : Bytes → Prop} {passthru : Passthru} (kept : SlotFrom world source passthru)
    (implies : ∀ bytes, source bytes → wider bytes) : SlotFrom world wider passthru :=
  ⟨kept.contents, kept.expected, fun motors member => implies _ (kept.placing motors member),
    fun bytes held => implies bytes (kept.slot bytes held)⟩

theorem published_disconnected (robot : Robot) (input : LoopInput) (message : FailoverMessage)
    (published : message ∈ (Robot.robotPeriodic world.sizes world.math input robot).published) :
    input.externalAtRobotPeriodic = false := by
  cases reading : input.externalAtRobotPeriodic with
  | false => rfl
  | true =>
      rw [(robot_periodic_external world.sizes world.math robot input reading).1] at published
      cases published

theorem take_slot (passthru : Passthru) (group : String) (bytes : Bytes)
    (held : (passthru.take group).1.network.recvMsgMap "motorcontrol" = some bytes) :
    passthru.network.recvMsgMap "motorcontrol" = some bytes := by
  rw [take_store] at held
  by_cases same : group = "motorcontrol"
  · subst same
    rw [Function.update_self] at held
    cases held
  · rwa [Function.update_of_ne (Ne.symm same)] at held

theorem step_slot_from (source : Bytes → Prop) (passthru : Passthru) (next : PassthruTurn)
    (kept : SlotFrom world source passthru) (brings : ∀ bytes, Sends world bytes passthru next → source bytes) :
    SlotFrom world source (passthru.step world next) := by
  cases next with
  | modeInit mode =>
      simp only [step, turn, robotTurn]
      split
      · exact ⟨kept.contents, kept.expected, kept.placing, kept.slot⟩
      · exact kept
  | modePeriodic input =>
      simp only [step, turn, robotTurn]
      split
      · exact ⟨mode_periodic_contents world.math _ _ kept.contents, kept.expected, kept.placing, kept.slot⟩
      · exact kept
  | robotPeriodic input =>
      simp only [step, turn, robotTurn]
      split
      · rename_i idle
        obtain ⟨contents, expected⟩ := robot_periodic_contents world.sizes world.math passthru.robot
          (withReading passthru.isExternalControl input) kept.contents
        refine ⟨contents, expected, ?_, kept.slot⟩
        intro motors published
        obtain ⟨drives, steering, rfl⟩ := expected (.motorControl motors) published
        refine brings _ (.inr ⟨published_disconnected _ _ _ published, drives, steering, ?_, rfl⟩)
        rw [publishedIn, if_pos idle]
        exact published
      · exact kept
  | placeMessage =>
      simp only [step, turn, robotTurn]
      split
      · rename_i message rest waiting
        refine ⟨kept.contents, fun other member => kept.expected other (waiting ▸ List.mem_cons_of_mem _ member),
          fun motors member => kept.placing motors (waiting ▸ List.mem_cons_of_mem _ member), ?_⟩
        intro bytes held
        simp only [NetworkManager.placeFailoverMessage] at held
        by_cases own : message.group = "motorcontrol"
        · rw [own, Function.update_self] at held
          cases message with
          | motorControl motors =>
              cases held
              exact kept.placing motors (waiting ▸ List.mem_cons_self)
          | solenoidControl solenoids | motorConfig bytes | ledControl bytes => simp [FailoverMessage.group] at own
        · rw [Function.update_of_ne (Ne.symm own)] at held
          exact kept.slot bytes held
      · exact kept
  | receive msg =>
      simp only [step, turn, schedulerTurn]
      split
      · rename_i idle
        refine ⟨kept.contents, kept.expected, kept.placing, ?_⟩
        intro bytes held
        simp only [NetworkManager.storeReceived] at held
        by_cases own : msg.group = "motorcontrol"
        · rw [own, Function.update_self] at held
          cases held
          exact brings msg.payload (.inl ⟨idle.1, idle.2, by rw [← own]⟩)
        · rw [Function.update_of_ne (Ne.symm own)] at held
          exact kept.slot bytes held
      · exact kept
  | applyMotorValues locked | applyMotorConfig locked getEncoder outcomes | poll group =>
      simp only [step, turn, schedulerTurn]
      split
      · exact ⟨kept.contents, kept.expected, kept.placing, fun bytes held => kept.slot bytes (take_slot _ _ bytes held)⟩
      · exact kept
  | report | checkDisabled | processHeartbeat =>
      simp only [step, turn, schedulerTurn]
      split
      · exact ⟨kept.contents, kept.expected, kept.placing, kept.slot⟩
      · exact kept

theorem scheduler_turn_robot (passthru : Passthru) (next : PassthruTurn) :
    (passthru.schedulerTurn world next).1.robot = passthru.robot := by
  cases next with
  | modeInit mode | modePeriodic input | robotPeriodic input | placeMessage => rfl
  | receive msg | report | applyMotorValues locked | checkDisabled | applyMotorConfig locked getEncoder outcomes
  | poll group | processHeartbeat =>
      simp only [schedulerTurn]
      split <;> rfl

theorem robot_turn_motors (passthru : Passthru) (next : PassthruTurn) :
    (passthru.robotTurn world next).1.stores = passthru.stores ∧ (passthru.robotTurn world next).1.point = passthru.point := by
  cases next with
  | modeInit mode | modePeriodic input | robotPeriodic input | placeMessage =>
      simp only [robotTurn]
      split <;> exact ⟨rfl, rfl⟩
  | receive msg | report | applyMotorValues locked | checkDisabled | applyMotorConfig locked getEncoder outcomes
  | poll group | processHeartbeat => exact ⟨rfl, rfl⟩

theorem motor_part_coherent (passthru : Passthru) (part : MotorPart world passthru) : passthru.stores.Coherent := by
  obtain ⟨ops, same⟩ := part
  rw [same]
  exact (reached_invariant world.motors ops).1

theorem step_motors (passthru : Passthru) (next : PassthruTurn) (part : MotorPart world passthru) :
    MotorsAfter world passthru next (passthru.step world next).stores.motors := by
  cases next with
  | modeInit mode | modePeriodic input | robotPeriodic input | placeMessage =>
      simp only [step, turn]
      rw [(robot_turn_motors passthru _).1]
      exact .kept _
  | receive msg | report | poll group =>
      simp only [step, turn, schedulerTurn]
      split <;> exact .kept _
  | applyMotorValues locked =>
      simp only [step, turn, schedulerTurn]
      split
      · rw [take_answer]
        exact .applied locked
      · exact .kept _
  | checkDisabled =>
      simp only [step, turn, schedulerTurn]
      split
      · rename_i checking
        dsimp only
        split
        · rename_i disabled
          exact .stopped ⟨checking, disabled⟩
        · exact .kept _
      · exact .kept _
  | applyMotorConfig locked getEncoder outcomes =>
      simp only [step, turn, schedulerTurn]
      split
      · rw [config_run_motors world.motors.proto _ (motor_part_coherent passthru part)]
        exact .kept _
      · exact .kept _
  | processHeartbeat =>
      simp only [step, turn, schedulerTurn]
      split
      · exact .beaten
      · exact .kept _

end Passthru

end RioPassthru
