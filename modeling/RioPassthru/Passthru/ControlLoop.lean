import RioPassthru.Failover.Bracketing
import RioPassthru.Failover.Handover
import RioPassthru.Failover.PublishedMessages
import RioPassthru.Lib.Fifo
import RioPassthru.Lib.Histories

set_option autoImplicit false

namespace RioPassthru

open ApplyMotorValuesTask

-- Between two of its turns the scheduler thread is in no task, in the pump with a datagram stored
-- that is not reported yet, or in ApplyMotorValuesTask::run before it asks for the control mode.
inductive SchedulerPoint where
  | idle
  | reporting
  | checking
deriving DecidableEq, Repr

-- The robot thread and the scheduler thread around the message store and the motors. toPlace is
-- what publishMessages has left to place.
structure Passthru where
  robot : Robot
  toPlace : List FailoverMessage
  external : ExternalControlManager
  network : NetworkManager
  stores : MotorStores
  point : SchedulerPoint

-- What the program is compiled against: protobuf, the arithmetic and the failover configuration.
structure PassthruWorld where
  motors : MotorWorld
  sizes : EntrySizes
  math : SwerveMath
  encode : FailoverMessage → Bytes
  parseMotorControl : Bytes → Option (List MotorControlMotor)
  parseMotorConfiguration : Bytes → Option (List MotorConfigurationMotor)
  mMotorConfiguration : Bytes
  mLEDControl : Bytes

inductive PassthruTurn where
  | modeInit (mode : Mode)
  | modePeriodic (input : LoopInput)
  | robotPeriodic (input : LoopInput)
  | placeMessage
  | receive (msg : Datagram)
  | report
  | applyMotorValues (locked : Bool)
  | checkDisabled
  | applyMotorConfig (locked : Bool) (getEncoder : Int → Option Int) (outcomes : RunOutcomes)
  | poll (group : String)
  | processHeartbeat

inductive PassthruEffect where
  | quiet
  | stored (group : String) (bytes : Bytes)
  | took (group : String) (bytes : Bytes)
deriving DecidableEq, Repr

namespace Passthru

variable (world : PassthruWorld)

def start : Passthru :=
  ⟨Robot.start world.mMotorConfiguration world.mLEDControl, [], ⟨0⟩, ⟨[], fun _ => none⟩, .empty, .idle⟩

def isExternalControl (passthru : Passthru) : Bool := passthru.external.isExternalControlConnected

def take (passthru : Passthru) (group : String) : Passthru × Option Bytes :=
  let answer := passthru.network.getMessage group
  ({ passthru with network := answer.1 }, answer.2)

theorem take_store (passthru : Passthru) (group : String) :
    (passthru.take group).1.network.recvMsgMap = Function.update passthru.network.recvMsgMap group none := by
  simp only [take, NetworkManager.getMessage]
  split
  · rfl
  · rename_i empty
    rw [← empty, Function.update_eq_self]

theorem take_answer (passthru : Passthru) (group : String) :
    (passthru.take group).2 = passthru.network.recvMsgMap group := by
  simp only [take, NetworkManager.getMessage]
  split
  · rename_i found
    exact found.symm
  · rename_i empty
    exact empty.symm

def effectOf (group : String) : Option Bytes → PassthruEffect
  | some bytes => .took group bytes
  | none => .quiet

def robotTurn (passthru : Passthru) : PassthruTurn → Passthru × PassthruEffect
  | .modeInit mode =>
      if passthru.toPlace = [] then
        ({ passthru with robot := { passthru.robot with controlMode := mode } }, .quiet)
      else (passthru, .quiet)
  | .modePeriodic input =>
      if passthru.toPlace = [] then
        ({ passthru with
          robot := Robot.modePeriodic world.math (withReading passthru.isExternalControl input) passthru.robot }, .quiet)
      else (passthru, .quiet)
  | .robotPeriodic input =>
      if passthru.toPlace = [] then
        let run := Robot.robotPeriodic world.sizes world.math (withReading passthru.isExternalControl input) passthru.robot
        ({ passthru with
          robot := run.robot
          toPlace := run.published }, .quiet)
      else (passthru, .quiet)
  | .placeMessage =>
      match passthru.toPlace with
      | next :: rest =>
          ({ passthru with
            network := passthru.network.placeFailoverMessage next.group (world.encode next)
            toPlace := rest }, .stored next.group (world.encode next))
      | [] => (passthru, .quiet)
  | _ => (passthru, .quiet)

def schedulerTurn (passthru : Passthru) : PassthruTurn → Passthru × PassthruEffect
  | .receive msg =>
      if passthru.point = .idle ∧ msg.payload.length ≠ EAGAIN then
        ({ passthru with
          network := passthru.network.storeReceived msg
          point := .reporting }, .stored msg.group msg.payload)
      else (passthru, .quiet)
  | .report =>
      if passthru.point = .reporting then
        ({ passthru with
          external := passthru.external.externalControlMsgReceived
          point := .idle }, .quiet)
      else (passthru, .quiet)
  | .applyMotorValues locked =>
      if passthru.point = .idle then
        let taken := passthru.take "motorcontrol"
        ({ taken.1 with
          stores := applyMessage world.motors.toId passthru.stores ⟨taken.2.bind world.parseMotorControl, locked, false⟩
          point := .checking }, effectOf "motorcontrol" taken.2)
      else (passthru, .quiet)
  | .checkDisabled =>
      if passthru.point = .checking then
        ({ passthru with
          stores :=
            if passthru.robot.controlMode = .kDisabled then
              { passthru.stores with motors := stopMasters passthru.stores.motors }
            else passthru.stores
          point := .idle }, .quiet)
      else (passthru, .quiet)
  | .applyMotorConfig locked getEncoder outcomes =>
      if passthru.point = .idle then
        let taken := passthru.take "motorconfig"
        ({ taken.1 with
          stores := (ApplyMotorConfigTask.run world.motors.proto passthru.stores
            ⟨taken.2.bind world.parseMotorConfiguration, locked, getEncoder, outcomes⟩).1 },
          effectOf "motorconfig" taken.2)
      else (passthru, .quiet)
  | .poll group =>
      if passthru.point = .idle ∧ group ≠ "motorcontrol" ∧ group ≠ "motorconfig" then
        let taken := passthru.take group
        (taken.1, effectOf group taken.2)
      else (passthru, .quiet)
  | .processHeartbeat =>
      if passthru.point = .idle then
        ({ passthru with
          stores := passthru.stores.processHeartbeat
          external := passthru.external.processHeartbeat }, .quiet)
      else (passthru, .quiet)
  | _ => (passthru, .quiet)

def turn (passthru : Passthru) (next : PassthruTurn) : Passthru × PassthruEffect :=
  match next with
  | .modeInit _ | .modePeriodic _ | .robotPeriodic _ | .placeMessage => passthru.robotTurn world next
  | _ => passthru.schedulerTurn world next

def step (passthru : Passthru) (next : PassthruTurn) : Passthru := (passthru.turn world next).1

def reached (turns : List PassthruTurn) : Passthru := Runs.runSteps (step world) (start world) turns

def effects (turns : List PassthruTurn) : List PassthruEffect := (Runs.runLog (turn world) (start world) turns).2

section Parts

def robotSystem (events : List RobotEvent) : RobotSystem :=
  Runs.runSteps (RobotSystem.step world.sizes world.math)
    (RobotSystem.start world.mMotorConfiguration world.mLEDControl) events

def RobotPart (passthru : Passthru) : Prop :=
  ∃ events, passthru.robot = (robotSystem world events).robot ∧ passthru.external = (robotSystem world events).external

variable {world}

theorem robot_part_event (passthru next : Passthru) (part : RobotPart world passthru) (event : RobotEvent)
    (robot : ∀ system : RobotSystem, passthru.robot = system.robot → passthru.external = system.external →
      next.robot = (system.step world.sizes world.math event).robot ∧
        next.external = (system.step world.sizes world.math event).external) : RobotPart world next := by
  obtain ⟨events, same, external⟩ := part
  refine ⟨events ++ [event], ?_⟩
  rw [robotSystem, Histories.run_steps_concat]
  exact robot _ same external

theorem robot_part_same (passthru next : Passthru) (part : RobotPart world passthru)
    (robot : next.robot = passthru.robot) (external : next.external = passthru.external) :
    RobotPart world next := by
  rwa [RobotPart, robot, external]

theorem step_robot_part (passthru : Passthru) (next : PassthruTurn) (part : RobotPart world passthru) :
    RobotPart world (passthru.step world next) := by
  cases next with
  | modeInit mode =>
      simp only [step, turn, robotTurn]
      split
      · apply robot_part_event passthru _ part (.modeInit mode)
        intro system robot external
        exact ⟨by rw [RobotSystem.step, RobotSystem.robotAfter, robot], external⟩
      · exact part
  | modePeriodic input =>
      simp only [step, turn, robotTurn]
      split
      · apply robot_part_event passthru _ part (.modePeriodic input)
        intro system robot external
        refine ⟨?_, external⟩
        rw [RobotSystem.step, RobotSystem.robotAfter, robot, isExternalControl, RobotSystem.isExternalControl, external]
      · exact part
  | robotPeriodic input =>
      simp only [step, turn, robotTurn]
      split
      · apply robot_part_event passthru _ part (.robotPeriodic input)
        intro system robot external
        refine ⟨?_, external⟩
        rw [RobotSystem.step, RobotSystem.robotAfter, RobotSystem.robotPeriodic, robot, isExternalControl,
          RobotSystem.isExternalControl, external]
      · exact part
  | placeMessage =>
      simp only [step, turn, robotTurn]
      split
      · exact robot_part_same passthru _ part rfl rfl
      · exact part
  | report =>
      simp only [step, turn, schedulerTurn]
      split
      · apply robot_part_event passthru _ part .externalControlMsgReceived
        exact fun system robot external => ⟨robot, rfl⟩
      · exact part
  | processHeartbeat =>
      simp only [step, turn, schedulerTurn]
      split
      · apply robot_part_event passthru _ part .processHeartbeat
        exact fun system robot external => ⟨robot, congrArg ExternalControlManager.processHeartbeat external⟩
      · exact part
  | receive msg | applyMotorValues locked | checkDisabled | applyMotorConfig locked getEncoder outcomes | poll group =>
      simp only [step, turn, schedulerTurn]
      split
      · exact robot_part_same passthru _ part rfl rfl
      · exact part

variable (world) in
def MotorPart (passthru : Passthru) : Prop := ∃ ops, passthru.stores = RioPassthru.reached world.motors ops

theorem motor_part_op (passthru next : Passthru) (part : MotorPart world passthru) (op : MotorOp)
    (stores : next.stores = motorStep world.motors passthru.stores op) : MotorPart world next := by
  obtain ⟨ops, same⟩ := part
  refine ⟨ops ++ [op], ?_⟩
  rw [RioPassthru.reached, Histories.run_steps_concat, stores, same, RioPassthru.reached]

theorem step_motor_part (passthru : Passthru) (next : PassthruTurn) (part : MotorPart world passthru) :
    MotorPart world (passthru.step world next) := by
  cases next with
  | modeInit mode | modePeriodic input | robotPeriodic input | placeMessage =>
      simp only [step, turn, robotTurn]
      split <;> exact part
  | receive msg | report | poll group =>
      simp only [step, turn, schedulerTurn]
      split <;> exact part
  | applyMotorValues locked =>
      simp only [step, turn, schedulerTurn]
      split
      · exact motor_part_op passthru _ part
          (.applyMotorValues ⟨(passthru.take "motorcontrol").2.bind world.parseMotorControl, locked, false⟩) rfl
      · exact part
  | checkDisabled =>
      simp only [step, turn, schedulerTurn]
      split
      · apply motor_part_op passthru _ part (.applyMotorValues ⟨none, false, decide (passthru.robot.controlMode = .kDisabled)⟩)
        rw [motorStep, ApplyMotorValuesTask.run, applyMessage]
        by_cases disabled : passthru.robot.controlMode = .kDisabled <;> simp [disabled]
      · exact part
  | applyMotorConfig locked getEncoder outcomes =>
      simp only [step, turn, schedulerTurn]
      split
      · exact motor_part_op passthru _ part (.applyMotorConfig
          ⟨(passthru.take "motorconfig").2.bind world.parseMotorConfiguration, locked, getEncoder, outcomes⟩) rfl
      · exact part
  | processHeartbeat =>
      simp only [step, turn, schedulerTurn]
      split
      · exact motor_part_op passthru _ part .processHeartbeat rfl
      · exact part

theorem reached_parts (turns : List PassthruTurn) :
    RobotPart world (reached world turns) ∧ MotorPart world (reached world turns) := by
  refine Runs.run_steps_invariant (step world) (fun passthru => RobotPart world passthru ∧ MotorPart world passthru) ?_
    turns (start world) ⟨⟨[], rfl, rfl⟩, ⟨[], rfl⟩⟩
  exact fun passthru next parts => ⟨step_robot_part passthru next parts.1, step_motor_part passthru next parts.2⟩

theorem reached_motors (turns : List PassthruTurn) :
    (reached world turns).stores.Coherent ∧ (reached world turns).stores.motors.Numbered := by
  obtain ⟨ops, same⟩ := (reached_parts turns).2
  rw [same]
  exact reached_invariant world.motors ops

end Parts

section Order

variable (group : String)

def storedBytes : PassthruEffect → Option Bytes
  | .stored other bytes => if other = group then some bytes else none
  | _ => none

def tookBytes : PassthruEffect → Option Bytes
  | .took other bytes => if other = group then some bytes else none
  | _ => none

def slotOf (passthru : Passthru) : Option Bytes := passthru.network.recvMsgMap group

abbrev SlotSteps (passthru : Passthru) (outcome : Passthru × PassthruEffect) : Prop :=
  Slot.Steps (slotOf group) (storedBytes group) (tookBytes group) passthru outcome

theorem quiet_steps (passthru next : Passthru) (network : next.network = passthru.network) :
    SlotSteps group passthru (next, .quiet) :=
  ⟨nofun, nofun, fun _ _ => congrArg (fun network => network.recvMsgMap group) network⟩

theorem store_steps (passthru next : Passthru) (other : String) (bytes : Bytes)
    (network : next.network.recvMsgMap = Function.update passthru.network.recvMsgMap other (some bytes)) :
    SlotSteps group passthru (next, .stored other bytes) := by
  refine ⟨?_, nofun, ?_⟩
  · intro item stored
    obtain ⟨rfl, rfl⟩ := Option.ite_some_none_eq_some.mp stored
    exact ⟨rfl, by rw [slotOf, network, Function.update_self]⟩
  · intro absent _
    have apart : other ≠ group := fun same => by simp [storedBytes, same] at absent
    rw [slotOf, network, Function.update_of_ne (Ne.symm apart), slotOf]

theorem take_steps (passthru next : Passthru) (other : String)
    (network : next.network = (passthru.take other).1.network) :
    SlotSteps group passthru (next, effectOf other (passthru.take other).2) := by
  have after : slotOf group next = Function.update passthru.network.recvMsgMap other none group := by
    rw [slotOf, network, take_store]
  rw [take_answer]
  cases held : passthru.network.recvMsgMap other with
  | none =>
      refine ⟨nofun, nofun, fun _ _ => ?_⟩
      rw [after, ← held, Function.update_eq_self, slotOf]
  | some bytes =>
      refine ⟨nofun, ?_, ?_⟩
      · intro item took
        obtain ⟨rfl, rfl⟩ := Option.ite_some_none_eq_some.mp took
        exact ⟨held, by rw [after, Function.update_self]⟩
      · intro _ absent
        have apart : other ≠ group := fun same => by simp [effectOf, tookBytes, same] at absent
        rw [after, Function.update_of_ne (Ne.symm apart), slotOf]

theorem turn_steps (passthru : Passthru) (next : PassthruTurn) : SlotSteps group passthru (turn world passthru next) := by
  cases next with
  | modeInit mode | modePeriodic input | robotPeriodic input =>
      simp only [turn, robotTurn]
      split <;> exact quiet_steps group _ _ rfl
  | report | checkDisabled | processHeartbeat =>
      simp only [turn, schedulerTurn]
      split <;> exact quiet_steps group _ _ rfl
  | placeMessage =>
      simp only [turn, robotTurn]
      split
      · exact store_steps group passthru _ _ _ rfl
      · exact quiet_steps group _ _ rfl
  | receive msg =>
      simp only [turn, schedulerTurn]
      split
      · exact store_steps group passthru _ _ _ rfl
      · exact quiet_steps group _ _ rfl
  | applyMotorValues locked | applyMotorConfig locked getEncoder outcomes | poll other =>
      simp only [turn, schedulerTurn]
      split
      · exact take_steps group passthru _ _ rfl
      · exact quiet_steps group _ _ rfl

-- Whoever sent them, the messages of a group are taken in the order they were stored, none of them twice.
theorem messages_taken_in_order (turns : List PassthruTurn) :
    ((effects world turns).filterMap (tookBytes group)).Sublist
      ((effects world turns).filterMap (storedBytes group)) := by
  have conserved := Slot.run_taken_sublist (turn world) (slotOf group) (storedBytes group)
    (tookBytes group) (fun _ => True) (fun passthru next _ => ⟨trivial, turn_steps world group passthru next⟩)
    turns (start world) trivial
  exact (List.sublist_append_left _ _).trans conserved

end Order

end Passthru

end RioPassthru
