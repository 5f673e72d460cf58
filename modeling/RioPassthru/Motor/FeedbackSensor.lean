import RioPassthru.Devices.Encoder
import RioPassthru.Motor.MotorStores

set_option autoImplicit false

namespace RioPassthru

open Protobuf

inductive RobotTask where
  | receiveMessagesTask
  | applyIMUConfigTask
  | applyEncoderConfigTask
  | applyLEDControlTask
  | applyMotorConfigTask
  | applyMotorValuesTask
  | applySolenoidValuesTask
  | sendRobotDataTask
  | sendIMUDataTask
  | sendEncoderDataTask
  | sendMotorDataTask
  | sendSolenoidDataTask
  | sendJoystickDataTask
  | processHeartbeatTask
  | updateDSConnectionStatusTask
  | taskTimingReporterTask
deriving DecidableEq, Repr

-- What RobotInit hands to scheduleTask, with the task under ENABLE_TASK_TIME_REPORTING.
def scheduledTasks : List RobotTask :=
  [.receiveMessagesTask, .applyIMUConfigTask, .applyMotorValuesTask, .applyMotorConfigTask, .applySolenoidValuesTask,
    .sendRobotDataTask, .sendIMUDataTask, .sendMotorDataTask, .sendJoystickDataTask, .applyLEDControlTask,
    .processHeartbeatTask, .updateDSConnectionStatusTask, .taskTimingReporterTask]

inductive TaskRun where
  | applyMotorValues (input : ValuesInput)
  | applyMotorConfig (message : Option (List MotorConfigurationMotor)) (locked : Bool) (outcomes : RunOutcomes)
  | applyEncoderConfig (message : List (EncoderConfigData × EntryOutcomes))
  | processHeartbeat
  | others (task : RobotTask)

def TaskRun.task : TaskRun → RobotTask
  | .applyMotorValues _ => .applyMotorValuesTask
  | .applyMotorConfig _ _ _ => .applyMotorConfigTask
  | .applyEncoderConfig _ => .applyEncoderConfigTask
  | .processHeartbeat => .processHeartbeatTask
  | .others task => task

abbrev ScheduledRun := { run : TaskRun // run.task ∈ scheduledTasks }

structure RobotDevices where
  stores : MotorStores
  encoderTask : ApplyEncoderConfigTask

structure RobotWorld where
  motor : MotorWorld
  encoder : EncoderProto

namespace RobotDevices

def start : RobotDevices := ⟨.empty, ⟨⟨∅, ∅, ∅⟩, ∅⟩⟩

-- All encoders are CANCoders, so the cast of what getEncoder finds succeeds.
def getEncoder (devices : RobotDevices) (id : Int) : Option Int :=
  (devices.encoderTask.encoders.getEncoder (uint16 id)).map fun encoder => encoder.deviceNumber

def motorOp (devices : RobotDevices) : TaskRun → Option MotorOp
  | .applyMotorValues input => some (.applyMotorValues input)
  | .applyMotorConfig message locked outcomes => some (.applyMotorConfig ⟨message, locked, devices.getEncoder, outcomes⟩)
  | .processHeartbeat => some .processHeartbeat
  | _ => none

-- ProcessHeartbeatTask leaves the encoders out.
def taskStep (world : RobotWorld) (devices : RobotDevices) (run : ScheduledRun) : RobotDevices :=
  match run.1 with
  | .applyEncoderConfig message =>
      { devices with encoderTask := (ApplyEncoderConfigTask.run world.encoder devices.encoderTask message).1 }
  | other => { devices with stores := (devices.motorOp other).elim devices.stores (motorStep world.motor devices.stores) }

end RobotDevices

def sensorId (m : MotorConfigurationMotor) : Int := toInt m.feedbackSensorCanId

namespace ApplyMotorConfigTask

def dereferencesNull (getEncoder : Int → Option Int) (motors : MotorManager) (call : UpdateCall) : Bool :=
  match getTypedMessage call.message with
  | none => false
  | some m =>
      (motors.onMotor (uint16 m.id)).2.isSome &&
        decide (call.field.number = 36 ∧ 0 < sensorId m ∧ getEncoder (sensorId m) = none)

def entryDereferencesNull (getEncoder : Int → Option Int) (size : Nat) (stores : MotorStores) (m : MotorConfigurationMotor) : Bool :=
  stores.motors.motorExists (uint16 m.id) && decide (size = stores.configs.mPrevMotorMsgs.size) &&
    (mDiffReporter.compareWith (stores.configs.prevMotorMsg (uint16 m.id)).2.message m.message).any
      (dereferencesNull getEncoder stores.motors)

variable (proto : MotorProto)

def entriesDereferenceNull (getEncoder : Int → Option Int) (outcomes : RunOutcomes) (size : Nat) :
    Nat → MotorStores → List MotorConfigurationMotor → Bool
  | _, _, [] => false
  | position, stores, m :: rest =>
      entryDereferencesNull getEncoder size stores m ||
        entriesDereferenceNull getEncoder outcomes size (position + 1)
          (applyEntry proto getEncoder (outcomes position) size stores m).1 rest

def runDereferencesNull (stores : MotorStores) (input : ConfigInput) : Bool :=
  match input.message with
  | some motorsUpdate =>
      input.locked &&
        entriesDereferenceNull proto input.getEncoder input.outcomes motorsUpdate.length 0
          { stores with configs := stores.configs.setMotorsConfigMsg motorsUpdate } motorsUpdate
  | none => false

def SensorsKept (size : Nat) (registered : DeviceMap BaseTalon) :
    DeviceMap MotorConfigurationMotor → List MotorConfigurationMotor → Prop
  | _, [] => True
  | recorded, m :: rest =>
      if uint16 m.id ∈ registered then
        (size = recorded.size → 0 < sensorId m → sensorId (recorded.getD (uint16 m.id) defaultMotor) = sensorId m) ∧
          SensorsKept size registered (recorded.insert (uint16 m.id) m) rest
      else SensorsKept size registered recorded rest

theorem seen_positive_iff (prev m : Option Field) (positive : 0 < toInt (scalarOf m)) :
    Seen prev m ↔ toInt (scalarOf prev) ≠ toInt (scalarOf m) := by
  obtain ⟨number, value, rfl⟩ : ∃ number value, m = some (.singular number (.scalar (.int value))) := by
    rcases m with _ | ⟨number, (scalar | nested)⟩ | ⟨number, values⟩
    · exact absurd positive (lt_irrefl (0 : Int))
    · cases scalar with
      | int value => exact ⟨number, value, rfl⟩
      | _ => exact absurd positive (lt_irrefl (0 : Int))
    · exact absurd positive (lt_irrefl (0 : Int))
    · exact absurd positive (lt_irrefl (0 : Int))
  have nonzero : 0 < value := positive
  rcases prev with _ | ⟨other, (scalar | nested)⟩ | ⟨other, values⟩
  · simp [Seen, scalarOf, toInt]
    omega
  · cases scalar <;> simp [Seen, cutBack, Field.equals, Value.equals, Scalar.equals, scalarOf, toInt] <;> omega
  · simp [Seen, cutBack, Field.equals, Value.equals, scalarOf, toInt]
    omega
  · simp [Seen, cutBack, Field.equals, scalarOf, toInt]
    omega

theorem prev_motor_msg_eq (configs : MotorConfigManager) (id : Nat) :
    (configs.prevMotorMsg id).2 = configs.mPrevMotorMsgs.getD id defaultMotor := by
  rw [MotorConfigManager.prevMotorMsg, Std.ExtTreeMap.getD_eq_getD_getElem?]
  cases configs.mPrevMotorMsgs[id]? <;> rfl

theorem entry_dereferences_null_iff (size : Nat) (stores : MotorStores) (m : MotorConfigurationMotor)
    (registered : uint16 m.id ∈ stores.motors.mRegisteredMotorList) :
    entryDereferencesNull (fun _ => none) size stores m = true ↔
      size = stores.configs.mPrevMotorMsgs.size ∧ 0 < sensorId m ∧
        sensorId (stores.configs.mPrevMotorMsgs.getD (uint16 m.id) defaultMotor) ≠ sensorId m := by
  have exists_ : stores.motors.motorExists (uint16 m.id) = true := Std.ExtTreeMap.contains_iff_mem.mpr registered
  have handed : (stores.motors.onMotor (uint16 m.id)).2.isSome = true := by
    obtain ⟨mCtrl, found⟩ := get_of_mem stores.motors.mRegisteredMotorList _ registered
    rw [MotorManager.onMotor, found]
    rfl
  have field_registered : mDiffReporter.registered ⟨motorFullName, 36⟩ = true := by decide
  rw [entryDereferencesNull, exists_, Bool.true_and, Bool.and_eq_true, decide_eq_true_eq, List.any_eq_true, prev_motor_msg_eq]
  refine and_congr_right fun _ => ?_
  generalize stores.configs.mPrevMotorMsgs.getD (uint16 m.id) defaultMotor = prev
  refine ⟨?_, ?_⟩
  · intro found
    obtain ⟨call, called, faults⟩ := found
    rw [dereferencesNull] at faults
    cases cast : getTypedMessage call.message with
    | none =>
        rw [cast] at faults
        cases faults
    | some typed =>
        simp only [cast, Bool.and_eq_true, decide_eq_true_eq] at faults
        obtain ⟨_, here, positive, _⟩ := faults
        have message := message_of_typed call.message typed cast
        obtain ⟨carried, number, field, _, seen⟩ :=
          compare_with_typed_call mDiffReporter prev m call called (message ▸ typed.typed)
        have same : sensorId typed = sensorId m := by
          rw [sensorId, sensorId, MotorConfigurationMotor.feedbackSensorCanId, MotorConfigurationMotor.feedbackSensorCanId,
            message, carried]
        have place : number = 36 := by
          rw [field] at here
          exact here
        rw [same] at positive
        rw [place] at seen
        exact ⟨positive, (seen_positive_iff _ _ positive).mp seen⟩
  · intro changed
    obtain ⟨positive, differs⟩ := changed
    refine ⟨⟨⟨motorFullName, 36⟩, m.message⟩, ?_, ?_⟩
    · exact (compare_with_called_iff mDiffReporter prev m 36 field_registered).mpr ((seen_positive_iff _ _ positive).mpr differs)
    · have cast : getTypedMessage m.message = some m := get_typed_message m
      simp [dereferencesNull, cast, handed, positive]

-- Induction over the entries, which record one motor after the other.
theorem entries_dereference_null_iff (outcomes : RunOutcomes) (size position : Nat) (message : List MotorConfigurationMotor)
    (stores : MotorStores) (kept : stores.Coherent) :
    entriesDereferenceNull proto (fun _ => none) outcomes size position stores message = false ↔
      SensorsKept size stores.motors.mRegisteredMotorList stores.configs.mPrevMotorMsgs message := by
  induction message generalizing position stores with
  | nil => exact iff_of_true rfl trivial
  | cons m rest ih =>
      have spec := apply_entry_spec proto (fun _ => none) (outcomes position) size stores kept m
      have coherent := (apply_entry_coherent proto (fun _ => none) (outcomes position) size stores kept m).1
      rw [entriesDereferenceNull, SensorsKept, Bool.or_eq_false_iff]
      by_cases registered : uint16 m.id ∈ stores.motors.mRegisteredMotorList
      · have entry := entry_dereferences_null_iff size stores m registered
        rw [if_pos registered] at spec
        rw [spec] at coherent
        rw [if_pos registered, spec, ih (position + 1) _ coherent]
        refine and_congr ?_ Iff.rfl
        rw [← Bool.not_eq_true, entry]
        tauto
      · have skipped : entryDereferencesNull (fun _ => none) size stores m = false := by
          have absent : stores.motors.motorExists (uint16 m.id) = false :=
            Bool.eq_false_iff.mpr fun contained => registered (Std.ExtTreeMap.contains_iff_mem.mp contained)
          rw [entryDereferencesNull, absent]
          rfl
        rw [if_neg registered] at spec
        rw [if_neg registered, spec, ih (position + 1) stores kept]
        exact and_iff_right skipped

theorem run_dereferences_null_iff (stores : MotorStores) (kept : stores.Coherent) (input : ConfigInput)
    (missing : input.getEncoder = fun _ => none) :
    runDereferencesNull proto stores input = false ↔
      (input.locked = true → ∀ message, input.message = some message →
        SensorsKept message.length stores.motors.mRegisteredMotorList stores.configs.mPrevMotorMsgs message) := by
  rw [runDereferencesNull, missing]
  cases received : input.message with
  | none => simp
  | some message =>
      cases locked : input.locked with
      | false => simp
      | true =>
          have entries := entries_dereference_null_iff proto input.outcomes message.length 0 message _
            (MotorStores.set_motors_config_coherent stores kept message)
          simp only [Bool.true_and, forall_const, Option.some.injEq, forall_eq']
          exact entries

end ApplyMotorConfigTask

namespace RobotDevices

variable (world : RobotWorld)

def dereferencesNull (devices : RobotDevices) (run : ScheduledRun) : Bool :=
  match devices.motorOp run.1 with
  | some (.applyMotorConfig input) => ApplyMotorConfigTask.runDereferencesNull world.motor.proto devices.stores input
  | _ => false

def KeepsSensors (devices : RobotDevices) (run : ScheduledRun) : Prop :=
  ∀ message outcomes, run.1 = .applyMotorConfig (some message) true outcomes →
    ApplyMotorConfigTask.SensorsKept message.length devices.stores.motors.mRegisteredMotorList
      devices.stores.configs.mPrevMotorMsgs message

structure Invariant (devices : RobotDevices) : Prop where
  coherent : devices.stores.Coherent
  noEncoders : devices.encoderTask.encoders.mRegisteredEncoderList = ∅

theorem start_invariant : start.Invariant := ⟨MotorStores.empty_coherent, rfl⟩

theorem task_step_invariant (devices : RobotDevices) (run : ScheduledRun) (kept : devices.Invariant) :
    (devices.taskStep world run).Invariant := by
  obtain ⟨run, scheduled⟩ := run
  cases run with
  | applyEncoderConfig message =>
      have absent : RobotTask.applyEncoderConfigTask ∉ scheduledTasks := by decide
      exact absurd scheduled absent
  | others task => exact kept
  | applyMotorValues input =>
      exact ⟨motor_step_coherent world.motor devices.stores kept.coherent (.applyMotorValues input), kept.noEncoders⟩
  | applyMotorConfig message locked outcomes =>
      exact ⟨motor_step_coherent world.motor devices.stores kept.coherent
        (.applyMotorConfig ⟨message, locked, devices.getEncoder, outcomes⟩), kept.noEncoders⟩
  | processHeartbeat =>
      exact ⟨motor_step_coherent world.motor devices.stores kept.coherent .processHeartbeat, kept.noEncoders⟩

theorem get_encoder_none (devices : RobotDevices) (kept : devices.Invariant) : devices.getEncoder = fun _ => none := by
  funext id
  rw [getEncoder, CKEncoderManager.getEncoder, kept.noEncoders]
  simp

theorem null_step_iff (devices : RobotDevices) (run : ScheduledRun) (kept : devices.Invariant) :
    devices.dereferencesNull world run = false ↔ devices.KeepsSensors run := by
  obtain ⟨run, scheduled⟩ := run
  cases run with
  | applyMotorConfig message locked outcomes =>
      have exact := ApplyMotorConfigTask.run_dereferences_null_iff world.motor.proto devices.stores kept.coherent
        ⟨message, locked, devices.getEncoder, outcomes⟩ (get_encoder_none devices kept)
      rw [dereferencesNull, motorOp]
      refine exact.trans ⟨?_, ?_⟩
      · intro sensors entries answers same
        cases same
        exact sensors rfl entries rfl
      · intro sensors closed entries received
        have isLocked : locked = true := closed
        have arrived : message = some entries := received
        exact sensors entries outcomes (by rw [isLocked, arrived])
  | applyMotorValues input => exact iff_of_true rfl fun _ _ same => nomatch same
  | applyEncoderConfig message => exact iff_of_true rfl fun _ _ same => nomatch same
  | processHeartbeat => exact iff_of_true rfl fun _ _ same => nomatch same
  | others task => exact iff_of_true rfl fun _ _ same => nomatch same

end RobotDevices

theorem feedback_sensor_safe_iff (world : RobotWorld) (runs : List ScheduledRun) :
    Runs.EachStep (RobotDevices.taskStep world) (fun devices run => devices.dereferencesNull world run = false) .start runs ↔
      Runs.EachStep (RobotDevices.taskStep world) RobotDevices.KeepsSensors .start runs :=
  Runs.each_step_iff_of_invariant (RobotDevices.taskStep world) RobotDevices.Invariant _ _ (RobotDevices.null_step_iff world)
    (fun devices run kept _ => RobotDevices.task_step_invariant world devices run kept) runs _ RobotDevices.start_invariant

def sensorMotor (id : Int) : Message := .mk motorFullName [] [.singular 1 (.scalar (.int 1)), .singular 36 (.scalar (.int id))]

def remoteSensorMotor : MotorConfigurationMotor := ⟨sensorMotor 5, rfl, by decide, by decide⟩
def otherSensorMotor : MotorConfigurationMotor := ⟨sensorMotor 6, rfl, by decide, by decide⟩

def configRun (m : MotorConfigurationMotor) : ScheduledRun :=
  ⟨.applyMotorConfig (some [m]) true fun _ _ _ _ => .OK, show RobotTask.applyMotorConfigTask ∈ scheduledTasks by decide⟩

-- The first configuration of motor 1 sets the sensor by its id; the second looks for encoder 6.
theorem other_sensor_dereferences_null :
    ¬ ∀ (world : RobotWorld) (runs : List ScheduledRun),
      Runs.EachStep (RobotDevices.taskStep world) (fun devices run => devices.dereferencesNull world run = false) .start runs := by
  intro always
  have safe := always ⟨⟨⟨1, 2, 3, by decide, 1, 2, 3, 4⟩, fun _ => 0⟩, ⟨1, 2, 3, 4, 5, 6⟩⟩
    [configRun remoteSensorMotor, ⟨.applyMotorValues ⟨some [⟨1, .talonFX, .percentOutput, 0, 0⟩], true, false⟩, by decide⟩,
      configRun remoteSensorMotor, configRun otherSensorMotor]
  have last := safe.2.2.2.1
  revert last
  decide +kernel

end RioPassthru
