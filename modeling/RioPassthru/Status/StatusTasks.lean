import RioPassthru.Devices.Encoder
import RioPassthru.Devices.SolenoidManager
import RioPassthru.Motor.MotorManager

set_option autoImplicit false

namespace RioPassthru

open Protobuf

abbrev StatusEntry := List (String × Scalar)

-- What an entry adds to ByteSizeLong. The generated code is not part of the repository;
-- an entry and each of its fields that is no default cost a tag and a byte at least.
structure StatusSizes where
  entry : StatusEntry → Nat
  atLeastTwo : ∀ fields : StatusEntry, 2 + 2 * fields.countP (fun field => !field.2.isDefault) ≤ entry fields

-- MOTOR_STATUS_MESSAGE_SIZE, SOLENOID_STATUS_MESSAGE_SIZE, IMU_DATA_MESSAGE_SIZE and
-- ENCODER_DATA_MESSAGE_SIZE, what each constructor allocates.
def STATUS_MESSAGE_SIZE : Nat := 1500

-- How many bytes went into the buffer, whether the message was sent, and whether the
-- branch for a failed serialization was taken.
structure StatusRun where
  written : Nat
  sent : Bool
  failed : Bool
deriving DecidableEq, Repr

def serializeToArray (byteSize size : Nat) : Option Nat := if size < byteSize then none else some byteSize

-- The end of all four tasks: the size given to SerializeToArray is the message's own.
def sendStatus (sizes : StatusSizes) (entries : List StatusEntry) : StatusRun :=
  match serializeToArray (FailoverMessageManager.byteSizeLong sizes.entry entries)
      (FailoverMessageManager.byteSizeLong sizes.entry entries) with
  | some written => ⟨written, true, false⟩
  | none => ⟨0, false, true⟩

structure MotorReading where
  selectedSensorPosition : Double
  selectedSensorVelocity : Double
  motorOutputPercent : Double
  activeTrajectoryArbFeedFwd : Double
  activeTrajectoryPosition : Double
  activeTrajectoryVelocity : Double
  closedLoopTarget : Double
  closedLoopError : Double
  integralAccumulator : Double
  errorDerivative : Double
  busVoltage : Double
  supplyCurrent : Double
  statorCurrent : Double
  faults : Int
  stickyFaults : Int
  fwdLimitSwitchClosed : Int
  revLimitSwitchClosed : Int

namespace SendMotorDataTask

def modeNumber : ControlMode → Int
  | .percentOutput => 0
  | .position => 1
  | .velocity => 2
  | .follower => 5
  | .other number => number

variable (reading : MotorReading)

def closedLoopFields : StatusEntry :=
  [("commanded_output", .double reading.closedLoopTarget), ("raw_closed_loop_error", .double reading.closedLoopError),
    ("raw_integral_accum", .double reading.integralAccumulator), ("raw_error_derivative", .double reading.errorDerivative)]

def trajectoryFields : StatusEntry :=
  [("active_trajectory_arbff", .double reading.activeTrajectoryArbFeedFwd),
    ("active_trajectory_position", .double reading.activeTrajectoryPosition),
    ("active_trajectory_velocity", .double reading.activeTrajectoryVelocity)]

-- MotionProfile is 6, MotionMagic 7 and MotionProfileArc 10 in Phoenix; they fall through
-- to Position, Velocity and Current, which is 3.
def modeFields : ControlMode → StatusEntry
  | .percentOutput => [("commanded_output", .double reading.motorOutputPercent)]
  | .position => closedLoopFields reading
  | .velocity => closedLoopFields reading
  | .follower => []
  | .other number =>
      if number = 6 ∨ number = 7 ∨ number = 10 then trajectoryFields reading ++ closedLoopFields reading
      else if number = 3 then closedLoopFields reading
      else []

def limitFields : MotorType → StatusEntry
  | .other _ => []
  | _ => [("forward_limit_closed", .int reading.fwdLimitSwitchClosed), ("reverse_limit_closed", .int reading.revLimitSwitchClosed)]

def entry (id : Nat) (mCtrl : BaseTalon) (mType : MotorType) : StatusEntry :=
  [("id", .int id), ("sensor_position", .double reading.selectedSensorPosition),
    ("sensor_velocity", .double reading.selectedSensorVelocity), ("control_mode", .int (modeNumber mCtrl.getControlMode))] ++
  modeFields reading mCtrl.getControlMode ++
  [("raw_output_percent", .double reading.motorOutputPercent), ("bus_voltage", .double reading.busVoltage),
    ("bus_current", .double reading.supplyCurrent), ("stator_current", .double reading.statorCurrent),
    ("faults", .int reading.faults), ("sticky_faults", .int reading.stickyFaults)] ++
  limitFields reading mType

variable (sizes : StatusSizes) (motors : MotorManager) (readings : Nat → MotorReading)

def entries : List StatusEntry :=
  motors.mRegisteredMotorList.keys.filterMap fun id =>
    (motors.onMotor id).2.map fun pair => entry (readings id) id pair.1 pair.2

def run : StatusRun := sendStatus sizes (entries motors readings)

def deviceBytes : List Nat :=
  motors.mRegisteredMotorList.toList.map fun device =>
    sizes.entry (entry (readings device.1) device.1 device.2 (motors.motorType device.1).2)

theorem entry_bytes_eq : (entries motors readings).map sizes.entry = deviceBytes sizes motors readings := by
  have registered : ∀ device ∈ motors.mRegisteredMotorList.toList,
      (motors.onMotor device.1).2.map (fun pair => entry (readings device.1) device.1 pair.1 pair.2) =
        some (entry (readings device.1) device.1 device.2 (motors.motorType device.1).2) := by
    intro device held
    have found := Std.ExtTreeMap.mem_toList_iff_getElem?_eq_some.mp held
    rw [MotorManager.onMotor, found]
    rfl
  rw [entries, deviceBytes, ← Std.ExtTreeMap.map_fst_toList_eq_keys, List.filterMap_map, List.map_filterMap]
  rw [← List.filterMap_eq_map]
  apply List.filterMap_congr
  intro device held
  simp only [Function.comp_apply, registered device held, Option.map_some]

end SendMotorDataTask

namespace SendSolenoidDataTask

variable (numbers : SolenoidNumbers)

-- The id of the callback is an uint16_t, and the cast to the status enumeration keeps the number.
def entry (id : Nat) (value : SolenoidValue) : StatusEntry :=
  [("id", .int (uint16 id)), ("solenoid_value", .int (value.number numbers))]

variable (sizes : StatusSizes) (solenoids : SolenoidManager)

def entries : List StatusEntry :=
  solenoids.mRegisteredSolenoidList.toList.map fun (id, sCtrl) => entry numbers id sCtrl.getValue

def run : StatusRun := sendStatus sizes (entries numbers solenoids)

def deviceBytes : List Nat :=
  solenoids.mRegisteredSolenoidList.toList.map fun (id, sCtrl) => sizes.entry (entry numbers id sCtrl.getValue)

theorem entry_bytes_eq : (entries numbers solenoids).map sizes.entry = deviceBytes numbers sizes solenoids := by
  rw [entries, deviceBytes, List.map_map]
  rfl

end SendSolenoidDataTask

structure Quaternion where
  w : Double
  x : Double
  y : Double
  z : Double

structure AngularRates where
  x : Double
  y : Double
  z : Double

-- none where the Pigeon does not answer.
structure IMUReading where
  quaternion : Option Quaternion
  rates : Option AngularRates

namespace SendIMUDataTask

def quaternionFields : Option Quaternion → StatusEntry
  | some quat => [("w", .double quat.w), ("x", .double quat.x), ("y", .double quat.y), ("z", .double quat.z)]
  | none => []

def rateFields (rates : AngularRates) : StatusEntry :=
  [("x_rps", .double rates.x), ("y_rps", .double rates.y), ("z_rps", .double rates.z)]

def entry (reading : IMUReading) (id : Nat) : StatusEntry :=
  ("id", .int id) :: quaternionFields reading.quaternion ++ rateFields (reading.rates.getD ⟨0, 0, 0⟩)

variable (sizes : StatusSizes) (imus : CKIMUManager) (readings : Nat → IMUReading)

def entries : List StatusEntry := imus.mRegisteredIMUList.keys.map fun id => entry (readings id) id

def run : StatusRun := sendStatus sizes (entries imus readings)

def deviceBytes : List Nat := imus.mRegisteredIMUList.keys.map fun id => sizes.entry (entry (readings id) id)

theorem entry_bytes_eq : (entries imus readings).map sizes.entry = deviceBytes sizes imus readings := by
  rw [entries, deviceBytes, List.map_map]
  rfl

end SendIMUDataTask

namespace SendEncoderDataTask

def entry (absolutePosition : Double) (id : Nat) : StatusEntry :=
  [("id", .int id), ("sensor_absolute_position", .double absolutePosition)]

variable (sizes : StatusSizes) (encoders : CKEncoderManager) (absolutePosition : Nat → Double)

def entries : List StatusEntry := encoders.mRegisteredEncoderList.keys.map fun id => entry (absolutePosition id) id

def run : StatusRun := sendStatus sizes (entries encoders absolutePosition)

def deviceBytes : List Nat :=
  encoders.mRegisteredEncoderList.keys.map fun id => sizes.entry (entry (absolutePosition id) id)

theorem entry_bytes_eq : (entries encoders absolutePosition).map sizes.entry = deviceBytes sizes encoders absolutePosition := by
  rw [entries, deviceBytes, List.map_map]
  rfl

end SendEncoderDataTask

structure StaysInside (sizes : StatusSizes) (entries : List StatusEntry) (run : StatusRun) : Prop where
  written : run.written ≤ STATUS_MESSAGE_SIZE
  refused : STATUS_MESSAGE_SIZE < FailoverMessageManager.byteSizeLong sizes.entry entries →
    run.sent = false ∧ run.failed = true

def Fits (deviceBytes : List Nat) : Prop := deviceBytes.sum ≤ STATUS_MESSAGE_SIZE

theorem send_status_unguarded (sizes : StatusSizes) (entries : List StatusEntry) :
    sendStatus sizes entries = ⟨(entries.map sizes.entry).sum, true, false⟩ := by
  rw [sendStatus, serializeToArray, if_neg (Nat.lt_irrefl _)]
  rfl

theorem send_status_iff (sizes : StatusSizes) (entries : List StatusEntry) :
    StaysInside sizes entries (sendStatus sizes entries) ↔ Fits (entries.map sizes.entry) := by
  rw [send_status_unguarded]
  constructor
  · exact fun stays => stays.written
  · intro fits
    exact ⟨fits, fun larger => absurd fits (Nat.not_le.mpr larger)⟩

theorem status_stays_inside_iff (sizes : StatusSizes) :
    (∀ motors readings, StaysInside sizes (SendMotorDataTask.entries motors readings) (SendMotorDataTask.run sizes motors readings) ↔
        Fits (SendMotorDataTask.deviceBytes sizes motors readings)) ∧
    (∀ numbers solenoids, StaysInside sizes (SendSolenoidDataTask.entries numbers solenoids)
        (SendSolenoidDataTask.run numbers sizes solenoids) ↔ Fits (SendSolenoidDataTask.deviceBytes numbers sizes solenoids)) ∧
    (∀ imus readings, StaysInside sizes (SendIMUDataTask.entries imus readings) (SendIMUDataTask.run sizes imus readings) ↔
        Fits (SendIMUDataTask.deviceBytes sizes imus readings)) ∧
    ∀ encoders positions,
      StaysInside sizes (SendEncoderDataTask.entries encoders positions) (SendEncoderDataTask.run sizes encoders positions) ↔
        Fits (SendEncoderDataTask.deviceBytes sizes encoders positions) := by
  refine ⟨?_, ?_, ?_, ?_⟩
  · intro motors readings
    rw [SendMotorDataTask.run, send_status_iff, SendMotorDataTask.entry_bytes_eq]
  · intro numbers solenoids
    rw [SendSolenoidDataTask.run, send_status_iff, SendSolenoidDataTask.entry_bytes_eq]
  · intro imus readings
    rw [SendIMUDataTask.run, send_status_iff, SendIMUDataTask.entry_bytes_eq]
  · intro encoders positions
    rw [SendEncoderDataTask.run, send_status_iff, SendEncoderDataTask.entry_bytes_eq]

def fewestBytes (fields : StatusEntry) : Nat := 2 + 2 * fields.countP fun field => !field.2.isDefault

theorem two_bytes_each (entries : List StatusEntry) : 2 * entries.length ≤ (entries.map fewestBytes).sum := by
  induction entries with
  | nil => exact Nat.le_refl _
  | cons fields rest ih =>
      rw [List.map_cons, List.sum_cons, List.length_cons, fewestBytes]
      omega

theorem crowded_status_overflows (sizes : StatusSizes) (entries : List StatusEntry)
    (crowded : STATUS_MESSAGE_SIZE < (entries.map fewestBytes).sum) :
    ¬ StaysInside sizes entries (sendStatus sizes entries) := by
  rw [send_status_iff, Fits]
  have least : (entries.map fewestBytes).sum ≤ (entries.map sizes.entry).sum :=
    List.sum_le_sum fun fields _ => sizes.atLeastTwo fields
  omega

-- The ids of solenoids are 32 bits wide, and nothing else bounds their number.
theorem many_solenoids_overflow (numbers : SolenoidNumbers) (sizes : StatusSizes) (solenoids : SolenoidManager)
    (many : 750 < solenoids.mRegisteredSolenoidList.size) :
    ¬ StaysInside sizes (SendSolenoidDataTask.entries numbers solenoids) (SendSolenoidDataTask.run numbers sizes solenoids) := by
  apply crowded_status_overflows
  have each := two_bytes_each (SendSolenoidDataTask.entries numbers solenoids)
  have length : (SendSolenoidDataTask.entries numbers solenoids).length = solenoids.mRegisteredSolenoidList.size := by
    rw [SendSolenoidDataTask.entries, List.length_map, Std.ExtTreeMap.length_toList]
  rw [STATUS_MESSAGE_SIZE]
  omega

def fewestSizes : StatusSizes := ⟨fewestBytes, fun _ => Nat.le_refl _⟩

def fullRegistry : MotorManager :=
  (List.range 64).foldl
    (fun motors id => (motors.registerMotor id .talonFX 0).command id ⟨.TalonFX, id, "rio", none⟩ (.set .position 1 0))
    MotorStores.empty.motors

def busyReading : MotorReading := ⟨1, 1, 1, 1, 1, 1, 1, 1, 1, 1, 1, 1, 1, 1, 1, 1, 1⟩

theorem full_registry_overflows_buffer :
    ¬ ∀ sizes motors readings,
      StaysInside sizes (SendMotorDataTask.entries motors readings) (SendMotorDataTask.run sizes motors readings) := by
  intro always
  have crowded : STATUS_MESSAGE_SIZE < ((SendMotorDataTask.entries fullRegistry fun _ => busyReading).map fewestBytes).sum := by
    decide +kernel
  exact crowded_status_overflows fewestSizes _ crowded (always fewestSizes fullRegistry fun _ => busyReading)

end RioPassthru
