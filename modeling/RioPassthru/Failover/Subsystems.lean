import RioPassthru.Failover.FailoverMessageManager
import RioPassthru.Failover.SwerveMath

set_option autoImplicit false

namespace RioPassthru

open FailoverMessageManager

structure PerWheel (α : Type) where
  frontLeft : α
  frontRight : α
  backLeft : α
  backRight : α
deriving DecidableEq, Repr

-- The Joystick objects: those not deleted yet, how many were made, and how often one that is not
-- live was deleted or used.
structure JoystickHeap where
  live : List Nat
  allocated : Nat
  faults : Nat
deriving DecidableEq, Repr

namespace JoystickHeap

variable (heap : JoystickHeap)

def allocate : JoystickHeap :=
  { heap with
    live := heap.allocated :: heap.live
    allocated := heap.allocated + 1 }

def use (joystick : Nat) : JoystickHeap := { heap with faults := heap.faults + if joystick ∈ heap.live then 0 else 1 }

def free (joystick : Nat) : JoystickHeap := { heap.use joystick with live := heap.live.erase joystick }

end JoystickHeap

-- A Joystick object has no state of its own.
structure SwerveDrivetrainFailover where
  mJoystick : Option Nat
  joysticks : JoystickHeap
  mSteeringAngles : PerWheel Double
deriving DecidableEq, Repr

inductive FailoverCall where
  | robotFailoverInit
  | reset
  | publishMessages
deriving DecidableEq, Repr

-- calls is ghost data: which of these functions have been called, in order.
structure Failover where
  messages : FailoverMessageManager
  swerve : SwerveDrivetrainFailover
  calls : List FailoverCall
deriving DecidableEq, Repr

def frontLeftDrive : Nat := 0
def frontRightDrive : Nat := 1
def backLeftDrive : Nat := 2
def backRightDrive : Nat := 3
def frontLeftSteering : Nat := 4
def frontRightSteering : Nat := 5
def backLeftSteering : Nat := 6
def backRightSteering : Nat := 7
def lowerArmMaster : Nat := 8
def upperArmMaster : Nat := 10
def wrist : Nat := 12
def intake : Nat := 13

def lowerBrake : Nat := 0
def upperBrake : Nat := 1
def extension1 : Nat := 2
def extension2 : Nat := 3
def pinch : Nat := 4

namespace SwerveDrivetrainFailover

def setDrives (messages : FailoverMessageManager) (outputs : PerWheel Double) : FailoverMessageManager :=
  (((messages.setOutputValue frontLeftDrive outputs.frontLeft).setOutputValue frontRightDrive
    outputs.frontRight).setOutputValue backLeftDrive outputs.backLeft).setOutputValue backRightDrive
    outputs.backRight

def setSteering (messages : FailoverMessageManager) (outputs : PerWheel Double) : FailoverMessageManager :=
  (((messages.setOutputValue frontLeftSteering outputs.frontLeft).setOutputValue frontRightSteering
    outputs.frontRight).setOutputValue backLeftSteering outputs.backLeft).setOutputValue backRightSteering
    outputs.backRight

-- sensors holds GetSelectedSensorPosition of the steering motors that are registered.
def init (math : SwerveMath) (sensors : PerWheel (Option Double)) (failover : Failover) : Failover :=
  let currentAngles : PerWheel Double :=
    ⟨sensors.frontLeft.getD 0, sensors.frontRight.getD 0, sensors.backLeft.getD 0, sensors.backRight.getD 0⟩
  let degrees := sensorPositionToDegrees math
  { failover with
    messages := setSteering failover.messages currentAngles
    swerve :=
      { mJoystick := some failover.swerve.joysticks.allocated
        joysticks := failover.swerve.joysticks.allocate
        mSteeringAngles :=
          ⟨degrees currentAngles.frontLeft, degrees currentAngles.frontRight, degrees currentAngles.backLeft,
            degrees currentAngles.backRight⟩ } }

def deleteJoystick (swerve : SwerveDrivetrainFailover) : SwerveDrivetrainFailover :=
  match swerve.mJoystick with
  | some joystick =>
      { swerve with
        mJoystick := none
        joysticks := swerve.joysticks.free joystick }
  | none => swerve

def uninit (failover : Failover) : Failover :=
  { failover with
    messages := setDrives failover.messages ⟨0, 0, 0, 0⟩
    swerve := deleteJoystick failover.swerve }

def periodic (math : SwerveMath) (sensors : PerWheel (Option Double)) (failover : Failover) : Failover :=
  let angle (sensor : Option Double) (before : Double) := (sensor.map (sensorPositionToDegrees math)).getD before
  let angles := failover.swerve.mSteeringAngles
  { failover with
    swerve.mSteeringAngles :=
      ⟨angle sensors.frontLeft angles.frontLeft, angle sensors.frontRight angles.frontRight,
        angle sensors.backLeft angles.backLeft, angle sensors.backRight angles.backRight⟩ }

def useJoystick (swerve : SwerveDrivetrainFailover) : SwerveDrivetrainFailover :=
  match swerve.mJoystick with
  | some joystick => { swerve with joysticks := swerve.joysticks.use joystick }
  | none => swerve

-- m_kinematics keeps angles of its own, so what ToSwerveModuleStates answers is given for each run.
def run (math : SwerveMath) (toSwerveModuleStates : ChassisSpeeds → PerWheel SwerveModuleState)
    (joystick : JoystickReading) (failover : Failover) : Failover :=
  { failover with
    messages :=
      if failover.swerve.mJoystick.isSome && joystick.isConnected then
        let states := toSwerveModuleStates (robotSpeeds math joystick)
        let angles := failover.swerve.mSteeringAngles
        let fl := math.optimize states.frontLeft angles.frontLeft
        let fr := math.optimize states.frontRight angles.frontRight
        let bl := math.optimize states.backLeft angles.backLeft
        let br := math.optimize states.backRight angles.backRight
        let speed := metersPerSecondToNativeUnitsDriveVelocity math
        let angle := degreesToNativeUnitsSteeringAngle math
        setSteering (setDrives failover.messages ⟨speed fl.speed, speed fr.speed, speed bl.speed, speed br.speed⟩)
          ⟨angle fl.angle, angle fr.angle, angle bl.angle, angle br.angle⟩
      else setDrives failover.messages ⟨0, 0, 0, 0⟩
    swerve := useJoystick failover.swerve }

def setDriveConfig (id : Int) (messages : FailoverMessageManager) : FailoverMessageManager :=
  messages.addMotorControl ⟨id, .talonFX, .velocity, 0, 0⟩

def setSteeringConfig (id : Int) (messages : FailoverMessageManager) : FailoverMessageManager :=
  messages.addMotorControl ⟨id, .talonFX, .position, 0, 0⟩

def construct (messages : FailoverMessageManager) : FailoverMessageManager :=
  [5, 6, 7, 8].foldl (fun m id => setSteeringConfig id m) ([1, 2, 3, 4].foldl (fun m id => setDriveConfig id m) messages)

end SwerveDrivetrainFailover

def stopMotor (motor : Nat) (messages : FailoverMessageManager) : FailoverMessageManager :=
  (messages.setControlMode motor .percentOutput).setOutputValue motor 0

namespace ArmFailover

def uninit (failover : Failover) : Failover :=
  { failover with
    messages := stopMotor wrist (stopMotor upperArmMaster (stopMotor lowerArmMaster failover.messages)) }

def run (failover : Failover) : Failover :=
  let stopped := (uninit failover).messages
  { failover with
    messages :=
      (((stopped.setSolenoidValue lowerBrake .off).setSolenoidValue upperBrake .off).setSolenoidValue
        extension1 .off).setSolenoidValue extension2 .off }

def setBaseControl (id : Int) (messages : FailoverMessageManager) : FailoverMessageManager :=
  messages.addMotorControl ⟨id, .talonFX, .percentOutput, 0, 0⟩

def setFollowerControl (id : Int) (masterId : Nat) (messages : FailoverMessageManager) : FailoverMessageManager :=
  messages.addMotorControl ⟨id, .talonFX, .follower, .finite masterId, 0⟩

def solenoidId (id moduleId : Int) : Int := moduleId * 2 ^ 16 + id

def setBaseSolenoid (id moduleId : Int) (messages : FailoverMessageManager) : FailoverMessageManager :=
  messages.addSolenoidControl ⟨solenoidId id moduleId, .off⟩

def construct (messages : FailoverMessageManager) : FailoverMessageManager :=
  let motors :=
    setBaseControl 13 (setFollowerControl 12 11 (setBaseControl 11 (setFollowerControl 10 9 (setBaseControl 9 messages))))
  setBaseSolenoid 2 1 (setBaseSolenoid 0 1 (setBaseSolenoid 6 0 (setBaseSolenoid 7 0 motors)))

end ArmFailover

namespace IntakeFailover

def uninit (failover : Failover) : Failover :=
  { failover with messages := stopMotor intake failover.messages }

def run (failover : Failover) : Failover :=
  { failover with messages := (stopMotor intake failover.messages).setSolenoidValue pinch .off }

def construct (messages : FailoverMessageManager) : FailoverMessageManager :=
  ArmFailover.setBaseSolenoid 1 1 (ArmFailover.setBaseControl 14 messages)

end IntakeFailover

def DrivesStopped (messages : FailoverMessageManager) : Prop :=
  ∀ motor < 4, ∀ output, outputOf messages motor = some output → output.isZero = true

instance (messages : FailoverMessageManager) : Decidable (DrivesStopped messages) :=
  inferInstanceAs (Decidable (∀ motor < 4, ∀ output ∈ outputOf messages motor, output.isZero = true))

def failoverMotorIds : List Int := [1, 2, 3, 4, 5, 6, 7, 8, 9, 10, 11, 12, 13, 14]

theorem delete_joystick_pointer (swerve : SwerveDrivetrainFailover) :
    (SwerveDrivetrainFailover.deleteJoystick swerve).mJoystick = none := by
  rw [SwerveDrivetrainFailover.deleteJoystick]
  split
  · rfl
  · assumption

theorem use_joystick_pointer (swerve : SwerveDrivetrainFailover) :
    (SwerveDrivetrainFailover.useJoystick swerve).mJoystick = swerve.mJoystick := by
  rw [SwerveDrivetrainFailover.useJoystick]
  split <;> rfl

theorem drives_stopped_set_drives (messages : FailoverMessageManager) :
    DrivesStopped (SwerveDrivetrainFailover.setDrives messages ⟨0, 0, 0, 0⟩) := by
  intro motor drive output commanded
  have wheel : motor = 0 ∨ motor = 1 ∨ motor = 2 ∨ motor = 3 := by omega
  have zero : ∃ before, Option.map (fun _ : Double => (0 : Double)) before = some output := by
    rcases wheel with rfl | rfl | rfl | rfl <;>
      simp only [SwerveDrivetrainFailover.setDrives, output_of_set_output, frontLeftDrive, frontRightDrive,
        backLeftDrive, backRightDrive] at commanded <;>
      exact ⟨_, commanded⟩
  obtain ⟨before, same⟩ := zero
  cases before with
  | none => cases same
  | some value =>
      have out : (0 : Double) = output := Option.some.inj same
      rw [← out]
      exact Double.is_zero_zero

theorem drives_stopped_set_output (messages : FailoverMessageManager) (motor : Nat) (value : Double)
    (other : 4 ≤ motor) : DrivesStopped (messages.setOutputValue motor value) ↔ DrivesStopped messages := by
  have frame : ∀ drive < 4, outputOf (messages.setOutputValue motor value) drive = outputOf messages drive := by
    intro drive bound
    rw [output_of_set_output, if_neg (by omega)]
  constructor
  · intro stopped drive bound output commanded
    exact stopped drive bound output ((frame drive bound).trans commanded)
  · intro stopped drive bound output commanded
    exact stopped drive bound output ((frame drive bound).symm.trans commanded)

theorem drives_stopped_set_steering (messages : FailoverMessageManager) (outputs : PerWheel Double) :
    DrivesStopped (SwerveDrivetrainFailover.setSteering messages outputs) ↔ DrivesStopped messages := by
  simp only [SwerveDrivetrainFailover.setSteering, frontLeftSteering, frontRightSteering, backLeftSteering,
    backRightSteering]
  rw [drives_stopped_set_output _ _ _ (by decide), drives_stopped_set_output _ _ _ (by decide),
    drives_stopped_set_output _ _ _ (by decide), drives_stopped_set_output _ _ _ (by decide)]

theorem drives_stopped_stop_motor (messages : FailoverMessageManager) (motor : Nat) (other : 4 ≤ motor) :
    DrivesStopped (stopMotor motor messages) ↔ DrivesStopped messages := by
  rw [stopMotor, drives_stopped_set_output _ _ _ other]
  simp only [DrivesStopped, output_of_set_mode]

end RioPassthru
