import RioPassthru.Lib.Double
import RioPassthru.Network.NetworkManager

set_option autoImplicit false

namespace RioPassthru

-- The enums are open in proto3: any int32 may arrive.
inductive MotorType where
  | talonFX
  | talonSRX
  | other (number : Int)
deriving DecidableEq, Repr

inductive ControlMode where
  | percentOutput
  | position
  | velocity
  | follower
  | other (number : Int)
deriving DecidableEq, Repr

inductive SolenoidValue where
  | off
  | on
  | forward
  | reverse
  | other (number : Int)
deriving DecidableEq, Repr

-- The .proto files are not part of the repository.
structure SolenoidNumbers where
  off : Int
  on : Int
  forward : Int
  reverse : Int

def SolenoidValue.number (numbers : SolenoidNumbers) : SolenoidValue → Int
  | .off => numbers.off
  | .on => numbers.on
  | .forward => numbers.forward
  | .reverse => numbers.reverse
  | .other number => number

structure MotorControlMotor where
  id : Int
  controllerType : MotorType
  controlMode : ControlMode
  outputValue : Double
  arbitraryFeedforward : Double
deriving DecidableEq, Repr

-- ck::SolenoidControl::Solenoid; every failover solenoid is a SINGLE one on a CTREPCM.
structure SolenoidControlSolenoid where
  id : Int
  outputValue : SolenoidValue
deriving DecidableEq, Repr

inductive FailoverMessage where
  | motorControl (motors : List MotorControlMotor)
  | solenoidControl (solenoids : List SolenoidControlSolenoid)
  | motorConfig (bytes : Bytes)
  | ledControl (bytes : Bytes)
deriving DecidableEq, Repr

structure EntrySizes where
  motor : MotorControlMotor → Nat
  solenoid : SolenoidControlSolenoid → Nat

-- The configuration messages are written by the constructors only and stand here as
-- their bytes.
structure FailoverMessageManager where
  mMotorControl : List MotorControlMotor
  mSolenoidControl : List SolenoidControlSolenoid
  mMotorConfiguration : Bytes
  mLEDControl : Bytes
  mLoopCounter : Nat
deriving DecidableEq, Repr

namespace FailoverMessageManager

def bufSize : Nat := 16384

def byteSizeLong {Entry : Type} (size : Entry → Nat) (entries : List Entry) : Nat := (entries.map size).sum

def placeIfFits (size : Nat) (message : FailoverMessage) : List FailoverMessage :=
  if size ≤ bufSize then [message] else []

def publishMessages (sizes : EntrySizes) (manager : FailoverMessageManager) :
    FailoverMessageManager × List FailoverMessage :=
  let control :=
    placeIfFits (byteSizeLong sizes.motor manager.mMotorControl) (.motorControl manager.mMotorControl) ++
    placeIfFits (byteSizeLong sizes.solenoid manager.mSolenoidControl) (.solenoidControl manager.mSolenoidControl)
  let config :=
    if manager.mLoopCounter % 25 = 0 then
      placeIfFits manager.mMotorConfiguration.length (.motorConfig manager.mMotorConfiguration) ++
      placeIfFits manager.mLEDControl.length (.ledControl manager.mLEDControl)
    else []
  ({ manager with mLoopCounter := (manager.mLoopCounter + 1) % 2 ^ 32 }, control ++ config)

def addMotorControl (manager : FailoverMessageManager) (motor : MotorControlMotor) : FailoverMessageManager :=
  { manager with mMotorControl := manager.mMotorControl ++ [motor] }

def addSolenoidControl (manager : FailoverMessageManager) (solenoid : SolenoidControlSolenoid) :
    FailoverMessageManager :=
  { manager with mSolenoidControl := manager.mSolenoidControl ++ [solenoid] }

-- The subsystems keep a pointer to each entry they added; here it is the entry's index.
def setOutputValue (manager : FailoverMessageManager) (motor : Nat) (value : Double) : FailoverMessageManager :=
  { manager with mMotorControl := manager.mMotorControl.modify motor fun m => { m with outputValue := value } }

def setControlMode (manager : FailoverMessageManager) (motor : Nat) (mode : ControlMode) :
    FailoverMessageManager :=
  { manager with mMotorControl := manager.mMotorControl.modify motor fun m => { m with controlMode := mode } }

def setSolenoidValue (manager : FailoverMessageManager) (solenoid : Nat) (value : SolenoidValue) :
    FailoverMessageManager :=
  { manager with mSolenoidControl := manager.mSolenoidControl.modify solenoid fun s => { s with outputValue := value } }

end FailoverMessageManager

open FailoverMessageManager

def motorIds (manager : FailoverMessageManager) : List Int := manager.mMotorControl.map MotorControlMotor.id

def outputOf (manager : FailoverMessageManager) (motor : Nat) : Option Double :=
  manager.mMotorControl[motor]?.map MotorControlMotor.outputValue

@[simp] theorem motor_ids_set_output (manager : FailoverMessageManager) (motor : Nat) (value : Double) :
    motorIds (manager.setOutputValue motor value) = motorIds manager := by
  apply List.ext_getElem?
  intro index
  simp only [motorIds, setOutputValue, List.getElem?_map, List.getElem?_modify]
  cases manager.mMotorControl[index]? with
  | none => rfl
  | some m => by_cases same : motor = index <;> simp [same]

@[simp] theorem motor_ids_set_mode (manager : FailoverMessageManager) (motor : Nat) (mode : ControlMode) :
    motorIds (manager.setControlMode motor mode) = motorIds manager := by
  apply List.ext_getElem?
  intro index
  simp only [motorIds, setControlMode, List.getElem?_map, List.getElem?_modify]
  cases manager.mMotorControl[index]? with
  | none => rfl
  | some m => by_cases same : motor = index <;> simp [same]

@[simp] theorem motor_ids_set_solenoid (manager : FailoverMessageManager) (solenoid : Nat)
    (value : SolenoidValue) : motorIds (manager.setSolenoidValue solenoid value) = motorIds manager := rfl

theorem output_of_set_output (manager : FailoverMessageManager) (motor other : Nat) (value : Double) :
    outputOf (manager.setOutputValue motor value) other =
      if motor = other then (outputOf manager other).map fun _ => value else outputOf manager other := by
  simp only [outputOf, setOutputValue, List.getElem?_modify]
  cases manager.mMotorControl[other]? with
  | none => by_cases same : motor = other <;> simp [same]
  | some m => by_cases same : motor = other <;> simp [same]

@[simp] theorem output_of_set_mode (manager : FailoverMessageManager) (motor other : Nat) (mode : ControlMode) :
    outputOf (manager.setControlMode motor mode) other = outputOf manager other := by
  simp only [outputOf, setControlMode, List.getElem?_modify]
  cases manager.mMotorControl[other]? with
  | none => rfl
  | some m => by_cases same : motor = other <;> simp [same]

theorem motor_control_published (sizes : EntrySizes) (manager : FailoverMessageManager)
    (motors : List MotorControlMotor) :
    .motorControl motors ∈ (publishMessages sizes manager).2 ↔
      byteSizeLong sizes.motor manager.mMotorControl ≤ bufSize ∧ motors = manager.mMotorControl := by
  have config : ∀ size message, FailoverMessage.motorControl motors ∈ placeIfFits size message ↔
      size ≤ bufSize ∧ .motorControl motors = message := by
    intro size message
    by_cases fits : size ≤ bufSize <;> simp [placeIfFits, fits]
  simp only [publishMessages, List.mem_append, config]
  by_cases turn : manager.mLoopCounter % 25 = 0 <;> simp [turn, config]

end RioPassthru
