import RioPassthru.Failover.FailoverMessageManager
import RioPassthru.Motor.MotorConfiguration
import RioPassthru.Phoenix.PhoenixHelper

set_option autoImplicit false

namespace RioPassthru

open Protobuf

inductive TalonClass where
  | TalonFX
  | TalonSRX
deriving DecidableEq, Repr

inductive TalonCommand where
  | set (mode : ControlMode) (value arbitraryFeedforward : Double)
  | follow (master : Nat)
deriving DecidableEq, Repr

-- The controller object a pointer in mRegisteredMotorList leads to; none of them is null.
structure BaseTalon where
  talonClass : TalonClass
  deviceNumber : Nat
  canNetwork : String
  lastCommand : Option TalonCommand
deriving DecidableEq, Repr

def BaseTalon.getControlMode (mCtrl : BaseTalon) : ControlMode :=
  match mCtrl.lastCommand with
  | none => .percentOutput
  | some (.set mode _ _) => mode
  | some (.follow _) => .follower

def dynamicCast (target : TalonClass) (mCtrl : BaseTalon) : Option BaseTalon :=
  if mCtrl.talonClass = target then some mCtrl else none

structure MotorConfigManager where
  mMotorMsgs : DeviceMap MotorConfigurationMotor
  mPrevMotorMsgs : DeviceMap MotorConfigurationMotor

structure MotorManager where
  mRegisteredMotorList : DeviceMap BaseTalon
  mRegisteredMotorTypeList : DeviceMap MotorType
  mRegisteredMotorHeartbeatList : DeviceMap Int

structure MotorStores where
  motors : MotorManager
  configs : MotorConfigManager

def MotorStores.empty : MotorStores := ⟨⟨∅, ∅, ∅⟩, ⟨∅, ∅⟩⟩

def defaultMotor : MotorConfigurationMotor where
  message := .mk motorFullName [] []
  typed := rfl
  wellFormed := by decide
  apart := by decide

namespace MotorConfigManager

variable (configs : MotorConfigManager)

def setPrevMotorConfigMsg (id : Nat) (motorConfigMsg : MotorConfigurationMotor) : MotorConfigManager :=
  { configs with mPrevMotorMsgs := configs.mPrevMotorMsgs.insert id motorConfigMsg }

def setMotorsConfigMsg (motorConfigMsg : List MotorConfigurationMotor) : MotorConfigManager :=
  { configs with mMotorMsgs := motorConfigMsg.foldl (fun msgs m => msgs.insert (uint16 m.id) m) configs.mMotorMsgs }

def deleteMotor (id : Nat) : MotorConfigManager :=
  ⟨configs.mMotorMsgs.erase id, configs.mPrevMotorMsgs.erase id⟩

-- operator[] on mPrevMotorMsgs inserts a default message for an id it does not hold.
def prevMotorMsg (id : Nat) : MotorConfigManager × MotorConfigurationMotor :=
  match configs.mPrevMotorMsgs[id]? with
  | some prev => (configs, prev)
  | none => ({ configs with mPrevMotorMsgs := configs.mPrevMotorMsgs.insert id defaultMotor }, defaultMotor)

end MotorConfigManager

namespace MotorManager

variable (motors : MotorManager)

def kMaxHeartbeatTicks : Int := 250

def newMotor (id : Nat) (motorType : MotorType) (canInterface : Int) : Option BaseTalon :=
  match motorType with
  | .talonFX => some ⟨.TalonFX, id, Phoenix.getCANInterfaceName canInterface, none⟩
  | .talonSRX => some ⟨.TalonSRX, id, "", none⟩
  | .other _ => none

def beat (id : Nat) : MotorManager :=
  { motors with mRegisteredMotorHeartbeatList := motors.mRegisteredMotorHeartbeatList.insert id kMaxHeartbeatTicks }

def registerMotor (id : Nat) (motorType : MotorType) (canInterface : Int) : MotorManager :=
  if id < 64 then
    if id ∈ motors.mRegisteredMotorList then motors.beat id
    else
      match newMotor id motorType canInterface with
      | none => motors
      | some mCtrl =>
          beat { motors with
            mRegisteredMotorList := motors.mRegisteredMotorList.insert id mCtrl
            mRegisteredMotorTypeList := motors.mRegisteredMotorTypeList.insert id motorType } id
  else motors

def motorExists (id : Nat) : Bool := motors.mRegisteredMotorList.contains id

def getMotor (id : Nat) : Option BaseTalon := motors.mRegisteredMotorList[id]?

-- operator[] on mRegisteredMotorTypeList; a new entry is MotorType(0), TALON_FX.
def motorType (id : Nat) : MotorManager × MotorType :=
  match motors.mRegisteredMotorTypeList[id]? with
  | some mType => (motors, mType)
  | none =>
      ({ motors with mRegisteredMotorTypeList := motors.mRegisteredMotorTypeList.insert id .talonFX }, .talonFX)

def onMotor (id : Nat) : MotorManager × Option (BaseTalon × MotorType) :=
  match motors.mRegisteredMotorList[id]? with
  | some mCtrl => ((motors.motorType id).1, some (mCtrl, (motors.motorType id).2))
  | none => (motors, none)

def command (id : Nat) (mCtrl : BaseTalon) (sent : TalonCommand) : MotorManager :=
  { motors with
    mRegisteredMotorList := motors.mRegisteredMotorList.insert id { mCtrl with lastCommand := some sent } }

def visit (func : Nat → BaseTalon → MotorType → Option TalonCommand) (id : Nat) : MotorManager :=
  match motors.onMotor id with
  | (next, some (mCtrl, mType)) =>
      match func id mCtrl mType with
      | some sent => next.command id mCtrl sent
      | none => next
  | (next, none) => next

def forEach (func : Nat → BaseTalon → MotorType → Option TalonCommand) : MotorManager :=
  motors.mRegisteredMotorList.keys.foldl (fun manager id => manager.visit func id) motors

end MotorManager

namespace MotorStores

variable (stores : MotorStores)

def deleteMotor (id : Nat) : MotorStores :=
  ⟨{ stores.motors with
      mRegisteredMotorList := stores.motors.mRegisteredMotorList.erase id
      mRegisteredMotorTypeList := stores.motors.mRegisteredMotorTypeList.erase id },
    stores.configs.deleteMotor id⟩

def setHeartbeats (beats : DeviceMap Int) : MotorStores :=
  { stores with motors := { stores.motors with mRegisteredMotorHeartbeatList := beats } }

def tick (id : Nat) : MotorStores :=
  let beats := stores.motors.mRegisteredMotorHeartbeatList
  let left := beats.getD id 0 - 1
  if left ≤ 0 then ((stores.deleteMotor id).setHeartbeats ((beats.insert id left).erase id))
  else stores.setHeartbeats (beats.insert id left)

def processHeartbeat : MotorStores :=
  stores.motors.mRegisteredMotorHeartbeatList.keys.foldl tick stores

end MotorStores

end RioPassthru
