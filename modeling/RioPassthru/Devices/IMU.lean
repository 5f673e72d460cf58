import RioPassthru.Lib.Runs
import RioPassthru.Phoenix.PhoenixHelper
import RioPassthru.Protobuf.Equivalence

set_option autoImplicit false

namespace RioPassthru

open Protobuf

def imuFullName : String := "ck.IMUConfig.IMUConfigData"

abbrev IMUConfigData := Typed imuFullName

-- The field numbers, which the repository does not hold.
structure IMUProto where
  id : Nat
  imuType : Nat
  canNetwork : Nat
  mountPoseAxisForward : Nat
  mountPoseAxisUp : Nat

inductive IMUType where
  | PIGEON2
  | NAVX
  | other (number : Int)
deriving DecidableEq, Repr

def IMUType.ofNumber (number : Int) : IMUType :=
  if number = 0 then .PIGEON2 else if number = 1 then .NAVX else .other number

inductive PigeonCall where
  | setStatusFramePeriod (frame : Nat) (period : Int)
  | configMountPose (forward up : Int)
deriving DecidableEq, Repr

structure CKPigeon2 where
  deviceNumber : Nat
  canNetwork : String
deriving DecidableEq, Repr

structure CKIMUManager where
  mRegisteredIMUList : DeviceMap CKPigeon2
  mRegisteredIMUTypeList : DeviceMap IMUType
  mRegisteredIMUHeartbeatList : DeviceMap Int

namespace CKIMUManager

-- FAST_GYRO_CONFIG for RawStatus_4_Mag, CondStatus_6_SensorFusion, CondStatus_9_SixDeg_YPR,
-- CondStatus_10_SixDeg_Quat and CondStatus_11_GyroAccum. CKPigeon2's constructor ignores
-- what the helper returns for them.
def constructorWrites : List (List PigeonCall) :=
  [[.setStatusFramePeriod 4 5], [.setStatusFramePeriod 6 5], [.setStatusFramePeriod 9 5],
    [.setStatusFramePeriod 10 5], [.setStatusFramePeriod 11 5]]

variable (imus : CKIMUManager)

def kMaxHeartbeatTicks : Int := 250

def constructs (id : Nat) (imuType : IMUType) : Bool := decide (id ∉ imus.mRegisteredIMUList) && decide (imuType = .PIGEON2)

def registerIMU (id : Nat) (imuType : IMUType) (canInterface : Int) : CKIMUManager × List (List PigeonCall) :=
  let created := imus.constructs id imuType
  ({ mRegisteredIMUList :=
      if created then imus.mRegisteredIMUList.insert id ⟨id, Phoenix.getCANInterfaceName canInterface⟩
      else imus.mRegisteredIMUList
     mRegisteredIMUTypeList := imus.mRegisteredIMUTypeList.insert id imuType
     mRegisteredIMUHeartbeatList := imus.mRegisteredIMUHeartbeatList.insert id kMaxHeartbeatTicks },
    if created then constructorWrites else [])

end CKIMUManager

structure ApplyIMUConfigTask where
  imus : CKIMUManager
  mPrevIMUMsg : DeviceMap IMUConfigData

def defaultIMU : IMUConfigData where
  message := .mk imuFullName [] []
  typed := rfl
  wellFormed := by decide
  apart := by decide

namespace ApplyIMUConfigTask

variable (proto : IMUProto) (task : ApplyIMUConfigTask) (m : IMUConfigData)

def entryId : Nat := uint16 (toInt (m.message.scalar proto.id))
def entryType : IMUType := IMUType.ofNumber (toInt (m.message.scalar proto.imuType))

def registered : CKIMUManager × List (List PigeonCall) :=
  task.imus.registerIMU (entryId proto m) (entryType proto m) (toInt (m.message.scalar proto.canNetwork))

-- operator[] on mPrevIMUMsg inserts a default message.
def prevMsg (id : Nat) : DeviceMap IMUConfigData := task.mPrevIMUMsg.insertIfNew id defaultIMU

def poseWrites : List (List PigeonCall) :=
  if m.message.equivalent (task.mPrevIMUMsg.getD (entryId proto m) defaultIMU).message = false ∧
      entryId proto m ∈ (registered proto task m).1.mRegisteredIMUList then
    [[.configMountPose (toInt (m.message.scalar proto.mountPoseAxisForward)) (toInt (m.message.scalar proto.mountPoseAxisUp))]]
  else []

def entryCalls : List (List PigeonCall) := (registered proto task m).2 ++ poseWrites proto task m

def applyEntry (outcomes : EntryOutcomes) : ApplyIMUConfigTask × DeviceEntryRun :=
  let created := Phoenix.runWrites outcomes (registered proto task m).2
  let posed := Phoenix.runWrites (fun index => outcomes (created.length + index)) (poseWrites proto task m)
  let success := posed.all DeviceWrite.succeeded
  let looked := prevMsg task (entryId proto m)
  ({ imus := (registered proto task m).1
     mPrevIMUMsg := if success then looked.insert (entryId proto m) m else looked },
    ⟨created ++ posed, success⟩)

def run (message : List (IMUConfigData × EntryOutcomes)) : ApplyIMUConfigTask × List DeviceEntryRun :=
  Runs.runLog (fun task entry => applyEntry proto task entry.1 entry.2) task message

end ApplyIMUConfigTask

end RioPassthru
