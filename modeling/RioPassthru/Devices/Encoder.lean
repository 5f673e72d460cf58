import RioPassthru.Devices.IMU

set_option autoImplicit false

namespace RioPassthru

open Protobuf

def encoderFullName : String := "ck.EncoderConfig.EncoderConfigData"

abbrev EncoderConfigData := Typed encoderFullName

structure EncoderProto where
  id : Nat
  encoderType : Nat
  canNetwork : Nat
  sensorSource : Nat
  initializationStrategy : Nat
  magneticOffset : Nat

inductive EncoderType where
  | CANCoder
  | other (number : Int)
deriving DecidableEq, Repr

def EncoderType.ofNumber (number : Int) : EncoderType :=
  if number = 0 then .CANCoder else .other number

inductive EncoderCall where
  | configSensorInitializationStrategy (strategy : Int)
  | configMagnetOffset (offset : Option Scalar)
deriving DecidableEq, Repr

structure CKCANCoder where
  deviceNumber : Nat
  canNetwork : String
  sensorSource : Int
deriving DecidableEq, Repr

structure CKEncoderManager where
  mRegisteredEncoderList : DeviceMap CKCANCoder
  mRegisteredEncoderTypeList : DeviceMap EncoderType
  mRegisteredEncoderHeartbeatList : DeviceMap Int

namespace CKEncoderManager

variable (encoders : CKEncoderManager)

def kMaxHeartbeatTicks : Int := 250

-- The type of a known id is overwritten, its driver is kept.
def registerEncoder (id : Nat) (encoderType : EncoderType) (canInterface : Int) : CKEncoderManager where
  mRegisteredEncoderList :=
    if id ∉ encoders.mRegisteredEncoderList ∧ encoderType = .CANCoder then
      encoders.mRegisteredEncoderList.insert id ⟨id, Phoenix.getCANInterfaceName canInterface, 0⟩
    else encoders.mRegisteredEncoderList
  mRegisteredEncoderTypeList := encoders.mRegisteredEncoderTypeList.insert id encoderType
  mRegisteredEncoderHeartbeatList := encoders.mRegisteredEncoderHeartbeatList.insert id kMaxHeartbeatTicks

def configSensorSource (id : Nat) (source : Int) : CKEncoderManager :=
  { encoders with
    mRegisteredEncoderList := encoders.mRegisteredEncoderList.modify id fun encoder => { encoder with sensorSource := source } }

def getEncoder (id : Nat) : Option CKCANCoder := encoders.mRegisteredEncoderList[id]?

end CKEncoderManager

structure ApplyEncoderConfigTask where
  encoders : CKEncoderManager
  mPrevEncoderMsg : DeviceMap EncoderConfigData

def defaultEncoder : EncoderConfigData where
  message := .mk encoderFullName [] []
  typed := rfl
  wellFormed := by decide
  apart := by decide

namespace ApplyEncoderConfigTask

variable (proto : EncoderProto) (task : ApplyEncoderConfigTask) (m : EncoderConfigData)

def entryId : Nat := uint16 (toInt (m.message.scalar proto.id))
def entryType : EncoderType := EncoderType.ofNumber (toInt (m.message.scalar proto.encoderType))

def registered : CKEncoderManager :=
  task.encoders.registerEncoder (entryId proto m) (entryType proto m) (toInt (m.message.scalar proto.canNetwork))

def prevMsg (id : Nat) : DeviceMap EncoderConfigData := task.mPrevEncoderMsg.insertIfNew id defaultEncoder

def configures : Bool :=
  !m.message.equivalent (task.mPrevEncoderMsg.getD (entryId proto m) defaultEncoder).message &&
    (registered proto task m).mRegisteredEncoderList.contains (entryId proto m)

def strategyWrites : List (List EncoderCall) :=
  if configures proto task m then
    [[.configSensorInitializationStrategy (toInt (m.message.scalar proto.initializationStrategy))]]
  else []

-- The call goes past the helper, and its result is dropped.
def offsetCalls : List EncoderCall :=
  if configures proto task m ∧ entryType proto m = .CANCoder then
    [.configMagnetOffset (m.message.scalar proto.magneticOffset)]
  else []

def entryCalls : List (List EncoderCall) := strategyWrites proto task m ++ (offsetCalls proto task m).map fun call => [call]

def applyEntry (outcomes : EntryOutcomes) : ApplyEncoderConfigTask × DeviceEntryRun :=
  let strategy := Phoenix.runWrites outcomes (strategyWrites proto task m)
  let offset := (offsetCalls proto task m).map fun _ => Phoenix.runOnce (outcomes strategy.length)
  let success := strategy.all DeviceWrite.succeeded
  let looked := prevMsg task (entryId proto m)
  ({ encoders :=
      if configures proto task m then
        (registered proto task m).configSensorSource (entryId proto m) (toInt (m.message.scalar proto.sensorSource))
      else registered proto task m
     mPrevEncoderMsg := if success then looked.insert (entryId proto m) m else looked },
    ⟨strategy ++ offset, success⟩)

def run (message : List (EncoderConfigData × EntryOutcomes)) : ApplyEncoderConfigTask × List DeviceEntryRun :=
  Runs.runLog (fun task entry => applyEntry proto task entry.1 entry.2) task message

end ApplyEncoderConfigTask

end RioPassthru
