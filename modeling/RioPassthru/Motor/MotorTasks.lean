import RioPassthru.Motor.MotorManager
import RioPassthru.Motor.MotorWrites

set_option autoImplicit false

namespace RioPassthru

open Protobuf

-- message is what getMessage and ParseFromArray yield, locked the outcome of try_lock.
structure ValuesInput where
  message : Option (List MotorControlMotor)
  locked : Bool
  disabled : Bool

abbrev RunOutcomes := Nat → EntryOutcomes

structure ConfigInput where
  message : Option (List MotorConfigurationMotor)
  locked : Bool
  getEncoder : Int → Option Int
  outcomes : RunOutcomes

-- recorded is whether mPrevMotorMsgs held the id before the entry was looked at.
structure ConfigEntryRun where
  id : Nat
  recorded : Bool
  differential : Bool
  writes : List DeviceWrite
  nullCast : Bool
  stored : Bool
deriving DecidableEq, Repr

namespace ApplyMotorValuesTask

-- toId stands for the conversion of a double to uint16_t.
variable (toId : Double → Nat)

def driveMotor (m : MotorControlMotor) (motors : MotorManager) : MotorManager :=
  match motors.onMotor (uint16 m.id) with
  | (next, none) => next
  | (next, some (mCtrl, _)) =>
      if m.controlMode ≠ .follower then
        if m.outputValue.isInf = false ∧ m.outputValue.isNaN = false then
          next.command (uint16 m.id) mCtrl (.set m.controlMode m.outputValue m.arbitraryFeedforward)
        else next
      else
        match next.getMotor (toId m.outputValue) with
        | some motorMaster =>
            if mCtrl.getControlMode ≠ .follower then next.command (uint16 m.id) mCtrl (.follow motorMaster.deviceNumber)
            else next
        | none => next

def applyMotor (stores : MotorStores) (m : MotorControlMotor) : MotorStores :=
  match stores.configs.mMotorMsgs[uint16 m.id]? with
  | none => stores
  | some config =>
      if (m.controlMode = .follower ∧ stores.motors.motorExists (toId m.outputValue) = true) ∨ m.controlMode ≠ .follower then
        { stores with
          motors := driveMotor toId m (stores.motors.registerMotor (uint16 m.id) m.controllerType config.canNetwork) }
      else stores

def stopMasters (motors : MotorManager) : MotorManager :=
  motors.forEach fun _ mCtrl _ =>
    if mCtrl.getControlMode ≠ .follower then some (.set .percentOutput 0 0) else none

def applyMessage (stores : MotorStores) (input : ValuesInput) : MotorStores :=
  match input.message with
  | some motorsUpdate => if input.locked then motorsUpdate.foldl (applyMotor toId) stores else stores
  | none => stores

def run (stores : MotorStores) (input : ValuesInput) : MotorStores :=
  let applied := applyMessage toId stores input
  if input.disabled then { applied with motors := stopMasters applied.motors } else applied

end ApplyMotorValuesTask

namespace ApplyMotorConfigTask

variable (proto : MotorProto)

def mDiffReporter : DifferentialUpdateReporter := registeredIn motorFullName motorUpdateFields

-- The cast before the current limits; null makes the closure that uses it fault.
def currentLimitCastFails (mType : MotorType) (mCtrl : BaseTalon) : Bool :=
  match mType with
  | .talonFX => dynamicCast .TalonFX mCtrl = none
  | .talonSRX => dynamicCast .TalonSRX mCtrl = none
  | .other _ => false

def updateCastFails (number : Nat) (mType : MotorType) (mCtrl : BaseTalon) : Bool :=
  if number = 27 then currentLimitCastFails mType mCtrl
  else if number = 28 then decide (mType = .talonFX) && currentLimitCastFails mType mCtrl
  else false

structure Issued where
  writes : List (List MotorCall)
  nullCast : Bool

def fullUpdateOf (motors : MotorManager) (m : MotorConfigurationMotor) : MotorManager × Issued :=
  match motors.onMotor (uint16 m.id) with
  | (next, some (mCtrl, mType)) => (next, ⟨fullUpdateWrites proto mType m, currentLimitCastFails mType mCtrl⟩)
  | (next, none) => (next, ⟨[], false⟩)

def getTypedMessage (message : Message) : Option MotorConfigurationMotor := RioPassthru.getTypedMessage motorFullName message

def updateOf (getEncoder : Int → Option Int) (motors : MotorManager) (call : UpdateCall) : MotorManager × Issued :=
  match getTypedMessage call.message with
  | none => (motors, ⟨[], false⟩)
  | some m =>
      match motors.onMotor (uint16 m.id) with
      | (next, some (mCtrl, mType)) =>
          (next, ⟨updateFunctionWrites proto mType m getEncoder call.field.number,
            updateCastFails call.field.number mType mCtrl⟩)
      | (next, none) => (next, ⟨[], false⟩)

def updatesOf (getEncoder : Int → Option Int) (motors : MotorManager) : List UpdateCall → MotorManager × Issued
  | [] => (motors, ⟨[], false⟩)
  | call :: rest =>
      let first := updateOf proto getEncoder motors call
      let later := updatesOf getEncoder first.1 rest
      (later.1, ⟨first.2.writes ++ later.2.writes, first.2.nullCast || later.2.nullCast⟩)

def applyEntry (getEncoder : Int → Option Int) (outcomes : EntryOutcomes) (size : Nat)
    (stores : MotorStores) (m : MotorConfigurationMotor) : MotorStores × List ConfigEntryRun :=
  let id := uint16 m.id
  if stores.motors.motorExists id then
    let recorded := stores.configs.mPrevMotorMsgs.contains id
    if size = stores.configs.mPrevMotorMsgs.size then
      let looked := stores.configs.prevMotorMsg id
      let update := updatesOf proto getEncoder stores.motors (mDiffReporter.compareWith looked.2.message m.message)
      (⟨update.1, looked.1.setPrevMotorConfigMsg id m⟩,
        [⟨id, recorded, true, Phoenix.runWrites outcomes update.2.writes, update.2.nullCast, true⟩])
    else
      let update := fullUpdateOf proto stores.motors m
      (⟨update.1, stores.configs.setPrevMotorConfigMsg id m⟩,
        [⟨id, recorded, false, Phoenix.runWrites outcomes update.2.writes, update.2.nullCast, true⟩])
  else (stores, [])

def applyEntries (getEncoder : Int → Option Int) (outcomes : RunOutcomes) (size : Nat) (position : Nat)
    (stores : MotorStores) : List MotorConfigurationMotor → MotorStores × List ConfigEntryRun
  | [] => (stores, [])
  | m :: rest =>
      let first := applyEntry proto getEncoder (outcomes position) size stores m
      let later := applyEntries getEncoder outcomes size (position + 1) first.1 rest
      (later.1, first.2 ++ later.2)

def run (stores : MotorStores) (input : ConfigInput) : MotorStores × List ConfigEntryRun :=
  match input.message with
  | some motorsUpdate =>
      if input.locked then
        applyEntries proto input.getEncoder input.outcomes motorsUpdate.length 0
          { stores with configs := stores.configs.setMotorsConfigMsg motorsUpdate } motorsUpdate
      else (stores, [])
  | none => (stores, [])

end ApplyMotorConfigTask

inductive MotorOp where
  | applyMotorValues (input : ValuesInput)
  | applyMotorConfig (input : ConfigInput)
  | processHeartbeat

structure MotorWorld where
  proto : MotorProto
  toId : Double → Nat

def motorStep (world : MotorWorld) (stores : MotorStores) : MotorOp → MotorStores
  | .applyMotorValues input => ApplyMotorValuesTask.run world.toId stores input
  | .applyMotorConfig input => (ApplyMotorConfigTask.run world.proto stores input).1
  | .processHeartbeat => stores.processHeartbeat

def entryRuns (world : MotorWorld) (stores : MotorStores) : MotorOp → List ConfigEntryRun
  | .applyMotorConfig input => (ApplyMotorConfigTask.run world.proto stores input).2
  | _ => []

end RioPassthru
