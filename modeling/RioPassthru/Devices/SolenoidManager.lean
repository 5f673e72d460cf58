import RioPassthru.Failover.FailoverMessageManager
import RioPassthru.Lib.Expiry
import RioPassthru.Phoenix.PhoenixHelper

set_option autoImplicit false

namespace RioPassthru

inductive SolenoidModuleType where
  | ctrePCM
  | revPH
  | other (number : Int)
deriving DecidableEq, Repr

inductive SolenoidType where
  | single
  | double
  | other (number : Int)
deriving DecidableEq, Repr

-- Whether the constructors of frc::Solenoid and frc::DoubleSolenoid return, for a module,
-- its type and the channels; they throw for a channel that does not exist or is in use.
structure FrcPneumatics where
  solenoid : Nat → SolenoidModuleType → Nat → Bool
  doubleSolenoid : Nat → SolenoidModuleType → Nat → Nat → Bool

structure CKSolenoid where
  mModuleType : SolenoidModuleType
  mSolenoidId : Nat
  mSolenoidType : SolenoidType
  mValue : SolenoidValue
  mSingleSolenoid : Bool
  mDoubleSolenoid : Bool
deriving DecidableEq, Repr

namespace CKSolenoid

variable (solenoid : CKSolenoid)

-- A REV PH has the id 1 by default.
def getModuleId : Nat :=
  let retVal := solenoid.mSolenoidId / 65536 % 65536
  if solenoid.mModuleType = .revPH ∧ retVal = 0 then 1 else retVal

def getSolenoidId : Nat := solenoid.mSolenoidId % 65536

def getValue : SolenoidValue := solenoid.mValue

-- The constructor returns early for these ids and leaves the object without a driver.
def idsInvalid : Bool :=
  match solenoid.mModuleType with
  | .ctrePCM => decide (64 ≤ solenoid.getModuleId ∨ 8 ≤ solenoid.getSolenoidId)
  | .revPH => decide (63 ≤ solenoid.getModuleId ∨ 16 ≤ solenoid.getSolenoidId)
  | .other _ => false

-- none where the constructor throws.
def construct (frc : FrcPneumatics) (moduleType : SolenoidModuleType) (solenoidId : Nat) (solenoidType : SolenoidType) :
    Option CKSolenoid :=
  let solenoid : CKSolenoid := ⟨moduleType, solenoidId, solenoidType, .off, false, false⟩
  let moduleId := solenoid.getModuleId
  let channel := solenoid.getSolenoidId
  if solenoid.idsInvalid then some solenoid
  else
    match solenoidType with
    | .single =>
        if frc.solenoid moduleId moduleType channel then some { solenoid with mSingleSolenoid := true } else none
    | .double =>
        if frc.doubleSolenoid moduleId moduleType channel (channel + 1) then some { solenoid with mDoubleSolenoid := true }
        else none
    | .other _ => some solenoid

end CKSolenoid

structure SolenoidManager where
  mRegisteredSolenoidList : DeviceMap CKSolenoid
  mRegisteredSolenoidTypeList : DeviceMap SolenoidType
  mRegisteredSolenoidHeartbeatList : DeviceMap Int

namespace SolenoidManager

def empty : SolenoidManager := ⟨∅, ∅, ∅⟩

def kMaxHeartbeatTicks : Int := 250

variable (solenoids : SolenoidManager)

def beat (id : Nat) : SolenoidManager :=
  { solenoids with
    mRegisteredSolenoidHeartbeatList := solenoids.mRegisteredSolenoidHeartbeatList.insert id kMaxHeartbeatTicks }

-- new comes before operator[], so a constructor that throws leaves the maps alone.
def registerSolenoid (frc : FrcPneumatics) (moduleType : SolenoidModuleType) (id : Nat) (solenoidType : SolenoidType) :
    SolenoidManager :=
  if id ∈ solenoids.mRegisteredSolenoidList then solenoids.beat id
  else
    match CKSolenoid.construct frc moduleType id solenoidType with
    | none => solenoids
    | some solenoid =>
        beat { solenoids with
          mRegisteredSolenoidList := solenoids.mRegisteredSolenoidList.insert id solenoid
          mRegisteredSolenoidTypeList := solenoids.mRegisteredSolenoidTypeList.insert id solenoidType } id

def deleteSolenoid (id : Nat) : SolenoidManager :=
  { solenoids with
    mRegisteredSolenoidList := solenoids.mRegisteredSolenoidList.erase id
    mRegisteredSolenoidTypeList := solenoids.mRegisteredSolenoidTypeList.erase id }

def setHeartbeats (beats : DeviceMap Int) : SolenoidManager := { solenoids with mRegisteredSolenoidHeartbeatList := beats }

def tick (id : Nat) : SolenoidManager :=
  let beats := solenoids.mRegisteredSolenoidHeartbeatList
  let left := beats.getD id 0 - 1
  if left ≤ 0 then (solenoids.deleteSolenoid id).setHeartbeats ((beats.insert id left).erase id)
  else solenoids.setHeartbeats (beats.insert id left)

def processHeartbeat : SolenoidManager := Expiry.loop tick mRegisteredSolenoidHeartbeatList solenoids

end SolenoidManager

end RioPassthru
