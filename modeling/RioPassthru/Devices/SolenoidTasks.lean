import RioPassthru.Lib.Records
import RioPassthru.Status.StatusTasks

set_option autoImplicit false

namespace RioPassthru

def uint32 (id : Int) : Nat := (id % 4294967296).toNat

def SolenoidValue.equals (numbers : SolenoidNumbers) (left right : SolenoidValue) : Bool :=
  decide (left.number numbers = right.number numbers)

namespace DoubleSolenoid

inductive Value where
  | kOff
  | kForward
  | kReverse
  | other (number : Int)
deriving DecidableEq, Repr

def Value.ofNumber (number : Int) : Value :=
  if number = 0 then .kOff else if number = 1 then .kForward else if number = 2 then .kReverse else .other number

end DoubleSolenoid

-- What Set of frc::Solenoid or of frc::DoubleSolenoid is given.
inductive SolenoidWrite where
  | single (on : Bool)
  | double (value : DoubleSolenoid.Value)
deriving DecidableEq, Repr

namespace CKSolenoid

variable (numbers : SolenoidNumbers) (solenoid : CKSolenoid)

def hasDriver : Bool := solenoid.mSingleSolenoid || solenoid.mDoubleSolenoid

-- none stands for the report of an invalid set.
def written (value : SolenoidValue) : Option SolenoidWrite :=
  match solenoid.mSolenoidType with
  | .single =>
      if (value.equals numbers .on || value.equals numbers .off) && solenoid.mSingleSolenoid then
        some (.single (value.equals numbers .on))
      else none
  | .double =>
      if (value.equals numbers .off || value.equals numbers .forward || value.equals numbers .reverse) &&
          solenoid.mDoubleSolenoid then
        some (.double (.ofNumber (value.number numbers)))
      else none
  | .other _ => none

-- mValue is stored before the value is checked.
def set (value : SolenoidValue) : CKSolenoid × Option SolenoidWrite :=
  if solenoid.hasDriver then ({ solenoid with mValue := value }, solenoid.written numbers value) else (solenoid, none)

end CKSolenoid

structure SolenoidUpdate extends SolenoidControlSolenoid where
  moduleType : SolenoidModuleType
  solenoidType : SolenoidType
deriving DecidableEq, Repr

structure SolenoidControl where
  solenoids : List SolenoidUpdate
  compressorIsEnabledForAuto : Bool
deriving DecidableEq, Repr

namespace SolenoidControl

-- Numbers and booleans without presence: MessageDifferencer::Equivalent compares them
-- one by one, the entries in their order, and leaves unknown fields out.
def equivalent (left right : SolenoidControl) : Bool := decide (left = right)

def default : SolenoidControl := ⟨[], false⟩

end SolenoidControl

structure Pneumatics where
  solenoids : SolenoidManager
  hardware : DeviceMap SolenoidWrite

structure SolenoidLoop where
  pneumatics : Pneumatics
  sets : List (CKSolenoid × SolenoidUpdate)
  completed : Bool

-- update is the message of the group, with what ParseFromArray has put into it and whether
-- it returned true; frc is what the constructors do at each entry, and frcCompressor
-- whether that of frc::Compressor returns.
structure SolenoidInput where
  update : Option (SolenoidControl × Bool)
  teleop : Bool
  frcCompressor : Bool
  frc : Nat → FrcPneumatics
  timeNow : UInt64
  timeStarted : UInt64

inductive SolenoidOutcome where
  | idle
  | malformed (solenoidUpdate : SolenoidControl)
  | thrown
  | skipped (solenoidUpdate : SolenoidControl)
  | applied (solenoidUpdate : SolenoidControl) (sets : List (CKSolenoid × SolenoidUpdate)) (completed : Bool)

structure ApplySolenoidValuesTask where
  mPrevSolenoidMsg : SolenoidControl
  rtTimer : UInt64
  mCompressor : Bool
  mCompressorState : Bool

structure SolenoidRun where
  task : ApplySolenoidValuesTask
  pneumatics : Pneumatics
  outcome : SolenoidOutcome

namespace ApplySolenoidValuesTask

def kMandatoryUpdatePerioduS : UInt64 := 200000

def construct (mCompressor : Bool) (timeNow : UInt64) : ApplySolenoidValuesTask := ⟨.default, timeNow, mCompressor, false⟩

variable (numbers : SolenoidNumbers)

-- registerSolenoid leaves the id out only where it throws, which ends the run. A new
-- solenoid has been set to nothing yet.
def applySolenoid (frc : FrcPneumatics) (pneumatics : Pneumatics) (s : SolenoidUpdate) : Option (Pneumatics × CKSolenoid) :=
  let id := uint32 s.id
  let registered := pneumatics.solenoids.registerSolenoid frc s.moduleType id s.solenoidType
  let hardware := if id ∈ pneumatics.solenoids.mRegisteredSolenoidList then pneumatics.hardware else pneumatics.hardware.erase id
  registered.mRegisteredSolenoidList[id]?.map fun sCtrl =>
    ({ solenoids :=
         { registered with mRegisteredSolenoidList := registered.mRegisteredSolenoidList.insert id (sCtrl.set numbers s.outputValue).1 }
       hardware :=
         match (sCtrl.set numbers s.outputValue).2 with
         | some value => hardware.insert id value
         | none => hardware }, sCtrl)

def applySolenoids (frc : Nat → FrcPneumatics) (position : Nat) (pneumatics : Pneumatics) : List SolenoidUpdate → SolenoidLoop
  | [] => ⟨pneumatics, [], true⟩
  | s :: rest =>
      match applySolenoid numbers (frc position) pneumatics s with
      | none => ⟨pneumatics, [], false⟩
      | some (next, sCtrl) =>
          let later := applySolenoids frc (position + 1) next rest
          ⟨later.pneumatics, (sCtrl, s) :: later.sets, later.completed⟩

variable (task : ApplySolenoidValuesTask) (pneumatics : Pneumatics) (input : SolenoidInput)

-- none where the constructor throws. The compressor is called only where its state changes.
def updateCompressor (solenoidUpdate : SolenoidControl) : Option ApplySolenoidValuesTask :=
  if solenoidUpdate.solenoids = [] then some task
  else if task.mCompressor || input.frcCompressor then
    some { task with mCompressor := true, mCompressorState := solenoidUpdate.compressorIsEnabledForAuto || input.teleop }
  else none

def due (solenoidUpdate : SolenoidControl) : Bool :=
  !solenoidUpdate.equivalent task.mPrevSolenoidMsg || decide (kMandatoryUpdatePerioduS < input.timeNow - task.rtTimer)

-- An exception leaves run at once, and the scheduler catches it.
def run : SolenoidRun :=
  match input.update with
  | none => ⟨task, pneumatics, .idle⟩
  | some (solenoidUpdate, false) => ⟨{ task with mPrevSolenoidMsg := solenoidUpdate }, pneumatics, .malformed solenoidUpdate⟩
  | some (solenoidUpdate, true) =>
      match task.updateCompressor input solenoidUpdate with
      | none => ⟨task, pneumatics, .thrown⟩
      | some ready =>
          if task.due input solenoidUpdate then
            let loop := applySolenoids numbers input.frc 0 pneumatics solenoidUpdate.solenoids
            ⟨if loop.completed then { ready with mPrevSolenoidMsg := solenoidUpdate, rtTimer := input.timeStarted } else ready,
              loop.pneumatics, .applied solenoidUpdate loop.sets loop.completed⟩
          else ⟨{ ready with mPrevSolenoidMsg := solenoidUpdate }, pneumatics, .skipped solenoidUpdate⟩

theorem update_compressor_memory (solenoidUpdate : SolenoidControl) (ready : ApplySolenoidValuesTask)
    (updated : task.updateCompressor input solenoidUpdate = some ready) :
    ready.mPrevSolenoidMsg = task.mPrevSolenoidMsg ∧ ready.rtTimer = task.rtTimer := by
  rw [updateCompressor] at updated
  split_ifs at updated <;> obtain rfl := Option.some.inj updated <;> exact ⟨rfl, rfl⟩

end ApplySolenoidValuesTask

end RioPassthru
