import RioPassthru.Devices.IMU
import RioPassthru.Lib.Expiry

set_option autoImplicit false

namespace RioPassthru

def CKPigeon2.imuType (_imu : CKPigeon2) : IMUType := .PIGEON2

namespace CKIMUManager

def empty : CKIMUManager := ⟨∅, ∅, ∅⟩

variable (imus : CKIMUManager)

def deleteIMU (id : Nat) : CKIMUManager :=
  { imus with
    mRegisteredIMUList := imus.mRegisteredIMUList.erase id
    mRegisteredIMUTypeList := imus.mRegisteredIMUTypeList.erase id }

def setHeartbeats (beats : DeviceMap Int) : CKIMUManager := { imus with mRegisteredIMUHeartbeatList := beats }

def tick (id : Nat) : CKIMUManager :=
  let beats := imus.mRegisteredIMUHeartbeatList
  let left := beats.getD id 0 - 1
  if left ≤ 0 then (imus.deleteIMU id).setHeartbeats ((beats.insert id left).erase id)
  else imus.setHeartbeats (beats.insert id left)

def processHeartbeat : CKIMUManager := Expiry.loop tick mRegisteredIMUHeartbeatList imus

structure Described : Prop where
  types : ∀ id : Nat, id ∈ imus.mRegisteredIMUTypeList ↔ id ∈ imus.mRegisteredIMUList
  heartbeats : ∀ id : Nat, id ∈ imus.mRegisteredIMUHeartbeatList ↔ id ∈ imus.mRegisteredIMUList
  recorded : ∀ (id : Nat) (imu : CKPigeon2), imus.mRegisteredIMUList[id]? = some imu →
    imus.mRegisteredIMUTypeList[id]? = some imu.imuType

end CKIMUManager

inductive IMUOp where
  | registerIMU (id : Nat) (imuType : IMUType) (canInterface : Int)
  | processHeartbeat

def imuStep (imus : CKIMUManager) : IMUOp → CKIMUManager
  | .registerIMU id imuType canInterface => (imus.registerIMU id imuType canInterface).1
  | .processHeartbeat => imus.processHeartbeat

def HasDriver : IMUOp → Prop
  | .registerIMU _ imuType _ => imuType = .PIGEON2
  | .processHeartbeat => True

namespace CKIMUManager

theorem empty_described : empty.Described := by
  refine ⟨?_, ?_, ?_⟩ <;> simp [empty]

theorem tick_described (imus : CKIMUManager) (kept : imus.Described) (id : Nat) : (imus.tick id).Described := by
  obtain ⟨types, heartbeats, recorded⟩ := kept
  have beats : (imus.tick id).mRegisteredIMUHeartbeatList = Expiry.turn imus.mRegisteredIMUHeartbeatList id := by
    rw [tick, Expiry.turn]
    exact apply_ite (fun later : CKIMUManager => later.mRegisteredIMUHeartbeatList) _ _ _
  refine ⟨?types, ?heartbeats, ?recorded⟩
  case heartbeats =>
    intro key
    rw [beats, Expiry.mem_turn, heartbeats key, tick]
    split <;> grind [deleteIMU, setHeartbeats]
  all_goals
    rw [tick]
    split <;> grind [deleteIMU, setHeartbeats]

theorem process_heartbeat_described (imus : CKIMUManager) (kept : imus.Described) : imus.processHeartbeat.Described :=
  Expiry.loop_invariant tick mRegisteredIMUHeartbeatList Described (fun imus id => (tick_described imus · id)) imus kept

theorem register_described (imus : CKIMUManager) (kept : imus.Described) (id : Nat) (canInterface : Int) :
    (imus.registerIMU id .PIGEON2 canInterface).1.Described := by
  obtain ⟨types, heartbeats, recorded⟩ := kept
  refine ⟨?_, ?_, ?_⟩ <;> grind [registerIMU, constructs, CKPigeon2.imuType]

theorem register_without_driver (imus : CKIMUManager) (id : Nat) (imuType : IMUType) (canInterface : Int)
    (described : (imus.registerIMU id imuType canInterface).1.Described) : imuType = .PIGEON2 := by
  have entry : (imus.registerIMU id imuType canInterface).1.mRegisteredIMUTypeList[id]? = some imuType := by
    simp [registerIMU]
  have held := (described.types id).mp (Std.ExtTreeMap.mem_iff_isSome_getElem?.mpr (by rw [entry]; rfl))
  obtain ⟨imu, found⟩ := get_of_mem _ id held
  exact Option.some.inj (entry.symm.trans (described.recorded id imu found))

theorem step_described_iff (imus : CKIMUManager) (kept : imus.Described) (op : IMUOp) : (imuStep imus op).Described ↔ HasDriver op := by
  cases op with
  | processHeartbeat => exact iff_of_true (process_heartbeat_described imus kept) trivial
  | registerIMU id imuType canInterface =>
      refine ⟨register_without_driver imus id imuType canInterface, ?_⟩
      intro driver
      have type : imuType = .PIGEON2 := driver
      rw [type]
      exact register_described imus kept id canInterface

end CKIMUManager

theorem imu_registry_described_iff (ops : List IMUOp) :
    Runs.EachStep imuStep (fun imus op => (imuStep imus op).Described) .empty ops ↔ ∀ op ∈ ops, HasDriver op := by
  rw [← Runs.each_step_inputs imuStep HasDriver ops .empty]
  refine Runs.each_step_iff_of_invariant imuStep CKIMUManager.Described _ _
    (fun imus op kept => CKIMUManager.step_described_iff imus kept op) ?_ ops .empty CKIMUManager.empty_described
  intro imus op kept driver
  exact (CKIMUManager.step_described_iff imus kept op).mpr driver

-- A NavX is announced, and its type and heartbeat are kept for a device that does not exist.
theorem navx_has_no_device :
    ¬ ∀ ops : List IMUOp, (Runs.runSteps imuStep .empty ops).Described := by
  intro always
  exact IMUType.noConfusion
    (CKIMUManager.register_without_driver .empty 3 .NAVX 0 (always [.registerIMU 3 .NAVX 0]))

end RioPassthru
