import RioPassthru.Devices.SolenoidManager
import RioPassthru.Lib.Expiry
import RioPassthru.LED.CANdleManager
import RioPassthru.Motor.MotorManager

set_option autoImplicit false

namespace RioPassthru

structure MotorRegistration where
  motorType : MotorType
  canInterface : Int

structure SolenoidRegistration where
  frc : FrcPneumatics
  moduleType : SolenoidModuleType
  solenoidType : SolenoidType

namespace MotorStores

def registered (stores : MotorStores) (id : Nat) : Prop := id ∈ stores.motors.mRegisteredMotorList

def beats (stores : MotorStores) : DeviceMap Int := stores.motors.mRegisteredMotorHeartbeatList

def processHeartbeatLoop (stores : MotorStores) : MotorStores := Expiry.loop tick beats stores

def watchdogStep (stores : MotorStores) : Expiry.Op MotorRegistration → MotorStores
  | .register id args => { stores with motors := stores.motors.registerMotor id args.motorType args.canInterface }
  | .tick => stores.processHeartbeatLoop

def accepted (stores : MotorStores) (id : Nat) (args : MotorRegistration) : Prop :=
  id < 64 ∧ (args.motorType = .talonFX ∨ args.motorType = .talonSRX ∨ stores.registered id)

theorem watchdog_drops : Expiry.Drops deleteMotor setHeartbeats registered beats where
  set := fun _ _ => rfl
  kept := fun _ _ _ => Iff.rfl
  dropped := by
    intro stores id key
    simp only [registered, deleteMotor, Std.ExtTreeMap.mem_erase, Std.LawfulEqCmp.compare_eq_iff_eq, ne_eq]
    rw [And.comm, eq_comm]

theorem tick_eq_visit : tick = Expiry.visit deleteMotor setHeartbeats beats := by
  funext stores id
  exact (Expiry.visit_eq _ setHeartbeats beats stores id).symm

theorem process_heartbeat_loop (stores : MotorStores) : stores.processHeartbeatLoop = stores.processHeartbeat :=
  Expiry.loop_eq_fold tick beats (tick_eq_visit ▸ Expiry.visit_beats watchdog_drops) stores

theorem watchdog_rules : Expiry.Rules watchdogStep registered beats accepted 250 where
  renewed := by
    intro stores id args taken
    obtain ⟨small, valid⟩ := taken
    rw [watchdogStep, beats, MotorManager.registerMotor, if_pos small]
    split
    · rfl
    · rename_i absent
      obtain fx | srx | held := valid
      · rw [fx]
        rfl
      · rw [srx]
        rfl
      · exact absurd held absent
  refused := by
    intro stores id args refused
    rw [watchdogStep, MotorManager.registerMotor]
    by_cases small : id < 64
    · have absent : id ∉ stores.motors.mRegisteredMotorList := fun held => refused ⟨small, Or.inr (Or.inr held)⟩
      rw [if_pos small, if_neg absent]
      cases same : args.motorType with
      | talonFX => exact absurd ⟨small, Or.inl same⟩ refused
      | talonSRX => exact absurd ⟨small, Or.inr (Or.inl same)⟩ refused
      | other number => rfl
    · rw [if_neg small]
  ticked := by
    intro stores
    exact Expiry.loop_beats tick beats (tick_eq_visit ▸ Expiry.visit_beats watchdog_drops) stores
  listed := by
    intro stores op listed
    cases op with
    | tick =>
        have looped := Expiry.loop_listed watchdog_drops stores listed
        rw [← tick_eq_visit] at looped
        exact looped
    | register id args =>
        intro key
        have mine := listed id
        have other := listed key
        grind [watchdogStep, MotorManager.registerMotor, MotorManager.beat, registered, beats]

end MotorStores

namespace SolenoidManager

def watchdogStep (solenoids : SolenoidManager) : Expiry.Op SolenoidRegistration → SolenoidManager
  | .register id args => solenoids.registerSolenoid args.frc args.moduleType id args.solenoidType
  | .tick => solenoids.processHeartbeat

def registered (solenoids : SolenoidManager) (id : Nat) : Prop := id ∈ solenoids.mRegisteredSolenoidList

def beats (solenoids : SolenoidManager) : DeviceMap Int := solenoids.mRegisteredSolenoidHeartbeatList

def accepted (solenoids : SolenoidManager) (id : Nat) (args : SolenoidRegistration) : Prop :=
  solenoids.registered id ∨ CKSolenoid.construct args.frc args.moduleType id args.solenoidType ≠ none

theorem watchdog_drops : Expiry.Drops deleteSolenoid setHeartbeats registered beats where
  set := fun _ _ => rfl
  kept := fun _ _ _ => Iff.rfl
  dropped := by
    intro solenoids id key
    simp only [registered, deleteSolenoid, Std.ExtTreeMap.mem_erase, Std.LawfulEqCmp.compare_eq_iff_eq, ne_eq]
    rw [And.comm, eq_comm]

theorem tick_eq_visit : tick = Expiry.visit deleteSolenoid setHeartbeats beats := by
  funext solenoids id
  exact (Expiry.visit_eq _ setHeartbeats beats solenoids id).symm

theorem watchdog_rules : Expiry.Rules watchdogStep registered beats accepted 250 where
  renewed := by
    intro solenoids id args taken
    rw [watchdogStep, beats, registerSolenoid]
    split
    · rfl
    · rename_i absent
      obtain held | built := taken
      · exact absurd held absent
      · obtain ⟨solenoid, made⟩ := Option.ne_none_iff_exists'.mp built
        rw [made]
        rfl
  refused := by
    intro solenoids id args refused
    have absent : id ∉ solenoids.mRegisteredSolenoidList := fun held => refused (Or.inl held)
    have thrown : CKSolenoid.construct args.frc args.moduleType id args.solenoidType = none :=
      not_not.mp fun built => refused (Or.inr built)
    rw [watchdogStep, registerSolenoid, if_neg absent, thrown]
  ticked := by
    intro solenoids
    exact Expiry.loop_beats tick beats (tick_eq_visit ▸ Expiry.visit_beats watchdog_drops) solenoids
  listed := by
    intro solenoids op listed
    cases op with
    | tick =>
        have looped := Expiry.loop_listed watchdog_drops solenoids listed
        rw [← tick_eq_visit] at looped
        exact looped
    | register id args =>
        intro key
        have mine := listed id
        have other := listed key
        grind [watchdogStep, registerSolenoid, beat, registered, beats]

end SolenoidManager

namespace CANdleManager

def watchdogStep (candles : CANdleManager) : Expiry.Op Int → CANdleManager
  | .register id canInterface => candles.registerCANdle id canInterface
  | .tick => candles.processHeartbeat

def registered (candles : CANdleManager) (id : Nat) : Prop := id ∈ candles.mRegisteredCANdleList

def beats (candles : CANdleManager) : DeviceMap Int := candles.mRegisteredCANdleHeartbeatList

def accepted (_candles : CANdleManager) (id : Nat) (_canInterface : Int) : Prop := id < 64

theorem watchdog_drops : Expiry.Drops deleteCANdle setHeartbeats registered beats where
  set := fun _ _ => rfl
  kept := fun _ _ _ => Iff.rfl
  dropped := by
    intro candles id key
    simp only [registered, deleteCANdle, Std.ExtTreeMap.mem_erase, Std.LawfulEqCmp.compare_eq_iff_eq, ne_eq]
    rw [And.comm, eq_comm]

theorem tick_eq_visit : tick = Expiry.visit deleteCANdle setHeartbeats beats := by
  funext candles id
  exact (Expiry.visit_eq _ setHeartbeats beats candles id).symm

theorem watchdog_rules : Expiry.Rules watchdogStep registered beats accepted 250 where
  renewed := by
    intro candles id canInterface taken
    have small : id < 64 := taken
    rw [watchdogStep, beats, registerCANdle, if_pos small]
    split <;> rfl
  refused := by
    intro candles id canInterface large
    rw [watchdogStep, registerCANdle]
    exact if_neg large
  ticked := by
    intro candles
    exact Expiry.loop_beats tick beats (tick_eq_visit ▸ Expiry.visit_beats watchdog_drops) candles
  listed := by
    intro candles op listed
    cases op with
    | tick =>
        have looped := Expiry.loop_listed watchdog_drops candles listed
        rw [← tick_eq_visit] at looped
        exact looped
    | register id canInterface =>
        intro key
        have mine := listed id
        have other := listed key
        grind [watchdogStep, registerCANdle, beat, registered, beats]

end CANdleManager

theorem device_watchdogs_exact :
    (∀ ops, Expiry.Exact MotorStores.watchdogStep MotorStores.registered MotorStores.beats MotorStores.accepted 250 .empty ops) ∧
    (∀ ops, Expiry.Exact SolenoidManager.watchdogStep SolenoidManager.registered SolenoidManager.beats SolenoidManager.accepted 250
      .empty ops) ∧
    ∀ ops, Expiry.Exact CANdleManager.watchdogStep CANdleManager.registered CANdleManager.beats CANdleManager.accepted 250
      .empty ops := by
  refine ⟨?_, ?_, ?_⟩
  · exact Expiry.exact_of_rules MotorStores.watchdog_rules (by decide) _ rfl
      (by simp [MotorStores.registered, MotorStores.beats, MotorStores.empty])
  · exact Expiry.exact_of_rules SolenoidManager.watchdog_rules (by decide) _ rfl
      (by simp [SolenoidManager.registered, SolenoidManager.beats, SolenoidManager.empty])
  · exact Expiry.exact_of_rules CANdleManager.watchdog_rules (by decide) _ rfl
      (by simp [CANdleManager.registered, CANdleManager.beats, CANdleManager.empty])

end RioPassthru
