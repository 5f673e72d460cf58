import RioPassthru.Motor.FirstConfiguration

set_option autoImplicit false

namespace RioPassthru

def BaseTalon.received (mCtrl : BaseTalon) : Option TalonCommand → BaseTalon
  | some sent => { mCtrl with lastCommand := some sent }
  | none => mCtrl

@[simp] theorem received_none (mCtrl : BaseTalon) : mCtrl.received none = mCtrl := rfl

@[simp] theorem received_device_number (mCtrl : BaseTalon) (sent : Option TalonCommand) :
    (mCtrl.received sent).deviceNumber = mCtrl.deviceNumber := by
  cases sent <;> rfl

theorem received_some (mCtrl : BaseTalon) (sent : TalonCommand) : (mCtrl.received (some sent)).lastCommand = some sent := rfl

namespace MotorManager

theorem motor_type_list (motors : MotorManager) (id : Nat) :
    (motors.motorType id).1.mRegisteredMotorList = motors.mRegisteredMotorList := by
  rw [motorType]
  split <;> rfl

-- operator[] may add a type, so a turn of forEach is described by what it does to the motors.
theorem visit_get (func : Nat → BaseTalon → Option TalonCommand) (motors : MotorManager) (id key : Nat) :
    (motors.visit (fun id mCtrl _ => func id mCtrl) id).mRegisteredMotorList[key]? =
      if key = id then motors.mRegisteredMotorList[key]?.map (fun mCtrl => mCtrl.received (func key mCtrl))
      else motors.mRegisteredMotorList[key]? := by
  have listed := motor_type_list motors id
  rw [visit, onMotor]
  cases found : motors.mRegisteredMotorList[id]? with
  | none =>
      by_cases same : key = id
      · simp [same, found]
      · simp [same]
  | some mCtrl =>
      by_cases same : key = id
      · subst same
        cases sent : func key mCtrl <;> simp [sent, command, BaseTalon.received, found, listed]
      · cases sent : func id mCtrl <;> simp [sent, command, same, listed, Std.ExtTreeMap.getElem?_insert, Ne.symm same]

theorem for_each_get (func : Nat → BaseTalon → Option TalonCommand) (motors : MotorManager) (key : Nat) :
    (motors.forEach fun id mCtrl _ => func id mCtrl).mRegisteredMotorList[key]? =
      motors.mRegisteredMotorList[key]?.map fun mCtrl => mCtrl.received (func key mCtrl) := by
  have folded : ∀ (ids : List Nat) (motors : MotorManager), ids.Nodup →
      (ids.foldl (fun manager id => manager.visit (fun id mCtrl _ => func id mCtrl) id) motors).mRegisteredMotorList[key]? =
        if key ∈ ids then motors.mRegisteredMotorList[key]?.map (fun mCtrl => mCtrl.received (func key mCtrl))
        else motors.mRegisteredMotorList[key]? := by
    intro ids
    induction ids with
    | nil => exact fun motors _ => rfl
    | cons id rest ih =>
        intro motors distinct
        obtain ⟨fresh, distinctRest⟩ := List.nodup_cons.mp distinct
        rw [List.foldl_cons, ih _ distinctRest, visit_get]
        by_cases same : key = id
        · subst same
          simp [fresh]
        · simp [same]
  rw [forEach, folded _ motors Std.ExtTreeMap.nodup_keys]
  by_cases held : key ∈ motors.mRegisteredMotorList
  · rw [if_pos (Std.ExtTreeMap.mem_keys.mpr held)]
  · rw [if_neg (fun listed => held (Std.ExtTreeMap.mem_keys.mp listed)), Std.ExtTreeMap.getElem?_eq_none held]
    rfl

theorem register_motor_get (motors : MotorManager) (id : Nat) (mType : MotorType) (canInterface : Int) (key : Nat) :
    (motors.registerMotor id mType canInterface).mRegisteredMotorList[key]? =
      if key = id ∧ id < 64 ∧ motors.mRegisteredMotorList[id]? = none then newMotor id mType canInterface
      else motors.mRegisteredMotorList[key]? := by
  rw [registerMotor]
  by_cases small : id < 64
  · rw [if_pos small]
    by_cases held : id ∈ motors.mRegisteredMotorList
    · simp [held, beat]
    · have absent := Std.ExtTreeMap.getElem?_eq_none held
      rw [if_neg held]
      cases made : newMotor id mType canInterface with
      | none =>
          by_cases same : key = id
          · simp [same, absent]
          · simp [same]
      | some mCtrl =>
          by_cases same : key = id
          · simp [same, absent, small, beat]
          · simp [same, beat, Std.ExtTreeMap.getElem?_insert, Ne.symm same]
  · simp [small]

theorem new_motor_valid (id : Nat) (mType : MotorType) (canInterface : Int) (valid : mType = .talonFX ∨ mType = .talonSRX) :
    ∃ mCtrl, newMotor id mType canInterface = some mCtrl ∧ mCtrl.lastCommand = none ∧ mCtrl.deviceNumber = id := by
  obtain fx | srx := valid
  · exact ⟨_, by rw [fx]; rfl, rfl, rfl⟩
  · exact ⟨_, by rw [srx]; rfl, rfl, rfl⟩

theorem new_motor_number (id : Nat) (mType : MotorType) (canInterface : Int) (mCtrl : BaseTalon)
    (made : newMotor id mType canInterface = some mCtrl) : mCtrl.deviceNumber = id := by
  cases mType <;> cases made <;> rfl

end MotorManager

namespace ApplyMotorValuesTask

variable (toId : Double → Nat)

def commandOf (motors : MotorManager) (m : MotorControlMotor) (mCtrl : BaseTalon) : Option TalonCommand :=
  if m.controlMode ≠ .follower then
    if m.outputValue.isInf = false ∧ m.outputValue.isNaN = false then
      some (.set m.controlMode m.outputValue m.arbitraryFeedforward)
    else none
  else
    match motors.mRegisteredMotorList[toId m.outputValue]? with
    | some motorMaster => if mCtrl.getControlMode ≠ .follower then some (.follow motorMaster.deviceNumber) else none
    | none => none

theorem drive_motor_get (m : MotorControlMotor) (motors : MotorManager) (key : Nat) :
    (driveMotor toId m motors).mRegisteredMotorList[key]? =
      if key = uint16 m.id then
        motors.mRegisteredMotorList[key]?.map fun mCtrl => mCtrl.received (commandOf toId motors m mCtrl)
      else motors.mRegisteredMotorList[key]? := by
  have listed := MotorManager.motor_type_list motors (uint16 m.id)
  rw [driveMotor, MotorManager.onMotor]
  cases found : motors.mRegisteredMotorList[uint16 m.id]? with
  | none =>
      by_cases same : key = uint16 m.id
      · simp [same, found]
      · simp [same]
  | some mCtrl =>
      have commanded : ∀ sent, ((motors.motorType (uint16 m.id)).1.command (uint16 m.id) mCtrl sent).mRegisteredMotorList[key]? =
          if key = uint16 m.id then some (mCtrl.received (some sent)) else motors.mRegisteredMotorList[key]? := by
        intro sent
        rw [MotorManager.command, listed, Std.ExtTreeMap.getElem?_insert]
        by_cases same : key = uint16 m.id
        · simp [same, BaseTalon.received]
        · simp [same, Ne.symm same]
      have here : (if key = uint16 m.id then
          motors.mRegisteredMotorList[key]?.map fun mCtrl => mCtrl.received (commandOf toId motors m mCtrl)
          else motors.mRegisteredMotorList[key]?) =
          if key = uint16 m.id then some (mCtrl.received (commandOf toId motors m mCtrl)) else motors.mRegisteredMotorList[key]? := by
        by_cases same : key = uint16 m.id
        · simp [same, found]
        · simp [same]
      have untouched : (motors.motorType (uint16 m.id)).1.mRegisteredMotorList[key]? =
          if key = uint16 m.id then some (mCtrl.received none) else motors.mRegisteredMotorList[key]? := by
        rw [listed]
        by_cases same : key = uint16 m.id
        · simp [same, found]
        · simp [same]
      rw [here]
      simp only [MotorManager.getMotor, listed, commandOf]
      split
      · split
        · exact commanded _
        · exact untouched
      · cases motors.mRegisteredMotorList[toId m.outputValue]? with
        | none => exact untouched
        | some motorMaster =>
            dsimp only
            split
            · exact commanded _
            · exact untouched

def accepted (stores : MotorStores) (m : MotorControlMotor) : Prop :=
  uint16 m.id ∈ stores.configs.mMotorMsgs ∧
    (m.controlMode = .follower → toId m.outputValue ∈ stores.motors.mRegisteredMotorList)

theorem accepted_gate (stores : MotorStores) (m : MotorControlMotor) (configured : uint16 m.id ∈ stores.configs.mMotorMsgs) :
    accepted toId stores m ↔
      (m.controlMode = .follower ∧ stores.motors.motorExists (toId m.outputValue) = true) ∨ m.controlMode ≠ .follower := by
  rw [accepted, MotorManager.motorExists, Std.ExtTreeMap.contains_iff_mem]
  tauto

theorem gate_refused (stores : MotorStores) (m : MotorControlMotor) (refused : ¬ accepted toId stores m)
    (config : MotorConfigurationMotor) (found : stores.configs.mMotorMsgs[uint16 m.id]? = some config) :
    ¬ ((m.controlMode = .follower ∧ stores.motors.motorExists (toId m.outputValue) = true) ∨ m.controlMode ≠ .follower) := by
  have configured : uint16 m.id ∈ stores.configs.mMotorMsgs := Std.ExtTreeMap.mem_iff_isSome_getElem?.mpr (by rw [found]; rfl)
  exact fun gate => refused ((accepted_gate toId stores m configured).mpr gate)

theorem apply_motor_refused (stores : MotorStores) (m : MotorControlMotor) (refused : ¬ accepted toId stores m) :
    applyMotor toId stores m = stores := by
  rw [applyMotor]
  cases found : stores.configs.mMotorMsgs[uint16 m.id]? with
  | none => rfl
  | some config => exact if_neg (gate_refused toId stores m refused config found)

theorem apply_motor_accepted (stores : MotorStores) (m : MotorControlMotor) (taken : accepted toId stores m) :
    ∃ canInterface : Int, (applyMotor toId stores m).motors =
      driveMotor toId m (stores.motors.registerMotor (uint16 m.id) m.controllerType canInterface) := by
  obtain ⟨config, found⟩ := get_of_mem stores.configs.mMotorMsgs _ taken.1
  refine ⟨config.canNetwork, ?_⟩
  rw [applyMotor, found]
  simp only [if_pos ((accepted_gate toId stores m taken.1).mp taken)]

theorem apply_motor_other (stores : MotorStores) (m : MotorControlMotor) (key : Nat) (other : key ≠ uint16 m.id) :
    (applyMotor toId stores m).motors.mRegisteredMotorList[key]? = stores.motors.mRegisteredMotorList[key]? := by
  by_cases taken : accepted toId stores m
  · obtain ⟨canInterface, applied⟩ := apply_motor_accepted toId stores m taken
    rw [applied, drive_motor_get, if_neg other, MotorManager.register_motor_get, if_neg fun own => other own.1]
  · rw [apply_motor_refused toId stores m taken]

theorem apply_motor_keeps (stores : MotorStores) (m : MotorControlMotor) (key : Nat)
    (held : key ∈ stores.motors.mRegisteredMotorList) : key ∈ (applyMotor toId stores m).motors.mRegisteredMotorList := by
  by_cases taken : accepted toId stores m
  · obtain ⟨canInterface, applied⟩ := apply_motor_accepted toId stores m taken
    have kept := MotorManager.register_motor_keeps stores.motors (uint16 m.id) m.controllerType canInterface key held
    rw [Std.ExtTreeMap.mem_iff_isSome_getElem?] at kept ⊢
    rw [applied, drive_motor_get]
    split
    · rwa [Option.isSome_map]
    · exact kept
  · rwa [apply_motor_refused toId stores m taken]

theorem apply_motor_own (stores : MotorStores) (m : MotorControlMotor) (taken : accepted toId stores m)
    (small : uint16 m.id < 64) (valid : m.controllerType = .talonFX ∨ m.controllerType = .talonSRX) :
    ∃ (mCtrl : BaseTalon) (registered : MotorManager),
      (applyMotor toId stores m).motors.mRegisteredMotorList[uint16 m.id]? =
        some (mCtrl.received (commandOf toId registered m mCtrl)) ∧
      (∀ key, key ≠ uint16 m.id → registered.mRegisteredMotorList[key]? = stores.motors.mRegisteredMotorList[key]?) ∧
      registered.mRegisteredMotorList[uint16 m.id]? = some mCtrl ∧
      (stores.motors.mRegisteredMotorList[uint16 m.id]? = some mCtrl ∨
        stores.motors.mRegisteredMotorList[uint16 m.id]? = none ∧ mCtrl.lastCommand = none ∧ mCtrl.deviceNumber = uint16 m.id) := by
  obtain ⟨canInterface, applied⟩ := apply_motor_accepted toId stores m taken
  have registered := MotorManager.register_motor_get stores.motors (uint16 m.id) m.controllerType canInterface
  rw [applied, drive_motor_get, if_pos rfl]
  have others : ∀ key, key ≠ uint16 m.id →
      (stores.motors.registerMotor (uint16 m.id) m.controllerType canInterface).mRegisteredMotorList[key]? =
        stores.motors.mRegisteredMotorList[key]? :=
    fun key other => (registered key).trans (if_neg fun own => other own.1)
  cases before : stores.motors.mRegisteredMotorList[uint16 m.id]? with
  | some mCtrl =>
      have held := (registered (uint16 m.id)).trans (if_neg fun new => by simp [before] at new)
      rw [before] at held
      exact ⟨mCtrl, _, by rw [held]; rfl, others, held, Or.inl rfl⟩
  | none =>
      obtain ⟨mCtrl, made, idle, number⟩ := MotorManager.new_motor_valid (uint16 m.id) m.controllerType canInterface valid
      have new := ((registered (uint16 m.id)).trans (if_pos ⟨rfl, small, before⟩)).trans made
      exact ⟨mCtrl, _, by rw [new]; rfl, others, new, Or.inr ⟨rfl, idle, number⟩⟩

def stopOf (mCtrl : BaseTalon) : Option TalonCommand :=
  if mCtrl.getControlMode ≠ .follower then some (.set .percentOutput 0 0) else none

theorem stop_masters_get (motors : MotorManager) (key : Nat) :
    (stopMasters motors).mRegisteredMotorList[key]? =
      motors.mRegisteredMotorList[key]?.map fun mCtrl => mCtrl.received (stopOf mCtrl) :=
  MotorManager.for_each_get (fun _ mCtrl => stopOf mCtrl) motors key

theorem run_motors (stores : MotorStores) (input : ValuesInput) :
    (run toId stores input).motors =
      if input.disabled then stopMasters (applyMessage toId stores input).motors else (applyMessage toId stores input).motors := by
  rw [run]
  exact apply_ite MotorStores.motors _ _ _

-- The sweep comes last and asks every registered motor, whatever the message has done.
theorem disabled_motors_stopped (stores : MotorStores) (input : ValuesInput) (disabled : input.disabled = true)
    (id : Nat) (mCtrl : BaseTalon) (registered : (run toId stores input).motors.mRegisteredMotorList[id]? = some mCtrl) :
    mCtrl.getControlMode = .follower ∨ mCtrl.lastCommand = some (.set .percentOutput 0 0) := by
  rw [run_motors, if_pos disabled, stop_masters_get, Option.map_eq_some_iff] at registered
  obtain ⟨before, _, swept⟩ := registered
  rw [stopOf] at swept
  by_cases follows : before.getControlMode = .follower
  · rw [if_neg (not_not.mpr follows), received_none] at swept
    exact Or.inl (swept ▸ follows)
  · rw [if_pos follows] at swept
    exact Or.inr (swept ▸ received_some before _)

theorem disabled_motion_magic_stopped :
    BaseTalon.getControlMode ⟨.TalonFX, 1, "rio", some (.set .percentOutput 0 0)⟩ = .follower ∨
      some (TalonCommand.set .percentOutput 0 0) = some (.set .percentOutput 0 0) :=
  disabled_motors_stopped (fun _ => 0) { MotorStores.empty with configs := MotorStores.empty.configs.setMotorsConfigMsg [firstMotor] }
    ⟨some [⟨1, .talonFX, .other 7, 5, 0⟩], true, true⟩ rfl 1 ⟨.TalonFX, 1, "rio", some (.set .percentOutput 0 0)⟩
    (by decide +kernel)

end ApplyMotorValuesTask

end RioPassthru
