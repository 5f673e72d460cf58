import RioPassthru.Devices.DeviceWatchdogs
import RioPassthru.Lib.Records
import RioPassthru.Motor.Followers

set_option autoImplicit false

namespace RioPassthru

open ApplyMotorValuesTask ApplyMotorConfigTask

-- The id as the message carries it, before any conversion to uint16_t.
def OutOfRange (id : Int) : Prop := id < 0 ∨ 63 < id

instance (id : Int) : Decidable (OutOfRange id) := inferInstanceAs (Decidable (_ ∨ _))

namespace ApplyMotorValuesTask

variable (toId : Double → Nat)

def issued (stores : MotorStores) (m : MotorControlMotor) : Option (Nat × TalonCommand) :=
  match stores.configs.mMotorMsgs[uint16 m.id]? with
  | none => none
  | some config =>
      if (m.controlMode = .follower ∧ stores.motors.motorExists (toId m.outputValue) = true) ∨ m.controlMode ≠ .follower then
        let registered := stores.motors.registerMotor (uint16 m.id) m.controllerType config.canNetwork
        (registered.getMotor (uint16 m.id)).bind fun mCtrl => (commandOf toId registered m mCtrl).map fun sent => (uint16 m.id, sent)
      else none

theorem issued_refused (stores : MotorStores) (m : MotorControlMotor) (refused : ¬ accepted toId stores m) :
    issued toId stores m = none := by
  rw [issued]
  cases found : stores.configs.mMotorMsgs[uint16 m.id]? with
  | none => rfl
  | some config => exact if_neg (gate_refused toId stores m refused config found)

theorem issued_unregistered (stores : MotorStores) (m : MotorControlMotor) (large : ¬ uint16 m.id < 64)
    (absent : uint16 m.id ∉ stores.motors.mRegisteredMotorList) :
    issued toId stores m = none ∧ applyMotor toId stores m = stores := by
  have missing := Std.ExtTreeMap.getElem?_eq_none absent
  have same : ∀ canInterface, stores.motors.registerMotor (uint16 m.id) m.controllerType canInterface = stores.motors :=
    fun _ => if_neg large
  refine ⟨?_, ?_⟩
  · rw [issued]
    split
    · rfl
    · simp [same, MotorManager.getMotor, missing]
  · rw [applyMotor]
    split
    · rfl
    · simp [same, driveMotor, MotorManager.onMotor, missing]

end ApplyMotorValuesTask

def ValuesInert (world : MotorWorld) (m : MotorControlMotor) : Prop :=
  ∀ (ops : List MotorOp) (first : List MotorControlMotor),
    let stores := first.foldl (applyMotor world.toId) (reached world ops)
    issued world.toId stores m = none ∧ applyMotor world.toId stores m = stores

def storesAt (world : MotorWorld) (stores : MotorStores) (input : ConfigInput) (message first : List MotorConfigurationMotor) :
    MotorStores :=
  (applyEntries world.proto input.getEncoder input.outcomes message.length 0
    { stores with configs := stores.configs.setMotorsConfigMsg message } first).1

structure ConfigInert (world : MotorWorld) (m : MotorConfigurationMotor) : Prop where
  stored : ∀ (ops : List MotorOp) (first rest : List MotorConfigurationMotor) (id : Nat), id < 64 →
    ((reached world ops).configs.setMotorsConfigMsg (first ++ m :: rest)).mMotorMsgs[id]? =
      ((reached world ops).configs.setMotorsConfigMsg (first ++ rest)).mMotorMsgs[id]?
  applied : ∀ (ops : List MotorOp) (input : ConfigInput) (first rest : List MotorConfigurationMotor),
    let stores := storesAt world (reached world ops) input (first ++ m :: rest) first
    applyEntry world.proto input.getEncoder (input.outcomes first.length) (first ++ m :: rest).length stores m = (stores, [])

theorem large_id_values_inert (world : MotorWorld) (m : MotorControlMotor)
    (unreachable : 64 ≤ uint16 m.id ∨ m.controlMode = .follower ∧ 64 ≤ world.toId m.outputValue) : ValuesInert world m := by
  intro ops first
  have coherent := entries_coherent world.toId first _ (reached_invariant world ops).1
  obtain large | master := unreachable
  · exact issued_unregistered world.toId _ m (not_lt.mpr large) fun held =>
      absurd (coherent.motors.below _ held) (not_lt.mpr large)
  · have refused : ¬ accepted world.toId (first.foldl (applyMotor world.toId) (reached world ops)) m := fun taken =>
      absurd (coherent.motors.below _ (taken.2 master.1)) (not_lt.mpr master.2)
    exact ⟨issued_refused world.toId _ m refused, apply_motor_refused world.toId _ m refused⟩

theorem set_motors_config_other (configs : MotorConfigManager) (first rest : List MotorConfigurationMotor)
    (m : MotorConfigurationMotor) (id : Nat) (other : id ≠ uint16 m.id) :
    (configs.setMotorsConfigMsg (first ++ m :: rest)).mMotorMsgs[id]? =
      (configs.setMotorsConfigMsg (first ++ rest)).mMotorMsgs[id]? := by
  have recorded : ∀ message, (configs.setMotorsConfigMsg message).mMotorMsgs =
      Records.record (fun m => uint16 m.id) configs.mMotorMsgs message := fun _ => rfl
  have unnamed : Records.latest (fun m : MotorConfigurationMotor => uint16 m.id) [m] id = none := by
    simp [Records.latest, Ne.symm other]
  rw [recorded, recorded, Records.record_get, Records.record_get, ← List.singleton_append, Records.latest_append,
    Records.latest_append, Records.latest_append, unnamed, Option.or_none]

theorem large_id_config_inert (world : MotorWorld) (m : MotorConfigurationMotor) (large : 64 ≤ uint16 m.id) :
    ConfigInert world m := by
  refine ⟨?_, ?_⟩
  · intro ops first rest id small
    exact set_motors_config_other _ first rest m id (by omega)
  · intro ops input first rest
    have start := MotorStores.set_motors_config_coherent _ (reached_invariant world ops).1 (first ++ m :: rest)
    have coherent := (apply_entries_coherent world.proto input.getEncoder input.outcomes (first ++ m :: rest).length 0 first _ start).1
    refine (apply_entry_spec world.proto input.getEncoder _ _ _ coherent m).trans (if_neg fun held => ?_)
    exact absurd (coherent.motors.below _ held) (not_lt.mpr large)

theorem apply_motor_beats (toId : Double → Nat) (stores : MotorStores) (m : MotorControlMotor) (taken : accepted toId stores m)
    (small : uint16 m.id < 64)
    (valid : m.controllerType = .talonFX ∨ m.controllerType = .talonSRX ∨ stores.registered (uint16 m.id)) :
    (applyMotor toId stores m).beats = stores.beats.insert (uint16 m.id) 250 := by
  obtain ⟨canInterface, applied⟩ := apply_motor_accepted toId stores m taken
  have renewed := MotorStores.watchdog_rules.renewed stores (uint16 m.id) ⟨m.controllerType, canInterface⟩ ⟨small, valid⟩
  have driven : ∀ motors : MotorManager,
      (driveMotor toId m motors).mRegisteredMotorHeartbeatList = motors.mRegisteredMotorHeartbeatList := by
    intro motors
    have typed : (motors.motorType (uint16 m.id)).1.mRegisteredMotorHeartbeatList = motors.mRegisteredMotorHeartbeatList := by
      rw [MotorManager.motorType]
      split <;> rfl
    rw [driveMotor, MotorManager.onMotor]
    cases motors.mRegisteredMotorList[uint16 m.id]? with
    | none => rfl
    | some mCtrl =>
        dsimp only
        split
        · split <;> exact typed
        · split
          · split <;> exact typed
          · exact typed
  rw [← renewed, MotorStores.beats, applied, driven]
  rfl

theorem entries_unregistered (proto : MotorProto) (getEncoder : Int → Option Int) (outcomes : RunOutcomes) (size position : Nat)
    (message : List MotorConfigurationMotor) (stores : MotorStores)
    (absent : ∀ m ∈ message, uint16 m.id ∉ stores.motors.mRegisteredMotorList) :
    applyEntries proto getEncoder outcomes size position stores message = (stores, []) := by
  induction message generalizing position with
  | nil => rfl
  | cons m rest ih =>
      obtain ⟨here, later⟩ := List.forall_mem_cons.mp absent
      have skipped : applyEntry proto getEncoder (outcomes position) size stores m = (stores, []) :=
        if_neg fun held => here (Std.ExtTreeMap.contains_iff_mem.mp held)
      rw [applyEntries, skipped, ih (position + 1) later]
      rfl

theorem plain_motor_id (id : Nat) (nonzero : id ≠ 0) : (plainMotor id nonzero).id = id := rfl

theorem uint16_above (id : Nat) (small : id < 64) : uint16 ((id + 65536 : Nat) : Int) = id ∧ uint16 (id : Int) = id := by
  rw [uint16, uint16]
  omega

def drive (id : Nat) : MotorControlMotor := ⟨id, .talonFX, .percentOutput, 0, 0⟩

theorem drive_beats (world : MotorWorld) (stores : MotorStores) (u k : Nat) (smallU : u < 64) (smallK : k < 64)
    (configuredU : u ∈ stores.configs.mMotorMsgs) (configuredK : k ∈ stores.configs.mMotorMsgs) :
    (motorStep world stores (driveOp [u, k])).beats = (stores.beats.insert u 250).insert k 250 := by
  have driven : motorStep world stores (driveOp [u, k]) = applyMotor world.toId (applyMotor world.toId stores (drive u)) (drive k) := rfl
  have idU : uint16 (drive u).id = u := (uint16_above u smallU).2
  have idK : uint16 (drive k).id = k := (uint16_above k smallK).2
  have first := apply_motor_beats world.toId stores (drive u) ⟨idU.symm ▸ configuredU, ControlMode.noConfusion⟩ (idU.symm ▸ smallU) (Or.inl rfl)
  have second := apply_motor_beats world.toId (applyMotor world.toId stores (drive u)) (drive k)
    ⟨by rw [apply_motor_configs, idK]; exact configuredK, ControlMode.noConfusion⟩ (idK.symm ▸ smallK) (Or.inl rfl)
  rw [driven, second, first, idU, idK]

def onceTicked (motorU motorK : MotorConfigurationMotor) : List MotorOp :=
  [configOp [motorU, motorK], driveOp [uint16 motorU.id, uint16 motorK.id], .processHeartbeat]

theorem once_ticked_beats (world : MotorWorld) (motorU motorK : MotorConfigurationMotor) (smallU : uint16 motorU.id < 64)
    (smallK : uint16 motorK.id < 64) (id : Nat) (named : id = uint16 motorU.id ∨ id = uint16 motorK.id) :
    (reached world (onceTicked motorU motorK)).beats[id]? = some 249 := by
  let configured : MotorStores :=
    { MotorStores.empty with configs := MotorStores.empty.configs.setMotorsConfigMsg [motorU, motorK] }
  have stepped : motorStep world .empty (configOp [motorU, motorK]) = configured :=
    congrArg Prod.fst (entries_unregistered world.proto (fun _ => none) (fun _ _ _ _ => .OK) 2 0 [motorU, motorK] configured
      (by simp [configured, MotorStores.empty]))
  have stored : ∀ m ∈ [motorU, motorK], uint16 m.id ∈ configured.configs.mMotorMsgs := fun m member =>
    (MotorStores.mem_set_motors_config _ _ _).mpr (Or.inr ⟨m, member, rfl⟩)
  have beats := drive_beats world configured _ _ smallU smallK (stored motorU (by simp)) (stored motorK (by simp))
  have ticked := MotorStores.watchdog_rules.ticked (motorStep world configured (driveOp [uint16 motorU.id, uint16 motorK.id]))
  rw [MotorStores.watchdogStep, MotorStores.process_heartbeat_loop] at ticked
  have last : reached world (onceTicked motorU motorK) =
      (motorStep world configured (driveOp [uint16 motorU.id, uint16 motorK.id])).processHeartbeat := by
    rw [← stepped]
    rfl
  have full : ((configured.beats.insert (uint16 motorU.id) 250).insert (uint16 motorK.id) 250)[id]? = some 250 := by
    rw [Std.ExtTreeMap.getElem?_insert, Std.ExtTreeMap.getElem?_insert]
    obtain first | second := named
    · simp [first]
    · simp [second]
  rw [last, ticked, Expiry.pass_get, beats, full]
  rfl

theorem converted_id_refreshes (world : MotorWorld) (m : MotorControlMotor) (small : uint16 m.id < 64)
    (master : m.controlMode = .follower → world.toId m.outputValue < 64) : ¬ ValuesInert world m := by
  intro inert
  let k := if m.controlMode = .follower then world.toId m.outputValue else uint16 m.id
  have smallK : k < 64 := by
    simp only [k]
    split
    · exact master ‹_›
    · exact small
  have motorOf : ∀ id : Nat, id < 64 → ∃ motor : MotorConfigurationMotor, uint16 motor.id = id := fun id small =>
    ⟨plainMotor (id + 65536) (by omega), by rw [plain_motor_id]; exact (uint16_above id small).1⟩
  obtain ⟨motorU, idU⟩ := motorOf (uint16 m.id) small
  obtain ⟨motorK, idK⟩ := motorOf k smallK
  have beats := once_ticked_beats world motorU motorK (idU.symm ▸ small) (idK.symm ▸ smallK)
  rw [idU, idK] at beats
  generalize onceTicked motorU motorK = ops at beats
  have coherent := (reached_invariant world ops).1
  have listed : ∀ id, id = uint16 m.id ∨ id = k → id ∈ (reached world ops).motors.mRegisteredMotorList := by
    intro id named
    refine (coherent.motors.heartbeats id).mp (Std.ExtTreeMap.mem_iff_isSome_getElem?.mpr ?_)
    exact Option.isSome_of_eq_some (beats id named)
  have taken : accepted world.toId (reached world ops) m := by
    refine ⟨coherent.known _ (listed _ (Or.inl rfl)), fun mode => ?_⟩
    have leads : k = world.toId m.outputValue := if_pos mode
    exact leads ▸ listed k (Or.inr rfl)
  have refreshed := apply_motor_beats world.toId _ m taken small (Or.inr (Or.inr (listed _ (Or.inl rfl))))
  have before := beats (uint16 m.id) (Or.inl rfl)
  rw [show applyMotor world.toId (reached world ops) m = reached world ops from (inert ops []).2] at refreshed
  rw [refreshed] at before
  simp at before

theorem values_inert_iff (world : MotorWorld) (m : MotorControlMotor) :
    ValuesInert world m ↔ 64 ≤ uint16 m.id ∨ m.controlMode = .follower ∧ 64 ≤ world.toId m.outputValue := by
  refine ⟨?_, large_id_values_inert world m⟩
  intro inert
  by_contra reaches
  rw [not_or, not_and, not_le, not_le] at reaches
  exact converted_id_refreshes world m reaches.1 reaches.2 inert

theorem config_inert_iff (world : MotorWorld) (m : MotorConfigurationMotor) : ConfigInert world m ↔ 64 ≤ uint16 m.id := by
  refine ⟨?_, large_id_config_inert world m⟩
  intro inert
  by_contra small
  have stored := inert.stored [] [] [] (uint16 m.id) (not_le.mp small)
  simp [MotorConfigManager.setMotorsConfigMsg, reached, Runs.runSteps, MotorStores.empty] at stored

theorem motor_ids_inert_iff (world : MotorWorld) :
    (∀ m : MotorControlMotor,
      ValuesInert world m ↔ 64 ≤ uint16 m.id ∨ m.controlMode = .follower ∧ 64 ≤ world.toId m.outputValue) ∧
    ∀ m : MotorConfigurationMotor, ConfigInert world m ↔ 64 ≤ uint16 m.id :=
  ⟨values_inert_iff world, config_inert_iff world⟩

-- 65541 is 5 in 16 bits.
theorem converted_id_drives_motor :
    ¬ ∀ world : MotorWorld, (∀ m : MotorControlMotor, OutOfRange m.id → ValuesInert world m) ∧
      ∀ m : MotorConfigurationMotor, OutOfRange m.id → ConfigInert world m := by
  intro always
  exact converted_id_refreshes truncatingWorld ⟨65541, .talonFX, .percentOutput, 0, 0⟩ (by decide) (by decide)
    ((always truncatingWorld).1 ⟨65541, .talonFX, .percentOutput, 0, 0⟩ (by decide))

end RioPassthru
