import RioPassthru.Motor.DifferentialUpdate
import RioPassthru.Motor.MotorCommands

set_option autoImplicit false

namespace RioPassthru

namespace MotorManager

-- Every controller is the device of the id it is registered under.
def Numbered (motors : MotorManager) : Prop :=
  ∀ (id : Nat) (mCtrl : BaseTalon), motors.mRegisteredMotorList[id]? = some mCtrl → mCtrl.deviceNumber = id

def Following (motors : MotorManager) (id master : Nat) : Prop :=
  ∃ mCtrl, motors.mRegisteredMotorList[id]? = some mCtrl ∧ mCtrl.lastCommand = some (.follow master)

end MotorManager

namespace ApplyMotorValuesTask

variable (toId : Double → Nat)

theorem follower_mode (mCtrl : BaseTalon) (master : Nat) (follows : mCtrl.lastCommand = some (.follow master)) :
    mCtrl.getControlMode = .follower := by
  rw [BaseTalon.getControlMode, follows]

theorem idle_mode (mCtrl : BaseTalon) (idle : mCtrl.lastCommand = none) : mCtrl.getControlMode ≠ .follower := by
  rw [BaseTalon.getControlMode, idle]
  exact ControlMode.noConfusion

theorem stop_masters_following (motors : MotorManager) (id master : Nat) :
    (stopMasters motors).Following id master ↔ motors.Following id master := by
  simp only [MotorManager.Following, stop_masters_get, Option.map_eq_some_iff]
  constructor
  · intro swept
    obtain ⟨_, ⟨mCtrl, found, same⟩, follows⟩ := swept
    refine ⟨mCtrl, found, ?_⟩
    subst same
    rw [stopOf] at follows
    split at follows
    · simp [BaseTalon.received] at follows
    · exact follows
  · intro before
    obtain ⟨mCtrl, found, follows⟩ := before
    exact ⟨mCtrl, ⟨mCtrl, found, by simp [stopOf, follower_mode mCtrl master follows]⟩, follows⟩

theorem stop_masters_numbered (motors : MotorManager) (kept : motors.Numbered) : (stopMasters motors).Numbered := by
  intro id mCtrl found
  rw [stop_masters_get, Option.map_eq_some_iff] at found
  obtain ⟨before, held, same⟩ := found
  rw [← same, received_device_number]
  exact kept id before held

theorem apply_motor_numbered (stores : MotorStores) (kept : stores.motors.Numbered) (m : MotorControlMotor) :
    (applyMotor toId stores m).motors.Numbered := by
  by_cases taken : accepted toId stores m
  · obtain ⟨canInterface, applied⟩ := apply_motor_accepted toId stores m taken
    have registered : (stores.motors.registerMotor (uint16 m.id) m.controllerType canInterface).Numbered := by
      intro id mCtrl found
      rw [MotorManager.register_motor_get] at found
      split at found
      · rename_i new
        rw [new.1]
        exact MotorManager.new_motor_number _ _ _ mCtrl found
      · exact kept id mCtrl found
    intro id mCtrl found
    rw [applied, drive_motor_get] at found
    split at found
    · obtain ⟨before, held, same⟩ := Option.map_eq_some_iff.mp found
      rw [← same, received_device_number]
      exact registered id before held
    · exact registered id mCtrl found
  · rwa [apply_motor_refused toId stores m taken]

theorem entries_numbered (entries : List MotorControlMotor) (stores : MotorStores) (kept : stores.motors.Numbered) :
    (entries.foldl (applyMotor toId) stores).motors.Numbered := by
  induction entries generalizing stores with
  | nil => exact kept
  | cons m rest ih => exact ih _ (apply_motor_numbered toId stores kept m)

theorem run_numbered (stores : MotorStores) (kept : stores.motors.Numbered) (input : ValuesInput) :
    (run toId stores input).motors.Numbered := by
  have applied : (applyMessage toId stores input).motors.Numbered := by
    rw [applyMessage]
    split
    · split
      · exact entries_numbered toId _ stores kept
      · exact kept
    · exact kept
  rw [run_motors]
  split
  · exact stop_masters_numbered _ applied
  · exact applied

end ApplyMotorValuesTask

theorem config_entries_motors (proto : MotorProto) (getEncoder : Int → Option Int) (outcomes : RunOutcomes)
    (size position : Nat) (message : List MotorConfigurationMotor) (stores : MotorStores) (kept : stores.Coherent) :
    (ApplyMotorConfigTask.applyEntries proto getEncoder outcomes size position stores message).1.motors = stores.motors := by
  induction message generalizing stores position with
  | nil => rfl
  | cons m rest ih =>
      have first := (ApplyMotorConfigTask.apply_entry_coherent proto getEncoder (outcomes position) size stores kept m).1
      rw [ApplyMotorConfigTask.applyEntries, ih (position + 1) _ first,
        ApplyMotorConfigTask.apply_entry_spec proto getEncoder (outcomes position) size stores kept m]
      split <;> rfl

theorem config_run_motors (proto : MotorProto) (stores : MotorStores) (kept : stores.Coherent) (input : ConfigInput) :
    (ApplyMotorConfigTask.run proto stores input).1.motors = stores.motors := by
  rw [ApplyMotorConfigTask.run]
  split
  · split
    · exact config_entries_motors proto _ _ _ 0 _ _ (MotorStores.set_motors_config_coherent stores kept _)
    · rfl
  · rfl

theorem tick_numbered (stores : MotorStores) (kept : stores.motors.Numbered) (id : Nat) : (stores.tick id).motors.Numbered := by
  rw [MotorStores.tick]
  split
  · intro key mCtrl found
    refine kept key mCtrl ?_
    simp only [MotorStores.setHeartbeats, MotorStores.deleteMotor, Std.ExtTreeMap.getElem?_erase] at found
    split at found
    · cases found
    · exact found
  · exact kept

theorem motor_step_numbered (world : MotorWorld) (stores : MotorStores) (coherent : stores.Coherent)
    (kept : stores.motors.Numbered) (op : MotorOp) : (motorStep world stores op).motors.Numbered := by
  cases op with
  | applyMotorValues input => exact ApplyMotorValuesTask.run_numbered world.toId stores kept input
  | applyMotorConfig input =>
      have same := config_run_motors world.proto stores coherent input
      rw [motorStep, same]
      exact kept
  | processHeartbeat =>
      rw [motorStep, MotorStores.processHeartbeat]
      generalize stores.motors.mRegisteredMotorHeartbeatList.keys = ids
      clear coherent
      induction ids generalizing stores with
      | nil => exact kept
      | cons id rest ih => exact ih (stores.tick id) (tick_numbered stores kept id)

def reached (world : MotorWorld) (ops : List MotorOp) : MotorStores := Runs.runSteps (motorStep world) .empty ops

theorem reached_invariant (world : MotorWorld) (ops : List MotorOp) :
    (reached world ops).Coherent ∧ (reached world ops).motors.Numbered := by
  refine Runs.run_steps_invariant (motorStep world) (fun stores => stores.Coherent ∧ stores.motors.Numbered) ?_ ops .empty
    ⟨MotorStores.empty_coherent, by simp [MotorManager.Numbered, MotorStores.empty]⟩
  intro stores op kept
  exact ⟨motor_step_coherent world stores kept.1 op, motor_step_numbered world stores kept.1 kept.2 op⟩

namespace ApplyMotorValuesTask

variable (toId : Double → Nat)

theorem follower_entry (stores : MotorStores) (numbered : stores.motors.Numbered) (m : MotorControlMotor)
    (taken : accepted toId stores m) (small : uint16 m.id < 64)
    (valid : m.controllerType = .talonFX ∨ m.controllerType = .talonSRX) (mode : m.controlMode = .follower) :
    ∃ mCtrl, (applyMotor toId stores m).motors.mRegisteredMotorList[uint16 m.id]? =
        some (mCtrl.received (if mCtrl.getControlMode ≠ .follower then some (.follow (toId m.outputValue)) else none)) ∧
      (stores.motors.mRegisteredMotorList[uint16 m.id]? = some mCtrl ∨
        stores.motors.mRegisteredMotorList[uint16 m.id]? = none ∧ mCtrl.getControlMode ≠ .follower) := by
  obtain ⟨mCtrl, registered, applied, others, own, origin⟩ := apply_motor_own toId stores m taken small valid
  have number : mCtrl.deviceNumber = uint16 m.id := by
    obtain before | new := origin
    · exact numbered _ _ before
    · exact new.2.2
  have master : ∃ motorMaster, registered.mRegisteredMotorList[toId m.outputValue]? = some motorMaster ∧
      motorMaster.deviceNumber = toId m.outputValue := by
    by_cases itself : toId m.outputValue = uint16 m.id
    · exact ⟨mCtrl, itself ▸ own, itself ▸ number⟩
    · obtain ⟨motorMaster, held⟩ := get_of_mem stores.motors.mRegisteredMotorList _ (taken.2 mode)
      exact ⟨motorMaster, (others _ itself).trans held, numbered _ _ held⟩
  obtain ⟨motorMaster, held, masterNumber⟩ := master
  refine ⟨mCtrl, ?_, ?_⟩
  · rw [applied, commandOf, if_neg (not_not.mpr mode), held]
    simp only [masterNumber]
  · exact origin.imp_right fun new => ⟨new.1, idle_mode mCtrl new.2.1⟩

theorem entries_other (entries : List MotorControlMotor) (stores : MotorStores) (key : Nat)
    (others : ∀ m ∈ entries, uint16 m.id ≠ key) :
    (entries.foldl (applyMotor toId) stores).motors.mRegisteredMotorList[key]? = stores.motors.mRegisteredMotorList[key]? := by
  induction entries generalizing stores with
  | nil => rfl
  | cons m rest ih =>
      obtain ⟨here, later⟩ := List.forall_mem_cons.mp others
      rw [List.foldl_cons, ih _ later, apply_motor_other toId stores m key here.symm]

structure LastEntryFollows (stores : MotorStores) (input : ValuesInput) (first : List MotorControlMotor)
    (entry : MotorControlMotor) (rest : List MotorControlMotor) : Prop where
  message : input.message = some (first ++ entry :: rest)
  locked : input.locked = true
  last : ∀ m ∈ rest, uint16 m.id ≠ uint16 entry.id
  mode : entry.controlMode = .follower
  configured : uint16 entry.id ∈ stores.configs.mMotorMsgs
  small : uint16 entry.id < 64
  valid : entry.controllerType = .talonFX ∨ entry.controllerType = .talonSRX
  master : toId entry.outputValue ∈ (first.foldl (applyMotor toId) stores).motors.mRegisteredMotorList

theorem run_following_iff (stores : MotorStores) (numbered : stores.motors.Numbered) (input : ValuesInput)
    (first : List MotorControlMotor) (entry : MotorControlMotor) (rest : List MotorControlMotor)
    (follows : LastEntryFollows toId stores input first entry rest) :
    (run toId stores input).motors.Following (uint16 entry.id) (toId entry.outputValue) ↔
      ∀ mCtrl, (first.foldl (applyMotor toId) stores).motors.mRegisteredMotorList[uint16 entry.id]? = some mCtrl →
        mCtrl.getControlMode = .follower → mCtrl.lastCommand = some (.follow (toId entry.outputValue)) := by
  obtain ⟨message, locked, last, mode, configured, small, valid, master⟩ := follows
  have swept : (run toId stores input).motors.Following (uint16 entry.id) (toId entry.outputValue) ↔
      (applyMotor toId (first.foldl (applyMotor toId) stores) entry).motors.Following (uint16 entry.id) (toId entry.outputValue) := by
    have applied : applyMessage toId stores input = rest.foldl (applyMotor toId) (applyMotor toId (first.foldl (applyMotor toId) stores) entry) := by
      rw [applyMessage, message]
      simp only [locked, if_true, List.foldl_append, List.foldl_cons]
    rw [run_motors, applied]
    split
    · rw [stop_masters_following, MotorManager.Following, entries_other toId rest _ _ last, MotorManager.Following]
    · rw [MotorManager.Following, entries_other toId rest _ _ last, MotorManager.Following]
  rw [swept]
  have numberedThen := entries_numbered toId first stores numbered
  have taken : accepted toId (first.foldl (applyMotor toId) stores) entry := by
    rw [accepted, entries_configs]
    exact ⟨configured, fun _ => master⟩
  obtain ⟨mCtrl, applied, origin⟩ := follower_entry toId _ numberedThen entry taken small valid mode
  simp only [MotorManager.Following, applied, Option.some.injEq, exists_eq_left']
  by_cases following : mCtrl.getControlMode = .follower
  · rw [if_neg (not_not.mpr following), received_none]
    have before := origin.resolve_right fun new => new.2 following
    constructor
    · intro kept other held _
      rw [before] at held
      exact Option.some.inj held ▸ kept
    · exact fun kept => kept mCtrl before following
  · rw [if_pos following]
    refine iff_of_true (received_some mCtrl _) ?_
    intro other held leads
    obtain before | new := origin
    · rw [before] at held
      exact absurd (Option.some.inj held ▸ leads) following
    · rw [new.1] at held
      cases held

theorem follower_command_effective_iff (world : MotorWorld) (ops : List MotorOp) (input : ValuesInput)
    (first : List MotorControlMotor) (entry : MotorControlMotor) (rest : List MotorControlMotor)
    (follows : LastEntryFollows world.toId (reached world ops) input first entry rest) :
    (run world.toId (reached world ops) input).motors.Following (uint16 entry.id) (world.toId entry.outputValue) ↔
      ∀ mCtrl, (first.foldl (applyMotor world.toId) (reached world ops)).motors.mRegisteredMotorList[uint16 entry.id]? = some mCtrl →
        mCtrl.getControlMode = .follower → mCtrl.lastCommand = some (.follow (world.toId entry.outputValue)) :=
  run_following_iff world.toId _ (reached_invariant world ops).2 input first entry rest follows

def truncated : Double → Nat
  | .finite value => value.floor.toNat
  | _ => 0

def truncatingWorld : MotorWorld := ⟨sampleProto, truncated⟩

def followerEntry (id master : Nat) : MotorControlMotor := ⟨id, .talonFX, .follower, .finite master, 0⟩

def valuesOf (message : List MotorControlMotor) : ValuesInput := ⟨some message, true, false⟩

def twoMasters : List MotorOp :=
  [configOp [firstMotor, secondMotor, plainMotor 3 (Nat.succ_ne_zero 2)], driveOp [2, 3]]

theorem new_follower_effective :
    (run truncated (reached truncatingWorld twoMasters) (valuesOf [followerEntry 1 2])).motors.Following 1 2 :=
  (follower_command_effective_iff truncatingWorld twoMasters (valuesOf [followerEntry 1 2]) [] (followerEntry 1 2) []
    ⟨rfl, rfl, by decide, rfl, by decide +kernel, by decide, Or.inl rfl, by decide +kernel⟩).mpr
    (by decide +kernel)

-- Motor 1 follows motor 2 when it is told to follow motor 3.
theorem follower_keeps_its_master :
    ¬ ∀ (world : MotorWorld) (ops : List MotorOp) (input : ValuesInput) (first : List MotorControlMotor)
        (entry : MotorControlMotor) (rest : List MotorControlMotor),
      LastEntryFollows world.toId (reached world ops) input first entry rest →
      uint16 entry.id ∈ (first.foldl (applyMotor world.toId) (reached world ops)).motors.mRegisteredMotorList →
      (run world.toId (reached world ops) input).motors.Following (uint16 entry.id) (world.toId entry.outputValue) := by
  intro always
  have follows := always truncatingWorld (twoMasters ++ [.applyMotorValues (valuesOf [followerEntry 1 2])])
    (valuesOf [followerEntry 1 3]) [] (followerEntry 1 3) []
    ⟨rfl, rfl, by decide, rfl, by decide +kernel, by decide, Or.inl rfl, by decide +kernel⟩ (by decide +kernel)
  obtain ⟨mCtrl, found, leads⟩ := follows
  have left : (run truncated (reached truncatingWorld (twoMasters ++ [.applyMotorValues (valuesOf [followerEntry 1 2])]))
      (valuesOf [followerEntry 1 3])).motors.mRegisteredMotorList[1]? = some ⟨.TalonFX, 1, "rio", some (.follow 2)⟩ := by
    decide +kernel
  have same := Option.some.inj (left.symm.trans found)
  rw [← same] at leads
  revert leads
  decide +kernel

structure FollowerSetup (configs : MotorConfigManager) (message : List MotorControlMotor) : Prop where
  distinct : (message.map MotorControlMotor.id).Nodup
  below : ∀ m ∈ message, 0 ≤ m.id ∧ m.id < 64
  valid : ∀ m ∈ message, m.controllerType = .talonFX ∨ m.controllerType = .talonSRX
  configured : ∀ m ∈ message, uint16 m.id ∈ configs.mMotorMsgs
  finite : ∀ m ∈ message, m.controlMode ≠ .follower → m.outputValue.isInf = false ∧ m.outputValue.isNaN = false
  masters : ∀ m ∈ message, m.controlMode = .follower →
    ∃ master ∈ message, master.controlMode ≠ .follower ∧ m.outputValue.eq (.finite master.id) = true

theorem uint16_of_below (id : Int) (below : 0 ≤ id ∧ id < 64) : uint16 id = id.toNat ∧ uint16 id < 64 := by
  rw [uint16, Int.emod_eq_of_lt below.1 (by omega)]
  omega

theorem entry_eq_of_id (message : List MotorControlMotor) (distinct : (message.map MotorControlMotor.id).Nodup)
    (below : ∀ m ∈ message, 0 ≤ m.id ∧ m.id < 64) (m other : MotorControlMotor) (member : m ∈ message)
    (otherMember : other ∈ message) (same : uint16 m.id = uint16 other.id) : m = other := by
  have first := below m member
  have second := below other otherMember
  rw [(uint16_of_below m.id first).1, (uint16_of_below other.id second).1] at same
  exact List.inj_on_of_nodup_map distinct member otherMember (by omega)

structure Led (message : List MotorControlMotor) (motors : MotorManager) : Prop where
  numbered : motors.Numbered
  led : ∀ m ∈ message, m.controlMode = .follower → ∀ mCtrl, motors.mRegisteredMotorList[uint16 m.id]? = some mCtrl →
    mCtrl.lastCommand = some (.follow (toId m.outputValue))

theorem apply_motor_led (message : List MotorControlMotor) (stores : MotorStores) (setup : FollowerSetup stores.configs message)
    (kept : Led toId message stores.motors) (entry : MotorControlMotor) (member : entry ∈ message) :
    Led toId message (applyMotor toId stores entry).motors := by
  refine ⟨apply_motor_numbered toId stores kept.numbered entry, ?_⟩
  intro m listed mode mCtrl found
  by_cases same : uint16 m.id = uint16 entry.id
  · have own := entry_eq_of_id message setup.distinct setup.below m entry listed member same
    subst own
    by_cases taken : accepted toId stores m
    · obtain ⟨before, applied, origin⟩ := follower_entry toId stores kept.numbered m taken
        (uint16_of_below m.id (setup.below m listed)).2 (setup.valid m listed) mode
      rw [applied] at found
      rw [← Option.some.inj found]
      by_cases following : before.getControlMode = .follower
      · rw [if_neg (not_not.mpr following), received_none]
        exact kept.led m listed mode before (origin.resolve_right fun new => new.2 following)
      · rw [if_pos following]
        exact received_some before _
    · rw [apply_motor_refused toId stores m taken] at found
      exact kept.led m listed mode mCtrl found
  · rw [apply_motor_other toId stores entry _ same] at found
    exact kept.led m listed mode mCtrl found

theorem apply_motor_registers (stores : MotorStores) (m : MotorControlMotor) (taken : accepted toId stores m)
    (small : uint16 m.id < 64) (valid : m.controllerType = .talonFX ∨ m.controllerType = .talonSRX) :
    uint16 m.id ∈ (applyMotor toId stores m).motors.mRegisteredMotorList := by
  obtain ⟨mCtrl, _, applied, _⟩ := apply_motor_own toId stores m taken small valid
  exact Std.ExtTreeMap.mem_iff_isSome_getElem?.mpr (by rw [applied]; rfl)

theorem entries_keep (entries : List MotorControlMotor) (stores : MotorStores) (key : Nat)
    (held : key ∈ stores.motors.mRegisteredMotorList) : key ∈ (entries.foldl (applyMotor toId) stores).motors.mRegisteredMotorList := by
  induction entries generalizing stores with
  | nil => exact held
  | cons m rest ih => exact ih _ (apply_motor_keeps toId stores m key held)

theorem entries_led (message : List MotorControlMotor) (entries : List MotorControlMotor) (members : ∀ m ∈ entries, m ∈ message)
    (stores : MotorStores) (setup : FollowerSetup stores.configs message) (kept : Led toId message stores.motors) :
    Led toId message (entries.foldl (applyMotor toId) stores).motors ∧
      ∀ m ∈ entries, (m.controlMode = .follower → toId m.outputValue ∈ stores.motors.mRegisteredMotorList) →
        uint16 m.id ∈ (entries.foldl (applyMotor toId) stores).motors.mRegisteredMotorList := by
  induction entries generalizing stores with
  | nil => exact ⟨kept, fun _ none => nomatch none⟩
  | cons entry rest ih =>
      obtain ⟨listed, others⟩ := List.forall_mem_cons.mp members
      have led := apply_motor_led toId message stores setup kept entry listed
      obtain ⟨later, registers⟩ := ih others (applyMotor toId stores entry)
        (by rw [apply_motor_configs]; exact setup) led
      refine ⟨later, ?_⟩
      intro m member master
      obtain own | behind := List.mem_cons.mp member
      · subst own
        have taken : accepted toId stores m := ⟨setup.configured m listed, master⟩
        exact entries_keep toId rest _ _ (apply_motor_registers toId stores m taken
          (uint16_of_below m.id (setup.below m listed)).2 (setup.valid m listed))
      · exact registers m behind fun mode => apply_motor_keeps toId stores entry _ (master mode)

theorem stop_masters_led (message : List MotorControlMotor) (motors : MotorManager) (kept : Led toId message motors) :
    Led toId message (stopMasters motors) := by
  refine ⟨stop_masters_numbered motors kept.numbered, ?_⟩
  intro m listed mode mCtrl found
  obtain ⟨before, held, same⟩ := Option.map_eq_some_iff.mp (stop_masters_get motors (uint16 m.id) ▸ found)
  have follows := kept.led m listed mode before held
  rwa [← same, stopOf, if_neg (not_not.mpr (follower_mode before _ follows)), received_none]

theorem mem_stop_masters (motors : MotorManager) (key : Nat) :
    key ∈ (stopMasters motors).mRegisteredMotorList ↔ key ∈ motors.mRegisteredMotorList := by
  rw [Std.ExtTreeMap.mem_iff_isSome_getElem?, Std.ExtTreeMap.mem_iff_isSome_getElem?, stop_masters_get, Option.isSome_map]

def Processes (input : ValuesInput) (message : List MotorControlMotor) : Prop := input.message = some message ∧ input.locked = true

theorem run_led (message : List MotorControlMotor) (stores : MotorStores) (setup : FollowerSetup stores.configs message)
    (kept : Led toId message stores.motors) (input : ValuesInput) (processes : Processes input message) :
    Led toId message (run toId stores input).motors ∧
      ∀ m ∈ message, (m.controlMode = .follower → toId m.outputValue ∈ stores.motors.mRegisteredMotorList) →
        uint16 m.id ∈ (run toId stores input).motors.mRegisteredMotorList := by
  obtain ⟨led, registers⟩ := entries_led toId message message (fun _ member => member) stores setup kept
  have applied : applyMessage toId stores input = message.foldl (applyMotor toId) stores := by
    rw [applyMessage, processes.1]
    exact if_pos processes.2
  rw [run_motors, applied]
  split
  · exact ⟨stop_masters_led toId message _ led, fun m member master => (mem_stop_masters _ _).mpr (registers m member master)⟩
  · exact ⟨led, registers⟩

theorem followers_led_after_two_runs
    (converts : ∀ (value : Double) (id : Nat), id < 64 → value.eq (.finite id) = true → toId value = id)
    (stores : MotorStores) (unregistered : stores.motors = MotorStores.empty.motors) (message : List MotorControlMotor)
    (setup : FollowerSetup stores.configs message) (first second : ValuesInput) (once : Processes first message)
    (twice : Processes second message) :
    ∀ m ∈ message, uint16 m.id ∈ (run toId (run toId stores first) second).motors.mRegisteredMotorList ∧
      (m.controlMode = .follower → ∀ master ∈ message, m.outputValue.eq (.finite master.id) = true →
        (run toId (run toId stores first) second).motors.Following (uint16 m.id) (uint16 master.id)) := by
  have start : Led toId message stores.motors := by
    rw [unregistered]
    refine ⟨?_, ?_⟩ <;> simp [MotorManager.Numbered, MotorStores.empty]
  have named : ∀ m master : MotorControlMotor, master ∈ message → m.outputValue.eq (.finite master.id) = true →
      toId m.outputValue = uint16 master.id := by
    intro m master listed names
    obtain ⟨same, small⟩ := uint16_of_below master.id (setup.below master listed)
    refine converts m.outputValue _ small ?_
    rw [same]
    rwa [show ((master.id.toNat : Nat) : ℚ) = (master.id : ℚ) by
      rw [← Int.cast_natCast, Int.toNat_of_nonneg (setup.below master listed).1]]
  obtain ⟨ledOnce, leaders⟩ := run_led toId message stores setup start first once
  have configs : FollowerSetup (run toId stores first).configs message := by
    rw [apply_values_configs]
    exact setup
  obtain ⟨ledTwice, registers⟩ := run_led toId message _ configs ledOnce second twice
  intro m listed
  have registered := registers m listed fun mode => by
    obtain ⟨master, masterListed, leading, names⟩ := setup.masters m listed mode
    rw [named m master masterListed names]
    exact leaders master masterListed fun follows => absurd follows leading
  refine ⟨registered, ?_⟩
  intro mode master masterListed names
  obtain ⟨mCtrl, found⟩ := get_of_mem _ _ registered
  rw [← named m master masterListed names]
  exact ⟨mCtrl, found, ledTwice.led m listed mode mCtrl found⟩

theorem truncated_of_eq (value : Double) (id : Nat) (same : value.eq (.finite id) = true) : truncated value = id := by
  have numbers := ((Double.eq_iff _ _).mp same).1
  cases value with
  | finite q =>
      have whole : q = id := WithTop.coe_injective (WithBot.coe_injective (Option.some.inj numbers))
      rw [whole, truncated]
      exact congrArg Int.toNat (Rat.floor_intCast id)
  | negZero =>
      have zero : (0 : ℚ) = id := WithTop.coe_injective (WithBot.coe_injective (Option.some.inj numbers))
      exact (Nat.cast_eq_zero.mp zero.symm).symm
  | inf negative => cases negative <;> simp [Double.value] at numbers
  | nan => simp [Double.value] at numbers

def followerFirst : List MotorControlMotor := [followerEntry 1 2, ⟨2, .talonFX, .percentOutput, 0, 0⟩]

def configuredStores : MotorStores :=
  { MotorStores.empty with configs := MotorStores.empty.configs.setMotorsConfigMsg [firstMotor, secondMotor] }

theorem follower_first_led :
    1 ∈ (run truncated (run truncated configuredStores (valuesOf followerFirst)) (valuesOf followerFirst)).motors.mRegisteredMotorList ∧
      (run truncated (run truncated configuredStores (valuesOf followerFirst)) (valuesOf followerFirst)).motors.Following 1 2 := by
  have led := followers_led_after_two_runs truncated (fun value id _ => truncated_of_eq value id) configuredStores rfl followerFirst
    ⟨by decide, by decide, by decide, by decide +kernel, by decide, by decide +kernel⟩ (valuesOf followerFirst)
    (valuesOf followerFirst) ⟨rfl, rfl⟩ ⟨rfl, rfl⟩ (followerEntry 1 2) (by simp [followerFirst])
  exact ⟨led.1, led.2 rfl ⟨2, .talonFX, .percentOutput, 0, 0⟩ (by simp [followerFirst]) (by decide +kernel)⟩

end ApplyMotorValuesTask

end RioPassthru
