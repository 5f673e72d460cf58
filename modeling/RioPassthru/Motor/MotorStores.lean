import RioPassthru.Lib.Expiry
import RioPassthru.Lib.Runs
import RioPassthru.Motor.MotorTasks

set_option autoImplicit false

namespace RioPassthru

def talonClassOf : MotorType → Option TalonClass
  | .talonFX => some .TalonFX
  | .talonSRX => some .TalonSRX
  | .other _ => none

namespace MotorManager

structure Coherent (motors : MotorManager) : Prop where
  types : ∀ id : Nat, id ∈ motors.mRegisteredMotorTypeList ↔ id ∈ motors.mRegisteredMotorList
  heartbeats : ∀ id : Nat, id ∈ motors.mRegisteredMotorHeartbeatList ↔ id ∈ motors.mRegisteredMotorList
  below : ∀ id : Nat, id ∈ motors.mRegisteredMotorList → id < 64
  beats : ∀ (id : Nat) (beat : Int), motors.mRegisteredMotorHeartbeatList[id]? = some beat → 1 ≤ beat ∧ beat ≤ 250
  classes : ∀ (id : Nat) (mCtrl : BaseTalon) (mType : MotorType), motors.mRegisteredMotorList[id]? = some mCtrl →
    motors.mRegisteredMotorTypeList[id]? = some mType → talonClassOf mType = some mCtrl.talonClass

theorem on_motor_cases (motors : MotorManager) (kept : motors.Coherent) (id : Nat) :
    id ∉ motors.mRegisteredMotorList ∧ motors.onMotor id = (motors, none) ∨
      ∃ mCtrl mType, motors.onMotor id = (motors, some (mCtrl, mType)) ∧
        motors.mRegisteredMotorList[id]? = some mCtrl ∧ motors.mRegisteredMotorTypeList[id]? = some mType := by
  by_cases registered : id ∈ motors.mRegisteredMotorList
  · obtain ⟨mCtrl, found⟩ := get_of_mem motors.mRegisteredMotorList id registered
    obtain ⟨mType, typed⟩ := get_of_mem motors.mRegisteredMotorTypeList id ((kept.types id).mpr registered)
    exact Or.inr ⟨mCtrl, mType, by simp only [onMotor, motorType, found, typed], found, typed⟩
  · exact Or.inl ⟨registered, by rw [onMotor, Std.ExtTreeMap.getElem?_eq_none registered]⟩

theorem on_motor_of_mem (motors : MotorManager) (kept : motors.Coherent) (id : Nat) (registered : id ∈ motors.mRegisteredMotorList) :
    ∃ mCtrl mType, motors.onMotor id = (motors, some (mCtrl, mType)) ∧ motors.mRegisteredMotorTypeList[id]? = some mType := by
  obtain absent | ⟨mCtrl, mType, given, _, typed⟩ := on_motor_cases motors kept id
  · exact absurd registered absent.1
  · exact ⟨mCtrl, mType, given, typed⟩

theorem command_coherent (motors : MotorManager) (kept : motors.Coherent) (id : Nat) (mCtrl : BaseTalon)
    (found : motors.mRegisteredMotorList[id]? = some mCtrl) (sent : TalonCommand) :
    (motors.command id mCtrl sent).Coherent := by
  obtain ⟨types, heartbeats, below, beats, classes⟩ := kept
  constructor <;> grind [command]

theorem command_keys (motors : MotorManager) (id : Nat) (mCtrl : BaseTalon)
    (found : motors.mRegisteredMotorList[id]? = some mCtrl) (sent : TalonCommand) (key : Nat) :
    key ∈ (motors.command id mCtrl sent).mRegisteredMotorList ↔ key ∈ motors.mRegisteredMotorList := by
  grind [command]

theorem register_motor_coherent (motors : MotorManager) (kept : motors.Coherent) (id : Nat) (mType : MotorType)
    (canInterface : Int) : (motors.registerMotor id mType canInterface).Coherent := by
  obtain ⟨types, heartbeats, below, beats, classes⟩ := kept
  rw [registerMotor]
  split
  · split
    · constructor <;> grind [beat, kMaxHeartbeatTicks]
    · cases mType with
      | other number => exact ⟨types, heartbeats, below, beats, classes⟩
      | talonFX => constructor <;> grind [beat, kMaxHeartbeatTicks, newMotor, talonClassOf]
      | talonSRX => constructor <;> grind [beat, kMaxHeartbeatTicks, newMotor, talonClassOf]
  · exact ⟨types, heartbeats, below, beats, classes⟩

theorem register_motor_keys (motors : MotorManager) (id : Nat) (mType : MotorType) (canInterface : Int) (key : Nat)
    (listed : key ∈ (motors.registerMotor id mType canInterface).mRegisteredMotorList) :
    key = id ∨ key ∈ motors.mRegisteredMotorList := by
  grind [registerMotor, beat]

theorem register_motor_keeps (motors : MotorManager) (id : Nat) (mType : MotorType) (canInterface : Int) (key : Nat)
    (listed : key ∈ motors.mRegisteredMotorList) :
    key ∈ (motors.registerMotor id mType canInterface).mRegisteredMotorList := by
  grind [registerMotor, beat]

theorem visit_coherent (func : Nat → BaseTalon → MotorType → Option TalonCommand) (motors : MotorManager)
    (kept : motors.Coherent) (id : Nat) :
    (motors.visit func id).Coherent ∧
      ∀ key : Nat, key ∈ (motors.visit func id).mRegisteredMotorList ↔ key ∈ motors.mRegisteredMotorList := by
  rw [visit]
  obtain ⟨_, given⟩ | ⟨mCtrl, mType, given, found, _⟩ := on_motor_cases motors kept id
  · rw [given]
    exact ⟨kept, fun _ => Iff.rfl⟩
  · rw [given]
    cases sent : func id mCtrl mType with
    | none =>
        simp only [sent, implies_true, and_true]
        exact kept
    | some message =>
        simp only [sent]
        exact ⟨command_coherent motors kept id mCtrl found message, command_keys motors id mCtrl found message⟩

theorem for_each_coherent (func : Nat → BaseTalon → MotorType → Option TalonCommand) (motors : MotorManager)
    (kept : motors.Coherent) :
    (motors.forEach func).Coherent ∧
      ∀ key : Nat, key ∈ (motors.forEach func).mRegisteredMotorList ↔ key ∈ motors.mRegisteredMotorList := by
  rw [forEach]
  generalize motors.mRegisteredMotorList.keys = ids
  induction ids generalizing motors with
  | nil => exact ⟨kept, fun _ => Iff.rfl⟩
  | cons id rest ih =>
      obtain ⟨visited, keys⟩ := visit_coherent func motors kept id
      obtain ⟨later, laterKeys⟩ := ih (motors.visit func id) visited
      exact ⟨later, fun key => (laterKeys key).trans (keys key)⟩

end MotorManager

structure MotorStores.Coherent (stores : MotorStores) : Prop where
  motors : stores.motors.Coherent
  recorded : ∀ id : Nat, id ∈ stores.configs.mPrevMotorMsgs → id ∈ stores.motors.mRegisteredMotorList
  known : ∀ id : Nat, id ∈ stores.motors.mRegisteredMotorList → id ∈ stores.configs.mMotorMsgs

namespace MotorStores

theorem empty_coherent : empty.Coherent := by
  refine ⟨⟨?_, ?_, ?_, ?_, ?_⟩, ?_, ?_⟩ <;> simp [empty]

theorem tick_heartbeats (stores : MotorStores) (id : Nat) :
    (stores.tick id).motors.mRegisteredMotorHeartbeatList = Expiry.turn stores.motors.mRegisteredMotorHeartbeatList id := by
  rw [tick, Expiry.turn]
  exact apply_ite (fun later : MotorStores => later.motors.mRegisteredMotorHeartbeatList) _ _ _

theorem tick_coherent (stores : MotorStores) (kept : stores.Coherent) (id : Nat) : (stores.tick id).Coherent := by
  obtain ⟨⟨types, heartbeats, below, beats, classes⟩, recorded, known⟩ := kept
  refine ⟨⟨?types, ?heartbeats, ?below, ?beats, ?classes⟩, ?recorded, ?known⟩
  case beats =>
    rw [tick_heartbeats]
    exact Expiry.turn_in_range 250 _ beats id
  case heartbeats =>
    intro key
    rw [tick_heartbeats, Expiry.mem_turn, heartbeats key, tick]
    split <;> grind [deleteMotor, setHeartbeats]
  all_goals
    rw [tick]
    split <;> grind [deleteMotor, setHeartbeats, MotorConfigManager.deleteMotor]

theorem process_heartbeat_coherent (stores : MotorStores) (kept : stores.Coherent) : stores.processHeartbeat.Coherent := by
  rw [processHeartbeat]
  generalize stores.motors.mRegisteredMotorHeartbeatList.keys = ids
  induction ids generalizing stores with
  | nil => exact kept
  | cons id rest ih => exact ih (stores.tick id) (tick_coherent stores kept id)

theorem process_heartbeat_found (stores : MotorStores) (id : Nat) (mCtrl : BaseTalon)
    (found : stores.processHeartbeat.motors.mRegisteredMotorList[id]? = some mCtrl) :
    stores.motors.mRegisteredMotorList[id]? = some mCtrl := by
  rw [processHeartbeat] at found
  generalize stores.motors.mRegisteredMotorHeartbeatList.keys = ids at found
  induction ids generalizing stores with
  | nil => exact found
  | cons key rest ih =>
      have ticked := ih (stores.tick key) found
      rw [tick] at ticked
      split at ticked
      · simp only [setHeartbeats, deleteMotor, Std.ExtTreeMap.getElem?_erase] at ticked
        split at ticked
        · cases ticked
        · exact ticked
      · exact ticked

theorem mem_set_motors_config (configs : MotorConfigManager) (message : List MotorConfigurationMotor) (id : Nat) :
    id ∈ (configs.setMotorsConfigMsg message).mMotorMsgs ↔ id ∈ configs.mMotorMsgs ∨ ∃ m ∈ message, uint16 m.id = id := by
  rw [MotorConfigManager.setMotorsConfigMsg]
  generalize configs.mMotorMsgs = msgs
  induction message generalizing msgs with
  | nil => simp
  | cons m rest ih =>
      rw [List.foldl_cons, ih]
      simp only [Std.ExtTreeMap.mem_insert, Std.LawfulEqCmp.compare_eq_iff_eq, List.mem_cons, exists_eq_or_imp]
      tauto

theorem set_motors_config_coherent (stores : MotorStores) (kept : stores.Coherent) (message : List MotorConfigurationMotor) :
    Coherent { stores with configs := stores.configs.setMotorsConfigMsg message } :=
  ⟨kept.motors, kept.recorded, fun id registered =>
    (mem_set_motors_config stores.configs message id).mpr (Or.inl (kept.known id registered))⟩

end MotorStores

namespace ApplyMotorValuesTask

variable (toId : Double → Nat)

theorem drive_motor_coherent (m : MotorControlMotor) (motors : MotorManager) (kept : motors.Coherent) :
    (driveMotor toId m motors).Coherent ∧
      ∀ key : Nat, key ∈ (driveMotor toId m motors).mRegisteredMotorList ↔ key ∈ motors.mRegisteredMotorList := by
  have commanded : ∀ mCtrl sent, motors.mRegisteredMotorList[uint16 m.id]? = some mCtrl →
      (motors.command (uint16 m.id) mCtrl sent).Coherent ∧
        ∀ key : Nat, key ∈ (motors.command (uint16 m.id) mCtrl sent).mRegisteredMotorList ↔ key ∈ motors.mRegisteredMotorList :=
    fun mCtrl sent found => ⟨MotorManager.command_coherent motors kept _ mCtrl found sent,
      MotorManager.command_keys motors _ mCtrl found sent⟩
  have unchanged : motors.Coherent ∧ ∀ key : Nat, key ∈ motors.mRegisteredMotorList ↔ key ∈ motors.mRegisteredMotorList :=
    ⟨kept, fun _ => Iff.rfl⟩
  rw [driveMotor]
  obtain ⟨_, given⟩ | ⟨mCtrl, mType, given, found, _⟩ := MotorManager.on_motor_cases motors kept (uint16 m.id)
  · rw [given]
    exact unchanged
  · rw [given]
    dsimp only
    split
    · split
      · exact commanded mCtrl _ found
      · exact unchanged
    · split
      · split
        · exact commanded mCtrl _ found
        · exact unchanged
      · exact unchanged

theorem apply_motor_coherent (stores : MotorStores) (kept : stores.Coherent) (m : MotorControlMotor) :
    (applyMotor toId stores m).Coherent := by
  rw [applyMotor]
  cases found : stores.configs.mMotorMsgs[uint16 m.id]? with
  | none => exact kept
  | some config =>
      dsimp only
      split
      · have registered := MotorManager.register_motor_coherent stores.motors kept.motors (uint16 m.id) m.controllerType config.canNetwork
        obtain ⟨driven, keys⟩ := drive_motor_coherent toId m _ registered
        refine ⟨driven, ?_, ?_⟩
        · intro id recorded
          exact (keys id).mpr (MotorManager.register_motor_keeps _ _ _ _ id (kept.recorded id recorded))
        · intro id listed
          rcases MotorManager.register_motor_keys _ _ _ _ id ((keys id).mp listed) with own | before
          · rw [own]
            exact Std.ExtTreeMap.mem_iff_isSome_getElem?.mpr (by rw [found]; rfl)
          · exact kept.known id before
      · exact kept

theorem entries_coherent (entries : List MotorControlMotor) (stores : MotorStores) (kept : stores.Coherent) :
    (entries.foldl (applyMotor toId) stores).Coherent := by
  induction entries generalizing stores with
  | nil => exact kept
  | cons m rest ih => exact ih _ (apply_motor_coherent toId stores kept m)

theorem apply_message_coherent (stores : MotorStores) (kept : stores.Coherent) (input : ValuesInput) :
    (applyMessage toId stores input).Coherent := by
  rw [applyMessage]
  split
  · split
    · exact entries_coherent toId _ stores kept
    · exact kept
  · exact kept

theorem run_coherent (stores : MotorStores) (kept : stores.Coherent) (input : ValuesInput) : (run toId stores input).Coherent := by
  have applied := apply_message_coherent toId stores kept input
  rw [run]
  split
  · obtain ⟨stopped, keys⟩ := MotorManager.for_each_coherent _ _ applied.motors
    exact ⟨stopped, fun id recorded => (keys id).mpr (applied.recorded id recorded),
      fun id listed => applied.known id ((keys id).mp listed)⟩
  · exact applied

theorem apply_motor_configs (stores : MotorStores) (m : MotorControlMotor) :
    (applyMotor toId stores m).configs = stores.configs := by
  rw [applyMotor]
  split
  · rfl
  · split <;> rfl

theorem entries_configs (entries : List MotorControlMotor) (stores : MotorStores) :
    (entries.foldl (applyMotor toId) stores).configs = stores.configs := by
  induction entries generalizing stores with
  | nil => rfl
  | cons m rest ih => rw [List.foldl_cons, ih, apply_motor_configs]

end ApplyMotorValuesTask

namespace ApplyMotorConfigTask

variable (proto : MotorProto)

theorem current_limit_cast (mCtrl : BaseTalon) (mType : MotorType) (matching : talonClassOf mType = some mCtrl.talonClass) :
    currentLimitCastFails mType mCtrl = false := by
  cases mType with
  | other number => rfl
  | talonFX =>
      have cast : mCtrl.talonClass = .TalonFX := (Option.some.inj matching).symm
      simp [currentLimitCastFails, dynamicCast, cast]
  | talonSRX =>
      have cast : mCtrl.talonClass = .TalonSRX := (Option.some.inj matching).symm
      simp [currentLimitCastFails, dynamicCast, cast]

theorem update_cast (number : Nat) (mCtrl : BaseTalon) (mType : MotorType)
    (matching : talonClassOf mType = some mCtrl.talonClass) : updateCastFails number mType mCtrl = false := by
  rw [updateCastFails, current_limit_cast mCtrl mType matching]
  split_ifs <;> simp

theorem full_update_quiet (motors : MotorManager) (kept : motors.Coherent) (m : MotorConfigurationMotor) :
    (fullUpdateOf proto motors m).1 = motors ∧ (fullUpdateOf proto motors m).2.nullCast = false := by
  rw [fullUpdateOf]
  obtain ⟨_, given⟩ | ⟨mCtrl, mType, given, found, typed⟩ := MotorManager.on_motor_cases motors kept (uint16 m.id)
  · rw [given]
    exact ⟨rfl, rfl⟩
  · rw [given]
    exact ⟨rfl, current_limit_cast _ _ (kept.classes _ _ _ found typed)⟩

theorem update_quiet (getEncoder : Int → Option Int) (motors : MotorManager) (kept : motors.Coherent) (call : UpdateCall) :
    (updateOf proto getEncoder motors call).1 = motors ∧ (updateOf proto getEncoder motors call).2.nullCast = false := by
  rw [updateOf]
  cases getTypedMessage call.message with
  | none => exact ⟨rfl, rfl⟩
  | some m =>
      dsimp only
      obtain ⟨_, given⟩ | ⟨mCtrl, mType, given, found, typed⟩ := MotorManager.on_motor_cases motors kept (uint16 m.id)
      · rw [given]
        exact ⟨rfl, rfl⟩
      · rw [given]
        exact ⟨rfl, update_cast _ _ _ (kept.classes _ _ _ found typed)⟩

theorem updates_quiet (getEncoder : Int → Option Int) (motors : MotorManager) (kept : motors.Coherent)
    (calls : List UpdateCall) :
    (updatesOf proto getEncoder motors calls).1 = motors ∧
      (updatesOf proto getEncoder motors calls).2.nullCast = false := by
  induction calls with
  | nil => exact ⟨rfl, rfl⟩
  | cons call rest ih =>
      obtain ⟨same, safe⟩ := update_quiet proto getEncoder motors kept call
      rw [updatesOf]
      simp only [same, safe, ih, Bool.or_self, and_self]

theorem updates_writes (getEncoder : Int → Option Int) (motors : MotorManager) (kept : motors.Coherent)
    (calls : List UpdateCall) :
    (updatesOf proto getEncoder motors calls).2.writes =
      calls.flatMap fun call => (updateOf proto getEncoder motors call).2.writes := by
  induction calls with
  | nil => rfl
  | cons call rest ih =>
      rw [updatesOf, List.flatMap_cons, (update_quiet proto getEncoder motors kept call).1, ih]

theorem prev_motor_msg_insert (configs : MotorConfigManager) (id : Nat) (m : MotorConfigurationMotor) :
    (configs.prevMotorMsg id).1.setPrevMotorConfigMsg id m = configs.setPrevMotorConfigMsg id m := by
  rw [MotorConfigManager.prevMotorMsg]
  cases configs.mPrevMotorMsgs[id]? with
  | some prev => rfl
  | none =>
      simp only [MotorConfigManager.setPrevMotorConfigMsg, MotorConfigManager.mk.injEq, true_and]
      apply Std.ExtTreeMap.ext_getElem?
      intro key
      simp only [Std.ExtTreeMap.getElem?_insert]
      split <;> rfl

section Entry

variable (getEncoder : Int → Option Int) (outcomes : EntryOutcomes) (size : Nat)

def entryWrites (stores : MotorStores) (m : MotorConfigurationMotor) : List (List MotorCall) :=
  if size = stores.configs.mPrevMotorMsgs.size then
    (updatesOf proto getEncoder stores.motors
      (mDiffReporter.compareWith (stores.configs.prevMotorMsg (uint16 m.id)).2.message m.message)).2.writes
  else (fullUpdateOf proto stores.motors m).2.writes

theorem apply_entry_spec (stores : MotorStores) (kept : stores.Coherent) (m : MotorConfigurationMotor) :
    applyEntry proto getEncoder outcomes size stores m =
      if uint16 m.id ∈ stores.motors.mRegisteredMotorList then
        ({ stores with configs := stores.configs.setPrevMotorConfigMsg (uint16 m.id) m },
          [⟨uint16 m.id, stores.configs.mPrevMotorMsgs.contains (uint16 m.id), decide (size = stores.configs.mPrevMotorMsgs.size),
            Phoenix.runWrites outcomes (entryWrites proto getEncoder size stores m), false, true⟩])
      else (stores, []) := by
  rw [applyEntry, MotorManager.motorExists]
  by_cases registered : uint16 m.id ∈ stores.motors.mRegisteredMotorList
  · rw [if_pos (Std.ExtTreeMap.contains_iff_mem.mpr registered), if_pos registered]
    split
    · rename_i same
      obtain ⟨unchanged, safe⟩ := updates_quiet proto getEncoder stores.motors kept.motors
        (mDiffReporter.compareWith (stores.configs.prevMotorMsg (uint16 m.id)).2.message m.message)
      simp only [unchanged, safe, prev_motor_msg_insert, same, decide_true, entryWrites, if_true]
    · rename_i differ
      obtain ⟨unchanged, safe⟩ := full_update_quiet proto stores.motors kept.motors m
      simp only [unchanged, safe, differ, decide_false, entryWrites, if_false]
  · rw [if_neg (fun contained => registered (Std.ExtTreeMap.contains_iff_mem.mp contained)), if_neg registered]

theorem apply_entry_coherent (stores : MotorStores) (kept : stores.Coherent) (m : MotorConfigurationMotor) :
    (applyEntry proto getEncoder outcomes size stores m).1.Coherent ∧
      ∀ run ∈ (applyEntry proto getEncoder outcomes size stores m).2, run.nullCast = false := by
  rw [apply_entry_spec proto getEncoder outcomes size stores kept m]
  split
  · rename_i registered
    refine ⟨⟨kept.motors, ?_, kept.known⟩, by simp⟩
    intro id recorded
    rcases Std.ExtTreeMap.mem_insert.mp recorded with own | before
    · rw [← Std.LawfulEqCmp.compare_eq_iff_eq.mp own]
      exact registered
    · exact kept.recorded id before
  · exact ⟨kept, by simp⟩

end Entry

theorem apply_entries_coherent (getEncoder : Int → Option Int) (outcomes : RunOutcomes) (size position : Nat)
    (message : List MotorConfigurationMotor) (stores : MotorStores) (kept : stores.Coherent) :
    (applyEntries proto getEncoder outcomes size position stores message).1.Coherent ∧
      ∀ run ∈ (applyEntries proto getEncoder outcomes size position stores message).2, run.nullCast = false := by
  induction message generalizing stores position with
  | nil => exact ⟨kept, by simp [applyEntries]⟩
  | cons m rest ih =>
      obtain ⟨first, safe⟩ := apply_entry_coherent proto getEncoder (outcomes position) size stores kept m
      obtain ⟨later, laterSafe⟩ := ih (position + 1) _ first
      rw [applyEntries]
      refine ⟨later, ?_⟩
      intro run member
      rcases List.mem_append.mp member with own | rest
      · exact safe run own
      · exact laterSafe run rest

theorem run_coherent (stores : MotorStores) (kept : stores.Coherent) (input : ConfigInput) :
    (run proto stores input).1.Coherent ∧ ∀ entry ∈ (run proto stores input).2, entry.nullCast = false := by
  rw [run]
  split
  · split
    · exact apply_entries_coherent proto _ _ _ 0 _ _ (MotorStores.set_motors_config_coherent stores kept _)
    · exact ⟨kept, by simp⟩
  · exact ⟨kept, by simp⟩

end ApplyMotorConfigTask

theorem motor_step_coherent (world : MotorWorld) (stores : MotorStores) (kept : stores.Coherent) (op : MotorOp) :
    (motorStep world stores op).Coherent := by
  cases op with
  | applyMotorValues input => exact ApplyMotorValuesTask.run_coherent world.toId stores kept input
  | applyMotorConfig input => exact (ApplyMotorConfigTask.run_coherent world.proto stores kept input).1
  | processHeartbeat => exact MotorStores.process_heartbeat_coherent stores kept

def handedByForEach (motors : MotorManager) : List (BaseTalon × MotorType) :=
  motors.mRegisteredMotorList.keys.filterMap fun id => (motors.onMotor id).2

def NoNullCast (stores : MotorStores) : Prop :=
  ∀ pair ∈ handedByForEach stores.motors, ApplyMotorConfigTask.currentLimitCastFails pair.2 pair.1 = false

theorem motor_stores_coherent (world : MotorWorld) (ops : List MotorOp) :
    (Runs.runSteps (motorStep world) .empty ops).Coherent ∧
      NoNullCast (Runs.runSteps (motorStep world) .empty ops) ∧
      Runs.EachStep (motorStep world) (fun stores op => ∀ entry ∈ entryRuns world stores op, entry.nullCast = false) .empty ops := by
  have kept := Runs.run_steps_invariant (motorStep world) MotorStores.Coherent
    (fun stores op coherent => motor_step_coherent world stores coherent op) ops .empty MotorStores.empty_coherent
  refine ⟨kept, ?_, ?_⟩
  · intro pair handed
    obtain ⟨id, _, given⟩ := List.mem_filterMap.mp handed
    obtain ⟨_, absent⟩ | ⟨mCtrl, mType, present, found, typed⟩ := MotorManager.on_motor_cases _ kept.motors id
    · rw [absent] at given
      cases given
    · rw [present] at given
      obtain rfl := Option.some.inj given
      exact ApplyMotorConfigTask.current_limit_cast _ _ (kept.motors.classes _ _ _ found typed)
  · refine Runs.each_step_of_kept (motorStep world) MotorStores.Coherent _
      (fun stores op coherent => motor_step_coherent world stores coherent op) ?_ ops .empty MotorStores.empty_coherent
    intro stores op coherent
    cases op with
    | applyMotorConfig input => exact (ApplyMotorConfigTask.run_coherent world.proto stores coherent input).2
    | _ => simp [entryRuns]

end RioPassthru
