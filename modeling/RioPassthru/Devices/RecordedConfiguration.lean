import RioPassthru.Devices.Encoder
import RioPassthru.Motor.MotorStores

set_option autoImplicit false

namespace RioPassthru

open Protobuf

theorem single_calls_iff {Call : Type} (writes : List (List Call)) (single : ∀ calls ∈ writes, calls.length = 1)
    (holds : Nat → Nat → Prop) :
    (∀ index calls, writes[index]? = some calls → holds calls.length index) ↔ ∀ index < writes.length, holds 1 index := by
  constructor
  · intro each index within
    have found := List.getElem?_eq_getElem within
    rw [← single writes[index] (List.getElem_mem within)]
    exact each index _ found
  · intro each index calls found
    obtain ⟨within, _⟩ := List.getElem?_eq_some_iff.mp found
    rw [single calls (List.mem_of_getElem? found)]
    exact each index within

namespace ApplyIMUConfigTask

variable (proto : IMUProto)

def entryStep (task : ApplyIMUConfigTask) (entry : IMUConfigData × EntryOutcomes) : ApplyIMUConfigTask :=
  (applyEntry proto task entry.1 entry.2).1

def EntryReissued (task : ApplyIMUConfigTask) (entry : IMUConfigData × EntryOutcomes) : Prop :=
  let id := entryId proto entry.1
  ∀ later : ApplyIMUConfigTask,
    later.imus.mRegisteredIMUList[id]? = (entryStep proto task entry).imus.mRegisteredIMUList[id]? →
    later.mPrevIMUMsg[id]? = (entryStep proto task entry).mPrevIMUMsg[id]? →
    FailedWritesReissued (entryCalls proto task entry.1) (applyEntry proto task entry.1 entry.2).2.writes
      (entryCalls proto later entry.1)

-- The writes of the constructor are made once and their results are dropped.
def EntryAnswered (task : ApplyIMUConfigTask) (entry : IMUConfigData × EntryOutcomes) : Prop :=
  ∀ index < (registered proto task entry.1).2.length, Phoenix.Answered 1 (entry.2 index)

theorem created_single (task : ApplyIMUConfigTask) (m : IMUConfigData) :
    ∀ calls ∈ (registered proto task m).2, calls.length = 1 := by
  rw [registered, CKIMUManager.registerIMU]
  split <;> simp [CKIMUManager.constructorWrites]

theorem created_ok_iff (task : ApplyIMUConfigTask) (entry : IMUConfigData × EntryOutcomes) :
    (∀ write ∈ Phoenix.runWrites entry.2 (registered proto task entry.1).2, write.lastAttemptOk = true) ↔
      EntryAnswered proto task entry := by
  rw [EntryAnswered, Phoenix.run_writes_ok_iff]
  exact single_calls_iff _ (created_single proto task entry.1) fun calls index => Phoenix.Answered calls (entry.2 index)

theorem registered_of_mem (task : ApplyIMUConfigTask) (m : IMUConfigData)
    (known : entryId proto m ∈ task.imus.mRegisteredIMUList) :
    (registered proto task m).2 = [] ∧ entryId proto m ∈ (registered proto task m).1.mRegisteredIMUList := by
  rw [registered, CKIMUManager.registerIMU]
  simp [CKIMUManager.constructs, known]

theorem created_not_again (task : ApplyIMUConfigTask) (entry : IMUConfigData × EntryOutcomes) :
    ∀ calls ∈ (registered proto task entry.1).2, calls ∉ entryCalls proto (entryStep proto task entry) entry.1 := by
  intro calls member
  have constructed : task.imus.constructs (entryId proto entry.1) (entryType proto entry.1) = true := by
    by_contra absent
    simp [registered, CKIMUManager.registerIMU, absent] at member
  have known : entryId proto entry.1 ∈ (entryStep proto task entry).imus.mRegisteredIMUList := by
    simp [entryStep, applyEntry, registered, CKIMUManager.registerIMU, constructed]
  rw [entryCalls, (registered_of_mem proto _ entry.1 known).1, List.nil_append, poseWrites]
  rw [registered, CKIMUManager.registerIMU, if_pos constructed] at member
  intro again
  split at again
  · rw [List.mem_singleton.mp again] at member
    simp [CKIMUManager.constructorWrites] at member
  · exact List.not_mem_nil again

theorem refused_pose_again (task : ApplyIMUConfigTask) (entry : IMUConfigData × EntryOutcomes)
    (refused : (applyEntry proto task entry.1 entry.2).2.stored = false) (later : ApplyIMUConfigTask)
    (device : later.imus.mRegisteredIMUList[entryId proto entry.1]? =
      (entryStep proto task entry).imus.mRegisteredIMUList[entryId proto entry.1]?)
    (previous : later.mPrevIMUMsg[entryId proto entry.1]? = (entryStep proto task entry).mPrevIMUMsg[entryId proto entry.1]?) :
    poseWrites proto task entry.1 ⊆ poseWrites proto later entry.1 := by
  intro calls member
  have known : later.mPrevIMUMsg.getD (entryId proto entry.1) defaultIMU = task.mPrevIMUMsg.getD (entryId proto entry.1) defaultIMU := by
    rw [Std.ExtTreeMap.getD_eq_getD_getElem?, previous, ← Std.ExtTreeMap.getD_eq_getD_getElem?]
    simp only [applyEntry] at refused
    simp only [entryStep, applyEntry, refused]
    exact get_d_insert_if_new _ _ _
  rw [poseWrites] at member ⊢
  split at member
  · rename_i fresh
    have listed : entryId proto entry.1 ∈ later.imus.mRegisteredIMUList := by
      rw [Std.ExtTreeMap.mem_iff_isSome_getElem?, device, ← Std.ExtTreeMap.mem_iff_isSome_getElem?]
      exact fresh.2
    rw [if_pos ⟨known ▸ fresh.1, (registered_of_mem proto later entry.1 listed).2⟩]
    exact member
  · exact absurd member List.not_mem_nil

theorem entry_recorded_iff (task : ApplyIMUConfigTask) (entry : IMUConfigData × EntryOutcomes) :
    StoredOnlyIfApplied (applyEntry proto task entry.1 entry.2).2.stored (applyEntry proto task entry.1 entry.2).2.writes ∧
        EntryReissued proto task entry ↔
      EntryAnswered proto task entry := by
  rw [← created_ok_iff]
  have aligned : (registered proto task entry.1).2.length =
      (Phoenix.runWrites entry.2 (registered proto task entry.1).2).length := by simp [Phoenix.runWrites]
  constructor
  · rintro ⟨_, reissued⟩
    have now := reissued (entryStep proto task entry) rfl rfl
    exact Phoenix.run_writes_ok_of_reissued entry.2 _ _ (created_not_again proto task entry)
      ((Phoenix.failed_writes_reissued_append _ _ _ _ _ aligned).mp now).1
  · intro answered
    refine ⟨fun stored => List.forall_mem_append.mpr ⟨answered, Phoenix.run_writes_ok_of_succeeded _ _ stored⟩, ?_⟩
    intro later device previous
    refine (Phoenix.failed_writes_reissued_append _ _ _ _ _ aligned).mpr ⟨?_, ?_⟩
    · exact Phoenix.failed_writes_reissued_of_ok _ _ _ answered
    · cases stored : (applyEntry proto task entry.1 entry.2).2.stored with
      | true => exact Phoenix.failed_writes_reissued_of_ok _ _ _ (Phoenix.run_writes_ok_of_succeeded _ _ stored)
      | false =>
          have again := refused_pose_again proto task entry stored later device previous
          exact Phoenix.failed_writes_reissued_of_subset _ _ _ fun calls member => List.mem_append_right _ (again member)

end ApplyIMUConfigTask

namespace ApplyEncoderConfigTask

variable (proto : EncoderProto)

def entryStep (task : ApplyEncoderConfigTask) (entry : EncoderConfigData × EntryOutcomes) : ApplyEncoderConfigTask :=
  (applyEntry proto task entry.1 entry.2).1

def EntryReissued (task : ApplyEncoderConfigTask) (entry : EncoderConfigData × EntryOutcomes) : Prop :=
  let id := entryId proto entry.1
  ∀ later : ApplyEncoderConfigTask,
    later.encoders.mRegisteredEncoderList[id]? = (entryStep proto task entry).encoders.mRegisteredEncoderList[id]? →
    later.mPrevEncoderMsg[id]? = (entryStep proto task entry).mPrevEncoderMsg[id]? →
    FailedWritesReissued (entryCalls proto task entry.1) (applyEntry proto task entry.1 entry.2).2.writes
      (entryCalls proto later entry.1)

-- A stored entry had its strategy accepted; its offset may have been refused.
def EntryAnswered (task : ApplyEncoderConfigTask) (entry : EncoderConfigData × EntryOutcomes) : Prop :=
  Phoenix.Accepted 1 (entry.2 0) → offsetCalls proto task entry.1 ≠ [] → entry.2 1 0 0 = .OK

theorem entry_stored_iff (task : ApplyEncoderConfigTask) (entry : EncoderConfigData × EntryOutcomes) :
    StoredOnlyIfApplied (applyEntry proto task entry.1 entry.2).2.stored (applyEntry proto task entry.1 entry.2).2.writes ↔
      EntryAnswered proto task entry := by
  obtain ⟨m, outcomes⟩ := entry
  simp only [applyEntry, StoredOnlyIfApplied, EntryAnswered]
  rw [strategyWrites, offsetCalls]
  by_cases configured : configures proto task m = true
  · by_cases coder : entryType proto m = .CANCoder
    · simp only [configured, coder, and_self, if_true, Phoenix.runWrites, List.mapIdx_cons, List.mapIdx_nil,
        List.length_singleton, List.all_cons, List.all_nil, Bool.and_true, Phoenix.succeeded_iff, List.map_cons, List.map_nil]
      refine imp_congr_right fun done => ?_
      have kept := Phoenix.last_attempt_ok_of_succeeded 1 (outcomes 0) ((Phoenix.succeeded_iff 1 (outcomes 0)).mpr done)
      have offset : (Phoenix.runOnce (outcomes 1)).lastAttemptOk = decide (outcomes 1 0 0 = .OK) := by
        simp [Phoenix.runOnce, DeviceWrite.lastAttemptOk]
      simp [kept, offset]
    · simp only [configured, coder, and_false, if_true, if_false, Phoenix.runWrites, List.mapIdx_cons, List.mapIdx_nil,
        List.length_singleton, List.all_cons, List.all_nil, Bool.and_true, Phoenix.succeeded_iff, List.map_nil,
        List.append_nil, List.forall_mem_singleton]
      refine iff_of_true (fun done => ?_) (fun _ other => absurd rfl other)
      exact Phoenix.last_attempt_ok_of_succeeded 1 (outcomes 0) ((Phoenix.succeeded_iff 1 (outcomes 0)).mpr done)
  · simp [configured, Phoenix.runWrites]

theorem refused_entry_again (task : ApplyEncoderConfigTask) (entry : EncoderConfigData × EntryOutcomes)
    (refused : (applyEntry proto task entry.1 entry.2).2.stored = false) (later : ApplyEncoderConfigTask)
    (device : later.encoders.mRegisteredEncoderList[entryId proto entry.1]? =
      (entryStep proto task entry).encoders.mRegisteredEncoderList[entryId proto entry.1]?)
    (previous : later.mPrevEncoderMsg[entryId proto entry.1]? =
      (entryStep proto task entry).mPrevEncoderMsg[entryId proto entry.1]?) :
    entryCalls proto task entry.1 ⊆ entryCalls proto later entry.1 := by
  have configured : configures proto task entry.1 = true := by
    by_contra other
    simp [applyEntry, strategyWrites, Phoenix.runWrites, other] at refused
  have known : later.mPrevEncoderMsg.getD (entryId proto entry.1) defaultEncoder =
      task.mPrevEncoderMsg.getD (entryId proto entry.1) defaultEncoder := by
    rw [Std.ExtTreeMap.getD_eq_getD_getElem?, previous, ← Std.ExtTreeMap.getD_eq_getD_getElem?]
    simp only [applyEntry] at refused
    simp only [entryStep, applyEntry, refused]
    exact get_d_insert_if_new _ _ _
  have again : configures proto later entry.1 = true := by
    have listed : entryId proto entry.1 ∈ later.encoders.mRegisteredEncoderList := by
      rw [Std.ExtTreeMap.mem_iff_isSome_getElem?, device, ← Std.ExtTreeMap.mem_iff_isSome_getElem?]
      simp only [configures, Bool.and_eq_true, Std.ExtTreeMap.contains_iff_mem] at configured
      simp only [entryStep, applyEntry]
      split
      · rw [CKEncoderManager.configSensorSource, Std.ExtTreeMap.mem_modify]
        exact configured.2
      · exact configured.2
    rw [configures, known]
    simp only [configures, Bool.and_eq_true, Std.ExtTreeMap.contains_iff_mem] at configured ⊢
    refine ⟨configured.1, ?_⟩
    simp [registered, CKEncoderManager.registerEncoder, listed]
  simp only [entryCalls, strategyWrites, offsetCalls, configured, again, List.Subset.refl]

theorem entry_recorded_iff (task : ApplyEncoderConfigTask) (entry : EncoderConfigData × EntryOutcomes) :
    StoredOnlyIfApplied (applyEntry proto task entry.1 entry.2).2.stored (applyEntry proto task entry.1 entry.2).2.writes ∧
        EntryReissued proto task entry ↔
      EntryAnswered proto task entry := by
  rw [← entry_stored_iff]
  refine and_iff_left_of_imp fun kept => ?_
  intro later device previous
  cases stored : (applyEntry proto task entry.1 entry.2).2.stored with
  | true => exact Phoenix.failed_writes_reissued_of_ok _ _ _ (kept stored)
  | false => exact Phoenix.failed_writes_reissued_of_subset _ _ _ (refused_entry_again proto task entry stored later device previous)

end ApplyEncoderConfigTask

namespace ApplyMotorConfigTask

variable (proto : MotorProto) (getEncoder : Int → Option Int) (outcomes : RunOutcomes) (size : Nat)

-- The results of the motor writes are never looked at, so every one of them has to be answered.
def EntryAnswered (stores : MotorStores) (entry : MotorConfigurationMotor × Nat) : Prop :=
  uint16 entry.1.id ∈ stores.motors.mRegisteredMotorList →
    ∀ index calls, (entryWrites proto getEncoder size stores entry.1)[index]? = some calls →
      Phoenix.Answered calls.length (outcomes entry.2 index)

def entryStep (stores : MotorStores) (entry : MotorConfigurationMotor × Nat) : MotorStores :=
  (applyEntry proto getEncoder (outcomes entry.2) size stores entry.1).1

def EntriesAnswered (proto : MotorProto) (stores : MotorStores) (input : ConfigInput) : Prop :=
  input.locked = true → ∀ message, input.message = some message →
    Runs.EachStep (entryStep proto input.getEncoder input.outcomes message.length)
      (EntryAnswered proto input.getEncoder input.outcomes message.length)
      { stores with configs := stores.configs.setMotorsConfigMsg message } message.zipIdx

theorem entry_stored_iff (stores : MotorStores) (m : MotorConfigurationMotor) (position : Nat) :
    (∀ processed ∈ (applyEntry proto getEncoder (outcomes position) size stores m).2, StoredOnlyIfApplied processed.stored processed.writes) ↔
      EntryAnswered proto getEncoder outcomes size stores (m, position) := by
  have answered := Phoenix.run_writes_ok_iff (outcomes position) (entryWrites proto getEncoder size stores m)
  rw [EntryAnswered, ← answered, applyEntry, MotorManager.motorExists]
  by_cases registered : uint16 m.id ∈ stores.motors.mRegisteredMotorList
  · rw [if_pos (Std.ExtTreeMap.contains_iff_mem.mpr registered), entryWrites]
    split <;> simp [registered, StoredOnlyIfApplied]
  · rw [if_neg (fun contained => registered (Std.ExtTreeMap.contains_iff_mem.mp contained))]
    simp [registered]

theorem entries_stored_iff (message : List MotorConfigurationMotor) (position : Nat) (stores : MotorStores) :
    (∀ processed ∈ (applyEntries proto getEncoder outcomes size position stores message).2,
        StoredOnlyIfApplied processed.stored processed.writes) ↔
      Runs.EachStep (entryStep proto getEncoder outcomes size) (EntryAnswered proto getEncoder outcomes size) stores
        (message.zipIdx position) := by
  induction message generalizing position stores with
  | nil => simp [applyEntries, Runs.EachStep]
  | cons m rest ih =>
      rw [applyEntries, List.forall_mem_append, entry_stored_iff, ih, List.zipIdx_cons]
      exact Iff.rfl

theorem run_stored_iff (stores : MotorStores) (input : ConfigInput) :
    (∀ processed ∈ (run proto stores input).2, StoredOnlyIfApplied processed.stored processed.writes) ↔ EntriesAnswered proto stores input := by
  rw [run, EntriesAnswered]
  cases received : input.message with
  | none => simp
  | some message =>
      cases locked : input.locked with
      | false => simp
      | true =>
          simp only [if_true, entries_stored_iff]
          simp

def EntryReissued (stores : MotorStores) (entry : MotorConfigurationMotor × Nat) : Prop :=
  let id := uint16 entry.1.id
  let next := entryStep proto getEncoder outcomes size stores entry
  ∀ later : MotorStores,
    later.motors.mRegisteredMotorList[id]? = next.motors.mRegisteredMotorList[id]? →
    later.configs.mPrevMotorMsgs[id]? = next.configs.mPrevMotorMsgs[id]? →
    ∀ processed ∈ (applyEntry proto getEncoder (outcomes entry.2) size stores entry.1).2,
      FailedWritesReissued (entryWrites proto getEncoder size stores entry.1) processed.writes
        (entryWrites proto getEncoder size later entry.1)

def EntriesReissued (proto : MotorProto) (stores : MotorStores) (input : ConfigInput) : Prop :=
  input.locked = true → ∀ message, input.message = some message →
    Runs.EachStep (entryStep proto input.getEncoder input.outcomes message.length)
      (EntryReissued proto input.getEncoder input.outcomes message.length)
      { stores with configs := stores.configs.setMotorsConfigMsg message } message.zipIdx

theorem entry_reissued_of_answered (stores : MotorStores) (entry : MotorConfigurationMotor × Nat)
    (answered : EntryAnswered proto getEncoder outcomes size stores entry) :
    EntryReissued proto getEncoder outcomes size stores entry := by
  intro later _ _ processed member
  have stored : processed.stored = true := by
    simp only [applyEntry] at member
    split at member
    · split at member <;> rw [List.mem_singleton.mp member]
    · exact absurd member List.not_mem_nil
  have applied := (entry_stored_iff proto getEncoder outcomes size stores entry.1 entry.2).mpr answered processed member
  exact Phoenix.failed_writes_reissued_of_ok _ _ _ (applied stored)

theorem run_recorded_iff (stores : MotorStores) (input : ConfigInput) :
    (∀ processed ∈ (run proto stores input).2, StoredOnlyIfApplied processed.stored processed.writes) ∧
        EntriesReissued proto stores input ↔
      EntriesAnswered proto stores input := by
  rw [run_stored_iff]
  refine and_iff_left_of_imp fun answered locked message received => ?_
  exact Runs.each_step_mono _ _ _ (entry_reissued_of_answered proto input.getEncoder input.outcomes message.length) _ _
    (answered locked message received)

end ApplyMotorConfigTask

theorem stored_only_if_applied_iff (motorProto : MotorProto) (imuProto : IMUProto) (encoderProto : EncoderProto) :
    (∀ stores input,
      (∀ processed ∈ (ApplyMotorConfigTask.run motorProto stores input).2, StoredOnlyIfApplied processed.stored processed.writes) ∧
          ApplyMotorConfigTask.EntriesReissued motorProto stores input ↔
        ApplyMotorConfigTask.EntriesAnswered motorProto stores input) ∧
    (∀ task message,
      (∀ processed ∈ (ApplyIMUConfigTask.run imuProto task message).2, StoredOnlyIfApplied processed.stored processed.writes) ∧
          Runs.EachStep (ApplyIMUConfigTask.entryStep imuProto) (ApplyIMUConfigTask.EntryReissued imuProto) task message ↔
        Runs.EachStep (ApplyIMUConfigTask.entryStep imuProto) (ApplyIMUConfigTask.EntryAnswered imuProto) task message) ∧
    ∀ task message,
      (∀ processed ∈ (ApplyEncoderConfigTask.run encoderProto task message).2, StoredOnlyIfApplied processed.stored processed.writes) ∧
          Runs.EachStep (ApplyEncoderConfigTask.entryStep encoderProto) (ApplyEncoderConfigTask.EntryReissued encoderProto) task message ↔
        Runs.EachStep (ApplyEncoderConfigTask.entryStep encoderProto) (ApplyEncoderConfigTask.EntryAnswered encoderProto) task message := by
  refine ⟨ApplyMotorConfigTask.run_recorded_iff motorProto, ?_, ?_⟩
  · intro task message
    rw [ApplyIMUConfigTask.run, Runs.run_log_forall]
    refine Iff.trans (Runs.each_step_and_iff _ _ _ message task) ?_
    exact Runs.each_step_congr _ _ _ (ApplyIMUConfigTask.entry_recorded_iff imuProto) message task
  · intro task message
    rw [ApplyEncoderConfigTask.run, Runs.run_log_forall]
    refine Iff.trans (Runs.each_step_and_iff _ _ _ message task) ?_
    exact Runs.each_step_congr _ _ _ (ApplyEncoderConfigTask.entry_recorded_iff encoderProto) message task

def unansweredMotor : MotorConfigurationMotor := ⟨.mk motorFullName [] [.singular 1 (.scalar (.int 1))], rfl, by decide, by decide⟩

def oneMotor : MotorStores :=
  ⟨⟨(∅ : DeviceMap BaseTalon).insert 1 ⟨.TalonFX, 1, "rio", none⟩, (∅ : DeviceMap MotorType).insert 1 .talonFX,
    (∅ : DeviceMap Int).insert 1 250⟩, ⟨(∅ : DeviceMap MotorConfigurationMotor).insert 1 unansweredMotor, ∅⟩⟩

def newPigeon : IMUConfigData := ⟨.mk imuFullName [] [.singular 1 (.scalar (.int 3))], rfl, by decide, by decide⟩

def newCoder : EncoderConfigData := ⟨.mk encoderFullName [] [.singular 1 (.scalar (.int 5))], rfl, by decide, by decide⟩

theorem failed_writes_are_stored :
    (¬ ∀ proto stores input, ∀ processed ∈ (ApplyMotorConfigTask.run proto stores input).2,
      StoredOnlyIfApplied processed.stored processed.writes) ∧
    (¬ ∀ proto task message, ∀ processed ∈ (ApplyIMUConfigTask.run proto task message).2,
      StoredOnlyIfApplied processed.stored processed.writes) ∧
    ¬ ∀ proto task message, ∀ processed ∈ (ApplyEncoderConfigTask.run proto task message).2,
      StoredOnlyIfApplied processed.stored processed.writes := by
  refine ⟨?_, ?_, ?_⟩
  · intro always
    have motor := always ⟨1, 2, 3, by decide, 1, 2, 3, 4⟩ oneMotor
      ⟨some [unansweredMotor], true, fun _ => none, fun _ _ _ _ => .GeneralError⟩
    revert motor
    decide +kernel
  · intro always
    have imu := always ⟨1, 2, 3, 4, 5⟩ ⟨⟨∅, ∅, ∅⟩, ∅⟩
      [(newPigeon, fun write _ _ => if write = 0 then .GeneralError else .OK)]
    revert imu
    decide +kernel
  · intro always
    have encoder := always ⟨1, 2, 3, 4, 5, 6⟩ ⟨⟨∅, ∅, ∅⟩, ∅⟩
      [(newCoder, fun write _ _ => if write = 1 then .GeneralError else .OK)]
    revert encoder
    decide +kernel

end RioPassthru
