import RioPassthru.Motor.MotorStores

set_option autoImplicit false

namespace RioPassthru

open Protobuf

-- The stores with, as ghost data, the ids that a processed entry has recorded since their
-- motor was registered.
structure Tracked where
  stores : MotorStores
  recorded : Finset Nat

def record (recorded : Finset Nat) (entry : ConfigEntryRun) : Finset Nat :=
  if entry.stored then insert entry.id recorded else recorded

def trackedStep (world : MotorWorld) (tracked : Tracked) (op : MotorOp) : Tracked where
  stores := motorStep world tracked.stores op
  recorded := ((entryRuns world tracked.stores op).foldl record tracked.recorded).filter fun id =>
    id ∈ (motorStep world tracked.stores op).motors.mRegisteredMotorList

def FullUntilRecorded (recorded : Finset Nat) : List ConfigEntryRun → Prop
  | [] => True
  | entry :: rest => (entry.differential = true → entry.id ∈ recorded) ∧ FullUntilRecorded (record recorded entry) rest

structure FirstConfigurationFull (world : MotorWorld) (tracked : Tracked) (op : MotorOp) : Prop where
  covered : ∀ input message, op = .applyMotorConfig input → input.message = some message → input.locked = true →
    (entryRuns world tracked.stores op).map ConfigEntryRun.id =
      (message.map fun m => uint16 m.id).filter fun id => id ∈ tracked.stores.motors.mRegisteredMotorList
  full : FullUntilRecorded tracked.recorded (entryRuns world tracked.stores op)

-- The entries of registered motors are recorded one after the other; at the first entry of
-- a motor the number of ids recorded by then must not be the number of entries.
def NeverMiscounted (size : Nat) (registered : DeviceMap BaseTalon) (recorded : Finset Nat) :
    List MotorConfigurationMotor → Prop
  | [] => True
  | m :: rest =>
      if uint16 m.id ∈ registered then
        (uint16 m.id ∉ recorded → size ≠ recorded.card) ∧
          NeverMiscounted size registered (insert (uint16 m.id) recorded) rest
      else NeverMiscounted size registered recorded rest

def recordedIds (stores : MotorStores) : Finset Nat := stores.configs.mPrevMotorMsgs.keys.toFinset

def ConfigCounted (tracked : Tracked) : MotorOp → Prop
  | .applyMotorConfig input =>
      input.locked = true → ∀ message, input.message = some message →
        NeverMiscounted message.length tracked.stores.motors.mRegisteredMotorList (recordedIds tracked.stores) message
  | _ => True

theorem mem_recorded_ids (stores : MotorStores) (id : Nat) :
    id ∈ recordedIds stores ↔ id ∈ stores.configs.mPrevMotorMsgs := mem_key_set stores.configs.mPrevMotorMsgs id

theorem card_recorded_ids (stores : MotorStores) : (recordedIds stores).card = stores.configs.mPrevMotorMsgs.size :=
  card_key_set stores.configs.mPrevMotorMsgs

theorem recorded_ids_insert (stores : MotorStores) (id : Nat) (m : MotorConfigurationMotor) :
    recordedIds { stores with configs := stores.configs.setPrevMotorConfigMsg id m } = insert id (recordedIds stores) :=
  key_set_insert stores.configs.mPrevMotorMsgs id m

namespace ApplyMotorConfigTask

variable (proto : MotorProto) (getEncoder : Int → Option Int) (outcomes : RunOutcomes) (size : Nat)

-- Induction over the entries: what the log says of the branches is what the counts say, and
-- the ids recorded in the end are the ghost's.
theorem apply_entries_recorded (message : List MotorConfigurationMotor) (position : Nat) (stores : MotorStores)
    (kept : stores.Coherent) :
    let result := applyEntries proto getEncoder outcomes size position stores message
    (FullUntilRecorded (recordedIds stores) result.2 ↔
        NeverMiscounted size stores.motors.mRegisteredMotorList (recordedIds stores) message) ∧
      result.2.foldl record (recordedIds stores) = recordedIds result.1 ∧
      result.2.map ConfigEntryRun.id =
        (message.map fun m => uint16 m.id).filter fun id => id ∈ stores.motors.mRegisteredMotorList := by
  induction message generalizing position stores with
  | nil => exact ⟨Iff.rfl, rfl, rfl⟩
  | cons m rest ih =>
      have spec := apply_entry_spec proto getEncoder (outcomes position) size stores kept m
      have coherent := (apply_entry_coherent proto getEncoder (outcomes position) size stores kept m).1
      rw [applyEntries, NeverMiscounted, List.map_cons]
      by_cases registered : uint16 m.id ∈ stores.motors.mRegisteredMotorList
      · rw [if_pos registered] at spec
        rw [spec] at coherent
        rw [spec, if_pos registered, List.filter_cons_of_pos (by simpa using registered)]
        obtain ⟨branches, ghost, ids⟩ := ih (position + 1) _ coherent
        rw [recorded_ids_insert] at branches ghost
        refine ⟨?_, ghost, congrArg _ ids⟩
        simp only [List.cons_append, List.nil_append, FullUntilRecorded, record, if_true, decide_eq_true_eq]
        rw [branches, card_recorded_ids]
        refine and_congr ?_ Iff.rfl
        tauto
      · rw [if_neg registered] at spec
        rw [spec, if_neg registered, List.filter_cons_of_neg (by simpa using registered)]
        exact ih (position + 1) stores kept

end ApplyMotorConfigTask

theorem config_run_recorded (world : MotorWorld) (stores : MotorStores) (kept : stores.Coherent) (input : ConfigInput) :
    let result := ApplyMotorConfigTask.run world.proto stores input
    (FullUntilRecorded (recordedIds stores) result.2 ↔
        (input.locked = true → ∀ message, input.message = some message →
          NeverMiscounted message.length stores.motors.mRegisteredMotorList (recordedIds stores) message)) ∧
      result.2.foldl record (recordedIds stores) = recordedIds result.1 ∧
      ∀ message, input.message = some message → input.locked = true → result.2.map ConfigEntryRun.id =
        (message.map fun m => uint16 m.id).filter fun id => id ∈ stores.motors.mRegisteredMotorList := by
  rw [ApplyMotorConfigTask.run]
  cases received : input.message with
  | none => simp [FullUntilRecorded]
  | some message =>
      cases locked : input.locked with
      | false => simp [FullUntilRecorded]
      | true =>
          obtain ⟨branches, ghost, ids⟩ := ApplyMotorConfigTask.apply_entries_recorded world.proto input.getEncoder
            input.outcomes message.length message 0 _ (MotorStores.set_motors_config_coherent stores kept message)
          refine ⟨branches.trans ?_, ghost, ?_⟩
          · simp only [forall_const, Option.some.injEq, forall_eq']
            rfl
          · rintro other ⟨⟩ _
            exact ids

theorem tick_list (stores : MotorStores) (id key : Nat) (listed : key ∈ (stores.tick id).motors.mRegisteredMotorList) :
    key ∈ stores.motors.mRegisteredMotorList := by
  grind [MotorStores.tick, MotorStores.deleteMotor, MotorStores.setHeartbeats]

theorem tick_prev (stores : MotorStores) (kept : stores.Coherent) (id key : Nat) :
    (stores.tick id).configs.mPrevMotorMsgs[key]? =
      if key ∈ (stores.tick id).motors.mRegisteredMotorList then stores.configs.mPrevMotorMsgs[key]? else none := by
  have listed := kept.recorded key
  rw [MotorStores.tick]
  split <;> grind [MotorStores.deleteMotor, MotorStores.setHeartbeats, MotorConfigManager.deleteMotor]

theorem process_heartbeat_prev (stores : MotorStores) (kept : stores.Coherent) (key : Nat) :
    stores.processHeartbeat.configs.mPrevMotorMsgs[key]? =
      if key ∈ stores.processHeartbeat.motors.mRegisteredMotorList then stores.configs.mPrevMotorMsgs[key]? else none := by
  rw [MotorStores.processHeartbeat]
  generalize stores.motors.mRegisteredMotorHeartbeatList.keys = ids
  have shrinks : ∀ (ids : List Nat) (stores : MotorStores),
      key ∈ (ids.foldl MotorStores.tick stores).motors.mRegisteredMotorList → key ∈ stores.motors.mRegisteredMotorList := by
    intro ids
    induction ids with
    | nil => exact fun _ listed => listed
    | cons first rest ih => exact fun stores listed => tick_list stores first key (ih _ listed)
  induction ids generalizing stores with
  | nil =>
      rw [List.foldl_nil]
      split
      · rfl
      · rename_i absent
        exact Std.ExtTreeMap.getElem?_eq_none fun recorded => absent (kept.recorded key recorded)
  | cons first rest ih =>
      rw [List.foldl_cons, ih _ (MotorStores.tick_coherent stores kept first), tick_prev stores kept first key]
      split
      · rename_i listed
        rw [if_pos (shrinks rest _ listed)]
      · rfl

theorem process_heartbeat_recorded (stores : MotorStores) (kept : stores.Coherent) (key : Nat) :
    key ∈ stores.processHeartbeat.configs.mPrevMotorMsgs ↔
      key ∈ stores.configs.mPrevMotorMsgs ∧ key ∈ stores.processHeartbeat.motors.mRegisteredMotorList := by
  rw [Std.ExtTreeMap.mem_iff_isSome_getElem?, process_heartbeat_prev stores kept key]
  split
  · rename_i listed
    rw [← Std.ExtTreeMap.mem_iff_isSome_getElem?, and_iff_left listed]
  · rename_i absent
    exact iff_of_false Bool.false_ne_true fun both => absent both.2

theorem apply_values_configs (toId : Double → Nat) (stores : MotorStores) (input : ValuesInput) :
    (ApplyMotorValuesTask.run toId stores input).configs = stores.configs := by
  have applied : (ApplyMotorValuesTask.applyMessage toId stores input).configs = stores.configs := by
    rw [ApplyMotorValuesTask.applyMessage]
    split
    · split
      · exact ApplyMotorValuesTask.entries_configs toId _ stores
      · rfl
    · rfl
  rw [ApplyMotorValuesTask.run]
  split <;> exact applied

structure TrackedInvariant (tracked : Tracked) : Prop where
  coherent : tracked.stores.Coherent
  recorded : tracked.recorded = recordedIds tracked.stores

theorem tracked_step_invariant (world : MotorWorld) (tracked : Tracked) (op : MotorOp) (kept : TrackedInvariant tracked) :
    TrackedInvariant (trackedStep world tracked op) := by
  have coherent := motor_step_coherent world tracked.stores kept.coherent op
  refine ⟨coherent, ?_⟩
  ext key
  rw [mem_recorded_ids, trackedStep, Finset.mem_filter, kept.recorded]
  cases op with
  | applyMotorValues input =>
      simp only [motorStep, entryRuns, List.foldl_nil] at coherent ⊢
      rw [mem_recorded_ids, ← apply_values_configs world.toId tracked.stores input]
      exact ⟨And.left, fun recorded => ⟨recorded, coherent.recorded key recorded⟩⟩
  | processHeartbeat =>
      simp only [motorStep, entryRuns, List.foldl_nil]
      rw [mem_recorded_ids]
      exact (process_heartbeat_recorded tracked.stores kept.coherent key).symm
  | applyMotorConfig input =>
      obtain ⟨_, ghost, _⟩ := config_run_recorded world tracked.stores kept.coherent input
      simp only [motorStep, entryRuns] at coherent ⊢
      rw [ghost, mem_recorded_ids]
      exact ⟨And.left, fun recorded => ⟨recorded, coherent.recorded key recorded⟩⟩

theorem first_configuration_full_step (world : MotorWorld) (tracked : Tracked) (op : MotorOp) (kept : TrackedInvariant tracked) :
    FirstConfigurationFull world tracked op ↔ ConfigCounted tracked op := by
  cases op with
  | applyMotorValues input => exact iff_of_true ⟨(fun _ _ other => nomatch other), trivial⟩ trivial
  | processHeartbeat => exact iff_of_true ⟨(fun _ _ other => nomatch other), trivial⟩ trivial
  | applyMotorConfig input =>
      obtain ⟨branches, _, ids⟩ := config_run_recorded world tracked.stores kept.coherent input
      constructor
      · intro first
        have full := first.full
        rw [kept.recorded] at full
        exact branches.mp full
      · intro counted
        refine ⟨?_, ?_⟩
        · intro other message same
          cases same
          exact ids message
        · rw [kept.recorded]
          exact branches.mpr counted

theorem start_tracked_invariant : TrackedInvariant ⟨.empty, ∅⟩ :=
  ⟨MotorStores.empty_coherent, by decide⟩

theorem first_configuration_full_iff (world : MotorWorld) (ops : List MotorOp) :
    Runs.EachStep (trackedStep world) (FirstConfigurationFull world) ⟨.empty, ∅⟩ ops ↔
      Runs.EachStep (trackedStep world) ConfigCounted ⟨.empty, ∅⟩ ops :=
  Runs.each_step_iff_of_invariant (trackedStep world) TrackedInvariant _ _ (first_configuration_full_step world)
    (fun tracked op kept _ => tracked_step_invariant world tracked op kept) ops _ start_tracked_invariant

instance decidableFullUntilRecorded (recorded : Finset Nat) :
    (entries : List ConfigEntryRun) → Decidable (FullUntilRecorded recorded entries)
  | [] => .isTrue trivial
  | entry :: rest =>
      have := decidableFullUntilRecorded (record recorded entry) rest
      inferInstanceAs (Decidable ((_ = true → _ ∈ recorded) ∧ FullUntilRecorded (record recorded entry) rest))

def plainMotor (id : Nat) (nonzero : id ≠ 0) : MotorConfigurationMotor where
  message := .mk motorFullName [] [.singular 1 (.scalar (.int id))]
  typed := rfl
  wellFormed := by
    simp [Message.wellFormed, fieldsWellFormed, Field.listed, Field.wellFormed, Value.wellFormed, Scalar.isDefault,
      Align.Ascending, nonzero]
  apart := by simp [Message.inner, fieldsInner, Field.inner, Value.inner]

def firstMotor : MotorConfigurationMotor := plainMotor 1 Nat.one_ne_zero

def secondMotor : MotorConfigurationMotor := plainMotor 2 (Nat.succ_ne_zero 1)

def configOp (message : List MotorConfigurationMotor) : MotorOp :=
  .applyMotorConfig ⟨some message, true, fun _ => none, fun _ _ _ _ => .OK⟩

def driveOp (ids : List Int) : MotorOp :=
  .applyMotorValues ⟨some (ids.map fun id => ⟨id, .talonFX, .percentOutput, 0, 0⟩), true, false⟩

-- Motor 1 is recorded, so the later message about motor 2 alone has as many entries as
-- there are recorded motors.
theorem second_motor_gets_no_full_update :
    ¬ ∀ (world : MotorWorld) (ops : List MotorOp),
      Runs.EachStep (trackedStep world) (FirstConfigurationFull world) ⟨.empty, ∅⟩ ops := by
  intro always
  have first := always ⟨⟨1, 2, 3, by decide, 1, 2, 3, 4⟩, fun _ => 0⟩
    [configOp [firstMotor, secondMotor], driveOp [1, 2], configOp [firstMotor], configOp [secondMotor]]
  have full := first.2.2.2.1.full
  revert full
  decide +kernel

end RioPassthru
