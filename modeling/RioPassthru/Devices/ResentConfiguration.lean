import RioPassthru.LED.CANdleLifetime
import RioPassthru.Lib.Records
import RioPassthru.Motor.DifferentialUpdate
import RioPassthru.Motor.FeedbackSensor
import RioPassthru.Motor.FirstConfiguration

set_option autoImplicit false

namespace RioPassthru

open Protobuf

namespace ApplyLEDControlTask

variable (proto : LEDProto)

def QuietChange (prev m : LEDControlData) : Prop :=
  ∀ number, mDiffReporter.registered ⟨ledControlFullName, number⟩ = true →
    Seen (prev.message.field number) (m.message.field number) → fieldWrites proto prev m number = []

theorem differential_writes_nil_iff (prev m : LEDControlData) :
    differentialWrites proto prev m = [] ↔ QuietChange proto prev m := by
  rw [differentialWrites, List.flatMap_eq_nil_iff, QuietChange,
    ← called_writes_nil_iff mDiffReporter prev m (fieldWrites proto prev m)]
  refine forall₂_congr fun call _ => ?_
  rw [callWrites]
  by_cases typed : call.message.fullName = ledControlFullName <;> simp [typed]

theorem entry_writes_nil_iff (size : Nat) (candles : CANdleManager) (m : LEDControlData) :
    entryWrites proto size candles m = [] ↔
      size = candles.mPrevCANdleMsgs.size ∧
        QuietChange proto (candles.mPrevCANdleMsgs.getD (entryId proto m) defaultLEDControlData) m := by
  rw [entryWrites, ← differential_writes_nil_iff]
  by_cases same : size = candles.mPrevCANdleMsgs.size
  · simp only [same, true_and]
    rfl
  · simp [same, configWrites]

def validEntries (message : List LEDControlData) : List LEDControlData := message.filter fun m => entryId proto m < 64

theorem apply_entries_writes (size : Nat) (message : List LEDControlData) (candles : CANdleManager) (below : candles.Below) :
    let result := applyEntries proto size candles message
    result.1.Below ∧
      result.1.mPrevCANdleMsgs = Records.record (entryId proto) candles.mPrevCANdleMsgs (validEntries proto message) ∧
      ((∀ entry ∈ result.2, entry.writes = []) ↔
        ∀ turn ∈ Records.met (entryId proto) candles.mPrevCANdleMsgs (validEntries proto message),
          size = turn.1.size ∧ QuietChange proto (turn.1.getD (entryId proto turn.2) defaultLEDControlData) turn.2) := by
  induction message generalizing candles with
  | nil => exact ⟨below, rfl, by simp [applyEntries, validEntries, Records.met]⟩
  | cons m rest ih =>
      have spec := apply_entry_spec proto candles m size
      have recorded := register_prev candles (entryId proto m) (m.canNetwork proto)
      rw [applyEntries]
      by_cases small : entryId proto m < 64
      · have held := (registered_after candles below _ (m.canNetwork proto)).mpr small
        obtain ⟨later, records, writes⟩ := ih
          ((candles.registerCANdle (entryId proto m) (m.canNetwork proto)).setPrevCANdleConfigMsg (entryId proto m) m)
          (register_below candles below _ _)
        simp only [if_pos held] at spec
        have next : ((candles.registerCANdle (entryId proto m) (m.canNetwork proto)).setPrevCANdleConfigMsg
            (entryId proto m) m).mPrevCANdleMsgs = candles.mPrevCANdleMsgs.insert (entryId proto m) m :=
          congrArg (fun msgs => msgs.insert (entryId proto m) m) recorded
        rw [next] at records writes
        have listed : validEntries proto (m :: rest) = m :: validEntries proto rest :=
          List.filter_cons_of_pos (decide_eq_true small)
        simp only [spec, List.cons_append, List.nil_append, listed, List.forall_mem_cons, Records.met]
        refine ⟨later, records, ?_⟩
        rw [entry_writes_nil_iff]
        exact and_congr Iff.rfl writes
      · have absent : entryId proto m ∉
            (candles.registerCANdle (entryId proto m) (m.canNetwork proto)).mRegisteredCANdleList :=
          fun held => small ((registered_after candles below _ _).mp held)
        have unchanged : candles.registerCANdle (entryId proto m) (m.canNetwork proto) = candles := if_neg small
        have listed : validEntries proto (m :: rest) = validEntries proto rest :=
          List.filter_cons_of_neg (by simpa using small)
        simp only [if_neg absent] at spec
        rw [unchanged] at spec
        simp only [spec, List.nil_append, listed]
        exact ih candles below

end ApplyLEDControlTask

namespace ApplyMotorConfigTask

variable (proto : MotorProto) (getEncoder : Int → Option Int)

def QuietChange (motors : MotorManager) (prev m : MotorConfigurationMotor) : Prop :=
  ∀ mType : MotorType, motors.mRegisteredMotorTypeList[uint16 m.id]? = some mType →
    ∀ number, mDiffReporter.registered ⟨motorFullName, number⟩ = true →
      Seen (prev.message.field number) (m.message.field number) → updateFunctionWrites proto mType m getEncoder number = []

theorem differential_writes_nil_iff (motors : MotorManager) (kept : motors.Coherent) (prev m : MotorConfigurationMotor)
    (registered : uint16 m.id ∈ motors.mRegisteredMotorList) :
    (updatesOf proto getEncoder motors (mDiffReporter.compareWith prev.message m.message)).2.writes = [] ↔
      QuietChange proto getEncoder motors prev m := by
  obtain ⟨mCtrl, mType, handed, typed⟩ := MotorManager.on_motor_of_mem motors kept _ registered
  have quiet : QuietChange proto getEncoder motors prev m ↔
      ∀ number, mDiffReporter.registered ⟨motorFullName, number⟩ = true →
        Seen (prev.message.field number) (m.message.field number) → updateFunctionWrites proto mType m getEncoder number = [] := by
    rw [QuietChange, typed]
    simp
  rw [updates_writes proto getEncoder motors kept, List.flatMap_eq_nil_iff, quiet,
    ← called_writes_nil_iff mDiffReporter prev m (updateFunctionWrites proto mType m getEncoder)]
  refine forall₂_congr fun call called => ?_
  rw [updateOf, getTypedMessage, typed_of_called mDiffReporter prev m call called]
  by_cases carries : call.message.fullName = motorFullName
  · simp [carries, handed]
  · simp [carries]

theorem entry_writes_nil_iff (size : Nat) (stores : MotorStores) (kept : stores.Coherent) (m : MotorConfigurationMotor)
    (registered : uint16 m.id ∈ stores.motors.mRegisteredMotorList) :
    entryWrites proto getEncoder size stores m = [] ↔
      size = stores.configs.mPrevMotorMsgs.size ∧
        QuietChange proto getEncoder stores.motors (stores.configs.mPrevMotorMsgs.getD (uint16 m.id) defaultMotor) m := by
  rw [entryWrites, prev_motor_msg_eq,
    ← differential_writes_nil_iff proto getEncoder stores.motors kept.motors _ m registered]
  by_cases same : size = stores.configs.mPrevMotorMsgs.size
  · simp only [same, if_true, true_and]
  · obtain ⟨mCtrl, mType, handed, _⟩ := MotorManager.on_motor_of_mem stores.motors kept.motors _ registered
    simp [same, fullUpdateOf, handed, fullUpdateWrites, commonWrites]

def entriesOfRegistered (registered : DeviceMap BaseTalon) (message : List MotorConfigurationMotor) :
    List MotorConfigurationMotor := message.filter fun m => uint16 m.id ∈ registered

theorem apply_entries_writes (outcomes : RunOutcomes) (size position : Nat) (message : List MotorConfigurationMotor)
    (stores : MotorStores) (kept : stores.Coherent) :
    let result := applyEntries proto getEncoder outcomes size position stores message
    let entries := entriesOfRegistered stores.motors.mRegisteredMotorList message
    result.1.motors = stores.motors ∧
      result.1.configs.mPrevMotorMsgs = Records.record (fun m => uint16 m.id) stores.configs.mPrevMotorMsgs entries ∧
      ((∀ entry ∈ result.2, entry.writes = []) ↔
        ∀ turn ∈ Records.met (fun m => uint16 m.id) stores.configs.mPrevMotorMsgs entries,
          size = turn.1.size ∧
            QuietChange proto getEncoder stores.motors (turn.1.getD (uint16 turn.2.id) defaultMotor) turn.2) := by
  induction message generalizing position stores with
  | nil => exact ⟨rfl, rfl, by simp [applyEntries, entriesOfRegistered, Records.met]⟩
  | cons m rest ih =>
      have spec := apply_entry_spec proto getEncoder (outcomes position) size stores kept m
      have coherent := (apply_entry_coherent proto getEncoder (outcomes position) size stores kept m).1
      rw [applyEntries]
      by_cases registered : uint16 m.id ∈ stores.motors.mRegisteredMotorList
      · rw [if_pos registered] at spec
        rw [spec] at coherent
        obtain ⟨same, records, writes⟩ := ih (position + 1) _ coherent
        have listed : entriesOfRegistered stores.motors.mRegisteredMotorList (m :: rest) =
            m :: entriesOfRegistered stores.motors.mRegisteredMotorList rest :=
          List.filter_cons_of_pos (decide_eq_true registered)
        simp only [spec, List.cons_append, List.nil_append, listed, List.forall_mem_cons, Records.met]
        refine ⟨same, records, and_congr ?_ writes⟩
        rw [← entry_writes_nil_iff proto getEncoder size stores kept m registered, Phoenix.runWrites, List.mapIdx_eq_nil_iff]
      · rw [if_neg registered] at spec
        have listed : entriesOfRegistered stores.motors.mRegisteredMotorList (m :: rest) =
            entriesOfRegistered stores.motors.mRegisteredMotorList rest :=
          List.filter_cons_of_neg (by simpa using registered)
        simp only [spec, List.nil_append, listed]
        exact ih (position + 1) stores kept

end ApplyMotorConfigTask

section Motors

variable (world : MotorWorld)

def received (message : List MotorConfigurationMotor) (input : ConfigInput) : MotorOp :=
  .applyMotorConfig { input with message := some message, locked := true }

-- No other configuration message, and no motor registered or expired.
structure Undisturbed (stores : MotorStores) (op : MotorOp) : Prop where
  silent : ∀ input, op = .applyMotorConfig input → input.message = none ∨ input.locked = false
  registered : ∀ id : Nat, id ∈ (motorStep world stores op).motors.mRegisteredMotorList ↔ id ∈ stores.motors.mRegisteredMotorList

theorem undisturbed_prev (stores : MotorStores) (kept : stores.Coherent) (op : MotorOp) (calm : Undisturbed world stores op) :
    (motorStep world stores op).configs.mPrevMotorMsgs = stores.configs.mPrevMotorMsgs := by
  cases op with
  | applyMotorValues input => exact congrArg MotorConfigManager.mPrevMotorMsgs (apply_values_configs world.toId stores input)
  | applyMotorConfig input =>
      have skipped : ApplyMotorConfigTask.run world.proto stores input = (stores, []) := by
        rw [ApplyMotorConfigTask.run]
        obtain none | unlocked := calm.silent input rfl
        · rw [none]
        · cases input.message <;> simp [unlocked]
      rw [motorStep, skipped]
  | processHeartbeat =>
      apply Std.ExtTreeMap.ext_getElem?
      intro key
      have same := calm.registered key
      rw [motorStep] at same ⊢
      rw [process_heartbeat_prev stores kept key]
      split
      · rfl
      · rename_i absent
        exact (Std.ExtTreeMap.getElem?_eq_none fun recorded => absent (same.mpr (kept.recorded key recorded))).symm

theorem undisturbed_run (ops : List MotorOp) (stores : MotorStores) (kept : stores.Coherent)
    (calm : Runs.EachStep (motorStep world) (Undisturbed world) stores ops) :
    (Runs.runSteps (motorStep world) stores ops).Coherent ∧
      (Runs.runSteps (motorStep world) stores ops).configs.mPrevMotorMsgs = stores.configs.mPrevMotorMsgs ∧
      ∀ id : Nat, id ∈ (Runs.runSteps (motorStep world) stores ops).motors.mRegisteredMotorList ↔
        id ∈ stores.motors.mRegisteredMotorList := by
  induction ops generalizing stores with
  | nil => exact ⟨kept, rfl, fun _ => Iff.rfl⟩
  | cons op rest ih =>
      obtain ⟨here, later⟩ := calm
      obtain ⟨coherent, prev, listed⟩ := ih _ (motor_step_coherent world stores kept op) later
      exact ⟨coherent, prev.trans (undisturbed_prev world stores kept op here), fun id => (listed id).trans (here.registered id)⟩

theorem received_again_quiet_iff (stores : MotorStores) (kept : stores.Coherent) (between : List MotorOp)
    (message : List MotorConfigurationMotor) (first second : ConfigInput) :
    let configured := motorStep world stores (received message first)
    let again := Runs.runSteps (motorStep world) configured between
    Runs.EachStep (motorStep world) (Undisturbed world) configured between →
      ((∀ entry ∈ entryRuns world again (received message second), entry.writes = []) ↔
        Records.ResentQuietly (fun m => uint16 m.id) message.length (recordedIds stores)
          (ApplyMotorConfigTask.entriesOfRegistered again.motors.mRegisteredMotorList message)
          (ApplyMotorConfigTask.QuietChange world.proto second.getEncoder again.motors)) := by
  intro configured again calm
  have configs := MotorStores.set_motors_config_coherent stores kept message
  obtain ⟨same, records, _⟩ := ApplyMotorConfigTask.apply_entries_writes world.proto first.getEncoder first.outcomes
    message.length 0 message _ configs
  have coherent := motor_step_coherent world stores kept (received message first)
  obtain ⟨later, prev, listed⟩ := undisturbed_run world between configured coherent calm
  obtain ⟨_, _, writes⟩ := ApplyMotorConfigTask.apply_entries_writes world.proto second.getEncoder second.outcomes
    message.length 0 message _ (MotorStores.set_motors_config_coherent again later message)
  have entries : ApplyMotorConfigTask.entriesOfRegistered stores.motors.mRegisteredMotorList message =
      ApplyMotorConfigTask.entriesOfRegistered again.motors.mRegisteredMotorList message := by
    refine List.filter_congr fun m _ => decide_eq_decide.mpr ?_
    rw [listed]
    exact same ▸ Iff.rfl
  have standing : again.configs.mPrevMotorMsgs = Records.record (fun m => uint16 m.id) stores.configs.mPrevMotorMsgs
      (ApplyMotorConfigTask.entriesOfRegistered again.motors.mRegisteredMotorList message) := by
    rw [← entries]
    exact prev.trans records
  refine writes.trans ?_
  rw [recordedIds, ← Records.met_again_iff (fun m => uint16 m.id) _ _ _ _ defaultMotor, ← standing]
  rfl

end Motors

section LEDs

variable (proto : LEDProto)

def LEDOp.TakesNoMessage : LEDOp → Prop
  | .applyLEDControl input => input.message = none ∨ input.locked = false
  | .processHeartbeat => True

theorem led_undisturbed_prev (candles : CANdleManager) (op : LEDOp) (calm : op.TakesNoMessage) :
    (ledStep proto candles op).mPrevCANdleMsgs = candles.mPrevCANdleMsgs := by
  cases op with
  | processHeartbeat =>
      refine Expiry.loop_invariant _ _ (fun later => later.mPrevCANdleMsgs = candles.mPrevCANdleMsgs) ?_ candles rfl
      intro later id same
      rw [CANdleManager.tick, apply_ite CANdleManager.mPrevCANdleMsgs]
      exact (ite_self _).trans same
  | applyLEDControl input =>
      have skipped : ApplyLEDControlTask.run proto candles input = (candles, []) := by
        rw [ApplyLEDControlTask.run]
        obtain none | unlocked := calm
        · rw [none]
        · cases input.message <;> simp [unlocked]
      rw [ledStep, skipped]

theorem led_undisturbed_run (ops : List LEDOp) (candles : CANdleManager) (below : candles.Below)
    (calm : ∀ op ∈ ops, op.TakesNoMessage) :
    (Runs.runSteps (ledStep proto) candles ops).Below ∧
      (Runs.runSteps (ledStep proto) candles ops).mPrevCANdleMsgs = candles.mPrevCANdleMsgs := by
  induction ops generalizing candles with
  | nil => exact ⟨below, rfl⟩
  | cons op rest ih =>
      obtain ⟨here, later⟩ := List.forall_mem_cons.mp calm
      obtain ⟨next, prev⟩ := ih _ (led_step_below proto candles below op) later
      exact ⟨next, prev.trans (led_undisturbed_prev proto candles op here)⟩

theorem led_again_quiet_iff (candles : CANdleManager) (below : candles.Below) (between : List LEDOp)
    (calm : ∀ op ∈ between, op.TakesNoMessage) (message : List LEDControlData) :
    let configured := ledStep proto candles (.applyLEDControl ⟨some message, true⟩)
    (∀ entry ∈ ledEntryRuns proto (Runs.runSteps (ledStep proto) configured between) (.applyLEDControl ⟨some message, true⟩),
        entry.writes = []) ↔
      Records.ResentQuietly (ApplyLEDControlTask.entryId proto) message.length (keySet candles.mPrevCANdleMsgs)
        (ApplyLEDControlTask.validEntries proto message) (ApplyLEDControlTask.QuietChange proto) := by
  intro configured
  obtain ⟨next, records, _⟩ := ApplyLEDControlTask.apply_entries_writes proto message.length message
    (candles.setCANdlesConfigMsg proto message) below
  obtain ⟨later, prev⟩ := led_undisturbed_run proto between configured next calm
  obtain ⟨_, _, writes⟩ := ApplyLEDControlTask.apply_entries_writes proto message.length message
    ((Runs.runSteps (ledStep proto) configured between).setCANdlesConfigMsg proto message) later
  have standing : (Runs.runSteps (ledStep proto) configured between).mPrevCANdleMsgs =
      Records.record (ApplyLEDControlTask.entryId proto) candles.mPrevCANdleMsgs
        (ApplyLEDControlTask.validEntries proto message) := prev.trans records
  refine writes.trans ?_
  rw [keySet, ← Records.met_again_iff (ApplyLEDControlTask.entryId proto) _ _ _ _ defaultLEDControlData, ← standing]
  rfl

end LEDs

theorem resent_configuration_quiet_iff (world : MotorWorld) (proto : LEDProto) :
    (∀ (ops between : List MotorOp) (message : List MotorConfigurationMotor) (first second : ConfigInput),
      let before := Runs.runSteps (motorStep world) .empty ops
      let configured := motorStep world before (received message first)
      let again := Runs.runSteps (motorStep world) configured between
      Runs.EachStep (motorStep world) (Undisturbed world) configured between →
        ((∀ entry ∈ entryRuns world again (received message second), entry.writes = []) ↔
          Records.ResentQuietly (fun m => uint16 m.id) message.length (recordedIds before)
            (ApplyMotorConfigTask.entriesOfRegistered again.motors.mRegisteredMotorList message)
            (ApplyMotorConfigTask.QuietChange world.proto second.getEncoder again.motors))) ∧
      ∀ (ops between : List LEDOp) (message : List LEDControlData),
        let before := Runs.runSteps (ledStep proto) .empty ops
        let configured := ledStep proto before (.applyLEDControl ⟨some message, true⟩)
        let again := Runs.runSteps (ledStep proto) configured between
        (∀ op ∈ between, op.TakesNoMessage) →
          ((∀ entry ∈ ledEntryRuns proto again (.applyLEDControl ⟨some message, true⟩), entry.writes = []) ↔
            Records.ResentQuietly (ApplyLEDControlTask.entryId proto) message.length (keySet before.mPrevCANdleMsgs)
              (ApplyLEDControlTask.validEntries proto message) (ApplyLEDControlTask.QuietChange proto)) := by
  refine ⟨?_, ?_⟩
  · intro ops between message first second
    have kept := Runs.run_steps_invariant (motorStep world) MotorStores.Coherent
      (fun stores op coherent => motor_step_coherent world stores coherent op) ops .empty MotorStores.empty_coherent
    exact received_again_quiet_iff world _ kept between message first second
  · intro ops between message
    have below := Runs.run_steps_invariant (ledStep proto) CANdleManager.Below
      (fun candles op below => led_step_below proto candles below op) ops .empty empty_below
    exact fun calm => led_again_quiet_iff proto _ below between calm message

section Examples

def plainWorld : MotorWorld := ⟨sampleProto, fun _ => 0⟩

def answered : ConfigInput := ⟨none, true, fun _ => none, fun _ _ _ _ => .OK⟩

def otherCANdle : LEDControlData :=
  ⟨.mk ledControlFullName [] [.singular 1 (.scalar (.int 8))], rfl, by decide, by decide⟩

def lostMessage : MotorOp := .applyMotorConfig answered

theorem resent_configuration_quiet_of_own :
    (∀ entry ∈ entryRuns plainWorld
        (Runs.runSteps (motorStep plainWorld)
          (motorStep plainWorld (Runs.runSteps (motorStep plainWorld) .empty [configOp [firstMotor], driveOp [1]])
            (received [firstMotor] answered)) [lostMessage])
        (received [firstMotor] answered), entry.writes = []) ∧
      ∀ entry ∈ ledEntryRuns plainLEDProto
        (Runs.runSteps (ledStep plainLEDProto) (ledStep plainLEDProto (Runs.runSteps (ledStep plainLEDProto) .empty [])
          (.applyLEDControl ⟨some [plainCANdle], true⟩)) [.processHeartbeat])
        (.applyLEDControl ⟨some [plainCANdle], true⟩), entry.writes = [] := by
  refine ⟨?_, ?_⟩
  · refine ((resent_configuration_quiet_iff plainWorld plainLEDProto).1 _ [lostMessage] _ answered answered ?_).mpr ?_
    · exact ⟨⟨fun input same => Or.inl (by cases same; rfl), fun _ => Iff.rfl⟩, trivial⟩
    · refine (Records.resent_quietly_distinct_iff _ _ _ _ ?_ _).mpr ?_
      · decide +kernel
      · intro m member
        obtain rfl := List.mem_singleton.mp (List.mem_of_mem_filter member)
        refine ⟨by decide +kernel, ?_⟩
        intro _ _ number _ seen
        exact absurd seen (not_seen_self _ (by decide) number)
  · refine ((resent_configuration_quiet_iff plainWorld plainLEDProto).2 _ [.processHeartbeat] _ ?_).mpr ?_
    · exact List.forall_mem_singleton.mpr trivial
    · refine (Records.resent_quietly_distinct_iff _ _ _ _ ?_ _).mpr ?_
      · decide +kernel
      · intro m member
        obtain rfl := List.mem_singleton.mp (List.mem_of_mem_filter member)
        refine ⟨by decide +kernel, ?_⟩
        intro number _ seen
        exact absurd seen (not_seen_self _ (by decide) number)

theorem subset_is_reconfigured :
    (¬ ∀ (world : MotorWorld) (ops : List MotorOp) (message : List MotorConfigurationMotor),
        (message.map MotorConfigurationMotor.id).Nodup →
        ∀ entry ∈ entryRuns world (motorStep world (Runs.runSteps (motorStep world) .empty ops) (configOp message))
          (configOp message), entry.writes = []) ∧
      ¬ ∀ (proto : LEDProto) (ops : List LEDOp) (message : List LEDControlData),
        (message.map (LEDControlData.id proto)).Nodup →
        ∀ entry ∈ ledEntryRuns proto
          (ledStep proto (Runs.runSteps (ledStep proto) .empty ops) (.applyLEDControl ⟨some message, true⟩))
          (.applyLEDControl ⟨some message, true⟩), entry.writes = [] := by
  refine ⟨?_, ?_⟩
  · intro always
    have quiet := always plainWorld
      [configOp [firstMotor, secondMotor], driveOp [1, 2], configOp [firstMotor, secondMotor]]
      [firstMotor] (List.nodup_singleton _)
    revert quiet
    decide +kernel
  · intro always
    have quiet := always plainLEDProto [.applyLEDControl ⟨some [plainCANdle, otherCANdle], true⟩] [plainCANdle] (List.nodup_singleton _)
    revert quiet
    decide +kernel

end Examples

end RioPassthru
