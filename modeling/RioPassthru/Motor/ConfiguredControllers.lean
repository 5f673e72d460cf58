import RioPassthru.Devices.RecordedConfiguration
import RioPassthru.Motor.UpdateEffects

set_option autoImplicit false

namespace RioPassthru

open Protobuf

namespace Phoenix

section Taken

variable {Call : Type}

def taken (calls : List Call) (codes : List ErrorCode) : List Call :=
  ((calls.zip codes).filter fun answer => answer.2 = .OK).map Prod.fst

def takenCalls (calls : List Call) (write : DeviceWrite) : List Call := write.attempts.flatMap (taken calls)

def takenWrites (writes : List (List Call)) (issued : List DeviceWrite) : List Call :=
  (writes.zip issued).flatMap fun turn => takenCalls turn.1 turn.2

theorem taken_subset (calls : List Call) (codes : List ErrorCode) : taken calls codes ⊆ calls := by
  intro call member
  obtain ⟨answer, kept, same⟩ := List.mem_map.mp member
  rw [← same]
  exact (List.of_mem_zip (List.mem_of_mem_filter kept)).1

theorem taken_all (calls : List Call) (codes : List ErrorCode) (answered : codes.length = calls.length)
    (ok : ∀ code ∈ codes, code = .OK) : taken calls codes = calls := by
  rw [taken, List.filter_eq_self.mpr, List.map_fst_zip (Nat.le_of_eq answered.symm)]
  intro answer member
  exact decide_eq_true (ok answer.2 (List.of_mem_zip member).2)

-- The last attempt takes every call of the closure; the ones before it have taken some of them.
theorem taken_calls_of_answered (calls : List Call) (outcomes : Nat → Nat → ErrorCode)
    (answered : Answered calls.length outcomes) :
    ∃ earlier, takenCalls calls (runPhoenixFunctionWithRetry calls.length outcomes) = earlier ++ calls ∧ earlier ⊆ calls := by
  have ok := (last_attempt_ok_iff calls.length outcomes).mpr answered
  obtain ⟨last, _, attempts, _⟩ :=
    retry_loop_stops (fun attempt => (List.range calls.length).map (outcomes attempt)) 0 kPhoenixRetryCount
  rw [List.range'_1_concat, List.map_append, List.map_singleton] at attempts
  rw [DeviceWrite.lastAttemptOk, runPhoenixFunctionWithRetry] at ok
  simp only [attempts, List.getLast?_concat, List.all_eq_true, decide_eq_true_eq] at ok
  rw [takenCalls, runPhoenixFunctionWithRetry]
  simp only [attempts, List.flatMap_append, List.flatMap_singleton]
  refine ⟨_, congrArg _ (taken_all calls _ (by simp) ok), ?_⟩
  intro call member
  obtain ⟨codes, _, kept⟩ := List.mem_flatMap.mp member
  exact taken_subset calls codes kept

theorem zip_run_writes (outcomes : EntryOutcomes) (writes : List (List Call)) (turn : List Call × DeviceWrite)
    (member : turn ∈ writes.zip (runWrites outcomes writes)) :
    ∃ index, writes[index]? = some turn.1 ∧ turn.2 = runPhoenixFunctionWithRetry turn.1.length (outcomes index) := by
  obtain ⟨index, within, found⟩ := List.mem_iff_getElem.mp member
  rw [List.getElem_zip] at found
  refine ⟨index, ?_, ?_⟩
  · rw [← found]
    exact List.getElem?_eq_getElem _
  · rw [← found]
    simp [runWrites]

end Taken

-- Registers keep what the writes would have left with one attempt each.
theorem taken_writes_of_answered (outcomes : EntryOutcomes) (writes : List (List MotorCall))
    (answered : ∀ index calls, writes[index]? = some calls → Answered calls.length (outcomes index))
    (state : MotorSetter → Option MotorCall) :
    Registers.run MotorCall.setter (takenWrites writes (runWrites outcomes writes)) state =
      Registers.run MotorCall.setter writes.flatten state := by
  have whole : writes.flatten = (writes.zip (runWrites outcomes writes)).flatMap Prod.fst := by
    rw [List.flatMap_def, List.map_fst_zip (by simp [runWrites])]
  apply Registers.run_congr
  intro setter
  rw [whole, takenWrites]
  apply Registers.last_to_flat_map_congr
  intro turn member
  obtain ⟨index, placed, issued⟩ := zip_run_writes outcomes writes turn member
  obtain ⟨earlier, taken, again⟩ := taken_calls_of_answered turn.1 (outcomes index) (answered index turn.1 placed)
  rw [issued, taken]
  exact Registers.last_to_retried MotorCall.setter setter earlier turn.1 again

end Phoenix

namespace ApplyMotorConfigTask

section Differential

variable (proto : MotorProto) (mType : MotorType) (getEncoder : Int → Option Int) (motors : MotorManager)
  (prev m : MotorConfigurationMotor)

def calledFields : List Nat :=
  (mDiffReporter.compareWith prev.message m.message).flatMap fun call =>
    if call.message.fullName = motorFullName then [call.field.number] else []

theorem called_fields_exact
    (reported : ∀ number ∈ motorUpdateFields, ¬ Dropped (prev.message.field number) (m.message.field number)) :
    DiffersExactly prev m (calledFields prev m) := by
  intro number
  rw [calledFields, List.mem_flatMap]
  constructor
  · intro listed
    obtain ⟨call, called, own⟩ := listed
    by_cases typed : call.message.fullName = motorFullName
    · rw [if_pos typed, List.mem_singleton] at own
      obtain ⟨_, place, field, known, seen⟩ := compare_with_typed_call mDiffReporter prev m call called typed
      rw [own, field]
      exact ⟨(registered_iff place).mp known, differs_of_seen _ _ seen⟩
    · rw [if_neg typed] at own
      cases own
  · intro differs
    have seen := (seen_iff_not_dropped _ _).mpr (reported number differs.1) differs.2
    have called := (compare_with_called_iff mDiffReporter prev m number ((registered_iff number).mpr differs.1)).mpr seen
    refine ⟨_, called, ?_⟩
    rw [if_pos m.typed]
    exact List.mem_singleton_self number

theorem differential_writes_flatten (kept : motors.Coherent)
    (registered : motors.mRegisteredMotorTypeList[uint16 m.id]? = some mType) :
    (updatesOf proto getEncoder motors (mDiffReporter.compareWith prev.message m.message)).2.writes.flatten =
      updates proto mType getEncoder m (calledFields prev m) := by
  have held : uint16 m.id ∈ motors.mRegisteredMotorList :=
    (kept.types _).mp (Std.ExtTreeMap.mem_iff_isSome_getElem?.mpr (by rw [registered]; rfl))
  obtain ⟨mCtrl, mType, given, typed⟩ := MotorManager.on_motor_of_mem motors kept _ held
  obtain rfl := Option.some.inj (typed.symm.trans registered)
  rw [updates_writes proto getEncoder motors kept, ← List.flatMap_id, List.flatMap_assoc, updates, calledFields, List.flatMap_assoc]
  refine List.flatMap_congr fun call called => ?_
  rw [updateOf, getTypedMessage, typed_of_called mDiffReporter prev m call called]
  by_cases own : call.message.fullName = motorFullName
  · simp [own, given, updateWrites]
  · simp [own]

theorem agrees_where_functions_suffice (order : List Nat) (exact : DiffersExactly prev m order)
    (encoder : 0 < toInt m.feedbackSensorCanId →
      getEncoder (toInt m.feedbackSensorCanId) = some (toInt m.feedbackSensorCanId))
    (suffice : UpdateFunctionsSuffice proto prev m) :
    ∀ setter ∈ fullUpdateParameters proto mType, AgreesAt proto mType getEncoder prev m order setter := by
  obtain ⟨frames, master⟩ := suffice
  rw [full_update_parameters_iff]
  refine ⟨clear_agrees proto mType getEncoder prev m order exact, common_agrees proto mType getEncoder prev m order exact,
    (frames_agree_iff proto mType getEncoder prev m order exact).mpr frames, ?_, ?_, ?_⟩
  · intro entry listed
    rw [field_agrees_iff proto mType getEncoder prev m order exact entry listed]
    cases before : prev.isMaster proto <;> cases after : m.isMaster proto <;> simp only [before, after] at master ⊢
    · exact master.1 entry listed
    · exact master.1 entry listed
    · exact master.1 entry listed
  · rw [feedback_agrees_iff proto mType getEncoder prev m order exact encoder]
    cases before : prev.isMaster proto <;> cases after : m.isMaster proto <;> simp only [before, after] at master ⊢
    · exact master.2.1
    · exact master.2.1
    · exact master.2.1
  · rw [peak_agrees_iff proto mType getEncoder prev m order exact]
    cases before : prev.isMaster proto <;> cases after : m.isMaster proto <;> simp only [before, after] at master ⊢
    · exact master.2.2
    · exact master.2.2
    · exact master.2.2
    · exact master

theorem full_update_listed (call : MotorCall) (member : call ∈ fullUpdate proto mType m) :
    call.setter ∈ fullUpdateParameters proto mType := by
  have placed := List.mem_map_of_mem (f := MotorCall.setter) member
  rw [fullUpdate, full_update_setters] at placed
  have listed : ∀ limits master remote, fullSetters limits master remote ⊆ fullSetters limits true true := by
    intro limits master remote setter
    cases master <;> cases remote <;> simp only [fullSetters, masterSetters, List.mem_append, List.mem_cons, if_true,
      Bool.false_eq_true, if_false, List.not_mem_nil, List.cons_append, List.nil_append] <;> tauto
  exact listed _ _ _ placed

-- Only the function of the feedback sensor asks for an encoder.
theorem update_writes_encoder (other : Int → Option Int) (number : Nat) (apart : number ≠ 36) :
    updateWrites proto mType m getEncoder number = updateWrites proto mType m other number := by
  have found : ∀ encoders, (updateFunctions proto mType m encoders).lookup number =
      ((updateFunctions proto mType m other).take 35 ++ (updateFunctions proto mType m other).drop 36).lookup number := by
    intro encoders
    have rows : updateFunctions proto mType m encoders = (updateFunctions proto mType m other).take 35 ++
        (36, [feedbackUpdate m encoders]) :: (updateFunctions proto mType m other).drop 36 := rfl
    rw [rows, List.lookup_append, List.lookup_append, List.lookup_cons, beq_false_of_ne apart]
  rw [updateWrites, updateWrites, updateFunctionWrites, updateFunctionWrites, found getEncoder, found other]

theorem updates_encoder (other : Int → Option Int) (order : List Nat) (apart : 36 ∉ order) :
    updates proto mType getEncoder m order = updates proto mType other m order := by
  refine List.flatMap_congr fun number member => ?_
  exact update_writes_encoder proto mType getEncoder m other number fun same => apart (same ▸ member)

-- A controller that holds what a full update with prev leaves holds, after the differential one, what a
-- full update with m would leave.
theorem updates_leave_full (reported : ∀ number ∈ motorUpdateFields, ¬ Dropped (prev.message.field number) (m.message.field number))
    (encoder : FieldDiffers prev m 36 → 0 < toInt m.feedbackSensorCanId →
      getEncoder (toInt m.feedbackSensorCanId) = some (toInt m.feedbackSensorCanId))
    (suffice : UpdateFunctionsSuffice proto prev m) (state : MotorSetter → Option MotorCall)
    (held : ∀ call ∈ fullUpdate proto mType prev, state call.setter = some call) :
    ∀ call ∈ fullUpdate proto mType m, Registers.run MotorCall.setter
      (updates proto mType getEncoder m (calledFields prev m)) state call.setter = some call := by
  intro call member
  have exact := called_fields_exact prev m reported
  have settled : Registers.run MotorCall.setter (fullUpdate proto mType prev) state = state := by
    apply Registers.run_settled
    intro setter last left
    obtain ⟨listed, same⟩ := Registers.mem_of_last_to MotorCall.setter setter _ last left
    rw [← same]
    exact held last listed
  have agreeing : ∀ encoders : Int → Option Int,
      (0 < toInt m.feedbackSensorCanId → encoders (toInt m.feedbackSensorCanId) = some (toInt m.feedbackSensorCanId)) →
      Registers.run MotorCall.setter (updates proto mType encoders m (calledFields prev m)) state call.setter = some call := by
    intro encoders known
    have agrees := agrees_where_functions_suffice proto mType encoders prev m (calledFields prev m) exact known suffice
      call.setter (full_update_listed proto mType m call member) state
    rw [settled] at agrees
    rw [agrees, Registers.run_eq_last_to, fullUpdate, full_update_last proto mType m call member]
    rfl
  by_cases differs : FieldDiffers prev m 36
  · exact agreeing getEncoder (encoder differs)
  · rw [updates_encoder proto mType getEncoder m some _ fun listed => differs ((exact 36).mp listed).2]
    exact agreeing some fun _ => rfl

end Differential

end ApplyMotorConfigTask

structure MotorDevice where
  talonClass : TalonClass
  deviceNumber : Nat
  canNetwork : String
deriving DecidableEq, Repr

def BaseTalon.device (mCtrl : BaseTalon) : MotorDevice := ⟨mCtrl.talonClass, mCtrl.deviceNumber, mCtrl.canNetwork⟩

@[simp] theorem received_device (mCtrl : BaseTalon) (sent : Option TalonCommand) : (mCtrl.received sent).device = mCtrl.device := by
  cases sent <;> rfl

structure MotorBus where
  stores : MotorStores
  parameters : MotorDevice → MotorSetter → Option MotorCall

namespace ApplyMotorConfigTask

variable (proto : MotorProto) (getEncoder : Int → Option Int) (outcomes : RunOutcomes) (size : Nat)

def configureMotor (bus : MotorBus) (entry : MotorConfigurationMotor × Nat) : MotorBus where
  stores := entryStep proto getEncoder outcomes size bus.stores entry
  parameters :=
    match bus.stores.motors.getMotor (uint16 entry.1.id) with
    | none => bus.parameters
    | some mCtrl =>
        let writes := entryWrites proto getEncoder size bus.stores entry.1
        Function.update bus.parameters mCtrl.device (Registers.run MotorCall.setter
          (Phoenix.takenWrites writes (Phoenix.runWrites (outcomes entry.2) writes)) (bus.parameters mCtrl.device))

def configureMotors (bus : MotorBus) (input : ConfigInput) : MotorBus :=
  match input.message with
  | some motorsUpdate =>
      if input.locked then
        Runs.runSteps (configureMotor proto input.getEncoder input.outcomes motorsUpdate.length)
          { bus with stores := { bus.stores with configs := bus.stores.configs.setMotorsConfigMsg motorsUpdate } }
          motorsUpdate.zipIdx
      else bus
  | none => bus

end ApplyMotorConfigTask

def busStep (world : MotorWorld) (bus : MotorBus) : MotorOp → MotorBus
  | .applyMotorValues input => { bus with stores := ApplyMotorValuesTask.run world.toId bus.stores input }
  | .applyMotorConfig input => ApplyMotorConfigTask.configureMotors world.proto bus input
  | .processHeartbeat => { bus with stores := bus.stores.processHeartbeat }

namespace ApplyMotorConfigTask

variable (proto : MotorProto) (getEncoder : Int → Option Int) (outcomes : RunOutcomes) (size : Nat)

theorem apply_entries_steps (message : List MotorConfigurationMotor) (position : Nat) (stores : MotorStores) :
    (applyEntries proto getEncoder outcomes size position stores message).1 =
      Runs.runSteps (entryStep proto getEncoder outcomes size) stores (message.zipIdx position) := by
  induction message generalizing position stores with
  | nil => rfl
  | cons m rest ih =>
      rw [applyEntries, ih, List.zipIdx_cons]
      rfl

theorem configure_motors_stores (bus : MotorBus) (input : ConfigInput) :
    (configureMotors proto bus input).stores = (run proto bus.stores input).1 := by
  rw [configureMotors, run]
  cases input.message with
  | none => rfl
  | some message =>
      dsimp only
      split
      · rw [apply_entries_steps]
        exact Runs.run_steps_view _ MotorBus.stores _ (fun _ _ => rfl) _ _
      · rfl

end ApplyMotorConfigTask

theorem bus_step_stores (world : MotorWorld) (bus : MotorBus) (op : MotorOp) :
    (busStep world bus op).stores = motorStep world bus.stores op := by
  cases op with
  | applyMotorValues input => rfl
  | applyMotorConfig input => exact ApplyMotorConfigTask.configure_motors_stores world.proto bus input
  | processHeartbeat => rfl

def Configured (proto : MotorProto) (id : Nat) (bus : MotorBus) : Prop :=
  ∀ mCtrl mType m, bus.stores.motors.mRegisteredMotorList[id]? = some mCtrl →
    bus.stores.motors.mRegisteredMotorTypeList[id]? = some mType → bus.stores.configs.mPrevMotorMsgs[id]? = some m →
      ∀ call ∈ fullUpdate proto mType m, bus.parameters mCtrl.device call.setter = some call

namespace ApplyMotorConfigTask

variable (proto : MotorProto) (getEncoder : Int → Option Int) (outcomes : RunOutcomes) (size : Nat)

instance (prev m : Option Field) : Decidable (Dropped prev m) :=
  match prev, m with
  | some _, none => .isTrue trivial
  | some field1, some field2 => inferInstanceAs (Decidable (cutBack field1 field2 = true))
  | none, _ => .isFalse id

-- What the differential update cannot make up for.
structure UpdatesSuffice (prev m : MotorConfigurationMotor) : Prop where
  reported : ∀ number ∈ motorUpdateFields, ¬ Dropped (prev.message.field number) (m.message.field number)
  encoder : FieldDiffers prev m 36 → 0 < toInt m.feedbackSensorCanId →
    getEncoder (toInt m.feedbackSensorCanId) = some (toInt m.feedbackSensorCanId)
  functions : UpdateFunctionsSuffice proto prev m

structure EntrySound (stores : MotorStores) (entry : MotorConfigurationMotor × Nat) : Prop where
  answered : EntryAnswered proto getEncoder outcomes size stores entry
  differential : uint16 entry.1.id ∈ stores.motors.mRegisteredMotorList → size = stores.configs.mPrevMotorMsgs.size →
    ∃ prev, stores.configs.mPrevMotorMsgs[uint16 entry.1.id]? = some prev ∧ UpdatesSuffice proto getEncoder prev entry.1

def ConfigSound (id : Nat) (stores : MotorStores) : MotorOp → Prop
  | .applyMotorConfig input => input.locked = true → ∀ message, input.message = some message →
      Runs.EachStep (entryStep proto input.getEncoder input.outcomes message.length)
        (fun stores entry => uint16 entry.1.id = id → EntrySound proto input.getEncoder input.outcomes message.length stores entry)
        { stores with configs := stores.configs.setMotorsConfigMsg message } message.zipIdx
  | _ => True

end ApplyMotorConfigTask

structure BusInvariant (proto : MotorProto) (id : Nat) (bus : MotorBus) : Prop where
  coherent : bus.stores.Coherent
  numbered : bus.stores.motors.Numbered
  configured : Configured proto id bus

theorem type_of_class (first second : MotorType) (talonClass : TalonClass) (left : talonClassOf first = some talonClass)
    (right : talonClassOf second = some talonClass) : first = second := by
  cases first <;> cases left <;> cases second <;> cases right <;> rfl

theorem configured_of_devices (proto : MotorProto) (id : Nat) (bus : MotorBus) (known : BusInvariant proto id bus)
    (stores : MotorStores) (coherent : stores.Coherent)
    (records : ∀ m, stores.configs.mPrevMotorMsgs[id]? = some m → bus.stores.configs.mPrevMotorMsgs[id]? = some m)
    (devices : ∀ before mCtrl, bus.stores.motors.mRegisteredMotorList[id]? = some before →
      stores.motors.mRegisteredMotorList[id]? = some mCtrl → before.device = mCtrl.device) :
    Configured proto id { bus with stores := stores } := by
  intro mCtrl mType m listed typed recorded call member
  have recordedBefore := records m recorded
  have held := known.coherent.recorded id (Std.ExtTreeMap.mem_iff_isSome_getElem?.mpr (by rw [recordedBefore]; rfl))
  obtain ⟨before, beforeListed⟩ := get_of_mem _ _ held
  obtain ⟨beforeType, beforeTyped⟩ := get_of_mem _ _ ((known.coherent.motors.types id).mpr held)
  have same := devices before mCtrl beforeListed listed
  have types : beforeType = mType := by
    have class1 := known.coherent.motors.classes id before beforeType beforeListed beforeTyped
    have class2 := coherent.motors.classes id mCtrl mType listed typed
    exact type_of_class beforeType mType _ class1 (class2.trans (congrArg (some ∘ MotorDevice.talonClass) same.symm))
  rw [← types] at member
  have kept := known.configured before beforeType m beforeListed beforeTyped recordedBefore call member
  rwa [same] at kept

namespace ApplyMotorValuesTask

variable (toId : Double → Nat)

theorem apply_motor_device (stores : MotorStores) (m : MotorControlMotor) (id : Nat) (device : MotorDevice)
    (held : stores.motors.mRegisteredMotorList[id]?.map BaseTalon.device = some device) :
    (applyMotor toId stores m).motors.mRegisteredMotorList[id]?.map BaseTalon.device = some device := by
  by_cases taken : accepted toId stores m
  · obtain ⟨canInterface, applied⟩ := apply_motor_accepted toId stores m taken
    have present : ¬ (id = uint16 m.id ∧ uint16 m.id < 64 ∧ stores.motors.mRegisteredMotorList[uint16 m.id]? = none) := by
      rintro ⟨rfl, _, absent⟩
      rw [absent] at held
      cases held
    rw [applied, drive_motor_get, MotorManager.register_motor_get, if_neg present]
    split
    · simpa [Function.comp_def] using held
    · exact held
  · rwa [apply_motor_refused toId stores m taken]

theorem entries_device (entries : List MotorControlMotor) (stores : MotorStores) (id : Nat) (device : MotorDevice)
    (held : stores.motors.mRegisteredMotorList[id]?.map BaseTalon.device = some device) :
    (entries.foldl (applyMotor toId) stores).motors.mRegisteredMotorList[id]?.map BaseTalon.device = some device := by
  induction entries generalizing stores with
  | nil => exact held
  | cons m rest ih => exact ih _ (apply_motor_device toId stores m id device held)

theorem run_device (stores : MotorStores) (input : ValuesInput) (id : Nat) (device : MotorDevice)
    (held : stores.motors.mRegisteredMotorList[id]?.map BaseTalon.device = some device) :
    (run toId stores input).motors.mRegisteredMotorList[id]?.map BaseTalon.device = some device := by
  have applied : (applyMessage toId stores input).motors.mRegisteredMotorList[id]?.map BaseTalon.device = some device := by
    rw [applyMessage]
    split
    · split
      · exact entries_device toId _ stores id device held
      · exact held
    · exact held
  rw [run_motors]
  split
  · rw [stop_masters_get]
    simpa [Function.comp_def] using applied
  · exact applied

end ApplyMotorValuesTask

namespace ApplyMotorConfigTask

variable (proto : MotorProto) (getEncoder : Int → Option Int) (outcomes : RunOutcomes) (size : Nat)

theorem entry_step_spec (stores : MotorStores) (kept : stores.Coherent) (entry : MotorConfigurationMotor × Nat) :
    entryStep proto getEncoder outcomes size stores entry =
      if uint16 entry.1.id ∈ stores.motors.mRegisteredMotorList then
        { stores with configs := stores.configs.setPrevMotorConfigMsg (uint16 entry.1.id) entry.1 }
      else stores := by
  rw [entryStep, apply_entry_spec proto getEncoder (outcomes entry.2) size stores kept entry.1]
  exact apply_ite Prod.fst _ _ _

theorem configured_by_entry (bus : MotorBus) (id : Nat) (known : BusInvariant proto id bus) (entry : MotorConfigurationMotor × Nat)
    (own : uint16 entry.1.id = id) (mCtrl : BaseTalon) (mType : MotorType)
    (listed : bus.stores.motors.mRegisteredMotorList[id]? = some mCtrl)
    (typed : bus.stores.motors.mRegisteredMotorTypeList[id]? = some mType)
    (sound : EntrySound proto getEncoder outcomes size bus.stores entry) :
    ∀ call ∈ fullUpdate proto mType entry.1,
      Registers.run MotorCall.setter (entryWrites proto getEncoder size bus.stores entry.1).flatten
        (bus.parameters mCtrl.device) call.setter = some call := by
  subst own
  have registered := Std.ExtTreeMap.mem_iff_isSome_getElem?.mpr (by rw [listed]; rfl : (bus.stores.motors.mRegisteredMotorList[uint16 entry.1.id]?).isSome)
  intro call member
  rw [entryWrites]
  by_cases counted : size = bus.stores.configs.mPrevMotorMsgs.size
  · obtain ⟨prev, recorded, enough⟩ := sound.differential registered counted
    have looked : (bus.stores.configs.prevMotorMsg (uint16 entry.1.id)).2 = prev := by
      rw [MotorConfigManager.prevMotorMsg, recorded]
    rw [if_pos counted, looked, differential_writes_flatten proto mType getEncoder bus.stores.motors prev entry.1
      known.coherent.motors typed]
    exact updates_leave_full proto mType getEncoder prev entry.1 enough.reported enough.encoder enough.functions _
      (known.configured mCtrl mType prev listed typed recorded) call member
  · obtain ⟨given, type, handed, typed'⟩ := MotorManager.on_motor_of_mem _ known.coherent.motors _ registered
    obtain rfl := Option.some.inj (typed'.symm.trans typed)
    rw [if_neg counted, fullUpdateOf, handed, Registers.run_eq_last_to]
    rw [fullUpdate] at member
    rw [full_update_last proto type entry.1 call member]
    rfl

theorem configure_motor_invariant (bus : MotorBus) (id : Nat) (known : BusInvariant proto id bus)
    (entry : MotorConfigurationMotor × Nat)
    (sound : uint16 entry.1.id = id → EntrySound proto getEncoder outcomes size bus.stores entry) :
    BusInvariant proto id (configureMotor proto getEncoder outcomes size bus entry) := by
  have spec := entry_step_spec proto getEncoder outcomes size bus.stores known.coherent entry
  have motors : (configureMotor proto getEncoder outcomes size bus entry).stores.motors = bus.stores.motors := by
    rw [configureMotor, spec]
    split <;> rfl
  refine ⟨(apply_entry_coherent proto getEncoder (outcomes entry.2) size bus.stores known.coherent entry.1).1, ?_, ?_⟩
  · rw [motors]
    exact known.numbered
  · intro mCtrl mType m listed typed recorded call member
    rw [motors] at listed typed
    by_cases registered : uint16 entry.1.id ∈ bus.stores.motors.mRegisteredMotorList
    · obtain ⟨target, found⟩ := get_of_mem _ _ registered
      rw [if_pos registered] at spec
      have records : (configureMotor proto getEncoder outcomes size bus entry).stores.configs.mPrevMotorMsgs =
          bus.stores.configs.mPrevMotorMsgs.insert (uint16 entry.1.id) entry.1 := by
        rw [configureMotor, spec]
        rfl
      rw [records, Std.ExtTreeMap.getElem?_insert] at recorded
      simp only [Std.LawfulEqCmp.compare_eq_iff_eq] at recorded
      simp only [configureMotor, MotorManager.getMotor, found]
      by_cases own : uint16 entry.1.id = id
      · rw [if_pos own] at recorded
        obtain rfl := Option.some.inj recorded
        obtain rfl := Option.some.inj ((own ▸ found).symm.trans listed)
        rw [Function.update_self, Phoenix.taken_writes_of_answered _ _ ((sound own).answered registered)]
        exact configured_by_entry proto getEncoder outcomes size bus id known entry own target mType listed typed
          (sound own) call member
      · rw [if_neg own] at recorded
        have apart : mCtrl.device ≠ target.device := by
          intro same
          have number := congrArg MotorDevice.deviceNumber same
          rw [BaseTalon.device, BaseTalon.device, known.numbered id mCtrl listed, known.numbered _ target found] at number
          exact own number.symm
        rw [Function.update_of_ne apart]
        exact known.configured mCtrl mType m listed typed recorded call member
    · rw [if_neg registered] at spec
      have unchanged : (configureMotor proto getEncoder outcomes size bus entry) = bus := by
        rw [configureMotor, spec, MotorManager.getMotor, Std.ExtTreeMap.getElem?_eq_none registered]
      rw [unchanged] at recorded ⊢
      exact known.configured mCtrl mType m listed typed recorded call member

theorem configure_entries_invariant (id : Nat) (entries : List (MotorConfigurationMotor × Nat)) (bus : MotorBus)
    (known : BusInvariant proto id bus)
    (sound : Runs.EachStep (entryStep proto getEncoder outcomes size)
      (fun stores entry => uint16 entry.1.id = id → EntrySound proto getEncoder outcomes size stores entry) bus.stores entries) :
    BusInvariant proto id (Runs.runSteps (configureMotor proto getEncoder outcomes size) bus entries) := by
  induction entries generalizing bus with
  | nil => exact known
  | cons entry rest ih =>
      obtain ⟨now, later⟩ := sound
      exact ih _ (configure_motor_invariant proto getEncoder outcomes size bus id known entry now) later

theorem configure_motors_invariant (bus : MotorBus) (id : Nat) (known : BusInvariant proto id bus) (input : ConfigInput)
    (sound : ConfigSound proto id bus.stores (.applyMotorConfig input)) :
    BusInvariant proto id (configureMotors proto bus input) := by
  rw [configureMotors]
  cases received : input.message with
  | none => exact known
  | some message =>
      dsimp only
      split
      · rename_i locked
        refine configure_entries_invariant proto input.getEncoder input.outcomes message.length id message.zipIdx _ ?_
          (sound locked message received)
        exact ⟨MotorStores.set_motors_config_coherent bus.stores known.coherent message, known.numbered, known.configured⟩
      · exact known

end ApplyMotorConfigTask

theorem bus_step_invariant (world : MotorWorld) (id : Nat) (bus : MotorBus) (known : BusInvariant world.proto id bus)
    (op : MotorOp) (sound : ApplyMotorConfigTask.ConfigSound world.proto id bus.stores op) :
    BusInvariant world.proto id (busStep world bus op) := by
  have coherent := motor_step_coherent world bus.stores known.coherent op
  have numbered := motor_step_numbered world bus.stores known.coherent known.numbered op
  cases op with
  | applyMotorConfig input => exact ApplyMotorConfigTask.configure_motors_invariant world.proto bus id known input sound
  | applyMotorValues input =>
      refine ⟨coherent, numbered, configured_of_devices world.proto id bus known _ coherent ?_ ?_⟩
      · intro m recorded
        rw [← apply_values_configs world.toId bus.stores input]
        exact recorded
      · intro before mCtrl held listed
        have kept := ApplyMotorValuesTask.run_device world.toId bus.stores input id before.device (by rw [held]; rfl)
        exact (Option.some.inj (kept.symm.trans (congrArg (Option.map BaseTalon.device) listed)))
  | processHeartbeat =>
      refine ⟨coherent, numbered, configured_of_devices world.proto id bus known _ coherent ?_ ?_⟩
      · intro m recorded
        have kept := process_heartbeat_prev bus.stores known.coherent id
        split at kept
        · exact kept.symm.trans recorded
        · exact absurd (kept.symm.trans recorded) (Option.some_ne_none m).symm
      · intro before mCtrl held listed
        have same := MotorStores.process_heartbeat_found bus.stores id mCtrl listed
        rw [Option.some.inj (held.symm.trans same)]

theorem configuration_reaches_controller (world : MotorWorld) (id : Nat) (parameters : MotorDevice → MotorSetter → Option MotorCall)
    (ops : List MotorOp)
    (sound : Runs.EachStep (motorStep world) (ApplyMotorConfigTask.ConfigSound world.proto id) .empty ops) :
    Configured world.proto id (Runs.runSteps (busStep world) ⟨.empty, parameters⟩ ops) := by
  have run : ∀ (ops : List MotorOp) (bus : MotorBus), BusInvariant world.proto id bus →
      Runs.EachStep (motorStep world) (ApplyMotorConfigTask.ConfigSound world.proto id) bus.stores ops →
      BusInvariant world.proto id (Runs.runSteps (busStep world) bus ops) := by
    intro ops
    induction ops with
    | nil => exact fun bus known _ => known
    | cons op rest ih =>
        intro bus known met
        have next := bus_step_invariant world id bus known op met.1
        refine ih _ next ?_
        rw [bus_step_stores]
        exact met.2
  refine (run ops ⟨.empty, parameters⟩ ⟨MotorStores.empty_coherent, ?_, ?_⟩ sound).configured
  · simp [MotorManager.Numbered, MotorStores.empty]
  · intro mCtrl mType m listed
    simp [MotorStores.empty] at listed

-- The second message about motor 7 is the first one that it is configured by, in full; the third
-- changes one gain.
def retunedRun : List MotorOp := [configOp [halfPeakMotor], driveOp [7], configOp [halfPeakMotor], configOp [retunedMotor]]

theorem configuration_reaches_retuned :
    Configured sampleProto 7 (Runs.runSteps (busStep ⟨sampleProto, fun _ => 0⟩) ⟨.empty, fun _ _ => none⟩ retunedRun) := by
  apply configuration_reaches_controller ⟨sampleProto, fun _ => 0⟩
  have answered : ∀ size stores entry,
      ApplyMotorConfigTask.EntryAnswered sampleProto (fun _ => none) (fun _ _ _ _ => .OK) size stores entry :=
    fun _ _ _ _ _ _ _ => ⟨0, Nat.zero_le _, fun _ _ => rfl⟩
  refine ⟨?registering, trivial, ?full, ?differential, trivial⟩
  case registering =>
    rintro _ _ ⟨⟩
    exact ⟨fun _ => ⟨answered _ _ _, fun registered => absurd registered (by decide +kernel)⟩, trivial⟩
  case full =>
    rintro _ _ ⟨⟩
    exact ⟨fun _ => ⟨answered _ _ _, fun _ counted => absurd counted (by decide +kernel)⟩, trivial⟩
  case differential =>
    rintro _ _ ⟨⟩
    refine ⟨fun _ => ⟨answered _ _ _, fun _ _ => ⟨halfPeakMotor, rfl, ?_, ?_, Iff.rfl, ?_⟩⟩, trivial⟩
    · decide +kernel
    · exact fun differs => absurd differs (by decide +kernel)
    · exact fun differs => absurd differs (by decide +kernel)

end RioPassthru
