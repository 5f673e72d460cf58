import RioPassthru.Motor.ControllerParameters

set_option autoImplicit false

namespace RioPassthru

open Protobuf MotorConfigurationMotor ApplyMotorConfigTask

section Pair

variable (proto : MotorProto) (mType : MotorType) (getEncoder : Int → Option Int) (prev m : MotorConfigurationMotor)

def FieldDiffers (number : Nat) : Prop := Differs (prev.message.field number) (m.message.field number)

instance (number : Nat) : Decidable (FieldDiffers prev m number) :=
  inferInstanceAs (Decidable (Differs _ _))

def Touched (setter : MotorSetter) : Prop := ∃ number ∈ updatingFields setter, FieldDiffers prev m number

instance (setter : MotorSetter) : Decidable (Touched prev m setter) :=
  inferInstanceAs (Decidable (∃ number ∈ updatingFields setter, FieldDiffers prev m number))

theorem common_same (parameter : Parameter) (listed : parameter ∈ commonParameters ++ currentLimitParameters proto mType)
    (untouched : ¬ Touched prev m parameter.setter) : parameter.call prev = parameter.call m := by
  have scalars : ∀ number ∈ updatingFields parameter.setter, prev.message.scalar number = m.message.scalar number :=
    fun number updating => message_scalar_same prev.message m.message prev.wellFormed m.wellFormed number
      fun differs => untouched ⟨number, updating, differs⟩
  have nested : ∀ number ∈ updatingFields parameter.setter,
      currentLimit proto (prev.message.nested number) = currentLimit proto (m.message.nested number) := by
    intro number updating
    have inner := fun place => nested_scalar_same prev.message m.message prev.wellFormed m.wellFormed number place
      fun differs => untouched ⟨number, updating, differs⟩
    rw [currentLimit, currentLimit, inner, inner, inner, inner]
  rcases List.mem_append.mp listed with common | limit
  · fin_cases common <;>
      simp_all [Parameter.call, updatingFields, voltageCompensationSaturation, voltageCompensationEnabled, invertType,
        neutralMode, openLoopRamp, closedLoopRamp, peakOutputForward, peakOutputReverse, forwardLimitSwitchSource,
        forwardLimitSwitchNormal, reverseLimitSwitchSource, reverseLimitSwitchNormal]
  · cases mType with
    | talonFX =>
        fin_cases limit <;>
          simp_all [Parameter.call, updatingFields, supplyCurrentLimitConfig, statorCurrentLimitConfig]
    | talonSRX =>
        fin_cases limit
        simp_all [Parameter.call, updatingFields, supplyCurrentLimitConfig]
    | other number => cases limit

def DiffersExactly (order : List Nat) : Prop := ∀ number, number ∈ order ↔ number ∈ motorUpdateFields ∧ FieldDiffers prev m number

variable (order : List Nat)

def updates : List MotorCall := order.flatMap (updateWrites proto mType m getEncoder)

def fullUpdate (x : MotorConfigurationMotor) : List MotorCall := (fullUpdateWrites proto mType x).flatten

theorem updating_fields_registered (setter : MotorSetter) (number : Nat) (updating : number ∈ updatingFields setter) :
    number ∈ motorUpdateFields := by
  revert number
  cases setter with
  | configKP slot | configKI slot | configKD slot | configKF slot =>
      rw [updatingFields]
      split <;> decide
  | _ =>
      rw [updatingFields]
      decide

theorem updates_last (exact : DiffersExactly prev m order) (setter : MotorSetter) (value : Option MotorCall)
    (written : ∀ number ∈ updatingFields setter,
      Registers.lastTo MotorCall.setter setter (updateWrites proto mType m getEncoder number) = value) :
    Registers.lastTo MotorCall.setter setter (updates proto mType getEncoder m order) =
      if Touched prev m setter then value else none := by
  have others : ∀ number, ¬ number ∈ updatingFields setter →
      Registers.lastTo MotorCall.setter setter (updateWrites proto mType m getEncoder number) = none := by
    intro number apart
    apply Registers.last_to_eq_none
    intro call member same
    exact apart (same ▸ update_call_field proto mType m getEncoder number call member)
  have touched : (∃ number ∈ order, number ∈ updatingFields setter) ↔ Touched prev m setter := by
    constructor
    · rintro ⟨number, member, updating⟩
      exact ⟨number, updating, ((exact number).mp member).2⟩
    · rintro ⟨number, updating, differs⟩
      exact ⟨number, (exact number).mpr ⟨updating_fields_registered setter number updating, differs⟩, updating⟩
  rw [updates, Registers.last_to_flat_map MotorCall.setter setter _ (fun number => number ∈ updatingFields setter) value
    order written others]
  simp only [touched]

def AgreesAt (setter : MotorSetter) : Prop :=
  ∀ controller : MotorSetter → Option MotorCall,
    Registers.run MotorCall.setter (updates proto mType getEncoder m order)
        (Registers.run MotorCall.setter (fullUpdate proto mType prev) controller) setter =
      Registers.run MotorCall.setter (fullUpdate proto mType m)
        (Registers.run MotorCall.setter (fullUpdate proto mType prev) controller) setter

theorem agrees_at_iff (setter : MotorSetter) :
    AgreesAt proto mType getEncoder prev m order setter ↔
      (Registers.lastTo MotorCall.setter setter (updates proto mType getEncoder m order)).or
          (Registers.lastTo MotorCall.setter setter (fullUpdate proto mType prev)) =
        (Registers.lastTo MotorCall.setter setter (fullUpdate proto mType m)).or
          (Registers.lastTo MotorCall.setter setter (fullUpdate proto mType prev)) :=
  Registers.run_agree_iff MotorCall.setter _ _ _ setter

theorem full_common (x : MotorConfigurationMotor) (parameter : Parameter)
    (listed : parameter ∈ commonParameters ++ currentLimitParameters proto mType) :
    Registers.lastTo MotorCall.setter parameter.setter (fullUpdate proto mType x) = some (parameter.call x) := by
  apply full_update_last proto mType x (parameter.call x)
  rw [full_update_flatten]
  rcases List.mem_append.mp listed with common | limit
  · have placed := List.mem_map_of_mem (f := fun parameter => parameter.call x) common
    simp only [List.mem_append, List.mem_cons]
    exact Or.inl (Or.inl (Or.inl (Or.inr placed)))
  · have placed := List.mem_map_of_mem (f := fun parameter => parameter.call x) limit
    simp only [List.mem_append]
    exact Or.inl (Or.inr placed)

theorem common_agrees (exact : DiffersExactly prev m order) (parameter : Parameter)
    (listed : parameter ∈ commonParameters ++ currentLimitParameters proto mType) :
    AgreesAt proto mType getEncoder prev m order parameter.setter := by
  have written := updates_last proto mType getEncoder prev m order exact parameter.setter (some (parameter.call m)) (by
    intro number updating
    rw [common_update proto mType m getEncoder parameter listed number updating]
    exact Registers.last_to_singleton MotorCall.setter (parameter.call m))
  rw [agrees_at_iff, written, full_common proto mType prev parameter listed, full_common proto mType m parameter listed]
  by_cases touched : Touched prev m parameter.setter
  · rw [if_pos touched]
  · rw [if_neg touched, common_same proto mType prev m parameter listed touched]
    rfl

-- A parameter only a controller that is no SLAVE gets: what is left of it is decided by
-- the two modes, by whether an update function wrote it, and by the values.
theorem master_only_agrees_iff (setter : MotorSetter) (full : MotorConfigurationMotor → MotorCall) (update : MotorCall)
    (exact : DiffersExactly prev m order)
    (written : ∀ number ∈ updatingFields setter,
      Registers.lastTo MotorCall.setter setter (updateWrites proto mType m getEncoder number) = some update)
    (whole : ∀ x, Registers.lastTo MotorCall.setter setter (fullUpdate proto mType x) =
      if x.isMaster proto then some (full x) else none)
    (same : ¬ Touched prev m setter → full prev = full m) :
    AgreesAt proto mType getEncoder prev m order setter ↔
      match prev.isMaster proto, m.isMaster proto with
      | true, true => Touched prev m setter → update = full m
      | true, false => Touched prev m setter → update = full prev
      | false, true => Touched prev m setter ∧ update = full m
      | false, false => ¬ Touched prev m setter := by
  rw [agrees_at_iff, updates_last proto mType getEncoder prev m order exact setter _ written, whole, whole]
  by_cases touched : Touched prev m setter <;> cases prev.isMaster proto <;> cases m.isMaster proto <;>
    simp [touched, same]

theorem full_master (x : MotorConfigurationMotor) (call : MotorConfigurationMotor → MotorCall) (setter : MotorSetter)
    (target : ∀ x, (call x).setter = setter) (listed : setter ∈ masterSetters true)
    (placed : x.isMaster proto = true → call x ∈ (masterWrites x).flatten) :
    Registers.lastTo MotorCall.setter setter (fullUpdate proto mType x) =
      if x.isMaster proto then some (call x) else none := by
  cases master : x.isMaster proto with
  | true =>
      have member : call x ∈ (fullUpdateWrites proto mType x).flatten := by
        rw [full_update_flatten, master, if_pos rfl]
        simp only [List.mem_append]
        exact Or.inl (Or.inl (Or.inr (placed master)))
      rw [← target x]
      exact full_update_last proto mType x (call x) member
  | false =>
      apply full_update_none
      rw [master]
      exact (full_setters_apart proto mType _).2.1 setter listed

theorem full_field (x : MotorConfigurationMotor) (entry : MotorSetter × Nat) (listed : entry ∈ masterFields) :
    Registers.lastTo MotorCall.setter entry.1 (fullUpdate proto mType x) =
      if x.isMaster proto then some (scalarCall x entry) else none := by
  apply full_master proto mType x (fun x => scalarCall x entry) entry.1 (fun _ => rfl)
  · fin_cases listed <;> decide
  · intro _
    have placed := List.mem_map_of_mem (f := scalarCall x) listed
    rw [masterFields, List.map_append, List.mem_append] at placed
    rw [master_flatten, List.mem_append, List.mem_append, List.mem_cons]
    exact placed.elim (fun gain => Or.inl (Or.inr gain)) (fun motion => Or.inr (Or.inr motion))

def sensorCall (x : MotorConfigurationMotor) : MotorCall :=
  ⟨.configSelectedFeedbackSensor, [if 0 < toInt x.feedbackSensorCanId then remoteSensor0 else integratedSensor]⟩

def filterCall (x : MotorConfigurationMotor) : MotorCall :=
  ⟨.configRemoteFeedbackFilter 0, [x.feedbackSensorCanId, remoteSensorSourceCANCoder]⟩

def peakCall (x : MotorConfigurationMotor) : MotorCall :=
  ⟨.configClosedLoopPeakOutput 0, [closedLoopPeak x.maxClosedLoopPeakOutput]⟩

theorem full_sensor (x : MotorConfigurationMotor) :
    Registers.lastTo MotorCall.setter .configSelectedFeedbackSensor (fullUpdate proto mType x) =
      if x.isMaster proto then some (sensorCall x) else none := by
  apply full_master proto mType x sensorCall _ (fun _ => rfl) (by decide)
  intro _
  rw [masterWrites, List.flatten_cons]
  apply List.mem_append_left
  rw [feedbackWrites, sensorCall]
  split <;> simp

theorem full_filter (x : MotorConfigurationMotor) :
    Registers.lastTo MotorCall.setter (.configRemoteFeedbackFilter 0) (fullUpdate proto mType x) =
      if x.isMaster proto ∧ 0 < toInt x.feedbackSensorCanId then some (filterCall x) else none := by
  by_cases remote : 0 < toInt x.feedbackSensorCanId
  · rw [full_master proto mType x filterCall _ (fun _ => rfl) (by decide)]
    · simp [remote]
    · intro _
      simp [masterWrites, feedbackWrites, remote, filterCall]
  · rw [if_neg (fun both => remote both.2), fullUpdate, full_update_none]
    rw [decide_eq_false remote]
    exact (full_setters_apart proto mType false).2.2 _

theorem full_peak (x : MotorConfigurationMotor) :
    Registers.lastTo MotorCall.setter (.configClosedLoopPeakOutput 0) (fullUpdate proto mType x) =
      if x.isMaster proto then some (peakCall x) else none := by
  apply full_master proto mType x peakCall _ (fun _ => rfl) (by decide)
  intro _
  rw [master_flatten]
  exact List.mem_append_right _ (List.mem_cons_self ..)

theorem scalar_same (number : Nat) (same : ¬ FieldDiffers prev m number) :
    prev.message.scalar number = m.message.scalar number :=
  message_scalar_same prev.message m.message prev.wellFormed m.wellFormed number same

theorem touched_singleton (setter : MotorSetter) (number : Nat) (fields : updatingFields setter = [number]) :
    Touched prev m setter ↔ FieldDiffers prev m number := by
  rw [Touched, fields]
  simp

theorem not_differs_of_int (number : Nat) (value : Int) (left : prev.message.scalar number = some (.int value))
    (right : m.message.scalar number = some (.int value)) : ¬ FieldDiffers prev m number := by
  have shape : ∀ x : MotorConfigurationMotor, x.message.scalar number = some (.int value) →
      x.message.field number = some (.singular number (.scalar (.int value))) := by
    intro x getter
    cases found : x.message.field number with
    | none => simp [Message.scalar, found, scalarOf] at getter
    | some field =>
        have placed := field_number x.message number field found
        rw [Message.scalar, found] at getter
        rcases field with ⟨place, scalar | nested⟩ | ⟨place, values⟩
        · cases placed
          cases getter
          rfl
        · cases getter
        · cases getter
  simp [FieldDiffers, Differs, shape prev left, shape m right, Field.equals, Value.equals, Scalar.equals]

theorem field_agrees_iff (exact : DiffersExactly prev m order) (entry : MotorSetter × Nat) (listed : entry ∈ masterFields) :
    AgreesAt proto mType getEncoder prev m order entry.1 ↔
      match prev.isMaster proto, m.isMaster proto with
      | true, true => True
      | true, false => FieldDiffers prev m entry.2 → m.message.scalar entry.2 = prev.message.scalar entry.2
      | false, true => FieldDiffers prev m entry.2
      | false, false => ¬ FieldDiffers prev m entry.2 := by
  obtain ⟨fields, writes⟩ := master_update proto mType m getEncoder entry listed
  have touched := touched_singleton prev m entry.1 entry.2 fields
  have written : ∀ number ∈ updatingFields entry.1,
      Registers.lastTo MotorCall.setter entry.1 (updateWrites proto mType m getEncoder number) =
        some (scalarCall m entry) := by
    intro number updating
    rw [fields, List.mem_singleton] at updating
    rw [updating, writes]
    exact Registers.last_to_singleton MotorCall.setter (scalarCall m entry)
  rw [master_only_agrees_iff proto mType getEncoder prev m order entry.1 (fun x => scalarCall x entry) (scalarCall m entry)
    exact written (fun x => full_field proto mType x entry listed)]
  · cases prev.isMaster proto <;> cases m.isMaster proto <;> simp [touched, scalarCall]
  · intro untouched
    rw [scalarCall, scalar_same prev m entry.2 (fun differs => untouched (touched.mpr differs)), scalarCall]

theorem raw_peak_iff (x : MotorConfigurationMotor) :
    (⟨.configClosedLoopPeakOutput 0, [x.maxClosedLoopPeakOutput]⟩ : MotorCall) = peakCall x ↔
      (toDouble x.maxClosedLoopPeakOutput).lt (.finite (1 / 100)) = false := by
  rw [peakCall, closedLoopPeak]
  cases small : (toDouble x.maxClosedLoopPeakOutput).lt (.finite (1 / 100)) with
  | false => simp
  | true =>
      have raised : x.maxClosedLoopPeakOutput ≠ some (.double 1) := by
        intro one
        rw [one] at small
        exact absurd small (by decide +kernel)
      simpa using raised

theorem peak_agrees_iff (exact : DiffersExactly prev m order) :
    AgreesAt proto mType getEncoder prev m order (.configClosedLoopPeakOutput 0) ↔
      match prev.isMaster proto, m.isMaster proto with
      | true, true => FieldDiffers prev m 11 → (toDouble m.maxClosedLoopPeakOutput).lt (.finite (1 / 100)) = false
      | true, false => FieldDiffers prev m 11 → m.maxClosedLoopPeakOutput = closedLoopPeak prev.maxClosedLoopPeakOutput
      | false, true => FieldDiffers prev m 11 ∧ (toDouble m.maxClosedLoopPeakOutput).lt (.finite (1 / 100)) = false
      | false, false => ¬ FieldDiffers prev m 11 := by
  have touched := touched_singleton prev m (.configClosedLoopPeakOutput 0) 11 rfl
  rw [master_only_agrees_iff proto mType getEncoder prev m order _ peakCall
    ⟨.configClosedLoopPeakOutput 0, [m.maxClosedLoopPeakOutput]⟩ exact _ (full_peak proto mType), raw_peak_iff]
  · cases prev.isMaster proto <;> cases m.isMaster proto <;> simp [touched, peakCall]
  · intro untouched
    have same := scalar_same prev m 11 (fun differs => untouched (touched.mpr differs))
    rw [peakCall, peakCall, maxClosedLoopPeakOutput, maxClosedLoopPeakOutput, same]
  · intro number updating
    rw [List.mem_singleton.mp updating]
    exact Registers.last_to_singleton MotorCall.setter ⟨.configClosedLoopPeakOutput 0, [m.maxClosedLoopPeakOutput]⟩

-- The feedback sensor comes with the remote filter, and the filter is left alone where no
-- remote sensor is configured.
theorem feedback_agrees_iff (exact : DiffersExactly prev m order)
    (registered : 0 < toInt m.feedbackSensorCanId →
      getEncoder (toInt m.feedbackSensorCanId) = some (toInt m.feedbackSensorCanId)) :
    (AgreesAt proto mType getEncoder prev m order .configSelectedFeedbackSensor ∧
        AgreesAt proto mType getEncoder prev m order (.configRemoteFeedbackFilter 0)) ↔
      match prev.isMaster proto, m.isMaster proto with
      | true, true => True
      | true, false =>
          FieldDiffers prev m 36 → toInt prev.feedbackSensorCanId ≤ 0 ∧ toInt m.feedbackSensorCanId ≤ 0
      | false, true => FieldDiffers prev m 36
      | false, false => ¬ FieldDiffers prev m 36 := by
  have touched := touched_singleton prev m .configSelectedFeedbackSensor 36 rfl
  have touchedFilter := touched_singleton prev m (.configRemoteFeedbackFilter 0) 36 rfl
  have same : ¬ FieldDiffers prev m 36 → prev.feedbackSensorCanId = m.feedbackSensorCanId := scalar_same prev m 36
  have writes := feedback_update proto mType m getEncoder registered
  have sensor := master_only_agrees_iff proto mType getEncoder prev m order .configSelectedFeedbackSensor sensorCall
    (sensorCall m) exact (by
      intro number updating
      rw [List.mem_singleton.mp updating, writes, feedbackWrites, sensorCall]
      split <;> rfl) (full_sensor proto mType) (by
      intro untouched
      rw [sensorCall, sensorCall, same (fun differs => untouched (touched.mpr differs))])
  have filter := updates_last proto mType getEncoder prev m order exact (.configRemoteFeedbackFilter 0)
    (if 0 < toInt m.feedbackSensorCanId then some (filterCall m) else none) (by
      intro number updating
      rw [List.mem_singleton.mp updating, writes, feedbackWrites, filterCall]
      split <;> rfl)
  rw [sensor, agrees_at_iff, filter, full_filter, full_filter]
  simp only [touched, touchedFilter]
  by_cases differs : FieldDiffers prev m 36
  · have apart : 0 < toInt prev.feedbackSensorCanId → 0 < toInt m.feedbackSensorCanId →
        m.feedbackSensorCanId ≠ prev.feedbackSensorCanId := by
      intro prevRemote remote equal
      have left := int_of_positive prev.feedbackSensorCanId prevRemote
      have right := int_of_positive m.feedbackSensorCanId remote
      rw [equal] at right
      exact not_differs_of_int prev m 36 _ left (by rw [← left]; exact equal) differs
    by_cases prevRemote : 0 < toInt prev.feedbackSensorCanId <;>
      by_cases remote : 0 < toInt m.feedbackSensorCanId <;>
      cases prev.isMaster proto <;> cases m.isMaster proto <;>
      simp [differs, prevRemote, remote, apart, sensorCall, filterCall, remoteSensor0, integratedSensor, not_lt.mp]
  · rw [sensorCall, sensorCall, filterCall, filterCall, same differs]
    cases prev.isMaster proto <;> cases m.isMaster proto <;> simp [differs]

-- A SLAVE has the periods of a normal master.
theorem status_frame_config (x : MotorConfigurationMotor) :
    statusFrameConfig proto x =
      if x.controllerMode = proto.FAST_MASTER then FAST_MASTER_CONFIG else NORMAL_MASTER_CONFIG := by
  rw [statusFrameConfig]
  split_ifs <;> rfl

theorem frames_agree_iff (exact : DiffersExactly prev m order) :
    (∀ setter ∈ frameSetters, AgreesAt proto mType getEncoder prev m order setter) ↔
      (prev.controllerMode = proto.FAST_MASTER ↔ m.controllerMode = proto.FAST_MASTER) := by
  have whole : ∀ x : MotorConfigurationMotor, ∀ call ∈ (statusFrameWrites (statusFrameConfig proto x)).flatten,
      Registers.lastTo MotorCall.setter call.setter (fullUpdate proto mType x) = some call := by
    intro x call member
    apply full_update_last proto mType x call
    rw [full_update_flatten]
    exact List.mem_append_right _ member
  have silent : ∀ setter ∈ frameSetters,
      Registers.lastTo MotorCall.setter setter (updates proto mType getEncoder m order) = none := by
    intro setter listed
    have untouched : ¬ Touched prev m setter := by
      rintro ⟨number, updating, _⟩
      fin_cases listed <;> cases updating
    rw [updates_last proto mType getEncoder prev m order exact setter none, if_neg untouched]
    intro number updating
    fin_cases listed <;> cases updating
  have each : ∀ (setter : MotorSetter) (period : StatusFrameConfig → Int), setter ∈ frameSetters →
      (∀ config, (⟨setter, [some (.int (period config))]⟩ : MotorCall) ∈ (statusFrameWrites config).flatten) →
      (AgreesAt proto mType getEncoder prev m order setter ↔
        period (statusFrameConfig proto prev) = period (statusFrameConfig proto m)) := by
    intro setter period listed written
    rw [agrees_at_iff, silent setter listed, whole prev _ (written _), whole m _ (written _)]
    simp
  simp only [frameSetters, List.forall_mem_cons]
  rw [each (.setControlFramePeriod 3) StatusFrameConfig.CONTROL_FRAME_PERIOD_MS (by decide) (by simp [statusFrameWrites]),
    each (.setStatusFramePeriod 1) StatusFrameConfig.STATUS_FRAME_GENERAL_1_MS (by decide) (by simp [statusFrameWrites]),
    each (.setStatusFramePeriod 2) StatusFrameConfig.STATUS_FRAME_FEEDBACK0_2_MS (by decide) (by simp [statusFrameWrites]),
    each (.setStatusFramePeriod 4) StatusFrameConfig.STATUS_FRAME_AINTTEMPVBAT (by decide) (by simp [statusFrameWrites])]
  rw [status_frame_config, status_frame_config]
  by_cases prevFast : prev.controllerMode = proto.FAST_MASTER <;> by_cases fast : m.controllerMode = proto.FAST_MASTER <;>
    simp [prevFast, fast, FAST_MASTER_CONFIG, NORMAL_MASTER_CONFIG]

theorem clear_agrees (exact : DiffersExactly prev m order) :
    AgreesAt proto mType getEncoder prev m order .clearStickyFaults := by
  have whole : ∀ x : MotorConfigurationMotor,
      Registers.lastTo MotorCall.setter .clearStickyFaults (fullUpdate proto mType x) = some ⟨.clearStickyFaults, []⟩ := by
    intro x
    apply full_update_last proto mType x ⟨.clearStickyFaults, []⟩
    rw [full_update_flatten]
    simp
  rw [agrees_at_iff, whole, whole, updates_last proto mType getEncoder prev m order exact _ none]
  · simp
  · intro number updating
    cases updating

def AgreesWithFullUpdate : Prop :=
  ∀ order, DiffersExactly prev m order → ∀ setter ∈ fullUpdateParameters proto mType,
    AgreesAt proto mType getEncoder prev m order setter

-- When the update functions suffice. controller_mode itself has none, and the function of
-- max_closed_loop_peak_output lacks the lower bound of fullUpdate.
def UpdateFunctionsSuffice : Prop :=
  (prev.controllerMode = proto.FAST_MASTER ↔ m.controllerMode = proto.FAST_MASTER) ∧
    match prev.isMaster proto, m.isMaster proto with
    | true, true => FieldDiffers prev m 11 → (toDouble m.maxClosedLoopPeakOutput).lt (.finite (1 / 100)) = false
    | true, false =>
        (∀ entry ∈ masterFields, FieldDiffers prev m entry.2 → m.message.scalar entry.2 = prev.message.scalar entry.2) ∧
          (FieldDiffers prev m 36 → toInt prev.feedbackSensorCanId ≤ 0 ∧ toInt m.feedbackSensorCanId ≤ 0) ∧
          (FieldDiffers prev m 11 → m.maxClosedLoopPeakOutput = closedLoopPeak prev.maxClosedLoopPeakOutput)
    | false, true =>
        (∀ entry ∈ masterFields, FieldDiffers prev m entry.2) ∧ FieldDiffers prev m 36 ∧ FieldDiffers prev m 11 ∧
          (toDouble m.maxClosedLoopPeakOutput).lt (.finite (1 / 100)) = false
    | false, false =>
        (∀ entry ∈ masterFields, ¬ FieldDiffers prev m entry.2) ∧ ¬ FieldDiffers prev m 36 ∧ ¬ FieldDiffers prev m 11

theorem full_update_parameters_iff (property : MotorSetter → Prop) :
    (∀ setter ∈ fullUpdateParameters proto mType, property setter) ↔
      property .clearStickyFaults ∧
        (∀ parameter ∈ commonParameters ++ currentLimitParameters proto mType, property parameter.setter) ∧
        (∀ setter ∈ frameSetters, property setter) ∧ (∀ entry ∈ masterFields, property entry.1) ∧
        (property .configSelectedFeedbackSensor ∧ property (.configRemoteFeedbackFilter 0)) ∧
        property (.configClosedLoopPeakOutput 0) := by
  simp only [fullUpdateParameters, fullSetters, masterSetters, currentLimitSetters, masterFields, List.forall_mem_append,
    List.forall_mem_cons, List.forall_mem_map, List.cons_append, if_true, List.nil_append]
  constructor
  · rintro ⟨clear, ⟨⟨common, filter, sensor, gains, peak, motions⟩, limits⟩, frames⟩
    exact ⟨clear, ⟨common, limits⟩, frames, ⟨gains, motions⟩, ⟨sensor, filter⟩, peak⟩
  · rintro ⟨clear, ⟨common, limits⟩, frames, ⟨gains, motions⟩, ⟨sensor, filter⟩, peak⟩
    exact ⟨clear, ⟨⟨common, filter, sensor, gains, peak, motions⟩, limits⟩, frames⟩

theorem agrees_with_full_update_iff (registered : 0 < toInt m.feedbackSensorCanId →
      getEncoder (toInt m.feedbackSensorCanId) = some (toInt m.feedbackSensorCanId)) :
    AgreesWithFullUpdate proto mType getEncoder prev m ↔ UpdateFunctionsSuffice proto prev m := by
  have settled : ∀ order, DiffersExactly prev m order →
      ((∀ setter ∈ fullUpdateParameters proto mType, AgreesAt proto mType getEncoder prev m order setter) ↔
        UpdateFunctionsSuffice proto prev m) := by
    intro order exact
    have fields : (∀ entry ∈ masterFields, AgreesAt proto mType getEncoder prev m order entry.1) ↔ _ :=
      forall₂_congr fun entry listed => field_agrees_iff proto mType getEncoder prev m order exact entry listed
    rw [full_update_parameters_iff, fields, frames_agree_iff proto mType getEncoder prev m order exact,
      feedback_agrees_iff proto mType getEncoder prev m order exact registered,
      peak_agrees_iff proto mType getEncoder prev m order exact, UpdateFunctionsSuffice]
    have clear := clear_agrees proto mType getEncoder prev m order exact
    have common := common_agrees proto mType getEncoder prev m order exact
    constructor
    · rintro ⟨_, _, frames, fields, feedback, peak⟩
      refine ⟨frames, ?_⟩
      revert fields feedback peak
      cases prev.isMaster proto <;> cases m.isMaster proto
      · exact fun fields feedback peak => ⟨fields, feedback, peak⟩
      · exact fun fields feedback peak => ⟨fields, feedback, peak⟩
      · exact fun fields feedback peak => ⟨fields, feedback, peak⟩
      · exact fun _ _ peak => peak
    · rintro ⟨frames, master⟩
      refine ⟨clear, common, frames, ?_⟩
      revert master
      cases prev.isMaster proto <;> cases m.isMaster proto
      · exact fun master => master
      · exact fun master => master
      · exact fun master => master
      · exact fun peak => ⟨fun _ _ => trivial, trivial, peak⟩
  have differing : DiffersExactly prev m (motorUpdateFields.filter fun number => FieldDiffers prev m number) := by
    intro number
    simp
  exact ⟨fun agrees => (settled _ differing).mp (agrees _ differing), fun suffice order exact => (settled order exact).mpr suffice⟩

end Pair

def sampleProto : MotorProto := ⟨1, 2, 3, by decide, 1, 2, 3, 4⟩

def masterMessage (kp peak : ℚ) : Message :=
  .mk motorFullName [] [.singular 1 (.scalar (.int 7)), .singular 3 (.scalar (.int 1)),
    .singular 4 (.scalar (.double (.finite kp))), .singular 11 (.scalar (.double (.finite peak))),
    .singular 36 (.scalar (.int 5))]

def halfPeakMotor : MotorConfigurationMotor := ⟨masterMessage (1 / 2) (1 / 2), rfl, by decide +kernel, by decide +kernel⟩
def retunedMotor : MotorConfigurationMotor := ⟨masterMessage (1 / 4) (1 / 2), rfl, by decide +kernel, by decide +kernel⟩
def lowPeakMotor : MotorConfigurationMotor := ⟨masterMessage (1 / 2) (1 / 200), rfl, by decide +kernel, by decide +kernel⟩

theorem retuned_agrees_with_full_update :
    AgreesWithFullUpdate sampleProto .talonFX some halfPeakMotor retunedMotor := by
  apply (agrees_with_full_update_iff sampleProto .talonFX some halfPeakMotor retunedMotor (fun _ => rfl)).mpr
  exact ⟨Iff.rfl, fun differs => absurd differs (by decide +kernel)⟩

def KeepsFields (prev m : MotorConfigurationMotor) : Prop :=
  ∀ number, (prev.message.field number).isSome = true → (m.message.field number).isSome = true

theorem low_peak_differs_from_full_update :
    ¬ ∀ (proto : MotorProto) (mType : MotorType) (getEncoder : Int → Option Int) (prev m : MotorConfigurationMotor),
      prev.id = m.id → KeepsFields prev m →
      (0 < toInt m.feedbackSensorCanId →
        getEncoder (toInt m.feedbackSensorCanId) = some (toInt m.feedbackSensorCanId)) →
      AgreesWithFullUpdate proto mType getEncoder prev m := by
  intro always
  have kept : KeepsFields halfPeakMotor lowPeakMotor := by
    intro number set
    have listed : number ∈ halfPeakMotor.message.fields.map Field.number := by
      simpa [Message.field, Align.lookup] using set
    have also : number ∈ lowPeakMotor.message.fields.map Field.number := listed
    simpa [Message.field, Align.lookup] using also
  have agrees := always sampleProto .talonFX some halfPeakMotor lowPeakMotor rfl kept (fun _ => rfl)
  have differing : DiffersExactly halfPeakMotor lowPeakMotor
      (motorUpdateFields.filter fun number => FieldDiffers halfPeakMotor lowPeakMotor number) := by
    intro number
    simp
  have peak := (peak_agrees_iff sampleProto .talonFX some halfPeakMotor lowPeakMotor _ differing).mp
    (agrees _ differing _ (by decide +kernel))
  have small : (toDouble lowPeakMotor.maxClosedLoopPeakOutput).lt (.finite (1 / 100)) = false :=
    peak (by decide +kernel)
  exact absurd small (by decide +kernel)

end RioPassthru
