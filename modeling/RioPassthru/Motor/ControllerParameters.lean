import RioPassthru.Lib.Registers
import RioPassthru.Motor.MotorWrites

set_option autoImplicit false

namespace RioPassthru

open Protobuf MotorConfigurationMotor ApplyMotorConfigTask

def updatingFields : MotorSetter → List Nat
  | .clearStickyFaults => []
  | .configVoltageCompSaturation => [20]
  | .enableVoltageCompensation => [21]
  | .setInverted => [22]
  | .setSensorPhase => [23]
  | .setNeutralMode => [24]
  | .configOpenloopRamp => [25]
  | .configClosedloopRamp => [26]
  | .configPeakOutputForward => [33]
  | .configPeakOutputReverse => [34]
  | .configForwardLimitSwitchSource => [29, 30]
  | .configReverseLimitSwitchSource => [31, 32]
  | .configRemoteFeedbackFilter _ => [36]
  | .configSelectedFeedbackSensor => [36]
  | .configSelectedFeedbackCoefficient _ => [19]
  | .configKP slot => if slot = 0 then [4] else [38]
  | .configKI slot => if slot = 0 then [5] else [39]
  | .configKD slot => if slot = 0 then [6] else [40]
  | .configKF slot => if slot = 0 then [7] else [41]
  | .selectProfileSlot _ => [37]
  | .configIntegralZone _ => [8]
  | .configMaxIntegralAccumulator _ => [9]
  | .configAllowableClosedloopError _ => [10]
  | .configClosedLoopPeakOutput _ => [11]
  | .configMotionCruiseVelocity => [12]
  | .configMotionAcceleration => [13]
  | .configMotionSCurveStrength => [14]
  | .configForwardSoftLimitThreshold => [15]
  | .configForwardSoftLimitEnable => [16]
  | .configReverseSoftLimitThreshold => [17]
  | .configReverseSoftLimitEnable => [18]
  | .configSupplyCurrentLimit => [27]
  | .configStatorCurrentLimit => [28]
  | .setControlFramePeriod _ => []
  | .setStatusFramePeriod _ => []

structure Parameter where
  setter : MotorSetter
  arguments : MotorConfigurationMotor → List (Option Scalar)

def Parameter.call (parameter : Parameter) (x : MotorConfigurationMotor) : MotorCall :=
  ⟨parameter.setter, parameter.arguments x⟩

def commonParameters : List Parameter :=
  [⟨.configVoltageCompSaturation, fun x => [x.voltageCompensationSaturation]⟩,
    ⟨.enableVoltageCompensation, fun x => [x.voltageCompensationEnabled]⟩,
    ⟨.setInverted, fun x => [x.invertType]⟩,
    ⟨.setNeutralMode, fun x => [x.neutralMode]⟩,
    ⟨.configOpenloopRamp, fun x => [x.openLoopRamp]⟩,
    ⟨.configClosedloopRamp, fun x => [x.closedLoopRamp]⟩,
    ⟨.configPeakOutputForward, fun x => [peakForward x.peakOutputForward]⟩,
    ⟨.configPeakOutputReverse, fun x => [peakReverse x.peakOutputReverse]⟩,
    ⟨.configForwardLimitSwitchSource, fun x => [x.forwardLimitSwitchSource, x.forwardLimitSwitchNormal]⟩,
    ⟨.configReverseLimitSwitchSource, fun x => [x.reverseLimitSwitchSource, x.reverseLimitSwitchNormal]⟩]

section Table

variable (proto : MotorProto) (mType : MotorType)

def currentLimitParameters : List Parameter :=
  match mType with
  | .talonFX =>
      [⟨.configSupplyCurrentLimit, fun x => currentLimit proto x.supplyCurrentLimitConfig⟩,
        ⟨.configStatorCurrentLimit, fun x => currentLimit proto x.statorCurrentLimitConfig⟩]
  | .talonSRX => [⟨.configSupplyCurrentLimit, fun x => currentLimit proto x.supplyCurrentLimitConfig⟩]
  | .other _ => []

-- The parameters fullUpdate writes for a controller that is no SLAVE, each from one
-- field; the feedback sensor and the closed-loop peak come apart from these.
def gainFields : List (MotorSetter × Nat) :=
  [(.configKP 0, 4), (.configKI 0, 5), (.configKD 0, 6), (.configKF 0, 7), (.configKP 1, 38), (.configKI 1, 39),
    (.configKD 1, 40), (.configKF 1, 41), (.selectProfileSlot 0, 37), (.configIntegralZone 0, 8),
    (.configMaxIntegralAccumulator 0, 9), (.configAllowableClosedloopError 0, 10)]

def motionFields : List (MotorSetter × Nat) :=
  [(.configMotionCruiseVelocity, 12), (.configMotionAcceleration, 13), (.configMotionSCurveStrength, 14),
    (.configForwardSoftLimitThreshold, 15), (.configForwardSoftLimitEnable, 16),
    (.configReverseSoftLimitThreshold, 17), (.configReverseSoftLimitEnable, 18)]

def masterFields : List (MotorSetter × Nat) := gainFields ++ motionFields

def scalarCall (x : MotorConfigurationMotor) (entry : MotorSetter × Nat) : MotorCall :=
  ⟨entry.1, [x.message.scalar entry.2]⟩

def frameSetters : List MotorSetter :=
  [.setControlFramePeriod 3, .setStatusFramePeriod 1, .setStatusFramePeriod 2, .setStatusFramePeriod 4]

def currentLimitSetters : List MotorSetter := (currentLimitParameters proto mType).map Parameter.setter

def masterSetters (remote : Bool) : List MotorSetter :=
  (if remote then [.configRemoteFeedbackFilter 0] else []) ++ .configSelectedFeedbackSensor ::
    gainFields.map Prod.fst ++ .configClosedLoopPeakOutput 0 :: motionFields.map Prod.fst

def fullSetters (limits : List MotorSetter) (master remote : Bool) : List MotorSetter :=
  .clearStickyFaults :: commonParameters.map Parameter.setter ++ (if master then masterSetters remote else []) ++
    limits ++ frameSetters

def fullUpdateParameters : List MotorSetter := fullSetters (currentLimitSetters proto mType) true true

variable (x : MotorConfigurationMotor)

theorem master_flatten :
    (masterWrites x).flatten = feedbackWrites x ++ gainFields.map (scalarCall x) ++
      ⟨.configClosedLoopPeakOutput 0, [closedLoopPeak x.maxClosedLoopPeakOutput]⟩ :: motionFields.map (scalarCall x) := by
  rw [masterWrites, List.flatten_cons, List.append_assoc]
  rfl

theorem full_update_flatten :
    (fullUpdateWrites proto mType x).flatten =
      ⟨.clearStickyFaults, []⟩ :: commonParameters.map (fun parameter => parameter.call x) ++
        (if x.isMaster proto then (masterWrites x).flatten else []) ++
        (currentLimitParameters proto mType).map (fun parameter => parameter.call x) ++
        (statusFrameWrites (statusFrameConfig proto x)).flatten := by
  rw [fullUpdateWrites, List.flatten_append, List.flatten_append, List.flatten_append]
  congr 1
  congr 1
  · congr 1
    cases x.isMaster proto <;> rfl
  · cases mType <;> rfl

theorem full_update_setters :
    (fullUpdateWrites proto mType x).flatten.map MotorCall.setter =
      fullSetters (currentLimitSetters proto mType) (x.isMaster proto) (decide (0 < toInt x.feedbackSensorCanId)) := by
  rw [full_update_flatten, fullSetters, master_flatten]
  simp only [List.map_append, List.map_cons, List.map_map, feedbackWrites, masterSetters]
  cases x.isMaster proto <;> by_cases remote : 0 < toInt x.feedbackSensorCanId <;> simp only [remote, if_true, if_false] <;> rfl

theorem full_setters_apart (remote : Bool) :
    (∀ master, (fullSetters (currentLimitSetters proto mType) master remote).Nodup) ∧
      (∀ setter ∈ masterSetters true, setter ∉ fullSetters (currentLimitSetters proto mType) false remote) ∧
      ∀ master, MotorSetter.configRemoteFeedbackFilter 0 ∉ fullSetters (currentLimitSetters proto mType) master false := by
  have each : ∀ limits ∈ [[MotorSetter.configSupplyCurrentLimit, .configStatorCurrentLimit], [.configSupplyCurrentLimit], []],
      ∀ remote, (∀ master, (fullSetters limits master remote).Nodup) ∧
        (∀ setter ∈ masterSetters true, setter ∉ fullSetters limits false remote) ∧
        ∀ master, MotorSetter.configRemoteFeedbackFilter 0 ∉ fullSetters limits master false := by
    decide +kernel
  apply each
  cases mType <;> simp [currentLimitSetters, currentLimitParameters]

theorem full_update_last (call : MotorCall) (member : call ∈ (fullUpdateWrites proto mType x).flatten) :
    Registers.lastTo MotorCall.setter call.setter (fullUpdateWrites proto mType x).flatten = some call := by
  apply Registers.last_to_of_mem _ _ _ call member
  rw [full_update_setters]
  exact (full_setters_apart proto mType _).1 _

theorem full_update_none (setter : MotorSetter)
    (apart : setter ∉ fullSetters (currentLimitSetters proto mType) (x.isMaster proto)
      (decide (0 < toInt x.feedbackSensorCanId))) :
    Registers.lastTo MotorCall.setter setter (fullUpdateWrites proto mType x).flatten = none := by
  apply Registers.last_to_eq_none
  intro call member same
  rw [← full_update_setters] at apart
  exact apart (List.mem_map.mpr ⟨call, member, same⟩)

section Updates

variable (getEncoder : Int → Option Int)

def updateWrites (number : Nat) : List MotorCall := (updateFunctionWrites proto mType x getEncoder number).flatten

theorem update_call_field (number : Nat) (call : MotorCall) (member : call ∈ updateWrites proto mType x getEncoder number) :
    number ∈ updatingFields call.setter := by
  have limits : (∀ call ∈ (supplyCurrentLimitUpdate proto mType x).flatten, call.setter = .configSupplyCurrentLimit) ∧
      ∀ call ∈ (statorCurrentLimitUpdate proto mType x).flatten, call.setter = .configStatorCurrentLimit := by
    cases mType <;> simp [supplyCurrentLimitUpdate, statorCurrentLimitUpdate]
  have feedback : ∀ call ∈ feedbackUpdate x getEncoder, updatingFields call.setter = [36] := by
    rw [feedbackUpdate]
    split
    · split <;> simp [updatingFields]
    · simp [updatingFields]
  have rows : ∀ row ∈ updateFunctions proto mType x getEncoder, ∀ call ∈ row.2.flatten, row.1 ∈ updatingFields call.setter := by
    intro row listed call inside
    fin_cases listed
    all_goals first
      | obtain rfl := List.mem_singleton.mp inside
        simp [updatingFields]
      | skip
    · rw [limits.1 call inside]
      exact List.mem_singleton_self 27
    · rw [limits.2 call inside]
      exact List.mem_singleton_self 28
    · rw [feedback call (by simpa using inside)]
      exact List.mem_singleton_self 36
  rw [updateWrites, updateFunctionWrites] at member
  cases found : (updateFunctions proto mType x getEncoder).lookup number with
  | none =>
      rw [found] at member
      cases member
  | some writes =>
      rw [found] at member
      obtain ⟨first, later, split, _⟩ := List.lookup_eq_some_iff.mp found
      exact rows (number, writes) (by simp [split]) call member

theorem update_functions_registered (number : Nat) :
    number ∈ (updateFunctions proto mType x getEncoder).map Prod.fst ↔ number ∈ motorUpdateFields := by
  have keys : (updateFunctions proto mType x getEncoder).map Prod.fst =
      [4, 5, 6, 7, 38, 39, 40, 41, 8, 9, 10, 11, 12, 13, 14, 15, 16, 17, 18, 19, 20, 21, 22, 23, 24, 25, 26, 27, 28, 29,
        30, 31, 32, 33, 34, 36, 37] := rfl
  have permuted : ((updateFunctions proto mType x getEncoder).map Prod.fst).Perm motorUpdateFields := by
    rw [keys]
    decide
  exact permuted.mem_iff

theorem common_update (parameter : Parameter) (listed : parameter ∈ commonParameters ++ currentLimitParameters proto mType)
    (number : Nat) (updating : number ∈ updatingFields parameter.setter) :
    updateWrites proto mType x getEncoder number = [parameter.call x] := by
  rcases List.mem_append.mp listed with common | limit
  · fin_cases common <;> fin_cases updating <;> rfl
  · cases mType with
    | talonFX =>
        fin_cases limit
        · fin_cases updating
          rfl
        · fin_cases updating
          rfl
    | talonSRX =>
        fin_cases limit
        fin_cases updating
        rfl
    | other number => cases limit

theorem master_update (entry : MotorSetter × Nat) (listed : entry ∈ masterFields) :
    updatingFields entry.1 = [entry.2] ∧ updateWrites proto mType x getEncoder entry.2 = [scalarCall x entry] := by
  fin_cases listed <;> exact ⟨rfl, rfl⟩

theorem feedback_update (registered : 0 < toInt x.feedbackSensorCanId →
      getEncoder (toInt x.feedbackSensorCanId) = some (toInt x.feedbackSensorCanId)) :
    updateWrites proto mType x getEncoder 36 = feedbackWrites x := by
  have row : updateWrites proto mType x getEncoder 36 = feedbackUpdate x getEncoder := List.append_nil _
  rw [row, feedbackUpdate, feedbackWrites]
  by_cases remote : 0 < toInt x.feedbackSensorCanId
  · rw [if_pos remote, if_pos remote, registered remote]
    simp only [← int_of_positive x.feedbackSensorCanId remote]
  · rw [if_neg remote, if_neg remote]

end Updates

end Table

end RioPassthru
