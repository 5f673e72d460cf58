import RioPassthru.Motor.ControllerParameters
import RioPassthru.Motor.Followers
import RioPassthru.Protobuf.EffectiveCalls

set_option autoImplicit false

namespace RioPassthru

open Protobuf

namespace ApplyMotorConfigTask

variable (proto : MotorProto) (getEncoder : Int → Option Int) (motors : MotorManager)

-- The motor and the message that onMotor hands to the function a call is for; it is not
-- called where the cast fails or no such motor is registered.
def handed (call : UpdateCall) : Option (Nat × MotorConfigurationMotor) :=
  (getTypedMessage call.message).bind fun m => if motors.motorExists (uint16 m.id) then some (uint16 m.id, m) else none

structure Ineffective (call : UpdateCall) : Prop where
  unhanded : handed motors call = none
  silent : (updateOf proto getEncoder motors call).2.writes = []

-- initUpdateFunctions has the row for the field, and the call writes what this row says.
structure TakesEffect (m : MotorConfigurationMotor) (id number : Nat) (call : UpdateCall) : Prop where
  field : call.field = ⟨motorFullName, number⟩
  handed : handed motors call = some (id, m)
  row : ∃ mType writes, motors.mRegisteredMotorTypeList[id]? = some mType ∧
    (updateFunctions proto mType m getEncoder).lookup number = some writes ∧
    (updateOf proto getEncoder motors call).2.writes = writes

structure TouchesOnlyChanges (prev m : MotorConfigurationMotor) (id : Nat) : Prop where
  all : (updatesOf proto getEncoder motors (mDiffReporter.compareWith prev.message m.message)).2.writes =
    (mDiffReporter.compareWith prev.message m.message).flatMap fun call => (updateOf proto getEncoder motors call).2.writes
  changed : ∀ call ∈ mDiffReporter.compareWith prev.message m.message, Ineffective proto getEncoder motors call ∨
    ∃ number ∈ motorUpdateFields, Differs (prev.message.field number) (m.message.field number) ∧
      TakesEffect proto getEncoder motors m id number call
  once : ∀ number ∈ motorUpdateFields, ∀ value, m.message.field number = some (.singular number value) →
    Differs (prev.message.field number) (m.message.field number) →
    ∃ before call after, mDiffReporter.compareWith prev.message m.message = before ++ call :: after ∧
      TakesEffect proto getEncoder motors m id number call ∧
      ∀ other ∈ before ++ after, other.field.number = number → Ineffective proto getEncoder motors other
  nested : ∀ sent ∈ (Protobuf.compare [] prev.message m.message).2, 1 < sent.fieldPath.length →
    ∀ call ∈ mDiffReporter.receive sent, Ineffective proto getEncoder motors call

theorem update_of_unhanded (call : UpdateCall) (unhanded : handed motors call = none) :
    (updateOf proto getEncoder motors call).2.writes = [] := by
  rw [handed] at unhanded
  rw [updateOf]
  cases cast : getTypedMessage call.message with
  | none => rfl
  | some m =>
      rw [cast, Option.bind_some] at unhanded
      have absent : uint16 m.id ∉ motors.mRegisteredMotorList := by
        intro held
        rw [MotorManager.motorExists, if_pos (Std.ExtTreeMap.contains_iff_mem.mpr held)] at unhanded
        cases unhanded
      simp [MotorManager.onMotor, Std.ExtTreeMap.getElem?_eq_none absent]

theorem handed_of_called (prev m : MotorConfigurationMotor) (registered : uint16 m.id ∈ motors.mRegisteredMotorList)
    (call : UpdateCall) (called : call ∈ mDiffReporter.compareWith prev.message m.message) :
    handed motors call = if call.message.fullName = motorFullName then some (uint16 m.id, m) else none := by
  rw [handed, getTypedMessage, typed_of_called mDiffReporter prev m call called]
  split
  · simp [MotorManager.motorExists, registered]
  · rfl

theorem differs_of_seen (prev m : Option Field) (seen : Seen prev m) : Differs prev m := by
  cases m with
  | none => cases prev <;> cases seen
  | some field2 =>
      cases prev with
      | none => trivial
      | some field1 => exact seen.1

theorem registered_iff (number : Nat) : mDiffReporter.registered ⟨motorFullName, number⟩ = true ↔ number ∈ motorUpdateFields := by
  simp [mDiffReporter, registeredIn]

theorem ineffective_of_unhanded (call : UpdateCall) (unhanded : handed motors call = none) :
    Ineffective proto getEncoder motors call :=
  ⟨unhanded, update_of_unhanded proto getEncoder motors call unhanded⟩

theorem ineffective_of_untyped (call : UpdateCall) (untyped : call.message.fullName ≠ motorFullName) :
    Ineffective proto getEncoder motors call := by
  apply ineffective_of_unhanded
  rw [handed, getTypedMessage, RioPassthru.getTypedMessage, dif_neg fun typed => untyped typed.1]
  rfl

theorem row_of_registered (mType : MotorType) (m : MotorConfigurationMotor) (number : Nat) (listed : number ∈ motorUpdateFields) :
    ∃ writes, (updateFunctions proto mType m getEncoder).lookup number = some writes ∧
      updateFunctionWrites proto mType m getEncoder number = writes := by
  have key := (update_functions_registered proto mType m getEncoder number).mpr listed
  cases found : (updateFunctions proto mType m getEncoder).lookup number with
  | none =>
      obtain ⟨row, member, same⟩ := List.mem_map.mp key
      have apart := List.lookup_eq_none_iff.mp found row member
      rw [same] at apart
      simp at apart
  | some writes => exact ⟨writes, rfl, by rw [updateFunctionWrites, found, Option.getD_some]⟩

theorem typed_call_takes_effect (kept : motors.Coherent) (prev m : MotorConfigurationMotor)
    (registered : uint16 m.id ∈ motors.mRegisteredMotorList) (call : UpdateCall)
    (called : call ∈ mDiffReporter.compareWith prev.message m.message) (typed : call.message.fullName = motorFullName) :
    ∃ number ∈ motorUpdateFields, Differs (prev.message.field number) (m.message.field number) ∧
      TakesEffect proto getEncoder motors m (uint16 m.id) number call := by
  obtain ⟨_, number, field, known, seen⟩ := compare_with_typed_call mDiffReporter prev m call called typed
  obtain ⟨mCtrl, mType, given, recorded⟩ := MotorManager.on_motor_of_mem motors kept _ registered
  have listed := (registered_iff number).mp known
  obtain ⟨writes, found, same⟩ := row_of_registered proto getEncoder mType m number listed
  refine ⟨number, listed, differs_of_seen _ _ seen, field, ?_, mType, writes, recorded, found, ?_⟩
  · rw [handed_of_called motors prev m registered call called, if_pos typed]
  · rw [updateOf, getTypedMessage, typed_of_called mDiffReporter prev m call called, if_pos typed]
    simp only [given, field]
    exact same

theorem differing_field_takes_effect_once (kept : motors.Coherent) (prev m : MotorConfigurationMotor)
    (registered : uint16 m.id ∈ motors.mRegisteredMotorList) (number : Nat) (listed : number ∈ motorUpdateFields) (value : Value)
    (found : m.message.field number = some (.singular number value))
    (differs : Differs (prev.message.field number) (m.message.field number)) :
    ∃ before call after, mDiffReporter.compareWith prev.message m.message = before ++ call :: after ∧
      TakesEffect proto getEncoder motors m (uint16 m.id) number call ∧
      ∀ other ∈ before ++ after, other.field.number = number → Ineffective proto getEncoder motors other := by
  obtain ⟨before, call, after, split, effective, others⟩ :=
    split_at_effective mDiffReporter prev m number value found differs ((registered_iff number).mpr listed)
  have called : call ∈ mDiffReporter.compareWith prev.message m.message := by
    rw [split]
    exact List.mem_append_right before List.mem_cons_self
  refine ⟨before, call, after, split, ?_, ?_⟩
  · obtain ⟨typed, here⟩ := (effective_iff number call).mp effective
    obtain ⟨place, _, _, took⟩ := typed_call_takes_effect proto getEncoder motors kept prev m registered call called typed
    rw [took.field] at here
    exact here ▸ took
  · intro other member here
    apply ineffective_of_untyped
    intro typed
    exact Bool.false_ne_true ((others other member).symm.trans ((effective_iff number other).mpr ⟨typed, here⟩))

theorem differential_update_touches_only_changes (world : MotorWorld) (ops : List MotorOp) (prev m : MotorConfigurationMotor)
    (id : Nat) (carried : m.id = id) (registered : id ∈ (reached world ops).motors.mRegisteredMotorList) :
    TouchesOnlyChanges world.proto getEncoder (reached world ops).motors prev m id := by
  have kept := (reached_invariant world ops).1.motors
  have target : uint16 m.id = id := by
    have small := kept.below id registered
    rw [carried, uint16]
    omega
  rw [← target] at registered ⊢
  refine ⟨?_, ?_, ?_, ?_⟩
  · exact updates_writes world.proto getEncoder _ kept _
  · intro call called
    by_cases typed : call.message.fullName = motorFullName
    · exact Or.inr (typed_call_takes_effect world.proto getEncoder _ kept prev m registered call called typed)
    · exact Or.inl (ineffective_of_untyped world.proto getEncoder _ call typed)
  · exact differing_field_takes_effect_once world.proto getEncoder _ kept prev m registered
  · intro sent member inside call received
    exact ineffective_of_untyped world.proto getEncoder _ call
      (nested_report_untyped mDiffReporter prev m sent member inside call received)

theorem tuned_motor_touches_only_changes :
    TouchesOnlyChanges sampleProto some (reached ApplyMotorValuesTask.truncatingWorld [configOp [tunedMotor], driveOp [7]]).motors
      resetMotor tunedMotor 7 :=
  differential_update_touches_only_changes some ApplyMotorValuesTask.truncatingWorld [configOp [tunedMotor], driveOp [7]]
    resetMotor tunedMotor 7 rfl (by decide +kernel)

end ApplyMotorConfigTask

end RioPassthru
