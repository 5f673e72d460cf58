import RioPassthru.Protobuf.DifferentialUpdateReporter

set_option autoImplicit false

namespace RioPassthru

open Protobuf

theorem scalar_equals_nondefault (left right : Scalar) (same : left.equals right = true)
    (leftSet : left.isDefault = false) (rightSet : right.isDefault = false) : left = right := by
  rcases left with a | a | a | a <;> rcases right with b | b | b | b <;>
    first
      | exact of_decide_eq_true same
      | skip
  have nonzero : ∀ value : Double, (Scalar.double value).isDefault = false → value ≠ 0 := by
    intro value set
    simpa [Scalar.isDefault] using set
  exact congrArg Scalar.double (Double.eq_of_nonzero a b same (nonzero a leftSet) (nonzero b rightSet))

theorem scalar_of_same (left right : Option Field) (leftListed : ∀ field, left = some field → field.listed = true)
    (rightListed : ∀ field, right = some field → field.listed = true) (same : ¬ Differs left right) :
    scalarOf left = scalarOf right := by
  cases left with
  | none =>
      cases right with
      | none => rfl
      | some field2 => exact absurd trivial same
  | some field1 =>
      cases right with
      | none => exact absurd trivial same
      | some field2 =>
          have equal : field1.equals field2 = true := by simpa [Differs] using same
          have set1 := leftListed field1 rfl
          have set2 := rightListed field2 rfl
          cases field1 with
          | repeated number1 values1 =>
              cases field2 with
              | repeated number2 values2 => rfl
              | singular number2 value2 => cases equal
          | singular number1 value1 =>
              cases field2 with
              | repeated number2 values2 => cases equal
              | singular number2 value2 =>
                  cases value1 with
                  | message nested1 =>
                      cases value2 with
                      | message nested2 => rfl
                      | scalar scalar2 => cases equal
                  | scalar scalar1 =>
                      cases value2 with
                      | message nested2 => cases equal
                      | scalar scalar2 =>
                          have both : scalar1 = scalar2 := scalar_equals_nondefault scalar1 scalar2 equal
                            (by simpa [Field.listed] using set1) (by simpa [Field.listed] using set2)
                          rw [both]
                          rfl

theorem fields_equal_lookup (fields1 fields2 : List Field) (equal : fieldsEqual fields1 fields2 = true) (number : Nat) :
    ¬ Differs (Align.lookup Field.number number fields1) (Align.lookup Field.number number fields2) := by
  induction fields1 generalizing fields2 with
  | nil =>
      cases fields2 with
      | nil => exact fun differs => differs
      | cons field2 rest2 => cases equal
  | cons field1 rest1 ih =>
      cases fields2 with
      | nil => cases equal
      | cons field2 rest2 =>
          rw [fieldsEqual, Bool.and_eq_true, Bool.and_eq_true, decide_eq_true_eq] at equal
          obtain ⟨⟨numbers, fields⟩, later⟩ := equal
          rw [Align.lookup_cons, Align.lookup_cons, ← numbers]
          by_cases here : field1.number = number
          · rw [if_pos here, if_pos here]
            simp [Differs, fields]
          · rw [if_neg here, if_neg here]
            exact ih rest2 later

theorem message_equals_field (left right : Message) (equal : left.equals right = true) (number : Nat) :
    ¬ Differs (left.field number) (right.field number) := by
  obtain ⟨fullName1, unknown1, fields1⟩ := left
  obtain ⟨fullName2, unknown2, fields2⟩ := right
  rw [Message.equals, Bool.and_eq_true] at equal
  exact fields_equal_lookup fields1 fields2 equal.2 number

theorem message_scalar_same (left right : Message) (leftValid : left.wellFormed = true)
    (rightValid : right.wellFormed = true) (number : Nat) (same : ¬ Differs (left.field number) (right.field number)) :
    left.scalar number = right.scalar number :=
  scalar_of_same _ _ (fun field found => (well_formed_field left leftValid number field found).1)
    (fun field found => (well_formed_field right rightValid number field found).1) same

theorem nested_scalar_same (left right : Message) (leftValid : left.wellFormed = true)
    (rightValid : right.wellFormed = true) (number inner : Nat)
    (same : ¬ Differs (left.field number) (right.field number)) :
    (left.nested number).scalar inner = (right.nested number).scalar inner := by
  have leftFields := well_formed_field left leftValid number
  have rightFields := well_formed_field right rightValid number
  rw [Message.nested, Message.nested]
  generalize left.field number = field1 at same leftFields
  generalize right.field number = field2 at same rightFields
  rcases field1 with _ | ⟨number1, scalar1 | nested1⟩ | ⟨number1, values1⟩ <;>
    rcases field2 with _ | ⟨number2, scalar2 | nested2⟩ | ⟨number2, values2⟩ <;>
    first
      | rfl
      | exact absurd trivial same
      | exact absurd rfl same
      | skip
  have equal : nested1.equals nested2 = true := by simpa [Differs, Field.equals, Value.equals] using same
  have valid1 : nested1.wellFormed = true := by
    simpa [Field.wellFormed, Value.wellFormed] using (leftFields _ rfl).2
  have valid2 : nested2.wellFormed = true := by
    simpa [Field.wellFormed, Value.wellFormed] using (rightFields _ rfl).2
  exact message_scalar_same nested1 nested2 valid1 valid2 inner (message_equals_field nested1 nested2 equal inner)

abbrev MotorConfigurationMotor := Typed motorFullName

-- The numbers the .proto files assign, which are not part of the repository.
structure MotorProto where
  MASTER : Int
  FAST_MASTER : Int
  SLAVE : Int
  distinct : FAST_MASTER ≠ SLAVE
  enable : Nat
  currentLimit : Nat
  triggerThresholdCurrent : Nat
  triggerThresholdTime : Nat

namespace MotorConfigurationMotor

variable (m : MotorConfigurationMotor)

def id : Int := toInt (m.message.scalar 1)
def controllerMode : Int := toInt (m.message.scalar 3)
def kp : Option Scalar := m.message.scalar 4
def ki : Option Scalar := m.message.scalar 5
def kd : Option Scalar := m.message.scalar 6
def kf : Option Scalar := m.message.scalar 7
def izone : Option Scalar := m.message.scalar 8
def maxIAccum : Option Scalar := m.message.scalar 9
def allowedClosedLoopError : Option Scalar := m.message.scalar 10
def maxClosedLoopPeakOutput : Option Scalar := m.message.scalar 11
def motionCruiseVelocity : Option Scalar := m.message.scalar 12
def motionAcceleration : Option Scalar := m.message.scalar 13
def motionSCurveStrength : Option Scalar := m.message.scalar 14
def forwardSoftLimit : Option Scalar := m.message.scalar 15
def forwardSoftLimitEnable : Option Scalar := m.message.scalar 16
def reverseSoftLimit : Option Scalar := m.message.scalar 17
def reverseSoftLimitEnable : Option Scalar := m.message.scalar 18
def feedbackSensorCoefficient : Option Scalar := m.message.scalar 19
def voltageCompensationSaturation : Option Scalar := m.message.scalar 20
def voltageCompensationEnabled : Option Scalar := m.message.scalar 21
def invertType : Option Scalar := m.message.scalar 22
def sensorPhaseInverted : Option Scalar := m.message.scalar 23
def neutralMode : Option Scalar := m.message.scalar 24
def openLoopRamp : Option Scalar := m.message.scalar 25
def closedLoopRamp : Option Scalar := m.message.scalar 26
def supplyCurrentLimitConfig : Message := m.message.nested 27
def statorCurrentLimitConfig : Message := m.message.nested 28
def forwardLimitSwitchSource : Option Scalar := m.message.scalar 29
def forwardLimitSwitchNormal : Option Scalar := m.message.scalar 30
def reverseLimitSwitchSource : Option Scalar := m.message.scalar 31
def reverseLimitSwitchNormal : Option Scalar := m.message.scalar 32
def peakOutputForward : Option Scalar := m.message.scalar 33
def peakOutputReverse : Option Scalar := m.message.scalar 34
def canNetwork : Int := toInt (m.message.scalar 35)
def feedbackSensorCanId : Option Scalar := m.message.scalar 36
def activeGainSlot : Option Scalar := m.message.scalar 37
def kp1 : Option Scalar := m.message.scalar 38
def ki1 : Option Scalar := m.message.scalar 39
def kd1 : Option Scalar := m.message.scalar 40
def kf1 : Option Scalar := m.message.scalar 41

end MotorConfigurationMotor

end RioPassthru
