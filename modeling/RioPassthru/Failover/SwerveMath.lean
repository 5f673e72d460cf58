import RioPassthru.Lib.Double
import RioPassthru.Utils.Deadband

set_option autoImplicit false

namespace RioPassthru

namespace CKMath.Machine

-- The templates of CKMath at double.
variable (round : ℚ → Double)

def signum (val : Double) : Double :=
  .finite ((if Double.lt 0 val then 1 else 0) - (if val.lt 0 then 1 else 0))

def handleDeadband (val deadband : Double) : Double := if deadband.abs.lt val.abs then val else 0

def normalizeWithDeadband (val deadband : Double) : Double :=
  let val := handleDeadband val deadband
  if val.isZero then val
  else Double.mul round (signum val) (Double.div round (Double.sub round val.abs deadband) (Double.sub round 1 deadband))

end CKMath.Machine

structure SwerveModuleState where
  speed : Double
  angle : Double
deriving DecidableEq, Repr

structure ChassisSpeeds where
  vx : Double
  vy : Double
  omega : Double
deriving DecidableEq, Repr

-- What the drivetrain is compiled against: the rounding of a result or literal to a double,
-- SwerveModuleState::Optimize of WPILib, and the conversion of its units library.
structure SwerveMath where
  round : ℚ → Double
  optimize : SwerveModuleState → Double → SwerveModuleState
  inchesToMeters : Double → Double

structure JoystickReading where
  isConnected : Bool
  xAxis : Double
  yAxis : Double
  zAxis : Double
deriving DecidableEq, Repr

def M_PI : Double := .finite (884279719003555 / 281474976710656)

namespace SwerveDrivetrainFailover

variable (math : SwerveMath)

def driveJoystickDeadband : Double := math.round (1 / 10)

def driveWheelDiameterM : Double := math.inchesToMeters (math.round (39 / 10))

def driveGearRatio : Double := .finite (27 / 4)

def steeringGearRatio : Double := 1

def sensorPositionToDegrees (position : Double) : Double :=
  Double.mul math.round (Double.div math.round position 4096) 360

def metersPerSecondToNativeUnitsDriveVelocity (mps : Double) : Double :=
  let rpm := Double.mul math.round (Double.div math.round mps (Double.mul math.round (driveWheelDiameterM math) M_PI)) 60
  Double.div math.round (Double.mul math.round (Double.mul math.round rpm driveGearRatio) 2048) 600

def degreesToNativeUnitsSteeringAngle (degrees : Double) : Double :=
  Double.mul math.round (Double.mul math.round (Double.div math.round degrees 360) steeringGearRatio) 4096

-- 4_mps * y, 4_mps * x and 8_rad_per_s * z, each axis negated after its deadband.
def robotSpeeds (joystick : JoystickReading) : ChassisSpeeds :=
  let normalized (axis : Double) := (CKMath.Machine.normalizeWithDeadband math.round axis (driveJoystickDeadband math)).neg
  ⟨Double.mul math.round 4 (normalized joystick.yAxis), Double.mul math.round 4 (normalized joystick.xAxis),
    Double.mul math.round 8 (normalized joystick.zAxis)⟩

end SwerveDrivetrainFailover

namespace CKMath.Machine

theorem lt_finite (left right : ℚ) : Double.lt (.finite left) (.finite right) = decide (left < right) := by
  have order : ((left : WithTop ℚ) : WithBot (WithTop ℚ)) < ((right : ℚ) : WithTop ℚ) ↔ left < right := by
    rw [WithBot.coe_lt_coe, WithTop.coe_lt_coe]
  exact decide_eq_decide.mpr order

theorem signum_finite (val : ℚ) : signum (.finite val) = .finite (CKMath.signum val) := by
  have positive : Double.lt 0 (.finite val) = decide (0 < val) := lt_finite 0 val
  have negative : Double.lt (.finite val) 0 = decide (val < 0) := lt_finite val 0
  rw [signum, positive, negative, CKMath.signum]
  congr 1
  split_ifs <;> simp_all

theorem normalize_with_deadband_exact (val deadband : ℚ) (nonneg : 0 ≤ deadband) (below : deadband < 1) :
    normalizeWithDeadband .finite (.finite val) (.finite deadband) = .finite (CKMath.normalizeWithDeadband val deadband) := by
  have band : (Double.finite deadband).abs.lt (Double.finite val).abs = decide (|deadband| < |val|) := lt_finite _ _
  rw [normalizeWithDeadband, handleDeadband, band]
  obtain inside | outside := le_or_gt |val| deadband
  · have cut : ¬ |deadband| < |val| := by rwa [abs_of_nonneg nonneg, not_lt]
    rw [decide_eq_false cut, CKMath.normalize_with_deadband_eq _ _ nonneg, DeadZone.dead_zone_of_abs_le deadband val inside, zero_div]
    rfl
  · have kept : |deadband| < |val| := by rwa [abs_of_nonneg nonneg]
    have nonzero : val ≠ 0 := abs_pos.mp (nonneg.trans_lt outside)
    have numerator : Double.sub .finite (Double.finite val).abs (.finite deadband) = .finite (|val| - deadband) :=
      Double.sub_exact |val| deadband outside.ne'
    have denominator : Double.sub .finite 1 (.finite deadband) = .finite (1 - deadband) := Double.sub_exact 1 deadband below.ne'
    have quotient : 0 < (|val| - deadband) / (1 - deadband) := div_pos (sub_pos.mpr outside) (sub_pos.mpr below)
    have one : (1.0 : ℚ) = 1 := by norm_num
    rw [decide_eq_true kept, if_pos rfl, Double.is_zero_finite, decide_eq_false nonzero, if_neg Bool.false_ne_true, numerator,
      denominator, Double.div_exact _ _ (sub_pos.mpr below), signum_finite, Double.mul_exact _ _ quotient,
      CKMath.normalizeWithDeadband, CKMath.handle_deadband_of_outside val deadband nonneg outside, one]
    exact congrArg Double.finite (if_pos nonzero).symm

end CKMath.Machine

end RioPassthru
