import RioPassthru.Failover.FailoverMessageManager
import RioPassthru.Motor.MotorConfiguration

set_option autoImplicit false

namespace RioPassthru

open Protobuf

inductive MotorSetter where
  | clearStickyFaults
  | configVoltageCompSaturation
  | enableVoltageCompensation
  | setInverted
  | setSensorPhase
  | setNeutralMode
  | configOpenloopRamp
  | configClosedloopRamp
  | configPeakOutputForward
  | configPeakOutputReverse
  | configForwardLimitSwitchSource
  | configReverseLimitSwitchSource
  | configRemoteFeedbackFilter (ordinal : Nat)
  | configSelectedFeedbackSensor
  | configSelectedFeedbackCoefficient (pidIdx : Nat)
  | configKP (slot : Nat)
  | configKI (slot : Nat)
  | configKD (slot : Nat)
  | configKF (slot : Nat)
  | selectProfileSlot (pidIdx : Nat)
  | configIntegralZone (slot : Nat)
  | configMaxIntegralAccumulator (slot : Nat)
  | configAllowableClosedloopError (slot : Nat)
  | configClosedLoopPeakOutput (slot : Nat)
  | configMotionCruiseVelocity
  | configMotionAcceleration
  | configMotionSCurveStrength
  | configForwardSoftLimitThreshold
  | configForwardSoftLimitEnable
  | configReverseSoftLimitThreshold
  | configReverseSoftLimitEnable
  | configSupplyCurrentLimit
  | configStatorCurrentLimit
  | setControlFramePeriod (frame : Nat)
  | setStatusFramePeriod (frame : Nat)
deriving DecidableEq, Repr

structure MotorCall where
  setter : MotorSetter
  arguments : List (Option Scalar)
deriving DecidableEq, Repr

-- FeedbackDevice::IntegratedSensor, RemoteFeedbackDevice::RemoteSensor0 and
-- RemoteSensorSource_CANCoder; only that the first two differ is ever used.
def integratedSensor : Option Scalar := some (.int 1)
def remoteSensor0 : Option Scalar := some (.int 11)
def remoteSensorSourceCANCoder : Option Scalar := some (.int 2)

structure StatusFrameConfig where
  CONTROL_FRAME_PERIOD_MS : Int
  STATUS_FRAME_GENERAL_1_MS : Int
  STATUS_FRAME_FEEDBACK0_2_MS : Int
  STATUS_FRAME_AINTTEMPVBAT : Int

def FAST_MASTER_CONFIG : StatusFrameConfig := ⟨5, 5, 10, 10⟩
def NORMAL_MASTER_CONFIG : StatusFrameConfig := ⟨10, 10, 10, 10⟩
def SLAVE_CONFIG : StatusFrameConfig := ⟨10, 10, 10, 10⟩

section Clamps

def peakForward (value : Option Scalar) : Option Scalar :=
  if (toDouble value).lt (.finite (4 / 100)) then some (.double 1) else value

def peakReverse (value : Option Scalar) : Option Scalar :=
  if (Double.finite (-4 / 100)).lt (toDouble value) then some (.double (.finite (-1))) else value

def closedLoopPeak (value : Option Scalar) : Option Scalar :=
  if (toDouble value).lt (.finite (1 / 100)) then some (.double 1) else value

end Clamps

namespace MotorConfigurationMotor

variable (proto : MotorProto) (m : MotorConfigurationMotor)

def isMaster : Bool := decide (m.controllerMode ≠ proto.SLAVE)

def currentLimit (config : Message) : List (Option Scalar) :=
  [config.scalar proto.enable, config.scalar proto.currentLimit, config.scalar proto.triggerThresholdCurrent,
    config.scalar proto.triggerThresholdTime]

end MotorConfigurationMotor

open MotorConfigurationMotor

namespace ApplyMotorConfigTask

variable (proto : MotorProto) (mType : MotorType) (m : MotorConfigurationMotor)

-- Each entry is what one runPhoenixFunctionWithRetry closure calls on the controller.
def feedbackWrites : List MotorCall :=
  if 0 < toInt m.feedbackSensorCanId then
    [⟨.configRemoteFeedbackFilter 0, [m.feedbackSensorCanId, remoteSensorSourceCANCoder]⟩,
      ⟨.configSelectedFeedbackSensor, [remoteSensor0]⟩]
  else [⟨.configSelectedFeedbackSensor, [integratedSensor]⟩]

def commonWrites : List (List MotorCall) :=
  [[⟨.clearStickyFaults, []⟩],
    [⟨.configVoltageCompSaturation, [m.voltageCompensationSaturation]⟩],
    [⟨.enableVoltageCompensation, [m.voltageCompensationEnabled]⟩],
    [⟨.setInverted, [m.invertType]⟩],
    [⟨.setNeutralMode, [m.neutralMode]⟩],
    [⟨.configOpenloopRamp, [m.openLoopRamp]⟩],
    [⟨.configClosedloopRamp, [m.closedLoopRamp]⟩],
    [⟨.configPeakOutputForward, [peakForward m.peakOutputForward]⟩],
    [⟨.configPeakOutputReverse, [peakReverse m.peakOutputReverse]⟩],
    [⟨.configForwardLimitSwitchSource, [m.forwardLimitSwitchSource, m.forwardLimitSwitchNormal]⟩],
    [⟨.configReverseLimitSwitchSource, [m.reverseLimitSwitchSource, m.reverseLimitSwitchNormal]⟩]]

def masterWrites : List (List MotorCall) :=
  [feedbackWrites m,
    [⟨.configKP 0, [m.kp]⟩],
    [⟨.configKI 0, [m.ki]⟩],
    [⟨.configKD 0, [m.kd]⟩],
    [⟨.configKF 0, [m.kf]⟩],
    [⟨.configKP 1, [m.kp1]⟩],
    [⟨.configKI 1, [m.ki1]⟩],
    [⟨.configKD 1, [m.kd1]⟩],
    [⟨.configKF 1, [m.kf1]⟩],
    [⟨.selectProfileSlot 0, [m.activeGainSlot]⟩],
    [⟨.configIntegralZone 0, [m.izone]⟩],
    [⟨.configMaxIntegralAccumulator 0, [m.maxIAccum]⟩],
    [⟨.configAllowableClosedloopError 0, [m.allowedClosedLoopError]⟩],
    [⟨.configClosedLoopPeakOutput 0, [closedLoopPeak m.maxClosedLoopPeakOutput]⟩],
    [⟨.configMotionCruiseVelocity, [m.motionCruiseVelocity]⟩],
    [⟨.configMotionAcceleration, [m.motionAcceleration]⟩],
    [⟨.configMotionSCurveStrength, [m.motionSCurveStrength]⟩],
    [⟨.configForwardSoftLimitThreshold, [m.forwardSoftLimit]⟩],
    [⟨.configForwardSoftLimitEnable, [m.forwardSoftLimitEnable]⟩],
    [⟨.configReverseSoftLimitThreshold, [m.reverseSoftLimit]⟩],
    [⟨.configReverseSoftLimitEnable, [m.reverseSoftLimitEnable]⟩]]

def currentLimitWrites : List (List MotorCall) :=
  match mType with
  | .talonFX =>
      [[⟨.configSupplyCurrentLimit, currentLimit proto m.supplyCurrentLimitConfig⟩],
        [⟨.configStatorCurrentLimit, currentLimit proto m.statorCurrentLimitConfig⟩]]
  | .talonSRX => [[⟨.configSupplyCurrentLimit, currentLimit proto m.supplyCurrentLimitConfig⟩]]
  | .other _ => []

-- Frames: Control_3_General, Status_1_General_, Status_2_Feedback0_, Status_4_AinTempVbat_.
def statusFrameWrites (config : StatusFrameConfig) : List (List MotorCall) :=
  [[⟨.setControlFramePeriod 3, [some (.int config.CONTROL_FRAME_PERIOD_MS)]⟩],
    [⟨.setStatusFramePeriod 1, [some (.int config.STATUS_FRAME_GENERAL_1_MS)]⟩],
    [⟨.setStatusFramePeriod 2, [some (.int config.STATUS_FRAME_FEEDBACK0_2_MS)]⟩],
    [⟨.setStatusFramePeriod 4, [some (.int config.STATUS_FRAME_AINTTEMPVBAT)]⟩]]

def statusFrameConfig : StatusFrameConfig :=
  if m.controllerMode = proto.FAST_MASTER then FAST_MASTER_CONFIG
  else if m.controllerMode = proto.SLAVE then SLAVE_CONFIG
  else NORMAL_MASTER_CONFIG

def fullUpdateWrites : List (List MotorCall) :=
  commonWrites m ++ (if m.isMaster proto then masterWrites m else []) ++ currentLimitWrites proto mType m ++
    statusFrameWrites (statusFrameConfig proto m)

-- The CANCoder overload of ConfigRemoteFeedbackFilter takes the id from the encoder that
-- CKEncoderManager holds; without one the source dereferences a null pointer, and the
-- calls after that are left out here.
def feedbackUpdate (getEncoder : Int → Option Int) : List MotorCall :=
  if 0 < toInt m.feedbackSensorCanId then
    match getEncoder (toInt m.feedbackSensorCanId) with
    | some deviceNumber =>
        [⟨.configRemoteFeedbackFilter 0, [some (.int deviceNumber), remoteSensorSourceCANCoder]⟩,
          ⟨.configSelectedFeedbackSensor, [remoteSensor0]⟩]
    | none => []
  else [⟨.configSelectedFeedbackSensor, [integratedSensor]⟩]

def supplyCurrentLimitUpdate : List (List MotorCall) :=
  match mType with
  | .talonFX => [[⟨.configSupplyCurrentLimit, currentLimit proto m.supplyCurrentLimitConfig⟩]]
  | .talonSRX => [[⟨.configSupplyCurrentLimit, currentLimit proto m.supplyCurrentLimitConfig⟩]]
  | .other _ => []

def statorCurrentLimitUpdate : List (List MotorCall) :=
  match mType with
  | .talonFX => [[⟨.configStatorCurrentLimit, currentLimit proto m.statorCurrentLimitConfig⟩]]
  | _ => []

-- What initUpdateFunctions registers, in its order: the number of the field and the calls
-- its function makes.
def updateFunctions (getEncoder : Int → Option Int) : List (Nat × List (List MotorCall)) :=
  [ (4, [[⟨.configKP 0, [m.kp]⟩]]),
    (5, [[⟨.configKI 0, [m.ki]⟩]]),
    (6, [[⟨.configKD 0, [m.kd]⟩]]),
    (7, [[⟨.configKF 0, [m.kf]⟩]]),
    (38, [[⟨.configKP 1, [m.kp1]⟩]]),
    (39, [[⟨.configKI 1, [m.ki1]⟩]]),
    (40, [[⟨.configKD 1, [m.kd1]⟩]]),
    (41, [[⟨.configKF 1, [m.kf1]⟩]]),
    (8, [[⟨.configIntegralZone 0, [m.izone]⟩]]),
    (9, [[⟨.configMaxIntegralAccumulator 0, [m.maxIAccum]⟩]]),
    (10, [[⟨.configAllowableClosedloopError 0, [m.allowedClosedLoopError]⟩]]),
    (11, [[⟨.configClosedLoopPeakOutput 0, [m.maxClosedLoopPeakOutput]⟩]]),
    (12, [[⟨.configMotionCruiseVelocity, [m.motionCruiseVelocity]⟩]]),
    (13, [[⟨.configMotionAcceleration, [m.motionAcceleration]⟩]]),
    (14, [[⟨.configMotionSCurveStrength, [m.motionSCurveStrength]⟩]]),
    (15, [[⟨.configForwardSoftLimitThreshold, [m.forwardSoftLimit]⟩]]),
    (16, [[⟨.configForwardSoftLimitEnable, [m.forwardSoftLimitEnable]⟩]]),
    (17, [[⟨.configReverseSoftLimitThreshold, [m.reverseSoftLimit]⟩]]),
    (18, [[⟨.configReverseSoftLimitEnable, [m.reverseSoftLimitEnable]⟩]]),
    (19, [[⟨.configSelectedFeedbackCoefficient 0, [m.feedbackSensorCoefficient]⟩]]),
    (20, [[⟨.configVoltageCompSaturation, [m.voltageCompensationSaturation]⟩]]),
    (21, [[⟨.enableVoltageCompensation, [m.voltageCompensationEnabled]⟩]]),
    (22, [[⟨.setInverted, [m.invertType]⟩]]),
    (23, [[⟨.setSensorPhase, [m.sensorPhaseInverted]⟩]]),
    (24, [[⟨.setNeutralMode, [m.neutralMode]⟩]]),
    (25, [[⟨.configOpenloopRamp, [m.openLoopRamp]⟩]]),
    (26, [[⟨.configClosedloopRamp, [m.closedLoopRamp]⟩]]),
    (27, supplyCurrentLimitUpdate proto mType m),
    (28, statorCurrentLimitUpdate proto mType m),
    (29, [[⟨.configForwardLimitSwitchSource, [m.forwardLimitSwitchSource, m.forwardLimitSwitchNormal]⟩]]),
    (30, [[⟨.configForwardLimitSwitchSource, [m.forwardLimitSwitchSource, m.forwardLimitSwitchNormal]⟩]]),
    (31, [[⟨.configReverseLimitSwitchSource, [m.reverseLimitSwitchSource, m.reverseLimitSwitchNormal]⟩]]),
    (32, [[⟨.configReverseLimitSwitchSource, [m.reverseLimitSwitchSource, m.reverseLimitSwitchNormal]⟩]]),
    (33, [[⟨.configPeakOutputForward, [peakForward m.peakOutputForward]⟩]]),
    (34, [[⟨.configPeakOutputReverse, [peakReverse m.peakOutputReverse]⟩]]),
    (36, [feedbackUpdate m getEncoder]),
    (37, [[⟨.selectProfileSlot 0, [m.activeGainSlot]⟩]])]

def updateFunctionWrites (getEncoder : Int → Option Int) (number : Nat) : List (List MotorCall) :=
  ((updateFunctions proto mType m getEncoder).lookup number).getD []

end ApplyMotorConfigTask

end RioPassthru
