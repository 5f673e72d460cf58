import RioPassthru.CAN.CKLEDController
import RioPassthru.CAN.LEDCommands
import RioPassthru.Devices.DeviceWatchdogs
import RioPassthru.Devices.IMURegistry
import RioPassthru.Devices.PigeonYaw
import RioPassthru.Devices.RecordedConfiguration
import RioPassthru.Devices.ResentConfiguration
import RioPassthru.Devices.SolenoidDiagnostics
import RioPassthru.Devices.SolenoidSuppression
import RioPassthru.Failover.Activation
import RioPassthru.Failover.Bracketing
import RioPassthru.Failover.ConfigurationFirst
import RioPassthru.Failover.DrivetrainFailover
import RioPassthru.Failover.Handover
import RioPassthru.Failover.PublishedMessages
import RioPassthru.Failover.RamperBounds
import RioPassthru.Failover.Robot
import RioPassthru.Failover.Steering
import RioPassthru.LED.Animations
import RioPassthru.LED.CANdleLifetime
import RioPassthru.Motor.DifferentialUpdate
import RioPassthru.Motor.FeedbackSensor
import RioPassthru.Motor.FirstConfiguration
import RioPassthru.Motor.Followers
import RioPassthru.Motor.MotorIds
import RioPassthru.Motor.UpdateEffects
import RioPassthru.Network.MessageStore
import RioPassthru.Network.NetworkManager
import RioPassthru.Passthru.Delivery
import RioPassthru.Passthru.SilentController
import RioPassthru.Phoenix.RetryReport
import RioPassthru.Scheduler.TimedRobot
import RioPassthru.Scheduler.Timing
import RioPassthru.Scheduler.Watchdog
import RioPassthru.Status.StatusTasks
import RioPassthru.Utils.CachedValue
import RioPassthru.Utils.Deadband
import RioPassthru.Utils.Interpolation
import RioPassthru.Motor.ConfiguredControllers
