import OnePlus9.Extract.Equiv.Arguments
import OnePlus9.Extract.Equiv.Fixups
import OnePlus9.Extract.ExtractFiles
import OnePlus9.Library.ConditionVariable
import OnePlus9.Library.Lines
import OnePlus9.Library.LossyChannel
import OnePlus9.Library.Machine
import OnePlus9.Library.Mirror
import OnePlus9.Library.Narrowing
import OnePlus9.Library.Numeral
import OnePlus9.Library.Sha1
import OnePlus9.Library.Spacing
import OnePlus9.Library.Substitution
import OnePlus9.Library.TaggedWord
import OnePlus9.Manifest.Equiv.Script
import OnePlus9.Manifest.Equiv.UpdateSha1sums
import OnePlus9.Manifest.UpdateSha1sums
import OnePlus9.Power.Equiv.PowerFeature
import OnePlus9.Power.PowerFeature
import OnePlus9.Sensors.Batch
import OnePlus9.Sensors.DynamicSensors
import OnePlus9.Sensors.Equiv.Activation
import OnePlus9.Sensors.Equiv.Attribution
import OnePlus9.Sensors.Equiv.Backlog
import OnePlus9.Sensors.Equiv.Batch
import OnePlus9.Sensors.Equiv.CallLog
import OnePlus9.Sensors.Equiv.ClaimTimes
import OnePlus9.Sensors.Equiv.Deadline
import OnePlus9.Sensors.Equiv.Delivery
import OnePlus9.Sensors.Equiv.DestroySensor
import OnePlus9.Sensors.Equiv.DirectChannel
import OnePlus9.Sensors.Equiv.DirectChannelOwner
import OnePlus9.Sensors.Equiv.DynamicSensors
import OnePlus9.Sensors.Equiv.EarlyRelease
import OnePlus9.Sensors.Equiv.EventType
import OnePlus9.Sensors.Equiv.Firing
import OnePlus9.Sensors.Equiv.HalProxy
import OnePlus9.Sensors.Equiv.Handle
import OnePlus9.Sensors.Equiv.Injection
import OnePlus9.Sensors.Equiv.KnownSensors
import OnePlus9.Sensors.Equiv.Leak
import OnePlus9.Sensors.Equiv.Ledger
import OnePlus9.Sensors.Equiv.Listing
import OnePlus9.Sensors.Equiv.Loader
import OnePlus9.Sensors.Equiv.MissingFlag
import OnePlus9.Sensors.Equiv.MostPending
import OnePlus9.Sensors.Equiv.OperationMode
import OnePlus9.Sensors.Equiv.OwnSamples
import OnePlus9.Sensors.Equiv.PendingAccounting
import OnePlus9.Sensors.Equiv.PendingWrites
import OnePlus9.Sensors.Equiv.PeriodicSensor
import OnePlus9.Sensors.Equiv.PickupFilter
import OnePlus9.Sensors.Equiv.ProcessEvents
import OnePlus9.Sensors.Equiv.QuietRelease
import OnePlus9.Sensors.Equiv.Recount
import OnePlus9.Sensors.Equiv.Reinitialization
import OnePlus9.Sensors.Equiv.Reset
import OnePlus9.Sensors.Equiv.Response
import OnePlus9.Sensors.Equiv.Routing
import OnePlus9.Sensors.Equiv.Sampling
import OnePlus9.Sensors.Equiv.SensorCalls
import OnePlus9.Sensors.Equiv.SensorList
import OnePlus9.Sensors.Equiv.SensorThread
import OnePlus9.Sensors.Equiv.Session
import OnePlus9.Sensors.Equiv.Stages
import OnePlus9.Sensors.Equiv.StaticList
import OnePlus9.Sensors.Equiv.StopThreads
import OnePlus9.Sensors.Equiv.SysfsPollingOneShotSensor
import OnePlus9.Sensors.Equiv.System
import OnePlus9.Sensors.Equiv.Threads
import OnePlus9.Sensors.Equiv.Timeout
import OnePlus9.Sensors.Equiv.Waits
import OnePlus9.Sensors.Equiv.WakePipe
import OnePlus9.Sensors.Equiv.WakeUps
import OnePlus9.Sensors.Equiv.Wakelock
import OnePlus9.Sensors.Equiv.WakelockCount
import OnePlus9.Sensors.Equiv.WakelockHeld
import OnePlus9.Sensors.HalProxy
import OnePlus9.Sensors.Handle
import OnePlus9.Sensors.Loader
import OnePlus9.Sensors.PendingWrites
import OnePlus9.Sensors.PeriodicSensor
import OnePlus9.Sensors.ProcessEvents
import OnePlus9.Sensors.StopThreads
import OnePlus9.Sensors.SubHal
import OnePlus9.Sensors.SysfsPollingOneShotSensor
import OnePlus9.Sensors.System
import OnePlus9.Sensors.Types
import OnePlus9.Sensors.Waits
import OnePlus9.Sensors.Wakelock
