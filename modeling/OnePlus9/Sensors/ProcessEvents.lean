import OnePlus9.Sensors.Types
import OnePlus9.Sensors.Handle

/-!
# Processing a batch of posted events (`HalProxyCallback.cpp`)

A sub-HAL posts through its own callback object, which knows the sub-HAL's index.
`processEvents` tags the handle of every event with that index (and the handle inside a
`DYNAMIC_SENSOR_META` payload), drops the pick-up samples that mean "not picked up", and counts
the wake-up events among the rest.  It looks sensors up through `getSensorInfo`, which is
`mSensors[handle]` and inserts an entry for an unknown handle, so the table is threaded through.
-/

namespace OnePlus9.HalProxyCallback

/-- What `processEvents` returns, and the sensor table it leaves behind. -/
structure ProcessedEvents where
  eventsOut : List Event
  numWakeupEvents : ℕ
  mSensors : SensorMap

/-- The handle tagging at the head of the loop body. -/
def tagEvent (mSubHalIndex : Int32) (event : Event) : Event :=
  { event with
    sensorHandle := setSubHalIndex event.sensorHandle (sizeOfInt32 mSubHalIndex)
    u :=
      if event.sensorType = .dynamicSensorMeta then
        event.u.setDynamicSensorHandle
          (setSubHalIndex event.u.dynamicSensorHandle (sizeOfInt32 mSubHalIndex))
      else event.u }

/-- The condition of the `continue` in the loop body, on the looked-up sensor. -/
def isFiltered (sensor : SensorInfo) (event : Event) : Bool :=
  sensor.type == .pickUpGesture && event.u.scalarIsNonzero

/-- The loop over the batch, front to back. -/
def processEvents (mSubHalIndex : Int32) : List Event → SensorMap → ProcessedEvents
  | [], mSensors => ⟨[], 0, mSensors⟩
  | event :: events, mSensors =>
    let event := tagEvent mSubHalIndex event
    let (sensor, mSensors) := mSensors.index event.sensorHandle
    let out := processEvents mSubHalIndex events mSensors
    -- `continue`
    if isFiltered sensor event then out
    else
      { out with
        eventsOut := event :: out.eventsOut
        numWakeupEvents :=
          out.numWakeupEvents + if sensor.flags &&& WAKE_UP != 0 then 1 else 0 }

/-- The two `ALOG_ASSERT`s of `postEvents`, on what `processEvents` counted. -/
def assertionsHold (numWakeupEvents : ℕ) (wakelockIsLocked : Bool) : Bool :=
  if numWakeupEvents > 0 then wakelockIsLocked else !wakelockIsLocked

end OnePlus9.HalProxyCallback
