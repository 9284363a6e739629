import OnePlus9.Sensors.Types

/-!
# Sub-HALs

A sub-HAL owns sensors and answers the requests the proxy routes to it.  Two kinds appear in the
proxy's list: this repository's own `SensorsSubHal` (`SensorsSubHal.cpp`, `Sensor.cpp`), which is
modelled, and the vendor's sub-HALs, which are loaded from shared objects and known only by their
answers (`VendorSubHal`).

The proxy holds each sub-HAL through a wrapper.  The wrapper of the model also records the calls
the sub-HAL received.
-/

namespace OnePlus9

/-- A request for one sensor, as a sub-HAL receives it: with its local handle. -/
inductive SubHalCall where
  | activate (sensorHandle : Int32) (enabled : Bool)
  | batch (sensorHandle : Int32) (samplingPeriodNs maxReportLatencyNs : Int64)
  | flush (sensorHandle : Int32)
  | injectSensorData (event : Event)
  deriving DecidableEq

/-! ### `Sensor.cpp` -/

/-- The state of a `SysfsPollingOneShotSensor` that requests read and write. -/
structure Sensor where
  mSensorInfo : SensorInfo
  mIsEnabled : Bool
  mMode : OperationMode
  deriving DecidableEq

namespace Sensor

/-- The constructor of a `SysfsPollingOneShotSensor`. -/
def sysfsPollingOneShotSensor (sensorHandle : Int32) (typeAsString : String) (type : SensorType) :
    Sensor where
  mSensorInfo := ⟨sensorHandle, type, typeAsString, ONE_SHOT_MODE ||| WAKE_UP⟩
  mIsEnabled := false
  mMode := .normal

/-- `DoubleTapSensor`. -/
def doubleTapSensor (sensorHandle : Int32) : Sensor :=
  sysfsPollingOneShotSensor sensorHandle "co.aospa.sensor.double_tap"
    (.other (DEVICE_PRIVATE_BASE + 1))

/-- `SingleTapSensor`. -/
def singleTapSensor (sensorHandle : Int32) : Sensor :=
  sysfsPollingOneShotSensor sensorHandle "co.aospa.sensor.single_tap"
    (.other (DEVICE_PRIVATE_BASE + 1))

def activate (enable : Bool) (s : Sensor) : Sensor :=
  if s.mIsEnabled ≠ enable then { s with mIsEnabled := enable } else s

/-- `OneShotSensor::flush`: one-shot sensors do not flush. -/
def flush (_ : Sensor) : Result := .badValue

def setOperationMode (mode : OperationMode) (s : Sensor) : Sensor :=
  if s.mMode ≠ mode then { s with mMode := mode } else s

/-- `isWakeUpSensor`. -/
def isWakeUpSensor (s : Sensor) : Bool := s.mSensorInfo.flags &&& WAKE_UP != 0

/-- `SysfsPollingOneShotSensor::readEvents`, with the two words that `fillEventData` sets. -/
def readEvents (s : Sensor) : List Event :=
  [⟨s.mSensorInfo.sensorHandle, s.mSensorInfo.type, ⟨0, 0, []⟩⟩]

def supportsDataInjection (s : Sensor) : Bool := s.mSensorInfo.flags &&& DATA_INJECTION != 0

def injectEvent (event : Event) (s : Sensor) : Result :=
  -- Operation environment data, which the sensor takes in any mode.
  if event.sensorType = .additionalInfo then .ok
  else if !s.supportsDataInjection then .invalidOperation
  else if s.mMode = .dataInjection then .ok
  else .badValue

end Sensor

/-! ### `SensorsSubHal.cpp` -/

/-- The sub-HAL of this repository. -/
structure SensorsSubHal where
  mSensors : Std.TreeMap Int32 Sensor
  mCurrentOperationMode : OperationMode

namespace SensorsSubHal

/-- The constructor: two `AddSensor` calls, with `mNextHandle` counting from 1. -/
def construct : SensorsSubHal where
  mSensors :=
    ((∅ : Std.TreeMap Int32 Sensor).insert 1 (Sensor.doubleTapSensor 1)).insert 2
      (Sensor.singleTapSensor 2)
  mCurrentOperationMode := .normal

def getSensorsList (h : SensorsSubHal) : List SensorInfo :=
  h.mSensors.toList.map fun sensor => sensor.2.mSensorInfo

/-- The loop over all sensors, then the sub-HAL's own field. -/
def setOperationMode (mode : OperationMode) (h : SensorsSubHal) : Result × SensorsSubHal :=
  (.ok,
    { h with
      mSensors := h.mSensors.map fun _ sensor => sensor.setOperationMode mode
      mCurrentOperationMode := mode })

def initializeSubHal (h : SensorsSubHal) : Result × SensorsSubHal :=
  (.ok, (h.setOperationMode .normal).2)

/-- `activate`, `batch`, `flush` and `injectSensorData_2_1`: look the sensor up and forward. -/
def call (c : SubHalCall) (h : SensorsSubHal) : Result × SensorsSubHal :=
  match c with
  | .activate sensorHandle enabled =>
    match h.mSensors[sensorHandle]? with
    | some sensor =>
      (.ok, { h with mSensors := h.mSensors.insert sensorHandle (sensor.activate enabled) })
    | none => (.badValue, h)
  | .batch sensorHandle _ _ =>
    match h.mSensors[sensorHandle]? with
    | some _ => (.ok, h)
    | none => (.badValue, h)
  | .flush sensorHandle =>
    match h.mSensors[sensorHandle]? with
    | some sensor => (sensor.flush, h)
    | none => (.badValue, h)
  | .injectSensorData event =>
    match h.mSensors[event.sensorHandle]? with
    | some sensor => (sensor.injectEvent event, h)
    | none => (.badValue, h)

end SensorsSubHal

/-! ### Sub-HALs in general -/

/-- A vendor's sub-HAL: it accepts a fixed set of operation modes, `NORMAL` among them, keeps its
mode when it rejects one, and goes to `NORMAL` when it is initialized. -/
structure VendorSubHal where
  sensors : List SensorInfo
  /-- What `setOperationMode` returns; `ok` means that the mode is accepted. -/
  setOperationModeResult : OperationMode → Result
  /-- `NORMAL` is accepted. -/
  normal_accepted : setOperationModeResult .normal = .ok
  initializeResult : Result
  /-- What the requests for single sensors return. -/
  respond : SubHalCall → Result
  mode : OperationMode

/-- A sub-HAL. -/
inductive SubHal where
  | sensorsSubHal (h : SensorsSubHal)
  | vendor (h : VendorSubHal)

namespace SubHal

def getSensorsList : SubHal → List SensorInfo
  | sensorsSubHal h => h.getSensorsList
  | vendor h => h.sensors

def setOperationMode (mode : OperationMode) : SubHal → Result × SubHal
  | sensorsSubHal h => ((h.setOperationMode mode).1, sensorsSubHal (h.setOperationMode mode).2)
  | vendor h =>
    if h.setOperationModeResult mode = .ok then (.ok, vendor { h with mode := mode })
    else (h.setOperationModeResult mode, vendor h)

def initializeSubHal : SubHal → Result × SubHal
  | sensorsSubHal h => (h.initializeSubHal.1, sensorsSubHal h.initializeSubHal.2)
  | vendor h => (h.initializeResult, vendor { h with mode := .normal })

def call (c : SubHalCall) : SubHal → Result × SubHal
  | sensorsSubHal h => ((h.call c).1, sensorsSubHal (h.call c).2)
  | vendor h => (h.respond c, vendor h)

end SubHal

/-- An entry of `mSubHalList`, with the calls its sub-HAL received, oldest first. -/
structure SubHalWrapper where
  subHal : SubHal
  calls : List SubHalCall

namespace SubHalWrapper

def getSensorsList (w : SubHalWrapper) : List SensorInfo := w.subHal.getSensorsList

def setOperationMode (mode : OperationMode) (w : SubHalWrapper) : Result × SubHalWrapper :=
  ((w.subHal.setOperationMode mode).1, { w with subHal := (w.subHal.setOperationMode mode).2 })

def initializeSubHal (w : SubHalWrapper) : Result × SubHalWrapper :=
  (w.subHal.initializeSubHal.1, { w with subHal := w.subHal.initializeSubHal.2 })

def call (c : SubHalCall) (w : SubHalWrapper) : Result × SubHalWrapper :=
  ((w.subHal.call c).1, { subHal := (w.subHal.call c).2, calls := w.calls ++ [c] })

end SubHalWrapper

end OnePlus9
