import OnePlus9.Sensors.SubHal

/-!
# Sampling periods (`Sensor.cpp`, `SensorsSubHal.cpp`)

`SensorsSubHal::batch` looks the sensor up and passes the period to its `batch`, a virtual function.
`Sensor::batch` clamps the period to what the sensor supports; `OneShotSensor` has no period and
overrides it with nothing.  `SamplingSensor` has what `batch` reads and writes of a sensor.

The period is an `int64_t` in the interface and in `mSamplingPeriodNs`, and an `int32_t` where it is
a parameter of `Sensor::batch`.
-/

namespace OnePlus9

/-- A sensor, as `batch` sees it. -/
structure SamplingSensor where
  /-- Whether it is a `OneShotSensor`. -/
  isOneShot : Bool
  /-- The limits of `mSensorInfo`, in microseconds. -/
  minDelay : Int32
  maxDelay : Int32
  mSamplingPeriodNs : Int64
  deriving DecidableEq

/-- `std::clamp`. -/
def clampInt32 (v lo hi : Int32) : Int32 :=
  if v < lo then lo else if hi < v then hi else v

namespace SamplingSensor

/-- A sensor that the constructor of `Sensor` leaves, with the `minDelay` of a derived class. -/
def construct (minDelay : Int32) : SamplingSensor where
  isOneShot := false
  minDelay := minDelay
  -- `kDefaultMaxDelayUs`
  maxDelay := 1000 * 1000
  mSamplingPeriodNs := 0

/-- The constructor of `OneShotSensor`. -/
def oneShot : SamplingSensor where
  isOneShot := true
  minDelay := -1
  maxDelay := 0
  mSamplingPeriodNs := 0

/-- `Sensor::batch`, and whether it notifies the thread. -/
def sensorBatch (samplingPeriodNs : Int32) (s : SamplingSensor) : SamplingSensor × Bool :=
  let samplingPeriodNs := clampInt32 samplingPeriodNs (s.minDelay * 1000) (s.maxDelay * 1000)
  if s.mSamplingPeriodNs ≠ samplingPeriodNs.toInt64 then
    ({ s with mSamplingPeriodNs := samplingPeriodNs.toInt64 }, true)
  else (s, false)

/-- `batch` of the class of the sensor. -/
def batch (samplingPeriodNs : Int32) (s : SamplingSensor) : SamplingSensor × Bool :=
  if s.isOneShot then (s, false) else s.sensorBatch samplingPeriodNs

end SamplingSensor

/-- `SensorsSubHal::batch`, on the sensors of the sub-HAL. -/
def SensorsSubHal.batch (sensorHandle : Int32) (samplingPeriodNs _maxReportLatencyNs : Int64)
    (mSensors : Std.TreeMap Int32 SamplingSensor) : Result × Std.TreeMap Int32 SamplingSensor :=
  match mSensors[sensorHandle]? with
  | some sensor =>
    -- The period is narrowed to the type of the parameter.
    (.ok, mSensors.insert sensorHandle (sensor.batch samplingPeriodNs.toInt32).1)
  | none => (.badValue, mSensors)

end OnePlus9
