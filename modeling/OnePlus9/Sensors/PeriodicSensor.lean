import OnePlus9.Library.ConditionVariable
import OnePlus9.Library.Machine
import OnePlus9.Sensors.Batch
import Mathlib.Data.Int.Notation

/-!
# The thread of a sampled sensor (`Sensor.cpp`)

`Sensor::run` is the thread of a sensor that does not override it.  While the sensor is enabled and
in `NORMAL` it takes a sample whenever the sampling period has passed, and sleeps in between; it has
`mRunMutex` all the time but while it waits.  `activate`, `setOperationMode` and the destructor lock
the mutex for all they do and notify `mWaitCV` before they release it, so each is one step.  `batch`
and `flush` lock nothing: what they read or write and what they then do are two steps.

The clock of the loop is `CLOCK_REALTIME`, which anyone can set, so its readings are part of the
actions and need not grow.  They are integers, far from the limits of an `int64_t`.  `wait_for` can
time out at any moment: how long the thread really sleeps is no concern of this file.
-/

namespace OnePlus9

open ConditionVariable

/-- A sample that the thread takes.  No step reads what is recorded of it. -/
structure Sample where
  /-- What the clock read. -/
  now : ℤ
  /-- `mLastSampleTimeNs`, when `run` compared the two. -/
  last : ℤ
  /-- `mSamplingPeriodNs`, then. -/
  period : ℤ
  deriving DecidableEq, Repr

/-- Where `Sensor::run` is. -/
inductive SamplePc where
  /-- About to lock `mRunMutex`, at the beginning. -/
  | locking
  /-- At the test of the loop. -/
  | loopTest
  /-- In `mWaitCV.wait`. -/
  | waiting (pc : WaitPc)
  /-- The clock was read. -/
  | comparing (now : ℤ)
  /-- A sample is due, and `mLastSampleTimeNs` is set. -/
  | sampling (sample : Sample)
  /-- About to call `mCallback->postEvents`. -/
  | posting (sample : Sample) (nextSampleTime : ℤ)
  /-- About to release the mutex and to block in `wait_for`. -/
  | willSleep (nextSampleTime : ℤ)
  /-- Blocked in `wait_for`. -/
  | sleeping (nextSampleTime : ℤ)
  /-- `wait_for` is over; about to lock the mutex again. -/
  | relocking
  /-- The thread has ended. -/
  | exited
  deriving DecidableEq, Repr

namespace SamplePc

/-- A notification of `mWaitCV`. -/
def notify : SamplePc → SamplePc
  | waiting pc => waiting pc.notify
  | sleeping _ => relocking
  | pc => pc

/-- Whether the thread has `mRunMutex`. -/
def holdsMutex : SamplePc → Bool
  | loopTest | comparing _ | sampling _ | posting .. | willSleep _ => true
  | waiting pc => pc.holdsMutex
  | locking | sleeping _ | relocking | exited => false

end SamplePc

/-- A call of `mCallback->postEvents`, by `run` or by `flush`. -/
structure SensorPost where
  events : List Event
  wakeup : Bool
  /-- `mIsEnabled` at the call. -/
  enabled : Bool
  /-- `mMode` at the call. -/
  mode : OperationMode
  /-- The sample that `run` posts. -/
  sample : Option Sample
  deriving DecidableEq, Repr

/-- Where the object is in its lifetime. -/
inductive SensorLifePc where
  | alive
  /-- In `~Sensor`, at `mRunThread.join()`. -/
  | joining
  | joined
  deriving DecidableEq, Repr

/-- A sensor that is sampled, and its threads. -/
structure PeriodicSensor where
  mSensorInfo : SensorInfo
  mIsEnabled : Bool
  mMode : OperationMode
  mStopThread : Bool
  /-- What `batch` reads and writes. -/
  batching : SamplingSensor
  mLastSampleTimeNs : ℤ
  runPc : SamplePc
  /-- How many `batch` calls have yet to notify. -/
  batches : ℕ
  /-- How many `flush` calls have yet to post. -/
  flushes : ℕ
  lifePc : SensorLifePc
  posts : List SensorPost

namespace PeriodicSensor

/-- Who takes the next step. -/
inductive Action where
  | activate (enable : Bool)
  | setOperationMode (mode : OperationMode)
  /-- `batch(samplingPeriodNs)`, up to the change of `mSamplingPeriodNs`. -/
  | batch (samplingPeriodNs : Int32)
  /-- A `batch` call notifies `mWaitCV`. -/
  | notifyBatch
  /-- `flush`, up to the test of `mIsEnabled`. -/
  | flush
  /-- A `flush` call posts its event. -/
  | postFlush
  /-- The next step of `run`; `now` is what `clock_gettime` reads. -/
  | run (now : ℤ)
  /-- `wait_for` times out. -/
  | timeOut
  /-- A wait is over for no reason. -/
  | wakeUp
  /-- The next step of the destructor. -/
  | destroy
  deriving Repr

/-- The constructor of `Sensor`, with what a derived class makes of `mSensorInfo`, the two limits
included. -/
def start (mSensorInfo : SensorInfo) (minDelay maxDelay : Int32) : PeriodicSensor where
  mSensorInfo := mSensorInfo
  mIsEnabled := false
  mMode := .normal
  mStopThread := false
  batching := { SamplingSensor.construct minDelay with maxDelay := maxDelay }
  mLastSampleTimeNs := 0
  runPc := .locking
  batches := 0
  flushes := 0
  lifePc := .alive
  posts := []

/-- `mSamplingPeriodNs`, as a number. -/
def samplingPeriod (s : PeriodicSensor) : ℤ := s.batching.mSamplingPeriodNs.toInt

/-- What the loop of `run` tests: it samples only such a sensor. -/
def armed (s : PeriodicSensor) : Bool := s.mIsEnabled && s.mMode == .normal

/-! ### What is posted -/

/-- `SensorStatus::ACCURACY_HIGH`. -/
def ACCURACY_HIGH : UInt32 := 3
/-- `MetaDataEventType::META_DATA_FLUSH_COMPLETE`. -/
def META_DATA_FLUSH_COMPLETE : UInt32 := 1

/-- `isWakeUpSensor`. -/
def isWakeUpSensor (s : PeriodicSensor) : Bool := s.mSensorInfo.flags &&& WAKE_UP != 0

/-- `readEvents`: a vector of zeros. -/
def readEvents (s : PeriodicSensor) : List Event :=
  [⟨s.mSensorInfo.sensorHandle, s.mSensorInfo.type, ⟨0, 0, [0, ACCURACY_HIGH]⟩⟩]

/-- The event that `flush` posts. -/
def flushEvents (s : PeriodicSensor) : List Event :=
  [⟨s.mSensorInfo.sensorHandle, .metaData, ⟨META_DATA_FLUSH_COMPLETE, 0, []⟩⟩]

/-- `mCallback->postEvents(events, isWakeUpSensor())` -/
def postEvents (events : List Event) (sample : Option Sample) (s : PeriodicSensor) :
    PeriodicSensor :=
  { s with posts := s.posts ++ [⟨events, s.isWakeUpSensor, s.mIsEnabled, s.mMode, sample⟩] }

/-! ### The calls -/

/-- `activate(enable)`. -/
def activate (enable : Bool) (s : PeriodicSensor) : Option PeriodicSensor :=
  if s.lifePc = .alive ∧ !s.runPc.holdsMutex then
    some <|
      if s.mIsEnabled ≠ enable then { s with mIsEnabled := enable, runPc := s.runPc.notify } else s
  else none

/-- `setOperationMode(mode)`. -/
def setOperationMode (mode : OperationMode) (s : PeriodicSensor) : Option PeriodicSensor :=
  if s.lifePc = .alive ∧ !s.runPc.holdsMutex then
    some <| if s.mMode ≠ mode then { s with mMode := mode, runPc := s.runPc.notify } else s
  else none

/-- `batch(samplingPeriodNs)`.  Where the period does not change the call is over. -/
def batch (samplingPeriodNs : Int32) (s : PeriodicSensor) : Option PeriodicSensor :=
  if s.lifePc = .alive then
    let (batching, notifies) := s.batching.sensorBatch samplingPeriodNs
    some { s with batching := batching, batches := s.batches + notifies.toNat }
  else none

def notifyBatch (s : PeriodicSensor) : Option PeriodicSensor :=
  if s.batches = 0 then none
  else some { s with batches := s.batches - 1, runPc := s.runPc.notify }

/-- `flush()`.  For a disabled sensor the call returns `BAD_VALUE` at once. -/
def flush (s : PeriodicSensor) : Option PeriodicSensor :=
  if s.lifePc = .alive then some { s with flushes := s.flushes + s.mIsEnabled.toNat } else none

def postFlush (s : PeriodicSensor) : Option PeriodicSensor :=
  if s.flushes = 0 then none
  else some { s.postEvents s.flushEvents none with flushes := s.flushes - 1 }

/-! ### `run` -/

/-- The next step of `run`. -/
def run (now : ℤ) (s : PeriodicSensor) : Option PeriodicSensor :=
  match s.runPc with
  | .locking | .relocking => some { s with runPc := .loopTest }
  | .loopTest =>
    if s.mStopThread then some { s with runPc := .exited }
    else if !s.mIsEnabled || s.mMode == .dataInjection then
      some { s with runPc := .waiting .test }
    else some { s with runPc := .comparing now }
  | .waiting .passed => some { s with runPc := .loopTest }
  | .waiting pc =>
    (pc.step (s.armed || s.mStopThread)).map fun pc => { s with runPc := .waiting pc }
  | .comparing now =>
    let nextSampleTime := s.mLastSampleTimeNs + s.samplingPeriod
    some <|
      if now ≥ nextSampleTime then
        { s with
          mLastSampleTimeNs := now
          runPc := .sampling ⟨now, s.mLastSampleTimeNs, s.samplingPeriod⟩ }
      else { s with runPc := .willSleep nextSampleTime }
  -- `mSamplingPeriodNs` is read a second time, and `batch` does not wait for the mutex.
  | .sampling sample =>
    some { s with runPc := .posting sample (s.mLastSampleTimeNs + s.samplingPeriod) }
  | .posting sample nextSampleTime =>
    some { s.postEvents s.readEvents (some sample) with runPc := .willSleep nextSampleTime }
  | .willSleep nextSampleTime => some { s with runPc := .sleeping nextSampleTime }
  | .sleeping _ | .exited => none

def timeOut (s : PeriodicSensor) : Option PeriodicSensor :=
  match s.runPc with
  | .sleeping _ => some { s with runPc := .relocking }
  | _ => none

/-! ### The destructor -/

/-- The next step of `~Sensor`.  A sensor is destroyed when no call on it is under way. -/
def destroy (s : PeriodicSensor) : Option PeriodicSensor :=
  match s.lifePc with
  | .alive =>
    if s.batches = 0 ∧ s.flushes = 0 ∧ !s.runPc.holdsMutex then
      some
        { s with
          mStopThread := true
          mIsEnabled := false
          runPc := s.runPc.notify
          lifePc := .joining }
    else none
  | .joining => if s.runPc = .exited then some { s with lifePc := .joined } else none
  | .joined => none

def step (s : PeriodicSensor) : Action → Option PeriodicSensor
  | .activate enable => s.activate enable
  | .setOperationMode mode => s.setOperationMode mode
  | .batch samplingPeriodNs => s.batch samplingPeriodNs
  | .notifyBatch => s.notifyBatch
  | .flush => s.flush
  | .postFlush => s.postFlush
  | .run now => s.run now
  | .timeOut => s.timeOut
  | .wakeUp => some { s with runPc := s.runPc.notify }
  | .destroy => s.destroy

/-- The interleavings of the clients, the thread and the destructor. -/
def machine : Machine PeriodicSensor Action := ⟨step⟩

end PeriodicSensor

end OnePlus9
