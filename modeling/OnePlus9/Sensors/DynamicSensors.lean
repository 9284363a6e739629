import OnePlus9.Library.Machine
import OnePlus9.Library.Mirror
import OnePlus9.Sensors.HalProxy

/-!
# Telling the framework about dynamic sensors

`onDynamicSensorsConnected` and `onDynamicSensorsDisconnected` update `mDynamicSensors` with
`mDynamicSensorsMutex`, release it, and then notify `mDynamicSensorsCallback`: two steps, and other
calls can get in between.  `initializeCommon` clears `mDynamicSensors` and replaces the callback in
two statements, without the mutex.

A step here is one of those steps.  A notification goes to the callback that is current when it is
sent.  What the framework knows is what the current callback was told (`told`), which for a new
callback is nothing.  Sub-HALs are given their way to call back by an initialization, after the
callback is set, so no sub-HAL calls before there is a callback.
-/

namespace OnePlus9

/-- The dynamic sensors, and what the framework was told of them. -/
structure DynamicSensors where
  proxy : HalProxy Event
  /-- The calls that have updated `mDynamicSensors` and have yet to notify, oldest first. -/
  pending : List (Notice Int32)
  /-- The handles the current callback was told are connected, and not since disconnected. -/
  told : Int32 → Bool
  /-- The `initializeCommon` call that has cleared `mDynamicSensors` and has yet to replace the
  callback, if any. -/
  initializing : Option HalProxy.InitializeArgs

namespace DynamicSensors

/-- Who takes the next step. -/
inductive Action where
  /-- `onDynamicSensorsConnected`, up to the notification. -/
  | connect (dynamicSensorsAdded : List SensorInfo) (subHalIndex : Int32)
  /-- `onDynamicSensorsDisconnected`, up to the notification. -/
  | disconnect (dynamicSensorHandlesRemoved : List Int32) (subHalIndex : Int32)
  /-- The notification of the `k`-th pending call. -/
  | notify (k : ℕ)
  /-- `initializeCommon` clears `mDynamicSensors`. -/
  | clear (args : HalProxy.InitializeArgs)
  /-- `initializeCommon` replaces `mDynamicSensorsCallback`. -/
  | setCallback

/-- A freshly constructed proxy. -/
def start (subHalList : List SubHalWrapper) : DynamicSensors where
  proxy := .construct subHalList
  pending := []
  told := fun _ => false
  initializing := none

/-- The handles of the connected sensors. -/
def connected (s : DynamicSensors) : Int32 → Bool := fun h => s.proxy.mDynamicSensors.contains h

def connect (dynamicSensorsAdded : List SensorInfo) (subHalIndex : Int32) (s : DynamicSensors) :
    Option DynamicSensors :=
  if s.proxy.mDynamicSensorsCallback.isSome then
    let (sensors, proxy) := s.proxy.onDynamicSensorsConnected dynamicSensorsAdded subHalIndex
    some
      { s with
        proxy := proxy
        pending := s.pending ++ [⟨sensors.map SensorInfo.sensorHandle, true⟩] }
  else none

def disconnect (dynamicSensorHandlesRemoved : List Int32) (subHalIndex : Int32)
    (s : DynamicSensors) : Option DynamicSensors :=
  if s.proxy.mDynamicSensorsCallback.isSome then
    let (sensorHandles, proxy) :=
      s.proxy.onDynamicSensorsDisconnected dynamicSensorHandlesRemoved subHalIndex
    some
      { s with
        proxy := proxy
        pending := s.pending ++ [⟨sensorHandles, false⟩] }
  else none

def notify (k : ℕ) (s : DynamicSensors) : Option DynamicSensors :=
  s.pending[k]?.map fun n => { s with pending := s.pending.eraseIdx k, told := n.apply s.told }

def clear (args : HalProxy.InitializeArgs) (s : DynamicSensors) : Option DynamicSensors :=
  match s.initializing with
  | some _ => none
  | none =>
    some
      { s with
        proxy := s.proxy.initStage args 0 .clearDynamicSensors
        initializing := some args }

def setCallback (s : DynamicSensors) : Option DynamicSensors :=
  s.initializing.map fun args =>
    { s with
      proxy := s.proxy.initStage args 0 .setDynamicSensorsCallback
      told := fun _ => false
      initializing := none }

def step (s : DynamicSensors) : Action → Option DynamicSensors
  | .connect dynamicSensorsAdded subHalIndex => s.connect dynamicSensorsAdded subHalIndex
  | .disconnect dynamicSensorHandlesRemoved subHalIndex =>
    s.disconnect dynamicSensorHandlesRemoved subHalIndex
  | .notify k => s.notify k
  | .clear args => s.clear args
  | .setCallback => s.setCallback

/-- The interleavings of all calls. -/
def machine : Machine DynamicSensors Action := ⟨step⟩

end DynamicSensors

end OnePlus9
