import OnePlus9.Sensors.Handle
import OnePlus9.Sensors.PendingWrites
import OnePlus9.Sensors.SubHal
import OnePlus9.Sensors.Wakelock

/-!
# The multi-HAL proxy (`HalProxy.cpp`)

`HalProxy ε` is the state of the proxy, over the type `ε` of the values its event queues hold.
The functions are those of `HalProxy.cpp`: the sensor list and the dynamic sensors, the requests
that are routed to one sub-HAL by the handle, the operation mode, `postEventsToMessageQueue`, and
the stages of `initializeCommon`.

`initializeCommon` runs while other threads post events and while the two worker threads run, so
it is split into stages (`InitStage`), each a statement or a few that touch the same fields.  The
threads and the interleavings are in `System.lean`.
-/

namespace OnePlus9

/-- The constants of the proxy's headers. -/
structure Constants where
  kMaxSizePendingWriteEventsQueue : ℕ
  kWakelockTimeoutNs : ℤ
  kWakelockTimeoutNs_pos : 0 < kWakelockTimeoutNs

/-- The state of the proxy. -/
structure HalProxy (ε : Type*) where
  mSubHalList : List SubHalWrapper
  mSensors : SensorMap
  mDynamicSensors : SensorMap
  /-- The index in `mSubHalList` of the sub-HAL that may use direct channels. -/
  mDirectChannelSubHal : Option ℕ
  /-- Which callback object the framework passed to the last initialization. -/
  mDynamicSensorsCallback : Option ℕ
  mCurrentOperationMode : OperationMode
  mThreadsRun : Bool
  wakelock : SharedWakelock
  pendingWrites : PendingWrites ε
  eventQueue : EventMessageQueue ε
  /-- Whether `mEventQueueFlag` is not null. -/
  mEventQueueFlag : Bool
  /-- Whether `mWakelockQueueFlag` is not null. -/
  mWakelockQueueFlag : Bool

namespace HalProxy

variable {ε : Type*}

/-! ### The sensor list -/

/-- `setDirectChannelFlags`, with the `mDirectChannelSubHal` it leaves behind: the first sub-HAL
with a direct-channel sensor is elected, sensors of all others lose the flags. -/
def setDirectChannelFlags (sensorInfo : SensorInfo) (subHal : ℕ)
    (mDirectChannelSubHal : Option ℕ) : SensorInfo × Option ℕ :=
  let sensorSupportsDirectChannel :=
    sensorInfo.flags &&& (MASK_DIRECT_REPORT ||| MASK_DIRECT_CHANNEL) != 0
  if mDirectChannelSubHal = none ∧ sensorSupportsDirectChannel then (sensorInfo, some subHal)
  -- Once one is elected, only it keeps the flags.
  else if mDirectChannelSubHal ≠ none ∧ some subHal ≠ mDirectChannelSubHal then
    ({ sensorInfo with
        flags := sensorInfo.flags &&& ~~~(MASK_DIRECT_REPORT ||| MASK_DIRECT_CHANNEL) },
      mDirectChannelSubHal)
  else (sensorInfo, mDirectChannelSubHal)

/-- The standardization of the oplus pick-up sensor. -/
def standardizePickup (sensor : SensorInfo) : SensorInfo :=
  if sensor.typeAsString = "android.sensor.tilt_detector" then
    { sensor with
      type := .pickUpGesture
      typeAsString := SENSOR_STRING_TYPE_PICK_UP_GESTURE }
  else sensor

/-- The loop body of `initializeSensorList`, for one sensor of the sub-HAL at `subHalIndex`. -/
def listSensor (subHalIndex : ℕ) (acc : SensorMap × Option ℕ) (sensor : SensorInfo) :
    SensorMap × Option ℕ :=
  if !subHalIndexIsClear sensor.sensorHandle then acc
  else
    let sensor := { sensor with sensorHandle := setSubHalIndex sensor.sensorHandle subHalIndex }
    let (sensor, mDirectChannelSubHal) := setDirectChannelFlags sensor subHalIndex acc.2
    let sensor := standardizePickup sensor
    (acc.1.insert sensor.sensorHandle sensor, mDirectChannelSubHal)

/-- `initializeSensorList`: all sensors of all sub-HALs. -/
def initializeSensorList (p : HalProxy ε) : HalProxy ε :=
  let acc := p.mSubHalList.zipIdx.foldl
    (fun acc (subHal, subHalIndex) => subHal.getSensorsList.foldl (listSensor subHalIndex) acc)
    (p.mSensors, p.mDirectChannelSubHal)
  { p with
    mSensors := acc.1
    mDirectChannelSubHal := acc.2 }

/-- The constructor: the proxy of a list of sub-HALs. -/
def construct (subHalList : List SubHalWrapper) : HalProxy ε :=
  initializeSensorList
    { mSubHalList := subHalList
      mSensors := ∅
      mDynamicSensors := ∅
      mDirectChannelSubHal := none
      mDynamicSensorsCallback := none
      mCurrentOperationMode := .normal
      mThreadsRun := false
      wakelock := .fresh
      pendingWrites := .empty
      eventQueue := ⟨0, []⟩
      mEventQueueFlag := false
      mWakelockQueueFlag := false }

/-- `getSensorsList_2_1`. -/
def getSensorsList_2_1 (p : HalProxy ε) : List SensorInfo := p.mSensors.toList.map Prod.snd

/-! ### Dynamic sensors -/

/-- The loop body of `onDynamicSensorsConnected`. -/
def connectSensor (subHalIndex : Int32) (acc : List SensorInfo × HalProxy ε)
    (sensor : SensorInfo) : List SensorInfo × HalProxy ε :=
  if !subHalIndexIsClear sensor.sensorHandle then acc
  else
    let sensor := { sensor with
      sensorHandle := setSubHalIndex sensor.sensorHandle (sizeOfInt32 subHalIndex) }
    (acc.1 ++ [sensor],
      { acc.2 with mDynamicSensors := acc.2.mDynamicSensors.insert sensor.sensorHandle sensor })

/-- The locked loop of `onDynamicSensorsConnected`, and the list it collects for the callback. -/
def onDynamicSensorsConnected (dynamicSensorsAdded : List SensorInfo) (subHalIndex : Int32)
    (p : HalProxy ε) : List SensorInfo × HalProxy ε :=
  dynamicSensorsAdded.foldl (connectSensor subHalIndex) ([], p)

/-- The loop body of `onDynamicSensorsDisconnected`. -/
def disconnectSensor (subHalIndex : Int32) (acc : List Int32 × HalProxy ε)
    (sensorHandle : Int32) : List Int32 × HalProxy ε :=
  if !subHalIndexIsClear sensorHandle then acc
  else
    let sensorHandle := setSubHalIndex sensorHandle (sizeOfInt32 subHalIndex)
    if acc.2.mDynamicSensors.contains sensorHandle then
      (acc.1 ++ [sensorHandle],
        { acc.2 with mDynamicSensors := acc.2.mDynamicSensors.erase sensorHandle })
    else acc

/-- The locked loop of `onDynamicSensorsDisconnected`, and the list it collects for the
callback. -/
def onDynamicSensorsDisconnected (dynamicSensorHandlesRemoved : List Int32) (subHalIndex : Int32)
    (p : HalProxy ε) : List Int32 × HalProxy ε :=
  dynamicSensorHandlesRemoved.foldl (disconnectSensor subHalIndex) ([], p)

/-! ### Requests for one sensor -/

/-- `isSubHalIndexValid`. -/
def isSubHalIndexValid (sensorHandle : Int32) (p : HalProxy ε) : Bool :=
  extractSubHalIndex sensorHandle < p.mSubHalList.length

/-- `getSubHalForSensorHandle`: `none` stands for the undefined behaviour of indexing out of
range. -/
def getSubHalForSensorHandle (sensorHandle : Int32) (p : HalProxy ε) : Option SubHalWrapper :=
  p.mSubHalList[extractSubHalIndex sensorHandle]?

/-- The common body of the routed requests: check the index, then call the sub-HAL with the local
handle. -/
def route (sensorHandle : Int32) (request : Int32 → SubHalCall) (p : HalProxy ε) :
    Option (Result × HalProxy ε) :=
  if !p.isSubHalIndexValid sensorHandle then some (.badValue, p)
  else
    (p.getSubHalForSensorHandle sensorHandle).map fun subHal =>
      let out := subHal.call (request (clearSubHalIndex sensorHandle))
      (out.1,
        { p with mSubHalList := p.mSubHalList.set (extractSubHalIndex sensorHandle) out.2 })

def activate (sensorHandle : Int32) (enabled : Bool) (p : HalProxy ε) :
    Option (Result × HalProxy ε) :=
  p.route sensorHandle fun sensorHandle => .activate sensorHandle enabled

def batch (sensorHandle : Int32) (samplingPeriodNs maxReportLatencyNs : Int64) (p : HalProxy ε) :
    Option (Result × HalProxy ε) :=
  p.route sensorHandle fun sensorHandle =>
    .batch sensorHandle samplingPeriodNs maxReportLatencyNs

def flush (sensorHandle : Int32) (p : HalProxy ε) : Option (Result × HalProxy ε) :=
  p.route sensorHandle .flush

/-- The mode gate of `injectSensorData`: in `NORMAL` mode only `ADDITIONAL_INFO` passes. -/
def passesModeGate (event : Event) (p : HalProxy ε) : Bool :=
  !(p.mCurrentOperationMode = .normal ∧ event.sensorType ≠ .additionalInfo)

def injectSensorData (event : Event) (p : HalProxy ε) : Option (Result × HalProxy ε) :=
  if !p.passesModeGate event then some (.badValue, p)
  else
    p.route event.sensorHandle fun sensorHandle =>
      .injectSensorData { event with sensorHandle := sensorHandle }

/-! ### Direct channels -/

/-- A `configDirectReport` call as a sub-HAL receives it. -/
structure DirectReportCall where
  /-- The index in `mSubHalList` of the sub-HAL that is called. -/
  subHal : ℕ
  sensorHandle : Int32
  channelHandle : Int32
  rate : RateLevel
  deriving DecidableEq, Repr

/-- `configDirectReport`: the call that is made, or the result and the report token of a refusal. -/
def configDirectReport (sensorHandle channelHandle : Int32) (rate : RateLevel) (p : HalProxy ε) :
    Except (Result × Int32) DirectReportCall :=
  match p.mDirectChannelSubHal with
  | none => .error (.invalidOperation, -1)
  | some subHal =>
    if sensorHandle = -1 ∧ rate ≠ .stop then .error (.badValue, -1)
    else
      -- -1 denotes all sensors should be disabled
      let sensorHandle := if sensorHandle ≠ -1 then clearSubHalIndex sensorHandle else sensorHandle
      .ok ⟨subHal, sensorHandle, channelHandle, rate⟩

/-- `registerDirectChannel`: the index of the sub-HAL that is called, or the result and the channel
handle of a refusal. -/
def registerDirectChannel (p : HalProxy ε) : Except (Result × Int32) ℕ :=
  match p.mDirectChannelSubHal with
  | none => .error (.invalidOperation, -1)
  | some subHal => .ok subHal

/-- `unregisterDirectChannel`: the index of the sub-HAL that is called with `channelHandle`, or the
result of a refusal. -/
def unregisterDirectChannel (channelHandle : Int32) (p : HalProxy ε) : Except Result (ℕ × Int32) :=
  match p.mDirectChannelSubHal with
  | none => .error .invalidOperation
  | some subHal => .ok (subHal, channelHandle)

/-! ### The operation mode -/

/-- The first loop of `setOperationMode`: the result, how many sub-HALs were switched, and the
list with those switched. -/
def switchModes (mode : OperationMode) : List SubHalWrapper → Result × ℕ × List SubHalWrapper
  | [] => (.ok, 0, [])
  | subHal :: subHals =>
    let (result, subHal) := subHal.setOperationMode mode
    -- `break`: the sub-HALs behind this one are not asked.
    if result ≠ .ok then (result, 0, subHal :: subHals)
    else
      let (result, subHalIndex, subHals) := switchModes mode subHals
      (result, subHalIndex + 1, subHal :: subHals)

/-- The second loop: switch the first `n` sub-HALs back, whatever they answer. -/
def restoreModes (mode : OperationMode) (n : ℕ) (subHals : List SubHalWrapper) :
    List SubHalWrapper :=
  (subHals.take n).map (fun subHal => (subHal.setOperationMode mode).2) ++ subHals.drop n

def setOperationMode (mode : OperationMode) (p : HalProxy ε) : Result × HalProxy ε :=
  let (result, subHalIndex, subHals) := switchModes mode p.mSubHalList
  if result ≠ .ok then
    (result,
      { p with mSubHalList := restoreModes p.mCurrentOperationMode subHalIndex subHals })
  else
    (result,
      { p with
        mSubHalList := subHals
        mCurrentOperationMode := mode })

/-! ### All calls but those that post and initialize -/

/-- A call of the framework, or of a sub-HAL about its dynamic sensors. -/
inductive Request where
  | setOperationMode (mode : OperationMode)
  | activate (sensorHandle : Int32) (enabled : Bool)
  | batch (sensorHandle : Int32) (samplingPeriodNs maxReportLatencyNs : Int64)
  | flush (sensorHandle : Int32)
  | injectSensorData (event : Event)
  | onDynamicSensorsConnected (dynamicSensorsAdded : List SensorInfo) (subHalIndex : Int32)
  | onDynamicSensorsDisconnected (dynamicSensorHandlesRemoved : List Int32) (subHalIndex : Int32)

/-- The proxy after a routed request. -/
def afterRoute (result : Option (Result × HalProxy ε)) (p : HalProxy ε) : HalProxy ε :=
  (result.map Prod.snd).getD p

/-- The proxy after a call. -/
def perform (request : Request) (p : HalProxy ε) : HalProxy ε :=
  match request with
  | .setOperationMode mode => (p.setOperationMode mode).2
  | .activate sensorHandle enabled => afterRoute (p.activate sensorHandle enabled) p
  | .batch sensorHandle samplingPeriodNs maxReportLatencyNs =>
    afterRoute (p.batch sensorHandle samplingPeriodNs maxReportLatencyNs) p
  | .flush sensorHandle => afterRoute (p.flush sensorHandle) p
  | .injectSensorData event => afterRoute (p.injectSensorData event) p
  | .onDynamicSensorsConnected dynamicSensorsAdded subHalIndex =>
    (p.onDynamicSensorsConnected dynamicSensorsAdded subHalIndex).2
  | .onDynamicSensorsDisconnected dynamicSensorHandlesRemoved subHalIndex =>
    (p.onDynamicSensorsDisconnected dynamicSensorHandlesRemoved subHalIndex).2

/-! ### Posting events -/

/-- `postEventsToMessageQueue`, under `mEventQueueWriteMutex`. -/
def postEventsToMessageQueue (c : Constants) (events : List ε) (numWakeupEvents : ℕ)
    (wakelockIsLocked : Bool) (availableToWrite : ℕ) (writeOk : Bool) (now : ℤ)
    (p : HalProxy ε) : HalProxy ε :=
  let numToWrite := p.pendingWrites.numToWrite events.length availableToWrite writeOk
  { p with
    -- The whole batch is counted before it is known what becomes of it.
    wakelock :=
      if wakelockIsLocked then
        (p.wakelock.incrementRefCountAndMaybeAcquireWakelock p.mThreadsRun numWakeupEvents now).2
      else p.wakelock
    eventQueue := p.eventQueue.write (events.take numToWrite)
    pendingWrites :=
      p.pendingWrites.pushLeft c.kMaxSizePendingWriteEventsQueue events numWakeupEvents
        numToWrite }

/-! ### `initializeCommon` -/

/-- What the framework passes to an initialization, and what the environment answers in it. -/
structure InitializeArgs where
  /-- The callback object. -/
  sensorsCallback : ℕ
  /-- The capacity of the new event queue. -/
  quantumCount : ℕ
  /-- Whether `createEventFlag` succeeds for the event queue. -/
  eventFlagCreated : Bool
  /-- Whether `createEventFlag` succeeds for the wakelock queue. -/
  wakelockFlagCreated : Bool

/-- The stages of `initializeCommon` after `stopThreads` has cleared `mThreadsRun`. -/
inductive InitStage where
  | joinThreads
  | resetSharedWakelock
  | disableAllSensors
  | clearPendingQueue
  | clearPendingSize
  | clearDynamicSensors
  | setDynamicSensorsCallback
  | setEventQueue
  | createEventFlags
  | setThreadsRun
  | startThreads
  | initializeSubHals
  | setOperationMode
  deriving DecidableEq, Repr

/-- The stage that follows, if any. -/
def InitStage.next : InitStage → Option InitStage
  | joinThreads => some resetSharedWakelock
  | resetSharedWakelock => some disableAllSensors
  | disableAllSensors => some clearPendingQueue
  | clearPendingQueue => some clearPendingSize
  | clearPendingSize => some clearDynamicSensors
  | clearDynamicSensors => some setDynamicSensorsCallback
  | setDynamicSensorsCallback => some setEventQueue
  | setEventQueue => some createEventFlags
  | createEventFlags => some setThreadsRun
  | setThreadsRun => some startThreads
  | startThreads => some initializeSubHals
  | initializeSubHals => some setOperationMode
  | setOperationMode => none

/-- `disableAllSensors`: deactivate every static, then every dynamic sensor. -/
def disableAllSensors (p : HalProxy ε) : HalProxy ε :=
  (p.mSensors.keys ++ p.mDynamicSensors.keys).foldl
    (fun p sensorHandle => afterRoute (p.activate sensorHandle false) p) p

/-- What one stage does to the proxy.  The two thread stages touch no field. -/
def initStage (args : InitializeArgs) (now : ℤ) (p : HalProxy ε) : InitStage → HalProxy ε
  | .joinThreads => p
  -- `mThreadsRun` is cleared by now.
  | .resetSharedWakelock => { p with wakelock := p.wakelock.resetSharedWakelock p.mThreadsRun now }
  | .disableAllSensors => p.disableAllSensors
  -- Neither of these two statements takes `mEventQueueWriteMutex`.
  | .clearPendingQueue =>
    { p with pendingWrites := { p.pendingWrites with mPendingWriteEventsQueue := [] } }
  | .clearPendingSize =>
    { p with pendingWrites := { p.pendingWrites with mSizePendingWriteEventsQueue := 0 } }
  | .clearDynamicSensors => { p with mDynamicSensors := ∅ }
  | .setDynamicSensorsCallback =>
    { p with mDynamicSensorsCallback := some args.sensorsCallback }
  | .setEventQueue => { p with eventQueue := ⟨args.quantumCount, []⟩ }
  | .createEventFlags =>
    { p with
      mEventQueueFlag := args.eventFlagCreated
      mWakelockQueueFlag := args.wakelockFlagCreated }
  | .setThreadsRun => { p with mThreadsRun := true }
  | .startThreads => p
  | .initializeSubHals =>
    { p with mSubHalList := p.mSubHalList.map fun subHal => subHal.initializeSubHal.2 }
  | .setOperationMode => { p with mCurrentOperationMode := .normal }

/-- The stages, in order. -/
def InitStage.all : List InitStage :=
  [.joinThreads, .resetSharedWakelock, .disableAllSensors, .clearPendingQueue, .clearPendingSize,
    .clearDynamicSensors, .setDynamicSensorsCallback, .setEventQueue, .createEventFlags,
    .setThreadsRun, .startThreads, .initializeSubHals, .setOperationMode]

/-- `initializeCommon` without other threads, at the time `now`. -/
def initializeCommon (args : InitializeArgs) (now : ℤ) (p : HalProxy ε) : HalProxy ε :=
  InitStage.all.foldl (fun p stage => p.initStage args now stage) { p with mThreadsRun := false }

/-- The result of `initializeCommon`: the last failure of a sub-HAL, or else `BAD_VALUE` where an
event flag is missing. -/
def initializeResult (args : InitializeArgs) (p : HalProxy ε) : Result :=
  p.mSubHalList.foldl
    (fun result subHal =>
      if subHal.initializeSubHal.1 ≠ .ok then subHal.initializeSubHal.1 else result)
    (if args.eventFlagCreated && args.wakelockFlagCreated then .ok else .badValue)

end HalProxy

end OnePlus9
